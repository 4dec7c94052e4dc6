/-
  MoneyMovement/ServicePaths.lean
  ===============================
  **The services as steps**: what they share.

  For each command: a successful run is a sequence of steps, under any licence
  that covers what the command does.  This module has the idempotent shell
  around a command, the task queue, and the holding services with the undo
  window.
-/
import MoneyMovement.Licences

namespace MoneyMovement

open Txn

/-! ### The idempotent shell of a service -/

section Shell

variable {c : Ctx} {L : Licence} {s s' : Session}

/-- A record with this fingerprint stands under the key. -/
def Database.Recorded (db : Database) (triple : IdempotencyTriple) (f : String) : Prop :=
  ∃ row, db.idempotencyRecords.find? triple = some row ∧ row.requestFingerprint = f

/-- Whatever happens to a record, its fingerprint stays. -/
theorem Step.recorded {k k' : Config} {triple : IdempotencyTriple} {f : String}
    (hs : Step c L k k') (h : k.db.Recorded triple f) : k'.db.Recorded triple f := by
  obtain ⟨row, hrow, hf⟩ := h
  have hanswered : ∀ (t : IdempotencyTriple) (id : Ulid) (n : Nat) (b : Body) (now : Time),
      ∃ row', (k.db.idempotencyRecords.modifyAt t
        (SqlIdempotencyRepository.completedRow id n b now)
        (SqlIdempotencyRepository.triple_completedRow id n b now)).find? triple = some row' ∧
        row'.requestFingerprint = f := by
    intro t id n b now
    rw [Table.find?_modifyAt]
    split
    · rename_i ht
      rw [← ht, hrow]
      exact ⟨_, rfl, hf⟩
    · exact ⟨row, hrow, hf⟩
  cases hs
  case reserve => exact ⟨row, Table.find?_push_of_some hrow, hf⟩
  case answer => exact hanswered _ _ _ _ _
  case post => exact ⟨row, Table.find?_push_of_some hrow, hf⟩
  case repay => exact ⟨row, Table.find?_push_of_some hrow, hf⟩
  case finish => exact hanswered _ _ _ _ _
  all_goals exact ⟨row, hrow, hf⟩

theorem Steps.recorded {k k' : Config} {triple : IdempotencyTriple} {f : String}
    (hs : Steps c L k k') (h : k.db.Recorded triple f) : k'.db.Recorded triple f := by
  induction hs with
  | refl => exact h
  | tail _ hs ih => exact hs.recorded ih

/-- A keyed command that returned: its steps, and its fingerprint under its key. -/
structure CommandAnswered (c : Ctx) (L : Licence) (triple : IdempotencyTriple) (f : String)
    (s s' : Session) : Prop where
  steps : Steps c L ⟨.idle, s.db⟩ ⟨.idle, s'.db⟩
  recorded : s'.db.Recorded triple f

/-- The key was answered before, or it is reserved now. -/
theorem reserve_or_replay {triple : IdempotencyTriple} {f : String} {now : Time}
    {decision : IdempotencyDecision} {o : Option Body} {s₁ : Session}
    (h₁ : SqlIdempotencyRepository.reserve triple f now s = .ok decision s₁)
    (h₂ : replayBodyOrRaise decision s₁ = .ok o s') :
    (∃ b, o = some b) ∧ s'.db = s.db ∧ s.db.Recorded triple f ∨
      o = none ∧ s.db.idempotencyRecords.find? triple = none ∧ s'.db = { s.db with
        idempotencyRecords := s.db.idempotencyRecords.push
          (SqlIdempotencyRepository.processing triple f now) } := by
  rcases SqlIdempotencyRepository.reserve_ok h₁ with ⟨rfl, hn, e⟩ | ⟨rfl, row, hf, hd⟩
  · obtain ⟨rfl, rfl⟩ := pure_ok.1 h₂
    exact .inr ⟨rfl, hn, e⟩
  · rcases hd with ⟨rfl, -⟩ | ⟨hsame, -, rfl⟩ | ⟨-, -, rfl⟩
    · exact (raise_ok.1 h₂).elim
    · obtain ⟨rfl, rfl⟩ := pure_ok.1 h₂
      exact .inl ⟨⟨_, rfl⟩, rfl, row, hf, hsame⟩
    · exact (raise_ok.1 h₂).elim

theorem complete_step {d : Duty} {r : Option (TransferRow × Ulid)} {rs : List IdempotencyRow}
    {triple : IdempotencyTriple} {row : IdempotencyRow} {id : Ulid} {n : Nat} {b : Body} {now : Time}
    {u : Unit} (hl : L.answer row) (ht : row.triple = triple)
    (h : SqlIdempotencyRepository.complete triple id n b now s = .ok u s') :
    Steps c L ⟨⟨d, r, row :: rs⟩, s.db⟩ ⟨⟨d, r, rs⟩, s'.db⟩ := by
  subst ht
  rw [writeDb_ok h]
  exact .single (.answer row id n b now hl)

/-- A text that begins with something else is another text. -/
theorem append_ne_of_not_isPrefixOf {x y z : String} (h : x.toList.isPrefixOf z.toList = false) :
    x ++ y ≠ z := by
  intro he
  have : x.toList <+: z.toList := ⟨y.toList, by rw [← he, String.toList_append]⟩
  rw [← List.isPrefixOf_iff_prefix, h] at this
  cases this

/-- Endpoints of the API other than the transfers endpoint itself. -/
theorem answerable_of_isPrefixOf {triple : IdempotencyTriple} {f : String} {now : Time} (x y : String)
    (he : triple.endpoint = x ++ y) (hx : "POST:/".toList.isPrefixOf x.toList = true)
    (hn : x.toList.isPrefixOf TRANSFER_ENDPOINT.toList = false) :
    Answerable c (SqlIdempotencyRepository.processing triple f now) := by
  refine ⟨?_, ?_⟩
  · obtain ⟨rest, hrest⟩ := List.isPrefixOf_iff_prefix.1 hx
    refine ⟨String.ofList rest ++ y, ?_⟩
    show triple.endpoint = _
    rw [he, ← String.append_assoc]
    congr 1
    apply String.toList_inj.1
    simpa [String.toList_append] using hrest.symm
  · intro ht
    exact absurd (he.symm.trans ht) (append_ne_of_not_isPrefixOf hn)

/-- A service's command is a replay, or a reservation of a new key and what follows. -/
theorem shell_cases {α : Type} {triple : IdempotencyTriple} {f : String} {a : α}
    {k : Time → Option Body → Tx α}
    (h : (now c >>= fun t => SqlIdempotencyRepository.reserve triple f t >>= fun decision =>
      replayBodyOrRaise decision >>= k t) s = .ok a s') :
    ∃ now s₁, now = c.oracle.clock s.draws ∧
      (s.db.Recorded triple f ∧ (∃ b, s₁.db = s.db ∧ k now (some b) s₁ = .ok a s') ∨
        s.db.idempotencyRecords.find? triple = none ∧ s₁.db = { s.db with
          idempotencyRecords := s.db.idempotencyRecords.push
            (SqlIdempotencyRepository.processing triple f now) } ∧ k now none s₁ = .ok a s') := by
  obtain ⟨now, s₁, h₁, h⟩ := bind_ok.1 h
  obtain ⟨e₁, hnow⟩ := now_ok h₁
  obtain ⟨decision, s₂, h₂, h⟩ := bind_ok.1 h
  obtain ⟨o, s₃, h₃, h⟩ := bind_ok.1 h
  refine ⟨now, s₃, hnow, ?_⟩
  rcases reserve_or_replay h₂ h₃ with ⟨⟨b, rfl⟩, e, hrec⟩ | ⟨rfl, hn, e⟩
  · rw [e₁] at hrec
    exact .inl ⟨hrec, b, e.trans e₁, h⟩
  · rw [e₁] at hn e
    exact .inr ⟨hn, e, h⟩

/-- A service's command: replayed without a write, or reserved, run and answered. -/
theorem shell_answered {α : Type} {triple : IdempotencyTriple} {f : String} {a : α}
    {k : Time → Option Body → Tx α}
    (hreplay : ∀ now b s₁ s₂ x, k now (some b) s₁ = .ok x s₂ → s₁ = s₂)
    (hrun : ∀ row now s₁ s₂ x, now = c.oracle.clock s.draws →
      row = SqlIdempotencyRepository.processing triple f now →
      s₁.db = { s.db with idempotencyRecords := s.db.idempotencyRecords.push row } →
      k now none s₁ = .ok x s₂ →
      Steps c L ⟨⟨.none, none, [row]⟩, s₁.db⟩ ⟨.idle, s₂.db⟩)
    (h : (now c >>= fun t => SqlIdempotencyRepository.reserve triple f t >>= fun decision =>
      replayBodyOrRaise decision >>= k t) s = .ok a s') : CommandAnswered c L triple f s s' := by
  obtain ⟨now, s₁, hnow, ⟨hrec, b, e, hk⟩ | ⟨hn, e, hk⟩⟩ := shell_cases h
  · obtain rfl := hreplay _ _ _ _ _ hk
    rw [← e] at hrec
    exact ⟨by rw [e], hrec⟩
  · have hres : Steps c L ⟨.idle, s.db⟩ ⟨⟨.none, none, [_]⟩, _⟩ :=
      .single (.reserve triple f now hn)
    rw [← e] at hres
    have hrest := hrun _ now s₁ s' a hnow rfl e hk
    refine ⟨hres.trans hrest, hrest.recorded ?_⟩
    rw [e]
    exact ⟨_, Table.find?_push_self hn, rfl⟩

end Shell

/-! ### The task queue -/

section Tasks

variable {c : Ctx} {L : Licence} {g : Progress} {s s' : Session}

theorem SqlScheduledTaskRepository.schedule_steps {type : TaskType} {id : Ulid} {delay : Nat}
    {u : Unit}
    (hl : ∀ t : TaskRow, t.taskType = type → t.resourceId = id →
      t.dueAt = c.oracle.dbNow + Time.seconds delay → L.task s.db t)
    (h : SqlScheduledTaskRepository.schedule c type id delay s = .ok u s') :
    Steps c L ⟨g, s.db⟩ ⟨g, s'.db⟩ := by
  obtain ⟨taskId, s₁, h₁, h⟩ := bind_ok.1 h
  have e₁ := newUlid_ok h₁
  obtain ⟨b, s₂, h₂, h⟩ := bind_ok.1 h
  obtain ⟨hany, rfl⟩ := readDb_ok.1 h₂
  split at h
  · obtain ⟨-, rfl⟩ := pure_ok.1 h
    rw [e₁]
  · obtain ⟨hn, -, e₂⟩ := insertInto_ok h
    rw [e₁] at hn e₂
    rw [e₂]
    rename_i hb
    refine .single (.tasks _ (.schedule _ (hl _ rfl rfl rfl) hn ?_ rfl rfl))
    intro t ht
    rw [e₁] at hany
    rw [← hany, Bool.not_eq_true, List.any_eq_false] at hb
    simpa using hb t ht

/-- Two rows of one task, due at the same time. -/
structure TaskRow.Same (t t' : TaskRow) : Prop where
  id : t.id = t'.id
  type : t.taskType = t'.taskType
  resource : t.resourceId = t'.resourceId
  due : t.dueAt = t'.dueAt

/-- No task is added, and none is due at another time. -/
def TasksKept (db db' : Database) : Prop :=
  ∀ t ∈ db'.scheduledTasks.rows, ∃ t₀ ∈ db.scheduledTasks.rows, t₀.Same t

theorem TasksKept.of_eq {db db' : Database} (h : db'.scheduledTasks = db.scheduledTasks) :
    TasksKept db db' := by
  intro t ht
  exact ⟨t, h ▸ ht, rfl, rfl, rfl, rfl⟩

theorem TasksKept.trans {db₁ db₂ db₃ : Database} (h : TasksKept db₁ db₂) (k : TasksKept db₂ db₃) :
    TasksKept db₁ db₃ := by
  intro t ht
  obtain ⟨t₂, ht₂, h₂⟩ := k t ht
  obtain ⟨t₁, ht₁, h₁⟩ := h t₂ ht₂
  exact ⟨t₁, ht₁, h₁.id.trans h₂.id, h₁.type.trans h₂.type, h₁.resource.trans h₂.resource,
    h₁.due.trans h₂.due⟩

theorem tasksKept_update {db : Database} {q : TaskRow → Bool} {f : TaskRow → TaskRow}
    {hf : ∀ t, (f t).id = t.id} (hsame : ∀ t, TaskRow.Same t (f t)) :
    TasksKept db { db with scheduledTasks := db.scheduledTasks.update q f hf } := by
  intro t ht
  dsimp only at ht
  obtain ⟨t₀, ht₀, rfl⟩ := Table.mem_update.1 ht
  refine ⟨t₀, ht₀, ?_⟩
  split
  · exact hsame t₀
  · exact ⟨rfl, rfl, rfl, rfl⟩

theorem SqlScheduledTaskRepository.cancel_ok {type : TaskType} {id : Ulid} {u : Unit}
    (h : SqlScheduledTaskRepository.cancel c type id s = .ok u s') :
    TasksKept s.db s'.db ∧ s'.db.safepayEscrows = s.db.safepayEscrows := by
  rw [writeDb_ok h]
  exact ⟨tasksKept_update fun _ => ⟨rfl, rfl, rfl, rfl⟩, rfl⟩

theorem SqlScheduledTaskRepository.cancel_steps {type : TaskType} {id : Ulid} {u : Unit}
    (hr : ∀ t : TaskRow, t.taskType = type → t.resourceId = id → t.Retired s.db)
    (h : SqlScheduledTaskRepository.cancel c type id s = .ok u s') :
    Steps c L ⟨g, s.db⟩ ⟨g, s'.db⟩ := by
  rw [writeDb_ok h]
  refine .single (.tasks _ (.retire _ _ _ (fun _ => ⟨rfl, rfl, rfl⟩) ?_))
  intro t _ hq
  rw [Bool.and_eq_true] at hq
  obtain ⟨htype, hid⟩ := of_decide_eq_true hq.1
  exact hr t htype hid

theorem SqlScheduledTaskRepository.complete_ok {id : Ulid} {u : Unit}
    (h : SqlScheduledTaskRepository.complete c id s = .ok u s') :
    TasksKept s.db s'.db ∧ s'.db.safepayEscrows = s.db.safepayEscrows := by
  rw [writeDb_ok h]
  exact ⟨tasksKept_update fun _ => ⟨rfl, rfl, rfl, rfl⟩, rfl⟩

theorem SqlScheduledTaskRepository.complete_steps {id : Ulid} {u : Unit}
    (hr : ∀ t ∈ s.db.scheduledTasks.rows, t.id = id → t.Retired s.db)
    (h : SqlScheduledTaskRepository.complete c id s = .ok u s') :
    Steps c L ⟨g, s.db⟩ ⟨g, s'.db⟩ := by
  rw [writeDb_ok h]
  refine .single (.tasks _ (.retire _ _ _ (fun _ => ⟨rfl, rfl, rfl⟩) ?_))
  intro t ht hq
  exact hr t ht (of_decide_eq_true hq)

theorem SqlScheduledTaskRepository.recordFailure_ok {id : Ulid} {attempt max : Nat} {error : String}
    {u : Unit} (h : SqlScheduledTaskRepository.recordFailure c id attempt error max s = .ok u s') :
    (∀ t ∈ s'.db.scheduledTasks.rows, t.id ≠ id → t ∈ s.db.scheduledTasks.rows) ∧
      s'.db.safepayEscrows = s.db.safepayEscrows := by
  rw [writeDb_ok h]
  refine ⟨?_, rfl⟩
  intro t ht hid
  dsimp only [setTable] at ht
  obtain ⟨t₀, ht₀, rfl⟩ := Table.mem_modifyAt.1 ht
  by_cases heq : t₀.id = id
  · rw [if_pos heq] at hid
    exact absurd heq hid
  · rw [if_neg heq]
    exact ht₀

/-- A failed task was due, so its new due time is not before the old one. -/
theorem SqlScheduledTaskRepository.recordFailure_steps {id : Ulid} {attempt max : Nat}
    {error : String} {u : Unit}
    (hdue : ∀ t ∈ s.db.scheduledTasks.rows, t.id = id → t.dueAt ≤ c.oracle.dbNow)
    (h : SqlScheduledTaskRepository.recordFailure c id attempt error max s = .ok u s') :
    Steps c L ⟨g, s.db⟩ ⟨g, s'.db⟩ := by
  rw [writeDb_ok h]
  exact .single (.tasks _ (.fail id attempt max error hdue))

end Tasks

/-! ### Holds -/

section Holds

variable {c : Ctx} {L : Licence} {s s' : Session} (rs : List IdempotencyRow)

theorem SqlTransferRepository.tryTransitionStatus_ok {id : Ulid} {fromStatus toStatus : TransferStatus}
    {n : Nat} (hn : n = 1)
    (h : SqlTransferRepository.tryTransitionStatus c id fromStatus toStatus s = .ok n s') :
    ∃ t, s.db.transfers.find? id = some t ∧ t.status = fromStatus ∧ s'.db = { s.db with
      transfers := s.db.transfers.modifyAt id (TransferRow.latched toStatus c.oracle.dbNow)
        (TransferRow.id_latched toStatus c.oracle.dbNow) } := by
  obtain ⟨t, ht, hs, -, e⟩ := updateWhere_db h hn
  exact ⟨t, ht, by simpa using hs, e⟩

/-- Latch the hold, pay it out.  The leg is new, or it was posted before (a stray). -/
theorem HoldingService.settle_steps {hold : TransferRow} {ref : Reference}
    {fromStatus toStatus : TransferStatus} {account holding : Ulid} {amount : Money}
    {kind : TransferKind} {u : Ulid} {note req : Option String} {r : TransferResult}
    (d' : Posting → Duty) (hfrom : fromStatus = .pendingUndo ∨ fromStatus = .held)
    (hto : toStatus = .succeeded ∨ toStatus = .refunded) (hk : kind.isSettlementLeg = true)
    (hf : s.db.transfers.find? hold.id = some hold)
    (hpost : ∀ db p, p.cmd = legCommand c hold.id toStatus account holding amount kind u note req →
      db.safepayEscrows = s.db.safepayEscrows →
      db.transfers.find? hold.id = some (hold.latched toStatus c.oracle.dbNow) →
      L.post db (.pay hold.id fromStatus toStatus) p (d' p))
    (h : settle c hold.id ref fromStatus toStatus account holding amount kind u note req s =
      .ok r s') :
    hold.status = fromStatus ∧ s'.db.safepayEscrows = s.db.safepayEscrows ∧
      s'.db.scheduledTasks = s.db.scheduledTasks ∧
      s'.db.transfers.find? hold.id = some (hold.latched toStatus c.oracle.dbNow) ∧
      ((∃ p : Posting, p.cmd = legCommand c hold.id toStatus account holding amount kind u note req ∧
          r.transferId = p.transferId ∧
          Steps c L ⟨⟨.none, none, rs⟩, s.db⟩ ⟨⟨d' p, none, rs⟩, s'.db⟩) ∨
        ∀ escrows, Steps c L ⟨⟨.none, none, rs⟩, s.db⟩
          ⟨⟨.none, none, rs⟩, { s'.db with safepayEscrows := escrows }⟩) := by
  obtain ⟨n, s₁, h₁, h⟩ := bind_ok.1 h
  obtain ⟨_, s₂, h₂, hexec⟩ := bind_ok.1 h
  obtain ⟨hn, rfl⟩ := ensure_ok.1 h₂
  obtain ⟨t, ht, hs, e₁⟩ := SqlTransferRepository.tryTransitionStatus_ok hn h₁
  obtain rfl : hold = t := Option.some.inj (hf.symm.trans ht)
  subst hs
  have hlatch : Step c L ⟨⟨.none, none, rs⟩, s.db⟩ ⟨⟨.pay hold.id hold.status toStatus, none, rs⟩, _⟩ :=
    .latch hold toStatus c.oracle.dbNow hf hfrom hto
  rw [← e₁] at hlatch
  have hf₁ : s₁.db.transfers.find? hold.id = some (hold.latched toStatus c.oracle.dbNow) := by
    rw [e₁]
    dsimp only
    rw [Table.find?_modifyAt, if_pos rfl, hf]
    rfl
  rcases execute_ok hexec with ⟨e₂, -, row, hrow⟩ | ⟨p, hp⟩
  · refine ⟨rfl, ?_, ?_, ?_, .inr ?_⟩
    · rw [e₂, e₁]
    · rw [e₂, e₁]
    · rw [e₂]
      exact hf₁
    · intro escrows
      rw [e₂]
      exact (Relation.ReflTransGen.single hlatch).tail (.stray (.pay hrow hk rfl rfl) _ _ escrows)
  · refine ⟨rfl, ?_, ?_, hp.untouched.transfers _ _ hf₁, .inl ⟨p, hp.cmd_eq, ?_, ?_⟩⟩
    · rw [hp.untouched.escrows, e₁]
    · rw [hp.untouched.tasks, e₁]
    · rw [hp.result]
      rfl
    · have hl := hpost s₁.db p hp.cmd_eq (by rw [e₁]) hf₁
      exact (Relation.ReflTransGen.single hlatch).trans (hp.steps L _ _ rs hl)

/-! ### The undo window -/

theorem UndoableTransferService.startClock_steps {g : Progress} {r : TransferResult} {u : Unit}
    (hl : ∀ db t, t.taskType = .undoSettle → L.task db t)
    (h : UndoableTransferService.startClock c r s = .ok u s') :
    Steps c L ⟨g, s.db⟩ ⟨g, s'.db⟩ := by
  unfold UndoableTransferService.startClock at h
  split at h
  · obtain ⟨-, rfl⟩ := pure_ok.1 h
    exact .refl
  · exact SqlScheduledTaskRepository.schedule_steps (fun t ht _ _ => hl _ t ht) h

theorem UndoableTransferService.send_steps {d : Duty} {u account receiver v : Ulid} {amount : Money}
    {key : String} {note req : Option String} {r : TransferResult} (hc : L.Covers c .undoHold)
    (hl : ∀ db t, t.taskType = .undoSettle → L.task db t) (ho : s.db.OwnedBy account u)
    (hr : s.db.OwnedBy receiver v)
    (h : UndoableTransferService.send c u account receiver amount key note req
      UndoableTransferService.UNDO_HOLD_ENDPOINT s = .ok r s') :
    Steps c L ⟨⟨d, none, rs⟩, s.db⟩ ⟨⟨d, none, rs⟩, s'.db⟩ := by
  obtain ⟨hold, s₁, h₁, h⟩ := bind_ok.1 h
  obtain ⟨_, s₂, h₂, h⟩ := bind_ok.1 h
  obtain ⟨rfl, rfl⟩ := pure_ok.1 h
  have hclock : Steps c L ⟨⟨d, none, rs⟩, _⟩ _ := UndoableTransferService.startClock_steps hl h₂
  rcases execute_ok h₁ with ⟨e₁, -, -⟩ | ⟨p, hp⟩
  · exact e₁ ▸ hclock
  · have hw := hc s.db d p d (by rw [hp.cmd_eq]; rfl) (.undoHold hp.cmd_eq ho hr)
    exact (hp.steps L d d rs hw).trans hclock

theorem UndoableTransferService.requireHold_ok {id : Ulid} {hold : TransferRow}
    (h : UndoableTransferService.requireHold id s = .ok hold s') :
    s = s' ∧ s.db.transfers.find? id = some hold ∧ hold.kind = .undoHold ∧
      hold.status = .pendingUndo := by
  obtain ⟨o, s₁, h₁, h⟩ := bind_ok.1 h
  obtain ⟨rfl, rfl⟩ := readDb_ok.1 h₁
  obtain ⟨hold', s₂, h₂, h⟩ := bind_ok.1 h
  obtain ⟨ho, rfl⟩ := orRaise_ok.1 h₂
  obtain ⟨_, s₃, h₃, h⟩ := bind_ok.1 h
  obtain ⟨hs, rfl⟩ := ensure_ok.1 h₃
  obtain ⟨rfl, rfl⟩ := pure_ok.1 h
  rw [Option.filter_eq_some_iff] at ho
  exact ⟨rfl, ho.1, by simpa using ho.2, hs⟩

/-- The leg of an undo hold, in either direction. -/
theorem UndoableTransferService.leg_steps {hold : TransferRow} {ref : Reference}
    {toStatus : TransferStatus} {account u : Ulid} {note req : Option String} {r : TransferResult}
    (hto : toStatus = .succeeded ∨ toStatus = .refunded) (hp : PaidTo hold toStatus account)
    (hc : L.Covers c (undoLegKind toStatus)) (hf : s.db.transfers.find? hold.id = some hold)
    (h : HoldingService.settle c hold.id ref .pendingUndo toStatus account
      PENDING_SETTLEMENT_ACCOUNT_ID (.fromMinor hold.amountMinor) (undoLegKind toStatus) u note req s =
        .ok r s') :
    Steps c L ⟨⟨.none, none, rs⟩, s.db⟩ ⟨⟨.none, none, rs⟩, s'.db⟩ ∧
      s'.db.safepayEscrows = s.db.safepayEscrows ∧ s'.db.scheduledTasks = s.db.scheduledTasks ∧
      s'.db.transfers.find? hold.id = some (hold.latched toStatus c.oracle.dbNow) := by
  have hk : (undoLegKind toStatus).isSettlementLeg = true := by
    rcases hto with rfl | rfl <;> rfl
  obtain ⟨-, he, ht, hlatched, hsteps⟩ := HoldingService.settle_steps rs (fun _ => .none)
    (.inl rfl) hto hk hf (by
      intro db p hcmd _ hlatched
      have hw : Warrant c db p (.pay (hold.latched toStatus c.oracle.dbNow).id .pendingUndo toStatus)
        .none := .undoLeg hcmd hlatched hp
      exact hc _ _ _ _ (by rw [hcmd]; rfl) hw) h
  refine ⟨?_, he, ht, hlatched⟩
  rcases hsteps with ⟨p, -, -, hsteps⟩ | hsteps
  · exact hsteps
  · exact hsteps s'.db.safepayEscrows

theorem UndoableTransferService.undo_answered {id u : Ulid} {key : String} {req : Option String}
    {b : Body} (hc : L.Covers c .undoRefund) (ha : ∀ row, Answerable c row → L.answer row)
    (h : UndoableTransferService.undo c id u key req s = .ok b s') :
    CommandAnswered c L ⟨u, UndoableTransferService.undoEndpoint id, key⟩
      (fingerprintRequest c [("transferId", .str id.text)]) s s' := by
  unfold UndoableTransferService.undo at h
  refine shell_answered ?_ ?_ h
  · intro now b s₁ s₂ x hr
    exact (pure_ok.1 hr).2
  intro row now s₁ s₂ x _ hrow e₁ hrun
  obtain ⟨hold, s₃, h₃, hrun⟩ := bind_ok.1 hrun
  obtain ⟨rfl, hf, -, -⟩ := UndoableTransferService.requireHold_ok h₃
  obtain ⟨sender, s₄, h₄, hrun⟩ := bind_ok.1 hrun
  obtain ⟨-, rfl⟩ := readDb_ok.1 h₄
  obtain ⟨_, s₅, h₅, hrun⟩ := bind_ok.1 hrun
  obtain ⟨-, rfl⟩ := ensure_ok.1 h₅
  obtain ⟨settlement, s₆, h₆, hrun⟩ := bind_ok.1 hrun
  obtain ⟨_, s₇, h₇, hrun⟩ := bind_ok.1 hrun
  obtain ⟨_, s₈, h₈, hrun⟩ := bind_ok.1 hrun
  obtain ⟨rfl, rfl⟩ := pure_ok.1 hrun
  have hid : hold.id = id := Table.key_of_find? hf
  have hleg := UndoableTransferService.leg_steps [row] (.inr rfl) (.inr ⟨rfl, rfl⟩) hc (hid ▸ hf) h₆
  subst hrow
  refine (hleg.1.trans (SqlScheduledTaskRepository.cancel_steps ?_ h₇)).trans
    (complete_step (ha _ ?_) rfl h₈)
  · rintro ⟨_, _, _⟩ rfl rfl x hx
    rw [hleg.2.2.2] at hx
    cases hx
    exact TransferStatus.noConfusion
  exact answerable_of_isPrefixOf "POST:/api/v1/transfers/" (id.text ++ "/undo")
    String.append_assoc (by decide) (by decide)

theorem UndoableTransferService.settle_steps {id : Ulid} {o : Option TransferResult}
    (hc : L.Covers c .undoSettle) (h : UndoableTransferService.settle c id s = .ok o s') :
    Steps c L ⟨⟨.none, none, rs⟩, s.db⟩ ⟨⟨.none, none, rs⟩, s'.db⟩ ∧
      s'.db.safepayEscrows = s.db.safepayEscrows ∧ s'.db.scheduledTasks = s.db.scheduledTasks ∧
      ∀ hold, s'.db.transfers.find? id = some hold → hold.status ≠ .pendingUndo := by
  unfold UndoableTransferService.settle at h
  obtain ⟨found, s₁, h₁, h⟩ := bind_ok.1 h
  obtain ⟨hf, rfl⟩ := readDb_ok.1 h₁
  cases found with
  | none =>
    obtain ⟨-, rfl⟩ := pure_ok.1 h
    refine ⟨.refl, rfl, rfl, ?_⟩
    intro hold hhold
    rw [hf] at hhold
    cases hhold
  | some hold =>
    dsimp only at h
    split at h
    · rename_i hstatus
      obtain ⟨-, rfl⟩ := pure_ok.1 h
      refine ⟨.refl, rfl, rfl, ?_⟩
      intro x hx
      rw [hf] at hx
      cases hx
      exact hstatus
    · obtain ⟨receiver, s₂, h₂, h⟩ := bind_ok.1 h
      obtain ⟨hr, rfl⟩ := orRaise_ok.1 h₂
      obtain ⟨actor, s₃, h₃, h⟩ := bind_ok.1 h
      obtain ⟨-, rfl⟩ := orRaise_ok.1 h₃
      obtain ⟨settlement, s₄, h₄, h⟩ := bind_ok.1 h
      obtain ⟨-, rfl⟩ := pure_ok.1 h
      have hid : hold.id = id := Table.key_of_find? hf
      obtain ⟨hsteps, he, ht, hlatched⟩ :=
        UndoableTransferService.leg_steps rs (.inl rfl) (.inl ⟨rfl, hr⟩) hc (hid ▸ hf) h₄
      refine ⟨hsteps, he, ht, ?_⟩
      intro x hx
      rw [← hid, hlatched] at hx
      cases hx
      exact TransferStatus.noConfusion

end Holds

end MoneyMovement

/-
  MoneyMovement/Timers.lean
  =========================
  **No timer is lost.**

  A hold in its undo window and a delivered escrow are settled by a row of
  `scheduled_tasks` and by nothing else.  `Database.Timed` says that the row is
  there, that there is one of it, and that it is still to be worked off.  Two
  requests set a timer, a send and a courier event, and for a moment inside
  their transactions it is missing; every other transaction keeps what it found.
-/
import MoneyMovement.Settlement
import MoneyMovement.SendSpec

namespace MoneyMovement

open Txn

open SqlScheduledTaskRepository (isFor)

/-! ### What a timer waits for -/

/-- The parcel has got as far as the buyer. -/
def EscrowStatus.pastShipment : EscrowStatus → Bool
  | .awaitingShipment | .shipped => false
  | _ => true

/-- The row the task is for exists, and a timer of an escrow comes after the delivery. -/
def TaskRow.Known (db : Database) (t : TaskRow) : Prop :=
  match t.taskType with
  | .undoSettle => ∃ hold, db.transfers.find? t.resourceId = some hold
  | .escrowAutoRelease => ∃ e, db.safepayEscrows.find? t.resourceId = some e ∧
      e.status.pastShipment = true
  | .linkExpiry | .moneyRequestExpiry => True

/-- The task will be claimed when due, or is parked for an operator. -/
def TaskStatus.live : TaskStatus → Bool
  | .pending | .failed => true
  | .done | .cancelled => false

/-- What holds of the queue at every point of a transaction. -/
structure Database.Queued (db : Database) : Prop where
  single : ∀ t ∈ db.scheduledTasks.rows, ∀ t' ∈ db.scheduledTasks.rows,
    isFor t.taskType t.resourceId t' = true → t' = t
  known : ∀ t ∈ db.scheduledTasks.rows, t.Known db
  live_or_over : ∀ t ∈ db.scheduledTasks.rows, t.status.live = true ∨ t.Retired db

/-- What holds of it between transactions. -/
structure Database.Timed (db : Database) : Prop extends db.Queued where
  holds : ∀ hold ∈ db.transfers.rows, hold.status = .pendingUndo →
    ∃ t ∈ db.scheduledTasks.rows, isFor .undoSettle hold.id t = true
  deliveries : ∀ e ∈ db.safepayEscrows.rows, e.status = .delivered →
    ∃ t ∈ db.scheduledTasks.rows, isFor .escrowAutoRelease e.id t = true

theorem isFor_iff {type : TaskType} {id : Ulid} {t : TaskRow} :
    isFor type id t = true ↔ t.taskType = type ∧ t.resourceId = id := decide_eq_true_iff

/-- Every task of the first queue is in the second, as far as what it is for. -/
def TasksIn (tasks tasks' : Table TaskRow.id) : Prop :=
  ∀ t ∈ tasks.rows, ∃ t' ∈ tasks'.rows, isFor t.taskType t.resourceId t' = true

theorem TasksIn.refl (tasks : Table TaskRow.id) : TasksIn tasks tasks :=
  fun t ht => ⟨t, ht, isFor_iff.2 ⟨rfl, rfl⟩⟩

theorem TasksIn.timer {tasks tasks' : Table TaskRow.id} (h : TasksIn tasks tasks') {type : TaskType}
    {id : Ulid} (ht : ∃ t ∈ tasks.rows, isFor type id t = true) :
    ∃ t ∈ tasks'.rows, isFor type id t = true := by
  obtain ⟨t, ht, hfor⟩ := ht
  obtain ⟨t', ht', hfor'⟩ := h t ht
  obtain ⟨htype, hres⟩ := isFor_iff.1 hfor
  rw [htype, hres] at hfor'
  exact ⟨t', ht', hfor'⟩

theorem TasksIn.trans {tasks tasks' tasks'' : Table TaskRow.id} (h : TasksIn tasks tasks')
    (h' : TasksIn tasks' tasks'') : TasksIn tasks tasks'' := fun t ht => h'.timer (h t ht)

/-! ### Writes to the queue -/

section Queue

variable {db : Database}

/-- Rows that change but not what they are for: each stays live, or its wait is over. -/
theorem Database.Queued.update (h : db.Queued) {q : TaskRow → Bool} {f : TaskRow → TaskRow}
    {hid : ∀ t, (f t).id = t.id}
    (hfor : ∀ t, isFor t.taskType t.resourceId (f t) = true)
    (hlive : ∀ t ∈ db.scheduledTasks.rows, q t = true → (f t).status.live = true ∨ t.Retired db) :
    { db with scheduledTasks := db.scheduledTasks.update q f hid }.Queued ∧
      TasksIn db.scheduledTasks (db.scheduledTasks.update q f hid) ∧
      TasksIn (db.scheduledTasks.update q f hid) db.scheduledTasks := by
  have hrow : ∀ t, isFor t.taskType t.resourceId (if q t then f t else t) = true := by
    intro t
    split
    · exact hfor t
    · exact isFor_iff.2 ⟨rfl, rfl⟩
  refine ⟨⟨?_, ?_, ?_⟩, ?_, ?_⟩
  · intro t ht t' ht' hsame
    dsimp only at ht ht'
    obtain ⟨x, hx, rfl⟩ := Table.mem_update.1 ht
    obtain ⟨y, hy, rfl⟩ := Table.mem_update.1 ht'
    obtain ⟨htype, hres⟩ := isFor_iff.1 (hrow x)
    obtain ⟨htype', hres'⟩ := isFor_iff.1 (hrow y)
    rw [isFor_iff, htype, hres, htype', hres'] at hsame
    rw [h.single x hx y hy (isFor_iff.2 hsame)]
  · intro t ht
    dsimp only at ht
    obtain ⟨x, hx, rfl⟩ := Table.mem_update.1 ht
    obtain ⟨htype, hres⟩ := isFor_iff.1 (hrow x)
    have hknown := h.known x hx
    unfold TaskRow.Known at hknown ⊢
    rw [htype, hres]
    exact hknown
  · intro t ht
    dsimp only at ht
    obtain ⟨x, hx, rfl⟩ := Table.mem_update.1 ht
    have hover : x.Retired db → (f x).Retired db := by
      obtain ⟨htype, hres⟩ := isFor_iff.1 (hfor x)
      unfold TaskRow.Retired
      rw [htype, hres]
      exact id
    split
    · rename_i hq
      exact (hlive x hx hq).imp_right hover
    · exact h.live_or_over x hx
  · exact fun t ht => ⟨_, Table.mem_update.2 ⟨t, ht, rfl⟩, hrow t⟩
  · intro t ht
    obtain ⟨x, hx, rfl⟩ := Table.mem_update.1 ht
    obtain ⟨htype, hres⟩ := isFor_iff.1 (hrow x)
    exact ⟨x, hx, isFor_iff.2 ⟨htype.symm, hres.symm⟩⟩

/-- A timer that is set where none was. -/
theorem Database.Queued.push (h : db.Queued) {t : TaskRow}
    (hf : db.scheduledTasks.find? t.id = none)
    (hnew : ∀ x ∈ db.scheduledTasks.rows, isFor t.taskType t.resourceId x = false)
    (hknown : t.Known db) (hlive : t.status.live = true) :
    { db with scheduledTasks := db.scheduledTasks.push t }.Queued := by
  refine ⟨?_, ?_, ?_⟩
  · intro x hx y hy hfor
    rcases (Table.mem_push hf).1 hx with hx₀ | rfl
    · rcases (Table.mem_push hf).1 hy with hy₀ | rfl
      · exact h.single x hx₀ y hy₀ hfor
      · obtain ⟨htype, hres⟩ := isFor_iff.1 hfor
        exact absurd (hnew x hx₀) (by rw [isFor_iff.2 ⟨htype.symm, hres.symm⟩]; decide)
    · rcases (Table.mem_push hf).1 hy with hy₀ | rfl
      · exact absurd (hnew y hy₀) (by rw [hfor]; decide)
      · rfl
  · intro x hx
    rcases (Table.mem_push hf).1 hx with hx₀ | rfl
    · exact h.known x hx₀
    · exact hknown
  · intro x hx
    rcases (Table.mem_push hf).1 hx with hx₀ | rfl
    · exact h.live_or_over x hx₀
    · exact .inl hlive

end Queue

/-! ### One step -/

section Steps

variable {c : Ctx} {L : Licence} {k k' : Config} {db₀ : Database}

/-- A transfer out of its undo window does not get back into it. -/
theorem Step.out_of_window (hs : Step c L k k') {id : Ulid} {hold : TransferRow}
    (hf : k.db.transfers.find? id = some hold) (hst : hold.status ≠ .pendingUndo) :
    ∃ hold', k'.db.transfers.find? id = some hold' ∧ hold'.status ≠ .pendingUndo := by
  cases hs
  case post => exact ⟨hold, Table.find?_push_of_some hf, hst⟩
  case repay => exact ⟨hold, Table.find?_push_of_some hf, hst⟩
  case latch toStatus now hx _ hto =>
    dsimp only at hf ⊢
    rw [Table.find?_modifyAt]
    split
    · rename_i hid
      rw [← hid, hf]
      refine ⟨_, rfl, ?_⟩
      rcases hto with rfl | rfl <;> exact TransferStatus.noConfusion
    · exact ⟨hold, hf, hst⟩
  all_goals exact ⟨hold, hf, hst⟩

/-- The licence takes the escrow no way but on from its delivery. -/
def Licence.Closing (L : Licence) (id : Ulid) : Prop :=
  ∀ status, L.escrow id status → status.pastShipment = true ∧ status ≠ .delivered

/-- A task whose wait is over stays so. -/
theorem Step.retired (hs : Step c L k k')
    (hstray : k.progress.repaying = none → ¬Stray k.db k.progress.duty) {t : TaskRow}
    (hmoves : t.taskType = .escrowAutoRelease → L.Closing t.resourceId) (hknown : t.Known k.db)
    (h : t.Retired k.db) : t.Retired k'.db := by
  unfold TaskRow.Known at hknown
  unfold TaskRow.Retired at h ⊢
  cases htype : t.taskType <;> simp only [htype] at h hknown hmoves ⊢
  case undoSettle =>
    obtain ⟨hold, hf⟩ := hknown
    obtain ⟨hold', hf', hst'⟩ := hs.out_of_window hf (h hold hf)
    intro x hx
    obtain rfl := Option.some.inj (hf'.symm.trans hx)
    exact hst'
  case escrowAutoRelease =>
    obtain ⟨e, he, -⟩ := hknown
    obtain ⟨e', he', hmoved⟩ := (hs.escrowMoves hstray).kept _ _ he
    have hid : e.id = t.resourceId := Table.key_of_find? he
    intro x hx
    obtain rfl := Option.some.inj (he'.symm.trans hx)
    rcases hmoved with rfl | ⟨-, -, ⟨hsame, -⟩ | hl⟩
    · exact h _ he
    · rw [hsame]
      exact h _ he
    · exact (hmoves trivial _ (hid ▸ hl)).2

/-- The row a task is for stays, and its escrow is not sent off again. -/
theorem Step.known (hs : Step c L k k')
    (hstray : k.progress.repaying = none → ¬Stray k.db k.progress.duty) {t : TaskRow}
    (hmoves : t.taskType = .escrowAutoRelease → L.Closing t.resourceId) (h : t.Known k.db) :
    t.Known k'.db := by
  unfold TaskRow.Known at h ⊢
  cases htype : t.taskType <;> simp only [htype] at h hmoves ⊢
  case undoSettle =>
    obtain ⟨hold, hf⟩ := h
    obtain ⟨hold', hf', -⟩ := hs.grows.transfer _ _ hf
    exact ⟨hold', hf'⟩
  case escrowAutoRelease =>
    obtain ⟨e, he, hpast⟩ := h
    obtain ⟨e', he', hmoved⟩ := (hs.escrowMoves hstray).kept _ _ he
    have hid : e.id = t.resourceId := Table.key_of_find? he
    refine ⟨e', he', ?_⟩
    rcases hmoved with rfl | ⟨-, -, ⟨hsame, -⟩ | hl⟩
    · exact hpast
    · rw [hsame]
      exact hpast
    · exact (hmoves trivial _ (hid ▸ hl)).1

/-- A step that queues nothing keeps the queue in order. -/
theorem Step.queued (hs : Step c L k k')
    (hstray : k.progress.repaying = none → ¬Stray k.db k.progress.duty)
    (htask : ∀ db t, ¬L.task db t)
    (hmoves : ∀ t ∈ k.db.scheduledTasks.rows, t.taskType = .escrowAutoRelease →
      L.Closing t.resourceId)
    (h : k.db.Queued) : k'.db.Queued ∧ TasksIn k.db.scheduledTasks k'.db.scheduledTasks ∧
      TasksIn k'.db.scheduledTasks k.db.scheduledTasks := by
  have hknown : ∀ t ∈ k.db.scheduledTasks.rows, t.Known k'.db := fun t ht =>
    hs.known hstray (hmoves t ht) (h.known t ht)
  have hover : ∀ t ∈ k.db.scheduledTasks.rows, t.status.live = true ∨ t.Retired k'.db := fun t ht =>
    (h.live_or_over t ht).imp_right (hs.retired hstray (hmoves t ht) (h.known t ht))
  cases hs
  case tasks hmove =>
    cases hmove with
    | schedule row hl => exact absurd hl (htask _ _)
    | retire q f hid hsame hq =>
      exact h.update (fun t => isFor_iff.2 ⟨(hsame t).1, (hsame t).2.1⟩) fun t ht hqt =>
        .inr (hq t ht hqt)
    | fail id attempt maxAttempts error hdue =>
      refine h.update (fun t => isFor_iff.2 ⟨rfl, rfl⟩) fun t _ _ => .inl ?_
      dsimp only [SqlScheduledTaskRepository.failed]
      split <;> rfl
  all_goals exact ⟨⟨h.single, hknown, hover⟩, .refl _, .refl _⟩

/-- So does a transaction. -/
theorem Steps.queued {g : Progress} (hs : Steps c L ⟨g, db₀⟩ k) (hL : L.Sound c)
    (hinv : Invariant c.settings c.crypto ⟨g, db₀⟩) (htask : ∀ db t, ¬L.task db t)
    (hmoves : ∀ t ∈ db₀.scheduledTasks.rows, t.taskType = .escrowAutoRelease →
      L.Closing t.resourceId)
    (h : db₀.Queued) : k.db.Queued ∧ TasksIn db₀.scheduledTasks k.db.scheduledTasks ∧
      TasksIn k.db.scheduledTasks db₀.scheduledTasks := by
  refine hinv.steps_induction hs hL (P := fun k => k.db.Queued ∧
    TasksIn db₀.scheduledTasks k.db.scheduledTasks ∧ TasksIn k.db.scheduledTasks db₀.scheduledTasks)
    ⟨h, .refl _, .refl _⟩ ?_
  rintro k₁ k₂ hinv₁ hstep ⟨hq, hthere, hback⟩
  obtain ⟨hq', hthere', hback'⟩ := hstep.queued hinv₁.no_stray htask (by
    intro t ht htype
    obtain ⟨t₀, ht₀, hfor⟩ := hback t ht
    obtain ⟨htype₀, hres⟩ := isFor_iff.1 hfor
    exact hres ▸ hmoves t₀ ht₀ (htype₀.trans htype)) hq
  exact ⟨hq', hthere.trans hthere', hback'.trans hback⟩

/-- No hold comes into the undo window but by a licensed movement. -/
theorem Step.in_window (hs : Step c L k k') {hold : TransferRow} (hm : hold ∈ k'.db.transfers.rows)
    (hst : hold.status = .pendingUndo) :
    (∃ hold₀ ∈ k.db.transfers.rows, hold₀.id = hold.id ∧ hold₀.status = .pendingUndo) ∨
      ∃ db d p d', L.post db d p d' ∧ p.row = hold := by
  cases hs
  case post hv hl =>
    rcases (Table.mem_push hv.transfer_fresh).1 hm with hm₀ | rfl
    · exact .inl ⟨hold, hm₀, rfl, hst⟩
    · exact .inr ⟨_, _, _, _, hl, rfl⟩
  case repay hv hr =>
    rcases (Table.mem_push hv.transfer_fresh).1 hm with hm₀ | rfl
    · exact .inl ⟨hold, hm₀, rfl, hst⟩
    · exact absurd (hr.status.symm.trans hst) TransferStatus.noConfusion
  case latch hf _ hto =>
    dsimp only at hm
    rcases Table.mem_of_mem_modifyAt hf hm with ⟨hm₀, -⟩ | rfl
    · exact .inl ⟨hold, hm₀, rfl, hst⟩
    · rcases hto with rfl | rfl <;> cases hst
  all_goals exact .inl ⟨hold, hm, rfl, hst⟩

theorem Steps.in_window (hs : Steps c L k k') {hold : TransferRow} (hm : hold ∈ k'.db.transfers.rows)
    (hst : hold.status = .pendingUndo) :
    (∃ hold₀ ∈ k.db.transfers.rows, hold₀.id = hold.id ∧ hold₀.status = .pendingUndo) ∨
      ∃ db d p d', L.post db d p d' ∧ p.transferId = hold.id ∧ p.cmd.initialStatus = .pendingUndo := by
  induction hs generalizing hold with
  | refl => exact .inl ⟨hold, hm, rfl, hst⟩
  | tail _ hstep ih =>
    rcases hstep.in_window hm hst with ⟨x, hx, hid, hxs⟩ | ⟨db, d, p, d', hl, rfl⟩
    · rw [← hid]
      exact ih hx hxs
    · exact .inr ⟨db, d, p, d', hl, rfl, hst⟩

/-- No escrow is delivered but by a licensed event. -/
theorem Steps.delivered (hs : Steps c L k k') (hL : L.Sound c)
    (hinv : Invariant c.settings c.crypto k) {e : EscrowRow} (he : e ∈ k'.db.safepayEscrows.rows)
    (hst : e.status = .delivered) :
    L.escrow e.id .delivered ∨
      ∃ e₀ ∈ k.db.safepayEscrows.rows, e₀.id = e.id ∧ e₀.status = .delivered := by
  have hmoves := Steps.escrowMoves hs hL hinv
  have hf := Table.find?_of_mem he
  cases hf₀ : k.db.safepayEscrows.find? e.id with
  | none =>
    rcases hmoves.fresh _ _ hf₀ hf with hnew | hl
    · rw [hst] at hnew
      cases hnew
    · exact .inl (hst ▸ hl)
  | some e₀ =>
    have hid : e₀.id = e.id := Table.key_of_find? hf₀
    obtain ⟨x, hx, hmoved⟩ := hmoves.kept _ _ hf₀
    obtain rfl := Option.some.inj (hf.symm.trans hx)
    rcases hmoved with rfl | ⟨-, -, ⟨hsame, -⟩ | hl⟩
    · exact .inr ⟨_, Table.mem_of_find? hf₀, rfl, hst⟩
    · exact .inr ⟨_, Table.mem_of_find? hf₀, hid, hsame.symm.trans hst⟩
    · rw [hid, hst] at hl
      exact .inl hl

/-! ### Transactions that set no timer -/

/-- The licence of a transaction from `db₀` that opens no undo window and delivers nothing. -/
structure Licence.SetsNoTimer (L : Licence) (db₀ : Database) : Prop where
  task : ∀ db t, ¬L.task db t
  post : ∀ db d p d', L.post db d p d' → p.cmd.initialStatus ≠ .pendingUndo
  delivered : ∀ id, ¬L.escrow id .delivered
  escrow : ∀ id status, L.escrow id status → status.pastShipment = false →
    ∃ x, db₀.safepayEscrows.find? id = some x ∧ x.status.pastShipment = false

/-- An escrow with a timer only goes on from where it is. -/
theorem Database.Queued.closing {db : Database} (h : db.Queued)
    (hmoves : ∀ id status, L.escrow id status → status.pastShipment = false ∨ status = .delivered →
      ∃ x, db.safepayEscrows.find? id = some x ∧ x.status.pastShipment = false)
    {t : TaskRow} (ht : t ∈ db.scheduledTasks.rows) (htype : t.taskType = .escrowAutoRelease) :
    L.Closing t.resourceId := by
  have hknown := h.known t ht
  unfold TaskRow.Known at hknown
  simp only [htype] at hknown
  obtain ⟨e, he, hpast⟩ := hknown
  intro status hl
  by_contra hback
  have hback' : status.pastShipment = false ∨ status = .delivered := by
    rw [not_and_or, Bool.not_eq_true, not_not] at hback
    exact hback
  obtain ⟨x, hx, hnot⟩ := hmoves _ _ hl hback'
  obtain rfl := Option.some.inj (he.symm.trans hx)
  rw [hpast] at hnot
  cases hnot

theorem Database.Timed.of_eq {db db' : Database} (h : db.Timed) (ht : db'.transfers = db.transfers)
    (he : db'.safepayEscrows = db.safepayEscrows) (hq : db'.scheduledTasks = db.scheduledTasks) :
    db'.Timed := by
  have hsame : ∀ t : TaskRow, (t.Known db' ↔ t.Known db) ∧ (t.Retired db' ↔ t.Retired db) := by
    intro t
    unfold TaskRow.Known TaskRow.Retired
    rw [ht, he]
    exact ⟨Iff.rfl, Iff.rfl⟩
  refine ⟨⟨?_, ?_, ?_⟩, ?_, ?_⟩
  · rw [hq]
    exact h.single
  · rw [hq]
    exact fun t hm => (hsame t).1.2 (h.known t hm)
  · rw [hq]
    exact fun t hm => (h.live_or_over t hm).imp_right (hsame t).2.2
  · rw [ht, hq]
    exact h.holds
  · rw [he, hq]
    exact h.deliveries

/-- Such a transaction keeps every timer. -/
theorem Database.Timed.steps {g : Progress} (h : db₀.Timed) (hL : L.Sound c)
    (hno : L.SetsNoTimer db₀) (hinv : Invariant c.settings c.crypto ⟨g, db₀⟩)
    (hs : Steps c L ⟨g, db₀⟩ k) : k.db.Timed := by
  obtain ⟨hqueued, hthere, -⟩ := Steps.queued hs hL hinv hno.task (fun t ht => by
    refine h.closing (fun id status hl hback => ?_) ht
    rcases hback with hback | rfl
    · exact hno.escrow id status hl hback
    · exact absurd hl (hno.delivered id)) h.toQueued
  refine ⟨hqueued, ?_, ?_⟩
  · intro hold hm hst
    rcases Steps.in_window hs hm hst with ⟨hold₀, hm₀, hid, hst₀⟩ | ⟨_, _, _, _, hl, -, hst₀⟩
    · exact hid ▸ hthere.timer (h.holds hold₀ hm₀ hst₀)
    · exact absurd hst₀ (hno.post _ _ _ _ hl)
  · intro e he hst
    rcases Steps.delivered hs hL hinv he hst with hl | ⟨e₀, he₀, hid, hst₀⟩
    · exact absurd hl (hno.delivered _)
    · exact hid ▸ hthere.timer (h.deliveries e₀ he₀ hst₀)

/-- The requests that set a timer. -/
def Request.setsTimer : Request → Bool
  | .createTransfer .. | .courierWebhook .. => true
  | _ => false

/-- Of the movements only a hold of the undo window starts there. -/
theorem Warrant.initialStatus {db : Database} {p : Posting} {d d' : Duty} (h : Warrant c db p d d')
    (hk : p.cmd.kind ≠ .undoHold) : p.cmd.initialStatus ≠ .pendingUndo := by
  cases h with
  | undoHold hc => exact absurd (congrArg TransferCommand.kind hc) hk
  | grant hc | fund hc | escrowHold hc | draw hc | request hc | undoLeg hc | escrowLeg hc =>
    rw [hc]
    exact TransferStatus.noConfusion

theorem licence_setsNoTimer {req : Request} (h : req.setsTimer = false) (db : Database) :
    (licence c db req).SetsNoTimer db where
  task db' t hl := by
    change req.task c db db' t at hl
    cases req <;> try exact hl.elim
    case createTransfer | courierWebhook => cases h
  post db' d p d' hl := by
    refine hl.1.initialStatus fun hk => ?_
    have hposts := hl.2
    rw [hk] at hposts
    cases req
    case createTransfer => cases h
    all_goals cases hposts
  delivered id hl := by
    change req.escrow c db id .delivered at hl
    cases req <;> try exact hl.elim
    case courierWebhook => cases h
    case resolveSafepay => rcases hl.2.1 with ⟨-, hx⟩ | ⟨-, hx⟩ <;> cases hx
    case runDueTasks => cases hl.1
    case shipSafepay | releaseSafepayCode | confirmSafepayReceived | disputeSafepay => cases hl.2.1
  escrow id status hl hback := by
    change req.escrow c db id status at hl
    cases req <;> try exact hl.elim
    case courierWebhook => cases h
    case shipSafepay =>
      obtain ⟨rfl, -, x, hx, -, hst⟩ := hl
      exact ⟨x, hx, by rw [hst]; rfl⟩
    case resolveSafepay => rcases hl.2.1 with ⟨-, rfl⟩ | ⟨-, rfl⟩ <;> cases hback
    case runDueTasks =>
      obtain ⟨rfl, -⟩ := hl
      cases hback
    case releaseSafepayCode | confirmSafepayReceived | disputeSafepay =>
      obtain ⟨-, rfl, -⟩ := hl
      cases hback

end Steps

/-! ### Setting a timer -/

section Setting

variable {c : Ctx} {s s' : Session}

/-- What scheduling a task leaves behind. -/
structure TimerSet (type : TaskType) (id : Ulid) (db db' : Database) : Prop where
  queued : db'.Queued
  set : ∃ t ∈ db'.scheduledTasks.rows, isFor type id t = true
  kept : TasksIn db.scheduledTasks db'.scheduledTasks
  same : ∃ tasks, db' = { db with scheduledTasks := tasks }

theorem SqlScheduledTaskRepository.schedule_set {type : TaskType} {id : Ulid} {delay : Nat} {u : Unit}
    (hq : s.db.Queued) (hknown : ∀ t : TaskRow, t.taskType = type → t.resourceId = id → t.Known s.db)
    (h : schedule c type id delay s = .ok u s') : TimerSet type id s.db s'.db := by
  obtain ⟨taskId, s₁, h₁, h⟩ := bind_ok.1 h
  have e₁ := newUlid_ok h₁
  obtain ⟨b, s₂, h₂, h⟩ := bind_ok.1 h
  obtain ⟨hany, rfl⟩ := readDb_ok.1 h₂
  rw [e₁] at hany
  split at h
  · rename_i hb
    obtain ⟨-, rfl⟩ := pure_ok.1 h
    rw [← hany, List.any_eq_true] at hb
    rw [e₁]
    exact ⟨hq, hb, .refl _, _, rfl⟩
  · rename_i hb
    obtain ⟨hn, -, e₂⟩ := insertInto_ok h
    rw [e₁] at hn e₂
    rw [← hany, Bool.not_eq_true, List.any_eq_false] at hb
    rw [e₂]
    refine ⟨hq.push hn (fun t ht => ?_) (hknown _ rfl rfl) rfl, ⟨_, Table.mem_of_find? (Table.find?_push_self hn),
      isFor_iff.2 ⟨rfl, rfl⟩⟩, ?_, _, rfl⟩
    · exact Bool.not_eq_true _ ▸ hb t ht
    · exact fun t ht => ⟨t, Table.mem_push_of_mem ht, isFor_iff.2 ⟨rfl, rfl⟩⟩

/-- A licence to post draws. -/
def drawLicence (c : Ctx) : Licence :=
  ⟨fun db d p d' => p.cmd.kind = .overdraftDraw ∧ Warrant c db p d d', fun _ => False,
    fun _ _ => False, False, fun _ _ => False, fun _ _ => False⟩

/-- A licence to post one movement. -/
def postLicence (c : Ctx) (p₀ : Posting) : Licence :=
  ⟨fun db d p d' => p = p₀ ∧ Warrant c db p d d', fun _ => False, fun _ _ => False, False,
    fun _ _ => False, fun _ _ => False⟩

/-- A hold that a send makes has its timer. -/
theorem UndoableTransferService.send_timed {u account receiver v : Ulid} {amount : Money}
    {key : String} {note req : Option String} {r : TransferResult} {rs : List IdempotencyRow}
    (h : s.db.Timed) (hinv : Invariant c.settings c.crypto ⟨⟨.none, none, rs⟩, s.db⟩)
    (ho : s.db.OwnedBy account u) (hr : s.db.OwnedBy receiver v)
    (hrun : UndoableTransferService.send c u account receiver amount key note req
      UndoableTransferService.UNDO_HOLD_ENDPOINT s = .ok r s') : s'.db.Timed := by
  obtain ⟨hold, s₁, h₁, hrun⟩ := bind_ok.1 hrun
  obtain ⟨_, s₂, h₂, hrun⟩ := bind_ok.1 hrun
  obtain ⟨rfl, rfl⟩ := pure_ok.1 hrun
  unfold startClock at h₂
  rcases execute_ok h₁ with ⟨e₁, hreplayed, -⟩ | ⟨p, hp⟩
  · rw [if_pos hreplayed] at h₂
    obtain ⟨-, rfl⟩ := pure_ok.1 h₂
    exact e₁ ▸ h
  have hresult := hp.result
  have hfirst : hold.replayed = false := by rw [hresult]; rfl
  have hid : hold.transferId = p.transferId := by rw [hresult]; rfl
  rw [hfirst, hid] at h₂
  have hw : (postLicence c p).post s.db .none p .none := ⟨rfl, .undoHold hp.cmd_eq ho hr⟩
  have hL : (postLicence c p).Sound c := ⟨fun _ _ _ _ hl => hl.2, fun _ hl => hl.elim⟩
  have hsteps := hp.steps (postLicence c p) .none .none rs hw
  obtain ⟨hqueued, hthere, -⟩ := Steps.queued hsteps hL hinv (fun _ _ hl => hl)
    (fun t ht => h.closing (fun _ _ (hl : False) => hl.elim) ht) h.toQueued
  have hset := SqlScheduledTaskRepository.schedule_set hqueued (by
    rintro ⟨_, _, _⟩ rfl rfl
    exact ⟨_, hp.row⟩) h₂
  obtain ⟨tasks, he⟩ := hset.same
  refine ⟨hset.queued, ?_, ?_⟩
  · intro x hx hst
    have hx₁ : x ∈ s₁.db.transfers.rows := by
      rw [he] at hx
      exact hx
    rcases Steps.in_window hsteps hx₁ hst with ⟨x₀, hx₀, hxid, hst₀⟩ | ⟨_, _, p', _, ⟨rfl, -⟩, hxid, -⟩
    · exact hxid ▸ (hthere.trans hset.kept).timer (h.holds x₀ hx₀ hst₀)
    · rw [← hxid]
      exact hset.set
  · intro e hm hst
    have hm₀ : e ∈ s.db.safepayEscrows.rows := by
      rw [he] at hm
      rw [← hp.untouched.escrows]
      exact hm
    exact (hthere.trans hset.kept).timer (h.deliveries e hm₀ hst)

/-- So has the hold of a send that draws on Spot-Me first. -/
theorem Sending.timed {x : Sending} {v : Ulid} {body : Body} (h : s.db.Timed)
    (hinv : Invariant c.settings c.crypto ⟨.idle, s.db⟩) (ho : s.db.OwnedBy x.account x.user)
    (hr : s.db.OwnedBy x.receiver v) (hrun : x.run c s = .ok body s') : s'.db.Timed := by
  rcases Sending.run_ok hrun with he | ⟨hfirst, now, s₀, a, o, hold, s₁, s₂, s₃, e₀, hsend⟩
  · exact h.of_eq (by rw [he]) (by rw [he]) (by rw [he])
  obtain ⟨row, hinv₀⟩ := Sending.invariant_reserved (x := x) now hinv hfirst
  rw [← e₀, ← hsend.start] at hinv₀
  have e₁ : s₁.db = x.reserved c now s.db := hsend.start.trans e₀
  have htimed₁ : s₁.db.Timed := h.of_eq (by rw [e₁]; rfl) (by rw [e₁]; rfl) (by rw [e₁]; rfl)
  have howned : ∀ id u, s.db.OwnedBy id u → s₁.db.OwnedBy id u := by
    rintro id u ⟨b, hb, hrest⟩
    exact ⟨b, by rw [e₁]; exact hb, hrest⟩
  have hL : (drawLicence c).Sound c := ⟨fun _ _ _ _ hl => hl.2, fun _ hl => hl.elim⟩
  obtain ⟨locked, now', -, hcover⟩ := hsend.covers
  obtain ⟨hsteps, howned₂⟩ := OverdraftService.coverShortfall_steps (L := drawLicence c) [row]
    (fun _ _ _ _ hk hw => ⟨hk, hw⟩) (howned _ _ ho) hcover
  have htimed₂ : s₂.db.Timed := by
    refine htimed₁.steps hL ⟨fun _ _ hl => hl, ?_, fun _ hl => hl, fun _ _ hl => hl.elim⟩ hinv₀ hsteps
    rintro _ _ p _ ⟨hk, hw⟩
    exact hw.initialStatus (by rw [hk]; decide)
  have htimed₃ := UndoableTransferService.send_timed htimed₂ (hinv₀.steps hsteps hL)
    (howned₂ _ _ (howned _ _ ho)) (howned₂ _ _ (howned _ _ hr)) hsend.holds
  obtain ⟨_, _, _, he⟩ := hsend.answers
  exact htimed₃.of_eq (by rw [he]) (by rw [he]) (by rw [he])

/-- A licence to deliver one escrow, and to release it. -/
def deliverLicence (c : Ctx) (id : Ulid) : Licence :=
  ⟨fun db d p d' => p.cmd.kind = .escrowRelease ∧ Warrant c db p d d', fun _ => False,
    fun e status => e = id ∧ (status = .delivered ∨ status = .released), False, fun _ _ => False,
    fun _ _ => False⟩

theorem deliverLicence_sound (c : Ctx) (id : Ulid) : (deliverLicence c id).Sound c :=
  ⟨fun _ _ _ _ hl => hl.2, fun _ hl => hl.elim⟩

/-- What is left to find out, after a delivery: the timer of the delivered escrow. -/
theorem deliverLicence_timers {k : Config} {rs : List IdempotencyRow} {e : EscrowRow} (h : s.db.Timed)
    (hinv : Invariant c.settings c.crypto ⟨⟨.none, none, rs⟩, s.db⟩)
    (he : s.db.safepayEscrows.find? e.id = some e) (hship : e.status = .shipped)
    (hs : Steps c (deliverLicence c e.id) ⟨⟨.none, none, rs⟩, s.db⟩ k) :
    k.db.Queued ∧
      (∀ hold ∈ k.db.transfers.rows, hold.status = .pendingUndo →
        ∃ t ∈ k.db.scheduledTasks.rows, isFor .undoSettle hold.id t = true) ∧
      ∀ x ∈ k.db.safepayEscrows.rows, x.status = .delivered → x.id = e.id ∨
        ∃ t ∈ k.db.scheduledTasks.rows, isFor .escrowAutoRelease x.id t = true := by
  obtain ⟨hqueued, hthere, -⟩ := Steps.queued hs (deliverLicence_sound c e.id) hinv
    (fun _ _ hl => hl) (fun t ht => h.closing (by
      rintro _ status ⟨rfl, -⟩ -
      exact ⟨e, he, by rw [hship]; rfl⟩) ht) h.toQueued
  refine ⟨hqueued, ?_, ?_⟩
  · intro hold hm hst
    rcases Steps.in_window hs hm hst with ⟨x, hx, hxid, hxs⟩ | ⟨_, _, p, _, ⟨hk, hw⟩, -, hp⟩
    · exact hxid ▸ hthere.timer (h.holds x hx hxs)
    · exact absurd hp (hw.initialStatus (by rw [hk]; decide))
  · intro x hx hst
    rcases Steps.delivered hs (deliverLicence_sound c e.id) hinv hx hst with
      ⟨hxid, -⟩ | ⟨y, hy, hyid, hys⟩
    · exact .inl hxid
    · exact .inr (hyid ▸ hthere.timer (h.deliveries y hy hys))

/-- An escrow that is delivered now has its timer, unless it is released at once. -/
theorem SafePayService.deliver_timed {e : EscrowRow} {courier : String} {releaseNow : Bool}
    {now : Time} {b : Body} {rs : List IdempotencyRow} (h : s.db.Timed)
    (hinv : Invariant c.settings c.crypto ⟨⟨.none, none, rs⟩, s.db⟩)
    (hrun : deliver c e courier releaseNow now s = .ok b s') : s'.db.Timed := by
  obtain ⟨n, s₁, h₁, hrun⟩ := bind_ok.1 hrun
  obtain ⟨_, s₂, h₂, hrun⟩ := bind_ok.1 hrun
  obtain ⟨hn, rfl⟩ := ensure_ok.1 h₂
  obtain ⟨e₀, f, hid, he₀, hship, hdel, hsettled, hdeal, e₁⟩ :=
    SqlSafePayRepository.markDelivered_ok hn h₁
  have hid₀ : e₀.id = e.id := Table.key_of_find? he₀
  rw [← hid₀] at he₀ e₁
  have hmark : Steps c (deliverLicence c e₀.id) ⟨⟨.none, none, rs⟩, s.db⟩
      ⟨⟨.none, none, rs⟩, s₁.db⟩ := by
    rw [e₁]
    refine .single (.escrow e₀ f hsettled hid he₀ ?_ ?_ hdeal (.inr ⟨rfl, .inl hdel⟩))
    · rw [hship]
      rfl
    · rw [hdel]
      rfl
  obtain ⟨found, s₃, h₃, hrun⟩ := bind_ok.1 hrun
  obtain ⟨rfl, rfl⟩ := readDb_ok.1 h₃
  obtain ⟨e', s₄, h₄, hrun⟩ := bind_ok.1 hrun
  obtain ⟨he', rfl⟩ := orRaise_ok.1 h₄
  have hid' : e'.id = e₀.id := (Table.key_of_find? he').trans hid₀.symm
  rw [← hid₀, ← hid'] at he'
  split at hrun
  · obtain ⟨hrest, -, -, hreleased⟩ := SafePayService.releaseLocked_steps (L := deliverLicence c e₀.id)
      rs (fun _ _ _ _ hk hw => ⟨hk, hw⟩) ⟨hid', .inr rfl⟩ he' hrun
    obtain ⟨hqueued, hholds, hdelivered⟩ := deliverLicence_timers h hinv he₀ hship (hmark.trans hrest)
    refine ⟨hqueued, hholds, fun x hx hst => (hdelivered x hx hst).resolve_left fun hxid => ?_⟩
    have hrel := hreleased x (hid'.trans hxid.symm ▸ Table.find?_of_mem hx)
    rw [hst] at hrel
    cases hrel
  · obtain ⟨_, s₅, h₅, hrun⟩ := bind_ok.1 hrun
    obtain ⟨-, rfl⟩ := pure_ok.1 hrun
    obtain ⟨hqueued, hholds, hdelivered⟩ := deliverLicence_timers h hinv he₀ hship hmark
    have hset := SqlScheduledTaskRepository.schedule_set hqueued (by
      rintro ⟨_, _, _⟩ rfl rfl
      refine ⟨f e₀, ?_, by rw [hdel]; rfl⟩
      rw [e₁, hid']
      dsimp only
      rw [Table.find?_modifyAt, if_pos rfl, he₀]
      rfl) h₅
    obtain ⟨tasks, he⟩ := hset.same
    refine ⟨hset.queued, ?_, ?_⟩
    · intro hold hm hst
      rw [he] at hm
      exact hset.kept.timer (hholds hold hm hst)
    · intro x hx hst
      rw [he] at hx
      rcases hdelivered x hx hst with hxid | ht
      · rw [hxid, ← hid']
        exact hset.set
      · exact hset.kept.timer ht

/-- A courier event leaves every timer in place. -/
theorem SafePayService.courierDelivered_timed {courier tracking eventId : String}
    {releaseNow : Bool} {b : Body} (h : s.db.Timed)
    (hinv : Invariant c.settings c.crypto ⟨.idle, s.db⟩)
    (hrun : courierDelivered c courier tracking eventId releaseNow s = .ok b s') : s'.db.Timed := by
  obtain ⟨found, s₁, h₁, hrun⟩ := bind_ok.1 hrun
  obtain ⟨rfl, -⟩ := SqlSafePayRepository.findByTracking_ok h₁
  obtain ⟨e, s₂, h₂, hrun⟩ := bind_ok.1 hrun
  obtain ⟨rfl, rfl⟩ := orRaise_ok.1 h₂
  obtain ⟨now, s₁, -, ⟨-, b, e₁, hk⟩ | ⟨hn, e₁, hk⟩⟩ := shell_cases hrun
  · obtain ⟨-, rfl⟩ := pure_ok.1 hk
    exact h.of_eq (by rw [e₁]) (by rw [e₁]) (by rw [e₁])
  have hreserved : s₁.db.Timed := h.of_eq (by rw [e₁]) (by rw [e₁]) (by rw [e₁])
  have hinv₁ : Invariant c.settings c.crypto ⟨⟨.none, none, [_]⟩, s₁.db⟩ :=
    e₁ ▸ hinv.step (.reserve _ _ now hn) (licence_sound c s.db .expireDue)
  obtain ⟨body, s₃, h₃, hk⟩ := bind_ok.1 hk
  obtain ⟨_, s₄, h₄, hk⟩ := bind_ok.1 hk
  obtain ⟨-, rfl⟩ := pure_ok.1 hk
  have hevent : s₃.db.Timed := by
    unfold courierEvent at h₃
    cases hst : e.status <;> simp only [hst] at h₃
    case shipped => exact deliver_timed hreserved hinv₁ h₃
    case released | refunded | disputed =>
      obtain ⟨-, rfl⟩ := pure_ok.1 h₃
      exact hreserved
    case awaitingShipment | delivered | cancelled => exact (raise_ok.1 h₃).elim
  unfold SafePayService.complete SqlIdempotencyRepository.complete at h₄
  have e₄ := writeDb_ok h₄
  exact hevent.of_eq (by rw [e₄]) (by rw [e₄]) (by rw [e₄])

end Setting

/-! ### Every run -/

theorem migrated_timed (now : Time) : (migrated now).Timed := by
  refine ⟨⟨?_, ?_, ?_⟩, ?_, ?_⟩ <;> intro x hx <;> cases hx

/-- A send through the route leaves every timer in place. -/
theorem createTransferOp_timed {c : Ctx} {s s' : Session} {u : Ulid} {phone : String} {amount : Money}
    {note : Option String} {key : String} {req : Option String} {b : Body} (h : s.db.Timed)
    (hinv : Invariant c.settings c.crypto ⟨.idle, s.db⟩)
    (hrun : createTransferOp c u phone amount note key req s = .ok b s') : s'.db.Timed := by
  obtain ⟨foundSender, s₁, h₁, hrun⟩ := bind_ok.1 hrun
  obtain ⟨rfl, rfl⟩ := readDb_ok.1 h₁
  obtain ⟨sender, s₂, h₂, hrun⟩ := bind_ok.1 hrun
  obtain ⟨hs, rfl⟩ := orRaise_ok.1 h₂
  obtain ⟨sender, hsender, rfl⟩ := Option.map_eq_some_iff.1 hs
  obtain ⟨foundRecipient, s₃, h₃, hrun⟩ := bind_ok.1 hrun
  obtain ⟨rfl, rfl⟩ := readDb_ok.1 h₃
  obtain ⟨recipient, s₄, h₄, hrun⟩ := bind_ok.1 hrun
  obtain ⟨hr, rfl⟩ := orRaise_ok.1 h₄
  obtain ⟨recipient, hrecipient, rfl⟩ := Option.map_eq_some_iff.1 hr
  obtain ⟨_, s₅, h₅, hrun⟩ := bind_ok.1 hrun
  obtain ⟨-, rfl⟩ := ensure_ok.1 h₅
  obtain ⟨user, -, hown⟩ := ofPhone_ownedBy hrecipient
  exact Sending.timed (x := ⟨u, sender.id, recipient.id, amount, key, note, req⟩) h hinv
    (ofUser_ownedBy hsender) hown hrun

/-- Whatever a request commits leaves every timer in place. -/
theorem handle_timed {c : Ctx} {req : Request} {db : Database} {r : Except AppError Reply} {s : Session}
    (h : db.Timed) (hinv : Invariant c.settings c.crypto ⟨.idle, db⟩)
    (hrun : handle c req (begin db) = .ok r s) : s.db.Timed := by
  by_cases hsets : req.setsTimer = false
  · exact h.steps (licence_sound _ _ _) (licence_setsNoTimer hsets db) hinv (handle_steps hrun)
  cases req <;> try exact absurd rfl hsets
  case createTransfer =>
    obtain ⟨_, s₁, h₁, hrun⟩ := bind_ok.1 hrun
    obtain ⟨-, rfl⟩ := pure_ok.1 hrun
    rcases runPinProtected_cases h₁ with ⟨e, -, users, -, he⟩ | ⟨s₂, a, -, hpin, hop⟩
    · exact h.of_eq (by rw [he]; rfl) (by rw [he]; rfl) (by rw [he]; rfl)
    · have hinv₂ := hinv.steps (hpin.steps (L := licence c db .expireDue)) (licence_sound _ _ _)
      obtain ⟨users, -, he⟩ := hpin
      have htimed : s₂.db.Timed := h.of_eq (by rw [he]; rfl) (by rw [he]; rfl) (by rw [he]; rfl)
      exact createTransferOp_timed htimed hinv₂ hop
  case courierWebhook =>
    obtain ⟨_, s₁, h₁, hrun⟩ := bind_ok.1 hrun
    obtain ⟨-, rfl⟩ := pure_ok.1 hrun
    obtain ⟨_, s₂, h₂, h₁⟩ := bind_ok.1 h₁
    obtain ⟨-, rfl⟩ := ensure_ok.1 h₂
    exact SafePayService.courierDelivered_timed h hinv h₁

/-- A timer is the only one of its kind for its row. -/
theorem Database.Queued.filter_isFor {db : Database} (h : db.Queued) {type : TaskType} {id : Ulid}
    {t : TaskRow} (ht : t ∈ db.scheduledTasks.rows) (hfor : isFor type id t = true) :
    db.scheduledTasks.rows.filter (isFor type id) = [t] := by
  have hnodup : (db.scheduledTasks.rows.filter (isFor type id)).Nodup :=
    (List.Nodup.of_map _ db.scheduledTasks.nodup).filter _
  refine List.perm_singleton.1 ((List.perm_ext_iff_of_nodup hnodup (List.nodup_singleton t)).2 fun x => ?_)
  rw [List.mem_filter, List.mem_singleton]
  constructor
  · rintro ⟨hx, hxfor⟩
    obtain ⟨htype, hres⟩ := isFor_iff.1 hfor
    exact h.single t ht x hx (by rw [htype, hres]; exact hxfor)
  · rintro rfl
    exact ⟨ht, hfor⟩

/-- A task whose wait is not over is to be claimed, or was given up. -/
theorem Database.Queued.pending_or_failed {db : Database} (h : db.Queued) {t : TaskRow}
    (ht : t ∈ db.scheduledTasks.rows) (hwaits : ¬t.Retired db) :
    t.status = .pending ∨ t.status = .failed := by
  have hlive := (h.live_or_over t ht).resolve_right hwaits
  cases hst : t.status with
  | pending => exact .inl rfl
  | failed => exact .inr rfl
  | done | cancelled =>
    rw [hst] at hlive
    cases hlive

theorem Database.Timed.hold_timer {db : Database} (h : db.Timed) {hold : TransferRow}
    (hm : hold ∈ db.transfers.rows) (hst : hold.status = .pendingUndo) :
    ∃ t ∈ db.scheduledTasks.rows, isFor .undoSettle hold.id t = true ∧
      (t.status = .pending ∨ t.status = .failed) := by
  obtain ⟨t, ht, hfor⟩ := h.holds hold hm hst
  obtain ⟨htype, hres⟩ := isFor_iff.1 hfor
  refine ⟨t, ht, hfor, h.pending_or_failed ht fun hover => ?_⟩
  unfold TaskRow.Retired at hover
  simp only [htype] at hover
  exact hover hold (hres ▸ Table.find?_of_mem hm) hst

theorem Database.Timed.delivery_timer {db : Database} (h : db.Timed) {e : EscrowRow}
    (he : e ∈ db.safepayEscrows.rows) (hst : e.status = .delivered) :
    ∃ t ∈ db.scheduledTasks.rows, isFor .escrowAutoRelease e.id t = true ∧
      (t.status = .pending ∨ t.status = .failed) := by
  obtain ⟨t, ht, hfor⟩ := h.deliveries e he hst
  obtain ⟨htype, hres⟩ := isFor_iff.1 hfor
  refine ⟨t, ht, hfor, h.pending_or_failed ht fun hover => ?_⟩
  unfold TaskRow.Retired at hover
  simp only [htype] at hover
  exact hover e (hres ▸ Table.find?_of_mem he) hst

theorem serveAll_timed (d : Deployment) (now : Time) (calls : List Call) :
    (serveAll d calls (migrated now)).Timed := by
  induction calls using List.reverseRecOn with
  | nil => exact migrated_timed now
  | append_singleton calls call ih =>
    rw [serveAll_concat]
    rcases commit_cases (handle (d.ctx call.oracle) call.request) (serveAll d calls (migrated now)) with
      ⟨r, s, hok, he⟩ | he
    · rw [serve, he]
      exact handle_timed (c := d.ctx call.oracle) ih (serveAll_inv d now calls) hok
    · rw [serve, he]
      exact ih

/-- **No timer is lost**: in every reachable state a hold in its undo window has exactly one task
    that settles it, and a delivered escrow one that releases it; the task is still pending, or
    it was given up and waits for an operator. -/
theorem no_timer_is_lost (d : Deployment) (now : Time) (calls : List Call) :
    let db := serveAll d calls (migrated now)
    (∀ hold ∈ db.transfers.rows, hold.status = .pendingUndo → ∃ t,
      db.scheduledTasks.rows.filter (isFor .undoSettle hold.id) = [t] ∧
        (t.status = .pending ∨ t.status = .failed)) ∧
    ∀ e ∈ db.safepayEscrows.rows, e.status = .delivered → ∃ t,
      db.scheduledTasks.rows.filter (isFor .escrowAutoRelease e.id) = [t] ∧
        (t.status = .pending ∨ t.status = .failed) := by
  intro db
  have h : db.Timed := serveAll_timed d now calls
  refine ⟨fun hold hm hst => ?_, fun e he hst => ?_⟩
  · obtain ⟨t, ht, hfor, hlive⟩ := h.hold_timer hm hst
    exact ⟨t, h.filter_isFor ht hfor, hlive⟩
  · obtain ⟨t, ht, hfor, hlive⟩ := h.delivery_timer he hst
    exact ⟨t, h.filter_isFor ht hfor, hlive⟩

end MoneyMovement

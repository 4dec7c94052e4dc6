/-
  MoneyMovement/SafePayPaths.lean
  ===============================
  **The Safe-Pay commands as steps.**

  Paying an escrow out takes three writes in three tables: the latch on the
  hold, the leg, the mark on the escrow.  `escrowLeg_steps` has all three; every
  command that ends an escrow goes through it.
-/
import MoneyMovement.LendingPaths

namespace MoneyMovement

open Txn SafePayService

variable {c : Ctx} {L : Licence} {s s' : Session}

/-! ### Shared helpers -/

theorem SafePayService.complete_step {d : Duty} {r : Option (TransferRow × Ulid)}
    {rs : List IdempotencyRow} {triple : IdempotencyTriple} {row : IdempotencyRow} {id : Ulid} {n : Nat}
    {b : Body} {now : Time} {v : Unit} (hl : L.answer row) (ht : row.triple = triple)
    (h : SafePayService.complete triple id b now n s = .ok v s') :
    Steps c L ⟨⟨d, r, row :: rs⟩, s.db⟩ ⟨⟨d, r, rs⟩, s'.db⟩ := by
  unfold SafePayService.complete at h
  exact MoneyMovement.complete_step hl ht h

theorem SafePayService.auditEvent_ok {actor id : Ulid} {action : String} {req : Option String}
    {m : Payload} {v : Unit} (h : SafePayService.auditEvent c actor id action req m s = .ok v s') :
    ∃ logs, s'.db = { s.db with auditLogs := logs } := by
  obtain ⟨now, s₁, h₁, h⟩ := bind_ok.1 h
  obtain ⟨logs, e⟩ := SqlAuditRepository.record_ok h
  rw [(now_ok h₁).1] at e
  exact ⟨logs, e⟩

theorem SafePayService.auditEvent_steps {g : Progress} {actor id : Ulid} {action : String}
    {req : Option String} {m : Payload} {v : Unit}
    (h : SafePayService.auditEvent c actor id action req m s = .ok v s') :
    Steps c L ⟨g, s.db⟩ ⟨g, s'.db⟩ := by
  obtain ⟨logs, e⟩ := SafePayService.auditEvent_ok h
  rw [e]
  exact Steps.audit _ logs

theorem SafePayService.stateCommand_answered {triple : IdempotencyTriple} {payload : Payload}
    {once : Time → Tx (Ulid × Body)} {b : Body}
    (ha : ∀ f now, L.answer (SqlIdempotencyRepository.processing triple f now))
    (honce : ∀ rs now s₁ s₂ x, s₁.db.safepayEscrows = s.db.safepayEscrows → once now s₁ = .ok x s₂ →
      Steps c L ⟨⟨.none, none, rs⟩, s₁.db⟩ ⟨⟨.none, none, rs⟩, s₂.db⟩)
    (h : stateCommand c triple payload once s = .ok b s') :
    CommandAnswered c L triple
      (fingerprintRequest c payload) s s' := by
  unfold stateCommand at h
  refine shell_answered ?_ ?_ h
  · intro now b s₁ s₂ x hr
    exact (pure_ok.1 hr).2
  intro row now s₁ s₂ x _ hrow e₁ hrun
  obtain ⟨result, s₃, h₃, hrun⟩ := bind_ok.1 hrun
  obtain ⟨_, s₄, h₄, hrun⟩ := bind_ok.1 hrun
  obtain ⟨-, rfl⟩ := pure_ok.1 hrun
  have hrun := honce [row] now s₁ s₃ result (by rw [e₁]) h₃
  subst hrow
  exact hrun.trans (SafePayService.complete_step (ha _ _) rfl h₄)

/-! ### Paying an escrow out -/

variable (rs : List IdempotencyRow)

/-- Escrows that are not marked released are as they were. -/
def OnlyReleases (db db' : Database) : Prop :=
  ∀ id e, db'.safepayEscrows.find? id = some e → e.status ≠ .released →
    db.safepayEscrows.find? id = some e

theorem SqlSafePayRepository.markSettled_ok {id t : Ulid} {froms : List EscrowStatus}
    {status : EscrowStatus} {now : Time} {note : Option String} {n : Nat} (hn : n = 1)
    (h : SqlSafePayRepository.markSettled id froms status t now note s = .ok n s') :
    ∃ e f hid, s.db.safepayEscrows.find? id = some e ∧ e.status ∈ froms ∧
      (f e).status = status ∧ (f e).settlementTransferId = some t ∧ e.SameDeal (f e) ∧
      s'.db = { s.db with safepayEscrows := (s.db.safepayEscrows.modifyAt id f hid) } := by
  obtain ⟨e, he, hp, -, hdb⟩ := updateWhere_db h hn
  rw [Bool.and_eq_true, List.contains_iff_mem] at hp
  exact ⟨e, _, _, he, hp.1, rfl, rfl, ⟨rfl, rfl, rfl, rfl, rfl⟩, hdb⟩

theorem escrowLeg_steps {e : EscrowRow} {hold : TransferRow} {ref : Reference}
    {toStatus : TransferStatus} {account u : Ulid} {note req note' : Option String}
    {r : TransferResult} {now : Time} {n : Nat} {status : EscrowStatus} {froms : List EscrowStatus}
    {s₁ s₂ : Session}
    (hst : toStatus = .succeeded ∧ status = .released ∨ toStatus = .refunded ∧ status = .refunded)
    (hc : L.Covers c (escrowLegKind toStatus)) (hl : L.escrow e.id status)
    (hfroms : ∀ x ∈ froms, x.isOpen = true) (he : s.db.safepayEscrows.find? e.id = some e)
    (hf : s.db.transfers.find? e.holdTransferId = some hold) (hp : PaidTo hold toStatus account)
    (h₁ : HoldingService.settle c hold.id ref .held toStatus account ESCROW_ACCOUNT_ID
      (.fromMinor e.amountMinor) (escrowLegKind toStatus) u note req s = .ok r s₁)
    (e₂ : s₂.db = s₁.db) (hn : n = 1)
    (h₂ : SqlSafePayRepository.markSettled e.id froms status r.transferId now note' s₂ = .ok n s') :
    Steps c L ⟨⟨.none, none, rs⟩, s.db⟩ ⟨⟨.none, none, rs⟩, s'.db⟩ ∧
      s'.db.scheduledTasks = s.db.scheduledTasks ∧
      (∀ x, s'.db.safepayEscrows.find? e.id = some x → x.status = status) ∧
      (status = .released → OnlyReleases s.db s'.db) := by
  have hid : hold.id = e.holdTransferId := Table.key_of_find? hf
  have hto : toStatus = .succeeded ∨ toStatus = .refunded := by
    rcases hst with ⟨h, -⟩ | ⟨h, -⟩
    · exact .inl h
    · exact .inr h
  have hk : (escrowLegKind toStatus).isSettlementLeg = true := by
    rcases hto with rfl | rfl <;> rfl
  obtain ⟨-, hes, htasks, -, hsteps⟩ := HoldingService.settle_steps rs (fun p => .closeEscrow p.row)
    (.inr rfl) hto hk (hid ▸ hf) (by
      intro db p hcmd hdb hlatched
      have hw : Warrant c db p (.pay (hold.latched toStatus c.oracle.dbNow).id .held toStatus)
        (.closeEscrow p.row) := .escrowLeg hcmd hlatched hp (by rw [hdb, he]) hid.symm
      exact hc _ _ _ _ (by rw [hcmd]; rfl) hw) h₁
  obtain ⟨e', f, hfid, he', hmem, hstatus, hsettled, hdeal, e₃⟩ :=
    SqlSafePayRepository.markSettled_ok hn h₂
  rw [e₂] at he' e₃
  obtain rfl : e = e' := by
    rw [hes, he] at he'
    exact Option.some.inj he'
  refine ⟨?_, ?_, ?_, ?_⟩
  · rcases hsteps with ⟨p, hcmd, hleg, hsteps⟩ | hsteps
    · rw [e₃]
      refine hsteps.tail (.closeEscrow e f (hsettled.trans (congrArg some hleg)) hfid he'
        (hfroms _ hmem) ?_ hdeal ?_ (hstatus ▸ hl))
      · show p.cmd.parentTransferId = _
        rw [hcmd, ← hid]
        rfl
      · show _ ∧ p.cmd.kind = _ ∨ _ ∧ p.cmd.kind = _
        rw [hcmd, hstatus]
        rcases hst with ⟨rfl, rfl⟩ | ⟨rfl, rfl⟩
        · exact .inl ⟨rfl, rfl⟩
        · exact .inr ⟨rfl, rfl⟩
    · rw [e₃]
      exact hsteps _
  · rw [e₃]
    exact htasks
  · intro x hx
    rw [e₃] at hx
    dsimp only at hx
    rw [Table.find?_modifyAt, if_pos rfl, he'] at hx
    cases hx
    exact hstatus
  · intro hrel id x hx hxs
    rw [e₃] at hx
    dsimp only at hx
    rw [Table.find?_modifyAt] at hx
    split at hx
    · rw [he'] at hx
      cases hx
      exact absurd (hstatus.trans hrel) hxs
    · rw [← hes]
      exact hx

theorem SafePayService.releaseLocked_steps {e : EscrowRow} {u : Ulid} {reason : String}
    {req note : Option String} {b : Body} (hc : L.Covers c .escrowRelease)
    (hl : L.escrow e.id .released) (he : s.db.safepayEscrows.find? e.id = some e)
    (h : releaseLocked c e u reason req note s = .ok b s') :
    Steps c L ⟨⟨.none, none, rs⟩, s.db⟩ ⟨⟨.none, none, rs⟩, s'.db⟩ ∧ TasksKept s.db s'.db ∧
      OnlyReleases s.db s'.db ∧
      ∀ x, s'.db.safepayEscrows.find? e.id = some x → x.status = .released := by
  obtain ⟨found, s₁, h₁, h⟩ := bind_ok.1 h
  obtain ⟨rfl, rfl⟩ := readDb_ok.1 h₁
  obtain ⟨hold, s₂, h₂, h⟩ := bind_ok.1 h
  obtain ⟨hhold, rfl⟩ := orRaise_ok.1 h₂
  obtain ⟨receiver, s₃, h₃, h⟩ := bind_ok.1 h
  obtain ⟨hreceiver, rfl⟩ := orRaise_ok.1 h₃
  obtain ⟨settlement, s₄, h₄, h⟩ := bind_ok.1 h
  obtain ⟨now, s₅, h₅, h⟩ := bind_ok.1 h
  obtain ⟨n, s₆, h₆, h⟩ := bind_ok.1 h
  obtain ⟨_, s₇, h₇, h⟩ := bind_ok.1 h
  obtain ⟨hn, rfl⟩ := ensure_ok.1 h₇
  obtain ⟨hsteps, htasks, hstatus, honly⟩ := escrowLeg_steps rs (.inl ⟨rfl, rfl⟩) hc hl (by decide)
    he hhold (.inl ⟨rfl, hreceiver⟩) h₄ (now_ok h₅).1 hn h₆
  obtain ⟨_, s₈, h₈, h⟩ := bind_ok.1 h
  obtain ⟨hkept, hes⟩ := SqlScheduledTaskRepository.cancel_ok h₈
  obtain ⟨_, s₉, h₉, h⟩ := bind_ok.1 h
  obtain ⟨logs, e₉⟩ := SafePayService.auditEvent_ok h₉
  obtain ⟨-, rfl⟩ := pure_ok.1 h
  refine ⟨?_, ?_, ?_, ?_⟩
  · refine (hsteps.trans (SqlScheduledTaskRepository.cancel_steps ?_ h₈)).trans
      (SafePayService.auditEvent_steps h₉)
    rintro ⟨_, _, _⟩ rfl rfl x hx
    rw [hstatus x hx]
    decide
  · exact ((TasksKept.of_eq htasks).trans hkept).trans (TasksKept.of_eq (by rw [e₉]))
  · intro id x hx hxs
    rw [e₉] at hx
    exact honly rfl id x (hes ▸ hx) hxs
  · intro x hx
    rw [e₉] at hx
    exact hstatus x (hes ▸ hx)

theorem SafePayService.refundLocked_steps {e : EscrowRow} {reason note : String}
    {req : Option String} {b : Body} (hc : L.Covers c .escrowRefund)
    (hl : L.escrow e.id .refunded) (he : s.db.safepayEscrows.find? e.id = some e)
    (h : refundLocked c e reason req note s = .ok b s') :
    Steps c L ⟨⟨.none, none, rs⟩, s.db⟩ ⟨⟨.none, none, rs⟩, s'.db⟩ := by
  obtain ⟨found, s₁, h₁, h⟩ := bind_ok.1 h
  obtain ⟨rfl, rfl⟩ := readDb_ok.1 h₁
  obtain ⟨hold, s₂, h₂, h⟩ := bind_ok.1 h
  obtain ⟨hhold, rfl⟩ := orRaise_ok.1 h₂
  obtain ⟨settlement, s₄, h₄, h⟩ := bind_ok.1 h
  obtain ⟨now, s₅, h₅, h⟩ := bind_ok.1 h
  obtain ⟨n, s₆, h₆, h⟩ := bind_ok.1 h
  obtain ⟨_, s₇, h₇, h⟩ := bind_ok.1 h
  obtain ⟨hn, rfl⟩ := ensure_ok.1 h₇
  obtain ⟨-, rfl⟩ := pure_ok.1 h
  exact (escrowLeg_steps rs (.inr ⟨rfl, rfl⟩) hc hl (by decide) he hhold (.inr ⟨rfl, rfl⟩) h₄
    (now_ok h₅).1 hn h₆).1

/-! ### Creating an escrow -/

/-- What `create` fingerprints. -/
def SafePayService.createPayload (sellerUserId : Ulid) (amount : Money)
    (description : Option String) : Payload :=
  [("sellerUserId", .str sellerUserId.text), ("amountMinor", .int amount.minor),
    ("currency", .str amount.currency.code),
    ("description", match description with
      | some d => .str d
      | none => .null)]

theorem SafePayService.create_answered {u account v receiver : Ulid} {amount : Money}
    {description : Option String} {key : String} {req : Option String} {b : Body}
    (hc : L.Covers c .escrowHold) (ha : ∀ row, Answerable c row → L.answer row)
    (ho : s.db.OwnedBy account u) (hr : s.db.OwnedBy receiver v)
    (h : SafePayService.create c u account v receiver amount description key req s = .ok b s') :
    CommandAnswered c L ⟨u, CREATE_ENDPOINT, key⟩
      (fingerprintRequest c (createPayload v amount description)) s s' := by
  unfold SafePayService.create at h
  refine shell_answered ?_ ?_ h
  · intro now b s₁ s₂ x hr
    exact (pure_ok.1 hr).2
  intro row now s₁ s₂ x _ hrow e₁ hrun
  have ho₁ : ∀ id w, s.db.OwnedBy id w → s₁.db.OwnedBy id w := by
    rw [e₁]
    exact fun _ _ hx => hx
  obtain ⟨escrowId, s₃, h₃, hrun⟩ := bind_ok.1 hrun
  have e₃ := newUlid_ok h₃
  obtain ⟨hold, s₄, h₄, hrun⟩ := bind_ok.1 hrun
  obtain ⟨reference, s₅, h₅, hrun⟩ := bind_ok.1 hrun
  obtain ⟨codeHash, s₆, h₆, hrun⟩ := bind_ok.1 hrun
  have e₆ := (hashPassword_ok h₆).trans (generateReference_ok h₅)
  obtain ⟨_, s₇, h₇, hrun⟩ := bind_ok.1 hrun
  obtain ⟨_, s₈, h₈, h₇⟩ := bind_ok.1 h₇
  obtain ⟨-, rfl⟩ := ensure_ok.1 h₈
  obtain ⟨hn, hadmits, e₇⟩ := insertInto_ok h₇
  rw [e₆] at hn hadmits e₇
  simp only [Bool.and_eq_true, List.all_eq_true, decide_eq_true_eq] at hadmits
  have hunique := fun x hx => (hadmits.1.1.1.1.1 x hx).2
  have hheld : Steps c L ⟨⟨.none, none, [row]⟩, s₁.db⟩ ⟨⟨.none, none, [row]⟩, s₇.db⟩ := by
    rw [e₇, ← e₃]
    rcases execute_ok h₄ with ⟨e₄, -, record, hrecord⟩ | ⟨p, hp⟩
    · rw [e₄] at hunique ⊢
      exact .single (.stray (.openEscrow hrecord rfl hunique) _ _ _)
    · rw [← e₃] at ho₁
      have hw : Warrant c s₃.db p .none (.openEscrow p.row) :=
        .escrowHold hp.cmd_eq (ho₁ _ _ ho) (ho₁ _ _ hr)
      have hsteps := hp.steps L .none _ [row] (hc _ _ _ _ (by rw [hp.cmd_eq]; rfl) hw)
      refine hsteps.tail (.openEscrow _ ?_ hn ?_ hunique ?_ rfl rfl)
      · have howners := hp.untouched.owners
        show s₄.db.OwnedBy p.cmd.senderAccountId u ∧
          ∃ r, p.cmd.intendedReceiverAccountId = some r ∧ s₄.db.OwnedBy r v
        rw [hp.cmd_eq]
        exact ⟨howners _ _ (ho₁ _ _ ho), receiver, rfl, howners _ _ (ho₁ _ _ hr)⟩
      · show hold.transferId = p.transferId
        rw [hp.result]
        rfl
      · show amount.minor = p.cmd.amount.minor
        rw [hp.cmd_eq]
        rfl
  obtain ⟨_, s₉, h₉, hrun⟩ := bind_ok.1 hrun
  obtain ⟨_, s₁₀, h₁₀, hrun⟩ := bind_ok.1 hrun
  obtain ⟨-, rfl⟩ := pure_ok.1 hrun
  have hanswer : Steps c L ⟨⟨.none, none, [row]⟩, s₇.db⟩ ⟨.idle, s₉.db⟩ := by
    subst hrow
    refine SafePayService.complete_step (ha _ ?_) rfl h₉
    exact answerable_of_isPrefixOf CREATE_ENDPOINT "" String.append_empty.symm (by decide) (by decide)
  exact (hheld.trans hanswer).trans (SafePayService.auditEvent_steps h₁₀)

/-! ### Shipping and disputing -/

/-- An update that moves an escrow between open statuses. -/
theorem escrow_updateWhere_steps {g : Progress} {id : Ulid} {q : EscrowRow → Bool}
    {f : EscrowRow → EscrowRow} {hid : ∀ e, (f e).id = e.id} {admits : Database → EscrowRow → Bool}
    {n : Nat} (hn : n = 1)
    (hq : ∀ e, s.db.safepayEscrows.find? id = some e → q e = true → e.status.isOpen = true ∧
      (f e).status.isOpen = true ∧ e.SameDeal (f e) ∧ L.escrow id (f e).status)
    (hsettled : ∀ e, (f e).settlementTransferId = e.settlementTransferId)
    (h : updateWhere (·.safepayEscrows) SqlSafePayRepository.setTable id q f hid admits s =
      .ok n s') : Steps c L ⟨g, s.db⟩ ⟨g, s'.db⟩ := by
  obtain ⟨e, he, hqe, -, hdb⟩ := updateWhere_db h hn
  obtain ⟨ho, ho', hd, hl⟩ := hq e he hqe
  obtain rfl : e.id = id := Table.key_of_find? he
  rw [hdb]
  exact .single (.escrow e f (hsettled e) hid he ho ho' hd (.inr hl))

theorem SafePayService.markShipped_answered {id u : Ulid} {courier tracking key : String}
    {req : Option String} {b : Body} (ha : ∀ row, Answerable c row → L.answer row)
    (hl : ∀ x, s.db.safepayEscrows.find? id = some x → x.sellerUserId = u →
      x.status = .awaitingShipment → L.escrow id .shipped)
    (h : SafePayService.markShipped c id u courier tracking key req s = .ok b s') :
    CommandAnswered c L ⟨u, "POST:/api/v1/safepay/" ++ id.text ++ "/ship", key⟩
      (fingerprintRequest c [("courier", .str courier), ("trackingNumber", .str tracking)]) s s' := by
  unfold SafePayService.markShipped at h
  refine SafePayService.stateCommand_answered (fun f now => ha _ ?_) ?_ h
  · exact answerable_of_isPrefixOf "POST:/api/v1/safepay/" (id.text ++ "/ship") String.append_assoc
      (by decide) (by decide)
  intro rs now s₁ s₂ x hes hrun
  obtain ⟨n, s₃, h₃, hrun⟩ := bind_ok.1 hrun
  obtain ⟨_, s₄, h₄, hrun⟩ := bind_ok.1 hrun
  obtain ⟨hn, rfl⟩ := ensure_ok.1 h₄
  obtain ⟨_, s₅, h₅, hrun⟩ := bind_ok.1 hrun
  obtain ⟨-, rfl⟩ := pure_ok.1 hrun
  refine Relation.ReflTransGen.trans ?_ (SafePayService.auditEvent_steps h₅)
  refine escrow_updateWhere_steps hn ?_ (fun e => ?_) h₃
  · intro e he hq
    rw [decide_eq_true_eq] at hq
    exact ⟨by rw [hq.2]; rfl, rfl, ⟨rfl, rfl, rfl, rfl, rfl⟩, hl e (hes ▸ he) hq.1 hq.2⟩
  · rfl

theorem SafePayService.dispute_answered {id u : Ulid} {reason key : String} {req : Option String}
    {b : Body} (ha : ∀ row, Answerable c row → L.answer row)
    (hl : ∀ x, s.db.safepayEscrows.find? id = some x → x.buyerUserId = u →
      SqlSafePayRepository.canEnterDispute x.status = true → L.escrow id .disputed)
    (h : SafePayService.dispute c id u reason key req s = .ok b s') :
    CommandAnswered c L ⟨u, "POST:/api/v1/safepay/" ++ id.text ++ "/dispute", key⟩
      (fingerprintRequest c [("reason", .str reason)]) s s' := by
  unfold SafePayService.dispute at h
  refine SafePayService.stateCommand_answered (fun f now => ha _ ?_) ?_ h
  · exact answerable_of_isPrefixOf "POST:/api/v1/safepay/" (id.text ++ "/dispute")
      String.append_assoc (by decide) (by decide)
  intro rs now s₁ s₂ x hes hrun
  obtain ⟨n, s₃, h₃, hrun⟩ := bind_ok.1 hrun
  obtain ⟨_, s₄, h₄, hrun⟩ := bind_ok.1 hrun
  obtain ⟨hn, rfl⟩ := ensure_ok.1 h₄
  obtain ⟨_, s₅, h₅, hrun⟩ := bind_ok.1 hrun
  obtain ⟨_, s₆, h₆, hrun⟩ := bind_ok.1 hrun
  obtain ⟨-, rfl⟩ := pure_ok.1 hrun
  refine Relation.ReflTransGen.trans ?_ ((SqlScheduledTaskRepository.cancel_steps ?_ h₅).trans
    (SafePayService.auditEvent_steps h₆))
  · refine escrow_updateWhere_steps hn ?_ (fun e => ?_) h₃
    · intro e he hq
      rw [Bool.and_eq_true, decide_eq_true_eq] at hq
      refine ⟨?_, rfl, ⟨rfl, rfl, rfl, rfl, rfl⟩, hl e (hes ▸ he) hq.1 hq.2⟩
      cases hst : e.status <;> rw [hst] at hq <;> first | rfl | exact absurd hq.2 (by decide)
    · rfl
  · obtain ⟨e, he, -, -, e₃⟩ := updateWhere_db h₃ hn
    rintro ⟨_, _, _⟩ rfl rfl x hx
    rw [e₃] at hx
    dsimp only at hx
    rw [SqlSafePayRepository.setTable, Table.find?_modifyAt, if_pos rfl, he] at hx
    cases hx
    exact EscrowStatus.noConfusion

/-! ### Release by code, by the buyer -/

theorem recordCodeFailure_steps {g : Progress} {e : EscrowRow} {attempts : Nat}
    {lockedUntil : Option Time} {now : Time} {v : Unit}
    (he : s.db.safepayEscrows.find? e.id = some e) (ha : acceptsCode e.status = true)
    (h : SqlSafePayRepository.recordCodeFailure e.id attempts lockedUntil now s = .ok v s') :
    Steps c L ⟨g, s.db⟩ ⟨g, s'.db⟩ := by
  rw [writeDb_ok h]
  have hopen : e.status.isOpen = true ∧ e.status ≠ .disputed := by
    cases hst : e.status <;> rw [hst] at ha <;> first | decide | exact absurd ha (by decide)
  exact .single (.escrow e _ rfl _ he hopen.1 hopen.1 ⟨rfl, rfl, rfl, rfl, rfl⟩ (.inl ⟨rfl, hopen.2⟩))

/-- A code attempt: locked out, wrong, or right. -/
theorem SafePayService.releaseWithCodeLocked_steps {row : IdempotencyRow} {e : EscrowRow} {u : Ulid}
    {code : String} {req : Option String} {now : Time} {b : Body} (hc : L.Covers c .escrowRelease)
    (ha : L.answer row) (he : s.db.safepayEscrows.find? e.id = some e)
    (ho : acceptsCode e.status = true)
    (hl : codeLocked e now = false → c.crypto.argon2Verify e.deliveryCodeHash code = true →
      L.escrow e.id .released)
    (h : releaseWithCodeLocked c row.triple e u code req now s = .ok b s') :
    Steps c L ⟨⟨.none, none, row :: rs⟩, s.db⟩ ⟨⟨.none, none, rs⟩, s'.db⟩ := by
  unfold releaseWithCodeLocked at h
  split at h
  · obtain ⟨_, s₁, h₁, h⟩ := bind_ok.1 h
    obtain ⟨-, rfl⟩ := pure_ok.1 h
    exact SafePayService.complete_step ha rfl h₁
  · rename_i hlocked
    split at h
    · obtain ⟨_, s₁, h₁, h⟩ := bind_ok.1 h
      obtain ⟨_, s₂, h₂, h⟩ := bind_ok.1 h
      obtain ⟨-, rfl⟩ := pure_ok.1 h
      exact (recordCodeFailure_steps he ho h₁).trans (SafePayService.complete_step ha rfl h₂)
    · rename_i hverify
      obtain ⟨body, s₁, h₁, h⟩ := bind_ok.1 h
      obtain ⟨_, s₂, h₂, h⟩ := bind_ok.1 h
      obtain ⟨-, rfl⟩ := pure_ok.1 h
      have hrel := hl (by simpa using hlocked) (by simpa using hverify)
      exact (SafePayService.releaseLocked_steps (row :: rs) hc hrel he h₁).1.trans
        (SafePayService.complete_step ha rfl h₂)

theorem SafePayService.releaseWithCode_answered {id u : Ulid} {code key : String} {req : Option String}
    {b : Body} (hc : L.Covers c .escrowRelease) (ha : ∀ row, Answerable c row → L.answer row)
    (hl : ∀ x, s.db.safepayEscrows.find? id = some x → x.sellerUserId = u →
      acceptsCode x.status = true → codeLocked x (c.oracle.clock s.draws) = false →
      c.crypto.argon2Verify x.deliveryCodeHash code = true → L.escrow id .released)
    (h : SafePayService.releaseWithCode c id u code key req s = .ok b s') :
    CommandAnswered c L (releaseCodeTriple id u key)
      (fingerprintRequest c [("deliveryCode", .str code)]) s s' := by
  unfold SafePayService.releaseWithCode at h
  refine shell_answered ?_ ?_ h
  · intro now b s₁ s₂ x hr
    exact (pure_ok.1 hr).2
  intro row now s₁ s₂ x hnow hrow e₁ hrun
  obtain ⟨found, s₃, h₃, hrun⟩ := bind_ok.1 hrun
  obtain ⟨rfl, rfl⟩ := readDb_ok.1 h₃
  obtain ⟨e, s₄, h₄, hrun⟩ := bind_ok.1 hrun
  obtain ⟨he, rfl⟩ := orRaise_ok.1 h₄
  rw [Option.filter_eq_some_iff, decide_eq_true_eq] at he
  obtain ⟨_, s₅, h₅, hrun⟩ := bind_ok.1 hrun
  obtain ⟨haccepts, rfl⟩ := ensure_ok.1 h₅
  obtain rfl : e.id = id := Table.key_of_find? he.1
  have hfound : s.db.safepayEscrows.find? e.id = some e := by
    rw [e₁] at he
    exact he.1
  subst hrow
  refine SafePayService.releaseWithCodeLocked_steps [] hc (ha _ ?_) he.1 haccepts ?_ hrun
  · exact answerable_of_isPrefixOf "POST:/api/v1/safepay/" (e.id.text ++ "/release-code")
      String.append_assoc (by decide) (by decide)
  · intro hlocked hverify
    exact hl e hfound he.2 haccepts (hnow ▸ hlocked) hverify

theorem SafePayService.confirmReceived_answered {id u : Ulid} {key : String} {req : Option String}
    {b : Body} (hc : L.Covers c .escrowRelease) (ha : ∀ row, Answerable c row → L.answer row)
    (hl : ∀ x, s.db.safepayEscrows.find? id = some x → x.buyerUserId = u →
      acceptsReceipt x.status = true → L.escrow id .released)
    (h : SafePayService.confirmReceived c id u key req s = .ok b s') :
    CommandAnswered c L ⟨u, "POST:/api/v1/safepay/" ++ id.text ++ "/confirm-received", key⟩
      (fingerprintRequest c [("escrowId", .str id.text)]) s s' := by
  unfold SafePayService.confirmReceived at h
  refine SafePayService.stateCommand_answered (fun f now => ha _ ?_) ?_ h
  · exact answerable_of_isPrefixOf "POST:/api/v1/safepay/" (id.text ++ "/confirm-received")
      String.append_assoc (by decide) (by decide)
  intro rs now s₁ s₂ x hes hrun
  obtain ⟨found, s₃, h₃, hrun⟩ := bind_ok.1 hrun
  obtain ⟨rfl, rfl⟩ := readDb_ok.1 h₃
  obtain ⟨e, s₄, h₄, hrun⟩ := bind_ok.1 hrun
  obtain ⟨he, rfl⟩ := orRaise_ok.1 h₄
  rw [Option.filter_eq_some_iff, decide_eq_true_eq] at he
  obtain ⟨_, s₅, h₅, hrun⟩ := bind_ok.1 hrun
  obtain ⟨haccepts, rfl⟩ := ensure_ok.1 h₅
  obtain ⟨body, s₆, h₆, hrun⟩ := bind_ok.1 hrun
  obtain ⟨-, rfl⟩ := pure_ok.1 hrun
  obtain rfl : e.id = id := Table.key_of_find? he.1
  exact (SafePayService.releaseLocked_steps rs hc (hl e (hes ▸ he.1) he.2 haccepts) he.1 h₆).1

/-! ### The courier and the timer -/

theorem SqlSafePayRepository.markDelivered_ok {id : Ulid} {t t' : Time} {n : Nat} (hn : n = 1)
    (h : SqlSafePayRepository.markDelivered id t t' s = .ok n s') :
    ∃ e f hid, s.db.safepayEscrows.find? id = some e ∧ e.status = .shipped ∧
      (f e).status = .delivered ∧ (f e).settlementTransferId = e.settlementTransferId ∧
      e.SameDeal (f e) ∧
      s'.db = { s.db with safepayEscrows := (s.db.safepayEscrows.modifyAt id f hid) } := by
  obtain ⟨e, he, hp, -, hdb⟩ := updateWhere_db h hn
  exact ⟨e, _, _, he, by simpa using hp, rfl, rfl, ⟨rfl, rfl, rfl, rfl, rfl⟩, hdb⟩

theorem SafePayService.deliver_steps {e : EscrowRow} {courier : String} {releaseNow : Bool}
    {now : Time} {b : Body} (hc : L.Covers c .escrowRelease)
    (hdelivered : L.escrow e.id .delivered)
    (hreleased : releaseNow = true → L.escrow e.id .released)
    (htask : ∀ db t, t.taskType = .escrowAutoRelease → t.resourceId = e.id →
      t.dueAt = c.oracle.dbNow + Time.seconds (c.settings.safepayAutoReleaseHours * 3600) →
      releaseNow = false →
      (∃ x, db.safepayEscrows.find? e.id = some x ∧ x.status = .delivered) → L.task db t)
    (h : deliver c e courier releaseNow now s = .ok b s') :
    Steps c L ⟨⟨.none, none, rs⟩, s.db⟩ ⟨⟨.none, none, rs⟩, s'.db⟩ := by
  obtain ⟨n, s₁, h₁, h⟩ := bind_ok.1 h
  obtain ⟨_, s₂, h₂, h⟩ := bind_ok.1 h
  obtain ⟨hn, rfl⟩ := ensure_ok.1 h₂
  obtain ⟨e₀, f, hid, he₀, hship, hdel, hsettled, hdeal, e₁⟩ :=
    SqlSafePayRepository.markDelivered_ok hn h₁
  have hid₀ : e₀.id = e.id := Table.key_of_find? he₀
  have hmark : Steps c L ⟨⟨.none, none, rs⟩, s.db⟩ ⟨⟨.none, none, rs⟩, s₁.db⟩ := by
    rw [e₁, ← hid₀]
    refine .single (.escrow e₀ f hsettled hid (hid₀ ▸ he₀) ?_ ?_ hdeal (.inr ?_))
    · rw [hship]
      rfl
    · rw [hdel]
      rfl
    · rw [hdel, hid₀]
      exact hdelivered
  obtain ⟨found, s₃, h₃, h⟩ := bind_ok.1 h
  obtain ⟨rfl, rfl⟩ := readDb_ok.1 h₃
  obtain ⟨e', s₄, h₄, h⟩ := bind_ok.1 h
  obtain ⟨he', rfl⟩ := orRaise_ok.1 h₄
  have hid' : e'.id = e.id := Table.key_of_find? he'
  split at h
  · rename_i hnow
    exact hmark.trans (SafePayService.releaseLocked_steps rs hc (hid' ▸ hreleased hnow)
      (hid' ▸ he') h).1
  · rename_i hnow
    obtain ⟨_, s₅, h₅, h⟩ := bind_ok.1 h
    obtain ⟨-, rfl⟩ := pure_ok.1 h
    refine hmark.trans (SqlScheduledTaskRepository.schedule_steps ?_ h₅)
    intro t htype hres hdue
    refine htask _ t htype (hres.trans hid') hdue (by simpa using hnow) ⟨f e₀, ?_, hdel⟩
    rw [e₁]
    dsimp only
    rw [Table.find?_modifyAt, if_pos rfl, he₀]
    rfl

theorem SqlSafePayRepository.findByTracking_ok {courier tracking : String} {o : Option EscrowRow}
    (h : SqlSafePayRepository.findByTracking c courier tracking s = .ok o s') :
    s = s' ∧ ∀ e, o = some e → s.db.safepayEscrows.find? e.id = some e ∧
      e.courierSlug = some courier ∧ e.trackingNumber = some tracking := by
  obtain ⟨rfl, rfl⟩ := readDb_ok.1 h
  refine ⟨rfl, ?_⟩
  intro e he
  have hmem := List.mem_of_mem_head? he
  rw [List.mem_insertionSort, List.mem_filter, decide_eq_true_eq] at hmem
  exact ⟨Table.find?_of_mem hmem.1, hmem.2⟩

/-- Why an event may move the escrow it is for. -/
def MayDeliver (c : Ctx) (L : Licence) (releaseNow : Bool) (id : Ulid) : Prop :=
  L.escrow id .delivered ∧ (releaseNow = true → L.escrow id .released) ∧
    ∀ db t, t.taskType = .escrowAutoRelease → t.resourceId = id →
      t.dueAt = c.oracle.dbNow + Time.seconds (c.settings.safepayAutoReleaseHours * 3600) →
      releaseNow = false →
      (∃ y, db.safepayEscrows.find? id = some y ∧ y.status = .delivered) → L.task db t

theorem SafePayService.courierReserved_steps {e : EscrowRow} {courier eventId f : String}
    {releaseNow : Bool} {now : Time} {b : Body} (hc : L.Covers c .escrowRelease)
    (ha : ∀ row, Answerable c row → L.answer row)
    (hl : e.status = .shipped → MayDeliver c L releaseNow e.id)
    (h : courierReserved c e courier eventId releaseNow now s = .ok b s') :
    Steps c L ⟨⟨.none, none, [SqlIdempotencyRepository.processing
      (courierTriple e courier eventId) f now]⟩, s.db⟩ ⟨.idle, s'.db⟩ := by
  obtain ⟨body, s₁, h₁, h⟩ := bind_ok.1 h
  obtain ⟨_, s₂, h₂, h⟩ := bind_ok.1 h
  obtain ⟨-, rfl⟩ := pure_ok.1 h
  have hanswer : Steps c L ⟨⟨.none, none, [SqlIdempotencyRepository.processing
      (courierTriple e courier eventId) f now]⟩, s₁.db⟩ ⟨.idle, s₂.db⟩ := by
    refine SafePayService.complete_step (ha _ ?_) rfl h₂
    exact answerable_of_isPrefixOf "POST:/courier/" (courier ++ "/delivered") String.append_assoc
      (by decide) (by decide)
  refine Relation.ReflTransGen.trans ?_ hanswer
  unfold courierEvent at h₁
  cases hst : e.status <;> simp only [hst] at h₁
  case shipped =>
    obtain ⟨hd, hr, ht⟩ := hl hst
    exact SafePayService.deliver_steps _ hc hd hr ht h₁
  case released | refunded | disputed =>
    obtain ⟨-, rfl⟩ := pure_ok.1 h₁
    exact .refl
  case awaitingShipment | delivered | cancelled =>
    exact (raise_ok.1 h₁).elim

theorem SafePayService.courierDelivered_answered {courier tracking eventId : String}
    {releaseNow : Bool} {b : Body} (hc : L.Covers c .escrowRelease)
    (ha : ∀ row, Answerable c row → L.answer row)
    (hl : ∀ x, SqlSafePayRepository.findByTracking c courier tracking s = .ok (some x) s →
      x.status = .shipped → MayDeliver c L releaseNow x.id)
    (h : SafePayService.courierDelivered c courier tracking eventId releaseNow s = .ok b s') :
    ∃ e, SqlSafePayRepository.findByTracking c courier tracking s = .ok (some e) s ∧
      CommandAnswered c L (courierTriple e courier eventId)
        (fingerprintRequest c
          [("trackingNumber", .str tracking), ("releaseImmediately", .bool releaseNow)]) s s' := by
  obtain ⟨found, s₁, h₁, h⟩ := bind_ok.1 h
  obtain ⟨rfl, -⟩ := SqlSafePayRepository.findByTracking_ok h₁
  obtain ⟨e, s₂, h₂, h⟩ := bind_ok.1 h
  obtain ⟨rfl, rfl⟩ := orRaise_ok.1 h₂
  refine ⟨e, h₁, shell_answered ?_ ?_ h⟩
  · intro now b s₁ s₂ x hr
    exact (pure_ok.1 hr).2
  · intro row now s₁ s₂ x _ hrow _ hrun
    rw [hrow]
    exact SafePayService.courierReserved_steps hc ha (hl e h₁) hrun

theorem SafePayService.autoRelease_steps {id : Ulid} {o : Option Body}
    (hc : L.Covers c .escrowRelease)
    (hl : ∀ x, s.db.safepayEscrows.find? id = some x → x.status = .delivered → L.escrow id .released)
    (h : SafePayService.autoRelease c id s = .ok o s') :
    Steps c L ⟨⟨.none, none, rs⟩, s.db⟩ ⟨⟨.none, none, rs⟩, s'.db⟩ ∧ TasksKept s.db s'.db ∧
      OnlyReleases s.db s'.db ∧
      ∀ x, s'.db.safepayEscrows.find? id = some x → x.status ≠ .delivered := by
  unfold SafePayService.autoRelease at h
  obtain ⟨found, s₁, h₁, h⟩ := bind_ok.1 h
  obtain ⟨hf, rfl⟩ := readDb_ok.1 h₁
  have hfound : s.db.safepayEscrows.find? id = found := hf
  cases found with
  | none =>
    obtain ⟨-, rfl⟩ := pure_ok.1 h
    refine ⟨.refl, .of_eq rfl, fun _ _ hx _ => hx, ?_⟩
    intro x hx
    rw [hfound] at hx
    cases hx
  | some e =>
    dsimp only at h
    split at h
    · rename_i hst
      obtain ⟨-, rfl⟩ := pure_ok.1 h
      refine ⟨.refl, .of_eq rfl, fun _ _ hx _ => hx, ?_⟩
      intro x hx
      rw [hfound] at hx
      cases hx
      exact hst
    · rename_i hst
      rw [not_not] at hst
      obtain ⟨body, s₂, h₂, h⟩ := bind_ok.1 h
      obtain ⟨-, rfl⟩ := pure_ok.1 h
      obtain rfl : e.id = id := Table.key_of_find? hf
      obtain ⟨hsteps, htasks, honly, hstatus⟩ :=
        SafePayService.releaseLocked_steps rs hc (hl e hf hst) hf h₂
      refine ⟨hsteps, htasks, honly, ?_⟩
      intro x hx
      rw [hstatus x hx]
      decide

/-! ### Dispute resolution -/

theorem SqlUserRepository.setStatus_steps {g : Progress} {id : Ulid} {status : UserStatus} {v : Unit}
    (h : SqlUserRepository.setStatus c id status s = .ok v s') :
    Steps c L ⟨g, s.db⟩ ⟨g, s'.db⟩ := by
  unfold SqlUserRepository.setStatus SqlUserRepository.modifyUser at h
  rw [writeDb_ok h]
  exact .single (.quiet _ s.db.sessions s.db.auditLogs s.db.outboxEvents (.refl _)
    (SameNumbers.usersKept (.modifyAt _ _ _ fun _ => rfl)) (.refl _))

theorem SqlSessionRepository.revokeAllForUser_steps {g : Progress} {id : Ulid} {now : Time} {v : Unit}
    (h : SqlSessionRepository.revokeAllForUser id now s = .ok v s') :
    Steps c L ⟨g, s.db⟩ ⟨g, s'.db⟩ := by
  rw [writeDb_ok h]
  exact .single (.quiet s.db.users _ s.db.auditLogs s.db.outboxEvents (.refl _) (.refl _)
    (.update _ _ _ fun _ => ⟨rfl, rfl, fun _ => rfl⟩))

theorem SafePayService.banBuyer_steps {g : Progress} {id : Ulid} {v : Unit}
    (h : banBuyer c id s = .ok v s') : Steps c L ⟨g, s.db⟩ ⟨g, s'.db⟩ := by
  unfold banBuyer at h
  obtain ⟨_, s₁, h₁, h⟩ := bind_ok.1 h
  refine (SqlUserRepository.setStatus_steps h₁).trans ?_
  obtain ⟨o, s₂, h₂, h⟩ := bind_ok.1 h
  obtain ⟨rfl, hown⟩ := SqlAccountRepository.getByUserId_ok h₂
  cases o with
  | none =>
    obtain ⟨now, s₃, h₃, h⟩ := bind_ok.1 h
    rw [← (now_ok h₃).1]
    exact SqlSessionRepository.revokeAllForUser_steps h
  | some account =>
    obtain ⟨n, s₃, h₃, h⟩ := bind_ok.1 h
    obtain ⟨now, s₄, h₄, h⟩ := bind_ok.1 h
    have hclose : Steps c L ⟨g, s₁.db⟩ ⟨g, s₃.db⟩ := by
      obtain ⟨_, s₅, h₅, h₃⟩ := bind_ok.1 h₃
      rcases updateWhere_ok h₃ with ⟨-, rfl, -⟩ | ⟨_, -, -, -, -, rfl⟩
      · rw [SqlAccountRepository.acquire_ok h₅]
      · dsimp only
        rw [SqlAccountRepository.acquire_ok h₅]
        obtain ⟨a, ha, htype, -⟩ := hown account rfl
        refine .single (.closeAccount _ _ _ fun x hx => ?_)
        obtain rfl := Option.some.inj (ha.symm.trans hx)
        exact htype
    refine hclose.trans ?_
    rw [← (now_ok h₄).1]
    exact SqlSessionRepository.revokeAllForUser_steps h

theorem SafePayService.resolveDispute_answered {id : Ulid} {decision : Decision} {note key : String}
    {ban : Bool} {req : Option String} {b : Body} (hrel : L.Covers c .escrowRelease)
    (href : L.Covers c .escrowRefund) (ha : ∀ row, Answerable c row → L.answer row)
    (hl : ∀ x, s.db.safepayEscrows.find? id = some x → x.status = .disputed →
      (decision = .release → L.escrow id .released) ∧ (decision = .refund → L.escrow id .refunded))
    (h : SafePayService.resolveDispute c id decision note ban key req s = .ok b s') :
    CommandAnswered c L ⟨id, "POST:/api/v1/admin/safepay/" ++ id.text ++ "/resolve", key⟩
      (fingerprintRequest c
        [("decision", .str decision.text), ("note", .str note), ("banBuyer", .bool ban)]) s s' := by
  unfold SafePayService.resolveDispute at h
  refine SafePayService.stateCommand_answered (fun f now => ha _ ?_) ?_ h
  · exact answerable_of_isPrefixOf "POST:/api/v1/admin/safepay/" (id.text ++ "/resolve")
      String.append_assoc (by decide) (by decide)
  intro rs now s₁ s₂ x hes hrun
  unfold resolveOnce at hrun
  obtain ⟨found, s₃, h₃, hrun⟩ := bind_ok.1 hrun
  obtain ⟨rfl, rfl⟩ := readDb_ok.1 h₃
  obtain ⟨e, s₄, h₄, hrun⟩ := bind_ok.1 hrun
  obtain ⟨he, rfl⟩ := orRaise_ok.1 h₄
  obtain ⟨_, s₅, h₅, hdecide⟩ := bind_ok.1 hrun
  obtain ⟨hdisputed, rfl⟩ := ensure_ok.1 h₅
  obtain rfl : e.id = id := Table.key_of_find? he
  have hlic := hl e (hes ▸ he) hdisputed
  cases decision with
  | release =>
    obtain ⟨body, s₆, h₆, hend⟩ := bind_ok.1 hdecide
    refine (SafePayService.releaseLocked_steps rs hrel (hlic.1 rfl) he h₆).1.trans ?_
    split at hend
    · obtain ⟨_, s₇, h₇, hend⟩ := bind_ok.1 hend
      obtain ⟨-, rfl⟩ := pure_ok.1 hend
      exact SafePayService.banBuyer_steps h₇
    · obtain ⟨-, rfl⟩ := pure_ok.1 hend
      exact .refl
  | refund =>
    obtain ⟨body, s₆, h₆, hend⟩ := bind_ok.1 hdecide
    obtain ⟨-, rfl⟩ := pure_ok.1 hend
    exact SafePayService.refundLocked_steps rs href (hlic.2 rfl) he h₆

end MoneyMovement

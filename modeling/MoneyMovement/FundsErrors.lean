/-
  MoneyMovement/FundsErrors.lean
  ==============================
  **Who is to blame when the money is not there.**

  `ensure_can_afford` is the only check of the use case that raises
  `InsufficientFundsError`, and it is made of the sender.  So an execution raises
  that error only when its own sender cannot pay: never because of a repayment,
  which takes less than the credit has just brought.
-/
import MoneyMovement.Repayments

namespace MoneyMovement

open Txn OverdraftService

/-- The error is not about missing funds, unless `P`. -/
def Blames (P : Prop) (e : AppError) : Prop := e.kind = .insufficientFunds → P

section Pieces

variable {P : Prop} {c : Ctx} {s : Session}

theorem Account.ensureActive_raises {a : Account} : RaisesOnly (Blames P) a.ensureActive s :=
  .ensure fun _ => nofun

theorem Account.ensureCanAfford_raises {a : Account} {m : Money}
    (h : ¬(a.accountType = .systemIssuance ∨ m.minor ≤ a.balance.minor) → P) :
    RaisesOnly (Blames P) (a.ensureCanAfford m) s := by
  refine .ensure fun hshort _ => h ?_
  simpa [Account.mayGoNegative] using hshort

theorem Account.debit_raises {a : Account} {m : Money}
    (h : ¬(a.accountType = .systemIssuance ∨ m.minor ≤ a.balance.minor) → P) :
    RaisesOnly (Blames P) (a.debit m) s := by
  refine .bind (.ensure fun _ => nofun) fun _ _ _ => ?_
  refine .bind ensureActive_raises fun _ _ _ => ?_
  exact .bind (ensureCanAfford_raises h) fun _ _ _ => .pure _

theorem Account.credit_raises {a : Account} {m : Money} : RaisesOnly (Blames P) (a.credit m) s := by
  refine .bind (.ensure fun _ => nofun) fun _ _ _ => ?_
  exact .bind ensureActive_raises fun _ _ _ => .pure _

theorem SqlAccountRepository.persistBalance_raises {a : Account} :
    RaisesOnly (Blames P) (SqlAccountRepository.persistBalance c a) s := by
  refine .bind (.modify _) fun _ _ _ => ?_
  exact .bind (updateWhere_raises nofun) fun _ _ _ => .ensure fun _ => nofun

theorem SqlTransferRepository.create_raises {row : TransferRow} :
    RaisesOnly (Blames P) (SqlTransferRepository.create row) s :=
  .bind (.ensure fun _ => nofun) fun _ _ _ => insertInto_raises nofun

theorem LedgerPosting.transfer?_raises {x y : Ulid} {m : Money} :
    RaisesOnly (Blames P) (LedgerPosting.transfer? x y m) s := by
  intro e s' h
  unfold LedgerPosting.transfer? at h
  split at h
  · split at h
    · cases h
    · cases h
      intro hkind
      cases hkind
  · cases h
    intro hkind
    cases hkind

theorem SqlLedgerRepository.postLines_raises {ltx : Ulid} {balances : Ulid → Option Money}
    {now : Time} {lines : List PostingLine} :
    RaisesOnly (Blames P) (SqlLedgerRepository.postLines c ltx balances now lines) s := by
  induction lines generalizing s with
  | nil => exact .pure _
  | cons line lines ih =>
    refine .bind (.of_ok rfl) fun _ _ _ => ?_
    refine .bind (.orRaise fun _ => nofun) fun _ _ _ => ?_
    exact .bind (insertInto_raises nofun) fun _ _ _ => ih

theorem SqlLedgerRepository.post_raises {posting : LedgerPosting} {t : Ulid} {kind : TransferKind}
    {note : Option String} {balances : Ulid → Option Money} {now : Time} :
    RaisesOnly (Blames P) (SqlLedgerRepository.post c posting t kind note balances now) s := by
  refine .bind (.of_ok rfl) fun _ _ _ => ?_
  refine .bind (insertInto_raises nofun) fun _ _ _ => ?_
  exact .bind postLines_raises fun _ _ _ => .pure _

theorem SqlOutboxPublisher.append_raises {e : EventType} {t : Ulid} {now : Time} {payload : Payload}
    {trace : Option String} :
    RaisesOnly (Blames P) (SqlOutboxPublisher.append c e t now payload trace) s := by
  refine .bind (.of_ok rfl) fun _ _ _ => ?_
  refine .bind (.ensure fun _ => nofun) fun _ _ _ => ?_
  exact .bind (insertInto_raises nofun) fun _ _ _ => .pure _

theorem SqlAuditRepository.record_raises {actor : Option Ulid} {action type : String}
    {id : Option Ulid} {req : Option String} {metadata : Option Payload} {now : Time} :
    RaisesOnly (Blames P) (SqlAuditRepository.record c actor action type id req metadata now) s := by
  refine .bind (.of_ok rfl) fun _ _ _ => ?_
  exact .bind (.ensure fun _ => nofun) fun _ _ _ => insertInto_raises nofun

theorem SqlIdempotencyRepository.reserve_raises {triple : IdempotencyTriple} {f : String}
    {now : Time} : RaisesOnly (Blames P) (SqlIdempotencyRepository.reserve triple f now) s := by
  refine .bind (.ensure fun _ => nofun) fun _ _ _ => ?_
  refine .bind (.query _) fun o _ _ => ?_
  cases o with
  | none => exact .bind (.modify _) fun _ _ _ => .pure _
  | some row =>
    dsimp only
    split
    · exact .pure _
    · split
      · exact .pure _
      · exact .pure _

end Pieces

section UseCase

open TransferUseCase Container

variable {P : Prop} {exec : TransferCommand → Tx TransferResult} {c : Ctx} {cmd : TransferCommand}
  {s : Session}

theorem TransferUseCase.replayResult_raises {body : Body} {id : Option Ulid} :
    RaisesOnly (Blames P) (replayResult c body id) s := by
  refine .bind (.orRaise fun _ => nofun) fun _ _ _ => ?_
  refine .bind (.orRaise fun _ => nofun) fun _ _ _ => ?_
  refine .bind ?_ fun _ _ _ => .pure _
  unfold storedCompletedAt
  split
  · exact .orRaise fun _ => nofun
  · exact .of_ok rfl

theorem TransferUseCase.handleIdempotencyDecision_raises {decision : IdempotencyDecision} :
    RaisesOnly (Blames P) (handleIdempotencyDecision c decision) s := by
  cases decision with
  | proceed => exact .pure _
  | payloadMismatch => exact .raise nofun
  | inProgress => exact .raise nofun
  | replay _ _ _ => exact .bind replayResult_raises fun _ _ _ => .pure _

theorem TransferUseCase.lockParties_raises :
    RaisesOnly (Blames P) (lockParties (useCaseOver exec c) cmd) s := by
  have hextra : RaisesOnly (Blames P) (extraLockIds (useCaseOver exec c) cmd) s := by
    show RaisesOnly (Blames P) (additionalLockIds cmd.receiverAccountId cmd.kind) s
    unfold additionalLockIds
    split
    · exact .pure _
    · refine .bind (.query _) fun o _ _ => ?_
      cases o with
      | none => exact .pure _
      | some a =>
        cases hu : sweepable a.accountType a.userId with
        | none =>
          simp only [hu]
          exact .pure _
        | some u =>
          simp only [hu]
          exact .bind (.query _) fun _ _ _ => .pure _
  refine .bind hextra fun _ _ _ => ?_
  refine .bind (.bind (.modify _) fun _ _ _ => .query _) fun _ _ _ => ?_
  refine .bind (.orRaise fun _ => nofun) fun _ _ _ => ?_
  exact .bind (.orRaise fun _ => nofun) fun _ _ _ => .pure _

theorem TransferUseCase.checkLimits_raises {a : Account} {m : Money} {now : Time} :
    RaisesOnly (Blames P) (checkLimits (useCaseOver exec c) cmd a m now) s := by
  unfold checkLimits
  split
  · refine .bind (.query _) fun _ _ _ => ?_
    exact .bind (.ensure fun _ => nofun) fun _ _ _ => .ensure fun _ => nofun
  · exact .pure _

theorem TransferUseCase.revalidate_raises {a b : Account} {now : Time}
    (h : ¬(a.accountType = .systemIssuance ∨ cmd.amount.minor ≤ a.balance.minor) → P) :
    RaisesOnly (Blames P) (revalidate (useCaseOver exec c) cmd a b now) s := by
  have htotal : (cmd.amount.add ((useCaseOver exec c).feeStrategy cmd.amount)).minor =
      cmd.amount.minor := Int.add_zero _
  refine .bind (.ensure fun _ => nofun) fun _ _ _ => ?_
  refine .bind Account.ensureActive_raises fun _ _ _ => ?_
  refine .bind Account.ensureActive_raises fun _ _ _ => ?_
  refine .bind (.ensure fun _ => nofun) fun _ _ _ => ?_
  refine .bind checkLimits_raises fun _ _ _ => ?_
  refine .bind (Account.ensureCanAfford_raises ?_) fun _ _ _ => .pure _
  rw [htotal]
  exact h

theorem TransferUseCase.applyMovement_raises {a b : Account} {fee : Money} {now : Time}
    (h : ¬(a.accountType = .systemIssuance ∨ (cmd.amount.add fee).minor ≤ a.balance.minor) → P) :
    RaisesOnly (Blames P) (applyMovement c cmd a b fee now) s := by
  refine .bind (Account.debit_raises h) fun _ _ _ => ?_
  refine .bind Account.credit_raises fun _ _ _ => ?_
  refine .bind SqlAccountRepository.persistBalance_raises fun _ _ _ => ?_
  refine .bind SqlAccountRepository.persistBalance_raises fun _ _ _ => ?_
  refine .bind (.of_ok rfl) fun _ _ _ => ?_
  refine .bind (.of_ok rfl) fun _ _ _ => ?_
  refine .bind SqlTransferRepository.create_raises fun _ _ _ => ?_
  refine .bind LedgerPosting.transfer?_raises fun _ _ _ => ?_
  refine .bind SqlLedgerRepository.post_raises fun _ _ _ => ?_
  refine .bind SqlOutboxPublisher.append_raises fun _ _ _ => ?_
  refine .bind (.modify _) fun _ _ _ => ?_
  exact .bind SqlAuditRepository.record_raises fun _ _ _ => .pure _

/-- The use case blames its sender, or what the interceptor blames. -/
theorem TransferUseCase.execute_raises
    (hshort : ∀ a, s.db.accounts.find? cmd.senderAccountId = some a →
      ¬(a.accountType = .systemIssuance ∨ cmd.amount.minor ≤ a.balanceMinor) → P)
    (hcredit : ∀ (p : Posting) (s₁ : Session), p.cmd = cmd → p.Valid c s.db →
      (∃ logs, s₁.db = { p.apply s.db with auditLogs := logs }) →
      RaisesOnly (Blames P)
        (afterCredit exec c p.transferId p.credited cmd.amount cmd.kind cmd.requestId) s₁) :
    RaisesOnly (Blames P) ((useCaseOver exec c).execute c cmd) s := by
  refine .bind (.of_ok rfl) fun now s₁ h₁ => ?_
  have e₁ := (now_ok h₁).1
  refine .bind SqlIdempotencyRepository.reserve_raises fun decision s₂ h₂ => ?_
  refine .bind handleIdempotencyDecision_raises fun o s₃ h₃ => ?_
  cases o with
  | some replay => exact .pure _
  | none =>
    rcases SqlIdempotencyRepository.reserve_ok h₂ with ⟨rfl, hkey, e₂⟩ | ⟨rfl, row, hrow, hd⟩
    · obtain ⟨-, rfl⟩ := pure_ok.1 h₃
      rw [e₁] at hkey e₂
      refine .bind (.ensure fun _ => nofun) fun _ s₄ h₄ => ?_
      obtain ⟨hne, rfl⟩ := ensure_ok.1 h₄
      refine .bind lockParties_raises fun parties s₅ h₅ => ?_
      obtain ⟨e₅, a, b, ha, hb, hparties⟩ := lockParties_ok h₅
      have hpays : ¬(parties.1.accountType = .systemIssuance ∨
          cmd.amount.minor ≤ parties.1.balance.minor) → P := by
        rw [e₂] at ha
        rw [hparties]
        exact hshort a ha
      refine .bind (revalidate_raises hpays) fun fee s₆ h₆ => ?_
      obtain ⟨-, hfee, -, -, -, -, hafford⟩ := revalidate_ok h₆
      refine .bind (applyMovement_raises fun hpoor => ?_) fun m s₇ h₇ => ?_
      · refine absurd hafford fun hcan => hpoor ?_
        rw [hfee]
        exact hcan.imp_right fun hle => (Int.le_of_eq (Int.add_zero _)).trans hle
      obtain ⟨p, logs, hcmd, -, hv, -, rfl, e₇⟩ := movement_ok hkey e₂ hne h₅ h₆ h₇
      refine .bind (hcredit p s₇ hcmd hv ⟨logs, e₇⟩) fun _ _ _ => ?_
      exact .bind (.modify _) fun _ _ _ => .pure _
    · -- a key that is taken never gets here
      rcases hd with ⟨rfl, -⟩ | ⟨-, -, rfl⟩ | ⟨-, -, rfl⟩
      · exact (raise_ok.1 h₃).elim
      · obtain ⟨_, _, _, h₃⟩ := bind_ok.1 h₃
        cases (pure_ok.1 h₃).1
      · exact (raise_ok.1 h₃).elim

/-- A loan leg fails for lack of funds only when its sender cannot pay. -/
theorem execute_raises_of_loanLeg (hleg : isLoanLeg cmd.kind = true)
    (hshort : ∀ a, s.db.accounts.find? cmd.senderAccountId = some a →
      ¬(a.accountType = .systemIssuance ∨ cmd.amount.minor ≤ a.balanceMinor) → P) :
    RaisesOnly (Blames P) (execute c cmd) s := by
  rw [execute_wired]
  refine TransferUseCase.execute_raises hshort fun p s₁ _ _ _ => ?_
  simp only [afterCredit, hleg, if_true]
  exact .pure _

theorem SqlOverdraftRepository.applyRepayment_raises {loan t incoming : Ulid} {n : Int} {now : Time} :
    RaisesOnly (Blames P) (SqlOverdraftRepository.applyRepayment c loan t n incoming now) s := by
  refine .bind (.query _) fun o _ _ => ?_
  cases o with
  | none => exact .pure _
  | some loan =>
    dsimp only
    split
    · refine .bind (updateWhere_raises nofun) fun _ _ _ => ?_
      exact .bind (.of_ok rfl) fun _ _ _ => insertInto_raises nofun
    · exact .pure _

/-- No round of the loop fails for lack of funds: what is left of the budget is in the account. -/
theorem OverdraftService.sweep_raises {x : Lien} {loans : List (LoanRow × PoolRow)} {budget : Int}
    (hx : Liable x loans s.db) (hbudget : budget ≤ balanceOf s.db.accounts x.receiverId) :
    RaisesOnly (Blames P)
      (sweep (execute c) c x.transferId x.receiverId x.userId x.currency x.requestId loans budget) s := by
  induction loans generalizing s budget with
  | nil => exact .pure _
  | cons l loans ih =>
    rw [sweep]
    split
    · exact .pure _
    · have hround : RaisesOnly (Blames P) (repayOne (execute c) c x.transferId x.receiverId x.userId
          x.currency x.requestId l.1 l.2 (min budget l.1.outstandingMinor)) s := by
        refine .bind (execute_raises_of_loanLeg rfl ?_) fun _ _ _ => ?_
        · intro a ha hpoor
          have hbalance : balanceOf s.db.accounts x.receiverId = a.balanceMinor := balanceOf_of_find? ha
          refine absurd (.inr ?_) hpoor
          show min budget l.1.outstandingMinor ≤ a.balanceMinor
          omega
        · exact .bind (.of_ok rfl) fun _ _ _ => SqlOverdraftRepository.applyRepayment_raises
      refine .bind hround fun _ s₁ h₁ => ?_
      have hle : min budget l.1.outstandingMinor ≤ due l := Int.min_le_right _ _
      obtain ⟨p, hp⟩ := OverdraftService.repayOne_ok (hx.repayable _ List.mem_cons_self) hle hx.owner
        hx.incoming (hx.keys _ List.mem_cons_self) h₁
      refine ih (hx.next hp) ?_
      have hpool : l.2.poolAccountId ≠ x.receiverId := by
        have := hp.valid.parties_ne
        rw [hp.cmd_eq] at this
        exact this.symm
      rw [hp.balanceOf, if_pos rfl, if_neg hpool]
      omega

/-- Whatever it credits, an execution fails for lack of funds only when its sender cannot pay:
    the receiver has at least the budget of the lien. -/
theorem execute_raises (hstanding : Standing s.db)
    (hsolvent : ∀ a ∈ s.db.accounts.rows, a.accountType ≠ .systemIssuance → 0 ≤ a.balanceMinor)
    (hshort : ∀ a, s.db.accounts.find? cmd.senderAccountId = some a →
      ¬(a.accountType = .systemIssuance ∨ cmd.amount.minor ≤ a.balanceMinor) → P) :
    RaisesOnly (Blames P) (execute c cmd) s := by
  rw [execute_wired]
  refine TransferUseCase.execute_raises hshort fun p s₁ hcmd hv ⟨logs, e₁⟩ => ?_
  have hid : p.receiver.id = p.cmd.receiverAccountId := Table.key_of_find? hv.receiver_found
  unfold afterCredit
  split
  · exact .pure _
  · cases hu : sweepable p.credited.accountType p.credited.userId with
    | none =>
      dsimp only
      exact .pure _
    | some u =>
      dsimp only
      split
      · exact .pure _
      · refine .bind (.query _) fun loans s₂ h₂ => ?_
        obtain ⟨rfl, rfl⟩ := readDb_ok.1 h₂
        obtain ⟨htype, hown⟩ := sweepable_eq_some hu
        refine OverdraftService.sweep_raises
          (Posting.liable hv hstanding e₁ htype hown cmd.amount.currency cmd.requestId) ?_
        have hbudget := lienBudget_le c (m := cmd.amount) (hcmd ▸ hv.amount_pos)
        have hzero := hsolvent _ (Table.mem_of_find? hv.receiver_found)
          (by rw [show p.receiver.accountType = .user from htype]; nofun)
        have hbalance : balanceOf s₁.db.accounts p.credited.id =
            p.receiver.balanceMinor + p.cmd.amount.minor := by
          rw [e₁]
          show balanceOf (p.accountsAfter s.db.accounts) p.receiver.id = _
          rw [hid, hv.balanceOf_accountsAfter, if_neg hv.parties_ne.symm, if_pos rfl,
            balanceOf_of_find? hv.receiver_found, Int.sub_zero]
        show _ ≤ balanceOf s₁.db.accounts p.credited.id
        rw [hbalance, hcmd]
        omega

end UseCase

end MoneyMovement

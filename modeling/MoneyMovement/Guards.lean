/-
  MoneyMovement/Guards.lean
  =========================
  **What guards a PIN and a delivery code, and who touches it.**

  A user's row and an open escrow's row each carry a lockout counter.  Only the
  PIN check writes the first and only the check of a delivery code writes the
  second.  Everything else keeps both; an escrow that leaves the statuses in which
  a code is accepted has no guard any more.

  `Keeps` says this of a computation, however it ends.  It is proved statement by
  statement and service by service, as the text of the program goes.
-/
import MoneyMovement.Lockout
import MoneyMovement.Requests

namespace MoneyMovement

open Txn Lockout

/-- The guard of a user's PIN; that of a user who is not there yet is fresh. -/
def Database.pinGuard (db : Database) (u : Ulid) : Guard :=
  match db.users.find? u with
  | none => .fresh
  | some row => ⟨row.pinFailedAttempts, row.pinLockedUntil⟩

/-- The guard of an escrow's delivery code, as long as a code is accepted. -/
def Database.codeGuard (db : Database) (e : Ulid) : Option Guard :=
  match db.safepayEscrows.find? e with
  | none => some .fresh
  | some row =>
    if SafePayService.acceptsCode row.status then
      some ⟨row.deliveryCodeAttempts, row.deliveryCodeLockedUntil⟩
    else none

theorem Database.pinGuard_of_some {db : Database} {u : Ulid} {row : UserRow}
    (h : db.users.find? u = some row) :
    db.pinGuard u = ⟨row.pinFailedAttempts, row.pinLockedUntil⟩ := by
  rw [pinGuard, h]

theorem Database.codeGuard_of_some {db : Database} {e : Ulid} {row : EscrowRow}
    (h : db.safepayEscrows.find? e = some row) :
    db.codeGuard e = if SafePayService.acceptsCode row.status then
      some ⟨row.deliveryCodeAttempts, row.deliveryCodeLockedUntil⟩ else none := by
  rw [codeGuard, h]

/-! ### Keeping the guards -/

def PinsKept (s s' : Session) : Prop := ∀ u, s'.db.pinGuard u = s.db.pinGuard u

def CodesKept (s s' : Session) : Prop :=
  ∀ e, s'.db.codeGuard e = s.db.codeGuard e ∨ s'.db.codeGuard e = none

/-- Every PIN's guard is kept, and every code's while a code is accepted. -/
structure GuardsKept (s s' : Session) : Prop where
  pins : PinsKept s s'
  codes : CodesKept s s'

instance : Std.Refl PinsKept := ⟨fun _ _ => rfl⟩

instance : IsTrans Session PinsKept := ⟨fun _ _ _ h h' u => (h' u).trans (h u)⟩

instance : Std.Refl CodesKept := ⟨fun _ _ => .inl rfl⟩

instance : IsTrans Session CodesKept := ⟨by
  intro s s₁ s₂ h h' e
  rcases h' e with h' | h'
  · rw [h']
    exact h e
  · exact .inr h'⟩

instance : Std.Refl GuardsKept := ⟨fun _ => ⟨Std.Refl.refl _, Std.Refl.refl _⟩⟩

instance : IsTrans Session GuardsKept :=
  ⟨fun _ _ _ h h' => ⟨IsTrans.trans _ _ _ h.pins h'.pins, IsTrans.trans _ _ _ h.codes h'.codes⟩⟩

/-- The computation keeps the guards. -/
abbrev Keeps {α : Type} (m : Tx α) : Prop := Always GuardsKept m

theorem GuardsKept.same {s s' : Session} (hu : s'.db.users = s.db.users)
    (he : s'.db.safepayEscrows = s.db.safepayEscrows) : GuardsKept s s' := by
  refine ⟨fun u => ?_, fun e => .inl ?_⟩
  · rw [Database.pinGuard, hu]
    rfl
  · rw [Database.codeGuard, he]
    rfl

section Statements

variable {α : Type} {c : Ctx} {ρ κ : Type} {key : ρ → κ} [DecidableEq κ]
  {get : Database → Table key} {set : Database → Table key → Database}

namespace Keeps

/-- A statement that leaves users and escrows alone. -/
theorem write {f : Database → Database} (hu : ∀ db, (f db).users = db.users)
    (he : ∀ db, (f db).safepayEscrows = db.safepayEscrows) : Keeps (writeDb f) :=
  Always.modify fun _ => .same (hu _) (he _)

theorem read (f : Database → α) : Keeps (readDb f) := Always.query _

theorem insert {row : ρ} {admits : Database → Bool} (hu : ∀ db t, (set db t).users = db.users)
    (he : ∀ db t, (set db t).safepayEscrows = db.safepayEscrows) :
    Keeps (insertInto get set row admits) :=
  insertInto_always fun _ _ => .same (hu _ _) (he _ _)

theorem update {k : κ} {p : ρ → Bool} {f : ρ → ρ} {hf : ∀ r, key (f r) = key r}
    {admits : Database → ρ → Bool} (hu : ∀ db t, (set db t).users = db.users)
    (he : ∀ db t, (set db t).safepayEscrows = db.safepayEscrows) :
    Keeps (updateWhere get set k p f hf admits) :=
  updateWhere_always fun _ _ => .same (hu _ _) (he _ _)

end Keeps

/-! ### Draws and locks -/

theorem now_keeps : Keeps (now c) := fun _ => .same rfl rfl

theorem newUlid_keeps : Keeps (newUlid c) := fun _ => .same rfl rfl

theorem generateReference_keeps (pfx : String) (t : Time) : Keeps (generateReference c pfx t) :=
  fun _ => .same rfl rfl

theorem tokenUrlsafe_keeps : Keeps (tokenUrlsafe c) := fun _ => .same rfl rfl

theorem hashPassword_keeps (secret : String) : Keeps (hashPassword c secret) := fun _ => .same rfl rfl

end Statements

/-! ### Repositories of the financial core -/

section Core

variable {c : Ctx}

namespace SqlAccountRepository

theorem acquire_keeps (ids : List Ulid) : Keeps (acquire ids) := fun _ => .same rfl rfl

theorem lockForUpdate_keeps (ids : List Ulid) : Keeps (lockForUpdate ids) :=
  .bind (acquire_keeps ids) fun _ => .query _

theorem createSubaccount_keeps (id : Ulid) (u : Option Ulid) (type : AccountType) (number : String)
    (currency : Currency) (now : Time) : Keeps (createSubaccount id u type number currency now) :=
  .bind (.ensure _ _) fun _ => Keeps.insert (fun _ _ => rfl) fun _ _ => rfl

theorem setStatus_keeps (id : Ulid) (status : AccountStatus) : Keeps (setStatus c id status) :=
  .bind (acquire_keeps _) fun _ => Keeps.update (fun _ _ => rfl) fun _ _ => rfl

theorem persistBalance_keeps (a : Account) : Keeps (persistBalance c a) := by
  refine .bind (acquire_keeps _) fun _ => .bind ?_ fun n => .ensure _ _
  exact Keeps.update (fun _ _ => rfl) fun _ _ => rfl

end SqlAccountRepository

namespace Account

theorem debit_keeps (a : Account) (amount : Money) : Keeps (a.debit amount) :=
  .bind (.ensure _ _) fun _ => .bind (.ensure _ _) fun _ => .bind (.ensure _ _) fun _ => .pure _

theorem credit_keeps (a : Account) (amount : Money) : Keeps (a.credit amount) :=
  .bind (.ensure _ _) fun _ => .bind (.ensure _ _) fun _ => .pure _

end Account

theorem SqlTransferRepository.create_keeps (row : TransferRow) :
    Keeps (SqlTransferRepository.create row) :=
  .bind (.ensure _ _) fun _ => Keeps.insert (fun _ _ => rfl) fun _ _ => rfl

theorem SqlTransferRepository.tryTransitionStatus_keeps (id : Ulid) (source target : TransferStatus) :
    Keeps (tryTransitionStatus c id source target) := Keeps.update (fun _ _ => rfl) fun _ _ => rfl

theorem LedgerPosting.transfer?_keeps (a b : Ulid) (amount : Money) :
    Keeps (LedgerPosting.transfer? a b amount) := by
  intro s
  unfold LedgerPosting.transfer?
  split
  · split <;> exact Std.Refl.refl s
  · exact Std.Refl.refl s

namespace SqlLedgerRepository

theorem postLines_keeps (id : Ulid) (balances : Ulid → Option Money) (now : Time)
    (lines : List PostingLine) : Keeps (postLines c id balances now lines) := by
  induction lines with
  | nil => exact .pure _
  | cons line lines ih =>
    refine .bind newUlid_keeps fun entry => .bind (.orRaise _ _) fun balance => ?_
    exact .bind (Keeps.insert (fun _ _ => rfl) fun _ _ => rfl) fun _ => ih

theorem post_keeps (posting : LedgerPosting) (id : Ulid) (type : TransferKind)
    (description : Option String) (balances : Ulid → Option Money) (now : Time) :
    Keeps (post c posting id type description balances now) := by
  refine .bind newUlid_keeps fun transaction => ?_
  refine .bind (Keeps.insert (fun _ _ => rfl) fun _ _ => rfl) fun _ => ?_
  exact .bind (postLines_keeps _ _ _ _) fun _ => .pure _

end SqlLedgerRepository

theorem SqlIdempotencyRepository.reserve_keeps (k : IdempotencyTriple) (f : String) (now : Time) :
    Keeps (reserve k f now) := by
  refine .bind (.ensure _ _) fun _ => .bind (.query _) fun found => ?_
  cases found with
  | none => exact .bind (Keeps.write (fun _ => rfl) fun _ => rfl) fun _ => .pure _
  | some row => exact Always.ite _ (.pure _) (Always.ite _ (.pure _) (.pure _))

theorem SqlIdempotencyRepository.complete_keeps (k : IdempotencyTriple) (id : Ulid) (status : Nat)
    (body : Body) (now : Time) : Keeps (complete k id status body now) :=
  Keeps.write (fun _ => rfl) fun _ => rfl

theorem replayBodyOrRaise_keeps (decision : IdempotencyDecision) :
    Keeps (replayBodyOrRaise decision) := by
  cases decision with
  | proceed => exact .pure _
  | replay status body id => exact .pure _
  | inProgress => exact .raise _
  | payloadMismatch => exact .raise _

theorem SqlOutboxPublisher.append_keeps (type : EventType) (id : Ulid) (t : Time) (payload : Payload)
    (trace : Option String) : Keeps (append c type id t payload trace) := by
  refine .bind newUlid_keeps fun event => .bind (.ensure _ _) fun _ => ?_
  exact .bind (Keeps.insert (fun _ _ => rfl) fun _ _ => rfl) fun _ => .pure _

theorem SqlAuditRepository.record_keeps (actor : Option Ulid) (action type : String)
    (id : Option Ulid) (req : Option String) (metadata : Option Payload) (t : Time) :
    Keeps (record c actor action type id req metadata t) :=
  .bind newUlid_keeps fun _ => .bind (.ensure _ _) fun _ =>
    Keeps.insert (fun _ _ => rfl) fun _ _ => rfl

/-! ### Tasks -/

namespace SqlScheduledTaskRepository

theorem cancel_keeps (type : TaskType) (resource : Ulid) : Keeps (cancel c type resource) :=
  Keeps.write (fun _ => rfl) fun _ => rfl

theorem complete_keeps (id : Ulid) : Keeps (complete c id) := Keeps.write (fun _ => rfl) fun _ => rfl

theorem recordFailure_keeps (id : Ulid) (attempt : Nat) (error : String) (max : Nat) :
    Keeps (recordFailure c id attempt error max) := Keeps.write (fun _ => rfl) fun _ => rfl

theorem schedule_keeps (type : TaskType) (resource : Ulid) (delay : Nat) :
    Keeps (schedule c type resource delay) := by
  refine .bind newUlid_keeps fun id => .bind (.query _) fun b => Always.ite _ (.pure _) ?_
  exact Keeps.insert (fun _ _ => rfl) fun _ _ => rfl

end SqlScheduledTaskRepository

/-! ### The transfer use case -/

namespace TransferUseCase

open OverdraftService Container

variable {exec : TransferCommand → Tx TransferResult} {cmd : TransferCommand}

theorem handleIdempotencyDecision_keeps (decision : IdempotencyDecision) :
    Keeps (handleIdempotencyDecision c decision) := by
  cases decision with
  | proceed => exact .pure _
  | inProgress => exact .raise _
  | payloadMismatch => exact .raise _
  | replay status body id =>
    refine .bind (.bind (.orRaise _ _) fun currency => .bind (.orRaise _ _) fun transfer => ?_)
      fun _ => .pure _
    refine .bind ?_ fun t => .pure _
    unfold storedCompletedAt
    split
    · exact .orRaise _ _
    · exact now_keeps

theorem additionalLockIds_keeps (id : Ulid) (kind : TransferKind) :
    Keeps (additionalLockIds id kind) := by
  refine Always.ite _ (.pure _) (.bind (.query _) fun found => ?_)
  cases found with
  | none => exact .pure _
  | some receiver =>
    dsimp only
    split
    · exact .pure _
    · exact .bind (.query _) fun loans => .pure _

theorem lockParties_keeps : Keeps (lockParties (useCaseOver exec c) cmd) := by
  refine .bind (additionalLockIds_keeps _ _) fun extra => ?_
  refine .bind (SqlAccountRepository.lockForUpdate_keeps _) fun locked => ?_
  exact .bind (.orRaise _ _) fun sender => .bind (.orRaise _ _) fun receiver => .pure _

theorem checkLimits_keeps (sender : Account) (total : Money) (now : Time) :
    Keeps (checkLimits (useCaseOver exec c) cmd sender total now) := by
  refine Always.ite _ (.bind (.query _) fun sent => ?_) (.pure _)
  exact .bind (.ensure _ _) fun _ => .ensure _ _

theorem revalidate_keeps (sender receiver : Account) (now : Time) :
    Keeps (revalidate (useCaseOver exec c) cmd sender receiver now) := by
  refine .bind (.ensure _ _) fun _ => .bind (.ensure _ _) fun _ => ?_
  refine .bind (.ensure _ _) fun _ => .bind (.ensure _ _) fun _ => ?_
  exact .bind (checkLimits_keeps _ _ _) fun _ => .bind (.ensure _ _) fun _ => .pure _

theorem applyMovement_keeps (sender receiver : Account) (fee : Money) (now : Time) :
    Keeps (applyMovement c cmd sender receiver fee now) := by
  refine .bind (sender.debit_keeps _) fun debited => .bind (receiver.credit_keeps _) fun credited => ?_
  refine .bind (SqlAccountRepository.persistBalance_keeps _) fun _ => ?_
  refine .bind (SqlAccountRepository.persistBalance_keeps _) fun _ => ?_
  refine .bind newUlid_keeps fun transfer => .bind (generateReference_keeps _ _) fun reference => ?_
  refine .bind (SqlTransferRepository.create_keeps _) fun _ => ?_
  refine .bind (LedgerPosting.transfer?_keeps _ _ _) fun posting => ?_
  refine .bind (SqlLedgerRepository.post_keeps _ _ _ _ _ _) fun transaction => ?_
  refine .bind (SqlOutboxPublisher.append_keeps _ _ _ _ _) fun event => ?_
  refine .bind (Keeps.write (fun _ => rfl) fun _ => rfl) fun _ => ?_
  exact .bind (SqlAuditRepository.record_keeps _ _ _ _ _ _ _) fun _ => .pure _

theorem applyRepayment_keeps (loan transfer : Ulid) (amount : Int) (trigger : Ulid) (now : Time) :
    Keeps (SqlOverdraftRepository.applyRepayment c loan transfer amount trigger now) := by
  refine .bind (.query _) fun found => ?_
  cases found with
  | none => exact .pure _
  | some loan =>
    refine Always.ite _ ?_ (.pure _)
    refine .bind (Keeps.update (fun _ _ => rfl) fun _ _ => rfl) fun _ => ?_
    exact .bind newUlid_keeps fun id => Keeps.insert (fun _ _ => rfl) fun _ _ => rfl

theorem sweep_keeps (hexec : ∀ cmd, Keeps (exec cmd)) (transfer receiver u : Ulid)
    (currency : Currency) (req : Option String) (loans : List (LoanRow × PoolRow)) (budget : Int) :
    Keeps (sweep exec c transfer receiver u currency req loans budget) := by
  induction loans generalizing budget with
  | nil => exact .pure _
  | cons l loans ih =>
    refine Always.ite _ (.pure _) (.bind (.bind (hexec _) fun repayment => ?_) fun _ => ih _)
    exact .bind now_keeps fun t => applyRepayment_keeps _ _ _ _ _

theorem afterCredit_keeps (hexec : ∀ cmd, Keeps (exec cmd)) (transfer : Ulid) (receiver : Account)
    (amount : Money) (kind : TransferKind) (req : Option String) :
    Keeps (afterCredit exec c transfer receiver amount kind req) := by
  refine Always.ite _ (.pure _) ?_
  split
  · exact .pure _
  · exact Always.ite _ (.pure _) (.bind (.query _) fun loans => sweep_keeps hexec _ _ _ _ _ _ _)

theorem executeOver_keeps (hexec : ∀ cmd, Keeps (exec cmd)) :
    Keeps ((useCaseOver exec c).execute c cmd) := by
  refine .bind now_keeps fun t => .bind (SqlIdempotencyRepository.reserve_keeps _ _ _) fun decision => ?_
  refine .bind (handleIdempotencyDecision_keeps _) fun replay => ?_
  cases replay with
  | some r => exact .pure _
  | none =>
    refine .bind (.ensure _ _) fun _ => .bind lockParties_keeps fun parties => ?_
    refine .bind (revalidate_keeps _ _ _) fun fee => .bind (applyMovement_keeps _ _ _ _) fun m => ?_
    refine .bind (afterCredit_keeps hexec _ _ _ _ _) fun _ => ?_
    exact .bind (SqlIdempotencyRepository.complete_keeps _ _ _ _ _) fun _ => .pure _

end TransferUseCase

/-- The wired use case. -/
theorem execute_keeps (cmd : TransferCommand) : Keeps (execute c cmd) :=
  TransferUseCase.executeOver_keeps fun _ => TransferUseCase.executeOver_keeps fun _ => .raise _

end Core

end MoneyMovement

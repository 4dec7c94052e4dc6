/-
  MoneyMovement/CreditLien.lean
  =============================
  **The repayment lien and the wired transfer use case** — the interceptor half
  of `overdraft/application/service.py` and the composition root
  (`apps/api/container.py`).

  The use case calls the lien after every credit, and the lien posts its
  repayments through the same use case.  `wiredAt` unrolls that cycle; a
  repayment is never itself swept, so two levels are enough, and
  `execute_wired` is the equation of the cycle as the container wires it.
-/
import MoneyMovement.TransferUseCase
import MoneyMovement.FeatureRepositories

namespace MoneyMovement

open Txn

namespace OverdraftService

/-- Credits that are themselves part of a loan are not swept. -/
def isLoanLeg : TransferKind → Bool
  | .overdraftDraw | .overdraftRepay => true
  | _ => false

/-- The user whose account may be swept: the owner of a `USER` account. -/
def sweepable (accountType : AccountType) (userId : Option Ulid) : Option Ulid :=
  if accountType = .user then userId else none

/-- `additional_lock_ids`: the pools the receiver owes. -/
def additionalLockIds (receiverAccountId : Ulid) (kind : TransferKind) : Tx (List Ulid) := do
  if isLoanLeg kind then return []
  else
    match ← SqlAccountRepository.getById receiverAccountId with
    | none => return []
    | some receiver =>
      match sweepable receiver.accountType receiver.userId with
      | none => return []
      | some u => do
        let loans ← SqlOverdraftRepository.outstandingLoans u
        return loans.map fun l => l.2.poolAccountId

/-- The command that repays one loan out of an incoming credit. -/
def repayCommand (c : Ctx) (incomingTransferId : Ulid) (receiverId userId : Ulid)
    (currency : Currency) (requestId : Option String) (loan : LoanRow) (pool : PoolRow)
    (repayMinor : Int) : TransferCommand where
  actorUserId := userId
  senderAccountId := receiverId
  receiverAccountId := pool.poolAccountId
  amount := .fromMinor repayMinor currency
  idempotencyKey := "lien:" ++ incomingTransferId.text ++ ":" ++ loan.id.text
  requestFingerprint := fingerprintRequest c
    [("incomingTransferId", .str incomingTransferId.text), ("loanId", .str loan.id.text),
      ("amountMinor", .int repayMinor)]
  kind := .overdraftRepay
  note := some "Automatic Spot-Me repayment"
  requestId := requestId
  enforceLimits := false
  idempotencyEndpoint := "INTERNAL:/overdraft/lien-repayment"

/-- Repay one loan: the transfer, then the loan row. -/
def repayOne (exec : TransferCommand → Tx TransferResult) (c : Ctx) (incomingTransferId : Ulid)
    (receiverId userId : Ulid) (currency : Currency) (requestId : Option String) (loan : LoanRow)
    (pool : PoolRow) (repayMinor : Int) : Tx Unit := do
  let repayment ← exec
    (repayCommand c incomingTransferId receiverId userId currency requestId loan pool repayMinor)
  let now ← now c
  SqlOverdraftRepository.applyRepayment c loan.id repayment.transferId repayMinor
    incomingTransferId now

/-- The loop of `after_credit`: oldest loan first, until the budget is spent. -/
def sweep (exec : TransferCommand → Tx TransferResult) (c : Ctx) (incomingTransferId : Ulid)
    (receiverId userId : Ulid) (currency : Currency) (requestId : Option String) :
    List (LoanRow × PoolRow) → Int → Tx Unit
  | [], _ => pure ()
  | (loan, pool) :: loans, budget =>
    if budget ≤ 0 then pure ()
    else do
      repayOne exec c incomingTransferId receiverId userId currency requestId loan pool
        (min budget loan.outstandingMinor)
      sweep exec c incomingTransferId receiverId userId currency requestId loans
        (budget - min budget loan.outstandingMinor)

/-- The part of a credit the lien may take. -/
def lienBudget (c : Ctx) (amount : Money) : Int :=
  amount.minor * c.settings.overdraftLienSweepBasisPoints / 10000

/-- `after_credit`. -/
def afterCredit (exec : TransferCommand → Tx TransferResult) (c : Ctx) (incomingTransferId : Ulid)
    (receiver : Account) (amount : Money) (kind : TransferKind) (requestId : Option String) :
    Tx Unit := do
  if isLoanLeg kind then return ()
  else
    match sweepable receiver.accountType receiver.userId with
    | none => return ()
    | some u =>
      if lienBudget c amount ≤ 0 then return ()
      else do
        let loans ← SqlOverdraftRepository.outstandingLoans u
        sweep exec c incomingTransferId receiver.id u amount.currency requestId loans
          (lienBudget c amount)

/-- The interceptor over a given use case. -/
def interceptor (exec : TransferCommand → Tx TransferResult) (c : Ctx) : CreditInterceptor where
  additionalLockIds := additionalLockIds
  afterCredit := afterCredit exec c

end OverdraftService

/-! ### The composition root (`apps/api/container.py`) -/

namespace Container

def limits (c : Ctx) : TransferLimits :=
  ⟨c.settings.maxTransferAmountMinor, c.settings.dailyTransferLimitMinor⟩

/-- The use case with an interceptor that calls back `exec`. -/
def useCaseOver (exec : TransferCommand → Tx TransferResult) (c : Ctx) : TransferUseCase where
  feeStrategy := noFeeStrategy
  limitPolicy := defaultLimitPolicy (limits c)
  creditInterceptor := some (OverdraftService.interceptor exec c)

/-- The cycle unrolled `n` times; below that, the recursion has no bottom. -/
def wiredAt (c : Ctx) : Nat → TransferCommand → Tx TransferResult
  | 0 => fun _ => raise ⟨.python, "maximum recursion depth exceeded", []⟩
  | n + 1 => (useCaseOver (wiredAt c n) c).execute c

end Container

/-- `container.transfer_use_case.execute`. -/
def execute (c : Ctx) (cmd : TransferCommand) : Tx TransferResult := Container.wiredAt c 2 cmd

/-- The wired use case. -/
def transferUseCase (c : Ctx) : TransferUseCase := Container.useCaseOver (execute c) c

section Cycle

open OverdraftService Container

variable {c : Ctx}

/-- A loan leg is not swept, so nothing depends on what the interceptor calls back. -/
theorem execute_loanLeg (exec exec' : TransferCommand → Tx TransferResult) {cmd : TransferCommand}
    (h : isLoanLeg cmd.kind = true) :
    (useCaseOver exec c).execute c cmd = (useCaseOver exec' c).execute c cmd := by
  have hn : ∀ m, (useCaseOver exec c).notifyCredit cmd m = (useCaseOver exec' c).notifyCredit cmd m := by
    intro m
    simp only [TransferUseCase.notifyCredit, useCaseOver, interceptor, afterCredit, h, if_true]
  have hr : ∀ now, (useCaseOver exec c).executeReserved c cmd now =
      (useCaseOver exec' c).executeReserved c cmd now := by
    intro now
    unfold TransferUseCase.executeReserved
    simp only [hn]
    rfl
  unfold TransferUseCase.execute
  simp only [hr]

/-- Every repayment the sweep makes is a loan leg. -/
theorem sweep_congr {exec exec' : TransferCommand → Tx TransferResult}
    (h : ∀ cmd, isLoanLeg cmd.kind = true → exec cmd = exec' cmd) (t r u : Ulid) (cur : Currency)
    (req : Option String) (loans : List (LoanRow × PoolRow)) (budget : Int) :
    sweep exec c t r u cur req loans budget = sweep exec' c t r u cur req loans budget := by
  induction loans generalizing budget with
  | nil => rfl
  | cons l loans ih =>
    obtain ⟨loan, pool⟩ := l
    rw [sweep, sweep]
    have hone : ∀ n, repayOne exec c t r u cur req loan pool n =
        repayOne exec' c t r u cur req loan pool n := by
      intro n
      rw [repayOne, repayOne, h _ rfl]
    simp only [hone, ih]

theorem interceptor_congr {exec exec' : TransferCommand → Tx TransferResult}
    (h : ∀ cmd, isLoanLeg cmd.kind = true → exec cmd = exec' cmd) :
    interceptor exec c = interceptor exec' c := by
  unfold interceptor
  congr 1
  funext t r amount kind req
  unfold afterCredit
  simp only [sweep_congr h]

theorem useCaseOver_congr {exec exec' : TransferCommand → Tx TransferResult}
    (h : ∀ cmd, isLoanLeg cmd.kind = true → exec cmd = exec' cmd) :
    useCaseOver exec c = useCaseOver exec' c := by
  unfold useCaseOver
  rw [interceptor_congr h]

/-- The equation of the cycle: the wired use case's interceptor calls the wired use case. -/
theorem execute_wired (c : Ctx) (cmd : TransferCommand) :
    execute c cmd = (transferUseCase c).execute c cmd := by
  have h : ∀ cmd, isLoanLeg cmd.kind = true → wiredAt c 1 cmd = execute c cmd := by
    intro cmd hk
    exact execute_loanLeg _ _ hk
  show (useCaseOver (wiredAt c 1) c).execute c cmd = _
  rw [useCaseOver_congr h]
  rfl

end Cycle

end MoneyMovement

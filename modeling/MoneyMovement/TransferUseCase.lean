/-
  MoneyMovement/TransferUseCase.lean
  ==================================
  **The transfer use case** — `financial_core/application/transfer.py`, with the
  fee and limit policies of `domain/policies.py`.

  `execute` is the only code path that moves money.  It follows the source
  step by step: reserve the key or replay, lock both accounts, revalidate, move
  the balances, write the transfer, the ledger posting, the event and the audit
  row, run the credit interceptor, complete the key.
-/
import MoneyMovement.FinancialRepositories

namespace MoneyMovement

open Txn

/-! ### Policies (`domain/policies.py`) -/

/-- Computes the fee charged to the sender. -/
abbrev FeeStrategy := Money → Money

def noFeeStrategy : FeeStrategy := fun amount => .zero amount.currency

/-- `ensure_within_limits(amount, already_sent_today)`. -/
abbrev LimitPolicy := Money → Money → Tx Unit

structure TransferLimits where
  maxSingleTransferMinor : Int
  dailyTotalMinor : Int

def defaultLimitPolicy (limits : TransferLimits) : LimitPolicy := fun amount alreadySentToday => do
  ensure (amount.minor ≤ limits.maxSingleTransferMinor)
    (.detailed .transferLimitExceeded
      [("requestedMinor", .int amount.minor),
        ("maxSingleTransferMinor", .int limits.maxSingleTransferMinor)])
  ensure (alreadySentToday.minor + amount.minor ≤ limits.dailyTotalMinor)
    (.detailed .dailyLimitExceeded
      [("alreadySentTodayMinor", .int alreadySentToday.minor),
        ("requestedMinor", .int amount.minor),
        ("dailyLimitMinor", .int limits.dailyTotalMinor),
        ("remainingMinor", .int (max 0 (limits.dailyTotalMinor - alreadySentToday.minor)))])

/-! ### Commands and results -/

def TRANSFER_ENDPOINT : String := "POST:/api/v1/transfers"

/-- Movements the system performs on its own initiative. -/
def TransferKind.isSystemInitiated : TransferKind → Bool
  | .signupGrant | .undoSettle | .undoRefund | .escrowRelease | .escrowRefund
  | .groupWithdrawal => true
  | _ => false

/-- One intent to move money. -/
structure TransferCommand where
  actorUserId : Ulid
  senderAccountId : Ulid
  receiverAccountId : Ulid
  amount : Money
  idempotencyKey : String
  requestFingerprint : String
  kind : TransferKind := .p2pSend
  note : Option String := none
  requestId : Option String := none
  moneyRequestId : Option Ulid := none
  enforceLimits : Bool := true
  initialStatus : TransferStatus := .succeeded
  parentTransferId : Option Ulid := none
  intendedReceiverAccountId : Option Ulid := none
  idempotencyEndpoint : String := TRANSFER_ENDPOINT

def TransferCommand.triple (cmd : TransferCommand) : IdempotencyTriple :=
  ⟨cmd.actorUserId, cmd.idempotencyEndpoint, cmd.idempotencyKey⟩

structure TransferResult where
  transferId : Ulid
  reference : String
  status : String
  amount : Money
  fee : Money
  senderBalanceAfter : Money
  receiverBalanceAfter : Money
  completedAt : Time
  replayed : Bool := false

def TransferResult.toResponse (r : TransferResult) : Body :=
  [field "transferId" (.str r.transferId.text),
    field "reference" (.str r.reference),
    field "status" (.str r.status),
    field "amountMinor" (.int r.amount.minor),
    field "feeMinor" (.int r.fee.minor),
    field "currency" (.str r.amount.currency.code),
    field "senderBalanceMinor" (.int r.senderBalanceAfter.minor),
    field "completedAt" (.str (Time.isoformat r.completedAt))]

/-- The hook called on every credit. -/
structure CreditInterceptor where
  additionalLockIds : Ulid → TransferKind → Tx (List Ulid)
  afterCredit : Ulid → Account → Money → TransferKind → Option String → Tx Unit

structure TransferUseCase where
  feeStrategy : FeeStrategy
  limitPolicy : LimitPolicy
  creditInterceptor : Option CreditInterceptor

namespace TransferUseCase

/-! ### Helpers of `execute` -/

/-- `fromisoformat` of the stored completion time, or the clock when there is none. -/
def storedCompletedAt (c : Ctx) (body : Body) : Tx Time :=
  match body.str? "completedAt" with
  | some text => orRaise (Time.fromisoformat text) ⟨.python, "Invalid isoformat string", []⟩
  | none => now c

/-- The result of a replay, rebuilt from the stored body. -/
def replayResult (c : Ctx) (body : Body) (resourceId : Option Ulid) : Tx TransferResult := do
  let currency ← orRaise (Currency.ofCode? ((body.str? "currency").getD "BDT"))
    ⟨.notFound, "Stored transfer used an unsupported currency.", []⟩
  let transferId ← orRaise (((body.str? "transferId").bind Ulid.ofText?).or resourceId)
    ⟨.python, "stored transfer id", []⟩
  let completedAt ← storedCompletedAt c body
  return {
    transferId
    reference := (body.str? "reference").getD ""
    status := (body.str? "status").getD "SUCCEEDED"
    amount := ⟨(body.int? "amountMinor").getD 0, currency⟩
    fee := ⟨(body.int? "feeMinor").getD 0, currency⟩
    senderBalanceAfter := ⟨(body.int? "senderBalanceMinor").getD 0, currency⟩
    receiverBalanceAfter := ⟨0, currency⟩
    completedAt
    replayed := true }

/-- `_handle_idempotency_decision`. -/
def handleIdempotencyDecision (c : Ctx) : IdempotencyDecision → Tx (Option TransferResult)
  | .proceed => pure none
  | .payloadMismatch => raise (.of .idempotencyKeyReuse)
  | .inProgress => raise (.of .requestInProgress)
  | .replay _ body resourceId => do
    let result ← replayResult c (body.getD []) resourceId
    return some result

/-- `_authorize`: the owner, or the system out of an account nobody owns. -/
def authorize (sender : Account) (cmd : TransferCommand) : Tx Unit :=
  ensure ((cmd.kind.isSystemInitiated = true ∧ sender.userId = none) ∨
      sender.userId = some cmd.actorUserId)
    ⟨.authorization, "You do not own this account.", []⟩

/-- The daily and single-transfer limits, when the command asks for them. -/
def checkLimits (uc : TransferUseCase) (cmd : TransferCommand) (sender : Account)
    (totalDebit : Money) (now : Time) : Tx Unit :=
  if cmd.enforceLimits then do
    let alreadyToday ← SqlTransferRepository.sumSentSince sender.id (Time.startOfDay now)
    uc.limitPolicy totalDebit alreadyToday
  else pure ()

/-- The further accounts the interceptor wants locked. -/
def extraLockIds (uc : TransferUseCase) (cmd : TransferCommand) : Tx (List Ulid) :=
  match uc.creditInterceptor with
  | some i => i.additionalLockIds cmd.receiverAccountId cmd.kind
  | none => pure []

/-- Lock both accounts and whatever the interceptor asks for; both must exist. -/
def lockParties (uc : TransferUseCase) (cmd : TransferCommand) : Tx (Account × Account) := do
  let extra ← extraLockIds uc cmd
  let locked ← SqlAccountRepository.lockForUpdate
    (cmd.senderAccountId :: cmd.receiverAccountId :: extra)
  let missing : AppError := ⟨.notFound, "One of the accounts in this transfer does not exist.", []⟩
  let sender ← orRaise (locked cmd.senderAccountId) missing
  let receiver ← orRaise (locked cmd.receiverAccountId) missing
  return (sender, receiver)

/-- Everything re-checked against the locked state; returns the fee. -/
def revalidate (uc : TransferUseCase) (cmd : TransferCommand) (sender receiver : Account)
    (now : Time) : Tx Money := do
  authorize sender cmd
  sender.ensureActive
  receiver.ensureActive
  sender.ensureSameCurrencyAs receiver
  let fee := uc.feeStrategy cmd.amount
  checkLimits uc cmd sender (cmd.amount.add fee) now
  sender.ensureCanAfford (cmd.amount.add fee)
  return fee

/-- The row `transfers.create` writes. -/
def transferRow (cmd : TransferCommand) (transferId : Ulid) (reference : Reference) (now : Time) :
    TransferRow where
  id := transferId
  reference := reference
  senderAccountId := cmd.senderAccountId
  receiverAccountId := cmd.receiverAccountId
  amountMinor := cmd.amount.minor
  currency := cmd.amount.currency
  kind := cmd.kind
  status := cmd.initialStatus
  note := cmd.note
  initiatedByUserId := some cmd.actorUserId
  requestId := cmd.requestId
  parentTransferId := cmd.parentTransferId
  intendedReceiverAccountId := cmd.intendedReceiverAccountId
  createdAt := now
  -- a hold is money in transit: it has no completion time yet
  completedAt := if cmd.initialStatus = .succeeded then some now else none

def userIdScalar : Option Ulid → Scalar
  | some u => .str u.text
  | none => .null

/-- The payload of `TransferSucceeded`. -/
def succeededPayload (cmd : TransferCommand) (transferId : Ulid) (reference : Reference)
    (sender receiver : Account) (fee : Money) : Payload :=
  [("transferId", .str transferId.text), ("reference", .str reference.text),
    ("senderAccountId", .str sender.id.text), ("receiverAccountId", .str receiver.id.text),
    ("senderUserId", userIdScalar sender.userId), ("receiverUserId", userIdScalar receiver.userId),
    ("amountMinor", .int cmd.amount.minor), ("feeMinor", .int fee.minor),
    ("currency", .str cmd.amount.currency.code), ("kind", .str cmd.kind.text)]

/-- What the movement produced. -/
structure Movement where
  transferId : Ulid
  reference : Reference
  sender : Account
  receiver : Account

/-- Move the balances and record it: balances, transfer, ledger posting, event, audit row. -/
def applyMovement (c : Ctx) (cmd : TransferCommand) (sender receiver : Account) (fee : Money)
    (now : Time) : Tx Movement := do
  let updatedSender ← sender.debit (cmd.amount.add fee)
  let updatedReceiver ← receiver.credit cmd.amount
  SqlAccountRepository.persistBalance c updatedSender
  SqlAccountRepository.persistBalance c updatedReceiver
  let transferId ← newUlid c
  let reference ← generateReference c "TRX" now
  SqlTransferRepository.create (transferRow cmd transferId reference now)
  let posting ← LedgerPosting.transfer? sender.id receiver.id cmd.amount
  let ledgerTransactionId ← SqlLedgerRepository.post c posting transferId cmd.kind cmd.note
    (fun id =>
      if id = updatedReceiver.id then some updatedReceiver.balance
      else if id = updatedSender.id then some updatedSender.balance else none)
    now
  let eventId ← SqlOutboxPublisher.append c .transferSucceeded transferId now
    (succeededPayload cmd transferId reference sender receiver fee) cmd.requestId
  writeDb fun db => { db with
    journal := db.journal ++ [⟨cmd.triple, transferId, ledgerTransactionId, eventId⟩] }
  SqlAuditRepository.record c (some cmd.actorUserId) "TRANSFER_SUCCEEDED" "transfer"
    (some transferId) cmd.requestId
    (some [("reference", .str reference.text), ("amountMinor", .int cmd.amount.minor),
      ("kind", .str cmd.kind.text)]) now
  return ⟨transferId, reference, updatedSender, updatedReceiver⟩

def resultOf (cmd : TransferCommand) (m : Movement) (fee : Money) (now : Time) :
    TransferResult where
  transferId := m.transferId
  reference := m.reference.text
  status := cmd.initialStatus.text
  amount := cmd.amount
  fee := fee
  senderBalanceAfter := m.sender.balance
  receiverBalanceAfter := m.receiver.balance
  completedAt := now

/-- Tell the interceptor about the credit. -/
def notifyCredit (uc : TransferUseCase) (cmd : TransferCommand) (m : Movement) : Tx Unit :=
  match uc.creditInterceptor with
  | some i => i.afterCredit m.transferId m.receiver cmd.amount cmd.kind cmd.requestId
  | none => pure ()

/-- `execute` once the key is reserved. -/
def executeReserved (uc : TransferUseCase) (c : Ctx) (cmd : TransferCommand) (now : Time) :
    Tx TransferResult := do
  ensure (cmd.senderAccountId ≠ cmd.receiverAccountId) (.of .selfTransfer)
  let parties ← lockParties uc cmd
  let fee ← revalidate uc cmd parties.1 parties.2 now
  let m ← applyMovement c cmd parties.1 parties.2 fee now
  notifyCredit uc cmd m
  SqlIdempotencyRepository.complete cmd.triple m.transferId 201
    (resultOf cmd m fee now).toResponse now
  return resultOf cmd m fee now

/-- Run one transfer inside the caller's transaction. -/
def execute (uc : TransferUseCase) (c : Ctx) (cmd : TransferCommand) : Tx TransferResult := do
  let now ← now c
  let decision ← SqlIdempotencyRepository.reserve cmd.triple cmd.requestFingerprint now
  match ← handleIdempotencyDecision c decision with
  | some replay => return replay
  | none => executeReserved uc c cmd now

end TransferUseCase

end MoneyMovement

/-
  MoneyMovement/MoneyRequestService.lean
  ======================================
  **Money requests** — `money_request/application/money_request_service.py`.

  PENDING is the only non-terminal state.  Accepting pays through the transfer
  use case and then latches the row; rejecting, cancelling and the expiry sweep
  only latch it.
-/
import MoneyMovement.CreditLien

namespace MoneyMovement

open Txn

structure MoneyRequestResult where
  requestId : Ulid
  reference : Reference
  status : RequestStatus
  transferReference : Option String := none

namespace MoneyRequestService

def requestNotFound : AppError := ⟨.notFound, "Money request not found.", []⟩

/-- The row of a new request. -/
def newRequest (requestId : Ulid) (reference : Reference) (requesterAccountId payerAccountId : Ulid)
    (amount : Money) (note : Option String) (expiresAt now : Time) : MoneyRequestRow where
  id := requestId
  reference := reference
  requesterAccountId := requesterAccountId
  payerAccountId := payerAccountId
  amountMinor := amount.minor
  currency := amount.currency
  note := note
  status := .pending
  transferId := none
  expiresAt := expiresAt
  respondedAt := none
  createdAt := now
  updatedAt := now

def create (c : Ctx) (requesterUserId : Ulid) (payerPhone : String) (amount : Money)
    (note requestId : Option String) : Tx MoneyRequestResult := do
  let now ← now c
  let foundRequester ← SqlAccountRepository.getByUserId requesterUserId
  let requester ← orRaise foundRequester ⟨.notFound, "Your account could not be found.", []⟩
  let foundPayer ← SqlAccountRepository.getByPhone payerPhone
  let payer ← orRaise foundPayer ⟨.notFound, "No user found with that phone number.", []⟩
  ensure (payer.id ≠ requester.id) ⟨.selfTransfer, "You cannot request money from yourself.", []⟩
  requester.ensureActive
  payer.ensureActive
  ensure (requester.balance.currency = payer.balance.currency)
    ⟨.validation, "Both accounts must hold the same currency.", []⟩
  let moneyRequestId ← newUlid c
  let reference ← generateReference c "REQ" now
  SqlMoneyRequestRepository.create (newRequest moneyRequestId reference requester.id payer.id amount
    note (now + Time.hours c.settings.moneyRequestExpiryHours) now)
  let _ ← SqlOutboxPublisher.append c .moneyRequestCreated moneyRequestId now
    [("requestId", .str moneyRequestId.text), ("reference", .str reference.text),
      ("requesterUserId", .str requesterUserId.text),
      ("payerUserId", TransferUseCase.userIdScalar payer.userId),
      ("amountMinor", .int amount.minor), ("currency", .str amount.currency.code),
      ("note", match note with
        | some n => .str n
        | none => .null)] requestId
  SqlAuditRepository.record c (some requesterUserId) "MONEY_REQUEST_CREATED" "money_request"
    (some moneyRequestId) requestId
    (some [("amountMinor", .int amount.minor), ("reference", .str reference.text)]) now
  return { requestId := moneyRequestId, reference, status := .pending }

/-- The transfer that pays a request. -/
def payCommand (c : Ctx) (record : MoneyRequestRow) (payerUserId : Ulid) (idempotencyKey : String)
    (apiRequestId : Option String) : TransferCommand where
  actorUserId := payerUserId
  senderAccountId := record.payerAccountId
  receiverAccountId := record.requesterAccountId
  amount := .fromMinor record.amountMinor
  idempotencyKey := idempotencyKey
  requestFingerprint := fingerprintRequest c
    [("moneyRequestId", .str record.id.text), ("amountMinor", .int record.amountMinor)]
  kind := .requestSettlement
  note := record.note
  requestId := apiRequestId
  moneyRequestId := some record.id

def alreadyHandled (status : RequestStatus) : AppError :=
  ⟨.stateConflict, "This request was already " ++ status.text.toLower ++ ".",
    [("status", .str status.text)]⟩

/-- Pay the request and latch it. -/
def settle (c : Ctx) (record : MoneyRequestRow) (payerUserId : Ulid) (idempotencyKey : String)
    (apiRequestId : Option String) (now : Time) : Tx MoneyRequestResult := do
  let transfer ← execute c (payCommand c record payerUserId idempotencyKey apiRequestId)
  let updated ← SqlMoneyRequestRepository.markAccepted record.id transfer.transferId now
  ensure (updated = 1) (.of .stateConflict)
  let _ ← SqlOutboxPublisher.append c .moneyRequestAccepted record.id now
    [("requestId", .str record.id.text), ("transferId", .str transfer.transferId.text),
      ("transferReference", .str transfer.reference), ("payerUserId", .str payerUserId.text),
      ("amountMinor", .int record.amountMinor)] apiRequestId
  SqlAuditRepository.record c (some payerUserId) "MONEY_REQUEST_ACCEPTED" "money_request"
    (some record.id) apiRequestId (some [("transferId", .str transfer.transferId.text)]) now
  return { requestId := record.id, reference := record.reference, status := .accepted,
           transferReference := some transfer.reference }

/-- Pay a pending request. -/
def accept (c : Ctx) (requestId payerUserId : Ulid) (idempotencyKey : String)
    (apiRequestId : Option String) : Tx MoneyRequestResult := do
  let now ← now c
  let found ← SqlMoneyRequestRepository.lockForUpdate requestId
  let record ← orRaise found requestNotFound
  let payerAccount ← SqlAccountRepository.getById record.payerAccountId
  ensure (payerAccount.bind Account.userId = some payerUserId) requestNotFound
  ensure (record.status = .pending) (alreadyHandled record.status)
  if record.expiresAt ≤ now then do
    let _ ← SqlMoneyRequestRepository.markTerminal requestId .expired now
    raise ⟨.stateConflict, "This request has expired.", []⟩
  else settle c record payerUserId idempotencyKey apiRequestId now

/-- Which party a terminal transition belongs to. -/
inductive Role where
  | payer | requester
deriving DecidableEq, Repr

namespace Role

/-- The status the party's refusal leads to. -/
def outcome : Role → RequestStatus
  | payer => .rejected
  | requester => .cancelled

def accountOf (role : Role) (record : MoneyRequestRow) : Ulid :=
  match role with
  | payer => record.payerAccountId
  | requester => record.requesterAccountId

def refusal : Role → String
  | payer => "Only the payer may reject this request."
  | requester => "Only the requester may cancel this request."

end Role

/-- Only a rejection is announced. -/
def announce (c : Ctx) (role : Role) (requestId actorUserId : Ulid) (apiRequestId : Option String)
    (now : Time) : Tx Unit :=
  match role with
  | .payer => do
    let _ ← SqlOutboxPublisher.append c .moneyRequestRejected requestId now
      [("requestId", .str requestId.text), ("payerUserId", .str actorUserId.text)] apiRequestId
    return ()
  | .requester => pure ()

/-- `_terminate`. -/
def terminate (c : Ctx) (role : Role) (requestId actorUserId : Ulid)
    (apiRequestId : Option String) : Tx MoneyRequestResult := do
  let now ← now c
  let found ← SqlMoneyRequestRepository.lockForUpdate requestId
  let record ← orRaise found requestNotFound
  let account ← SqlAccountRepository.getById (role.accountOf record)
  ensure (account.bind Account.userId = some actorUserId) ⟨.authorization, role.refusal, []⟩
  let n ← SqlMoneyRequestRepository.markTerminal requestId role.outcome now
  ensure (n = 1) (alreadyHandled record.status)
  announce c role requestId actorUserId apiRequestId now
  SqlAuditRepository.record c (some actorUserId) ("MONEY_REQUEST_" ++ role.outcome.text)
    "money_request" (some requestId) apiRequestId none now
  return { requestId, reference := record.reference, status := role.outcome }

def reject (c : Ctx) (requestId payerUserId : Ulid) (apiRequestId : Option String) :
    Tx MoneyRequestResult :=
  terminate c .payer requestId payerUserId apiRequestId

def cancel (c : Ctx) (requestId requesterUserId : Ulid) (apiRequestId : Option String) :
    Tx MoneyRequestResult :=
  terminate c .requester requestId requesterUserId apiRequestId

def expireDue (c : Ctx) : Tx Nat := do
  let now ← now c
  SqlMoneyRequestRepository.expireDue now

end MoneyRequestService

end MoneyMovement

/-
  MoneyMovement/HoldingServices.lean
  ==================================
  **Two-stage money movement** — `financial_core/application/holding.py` and the
  undo window built on it (`undo.py`).

  A hold moves the money into a holding account; `settle` latches the hold's
  status first and then pays the beneficiary, all in the caller's transaction.
-/
import MoneyMovement.CreditLien

namespace MoneyMovement

open Txn

namespace HoldingService

/-- `hold`: the command that moves money from the payer into a holding account. -/
def holdCommand (c : Ctx) (actorUserId payerAccountId holdingAccountId : Ulid) (amount : Money)
    (kind : TransferKind) (pendingStatus : TransferStatus) (idempotencyKey : String)
    (note requestId : Option String) (intendedReceiverAccountId : Ulid)
    (idempotencyEndpoint : String) : TransferCommand where
  actorUserId := actorUserId
  senderAccountId := payerAccountId
  receiverAccountId := holdingAccountId
  amount := amount
  idempotencyKey := idempotencyKey
  requestFingerprint := fingerprintRequest c
    [("payer", .str payerAccountId.text), ("holding", .str holdingAccountId.text),
      ("amountMinor", .int amount.minor), ("kind", .str kind.text)]
  kind := kind
  note := note
  requestId := requestId
  enforceLimits := true
  initialStatus := pendingStatus
  intendedReceiverAccountId := some intendedReceiverAccountId
  idempotencyEndpoint := idempotencyEndpoint

/-- The endpoint of the settlement legs of one kind. -/
def legEndpoint (kind : TransferKind) : String := "INTERNAL:/holds/" ++ kind.text.toLower

/-- The key of a settlement: derived from the hold and the outcome. -/
def settlementKey (holdTransferId : Ulid) (toStatus : TransferStatus) : String :=
  "settle:" ++ holdTransferId.text ++ ":" ++ toStatus.text

/-- The leg that pays a hold out. -/
def legCommand (c : Ctx) (holdTransferId : Ulid) (toStatus : TransferStatus)
    (beneficiaryAccountId holdingAccountId : Ulid) (amount : Money) (kind : TransferKind)
    (actorUserId : Ulid) (note requestId : Option String) : TransferCommand where
  actorUserId := actorUserId
  senderAccountId := holdingAccountId
  receiverAccountId := beneficiaryAccountId
  amount := amount
  idempotencyKey := settlementKey holdTransferId toStatus
  requestFingerprint := fingerprintRequest c
    [("hold", .str holdTransferId.text), ("outcome", .str toStatus.text)]
  kind := kind
  note := note
  requestId := requestId
  enforceLimits := false
  parentTransferId := some holdTransferId
  idempotencyEndpoint := legEndpoint kind

/-- Complete a hold by paying the beneficiary, or refunding the payer. -/
def settle (c : Ctx) (holdTransferId : Ulid) (holdReference : Reference)
    (fromStatus toStatus : TransferStatus) (beneficiaryAccountId holdingAccountId : Ulid)
    (amount : Money) (kind : TransferKind) (actorUserId : Ulid) (note requestId : Option String) :
    Tx TransferResult := do
  let n ← SqlTransferRepository.tryTransitionStatus c holdTransferId fromStatus toStatus
  ensure (n = 1) ⟨.stateConflict, "This transfer has already been settled or cancelled.",
    [("reference", .str holdReference.text)]⟩
  execute c (legCommand c holdTransferId toStatus beneficiaryAccountId holdingAccountId amount kind
    actorUserId note requestId)

end HoldingService

namespace UndoableTransferService

def UNDO_WINDOW_SECONDS : Nat := 10

def UNDO_HOLD_ENDPOINT : String := "INTERNAL:/transfers/undo-hold"

/-- Queue the settlement of a hold that was really made now. -/
def startClock (c : Ctx) (hold : TransferResult) : Tx Unit :=
  if hold.replayed then pure ()
  else SqlScheduledTaskRepository.schedule c .undoSettle hold.transferId UNDO_WINDOW_SECONDS

/-- Debit the sender into the holding account and start the clock. -/
def send (c : Ctx) (actorUserId senderAccountId receiverAccountId : Ulid) (amount : Money)
    (idempotencyKey : String) (note requestId : Option String) (idempotencyEndpoint : String) :
    Tx TransferResult := do
  let hold ← execute c (HoldingService.holdCommand c actorUserId senderAccountId
    PENDING_SETTLEMENT_ACCOUNT_ID amount .undoHold .pendingUndo idempotencyKey note requestId
    receiverAccountId idempotencyEndpoint)
  startClock c hold
  return hold

def undoDeadline (hold : TransferResult) : String :=
  Time.isoformat (hold.completedAt + Time.seconds UNDO_WINDOW_SECONDS)

/-- `_require_hold`. -/
def requireHold (transferId : Ulid) : Tx TransferRow := do
  let found ← SqlTransferRepository.get transferId
  let hold ← orRaise (found.filter fun t => t.kind == .undoHold)
    ⟨.notFound, "Transfer not found.", []⟩
  ensure (hold.status = .pendingUndo)
    ⟨.stateConflict, "This transfer can no longer be undone - it has already been " ++
      hold.status.text.toLower ++ ".", [("status", .str hold.status.text)]⟩
  return hold

def undoEndpoint (transferId : Ulid) : String :=
  "POST:/api/v1/transfers/" ++ transferId.text ++ "/undo"

/-- The response of an undo. -/
def undoResponse (hold : TransferRow) (settlement : TransferResult) : Body :=
  [field "transferId" (.str hold.id.text),
    field "reference" (.str hold.reference.text),
    field "status" (.str TransferStatus.refunded.text),
    field "refundTransferId" (.str settlement.transferId.text),
    field "refundReference" (.str settlement.reference),
    field "amountMinor" (.int settlement.amount.minor),
    field "currency" (.str settlement.amount.currency.code),
    field "senderBalanceMinor" (.int settlement.receiverBalanceAfter.minor),
    field "replayed" (.bool false)]

/-- `undo` once the key is reserved. -/
def undoReserved (c : Ctx) (triple : IdempotencyTriple) (transferId actorUserId : Ulid)
    (requestId : Option String) (now : Time) : Tx Body := do
  let hold ← requireHold transferId
  let sender ← SqlAccountRepository.getById hold.senderAccountId
  -- 404 rather than 403: that the transfer exists is itself a disclosure
  ensure (sender.bind Account.userId = some actorUserId) ⟨.notFound, "Transfer not found.", []⟩
  let settlement ← HoldingService.settle c hold.id hold.reference .pendingUndo .refunded
    hold.senderAccountId PENDING_SETTLEMENT_ACCOUNT_ID (.fromMinor hold.amountMinor) .undoRefund
    actorUserId (some "Undone by sender") requestId
  SqlScheduledTaskRepository.cancel c .undoSettle hold.id
  SqlIdempotencyRepository.complete triple hold.id 200 (undoResponse hold settlement) now
  return undoResponse hold settlement

/-- Take it back, if the timer has not already settled it. -/
def undo (c : Ctx) (transferId actorUserId : Ulid) (idempotencyKey : String)
    (requestId : Option String) : Tx Body := do
  let now ← now c
  let decision ← SqlIdempotencyRepository.reserve
    ⟨actorUserId, undoEndpoint transferId, idempotencyKey⟩
    (fingerprintRequest c [("transferId", .str transferId.text)]) now
  match ← replayBodyOrRaise decision with
  | some body => return body.put "replayed" (.bool true)
  | none =>
    undoReserved c ⟨actorUserId, undoEndpoint transferId, idempotencyKey⟩ transferId actorUserId
      requestId now

/-- Finalise a hold whose window has elapsed; nothing when the sender undid it. -/
def settle (c : Ctx) (transferId : Ulid) : Tx (Option TransferResult) := do
  match ← SqlTransferRepository.get transferId with
  | none => return none
  | some hold =>
    if hold.status ≠ .pendingUndo then return none
    else do
      let receiver ← orRaise hold.intendedReceiverAccountId
        ⟨.stateConflict, "Held transfer has no intended receiver.", []⟩
      -- an empty actor id has no user row, so the leg's insert would be refused
      let actor ← orRaise hold.initiatedByUserId (.of .integrity)
      let settlement ← HoldingService.settle c hold.id hold.reference .pendingUndo .succeeded
        receiver PENDING_SETTLEMENT_ACCOUNT_ID (.fromMinor hold.amountMinor) .undoSettle actor
        hold.note none
      return some settlement

end UndoableTransferService

end MoneyMovement

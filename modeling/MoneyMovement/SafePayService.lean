/-
  MoneyMovement/SafePayService.lean
  =================================
  **The Safe-Pay state machine** — `safepay/application/service.py`.

  Every command that can release or refund the money goes through
  `releaseLocked` or `refundLocked`; what differs is the guard each command
  puts before it.
-/
import MoneyMovement.HoldingServices

namespace MoneyMovement

open Txn

namespace SafePayService

def CREATE_ENDPOINT : String := "POST:/api/v1/safepay"

def DELIVERY_CODE_MAX_ATTEMPTS : Nat := 5

/-- `code_lock_seconds`, as the container leaves it. -/
def CODE_LOCK_SECONDS : Nat := 900

/-! ### Shared helpers -/

/-- `_complete`: the delivery code never reaches the stored body. -/
def complete (triple : IdempotencyTriple) (resourceId : Ulid) (body : Body) (now : Time)
    (status : Nat) : Tx Unit :=
  SqlIdempotencyRepository.complete triple resourceId status
    (body.without ["deliveryCode", "replayed"]) now

/-- `_audit_event`. -/
def auditEvent (c : Ctx) (actor escrowId : Ulid) (action : String) (requestId : Option String)
    (metadata : Payload) : Tx Unit := do
  let now ← now c
  SqlAuditRepository.record c (some actor) action "safepay_escrow" (some escrowId) requestId
    (some metadata) now

/-- `_delivery_code`: six digits of an HMAC of the escrow id. -/
def deliveryCode (c : Ctx) (escrowId : String) : String :=
  String.ofList (Time.padded 6 (c.crypto.hmacHead (c.settings.jwtSecret ++ ":safepay")
    ("safepay-delivery:" ++ escrowId) % 1000000))

/-- `_state_command`: reserve, run once, complete.  `once` returns the escrow it was about
    with the body. -/
def stateCommand (c : Ctx) (triple : IdempotencyTriple) (payload : Payload)
    (once : Time → Tx (Ulid × Body)) : Tx Body := do
  let now ← now c
  let decision ← SqlIdempotencyRepository.reserve triple (fingerprintRequest c payload) now
  match ← replayBodyOrRaise decision with
  | some body => return body.put "replayed" (.bool true)
  | none => do
    let result ← once now
    complete triple result.1 result.2 now 200
    return result.2

/-! ### Settlement -/

def settledBody (escrow : EscrowRow) (status : EscrowStatus) (settlement : TransferResult) : Body :=
  [field "escrowId" (.str escrow.id.text),
    field "reference" (.str escrow.reference.text),
    field "status" (.str status.text),
    field "settlementTransferId" (.str settlement.transferId.text),
    field "settlementReference" (.str settlement.reference)]

def resolvedConcurrently : AppError := ⟨.stateConflict, "SafePay was resolved concurrently.", []⟩

def holdIncomplete : AppError := ⟨.stateConflict, "SafePay hold is incomplete.", []⟩

/-- `_release_locked`: pay the hold's intended receiver and mark the escrow released. -/
def releaseLocked (c : Ctx) (escrow : EscrowRow) (actorUserId : Ulid) (reason : String)
    (requestId resolutionNote : Option String) : Tx Body := do
  let found ← SqlTransferRepository.get escrow.holdTransferId
  let hold ← orRaise found holdIncomplete
  let receiver ← orRaise hold.intendedReceiverAccountId holdIncomplete
  let settlement ← HoldingService.settle c hold.id hold.reference .held .succeeded receiver
    ESCROW_ACCOUNT_ID (.fromMinor escrow.amountMinor) .escrowRelease actorUserId (some reason)
    requestId
  let now ← now c
  let n ← SqlSafePayRepository.markSettled escrow.id
    [.awaitingShipment, .shipped, .delivered, .disputed] .released settlement.transferId now
    resolutionNote
  ensure (n = 1) resolvedConcurrently
  SqlScheduledTaskRepository.cancel c .escrowAutoRelease escrow.id
  auditEvent c actorUserId escrow.id "SAFEPAY_RELEASED" requestId
    [("settlementTransferId", .str settlement.transferId.text), ("reason", .str reason)]
  return settledBody escrow .released settlement

/-- `_refund_locked`: pay the hold's sender back and mark the escrow refunded. -/
def refundLocked (c : Ctx) (escrow : EscrowRow) (reason : String) (requestId : Option String)
    (resolutionNote : String) : Tx Body := do
  let found ← SqlTransferRepository.get escrow.holdTransferId
  let hold ← orRaise found holdIncomplete
  let settlement ← HoldingService.settle c hold.id hold.reference .held .refunded
    hold.senderAccountId ESCROW_ACCOUNT_ID (.fromMinor escrow.amountMinor) .escrowRefund
    escrow.buyerUserId (some reason) requestId
  let now ← now c
  let n ← SqlSafePayRepository.markSettled escrow.id [.disputed] .refunded settlement.transferId now
    (some resolutionNote)
  ensure (n = 1) resolvedConcurrently
  return settledBody escrow .refunded settlement

/-! ### Create -/

def orderNotFound : AppError := ⟨.notFound, "SafePay order not found.", []⟩

/-- The row of a new escrow. -/
def newEscrow (escrowId : Ulid) (reference : Reference) (holdTransferId buyerUserId sellerUserId : Ulid)
    (amount : Money) (description : Option String) (deliveryCodeHash : String) (now : Time) :
    EscrowRow where
  id := escrowId
  reference := reference
  holdTransferId := holdTransferId
  settlementTransferId := none
  buyerUserId := buyerUserId
  sellerUserId := sellerUserId
  amountMinor := amount.minor
  currency := amount.currency
  description := description
  status := .awaitingShipment
  deliveryCodeHash := deliveryCodeHash
  deliveryCodeAttempts := 0
  deliveryCodeLockedUntil := none
  trackingNumber := none
  courierSlug := none
  shippedAt := none
  deliveredAt := none
  autoReleaseAt := none
  settledAt := none
  disputeReason := none
  disputedAt := none
  resolvedByUserId := none
  resolutionNote := none
  createdAt := now
  updatedAt := now

def createBody (escrowId : Ulid) (reference : Reference) (holdTransferId : Ulid) (amount : Money) :
    Body :=
  [field "escrowId" (.str escrowId.text),
    field "reference" (.str reference.text),
    field "holdTransferId" (.str holdTransferId.text),
    field "status" (.str "AWAITING_SHIPMENT"),
    field "amountMinor" (.int amount.minor),
    field "currency" (.str amount.currency.code)]

/-- The command that moves the price into escrow. -/
def holdCommand (c : Ctx) (escrowId buyerUserId buyerAccountId sellerAccountId : Ulid)
    (amount : Money) (description requestId : Option String) : TransferCommand :=
  HoldingService.holdCommand c buyerUserId buyerAccountId ESCROW_ACCOUNT_ID amount .escrowHold .held
    ("safepay-hold:" ++ escrowId.text) description requestId sellerAccountId
    "INTERNAL:/safepay/hold"

/-- `create` once the key is reserved. -/
def createReserved (c : Ctx) (triple : IdempotencyTriple)
    (buyerUserId buyerAccountId sellerUserId sellerAccountId : Ulid) (amount : Money)
    (description requestId : Option String) (now : Time) : Tx Body := do
  let escrowId ← newUlid c
  let hold ← execute c (holdCommand c escrowId buyerUserId buyerAccountId sellerAccountId amount
    description requestId)
  let reference ← generateReference c "SAFE" now
  let codeHash ← hashPassword c (deliveryCode c escrowId.text)
  SqlSafePayRepository.create (newEscrow escrowId reference hold.transferId buyerUserId sellerUserId
    amount description codeHash now)
  complete triple escrowId (createBody escrowId reference hold.transferId amount) now 201
  auditEvent c buyerUserId escrowId "SAFEPAY_CREATED" requestId
    [("amountMinor", .int amount.minor), ("sellerUserId", .str sellerUserId.text)]
  return createBody escrowId reference hold.transferId amount ++
    [field "deliveryCode" (.str (deliveryCode c escrowId.text)), field "replayed" (.bool false)]

def create (c : Ctx) (buyerUserId buyerAccountId sellerUserId sellerAccountId : Ulid)
    (amount : Money) (description : Option String) (idempotencyKey : String)
    (requestId : Option String) : Tx Body := do
  let now ← now c
  let decision ← SqlIdempotencyRepository.reserve ⟨buyerUserId, CREATE_ENDPOINT, idempotencyKey⟩
    (fingerprintRequest c
      [("sellerUserId", .str sellerUserId.text), ("amountMinor", .int amount.minor),
        ("currency", .str amount.currency.code),
        ("description", match description with
          | some d => .str d
          | none => .null)]) now
  match ← replayBodyOrRaise decision with
  | some body =>
    return (body.put "deliveryCode" (.str (deliveryCode c ((body.str? "escrowId").getD "")))).put
      "replayed" (.bool true)
  | none =>
    createReserved c ⟨buyerUserId, CREATE_ENDPOINT, idempotencyKey⟩ buyerUserId buyerAccountId
      sellerUserId sellerAccountId amount description requestId now

/-! ### Shipping and disputing -/

def markShippedOnce (c : Ctx) (escrowId sellerUserId : Ulid) (courier trackingNumber : String)
    (requestId : Option String) (now : Time) : Tx (Ulid × Body) := do
  let n ← SqlSafePayRepository.markShipped escrowId sellerUserId courier trackingNumber now
  ensure (n = 1) ⟨.stateConflict, "Only an awaiting-shipment order can be shipped.", []⟩
  auditEvent c sellerUserId escrowId "SAFEPAY_SHIPPED" requestId
    [("courier", .str courier), ("trackingNumber", .str trackingNumber)]
  return (escrowId, [field "escrowId" (.str escrowId.text), field "status" (.str "SHIPPED"),
    field "courier" (.str courier), field "trackingNumber" (.str trackingNumber)])

def markShipped (c : Ctx) (escrowId sellerUserId : Ulid) (courier trackingNumber : String)
    (idempotencyKey : String) (requestId : Option String) : Tx Body :=
  stateCommand c
    ⟨sellerUserId, "POST:/api/v1/safepay/" ++ escrowId.text ++ "/ship", idempotencyKey⟩
    [("courier", .str courier), ("trackingNumber", .str trackingNumber)]
    (markShippedOnce c escrowId sellerUserId courier trackingNumber requestId)

def disputeOnce (c : Ctx) (escrowId buyerUserId : Ulid) (reason : String)
    (requestId : Option String) (now : Time) : Tx (Ulid × Body) := do
  let n ← SqlSafePayRepository.markDisputed escrowId buyerUserId reason now
  ensure (n = 1) ⟨.stateConflict, "This SafePay order cannot enter dispute now.", []⟩
  SqlScheduledTaskRepository.cancel c .escrowAutoRelease escrowId
  auditEvent c buyerUserId escrowId "SAFEPAY_DISPUTED" requestId [("reason", .str reason)]
  return (escrowId, [field "escrowId" (.str escrowId.text), field "status" (.str "DISPUTED")])

def dispute (c : Ctx) (escrowId buyerUserId : Ulid) (reason idempotencyKey : String)
    (requestId : Option String) : Tx Body :=
  stateCommand c
    ⟨buyerUserId, "POST:/api/v1/safepay/" ++ escrowId.text ++ "/dispute", idempotencyKey⟩
    [("reason", .str reason)] (disputeOnce c escrowId buyerUserId reason requestId)

/-! ### Release by code -/

/-- The escrow is open for a code: the statuses `release_with_code` accepts. -/
def acceptsCode : EscrowStatus → Bool
  | .awaitingShipment | .shipped | .delivered => true
  | _ => false

def lockedBody (escrow : EscrowRow) : Body :=
  [field "escrowId" (.str escrow.id.text), field "status" (.str escrow.status.text),
    field "errorCode" (.str "DELIVERY_CODE_LOCKED"),
    field "message" (.str "Too many incorrect delivery-code attempts. Try later.")]

/-- When the next wrong code locks the escrow, until when. -/
def lockAfter (attempts : Nat) (now : Time) : Option Time :=
  if DELIVERY_CODE_MAX_ATTEMPTS ≤ attempts then some (now + Time.seconds CODE_LOCK_SECONDS) else none

def failureBody (escrow : EscrowRow) (attempts : Nat) (lockedUntil : Option Time) : Body :=
  [field "escrowId" (.str escrow.id.text), field "status" (.str escrow.status.text),
    field "errorCode" (.str
      (if lockedUntil.isSome then "DELIVERY_CODE_LOCKED" else "INVALID_DELIVERY_CODE")),
    field "message" (.str
      (if lockedUntil.isSome then "Delivery code locked after too many attempts."
        else "The delivery code is incorrect.")),
    field "attemptsRemaining" (.int (DELIVERY_CODE_MAX_ATTEMPTS - attempts : Nat))]

/-- The code is locked at `now`. -/
def codeLocked (escrow : EscrowRow) (now : Time) : Bool :=
  match escrow.deliveryCodeLockedUntil with
  | some t => decide (now < t)
  | none => false

/-- `release_with_code` on the locked escrow: locked out, wrong code, or release. -/
def releaseWithCodeLocked (c : Ctx) (triple : IdempotencyTriple) (escrow : EscrowRow)
    (sellerUserId : Ulid) (code : String) (requestId : Option String) (now : Time) :
    Tx Body := do
  if codeLocked escrow now then do
    complete triple escrow.id (lockedBody escrow) now 423
    return lockedBody escrow
  else if !c.crypto.argon2Verify escrow.deliveryCodeHash code then do
    let attempts := escrow.deliveryCodeAttempts + 1
    let lockedUntil := lockAfter attempts now
    SqlSafePayRepository.recordCodeFailure escrow.id attempts lockedUntil now
    complete triple escrow.id (failureBody escrow attempts lockedUntil) now
      (if lockedUntil.isSome then 423 else 400)
    return failureBody escrow attempts lockedUntil
  else do
    let body ← releaseLocked c escrow sellerUserId "Buyer delivery code verified" requestId none
    complete triple escrow.id body now 200
    return body

/-- `release_with_code` once the key is reserved. -/
def releaseWithCodeReserved (c : Ctx) (triple : IdempotencyTriple) (escrowId sellerUserId : Ulid)
    (code : String) (requestId : Option String) (now : Time) : Tx Body := do
  let found ← SqlSafePayRepository.lock escrowId
  let escrow ← orRaise (found.filter fun e => decide (e.sellerUserId = sellerUserId)) orderNotFound
  ensure (acceptsCode escrow.status = true)
    ⟨.stateConflict, "SafePay is already " ++ escrow.status.text.toLower ++ ".", []⟩
  releaseWithCodeLocked c triple escrow sellerUserId code requestId now

def releaseCodeTriple (escrowId sellerUserId : Ulid) (idempotencyKey : String) :
    IdempotencyTriple :=
  ⟨sellerUserId, "POST:/api/v1/safepay/" ++ escrowId.text ++ "/release-code", idempotencyKey⟩

def releaseWithCode (c : Ctx) (escrowId sellerUserId : Ulid) (code idempotencyKey : String)
    (requestId : Option String) : Tx Body := do
  let now ← now c
  let decision ← SqlIdempotencyRepository.reserve
    (releaseCodeTriple escrowId sellerUserId idempotencyKey)
    (fingerprintRequest c [("deliveryCode", .str code)]) now
  match ← replayBodyOrRaise decision with
  | some body => return body.put "replayed" (.bool true)
  | none =>
    releaseWithCodeReserved c (releaseCodeTriple escrowId sellerUserId idempotencyKey) escrowId
      sellerUserId code requestId now

/-! ### Release by the buyer, the courier, the timer -/

/-- The statuses in which the buyer may confirm receipt. -/
def acceptsReceipt : EscrowStatus → Bool
  | .shipped | .delivered => true
  | _ => false

def buyerReleaseOnce (c : Ctx) (escrowId buyerUserId : Ulid) (requestId : Option String)
    (_now : Time) : Tx (Ulid × Body) := do
  let found ← SqlSafePayRepository.lock escrowId
  let escrow ← orRaise (found.filter fun e => decide (e.buyerUserId = buyerUserId)) orderNotFound
  ensure (acceptsReceipt escrow.status = true)
    ⟨.stateConflict, "This order is not awaiting receipt confirmation.", []⟩
  let body ← releaseLocked c escrow buyerUserId "Buyer confirmed receipt" requestId none
  return (escrow.id, body)

def confirmReceived (c : Ctx) (escrowId buyerUserId : Ulid) (idempotencyKey : String)
    (requestId : Option String) : Tx Body :=
  stateCommand c
    ⟨buyerUserId, "POST:/api/v1/safepay/" ++ escrowId.text ++ "/confirm-received",
      idempotencyKey⟩
    [("escrowId", .str escrowId.text)] (buyerReleaseOnce c escrowId buyerUserId requestId)

/-- A shipped parcel was delivered: mark it, then release at once or start the timer. -/
def deliver (c : Ctx) (escrow : EscrowRow) (courier : String) (releaseImmediately : Bool)
    (now : Time) : Tx Body := do
  let releaseAt := now + Time.hours c.settings.safepayAutoReleaseHours
  let n ← SqlSafePayRepository.markDelivered escrow.id now releaseAt
  ensure (n = 1) ⟨.stateConflict, "Delivery status changed concurrently.", []⟩
  let found ← SqlSafePayRepository.lock escrow.id
  let escrow ← orRaise found orderNotFound
  if releaseImmediately then
    releaseLocked c escrow escrow.sellerUserId ("Verified " ++ courier ++ " delivery event") none
      none
  else do
    SqlScheduledTaskRepository.schedule c .escrowAutoRelease escrow.id
      (c.settings.safepayAutoReleaseHours * 3600)
    return [field "escrowId" (.str escrow.id.text), field "status" (.str "DELIVERED"),
      field "autoReleaseAt" (.str (Time.isoformat releaseAt))]

/-- What a courier event does to the escrow it is for. -/
def courierEvent (c : Ctx) (escrow : EscrowRow) (courier : String) (releaseImmediately : Bool)
    (now : Time) : Tx Body :=
  match escrow.status with
  | .shipped => deliver c escrow courier releaseImmediately now
  | .released | .refunded | .disputed =>
    pure [field "escrowId" (.str escrow.id.text), field "status" (.str escrow.status.text)]
  | .awaitingShipment | .delivered | .cancelled =>
    raise ⟨.stateConflict, "Courier delivery cannot be applied while " ++
      escrow.status.text.toLower ++ ".", []⟩

def courierTriple (escrow : EscrowRow) (courier eventId : String) : IdempotencyTriple :=
  ⟨escrow.sellerUserId, "POST:/courier/" ++ courier ++ "/delivered", eventId⟩

/-- `courier_delivered` once the key is reserved. -/
def courierReserved (c : Ctx) (escrow : EscrowRow) (courier eventId : String)
    (releaseImmediately : Bool) (now : Time) : Tx Body := do
  let body ← courierEvent c escrow courier releaseImmediately now
  complete (courierTriple escrow courier eventId) escrow.id body now 200
  return body

def courierDelivered (c : Ctx) (courier trackingNumber eventId : String)
    (releaseImmediately : Bool) : Tx Body := do
  let found ← SqlSafePayRepository.findByTracking c courier trackingNumber
  let escrow ← orRaise found ⟨.notFound, "No SafePay order matches this courier parcel.", []⟩
  let now ← now c
  let decision ← SqlIdempotencyRepository.reserve (courierTriple escrow courier eventId)
    (fingerprintRequest c
      [("trackingNumber", .str trackingNumber), ("releaseImmediately", .bool releaseImmediately)])
    now
  match ← replayBodyOrRaise decision with
  | some body => return body.put "replayed" (.bool true)
  | none => courierReserved c escrow courier eventId releaseImmediately now

/-- The timer: nothing unless the escrow is delivered and not disputed. -/
def autoRelease (c : Ctx) (escrowId : Ulid) : Tx (Option Body) := do
  match ← SqlSafePayRepository.lock escrowId with
  | none => return none
  | some escrow =>
    if escrow.status ≠ .delivered then return none
    else do
      let body ← releaseLocked c escrow escrow.sellerUserId "SafePay dispute window elapsed" none
        none
      return some body

/-! ### Dispute resolution -/

inductive Decision where
  | release | refund
deriving DecidableEq, Repr

def Decision.text : Decision → String
  | release => "RELEASE"
  | refund => "REFUND"

/-- Close the buyer's user and account and end their sessions. -/
def banBuyer (c : Ctx) (buyerUserId : Ulid) : Tx Unit := do
  SqlUserRepository.setStatus c buyerUserId .closed
  match ← SqlAccountRepository.getByUserId buyerUserId with
  | none => do
    let now ← now c
    SqlSessionRepository.revokeAllForUser buyerUserId now
  | some account => do
    let _ ← SqlAccountRepository.setStatus c account.id .closed
    let now ← now c
    SqlSessionRepository.revokeAllForUser buyerUserId now

def resolveOnce (c : Ctx) (escrowId : Ulid) (decision : Decision) (note : String) (ban : Bool)
    (requestId : Option String) (_now : Time) : Tx (Ulid × Body) := do
  let found ← SqlSafePayRepository.lock escrowId
  let escrow ← orRaise found orderNotFound
  ensure (escrow.status = .disputed)
    ⟨.stateConflict, "Only a disputed SafePay order can be resolved.", []⟩
  match decision with
  | .release => do
    let body ← releaseLocked c escrow escrow.sellerUserId note requestId (some note)
    if ban then do
      banBuyer c escrow.buyerUserId
      return (escrow.id, body.put "buyerBanned" (.bool true))
    else return (escrow.id, body)
  | .refund => do
    let body ← refundLocked c escrow note requestId note
    return (escrow.id, body)

/-- The escrow id itself is the idempotency actor of the admin command. -/
def resolveDispute (c : Ctx) (escrowId : Ulid) (decision : Decision) (note : String) (ban : Bool)
    (idempotencyKey : String) (requestId : Option String) : Tx Body :=
  stateCommand c
    ⟨escrowId, "POST:/api/v1/admin/safepay/" ++ escrowId.text ++ "/resolve", idempotencyKey⟩
    [("decision", .str decision.text), ("note", .str note), ("banBuyer", .bool ban)]
    (resolveOnce c escrowId decision note ban requestId)

end SafePayService

end MoneyMovement

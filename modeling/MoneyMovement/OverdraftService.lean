/-
  MoneyMovement/OverdraftService.lean
  ===================================
  **Spot-Me pools and the send command** — the command half of
  `overdraft/application/service.py`.

  `send` is the public send: it draws the exact shortfall from a pool when the
  sender's balance does not cover the amount, and then holds the amount for the
  undo window.
-/
import MoneyMovement.HoldingServices

namespace MoneyMovement

open Txn

namespace OverdraftService

/-- `_complete`: store the body without its `replayed` flag. -/
def complete (triple : IdempotencyTriple) (resourceId : Ulid) (body : Body) (now : Time)
    (status : Nat) : Tx Unit :=
  SqlIdempotencyRepository.complete triple resourceId status (body.without ["replayed"]) now

/-- `_audit_event`. -/
def auditEvent (c : Ctx) (actor : Ulid) (action : String) (resourceId : Ulid)
    (requestId : Option String) (metadata : Payload) : Tx Unit := do
  let now ← now c
  SqlAuditRepository.record c (some actor) action "overdraft" (some resourceId) requestId
    (some metadata) now

/-! ### Sponsor commands -/

/-- The transfer that funds a pool. -/
def fundCommand (c : Ctx) (sponsorUserId sponsorAccountId poolId poolAccountId : Ulid)
    (amount : Money) (idempotencyKey note : String) (requestId : Option String)
    (idempotencyEndpoint : String) : TransferCommand where
  actorUserId := sponsorUserId
  senderAccountId := sponsorAccountId
  receiverAccountId := poolAccountId
  amount := amount
  idempotencyKey := idempotencyKey
  requestFingerprint := fingerprintRequest c
    [("poolId", .str poolId.text), ("amountMinor", .int amount.minor)]
  kind := .overdraftFund
  note := some note
  requestId := requestId
  idempotencyEndpoint := idempotencyEndpoint

def POOL_ENDPOINT : String := "POST:/api/v1/overdraft/pools"

def poolBody (poolId poolAccountId : Ulid) (amount : Money) (funding : TransferResult) : Body :=
  [field "poolId" (.str poolId.text),
    field "poolAccountId" (.str poolAccountId.text),
    field "status" (.str "ACTIVE"),
    field "balanceMinor" (.int amount.minor),
    field "currency" (.str amount.currency.code),
    field "fundingTransferId" (.str funding.transferId.text)]

/-- `create_pool` once the key is reserved. -/
def createPoolReserved (c : Ctx) (triple : IdempotencyTriple) (sponsorUserId : Ulid)
    (amount : Money) (requestId : Option String) (now : Time) : Tx Body := do
  let existing ← SqlOverdraftRepository.getPoolForSponsor sponsorUserId
  ensure (existing.isNone = true) ⟨.conflict, "You already have a Spot-Me pool.", []⟩
  let found ← SqlAccountRepository.getByUserId sponsorUserId
  let sponsor ← orRaise found ⟨.notFound, "Your account could not be found.", []⟩
  let poolId ← newUlid c
  let poolAccountId ← newUlid c
  SqlAccountRepository.createSubaccount poolAccountId (some sponsorUserId) .overdraftPool
    ("POOL-" ++ poolId.suffix 12) amount.currency now
  SqlOverdraftRepository.createPool poolId sponsorUserId poolAccountId amount.currency now
  let funding ← execute c (fundCommand c sponsorUserId sponsor.id poolId poolAccountId amount
    ("pool-fund:" ++ poolId.text) "Fund Spot-Me pool" requestId "INTERNAL:/overdraft/fund")
  complete triple poolId (poolBody poolId poolAccountId amount funding) now 201
  auditEvent c sponsorUserId "OVERDRAFT_POOL_CREATED" poolId requestId
    [("amountMinor", .int amount.minor)]
  return poolBody poolId poolAccountId amount funding

def createPool (c : Ctx) (sponsorUserId : Ulid) (amount : Money) (idempotencyKey : String)
    (requestId : Option String) : Tx Body := do
  let now ← now c
  let decision ← SqlIdempotencyRepository.reserve ⟨sponsorUserId, POOL_ENDPOINT, idempotencyKey⟩
    (fingerprintRequest c
      [("amountMinor", .int amount.minor), ("currency", .str amount.currency.code)]) now
  match ← replayBodyOrRaise decision with
  | some body => return body.put "replayed" (.bool true)
  | none =>
    createPoolReserved c ⟨sponsorUserId, POOL_ENDPOINT, idempotencyKey⟩ sponsorUserId amount
      requestId now

def fundPool (c : Ctx) (sponsorUserId : Ulid) (amount : Money) (idempotencyKey : String)
    (requestId : Option String) : Tx Body := do
  let found ← SqlOverdraftRepository.getPoolForSponsor sponsorUserId
  let pool ← orRaise (found.filter fun p => p.status == .active)
    ⟨.notFound, "You do not have an active Spot-Me pool.", []⟩
  let account ← SqlAccountRepository.getByUserId sponsorUserId
  let sponsor ← orRaise account ⟨.notFound, "Your account could not be found.", []⟩
  let transfer ← execute c (fundCommand c sponsorUserId sponsor.id pool.id pool.poolAccountId amount
    idempotencyKey "Top up Spot-Me pool" requestId
    ("POST:/api/v1/overdraft/pools/" ++ pool.id.text ++ "/fund"))
  let poolAccount ← SqlAccountRepository.getById pool.poolAccountId
  return [field "poolId" (.str pool.id.text),
    field "status" (.str pool.status.text),
    field "balanceMinor" (.int ((poolAccount.map fun a => a.balance.minor).getD 0)),
    field "currency" (.str amount.currency.code),
    field "fundingTransferId" (.str transfer.transferId.text),
    field "replayed" (.bool transfer.replayed)]

def GRANT_ENDPOINT : String := "POST:/api/v1/overdraft/grants"

def grantBody (grantId poolId : Ulid) (beneficiary : UserRow) (maxDrawMinor : Int) : Body :=
  [field "grantId" (.str grantId.text),
    field "poolId" (.str poolId.text),
    field "beneficiaryName" (.str beneficiary.displayName),
    field "beneficiaryPhone" (.str beneficiary.phone),
    field "maxDrawMinor" (.int maxDrawMinor),
    field "status" (.str "ACTIVE")]

/-- `grant_access` once the key is reserved. -/
def grantAccessReserved (c : Ctx) (triple : IdempotencyTriple) (sponsorUserId : Ulid)
    (beneficiaryPhone : String) (maxDrawMinor : Int) (requestId : Option String) (now : Time) :
    Tx Body := do
  let foundPool ← SqlOverdraftRepository.getPoolForSponsor sponsorUserId
  let foundUser ← SqlUserRepository.getByPhone beneficiaryPhone
  let pool ← orRaise (foundPool.filter fun p => p.status == .active)
    ⟨.notFound, "Create an active Spot-Me pool first.", []⟩
  let beneficiary ← orRaise (foundUser.filter fun u => u.status == .active)
    ⟨.notFound, "Beneficiary not found.", []⟩
  ensure (beneficiary.id ≠ sponsorUserId)
    ⟨.selfTransfer, "You cannot grant your pool to yourself.", []⟩
  ensure (maxDrawMinor ≤ c.settings.overdraftMaxDrawMinor)
    ⟨.conflict, "A Spot-Me draw cannot exceed " ++ toString c.settings.overdraftMaxDrawMinor ++
      " minor units.", []⟩
  let existing ← SqlOverdraftRepository.getGrant pool.id beneficiary.id
  ensure (existing.isNone = true) ⟨.conflict, "This person already has access to your pool.", []⟩
  let grantId ← newUlid c
  SqlOverdraftRepository.createGrant grantId pool.id beneficiary.id maxDrawMinor now
  complete triple grantId (grantBody grantId pool.id beneficiary maxDrawMinor) now 201
  auditEvent c sponsorUserId "OVERDRAFT_ACCESS_GRANTED" grantId requestId
    [("beneficiaryUserId", .str beneficiary.id.text), ("maxDrawMinor", .int maxDrawMinor)]
  return grantBody grantId pool.id beneficiary maxDrawMinor

def grantAccess (c : Ctx) (sponsorUserId : Ulid) (beneficiaryPhone : String) (maxDrawMinor : Int)
    (idempotencyKey : String) (requestId : Option String) : Tx Body := do
  let now ← now c
  let decision ← SqlIdempotencyRepository.reserve ⟨sponsorUserId, GRANT_ENDPOINT, idempotencyKey⟩
    (fingerprintRequest c
      [("beneficiaryPhone", .str beneficiaryPhone), ("maxDrawMinor", .int maxDrawMinor)]) now
  match ← replayBodyOrRaise decision with
  | some body => return body.put "replayed" (.bool true)
  | none =>
    grantAccessReserved c ⟨sponsorUserId, GRANT_ENDPOINT, idempotencyKey⟩ sponsorUserId
      beneficiaryPhone maxDrawMinor requestId now

/-! ### Send with automatic shortfall -/

def SEND_ENDPOINT : String := "POST:/api/v1/transfers"

/-- The client's key, hashed: the internal legs of a send derive their keys from it. -/
def derivedKey (c : Ctx) (idempotencyKey : String) : String :=
  fingerprintRequest c [("clientKey", .str idempotencyKey)]

/-- The transfer that draws a shortfall from a pool. -/
def drawCommand (c : Ctx) (pool : PoolRow) (borrowerUserId borrowerAccountId : Ulid)
    (shortfall : Int) (currency : Currency) (idempotencyKey : String) (requestId : Option String) :
    TransferCommand where
  actorUserId := pool.sponsorUserId
  senderAccountId := pool.poolAccountId
  receiverAccountId := borrowerAccountId
  amount := .fromMinor shortfall currency
  idempotencyKey := "spot-draw:" ++ derivedKey c idempotencyKey
  requestFingerprint := fingerprintRequest c
    [("poolId", .str pool.id.text), ("borrowerUserId", .str borrowerUserId.text),
      ("amountMinor", .int shortfall)]
  kind := .overdraftDraw
  note := some "Automatic Spot-Me shortfall"
  requestId := requestId
  enforceLimits := false
  idempotencyEndpoint := "INTERNAL:/overdraft/draw"

/-- The first grant whose cap and whose pool's locked balance cover the shortfall. -/
def selectGrant (grants : List (GrantRow × PoolRow)) (locked : Ulid → Option Account)
    (shortfall : Int) : Option (GrantRow × PoolRow) :=
  grants.find? fun g => decide (shortfall ≤ g.1.maxDrawMinor) &&
    match locked g.2.poolAccountId with
    | some a => decide (shortfall ≤ a.balance.minor)
    | none => false

/-- What a send drew: the loan and its draw transfer. -/
structure Draw where
  loanId : Ulid
  poolId : Ulid
  drawTransferId : Ulid
  amountMinor : Int

/-- Draw the shortfall and record the loan. -/
def drawShortfall (c : Ctx) (actorUserId senderAccountId : Ulid) (sender : Account) (amount : Money)
    (grants : List (GrantRow × PoolRow)) (locked : Ulid → Option Account)
    (idempotencyKey : String) (requestId : Option String) (shortfall : Int) (now : Time) :
    Tx Draw := do
  let selected ← orRaise ((selectGrant grants locked shortfall).filter fun _ =>
      decide (shortfall ≤ c.settings.overdraftMaxDrawMinor))
    (.detailed .insufficientFunds
      [("availableMinor", .int sender.balance.minor), ("requestedMinor", .int amount.minor),
        ("shortfallMinor", .int shortfall), ("spotMeAvailable", .bool false)])
  let draw ← execute c (drawCommand c selected.2 actorUserId senderAccountId shortfall
    amount.currency idempotencyKey requestId)
  let loanId ← SqlOverdraftRepository.createLoan c selected.2.id actorUserId draw.transferId
    shortfall amount.currency now
  return ⟨loanId, selected.2.id, draw.transferId, shortfall⟩

/-- Draw when there is a shortfall. -/
def coverShortfall (c : Ctx) (actorUserId senderAccountId : Ulid) (sender : Account)
    (amount : Money) (grants : List (GrantRow × PoolRow)) (locked : Ulid → Option Account)
    (idempotencyKey : String) (requestId : Option String) (now : Time) : Tx (Option Draw) :=
  if 0 < amount.minor - sender.balance.minor then do
    let draw ← drawShortfall c actorUserId senderAccountId sender amount grants locked
      idempotencyKey requestId (amount.minor - sender.balance.minor) now
    return some draw
  else return none

def drawBody : Option Draw → BodyValue
  | none => .scalar .null
  | some d => .record [("loanId", .str d.loanId.text), ("poolId", .str d.poolId.text),
      ("drawTransferId", .str d.drawTransferId.text), ("amountMinor", .int d.amountMinor)]

def sendBody (hold : TransferResult) (draw : Option Draw) : Body :=
  hold.toResponse ++
    [field "undoExpiresAt" (.str (UndoableTransferService.undoDeadline hold)),
      field "overdraftUsed" (.bool draw.isSome),
      ("overdraft", drawBody draw),
      field "replayed" (.bool false)]

/-- `send` once the key is reserved. -/
def sendReserved (c : Ctx) (triple : IdempotencyTriple)
    (actorUserId senderAccountId receiverAccountId : Ulid) (amount : Money)
    (idempotencyKey : String) (note requestId : Option String) (now : Time) : Tx Body := do
  let grants ← SqlOverdraftRepository.activeGrantsForBorrower actorUserId
  let locked ← SqlAccountRepository.lockForUpdate
    (senderAccountId :: PENDING_SETTLEMENT_ACCOUNT_ID :: grants.map fun g => g.2.poolAccountId)
  let sender ← orRaise (locked senderAccountId) ⟨.notFound, "Your account could not be found.", []⟩
  sender.ensureOwnedBy actorUserId
  let draw ← coverShortfall c actorUserId senderAccountId sender amount grants locked idempotencyKey
    requestId now
  let hold ← UndoableTransferService.send c actorUserId senderAccountId receiverAccountId amount
    ("undo-hold:" ++ derivedKey c idempotencyKey) note requestId
    UndoableTransferService.UNDO_HOLD_ENDPOINT
  complete triple hold.transferId (sendBody hold draw) now 201
  return sendBody hold draw

def sendFingerprint (c : Ctx) (senderAccountId receiverAccountId : Ulid) (amount : Money)
    (note : Option String) : String :=
  fingerprintRequest c
    [("senderAccountId", .str senderAccountId.text),
      ("receiverAccountId", .str receiverAccountId.text), ("amountMinor", .int amount.minor),
      ("currency", .str amount.currency.code),
      ("note", match note with
        | some n => .str n
        | none => .null)]

def send (c : Ctx) (actorUserId senderAccountId receiverAccountId : Ulid) (amount : Money)
    (idempotencyKey : String) (note requestId : Option String) : Tx Body := do
  let now ← now c
  let decision ← SqlIdempotencyRepository.reserve ⟨actorUserId, SEND_ENDPOINT, idempotencyKey⟩
    (sendFingerprint c senderAccountId receiverAccountId amount note) now
  match ← replayBodyOrRaise decision with
  | some body => return body.put "replayed" (.bool true)
  | none =>
    sendReserved c ⟨actorUserId, SEND_ENDPOINT, idempotencyKey⟩ actorUserId senderAccountId
      receiverAccountId amount idempotencyKey note requestId now

end OverdraftService

end MoneyMovement

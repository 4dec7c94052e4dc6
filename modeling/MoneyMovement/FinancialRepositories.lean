/-
  MoneyMovement/FinancialRepositories.lean
  ========================================
  **The financial-core repositories** —
  `modules/financial_core/adapters/persistence/repositories.py` with the domain
  objects they load and write (`domain/account.py`, `domain/ledger.py`,
  `application/idempotency.py`).

  Each write checks the constraints its table declares: primary and unique
  keys, foreign keys, `CHECK`s and the declared length of text columns.
-/
import Mathlib.Data.List.Dedup
import MoneyMovement.Session

namespace MoneyMovement

open Txn

/-! ### The account aggregate (`domain/account.py`) -/

structure Account where
  id : Ulid
  userId : Option Ulid
  accountType : AccountType
  balance : Money
  status : AccountStatus
  version : Nat
deriving DecidableEq

namespace Account

/-- Only the issuance account may go negative. -/
def mayGoNegative (a : Account) : Bool := a.accountType == .systemIssuance

def ensureActive (a : Account) : Tx Unit :=
  ensure (a.status = .active)
    ⟨.accountInactive, "Account is " ++ a.status.text.toLower ++ " and cannot transact.",
      [("accountId", .str a.id.text), ("status", .str a.status.text)]⟩

def ensureOwnedBy (a : Account) (userId : Ulid) : Tx Unit :=
  ensure (a.userId = some userId) ⟨.authorization, "You do not own this account.", []⟩

def ensureSameCurrencyAs (a b : Account) : Tx Unit :=
  ensure (a.balance.currency = b.balance.currency)
    (.detailed .currencyMismatch
      [("from", .str a.balance.currency.code), ("to", .str b.balance.currency.code)])

def ensureCanAfford (a : Account) (amount : Money) : Tx Unit :=
  ensure (a.mayGoNegative = true ∨ amount.minor ≤ a.balance.minor)
    (.detailed .insufficientFunds
      [("availableMinor", .int a.balance.minor), ("requestedMinor", .int amount.minor),
        ("shortfallMinor", .int (amount.minor - a.balance.minor))])

/-- A new account with `amount` removed. -/
def debit (a : Account) (amount : Money) : Tx Account := do
  ensure (amount.isPositive = true) ⟨.python, "Debit amount must be positive", []⟩
  a.ensureActive
  a.ensureCanAfford amount
  return { a with balance := a.balance.sub amount, version := a.version + 1 }

/-- A new account with `amount` added. -/
def credit (a : Account) (amount : Money) : Tx Account := do
  ensure (amount.isPositive = true) ⟨.python, "Credit amount must be positive", []⟩
  a.ensureActive
  return { a with balance := a.balance.add amount, version := a.version + 1 }

end Account

/-- `_to_domain`. -/
def AccountRow.toDomain (r : AccountRow) : Account :=
  ⟨r.id, r.userId, r.accountType, ⟨r.balanceMinor, r.currency⟩, r.status, r.version⟩

/-! ### Accounts -/

namespace SqlAccountRepository

/-- The constraints of `accounts` on a row, its primary key apart. -/
def admits (row : AccountRow) (db : Database) : Bool :=
  db.accounts.rows.all (fun a => a.accountNumber ≠ row.accountNumber) &&
  (match row.userId with
    | none => true
    | some u => (db.users.find? u).isSome &&
        db.accounts.rows.all fun a => !(a.userId == some u && a.accountType == row.accountType)) &&
  (match row.accountType with
    | .user | .overdraftPool => row.userId.isSome
    | _ => row.userId.isNone) &&
  (row.accountType == .systemIssuance || decide (0 ≤ row.balanceMinor))

def getById (id : Ulid) : Tx (Option Account) :=
  readDb fun db => (db.accounts.find? id).map AccountRow.toDomain

/-- The `USER` account of a user. -/
def ofUser (db : Database) (userId : Ulid) : Option AccountRow :=
  db.accounts.rows.find? fun a => decide (a.userId = some userId ∧ a.accountType = .user)

def getByUserId (userId : Ulid) : Tx (Option Account) :=
  readDb fun db => (ofUser db userId).map AccountRow.toDomain

def getByPhone (phone : String) : Tx (Option Account) :=
  readDb fun db => ((db.users.rows.find? fun u => decide (u.phone = phone)).bind fun u =>
    ofUser db u.id).map AccountRow.toDomain

/-- Record that the rows of `ids` that exist are locked, in ascending order. -/
def acquire (ids : List Ulid) : Tx Unit := modify fun s =>
  let ordered := ids.dedup.insertionSort fun a b => a.rank ≤ b.rank
  let new := ordered.filter fun id =>
    (s.db.accounts.find? id).isSome && decide (id ∉ s.locks)
  { s with locks := new.reverse ++ s.locks }

/-- `SELECT … WHERE id IN ids ORDER BY id FOR UPDATE`, as the dictionary it returns. -/
def lockForUpdate (ids : List Ulid) : Tx (Ulid → Option Account) := do
  acquire ids
  readDb fun db id => if id ∈ ids then (db.accounts.find? id).map AccountRow.toDomain else none

/-- `create` and `create_subaccount`: an empty active account. -/
def createSubaccount (accountId : Ulid) (userId : Option Ulid) (accountType : AccountType)
    (accountNumber : String) (currency : Currency) (now : Time) : Tx Unit := do
  ensure (fits 20 accountNumber = true) (.of .data)
  let row : AccountRow :=
    { id := accountId, userId, accountType, accountNumber, currency, balanceMinor := 0,
      status := .active, version := 0, createdAt := now, updatedAt := now }
  insertInto (·.accounts) (fun db t => { db with accounts := t }) row (admits row)

def create (accountId userId : Ulid) (accountNumber : String) (currency : Currency) (now : Time) :
    Tx Unit :=
  createSubaccount accountId (some userId) .user accountNumber currency now

def setStatus (c : Ctx) (accountId : Ulid) (status : AccountStatus) : Tx Nat := do
  acquire [accountId]
  updateWhere (·.accounts) (fun db t => { db with accounts := t }) accountId (fun _ => true)
    (fun a => { a with status, updatedAt := c.oracle.dbNow }) (fun _ => rfl) (fun _ _ => true)

/-- Write the decided balance back. -/
def persistBalance (c : Ctx) (account : Account) : Tx Unit := do
  acquire [account.id]
  let n ← updateWhere (·.accounts) (fun db t => { db with accounts := t }) account.id
    (fun _ => true)
    (fun a => { a with
      balanceMinor := account.balance.minor, version := account.version,
      updatedAt := c.oracle.dbNow })
    (fun _ => rfl)
    (fun _ a => a.accountType == .systemIssuance || decide (0 ≤ a.balanceMinor))
  ensure (n = 1) ⟨.python, "Failed to persist balance for account " ++ account.id.text, []⟩

end SqlAccountRepository

/-! ### Transfers -/

namespace SqlTransferRepository

/-- The constraints of `transfers` on a row, its primary key apart. -/
def admits (row : TransferRow) (db : Database) : Bool :=
  db.transfers.rows.all (fun t => t.reference ≠ row.reference) &&
  (db.accounts.find? row.senderAccountId).isSome &&
  (db.accounts.find? row.receiverAccountId).isSome &&
  (match row.initiatedByUserId with
    | none => true
    | some u => (db.users.find? u).isSome) &&
  (match row.parentTransferId with
    | none => true
    | some p => (db.transfers.find? p).isSome) &&
  (match row.intendedReceiverAccountId with
    | none => true
    | some a => (db.accounts.find? a).isSome) &&
  decide (0 < row.amountMinor) &&
  decide (row.senderAccountId ≠ row.receiverAccountId) &&
  (row.kind.isSettlementLeg == row.parentTransferId.isSome)

def create (row : TransferRow) : Tx Unit := do
  ensure (fits? 200 row.note = true ∧ fits? 64 row.requestId = true) (.of .data)
  insertInto (·.transfers) (fun db t => { db with transfers := t }) row (admits row)

/-- Latch a transfer from one status to another: the number of rows changed. -/
def tryTransitionStatus (c : Ctx) (transferId : Ulid) (fromStatus toStatus : TransferStatus) :
    Tx Nat :=
  updateWhere (·.transfers) (fun db t => { db with transfers := t }) transferId
    (fun t => t.status == fromStatus)
    (fun t => { t with status := toStatus, completedAt := some c.oracle.dbNow })
    (fun _ => rfl) (fun _ _ => true)

def get (transferId : Ulid) : Tx (Option TransferRow) := readDb fun db => db.transfers.find? transferId

/-- The statuses a sent transfer counts in. -/
def countsAsSent : TransferStatus → Bool
  | .succeeded | .pendingUndo | .held => true
  | _ => false

/-- What an account has sent since an instant. -/
def sentSince (db : Database) (accountId : Ulid) (since : Time) : Int :=
  db.transfers.sum fun t =>
    if t.senderAccountId = accountId ∧ countsAsSent t.status = true ∧ since ≤ t.createdAt then
      t.amountMinor else 0

def sumSentSince (accountId : Ulid) (since : Time) : Tx Money :=
  readDb fun db => ⟨sentSince db accountId since, .BDT⟩

end SqlTransferRepository

/-! ### The ledger (`domain/ledger.py` and `SqlLedgerRepository`) -/

/-- A signed change to one account; never zero. -/
structure PostingLine where
  accountId : Ulid
  amount : Money
  ne_zero : amount.minor ≠ 0

/-- A balanced accounting event: it cannot be built otherwise. -/
structure LedgerPosting where
  lines : List PostingLine
  two_le : 2 ≤ lines.length
  sum_zero : (lines.map fun l => l.amount.minor).sum = 0
  distinct : (lines.map PostingLine.accountId).Nodup

namespace LedgerPosting

/-- The two-line posting: debit the sender, credit the receiver. -/
def transfer (fromAccountId toAccountId : Ulid) (amount : Money) (hpos : 0 < amount.minor)
    (hne : fromAccountId ≠ toAccountId) : LedgerPosting where
  lines := [⟨fromAccountId, amount.neg, by show -amount.minor ≠ 0; omega⟩,
    ⟨toAccountId, amount, by omega⟩]
  two_le := Nat.le_refl 2
  sum_zero := by simp [Money.neg]
  distinct := by simp [hne]

/-- `LedgerPosting.transfer` refuses a non-positive amount and a self-transfer. -/
def transfer? (fromAccountId toAccountId : Ulid) (amount : Money) : Tx LedgerPosting := fun s =>
  if hpos : 0 < amount.minor then
    if hne : fromAccountId ≠ toAccountId then
      .ok (transfer fromAccountId toAccountId amount hpos hne) s
    else .raised ⟨.python, "Cannot transfer to the same account", []⟩ s
  else .raised ⟨.python, "Transfer amount must be positive", []⟩ s

end LedgerPosting

namespace SqlLedgerRepository

def insertTransaction (row : LedgerTransactionRow) : Tx Unit :=
  insertInto (·.ledgerTransactions) (fun db t => { db with ledgerTransactions := t }) row fun db =>
    db.ledgerTransactions.rows.all (fun x => x.transferId ≠ row.transferId) &&
    (db.transfers.find? row.transferId).isSome

def insertEntry (row : LedgerEntryRow) : Tx Unit :=
  insertInto (·.ledgerEntries) (fun db t => { db with ledgerEntries := t }) row fun db =>
    (db.ledgerTransactions.find? row.ledgerTransactionId).isSome &&
    (db.accounts.find? row.accountId).isSome && decide (row.amountMinor ≠ 0)

/-- One entry per line of the posting. -/
def postLines (c : Ctx) (ledgerTransactionId : Ulid) (balancesAfter : Ulid → Option Money)
    (now : Time) : List PostingLine → Tx Unit
  | [] => pure ()
  | line :: lines => do
    let entryId ← newUlid c
    let balance ← orRaise (balancesAfter line.accountId) ⟨.python, line.accountId.text, []⟩
    insertEntry
      { id := entryId, ledgerTransactionId, accountId := line.accountId,
        amountMinor := line.amount.minor, currency := line.amount.currency,
        balanceAfterMinor := balance.minor, createdAt := now }
    postLines c ledgerTransactionId balancesAfter now lines

def post (c : Ctx) (posting : LedgerPosting) (transferId : Ulid) (postingType : TransferKind)
    (description : Option String) (balancesAfter : Ulid → Option Money) (now : Time) : Tx Ulid := do
  let ledgerTransactionId ← newUlid c
  insertTransaction
    { id := ledgerTransactionId, transferId, type := postingType, description, postedAt := now }
  postLines c ledgerTransactionId balancesAfter now posting.lines
  return ledgerTransactionId

end SqlLedgerRepository

/-! ### Idempotency (`application/idempotency.py` and `SqlIdempotencyRepository`) -/

/-- What the store decided about a key. -/
inductive IdempotencyDecision where
  | proceed
  | replay (storedStatus : Option Nat) (storedBody : Option Body) (resourceId : Option Ulid)
  | inProgress
  | payloadMismatch

/-- `fingerprint_request`: SHA-256 of the canonical JSON. -/
def fingerprintRequest (c : Ctx) (payload : Payload) : String :=
  c.crypto.sha256 (JsonText.dumps payload)

namespace SqlIdempotencyRepository

/-- The reservation row. -/
def processing (triple : IdempotencyTriple) (fingerprint : String) (now : Time) :
    IdempotencyRow where
  triple := triple
  requestFingerprint := fingerprint
  status := .processing
  resourceId := none
  httpStatus := none
  responseBody := none
  createdAt := now
  completedAt := none

/-- `INSERT … ON CONFLICT DO NOTHING`; on conflict read the row that is there. -/
def reserve (triple : IdempotencyTriple) (fingerprint : String) (now : Time) :
    Tx IdempotencyDecision := do
  ensure (fits 100 triple.endpoint = true ∧ fits 128 triple.key = true) (.of .data)
  match ← readDb fun db => db.idempotencyRecords.find? triple with
  | none => do
    writeDb fun db => { db with
      idempotencyRecords := db.idempotencyRecords.push (processing triple fingerprint now) }
    return .proceed
  | some existing =>
    if existing.requestFingerprint ≠ fingerprint then return .payloadMismatch
    else if existing.status = .completed then
      return .replay existing.httpStatus existing.responseBody existing.resourceId
    else return .inProgress

/-- The row after `complete`. -/
def completedRow (resourceId : Ulid) (httpStatus : Nat) (body : Body) (now : Time)
    (r : IdempotencyRow) : IdempotencyRow :=
  { r with
    status := .completed, resourceId := some resourceId, httpStatus := some httpStatus,
    responseBody := some body, completedAt := some now }

@[simp] theorem triple_completedRow (resourceId : Ulid) (httpStatus : Nat) (body : Body) (now : Time)
    (r : IdempotencyRow) : (completedRow resourceId httpStatus body now r).triple = r.triple := rfl

def complete (triple : IdempotencyTriple) (resourceId : Ulid) (httpStatus : Nat) (body : Body)
    (now : Time) : Tx Unit :=
  writeDb fun db => { db with
    idempotencyRecords := db.idempotencyRecords.modifyAt triple
      (completedRow resourceId httpStatus body now)
      (triple_completedRow resourceId httpStatus body now) }

end SqlIdempotencyRepository

/-- `replay_body_or_raise`: the stored body of a replay, nothing when the caller is to proceed. -/
def replayBodyOrRaise : IdempotencyDecision → Tx (Option Body)
  | .proceed => pure none
  | .payloadMismatch => raise (.of .idempotencyKeyReuse)
  | .inProgress => raise (.of .requestInProgress)
  | .replay _ body _ => pure (some (body.getD []))

/-! ### Response bodies -/

namespace Body

/-- `body.get(name)`. -/
def get? (b : Body) (name : String) : Option BodyValue := (b.find? fun f => f.1 == name).map Prod.snd

def str? (b : Body) (name : String) : Option String :=
  match get? b name with
  | some (.scalar (.str s)) => some s
  | _ => none

def int? (b : Body) (name : String) : Option Int :=
  match get? b name with
  | some (.scalar (.int i)) => some i
  | _ => none

/-- The fields of a body that are not records: all of them, in the answer to a delivery code. -/
def scalars (b : Body) : Payload :=
  b.filterMap fun f =>
    match f.2 with
    | .scalar v => some (f.1, v)
    | .record _ => none

/-- `body[name] = value`. -/
def put (b : Body) (name : String) (v : Scalar) : Body :=
  b.filter (fun f => f.1 != name) ++ [(name, .scalar v)]

/-- The body without the named fields. -/
def without (b : Body) (names : List String) : Body := b.filter fun f => !names.contains f.1

end Body

/-- A field whose value is a scalar. -/
def field (name : String) (v : Scalar) : String × BodyValue := (name, .scalar v)

/-! ### Outbox and audit -/

namespace SqlOutboxPublisher

def append (c : Ctx) (eventType : EventType) (aggregateId : Ulid) (occurredAt : Time)
    (payload : Payload) (traceId : Option String) : Tx Ulid := do
  let eventId ← newUlid c
  ensure (fits? 64 traceId = true) (.of .data)
  insertInto (·.outboxEvents) (fun db t => { db with outboxEvents := t })
    { id := eventId, aggregateType := eventType.aggregateType, aggregateId, eventType, payload,
      traceId, schemaVersion := 1, occurredAt, publishedAt := none, attemptCount := 0,
      nextAttemptAt := none, lastError := none, deadLetteredAt := none }
    fun _ => true
  return eventId

end SqlOutboxPublisher

namespace SqlAuditRepository

def record (c : Ctx) (actorUserId : Option Ulid) (action resourceType : String)
    (resourceId : Option Ulid) (requestId : Option String) (metadata : Option Payload) (now : Time) :
    Tx Unit := do
  let auditId ← newUlid c
  ensure (fits? 64 requestId = true) (.of .data)
  insertInto (·.auditLogs) (fun db t => { db with auditLogs := t })
    { id := auditId, actorUserId, action, resourceType, resourceId, requestId, ipAddress := none,
      metadata, createdAt := now }
    fun db => match actorUserId with
      | none => true
      | some u => (db.users.find? u).isSome

end SqlAuditRepository

end MoneyMovement

/-
  MoneyMovement/Queries.lean
  ==========================
  **The read routes** — what the `GET` endpoints of the API answer.

  A query reads the committed database once and changes nothing.  Its answer is
  the record the route renders, field by field; `SELECT` with joins is a
  `filterMap` over the driving table, so a row whose join finds nothing is not
  listed.  Where `ORDER BY` leaves rows tied, the oracle's `physical` decides.
-/
import MoneyMovement.Reconciliation
import MoneyMovement.StatementPages
import MoneyMovement.Requests

namespace MoneyMovement

open Txn

/-- `ORDER BY created_at DESC`. -/
def newestFirst {ρ : Type} (c : Ctx) (createdAt : ρ → Time) (id : ρ → Ulid) (rows : List ρ) : List ρ :=
  rows.insertionSort fun a b => createdAt b < createdAt a ∨
    createdAt b = createdAt a ∧ c.oracle.physical (id a) ≤ c.oracle.physical (id b)

/-- `ORDER BY id DESC`. -/
def byIdDesc {ρ : Type} (id : ρ → Ulid) (rows : List ρ) : List ρ :=
  rows.insertionSort fun a b => (id b).rank ≤ (id a).rank

/-! ### Accounts (`apps/api/routes/accounts.py`) -/

structure AccountSummary where
  accountId : Ulid
  displayName : String
  phone : String
  balanceMinor : Int
  currency : Currency
  status : AccountStatus

/-- `get_my_account`. -/
def getMyAccount (db : Database) (userId : Ulid) : Except AppError AccountSummary :=
  match SqlAccountRepository.ofUser db userId with
  | none => .error ⟨.notFound, "Account not found.", []⟩
  | some account => .ok {
      accountId := account.id
      displayName := ((db.users.find? userId).map UserRow.displayName).getD ""
      phone := ((db.users.find? userId).map UserRow.phone).getD ""
      balanceMinor := account.balanceMinor, currency := account.currency
      status := account.status }

structure Recipient where
  userId : Ulid
  displayName : String
  phone : String

/-- `search`: exact phone, another user, active. -/
def SqlUserRepository.search (db : Database) (phone : String) (excludeUserId : Ulid) :
    Option Recipient :=
  (db.users.rows.find? fun u =>
      decide (u.phone = phone ∧ u.id ≠ excludeUserId ∧ u.status = .active)).map fun u =>
    { userId := u.id, displayName := u.displayName, phone := u.phone }

/-- `lookup_recipient`. -/
def lookupRecipient (db : Database) (userId : Ulid) (phone : String) : Except AppError Recipient :=
  match SqlUserRepository.search db phone userId with
  | none => .error ⟨.notFound, "No active user found with that phone number.", []⟩
  | some found => .ok found

/-! ### Transfers (`apps/api/routes/transfers.py`) -/

structure PendingUndo where
  transferId : Ulid
  reference : Reference
  amountMinor : Int
  currency : Currency
  note : Option String
  createdAt : Time

/-- `list_pending_undo_for_account`. -/
def SqlTransferRepository.listPendingUndoForAccount (db : Database) (accountId : Ulid) :
    List PendingUndo :=
  ((byIdDesc TransferRow.id (db.transfers.rows.filter fun t =>
      decide (t.senderAccountId = accountId ∧ t.status = .pendingUndo))).take 20).map fun t =>
    { transferId := t.id, reference := t.reference, amountMinor := t.amountMinor
      currency := t.currency, note := t.note, createdAt := t.createdAt }

/-- `list_pending_undo`. -/
def listPendingUndo (db : Database) (userId : Ulid) : Except AppError (List PendingUndo) :=
  match SqlAccountRepository.ofUser db userId with
  | none => .error ⟨.notFound, "Your account could not be found.", []⟩
  | some account => .ok (SqlTransferRepository.listPendingUndoForAccount db account.id)

structure Receipt where
  transferId : Ulid
  reference : Reference
  status : TransferStatus
  amountMinor : Int
  currency : Currency
  kind : TransferKind
  note : Option String
  senderAccountId : Ulid
  receiverAccountId : Ulid
  createdAt : Time
  completedAt : Option Time
  direction : Direction

def SqlTransferRepository.getByReference (db : Database) (reference : String) : Option TransferRow :=
  db.transfers.rows.find? fun t => decide (t.reference.text = reference)

/-- `get_transfer`: a stranger is told what a wrong reference is told. -/
def getTransfer (db : Database) (userId : Ulid) (reference : String) : Except AppError Receipt :=
  match SqlTransferRepository.getByReference db reference, SqlAccountRepository.ofUser db userId with
  | some t, some account =>
    if account.id = t.senderAccountId ∨ account.id = t.receiverAccountId then
      .ok {
        transferId := t.id, reference := t.reference, status := t.status
        amountMinor := t.amountMinor, currency := t.currency, kind := t.kind, note := t.note
        senderAccountId := t.senderAccountId, receiverAccountId := t.receiverAccountId
        createdAt := t.createdAt, completedAt := t.completedAt
        direction := if account.id = t.senderAccountId then .debit else .credit }
    else .error ⟨.notFound, "Transfer not found.", []⟩
  | _, _ => .error ⟨.notFound, "Transfer not found.", []⟩

/-! ### Money requests -/

inductive RequestDirection where
  | incoming | outgoing
deriving DecidableEq, Repr

structure RequestLine where
  requestId : Ulid
  reference : Reference
  requesterAccountId : Ulid
  payerAccountId : Ulid
  amountMinor : Int
  currency : Currency
  note : Option String
  status : RequestStatus
  transferId : Option Ulid
  expiresAt : Time
  createdAt : Time
  respondedAt : Option Time

namespace SqlMoneyRequestRepository

/-- `_to_dict`. -/
def toLine (r : MoneyRequestRow) : RequestLine where
  requestId := r.id
  reference := r.reference
  requesterAccountId := r.requesterAccountId
  payerAccountId := r.payerAccountId
  amountMinor := r.amountMinor
  currency := r.currency
  note := r.note
  status := r.status
  transferId := r.transferId
  expiresAt := r.expiresAt
  createdAt := r.createdAt
  respondedAt := r.respondedAt

/-- The account on the caller's side of a request. -/
def side : RequestDirection → MoneyRequestRow → Ulid
  | .incoming => MoneyRequestRow.payerAccountId
  | .outgoing => MoneyRequestRow.requesterAccountId

/-- The `WHERE` of the listing, the cursor apart. -/
def listed (accountId : Ulid) (direction : RequestDirection) (status : Option RequestStatus)
    (r : MoneyRequestRow) : Bool :=
  decide (side direction r = accountId) && status.all fun s => decide (r.status = s)

/-- `list_for_account`: newest identifier first, after the cursor, at most `limit`. -/
def listForAccount (db : Database) (accountId : Ulid) (direction : RequestDirection)
    (status : Option RequestStatus) (limit : Nat) (cursor : Option Ulid) : List RequestLine :=
  ((byIdDesc MoneyRequestRow.id ((db.moneyRequests.rows.filter
      (listed accountId direction status)).filter fun r =>
        cursor.all fun c => decide (r.id.rank < c.rank))).take limit).map toLine

end SqlMoneyRequestRepository

structure RequestPage where
  requests : List RequestLine
  nextCursor : Option Ulid

/-- `list_requests`: the last request listed is the next cursor. -/
def listRequests (db : Database) (userId : Ulid) (direction : RequestDirection)
    (status : Option RequestStatus) (limit : Nat) (cursor : Option Ulid) :
    Except AppError RequestPage :=
  match SqlAccountRepository.ofUser db userId with
  | none => .error ⟨.notFound, "Your account could not be found.", []⟩
  | some account =>
    let rows := SqlMoneyRequestRepository.listForAccount db account.id direction status limit cursor
    .ok ⟨rows, rows.getLast?.map RequestLine.requestId⟩

/-! ### Spot-Me (`SqlOverdraftRepository.summary`) -/

structure SponsoredPool where
  poolId : Ulid
  status : PoolStatus
  balanceMinor : Int
  currency : Currency

structure GrantLine where
  grantId : Ulid
  poolId : Ulid
  beneficiaryName : String
  beneficiaryPhone : String
  maxDrawMinor : Int
  status : GrantStatus

structure DebtLine where
  loanId : Ulid
  poolId : Ulid
  sponsorName : String
  principalMinor : Int
  outstandingMinor : Int
  currency : Currency
  status : LoanStatus
  createdAt : Time

structure OverdraftSummary where
  sponsoredPool : Option SponsoredPool
  grants : List GrantLine
  debts : List DebtLine

namespace SqlOverdraftRepository

def sponsoredPool (db : Database) (p : PoolRow) : Option SponsoredPool := do
  let account ← db.accounts.find? p.poolAccountId
  return { poolId := p.id, status := p.status, balanceMinor := account.balanceMinor
           currency := p.currency }

def grantLine (db : Database) (userId : Ulid) (g : GrantRow) : Option GrantLine := do
  let pool ← db.overdraftPools.find? g.poolId
  let user ← db.users.find? g.beneficiaryUserId
  if pool.sponsorUserId = userId then
    some { grantId := g.id, poolId := g.poolId, beneficiaryName := user.displayName
           beneficiaryPhone := user.phone, maxDrawMinor := g.maxDrawMinor, status := g.status }
  else none

def debtLine (db : Database) (l : LoanRow) : Option DebtLine := do
  let pool ← db.overdraftPools.find? l.poolId
  let sponsor ← db.users.find? pool.sponsorUserId
  return { loanId := l.id, poolId := l.poolId, sponsorName := sponsor.displayName
           principalMinor := l.principalMinor, outstandingMinor := l.outstandingMinor
           currency := l.currency, status := l.status, createdAt := l.createdAt }

def summary (c : Ctx) (db : Database) (userId : Ulid) : OverdraftSummary where
  sponsoredPool := ((db.overdraftPools.rows.filter fun p =>
    decide (p.sponsorUserId = userId)).filterMap (sponsoredPool db)).head?
  grants := (newestFirst c GrantRow.createdAt GrantRow.id db.overdraftGrants.rows).filterMap
    (grantLine db userId)
  debts := (newestFirst c LoanRow.createdAt LoanRow.id (db.overdraftLoans.rows.filter fun l =>
    decide (l.borrowerUserId = userId))).filterMap (debtLine db)

end SqlOverdraftRepository

/-! ### Safe-Pay -/

inductive OrderRole where
  | buyer | seller
deriving DecidableEq, Repr

/-- `_row`: an escrow as its parties see it. -/
structure Order where
  escrowId : Ulid
  reference : Reference
  holdTransferId : Ulid
  settlementTransferId : Option Ulid
  buyerUserId : Ulid
  sellerUserId : Ulid
  amountMinor : Int
  currency : Currency
  description : Option String
  status : EscrowStatus
  trackingNumber : Option String
  courier : Option String
  shippedAt : Option Time
  deliveredAt : Option Time
  autoReleaseAt : Option Time
  settledAt : Option Time
  disputeReason : Option String
  disputedAt : Option Time
  resolutionNote : Option String
  createdAt : Time

structure OrderLine where
  escrowId : Ulid
  reference : Reference
  role : OrderRole
  counterpartyName : String
  amountMinor : Int
  currency : Currency
  description : Option String
  status : EscrowStatus
  trackingNumber : Option String
  courier : Option String
  autoReleaseAt : Option Time
  createdAt : Time

structure DisputeLine where
  escrowId : Ulid
  reference : Reference
  amountMinor : Int
  currency : Currency
  description : Option String
  reason : Option String
  disputedAt : Time
  buyerName : String
  buyerPhone : String
  sellerName : String
  sellerPhone : String
  courier : Option String
  trackingNumber : Option String
  shippedAt : Option Time
  deliveredAt : Option Time
  createdAt : Time

namespace SqlSafePayRepository

/-- `_row`. -/
def asDict (e : EscrowRow) : Order where
  escrowId := e.id
  reference := e.reference
  holdTransferId := e.holdTransferId
  settlementTransferId := e.settlementTransferId
  buyerUserId := e.buyerUserId
  sellerUserId := e.sellerUserId
  amountMinor := e.amountMinor
  currency := e.currency
  description := e.description
  status := e.status
  trackingNumber := e.trackingNumber
  courier := e.courierSlug
  shippedAt := e.shippedAt
  deliveredAt := e.deliveredAt
  autoReleaseAt := e.autoReleaseAt
  settledAt := e.settledAt
  disputeReason := e.disputeReason
  disputedAt := e.disputedAt
  resolutionNote := e.resolutionNote
  createdAt := e.createdAt

def roleOf (userId : Ulid) (e : EscrowRow) : OrderRole :=
  if e.buyerUserId = userId then .buyer else .seller

def orderLine (db : Database) (userId : Ulid) (e : EscrowRow) : Option OrderLine := do
  let buyer ← db.users.find? e.buyerUserId
  let seller ← db.users.find? e.sellerUserId
  return { escrowId := e.id, reference := e.reference, role := roleOf userId e
           counterpartyName :=
             if e.buyerUserId = userId then seller.displayName else buyer.displayName
           amountMinor := e.amountMinor, currency := e.currency, description := e.description
           status := e.status, trackingNumber := e.trackingNumber, courier := e.courierSlug
           autoReleaseAt := e.autoReleaseAt, createdAt := e.createdAt }

/-- The user is a party to the escrow. -/
def isParty (userId : Ulid) (e : EscrowRow) : Bool :=
  decide (e.buyerUserId = userId ∨ e.sellerUserId = userId)

def listForUser (c : Ctx) (db : Database) (userId : Ulid) (limit : Nat) : List OrderLine :=
  ((newestFirst c EscrowRow.createdAt EscrowRow.id
    (db.safepayEscrows.rows.filter (isParty userId))).filterMap (orderLine db userId)).take limit

/-- `ORDER BY disputed_at ASC, id ASC`, a missing instant last. -/
def disputedBefore (a b : EscrowRow) : Bool :=
  match a.disputedAt, b.disputedAt with
  | some t, some t' => decide (t < t' ∨ t = t' ∧ a.id.rank ≤ b.id.rank)
  | some _, none => true
  | none, some _ => false
  | none, none => decide (a.id.rank ≤ b.id.rank)

/-- A row of the dispute queue.  The rendering fails on a row without `disputed_at`. -/
def disputeLine (e : EscrowRow) (buyer seller : UserRow) : Option DisputeLine := do
  let disputedAt ← e.disputedAt
  return { escrowId := e.id, reference := e.reference, amountMinor := e.amountMinor
           currency := e.currency, description := e.description, reason := e.disputeReason
           disputedAt, buyerName := buyer.displayName, buyerPhone := buyer.phone
           sellerName := seller.displayName, sellerPhone := seller.phone
           courier := e.courierSlug, trackingNumber := e.trackingNumber, shippedAt := e.shippedAt
           deliveredAt := e.deliveredAt, createdAt := e.createdAt }

/-- The `JOIN`s of the dispute queue. -/
def parties (db : Database) (e : EscrowRow) : Option (EscrowRow × UserRow × UserRow) := do
  let buyer ← db.users.find? e.buyerUserId
  let seller ← db.users.find? e.sellerUserId
  return (e, buyer, seller)

/-- `list_disputes`; `none` when the rendering fails. -/
def listDisputes (db : Database) (limit : Nat) : Option (List DisputeLine) :=
  ((((db.safepayEscrows.rows.filter fun e => decide (e.status = .disputed)).insertionSort
    fun a b => disputedBefore a b = true).filterMap (parties db)).take limit).mapM
      fun row => disputeLine row.1 row.2.1 row.2.2

end SqlSafePayRepository

structure OrderDetail where
  order : Order
  role : OrderRole
  deliveryCode : Option String

namespace SafePayService

/-- The order is closed: `detail` shows no code any more. -/
def isClosed (status : EscrowStatus) : Bool := status == .released || status == .refunded

/-- `_require_visible`. -/
def requireVisible (db : Database) (escrowId userId : Ulid) : Except AppError EscrowRow :=
  match db.safepayEscrows.find? escrowId with
  | none => .error orderNotFound
  | some e => if SqlSafePayRepository.isParty userId e = true then .ok e else .error orderNotFound

/-- `detail`: only the buyer of an open order is shown the delivery code. -/
def detail (c : Ctx) (db : Database) (escrowId userId : Ulid) : Except AppError OrderDetail := do
  let record ← requireVisible db escrowId userId
  return { order := SqlSafePayRepository.asDict record
           role := SqlSafePayRepository.roleOf userId record
           deliveryCode :=
             if record.buyerUserId = userId ∧ isClosed record.status = false then
               some (deliveryCode c record.id.text)
             else none }

end SafePayService

/-! ### Engineering (`apps/api/routes/system.py`) -/

/-- `now() - MIN(instant)` in microseconds, `0` when there is none. -/
def oldestAge (c : Ctx) (instants : List Time) : Int :=
  match instants.min? with
  | some t => (c.oracle.dbNow : Int) - t
  | none => 0

structure OutboxStatus where
  pending : Nat
  published : Nat
  deadLettered : Nat
  oldestPending : Int

/-- `outbox_status`. -/
def outboxStatus (c : Ctx) (db : Database) : OutboxStatus :=
  let pending := db.outboxEvents.rows.filter fun e => e.publishedAt.isNone && e.deadLetteredAt.isNone
  { pending := pending.length
    published := (db.outboxEvents.rows.filter fun e => e.publishedAt.isSome).length
    deadLettered := (db.outboxEvents.rows.filter fun e => e.deadLetteredAt.isSome).length
    oldestPending := oldestAge c (pending.map OutboxEventRow.occurredAt) }

structure Backlog where
  pending : Nat
  overdue : Nat
  failed : Nat
  done : Nat
  oldestOverdue : Int

/-- `backlog`. -/
def SqlScheduledTaskRepository.backlog (c : Ctx) (db : Database) : Backlog :=
  let pending := db.scheduledTasks.rows.filter fun t => t.status == .pending
  let overdue := pending.filter fun t => decide (t.dueAt ≤ c.oracle.dbNow)
  { pending := pending.length
    overdue := overdue.length
    failed := (db.scheduledTasks.rows.filter fun t => t.status == .failed).length
    done := (db.scheduledTasks.rows.filter fun t => t.status == .done).length
    oldestOverdue := oldestAge c (overdue.map TaskRow.dueAt) }

/-! ### Every query

The health probes are none: they read no table. -/

inductive Query where
  | myAccount (user : Ulid)
  | lookup (user : Ulid) (phone : String)
  | transactions (user : Ulid) (limit : Nat) (cursor : Option Ulid)
  | pendingUndo (user : Ulid)
  | receipt (user : Ulid) (reference : String)
  | moneyRequests (user : Ulid) (direction : RequestDirection) (status : Option RequestStatus)
      (limit : Nat) (cursor : Option Ulid)
  | overdraft (user : Ulid)
  | orders (user : Ulid)
  | order (user escrowId : Ulid)
  /-- Behind the engineering key: the dispute queue and the three reports. -/
  | disputes
  | reconcile
  | outbox
  | scheduler

inductive QueryReply where
  | account (a : AccountSummary)
  | recipient (r : Recipient)
  | statement (p : StatementPage)
  | holds (l : List PendingUndo)
  | receipt (r : Receipt)
  | requests (p : RequestPage)
  | summary (s : OverdraftSummary)
  | orders (l : List OrderLine)
  | order (o : OrderDetail)
  /-- `none`: the rendering failed, an internal error. -/
  | disputes (l : Option (List DisputeLine))
  | report (r : ReconciliationReport)
  | outbox (s : OutboxStatus)
  | backlog (b : Backlog)

/-- Who asks; behind the engineering key there is no user. -/
def Query.caller? : Query → Option Ulid
  | .myAccount u | .lookup u _ | .transactions u _ _ | .pendingUndo u | .receipt u _
  | .moneyRequests u .. | .overdraft u | .orders u | .order u _ => some u
  | .disputes | .reconcile | .outbox | .scheduler => none

def answer (c : Ctx) (db : Database) : Query → Except AppError QueryReply
  | .myAccount user => (getMyAccount db user).map .account
  | .lookup user phone => (lookupRecipient db user phone).map .recipient
  | .transactions user limit cursor => (listTransactions db user limit cursor).map .statement
  | .pendingUndo user => (listPendingUndo db user).map .holds
  | .receipt user reference => (getTransfer db user reference).map .receipt
  | .moneyRequests user direction status limit cursor =>
    (listRequests db user direction status limit cursor).map .requests
  | .overdraft user => .ok (.summary (SqlOverdraftRepository.summary c db user))
  | .orders user => .ok (.orders (SqlSafePayRepository.listForUser c db user 50))
  | .order user escrowId => (SafePayService.detail c db escrowId user).map .order
  | .disputes => .ok (.disputes (SqlSafePayRepository.listDisputes db 100))
  | .reconcile => .ok (.report (ReconciliationService.run db true))
  | .outbox => .ok (.outbox (outboxStatus c db))
  | .scheduler => .ok (.backlog (SqlScheduledTaskRepository.backlog c db))

end MoneyMovement

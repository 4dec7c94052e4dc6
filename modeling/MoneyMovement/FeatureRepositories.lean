/-
  MoneyMovement/FeatureRepositories.lean
  ======================================
  **The repositories of the features** — Spot-Me pools, Safe-Pay escrows, money
  requests, identity and the scheduled-task queue
  (`modules/*/adapters/persistence/repositories.py`,
  `platform_/scheduling/repository.py`).

  `now()` inside a statement is the transaction's database time; a time passed
  in by the caller is the application clock's.
-/
import MoneyMovement.FinancialRepositories

namespace MoneyMovement

open Txn

/-- `ORDER BY created_at, id`. -/
def byCreatedAt {ρ : Type} (createdAt : ρ → Time) (id : ρ → Ulid) (rows : List ρ) : List ρ :=
  rows.insertionSort fun a b =>
    createdAt a < createdAt b ∨ createdAt a = createdAt b ∧ (id a).rank ≤ (id b).rank

/-! ### Spot-Me pools -/

namespace SqlOverdraftRepository

def poolOfSponsor (db : Database) (sponsorUserId : Ulid) : Option PoolRow :=
  db.overdraftPools.rows.find? fun p => decide (p.sponsorUserId = sponsorUserId)

def getPoolForSponsor (sponsorUserId : Ulid) : Tx (Option PoolRow) :=
  readDb fun db => poolOfSponsor db sponsorUserId

def createPool (poolId sponsorUserId poolAccountId : Ulid) (currency : Currency) (now : Time) :
    Tx Unit :=
  insertInto (·.overdraftPools) (fun db t => { db with overdraftPools := t })
    { id := poolId, sponsorUserId, poolAccountId, currency, status := .active, createdAt := now,
      updatedAt := now }
    fun db => db.overdraftPools.rows.all (fun p =>
        decide (p.poolAccountId ≠ poolAccountId ∧ p.sponsorUserId ≠ sponsorUserId)) &&
      (db.accounts.find? poolAccountId).isSome && (db.users.find? sponsorUserId).isSome

def createGrant (grantId poolId beneficiaryUserId : Ulid) (maxDrawMinor : Int) (now : Time) :
    Tx Unit :=
  insertInto (·.overdraftGrants) (fun db t => { db with overdraftGrants := t })
    { id := grantId, poolId, beneficiaryUserId, maxDrawMinor, status := .active, createdAt := now,
      updatedAt := now }
    fun db => decide (0 < maxDrawMinor) &&
      db.overdraftGrants.rows.all (fun g =>
        !decide (g.poolId = poolId ∧ g.beneficiaryUserId = beneficiaryUserId)) &&
      (db.overdraftPools.find? poolId).isSome && (db.users.find? beneficiaryUserId).isSome

def getGrant (poolId beneficiaryUserId : Ulid) : Tx (Option GrantRow) :=
  readDb fun db => db.overdraftGrants.rows.find? fun g =>
    decide (g.poolId = poolId ∧ g.beneficiaryUserId = beneficiaryUserId)

/-- A grant with the pool it draws on, if pool and account are active. -/
def offer (db : Database) (g : GrantRow) : Option (GrantRow × PoolRow) :=
  match db.overdraftPools.find? g.poolId with
  | none => none
  | some p =>
    match db.accounts.find? p.poolAccountId with
    | none => none
    | some a => if p.status = .active ∧ a.status = .active then some (g, p) else none

/-- The grants a borrower may draw on, oldest first. -/
def activeGrants (db : Database) (borrowerUserId : Ulid) : List (GrantRow × PoolRow) :=
  (byCreatedAt GrantRow.createdAt GrantRow.id (db.overdraftGrants.rows.filter fun g =>
    decide (g.beneficiaryUserId = borrowerUserId ∧ g.status = .active))).filterMap (offer db)

def activeGrantsForBorrower (borrowerUserId : Ulid) : Tx (List (GrantRow × PoolRow)) :=
  readDb fun db => activeGrants db borrowerUserId

def createLoan (c : Ctx) (poolId borrowerUserId drawTransferId : Ulid) (amountMinor : Int)
    (currency : Currency) (now : Time) : Tx Ulid := do
  let loanId ← newUlid c
  insertInto (·.overdraftLoans) (fun db t => { db with overdraftLoans := t })
    { id := loanId, poolId, borrowerUserId, drawTransferId, principalMinor := amountMinor,
      outstandingMinor := amountMinor, currency, status := .outstanding, createdAt := now,
      repaidAt := none }
    fun db => db.overdraftLoans.rows.all (fun l => decide (l.drawTransferId ≠ drawTransferId)) &&
      (db.overdraftPools.find? poolId).isSome && (db.users.find? borrowerUserId).isSome &&
      (db.transfers.find? drawTransferId).isSome && decide (0 < amountMinor)
  return loanId

/-- The loans a borrower still owes, oldest first, each with its pool. -/
def outstanding (db : Database) (borrowerUserId : Ulid) : List (LoanRow × PoolRow) :=
  (byCreatedAt LoanRow.createdAt LoanRow.id (db.overdraftLoans.rows.filter fun l =>
    decide (l.borrowerUserId = borrowerUserId ∧ l.status = .outstanding ∧
      0 < l.outstandingMinor))).filterMap fun l =>
    (db.overdraftPools.find? l.poolId).map fun p => (l, p)

def outstandingLoans (borrowerUserId : Ulid) : Tx (List (LoanRow × PoolRow)) :=
  readDb fun db => outstanding db borrowerUserId

/-- The loan after a repayment. -/
def repaid (newOutstanding : Int) (now : Time) (l : LoanRow) : LoanRow :=
  { l with
    outstandingMinor := newOutstanding
    status := if newOutstanding = 0 then .repaid else .outstanding
    repaidAt := if newOutstanding = 0 then some now else none }

@[simp] theorem id_repaid (newOutstanding : Int) (now : Time) (l : LoanRow) :
    (repaid newOutstanding now l).id = l.id := rfl

def insertRepayment (row : RepaymentRow) : Tx Unit :=
  insertInto (·.overdraftRepayments) (fun db t => { db with overdraftRepayments := t }) row fun db =>
    db.overdraftRepayments.rows.all (fun r => decide (r.transferId ≠ row.transferId)) &&
    (db.overdraftLoans.find? row.loanId).isSome && (db.transfers.find? row.transferId).isSome &&
    (match row.triggeredByTransferId with
      | none => true
      | some t => (db.transfers.find? t).isSome) &&
    decide (0 < row.amountMinor)

/-- Nothing happens, and nothing is recorded, unless the loan is outstanding. -/
def applyRepayment (c : Ctx) (loanId transferId : Ulid) (amountMinor : Int)
    (triggeredByTransferId : Ulid) (now : Time) : Tx Unit := do
  match ← readDb fun db => db.overdraftLoans.find? loanId with
  | none => pure ()
  | some loan =>
    if loan.status = .outstanding then do
      let newOutstanding := max 0 (loan.outstandingMinor - amountMinor)
      let _ ← updateWhere (·.overdraftLoans) (fun db t => { db with overdraftLoans := t }) loanId
        (fun l => l.status == .outstanding) (repaid newOutstanding now)
        (id_repaid newOutstanding now)
        (fun _ l => decide (0 ≤ l.outstandingMinor ∧ l.outstandingMinor ≤ l.principalMinor))
      let repaymentId ← newUlid c
      insertRepayment
        { id := repaymentId, loanId, transferId, amountMinor,
          triggeredByTransferId := some triggeredByTransferId, createdAt := now }
    else pure ()

end SqlOverdraftRepository

/-! ### Safe-Pay escrows -/

namespace SqlSafePayRepository

def setTable (db : Database) (t : Table EscrowRow.id) : Database := { db with safepayEscrows := t }

def create (row : EscrowRow) : Tx Unit := do
  ensure (fits? 200 row.description = true) (.of .data)
  insertInto (·.safepayEscrows) setTable row fun db =>
    db.safepayEscrows.rows.all (fun e =>
      decide (e.reference ≠ row.reference ∧ e.holdTransferId ≠ row.holdTransferId)) &&
    (db.transfers.find? row.holdTransferId).isSome && (db.users.find? row.buyerUserId).isSome &&
    (db.users.find? row.sellerUserId).isSome && decide (0 < row.amountMinor) &&
    decide (row.buyerUserId ≠ row.sellerUserId)

/-- `SELECT … FOR UPDATE` of one escrow. -/
def lock (escrowId : Ulid) : Tx (Option EscrowRow) := readDb fun db => db.safepayEscrows.find? escrowId

/-- The newest escrow with this courier and tracking number. -/
def findByTracking (c : Ctx) (courier trackingNumber : String) : Tx (Option EscrowRow) :=
  readDb fun db => ((db.safepayEscrows.rows.filter fun e =>
    decide (e.courierSlug = some courier ∧ e.trackingNumber = some trackingNumber)).insertionSort
      fun a b => b.createdAt < a.createdAt ∨
        b.createdAt = a.createdAt ∧ c.oracle.physical a.id ≤ c.oracle.physical b.id).head?

def markShipped (escrowId sellerUserId : Ulid) (courier trackingNumber : String) (now : Time) :
    Tx Nat :=
  updateWhere (·.safepayEscrows) setTable escrowId
    (fun e => decide (e.sellerUserId = sellerUserId ∧ e.status = .awaitingShipment))
    (fun e => { e with
      status := .shipped, courierSlug := some courier, trackingNumber := some trackingNumber,
      shippedAt := some now, updatedAt := now })
    (fun _ => rfl) (fun _ e => fits? 32 e.courierSlug && fits? 64 e.trackingNumber)

def markDelivered (escrowId : Ulid) (deliveredAt autoReleaseAt : Time) : Tx Nat :=
  updateWhere (·.safepayEscrows) setTable escrowId (fun e => e.status == .shipped)
    (fun e => { e with
      status := .delivered, deliveredAt := some deliveredAt, autoReleaseAt := some autoReleaseAt,
      updatedAt := deliveredAt })
    (fun _ => rfl) (fun _ _ => true)

def canEnterDispute : EscrowStatus → Bool
  | .awaitingShipment | .shipped | .delivered => true
  | _ => false

def markDisputed (escrowId buyerUserId : Ulid) (reason : String) (now : Time) : Tx Nat :=
  updateWhere (·.safepayEscrows) setTable escrowId
    (fun e => decide (e.buyerUserId = buyerUserId) && canEnterDispute e.status)
    (fun e => { e with
      status := .disputed, disputeReason := some reason, disputedAt := some now, updatedAt := now })
    (fun _ => rfl) (fun _ e => fits? 500 e.disputeReason)

def recordCodeFailure (escrowId : Ulid) (attempts : Nat) (lockedUntil : Option Time) (now : Time) :
    Tx Unit :=
  writeDb fun db => setTable db (db.safepayEscrows.modifyAt escrowId
    (fun e => { e with
      deliveryCodeAttempts := attempts, deliveryCodeLockedUntil := lockedUntil, updatedAt := now })
    fun _ => rfl)

def markSettled (escrowId : Ulid) (fromStatuses : List EscrowStatus) (status : EscrowStatus)
    (settlementTransferId : Ulid) (now : Time) (resolutionNote : Option String) : Tx Nat :=
  updateWhere (·.safepayEscrows) setTable escrowId
    (fun e => fromStatuses.contains e.status && e.settlementTransferId.isNone)
    (fun e => { e with
      status, settlementTransferId := some settlementTransferId, settledAt := some now,
      resolvedByUserId := none, resolutionNote, deliveryCodeAttempts := 0,
      deliveryCodeLockedUntil := none, updatedAt := now })
    (fun _ => rfl)
    (fun db e => fits? 500 e.resolutionNote &&
      db.safepayEscrows.rows.all (fun x => decide (x.settlementTransferId ≠ e.settlementTransferId)) &&
      (db.transfers.find? settlementTransferId).isSome)

end SqlSafePayRepository

/-! ### Money requests -/

namespace SqlMoneyRequestRepository

def setTable (db : Database) (t : Table MoneyRequestRow.id) : Database :=
  { db with moneyRequests := t }

def create (row : MoneyRequestRow) : Tx Unit := do
  ensure (fits? 200 row.note = true) (.of .data)
  insertInto (·.moneyRequests) setTable row fun db =>
    db.moneyRequests.rows.all (fun r => decide (r.reference ≠ row.reference)) &&
    (db.accounts.find? row.requesterAccountId).isSome &&
    (db.accounts.find? row.payerAccountId).isSome && decide (0 < row.amountMinor) &&
    decide (row.requesterAccountId ≠ row.payerAccountId)

def lockForUpdate (requestId : Ulid) : Tx (Option MoneyRequestRow) :=
  readDb fun db => db.moneyRequests.find? requestId

/-- The request once it is accepted. -/
def accepted (transferId : Ulid) (now : Time) (r : MoneyRequestRow) : MoneyRequestRow :=
  { r with
    status := .accepted, transferId := some transferId, respondedAt := some now, updatedAt := now }

@[simp] theorem id_accepted (transferId : Ulid) (now : Time) (r : MoneyRequestRow) :
    (accepted transferId now r).id = r.id := rfl

/-- Latch PENDING to ACCEPTED, attaching the transfer. -/
def markAccepted (requestId transferId : Ulid) (now : Time) : Tx Nat :=
  updateWhere (·.moneyRequests) setTable requestId (fun r => r.status == .pending)
    (accepted transferId now) (id_accepted transferId now)
    (fun db _ => db.moneyRequests.rows.all (fun x => decide (x.transferId ≠ some transferId)) &&
      (db.transfers.find? transferId).isSome)

/-- Latch PENDING to REJECTED, CANCELLED or EXPIRED. -/
def markTerminal (requestId : Ulid) (status : RequestStatus) (now : Time) : Tx Nat :=
  updateWhere (·.moneyRequests) setTable requestId (fun r => r.status == .pending)
    (fun r => { r with status, respondedAt := some now, updatedAt := now })
    (fun _ => rfl) (fun _ _ => true)

/-- The request after the expiry sweep. -/
def isDue (now : Time) (r : MoneyRequestRow) : Bool :=
  decide (r.status = .pending ∧ r.expiresAt ≤ now)

/-- Sweep the requests past their expiry. -/
def expireDue (now : Time) : Tx Nat := do
  let n ← readDb fun db => (db.moneyRequests.rows.filter (isDue now)).length
  writeDb fun db => setTable db (db.moneyRequests.update (isDue now)
    (fun r => { r with status := .expired, updatedAt := now }) fun _ => rfl)
  return n

end SqlMoneyRequestRepository

/-! ### Identity -/

namespace SqlUserRepository

/-- `^01[3-9][0-9]{8}$`. -/
def phoneFormat (phone : String) : Bool :=
  match phone.toList with
  | '0' :: '1' :: d :: rest =>
    decide ('3' ≤ d ∧ d ≤ '9') && rest.length == 8 && rest.all Char.isDigit
  | _ => false

def create (row : UserRow) : Tx Unit := do
  ensure (fits 32 row.phone = true ∧ fits 120 row.displayName = true) (.of .data)
  insertInto (·.users) (fun db t => { db with users := t }) row fun db =>
    db.users.rows.all (fun u => decide (u.phone ≠ row.phone)) && phoneFormat row.phone

def getByPhone (phone : String) : Tx (Option UserRow) :=
  readDb fun db => db.users.rows.find? fun u => decide (u.phone = phone)

def lockForUpdate (userId : Ulid) : Tx (Option UserRow) := readDb fun db => db.users.find? userId

/-- `UPDATE users … WHERE id`. -/
def modifyUser (c : Ctx) (userId : Ulid) (f : UserRow → UserRow) (hf : ∀ u, (f u).id = u.id) :
    Tx Unit :=
  writeDb fun db => { db with
    users := db.users.modifyAt userId (fun u => { f u with updatedAt := c.oracle.dbNow }) hf }

def recordPinFailure (c : Ctx) (userId : Ulid) (attempts : Nat) (lockedUntil : Option Time) :
    Tx Unit :=
  modifyUser c userId
    (fun u => { u with pinFailedAttempts := attempts, pinLockedUntil := lockedUntil }) fun _ => rfl

def resetPinFailures (c : Ctx) (userId : Ulid) : Tx Unit :=
  modifyUser c userId (fun u => { u with pinFailedAttempts := 0, pinLockedUntil := none })
    fun _ => rfl

def updatePasswordHash (c : Ctx) (userId : Ulid) (passwordHash : String) : Tx Unit :=
  modifyUser c userId (fun u => { u with passwordHash }) fun _ => rfl

def setStatus (c : Ctx) (userId : Ulid) (status : UserStatus) : Tx Unit :=
  modifyUser c userId (fun u => { u with status }) fun _ => rfl

end SqlUserRepository

namespace SqlSessionRepository

def setTable (db : Database) (t : Table SessionRow.id) : Database := { db with sessions := t }

/-- `user_agent[:200]`. -/
def truncated (userAgent : Option String) : Option String :=
  userAgent.map fun s => String.ofList (s.toList.take 200)

def create (sessionId userId : Ulid) (refreshTokenHash : String) (expiresAt now : Time)
    (userAgent ipAddress : Option String) : Tx Unit := do
  ensure (fits? 45 ipAddress = true) (.of .data)
  insertInto (·.sessions) setTable
    { id := sessionId, userId, refreshTokenHash, rotatedToId := none, issuedAt := now, expiresAt,
      revokedAt := none, userAgent := truncated userAgent, ipAddress }
    fun db => db.sessions.rows.all (fun x => decide (x.refreshTokenHash ≠ refreshTokenHash)) &&
      (db.users.find? userId).isSome

def byTokenHash (db : Database) (tokenHash : String) : Option SessionRow :=
  db.sessions.rows.find? fun x => decide (x.refreshTokenHash = tokenHash)

/-- A plain `SELECT`: no row lock. -/
def getByTokenHash (tokenHash : String) : Tx (Option SessionRow) :=
  readDb fun db => byTokenHash db tokenHash

/-- Revoke one session that is not revoked yet. -/
def revoke (sessionId : Ulid) (now : Time) : Tx Nat :=
  updateWhere (·.sessions) setTable sessionId (fun x => x.revokedAt.isNone)
    (fun x => { x with revokedAt := some now }) (fun _ => rfl) (fun _ _ => true)

def revokeAllForUser (userId : Ulid) (now : Time) : Tx Unit :=
  writeDb fun db => setTable db (db.sessions.update
    (fun x => decide (x.userId = userId) && x.revokedAt.isNone)
    (fun x => { x with revokedAt := some now }) fun _ => rfl)

/-- No predicate on `revoked_at`: the row is updated whatever its state. -/
def markRotated (sessionId successorId : Ulid) (now : Time) : Tx Unit := do
  let _ ← updateWhere (·.sessions) setTable sessionId (fun _ => true)
    (fun x => { x with rotatedToId := some successorId, revokedAt := some now })
    (fun _ => rfl) (fun db _ => (db.sessions.find? successorId).isSome)
  return ()

end SqlSessionRepository

/-! ### The deferred-settlement queue -/

namespace SqlScheduledTaskRepository

def setTable (db : Database) (t : Table TaskRow.id) : Database := { db with scheduledTasks := t }

def isFor (taskType : TaskType) (resourceId : Ulid) (t : TaskRow) : Bool :=
  decide (t.taskType = taskType ∧ t.resourceId = resourceId)

/-- `INSERT … ON CONFLICT (task_type, resource_id) DO NOTHING`, due by the database clock. -/
def schedule (c : Ctx) (taskType : TaskType) (resourceId : Ulid) (delaySeconds : Nat) : Tx Unit := do
  let taskId ← newUlid c
  if ← readDb fun db => db.scheduledTasks.rows.any (isFor taskType resourceId) then pure ()
  else
    insertInto (·.scheduledTasks) setTable
      { id := taskId, taskType, resourceId, dueAt := c.oracle.dbNow + Time.seconds delaySeconds,
        status := .pending, attemptCount := 0, lastError := none, createdAt := c.oracle.dbNow,
        completedAt := none }
      fun _ => true

/-- The due rows no other worker holds, earliest first. -/
def claimDue (c : Ctx) (batchSize : Nat) : Tx (List TaskRow) :=
  readDb fun db => ((db.scheduledTasks.rows.filter fun t =>
    decide (t.status = .pending ∧ t.dueAt ≤ c.oracle.dbNow) && !c.oracle.busyTask t.id).insertionSort
      fun a b => a.dueAt < b.dueAt ∨
        a.dueAt = b.dueAt ∧ c.oracle.physical a.id ≤ c.oracle.physical b.id).take batchSize

def complete (c : Ctx) (taskId : Ulid) : Tx Unit :=
  writeDb fun db => setTable db (db.scheduledTasks.modifyAt taskId
    (fun t => { t with status := .done, completedAt := some c.oracle.dbNow }) fun _ => rfl)

def cancel (c : Ctx) (taskType : TaskType) (resourceId : Ulid) : Tx Unit :=
  writeDb fun db => setTable db (db.scheduledTasks.update
    (fun t => isFor taskType resourceId t && t.status == .pending)
    (fun t => { t with status := .cancelled, completedAt := some c.oracle.dbNow }) fun _ => rfl)

/-- A task row after its `attempt`-th failure: back off, or give up and leave the row for an
    operator. -/
def failed (c : Ctx) (attempt : Nat) (error : String) (maxAttempts : Nat) (t : TaskRow) : TaskRow :=
  { t with
    attemptCount := attempt
    lastError := some (String.ofList (error.toList.take 500))
    status := if maxAttempts ≤ attempt then .failed else .pending
    dueAt := if maxAttempts ≤ attempt then t.dueAt
      else c.oracle.dbNow + Time.seconds (min (2 ^ attempt) 300) }

theorem id_failed (c : Ctx) (attempt : Nat) (error : String) (maxAttempts : Nat) (t : TaskRow) :
    (failed c attempt error maxAttempts t).id = t.id := rfl

def recordFailure (c : Ctx) (taskId : Ulid) (attempt : Nat) (error : String) (maxAttempts : Nat) :
    Tx Unit :=
  writeDb fun db => setTable db (db.scheduledTasks.modifyAt taskId
    (failed c attempt error maxAttempts) (id_failed c attempt error maxAttempts))

end SqlScheduledTaskRepository

end MoneyMovement

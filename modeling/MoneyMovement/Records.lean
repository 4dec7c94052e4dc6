/-
  MoneyMovement/Records.lean
  ==========================
  **The tables** — the ORM models of `modules/*/adapters/persistence/models.py`,
  `platform_/scheduling/models.py`, `platform_/messaging/models.py` and
  `modules/audit/models.py`.

  One structure per table with the columns the modelled functions read or
  write, and one `Database` of keyed tables.  A status column is an enumeration
  of the values its `CHECK … IN (…)` admits, with `text` for the places that
  print it.  Identifier columns are `Ulid`, money columns are integers, time
  columns are UTC instants.

  `Database.journal` is not a table of the schema.  It is a history variable:
  each execution of the transfer use case that is not a replay appends what it
  created, no function reads it, and it rolls back with the rest.
-/
import MoneyMovement.KeyedTable
import MoneyMovement.Kernel

namespace MoneyMovement

/-! ### Enumerations -/

inductive UserStatus where
  | active | suspended | closed
deriving DecidableEq, Repr

inductive AccountType where
  | user | systemIssuance | pendingSettlement | escrow | group | overdraftPool
deriving DecidableEq, Repr

inductive AccountStatus where
  | active | frozen | closed
deriving DecidableEq, Repr

def AccountStatus.text : AccountStatus → String
  | active => "ACTIVE"
  | frozen => "FROZEN"
  | closed => "CLOSED"

inductive TransferKind where
  | p2pSend | requestSettlement | signupGrant | reversal
  | undoHold | undoSettle | undoRefund
  | escrowHold | escrowRelease | escrowRefund
  | groupDeposit | groupWithdrawal | linkPayment
  | overdraftDraw | overdraftRepay | overdraftFund
deriving DecidableEq, Repr

def TransferKind.text : TransferKind → String
  | p2pSend => "P2P_SEND"
  | requestSettlement => "REQUEST_SETTLEMENT"
  | signupGrant => "SIGNUP_GRANT"
  | reversal => "REVERSAL"
  | undoHold => "UNDO_HOLD"
  | undoSettle => "UNDO_SETTLE"
  | undoRefund => "UNDO_REFUND"
  | escrowHold => "ESCROW_HOLD"
  | escrowRelease => "ESCROW_RELEASE"
  | escrowRefund => "ESCROW_REFUND"
  | groupDeposit => "GROUP_DEPOSIT"
  | groupWithdrawal => "GROUP_WITHDRAWAL"
  | linkPayment => "LINK_PAYMENT"
  | overdraftDraw => "OVERDRAFT_DRAW"
  | overdraftRepay => "OVERDRAFT_REPAY"
  | overdraftFund => "OVERDRAFT_FUND"

/-- The kinds whose rows must name the hold they settle. -/
def TransferKind.isSettlementLeg : TransferKind → Bool
  | undoSettle | undoRefund | escrowRelease | escrowRefund => true
  | _ => false

inductive TransferStatus where
  | succeeded | failed | reversed | pendingUndo | held | disputed | refunded
deriving DecidableEq, Repr

def TransferStatus.text : TransferStatus → String
  | succeeded => "SUCCEEDED"
  | failed => "FAILED"
  | reversed => "REVERSED"
  | pendingUndo => "PENDING_UNDO"
  | held => "HELD"
  | disputed => "DISPUTED"
  | refunded => "REFUNDED"

inductive IdempotencyStatus where
  | processing | completed
deriving DecidableEq, Repr

inductive LoanStatus where
  | outstanding | repaid | writtenOff
deriving DecidableEq, Repr

inductive PoolStatus where
  | active | suspended | closed
deriving DecidableEq, Repr

def PoolStatus.text : PoolStatus → String
  | active => "ACTIVE"
  | suspended => "SUSPENDED"
  | closed => "CLOSED"

inductive GrantStatus where
  | active | revoked
deriving DecidableEq, Repr

inductive EscrowStatus where
  | awaitingShipment | shipped | delivered | released | refunded | disputed | cancelled
deriving DecidableEq, Repr

def EscrowStatus.text : EscrowStatus → String
  | awaitingShipment => "AWAITING_SHIPMENT"
  | shipped => "SHIPPED"
  | delivered => "DELIVERED"
  | released => "RELEASED"
  | refunded => "REFUNDED"
  | disputed => "DISPUTED"
  | cancelled => "CANCELLED"

inductive RequestStatus where
  | pending | accepted | rejected | cancelled | expired
deriving DecidableEq, Repr

def RequestStatus.text : RequestStatus → String
  | pending => "PENDING"
  | accepted => "ACCEPTED"
  | rejected => "REJECTED"
  | cancelled => "CANCELLED"
  | expired => "EXPIRED"

inductive TaskType where
  | undoSettle | escrowAutoRelease | linkExpiry | moneyRequestExpiry
deriving DecidableEq, Repr

inductive TaskStatus where
  | pending | done | cancelled | failed
deriving DecidableEq, Repr

inductive EventType where
  | transferSucceeded | moneyRequestCreated | moneyRequestAccepted | moneyRequestRejected
deriving DecidableEq, Repr

def EventType.text : EventType → String
  | transferSucceeded => "financial.transfer.succeeded.v1"
  | moneyRequestCreated => "money_request.created.v1"
  | moneyRequestAccepted => "money_request.accepted.v1"
  | moneyRequestRejected => "money_request.rejected.v1"

def EventType.aggregateType : EventType → String
  | transferSucceeded => "transfer"
  | _ => "money_request"

/-! ### Identity -/

structure UserRow where
  id : Ulid
  phone : String
  displayName : String
  passwordHash : String
  pinHash : String
  pinFailedAttempts : Nat
  pinLockedUntil : Option Time
  status : UserStatus
  createdAt : Time
  updatedAt : Time

structure SessionRow where
  id : Ulid
  userId : Ulid
  refreshTokenHash : String
  rotatedToId : Option Ulid
  issuedAt : Time
  expiresAt : Time
  revokedAt : Option Time
  userAgent : Option String
  ipAddress : Option String

/-! ### Financial core -/

structure AccountRow where
  id : Ulid
  userId : Option Ulid
  accountType : AccountType
  accountNumber : String
  currency : Currency
  balanceMinor : Int
  status : AccountStatus
  version : Nat
  createdAt : Time
  updatedAt : Time

structure TransferRow where
  id : Ulid
  reference : Reference
  senderAccountId : Ulid
  receiverAccountId : Ulid
  amountMinor : Int
  currency : Currency
  kind : TransferKind
  status : TransferStatus
  note : Option String
  initiatedByUserId : Option Ulid
  requestId : Option String
  parentTransferId : Option Ulid
  intendedReceiverAccountId : Option Ulid
  createdAt : Time
  completedAt : Option Time

structure LedgerTransactionRow where
  id : Ulid
  transferId : Ulid
  type : TransferKind
  description : Option String
  postedAt : Time

/-- A signed change to one account. -/
structure LedgerEntryRow where
  id : Ulid
  ledgerTransactionId : Ulid
  accountId : Ulid
  amountMinor : Int
  currency : Currency
  balanceAfterMinor : Int
  createdAt : Time

/-- A value of a response body: a scalar, or one level of nesting. -/
inductive BodyValue where
  | scalar (v : Scalar)
  | record (fields : Payload)

abbrev Body := List (String × BodyValue)

/-- The natural key of an idempotency record. -/
structure IdempotencyTriple where
  actorId : Ulid
  endpoint : String
  key : String
deriving DecidableEq, Repr

structure IdempotencyRow where
  triple : IdempotencyTriple
  requestFingerprint : String
  status : IdempotencyStatus
  resourceId : Option Ulid
  httpStatus : Option Nat
  responseBody : Option Body
  createdAt : Time
  completedAt : Option Time

structure OutboxEventRow where
  id : Ulid
  aggregateType : String
  aggregateId : Ulid
  eventType : EventType
  payload : Payload
  traceId : Option String
  schemaVersion : Nat
  occurredAt : Time
  publishedAt : Option Time
  attemptCount : Nat
  nextAttemptAt : Option Time
  lastError : Option String
  deadLetteredAt : Option Time

structure AuditLogRow where
  id : Ulid
  actorUserId : Option Ulid
  action : String
  resourceType : String
  resourceId : Option Ulid
  requestId : Option String
  ipAddress : Option String
  metadata : Option Payload
  createdAt : Time

/-! ### Features -/

structure MoneyRequestRow where
  id : Ulid
  reference : Reference
  requesterAccountId : Ulid
  payerAccountId : Ulid
  amountMinor : Int
  currency : Currency
  note : Option String
  status : RequestStatus
  transferId : Option Ulid
  expiresAt : Time
  respondedAt : Option Time
  createdAt : Time
  updatedAt : Time

structure EscrowRow where
  id : Ulid
  reference : Reference
  holdTransferId : Ulid
  settlementTransferId : Option Ulid
  buyerUserId : Ulid
  sellerUserId : Ulid
  amountMinor : Int
  currency : Currency
  description : Option String
  status : EscrowStatus
  deliveryCodeHash : String
  deliveryCodeAttempts : Nat
  deliveryCodeLockedUntil : Option Time
  trackingNumber : Option String
  courierSlug : Option String
  shippedAt : Option Time
  deliveredAt : Option Time
  autoReleaseAt : Option Time
  settledAt : Option Time
  disputeReason : Option String
  disputedAt : Option Time
  resolvedByUserId : Option Ulid
  resolutionNote : Option String
  createdAt : Time
  updatedAt : Time

structure PoolRow where
  id : Ulid
  sponsorUserId : Ulid
  poolAccountId : Ulid
  currency : Currency
  status : PoolStatus
  createdAt : Time
  updatedAt : Time

structure GrantRow where
  id : Ulid
  poolId : Ulid
  beneficiaryUserId : Ulid
  maxDrawMinor : Int
  status : GrantStatus
  createdAt : Time
  updatedAt : Time

structure LoanRow where
  id : Ulid
  poolId : Ulid
  borrowerUserId : Ulid
  drawTransferId : Ulid
  principalMinor : Int
  outstandingMinor : Int
  currency : Currency
  status : LoanStatus
  createdAt : Time
  repaidAt : Option Time

structure RepaymentRow where
  id : Ulid
  loanId : Ulid
  transferId : Ulid
  amountMinor : Int
  triggeredByTransferId : Option Ulid
  createdAt : Time

structure TaskRow where
  id : Ulid
  taskType : TaskType
  resourceId : Ulid
  dueAt : Time
  status : TaskStatus
  attemptCount : Nat
  lastError : Option String
  createdAt : Time
  completedAt : Option Time

/-! ### The database -/

/-- What one execution of the transfer use case created. -/
structure Execution where
  triple : IdempotencyTriple
  transferId : Ulid
  ledgerTransactionId : Ulid
  eventId : Ulid

structure Database where
  users : Table UserRow.id
  sessions : Table SessionRow.id
  accounts : Table AccountRow.id
  transfers : Table TransferRow.id
  ledgerTransactions : Table LedgerTransactionRow.id
  ledgerEntries : Table LedgerEntryRow.id
  idempotencyRecords : Table IdempotencyRow.triple
  outboxEvents : Table OutboxEventRow.id
  auditLogs : Table AuditLogRow.id
  moneyRequests : Table MoneyRequestRow.id
  safepayEscrows : Table EscrowRow.id
  overdraftPools : Table PoolRow.id
  overdraftGrants : Table GrantRow.id
  overdraftLoans : Table LoanRow.id
  overdraftRepayments : Table RepaymentRow.id
  scheduledTasks : Table TaskRow.id
  journal : List Execution

/-! ### The migrated database (`alembic/versions`) -/

def SYSTEM_ISSUANCE_ACCOUNT_ID : Ulid := ⟨0, 0⟩
def ESCROW_ACCOUNT_ID : Ulid := ⟨0, 1⟩
def PENDING_SETTLEMENT_ACCOUNT_ID : Ulid := ⟨0, 2⟩

/-- A system account as the migrations insert it. -/
def systemAccount (id : Ulid) (type : AccountType) (number : String) (now : Time) : AccountRow where
  id := id
  userId := none
  accountType := type
  accountNumber := number
  currency := .BDT
  balanceMinor := 0
  status := .active
  version := 0
  createdAt := now
  updatedAt := now

/-- The schema after all migrations, run at database time `now`: the three system
    accounts, everything else empty. -/
def migrated (now : Time) : Database where
  users := .empty
  sessions := .empty
  accounts := ⟨[systemAccount SYSTEM_ISSUANCE_ACCOUNT_ID .systemIssuance "SYS-ISSUANCE-001" now,
    systemAccount ESCROW_ACCOUNT_ID .escrow "SYS-ESCROW-001" now,
    systemAccount PENDING_SETTLEMENT_ACCOUNT_ID .pendingSettlement "SYS-PENDING-001" now],
    by show [SYSTEM_ISSUANCE_ACCOUNT_ID, ESCROW_ACCOUNT_ID, PENDING_SETTLEMENT_ACCOUNT_ID].Nodup; decide⟩
  transfers := .empty
  ledgerTransactions := .empty
  ledgerEntries := .empty
  idempotencyRecords := .empty
  outboxEvents := .empty
  auditLogs := .empty
  moneyRequests := .empty
  safepayEscrows := .empty
  overdraftPools := .empty
  overdraftGrants := .empty
  overdraftLoans := .empty
  overdraftRepayments := .empty
  scheduledTasks := .empty
  journal := []

end MoneyMovement

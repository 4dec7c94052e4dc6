/-
  MoneyMovement/Effects.lean
  ==========================
  **What a transaction can do to the database**, one step at a time.

  A request is a program; what the invariants care about is the sequence of
  writes it makes.  `Step` lists those writes with the guards under which the
  code makes them, and `Steps` is a sequence of them.  Between two writes that
  belong together the database is not yet in order: money has left a hold but
  the escrow row still says open, a draw is posted but the loan row is missing.
  `Progress` records exactly what is still missing, so that an invariant can be
  stated at every point of a transaction.

  * `Posting` — one movement of money: the reservation of its key, both
    balances, the transfer, the ledger transaction with its two entries, the
    event and the history entry, as one effect;
  * `Duty`    — the write in another table that a posting or a latch calls for;
  * `Licence` — what a particular request is entitled to do.

  A replay answers without writing.  Where the caller goes on to write as if the
  money had moved just now, the step is `stray`: it carries the evidence of the
  replay, and the invariants refute it.
-/
import Mathlib.Logic.Relation
import MoneyMovement.HoldingServices
import MoneyMovement.MoneyRequestService

namespace MoneyMovement

/-! ### Postings -/

/-- An account after a balance change. -/
def AccountRow.moved (delta : Int) (stamp : Time) (a : AccountRow) : AccountRow :=
  { a with balanceMinor := a.balanceMinor + delta, version := a.version + 1, updatedAt := stamp }

@[simp] theorem AccountRow.id_moved (delta : Int) (stamp : Time) (a : AccountRow) :
    (a.moved delta stamp).id = a.id := rfl

/-- One movement of money: the command, the two account rows it found, and every
    identifier and instant it drew. -/
structure Posting where
  cmd : TransferCommand
  now : Time
  stamp : Time
  sender : AccountRow
  receiver : AccountRow
  transferId : Ulid
  reference : Reference
  ledgerTransactionId : Ulid
  debitEntryId : Ulid
  creditEntryId : Ulid
  eventId : Ulid

namespace Posting

def row (p : Posting) : TransferRow :=
  TransferUseCase.transferRow p.cmd p.transferId p.reference p.now

def reservation (p : Posting) : IdempotencyRow :=
  SqlIdempotencyRepository.processing p.cmd.triple p.cmd.requestFingerprint p.now

def ledgerTransaction (p : Posting) : LedgerTransactionRow :=
  ⟨p.ledgerTransactionId, p.transferId, p.cmd.kind, p.cmd.note, p.now⟩

def debitEntry (p : Posting) : LedgerEntryRow where
  id := p.debitEntryId
  ledgerTransactionId := p.ledgerTransactionId
  accountId := p.cmd.senderAccountId
  amountMinor := -p.cmd.amount.minor
  currency := p.cmd.amount.currency
  balanceAfterMinor := p.sender.balanceMinor - p.cmd.amount.minor
  createdAt := p.now

def creditEntry (p : Posting) : LedgerEntryRow where
  id := p.creditEntryId
  ledgerTransactionId := p.ledgerTransactionId
  accountId := p.cmd.receiverAccountId
  amountMinor := p.cmd.amount.minor
  currency := p.cmd.amount.currency
  balanceAfterMinor := p.receiver.balanceMinor + p.cmd.amount.minor
  createdAt := p.now

def event (p : Posting) : OutboxEventRow where
  id := p.eventId
  aggregateType := EventType.transferSucceeded.aggregateType
  aggregateId := p.transferId
  eventType := .transferSucceeded
  payload := TransferUseCase.succeededPayload p.cmd p.transferId p.reference p.sender.toDomain
    p.receiver.toDomain (noFeeStrategy p.cmd.amount)
  traceId := p.cmd.requestId
  schemaVersion := 1
  occurredAt := p.now
  publishedAt := none
  attemptCount := 0
  nextAttemptAt := none
  lastError := none
  deadLetteredAt := none

def execution (p : Posting) : Execution :=
  ⟨p.cmd.triple, p.transferId, p.ledgerTransactionId, p.eventId⟩

/-- The movement's result, as the first execution returns it. -/
def result (p : Posting) : TransferResult where
  transferId := p.transferId
  reference := p.reference.text
  status := p.cmd.initialStatus.text
  amount := p.cmd.amount
  fee := noFeeStrategy p.cmd.amount
  senderBalanceAfter := ⟨p.sender.balanceMinor - p.cmd.amount.minor, p.sender.currency⟩
  receiverBalanceAfter := ⟨p.receiver.balanceMinor + p.cmd.amount.minor, p.receiver.currency⟩
  completedAt := p.now

/-- Both accounts after the movement. -/
def accountsAfter (p : Posting) (accounts : Table AccountRow.id) : Table AccountRow.id :=
  (accounts.modifyAt p.cmd.senderAccountId (AccountRow.moved (-p.cmd.amount.minor) p.stamp)
    (AccountRow.id_moved _ _)).modifyAt p.cmd.receiverAccountId
      (AccountRow.moved p.cmd.amount.minor p.stamp) (AccountRow.id_moved _ _)

/-- Everything the movement writes. -/
def apply (p : Posting) (db : Database) : Database :=
  { db with
    accounts := p.accountsAfter db.accounts
    transfers := db.transfers.push p.row
    ledgerTransactions := db.ledgerTransactions.push p.ledgerTransaction
    ledgerEntries := (db.ledgerEntries.push p.debitEntry).push p.creditEntry
    idempotencyRecords := db.idempotencyRecords.push p.reservation
    outboxEvents := db.outboxEvents.push p.event
    journal := db.journal ++ [p.execution] }

/-- What the use case and the schema check before the movement goes through. -/
structure Valid (c : Ctx) (db : Database) (p : Posting) : Prop where
  key_fresh : db.idempotencyRecords.find? p.cmd.triple = none
  parties_ne : p.cmd.senderAccountId ≠ p.cmd.receiverAccountId
  sender_found : db.accounts.find? p.cmd.senderAccountId = some p.sender
  receiver_found : db.accounts.find? p.cmd.receiverAccountId = some p.receiver
  authorized : (p.cmd.kind.isSystemInitiated = true ∧ p.sender.userId = none) ∨
    p.sender.userId = some p.cmd.actorUserId
  sender_active : p.sender.status = .active
  receiver_active : p.receiver.status = .active
  within_limits : p.cmd.enforceLimits = true →
    p.cmd.amount.minor ≤ c.settings.maxTransferAmountMinor ∧
      SqlTransferRepository.sentSince db p.sender.id (Time.startOfDay p.now) + p.cmd.amount.minor ≤
        c.settings.dailyTransferLimitMinor
  amount_pos : 0 < p.cmd.amount.minor
  affordable : p.sender.accountType = .systemIssuance ∨ p.cmd.amount.minor ≤ p.sender.balanceMinor
  transfer_fresh : db.transfers.find? p.transferId = none
  reference_fresh : ∀ t ∈ db.transfers.rows, t.reference ≠ p.reference
  leg_iff_parent : p.cmd.kind.isSettlementLeg = p.cmd.parentTransferId.isSome
  ledger_fresh : db.ledgerTransactions.find? p.ledgerTransactionId = none
  debit_fresh : db.ledgerEntries.find? p.debitEntryId = none
  credit_fresh : (db.ledgerEntries.push p.debitEntry).find? p.creditEntryId = none
  event_fresh : db.outboxEvents.find? p.eventId = none

end Posting

/-! ### Unfinished business -/

/-- The write another table is waiting for. -/
inductive Duty where
  | none
  /-- A hold is latched; the leg that pays it out is to be posted. -/
  | pay (hold : Ulid) (fromStatus toStatus : TransferStatus)
  /-- The leg of an escrow's hold is posted; the escrow is to be marked. -/
  | closeEscrow (leg : TransferRow)
  /-- A price is held; its escrow row is to be created. -/
  | openEscrow (hold : TransferRow)
  /-- A draw is posted; its loan is to be recorded. -/
  | lend (draw : TransferRow)
  /-- A request is paid; it is to be marked accepted. -/
  | accept (transfer : TransferRow) (request : Ulid)

/-- Where a transaction stands: its duty, the repayment it has posted but not recorded
    (with its loan), and the keys it has reserved, newest first. -/
structure Progress where
  duty : Duty
  repaying : Option (TransferRow × Ulid)
  reserved : List IdempotencyRow

/-- Nothing begun, or everything finished. -/
def Progress.idle : Progress := ⟨.none, none, []⟩

structure Config where
  progress : Progress
  db : Database

theorem Posting.triple_answered (p : Posting) (r : IdempotencyRow) :
    (SqlIdempotencyRepository.completedRow p.transferId 201 p.result.toResponse p.now r).triple =
      r.triple := rfl

/-- The transfer a completed record replays. -/
def IdempotencyRow.transferId? (r : IdempotencyRow) : Option Ulid :=
  (((r.responseBody.getD []).str? "transferId").bind Ulid.ofText?).or r.resourceId

/-- A record that answers `cmd` with transfer `t`. -/
structure Replays (db : Database) (triple : IdempotencyTriple) (fingerprint : String) (t : Ulid)
    (r : IdempotencyRow) : Prop where
  found : db.idempotencyRecords.find? triple = some r
  same : r.requestFingerprint = fingerprint
  completed : r.status = .completed
  answers : r.transferId? = some t

def DRAW_ENDPOINT : String := "INTERNAL:/overdraft/draw"
def LIEN_ENDPOINT : String := "INTERNAL:/overdraft/lien-repayment"
def SAFEPAY_HOLD_ENDPOINT : String := "INTERNAL:/safepay/hold"

/-- The statuses of an escrow whose money is still held. -/
def EscrowStatus.isOpen : EscrowStatus → Bool
  | .released | .refunded => false
  | _ => true

/-- A replay inside the lending, escrow or settlement code whose caller goes on as if the
    money had just moved. -/
inductive Stray (db : Database) : Duty → Prop where
  | lend {triple : IdempotencyTriple} {f : String} {t : Ulid} {r : IdempotencyRow}
      (hr : Replays db triple f t r) (he : triple.endpoint = DRAW_ENDPOINT)
      (hn : ∀ l ∈ db.overdraftLoans.rows, l.drawTransferId ≠ t) : Stray db .none
  | openEscrow {triple : IdempotencyTriple} {f : String} {t : Ulid} {r : IdempotencyRow}
      (hr : Replays db triple f t r) (he : triple.endpoint = SAFEPAY_HOLD_ENDPOINT)
      (hn : ∀ e ∈ db.safepayEscrows.rows, e.holdTransferId ≠ t) : Stray db .none
  | repay {triple : IdempotencyTriple} {f : String} {t : Ulid} {r : IdempotencyRow} {d : Duty}
      (hr : Replays db triple f t r) (he : triple.endpoint = LIEN_ENDPOINT)
      (hn : ∀ x ∈ db.overdraftRepayments.rows, x.transferId ≠ t) : Stray db d
  | pay {triple : IdempotencyTriple} {f : String} {t hold : Ulid}
      {fromStatus toStatus : TransferStatus} {kind : TransferKind} {r : IdempotencyRow}
      (hr : Replays db triple f t r)
      (hk : kind.isSettlementLeg = true) (he : triple.endpoint = HoldingService.legEndpoint kind)
      (hkey : triple.key = HoldingService.settlementKey hold toStatus) :
      Stray db (.pay hold fromStatus toStatus)

/-- The key of a repayment names the credit it is taken from. -/
def Database.LienKey (db : Database) (key : String) : Prop :=
  ∃ (t : Ulid) (x : String), (db.transfers.find? t).isSome = true ∧ key = "lien:" ++ t.text ++ ":" ++ x

theorem Database.LienKey.mono {db db' : Database} {key : String} (h : db.LienKey key)
    (hext : db.transfers.Extends db'.transfers) : db'.LienKey key := by
  obtain ⟨t, x, ht, hkey⟩ := h
  exact ⟨t, x, hext t ht, hkey⟩

/-- Why a repayment may be posted: the loan is outstanding, it covers the amount, and the
    payer is its borrower's `USER` account. -/
structure Repays (db : Database) (p : Posting) (loan : LoanRow) (pool : PoolRow) : Prop where
  kind : p.cmd.kind = .overdraftRepay
  endpoint : p.cmd.idempotencyEndpoint = LIEN_ENDPOINT
  status : p.cmd.initialStatus = .succeeded
  loan_found : db.overdraftLoans.find? loan.id = some loan
  pool_found : db.overdraftPools.find? loan.poolId = some pool
  outstanding : loan.status = .outstanding
  covered : p.cmd.amount.minor ≤ loan.outstandingMinor
  receiver : p.cmd.receiverAccountId = pool.poolAccountId
  sender_type : p.sender.accountType = .user
  sender_user : p.sender.userId = some loan.borrowerUserId
  key : db.LienKey p.cmd.idempotencyKey

/-! ### Licences and steps -/

/-- What a request is entitled to do. -/
structure Licence where
  /-- Post this movement, with this duty before and that one after. -/
  post : Database → Duty → Posting → Duty → Prop
  /-- Answer a request whose key it reserved. -/
  answer : IdempotencyRow → Prop
  /-- Put an escrow into a status. -/
  escrow : Ulid → EscrowStatus → Prop
  /-- Create a money request. -/
  ask : Prop
  /-- Replace a request's row. -/
  request : MoneyRequestRow → MoneyRequestRow → Prop
  /-- Queue a task, in this state. -/
  task : Database → TaskRow → Prop

/-- Entitled to everything. -/
def Licence.all : Licence :=
  ⟨fun _ _ _ _ => True, fun _ => True, fun _ _ => True, True, fun _ _ => True, fun _ _ => True⟩

/-- The events of the transfer use case. -/
def Database.transferEvents (db : Database) : List OutboxEventRow :=
  db.outboxEvents.rows.filter fun e => e.eventType == .transferSucceeded

/-- The relay has not tried the event yet. -/
structure OutboxEventRow.Unsent (e : OutboxEventRow) : Prop where
  published : e.publishedAt = none
  attempts : e.attemptCount = 0
  next : e.nextAttemptAt = none
  dead : e.deadLetteredAt = none

/-- Events of other services are added at the end. -/
def EventsAppended (before after : Table OutboxEventRow.id) : Prop :=
  ∃ new, after.rows = before.rows ++ new ∧
    ∀ e ∈ new, e.Unsent ∧ e.eventType ≠ .transferSucceeded

theorem EventsAppended.refl (events : Table OutboxEventRow.id) : EventsAppended events events :=
  ⟨[], (List.append_nil _).symm, nofun⟩

theorem EventsAppended.transferEvents {db : Database} {events : Table OutboxEventRow.id}
    (h : EventsAppended db.outboxEvents events) :
    { db with outboxEvents := events }.transferEvents = db.transferEvents := by
  obtain ⟨new, hrows, hnew⟩ := h
  have hnone : new.filter (fun e => e.eventType == .transferSucceeded) = [] := by
    rw [List.filter_eq_nil_iff]
    intro e he
    simpa using (hnew e he).2
  unfold Database.transferEvents
  rw [hrows, List.filter_append, hnone, List.append_nil]

/-- The account exists and is `u`'s `USER` account. -/
def Database.OwnedBy (db : Database) (id u : Ulid) : Prop :=
  ∃ a, db.accounts.find? id = some a ∧ a.accountType = .user ∧ a.userId = some u

/-- A change of an escrow row that leaves alone what the escrow is about. -/
structure EscrowRow.SameDeal (e e' : EscrowRow) : Prop where
  id : e'.id = e.id
  hold : e'.holdTransferId = e.holdTransferId
  buyer : e'.buyerUserId = e.buyerUserId
  seller : e'.sellerUserId = e.sellerUserId
  amount : e'.amountMinor = e.amountMinor

/-- The hold is between the accounts of the escrow's buyer and seller. -/
def EscrowRow.HeldBy (e : EscrowRow) (db : Database) (hold : TransferRow) : Prop :=
  db.OwnedBy hold.senderAccountId e.buyerUserId ∧
    ∃ r, hold.intendedReceiverAccountId = some r ∧ db.OwnedBy r e.sellerUserId

/-- A change of a money request that leaves alone what is asked of whom. -/
structure MoneyRequestRow.SameTerms (r r' : MoneyRequestRow) : Prop where
  requester : r'.requesterAccountId = r.requesterAccountId
  payer : r'.payerAccountId = r.payerAccountId
  amount : r'.amountMinor = r.amountMinor
  expiry : r'.expiresAt = r.expiresAt

theorem MoneyRequestRow.SameTerms.refl (r : MoneyRequestRow) : r.SameTerms r := ⟨rfl, rfl, rfl, rfl⟩

theorem MoneyRequestRow.SameTerms.trans {r r' r'' : MoneyRequestRow} (h : r.SameTerms r')
    (h' : r'.SameTerms r'') : r.SameTerms r'' :=
  ⟨h'.requester.trans h.requester, h'.payer.trans h.payer, h'.amount.trans h.amount,
    h'.expiry.trans h.expiry⟩

/-- A hold after its status is latched. -/
def TransferRow.latched (toStatus : TransferStatus) (stamp : Time) (t : TransferRow) : TransferRow :=
  { t with status := toStatus, completedAt := some stamp }

@[simp] theorem TransferRow.id_latched (toStatus : TransferStatus) (stamp : Time) (t : TransferRow) :
    (t.latched toStatus stamp).id = t.id := rfl

/-- An account after its status is set. -/
def AccountRow.restated (status : AccountStatus) (stamp : Time) (a : AccountRow) : AccountRow :=
  { a with status := status, updatedAt := stamp }

@[simp] theorem AccountRow.id_restated (status : AccountStatus) (stamp : Time) (a : AccountRow) :
    (a.restated status stamp).id = a.id := rfl

/-- No two users share a phone number. -/
def PhonesApart (users : Table UserRow.id) : Prop :=
  ∀ u ∈ users.rows, ∀ v ∈ users.rows, u.phone = v.phone → u.id = v.id

/-- Users are added, none is deleted, and each keeps a phone number of its own. -/
structure UsersKept (before after : Table UserRow.id) : Prop where
  phone : ∀ id u, before.find? id = some u → ∃ u', after.find? id = some u' ∧ u'.phone = u.phone
  apart : PhonesApart before → PhonesApart after

namespace UsersKept

variable {before after : Table UserRow.id}

theorem refl (users : Table UserRow.id) : UsersKept users users :=
  ⟨fun _ u h => ⟨u, h, rfl⟩, fun h => h⟩

theorem trans {after' : Table UserRow.id} (h : UsersKept before after)
    (h' : UsersKept after after') : UsersKept before after' := by
  refine ⟨fun id u hu => ?_, fun hb => h'.apart (h.apart hb)⟩
  obtain ⟨u', hu', hphone⟩ := h.phone id u hu
  obtain ⟨u'', hu'', hphone'⟩ := h'.phone id u' hu'
  exact ⟨u'', hu'', hphone'.trans hphone⟩

theorem toExtends (h : UsersKept before after) : before.Extends after := by
  intro id hid
  obtain ⟨u, hu⟩ := Option.isSome_iff_exists.1 hid
  obtain ⟨u', hu', -⟩ := h.phone id u hu
  rw [hu']
  rfl

theorem push {row : UserRow} (h : before.find? row.id = none)
    (hphone : ∀ u ∈ before.rows, u.phone ≠ row.phone) : UsersKept before (before.push row) := by
  refine ⟨fun id u hu => ⟨u, Table.find?_push_of_some hu, rfl⟩, fun hb u hu v hv huv => ?_⟩
  rcases (Table.mem_push h).1 hu with hold | hnew
  · rcases (Table.mem_push h).1 hv with hold' | hnew'
    · exact hb u hold v hold' huv
    · exact absurd (huv.trans (congrArg UserRow.phone hnew')) (hphone u hold)
  · rcases (Table.mem_push h).1 hv with hold' | hnew'
    · exact absurd (huv.symm.trans (congrArg UserRow.phone hnew)) (hphone v hold')
    · rw [hnew, hnew']

end UsersKept

/-- The same users with the same phone numbers, whatever else changed in their rows. -/
def SameNumbers (before after : Table UserRow.id) : Prop :=
  after.rows.map (fun u => (u.id, u.phone)) = before.rows.map fun u => (u.id, u.phone)

namespace SameNumbers

variable {before after : Table UserRow.id}

theorem refl (users : Table UserRow.id) : SameNumbers users users := rfl

theorem trans {after' : Table UserRow.id} (h : SameNumbers before after)
    (h' : SameNumbers after after') : SameNumbers before after' := Eq.trans h' h

theorem modifyAt (id : Ulid) (f : UserRow → UserRow) (hf : ∀ u, (f u).id = u.id)
    (hphone : ∀ u, (f u).phone = u.phone) : SameNumbers before (before.modifyAt id f hf) := by
  show (before.rows.map _).map _ = _
  rw [List.map_map]
  refine List.map_congr_left fun u _ => ?_
  rw [Function.comp_apply]
  split
  · rw [hf, hphone]
  · rfl

theorem symm (h : SameNumbers before after) : SameNumbers after before := Eq.symm h

theorem exists_mem (h : SameNumbers before after) {u : UserRow} (hu : u ∈ before.rows) :
    ∃ u' ∈ after.rows, u'.id = u.id ∧ u'.phone = u.phone := by
  have hmem : (u.id, u.phone) ∈ after.rows.map fun u => (u.id, u.phone) := by
    rw [h]
    exact List.mem_map_of_mem hu
  obtain ⟨u', hu', he⟩ := List.mem_map.1 hmem
  exact ⟨u', hu', (Prod.mk.inj he).1, (Prod.mk.inj he).2⟩

theorem usersKept (h : SameNumbers before after) : UsersKept before after := by
  constructor
  · intro id u hu
    obtain ⟨u', hu', hid, hphone⟩ := h.exists_mem (Table.mem_of_find? hu)
    rw [Table.key_of_find? hu] at hid
    exact ⟨u', hid ▸ Table.find?_of_mem hu', hphone⟩
  · intro hb u' hu' v' hv' huv
    obtain ⟨u, hu, hid, hphone⟩ := h.symm.exists_mem hu'
    obtain ⟨v, hv, hid', hphone'⟩ := h.symm.exists_mem hv'
    rw [← hid, ← hid']
    exact hb u hu v hv (hphone.trans (huv.trans hphone'.symm))

end SameNumbers

/-- What never changes in a session: whose it is and its token, and that it is revoked. -/
structure SessionRow.Later (x x' : SessionRow) : Prop where
  user : x'.userId = x.userId
  token : x'.refreshTokenHash = x.refreshTokenHash
  revoked : x.revokedAt.isSome = true → x'.revokedAt.isSome = true

/-- Sessions are added at the end, and none goes back. -/
def SessionsKept (before after : Table SessionRow.id) : Prop :=
  ∃ f new, after.rows = before.rows.map f ++ new ∧ ∀ x, SessionRow.Later x (f x)

namespace SessionsKept

variable {before after : Table SessionRow.id}

theorem refl (sessions : Table SessionRow.id) : SessionsKept sessions sessions :=
  ⟨id, [], by simp, fun _ => ⟨rfl, rfl, fun h => h⟩⟩

theorem trans {after' : Table SessionRow.id} (h : SessionsKept before after)
    (h' : SessionsKept after after') : SessionsKept before after' := by
  obtain ⟨f, new, hrows, hf⟩ := h
  obtain ⟨g, new', hrows', hg⟩ := h'
  refine ⟨g ∘ f, new.map g ++ new', ?_, fun x => ?_⟩
  · rw [hrows', hrows, List.map_append, List.map_map, List.append_assoc]
  · exact ⟨(hg (f x)).user.trans (hf x).user, (hg (f x)).token.trans (hf x).token,
      fun h => (hg (f x)).revoked ((hf x).revoked h)⟩

theorem push {row : SessionRow} (h : before.find? row.id = none) :
    SessionsKept before (before.push row) :=
  ⟨id, [row], by rw [Table.rows_push h, List.map_id], fun _ => ⟨rfl, rfl, fun h => h⟩⟩

theorem update (q : SessionRow → Bool) (f : SessionRow → SessionRow) (hid : ∀ x, (f x).id = x.id)
    (hf : ∀ x, SessionRow.Later x (f x)) : SessionsKept before (before.update q f hid) := by
  refine ⟨fun x => if q x then f x else x, [], ?_, fun x => ?_⟩
  · rw [Table.rows_update, List.append_nil]
  · dsimp only
    split
    · exact hf x
    · exact ⟨rfl, rfl, fun h => h⟩

/-- Looking a session up by its token finds the same session later. -/
theorem byTokenHash {tokenHash : String} {x : SessionRow} {db db' : Database}
    (h : SessionsKept db.sessions db'.sessions)
    (hx : SqlSessionRepository.byTokenHash db tokenHash = some x) :
    ∃ x', SqlSessionRepository.byTokenHash db' tokenHash = some x' ∧ x.Later x' := by
  obtain ⟨f, new, hrows, hf⟩ := h
  refine ⟨f x, ?_, hf x⟩
  have hcomp : ((fun y : SessionRow => decide (y.refreshTokenHash = tokenHash)) ∘ f) =
      fun y => decide (y.refreshTokenHash = tokenHash) := by
    funext y
    simp only [Function.comp_apply, (hf y).token]
  unfold SqlSessionRepository.byTokenHash at hx ⊢
  rw [hrows, List.find?_append, List.find?_map, hcomp, hx]
  rfl

end SessionsKept

/-- What the task waits for is over. -/
def TaskRow.Retired (db : Database) (t : TaskRow) : Prop :=
  match t.taskType with
  | .undoSettle => ∀ hold, db.transfers.find? t.resourceId = some hold → hold.status ≠ .pendingUndo
  | .escrowAutoRelease => ∀ e, db.safepayEscrows.find? t.resourceId = some e → e.status ≠ .delivered
  | .linkExpiry | .moneyRequestExpiry => True

/-- One write to the task queue. -/
inductive TaskMove (c : Ctx) (L : Licence) (db : Database) : Table TaskRow.id → Prop where
  | schedule (row : TaskRow) (hl : L.task db row) (hf : db.scheduledTasks.find? row.id = none)
      (hnew : ∀ t ∈ db.scheduledTasks.rows,
        SqlScheduledTaskRepository.isFor row.taskType row.resourceId t = false)
      (hs : row.status = .pending) (ha : row.attemptCount = 0) :
      TaskMove c L db (db.scheduledTasks.push row)
  | retire (q : TaskRow → Bool) (f : TaskRow → TaskRow) (hid : ∀ t, (f t).id = t.id)
      (hsame : ∀ t, (f t).taskType = t.taskType ∧ (f t).resourceId = t.resourceId ∧
        (f t).dueAt = t.dueAt)
      (hq : ∀ t ∈ db.scheduledTasks.rows, q t = true → t.Retired db) :
      TaskMove c L db (db.scheduledTasks.update q f hid)
  | fail (id : Ulid) (attempt maxAttempts : Nat) (error : String)
      (hdue : ∀ t ∈ db.scheduledTasks.rows, t.id = id → t.dueAt ≤ c.oracle.dbNow) :
      TaskMove c L db (db.scheduledTasks.modifyAt id
        (SqlScheduledTaskRepository.failed c attempt error maxAttempts)
        (SqlScheduledTaskRepository.id_failed c attempt error maxAttempts))

/-- A task is queued as licensed, or was there before with no later due time. -/
theorem TaskMove.kept {c : Ctx} {L : Licence} {db : Database} {tasks : Table TaskRow.id}
    (h : TaskMove c L db tasks) :
    ∀ t ∈ tasks.rows, L.task db t ∨ ∃ t₀ ∈ db.scheduledTasks.rows, t₀.taskType = t.taskType ∧
      t₀.resourceId = t.resourceId ∧ t₀.dueAt ≤ t.dueAt := by
  intro t ht
  cases h with
  | schedule row hl hf hnew hs ha =>
    rcases (Table.mem_push hf).1 ht with ht | rfl
    · exact .inr ⟨t, ht, rfl, rfl, Nat.le_refl _⟩
    · exact .inl hl
  | retire q f hid hsame hq =>
    obtain ⟨t₀, ht₀, rfl⟩ := Table.mem_update.1 ht
    refine .inr ⟨t₀, ht₀, ?_⟩
    split
    · obtain ⟨htype, hres, hdue⟩ := hsame t₀
      exact ⟨htype.symm, hres.symm, Nat.le_of_eq hdue.symm⟩
    · exact ⟨rfl, rfl, Nat.le_refl _⟩
  | fail id attempt maxAttempts error hdue =>
    obtain ⟨t₀, ht₀, rfl⟩ := Table.mem_modifyAt.1 ht
    refine .inr ⟨t₀, ht₀, ?_⟩
    split
    · rename_i hid
      refine ⟨rfl, rfl, ?_⟩
      -- the task was due, and its new due time is after the database's now
      dsimp only [SqlScheduledTaskRepository.failed]
      split
      · exact Nat.le_refl _
      · exact Nat.le_trans (hdue t₀ ht₀ hid) (Nat.le_add_right _ _)
    · exact ⟨rfl, rfl, Nat.le_refl _⟩

/-- One write, or one group of writes that nothing separates. -/
inductive Step (c : Ctx) (L : Licence) : Config → Config → Prop where
  | quiet {g : Progress} {db : Database} (users : Table UserRow.id)
      (sessions : Table SessionRow.id) (auditLogs : Table AuditLogRow.id)
      (outboxEvents : Table OutboxEventRow.id)
      (he : EventsAppended db.outboxEvents outboxEvents)
      (hu : UsersKept db.users users) (hs : SessionsKept db.sessions sessions) :
      Step c L ⟨g, db⟩ ⟨g, { db with
        users := users, sessions := sessions, auditLogs := auditLogs,
        outboxEvents := outboxEvents }⟩
  | tasks {g : Progress} {db : Database} (tasks : Table TaskRow.id) (ht : TaskMove c L db tasks) :
      Step c L ⟨g, db⟩ ⟨g, { db with scheduledTasks := tasks }⟩
  | reserve {d : Duty} {r : Option (TransferRow × Ulid)} {rs : List IdempotencyRow} {db : Database}
      (triple : IdempotencyTriple) (fingerprint : String) (now : Time)
      (hf : db.idempotencyRecords.find? triple = none) :
      Step c L ⟨⟨d, r, rs⟩, db⟩
        ⟨⟨d, r, SqlIdempotencyRepository.processing triple fingerprint now :: rs⟩, { db with
          idempotencyRecords := db.idempotencyRecords.push
            (SqlIdempotencyRepository.processing triple fingerprint now) }⟩
  | answer {d : Duty} {r : Option (TransferRow × Ulid)} {rs : List IdempotencyRow} {db : Database}
      (row : IdempotencyRow) (resourceId : Ulid) (httpStatus : Nat) (body : Body) (now : Time)
      (hl : L.answer row) :
      Step c L ⟨⟨d, r, row :: rs⟩, db⟩ ⟨⟨d, r, rs⟩, { db with
        idempotencyRecords := db.idempotencyRecords.modifyAt row.triple
          (SqlIdempotencyRepository.completedRow resourceId httpStatus body now)
          (SqlIdempotencyRepository.triple_completedRow resourceId httpStatus body now) }⟩
  | post {d d' : Duty} {rs : List IdempotencyRow} {db : Database} (p : Posting)
      (hv : p.Valid c db) (hl : L.post db d p d') :
      Step c L ⟨⟨d, none, rs⟩, db⟩ ⟨⟨d', none, p.reservation :: rs⟩, p.apply db⟩
  | repay {d : Duty} {rs : List IdempotencyRow} {db : Database} (p : Posting) (loan : LoanRow)
      (pool : PoolRow) (hv : p.Valid c db) (hr : Repays db p loan pool) :
      Step c L ⟨⟨d, none, rs⟩, db⟩
        ⟨⟨d, some (p.row, loan.id), p.reservation :: rs⟩, p.apply db⟩
  | finish {d : Duty} {r : Option (TransferRow × Ulid)} {rs : List IdempotencyRow} {db : Database}
      (p : Posting) (hrow : db.transfers.find? p.transferId = some p.row)
      (hp : (r = none ∧ ∃ db₀ d₀, L.post db₀ d₀ p d) ∨
        (∃ loanId, r = some (p.row, loanId)) ∧ p.cmd.kind = .overdraftRepay ∧
          p.cmd.idempotencyEndpoint = LIEN_ENDPOINT ∧ db.LienKey p.cmd.idempotencyKey) :
      Step c L ⟨⟨d, r, p.reservation :: rs⟩, db⟩ ⟨⟨d, r, rs⟩, { db with
        idempotencyRecords := db.idempotencyRecords.modifyAt p.cmd.triple
          (SqlIdempotencyRepository.completedRow p.transferId 201 p.result.toResponse p.now)
          (SqlIdempotencyRepository.triple_completedRow _ _ _ _) }⟩
  | credit {d : Duty} {rs : List IdempotencyRow} {db : Database} {t : TransferRow} (loan : LoanRow)
      (repayment : RepaymentRow) (now : Time)
      (hf : db.overdraftLoans.find? loan.id = some loan) (ho : loan.status = .outstanding)
      (hn : db.overdraftRepayments.find? repayment.id = none)
      (hloan : repayment.loanId = loan.id) (ht : repayment.transferId = t.id)
      (hamount : repayment.amountMinor = t.amountMinor) :
      Step c L ⟨⟨d, some (t, loan.id), rs⟩, db⟩ ⟨⟨d, none, rs⟩, { db with
        overdraftLoans := db.overdraftLoans.modifyAt loan.id
          (SqlOverdraftRepository.repaid (max 0 (loan.outstandingMinor - t.amountMinor)) now)
          (SqlOverdraftRepository.id_repaid _ _)
        overdraftRepayments := db.overdraftRepayments.push repayment }⟩
  | lend {rs : List IdempotencyRow} {db : Database} {t : TransferRow} (loan : LoanRow)
      (pool : PoolRow) (hf : db.overdraftLoans.find? loan.id = none)
      (hpool : db.overdraftPools.find? loan.poolId = some pool)
      (haccount : pool.poolAccountId = t.senderAccountId) (hdraw : loan.drawTransferId = t.id)
      (hprincipal : loan.principalMinor = t.amountMinor)
      (houtstanding : loan.outstandingMinor = loan.principalMinor)
      (hstatus : loan.status = .outstanding) :
      Step c L ⟨⟨.lend t, none, rs⟩, db⟩ ⟨⟨.none, none, rs⟩, { db with
        overdraftLoans := db.overdraftLoans.push loan }⟩
  | latch {rs : List IdempotencyRow} {db : Database} (hold : TransferRow) (toStatus : TransferStatus)
      (now : Time) (hf : db.transfers.find? hold.id = some hold)
      (hs : hold.status = .pendingUndo ∨ hold.status = .held)
      (hto : toStatus = .succeeded ∨ toStatus = .refunded) :
      Step c L ⟨⟨.none, none, rs⟩, db⟩ ⟨⟨.pay hold.id hold.status toStatus, none, rs⟩, { db with
        transfers := db.transfers.modifyAt hold.id (TransferRow.latched toStatus now)
          (TransferRow.id_latched toStatus now) }⟩
  | openEscrow {rs : List IdempotencyRow} {db : Database} {t : TransferRow} (e : EscrowRow)
      (hparties : e.HeldBy db t) (hf : db.safepayEscrows.find? e.id = none)
      (hhold : e.holdTransferId = t.id)
      (hunique : ∀ x ∈ db.safepayEscrows.rows, x.holdTransferId ≠ e.holdTransferId)
      (hamount : e.amountMinor = t.amountMinor) (hstatus : e.status = .awaitingShipment)
      (hnone : e.settlementTransferId = none) :
      Step c L ⟨⟨.openEscrow t, none, rs⟩, db⟩ ⟨⟨.none, none, rs⟩, { db with
        safepayEscrows := db.safepayEscrows.push e }⟩
  | escrow {g : Progress} {db : Database} (e : EscrowRow) (f : EscrowRow → EscrowRow)
      (hsettled : (f e).settlementTransferId = e.settlementTransferId)
      (hid : ∀ x, (f x).id = x.id) (hf : db.safepayEscrows.find? e.id = some e)
      (ho : e.status.isOpen = true) (ho' : (f e).status.isOpen = true) (hd : e.SameDeal (f e))
      (hl : (f e).status = e.status ∧ e.status ≠ .disputed ∨ L.escrow e.id (f e).status) :
      Step c L ⟨g, db⟩ ⟨g, { db with safepayEscrows := db.safepayEscrows.modifyAt e.id f hid }⟩
  | closeEscrow {rs : List IdempotencyRow} {db : Database} {t : TransferRow} (e : EscrowRow)
      (f : EscrowRow → EscrowRow) (hsettled : (f e).settlementTransferId = some t.id)
      (hid : ∀ x, (f x).id = x.id)
      (hf : db.safepayEscrows.find? e.id = some e) (ho : e.status.isOpen = true)
      (hhold : t.parentTransferId = some e.holdTransferId) (hd : e.SameDeal (f e))
      (hs : (f e).status = .released ∧ t.kind = .escrowRelease ∨
        (f e).status = .refunded ∧ t.kind = .escrowRefund)
      (hl : L.escrow e.id (f e).status) :
      Step c L ⟨⟨.closeEscrow t, none, rs⟩, db⟩ ⟨⟨.none, none, rs⟩, { db with
        safepayEscrows := db.safepayEscrows.modifyAt e.id f hid }⟩
  | request {g : Progress} {db : Database} (row : MoneyRequestRow)
      (hl : L.ask) (hf : db.moneyRequests.find? row.id = none) (hs : row.status = .pending)
      (ht : row.transferId = none) (hpayer : ∃ u, db.OwnedBy row.payerAccountId u)
      (hrequester : ∃ u, db.OwnedBy row.requesterAccountId u) :
      Step c L ⟨g, db⟩ ⟨g, { db with moneyRequests := db.moneyRequests.push row }⟩
  | decline {g : Progress} {db : Database} (q : MoneyRequestRow → Bool)
      (f : MoneyRequestRow → MoneyRequestRow) (hid : ∀ r, (f r).id = r.id)
      (hq : ∀ r ∈ db.moneyRequests.rows, q r = true → r.status = .pending ∧
        (f r).status ≠ .pending ∧ (f r).status ≠ .accepted ∧ (f r).transferId = r.transferId ∧
          r.SameTerms (f r) ∧ L.request r (f r)) :
      Step c L ⟨g, db⟩ ⟨g, { db with moneyRequests := db.moneyRequests.update q f hid }⟩
  | accept {rs : List IdempotencyRow} {db : Database} {t : TransferRow} (row : MoneyRequestRow)
      (now : Time) (hf : db.moneyRequests.find? row.id = some row) (hs : row.status = .pending)
      (hl : L.request row (SqlMoneyRequestRepository.accepted t.id now row)) :
      Step c L ⟨⟨.accept t row.id, none, rs⟩, db⟩ ⟨⟨.none, none, rs⟩, { db with
        moneyRequests := db.moneyRequests.modifyAt row.id
          (SqlMoneyRequestRepository.accepted t.id now)
          (SqlMoneyRequestRepository.id_accepted _ _) }⟩
  | acceptReplayed {rs : List IdempotencyRow} {db : Database} {t : Ulid} {r : IdempotencyRow}
      (row : MoneyRequestRow) (payer : Ulid) (key : String) (requestId : Option String) (now : Time)
      (hr : Replays db (MoneyRequestService.payCommand c row payer key requestId).triple
        (MoneyRequestService.payCommand c row payer key requestId).requestFingerprint t r)
      (hunique : ∀ x ∈ db.moneyRequests.rows, x.transferId ≠ some t)
      (hf : db.moneyRequests.find? row.id = some row) (hs : row.status = .pending) :
      Step c L ⟨⟨.none, none, rs⟩, db⟩ ⟨⟨.none, none, rs⟩, { db with
        moneyRequests := db.moneyRequests.modifyAt row.id
          (SqlMoneyRequestRepository.accepted t now)
          (SqlMoneyRequestRepository.id_accepted _ _) }⟩
  | openAccount {g : Progress} {db : Database} (a : AccountRow) (user : Ulid)
      (hf : db.accounts.find? a.id = none) (ht : a.accountType = .user)
      (hu : a.userId = some user) (hb : a.balanceMinor = 0) (hv : a.version = 0)
      (hunique : ∀ x ∈ db.accounts.rows, ¬(x.userId = some user ∧ x.accountType = .user))
      (hs : a.status = .active) (hex : (db.users.find? user).isSome = true) :
      Step c L ⟨g, db⟩ ⟨g, { db with accounts := db.accounts.push a }⟩
  | closeAccount {g : Progress} {db : Database} (id : Ulid) (status : AccountStatus) (stamp : Time)
      (ht : ∀ a, db.accounts.find? id = some a → a.accountType = .user) :
      Step c L ⟨g, db⟩ ⟨g, { db with
        accounts := db.accounts.modifyAt id (AccountRow.restated status stamp)
          (AccountRow.id_restated status stamp) }⟩
  | openPool {g : Progress} {db : Database} (a : AccountRow) (pool : PoolRow)
      (hf : db.accounts.find? a.id = none) (ht : a.accountType = .overdraftPool)
      (hu : a.userId = some pool.sponsorUserId) (hb : a.balanceMinor = 0) (hv : a.version = 0)
      (hp : db.overdraftPools.find? pool.id = none) (ha : pool.poolAccountId = a.id)
      (hs : a.status = .active) (hex : (db.users.find? pool.sponsorUserId).isSome = true) :
      Step c L ⟨g, db⟩ ⟨g, { db with
        accounts := db.accounts.push a, overdraftPools := db.overdraftPools.push pool }⟩
  | createGrant {g : Progress} {db : Database} (grant : GrantRow)
      (hf : db.overdraftGrants.find? grant.id = none) :
      Step c L ⟨g, db⟩ ⟨g, { db with overdraftGrants := db.overdraftGrants.push grant }⟩
  | stray {d d' : Duty} {rs : List IdempotencyRow} {db : Database} (hs : Stray db d)
      (loans : Table LoanRow.id) (repayments : Table RepaymentRow.id)
      (escrows : Table EscrowRow.id) :
      Step c L ⟨⟨d, none, rs⟩, db⟩ ⟨⟨d', none, rs⟩, { db with
        overdraftLoans := loans, overdraftRepayments := repayments, safepayEscrows := escrows }⟩

/-- A sequence of steps. -/
abbrev Steps (c : Ctx) (L : Licence) : Config → Config → Prop :=
  Relation.ReflTransGen (Step c L)

end MoneyMovement

/-
  MoneyMovement/ReconciliationCoverage.lean
  =========================================
  **What a balanced report says about the tables.**

  In a reachable state the report is balanced because the books are in order.
  Here nothing is known of the state but its keys: whatever wrote the rows, what
  follows from nine counters that read zero?  The counters look at the ledger
  and at the balances; none of them compares an entry with the transfer it
  belongs to.
-/
import MoneyMovement.Reconciliation

namespace MoneyMovement

open DoubleEntry ReconciliationService

/-- The foreign and unique keys of the tables that reconciliation reads.  Primary keys are part of
    a table. -/
structure SchemaKeys (db : Database) : Prop where
  account_user : ∀ a ∈ db.accounts.rows, ∀ u ∈ a.userId, (db.users.find? u).isSome = true
  account_number : (db.accounts.rows.map AccountRow.accountNumber).Nodup
  account_owner :
    (db.accounts.rows.filterMap fun a => a.userId.map fun u => (u, a.accountType)).Nodup
  transfer_accounts : ∀ t ∈ db.transfers.rows,
    (db.accounts.find? t.senderAccountId).isSome = true ∧
      (db.accounts.find? t.receiverAccountId).isSome = true
  transfer_intended : ∀ t ∈ db.transfers.rows, ∀ id ∈ t.intendedReceiverAccountId,
    (db.accounts.find? id).isSome = true
  transfer_parent : ∀ t ∈ db.transfers.rows, ∀ id ∈ t.parentTransferId,
    (db.transfers.find? id).isSome = true
  transfer_initiator : ∀ t ∈ db.transfers.rows, ∀ u ∈ t.initiatedByUserId,
    (db.users.find? u).isSome = true
  transfer_reference : (db.transfers.rows.map TransferRow.reference).Nodup
  transaction_transfer : ∀ l ∈ db.ledgerTransactions.rows,
    (db.transfers.find? l.transferId).isSome = true
  transaction_once : (db.ledgerTransactions.rows.map LedgerTransactionRow.transferId).Nodup
  entry_account : ∀ e ∈ db.ledgerEntries.rows, (db.accounts.find? e.accountId).isSome = true
  entry_transaction : ∀ e ∈ db.ledgerEntries.rows,
    (db.ledgerTransactions.find? e.ledgerTransactionId).isSome = true
  request_accounts : ∀ r ∈ db.moneyRequests.rows,
    (db.accounts.find? r.requesterAccountId).isSome = true ∧
      (db.accounts.find? r.payerAccountId).isSome = true
  request_reference : (db.moneyRequests.rows.map MoneyRequestRow.reference).Nodup
  request_transfer : ∀ r ∈ db.moneyRequests.rows, ∀ id ∈ r.transferId,
    (db.transfers.find? id).isSome = true
  request_transfer_once : (db.moneyRequests.rows.filterMap MoneyRequestRow.transferId).Nodup

/-- The entries of a transfer: minus its amount on the sender, plus its amount on the receiver,
    in the one ledger transaction it has. -/
def PostedInFull (db : Database) (t : TransferRow) : Prop :=
  ∃ l ∈ db.ledgerTransactions.rows, l.transferId = t.id ∧
    (∀ l' ∈ db.ledgerTransactions.rows, l'.transferId = t.id → l' = l) ∧
    ((entriesOf LedgerEntryRow.ledgerTransactionId db.ledgerEntries.rows l.id).map
      fun e => (e.accountId, e.amountMinor)).Perm
        [(t.senderAccountId, -t.amountMinor), (t.receiverAccountId, t.amountMinor)]

section Counters

variable {db : Database} {includeDetails : Bool}

/-- The report, counter by counter. -/
theorem isBalanced_iff : (run db includeDetails).isBalanced = true ↔
    unbalanced db = [] ∧ mismatchRows db = [] ∧ negativeUsers db = [] ∧ withoutLedger db = [] ∧
      wrongEntryCount db = [] ∧ acceptedWithoutTransfer db = [] ∧ duplicateReferences db = [] ∧
      db.ledgerEntries.sum LedgerEntryRow.amountMinor = 0 ∧
      ((balanceByAccountType db).map Prod.snd).sum = 0 := by
  simp only [ReconciliationReport.isBalanced, ReconciliationReport.allAccountBalanceSumMinor, run,
    Bool.and_eq_true, beq_iff_eq, List.length_eq_zero_iff, and_assoc]

theorem nonneg_of_negativeUsers (h : negativeUsers db = []) {a : AccountRow}
    (ha : a ∈ db.accounts.rows) (huser : a.accountType = .user) : 0 ≤ a.balanceMinor := by
  rw [negativeUsers, List.filter_eq_nil_iff] at h
  have := h a ha
  rw [huser] at this
  simpa using this

theorem balance_of_mismatchRows (h : mismatchRows db = []) {a : AccountRow}
    (ha : a ∈ db.accounts.rows) : a.balanceMinor = derivedMinor db a := by
  rw [mismatchRows, List.filter_eq_nil_iff] at h
  simpa using h a ha

/-- A succeeded transfer has a ledger transaction, and the unique key lets it have no other. -/
theorem one_transaction (h : withoutLedger db = []) (hkeys : SchemaKeys db) {t : TransferRow}
    (ht : t ∈ db.transfers.rows) (hstatus : t.status = .succeeded) :
    ∃ l ∈ db.ledgerTransactions.rows, l.transferId = t.id ∧
      ∀ l' ∈ db.ledgerTransactions.rows, l'.transferId = t.id → l' = l := by
  rw [withoutLedger, List.filter_eq_nil_iff] at h
  have hsome := h t ht
  rw [hstatus] at hsome
  obtain ⟨l, hl, hid⟩ : ∃ l ∈ db.ledgerTransactions.rows, l.transferId = t.id := by
    simpa using hsome
  refine ⟨l, hl, hid, ?_⟩
  intro l' hl' hid'
  exact List.inj_on_of_nodup_map hkeys.transaction_once hl' hl (hid'.trans hid.symm)

/-- A ledger transaction with an entry has two, and they cancel. -/
theorem cancelling_pair (hsum : unbalanced db = []) (hcount : wrongEntryCount db = [])
    {l : LedgerTransactionRow} (hl : l ∈ db.ledgerTransactions.rows)
    (hne : entriesOf LedgerEntryRow.ledgerTransactionId db.ledgerEntries.rows l.id ≠ []) :
    ∃ e e', entriesOf LedgerEntryRow.ledgerTransactionId db.ledgerEntries.rows l.id = [e, e'] ∧
      e.amountMinor + e'.amountMinor = 0 := by
  rw [wrongEntryCount, List.filter_eq_nil_iff] at hcount
  have htwo : (entriesOf LedgerEntryRow.ledgerTransactionId db.ledgerEntries.rows l.id).length = 2 := by
    simpa [hne] using hcount l hl
  obtain ⟨e, e', hpair⟩ := List.length_eq_two.1 htwo
  refine ⟨e, e', hpair, ?_⟩
  rw [unbalanced, List.filter_eq_nil_iff] at hsum
  have he : e ∈ entriesOf LedgerEntryRow.ledgerTransactionId db.ledgerEntries.rows l.id := by
    rw [hpair]
    exact List.mem_cons_self
  obtain ⟨hrow, hgroup⟩ := mem_entriesOf.1 he
  have hnet := hsum l.id (List.mem_dedup.2 (List.mem_map.2 ⟨e, hrow, hgroup⟩))
  rw [hpair] at hnet
  simpa [net] using hnet

theorem transfer_of_accepted (h : acceptedWithoutTransfer db = []) (hkeys : SchemaKeys db)
    {r : MoneyRequestRow} (hr : r ∈ db.moneyRequests.rows) (hstatus : r.status = .accepted) :
    ∃ id ∈ r.transferId, ∃ t, db.transfers.find? id = some t := by
  rw [acceptedWithoutTransfer, List.filter_eq_nil_iff] at h
  have hsome := h r hr
  rw [hstatus] at hsome
  obtain ⟨id, hid⟩ : ∃ id, r.transferId = some id := by
    rw [← Option.isSome_iff_exists]
    simpa [Option.isNone_iff_eq_none, Option.isSome_iff_ne_none] using hsome
  exact ⟨id, hid, Option.isSome_iff_exists.1 (hkeys.request_transfer r hr id hid)⟩

/-- The types together hold what the accounts hold. -/
theorem sum_balanceByAccountType :
    ((balanceByAccountType db).map Prod.snd).sum = db.accounts.sum AccountRow.balanceMinor := by
  rw [balanceByAccountType, List.map_map]
  exact sum_net_entriesOf (List.nodup_dedup _)
    fun a ha => List.mem_dedup.2 (List.mem_map_of_mem ha)

end Counters

/-- What nine zeros say: users are not in debt, each account is the sum of its entries, each
    succeeded transfer has one ledger transaction, each ledger transaction that has entries is a
    cancelling pair, each accepted request has its transfer, and everything sums to zero. -/
theorem balanced_report_covers (db : Database) (includeDetails : Bool) (hkeys : SchemaKeys db)
    (h : (run db includeDetails).isBalanced = true) :
    (∀ a ∈ db.accounts.rows, a.accountType = .user → 0 ≤ a.balanceMinor) ∧
    (∀ a ∈ db.accounts.rows, a.balanceMinor = net LedgerEntryRow.amountMinor
      (entriesOf LedgerEntryRow.accountId db.ledgerEntries.rows a.id)) ∧
    (∀ t ∈ db.transfers.rows, t.status = .succeeded →
      ∃ l ∈ db.ledgerTransactions.rows, l.transferId = t.id ∧
        ∀ l' ∈ db.ledgerTransactions.rows, l'.transferId = t.id → l' = l) ∧
    (∀ l ∈ db.ledgerTransactions.rows,
      entriesOf LedgerEntryRow.ledgerTransactionId db.ledgerEntries.rows l.id ≠ [] →
        ∃ e e', entriesOf LedgerEntryRow.ledgerTransactionId db.ledgerEntries.rows l.id = [e, e'] ∧
          e.amountMinor + e'.amountMinor = 0) ∧
    (∀ r ∈ db.moneyRequests.rows, r.status = .accepted →
      ∃ id ∈ r.transferId, ∃ t, db.transfers.find? id = some t) ∧
    db.ledgerEntries.sum LedgerEntryRow.amountMinor = 0 ∧
    db.accounts.sum AccountRow.balanceMinor = 0 := by
  obtain ⟨hsum, hmismatch, hnegative, hwithout, hcount, haccepted, -, hledger, htypes⟩ :=
    isBalanced_iff.1 h
  exact ⟨fun a ha huser => nonneg_of_negativeUsers hnegative ha huser,
    fun a ha => balance_of_mismatchRows hmismatch ha,
    fun t ht hstatus => one_transaction hwithout hkeys ht hstatus,
    fun l hl hne => cancelling_pair hsum hcount hl hne,
    fun r hr hstatus => transfer_of_accepted haccepted hkeys hr hstatus, hledger,
    sum_balanceByAccountType.symm.trans htypes⟩

namespace Sample

def grantOf (id : Ulid) (suffix : Fin (32 ^ 8)) (status : TransferStatus) : TransferRow where
  id := id
  reference := ⟨"TRX", 0, suffix⟩
  senderAccountId := SYSTEM_ISSUANCE_ACCOUNT_ID
  receiverAccountId := ESCROW_ACCOUNT_ID
  amountMinor := 100
  currency := .BDT
  kind := .signupGrant
  status := status
  note := none
  initiatedByUserId := none
  requestId := none
  parentTransferId := none
  intendedReceiverAccountId := none
  createdAt := 0
  completedAt := none

def entry (id : Ulid) (accountId : Ulid) (amount : Int) : LedgerEntryRow where
  id := id
  ledgerTransactionId := ⟨1, 3⟩
  accountId := accountId
  amountMinor := amount
  currency := .BDT
  balanceAfterMinor := amount
  createdAt := 0

def account (id : Ulid) (type : AccountType) (number : String) (balance : Int) : AccountRow :=
  { systemAccount id type number 0 with balanceMinor := balance }

/-- A transfer of 100 from issuance to escrow, posted as 50 from escrow to pending settlement; and
    a held transfer that was never posted. -/
def misposted : Database :=
  { migrated 0 with
    accounts := ⟨[account SYSTEM_ISSUANCE_ACCOUNT_ID .systemIssuance "SYS-ISSUANCE-001" 0,
      account ESCROW_ACCOUNT_ID .escrow "SYS-ESCROW-001" (-50),
      account PENDING_SETTLEMENT_ACCOUNT_ID .pendingSettlement "SYS-PENDING-001" 50], by decide⟩
    transfers := ⟨[grantOf ⟨1, 1⟩ 1 .succeeded, grantOf ⟨1, 2⟩ 2 .held], by decide⟩
    ledgerTransactions := ⟨[⟨⟨1, 3⟩, ⟨1, 1⟩, .signupGrant, none, 0⟩], by decide⟩
    ledgerEntries := ⟨[entry ⟨1, 4⟩ ESCROW_ACCOUNT_ID (-50),
      entry ⟨1, 5⟩ PENDING_SETTLEMENT_ACCOUNT_ID 50], by decide⟩ }

theorem misposted_keys : SchemaKeys misposted where
  account_user := by decide
  account_number := by decide
  account_owner := by decide
  transfer_accounts := by decide
  transfer_intended := by decide
  transfer_parent := by decide
  transfer_initiator := by decide
  transfer_reference := by decide
  transaction_transfer := by decide
  transaction_once := by decide
  entry_account := by decide
  entry_transaction := by decide
  request_accounts := by decide
  request_reference := by decide
  request_transfer := by decide
  request_transfer_once := by decide

theorem misposted_balanced : (run misposted true).isBalanced = true := by
  decide

end Sample

theorem misposted_ledger_sums_to_zero :
    Sample.misposted.ledgerEntries.rows.length = 2 ∧
      Sample.misposted.ledgerEntries.sum LedgerEntryRow.amountMinor = 0 := by
  refine ⟨rfl, ?_⟩
  have hcovers := balanced_report_covers Sample.misposted true Sample.misposted_keys
    Sample.misposted_balanced
  exact hcovers.2.2.2.2.2.1

/-- The report is balanced, although escrow is in debt, one transfer is posted at another amount
    between other accounts, and one is not posted at all. -/
theorem misposted_reported_balanced :
    SchemaKeys Sample.misposted ∧ (run Sample.misposted true).isBalanced = true ∧
    (∃ a ∈ Sample.misposted.accounts.rows, a.accountType ≠ .systemIssuance ∧ a.balanceMinor < 0) ∧
    (∃ t ∈ Sample.misposted.transfers.rows, t.status = .succeeded ∧
      ¬PostedInFull Sample.misposted t) ∧
    (∃ t ∈ Sample.misposted.transfers.rows, t.status = .held ∧
      ∀ l ∈ Sample.misposted.ledgerTransactions.rows, l.transferId ≠ t.id) := by
  refine ⟨Sample.misposted_keys, Sample.misposted_balanced, by decide, ?_, by decide⟩
  refine ⟨Sample.grantOf ⟨1, 1⟩ 1 .succeeded, List.mem_cons_self, rfl, ?_⟩
  rintro ⟨l, hl, -, -, hperm⟩
  -- the one ledger transaction there is has an entry of 50 on escrow
  have hl : l = ⟨⟨1, 3⟩, ⟨1, 1⟩, .signupGrant, none, 0⟩ := List.mem_singleton.1 hl
  subst hl
  have hmem : (ESCROW_ACCOUNT_ID, (-50 : Int)) ∈
      [(SYSTEM_ISSUANCE_ACCOUNT_ID, -(100 : Int)), (ESCROW_ACCOUNT_ID, (100 : Int))] :=
    hperm.mem_iff.1 (by decide)
  revert hmem
  decide

end MoneyMovement

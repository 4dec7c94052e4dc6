/-
  MoneyMovement/Reconciliation.lean
  =================================
  **The books balance** — `modules/reconciliation/service.py`.

  Reconciliation trusts nothing: it recomputes every property from the raw
  tables.  Each counter is one SQL statement; `GROUP BY` is modelled by the
  values that occur, each once, with the rows of each.  In a state where the
  invariant holds every counter is zero.
-/
import MoneyMovement.Invariants

namespace MoneyMovement

open DoubleEntry

/-! ### The report -/

structure Mismatch where
  accountId : Ulid
  accountNumber : String
  recordedMinor : Int
  derivedMinor : Int
  driftMinor : Int

structure ReconciliationReport where
  unbalancedLedgerTransactions : Nat
  balanceMismatches : Nat
  negativeUserAccounts : Nat
  succeededTransfersWithoutLedger : Nat
  transfersWithWrongEntryCount : Nat
  acceptedRequestsWithoutTransfer : Nat
  duplicateTransferReferences : Nat
  systemWideLedgerSumMinor : Int
  totalUserBalanceMinor : Int
  issuanceBalanceMinor : Int
  moneyInCirculationMinor : Int
  totalHeldMinor : Int
  balanceByAccountType : List (AccountType × Int)
  accountsChecked : Nat
  ledgerEntriesChecked : Nat
  transfersChecked : Nat
  mismatchDetails : List Mismatch

namespace ReconciliationReport

def allAccountBalanceSumMinor (r : ReconciliationReport) : Int :=
  (r.balanceByAccountType.map Prod.snd).sum

/-- True only if every integrity counter is zero. -/
def isBalanced (r : ReconciliationReport) : Bool :=
  r.unbalancedLedgerTransactions == 0 && r.balanceMismatches == 0 && r.negativeUserAccounts == 0 &&
    r.succeededTransfersWithoutLedger == 0 && r.transfersWithWrongEntryCount == 0 &&
    r.acceptedRequestsWithoutTransfer == 0 && r.duplicateTransferReferences == 0 &&
    r.systemWideLedgerSumMinor == 0 && r.allAccountBalanceSumMinor == 0

end ReconciliationReport

/-! ### The statements -/

namespace ReconciliationService

/-- The groups of a `GROUP BY`. -/
def groups {ρ κ : Type} [DecidableEq κ] (key : ρ → κ) (rows : List ρ) : List κ :=
  (rows.map key).dedup

/-- 1. `SELECT … FROM ledger_entries GROUP BY ledger_transaction_id HAVING SUM <> 0`. -/
def unbalanced (db : Database) : List Ulid :=
  (groups LedgerEntryRow.ledgerTransactionId db.ledgerEntries.rows).filter fun l =>
    net LedgerEntryRow.amountMinor
      (entriesOf LedgerEntryRow.ledgerTransactionId db.ledgerEntries.rows l) != 0

/-- `COALESCE(SUM(e.amount_minor), 0)` of an account. -/
def derivedMinor (db : Database) (a : AccountRow) : Int :=
  net LedgerEntryRow.amountMinor (entriesOf LedgerEntryRow.accountId db.ledgerEntries.rows a.id)

/-- 2. The accounts whose balance is not the sum of their entries. -/
def mismatchRows (db : Database) : List AccountRow :=
  db.accounts.rows.filter fun a => a.balanceMinor != derivedMinor db a

def mismatch (db : Database) (a : AccountRow) : Mismatch :=
  ⟨a.id, a.accountNumber, a.balanceMinor, derivedMinor db a, a.balanceMinor - derivedMinor db a⟩

/-- 3. -/
def negativeUsers (db : Database) : List AccountRow :=
  db.accounts.rows.filter fun a => a.accountType == .user && decide (a.balanceMinor < 0)

/-- 4. The succeeded transfers the left join finds no ledger transaction for. -/
def withoutLedger (db : Database) : List TransferRow :=
  db.transfers.rows.filter fun t =>
    t.status == .succeeded && db.ledgerTransactions.rows.all fun l => l.transferId != t.id

/-- 5. The ledger transactions that have entries, but not two. -/
def wrongEntryCount (db : Database) : List LedgerTransactionRow :=
  db.ledgerTransactions.rows.filter fun l =>
    let n := (entriesOf LedgerEntryRow.ledgerTransactionId db.ledgerEntries.rows l.id).length
    n != 0 && n != 2

/-- 6. -/
def acceptedWithoutTransfer (db : Database) : List MoneyRequestRow :=
  db.moneyRequests.rows.filter fun r => r.status == .accepted && r.transferId.isNone

/-- 7. -/
def duplicateReferences (db : Database) : List Reference :=
  (groups TransferRow.reference db.transfers.rows).filter fun r =>
    decide (1 < (entriesOf TransferRow.reference db.transfers.rows r).length)

/-- `SELECT COALESCE(SUM(balance_minor), 0) FROM accounts WHERE account_type = type`. -/
def balanceOfType (db : Database) (type : AccountType) : Int :=
  net AccountRow.balanceMinor (entriesOf AccountRow.accountType db.accounts.rows type)

/-- 8. `SELECT account_type, SUM(balance_minor) FROM accounts GROUP BY account_type`. -/
def balanceByAccountType (db : Database) : List (AccountType × Int) :=
  (groups AccountRow.accountType db.accounts.rows).map fun type => (type, balanceOfType db type)

/-- The types whose money is not on its way. -/
def isSettled : AccountType → Bool
  | .user | .systemIssuance => true
  | _ => false

def run (db : Database) (includeDetails : Bool) : ReconciliationReport where
  unbalancedLedgerTransactions := (unbalanced db).length
  balanceMismatches := (mismatchRows db).length
  negativeUserAccounts := (negativeUsers db).length
  succeededTransfersWithoutLedger := (withoutLedger db).length
  transfersWithWrongEntryCount := (wrongEntryCount db).length
  acceptedRequestsWithoutTransfer := (acceptedWithoutTransfer db).length
  duplicateTransferReferences := (duplicateReferences db).length
  systemWideLedgerSumMinor := db.ledgerEntries.sum LedgerEntryRow.amountMinor
  totalUserBalanceMinor := balanceOfType db .user
  issuanceBalanceMinor := balanceOfType db .systemIssuance
  moneyInCirculationMinor := -balanceOfType db .systemIssuance
  totalHeldMinor :=
    (((balanceByAccountType db).filter fun x => !isSettled x.1).map Prod.snd).sum
  balanceByAccountType := balanceByAccountType db
  accountsChecked := db.accounts.rows.length
  ledgerEntriesChecked := db.ledgerEntries.rows.length
  transfersChecked := db.transfers.rows.length
  mismatchDetails := if includeDetails then (mismatchRows db).map (mismatch db) else []

/-! ### In order -/

section Counters

variable {db : Database}

theorem unbalanced_eq_nil
    (h : Books db.accounts db.transfers db.ledgerTransactions db.ledgerEntries) :
    unbalanced db = [] := by
  rw [unbalanced, List.filter_eq_nil_iff]
  intro l hl
  obtain ⟨e, he, rfl⟩ := List.mem_map.1 (List.mem_dedup.1 hl)
  obtain ⟨row, hrow⟩ := Option.isSome_iff_exists.1 (h.entry_transaction e he)
  obtain ⟨t, debit, credit, -, hpair, hp⟩ := h.posted row (Table.mem_of_find? hrow)
  rw [Table.key_of_find? hrow] at hpair
  rw [hpair]
  simp [net, hp.debit_amount, hp.credit_amount]

theorem mismatchRows_eq_nil
    (h : Books db.accounts db.transfers db.ledgerTransactions db.ledgerEntries) :
    mismatchRows db = [] := by
  rw [mismatchRows, List.filter_eq_nil_iff]
  intro a ha
  have hkept := (h.kept a ha).balance_eq
  simp [derivedMinor, ← hkept]

theorem negativeUsers_eq_nil
    (h : Books db.accounts db.transfers db.ledgerTransactions db.ledgerEntries) :
    negativeUsers db = [] := by
  rw [negativeUsers, List.filter_eq_nil_iff]
  intro a ha hneg
  rw [Bool.and_eq_true, beq_iff_eq, decide_eq_true_eq] at hneg
  have hnonneg := h.nonneg a ha (by rw [hneg.1]; decide)
  omega

theorem withoutLedger_eq_nil
    (h : Books db.accounts db.transfers db.ledgerTransactions db.ledgerEntries) :
    withoutLedger db = [] := by
  rw [withoutLedger, List.filter_eq_nil_iff]
  intro t ht hnone
  rw [Bool.and_eq_true, List.all_eq_true] at hnone
  obtain ⟨l, hl, hid⟩ := h.covered t ht
  simpa [hid] using hnone.2 l hl

theorem wrongEntryCount_eq_nil
    (h : Books db.accounts db.transfers db.ledgerTransactions db.ledgerEntries) :
    wrongEntryCount db = [] := by
  rw [wrongEntryCount, List.filter_eq_nil_iff]
  intro l hl
  obtain ⟨t, debit, credit, -, hpair, -⟩ := h.posted l hl
  simp [hpair]

theorem acceptedWithoutTransfer_eq_nil (h : Linked db.moneyRequests) :
    acceptedWithoutTransfer db = [] := by
  rw [acceptedWithoutTransfer, List.filter_eq_nil_iff]
  intro r hr hnone
  rw [Bool.and_eq_true, beq_iff_eq] at hnone
  have hsome := h r hr hnone.1
  rw [Option.isSome_iff_ne_none] at hsome
  exact hsome (Option.isNone_iff_eq_none.1 hnone.2)

theorem duplicateReferences_eq_nil
    (h : Books db.accounts db.transfers db.ledgerTransactions db.ledgerEntries) :
    duplicateReferences db = [] := by
  rw [duplicateReferences, List.filter_eq_nil_iff]
  intro r _ hdup
  rw [decide_eq_true_eq] at hdup
  have hcount := List.nodup_iff_count_le_one.1 h.references r
  rw [List.count_eq_length_filter, List.filter_map, List.length_map] at hcount
  have heq : entriesOf TransferRow.reference db.transfers.rows r =
      db.transfers.rows.filter ((· == r) ∘ TransferRow.reference) := by
    apply List.filter_congr
    intro t _
    exact Bool.eq_iff_iff.2 (by simp)
  rw [heq] at hdup
  omega

/-- The ledger sums to zero because every account is the sum of its entries. -/
theorem ledgerSum_eq_zero
    (h : Books db.accounts db.transfers db.ledgerTransactions db.ledgerEntries) :
    db.ledgerEntries.sum LedgerEntryRow.amountMinor = 0 := by
  have hcover : ∀ e ∈ db.ledgerEntries.rows, e.accountId ∈ db.accounts.rows.map AccountRow.id := by
    intro e he
    obtain ⟨a, ha⟩ := Option.isSome_iff_exists.1 (h.entry_account e he)
    exact List.mem_map.2 ⟨a, Table.mem_of_find? ha, Table.key_of_find? ha⟩
  have hgroups : ((db.accounts.rows.map AccountRow.id).map fun id => net LedgerEntryRow.amountMinor
      (entriesOf LedgerEntryRow.accountId db.ledgerEntries.rows id)).sum =
        net LedgerEntryRow.amountMinor db.ledgerEntries.rows :=
    sum_net_entriesOf db.accounts.nodup hcover
  rw [List.map_map] at hgroups
  calc db.ledgerEntries.sum LedgerEntryRow.amountMinor
      = net LedgerEntryRow.amountMinor db.ledgerEntries.rows := rfl
    _ = db.accounts.sum (derivedMinor db) := hgroups.symm
    _ = db.accounts.sum AccountRow.balanceMinor :=
        Table.sum_congr fun a ha => (h.kept a ha).balance_eq.symm
    _ = 0 := h.total

theorem balanceByAccountType_sum
    (h : Books db.accounts db.transfers db.ledgerTransactions db.ledgerEntries) :
    ((balanceByAccountType db).map Prod.snd).sum = 0 := by
  rw [balanceByAccountType, List.map_map]
  have hcover : ∀ a ∈ db.accounts.rows,
      a.accountType ∈ groups AccountRow.accountType db.accounts.rows :=
    fun a ha => List.mem_dedup.2 (List.mem_map_of_mem ha)
  have hgroups : ((groups AccountRow.accountType db.accounts.rows).map (balanceOfType db)).sum =
      net AccountRow.balanceMinor db.accounts.rows :=
    sum_net_entriesOf (List.nodup_dedup _) hcover
  exact hgroups.trans h.total

end Counters

theorem isBalanced_of_inv {d : Deployment} {db : Database} (h : db.Inv d) (includeDetails : Bool) :
    (run db includeDetails).isBalanced = true := by
  have hb := h.books
  simp [run, ReconciliationReport.isBalanced, ReconciliationReport.allAccountBalanceSumMinor,
    unbalanced_eq_nil hb, mismatchRows_eq_nil hb, negativeUsers_eq_nil hb, withoutLedger_eq_nil hb,
    wrongEntryCount_eq_nil hb, acceptedWithoutTransfer_eq_nil h.linked,
    duplicateReferences_eq_nil hb, ledgerSum_eq_zero hb, balanceByAccountType_sum hb]

end ReconciliationService

/-! ### In every run -/

/-- Whatever is asked of the system, in whatever order: every ledger transaction is a
    balanced pair, every account is the running sum of its entries, nobody but the issuer
    is in debt, and reconciliation finds nothing. -/
theorem books_balance_in_every_run (d : Deployment) (now : Time) (calls : List Call) :
    let db := serveAll d calls (migrated now)
    (∀ l ∈ db.ledgerTransactions.rows, ∃ debit credit,
      entriesOf LedgerEntryRow.ledgerTransactionId db.ledgerEntries.rows l.id = [debit, credit] ∧
        debit.accountId ≠ credit.accountId ∧ debit.amountMinor + credit.amountMinor = 0) ∧
      (∀ a ∈ db.accounts.rows,
        let entries := entriesOf LedgerEntryRow.accountId db.ledgerEntries.rows a.id
        a.balanceMinor = net LedgerEntryRow.amountMinor entries ∧ a.version = entries.length ∧
          ∀ earlier e later, entries = earlier ++ e :: later →
            e.balanceAfterMinor = net LedgerEntryRow.amountMinor earlier + e.amountMinor) ∧
      (∀ a ∈ db.accounts.rows, a.id ≠ SYSTEM_ISSUANCE_ACCOUNT_ID → 0 ≤ a.balanceMinor) ∧
      db.accounts.sum AccountRow.balanceMinor = 0 ∧
      ∀ includeDetails, (ReconciliationService.run db includeDetails).isBalanced = true := by
  intro db
  have hinv : db.Inv d := serveAll_inv d now calls
  have hbooks := hinv.books
  refine ⟨?_, ?_, ?_, hbooks.total, ReconciliationService.isBalanced_of_inv hinv⟩
  · intro l hl
    obtain ⟨t, debit, credit, ht, hpair, hp⟩ := hbooks.posted l hl
    refine ⟨debit, credit, hpair, ?_, ?_⟩
    · rw [hp.debit_account, hp.credit_account]
      exact (hbooks.moves t (Table.mem_of_find? ht)).2
    · rw [hp.debit_amount, hp.credit_amount]
      omega
  · intro a ha
    have hkept := hbooks.kept a ha
    exact ⟨hkept.balance_eq, hkept.version_eq, hkept.running⟩
  · intro a ha hne
    refine hbooks.nonneg a ha ?_
    intro htype
    exact hne (hinv.chart.eq_system ⟨a, Table.find?_of_mem ha, htype⟩ .issuance)

end MoneyMovement

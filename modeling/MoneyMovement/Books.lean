/-
  MoneyMovement/Books.lean
  ========================
  **The books**: accounts, transfers, ledger transactions and entries.

  A movement of money touches all four tables at once (`Posting.apply`).  The
  first part computes what it does to the accounts; `Books` is what the four
  tables have in common at every moment, and `Books.step` shows that no step can
  break it, whoever is entitled to it.
-/
import MoneyMovement.DoubleEntry
import MoneyMovement.Effects

namespace MoneyMovement

open DoubleEntry

/-! ### The accounts after a movement -/

/-- The balance of an account, `0` when there is none. -/
def balanceOf (accounts : Table AccountRow.id) (id : Ulid) : Int :=
  ((accounts.find? id).map AccountRow.balanceMinor).getD 0

theorem balanceOf_of_find? {accounts : Table AccountRow.id} {id : Ulid} {a : AccountRow}
    (h : accounts.find? id = some a) : balanceOf accounts id = a.balanceMinor := by
  rw [balanceOf, h]
  rfl

/-- A new account does not change the balance of one that is there. -/
theorem balanceOf_push {accounts : Table AccountRow.id} {id : Ulid} (a : AccountRow)
    (h : (accounts.find? id).isSome = true) : balanceOf (accounts.push a) id = balanceOf accounts id := by
  obtain ⟨x, hx⟩ := Option.isSome_iff_exists.1 h
  rw [balanceOf_of_find? (Table.find?_push_of_some hx), balanceOf_of_find? hx]

theorem balanceOf_restated (accounts : Table AccountRow.id) (x id : Ulid) (status : AccountStatus)
    (stamp : Time) :
    balanceOf (accounts.modifyAt x (AccountRow.restated status stamp)
      (AccountRow.id_restated status stamp)) id = balanceOf accounts id := by
  unfold balanceOf
  rw [Table.find?_modifyAt]
  split
  · rename_i heq
    rw [heq, Option.map_map]
    rfl
  · rfl

namespace Posting

variable {c : Ctx} {db : Database} {p : Posting}

theorem Valid.sender_id (hv : p.Valid c db) : p.sender.id = p.cmd.senderAccountId :=
  Table.key_of_find? hv.sender_found

theorem Valid.receiver_id (hv : p.Valid c db) : p.receiver.id = p.cmd.receiverAccountId :=
  Table.key_of_find? hv.receiver_found

/-- After the debit alone the receiver is as it was. -/
theorem Valid.receiver_found' (hv : p.Valid c db) :
    (db.accounts.modifyAt p.cmd.senderAccountId (AccountRow.moved (-p.cmd.amount.minor) p.stamp)
      (AccountRow.id_moved _ _)).find? p.cmd.receiverAccountId = some p.receiver := by
  rw [Table.find?_modifyAt, if_neg hv.parties_ne.symm, hv.receiver_found]

theorem Valid.mem_accountsAfter (hv : p.Valid c db) {a : AccountRow}
    (h : a ∈ (p.accountsAfter db.accounts).rows) :
    a = p.sender.moved (-p.cmd.amount.minor) p.stamp ∨
      a = p.receiver.moved p.cmd.amount.minor p.stamp ∨
      a ∈ db.accounts.rows ∧ a.id ≠ p.cmd.senderAccountId ∧ a.id ≠ p.cmd.receiverAccountId := by
  obtain ⟨a₁, ha₁, rfl⟩ := Table.mem_modifyAt.1 h
  obtain ⟨a₀, ha₀, rfl⟩ := Table.mem_modifyAt.1 ha₁
  by_cases hs : a₀.id = p.cmd.senderAccountId
  · have heq : a₀ = p.sender :=
      Table.eq_of_key ha₀ (Table.mem_of_find? hv.sender_found) (hs.trans hv.sender_id.symm)
    left
    rw [if_pos hs, if_neg, heq]
    rw [AccountRow.id_moved, hs]
    exact hv.parties_ne
  · rw [if_neg hs]
    by_cases hr : a₀.id = p.cmd.receiverAccountId
    · have heq : a₀ = p.receiver :=
        Table.eq_of_key ha₀ (Table.mem_of_find? hv.receiver_found) (hr.trans hv.receiver_id.symm)
      right; left
      rw [if_pos hr, heq]
    · rw [if_neg hr]
      exact .inr (.inr ⟨ha₀, hs, hr⟩)

/-- What a movement does to a sum over the accounts. -/
theorem Valid.sum_accountsAfter (hv : p.Valid c db) (g : AccountRow → Int) :
    (p.accountsAfter db.accounts).sum g = db.accounts.sum g +
      (g (p.sender.moved (-p.cmd.amount.minor) p.stamp) - g p.sender) +
      (g (p.receiver.moved p.cmd.amount.minor p.stamp) - g p.receiver) := by
  rw [accountsAfter, Table.sum_modifyAt hv.receiver_found', Table.sum_modifyAt hv.sender_found]

theorem Valid.find?_accountsAfter_eq (hv : p.Valid c db) (id : Ulid) :
    (p.accountsAfter db.accounts).find? id =
      if id = p.cmd.receiverAccountId then some (p.receiver.moved p.cmd.amount.minor p.stamp)
      else if id = p.cmd.senderAccountId then some (p.sender.moved (-p.cmd.amount.minor) p.stamp)
      else db.accounts.find? id := by
  unfold accountsAfter
  rw [Table.find?_modifyAt, hv.receiver_found', Table.find?_modifyAt, hv.sender_found]
  rfl

theorem Valid.balanceOf_accountsAfter (hv : p.Valid c db) (id : Ulid) :
    balanceOf (p.accountsAfter db.accounts) id = balanceOf db.accounts id -
      (if id = p.cmd.senderAccountId then p.cmd.amount.minor else 0) +
      (if id = p.cmd.receiverAccountId then p.cmd.amount.minor else 0) := by
  rw [balanceOf, hv.find?_accountsAfter_eq]
  by_cases hr : id = p.cmd.receiverAccountId
  · rw [if_pos hr, if_pos hr, if_neg (hr ▸ hv.parties_ne.symm),
      balanceOf_of_find? (hr ▸ hv.receiver_found)]
    show p.receiver.balanceMinor + p.cmd.amount.minor = _
    omega
  · rw [if_neg hr, if_neg hr]
    by_cases hs : id = p.cmd.senderAccountId
    · rw [if_pos hs, if_pos hs, balanceOf_of_find? (hs ▸ hv.sender_found)]
      show p.sender.balanceMinor + -p.cmd.amount.minor = _
      omega
    · rw [if_neg hs, if_neg hs, ← balanceOf]
      omega

theorem Valid.isSome_accountsAfter (hv : p.Valid c db) {id : Ulid}
    (h : (db.accounts.find? id).isSome = true) :
    ((p.accountsAfter db.accounts).find? id).isSome = true := by
  rw [hv.find?_accountsAfter_eq]
  split
  · rfl
  · split
    · rfl
    · exact h

end Posting

/-! ### The books -/

/-- The account agrees with the log of entries. -/
abbrev InStep (entries : List LedgerEntryRow) (a : AccountRow) : Prop :=
  Kept LedgerEntryRow.accountId LedgerEntryRow.amountMinor LedgerEntryRow.balanceAfterMinor entries
    a.id a.balanceMinor a.version

/-- The two entries of a transfer: the sender's debit and the receiver's credit. -/
structure EntryPair (t : TransferRow) (debit credit : LedgerEntryRow) : Prop where
  debit_account : debit.accountId = t.senderAccountId
  debit_amount : debit.amountMinor = -t.amountMinor
  credit_account : credit.accountId = t.receiverAccountId
  credit_amount : credit.amountMinor = t.amountMinor

structure Books (accounts : Table AccountRow.id) (transfers : Table TransferRow.id)
    (transactions : Table LedgerTransactionRow.id) (entries : Table LedgerEntryRow.id) : Prop where
  kept : ∀ a ∈ accounts.rows, InStep entries.rows a
  nonneg : ∀ a ∈ accounts.rows, a.accountType ≠ .systemIssuance → 0 ≤ a.balanceMinor
  total : accounts.sum AccountRow.balanceMinor = 0
  moves : ∀ t ∈ transfers.rows, 0 < t.amountMinor ∧ t.senderAccountId ≠ t.receiverAccountId
  references : (transfers.rows.map TransferRow.reference).Nodup
  posted : ∀ l ∈ transactions.rows, ∃ t debit credit, transfers.find? l.transferId = some t ∧
    entriesOf LedgerEntryRow.ledgerTransactionId entries.rows l.id = [debit, credit] ∧
    EntryPair t debit credit
  covered : ∀ t ∈ transfers.rows, ∃ l ∈ transactions.rows, l.transferId = t.id
  entry_account : ∀ e ∈ entries.rows, (accounts.find? e.accountId).isSome = true
  entry_transaction : ∀ e ∈ entries.rows,
    (transactions.find? e.ledgerTransactionId).isSome = true

namespace Books

theorem migrated_books (now : Time) :
    Books (migrated now).accounts (migrated now).transfers (migrated now).ledgerTransactions
      (migrated now).ledgerEntries := by
  have hsystem : ∀ a ∈ (migrated now).accounts.rows, a.balanceMinor = 0 ∧ a.version = 0 := by
    intro a ha
    simp only [migrated, List.mem_cons, List.not_mem_nil, or_false] at ha
    rcases ha with rfl | rfl | rfl <;> exact ⟨rfl, rfl⟩
  have hempty : ∀ {α : Type} {P : α → Prop}, ∀ x ∈ ([] : List α), P x := fun x hx => by cases hx
  refine ⟨?_, ?_, ?_, hempty, List.nodup_nil, hempty, hempty, hempty, hempty⟩
  · intro a ha
    obtain ⟨hb, hver⟩ := hsystem a ha
    unfold InStep
    rw [hb, hver]
    exact Kept.init hempty
  · intro a ha _
    exact Int.le_of_eq (hsystem a ha).1.symm
  · simp [migrated, Table.sum, systemAccount]

variable {accounts : Table AccountRow.id} {transfers : Table TransferRow.id}
  {transactions : Table LedgerTransactionRow.id} {entries : Table LedgerEntryRow.id}

/-- An empty account joins. -/
theorem push_account (h : Books accounts transfers transactions entries) {a : AccountRow}
    (hf : accounts.find? a.id = none) (hb : a.balanceMinor = 0) (hv : a.version = 0) :
    Books (accounts.push a) transfers transactions entries := by
  refine ⟨?_, ?_, ?_, h.moves, h.references, h.posted, h.covered, ?_, h.entry_transaction⟩
  · intro x hx
    rcases (Table.mem_push hf).1 hx with hx | rfl
    · exact h.kept x hx
    · unfold InStep
      rw [hb, hv]
      refine Kept.init ?_
      intro e he hid
      have := h.entry_account e he
      rw [hid, hf] at this
      cases this
  · intro x hx ht
    rcases (Table.mem_push hf).1 hx with hx | rfl
    · exact h.nonneg x hx ht
    · exact Int.le_of_eq hb.symm
  · rw [Table.sum_push hf, h.total, hb]
    rfl
  · intro e he
    obtain ⟨x, hx⟩ := Option.isSome_iff_exists.1 (h.entry_account e he)
    rw [Table.find?_push_of_some hx]
    rfl

/-- An account's status is no concern of the ledger. -/
theorem restate (h : Books accounts transfers transactions entries) (id : Ulid)
    (status : AccountStatus) (stamp : Time) :
    Books (accounts.modifyAt id (AccountRow.restated status stamp)
      (AccountRow.id_restated status stamp)) transfers transactions entries := by
  have hrow : ∀ x ∈ (accounts.modifyAt id (AccountRow.restated status stamp)
      (AccountRow.id_restated status stamp)).rows, ∃ a ∈ accounts.rows, x.id = a.id ∧
      x.balanceMinor = a.balanceMinor ∧ x.version = a.version ∧ x.accountType = a.accountType := by
    intro x hx
    obtain ⟨a, ha, rfl⟩ := Table.mem_modifyAt.1 hx
    refine ⟨a, ha, ?_⟩
    split <;> exact ⟨rfl, rfl, rfl, rfl⟩
  refine ⟨?_, ?_, ?_, h.moves, h.references, h.posted, h.covered, ?_, h.entry_transaction⟩
  · intro x hx
    obtain ⟨a, ha, hid, hb, hv, -⟩ := hrow x hx
    unfold InStep
    rw [hid, hb, hv]
    exact h.kept a ha
  · intro x hx ht
    obtain ⟨a, ha, -, hb, -, hty⟩ := hrow x hx
    rw [hb]
    exact h.nonneg a ha (hty ▸ ht)
  · rw [← h.total]
    exact Table.sum_update_of_eq fun _ _ _ => rfl
  · intro e he
    exact Table.isSome_modifyAt (h.entry_account e he)

/-- Nor is a transfer's. -/
theorem latch (h : Books accounts transfers transactions entries) (id : Ulid)
    (toStatus : TransferStatus) (now : Time) :
    Books accounts (transfers.modifyAt id (TransferRow.latched toStatus now)
      (TransferRow.id_latched toStatus now)) transactions entries := by
  have hrow : ∀ x ∈ (transfers.modifyAt id (TransferRow.latched toStatus now)
      (TransferRow.id_latched toStatus now)).rows, ∃ t ∈ transfers.rows, x.id = t.id ∧
      x.amountMinor = t.amountMinor ∧ x.senderAccountId = t.senderAccountId ∧
      x.receiverAccountId = t.receiverAccountId := by
    intro x hx
    obtain ⟨t, ht, rfl⟩ := Table.mem_modifyAt.1 hx
    refine ⟨t, ht, ?_⟩
    split <;> exact ⟨rfl, rfl, rfl, rfl⟩
  refine ⟨h.kept, h.nonneg, h.total, ?_, ?_, ?_, ?_, h.entry_account, h.entry_transaction⟩
  · intro x hx
    obtain ⟨t, ht, -, ha, hs, hr⟩ := hrow x hx
    rw [ha, hs, hr]
    exact h.moves t ht
  · have : (transfers.modifyAt id (TransferRow.latched toStatus now)
        (TransferRow.id_latched toStatus now)).rows.map TransferRow.reference =
        transfers.rows.map TransferRow.reference := by
      rw [Table.modifyAt, Table.rows_update, List.map_map]
      apply List.map_congr_left
      intro t _
      by_cases hk : t.id = id <;> simp [hk, TransferRow.latched]
    rw [this]
    exact h.references
  · intro l hl
    obtain ⟨t, d, e, ht, hde, hp⟩ := h.posted l hl
    rw [Table.find?_modifyAt]
    by_cases heq : l.transferId = id
    · refine ⟨t.latched toStatus now, d, e, ?_, hde, hp.1, hp.2, hp.3, hp.4⟩
      rw [if_pos heq, ← heq, ht]
      rfl
    · refine ⟨t, d, e, ?_, hde, hp⟩
      rw [if_neg heq]
      exact ht
  · intro x hx
    obtain ⟨t, ht, hid', -⟩ := hrow x hx
    rw [hid']
    exact h.covered t ht

/-- A movement keeps the books. -/
theorem post {c : Ctx} {db : Database} {p : Posting}
    (h : Books db.accounts db.transfers db.ledgerTransactions db.ledgerEntries) (hv : p.Valid c db) :
    Books (p.apply db).accounts (p.apply db).transfers (p.apply db).ledgerTransactions
      (p.apply db).ledgerEntries := by
  have hrows : (p.apply db).ledgerEntries.rows =
      db.ledgerEntries.rows ++ [p.debitEntry] ++ [p.creditEntry] := by
    show ((db.ledgerEntries.push p.debitEntry).push p.creditEntry).rows = _
    rw [Table.rows_push hv.credit_fresh, Table.rows_push hv.debit_fresh]
  -- the new ledger transaction has no entries but these two
  have hold : ∀ e ∈ db.ledgerEntries.rows, e.ledgerTransactionId ≠ p.ledgerTransactionId := by
    intro e he hid
    have := h.entry_transaction e he
    rw [hid, hv.ledger_fresh] at this
    cases this
  have htransfer : ∀ x ∈ (p.apply db).transfers.rows, x ∈ db.transfers.rows ∨ x = p.row :=
    fun x hx => (Table.mem_push hv.transfer_fresh).1 hx
  have htransaction : ∀ x ∈ (p.apply db).ledgerTransactions.rows,
      x ∈ db.ledgerTransactions.rows ∨ x = p.ledgerTransaction :=
    fun x hx => (Table.mem_push hv.ledger_fresh).1 hx
  refine ⟨?_, ?_, ?_, ?_, ?_, ?_, ?_, ?_, ?_⟩
  · intro a ha
    unfold InStep
    rw [hrows]
    rcases hv.mem_accountsAfter ha with rfl | rfl | ⟨ha, hs, hr⟩
    · have hk := h.kept _ (Table.mem_of_find? hv.sender_found)
      refine (hk.post (e := p.debitEntry) hv.sender_id.symm ?_).frame ?_
      · show p.sender.balanceMinor - p.cmd.amount.minor = p.sender.balanceMinor + -_
        omega
      · simpa [Posting.creditEntry, hv.sender_id] using hv.parties_ne.symm
    · have hk := h.kept _ (Table.mem_of_find? hv.receiver_found)
      refine (hk.frame ?_).post (e := p.creditEntry) hv.receiver_id.symm rfl
      simpa [Posting.debitEntry, hv.receiver_id] using hv.parties_ne
    · refine ((h.kept a ha).frame ?_).frame ?_
      · simpa [Posting.debitEntry] using hs.symm
      · simpa [Posting.creditEntry] using hr.symm
  · intro a ha ht
    rcases hv.mem_accountsAfter ha with rfl | rfl | ⟨ha, -, -⟩
    · show 0 ≤ p.sender.balanceMinor + -p.cmd.amount.minor
      rcases hv.affordable with hi | hle
      · exact absurd hi ht
      · omega
    · have hpos := h.nonneg _ (Table.mem_of_find? hv.receiver_found) ht
      have hamount := hv.amount_pos
      show 0 ≤ p.receiver.balanceMinor + p.cmd.amount.minor
      omega
    · exact h.nonneg a ha ht
  · show (p.accountsAfter db.accounts).sum _ = 0
    rw [hv.sum_accountsAfter, h.total]
    simp only [AccountRow.moved]
    omega
  · intro t ht
    rcases htransfer t ht with ht | rfl
    · exact h.moves t ht
    · exact ⟨hv.amount_pos, hv.parties_ne⟩
  · show ((db.transfers.push p.row).rows.map TransferRow.reference).Nodup
    rw [Table.rows_push hv.transfer_fresh, List.map_append, List.nodup_append]
    refine ⟨h.references, List.nodup_singleton _, ?_⟩
    intro r hr r' hr' heq
    obtain ⟨t, ht, rfl⟩ := List.mem_map.1 hr
    rw [List.map_singleton, List.mem_singleton] at hr'
    exact hv.reference_fresh t ht (heq.trans hr')
  · intro l hl
    rw [hrows, List.append_assoc]
    rcases htransaction l hl with hl | rfl
    · obtain ⟨t, d, e, ht, hde, hp⟩ := h.posted l hl
      refine ⟨t, d, e, Table.find?_push_of_some ht, ?_, hp⟩
      rw [entriesOf_append_of_ne, hde]
      have hne : p.ledgerTransactionId ≠ l.id := by
        intro heq
        have := Table.find?_of_mem hl
        rw [← heq, hv.ledger_fresh] at this
        cases this
      simpa [Posting.debitEntry, Posting.creditEntry] using hne
    · refine ⟨p.row, p.debitEntry, p.creditEntry, Table.find?_push_self hv.transfer_fresh, ?_,
        rfl, rfl, rfl, rfl⟩
      show entriesOf _ _ p.ledgerTransactionId = _
      rw [entriesOf_append, entriesOf_eq_nil hold]
      refine entriesOf_of_forall ?_
      simp [Posting.debitEntry, Posting.creditEntry]
  · intro t ht
    rcases htransfer t ht with ht | rfl
    · obtain ⟨l, hl, hid⟩ := h.covered t ht
      exact ⟨l, Table.mem_push_of_mem hl, hid⟩
    · exact ⟨p.ledgerTransaction, (Table.mem_push hv.ledger_fresh).2 (.inr rfl), rfl⟩
  · intro e he
    rw [hrows, List.mem_append, List.mem_append, List.mem_singleton, List.mem_singleton] at he
    apply hv.isSome_accountsAfter
    rcases he with (he | rfl) | rfl
    · exact h.entry_account e he
    · show (db.accounts.find? p.cmd.senderAccountId).isSome = true
      rw [hv.sender_found]
      rfl
    · show (db.accounts.find? p.cmd.receiverAccountId).isSome = true
      rw [hv.receiver_found]
      rfl
  · intro e he
    rw [hrows, List.mem_append, List.mem_append, List.mem_singleton, List.mem_singleton] at he
    show ((db.ledgerTransactions.push p.ledgerTransaction).find? _).isSome = true
    have hself := Table.find?_push_self (r := p.ledgerTransaction) hv.ledger_fresh
    rcases he with (he | rfl) | rfl
    · obtain ⟨x, hx⟩ := Option.isSome_iff_exists.1 (h.entry_transaction e he)
      rw [Table.find?_push_of_some hx]
      rfl
    · exact Option.isSome_iff_exists.2 ⟨_, hself⟩
    · exact Option.isSome_iff_exists.2 ⟨_, hself⟩

/-- No step breaks the books, whatever the licence. -/
theorem step {c : Ctx} {L : Licence} {k k' : Config} (hs : Step c L k k')
    (h : Books k.db.accounts k.db.transfers k.db.ledgerTransactions k.db.ledgerEntries) :
    Books k'.db.accounts k'.db.transfers k'.db.ledgerTransactions k'.db.ledgerEntries := by
  cases hs
  case post hv _ => exact h.post hv
  case repay hv _ => exact h.post hv
  case latch => exact h.latch _ _ _
  case openAccount hf _ _ hb hv _ _ _ => exact h.push_account hf hb hv
  case openPool hf _ _ hb hv _ _ _ _ => exact h.push_account hf hb hv
  case closeAccount => exact h.restate _ _ _
  all_goals exact h

end Books

end MoneyMovement

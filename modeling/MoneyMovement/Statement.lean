/-
  MoneyMovement/Statement.lean
  ============================
  **The account statement** — `SqlStatementRepository.list_entries`.

  Entries are posted under the account's lock, and the books keep their running
  balance in that order.  The statement lists them by identifier.  The two orders
  are one as long as identifiers drawn in the same millisecond ascend; `new_ulid`
  draws the bits below the millisecond at random.
-/
import MoneyMovement.Identifiers
import MoneyMovement.Invariants

namespace MoneyMovement

open Txn DoubleEntry

/-! ### The listing -/

inductive Direction where
  | debit | credit
deriving DecidableEq, Repr

/-- A line of the statement. -/
structure StatementEntry where
  entryId : Ulid
  reference : Reference
  direction : Direction
  amountMinor : Nat
  signedAmountMinor : Int
  balanceAfterMinor : Int
  currency : Currency
  kind : TransferKind
  note : Option String
  counterpartyName : String
  createdAt : Time

namespace SqlStatementRepository

/-- The `LEFT JOIN`s from an account to its user's name. -/
def nameOf (db : Database) (accountId : Ulid) : Option String := do
  let account ← db.accounts.find? accountId
  let userId ← account.userId
  let user ← db.users.find? userId
  return user.displayName

/-- `a or b or "System"`: an empty name counts as none. -/
def orSystem (names : List (Option String)) : String :=
  ((names.filterMap fun name => name).find? fun name => !name.isEmpty).getD "System"

/-- The row of the two inner joins, as the loop renders it. -/
def entryOf (db : Database) (e : LedgerEntryRow) : Option StatementEntry := do
  let transaction ← db.ledgerTransactions.find? e.ledgerTransactionId
  let t ← db.transfers.find? transaction.transferId
  let outgoing := decide (e.amountMinor < 0)
  let parent := t.parentTransferId.bind fun id => db.transfers.find? id
  let names :=
    if outgoing then
      [t.intendedReceiverAccountId.bind (nameOf db), nameOf db t.receiverAccountId]
    else
      [parent.bind fun p => nameOf db p.senderAccountId, nameOf db t.senderAccountId]
  return {
    entryId := e.id, reference := t.reference
    direction := if outgoing then .debit else .credit
    amountMinor := e.amountMinor.natAbs, signedAmountMinor := e.amountMinor
    balanceAfterMinor := e.balanceAfterMinor, currency := e.currency, kind := t.kind
    note := t.note, counterpartyName := orSystem names, createdAt := e.createdAt }

/-- `list_entries`: newest identifier first, after the cursor, at most `limit`. -/
def listEntries (db : Database) (accountId : Ulid) (limit : Nat) (cursor : Option Ulid) :
    List StatementEntry :=
  ((((db.ledgerEntries.rows.filter fun e => decide (e.accountId = accountId)).filter fun e =>
      match cursor with
      | none => true
      | some c => decide (e.id.rank < c.rank)).insertionSort fun a b =>
        b.id.rank ≤ a.id.rank).filterMap (entryOf db)).take limit

end SqlStatementRepository

open SqlStatementRepository

/-- Each line shows the balance of the next older one plus its own amount, and the newest
    line of the first page the balance of the account. -/
structure StatementRuns (db : Database) (a : AccountRow) : Prop where
  lines : ∀ limit cursor, (listEntries db a.id limit cursor).IsChain fun newer older =>
    newer.balanceAfterMinor = older.balanceAfterMinor + newer.signedAmountMinor
  newest : ∀ limit line, (listEntries db a.id limit none).head? = some line →
    line.balanceAfterMinor = a.balanceMinor

/-! ### Posting order and identifier order -/

/-- The millisecond stamps of the account's entries do not fall in posting order. -/
def StampsAscend (db : Database) (accountId : Ulid) : Prop :=
  (entriesOf LedgerEntryRow.accountId db.ledgerEntries.rows accountId).Pairwise fun e e' =>
    e.id.ms ≤ e'.id.ms

/-- Among entries of the account stamped with one millisecond, the later drew the larger
    random bits. -/
def TiesAscend (db : Database) (accountId : Ulid) : Prop :=
  (entriesOf LedgerEntryRow.accountId db.ledgerEntries.rows accountId).Pairwise fun e e' =>
    e.id.ms = e'.id.ms → e.id.rand < e'.id.rand

instance (db : Database) (accountId : Ulid) : Decidable (StampsAscend db accountId) :=
  inferInstanceAs (Decidable (List.Pairwise _ _))

instance (db : Database) (accountId : Ulid) : Decidable (TiesAscend db accountId) :=
  inferInstanceAs (Decidable (List.Pairwise _ _))

theorem ranks_ascend {db : Database} {accountId : Ulid} (hstamps : StampsAscend db accountId)
    (hties : TiesAscend db accountId) :
    (entriesOf LedgerEntryRow.accountId db.ledgerEntries.rows accountId).Pairwise fun e e' =>
      e.id.rank < e'.id.rank := by
  refine (List.pairwise_and_iff.2 ⟨hstamps, hties⟩).imp ?_
  rintro e e' ⟨hms, htie⟩
  rcases lt_or_eq_of_le hms with hlt | heq
  · exact Ulid.rank_lt_of_ms hlt
  · exact Ulid.rank_lt_of_rand heq (htie heq)

section Sorted

variable {ε : Type} {rank : ε → Nat} {l : List ε}

/-- Sorting an ascending list downwards turns it over. -/
theorem insertionSort_of_ascending (h : l.Pairwise fun e e' => rank e < rank e') :
    (l.insertionSort fun a b => rank b ≤ rank a) = l.reverse := by
  have htotal : Std.Total fun a b : ε => rank b ≤ rank a := ⟨fun _ _ => le_total _ _⟩
  have htrans : IsTrans ε fun a b => rank b ≤ rank a := ⟨fun _ _ _ h h' => le_trans h' h⟩
  have hperm := (List.perm_insertionSort (fun a b => rank b ≤ rank a) l).trans (List.reverse_perm l).symm
  have hsorted := List.pairwise_insertionSort (fun a b => rank b ≤ rank a) l
  have hreverse : l.reverse.Pairwise fun a b => rank b ≤ rank a :=
    List.pairwise_reverse.2 (h.imp Nat.le_of_lt)
  have hnodup : (l.map rank).Nodup := (List.pairwise_map.2 h).imp Nat.ne_of_lt
  refine hperm.eq_of_pairwise ?_ hsorted hreverse
  intro a b ha hb hba hab
  have hal := (List.perm_insertionSort _ l).mem_iff.1 ha
  exact List.inj_on_of_nodup_map hnodup hal (List.mem_reverse.1 hb) (le_antisymm hab hba)

/-- The part of an ascending list below a bound is an initial one. -/
theorem filter_lt_initial (h : l.Pairwise fun e e' => rank e < rank e') (n : Nat) :
    (l.filter fun e => decide (rank e < n)) <+: l := by
  induction l with
  | nil => exact List.prefix_refl _
  | cons e l ih =>
    obtain ⟨hlt, htail⟩ := List.pairwise_cons.1 h
    by_cases he : rank e < n
    · rw [List.filter_cons, if_pos (decide_eq_true he)]
      exact (List.prefix_cons_inj e).2 (ih htail)
    · have hnil : (e :: l).filter (fun e => decide (rank e < n)) = [] := by
        rw [List.filter_eq_nil_iff]
        intro x hx
        rw [decide_eq_true_eq]
        rcases List.mem_cons.1 hx with rfl | hx
        · exact he
        · have := hlt x hx
          omega
      rw [hnil]
      exact List.nil_prefix

end Sorted

/-! ### The statement -/

section Listing

variable {db : Database} {a : AccountRow}

/-- With their foreign keys in place, the joins lose no entry. -/
theorem entryOf_isSome (h : Books db.accounts db.transfers db.ledgerTransactions db.ledgerEntries)
    {e : LedgerEntryRow} (he : e ∈ db.ledgerEntries.rows) :
    ∃ line, entryOf db e = some line ∧ line.signedAmountMinor = e.amountMinor ∧
      line.balanceAfterMinor = e.balanceAfterMinor := by
  obtain ⟨l, hl⟩ := Option.isSome_iff_exists.1 (h.entry_transaction e he)
  obtain ⟨t, -, -, ht, -⟩ := h.posted l (Table.mem_of_find? hl)
  unfold entryOf
  rw [hl]
  simp only [Option.bind_eq_bind, Option.bind_some]
  rw [ht]
  exact ⟨_, rfl, rfl, rfl⟩

/-- The lines run down when the entries do. -/
theorem isChain_lines {l : List LedgerEntryRow}
    (hall : ∀ e ∈ l, ∃ line, entryOf db e = some line ∧ line.signedAmountMinor = e.amountMinor ∧
      line.balanceAfterMinor = e.balanceAfterMinor)
    (h : l.IsChain fun newer older =>
      newer.balanceAfterMinor = older.balanceAfterMinor + newer.amountMinor) :
    (l.filterMap (entryOf db)).IsChain fun newer older =>
      newer.balanceAfterMinor = older.balanceAfterMinor + newer.signedAmountMinor := by
  induction l with
  | nil => exact .nil
  | cons e l ih =>
    obtain ⟨line, hline, hamount, hbalance⟩ := hall e List.mem_cons_self
    have hrest := fun x hx => hall x (List.mem_cons_of_mem e hx)
    rw [List.filterMap_cons_some hline]
    cases l with
    | nil => exact .singleton _
    | cons e' l =>
      obtain ⟨line', hline', -, hbalance'⟩ := hall e' (by simp)
      obtain ⟨hstep, htail⟩ := List.isChain_cons_cons.1 h
      have htail := ih hrest htail
      rw [List.filterMap_cons_some hline'] at htail ⊢
      refine List.isChain_cons_cons.2 ⟨?_, htail⟩
      rw [hbalance, hbalance', hamount, hstep]

/-- The account's entries in posting order. -/
def AccountRow.entries (db : Database) (a : AccountRow) : List LedgerEntryRow :=
  entriesOf LedgerEntryRow.accountId db.ledgerEntries.rows a.id

/-- When the identifiers ascend in posting order, the statement is the account's log read
    backwards. -/
theorem listEntries_eq (h : (a.entries db).Pairwise fun e e' => e.id.rank < e'.id.rank) (limit : Nat)
    (cursor : Option Ulid) : ∃ older, older <+: a.entries db ∧ (cursor = none → older = a.entries db) ∧
      listEntries db a.id limit cursor = (older.reverse.filterMap (entryOf db)).take limit := by
  cases cursor with
  | none =>
    refine ⟨_, List.prefix_refl _, fun _ => rfl, ?_⟩
    unfold listEntries
    rw [List.filter_true]
    exact congrArg (fun l => (l.filterMap (entryOf db)).take limit) (insertionSort_of_ascending h)
  | some c =>
    have hinitial := filter_lt_initial h c.rank
    refine ⟨_, hinitial, nofun, ?_⟩
    unfold listEntries
    exact congrArg (fun l => (l.filterMap (entryOf db)).take limit)
      (insertionSort_of_ascending (h.sublist hinitial.sublist))

theorem statementRuns_of_ascending
    (hbooks : Books db.accounts db.transfers db.ledgerTransactions db.ledgerEntries)
    (ha : a ∈ db.accounts.rows) (h : (a.entries db).Pairwise fun e e' => e.id.rank < e'.id.rank) :
    StatementRuns db a := by
  have hkept := hbooks.kept a ha
  have hall : ∀ e ∈ a.entries db, ∃ line, entryOf db e = some line ∧
      line.signedAmountMinor = e.amountMinor ∧ line.balanceAfterMinor = e.balanceAfterMinor :=
    fun e he => entryOf_isSome hbooks (mem_entriesOf.1 he).1
  constructor
  · intro limit cursor
    obtain ⟨older, hinitial, -, hlist⟩ := listEntries_eq h limit cursor
    have hchain := hkept.running.isChain.infix hinitial.isInfix
    rw [hlist]
    refine (isChain_lines ?_ (List.isChain_reverse.2 hchain)).take limit
    intro e he
    exact hall e (hinitial.subset (List.mem_reverse.1 he))
  · intro limit line hline
    obtain ⟨older, -, hfirst, hlist⟩ := listEntries_eq h limit none
    rw [hlist, hfirst rfl] at hline
    rcases List.eq_nil_or_concat (a.entries db) with hnil | ⟨l, e, he⟩
    · rw [hnil] at hline
      simp at hline
    · rw [List.concat_eq_append] at he
      obtain ⟨line', hline', -, hbalance⟩ := hall e (by rw [he]; simp)
      have hline'' : line' = line := by
        rw [he, List.reverse_append, List.reverse_singleton, List.singleton_append,
          List.filterMap_cons_some hline'] at hline
        cases limit with
        | zero => simp at hline
        | succ n => simpa using hline
      have hlast : e.balanceAfterMinor = net LedgerEntryRow.amountMinor (l ++ [e]) :=
        Running.last (by rw [← he]; exact hkept.running)
      rw [← hline'', hbalance, hlast, ← he]
      exact hkept.balance_eq.symm

end Listing

/-- In every reachable state, the statement of an account whose entries were stamped in posting
    order shows a running balance, as long as entries of one millisecond drew ascending random
    bits. -/
theorem statement_runs (d : Deployment) (now : Time) (calls : List Call) :
    let db := serveAll d calls (migrated now)
    ∀ a ∈ db.accounts.rows, StampsAscend db a.id → TiesAscend db a.id → StatementRuns db a := by
  intro db a ha hstamps hties
  have hinv : db.Inv d := serveAll_inv d now calls
  exact statementRuns_of_ascending hinv.books ha (ranks_ascend hstamps hties)

namespace Sample

/-- The world of another call in the millisecond of call number `n`, with smaller random bits. -/
def rewound (n : Nat) : Oracle :=
  { oracle n (start + Time.seconds n) with ulid := fun i => ⟨Fin.ofNat _ n, Fin.ofNat _ i⟩ }

def sendRequest (key : String) (amount : Nat) : Request :=
  .createTransfer (id 2 1) "1234" "01711111111" (.fromMinor amount) none key none

/-- Two sends of the second user, in different milliseconds. -/
def apart : List Call :=
  [register 1 "01711111111", register 2 "01722222222", call 5 (sendRequest "a" 5000), call 6 (sendRequest "b" 3000)]

/-- Two sends of the second user in one millisecond: the later draws the smaller bits. -/
def together : List Call :=
  [register 1 "01711111111", register 2 "01722222222", call 5 (sendRequest "a" 5000),
    ⟨{ rewound 5 with referenceSuffix := fun i => Fin.ofNat _ (6000 + i) }, sendRequest "b" 3000⟩]

/-- The account is there, with three entries, and the check holds of it. -/
def entered (check : Database → AccountRow → Bool) (db : Database) : Bool :=
  match db.accounts.find? (id 2 4) with
  | some a => (a.entries db).length == 3 && check db a
  | none => false

theorem of_entered {check : Database → AccountRow → Bool} {db : Database}
    (h : entered check db = true) :
    ∃ a ∈ db.accounts.rows, (a.entries db).length = 3 ∧ check db a = true := by
  unfold entered at h
  split at h
  · rename_i a ha
    obtain ⟨hlen, hcheck⟩ := Bool.and_eq_true_iff.1 h
    exact ⟨a, Table.mem_of_find? ha, beq_iff_eq.1 hlen, hcheck⟩
  · cases h

theorem apart_entered : entered
    (fun db a => decide (StampsAscend db a.id) && decide (TiesAscend db a.id))
    (serveAll deployment apart (migrated start)) = true := by
  decide +kernel

/-- The newest line does not show the balance. -/
theorem together_entered : entered
    (fun db a => decide (StampsAscend db a.id) &&
      match (listEntries db a.id 50 none).head? with
      | some line => line.balanceAfterMinor != a.balanceMinor
      | none => false)
    (serveAll deployment together (migrated start)) = true := by
  decide +kernel

end Sample

theorem statement_runs_apart :
    let db := serveAll Sample.deployment Sample.apart (migrated Sample.start)
    ∃ a ∈ db.accounts.rows, (a.entries db).length = 3 ∧ StatementRuns db a := by
  have hruns := statement_runs Sample.deployment Sample.start Sample.apart
  have hentered := Sample.apart_entered
  generalize serveAll Sample.deployment Sample.apart (migrated Sample.start) = db at *
  obtain ⟨a, ha, hlen, hcheck⟩ := Sample.of_entered hentered
  obtain ⟨hstamps, hties⟩ := Bool.and_eq_true_iff.1 hcheck
  exact ⟨a, ha, hlen, hruns a ha (of_decide_eq_true hstamps) (of_decide_eq_true hties)⟩

/-- Two sends in one millisecond change places in the statement. -/
theorem statement_breaks_together :
    let db := serveAll Sample.deployment Sample.together (migrated Sample.start)
    ∃ a ∈ db.accounts.rows, StampsAscend db a.id ∧ ¬StatementRuns db a := by
  have hentered := Sample.together_entered
  generalize serveAll Sample.deployment Sample.together (migrated Sample.start) = db at *
  obtain ⟨a, ha, -, hcheck⟩ := Sample.of_entered hentered
  obtain ⟨hstamps, hline⟩ := Bool.and_eq_true_iff.1 hcheck
  refine ⟨a, ha, of_decide_eq_true hstamps, ?_⟩
  intro hruns
  split at hline
  · rename_i line hhead
    exact bne_iff_ne.1 hline (hruns.newest 50 line hhead)
  · cases hline

end MoneyMovement

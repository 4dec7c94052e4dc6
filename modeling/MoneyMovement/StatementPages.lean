/-
  MoneyMovement/StatementPages.lean
  =================================
  **Scrolling through a statement** — `list_transactions`.

  The route asks for one row more than the page holds, cuts it off and hands out
  the last entry of the page as the next cursor when there was one.  Entries may
  be posted between two pages, under any identifier, and the page size may
  change from page to page.
-/
import MoneyMovement.Keyset
import MoneyMovement.Statement

namespace MoneyMovement

open Txn DoubleEntry SqlStatementRepository

/-! ### The route -/

structure StatementPage where
  entries : List StatementEntry
  nextCursor : Option Ulid
  hasMore : Bool

/-- The page of an account, as the query of the route builds it. -/
def statementPage (db : Database) (accountId : Ulid) (limit : Nat) (cursor : Option Ulid) :
    StatementPage :=
  let rows := listEntries db accountId (limit + 1) cursor
  let hasMore := decide (limit < rows.length)
  let page := rows.take limit
  { entries := page
    nextCursor := if hasMore then page.getLast?.map StatementEntry.entryId else none
    hasMore }

/-- `list_transactions`. -/
def listTransactions (db : Database) (userId : Ulid) (limit : Nat) (cursor : Option Ulid) :
    Except AppError StatementPage :=
  match SqlAccountRepository.ofUser db userId with
  | none => .error ⟨.notFound, "Account not found.", []⟩
  | some account => .ok (statementPage db account.id limit cursor)

/-- A request for a page: the state it finds, and a page size the route admits. -/
structure PageRequest where
  db : Database
  limit : Nat
  limit_pos : 1 ≤ limit
  limit_le : limit ≤ 100

/-- A page together with the request and the cursor it answers. -/
structure StatementTurn where
  request : PageRequest
  cursor : Option Ulid
  page : StatementPage

/-- Follow `nextCursor` through the given requests, until it is null. -/
def scroll (userId : Ulid) : Option Ulid → List PageRequest → List StatementTurn
  | _, [] => []
  | cursor, r :: rest =>
    match listTransactions r.db userId r.limit cursor with
    | .error _ => []
    | .ok page => ⟨r, cursor, page⟩ ::
      match page.nextCursor with
      | none => []
      | some c => scroll userId (some c) rest

/-- The lines of all pages, in the order they are shown. -/
def linesOf (turns : List StatementTurn) : List StatementEntry :=
  turns.flatMap fun turn => turn.page.entries

/-- The last page handed out no cursor. -/
def ScrollEnded (turns : List StatementTurn) : Prop :=
  ∃ turn ∈ turns.getLast?, turn.page.nextCursor = none

/-! ### The states a scroll sees -/

/-- The foreign keys of the ledger, from an entry to its transfer. -/
def EntriesJoined (db : Database) : Prop :=
  ∀ e ∈ db.ledgerEntries.rows, ∃ l t, db.ledgerTransactions.find? e.ledgerTransactionId = some l ∧
    db.transfers.find? l.transferId = some t

/-- The ledger is only appended to. -/
def PageRequest.Appended (r r' : PageRequest) : Prop :=
  ∀ e ∈ r.db.ledgerEntries.rows, e ∈ r'.db.ledgerEntries.rows

/-- Listed after the cursor. -/
def After (cursor : Option Ulid) (e : LedgerEntryRow) : Prop := ∀ c ∈ cursor, e.id.rank < c.rank

section Page

variable {db : Database} {accountId : Ulid} {cursor : Option Ulid}

/-- The account's entries below the cursor, newest first. -/
def older (db : Database) (accountId : Ulid) (cursor : Option Ulid) : List LedgerEntryRow :=
  ((entriesOf LedgerEntryRow.accountId db.ledgerEntries.rows accountId).filter fun e =>
      match cursor with
      | none => true
      | some c => decide (e.id.rank < c.rank)).insertionSort fun a b => b.id.rank ≤ a.id.rank

theorem mem_older {e : LedgerEntryRow} :
    e ∈ older db accountId cursor ↔
      (e ∈ db.ledgerEntries.rows ∧ e.accountId = accountId) ∧ After cursor e := by
  unfold older
  rw [(List.perm_insertionSort _ _).mem_iff, List.mem_filter, mem_entriesOf]
  refine and_congr_right fun _ => ?_
  cases cursor with
  | none => simp [After]
  | some c => simp [After]

/-- No two of them have the same place. -/
theorem older_descending :
    ((older db accountId cursor).map fun e => e.id.rank).Pairwise fun x y => y < x := by
  have htotal : Std.Total fun a b : LedgerEntryRow => b.id.rank ≤ a.id.rank :=
    ⟨fun _ _ => le_total _ _⟩
  have htrans : IsTrans LedgerEntryRow fun a b => b.id.rank ≤ a.id.rank :=
    ⟨fun _ _ _ h h' => le_trans h' h⟩
  have hsorted : (older db accountId cursor).Pairwise fun a b => b.id.rank ≤ a.id.rank :=
    List.pairwise_insertionSort _ _
  have hnodup : (older db accountId cursor).Nodup := by
    refine (List.perm_insertionSort _ _).nodup_iff.2 ?_
    exact ((List.Nodup.of_map _ db.ledgerEntries.nodup).filter _).filter _
  rw [List.pairwise_map]
  refine (hsorted.and hnodup).imp_of_mem ?_
  rintro a b ha hb ⟨hle, hne⟩
  refine lt_of_le_of_ne hle fun heq => hne ?_
  exact Table.eq_of_key (mem_older.1 ha).1.1 (mem_older.1 hb).1.1 (Ulid.rank_injective heq.symm)

/-- With its foreign keys in place, an entry has a line under its own identifier. -/
theorem entryId_entryOf (h : EntriesJoined db) {e : LedgerEntryRow}
    (he : e ∈ db.ledgerEntries.rows) : (entryOf db e).map StatementEntry.entryId = some e.id := by
  obtain ⟨l, t, hl, ht⟩ := h e he
  unfold entryOf
  rw [hl]
  simp only [Option.bind_eq_bind, Option.bind_some]
  rw [ht]
  rfl

theorem ids_filterMap {l : List LedgerEntryRow}
    (h : ∀ e ∈ l, (entryOf db e).map StatementEntry.entryId = some e.id) :
    (l.filterMap (entryOf db)).map StatementEntry.entryId = l.map LedgerEntryRow.id := by
  induction l with
  | nil => rfl
  | cons e l ih =>
    obtain ⟨line, hline, hid⟩ := Option.map_eq_some_iff.1 (h e List.mem_cons_self)
    rw [List.filterMap_cons_some hline, List.map_cons, List.map_cons, hid,
      ih fun x hx => h x (List.mem_cons_of_mem e hx)]

/-- The identifiers of the listing. -/
theorem ids_listEntries (h : EntriesJoined db) (accountId : Ulid) (cursor : Option Ulid) (n : Nat) :
    (listEntries db accountId n cursor).map StatementEntry.entryId =
      ((older db accountId cursor).map LedgerEntryRow.id).take n := by
  have hlist : listEntries db accountId n cursor =
      ((older db accountId cursor).filterMap (entryOf db)).take n := rfl
  rw [hlist, List.map_take, ids_filterMap fun e he => entryId_entryOf h (mem_older.1 he).1.1]

/-- The places of the account's entries. -/
def places (db : Database) (accountId : Ulid) : Finset Nat :=
  ((entriesOf LedgerEntryRow.accountId db.ledgerEntries.rows accountId).map
    fun e => e.id.rank).toFinset

theorem mem_places {x : Nat} : x ∈ places db accountId ↔
    ∃ e ∈ db.ledgerEntries.rows, e.accountId = accountId ∧ e.id.rank = x := by
  simp [places, mem_entriesOf, and_assoc]

/-- A page, as a turn of a keyset scroll through the places of the account's entries. -/
def keysetTurn (db : Database) (accountId : Ulid) (cursor : Option Ulid) (page : StatementPage) :
    Keyset.Turn Nat where
  stored := places db accountId
  cursor := cursor.map Ulid.rank
  keys := page.entries.map fun line => line.entryId.rank
  next := page.nextCursor.map Ulid.rank

/-- The places of the account's entries below the cursor. -/
theorem mem_places_older {x : Nat} :
    x ∈ (older db accountId cursor).map (fun e => e.id.rank) ↔
      x ∈ places db accountId ∧ Keyset.Below (cursor.map Ulid.rank) x := by
  rw [List.mem_map, mem_places]
  constructor
  · rintro ⟨e, he, rfl⟩
    obtain ⟨⟨hrow, haccount⟩, hafter⟩ := mem_older.1 he
    refine ⟨⟨e, hrow, haccount, rfl⟩, ?_⟩
    intro c hc
    obtain ⟨u, hu, rfl⟩ := Option.map_eq_some_iff.1 hc
    exact hafter u hu
  · rintro ⟨⟨e, hrow, haccount, rfl⟩, hbelow⟩
    exact ⟨e, mem_older.2 ⟨⟨hrow, haccount⟩, fun c hc => hbelow _ (Option.mem_map_of_mem _ hc)⟩, rfl⟩

/-- The places a page of `n` lines shows. -/
theorem places_listEntries (h : EntriesJoined db) (accountId : Ulid) (cursor : Option Ulid)
    (n : Nat) :
    ((listEntries db accountId n cursor).map fun line => line.entryId.rank) =
      ((older db accountId cursor).map fun e => e.id.rank).take n := by
  have hids := congrArg (List.map Ulid.rank) (ids_listEntries h accountId cursor n)
  rw [List.map_take, List.map_map, List.map_map] at hids
  exact hids

theorem places_page (h : EntriesJoined db) (limit : Nat) :
    ((statementPage db accountId limit cursor).entries.map fun line => line.entryId.rank) =
      ((older db accountId cursor).map fun e => e.id.rank).take limit := by
  have hrows := congrArg (List.take limit) (places_listEntries h accountId cursor (limit + 1))
  rw [List.take_take, Nat.min_eq_left (Nat.le_succ limit), ← List.map_take] at hrows
  exact hrows

theorem hasMore_iff_lt (h : EntriesJoined db) (limit : Nat) :
    (statementPage db accountId limit cursor).hasMore = true ↔
      limit < ((older db accountId cursor).map fun e => e.id.rank).length := by
  have hlen := congrArg List.length (places_listEntries h accountId cursor (limit + 1))
  rw [List.length_map, List.length_take] at hlen
  have hmore : (statementPage db accountId limit cursor).hasMore =
      decide (limit < (listEntries db accountId (limit + 1) cursor).length) := rfl
  rw [hmore, decide_eq_true_eq, hlen]
  omega

/-- `hasMore`, exactly: an entry of the account is older than the page. -/
theorem hasMore_iff (h : EntriesJoined db) (limit : Nat) :
    (statementPage db accountId limit cursor).hasMore = true ↔
      ∃ e ∈ db.ledgerEntries.rows, e.accountId = accountId ∧ After cursor e ∧
        ∀ line ∈ (statementPage db accountId limit cursor).entries,
          e.id.rank < line.entryId.rank := by
  rw [hasMore_iff_lt h, Keyset.limit_lt_iff older_descending, ← places_page h]
  constructor
  · rintro ⟨x, hx, hlt⟩
    obtain ⟨e, he, rfl⟩ := List.mem_map.1 hx
    obtain ⟨⟨hrow, haccount⟩, hafter⟩ := mem_older.1 he
    exact ⟨e, hrow, haccount, hafter, fun line hline => hlt _ (List.mem_map_of_mem hline)⟩
  · rintro ⟨e, hrow, haccount, hafter, hlt⟩
    refine ⟨e.id.rank, List.mem_map_of_mem (mem_older.2 ⟨⟨hrow, haccount⟩, hafter⟩), ?_⟩
    intro k hk
    obtain ⟨line, hline, rfl⟩ := List.mem_map.1 hk
    exact hlt line hline

theorem keysetTurn_valid (h : EntriesJoined db) (accountId : Ulid) (cursor : Option Ulid)
    {limit : Nat} (hpos : 1 ≤ limit) :
    (keysetTurn db accountId cursor (statementPage db accountId limit cursor)).Valid := by
  refine Keyset.Turn.valid_of_take older_descending (fun x => ?_) hpos (places_page h limit) ?_
  · rw [mem_places_older]
    rfl
  · have hnext : (statementPage db accountId limit cursor).nextCursor =
        if (statementPage db accountId limit cursor).hasMore then
          (statementPage db accountId limit cursor).entries.getLast?.map StatementEntry.entryId
        else none := rfl
    have hlast : ((statementPage db accountId limit cursor).entries.getLast?.map
        StatementEntry.entryId).map Ulid.rank =
        (((older db accountId cursor).map fun e => e.id.rank).take limit).getLast? := by
      rw [← places_page h limit, List.getLast?_map, Option.map_map]
      rfl
    dsimp only [keysetTurn]
    rw [hnext]
    by_cases hmore : (statementPage db accountId limit cursor).hasMore = true
    · rw [if_pos hmore, if_pos ((hasMore_iff_lt h limit).1 hmore)]
      exact hlast
    · rw [if_neg hmore, if_neg (fun hlt => hmore ((hasMore_iff_lt h limit).2 hlt))]
      rfl

end Page

/-! ### Whole scrolls -/

section Scroll

variable {userId accountId : Ulid}

/-- The user's account is there whenever a page is asked for. -/
def HasAccount (userId accountId : Ulid) (r : PageRequest) : Prop :=
  ∃ a, SqlAccountRepository.ofUser r.db userId = some a ∧ a.id = accountId

def StatementTurn.toKeyset (accountId : Ulid) (turn : StatementTurn) : Keyset.Turn Nat :=
  keysetTurn turn.request.db accountId turn.cursor turn.page

theorem listTransactions_eq {r : PageRequest} (h : HasAccount userId accountId r)
    (cursor : Option Ulid) :
    listTransactions r.db userId r.limit cursor =
      .ok (statementPage r.db accountId r.limit cursor) := by
  obtain ⟨a, ha, rfl⟩ := h
  unfold listTransactions
  rw [ha]

/-- One page, and what the scroll does with its cursor. -/
theorem scroll_cons {r : PageRequest} (h : HasAccount userId accountId r) (cursor : Option Ulid)
    (rest : List PageRequest) :
    scroll userId cursor (r :: rest) =
      ⟨r, cursor, statementPage r.db accountId r.limit cursor⟩ ::
        match (statementPage r.db accountId r.limit cursor).nextCursor with
        | none => []
        | some c => scroll userId (some c) rest := by
  rw [scroll, listTransactions_eq h]

/-- The pages of a scroll are turns of a keyset scroll. -/
theorem scroll_follows {requests : List PageRequest} (cursor : Option Ulid)
    (hjoined : ∀ r ∈ requests, EntriesJoined r.db)
    (haccount : ∀ r ∈ requests, HasAccount userId accountId r) :
    Keyset.Follows (cursor.map Ulid.rank)
      ((scroll userId cursor requests).map (StatementTurn.toKeyset accountId)) := by
  induction requests generalizing cursor with
  | nil => exact .nil _
  | cons r rest ih =>
    have hvalid := keysetTurn_valid (hjoined r List.mem_cons_self) accountId cursor r.limit_pos
    rw [scroll_cons (haccount r List.mem_cons_self)]
    generalize statementPage r.db accountId r.limit cursor = page at hvalid ⊢
    cases hnext : page.nextCursor with
    | none => exact .last hvalid (by simp [keysetTurn, hnext])
    | some c =>
      refine .turn (c := c.rank) hvalid (by simp [keysetTurn, hnext]) ?_
      exact ih (some c) (fun x hx => hjoined x (List.mem_cons_of_mem _ hx))
        (fun x hx => haccount x (List.mem_cons_of_mem _ hx))

/-- Each turn shows the page of its own moment. -/
theorem page_of_mem_scroll {requests : List PageRequest} {cursor : Option Ulid}
    (haccount : ∀ r ∈ requests, HasAccount userId accountId r) {turn : StatementTurn}
    (h : turn ∈ scroll userId cursor requests) :
    turn.request ∈ requests ∧
      turn.page = statementPage turn.request.db accountId turn.request.limit turn.cursor := by
  induction requests generalizing cursor with
  | nil => cases h
  | cons r rest ih =>
    rw [scroll_cons (haccount r List.mem_cons_self)] at h
    rcases List.mem_cons.1 h with rfl | h
    · exact ⟨List.mem_cons_self, rfl⟩
    · split at h
      · cases h
      · obtain ⟨hmem, hpage⟩ := ih (fun x hx => haccount x (List.mem_cons_of_mem _ hx)) h
        exact ⟨List.mem_cons_of_mem _ hmem, hpage⟩

/-- The pages answer the first requests, in order. -/
theorem scroll_requests (userId : Ulid) (cursor : Option Ulid) (requests : List PageRequest) :
    (scroll userId cursor requests).map StatementTurn.request <+: requests := by
  induction requests generalizing cursor with
  | nil => exact List.prefix_refl _
  | cons r rest ih =>
    rw [scroll]
    split
    · exact List.nil_prefix
    · rename_i page _
      refine (List.prefix_cons_inj r).2 ?_
      cases page.nextCursor with
      | none => exact List.nil_prefix
      | some c => exact ih (some c)

/-- As long as a cursor is handed out, the next request is made. -/
theorem length_scroll {requests : List PageRequest} {cursor : Option Ulid}
    (haccount : ∀ r ∈ requests, HasAccount userId accountId r)
    (hopen : ¬ScrollEnded (scroll userId cursor requests)) :
    (scroll userId cursor requests).length = requests.length := by
  induction requests generalizing cursor with
  | nil => rfl
  | cons r rest ih =>
    rw [scroll_cons (haccount r List.mem_cons_self)] at hopen ⊢
    generalize statementPage r.db accountId r.limit cursor = page at hopen ⊢
    cases hnext : page.nextCursor with
    | none =>
      rw [hnext] at hopen
      exact absurd ⟨_, rfl, hnext⟩ hopen
    | some c =>
      rw [hnext] at hopen
      dsimp only at hopen ⊢
      rw [List.length_cons, List.length_cons, ih fun x hx => haccount x (List.mem_cons_of_mem _ hx)]
      rintro ⟨turn, hturn, hnone⟩
      refine hopen ⟨turn, ?_, hnone⟩
      rw [Option.mem_def] at hturn ⊢
      rw [List.getLast?_cons, hturn, Option.getD_some]

theorem ended_toKeyset {turns : List StatementTurn} :
    Keyset.Ended (turns.map (StatementTurn.toKeyset accountId)) ↔ ScrollEnded turns := by
  unfold Keyset.Ended ScrollEnded
  rw [List.getLast?_map]
  simp [StatementTurn.toKeyset, keysetTurn]

theorem keys_toKeyset (accountId : Ulid) (turns : List StatementTurn) :
    (turns.map (StatementTurn.toKeyset accountId)).flatMap Keyset.Turn.keys =
      (linesOf turns).map fun line => line.entryId.rank := by
  rw [linesOf, List.flatMap_map, List.map_flatMap]
  rfl

/-- Between two pages the places only grow. -/
theorem toKeyset_grows {requests : List PageRequest} (cursor : Option Ulid)
    (h : requests.IsChain PageRequest.Appended) :
    ((scroll userId cursor requests).map (StatementTurn.toKeyset accountId)).IsChain
      Keyset.Turn.Grows := by
  have hchain := h.infix (scroll_requests userId cursor requests).isInfix
  rw [List.isChain_map] at hchain ⊢
  refine hchain.imp ?_
  intro turn turn' happended x hx
  obtain ⟨e, he, haccount, hplace⟩ := mem_places.1 hx
  exact mem_places.2 ⟨e, happended e he, haccount, hplace⟩

/-- A scroll that has ended shows each entry of its first moment. -/
theorem mem_linesOf {requests : List PageRequest}
    (hjoined : ∀ r ∈ requests, EntriesJoined r.db)
    (haccount : ∀ r ∈ requests, HasAccount userId accountId r)
    (happended : requests.IsChain PageRequest.Appended)
    (hended : ScrollEnded (scroll userId none requests)) {r : PageRequest}
    (hr : r ∈ requests.head?) {e : LedgerEntryRow} (he : e ∈ r.db.ledgerEntries.rows)
    (hmine : e.accountId = accountId) :
    e.id.rank ∈ (linesOf (scroll userId none requests)).map fun line => line.entryId.rank := by
  rw [← keys_toKeyset accountId]
  refine (scroll_follows none hjoined haccount).complete (toKeyset_grows none happended)
    (ended_toKeyset.2 hended) ?_ nofun
  intro t ht
  rw [Option.mem_def, List.head?_map, Option.map_eq_some_iff] at ht
  obtain ⟨turn, hturn, rfl⟩ := ht
  -- the first page answers the first request
  have hfirst : turn.request = r := by
    obtain ⟨rest, hrest⟩ := scroll_requests userId none requests
    rw [← hrest, List.head?_append, List.head?_map, hturn] at hr
    cases hr
    rfl
  exact mem_places.2 ⟨e, by rw [hfirst]; exact he, hmine, rfl⟩

/-- A scroll ends once no entries are posted any more, at most one page after as many pages as
    the account has entries. -/
theorem scrollEnded_of_stopped {before after : List PageRequest}
    {stopped : Table LedgerEntryRow.id}
    (hjoined : ∀ r ∈ before ++ after, EntriesJoined r.db)
    (haccount : ∀ r ∈ before ++ after, HasAccount userId accountId r)
    (hstopped : ∀ r ∈ after, r.db.ledgerEntries = stopped)
    (hlong : (entriesOf LedgerEntryRow.accountId stopped.rows accountId).length < after.length) :
    ScrollEnded (scroll userId none (before ++ after)) := by
  by_contra hopen
  have hlen := length_scroll haccount hopen
  have hfollows := scroll_follows none hjoined haccount
  have hrequests := (scroll_requests userId none (before ++ after)).eq_of_length
    (by rw [List.length_map, hlen])
  generalize scroll userId none (before ++ after) = turns at *
  obtain ⟨c, hlater⟩ := hfollows.drop before.length
  rw [← List.map_drop] at hlater
  -- the turns of the requests after the last posting
  have hafter : (turns.drop before.length).map StatementTurn.request = after := by
    rw [List.map_drop, hrequests, List.drop_left]
  have hended := hlater.ended_of_frozen
    (S := ((entriesOf LedgerEntryRow.accountId stopped.rows accountId).map
      fun e => e.id.rank).toFinset) ?_ ?_
  · rw [ended_toKeyset] at hended
    obtain ⟨turn, hturn, hnone⟩ := hended
    refine hopen ⟨turn, ?_, hnone⟩
    rw [Option.mem_def, List.getLast?_drop] at hturn
    split at hturn
    · cases hturn
    · exact hturn
  · intro t ht x hx
    obtain ⟨turn, hturn, rfl⟩ := List.mem_map.1 ht
    have hdb := hstopped turn.request (by
      rw [← hafter]
      exact List.mem_map_of_mem hturn)
    rw [← hdb]
    exact hx
  · have hcount := congrArg List.length hafter
    rw [List.length_map] at hcount
    rw [List.length_map, hcount]
    refine lt_of_le_of_lt (List.toFinset_card_le _) ?_
    rw [List.length_map]
    exact hlong

end Scroll

/-- Following `nextCursor` from no cursor, with entries posted in between: the lines descend
    across all pages, each page knows whether something older is there, a scroll that has ended
    has shown each entry of its first moment exactly once, and it ends when the posting does. -/
theorem scroll_neither_skips_nor_repeats (userId accountId : Ulid) (requests : List PageRequest)
    (hjoined : ∀ r ∈ requests, EntriesJoined r.db)
    (haccount : ∀ r ∈ requests, HasAccount userId accountId r)
    (happended : requests.IsChain PageRequest.Appended) :
    let turns := scroll userId none requests
    ((linesOf turns).Pairwise fun newer older => older.entryId.rank < newer.entryId.rank) ∧
    (∀ turn ∈ turns, turn.page.hasMore = true ↔
      ∃ e ∈ turn.request.db.ledgerEntries.rows, e.accountId = accountId ∧ After turn.cursor e ∧
        ∀ line ∈ turn.page.entries, e.id.rank < line.entryId.rank) ∧
    (ScrollEnded turns → ∀ r ∈ requests.head?, ∀ e ∈ r.db.ledgerEntries.rows,
      e.accountId = accountId →
        ((linesOf turns).map StatementEntry.entryId).count e.id = 1) ∧
    (∀ (before after : List PageRequest) (stopped : Table LedgerEntryRow.id),
      requests = before ++ after → (∀ r ∈ after, r.db.ledgerEntries = stopped) →
      (entriesOf LedgerEntryRow.accountId stopped.rows accountId).length < after.length →
        ScrollEnded turns) := by
  intro turns
  have hfollows := scroll_follows none hjoined haccount
  have hdesc := hfollows.descending.1
  have hnodup := hfollows.nodup
  rw [keys_toKeyset] at hdesc hnodup
  refine ⟨List.pairwise_map.1 hdesc, ?_, ?_, ?_⟩
  · intro turn hturn
    obtain ⟨hmem, hpage⟩ := page_of_mem_scroll haccount hturn
    rw [hpage]
    exact hasMore_iff (hjoined _ hmem) _
  · intro hended r hr e he hmine
    have hshown := mem_linesOf hjoined haccount happended hended hr he hmine
    obtain ⟨line, hline, hplace⟩ := List.mem_map.1 hshown
    have hids : ((linesOf turns).map StatementEntry.entryId).Nodup := by
      refine List.Nodup.of_map Ulid.rank ?_
      rw [List.map_map]
      exact hnodup
    refine List.count_eq_one_of_mem hids ?_
    rw [← Ulid.rank_injective hplace]
    exact List.mem_map_of_mem hline
  · rintro before after stopped rfl hstopped hlong
    exact scrollEnded_of_stopped hjoined haccount hstopped hlong

/-- The states of a run have their foreign keys. -/
theorem entriesJoined_of_books {db : Database}
    (h : Books db.accounts db.transfers db.ledgerTransactions db.ledgerEntries) :
    EntriesJoined db := by
  intro e he
  obtain ⟨l, hl⟩ := Option.isSome_iff_exists.1 (h.entry_transaction e he)
  obtain ⟨t, -, -, ht, -⟩ := h.posted l (Table.mem_of_find? hl)
  exact ⟨l, t, hl, ht⟩

deriving instance DecidableEq for LedgerEntryRow

namespace Sample

/-- One page after the first send, three more after the second. -/
def scrolled (early late : Database) : List PageRequest :=
  [⟨early, 1, by decide, by decide⟩, ⟨late, 2, by decide, by decide⟩,
    ⟨late, 1, by decide, by decide⟩, ⟨late, 1, by decide, by decide⟩,
    ⟨late, 1, by decide, by decide⟩]

/-- The second user's account is there, the second state has the entries of the first and one
    more, three in all. -/
def scrollable (early late : Database) : Bool :=
  ((SqlAccountRepository.ofUser early (id 2 1)).map AccountRow.id == some (id 2 4)) &&
  ((SqlAccountRepository.ofUser late (id 2 1)).map AccountRow.id == some (id 2 4)) &&
  (early.ledgerEntries.rows.all fun e => decide (e ∈ late.ledgerEntries.rows)) &&
  ((entriesOf LedgerEntryRow.accountId early.ledgerEntries.rows (id 2 4)).length == 2) &&
  ((entriesOf LedgerEntryRow.accountId late.ledgerEntries.rows (id 2 4)).length == 3)

theorem apart_scrollable : scrollable (serveAll deployment (apart.take 3) (migrated start))
    (serveAll deployment apart (migrated start)) = true := by
  decide +kernel

end Sample

theorem scroll_of_sends :
    let early := serveAll Sample.deployment (Sample.apart.take 3) (migrated Sample.start)
    let late := serveAll Sample.deployment Sample.apart (migrated Sample.start)
    let turns := scroll (Sample.id 2 1) none (Sample.scrolled early late)
    ScrollEnded turns ∧ ∃ e ∈ early.ledgerEntries.rows, e.accountId = Sample.id 2 4 ∧
      ((linesOf turns).map StatementEntry.entryId).count e.id = 1 := by
  have hcheck := Sample.apart_scrollable
  have hearly := entriesJoined_of_books
    (serveAll_inv Sample.deployment Sample.start (Sample.apart.take 3)).books
  have hlate := entriesJoined_of_books
    (serveAll_inv Sample.deployment Sample.start Sample.apart).books
  generalize serveAll Sample.deployment (Sample.apart.take 3) (migrated Sample.start) = early at *
  generalize serveAll Sample.deployment Sample.apart (migrated Sample.start) = late at *
  simp only [Sample.scrollable, Bool.and_eq_true, beq_iff_eq, List.all_eq_true,
    decide_eq_true_eq] at hcheck
  obtain ⟨⟨⟨⟨hae, hal⟩, hsub⟩, hcount⟩, hcount'⟩ := hcheck
  have hjoined : ∀ r ∈ Sample.scrolled early late, EntriesJoined r.db := by
    simp [Sample.scrolled, hearly, hlate]
  have haccount : ∀ r ∈ Sample.scrolled early late,
      HasAccount (Sample.id 2 1) (Sample.id 2 4) r := by
    have he : ∃ a, SqlAccountRepository.ofUser early (Sample.id 2 1) = some a ∧
        a.id = Sample.id 2 4 := Option.map_eq_some_iff.1 hae
    have hl : ∃ a, SqlAccountRepository.ofUser late (Sample.id 2 1) = some a ∧
        a.id = Sample.id 2 4 := Option.map_eq_some_iff.1 hal
    simp [Sample.scrolled, HasAccount, he, hl]
  have happended : (Sample.scrolled early late).IsChain PageRequest.Appended := by
    simpa [Sample.scrolled, PageRequest.Appended] using hsub
  obtain ⟨-, -, hshown, hends⟩ := scroll_neither_skips_nor_repeats (Sample.id 2 1) (Sample.id 2 4)
    (Sample.scrolled early late) hjoined haccount happended
  have hended := hends [⟨early, 1, by decide, by decide⟩] _ late.ledgerEntries rfl
    (by simp) (by simp [hcount'])
  obtain ⟨e, he⟩ := List.exists_mem_of_length_pos
    (show 0 < (entriesOf LedgerEntryRow.accountId early.ledgerEntries.rows (Sample.id 2 4)).length by
      rw [hcount]; decide)
  obtain ⟨hrow, hmine⟩ := mem_entriesOf.1 he
  exact ⟨hended, e, hrow, hmine, hshown hended _ rfl e hrow hmine⟩

end MoneyMovement

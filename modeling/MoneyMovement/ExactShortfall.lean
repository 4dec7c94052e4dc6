/-
  MoneyMovement/ExactShortfall.lean
  =================================
  **A send borrows exactly what is missing.**

  The balance, the pools and the loans after a send are read off `Sent`: the
  draw brings the sender up to the amount and the hold takes the amount away.
  Which pool lends is decided by `selected`, the first grant of the query whose
  cap and whose pool cover the shortfall.
-/
import MoneyMovement.SendKeys
import MoneyMovement.LienExactness

namespace MoneyMovement

open Txn OverdraftService

/-! ### The grants of a borrower -/

/-- The grant was made before the other: `ORDER BY created_at, id`. -/
def GrantRow.Older (g h : GrantRow) : Prop :=
  g.createdAt < h.createdAt ∨ g.createdAt = h.createdAt ∧ g.id.rank < h.id.rank

/-- The grant is the user's, and neither the grant nor its pool is closed. -/
structure ActiveGrant (db : Database) (u : Ulid) (g : GrantRow × PoolRow) : Prop where
  grant : g.1 ∈ db.overdraftGrants.rows
  beneficiary : g.1.beneficiaryUserId = u
  status : g.1.status = .active
  pool : db.overdraftPools.find? g.1.poolId = some g.2
  pool_status : g.2.status = .active

theorem ActiveGrant.congr {db db' : Database} {u : Ulid} {g : GrantRow × PoolRow}
    (h : ActiveGrant db u g) (hgrants : db'.overdraftGrants = db.overdraftGrants)
    (hpools : db'.overdraftPools = db.overdraftPools) : ActiveGrant db' u g :=
  ⟨hgrants ▸ h.grant, h.beneficiary, h.status, hpools ▸ h.pool, h.pool_status⟩

/-- The grant's cap and the balance of its pool both cover the amount. -/
def CoveredBy (db : Database) (n : Int) (g : GrantRow × PoolRow) : Prop :=
  n ≤ g.1.maxDrawMinor ∧ n ≤ balanceOf db.accounts g.2.poolAccountId

section Grants

variable {cfg : Settings} {y : Crypto} {k : Config} {db : Database} {u : Ulid} {n : Int}
  {g : GrantRow × PoolRow}

/-- The query returns the active grants: an account of a pool is never closed. -/
theorem Invariant.mem_activeGrants (h : Invariant cfg y k) :
    g ∈ SqlOverdraftRepository.activeGrants k.db u ↔ ActiveGrant k.db u g := by
  unfold SqlOverdraftRepository.activeGrants byCreatedAt
  rw [List.mem_filterMap]
  constructor
  · rintro ⟨grant, hgrant, hoffer⟩
    rw [List.mem_insertionSort, List.mem_filter, decide_eq_true_eq] at hgrant
    unfold SqlOverdraftRepository.offer at hoffer
    split at hoffer
    · cases hoffer
    · rename_i pool hpool
      split at hoffer
      · cases hoffer
      · split at hoffer
        · rename_i hactive
          cases hoffer
          exact ⟨hgrant.1, hgrant.2.1, hgrant.2.2, hpool, hactive.1⟩
        · cases hoffer
  · rintro ⟨hgrant, hu, hs, hpool, hps⟩
    obtain ⟨a, ha, hat⟩ := h.chart.pools _ (Table.mem_of_find? hpool)
    have has : a.status = .active :=
      h.standing.active a (Table.mem_of_find? ha) (by rw [hat]; nofun)
    refine ⟨g.1, ?_, ?_⟩
    · rw [List.mem_insertionSort, List.mem_filter, decide_eq_true_eq]
      exact ⟨hgrant, hu, hs⟩
    · rw [SqlOverdraftRepository.offer, hpool]
      dsimp only
      rw [ha]
      exact if_pos ⟨hps, has⟩

theorem activeGrants_ordered (db : Database) (u : Ulid) :
    (SqlOverdraftRepository.activeGrants db u).Pairwise fun g h => ¬h.1.Older g.1 := by
  have hfst : ∀ {grant : GrantRow} {g : GrantRow × PoolRow},
      SqlOverdraftRepository.offer db grant = some g → g.1 = grant := by
    intro grant g hg
    unfold SqlOverdraftRepository.offer at hg
    split at hg
    · cases hg
    · split at hg
      · cases hg
      · split at hg <;> cases hg
        rfl
  unfold SqlOverdraftRepository.activeGrants
  rw [List.pairwise_filterMap]
  refine (pairwise_byCreatedAt GrantRow.createdAt GrantRow.id _).imp ?_
  intro a b hab g hg h hh
  rw [hfst hg, hfst hh]
  exact hab

/-- What `selectGrant` looks for, in an account that exists. -/
theorem Invariant.covers_iff (h : Invariant cfg y k) (hg : ActiveGrant k.db u g) :
    (decide (n ≤ g.1.maxDrawMinor) &&
      match (k.db.accounts.find? g.2.poolAccountId).map AccountRow.toDomain with
      | some a => decide (n ≤ a.balance.minor)
      | none => false) = true ↔ CoveredBy k.db n g := by
  obtain ⟨a, ha, -⟩ := h.chart.pools _ (Table.mem_of_find? hg.pool)
  rw [ha, CoveredBy, balanceOf_of_find? ha, Bool.and_eq_true, decide_eq_true_eq]
  exact and_congr_right fun _ => decide_eq_true_iff

/-- The grant that is drawn on is the first that covers the amount. -/
theorem Invariant.selected_first (h : Invariant cfg y k) (hs : selected k.db u n = some g) :
    ActiveGrant k.db u g ∧ CoveredBy k.db n g ∧
      ∀ g', ActiveGrant k.db u g' → CoveredBy k.db n g' → ¬g'.1.Older g.1 := by
  unfold selected selectGrant at hs
  have hg := h.mem_activeGrants.1 (List.mem_of_find?_eq_some hs)
  have hcap := List.find?_some hs
  refine ⟨hg, (h.covers_iff hg).1 hcap, ?_⟩
  intro g' hg' hcovers holder
  obtain ⟨-, before, after, hsplit, hbefore⟩ := List.find?_eq_some_iff_append.1 hs
  have hmem := h.mem_activeGrants.2 hg'
  rw [hsplit, List.mem_append, List.mem_cons] at hmem
  rcases hmem with hmem | rfl | hmem
  · -- ahead of the grant that was found nothing covers the amount
    have hnot := hbefore g' hmem
    rw [Bool.not_eq_true'] at hnot
    exact Bool.false_ne_true (hnot.symm.trans ((h.covers_iff hg').2 hcovers))
  · rcases holder with hlt | ⟨-, hlt⟩
    · exact Nat.lt_irrefl _ hlt
    · exact Nat.lt_irrefl _ hlt
  · have hordered := activeGrants_ordered k.db u
    rw [hsplit, List.pairwise_append, List.pairwise_cons] at hordered
    exact hordered.2.1.1 g' hmem holder

theorem Invariant.selected_none (h : Invariant cfg y k) (hs : selected k.db u n = none)
    (hg : ActiveGrant k.db u g) : ¬CoveredBy k.db n g := by
  intro hcovers
  have := List.find?_eq_none.1 hs g (h.mem_activeGrants.2 hg)
  exact this ((h.covers_iff hg).2 hcovers)

end Grants

/-! ### The send -/

/-- What a send out of an account with the balance `b` does. -/
structure SendsExactly (c : Ctx) (x : Sending) (b : Int) (db db' : Database) : Prop where
  sender : balanceOf db'.accounts x.account = max 0 (b - x.amount.minor)
  pending : balanceOf db'.accounts PENDING_SETTLEMENT_ACCOUNT_ID =
    balanceOf db.accounts PENDING_SETTLEMENT_ACCOUNT_ID + x.amount.minor
  pools : db'.overdraftPools = db.overdraftPools
  enough : x.amount.minor ≤ b → db'.overdraftLoans = db.overdraftLoans ∧
    ∀ pool ∈ db.overdraftPools.rows,
      balanceOf db'.accounts pool.poolAccountId = balanceOf db.accounts pool.poolAccountId
  short : b < x.amount.minor → x.amount.minor - b ≤ c.settings.overdraftMaxDrawMinor ∧ ∃ g l,
    ActiveGrant db x.user g ∧ CoveredBy db (x.amount.minor - b) g ∧
    (∀ g', ActiveGrant db x.user g' → CoveredBy db (x.amount.minor - b) g' → ¬g'.1.Older g.1) ∧
    balanceOf db'.accounts g.2.poolAccountId =
      balanceOf db.accounts g.2.poolAccountId - (x.amount.minor - b) ∧
    (∀ pool ∈ db.overdraftPools.rows, pool ≠ g.2 →
      balanceOf db'.accounts pool.poolAccountId = balanceOf db.accounts pool.poolAccountId) ∧
    db'.overdraftLoans.rows = db.overdraftLoans.rows ++ [l] ∧ l.poolId = g.2.id ∧
    l.borrowerUserId = x.user ∧ l.principalMinor = x.amount.minor - b ∧
    l.outstandingMinor = x.amount.minor - b

section Exact

variable {c : Ctx} {x : Sending} {k : Config} {db' : Database} {body : Body} {a : AccountRow}
  {o : Option Draw} {p : Posting}

theorem Sent.sendsExactly (h : Sent c x k.db db' body a o p) (hinv : Invariant c.settings c.crypto k)
    (htype : a.accountType = .user) : SendsExactly c x a.balanceMinor k.db db' := by
  have huser : k.db.HasType x.account .user := ⟨a, h.sender_found, htype⟩
  have hbalance : balanceOf k.db.accounts x.account = a.balanceMinor := balanceOf_of_find? h.sender_found
  have hpending : x.account ≠ PENDING_SETTLEMENT_ACCOUNT_ID := huser.ne hinv.chart.pending (by decide)
  have hpool : ∀ pool ∈ k.db.overdraftPools.rows,
      pool.poolAccountId ≠ x.account ∧ pool.poolAccountId ≠ PENDING_SETTLEMENT_ACCOUNT_ID := by
    intro pool hp
    have ht := hinv.chart.pools pool hp
    exact ⟨ht.ne huser (by decide), ht.ne hinv.chart.pending (by decide)⟩
  rcases h.effects with ⟨hle, -, hloans, hbalances⟩ |
    ⟨hlt, g, l, t, now, -, hselected, hmax, hl, hfresh, hloans, hbalances⟩
  · refine ⟨?_, ?_, h.pools, fun _ => ⟨hloans, ?_⟩, fun hlt => absurd hle (Int.not_le.2 hlt)⟩
    · rw [hbalances, if_pos rfl, if_neg hpending, hbalance]
      omega
    · rw [hbalances, if_neg hpending.symm, if_pos rfl]
      omega
    · intro pool hp
      obtain ⟨hsender, hholding⟩ := hpool pool hp
      rw [hbalances, if_neg hsender, if_neg hholding]
      omega
  · obtain ⟨hactive, hcovers, hfirst⟩ := hinv.selected_first hselected
    have hmem := Table.mem_of_find? hactive.pool
    obtain ⟨hsender, hholding⟩ := hpool g.2 hmem
    have hshortfall : x.shortfall a = x.amount.minor - a.balanceMinor := rfl
    refine ⟨?_, ?_, h.pools, fun hle => absurd hle (Int.not_le.2 hlt), fun _ => ⟨hmax, g, l, hactive,
      hcovers, hfirst, ?_, ?_, ?_, ?_⟩⟩
    · rw [hbalances, if_neg hsender.symm, if_pos rfl, if_pos rfl, if_neg hpending, hbalance]
      omega
    · rw [hbalances, if_neg hholding.symm, if_neg hpending.symm, if_neg hpending.symm, if_pos rfl]
      omega
    · rw [hbalances, if_pos rfl, if_neg hsender, if_neg hsender, if_neg hholding]
      omega
    · intro pool hp hne
      obtain ⟨hsender, hholding⟩ := hpool pool hp
      have hother : pool.poolAccountId ≠ g.2.poolAccountId :=
        fun heq => hne (hinv.chart.pool_unique pool hp g.2 hmem heq)
      rw [hbalances, if_neg hother, if_neg hsender, if_neg hsender, if_neg hholding]
      omega
    · rw [hloans]
      exact Table.rows_push hfresh
    · rw [hl]
      exact ⟨rfl, rfl, rfl, rfl⟩

/-- Why a send may lack funds: no pool may or can lend what is missing. -/
def Uncovered (c : Ctx) (x : Sending) (b : Int) (db : Database) : Prop :=
  b < x.amount.minor ∧ ((c.settings.overdraftMaxDrawMinor : Int) < x.amount.minor - b ∨
    ∀ g, ActiveGrant db x.user g → ¬CoveredBy db (x.amount.minor - b) g)

/-- A reserved key covers nothing. -/
theorem Uncovered.of_reserved {b : Int} {now : Time} {db : Database}
    (h : Uncovered c x b (x.reserved c now db)) : Uncovered c x b db := by
  obtain ⟨hlt, hmax | hnone⟩ := h
  · exact ⟨hlt, .inl hmax⟩
  · refine ⟨hlt, .inr fun g hg => ?_⟩
    exact hnone g (hg.congr rfl rfl)

theorem replayBodyOrRaise_raises {P : Prop} {decision : IdempotencyDecision} {s : Session} :
    RaisesOnly (Blames P) (replayBodyOrRaise decision) s := by
  cases decision with
  | proceed => exact .pure _
  | payloadMismatch => exact .raise nofun
  | inProgress => exact .raise nofun
  | replay _ _ _ => exact .pure _

/-- Covering a shortfall lacks funds only when no pool covers it. -/
theorem OverdraftService.coverShortfall_raises {rs : List IdempotencyRow}
    {locked : Ulid → Option Account} {now : Time} {s : Session}
    (hinv : Invariant c.settings c.crypto ⟨⟨.none, none, rs⟩, s.db⟩)
    (hlocked : ∀ g ∈ SqlOverdraftRepository.activeGrants s.db x.user,
      locked g.2.poolAccountId = (s.db.accounts.find? g.2.poolAccountId).map AccountRow.toDomain) :
    RaisesOnly (Blames (Uncovered c x a.balanceMinor s.db))
      (coverShortfall c x.user x.account a.toDomain x.amount
        (SqlOverdraftRepository.activeGrants s.db x.user) locked x.key x.requestId now) s := by
  unfold coverShortfall
  split
  · rename_i hshort
    have hlt : a.balanceMinor < x.amount.minor := Int.sub_pos.1 hshort
    refine .bind ?_ fun _ _ _ => .pure _
    unfold drawShortfall
    rw [selectGrant_congr (fun id => (s.db.accounts.find? id).map AccountRow.toDomain) hlocked]
    refine .bind (.orRaise fun hnone _ => ⟨hlt, ?_⟩) fun g s₁ h₁ => ?_
    · by_cases hmax : x.amount.minor - a.balanceMinor ≤ c.settings.overdraftMaxDrawMinor
      · right
        intro g hg
        refine hinv.selected_none ?_ hg
        rw [Option.filter_eq_none_iff] at hnone
        rw [Option.eq_none_iff_forall_ne_some]
        intro g' hg'
        exact hnone g' hg' (decide_eq_true hmax)
      · exact .inl (Int.not_le.1 hmax)
    · obtain ⟨hg, rfl⟩ := orRaise_ok.1 h₁
      rw [Option.filter_eq_some_iff] at hg
      obtain ⟨hactive, hcovers, -⟩ := hinv.selected_first hg.1
      refine .bind (execute_raises_of_loanLeg rfl ?_) fun _ _ _ => ?_
      · intro b hb hpoor
        refine absurd (.inr ?_) hpoor
        rw [← balanceOf_of_find? hb]
        exact hcovers.2
      · refine .bind ?_ fun _ _ _ => .pure _
        refine .bind (.of_ok rfl) fun _ _ _ => ?_
        exact .bind (insertInto_raises nofun) fun _ _ _ => .pure _
  · exact .pure _

/-- Once its shortfall is covered, the sender has the amount. -/
theorem Covered.affords {db db' : Database} (h : Covered c x a db db' o)
    (ha : db.accounts.find? x.account = some a) : x.amount.minor ≤ balanceOf db'.accounts x.account := by
  cases h with
  | enough hle =>
    rw [balanceOf_of_find? ha]
    exact hle
  | @drawn _ g q l hshort h =>
    obtain ⟨db₁, hmoved, -⟩ := h.moved
    have hne : x.account ≠ g.2.poolAccountId := hmoved.parties_ne.symm
    rw [h.balanceOf, if_neg hne, if_pos rfl, balanceOf_of_find? ha, Sending.shortfall]
    omega

/-- A send lacks funds only when no pool covers what is missing. -/
theorem Sending.run_raises {s : Session} (hinv : Invariant c.settings c.crypto ⟨.idle, s.db⟩)
    (ha : s.db.accounts.find? x.account = some a) (htype : a.accountType = .user) :
    RaisesOnly (Blames (Uncovered c x a.balanceMinor s.db)) (x.run c) s := by
  refine .bind (.of_ok rfl) fun now s₁ h₁ => ?_
  have e₁ := (now_ok h₁).1
  refine .bind SqlIdempotencyRepository.reserve_raises fun decision s₂ h₂ => ?_
  refine .bind replayBodyOrRaise_raises fun b s₃ h₃ => ?_
  rcases reserve_or_replay h₂ h₃ with ⟨⟨b, rfl⟩, -⟩ | ⟨rfl, hfirst, e₃⟩
  · exact .pure _
  rw [e₁] at hfirst e₃
  obtain ⟨row, hinv₃⟩ := Sending.invariant_reserved (x := x) now hinv hfirst
  change s₃.db = x.reserved c now s.db at e₃
  rw [← e₃] at hinv₃
  refine .bind (.query _) fun grants s₄ h₄ => ?_
  obtain ⟨rfl, rfl⟩ := readDb_ok.1 h₄
  refine .bind (.bind (.modify _) fun _ _ _ => .query _) fun locked s₅ h₅ => ?_
  obtain ⟨e₅, hlocked⟩ := SqlAccountRepository.lockForUpdate_ok h₅
  refine .bind (.orRaise fun _ h => by cases h) fun sender s₆ h₆ => ?_
  obtain ⟨hsender, rfl⟩ := orRaise_ok.1 h₆
  refine .bind (.ensure fun _ h => by cases h) fun _ s₇ h₇ => ?_
  obtain ⟨howner, rfl⟩ := ensure_ok.1 h₇
  have ha₃ : s₃.db.accounts.find? x.account = some a := by
    rw [e₃]
    exact ha
  rw [hlocked _ List.mem_cons_self, ha₃] at hsender
  obtain rfl := Option.some.inj hsender
  have hpools : ∀ g ∈ SqlOverdraftRepository.activeGrants s₅.db x.user,
      locked g.2.poolAccountId = (s₅.db.accounts.find? g.2.poolAccountId).map AccountRow.toDomain := by
    intro g hg
    rw [e₅] at hg ⊢
    refine hlocked _ (List.mem_cons_of_mem _ (List.mem_cons_of_mem _ ?_))
    exact List.mem_map.2 ⟨g, hg, rfl⟩
  rw [← e₅] at hinv₃ ha₃ ⊢
  refine .bind ?_ fun o s₈ h₈ => ?_
  · intro e s' he hfunds
    have huncovered := coverShortfall_raises hinv₃ hpools e s' he hfunds
    rw [e₅, e₃] at huncovered
    exact huncovered.of_reserved
  have hcovered := coverShortfall_covered hinv₃ hpools h₈
  let request : Request := .createTransfer x.user "" "" x.amount x.note x.key x.requestId
  have hinv₈ := hinv₃.steps (coverShortfall_steps (L := licence c s₅.db request) [row]
    (licence_covers rfl) ⟨a, ha₃, htype, howner⟩ h₈).1 (licence_sound _ _ _)
  refine .bind ?_ fun _ _ _ => .bind (.modify _) fun _ _ _ => .pure _
  refine .bind (execute_raises hinv₈.standing hinv₈.books.nonneg ?_) fun hold s₉ _ => ?_
  · intro b hb hpoor
    refine absurd (.inr ?_) hpoor
    have := hcovered.affords ha₃
    rw [show balanceOf s₈.db.accounts x.account = b.balanceMinor from balanceOf_of_find? hb] at this
    exact this
  · refine .bind ?_ fun _ _ _ => .pure _
    unfold UndoableTransferService.startClock
    split
    · exact .pure _
    · refine .bind (.of_ok rfl) fun _ _ _ => ?_
      refine .bind (.query _) fun b _ _ => ?_
      split
      · exact .pure _
      · exact insertInto_raises fun h => by cases h

/-- The users have no part in it. -/
theorem SendsExactly.of_users {b : Int} {db : Database} {users : Table UserRow.id}
    (h : SendsExactly c x b { db with users := users } db') : SendsExactly c x b db db' where
  sender := h.sender
  pending := h.pending
  pools := h.pools
  enough := h.enough
  short hlt := by
    obtain ⟨hmax, g, l, hactive, hcovers, hfirst, hrest⟩ := h.short hlt
    refine ⟨hmax, g, l, hactive.congr rfl rfl, hcovers, ?_, hrest⟩
    intro g' hg' hcovers'
    exact hfirst g' (hg'.congr rfl rfl) hcovers'

theorem Uncovered.of_users {b : Int} {db : Database} {users : Table UserRow.id}
    (h : Uncovered c x b { db with users := users }) : Uncovered c x b db := by
  obtain ⟨hlt, hmax | hnone⟩ := h
  · exact ⟨hlt, .inl hmax⟩
  · refine ⟨hlt, .inr fun g hg => ?_⟩
    exact hnone g (hg.congr rfl rfl)

end Exact

/-- In every reachable database, a transaction that checks a PIN and sends: the first send under a
    key moves exactly the amount and borrows exactly what the sender lacks, from the first pool
    that covers it; it lacks funds only when there is no such pool; and whatever it raises, it
    changes nothing. -/
theorem send_borrows_exactly_the_shortfall (d : Deployment) (now : Time) (calls : List Call)
    (o : Oracle) {α : Type} (check : Tx α) (v : α) (s : Session) (x : Sending) (a : AccountRow) :
    let db := serveAll d calls (migrated now)
    let tx : Tx Body := check >>= fun _ => x.run (d.ctx o)
    check (begin db) = .ok v s → SameButUsers (begin db) s →
    db.accounts.find? x.account = some a → a.accountType = .user →
    (∀ body s', tx (begin db) = .ok body s' → db.idempotencyRecords.find? x.triple = none →
      KeyApart d.crypto db x.user x.key →
      SendsExactly (d.ctx o) x a.balanceMinor db (commit tx db)) ∧
    ∀ e s', tx (begin db) = .raised e s' → commit tx db = db ∧
      (e.kind = .insufficientFunds → Uncovered (d.ctx o) x a.balanceMinor db) := by
  intro db tx hcheck hsame ha htype
  obtain ⟨users, hu, hs⟩ := hsame
  have hs : s.db = { db with users := users } := hs
  have hinv : Invariant (d.ctx o).settings (d.ctx o).crypto ⟨.idle, s.db⟩ := by
    rw [hs]
    exact (serveAll_inv d now calls).users o hu
  have ha' : s.db.accounts.find? x.account = some a := by
    rw [hs]
    exact ha
  have htx : tx (begin db) = x.run (d.ctx o) s := bind_of_ok hcheck _
  refine ⟨?_, ?_⟩
  · intro body s' hok hfirst hapart
    rw [commit_of_ok hok]
    rw [htx] at hok
    have hhold : db.idempotencyRecords.find? (x.holdCommand (d.ctx o)).triple = none :=
      Sending.hold_unused (serveAll_holdsKeyed d now calls) hfirst hapart
    have hfirst' : s.db.idempotencyRecords.find? x.triple = none := by
      rw [hs]
      exact hfirst
    have hhold' : s.db.idempotencyRecords.find? (x.holdCommand (d.ctx o)).triple = none := by
      rw [hs]
      exact hhold
    obtain ⟨a', _, _, hsent⟩ := Sending.sent hinv ⟨a, ha', htype⟩ hfirst' hhold' hok
    obtain rfl : a' = a := Option.some.inj (hsent.sender_found.symm.trans ha')
    have hexact := hsent.sendsExactly hinv htype
    dsimp only at hexact
    rw [hs] at hexact
    exact hexact.of_users
  · intro e s' hraised
    refine ⟨commit_of_raised hraised, fun hfunds => ?_⟩
    rw [htx] at hraised
    have huncovered := Sending.run_raises hinv ha' htype e s' hraised hfunds
    rw [hs] at huncovered
    exact huncovered.of_users

namespace Sample

/-- The SHA-256 digests of what a send, its draw and its undo hash. -/
def loanDigests : List (String × String) :=
  [("\x7b\"amountMinor\":10000000,\"userId\":\"000000000100000000000000Z9\"\x7d",
      "632ac5b3bd2099bd33f161e7edd4b476f8f4700c771ae774c151d9789c6fe0c6"),
    ("\x7b\"amountMinor\":10000000,\"userId\":\"000000000200000000000001YH\"\x7d",
      "081321be35a695dbbc076ac3e6d5e6af4c71c3233aebb3fc8cd669a4b032d333"),
    ("\x7b\"amountMinor\":10000000,\"userId\":\"000000000300000000000002XS\"\x7d",
      "dc81826144ec60d5d9277afeef7412c95ef3ade09dee64f2aae39bbb949a657e"),
    ("\x7b\"amountMinor\":40000,\"currency\":\"BDT\"\x7d",
      "9bc7bf3bfc4c4c5d619cba921ce7a01867db30978a7a6613f4759ba49a45166f"),
    ("\x7b\"amountMinor\":40000,\"poolId\":\"000000000400000000000003X2\"\x7d",
      "76c575ce10b24260cf001547a1e67cdd1f1617494209a73c1243e8e638107269"),
    ("\x7b\"beneficiaryPhone\":\"01722222222\",\"maxDrawMinor\":50000\x7d",
      "ed5f37e10e3b374d7e78b292f1c80abb8e590340db652654f98da838cf41801f"),
    ("\x7b\"amountMinor\":10010000,\"currency\":\"BDT\",\"note\":null," ++
      "\"receiverAccountId\":\"000000000300000000000002XW\"," ++
      "\"senderAccountId\":\"000000000200000000000001YM\"\x7d",
      "e607e92e5ccce4241c0d1975319bf34e1562e0fca83372b6395c9462fafc9314"),
    ("\x7b\"clientKey\":\"c\"\x7d",
      "6f777dc25501e7b3585e5d7d5ead021a8b037d90a134bdb0849458635729b2e9"),
    ("\x7b\"clientKey\":\"signup-grant:000000000200000000000001YH\"\x7d",
      "8f3e5bf9aff47a1228428b3d4606b382f259bb135050d524befdbf39da40de7f"),
    ("\x7b\"amountMinor\":10000,\"borrowerUserId\":\"000000000200000000000001YH\"," ++
      "\"poolId\":\"000000000400000000000003X2\"\x7d",
      "eb3b137dc3d00b2854366746e2f4de858216bc0236025c4028d39463856499b3"),
    ("\x7b\"amountMinor\":10010000,\"holding\":\"00000000000000000000000002\"," ++
      "\"kind\":\"UNDO_HOLD\",\"payer\":\"000000000200000000000001YM\"\x7d",
      "4b6017316843cef2f648488823ed29f82845a8b8b098449aa9555ba356cbf775"),
    ("token-1-14",
      "d800179aeb40fc16ffed24e9f1f3982bf21cd51e3bd33faa82847e34df22a83b"),
    ("token-2-14",
      "ede6a15d2083ff61d848fd99c0be3e567ad72a5878296dcdb934f4d0e5b0814e"),
    ("token-3-14",
      "9d35085250185c84ab586e41ca0f279394b7c9dd346cf59e40738430cb335661"),
    ("\x7b\"transferId\":\"000000000600000000000005VW\"\x7d",
      "172c9c6851d2def389eb0e74de2a17ef811b4031f122acc6bf0ecb834c9b3261"),
    ("\x7b\"hold\":\"000000000600000000000005VW\",\"outcome\":\"REFUNDED\"\x7d",
      "4f9037435c2113269e18d9c89514820d41dcf58ca4f72ed4cad6fce386f485ac"),
    ("\x7b\"amountMinor\":10000,\"incomingTransferId\":\"000000000700000000000006TT\"," ++
      "\"loanId\":\"000000000600000000000005VT\"\x7d",
      "140287095eabc2acd047c9bd33437e4eaa3f24f6f18f57b1c6e0b71eccd9e062")]

/-- SHA-256 on those texts. -/
def loanSha256 : String → String := digestOf loanDigests

def lender : Deployment := ⟨settings, crypto loanSha256⟩

/-- The first user's pool, and the second user's grant on it. -/
def pooled : List Call := lending.take 5

/-- The second user sends a hundred taka more than it has. -/
def borrowing : Sending := ⟨id 2 1, id 2 4, id 3 4, .fromMinor 10010000, "c", none, none⟩

/-- Has the user sent under no other key with this digest? -/
def isApart (y : Crypto) (db : Database) (u : Ulid) (key : String) : Bool :=
  db.idempotencyRecords.rows.all fun r => !decide (r.triple.actorId = u ∧
    r.triple.endpoint = SEND_ENDPOINT ∧ holdKey y r.triple.key = holdKey y key) ||
    decide (r.triple.key = key)

theorem of_isApart {y : Crypto} {db : Database} {u : Ulid} {key : String}
    (h : isApart y db u key = true) : KeyApart y db u key := by
  intro key' hsome heq
  obtain ⟨row, hrow⟩ := Option.isSome_iff_exists.1 hsome
  have htriple := Table.key_of_find? hrow
  have hr := List.all_eq_true.1 h row (Table.mem_of_find? hrow)
  rw [htriple] at hr
  simpa [heq] using hr

/-- Does the second user have its opening balance and an unused key, and does its send go through? -/
def mayBorrow (db : Database) : Bool :=
  decide ((db.accounts.find? borrowing.account).map (fun a => (a.accountType, a.balanceMinor)) =
    some (.user, 10000000)) && decide (db.idempotencyRecords.find? borrowing.triple = none) &&
  isApart lender.crypto db borrowing.user borrowing.key &&
  (borrowing.run (lender.ctx (oracle 6 start)) (begin db)).succeeded

theorem pooled_mayBorrow : mayBorrow (serveAll lender pooled (migrated start)) = true := by
  decide +kernel

theorem of_mayBorrow {db : Database} (h : mayBorrow db = true) :
    (∃ a, db.accounts.find? borrowing.account = some a ∧ a.accountType = .user ∧
      a.balanceMinor = 10000000) ∧ db.idempotencyRecords.find? borrowing.triple = none ∧
    KeyApart lender.crypto db borrowing.user borrowing.key ∧
    ∃ body s', borrowing.run (lender.ctx (oracle 6 start)) (begin db) = .ok body s' := by
  unfold mayBorrow at h
  rw [Bool.and_eq_true, Bool.and_eq_true, Bool.and_eq_true, decide_eq_true_eq, decide_eq_true_eq] at h
  obtain ⟨⟨⟨haccount, hkey⟩, hapart⟩, hsends⟩ := h
  obtain ⟨a, ha, hat⟩ := Option.map_eq_some_iff.1 haccount
  exact ⟨⟨a, ha, congrArg Prod.fst hat, congrArg Prod.snd hat⟩, hkey, of_isApart hapart,
    Outcome.succeeded_iff.1 hsends⟩

end Sample

/-- The hundred taka come out of the pool. -/
theorem send_borrows_hundred_taka :
    let db := serveAll Sample.lender Sample.pooled (migrated Sample.start)
    let c := Sample.lender.ctx (Sample.oracle 6 Sample.start)
    ∃ body s', Sample.borrowing.run c (begin db) = .ok body s' ∧
      SendsExactly c Sample.borrowing 10000000 db s'.db := by
  have hexact := fun a ha ht => (send_borrows_exactly_the_shortfall Sample.lender Sample.start
    Sample.pooled (Sample.oracle 6 Sample.start) (pure ()) () (begin (serveAll Sample.lender Sample.pooled
      (migrated Sample.start))) Sample.borrowing a (pure_ok.2 ⟨rfl, rfl⟩) (Std.Refl.refl _) ha ht).1
  have hready := Sample.pooled_mayBorrow
  generalize serveAll Sample.lender Sample.pooled (migrated Sample.start) = db at *
  obtain ⟨⟨a, ha, hat, hbalance⟩, hkey, hapart, body, s', hok⟩ := Sample.of_mayBorrow hready
  have h := hexact a ha hat body s' hok hkey hapart
  rw [commit_of_ok (show (pure () >>= fun _ => Sample.borrowing.run _ : Tx Body) (begin db) = _ from hok),
    hbalance] at h
  exact ⟨body, s', hok, h⟩

end MoneyMovement

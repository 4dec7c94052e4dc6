/-
  MoneyMovement/Chart.lean
  ========================
  **What never goes away, and what each account is.**

  `Grows` is the monotone part of every step: accounts keep type and owner,
  pools and grants keep everything, a transfer keeps everything but its status.
  A fact about those survives any number of steps.

  `Chart` is the chart of accounts: the three system accounts, an owner for
  every other one, a pool account for every pool, and `USER` accounts on both
  sides of every money request.
-/
import MoneyMovement.Books
import MoneyMovement.Licences

namespace MoneyMovement

/-! ### Growth -/

/-- The same movement, in whatever status. -/
def TransferRow.SameMovement (t t' : TransferRow) : Prop :=
  ∃ status completedAt, t' = { t with status := status, completedAt := completedAt }

theorem TransferRow.SameMovement.refl (t : TransferRow) : t.SameMovement t := ⟨_, _, rfl⟩

theorem TransferRow.SameMovement.trans {t t' t'' : TransferRow} (h : t.SameMovement t')
    (h' : t'.SameMovement t'') : t.SameMovement t'' := by
  obtain ⟨_, _, rfl⟩ := h
  obtain ⟨_, _, rfl⟩ := h'
  exact ⟨_, _, rfl⟩

theorem TransferRow.SameMovement.id {t t' : TransferRow} (h : t.SameMovement t') : t'.id = t.id := by
  obtain ⟨_, _, rfl⟩ := h
  rfl

structure Database.Grows (db db' : Database) : Prop where
  account : ∀ id a, db.accounts.find? id = some a → ∃ a', db'.accounts.find? id = some a' ∧
    a'.accountType = a.accountType ∧ a'.userId = a.userId
  pool : ∀ id p, db.overdraftPools.find? id = some p → db'.overdraftPools.find? id = some p
  grant : ∀ id g, db.overdraftGrants.find? id = some g → db'.overdraftGrants.find? id = some g
  transfer : ∀ id t, db.transfers.find? id = some t → ∃ t', db'.transfers.find? id = some t' ∧
    t.SameMovement t'

/-- The account exists and has this type. -/
def Database.HasType (db : Database) (id : Ulid) (type : AccountType) : Prop :=
  ∃ a, db.accounts.find? id = some a ∧ a.accountType = type

namespace Database

variable {db db' : Database}

theorem OwnedBy.hasType {id u : Ulid} (h : db.OwnedBy id u) : db.HasType id .user := by
  obtain ⟨a, ha, ht, -⟩ := h
  exact ⟨a, ha, ht⟩

/-- An account has one type. -/
theorem HasType.ne {x y : Ulid} {s t : AccountType} (hx : db.HasType x s) (hy : db.HasType y t)
    (h : s ≠ t) : x ≠ y := by
  rintro rfl
  obtain ⟨a, ha, rfl⟩ := hx
  obtain ⟨b, hb, rfl⟩ := hy
  rw [ha] at hb
  cases hb
  exact h rfl

theorem HasType.isSome {id : Ulid} {t : AccountType} (h : db.HasType id t) :
    (db.accounts.find? id).isSome = true := by
  obtain ⟨a, ha, -⟩ := h
  rw [ha]
  rfl

namespace Grows

theorem refl (db : Database) : db.Grows db where
  account _ a h := ⟨a, h, rfl, rfl⟩
  pool _ _ h := h
  grant _ _ h := h
  transfer _ t h := ⟨t, h, .refl t⟩

theorem trans {db'' : Database} (h : db.Grows db') (h' : db'.Grows db'') : db.Grows db'' where
  account id a ha := by
    obtain ⟨a', ha', ht, hu⟩ := h.account id a ha
    obtain ⟨a'', ha'', ht', hu'⟩ := h'.account id a' ha'
    exact ⟨a'', ha'', ht'.trans ht, hu'.trans hu⟩
  pool id p hp := h'.pool id p (h.pool id p hp)
  grant id g hg := h'.grant id g (h.grant id g hg)
  transfer id t ht := by
    obtain ⟨t', ht', hs⟩ := h.transfer id t ht
    obtain ⟨t'', ht'', hs'⟩ := h'.transfer id t' ht'
    exact ⟨t'', ht'', hs.trans hs'⟩

/-- Nothing of what grows is touched. -/
theorem of_eq (ha : db'.accounts = db.accounts) (hp : db'.overdraftPools = db.overdraftPools)
    (hg : db'.overdraftGrants = db.overdraftGrants) (ht : db'.transfers = db.transfers) :
    db.Grows db' where
  account _ a h := ⟨a, ha ▸ h, rfl, rfl⟩
  pool _ _ h := hp ▸ h
  grant _ _ h := hg ▸ h
  transfer _ t h := ⟨t, ht ▸ h, .refl t⟩

theorem ownedBy (h : db.Grows db') {id u : Ulid} (ho : db.OwnedBy id u) : db'.OwnedBy id u := by
  obtain ⟨a, ha, ht, hu⟩ := ho
  obtain ⟨a', ha', ht', hu'⟩ := h.account id a ha
  exact ⟨a', ha', ht'.trans ht, hu'.trans hu⟩

theorem hasType (h : db.Grows db') {id : Ulid} {t : AccountType} (ht : db.HasType id t) :
    db'.HasType id t := by
  obtain ⟨a, ha, hta⟩ := ht
  obtain ⟨a', ha', ht', -⟩ := h.account id a ha
  exact ⟨a', ha', ht'.trans hta⟩

end Grows

end Database

theorem Posting.Valid.grows {c : Ctx} {db : Database} {p : Posting} (hv : p.Valid c db) :
    db.Grows (p.apply db) := by
  refine ⟨?_, fun _ _ h => h, fun _ _ h => h, ?_⟩
  · intro id a ha
    show ∃ a', (p.accountsAfter db.accounts).find? id = some a' ∧ _
    rw [hv.find?_accountsAfter_eq]
    by_cases hr : id = p.cmd.receiverAccountId
    · subst hr
      obtain rfl := Option.some.inj (hv.receiver_found.symm.trans ha)
      exact ⟨_, if_pos rfl, rfl, rfl⟩
    · rw [if_neg hr]
      by_cases hs : id = p.cmd.senderAccountId
      · subst hs
        obtain rfl := Option.some.inj (hv.sender_found.symm.trans ha)
        exact ⟨_, if_pos rfl, rfl, rfl⟩
      · exact ⟨a, by rw [if_neg hs, ha], rfl, rfl⟩
  · intro id t ht
    exact ⟨t, Table.find?_push_of_some ht, .refl t⟩

theorem Step.grows {c : Ctx} {L : Licence} {k k' : Config} (hs : Step c L k k') :
    k.db.Grows k'.db := by
  cases hs
  case post hv _ => exact hv.grows
  case repay hv _ => exact hv.grows
  case latch hold toStatus now _ _ _ =>
    refine ⟨fun _ a h => ⟨a, h, rfl, rfl⟩, fun _ _ h => h, fun _ _ h => h, ?_⟩
    intro id t ht
    dsimp only at ht ⊢
    rw [Table.find?_modifyAt]
    split
    · rename_i heq
      rw [← heq, ht]
      exact ⟨_, rfl, _, _, rfl⟩
    · exact ⟨t, ht, .refl t⟩
  case openAccount =>
    exact ⟨fun _ a h => ⟨a, Table.find?_push_of_some h, rfl, rfl⟩, fun _ _ h => h, fun _ _ h => h,
      fun _ t h => ⟨t, h, .refl t⟩⟩
  case openPool =>
    exact ⟨fun _ a h => ⟨a, Table.find?_push_of_some h, rfl, rfl⟩,
      fun _ _ h => Table.find?_push_of_some h, fun _ _ h => h, fun _ t h => ⟨t, h, .refl t⟩⟩
  case createGrant =>
    exact ⟨fun _ a h => ⟨a, h, rfl, rfl⟩, fun _ _ h => h, fun _ _ h => Table.find?_push_of_some h,
      fun _ t h => ⟨t, h, .refl t⟩⟩
  case closeAccount id status stamp _ =>
    refine ⟨?_, fun _ _ h => h, fun _ _ h => h, fun _ t h => ⟨t, h, .refl t⟩⟩
    intro id' a ha
    dsimp only at ha ⊢
    rw [Table.find?_modifyAt]
    split
    · rename_i heq
      rw [← heq, ha]
      exact ⟨_, rfl, rfl, rfl⟩
    · exact ⟨a, ha, rfl, rfl⟩
  all_goals exact .of_eq rfl rfl rfl rfl

theorem Steps.grows {c : Ctx} {L : Licence} {k k' : Config} (hs : Steps c L k k') :
    k.db.Grows k'.db := by
  induction hs with
  | refl => exact .refl _
  | tail _ hs ih => exact ih.trans hs.grows

theorem Step.usersKept {c : Ctx} {L : Licence} {k k' : Config} (hs : Step c L k k') :
    UsersKept k.db.users k'.db.users := by
  cases hs
  case quiet hu _ => exact hu
  all_goals exact .refl _

theorem Steps.usersKept {c : Ctx} {L : Licence} {k k' : Config} (hs : Steps c L k k') :
    UsersKept k.db.users k'.db.users := by
  induction hs with
  | refl => exact .refl _
  | tail _ hs ih => exact ih.trans hs.usersKept

/-- No record is ever deleted. -/
theorem Step.records_extend {c : Ctx} {L : Licence} {k k' : Config} (hs : Step c L k k') :
    k.db.idempotencyRecords.Extends k'.db.idempotencyRecords := by
  cases hs
  case reserve => exact Table.extends_push _ _
  case answer => exact Table.extends_modifyAt _ _ _ (SqlIdempotencyRepository.triple_completedRow _ _ _ _)
  case post => exact Table.extends_push _ _
  case repay => exact Table.extends_push _ _
  case finish => exact Table.extends_modifyAt _ _ _ (SqlIdempotencyRepository.triple_completedRow _ _ _ _)
  all_goals exact .refl _

theorem Steps.records_extend {c : Ctx} {L : Licence} {k k' : Config} (hs : Steps c L k k') :
    k.db.idempotencyRecords.Extends k'.db.idempotencyRecords := by
  induction hs with
  | refl => exact .refl _
  | tail _ hs ih => exact ih.trans hs.records_extend

/-! ### The chart of accounts -/

/-- The accounts the migrations insert. -/
inductive SystemAccount : Ulid → AccountType → Prop where
  | issuance : SystemAccount SYSTEM_ISSUANCE_ACCOUNT_ID .systemIssuance
  | escrow : SystemAccount ESCROW_ACCOUNT_ID .escrow
  | pending : SystemAccount PENDING_SETTLEMENT_ACCOUNT_ID .pendingSettlement

/-- An account is a system account, or it has an owner. -/
def AccountRow.WellKept (a : AccountRow) : Prop :=
  (SystemAccount a.id a.accountType ∧ a.userId = none) ∨
    (a.accountType = .user ∨ a.accountType = .overdraftPool) ∧ ∃ u, a.userId = some u

structure Chart (db : Database) : Prop where
  system : ∀ id type, SystemAccount id type → db.HasType id type
  kept : ∀ a ∈ db.accounts.rows, a.WellKept
  pools : ∀ p ∈ db.overdraftPools.rows, db.HasType p.poolAccountId .overdraftPool
  pool_unique : ∀ p ∈ db.overdraftPools.rows, ∀ q ∈ db.overdraftPools.rows,
    p.poolAccountId = q.poolAccountId → p = q
  parties : ∀ r ∈ db.moneyRequests.rows,
    (∃ u, db.OwnedBy r.payerAccountId u) ∧ ∃ u, db.OwnedBy r.requesterAccountId u

namespace Chart

variable {db db' : Database}

theorem migrated_chart (now : Time) : Chart (migrated now) where
  system id type h := by
    cases h
    · exact ⟨_, rfl, rfl⟩
    · exact ⟨_, rfl, rfl⟩
    · exact ⟨_, rfl, rfl⟩
  kept a ha := by
    simp only [migrated, List.mem_cons, List.not_mem_nil, or_false] at ha
    rcases ha with rfl | rfl | rfl
    · exact .inl ⟨.issuance, rfl⟩
    · exact .inl ⟨.escrow, rfl⟩
    · exact .inl ⟨.pending, rfl⟩
  pools p hp := by cases hp
  pool_unique p hp := by cases hp
  parties r hr := by cases hr

theorem issuance (h : Chart db) : db.HasType SYSTEM_ISSUANCE_ACCOUNT_ID .systemIssuance :=
  h.system _ _ .issuance

theorem escrow (h : Chart db) : db.HasType ESCROW_ACCOUNT_ID .escrow := h.system _ _ .escrow

theorem pending (h : Chart db) : db.HasType PENDING_SETTLEMENT_ACCOUNT_ID .pendingSettlement :=
  h.system _ _ .pending

/-- A `USER` account has an owner. -/
theorem owner (h : Chart db) {id : Ulid} {a : AccountRow} (ha : db.accounts.find? id = some a)
    (ht : a.accountType = .user) : ∃ u, db.OwnedBy id u := by
  rcases h.kept a (Table.mem_of_find? ha) with ⟨hs, -⟩ | ⟨-, u, hu⟩
  · rw [ht] at hs
    generalize a.id = x at hs
    cases hs
  · exact ⟨u, a, ha, ht, hu⟩

/-- There is one account of each system type. -/
theorem eq_system (h : Chart db) {x y : Ulid} {type : AccountType} (hx : db.HasType x type)
    (hy : SystemAccount y type) : x = y := by
  obtain ⟨a, ha, rfl⟩ := hx
  obtain rfl : a.id = x := Table.key_of_find? ha
  rcases h.kept a (Table.mem_of_find? ha) with ⟨hs, -⟩ | ⟨ht, -⟩
  · generalize a.id = x at hs
    generalize a.accountType = type at hs hy
    cases hs <;> cases hy <;> rfl
  · generalize a.accountType = type at ht hy
    rcases ht with rfl | rfl <;> cases hy

theorem system_eq_iff (h : Chart db) {x y : Ulid} {s t : AccountType} (hx : SystemAccount x s)
    (hy : db.HasType y t) : x = y ↔ t = s := by
  constructor
  · rintro rfl
    by_contra hne
    exact (hy.ne (h.system _ _ hx) hne) rfl
  · rintro rfl
    exact (h.eq_system hy hx).symm

theorem pool_hasType (h : Chart db) {id : Ulid} {p : PoolRow}
    (hp : db.overdraftPools.find? id = some p) : db.HasType p.poolAccountId .overdraftPool :=
  h.pools p (Table.mem_of_find? hp)

/-- The chart only looks at accounts, pools and requests, and at accounts by type and
    owner. -/
theorem of_grows (h : Chart db) (hg : db.Grows db')
    (ha : ∀ a' ∈ db'.accounts.rows, a'.WellKept) (hp : db'.overdraftPools = db.overdraftPools)
    (hr : ∀ r' ∈ db'.moneyRequests.rows, (∃ r ∈ db.moneyRequests.rows, r.SameTerms r') ∨
      (∃ u, db.OwnedBy r'.payerAccountId u) ∧ ∃ u, db.OwnedBy r'.requesterAccountId u) :
    Chart db' := by
  refine ⟨?_, ha, ?_, ?_, ?_⟩
  · intro id type hs
    exact hg.hasType (h.system id type hs)
  · intro p hp'
    exact hg.hasType (h.pools p (hp ▸ hp'))
  · rw [hp]
    exact h.pool_unique
  · intro r' hr'
    have hback : (∃ u, db.OwnedBy r'.payerAccountId u) ∧ ∃ u, db.OwnedBy r'.requesterAccountId u := by
      rcases hr r' hr' with ⟨r, hmem, hsame⟩ | h'
      · rw [hsame.payer, hsame.requester]
        exact h.parties r hmem
      · exact h'
    obtain ⟨⟨u, hu⟩, v, hv⟩ := hback
    exact ⟨⟨u, hg.ownedBy hu⟩, v, hg.ownedBy hv⟩

/-- Nothing but accounts is touched. -/
theorem of_accounts (h : Chart db) (hg : db.Grows db') (ha : ∀ a' ∈ db'.accounts.rows, a'.WellKept)
    (hp : db'.overdraftPools = db.overdraftPools) (hr : db'.moneyRequests = db.moneyRequests) :
    Chart db' := by
  refine h.of_grows hg ha hp ?_
  intro r hmem
  exact .inl ⟨r, hr ▸ hmem, rfl, rfl, rfl, rfl⟩

theorem post {c : Ctx} {p : Posting} (h : Chart db) (hv : p.Valid c db) : Chart (p.apply db) := by
  refine h.of_accounts hv.grows ?_ rfl rfl
  intro a ha
  rcases hv.mem_accountsAfter ha with rfl | rfl | ⟨ha, -, -⟩
  · exact h.kept p.sender (Table.mem_of_find? hv.sender_found)
  · exact h.kept p.receiver (Table.mem_of_find? hv.receiver_found)
  · exact h.kept a ha

theorem step {c : Ctx} {L : Licence} {k k' : Config} (hs : Step c L k k') (h : Chart k.db) :
    Chart k'.db := by
  have hg := hs.grows
  cases hs
  case post hv _ => exact h.post hv
  case repay hv _ => exact h.post hv
  case openAccount a u hf ht hu _ _ _ _ _ =>
    refine h.of_accounts hg ?_ rfl rfl
    intro x hx
    rcases (Table.mem_push hf).1 hx with hx | rfl
    · exact h.kept x hx
    · exact .inr ⟨.inl ht, u, hu⟩
  case closeAccount =>
    refine h.of_accounts hg ?_ rfl rfl
    intro x hx
    dsimp only at hx
    obtain ⟨a, ha, rfl⟩ := Table.mem_modifyAt.1 hx
    split
    · exact h.kept a ha
    · exact h.kept a ha
  case request row _ hf _ _ hpayer hrequester =>
    refine h.of_grows hg h.kept rfl ?_
    intro r hr
    rcases (Table.mem_push hf).1 hr with hr | rfl
    · exact .inl ⟨r, hr, rfl, rfl, rfl, rfl⟩
    · exact .inr ⟨hpayer, hrequester⟩
  case decline q f hid hq =>
    refine h.of_grows hg h.kept rfl ?_
    intro r hr
    dsimp only at hr
    obtain ⟨r₀, hr₀, rfl⟩ := Table.mem_update.1 hr
    refine .inl ⟨r₀, hr₀, ?_⟩
    split
    · rename_i hq₀
      exact (hq r₀ hr₀ hq₀).2.2.2.2.1
    · exact ⟨rfl, rfl, rfl, rfl⟩
  case accept | acceptReplayed =>
    refine h.of_grows hg h.kept rfl ?_
    intro r hr
    dsimp only at hr
    obtain ⟨r₀, hr₀, rfl⟩ := Table.mem_modifyAt.1 hr
    refine .inl ⟨r₀, hr₀, ?_⟩
    split <;> exact ⟨rfl, rfl, rfl, rfl⟩
  case openPool db a pool hf ht hu _ _ hp ha _ _ =>
    have hfresh : ∀ p ∈ db.overdraftPools.rows, p.poolAccountId ≠ a.id := by
      intro p hmem heq
      have := (h.pools p hmem).isSome
      rw [heq] at this
      rw [hf] at this
      cases this
    refine ⟨?_, ?_, ?_, ?_, ?_⟩
    · intro id type hs
      exact hg.hasType (h.system id type hs)
    · intro x hx
      rcases (Table.mem_push hf).1 hx with hx | rfl
      · exact h.kept x hx
      · exact .inr ⟨.inr ht, _, hu⟩
    · intro p hmem
      rcases (Table.mem_push hp).1 hmem with hmem | rfl
      · exact hg.hasType (h.pools p hmem)
      · exact ⟨a, ha ▸ Table.find?_push_self hf, ht⟩
    · intro p hpm q hqm heq
      rcases (Table.mem_push hp).1 hpm with hp' | rfl <;>
        rcases (Table.mem_push hp).1 hqm with hq' | rfl
      · exact h.pool_unique p hp' q hq' heq
      · exact absurd (heq.trans ha) (hfresh p hp')
      · exact absurd (heq.symm.trans ha) (hfresh q hq')
      · rfl
    · intro r hr
      obtain ⟨⟨u, hpayer⟩, v, hrequester⟩ := h.parties r hr
      exact ⟨⟨u, hg.ownedBy hpayer⟩, v, hg.ownedBy hrequester⟩
  all_goals exact h.of_accounts hg h.kept rfl rfl

end Chart

end MoneyMovement

/-
  MoneyMovement/Standing.lean
  ===========================
  **What a settlement can rely on**, long after the hold was taken.

  Only the accounts of users are ever closed: pools and the system's own
  accounts stay active.  Nobody's account outlives its user, since users are
  never deleted.  And the key of every repayment on record names a transfer
  that exists, so a credit posted now finds its repayment keys unused.
-/
import MoneyMovement.Provenance

namespace MoneyMovement

structure Standing (db : Database) : Prop where
  active : ∀ a ∈ db.accounts.rows, a.accountType ≠ .user → a.status = .active
  users : ∀ a ∈ db.accounts.rows, ∀ u, a.userId = some u → (db.users.find? u).isSome = true
  lienKeys : ∀ r ∈ db.idempotencyRecords.rows, r.status = .completed →
    r.triple.endpoint = LIEN_ENDPOINT → db.LienKey r.triple.key

namespace Standing

variable {db db' : Database}

theorem migrated_standing (now : Time) : Standing (migrated now) where
  active a ha := by
    intro _
    simp only [migrated, List.mem_cons, List.not_mem_nil, or_false] at ha
    rcases ha with rfl | rfl | rfl <;> rfl
  users a ha u hu := by
    simp only [migrated, List.mem_cons, List.not_mem_nil, or_false] at ha
    rcases ha with rfl | rfl | rfl <;> cases hu
  lienKeys r hr := by cases hr

/-- The account rows keep what is said of them. -/
theorem of_accounts (h : Standing db) (hu : db.users.Extends db'.users)
    (ha : ∀ a' ∈ db'.accounts.rows, ∃ a ∈ db.accounts.rows, a'.accountType = a.accountType ∧
      a'.userId = a.userId ∧ (a'.status = a.status ∨ a.accountType = .user))
    (hg : db.transfers.Extends db'.transfers)
    (hr : ∀ r ∈ db'.idempotencyRecords.rows, r ∈ db.idempotencyRecords.rows ∨
      r.status = .processing) : Standing db' where
  active a' ha' ht := by
    obtain ⟨a, hmem, htype, -, hs | huser⟩ := ha a' ha'
    · rw [hs]
      exact h.active a hmem (htype ▸ ht)
    · exact absurd (htype.trans huser) ht
  users a' ha' u hu' := by
    obtain ⟨a, hmem, -, huser, -⟩ := ha a' ha'
    exact hu u (h.users a hmem u (huser ▸ hu'))
  lienKeys r hmem hc he := by
    rcases hr r hmem with hmem | hp
    · exact (h.lienKeys r hmem hc he).mono hg
    · rw [hp] at hc
      cases hc

theorem post {c : Ctx} {p : Posting} (h : Standing db) (hv : p.Valid c db) :
    Standing (p.apply db) := by
  refine h.of_accounts (.refl _) ?_ (Table.extends_push _ _) ?_
  · intro a' ha'
    dsimp only [Posting.apply, Posting.accountsAfter] at ha'
    obtain ⟨a₁, ha₁, rfl⟩ := Table.mem_modifyAt.1 ha'
    obtain ⟨a, ha, rfl⟩ := Table.mem_modifyAt.1 ha₁
    refine ⟨a, ha, ?_⟩
    split <;> split <;> exact ⟨rfl, rfl, .inl rfl⟩
  · intro r hr
    rcases (Table.mem_push hv.key_fresh).1 hr with hr | rfl
    · exact .inl hr
    · exact .inr rfl

theorem push_account {a : AccountRow} (h : Standing db) (hf : db.accounts.find? a.id = none)
    (hs : a.status = .active) (hu : ∀ u, a.userId = some u → (db.users.find? u).isSome = true)
    (pools : Table PoolRow.id) :
    Standing { db with accounts := db.accounts.push a, overdraftPools := pools } where
  active x hx ht := by
    rcases (Table.mem_push hf).1 hx with hx | rfl
    · exact h.active x hx ht
    · exact hs
  users x hx u hxu := by
    rcases (Table.mem_push hf).1 hx with hx | rfl
    · exact h.users x hx u hxu
    · exact hu u hxu
  lienKeys := h.lienKeys

/-- A record is completed that was reserved for `row`. -/
theorem complete (row : IdempotencyRow) {resourceId : Ulid} {httpStatus : Nat} {body : Body}
    {now : Time} (h : Standing db) (hrow : db.idempotencyRecords.find? row.triple = some row)
    (hkey : row.triple.endpoint = LIEN_ENDPOINT → db.LienKey row.triple.key) :
    Standing { db with
      idempotencyRecords := db.idempotencyRecords.modifyAt row.triple
        (SqlIdempotencyRepository.completedRow resourceId httpStatus body now)
        (SqlIdempotencyRepository.triple_completedRow _ _ _ _) } where
  active := h.active
  users := h.users
  lienKeys r hr hc he := by
    dsimp only at hr
    rcases Table.mem_of_mem_modifyAt hrow hr with ⟨hr, -⟩ | rfl
    · exact h.lienKeys r hr hc he
    · exact hkey he

/-- The lien's endpoint is none the services answer themselves. -/
theorem lien_not_answerable {c : Ctx} {row : IdempotencyRow} (h : Answerable c row) :
    row.triple.endpoint ≠ LIEN_ENDPOINT := by
  obtain ⟨⟨rest, hpost⟩, -⟩ := h
  rw [hpost]
  exact append_ne_of_take (by decide) rest

/-- None of the warranted movements is posted on the lien's endpoint. -/
theorem lien_not_warranted {c : Ctx} {p : Posting} {d d' : Duty} (h : Warrant c db p d d') :
    p.cmd.idempotencyEndpoint ≠ LIEN_ENDPOINT := by
  intro he
  have hkind : p.cmd.kind = .overdraftRepay := h.issued.kind_of_internal (by rw [he]; rfl)
  cases h with
  | grant hc | fund hc | undoHold hc | escrowHold hc | draw hc | request hc =>
    rw [hc] at hkind
    cases hkind
  | undoLeg hc =>
    have hleg := congrArg TransferKind.isSettlementLeg hkind
    rw [hc] at hleg
    cases (undoLegKind_isSettlementLeg _).symm.trans hleg
  | escrowLeg hc =>
    have hleg := congrArg TransferKind.isSettlementLeg hkind
    rw [hc] at hleg
    cases (escrowLegKind_isSettlementLeg _).symm.trans hleg

theorem step {c : Ctx} {L : Licence} {k k' : Config} (hs : Step c L k k') (hL : L.Sound c)
    (hres : Reserved k.progress.reserved k.db.idempotencyRecords) (h : Standing k.db) :
    Standing k'.db := by
  have hsame : ∀ a' ∈ k.db.accounts.rows, ∃ a ∈ k.db.accounts.rows,
      a'.accountType = a.accountType ∧ a'.userId = a.userId ∧
        (a'.status = a.status ∨ a.accountType = .user) :=
    fun a ha => ⟨a, ha, rfl, rfl, .inl rfl⟩
  have hext : k.db.transfers.Extends k'.db.transfers := by
    intro id hid
    obtain ⟨t, ht⟩ := Option.isSome_iff_exists.1 hid
    obtain ⟨t', ht', -⟩ := hs.grows.transfer id t ht
    exact Option.isSome_iff_exists.2 ⟨t', ht'⟩
  cases hs
  case quiet hu _ => exact h.of_accounts hu.toExtends hsame (.refl _) fun r hr => .inl hr
  case post hv _ => exact h.post hv
  case repay hv _ => exact h.post hv
  case reserve hf =>
    refine h.of_accounts (.refl _) hsame (.refl _) fun r hr => ?_
    rcases (Table.mem_push hf).1 hr with hr | rfl
    · exact .inl hr
    · exact .inr rfl
  case answer row _ _ _ _ hl =>
    refine h.complete row (hres.found row List.mem_cons_self) fun he => ?_
    exact absurd he (lien_not_answerable (hL.answer row hl))
  case finish p hrow hp =>
    refine h.complete p.reservation (hres.found _ List.mem_cons_self) fun he => ?_
    rcases hp with ⟨-, db₀, d₀, hl⟩ | ⟨-, -, -, hkey⟩
    · exact absurd he (lien_not_warranted (hL.post _ _ _ _ hl))
    · exact hkey
  case latch => exact h.of_accounts (.refl _) hsame hext fun r hr => .inl hr
  case openAccount a u hf ht hu _ _ _ hs hex =>
    exact h.push_account hf hs (fun v hv => by cases hu.symm.trans hv; exact hex) _
  case openPool a pool hf _ hu _ _ _ _ hs hex =>
    exact h.push_account hf hs (fun v hv => by cases hu.symm.trans hv; exact hex) _
  case closeAccount id status stamp ht =>
    refine h.of_accounts (.refl _) ?_ (.refl _) fun r hr => .inl hr
    intro a' ha'
    dsimp only at ha'
    obtain ⟨a, ha, rfl⟩ := Table.mem_modifyAt.1 ha'
    refine ⟨a, ha, ?_⟩
    split
    · rename_i hid
      exact ⟨rfl, rfl, .inr (ht a (hid ▸ Table.find?_of_mem ha))⟩
    · exact ⟨rfl, rfl, .inl rfl⟩
  all_goals exact h.of_accounts (.refl _) hsame (.refl _) fun r hr => .inl hr

end Standing

end MoneyMovement

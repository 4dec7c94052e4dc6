/-
  MoneyMovement/Directory.lean
  ============================
  **Who is who, and that it stays so.**

  A phone number belongs to one user and a user has one account.  Nobody is
  deleted and nobody's phone number changes, so two lookups in two states of one
  run find the same user exactly when they look for the same number.  What a
  money request asks for does not change either.
-/
import MoneyMovement.Invariants

namespace MoneyMovement

/-! ### One account for a user -/

/-- A user has one account. -/
def SoleAccounts (accounts : Table AccountRow.id) : Prop :=
  ∀ a ∈ accounts.rows, ∀ b ∈ accounts.rows, a.accountType = .user → b.accountType = .user →
    a.userId = b.userId → a.id = b.id

namespace SoleAccounts

variable {accounts accounts' : Table AccountRow.id}

theorem of_rows (h : SoleAccounts accounts) (hrows : ∀ a' ∈ accounts'.rows, ∃ a ∈ accounts.rows,
    a'.id = a.id ∧ a'.accountType = a.accountType ∧ a'.userId = a.userId) :
    SoleAccounts accounts' := by
  intro a' ha' b' hb' hta htb hu
  obtain ⟨a, ha, hid, htype, huser⟩ := hrows a' ha'
  obtain ⟨b, hb, hid', htype', huser'⟩ := hrows b' hb'
  rw [hid, hid']
  exact h a ha b hb (htype ▸ hta) (htype' ▸ htb) (huser ▸ huser' ▸ hu)

theorem push {a : AccountRow} (h : SoleAccounts accounts) (hf : accounts.find? a.id = none)
    (hnew : a.accountType = .user → ∀ x ∈ accounts.rows,
      ¬(x.userId = a.userId ∧ x.accountType = .user)) : SoleAccounts (accounts.push a) := by
  intro x hx y hy htx hty hu
  rcases (Table.mem_push hf).1 hx with hold | rfl <;>
    rcases (Table.mem_push hf).1 hy with hold' | rfl
  · exact h x hold y hold' htx hty hu
  · exact absurd ⟨hu, htx⟩ (hnew hty x hold)
  · exact absurd ⟨hu.symm, hty⟩ (hnew htx y hold')
  · rfl

theorem post {p : Posting} (h : SoleAccounts accounts) : SoleAccounts (p.accountsAfter accounts) := by
  refine h.of_rows fun a' ha' => ?_
  unfold Posting.accountsAfter at ha'
  obtain ⟨a₁, ha₁, rfl⟩ := Table.mem_modifyAt.1 ha'
  obtain ⟨a, ha, rfl⟩ := Table.mem_modifyAt.1 ha₁
  refine ⟨a, ha, ?_⟩
  split <;> split <;> exact ⟨rfl, rfl, rfl⟩

theorem step {c : Ctx} {L : Licence} {k k' : Config} (hs : Step c L k k')
    (h : SoleAccounts k.db.accounts) : SoleAccounts k'.db.accounts := by
  cases hs
  case post => exact h.post
  case repay => exact h.post
  case openAccount a u hf ht hu _ _ hunique _ _ =>
    refine h.push hf fun _ x hx => ?_
    rw [hu]
    exact hunique x hx
  case openPool a pool hf ht _ _ _ _ _ _ _ =>
    refine h.push hf fun huser => ?_
    rw [ht] at huser
    cases huser
  case closeAccount id status stamp _ =>
    refine h.of_rows fun a' ha' => ?_
    dsimp only at ha'
    obtain ⟨a, ha, rfl⟩ := Table.mem_modifyAt.1 ha'
    refine ⟨a, ha, ?_⟩
    split <;> exact ⟨rfl, rfl, rfl⟩
  all_goals exact h

end SoleAccounts

/-- The account somebody owns is the one that is looked up. -/
theorem ofUser_of_ownedBy {db : Database} {id u : Ulid} {a : AccountRow}
    (h : SoleAccounts db.accounts) (ha : SqlAccountRepository.ofUser db u = some a)
    (ho : db.OwnedBy id u) : a.id = id := by
  obtain ⟨a', ha', htype, huser⟩ := ofUser_ownedBy ha
  obtain ⟨b, hb, htype', huser'⟩ := ho
  have hid : a'.id = b.id := h a' (Table.mem_of_find? ha') b (Table.mem_of_find? hb) htype htype'
    (huser.trans huser'.symm)
  rw [Table.key_of_find? ha', Table.key_of_find? hb] at hid
  exact hid

/-! ### The terms of a money request -/

/-- Requests are added, none is deleted, and none asks for something else later. -/
def TermsKept (before after : Table MoneyRequestRow.id) : Prop :=
  ∀ id r, before.find? id = some r → ∃ r', after.find? id = some r' ∧ r.SameTerms r'

namespace TermsKept

variable {before middle after : Table MoneyRequestRow.id}

theorem refl (requests : Table MoneyRequestRow.id) : TermsKept requests requests :=
  fun _ r hr => ⟨r, hr, .refl r⟩

theorem trans (h : TermsKept before middle) (h' : TermsKept middle after) : TermsKept before after := by
  intro id r hr
  obtain ⟨r', hr', hterms⟩ := h id r hr
  obtain ⟨r'', hr'', hterms'⟩ := h' id r' hr'
  exact ⟨r'', hr'', hterms.trans hterms'⟩

theorem update {q : MoneyRequestRow → Bool} {f : MoneyRequestRow → MoneyRequestRow}
    (hid : ∀ r, (f r).id = r.id) (hq : ∀ r ∈ before.rows, q r = true → r.SameTerms (f r)) :
    TermsKept before (before.update q f hid) := by
  intro id r hr
  rw [Table.find?_update, hr, Option.map_some]
  refine ⟨_, rfl, ?_⟩
  by_cases hqr : q r = true
  · rw [if_pos hqr]
    exact hq r (Table.mem_of_find? hr) hqr
  · rw [if_neg hqr]
    exact .refl r

theorem accepted (id transferId : Ulid) (now : Time) : TermsKept before (before.modifyAt id
    (SqlMoneyRequestRepository.accepted transferId now)
    (SqlMoneyRequestRepository.id_accepted transferId now)) :=
  .update _ fun _ _ _ => ⟨rfl, rfl, rfl, rfl⟩

theorem step {c : Ctx} {L : Licence} {k k' : Config} (hs : Step c L k k') :
    TermsKept k.db.moneyRequests k'.db.moneyRequests := by
  cases hs
  case request => exact fun _ r hr => ⟨r, Table.find?_push_of_some hr, .refl r⟩
  case decline q f hid hq => exact .update hid fun r hr hqr => (hq r hr hqr).2.2.2.2.1
  case accept => exact .accepted _ _ _
  case acceptReplayed => exact .accepted _ _ _
  all_goals exact .refl _

end TermsKept

/-! ### Later states -/

/-- What holds between a state and a later one of the same run. -/
structure Database.Later (db db' : Database) : Prop where
  grows : db.Grows db'
  users : UsersKept db.users db'.users
  terms : TermsKept db.moneyRequests db'.moneyRequests

namespace Database.Later

variable {db db' : Database}

theorem refl (db : Database) : db.Later db := ⟨.refl db, .refl _, .refl _⟩

theorem trans {db'' : Database} (h : db.Later db') (h' : db'.Later db'') : db.Later db'' :=
  ⟨h.grows.trans h'.grows, h.users.trans h'.users, h.terms.trans h'.terms⟩

theorem steps {c : Ctx} {L : Licence} {k k' : Config} (hs : Steps c L k k') : k.db.Later k'.db := by
  induction hs with
  | refl => exact .refl _
  | tail _ hs ih => exact ih.trans ⟨hs.grows, hs.usersKept, .step hs⟩

end Database.Later

theorem serveAll_later (d : Deployment) (calls : List Call) (db : Database) :
    db.Later (serveAll d calls db) := by
  induction calls generalizing db with
  | nil => exact .refl db
  | cons call calls ih =>
    rw [serveAll]
    rcases serve_cases d call db with he | hs
    · rw [he]
      exact ih db
    · exact (Database.Later.steps hs).trans (ih _)

/-! ### Looking up -/

/-- Phone numbers and accounts lead to one user each. -/
structure Database.Directory (db : Database) : Prop where
  phones : PhonesApart db.users
  accounts : SoleAccounts db.accounts

theorem serveAll_directory (d : Deployment) (now : Time) (calls : List Call) :
    (serveAll d calls (migrated now)).Directory := by
  refine serveAll_induction now (P := Database.Directory) ⟨?_, ?_⟩ ?_ calls
  · intro u hu
    cases hu
  · intro a ha b hb hta
    simp only [migrated, List.mem_cons, List.not_mem_nil, or_false] at ha
    rcases ha with rfl | rfl | rfl <;> cases hta
  intro db call hinv h
  rcases serve_cases d call db with he | hsteps
  · rw [he]
    exact h
  · refine ⟨hsteps.usersKept.apart h.phones, ?_⟩
    refine Invariant.steps_induction hsteps (licence_sound (d.ctx call.oracle) _ _) hinv
      (P := fun k => SoleAccounts k.db.accounts) h.accounts ?_
    intro _ _ _ hstep h₁
    exact h₁.step hstep

section Lookups

variable {db db' : Database} {u u' : UserRow} {a a' : AccountRow} {phone phone' : String}

theorem byPhone_eq_some (h : SqlUserRepository.byPhone db phone = some u) :
    db.users.find? u.id = some u ∧ u.phone = phone := by
  have hp := List.find?_some h
  rw [decide_eq_true_eq] at hp
  exact ⟨Table.find?_of_mem (List.mem_of_find?_eq_some h), hp⟩

/-- The lookup finds the same user when only counters have changed. -/
theorem SameNumbers.byPhone (h : SameNumbers db.users db'.users)
    (hu' : SqlUserRepository.byPhone db' phone = some u') :
    ∃ u, SqlUserRepository.byPhone db phone = some u ∧ u.id = u'.id := by
  have hfind : ∀ users : List UserRow, (users.map fun u => (u.id, u.phone)).find?
      (fun x => decide (x.2 = phone)) =
        (users.find? fun u => decide (u.phone = phone)).map fun u => (u.id, u.phone) :=
    fun _ => List.find?_map
  have hsame := hfind db'.users.rows
  rw [h, hfind db.users.rows, show db'.users.rows.find? (fun u => decide (u.phone = phone)) =
    some u' from hu', Option.map_some] at hsame
  obtain ⟨u, hu, he⟩ := Option.map_eq_some_iff.1 hsame
  exact ⟨u, hu, (Prod.mk.inj he).1⟩

/-- Two lookups find one user exactly when they are for one number. -/
theorem Database.Later.byPhone (hl : db.Later db') (hdir : db'.Directory)
    (h : SqlUserRepository.byPhone db phone = some u)
    (h' : SqlUserRepository.byPhone db' phone' = some u') : u.id = u'.id ↔ phone = phone' := by
  obtain ⟨hu, hphone⟩ := byPhone_eq_some h
  obtain ⟨hu', hphone'⟩ := byPhone_eq_some h'
  obtain ⟨v, hv, hvphone⟩ := hl.users.phone _ _ hu
  constructor
  · intro hid
    rw [hid, hu'] at hv
    cases hv
    rw [← hphone, ← hphone', hvphone]
  · intro hsame
    have hid := hdir.phones v (Table.mem_of_find? hv) u' (Table.mem_of_find? hu')
      (hvphone.trans (hphone.trans (hsame.trans hphone'.symm)))
    rw [← hid]
    exact (Table.key_of_find? hv).symm

/-- A user's account is the same later on. -/
theorem Database.Later.ofUser {id : Ulid} (hl : db.Later db') (hdir : db'.Directory)
    (h : SqlAccountRepository.ofUser db id = some a)
    (h' : SqlAccountRepository.ofUser db' id = some a') : a.id = a'.id :=
  (ofUser_of_ownedBy hdir.accounts h' (hl.grows.ownedBy (ofUser_ownedBy h))).symm

/-- Two lookups find one account exactly when they are for one number. -/
theorem Database.Later.ofPhone (hl : db.Later db') (hdir : db'.Directory)
    (h : SqlAccountRepository.ofPhone db phone = some a)
    (h' : SqlAccountRepository.ofPhone db' phone' = some a') : a.id = a'.id ↔ phone = phone' := by
  obtain ⟨u, hu, hown⟩ := ofPhone_ownedBy h
  obtain ⟨u', hu', hown'⟩ := ofPhone_ownedBy h'
  rw [← hl.byPhone hdir hu hu']
  obtain ⟨b, hb, htype, huser⟩ := hl.grows.ownedBy hown
  obtain ⟨b', hb', htype', huser'⟩ := hown'
  constructor
  · intro hid
    rw [hid, hb'] at hb
    cases hb
    exact Option.some.inj (huser.symm.trans huser')
  · intro hid
    have := hdir.accounts b (Table.mem_of_find? hb) b' (Table.mem_of_find? hb') htype htype'
      (by rw [huser, huser', hid])
    rw [Table.key_of_find? hb, Table.key_of_find? hb'] at this
    exact this

end Lookups

end MoneyMovement

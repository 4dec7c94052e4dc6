/-
  MoneyMovement/TableHistory.lean
  ===============================
  **Tables through time.**

  `Evolves R` says what became of a table: rows were added at the end, none was
  removed or moved, and each row is one that `R` allows for the row it was.  With
  equality for `R` the old table is a prefix of the new one.

  When `R` is reflexive and transitive so is `Evolves R`, and every statement
  that changes a table is an instance of it; so what a run of statements makes
  of a table is said by the relation alone.  A row in a final state, which `R`
  relates to itself only, is found unchanged ever after.

  Nothing here refers to a particular schema.
-/
import MoneyMovement.KeyedTable
import Mathlib.Data.List.Forall2

namespace Table

variable {ρ κ : Type} {key : ρ → κ} {R : ρ → ρ → Prop} {before middle after : Table key}

def Evolves (R : ρ → ρ → Prop) (before after : Table key) : Prop :=
  ∃ kept new, after.rows = kept ++ new ∧ List.Forall₂ R before.rows kept

namespace Evolves

theorem refl (hR : ∀ r, R r r) (t : Table key) : t.Evolves R t :=
  ⟨t.rows, [], (List.append_nil _).symm, List.forall₂_same.2 fun r _ => hR r⟩

theorem trans (hR : ∀ r s t, R r s → R s t → R r t) (h : before.Evolves R middle)
    (h' : middle.Evolves R after) : before.Evolves R after := by
  obtain ⟨kept, new, hrows, hkept⟩ := h
  obtain ⟨kept', new', hrows', hkept'⟩ := h'
  rw [hrows] at hkept'
  -- of the rows kept the second time, those that were there before the first come first
  have hsplit : ∃ k₁ k₂, kept' = k₁ ++ k₂ ∧ List.Forall₂ R before.rows k₁ := by
    clear hrows hrows'
    generalize before.rows = rows at hkept
    induction hkept generalizing kept' with
    | nil => exact ⟨[], kept', rfl, .nil⟩
    | cons hrs _ ih =>
      cases hkept' with
      | cons hst hrest =>
        obtain ⟨k₁, k₂, rfl, hk₁⟩ := ih _ hrest
        exact ⟨_, k₂, rfl, .cons (hR _ _ _ hrs hst) hk₁⟩
  obtain ⟨k₁, k₂, rfl, hk₁⟩ := hsplit
  exact ⟨k₁, k₂ ++ new', by rw [hrows', List.append_assoc], hk₁⟩

section Statements

variable [DecidableEq κ]

theorem push (hR : ∀ r, R r r) (t : Table key) (r : ρ) : t.Evolves R (t.push r) := by
  unfold Table.push
  split
  · exact ⟨t.rows, [r], rfl, List.forall₂_same.2 fun r _ => hR r⟩
  · exact .refl hR t

omit [DecidableEq κ] in
theorem update (hR : ∀ r, R r r) {p : ρ → Bool} {f : ρ → ρ} (hf : ∀ r, key (f r) = key r)
    (h : ∀ r ∈ before.rows, p r = true → R r (f r)) : before.Evolves R (before.update p f hf) := by
  refine ⟨_, [], (List.append_nil _).symm, ?_⟩
  rw [rows_update, List.forall₂_map_right_iff, List.forall₂_same]
  intro r hr
  by_cases hp : p r = true
  · rw [if_pos hp]
    exact h r hr hp
  · rw [if_neg hp]
    exact hR r

theorem modifyAt (hR : ∀ r, R r r) {k : κ} {f : ρ → ρ} (hf : ∀ r, key (f r) = key r)
    (h : ∀ r, before.find? k = some r → R r (f r)) : before.Evolves R (before.modifyAt k f hf) := by
  refine .update hR hf fun r hr hk => h r ?_
  rw [← of_decide_eq_true hk]
  exact find?_of_mem hr

/-- A row is found later, as one that `R` allows for it. -/
theorem find? (hkey : ∀ r s, R r s → key s = key r) (h : before.Evolves R after) {k : κ} {r : ρ}
    (hr : before.find? k = some r) : ∃ s, after.find? k = some s ∧ R r s := by
  obtain ⟨kept, new, hrows, hkept⟩ := h
  obtain ⟨i, hi, he⟩ := List.getElem_of_mem (mem_of_find? hr)
  have hi' : i < kept.length := hkept.length_eq ▸ hi
  have hrs : R r kept[i] := he ▸ hkept.get hi hi'
  have hmem : kept[i] ∈ after.rows := by
    rw [hrows]
    exact List.mem_append_left _ (List.getElem_mem hi')
  refine ⟨kept[i], ?_, hrs⟩
  rw [← key_of_find? hr, ← hkey _ _ hrs]
  exact find?_of_mem hmem

/-- A row in a final state stays. -/
theorem find?_final (hkey : ∀ r s, R r s → key s = key r) (h : before.Evolves R after) {k : κ}
    {r : ρ} (hfinal : ∀ s, R r s → s = r) (hr : before.find? k = some r) :
    after.find? k = some r := by
  obtain ⟨s, hs, hrs⟩ := h.find? hkey hr
  rw [hs, hfinal s hrs]

end Statements

theorem rows_prefix (h : before.Evolves (· = ·) after) : before.rows <+: after.rows := by
  obtain ⟨kept, new, hrows, hkept⟩ := h
  rw [List.forall₂_eq_eq_eq] at hkept
  exact ⟨new, by rw [hrows, hkept]⟩

end Evolves

end Table

/-
  MoneyMovement/AlikeTables.lean
  ==============================
  **Two tables with the same rows, up to a relation on rows.**

  `Alike R t u`: the rows of `t` and `u` correspond one to one, in order, and
  `R` relates each with its partner.  When `R` leaves keys alone, a lookup finds
  partners or nothing, and what a statement does to partners it does to tables.

  Nothing here refers to a particular schema.
-/
import MoneyMovement.KeyedTable
import Mathlib.Data.List.Forall2

/-! ### Lists -/

namespace List

variable {α β : Type} {R : α → β → Prop} {l : List α} {l' : List β}

theorem Forall₂.all_eq {p : α → Bool} {q : β → Bool} (hpq : ∀ a b, R a b → p a = q b)
    (h : Forall₂ R l l') : l.all p = l'.all q := by
  induction h with
  | nil => rfl
  | cons hab _ ih => rw [all_cons, all_cons, hpq _ _ hab, ih]

theorem Forall₂.any_eq {p : α → Bool} {q : β → Bool} (hpq : ∀ a b, R a b → p a = q b)
    (h : Forall₂ R l l') : l.any p = l'.any q := by
  induction h with
  | nil => rfl
  | cons hab _ ih => rw [any_cons, any_cons, hpq _ _ hab, ih]

theorem Forall₂.find? {p : α → Bool} {q : β → Bool} (hpq : ∀ a b, R a b → p a = q b)
    (h : Forall₂ R l l') : Option.Rel R (l.find? p) (l'.find? q) := by
  induction h with
  | nil => exact .none
  | cons hab _ ih =>
    rw [find?_cons, find?_cons, ← hpq _ _ hab]
    split
    · exact .some hab
    · exact ih

theorem Forall₂.head? (h : Forall₂ R l l') : Option.Rel R l.head? l'.head? := by
  cases h with
  | nil => exact .none
  | cons hab _ => exact .some hab

theorem Forall₂.orderedInsert {le : α → α → Prop} {le' : β → β → Prop} [DecidableRel le]
    [DecidableRel le'] (hle : ∀ a b, R a b → ∀ c d, R c d → (le a c ↔ le' b d)) {a : α} {b : β}
    (hab : R a b) (h : Forall₂ R l l') : Forall₂ R (l.orderedInsert le a) (l'.orderedInsert le' b) := by
  induction h with
  | nil => exact .cons hab .nil
  | @cons c d l l' hcd hl ih =>
    rw [orderedInsert_cons, orderedInsert_cons]
    by_cases hac : le a c
    · rw [if_pos hac, if_pos ((hle a b hab c d hcd).1 hac)]
      exact .cons hab (.cons hcd hl)
    · rw [if_neg hac, if_neg fun hbd => hac ((hle a b hab c d hcd).2 hbd)]
      exact .cons hcd ih

theorem Forall₂.insertionSort {le : α → α → Prop} {le' : β → β → Prop} [DecidableRel le]
    [DecidableRel le'] (hle : ∀ a b, R a b → ∀ c d, R c d → (le a c ↔ le' b d))
    (h : Forall₂ R l l') : Forall₂ R (l.insertionSort le) (l'.insertionSort le') := by
  induction h with
  | nil => exact .nil
  | cons hab _ ih =>
    rw [insertionSort_cons, insertionSort_cons]
    exact ih.orderedInsert hle hab

end List

/-! ### Tables -/

namespace Table

variable {ρ κ : Type} {key : ρ → κ} {R : ρ → ρ → Prop} {t u : Table key}

def Alike (R : ρ → ρ → Prop) (t u : Table key) : Prop := List.Forall₂ R t.rows u.rows

namespace Alike

theorem refl (hR : ∀ r, R r r) (t : Table key) : Alike R t t := List.forall₂_same.2 fun r _ => hR r

theorem eq (h : Alike Eq t u) : t = u := by
  unfold Alike at h
  rw [List.forall₂_eq_eq_eq] at h
  exact Table.ext h

theorem mono {S : ρ → ρ → Prop} (hRS : ∀ r s, R r s → S r s) (h : Alike R t u) : Alike S t u :=
  List.Forall₂.imp hRS h

theorem update {p : ρ → Bool} {f : ρ → ρ} {hf : ∀ r, key (f r) = key r}
    (hpf : ∀ r s, R r s → R (if p r then f r else r) (if p s then f s else s)) (h : Alike R t u) :
    Alike R (t.update p f hf) (u.update p f hf) := by
  unfold Alike
  rw [rows_update, rows_update, List.forall₂_map_left_iff, List.forall₂_map_right_iff]
  exact List.Forall₂.imp hpf h

variable [DecidableEq κ]

theorem find? (hkey : ∀ r s, R r s → key r = key s) (h : Alike R t u) (k : κ) :
    Option.Rel R (t.find? k) (u.find? k) :=
  List.Forall₂.find? (fun r s hrs => by rw [hkey r s hrs]) h

theorem push (hkey : ∀ r s, R r s → key r = key s) {r s : ρ} (hrs : R r s) (h : Alike R t u) :
    Alike R (t.push r) (u.push s) := by
  have hfind := h.find? hkey (key r)
  rw [hkey r s hrs] at hfind
  by_cases hnone : t.find? (key r) = none
  · have hnone' : u.find? (key s) = none := by
      rw [hkey r s hrs] at hnone
      rw [hnone] at hfind
      cases hu : u.find? (key s) with
      | none => rfl
      | some x =>
        rw [hu] at hfind
        cases hfind
    unfold Alike
    rw [rows_push hnone, rows_push hnone']
    exact List.rel_append h (.cons hrs .nil)
  · have hsome : ¬u.find? (key s) = none := by
      intro hu
      rw [hu] at hfind
      rw [hkey r s hrs] at hnone
      cases ht : t.find? (key s) with
      | none => exact hnone ht
      | some x =>
        rw [ht] at hfind
        cases hfind
    unfold Table.push
    rw [dif_neg hnone, dif_neg hsome]
    exact h

theorem modifyAt (hkey : ∀ r s, R r s → key r = key s) {k : κ} {f : ρ → ρ}
    {hf : ∀ r, key (f r) = key r} (hR : ∀ r s, R r s → R (f r) (f s)) (h : Alike R t u) :
    Alike R (t.modifyAt k f hf) (u.modifyAt k f hf) := by
  refine h.update ?_
  intro r s hrs
  rw [hkey r s hrs]
  split
  · exact hR r s hrs
  · exact hrs

end Alike

end Table

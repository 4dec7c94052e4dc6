/-
  MoneyMovement/Waterfall.lean
  ============================
  **A budget shared among claims, in order.**

  Each claim takes what is due to it, or what is left of the budget.  Together
  they take as much as the budget and the claims allow, and a claim takes
  something only when every claim ahead of it is met in full.

  Nothing here refers to what is claimed.
-/
import Mathlib.Algebra.Order.BigOperators.Group.List
import Mathlib.Algebra.Order.Ring.Int

namespace Waterfall

variable {α : Type} (due : α → Int)

/-- Who takes how much. -/
def takes : Int → List α → List (α × Int)
  | _, [] => []
  | budget, x :: xs =>
    if budget ≤ 0 then []
    else (x, min budget (due x)) :: takes (budget - min budget (due x)) xs

variable {due} {budget : Int} {xs : List α}

theorem takes_of_nonpos (h : budget ≤ 0) : takes due budget xs = [] := by
  cases xs with
  | nil => rfl
  | cons x xs => rw [takes, if_pos h]

/-- Nothing is left over as long as something is due. -/
theorem sum_takes (hb : 0 ≤ budget) (hdue : ∀ x ∈ xs, 0 ≤ due x) :
    ((takes due budget xs).map Prod.snd).sum = min budget (xs.map due).sum := by
  induction xs generalizing budget with
  | nil => simp [takes, hb]
  | cons x xs ih =>
    have hx := hdue x List.mem_cons_self
    have hxs : 0 ≤ (xs.map due).sum := by
      apply List.sum_nonneg
      intro n hn
      obtain ⟨y, hy, rfl⟩ := List.mem_map.1 hn
      exact hdue y (List.mem_cons_of_mem _ hy)
    rw [takes, List.map_cons, List.sum_cons]
    by_cases h : budget ≤ 0
    · rw [if_pos h, List.map_nil, List.sum_nil]
      omega
    · rw [if_neg h, List.map_cons, List.sum_cons,
        ih (by omega) fun y hy => hdue y (List.mem_cons_of_mem _ hy)]
      omega

/-- Whoever takes something claims it, and takes no more than what is due. -/
theorem mem_takes {y : α × Int} (h : y ∈ takes due budget xs) : y.1 ∈ xs ∧ y.2 ≤ due y.1 := by
  induction xs generalizing budget with
  | nil => simp [takes] at h
  | cons x xs ih =>
    rw [takes] at h
    split at h
    · cases h
    · rcases List.mem_cons.1 h with rfl | h
      · exact ⟨List.mem_cons_self, Int.min_le_right _ _⟩
      · exact ⟨List.mem_cons_of_mem _ (ih h).1, (ih h).2⟩

/-- Whoever takes something takes a positive amount. -/
theorem takes_pos (hdue : ∀ x ∈ xs, 0 < due x) {y : α × Int} (h : y ∈ takes due budget xs) :
    0 < y.2 := by
  induction xs generalizing budget with
  | nil => simp [takes] at h
  | cons x xs ih =>
    have hx := hdue x List.mem_cons_self
    rw [takes] at h
    split at h
    · cases h
    · rcases List.mem_cons.1 h with rfl | h
      · show 0 < min budget (due x)
        omega
      · exact ih (fun y hy => hdue y (List.mem_cons_of_mem _ hy)) h

theorem map_fst_takes_sublist : ((takes due budget xs).map Prod.fst).Sublist xs := by
  induction xs generalizing budget with
  | nil => simp [takes]
  | cons x xs ih =>
    rw [takes]
    split
    · simp
    · exact ih.cons_cons x

/-- Whoever stands ahead of one that takes something is met in full. -/
theorem pairwise_takes (hnodup : xs.Nodup) :
    xs.Pairwise fun x y => ∀ n, (y, n) ∈ takes due budget xs → (x, due x) ∈ takes due budget xs := by
  induction xs generalizing budget with
  | nil => exact List.Pairwise.nil
  | cons x xs ih =>
    obtain ⟨hx, hxs⟩ := List.nodup_cons.1 hnodup
    rw [takes]
    by_cases h : budget ≤ 0
    · rw [if_pos h]
      refine List.pairwise_of_forall fun _ _ n hmem => ?_
      cases hmem
    · rw [if_neg h]
      -- one that is not the head takes something only of what the head left
      have hbehind : ∀ y ∈ xs, ∀ n, (y, n) ∈ (x, min budget (due x)) ::
          takes due (budget - min budget (due x)) xs →
          (y, n) ∈ takes due (budget - min budget (due x)) xs := by
        intro y hy n hmem
        rcases List.mem_cons.1 hmem with heq | hmem
        · cases heq
          exact absurd hy hx
        · exact hmem
      rw [List.pairwise_cons]
      constructor
      · intro y hy n hmem
        have hleft : ¬budget - min budget (due x) ≤ 0 := by
          intro hspent
          have hmem' := hbehind y hy n hmem
          rw [takes_of_nonpos hspent] at hmem'
          cases hmem'
        have hfull : min budget (due x) = due x := by omega
        rw [hfull]
        exact List.mem_cons_self
      · refine (@ih (budget - min budget (due x)) hxs).imp_of_mem ?_
        intro y z _ hz hyz n hmem
        exact List.mem_cons_of_mem _ (hyz n (hbehind z hz n hmem))

/-- In a list sorted by an order, whoever comes before one that takes something is met in full. -/
theorem takes_before {before : α → α → Prop} (hnodup : xs.Nodup)
    (hsorted : xs.Pairwise fun x y => ¬before y x) {x y : α} {n : Int} (hx : x ∈ xs)
    (hy : (y, n) ∈ takes due budget xs) (hne : x ≠ y) (hb : before x y) :
    (x, due x) ∈ takes due budget xs := by
  obtain ⟨i, hi, rfl⟩ := List.getElem_of_mem hx
  obtain ⟨j, hj, rfl⟩ := List.getElem_of_mem (mem_takes hy).1
  rcases Nat.lt_trichotomy i j with hlt | rfl | hlt
  · exact List.pairwise_iff_getElem.1 (pairwise_takes hnodup) i j hi hj hlt n hy
  · exact absurd rfl hne
  · exact absurd hb (List.pairwise_iff_getElem.1 hsorted j i hj hi hlt)

/-! ### The share of some of the claims -/

/-- What those claims take of which `q` holds. -/
def share (q : α → Bool) : List (α × Int) → Int
  | [] => 0
  | y :: ys => (if q y.1 then y.2 else 0) + share q ys

theorem share_eq_zero {q : α → Bool} {ys : List (α × Int)} (h : ∀ y ∈ ys, q y.1 = false) :
    share q ys = 0 := by
  induction ys with
  | nil => rfl
  | cons y ys ih =>
    rw [share, h y List.mem_cons_self, ih fun z hz => h z (List.mem_cons_of_mem _ hz)]
    rfl

/-- The share of the claims with one key is what the claim with that key takes. -/
theorem share_of_mem {κ : Type} [DecidableEq κ] (key : α → κ) {ys : List (α × Int)} {y : α × Int}
    (hnodup : (ys.map fun z => key z.1).Nodup) (hy : y ∈ ys) :
    share (fun a => decide (key a = key y.1)) ys = y.2 := by
  induction ys with
  | nil => cases hy
  | cons z ys ih =>
    obtain ⟨hz, hys⟩ := List.nodup_cons.1 hnodup
    rw [share]
    rcases List.mem_cons.1 hy with rfl | hy
    · rw [share_eq_zero, decide_eq_true rfl, if_pos rfl]
      · omega
      · intro w hw
        apply decide_eq_false
        intro heq
        exact hz (List.mem_map.2 ⟨w, hw, heq⟩)
    · have hne : key z.1 ≠ key y.1 := by
        intro heq
        exact hz (List.mem_map.2 ⟨y, hy, heq.symm⟩)
      rw [decide_eq_false hne, ih hys hy]
      simp

end Waterfall

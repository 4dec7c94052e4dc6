/-
  MoneyMovement/Lockout.lean
  ==========================
  **Counters that lock after too many failures.**

  A guard counts failures.  From the `limit`-th on every failure locks it for
  `window`; the lock expires, the counter stays, so that the failure after it
  locks again.  What this buys, whatever the order of the clock readings: in any
  half-open interval of length `window` there are at most `limit` failures, and
  at most one once the limit is reached.

  Nothing here refers to what is guarded.
-/
import Mathlib.Data.List.Basic
import Mathlib.Data.List.Count

namespace Lockout

/-- A counter of failures, and until when it is locked. -/
structure Guard where
  attempts : Nat
  lockedUntil : Option Nat
deriving DecidableEq, Repr

namespace Guard

/-- Nothing failed yet. -/
def fresh : Guard := ⟨0, none⟩

/-- Attempts at `t` are turned away. -/
def locked (g : Guard) (t : Nat) : Bool :=
  match g.lockedUntil with
  | some u => decide (t < u)
  | none => false

/-- The guard after a failure at `t`. -/
def failed (limit window : Nat) (g : Guard) (t : Nat) : Guard :=
  ⟨g.attempts + 1, if limit ≤ g.attempts + 1 then some (t + window) else none⟩

/-- A guard is only locked after `limit` failures. -/
def Counted (limit : Nat) (g : Guard) : Prop := g.lockedUntil ≠ none → limit ≤ g.attempts

theorem counted_fresh (limit : Nat) : fresh.Counted limit := fun h => absurd rfl h

theorem counted_failed (limit window : Nat) (g : Guard) (t : Nat) :
    (g.failed limit window t).Counted limit := by
  intro h
  by_cases hl : limit ≤ g.attempts + 1
  · exact hl
  · exact absurd (if_neg hl) h

end Guard

/-! ### Failures, one after another -/

/-- From the guard `g`, failures at the times `ts`, in this order: none while it is locked. -/
inductive Failures (limit window : Nat) : Guard → List Nat → Prop where
  | nil (g : Guard) : Failures limit window g []
  | cons {g : Guard} {t : Nat} {ts : List Nat} (open_ : g.locked t = false)
      (rest : Failures limit window (g.failed limit window t) ts) : Failures limit window g (t :: ts)

/-- The times that fall into the interval of length `window` from `s` on. -/
def within (window s : Nat) (t : Nat) : Bool := decide (s ≤ t ∧ t < s + window)

/-- How many of the times fall into it. -/
def countWithin (window s : Nat) (ts : List Nat) : Nat := ts.countP (within window s)

namespace Failures

variable {limit window : Nat} {g : Guard} {ts : List Nat}

/-- After a failure that locks, the next one is a window later. -/
theorem le_of_locked {t u : Nat} (hl : limit ≤ g.attempts + 1)
    (h : Failures limit window (g.failed limit window t) (u :: ts)) : t + window ≤ u := by
  cases h with
  | cons hopen _ =>
    unfold Guard.locked Guard.failed at hopen
    rw [if_pos hl] at hopen
    simpa using hopen

/-- At the limit, each failure is a window away from the one before, hence from all before. -/
theorem spaced (h : Failures limit window g ts) (hl : limit ≤ g.attempts + 1) :
    ts.Pairwise fun t u => t + window ≤ u := by
  induction h with
  | nil g => exact .nil
  | @cons g t ts _ rest ih =>
    have htail := ih (Nat.le_succ_of_le hl)
    refine List.pairwise_cons.2 ⟨?_, htail⟩
    intro u hu
    cases ts with
    | nil => cases hu
    | cons t' ts =>
      have hnext : t + window ≤ t' := rest.le_of_locked hl
      rcases List.mem_cons.1 hu with rfl | hu
      · exact hnext
      · have hlater := (List.pairwise_cons.1 htail).1 u hu
        omega

end Failures

/-- Times that are a window apart: at most one in an interval. -/
theorem countWithin_le_one {window : Nat} {ts : List Nat}
    (h : ts.Pairwise fun t u => t + window ≤ u) (s : Nat) : countWithin window s ts ≤ 1 := by
  induction ts with
  | nil => exact Nat.zero_le 1
  | cons t ts ih =>
    obtain ⟨hhead, htail⟩ := List.pairwise_cons.1 h
    unfold countWithin at ih ⊢
    rw [List.countP_cons]
    by_cases ht : within window s t = true
    · have hnone : ts.countP (within window s) = 0 := by
        rw [List.countP_eq_zero]
        intro u hu hin
        have hu := hhead u hu
        simp only [within, decide_eq_true_eq] at ht hin
        omega
      rw [if_pos ht]
      omega
    · rw [if_neg ht]
      exact ih htail

namespace Failures

variable {limit window : Nat} {g : Guard} {ts : List Nat}

theorem countWithin_le_one (h : Failures limit window g ts) (hl : limit ≤ g.attempts + 1) (s : Nat) :
    countWithin window s ts ≤ 1 :=
  Lockout.countWithin_le_one (h.spaced hl) s

/-- Below the limit, each failure uses up one attempt. -/
theorem countWithin_le_max (h : Failures limit window g ts) (s : Nat) :
    countWithin window s ts ≤ max 1 (limit - g.attempts) := by
  induction h with
  | nil g => exact Nat.zero_le _
  | @cons g t ts hopen rest ih =>
    by_cases hl : limit ≤ g.attempts + 1
    · exact Nat.le_trans ((Failures.cons hopen rest).countWithin_le_one hl s) (Nat.le_max_left _ _)
    · have hstep : countWithin window s (t :: ts) ≤ countWithin window s ts + 1 := by
        unfold countWithin
        rw [List.countP_cons]
        split <;> omega
      have hrest : countWithin window s ts ≤ max 1 (limit - (g.attempts + 1)) := ih
      omega

/-- In any interval of length `window` there are at most `limit` failures. -/
theorem countWithin_le (h : Failures limit window g ts) (hpos : 1 ≤ limit) (s : Nat) :
    countWithin window s ts ≤ limit := by
  have hmax := h.countWithin_le_max s
  omega

end Failures

end Lockout

/-
  MoneyMovement/FixedWindow.lean
  ==============================
  **Fixed-window counters.**

  A counter per key: the first hit opens a window, every hit inside it counts,
  and a hit is admitted while the count is within the limit.  A window closes a
  fixed time after it was opened, whatever was hit meanwhile.

  A burst can straddle the end of a window, so the bound over an arbitrary
  interval of the window's length is twice the limit (`passed_le`).  It holds
  from any state of the counters and for any traffic on other keys.
-/
import Mathlib.Data.List.Sort
import Mathlib.Logic.Function.Basic
import Mathlib.Tactic.SplitIfs

namespace FixedWindow

/-- An open window: how often it was hit, and when it closes. -/
structure Window where
  count : Nat
  expires : Nat

/-- A hit at the time `now`. -/
def hit (length now : Nat) : Option Window → Window
  | none => ⟨1, now + length⟩
  | some w => if now < w.expires then ⟨w.count + 1, w.expires⟩ else ⟨1, now + length⟩

variable {ι κ : Type} [DecidableEq κ]

/-- Arrivals, each with its key, its time, and the limit and window length it is held to. -/
structure Traffic (ι κ : Type) where
  key : ι → κ
  time : ι → Nat
  limit : ι → Nat
  length : ι → Nat

namespace Traffic

variable (T : Traffic ι κ)

/-- The counter of an arrival after it was hit. -/
def window (counters : κ → Option Window) (a : ι) : Window :=
  hit (T.length a) (T.time a) (counters (T.key a))

def after (counters : κ → Option Window) (a : ι) : κ → Option Window :=
  Function.update counters (T.key a) (some (T.window counters a))

/-- The arrivals that pass, in order. -/
def passed (counters : κ → Option Window) : List ι → List ι
  | [] => []
  | a :: rest =>
    if (T.window counters a).count ≤ T.limit a then
      a :: passed (T.after counters a) rest
    else passed (T.after counters a) rest

/-- An arrival on the key `k` in the interval of length `length` from `t`. -/
def During (k : κ) (t length : Nat) (a : ι) : Prop :=
  T.key a = k ∧ t ≤ T.time a ∧ T.time a < t + length

instance (k : κ) (t length : Nat) (a : ι) : Decidable (T.During k t length a) :=
  inferInstanceAs (Decidable (_ ∧ _))

variable {T} {k : κ} {t length limit : Nat} {arrivals : List ι} {counters : κ → Option Window}

/-- How many of the arrivals on `k` in the interval pass. -/
def passes (T : Traffic ι κ) (k : κ) (t length : Nat) (counters : κ → Option Window)
    (arrivals : List ι) : Nat :=
  (T.passed counters arrivals).countP fun a => decide (T.During k t length a)

/-- One arrival, and the rest. -/
theorem passes_cons (a : ι) (rest : List ι) :
    T.passes k t length counters (a :: rest) =
      (if (T.window counters a).count ≤ T.limit a ∧ T.During k t length a then 1 else 0) +
        T.passes k t length (T.after counters a) rest := by
  unfold passes
  rw [passed]
  by_cases hpass : (T.window counters a).count ≤ T.limit a
  · by_cases hduring : T.During k t length a
    · rw [if_pos hpass, if_pos ⟨hpass, hduring⟩, List.countP_cons_of_pos (by simpa using hduring),
        Nat.add_comm]
    · rw [if_pos hpass, if_neg (fun h => hduring h.2), List.countP_cons_of_neg (by simpa using hduring),
        Nat.zero_add]
  · rw [if_neg hpass, if_neg (fun h => hpass h.1), Nat.zero_add]

theorem after_self (counters : κ → Option Window) {a : ι} (h : T.key a = k) :
    T.after counters a k = some (T.window counters a) := by
  subst h
  simp [after]

theorem after_other {a : ι} (h : T.key a ≠ k) : T.after counters a k = counters k := by
  simp [after, Function.update_of_ne (Ne.symm h)]

/-- All arrivals on `k` are held to the same limit and window length. -/
def Uniform (T : Traffic ι κ) (k : κ) (limit length : Nat) (arrivals : List ι) : Prop :=
  ∀ a ∈ arrivals, T.key a = k → T.limit a = limit ∧ T.length a = length

omit [DecidableEq κ] in
theorem Uniform.tail {a : ι} {rest : List ι} (h : T.Uniform k limit length (a :: rest)) :
    T.Uniform k limit length rest := fun b hb => h b (List.mem_cons_of_mem a hb)

/-- An arrival on another key is not counted and leaves the counter alone. -/
theorem passes_cons_other {a : ι} {rest : List ι} (h : T.key a ≠ k) :
    T.passes k t length counters (a :: rest) = T.passes k t length (T.after counters a) rest := by
  rw [passes_cons, if_neg (fun hp => h hp.2.1), Nat.zero_add]

/-- Nothing is counted once the interval is over. -/
theorem passes_eq_zero (h : ∀ a ∈ arrivals, t + length ≤ T.time a) :
    T.passes k t length counters arrivals = 0 := by
  induction arrivals generalizing counters with
  | nil => rfl
  | cons a rest ih =>
    have ha := h a List.mem_cons_self
    have hout : ¬T.During k t length a := fun hd => absurd hd.2.2 (Nat.not_lt.2 ha)
    rw [passes_cons, if_neg (fun hp => hout hp.2), Nat.zero_add,
      ih fun b hb => h b (List.mem_cons_of_mem a hb)]

section Bounds

variable (huniform : T.Uniform k limit length arrivals)
  (hsorted : arrivals.Pairwise fun a b => T.time a ≤ T.time b)

include huniform hsorted

/-- A window that stays open to the end of the interval admits what is left of its limit. -/
theorem passes_le_left {w : Window} (hw : counters k = some w) (hopen : t + length ≤ w.expires) :
    T.passes k t length counters arrivals ≤ limit - w.count := by
  induction arrivals generalizing counters w with
  | nil => exact Nat.zero_le _
  | cons a rest ih =>
    obtain ⟨hfirst, hrest⟩ := List.pairwise_cons.1 hsorted
    by_cases hk : T.key a = k
    · by_cases hlate : T.time a < w.expires
      · have hwindow : T.window counters a = ⟨w.count + 1, w.expires⟩ := by
          rw [window, hk, hw, hit, if_pos hlate]
        have hafter := after_self counters hk
        rw [hwindow] at hafter
        have hle := ih huniform.tail hrest hafter hopen
        have hlimit := (huniform a List.mem_cons_self hk).1
        rw [passes_cons, hwindow, hlimit]
        dsimp only at hle ⊢
        split_ifs <;> omega
      · rw [passes_eq_zero]
        · exact Nat.zero_le _
        · intro b hb
          rcases List.mem_cons.1 hb with rfl | hb
          · omega
          · have := hfirst b hb
            omega
    · rw [passes_cons_other hk]
      exact ih huniform.tail hrest ((after_other hk).trans hw) hopen

/-- A window opened inside the interval admits its limit. -/
theorem passes_le_of_opened {a : ι} {rest : List ι} (harrivals : arrivals = a :: rest)
    (hk : T.key a = k) (hwindow : T.window counters a = ⟨1, T.time a + length⟩)
    (hin : t ≤ T.time a) : T.passes k t length counters arrivals ≤ limit := by
  subst harrivals
  have hafter := after_self counters hk
  have hle := passes_le_left huniform.tail (List.pairwise_cons.1 hsorted).2 hafter
    (t := t) (by rw [hwindow]; dsimp only; omega)
  have hlimit := (huniform a List.mem_cons_self hk).1
  rw [hwindow] at hle
  rw [passes_cons, hwindow, hlimit]
  dsimp only at hle ⊢
  split_ifs <;> omega

/-- A window that closes inside the interval leaves room for one more. -/
theorem passes_le_two {w : Window} (hw : counters k = some w) (hopen : t < w.expires) :
    T.passes k t length counters arrivals ≤ (limit - w.count) + limit := by
  induction arrivals generalizing counters w with
  | nil => exact Nat.zero_le _
  | cons a rest ih =>
    by_cases hk : T.key a = k
    · by_cases hlate : T.time a < w.expires
      · have hwindow : T.window counters a = ⟨w.count + 1, w.expires⟩ := by
          rw [window, hk, hw, hit, if_pos hlate]
        have hafter := after_self counters hk
        rw [hwindow] at hafter
        have hle := ih huniform.tail (List.pairwise_cons.1 hsorted).2 hafter hopen
        have hlimit := (huniform a List.mem_cons_self hk).1
        rw [passes_cons, hwindow, hlimit]
        dsimp only at hle ⊢
        split_ifs <;> omega
      · have hwindow : T.window counters a = ⟨1, T.time a + length⟩ := by
          rw [window, hk, hw, hit, if_neg hlate, (huniform a List.mem_cons_self hk).2]
        have hle := passes_le_of_opened huniform hsorted rfl hk hwindow (t := t) (by omega)
        omega
    · rw [passes_cons_other hk]
      exact ih huniform.tail (List.pairwise_cons.1 hsorted).2 ((after_other hk).trans hw) hopen

/-- Whatever the counters hold, at most twice the limit passes in any interval of the window's
    length. -/
theorem passes_le : T.passes k t length counters arrivals ≤ 2 * limit := by
  induction arrivals generalizing counters with
  | nil => exact Nat.zero_le _
  | cons a rest ih =>
    have htail := (List.pairwise_cons.1 hsorted).2
    by_cases hk : T.key a = k
    · -- the counter as the arrival finds it: closed before the interval, or not
      by_cases hopen : ∃ w, counters k = some w ∧ t < w.expires
      · obtain ⟨w, hw, hlt⟩ := hopen
        have := passes_le_two huniform hsorted hw hlt
        omega
      · by_cases hin : t ≤ T.time a
        · have hwindow : T.window counters a = ⟨1, T.time a + length⟩ := by
            rw [window, hk]
            cases hw : counters k with
            | none => rw [hit, (huniform a List.mem_cons_self hk).2]
            | some w =>
              have hclosed : ¬T.time a < w.expires := by
                intro hlt
                exact hopen ⟨w, hw, by omega⟩
              rw [hit, if_neg hclosed, (huniform a List.mem_cons_self hk).2]
          have := passes_le_of_opened huniform hsorted rfl hk hwindow hin
          omega
        · rw [passes_cons, if_neg (fun hp => hin hp.2.2.1), Nat.zero_add]
          exact ih huniform.tail htail
    · rw [passes_cons_other hk]
      exact ih huniform.tail htail

end Bounds

end Traffic

end FixedWindow

/-
  MoneyMovement/NearestDouble.lean
  ================================
  **Quotients of integers as binary floating point holds them.**

  The quotient of two integers is taken to the nearest number of at most 53 bits times a power of
  two, and to the even one of two that are equally near.  `nearest` computes it on naturals;
  `trunc` cuts it off at the point and `decimals` rounds it to a number of places.

  `trunc_nearest` and `decimals_nearest` say where nothing of this shows: below `2 ^ 53` the
  quotient cut off is the exact integer division, and below `2 ^ 52` the number of hundredths
  comes back from its quotient by a hundred.

  Signs are left out, and so are numbers so small that they lose bits: a quotient that is not zero
  is at least the reciprocal of its denominator.
-/
import Mathlib.Algebra.Order.Ring.Nat
import Mathlib.Data.Nat.Log

/-! ### Rounding a fraction -/

/-- `a / b` to the nearest integer, the even one when two are equally near. -/
def roundHalfEven (a b : Nat) : Nat :=
  let q := a / b
  let r := a % b
  if 2 * r < b then q else if b < 2 * r then q + 1 else q + q % 2

section Rounding

variable {a b c : Nat}

theorem le_roundHalfEven : a / b ≤ roundHalfEven a b := by
  unfold roundHalfEven
  dsimp only
  split
  · exact Nat.le_refl _
  · split <;> omega

/-- It is at most half a unit too large. -/
theorem two_mul_roundHalfEven_le : 2 * (roundHalfEven a b * b) ≤ 2 * a + b := by
  have hdiv : a / b * b + a % b = a := Nat.div_add_mod' a b
  unfold roundHalfEven
  dsimp only
  split
  · omega
  · have hnext : (a / b + 1) * b = a / b * b + b := Nat.succ_mul ..
    split
    · omega
    · have hle : (a / b + a / b % 2) * b ≤ (a / b + 1) * b := by
        refine Nat.mul_le_mul_right b ?_
        omega
      omega

/-- It is at most half a unit too small. -/
theorem two_mul_le_roundHalfEven (hb : 0 < b) : 2 * a ≤ 2 * (roundHalfEven a b * b) + b := by
  have hdiv : a / b * b + a % b = a := Nat.div_add_mod' a b
  have hmod : a % b < b := Nat.mod_lt a hb
  unfold roundHalfEven
  dsimp only
  split
  · omega
  · have hnext : (a / b + 1) * b = a / b * b + b := Nat.succ_mul ..
    split
    · omega
    · have hle : a / b * b ≤ (a / b + a / b % 2) * b := Nat.mul_le_mul_right b (Nat.le_add_right ..)
      omega

/-- An integer less than half a unit away. -/
theorem roundHalfEven_eq (hlo : 2 * (c * b) < 2 * a + b) (hhi : 2 * a < 2 * (c * b) + b) :
    roundHalfEven a b = c := by
  have hb : 0 < b := by omega
  have habove : 2 * (roundHalfEven a b * b) ≤ 2 * a + b := two_mul_roundHalfEven_le
  have hbelow : 2 * a ≤ 2 * (roundHalfEven a b * b) + b := two_mul_le_roundHalfEven hb
  have hle : roundHalfEven a b < c + 1 := by
    refine Nat.lt_of_mul_lt_mul_right (a := b) ?_
    rw [Nat.succ_mul]
    omega
  have hge : c < roundHalfEven a b + 1 := by
    refine Nat.lt_of_mul_lt_mul_right (a := b) ?_
    rw [Nat.succ_mul]
    omega
  omega

/-- It does not pass an integer. -/
theorem roundHalfEven_le (h : a ≤ c * b) : roundHalfEven a b ≤ c := by
  have hdiv : a / b * b + a % b = a := Nat.div_add_mod' a b
  rcases Nat.eq_zero_or_pos b with rfl | hb
  · obtain rfl : a = 0 := by simpa using h
    exact Nat.zero_le c
  · have hq : a / b ≤ c := Nat.div_le_of_le_mul (by rwa [Nat.mul_comm])
    rcases Nat.lt_or_eq_of_le hq with hlt | heq
    · unfold roundHalfEven
      dsimp only
      split
      · exact hq
      · split <;> omega
    · have hmod : a % b = 0 := by
        rw [heq] at hdiv
        omega
      unfold roundHalfEven
      dsimp only
      rw [hmod, if_pos (by omega)]
      exact hq

end Rounding

/-! ### Doubles -/

/-- A number of binary floating point, not negative: `mantissa / 2 ^ scale`. -/
structure Binary64 where
  mantissa : Nat
  scale : Int
  bits : mantissa ≤ 2 ^ 53

namespace Binary64

/-- `2 ^ s` is `up s / down s`. -/
def up (s : Int) : Nat := 2 ^ s.toNat

def down (s : Int) : Nat := 2 ^ (-s).toNat

/-- The scale at which `a / b` has 53 bits before the point. -/
def scaleOf (a b : Nat) : Int :=
  let s : Int := 53 + b.log2 - a.log2
  if a * up s < 2 ^ 53 * (b * down s) then s else s - 1

section Scale

variable {a b : Nat}

theorem up_pos (s : Int) : 0 < up s := Nat.two_pow_pos _

theorem down_pos (s : Int) : 0 < down s := Nat.two_pow_pos _

/-- One step down the scale halves. -/
theorem up_down_sub_one (s : Int) :
    up s = 2 * up (s - 1) ∧ down (s - 1) = down s ∨ up (s - 1) = up s ∧ down (s - 1) = 2 * down s := by
  unfold up down
  rcases Int.lt_or_le 0 s with h | h
  · left
    have hup : s.toNat = (s - 1).toNat + 1 := by omega
    have hdown : (-(s - 1)).toNat = (-s).toNat := by omega
    rw [hup, hdown, Nat.pow_succ, Nat.mul_comm]
    exact ⟨rfl, rfl⟩
  · right
    have hup : (s - 1).toNat = s.toNat := by omega
    have hdown : (-(s - 1)).toNat = (-s).toNat + 1 := by omega
    rw [hup, hdown, Nat.pow_succ, Nat.mul_comm]
    exact ⟨rfl, rfl⟩

theorem pow_mul_up (m n : Nat) : 2 ^ m * up (n - m : Int) = 2 ^ n * down (n - m : Int) := by
  unfold up down
  rw [← Nat.pow_add, ← Nat.pow_add]
  congr 1
  omega

/-- The first guess is right but for one step. -/
theorem guess_bounds (s : Int) (hs : s = ((53 + b.log2 : Nat) : Int) - a.log2) :
    (a ≠ 0 → 2 ^ 52 * (b * down s) ≤ a * up s) ∧
      (b ≠ 0 → a * up s < 2 ^ 54 * (b * down s)) := by
  have heven : 2 ^ a.log2 * up s = 2 ^ 52 * (2 ^ (b.log2 + 1) * down s) := by
    rw [hs, pow_mul_up, ← Nat.mul_assoc, ← Nat.pow_add]
    congr 2
    omega
  constructor
  · intro ha
    calc 2 ^ 52 * (b * down s)
        ≤ 2 ^ 52 * (2 ^ (b.log2 + 1) * down s) :=
          Nat.mul_le_mul_left _ (Nat.mul_le_mul_right _ Nat.lt_log2_self.le)
      _ = 2 ^ a.log2 * up s := heven.symm
      _ ≤ a * up s := Nat.mul_le_mul_right _ (Nat.log2_self_le ha)
  · intro hb
    have hbit : 2 ^ b.log2 * down s ≤ b * down s := Nat.mul_le_mul_right _ (Nat.log2_self_le hb)
    calc a * up s
        < 2 ^ (a.log2 + 1) * up s := Nat.mul_lt_mul_of_pos_right Nat.lt_log2_self (up_pos s)
      _ = 2 * (2 ^ a.log2 * up s) := by rw [Nat.pow_succ, Nat.mul_comm _ 2, Nat.mul_assoc]
      _ = 2 ^ 54 * (2 ^ b.log2 * down s) := by
          rw [heven, Nat.pow_succ 2 b.log2, Nat.mul_comm _ 2, Nat.mul_assoc]
          omega
      _ ≤ 2 ^ 54 * (b * down s) := Nat.mul_le_mul_left _ hbit

theorem lt_pow_scale (hb : b ≠ 0) : a * up (scaleOf a b) < 2 ^ 53 * (b * down (scaleOf a b)) := by
  unfold scaleOf
  dsimp only
  generalize hs : (53 + b.log2 - a.log2 : Int) = s
  have hguess := (guess_bounds (a := a) s (by rw [← hs]; rfl)).2 hb
  split
  · assumption
  · rcases up_down_sub_one s with ⟨hup, hdown⟩ | ⟨hup, hdown⟩
    · rw [hup, Nat.mul_left_comm] at hguess
      rw [hdown]
      omega
    · rw [hup, hdown, Nat.mul_left_comm b]
      omega

theorem pow_scale_le (ha : a ≠ 0) : 2 ^ 52 * (b * down (scaleOf a b)) ≤ a * up (scaleOf a b) := by
  unfold scaleOf
  dsimp only
  generalize hs : (53 + b.log2 - a.log2 : Int) = s
  split
  · exact (guess_bounds s (by rw [← hs]; rfl)).1 ha
  · rename_i hlarge
    rcases up_down_sub_one s with ⟨hup, hdown⟩ | ⟨hup, hdown⟩
    · rw [hup, Nat.mul_left_comm] at hlarge
      rw [hdown]
      omega
    · rw [hup, hdown, Nat.mul_left_comm b]
      omega

end Scale

/-! ### Quotients -/

theorem mantissa_bits (a b : Nat) :
    roundHalfEven (a * up (scaleOf a b)) (b * down (scaleOf a b)) ≤ 2 ^ 53 := by
  rcases Nat.eq_zero_or_pos b with rfl | hb
  · unfold roundHalfEven
    dsimp only
    rw [Nat.zero_mul, Nat.div_zero]
    split
    · exact Nat.zero_le _
    · split <;> omega
  · exact roundHalfEven_le (lt_pow_scale hb.ne').le

/-- The double nearest to `a / b`. -/
def nearest (a b : Nat) : Binary64 :=
  ⟨roundHalfEven (a * up (scaleOf a b)) (b * down (scaleOf a b)), scaleOf a b, mantissa_bits a b⟩

/-- Whether the exponent of a double reaches so far. -/
def finite (x : Binary64) : Bool := x.mantissa.log2 - x.scale < 1024

/-- The integer part. -/
def trunc (x : Binary64) : Nat := x.mantissa * down x.scale / up x.scale

/-- The number of units in the last of so many decimal places. -/
def decimals (places : Nat) (x : Binary64) : Nat :=
  roundHalfEven (x.mantissa * 10 ^ places * down x.scale) (up x.scale)

section Exact

variable {a b : Nat}

theorem nearest_zero (b : Nat) : (nearest 0 b).mantissa = 0 := by
  show roundHalfEven (0 * up (scaleOf 0 b)) _ = 0
  rw [Nat.zero_mul]
  exact Nat.le_zero.1 (roundHalfEven_le (Nat.zero_le _))

/-- The quotient of a small integer keeps all bits before the point. -/
theorem scaleOf_nonneg (hsmall : a < 2 ^ 53) : 0 ≤ scaleOf a b := by
  have hlog : a.log2 ≤ 52 := by
    rcases Nat.eq_zero_or_pos a with rfl | ha
    · exact Nat.zero_le _
    · exact Nat.le_of_lt_succ ((Nat.log2_lt ha.ne').2 hsmall)
  unfold scaleOf
  dsimp only
  split <;> omega

theorem down_scaleOf (hsmall : a < 2 ^ 53) : down (scaleOf a b) = 1 := by
  have hscale : 0 ≤ scaleOf a b := scaleOf_nonneg hsmall
  unfold down
  rw [Int.toNat_of_nonpos (by omega), Nat.pow_zero]

theorem finite_nearest (hsmall : a < 2 ^ 53) : (nearest a b).finite = true := by
  have hscale : 0 ≤ (nearest a b).scale := scaleOf_nonneg hsmall
  have hlog : (nearest a b).mantissa.log2 ≤ 53 := by
    rcases Nat.eq_zero_or_pos (nearest a b).mantissa with hzero | hpos
    · rw [hzero]
      exact Nat.zero_le _
    · refine Nat.le_of_lt_succ ((Nat.log2_lt hpos.ne').2 ?_)
      exact Nat.lt_of_le_of_lt (nearest a b).bits (by decide)
  refine decide_eq_true ?_
  omega

/-- The quotient of a small integer is a mantissa that fills its bits, over a power of two. -/
theorem nearest_small (ha : 0 < a) (hsmall : a < 2 ^ 53) : ∃ u, 0 < u ∧ 2 ^ 52 * b ≤ a * u ∧
    up (nearest a b).scale = u ∧ down (nearest a b).scale = 1 ∧
      (nearest a b).mantissa = roundHalfEven (a * u) b := by
  have hle := pow_scale_le (b := b) ha.ne'
  have hdown := down_scaleOf (b := b) hsmall
  rw [hdown, Nat.mul_one] at hle
  refine ⟨up (scaleOf a b), up_pos _, hle, rfl, hdown, ?_⟩
  show roundHalfEven (a * up (scaleOf a b)) (b * down (scaleOf a b)) = _
  rw [hdown, Nat.mul_one]

/-- Below `2 ^ 53` the quotient cut off is the quotient of the integers. -/
theorem trunc_nearest (hb : 0 < b) (hsmall : a < 2 ^ 53) : (nearest a b).trunc = a / b := by
  rcases Nat.eq_zero_or_pos a with rfl | ha
  · rw [trunc, nearest_zero, Nat.zero_mul, Nat.zero_div, Nat.zero_div]
  · obtain ⟨u, hupos, hle, hup, hdown, hmantissa⟩ := nearest_small (b := b) ha hsmall
    rw [trunc, hmantissa, hup, hdown, Nat.mul_one]
    have hfloor : a / b * u ≤ roundHalfEven (a * u) b := by
      refine le_trans ?_ le_roundHalfEven
      rw [Nat.mul_comm, Nat.mul_comm a]
      exact Nat.mul_div_le_mul_div_assoc u a b
    refine Nat.div_eq_of_lt_le hfloor ?_
    -- The next integer is farther away than half a unit of the mantissa.
    by_contra hnext
    have hhalf : 2 * (roundHalfEven (a * u) b * b) ≤ 2 * (a * u) + b := two_mul_roundHalfEven_le
    have hceil : a + 1 ≤ (a / b + 1) * b := Nat.lt_mul_of_div_lt (Nat.lt_succ_self _) hb
    have hfar : (a + 1) * u ≤ roundHalfEven (a * u) b * b :=
      calc (a + 1) * u ≤ (a / b + 1) * b * u := Nat.mul_le_mul_right u hceil
        _ = (a / b + 1) * u * b := Nat.mul_right_comm ..
        _ ≤ roundHalfEven (a * u) b * b := Nat.mul_le_mul_right b (Nat.le_of_not_lt hnext)
    have hunits : a * u < 2 ^ 53 * u := Nat.mul_lt_mul_of_pos_right hsmall hupos
    rw [Nat.succ_mul] at hfar
    omega

/-- Below `2 ^ 52` a number of hundredths, or of other decimal units, comes back from its quotient. -/
theorem decimals_nearest (places : Nat) (hsmall : a < 2 ^ 52) :
    (nearest a (10 ^ places)).decimals places = a := by
  have hb : 0 < 10 ^ places := Nat.pow_pos (by decide)
  unfold decimals
  rcases Nat.eq_zero_or_pos a with rfl | ha
  · rw [nearest_zero, Nat.zero_mul, Nat.zero_mul]
    exact Nat.le_zero.1 (roundHalfEven_le (Nat.zero_le _))
  · obtain ⟨u, hupos, hle, hup, hdown, hmantissa⟩ :=
      nearest_small (b := 10 ^ places) ha (hsmall.trans (by decide))
    rw [hmantissa, hup, hdown, Nat.mul_one]
    generalize 10 ^ places = b at *
    have habove : 2 * (roundHalfEven (a * u) b * b) ≤ 2 * (a * u) + b := two_mul_roundHalfEven_le
    have hbelow : 2 * (a * u) ≤ 2 * (roundHalfEven (a * u) b * b) + b := two_mul_le_roundHalfEven hb
    have hunits : a * u < 2 ^ 52 * u := Nat.mul_lt_mul_of_pos_right hsmall hupos
    exact roundHalfEven_eq (by omega) (by omega)

end Exact

end Binary64

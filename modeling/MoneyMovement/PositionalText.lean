/-
  MoneyMovement/PositionalText.lean
  =================================
  **Fixed-width positional numerals over an alphabet.**

  `encode A n v` writes `v` in `n` characters, most significant digit first and
  padded with the zero digit: the text behind zero-padded decimal fields and
  behind base-32 identifiers.  On values below `base ^ n` it is undone by
  `decode?`, hence injective; and where the digits ascend as characters do, the
  numerals of one width ascend as the values they write.
-/
import Mathlib.Algebra.Order.Ring.Nat
import Mathlib.Data.List.Nodup

/-- A positional alphabet: at least two digits, no two equal. -/
structure Alphabet where
  digits : List Char
  nodup : digits.Nodup
  two_le : 2 ≤ digits.length

namespace Alphabet

variable (A : Alphabet)

/-- The number of digits. -/
def base : Nat := A.digits.length

theorem base_pos : 0 < A.base := Nat.lt_of_lt_of_le (by decide) A.two_le

/-- The character of the digit `d`. -/
def digit (d : Nat) : Char := A.digits.getD d '0'

/-- The value of a character, if it is a digit. -/
def value? (c : Char) : Option Nat := A.digits.idxOf? c

theorem value?_digit {d : Nat} (h : d < A.base) : A.value? (A.digit d) = some d := by
  have hd : A.digit d = A.digits.get ⟨d, h⟩ := by
    simp [digit, List.getD_eq_getElem?_getD, List.getElem?_eq_getElem (show d < A.digits.length from h)]
  rw [value?, hd, List.idxOf?_eq_some_iff]
  refine ⟨h, rfl, ?_⟩
  intro j hj he
  have hj' : j < A.digits.length := Nat.lt_trans hj h
  have hjd : (⟨j, hj'⟩ : Fin A.digits.length) = ⟨d, h⟩ :=
    List.nodup_iff_injective_get.1 A.nodup he
  exact absurd (Fin.mk.inj hjd) (Nat.ne_of_lt hj)

/-- `v` in `n` characters, most significant first. -/
def encode : Nat → Nat → List Char
  | 0, _ => []
  | n + 1, v => encode n (v / A.base) ++ [A.digit (v % A.base)]

@[simp] theorem length_encode (n v : Nat) : (A.encode n v).length = n := by
  induction n generalizing v with
  | zero => rfl
  | succ n ih => simp [encode, ih]

/-- One step of reading a numeral. -/
def push? (acc : Option Nat) (c : Char) : Option Nat :=
  match acc, A.value? c with
  | some v, some d => some (v * A.base + d)
  | _, _ => none

/-- Read a numeral, most significant digit first. -/
def decode? (cs : List Char) : Option Nat := cs.foldl A.push? (some 0)

theorem decode?_encode {n v : Nat} (h : v < A.base ^ n) : A.decode? (A.encode n v) = some v := by
  induction n generalizing v with
  | zero =>
    rw [Nat.pow_zero] at h
    have : v = 0 := by omega
    subst this
    rfl
  | succ n ih =>
    have hq : v / A.base < A.base ^ n := by
      rw [Nat.div_lt_iff_lt_mul A.base_pos, ← Nat.pow_succ]
      exact h
    have hr : A.value? (A.digit (v % A.base)) = some (v % A.base) :=
      A.value?_digit (Nat.mod_lt _ A.base_pos)
    rw [encode, decode?, List.foldl_append, ← decode?, ih hq]
    simp only [List.foldl_cons, List.foldl_nil, push?, hr]
    rw [Nat.mul_comm, Nat.div_add_mod]

theorem encode_injective {n v w : Nat} (hv : v < A.base ^ n) (hw : w < A.base ^ n)
    (h : A.encode n v = A.encode n w) : v = w := by
  have := A.decode?_encode hv
  rw [h, A.decode?_encode hw] at this
  exact (Option.some.inj this).symm

theorem digit_mem {d : Nat} (h : d < A.base) : A.digit d ∈ A.digits := by
  have h : d < A.digits.length := h
  simp [digit, List.getD_eq_getElem?_getD, List.getElem?_eq_getElem h]

theorem mem_digits_of_mem_encode {n v : Nat} {c : Char} (h : c ∈ A.encode n v) : c ∈ A.digits := by
  induction n generalizing v with
  | zero => cases h
  | succ n ih =>
    rcases List.mem_append.1 h with h | h
    · exact ih h
    · obtain rfl := List.mem_singleton.1 h
      exact A.digit_mem (Nat.mod_lt _ A.base_pos)

/-! ### The order of numerals -/

/-- The digits ascend in the order of characters. -/
def Ascending : Prop := A.digits.Pairwise (· < ·)

instance : Decidable A.Ascending := inferInstanceAs (Decidable (List.Pairwise _ _))

variable {A}

theorem Ascending.digit_lt (hA : A.Ascending) {d e : Nat} (h : d < e) (he : e < A.base) :
    A.digit d < A.digit e := by
  have hd : d < A.digits.length := Nat.lt_trans h he
  have he : e < A.digits.length := he
  have hget := List.pairwise_iff_getElem.1 hA d e hd he h
  simpa [digit, List.getD_eq_getElem?_getD, List.getElem?_eq_getElem hd,
    List.getElem?_eq_getElem he] using hget

/-- Between texts of one length, what stands behind them does not count. -/
theorem append_lt_append {x y : List Char} (hlen : x.length = y.length) (h : x < y)
    (t u : List Char) : x ++ t < y ++ u := by
  induction x generalizing y with
  | nil =>
    cases y with
    | nil => exact absurd h (List.lt_irrefl _)
    | cons d y => cases hlen
  | cons c x ih =>
    cases y with
    | nil => cases hlen
    | cons d y =>
      simp only [List.cons_append, List.cons_lt_cons_iff] at h ⊢
      rcases h with h | ⟨hcd, h⟩
      · exact .inl h
      · exact .inr ⟨hcd, ih (Nat.succ.inj hlen) h⟩

/-- Numerals of one width are ordered as their values are. -/
theorem Ascending.encode_lt (hA : A.Ascending) {n v w : Nat} (h : v < w) (hw : w < A.base ^ n) :
    A.encode n v < A.encode n w := by
  induction n generalizing v w with
  | zero =>
    rw [Nat.pow_zero] at hw
    omega
  | succ n ih =>
    have hq : w / A.base < A.base ^ n := by
      rw [Nat.div_lt_iff_lt_mul A.base_pos, ← Nat.pow_succ]
      exact hw
    -- the leading digits decide; where they agree, the last one does
    rcases Nat.lt_or_eq_of_le (Nat.div_le_div_right (c := A.base) (Nat.le_of_lt h)) with hlt | heq
    · exact append_lt_append (by simp) (ih hlt hq) _ _
    · have hmod : v % A.base < w % A.base := by
        have hv := Nat.div_add_mod v A.base
        have hw := Nat.div_add_mod w A.base
        rw [heq] at hv
        omega
      rw [encode, encode, heq]
      have hlast := hA.digit_lt hmod (Nat.mod_lt _ A.base_pos)
      exact List.append_left_lt (List.cons_lt_cons_iff.2 (.inl hlast))

end Alphabet

/-- The decimal digits. -/
def decimalAlphabet : Alphabet where
  digits := ['0', '1', '2', '3', '4', '5', '6', '7', '8', '9']
  nodup := by decide
  two_le := by decide

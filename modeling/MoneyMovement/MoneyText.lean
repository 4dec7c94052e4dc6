/-
  MoneyMovement/MoneyText.lean
  ============================
  **Amounts as text** — `Money.from_decimal_string` and `to_decimal_string`.

  The parser is the compiled pattern `_DECIMAL_PATTERN` followed by textual
  padding; the renderer is floor division, remainder and zero padding.  A
  `DecimalText` is an amount as the comment over the pattern means it: one to
  twelve ASCII digits, perhaps a dot and one or two more, and nothing else.

  What the pattern matches is more than that: `$` lets a final newline through,
  so each amount has two accepted spellings.  On the texts the renderer
  produces the parser is exact.
-/
import MoneyMovement.TextPattern
import MoneyMovement.Kernel
import Mathlib.Algebra.Field.Rat
import Mathlib.Tactic.FieldSimp
import Mathlib.Tactic.Ring

namespace MoneyMovement

namespace Currency

def exponent : Currency → Nat
  | BDT => 2

/-- `minor_units_per_major`. -/
def minorUnitsPerMajor (c : Currency) : Nat := 10 ^ c.exponent

end Currency

/-- The two texts of `InvalidMoneyError` that parsing raises. -/
inductive InvalidMoneyError where
  /-- `Malformed amount {raw!r}` -/
  | malformed (raw : String)
  /-- `{code} permits at most {exponent} decimal places` -/
  | excessPlaces (c : Currency)
deriving DecidableEq, Repr

/-- `^(?P<major>[0-9]{1,12})(?:\.(?P<minor>[0-9]{1,2}))?$`. -/
def decimalPattern : TextPattern :=
  .seq .start <|
  .seq (.group "major" (.chars Char.isDigit 1 12)) <|
  .seq (.optional (.seq (.chars (· == '.') 1 1) (.group "minor" (.chars Char.isDigit 1 2))))
  .stop

namespace Money

/-- `from_decimal_string`. -/
def fromDecimalString (raw : String) (c : Currency := .BDT) : Except InvalidMoneyError Money :=
  match decimalPattern.firstMatch raw.toList with
  | none => .error (.malformed raw)
  | some found =>
    let fraction := (found.group "minor").getD []
    if c.exponent < fraction.length then
      .error (.excessPlaces c)
    else
      let major := Nat.ofDigitChars 10 ((found.group "major").getD []) 0
      let fractionPadded := fraction.rightpad c.exponent '0'
      let digits := if fractionPadded = [] then ['0'] else fractionPadded
      .ok ⟨major * c.minorUnitsPerMajor + Nat.ofDigitChars 10 digits 0, c⟩

/-- `to_decimal_string`. -/
def toDecimalString (m : Money) : String :=
  let sign := if m.minor < 0 then "-" else ""
  let magnitude := m.minor.natAbs
  let unit := m.currency.minorUnitsPerMajor
  if m.currency.exponent = 0 then
    sign ++ String.ofList (Nat.toDigits 10 magnitude)
  else
    sign ++ String.ofList (Nat.toDigits 10 (magnitude / unit)) ++ "." ++
      String.ofList ((Nat.toDigits 10 (magnitude % unit)).leftpad m.currency.exponent '0')

end Money

/-! ### The texts of amounts -/

/-- One to twelve ASCII digits, optionally a dot and one or two ASCII digits. -/
structure DecimalText where
  whole : List Char
  fraction : Option (List Char)
  whole_digits : ∀ c ∈ whole, c.isDigit = true
  whole_length : 1 ≤ whole.length ∧ whole.length ≤ 12
  fraction_digits : ∀ f ∈ fraction, ∀ c ∈ f, c.isDigit = true
  fraction_length : ∀ f ∈ fraction, 1 ≤ f.length ∧ f.length ≤ 2

/-- The value of the digits behind the dot: each place a tenth of the one before it. -/
def tenths : List Char → ℚ
  | [] => 0
  | c :: cs => ((c.toNat - '0'.toNat : Nat) + tenths cs) / 10

namespace DecimalText

/-- The dot and the digits behind it, if any. -/
def point (t : DecimalText) : List Char :=
  match t.fraction with
  | none => []
  | some f => '.' :: f

def chars (t : DecimalText) : List Char := t.whole ++ t.point

def text (t : DecimalText) : String := String.ofList t.chars

/-- The number the text denotes. -/
def value (t : DecimalText) : ℚ :=
  Nat.ofDigitChars 10 t.whole 0 + tenths (t.fraction.getD [])

/-- The amount the parser reads from it. -/
def minor (t : DecimalText) : Nat :=
  Nat.ofDigitChars 10 t.whole 0 * 100 +
    Nat.ofDigitChars 10 ((t.fraction.getD []).rightpad 2 '0') 0

/-- The groups of the match, the last closed first. -/
def groups (t : DecimalText) : List (String × List Char) :=
  match t.fraction with
  | none => [("major", t.whole)]
  | some f => [("minor", f), ("major", t.whole)]

/-- Nothing, or something that is not a digit. -/
def NoDigit (x : List Char) : Prop := ∀ c ∈ x.head?, c.isDigit = false

/-- A run of digits ends where the digits end. -/
theorem digits_append_inj {w w' x x' : List Char} (hw : ∀ c ∈ w, c.isDigit = true)
    (hw' : ∀ c ∈ w', c.isDigit = true) (hx : NoDigit x) (hx' : NoDigit x')
    (h : w ++ x = w' ++ x') : w = w' ∧ x = x' := by
  induction w generalizing w' with
  | nil =>
    cases w' with
    | nil => exact ⟨rfl, h⟩
    | cons d w' =>
      have hd : x.head? = some d := by simp_all
      have := hx d hd
      rw [hw' d List.mem_cons_self] at this
      cases this
  | cons c w ih =>
    cases w' with
    | nil =>
      have hc : x'.head? = some c := by
        rw [← show c :: (w ++ x) = x' from h]
        rfl
      have := hx' c hc
      rw [hw c List.mem_cons_self] at this
      cases this
    | cons d w' =>
      obtain ⟨rfl, htail⟩ := List.cons.inj h
      obtain ⟨rfl, hx⟩ := ih (fun c hc => hw c (List.mem_cons_of_mem _ hc))
        (fun c hc => hw' c (List.mem_cons_of_mem _ hc)) htail
      exact ⟨rfl, hx⟩

/-- What `$` leaves unread. -/
def Trailing (tail : List Char) : Prop := tail = [] ∨ tail = ['\n']

theorem Trailing.noDigit {tail : List Char} (h : Trailing tail) : NoDigit tail := by
  rcases h with rfl | rfl
  · simp [NoDigit]
  · simp [NoDigit]

theorem noDigit_point {tail : List Char} (t : DecimalText) (h : Trailing tail) :
    NoDigit (t.point ++ tail) := by
  unfold point
  split
  · exact h.noDigit
  · simp [NoDigit]

/-- An amount, and what follows it, can be read off the text. -/
theorem chars_append_inj {t t' : DecimalText} {tail tail' : List Char} (h : Trailing tail)
    (h' : Trailing tail') (heq : t.chars ++ tail = t'.chars ++ tail') :
    t.whole = t'.whole ∧ t.fraction = t'.fraction ∧ tail = tail' := by
  rw [chars, chars, List.append_assoc, List.append_assoc] at heq
  obtain ⟨hwhole, hpoint⟩ := digits_append_inj t.whole_digits t'.whole_digits
    (t.noDigit_point h) (t'.noDigit_point h') heq
  refine ⟨hwhole, ?_⟩
  unfold point at hpoint
  cases hf : t.fraction with
  | none =>
    cases hf' : t'.fraction with
    | none => simpa [hf, hf'] using hpoint
    | some f' =>
      rcases h with rfl | rfl <;> simp [hf, hf'] at hpoint
  | some f =>
    cases hf' : t'.fraction with
    | none => rcases h' with rfl | rfl <;> simp [hf, hf'] at hpoint
    | some f' =>
      simp only [hf, hf', List.cons_append, List.cons.injEq, true_and] at hpoint
      obtain ⟨rfl, htail⟩ := digits_append_inj (t.fraction_digits f hf)
        (t'.fraction_digits f' hf') h.noDigit h'.noDigit hpoint
      exact ⟨rfl, htail⟩

/-! ### What the pattern matches -/

theorem runs_point {k k' : TextCursor} :
    k' ∈ (TextPattern.optional (.seq (.chars (· == '.') 1 1)
        (.group "minor" (.chars Char.isDigit 1 2)))).runs k ↔
      (∃ f tail, k.rest = '.' :: f ++ tail ∧ (∀ c ∈ f, c.isDigit = true) ∧ 1 ≤ f.length ∧
        f.length ≤ 2 ∧ k' = ⟨k.passed + 1 + f.length, tail, ("minor", f) :: k.groups⟩) ∨
      k' = k := by
  rw [TextPattern.mem_runs_optional]
  refine or_congr_left ?_
  simp only [TextPattern.mem_runs_seq, TextPattern.mem_runs_group, TextPattern.mem_runs_chars]
  constructor
  · rintro ⟨_, ⟨w, tail, hrest, hw, hlo, hhi, rfl⟩, _, ⟨f, tail', htail, hf, hlo', hhi', rfl⟩, rfl⟩
    obtain ⟨c, rfl⟩ := List.length_eq_one_iff.1 (Nat.le_antisymm hhi hlo)
    have hc : c = '.' := by simpa using hw c List.mem_cons_self
    subst hc
    dsimp only at htail
    subst htail
    refine ⟨f, tail', hrest, hf, hlo', hhi', ?_⟩
    simp [TextCursor.close]
  · rintro ⟨f, tail, hrest, hf, hlo, hhi, rfl⟩
    refine ⟨_, ⟨['.'], f ++ tail, hrest, by simp, by simp, by simp, rfl⟩, _,
      ⟨f, tail, rfl, hf, hlo, hhi, rfl⟩, ?_⟩
    simp [TextCursor.close]

/-- The pattern matches the texts of amounts, with or without a newline behind them. -/
theorem mem_runs_decimalPattern {text : List Char} {k : TextCursor} :
    k ∈ decimalPattern.runs ⟨0, text, []⟩ ↔
      ∃ (t : DecimalText) (tail : List Char), Trailing tail ∧ text = t.chars ++ tail ∧
        k = ⟨t.chars.length, tail, t.groups⟩ := by
  simp only [decimalPattern, TextPattern.mem_runs_seq, TextPattern.mem_runs_start,
    TextPattern.mem_runs_stop, TextPattern.mem_runs_group, TextPattern.mem_runs_chars, runs_point]
  constructor
  · rintro ⟨_, ⟨-, rfl⟩, _, ⟨_, ⟨w, x, htext, hw, hlo, hhi, rfl⟩, rfl⟩, m, hm, hstop, rfl⟩
    dsimp only at htext
    subst htext
    rcases hm with ⟨f, tail, hx, hf, hlo', hhi', rfl⟩ | rfl
    · refine ⟨⟨w, some f, hw, ⟨hlo, hhi⟩, ?_, ?_⟩, tail, hstop, ?_, ?_⟩
      · simpa using hf
      · simpa using ⟨hlo', hhi'⟩
      · simp only [TextCursor.close] at hx
        simp [chars, point, hx]
      · simp [chars, point, groups, TextCursor.close]
        omega
    · refine ⟨⟨w, none, hw, ⟨hlo, hhi⟩, by simp, by simp⟩, x, hstop, ?_, ?_⟩
      · simp [chars, point]
      · simp [chars, point, groups, TextCursor.close]
  · rintro ⟨t, tail, htail, rfl, rfl⟩
    refine ⟨_, ⟨trivial, rfl⟩, _, ⟨_, ⟨t.whole, t.point ++ tail, ?_, t.whole_digits,
      t.whole_length.1, t.whole_length.2, rfl⟩, rfl⟩, ⟨t.chars.length, tail, t.groups⟩, ?_, htail,
      rfl⟩
    · simp [chars]
    · cases hf : t.fraction with
      | none =>
        right
        simp [chars, point, groups, TextCursor.close, hf]
      | some f =>
        left
        refine ⟨f, tail, ?_, t.fraction_digits f hf, (t.fraction_length f hf).1,
          (t.fraction_length f hf).2, ?_⟩
        · simp [TextCursor.close, point, hf]
        · simp [chars, point, groups, TextCursor.close, hf]
          omega

/-- No amount ends in a newline. -/
theorem text_newline_ne (t t' : DecimalText) : t.text ++ "\n" ≠ t'.text := by
  intro heq
  have hchars : t.chars ++ ['\n'] = t'.chars ++ [] := by
    have := congrArg String.toList heq
    simpa [text] using this
  have := (chars_append_inj (.inr rfl) (.inl rfl) hchars).2.2
  cases this

theorem group_minor (t : DecimalText) (n : Nat) (tail : List Char) :
    (⟨n, tail, t.groups⟩ : TextCursor).group "minor" = t.fraction := by
  unfold groups TextCursor.group
  cases t.fraction <;> simp

theorem group_major (t : DecimalText) (n : Nat) (tail : List Char) :
    (⟨n, tail, t.groups⟩ : TextCursor).group "major" = some t.whole := by
  unfold groups TextCursor.group
  cases t.fraction <;> simp

theorem length_fraction_le (t : DecimalText) : (t.fraction.getD []).length ≤ 2 := by
  cases hf : t.fraction with
  | none => simp
  | some f => exact (t.fraction_length f hf).2

end DecimalText

open DecimalText

/-! ### The parser -/

namespace Money

/-- From the groups of a match on, the parser cannot fail. -/
theorem fromDecimalString_of_match {s : String} {t : DecimalText} {n : Nat} {tail : List Char}
    (h : decimalPattern.firstMatch s.toList = some ⟨n, tail, t.groups⟩) :
    fromDecimalString s = .ok ⟨t.minor, .BDT⟩ := by
  have hplaces : ¬Currency.BDT.exponent < (t.fraction.getD []).length :=
    Nat.not_lt.2 t.length_fraction_le
  have hpad : (t.fraction.getD []).rightpad Currency.BDT.exponent '0' ≠ [] := by
    intro hnil
    have hlen : (t.fraction.getD []).length + (2 - (t.fraction.getD []).length) = 0 := by
      simpa [List.rightpad, Currency.exponent] using congrArg List.length hnil
    omega
  unfold fromDecimalString
  rw [h]
  dsimp only
  rw [group_minor, group_major, if_neg hplaces, if_neg hpad]
  simp [DecimalText.minor, Currency.minorUnitsPerMajor, Currency.exponent]

/-- The accepted texts, and the amount read from each. -/
theorem fromDecimalString_ok_iff {s : String} {m : Money} :
    fromDecimalString s = .ok m ↔
      ∃ t : DecimalText, (s = t.text ∨ s = t.text ++ "\n") ∧ m = ⟨t.minor, .BDT⟩ := by
  constructor
  · intro h
    cases hm : decimalPattern.firstMatch s.toList with
    | none => simp [fromDecimalString, hm] at h
    | some k =>
      obtain ⟨t, tail, htail, hs, rfl⟩ := mem_runs_decimalPattern.1 (TextPattern.firstMatch_mem hm)
      rw [fromDecimalString_of_match hm] at h
      refine ⟨t, ?_, (Except.ok.inj h).symm⟩
      rcases htail with rfl | rfl
      · left
        rw [text, ← List.append_nil t.chars, ← hs, String.ofList_toList]
      · right
        apply String.toList_inj.1
        rw [hs, text, String.toList_append, String.toList_ofList]
        rfl
  · rintro ⟨t, hs, rfl⟩
    obtain ⟨tail, htail, hs⟩ : ∃ tail, Trailing tail ∧ s.toList = t.chars ++ tail := by
      rcases hs with rfl | rfl
      · exact ⟨[], .inl rfl, by simp [text]⟩
      · exact ⟨['\n'], .inr rfl, by simp [text]⟩
    obtain ⟨k, hk, hmem⟩ := TextPattern.exists_firstMatch
      (mem_runs_decimalPattern.2 ⟨t, tail, htail, hs, rfl⟩)
    obtain ⟨t', tail', htail', hs', rfl⟩ := mem_runs_decimalPattern.1 hmem
    -- the first match need not be the one built above, but reads the same amount
    obtain ⟨hwhole, hfraction, -⟩ := chars_append_inj htail htail' (hs.symm.trans hs')
    rw [fromDecimalString_of_match hk, DecimalText.minor, DecimalText.minor, hwhole, hfraction]

/-- The parser accepts exactly the texts of amounts, but for the amounts it also accepts with a
    newline behind them. -/
theorem accepts_amounts_only_iff (s : String) :
    ((∃ m, fromDecimalString s = .ok m) ↔ ∃ t : DecimalText, s = t.text) ↔
      ¬∃ t : DecimalText, s = t.text ++ "\n" := by
  constructor
  · rintro hexact ⟨t, rfl⟩
    obtain ⟨t', ht'⟩ := hexact.1 ⟨_, fromDecimalString_ok_iff.2 ⟨t, .inr rfl, rfl⟩⟩
    exact text_newline_ne t t' ht'
  · intro hnewline
    constructor
    · rintro ⟨m, hm⟩
      obtain ⟨t, hs | hs, -⟩ := fromDecimalString_ok_iff.1 hm
      · exact ⟨t, hs⟩
      · exact absurd ⟨t, hs⟩ hnewline
    · rintro ⟨t, ht⟩
      exact ⟨_, fromDecimalString_ok_iff.2 ⟨t, .inl ht, rfl⟩⟩

/-- The amount `5`. -/
def five : DecimalText where
  whole := ['5']
  fraction := none
  whole_digits := List.forall_mem_singleton.2 rfl
  whole_length := ⟨Nat.le_refl 1, Nat.le_add_left 1 11⟩
  fraction_digits := nofun
  fraction_length := nofun

/-- `5` with a newline behind it is read as five taka. -/
theorem newline_after_amount_accepted :
    fromDecimalString "5\n" = .ok ⟨500, .BDT⟩ ∧ ¬∃ t : DecimalText, "5\n" = t.text := by
  constructor
  · exact fromDecimalString_ok_iff.2 ⟨five, .inr (by decide), by decide⟩
  · rintro ⟨t, ht⟩
    exact text_newline_ne five t ht

/-- Whatever is not accepted is refused as malformed. -/
theorem fromDecimalString_malformed {s : String} (h : ∀ m, fromDecimalString s ≠ .ok m) :
    fromDecimalString s = .error (.malformed s) := by
  cases hm : decimalPattern.firstMatch s.toList with
  | none => simp [fromDecimalString, hm]
  | some k =>
    obtain ⟨t, tail, -, -, rfl⟩ := mem_runs_decimalPattern.1 (TextPattern.firstMatch_mem hm)
    exact absurd (fromDecimalString_of_match hm) (h _)

end Money

/-! ### The renderer -/

/-- The digits of the fractional part, as the renderer pads them. -/
def cents (n : Nat) : List Char := (Nat.toDigits 10 (n % 100)).leftpad 2 '0'

/-- The rendering of an amount without its sign. -/
def magnitudeText (n : Nat) : List Char := Nat.toDigits 10 (n / 100) ++ '.' :: cents n

theorem toList_toDecimalString (n : Int) :
    (Money.toDecimalString ⟨n, .BDT⟩).toList =
      (if n < 0 then ['-'] else []) ++ magnitudeText n.natAbs := by
  have hexp : Currency.BDT.exponent ≠ 0 := by decide
  unfold Money.toDecimalString
  dsimp only
  rw [if_neg hexp]
  split <;> simp [magnitudeText, cents, Currency.minorUnitsPerMajor, Currency.exponent]

theorem length_toDigits_le {n k : Nat} (hk : 0 < k) :
    (Nat.toDigits 10 n).length ≤ k ↔ n < 10 ^ k :=
  Nat.length_toDigits_le_iff (by decide) hk

theorem length_cents (n : Nat) : (cents n).length = 2 := by
  have := (length_toDigits_le (n := n % 100) (k := 2) (by decide)).2 (Nat.mod_lt _ (by decide))
  rw [cents, List.leftpad, List.length_append, List.length_replicate]
  omega

theorem digits_cents (n : Nat) : ∀ c ∈ cents n, c.isDigit = true := by
  intro c hc
  rw [cents, List.leftpad, List.mem_append] at hc
  rcases hc with hc | hc
  · rw [(List.mem_replicate.1 hc).2]
    decide
  · exact JsonText.numeric_of_mem_toDigits hc

theorem ofDigitChars_cents (n : Nat) : Nat.ofDigitChars 10 (cents n) 0 = n % 100 := by
  rw [cents, List.leftpad, Nat.ofDigitChars_append, Nat.ofDigitChars_replicate_zero, Nat.mul_zero,
    Nat.ofDigitChars_ten_toDigits]

theorem noDigit_dot (x : List Char) : NoDigit ('.' :: x) := by
  simp [NoDigit]

/-- The whole part of a rendering, read off what it starts with. -/
theorem magnitudeText_whole {n : Nat} {w x : List Char} (hw : ∀ c ∈ w, c.isDigit = true)
    (hx : NoDigit x) (h : magnitudeText n = w ++ x) :
    w = Nat.toDigits 10 (n / 100) ∧ x = '.' :: cents n := by
  obtain ⟨hl, hr⟩ := digits_append_inj hw (fun _ hc => JsonText.numeric_of_mem_toDigits hc) hx
    (noDigit_dot _) h.symm
  exact ⟨hl, hr⟩

theorem magnitudeText_injective {m n : Nat} (h : magnitudeText m = magnitudeText n) : m = n := by
  obtain ⟨hw, hx⟩ := magnitudeText_whole (fun _ hc => JsonText.numeric_of_mem_toDigits hc)
    (noDigit_dot _) h
  have hq : n / 100 = m / 100 := JsonText.toDigits_inj hw
  have hr : n % 100 = m % 100 := by
    rw [← ofDigitChars_cents, (List.cons.inj hx).2, ofDigitChars_cents]
  omega

/-- A rendering without a sign starts with a digit. -/
theorem minus_ne_magnitudeText (n : Nat) (x : List Char) : '-' :: x ≠ magnitudeText n := by
  intro h
  have hmem : '-' ∈ Nat.toDigits 10 (n / 100) := by
    cases hd : Nat.toDigits 10 (n / 100) with
    | nil => exact absurd hd Nat.toDigits_ne_nil
    | cons c cs =>
      rw [magnitudeText, hd] at h
      rw [(List.cons.inj h).1]
      exact List.mem_cons_self
  exact absurd (JsonText.numeric_of_mem_toDigits hmem) (by decide)

namespace DecimalText

/-- The rendering of an amount below 10^14, as a text of the grammar. -/
def ofMinor (n : Nat) (h : n < 10 ^ 14) : DecimalText where
  whole := Nat.toDigits 10 (n / 100)
  fraction := some (cents n)
  whole_digits := fun _ hc => JsonText.numeric_of_mem_toDigits hc
  whole_length := ⟨Nat.length_toDigits_pos, (length_toDigits_le (by decide)).2 (by omega)⟩
  fraction_digits := by
    rintro f ⟨⟩
    exact digits_cents n
  fraction_length := by
    rintro f ⟨⟩
    rw [length_cents]
    decide

theorem chars_ofMinor (n : Nat) (h : n < 10 ^ 14) : (ofMinor n h).chars = magnitudeText n := rfl

theorem minor_ofMinor (n : Nat) (h : n < 10 ^ 14) : (ofMinor n h).minor = n := by
  have hpad : (cents n).rightpad 2 '0' = cents n := by
    rw [List.rightpad, length_cents]
    simp
  have hfraction : Nat.ofDigitChars 10 ((cents n).rightpad 2 '0') 0 = n % 100 := by
    rw [hpad, ofDigitChars_cents]
  have hwhole : Nat.ofDigitChars 10 (Nat.toDigits 10 (n / 100)) 0 = n / 100 :=
    Nat.ofDigitChars_ten_toDigits
  calc (ofMinor n h).minor
      = Nat.ofDigitChars 10 (Nat.toDigits 10 (n / 100)) 0 * 100 +
          Nat.ofDigitChars 10 ((cents n).rightpad 2 '0') 0 := rfl
    _ = n / 100 * 100 + n % 100 := by rw [hwhole, hfraction]
    _ = n := by omega

/-- Right padding to two places multiplies by a hundred. -/
theorem ofDigitChars_rightpad {f : List Char} (h : f.length ≤ 2) :
    (Nat.ofDigitChars 10 (f.rightpad 2 '0') 0 : ℚ) = 100 * tenths f := by
  match f, h with
  | [], _ => simp [List.rightpad, tenths, Nat.ofDigitChars_cons]
  | [a], _ =>
    simp [List.rightpad, tenths, Nat.ofDigitChars_cons]
    ring
  | [a, b], _ =>
    simp [List.rightpad, tenths, Nat.ofDigitChars_cons]
    ring
  | _ :: _ :: _ :: _, h => simp at h

/-- The amount read from a text is a hundred times the number the text denotes. -/
theorem minor_eq_value (t : DecimalText) : (t.minor : ℚ) = 100 * t.value := by
  rw [minor, value, Nat.cast_add, Nat.cast_mul, ofDigitChars_rightpad t.length_fraction_le]
  push_cast
  ring

end DecimalText

/-! ### Both directions together -/

namespace Money

theorem toDecimalString_ofMinor (n : Nat) (h : n < 10 ^ 14) :
    toDecimalString ⟨n, .BDT⟩ = (ofMinor n h).text := by
  apply String.toList_inj.1
  have hsign : ¬(n : Int) < 0 := by omega
  rw [toList_toDecimalString, if_neg hsign, text, String.toList_ofList, chars_ofMinor]
  rfl

theorem toDecimalString_inj {m n : Int}
    (h : toDecimalString ⟨m, .BDT⟩ = toDecimalString ⟨n, .BDT⟩) : m = n := by
  have hchars := congrArg String.toList h
  rw [toList_toDecimalString, toList_toDecimalString] at hchars
  by_cases hm : m < 0
  · by_cases hn : n < 0
    · rw [if_pos hm, if_pos hn] at hchars
      have := magnitudeText_injective (List.cons.inj hchars).2
      omega
    · rw [if_pos hm, if_neg hn] at hchars
      exact absurd hchars (minus_ne_magnitudeText _ _)
  · by_cases hn : n < 0
    · rw [if_neg hm, if_pos hn] at hchars
      exact absurd hchars.symm (minus_ne_magnitudeText _ _)
    · rw [if_neg hm, if_neg hn] at hchars
      have := magnitudeText_injective hchars
      omega

/-- A text the parser accepts starts with at most twelve digits and no sign. -/
theorem bounds_of_accepted {n : Int} {m : Money}
    (h : fromDecimalString (toDecimalString ⟨n, .BDT⟩) = .ok m) : 0 ≤ n ∧ n < 10 ^ 14 := by
  obtain ⟨t, hs, -⟩ := fromDecimalString_ok_iff.1 h
  obtain ⟨tail, htail, hchars⟩ : ∃ tail, Trailing tail ∧
      (toDecimalString ⟨n, .BDT⟩).toList = t.whole ++ (t.point ++ tail) := by
    rcases hs with hs | hs
    · exact ⟨[], .inl rfl, by rw [hs]; simp [text, DecimalText.chars]⟩
    · exact ⟨['\n'], .inr rfl, by rw [hs]; simp [text, DecimalText.chars]⟩
  have hpoint := t.noDigit_point htail
  rw [toList_toDecimalString] at hchars
  by_cases hn : n < 0
  · rw [if_pos hn] at hchars
    -- a minus sign is no digit, so the whole part would be empty
    have hminus : NoDigit ('-' :: magnitudeText n.natAbs) := by simp [NoDigit]
    obtain ⟨hwhole, -⟩ := digits_append_inj (w := []) (by simp) t.whole_digits hminus hpoint hchars
    have := t.whole_length.1
    rw [← hwhole] at this
    cases this
  · rw [if_neg hn] at hchars
    obtain ⟨hwhole, -⟩ := magnitudeText_whole t.whole_digits hpoint hchars
    have hlen := t.whole_length.2
    rw [hwhole, length_toDigits_le (by decide)] at hlen
    omega

/-- Rendering and parsing lose nothing: amounts of up to twelve whole digits come back, no two
    amounts render alike, every text of the grammar is read at its value, and the renderings of
    all other amounts are refused. -/
theorem decimal_text_exact :
    (∀ n : Int, 0 ≤ n → n < 10 ^ 14 →
      fromDecimalString (toDecimalString ⟨n, .BDT⟩) = .ok ⟨n, .BDT⟩) ∧
    (Function.Injective fun n : Int => toDecimalString ⟨n, .BDT⟩) ∧
    (∀ t : DecimalText, ∃ n : Int, fromDecimalString t.text = .ok ⟨n, .BDT⟩ ∧
      (n : ℚ) = 100 * t.value) ∧
    (∀ n : Int, ¬(0 ≤ n ∧ n < 10 ^ 14) →
      fromDecimalString (toDecimalString ⟨n, .BDT⟩) =
        .error (.malformed (toDecimalString ⟨n, .BDT⟩))) := by
  refine ⟨fun n hnonneg hlt => ?_, fun m n h => toDecimalString_inj h, fun t => ?_,
    fun n hout => ?_⟩
  · obtain ⟨k, rfl⟩ := Int.eq_ofNat_of_zero_le hnonneg
    have hk : k < 10 ^ 14 := by omega
    refine fromDecimalString_ok_iff.2 ⟨ofMinor k hk, .inl (toDecimalString_ofMinor k hk), ?_⟩
    rw [minor_ofMinor]
  · refine ⟨t.minor, fromDecimalString_ok_iff.2 ⟨t, .inl rfl, rfl⟩, ?_⟩
    rw [Int.cast_natCast]
    exact t.minor_eq_value
  · exact fromDecimalString_malformed fun m hm => hout (bounds_of_accepted hm)

end Money

end MoneyMovement

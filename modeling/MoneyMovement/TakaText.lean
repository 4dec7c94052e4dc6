/-
  MoneyMovement/TakaText.lean
  ===========================
  **Amounts in the client** — `parseTakaToMinor` and `formatTaka` of `api.js`.

  The client reads what is typed and shows what the server sends, both as
  text.  Its pattern is narrower than the server's (nine whole digits instead
  of twelve) and is tried on the trimmed text, where JavaScript's `$`, the very
  end, and Python's are the same place.  Its rendering is the server's with a
  sign for the currency and the thousands set apart.

  JavaScript has no integers.  An amount is a `SafeInteger`, one of those that
  `Number` tells apart, and its division by 100 is a double's.
-/
import MoneyMovement.MoneyText
import MoneyMovement.NearestDouble
import Mathlib.Data.List.DropRight

namespace MoneyMovement

open DecimalText

/-- White space and line terminators, as `String.prototype.trim` takes them off. -/
def trimmable (c : Char) : Bool :=
  [0x09, 0x0A, 0x0B, 0x0C, 0x0D, 0x20, 0xA0, 0x1680, 0x2028, 0x2029, 0x202F, 0x205F, 0x3000,
    0xFEFF].contains c.toNat || (0x2000 ≤ c.toNat && c.toNat ≤ 0x200A)

/-- `text.trim()`. -/
def trim (text : List Char) : List Char := (text.dropWhile trimmable).rdropWhile trimmable

/-- `/^[0-9]{1,9}(\.[0-9]{1,2})?$/`. -/
def amountPattern : TextPattern :=
  .seq .start <|
  .seq (.chars Char.isDigit 1 9) <|
  .seq (.optional (.group "1" (.seq (.chars (· == '.') 1 1) (.chars Char.isDigit 1 2))))
  .stop

/-- `parseTakaToMinor`. -/
def parseTakaToMinor (input : String) : Option Nat :=
  let trimmed := trim input.toList
  if !amountPattern.found trimmed then
    none
  else
    let pieces := trimmed.splitOn '.'
    let major := pieces.headD []
    let fraction := (pieces[1]?).getD []
    some (Nat.ofDigitChars 10 major 0 * 100 + Nat.ofDigitChars 10 (fraction.rightpad 2 '0') 0)

/-- Digits with a comma before every three that end the number: `toLocaleString('en-US')`. -/
def grouped : List Char → List Char
  | [] => []
  | c :: cs => if cs ≠ [] ∧ cs.length % 3 = 0 then c :: ',' :: grouped cs else c :: grouped cs

/-- `Number.MAX_SAFE_INTEGER`: from the next one on, two integers may be one `Number`. -/
def MAX_SAFE_INTEGER : Nat := 2 ^ 53 - 1

/-- An integer that is safe to compute with (`Number.isSafeInteger`). -/
structure SafeInteger where
  value : Int
  safe : value.natAbs ≤ MAX_SAFE_INTEGER

/-- `formatTaka(minor, { withSymbol })`. -/
def formatTaka (minor : SafeInteger) (withSymbol : Bool := true) : String :=
  let abs := minor.value.natAbs
  let major := (Binary64.nearest abs 100).trunc
  let fraction := (Nat.toDigits 10 (abs % 100)).leftpad 2 '0'
  (if minor.value < 0 then "-" else "") ++ (if withSymbol then "৳" else "") ++
    String.ofList (grouped (Nat.toDigits 10 major)) ++ "." ++ String.ofList fraction

/-! ### Trimming -/

theorem dropWhile_of_not {p : Char → Bool} {text : List Char} (h : ∀ c ∈ text, p c = false) :
    text.dropWhile p = text :=
  List.dropWhile_eq_self_iff.2 fun hl => by simp [h _ (List.getElem_mem hl)]

theorem trim_of_not_trimmable {text : List Char} (h : ∀ c ∈ text, trimmable c = false) :
    trim text = text := by
  rw [trim, dropWhile_of_not h]
  refine List.rdropWhile_eq_self_iff.2 fun hl => ?_
  simp [h _ (List.getLast_mem hl)]

/-- A trimmed text does not end in white space. -/
theorem getLast_trim {text : List Char} (h : trim text ≠ []) :
    trimmable ((trim text).getLast h) = false := by
  have := List.rdropWhile_last_not trimmable (text.dropWhile trimmable) h
  simpa [trim] using this

theorem trim_ne_append_newline (text x : List Char) : trim text ≠ x ++ ['\n'] := by
  intro heq
  have hne : trim text ≠ [] := by
    rw [heq]
    simp
  have hlast := getLast_trim hne
  simp only [heq, List.getLast_append_singleton] at hlast
  exact absurd hlast (by decide)

theorem not_trimmable_of_digit {c : Char} (h : c.isDigit = true) : trimmable c = false := by
  have hrange : 48 ≤ c.toNat ∧ c.toNat ≤ 57 := Char.isDigit_iff_toNat.1 h
  simp [trimmable]
  omega

theorem trim_chars (t : DecimalText) : trim t.chars = t.chars := by
  refine trim_of_not_trimmable fun c hc => ?_
  rw [DecimalText.chars, List.mem_append] at hc
  rcases hc with hc | hc
  · exact not_trimmable_of_digit (t.whole_digits c hc)
  · unfold point at hc
    split at hc
    · cases hc
    · next f hf =>
      rcases List.mem_cons.1 hc with rfl | hc
      · decide
      · exact not_trimmable_of_digit (t.fraction_digits f hf c hc)

/-! ### The pattern -/

/-- The pattern starts at the start, so a search finds what a match finds. -/
theorem found_amountPattern {text : List Char} :
    amountPattern.found text = true ↔ ∃ k, k ∈ amountPattern.runs ⟨0, text, []⟩ := by
  unfold TextPattern.found
  rw [List.any_eq_true]
  constructor
  · rintro ⟨n, -, hn⟩
    obtain ⟨k, hk⟩ := List.exists_mem_of_ne_nil _ (by simpa using hn)
    have hstart := hk
    simp only [amountPattern, TextPattern.mem_runs_seq, TextPattern.mem_runs_start] at hstart
    obtain ⟨_, ⟨rfl, -⟩, -⟩ := hstart
    exact ⟨k, by simpa using hk⟩
  · rintro ⟨k, hk⟩
    refine ⟨0, by simp, ?_⟩
    simpa using List.ne_nil_of_mem hk

/-- On a trimmed text the pattern matches the amounts of up to nine whole digits. -/
theorem found_trim_iff (input : List Char) :
    amountPattern.found (trim input) = true ↔
      ∃ t : DecimalText, t.whole.length ≤ 9 ∧ trim input = t.chars := by
  rw [found_amountPattern]
  simp only [amountPattern, TextPattern.mem_runs_seq, TextPattern.mem_runs_start,
    TextPattern.mem_runs_stop, TextPattern.mem_runs_optional, TextPattern.mem_runs_group,
    TextPattern.mem_runs_chars]
  constructor
  · rintro ⟨_, _, ⟨-, rfl⟩, _, ⟨w, x, htext, hw, hlo, hhi, rfl⟩, m, hm, hstop, rfl⟩
    dsimp only at htext
    rcases hm with ⟨_, ⟨_, ⟨d, y, hx, hd, hdlo, hdhi, rfl⟩, f, tail, hy, hf, hlo', hhi', rfl⟩, rfl⟩ |
      rfl
    · dsimp only [TextCursor.close] at hx hy hstop
      obtain ⟨c, rfl⟩ := List.length_eq_one_iff.1 (Nat.le_antisymm hdhi hdlo)
      have hc : c = '.' := by simpa using hd c List.mem_cons_self
      subst hc hy hx
      have htail : tail = [] := by
        refine hstop.resolve_right fun hnewline => ?_
        subst hnewline
        exact trim_ne_append_newline input (w ++ ['.'] ++ f) (by simpa using htext)
      subst htail
      refine ⟨⟨w, some f, hw, ⟨hlo, by omega⟩, ?_, ?_⟩, hhi, ?_⟩
      · simpa using hf
      · simpa using ⟨hlo', hhi'⟩
      · simpa [DecimalText.chars, point] using htext
    · have hx : x = [] := by
        refine hstop.resolve_right fun hnewline => ?_
        dsimp only at hnewline
        subst hnewline
        exact trim_ne_append_newline input w htext
      subst hx
      refine ⟨⟨w, none, hw, ⟨hlo, by omega⟩, by simp, by simp⟩, hhi, ?_⟩
      simpa [DecimalText.chars, point] using htext
  · rintro ⟨t, hnine, htext⟩
    cases hf : t.fraction with
    | none =>
      exact ⟨_, _, ⟨trivial, rfl⟩, _, ⟨t.whole, t.point, htext, t.whole_digits, t.whole_length.1,
        hnine, rfl⟩, _, .inr rfl, .inl (by simp [point, hf]), rfl⟩
    | some f =>
      exact ⟨_, _, ⟨trivial, rfl⟩, _, ⟨t.whole, t.point, htext, t.whole_digits, t.whole_length.1,
        hnine, rfl⟩, _, .inl ⟨_, ⟨_, ⟨['.'], f, by simp [point, hf], by simp, by simp, by simp, rfl⟩,
          f, [], by simp, t.fraction_digits f hf, (t.fraction_length f hf).1,
          (t.fraction_length f hf).2, rfl⟩, rfl⟩, .inl rfl, rfl⟩

/-! ### The parser -/

theorem splitOn_chars (t : DecimalText) :
    t.chars.splitOn '.' = t.whole :: t.fraction.toList := by
  have hdigits : ∀ w : List Char, (∀ c ∈ w, c.isDigit = true) → ∀ c ∈ w, (c == '.') = false := by
    intro w hw c hc
    refine beq_false_of_ne fun heq => ?_
    have := hw c hc
    rw [heq] at this
    exact absurd this (by decide)
  unfold DecimalText.chars point
  cases hf : t.fraction with
  | none =>
    rw [List.append_nil]
    exact List.splitOnP_eq_singleton (hdigits _ t.whole_digits)
  | some f =>
    rw [List.splitOn, List.splitOnP_append_cons_of_forall_mem (hdigits _ t.whole_digits) _ (by decide),
      List.splitOnP_eq_singleton (hdigits _ (t.fraction_digits f hf))]
    rfl

/-- The accepted texts, and the amount read from each. -/
theorem parseTakaToMinor_eq_some_iff {s : String} {n : Nat} :
    parseTakaToMinor s = some n ↔
      ∃ t : DecimalText, t.whole.length ≤ 9 ∧ trim s.toList = t.chars ∧ n = t.minor := by
  have hread : ∀ t : DecimalText, t.whole.length ≤ 9 → trim s.toList = t.chars →
      parseTakaToMinor s = some t.minor := by
    intro t hnine htext
    have hfound := (found_trim_iff s.toList).2 ⟨t, hnine, htext⟩
    unfold parseTakaToMinor
    simp only [hfound]
    rw [htext, splitOn_chars]
    cases hf : t.fraction <;> simp [DecimalText.minor, hf]
  constructor
  · intro h
    by_cases hfound : amountPattern.found (trim s.toList) = true
    · obtain ⟨t, hnine, htext⟩ := (found_trim_iff s.toList).1 hfound
      rw [hread t hnine htext] at h
      exact ⟨t, hnine, htext, (Option.some.inj h).symm⟩
    · simp [parseTakaToMinor, hfound] at h
  · rintro ⟨t, hnine, htext, rfl⟩
    exact hread t hnine htext

/-- What the client reads, the server reads from the trimmed text. -/
theorem fromDecimalString_of_parsed {s : String} {n : Nat} (h : parseTakaToMinor s = some n) :
    Money.fromDecimalString (String.ofList (trim s.toList)) = .ok ⟨n, .BDT⟩ := by
  obtain ⟨t, -, htext, rfl⟩ := parseTakaToMinor_eq_some_iff.1 h
  exact Money.fromDecimalString_ok_iff.2 ⟨t, .inl (by rw [htext, text]), rfl⟩

/-- A run of digits is below the power of ten with that many zeros. -/
theorem ofDigitChars_lt {w : List Char} (h : ∀ c ∈ w, c.isDigit = true) :
    Nat.ofDigitChars 10 w 0 < 10 ^ w.length := by
  induction w using List.reverseRecOn with
  | nil => simp
  | append_singleton w c ih =>
    have hw := ih fun d hd => h d (List.mem_append_left _ hd)
    have hc : 48 ≤ c.toNat ∧ c.toNat ≤ 57 := Char.isDigit_iff_toNat.1 (h c (by simp))
    rw [Nat.ofDigitChars_append, Nat.ofDigitChars_cons, Nat.ofDigitChars_nil, List.length_append,
      List.length_singleton, Nat.pow_succ]
    have hzero : '0'.toNat = 48 := rfl
    omega

/-- An amount that is read stays below the nine whole digits it was read from. -/
theorem parsed_lt {s : String} {n : Nat} (h : parseTakaToMinor s = some n) : n < 10 ^ 11 := by
  obtain ⟨t, hnine, -, rfl⟩ := parseTakaToMinor_eq_some_iff.1 h
  have hwhole : Nat.ofDigitChars 10 t.whole 0 < 10 ^ 9 :=
    (ofDigitChars_lt t.whole_digits).trans_le (Nat.pow_le_pow_right (by decide) hnine)
  have hpadded : ∀ c ∈ (t.fraction.getD []).rightpad 2 '0', c.isDigit = true := by
    intro c hc
    rw [List.rightpad, List.mem_append] at hc
    rcases hc with hc | hc
    · cases hf : t.fraction with
      | none => simp [hf] at hc
      | some f => exact t.fraction_digits f hf c (by simpa [hf] using hc)
    · rw [(List.mem_replicate.1 hc).2]
      decide
  have hfraction : Nat.ofDigitChars 10 ((t.fraction.getD []).rightpad 2 '0') 0 < 10 ^ 2 := by
    refine (ofDigitChars_lt hpadded).trans_le (Nat.pow_le_pow_right (by decide) ?_)
    rw [List.rightpad, List.length_append, List.length_replicate]
    have := t.length_fraction_le
    omega
  unfold DecimalText.minor
  omega

/-- The server's rendering is read back. -/
theorem parseTakaToMinor_toDecimalString {n : Nat} (h : n < 10 ^ 11) :
    parseTakaToMinor (Money.toDecimalString ⟨n, .BDT⟩) = some n := by
  have hbelow : n < 10 ^ 14 := by omega
  refine parseTakaToMinor_eq_some_iff.2 ⟨ofMinor n hbelow, ?_, ?_, (minor_ofMinor n hbelow).symm⟩
  · exact (length_toDigits_le (by decide)).2 (by omega)
  · rw [Money.toDecimalString_ofMinor n hbelow, text, String.toList_ofList, trim_chars]

/-! ### The renderer -/

/-- The marks the client adds to the server's rendering. -/
def decoration (c : Char) : Bool := c == ',' || c == '৳'

theorem mem_grouped {ds : List Char} {c : Char} (h : c ∈ grouped ds) : c ∈ ds ∨ c = ',' := by
  induction ds with
  | nil => cases h
  | cons d ds ih =>
    unfold grouped at h
    split at h
    · simp only [List.mem_cons] at h ⊢
      rcases h with rfl | rfl | h
      · exact .inl (.inl rfl)
      · exact .inr rfl
      · exact (ih h).imp_left .inr
    · simp only [List.mem_cons] at h ⊢
      rcases h with rfl | h
      · exact .inl (.inl rfl)
      · exact (ih h).imp_left .inr

/-- Taking the commas out gives the digits back. -/
theorem filter_grouped {ds : List Char} (h : ∀ c ∈ ds, decoration c = false) :
    (grouped ds).filter (fun c => !decoration c) = ds := by
  induction ds with
  | nil => rfl
  | cons d ds ih =>
    have hd := h d List.mem_cons_self
    have hds := ih fun c hc => h c (List.mem_cons_of_mem _ hc)
    have hcomma : decoration ',' = true := by decide
    unfold grouped
    split <;> simp [hd, hds, hcomma]

/-- Up to three digits stand as they are. -/
theorem grouped_short {ds : List Char} (h : ds.length ≤ 3) : grouped ds = ds := by
  match ds, h with
  | [], _ => rfl
  | [_], _ => rfl
  | [_, _], _ => simp [grouped]
  | [_, _, _], _ => simp [grouped]
  | _ :: _ :: _ :: _ :: _, h =>
    simp only [List.length_cons] at h
    omega

/-- From four digits on there is a comma. -/
theorem comma_mem_grouped {ds : List Char} (h : 3 < ds.length) : ',' ∈ grouped ds := by
  induction ds with
  | nil => simp at h
  | cons d ds ih =>
    rw [List.length_cons] at h
    unfold grouped
    split
    · simp
    · next hsplit =>
      have hne : ds ≠ [] := List.length_pos_iff.1 (by omega)
      have hmod : ds.length % 3 ≠ 0 := fun hmod => hsplit ⟨hne, hmod⟩
      exact List.mem_cons_of_mem _ (ih (by omega))

/-- The quotient by 100 of a safe integer is cut off at the right place. -/
theorem trunc_hundredth (n : SafeInteger) :
    (Binary64.nearest n.value.natAbs 100).trunc = n.value.natAbs / 100 :=
  Binary64.trunc_nearest (by decide) (Nat.lt_of_le_of_lt n.safe (by decide))

theorem toList_formatTaka (n : SafeInteger) (withSymbol : Bool) :
    (formatTaka n withSymbol).toList =
      (if n.value < 0 then ['-'] else []) ++ ((if withSymbol then ['৳'] else []) ++
        (grouped (Nat.toDigits 10 (n.value.natAbs / 100)) ++ '.' :: cents n.value.natAbs)) := by
  unfold formatTaka
  dsimp only
  rw [trunc_hundredth]
  split <;> cases withSymbol <;> simp [cents]

theorem not_decoration_of_digit {c : Char} (h : c.isDigit = true) : decoration c = false := by
  have hcomma : c ≠ ',' := by
    rintro rfl
    exact absurd h (by decide)
  have htaka : c ≠ '৳' := by
    rintro rfl
    exact absurd h (by decide)
  simp [decoration, hcomma, htaka]

/-- Without the marks it is the server's rendering. -/
theorem filter_formatTaka (n : SafeInteger) (withSymbol : Bool) :
    (formatTaka n withSymbol).toList.filter (fun c => !decoration c) =
      (Money.toDecimalString ⟨n.value, .BDT⟩).toList := by
  have hwhole : (grouped (Nat.toDigits 10 (n.value.natAbs / 100))).filter (fun c => !decoration c) =
      Nat.toDigits 10 (n.value.natAbs / 100) :=
    filter_grouped fun c hc => not_decoration_of_digit (JsonText.numeric_of_mem_toDigits hc)
  have hcents : (cents n.value.natAbs).filter (fun c => !decoration c) = cents n.value.natAbs := by
    refine List.filter_eq_self.2 fun c hc => ?_
    simp [not_decoration_of_digit (digits_cents _ c hc)]
  have hminus : decoration '-' = false := by decide
  have hdot : decoration '.' = false := by decide
  have htaka : decoration '৳' = true := by decide
  rw [toList_formatTaka, toList_toDecimalString, magnitudeText]
  split <;> cases withSymbol <;>
    simp [List.filter_append, hwhole, hcents, hminus, hdot, htaka]

/-- No two amounts are shown alike. -/
theorem formatTaka_inj {m n : SafeInteger} {a b : Bool} (h : formatTaka m a = formatTaka n b) :
    m.value = n.value := by
  refine Money.toDecimalString_inj (String.toList_inj.1 ?_)
  rw [← filter_formatTaka m a, ← filter_formatTaka n b, h]

theorem trim_formatTaka (n : SafeInteger) (withSymbol : Bool) :
    trim (formatTaka n withSymbol).toList = (formatTaka n withSymbol).toList := by
  refine trim_of_not_trimmable fun c hc => ?_
  have hdigit : ∀ {c : Char}, c.isDigit = true → trimmable c = false := not_trimmable_of_digit
  have hgroup : ∀ c ∈ grouped (Nat.toDigits 10 (n.value.natAbs / 100)), trimmable c = false := by
    intro c hc
    rcases mem_grouped hc with hc | rfl
    · exact hdigit (JsonText.numeric_of_mem_toDigits hc)
    · decide
  rw [toList_formatTaka] at hc
  simp only [List.mem_append, List.mem_cons] at hc
  rcases hc with hc | hc | hc | rfl | hc
  · split at hc
    · rw [List.mem_singleton.1 hc]
      decide
    · cases hc
  · split at hc
    · rw [List.mem_singleton.1 hc]
      decide
    · cases hc
  · exact hgroup c hc
  · decide
  · exact hdigit (digits_cents _ c hc)

/-- The characters of an amount that is read back. -/
theorem plain_of_parsed {s : String} {n : Nat} (h : parseTakaToMinor s = some n) {c : Char}
    (hc : c ∈ trim s.toList) : c.isDigit = true ∨ c = '.' := by
  obtain ⟨t, -, htext, -⟩ := parseTakaToMinor_eq_some_iff.1 h
  rw [htext, DecimalText.chars, List.mem_append] at hc
  rcases hc with hc | hc
  · exact .inl (t.whole_digits c hc)
  · unfold point at hc
    split at hc
    · cases hc
    · next f hf =>
      rcases List.mem_cons.1 hc with rfl | hc
      · exact .inr rfl
      · exact .inl (t.fraction_digits f hf c hc)

/-- Below a thousand taka, without the sign of the currency, both renderings are one. -/
theorem formatTaka_small {n : SafeInteger} {k : Nat} (hn : n.value = k) (h : k < 100000) :
    formatTaka n false = Money.toDecimalString ⟨k, .BDT⟩ := by
  have hnonneg : ¬(k : Int) < 0 := by omega
  have hplain : grouped (Nat.toDigits 10 (k / 100)) = Nat.toDigits 10 (k / 100) :=
    grouped_short ((length_toDigits_le (by decide)).2 (by omega))
  apply String.toList_inj.1
  rw [toList_formatTaka, toList_toDecimalString, hn, if_neg hnonneg, magnitudeText,
    Int.natAbs_natCast, hplain]
  rfl

/-- What is shown is read back only where it is below a thousand taka and without the sign of the
    currency, and then it is the amount shown. -/
theorem parseTakaToMinor_formatTaka_iff {n : SafeInteger} {withSymbol : Bool} {m : Nat} :
    parseTakaToMinor (formatTaka n withSymbol) = some m ↔
      withSymbol = false ∧ n.value = m ∧ m < 100000 := by
  constructor
  · intro h
    have hplain : ∀ c ∈ (formatTaka n withSymbol).toList, c.isDigit = true ∨ c = '.' := by
      intro c hc
      rw [← trim_formatTaka] at hc
      exact plain_of_parsed h hc
    rw [toList_formatTaka] at hplain
    have hsign : ¬n.value < 0 := by
      intro hneg
      rcases hplain '-' (by simp [hneg]) with hd | hd <;> exact absurd hd (by decide)
    have hsymbol : withSymbol = false := by
      refine Bool.eq_false_iff.2 fun htrue => ?_
      rcases hplain '৳' (by simp [htrue]) with hd | hd <;> exact absurd hd (by decide)
    obtain ⟨k, hk⟩ := Int.eq_ofNat_of_zero_le (Int.not_lt.1 hsign)
    rw [hk, Int.natAbs_natCast] at hplain
    have hsmall : k < 100000 := by
      by_contra hlarge
      have hlength : 3 < (Nat.toDigits 10 (k / 100)).length := by
        rw [← Nat.not_le, length_toDigits_le (by decide)]
        omega
      have hcomma := comma_mem_grouped hlength
      rcases hplain ',' (by simp [hcomma]) with hd | hd <;> exact absurd hd (by decide)
    subst hsymbol
    have hback := parseTakaToMinor_toDecimalString (n := k) (by omega)
    rw [← formatTaka_small hk hsmall] at hback
    have hkm : k = m := Option.some.inj (hback.symm.trans h)
    subst hkm
    exact ⟨rfl, hk, hsmall⟩
  · rintro ⟨rfl, hm, hsmall⟩
    rw [formatTaka_small hm hsmall]
    exact parseTakaToMinor_toDecimalString (by omega)

/-! ### Client and server -/

/-- What the client reads are the amounts of at most nine whole digits, white space around them
    aside, each at its value, and the server's parser reads the same amount from the trimmed
    text; every amount of that size comes back from the server's rendering; no two amounts up to
    `Number.MAX_SAFE_INTEGER` are shown alike; and nothing that is shown of these is read back as
    another amount. -/
theorem client_amounts_exact :
    (∀ s n, parseTakaToMinor s = some n ↔
      ∃ t : DecimalText, t.whole.length ≤ 9 ∧ trim s.toList = t.chars ∧
        (n : ℚ) = 100 * t.value) ∧
    (∀ s n, parseTakaToMinor s = some n → n < 10 ^ 11 ∧
      Money.fromDecimalString (String.ofList (trim s.toList)) = .ok ⟨n, .BDT⟩) ∧
    (∀ n : Nat, n < 10 ^ 11 → parseTakaToMinor (Money.toDecimalString ⟨n, .BDT⟩) = some n) ∧
    (∀ (m n : SafeInteger) (a b : Bool), formatTaka m a = formatTaka n b → m.value = n.value) ∧
    (∀ (n : SafeInteger) (withSymbol : Bool) (m : Nat),
      parseTakaToMinor (formatTaka n withSymbol) = some m ↔
        withSymbol = false ∧ n.value = m ∧ m < 100000) := by
  refine ⟨fun s n => ?_, fun s n h => ⟨parsed_lt h, fromDecimalString_of_parsed h⟩,
    fun n h => parseTakaToMinor_toDecimalString h, fun m n a b h => formatTaka_inj h,
    fun n withSymbol m => parseTakaToMinor_formatTaka_iff⟩
  rw [parseTakaToMinor_eq_some_iff]
  refine exists_congr fun t => and_congr_right fun _ => and_congr_right fun _ => ?_
  rw [← t.minor_eq_value]
  exact Nat.cast_inj.symm

example : formatTaka ⟨-123456789, by decide⟩ = "-৳1,234,567.89" ∧
    formatTaka ⟨9007199254740991, by decide⟩ false = "90,071,992,547,409.91" ∧
    parseTakaToMinor " 2500.5\t" = some 250050 ∧ parseTakaToMinor "2,500" = none := by
  decide +kernel

end MoneyMovement

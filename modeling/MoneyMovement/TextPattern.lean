/-
  MoneyMovement/TextPattern.lean
  ==============================
  **Regular expressions with anchors and capture groups.**

  The fragment of Python's `re` that anchored validation patterns are written
  in: greedy counted repetition of a character class, concatenation, an
  optional part, named groups and the two anchors.  `runs` lists every way a
  pattern can match from a cursor, in the order in which the backtracking
  matcher tries them; `firstMatch` is `re.match`, the first of them.

  `$` is not the end of the text: without `re.MULTILINE` it also matches just
  before a newline that ends the text.
-/
import Mathlib.Data.List.Basic

inductive TextPattern where
  /-- `^` -/
  | start
  /-- `$` -/
  | stop
  /-- `[cls]{lo,hi}` -/
  | chars (cls : Char → Bool) (lo hi : Nat)
  | seq (p q : TextPattern)
  /-- `(?:p)?` -/
  | optional (p : TextPattern)
  /-- `(?P<name>p)` -/
  | group (name : String) (p : TextPattern)

/-- Where a match has got to: how much is read, what is left, the groups closed so far. -/
structure TextCursor where
  passed : Nat
  rest : List Char
  groups : List (String × List Char)

namespace TextCursor

/-- `match.group(name)`: `none` for a group that took no part. -/
def group (k : TextCursor) (name : String) : Option (List Char) :=
  (k.groups.find? fun g => g.1 = name).map (·.2)

def advance (k : TextCursor) (n : Nat) : TextCursor :=
  { k with passed := k.passed + n, rest := k.rest.drop n }

/-- Close the group `name`, which was open from the cursor `opened`. -/
def close (name : String) (opened k : TextCursor) : TextCursor :=
  { k with groups := (name, opened.rest.take (k.passed - opened.passed)) :: k.groups }

end TextCursor

namespace TextPattern

/-- How many of the leading characters are in the class. -/
def span (cls : Char → Bool) (text : List Char) : Nat := (text.takeWhile cls).length

/-- The matches of a pattern from a cursor, in the order they are tried. -/
def runs : TextPattern → TextCursor → List TextCursor
  | start, k => if k.passed = 0 then [k] else []
  | stop, k => if k.rest = [] ∨ k.rest = ['\n'] then [k] else []
  | chars cls lo hi, k =>
    -- greedy: the longest admissible run first, then shorter ones
    let most := min hi (span cls k.rest)
    ((List.range (most + 1)).reverse.filter fun n => lo ≤ n).map k.advance
  | seq p q, k => (p.runs k).flatMap q.runs
  | optional p, k => p.runs k ++ [k]
  | group name p, k => (p.runs k).map (TextCursor.close name k)

/-- `pattern.match(text)`. -/
def firstMatch (p : TextPattern) (text : List Char) : Option TextCursor :=
  (p.runs ⟨0, text, []⟩).head?

/-- `pattern.search(text)` finds something, at whatever place. -/
def found (p : TextPattern) (text : List Char) : Bool :=
  (List.range (text.length + 1)).any fun n => !(p.runs ⟨n, text.drop n, []⟩).isEmpty

theorem firstMatch_mem {p : TextPattern} {text : List Char} {k : TextCursor}
    (h : p.firstMatch text = some k) : k ∈ p.runs ⟨0, text, []⟩ :=
  List.mem_of_mem_head? h

theorem firstMatch_eq_none {p : TextPattern} {text : List Char} :
    p.firstMatch text = none ↔ ∀ k, k ∉ p.runs ⟨0, text, []⟩ := by
  rw [firstMatch, List.head?_eq_none_iff, List.eq_nil_iff_forall_not_mem]

/-- A pattern that can match has a first match, and that is one of its matches. -/
theorem exists_firstMatch {p : TextPattern} {text : List Char} {k : TextCursor}
    (h : k ∈ p.runs ⟨0, text, []⟩) :
    ∃ k', p.firstMatch text = some k' ∧ k' ∈ p.runs ⟨0, text, []⟩ := by
  cases hm : p.firstMatch text with
  | none => exact absurd h (firstMatch_eq_none.1 hm k)
  | some k' => exact ⟨k', rfl, firstMatch_mem hm⟩

/-! ### What each construct matches -/

variable {k k' : TextCursor}

theorem mem_runs_start : k' ∈ start.runs k ↔ k.passed = 0 ∧ k' = k := by
  unfold runs
  split <;> simp_all

theorem mem_runs_stop : k' ∈ stop.runs k ↔ (k.rest = [] ∨ k.rest = ['\n']) ∧ k' = k := by
  unfold runs
  split <;> simp_all

theorem mem_runs_seq {p q : TextPattern} :
    k' ∈ (seq p q).runs k ↔ ∃ m ∈ p.runs k, k' ∈ q.runs m := by
  simp [runs]

theorem mem_runs_optional {p : TextPattern} :
    k' ∈ (optional p).runs k ↔ k' ∈ p.runs k ∨ k' = k := by
  simp [runs]

theorem mem_runs_group {name : String} {p : TextPattern} :
    k' ∈ (group name p).runs k ↔ ∃ m ∈ p.runs k, k' = TextCursor.close name k m := by
  simp [runs, eq_comm]

/-- A prefix lies in the class exactly when it is no longer than the leading span. -/
theorem le_span_iff {cls : Char → Bool} {text : List Char} {n : Nat} :
    n ≤ span cls text ↔ n ≤ text.length ∧ ∀ c ∈ text.take n, cls c = true := by
  induction text generalizing n with
  | nil => simp [span]
  | cons c cs ih =>
    cases n with
    | zero => simp
    | succ n =>
      by_cases hc : cls c = true
      · have hspan : span cls (c :: cs) = span cls cs + 1 := by
          simp [span, List.takeWhile_cons_of_pos hc]
        rw [hspan, Nat.add_le_add_iff_right, ih]
        simp [hc]
      · have hspan : span cls (c :: cs) = 0 := by
          simp [span, List.takeWhile_cons_of_neg hc]
        rw [hspan]
        simp [hc]

/-- A counted class matches exactly the words of the class with an admissible length. -/
theorem mem_runs_chars {cls : Char → Bool} {lo hi : Nat} :
    k' ∈ (chars cls lo hi).runs k ↔
      ∃ w tail, k.rest = w ++ tail ∧ (∀ c ∈ w, cls c = true) ∧ lo ≤ w.length ∧ w.length ≤ hi ∧
        k' = { k with passed := k.passed + w.length, rest := tail } := by
  have hmem : k' ∈ (chars cls lo hi).runs k ↔
      ∃ n, (n ≤ hi ∧ n ≤ span cls k.rest) ∧ lo ≤ n ∧ k.advance n = k' := by
    simp only [runs, List.mem_map, List.mem_reverse, List.mem_filter, List.mem_range, decide_eq_true_eq,
      Nat.lt_succ_iff, Nat.le_min, and_assoc]
  rw [hmem]
  constructor
  · rintro ⟨n, ⟨hhi, hspan⟩, hlo, rfl⟩
    obtain ⟨hlen, hcls⟩ := le_span_iff.1 hspan
    have hn : (k.rest.take n).length = n := List.length_take_of_le hlen
    refine ⟨k.rest.take n, k.rest.drop n, (List.take_append_drop n k.rest).symm, hcls, ?_, ?_, ?_⟩
    · rw [hn]
      exact hlo
    · rw [hn]
      exact hhi
    · rw [hn]
      rfl
  · rintro ⟨w, tail, hrest, hcls, hlo, hhi, rfl⟩
    refine ⟨w.length, ⟨hhi, le_span_iff.2 ⟨?_, ?_⟩⟩, hlo, ?_⟩
    · rw [hrest, List.length_append]
      omega
    · rw [hrest, List.take_left]
      exact hcls
    · rw [TextCursor.advance, hrest, List.drop_left]

end TextPattern

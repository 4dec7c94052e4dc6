/-
  MoneyMovement/JsonText.lean
  ===========================
  **Canonical JSON text of flat objects.**

  `dumps` is `json.dumps(payload, sort_keys=True, separators=(",", ":"),
  ensure_ascii=False)` on an object whose values are scalars.  Strings are
  escaped as documented: quote, backslash and the five named controls by two
  characters, the other controls below U+0020 by `\uXXXX`, everything else
  verbatim.

  `dumps_eq_iff`: two payloads have the same text exactly when they are the same
  up to the order of their fields.  The argument is that every piece of the text
  says where it ends: `unescape` reads one character back, a quoted string ends
  at the first bare quote, and a number at the first character that is not a
  digit.
-/
import Mathlib.Data.List.Sort
import MoneyMovement.PositionalText

namespace MoneyMovement

/-- A JSON scalar. -/
inductive Scalar where
  | null
  | bool (b : Bool)
  | int (i : Int)
  | str (s : String)
deriving DecidableEq, Repr

/-- A flat object, as an association list. -/
abbrev Payload := List (String × Scalar)

namespace JsonText

/-! ### Strings -/

def hexAlphabet : Alphabet where
  digits := ['0', '1', '2', '3', '4', '5', '6', '7', '8', '9', 'a', 'b', 'c', 'd', 'e', 'f']
  nodup := by decide
  two_le := by decide

/-- The text of one character inside a string. -/
def escape (c : Char) : List Char :=
  if c = '"' then ['\\', '"']
  else if c = '\\' then ['\\', '\\']
  else if c = '\n' then ['\\', 'n']
  else if c = '\r' then ['\\', 'r']
  else if c = '\t' then ['\\', 't']
  else if c = '\x08' then ['\\', 'b']
  else if c = '\x0c' then ['\\', 'f']
  else if c.toNat < 32 then '\\' :: 'u' :: hexAlphabet.encode 4 c.toNat
  else [c]

/-- The character named by a two-character escape. -/
def named (c : Char) : Char :=
  if c = 'n' then '\n'
  else if c = 'r' then '\r'
  else if c = 't' then '\t'
  else if c = 'b' then '\x08'
  else if c = 'f' then '\x0c'
  else c

/-- Read one character of a string back, with what follows it. -/
def unescape : List Char → Option (Char × List Char)
  | [] => none
  | [c] => some (c, [])
  | c :: d :: cs =>
    if c = '\\' then
      if d = 'u' then (hexAlphabet.decode? (cs.take 4)).map fun n => (Char.ofNat n, cs.drop 4)
      else some (named d, cs)
    else some (c, d :: cs)

theorem unescape_singleton {c : Char} (h : c ≠ '\\') (x : List Char) :
    unescape (c :: x) = some (c, x) := by
  cases x with
  | nil => rfl
  | cons d x => simp [unescape, h]

theorem unescape_escape (c : Char) (x : List Char) : unescape (escape c ++ x) = some (c, x) := by
  unfold escape
  split
  · subst c; rfl
  split
  · subst c; rfl
  split
  · subst c; rfl
  split
  · subst c; rfl
  split
  · subst c; rfl
  split
  · subst c; rfl
  split
  · subst c; rfl
  split
  · rename_i h
    have hlen : (hexAlphabet.encode 4 c.toNat).length = 4 := hexAlphabet.length_encode _ _
    have hdec : hexAlphabet.decode? (hexAlphabet.encode 4 c.toNat) = some c.toNat :=
      hexAlphabet.decode?_encode (Nat.lt_trans h (by decide))
    show ((hexAlphabet.decode? ((hexAlphabet.encode 4 c.toNat ++ x).take 4)).map fun n =>
      (Char.ofNat n, (hexAlphabet.encode 4 c.toNat ++ x).drop 4)) = _
    rw [List.take_left' hlen, List.drop_left' hlen, hdec, Option.map_some, Char.ofNat_toNat]
  · rename_i h _ _ _ _ _ _
    exact unescape_singleton h x

theorem escape_append_inj {c d : Char} {x y : List Char} (h : escape c ++ x = escape d ++ y) :
    c = d ∧ x = y := by
  have := unescape_escape c x
  rw [h, unescape_escape d y, Option.some.injEq, Prod.mk.injEq] at this
  exact ⟨this.1.symm, this.2.symm⟩

/-- An escape never starts with a bare quote. -/
theorem escape_ne_quote (c : Char) (x y : List Char) : '"' :: x ≠ escape c ++ y := by
  unfold escape
  split
  · simp
  split
  · simp
  split
  · simp
  split
  · simp
  split
  · simp
  split
  · simp
  split
  · simp
  split
  · simp
  · rename_i h _ _ _ _ _ _ _
    intro he
    exact h (List.cons.inj he).1.symm

/-- The text between the quotes, and the closing quote. -/
def quoted : List Char → List Char
  | [] => ['"']
  | c :: cs => escape c ++ quoted cs

theorem quoted_append_inj {s t : List Char} {x y : List Char}
    (h : quoted s ++ x = quoted t ++ y) : s = t ∧ x = y := by
  induction s generalizing t with
  | nil =>
    cases t with
    | nil => exact ⟨rfl, (List.cons.inj h).2⟩
    | cons d t =>
      rw [quoted, quoted, List.append_assoc] at h
      exact absurd h (escape_ne_quote d _ _)
  | cons c s ih =>
    cases t with
    | nil =>
      rw [quoted, quoted, List.append_assoc] at h
      exact absurd h.symm (escape_ne_quote c _ _)
    | cons d t =>
      rw [quoted, quoted, List.append_assoc, List.append_assoc] at h
      obtain ⟨rfl, htail⟩ := escape_append_inj h
      obtain ⟨rfl, hxy⟩ := ih htail
      exact ⟨rfl, hxy⟩

/-! ### Scalars -/

/-- `str(i)`. -/
def intText : Int → List Char
  | .ofNat n => Nat.toDigits 10 n
  | .negSucc n => '-' :: Nat.toDigits 10 (n + 1)

def scalarText : Scalar → List Char
  | .null => "null".toList
  | .bool true => "true".toList
  | .bool false => "false".toList
  | .int i => intText i
  | .str s => '"' :: quoted s.toList

/-- A character of a number. -/
def numeric (c : Char) : Bool := c.isDigit || c == '-'

theorem toDigits_inj {m n : Nat} (h : Nat.toDigits 10 m = Nat.toDigits 10 n) : m = n := by
  rw [← Nat.ofDigitChars_ten_toDigits (n := m), h, Nat.ofDigitChars_ten_toDigits]

theorem numeric_of_mem_toDigits {n : Nat} {c : Char} (h : c ∈ Nat.toDigits 10 n) :
    c.isDigit = true :=
  Nat.isDigit_of_mem_toDigits (by decide) (by decide) h

theorem intText_inj {i j : Int} (h : intText i = intText j) : i = j := by
  cases i with
  | ofNat m =>
    cases j with
    | ofNat n => exact congrArg Int.ofNat (toDigits_inj h)
    | negSucc n =>
      have : '-' ∈ Nat.toDigits 10 m := by
        rw [show Nat.toDigits 10 m = '-' :: Nat.toDigits 10 (n + 1) from h]
        exact List.mem_cons_self
      exact absurd (numeric_of_mem_toDigits this) (by decide)
  | negSucc m =>
    cases j with
    | ofNat n =>
      have : '-' ∈ Nat.toDigits 10 n := by
        rw [← show '-' :: Nat.toDigits 10 (m + 1) = Nat.toDigits 10 n from h]
        exact List.mem_cons_self
      exact absurd (numeric_of_mem_toDigits this) (by decide)
    | negSucc n =>
      have := toDigits_inj (List.cons.inj h).2
      have hmn : m = n := by omega
      rw [hmn]

theorem numeric_of_mem_intText {i : Int} {c : Char} (h : c ∈ intText i) : numeric c = true := by
  cases i with
  | ofNat n => simp [numeric, numeric_of_mem_toDigits h]
  | negSucc n =>
    rcases List.mem_cons.1 h with rfl | h
    · decide
    · simp [numeric, numeric_of_mem_toDigits h]

theorem intText_ne_nil (i : Int) : intText i ≠ [] := by
  cases i with
  | ofNat n => exact Nat.toDigits_ne_nil
  | negSucc n => exact List.cons_ne_nil _ _

/-- What may follow a value in an object: a comma or the closing brace. -/
def Closes (x : List Char) : Prop := ∃ c cs, x = c :: cs ∧ numeric c = false

theorem takeWhile_intText {i : Int} {x : List Char} (hx : Closes x) :
    (intText i ++ x).takeWhile numeric = intText i := by
  obtain ⟨c, cs, rfl, hc⟩ := hx
  rw [List.takeWhile_append_of_pos fun a ha => numeric_of_mem_intText ha,
    List.takeWhile_cons_of_neg (by simp [hc]), List.append_nil]

/-- The first character tells the five kinds of scalar apart. -/
theorem scalarText_append_inj {v w : Scalar} {x y : List Char} (hx : Closes x) (hy : Closes y)
    (h : scalarText v ++ x = scalarText w ++ y) : v = w ∧ x = y := by
  have hint : ∀ {i : Int} {c : Char} {cs z : List Char}, intText i ++ z = c :: cs →
      numeric c = true := by
    intro i c cs z he
    obtain ⟨d, ds, hd⟩ := List.exists_cons_of_ne_nil (intText_ne_nil i)
    rw [hd, List.cons_append, List.cons.injEq] at he
    rw [← he.1]
    exact numeric_of_mem_intText (hd ▸ List.mem_cons_self)
  cases v with
  | int i =>
    cases w with
    | int j =>
      have ht : intText i = intText j := by
        rw [← takeWhile_intText hx, show intText i ++ x = intText j ++ y from h,
          takeWhile_intText hy]
      obtain rfl := intText_inj ht
      exact ⟨rfl, List.append_cancel_left h⟩
    | null => exact absurd (hint (show intText i ++ x = 'n' :: _ from h)) (by decide)
    | bool b =>
      cases b with
      | true => exact absurd (hint (show intText i ++ x = 't' :: _ from h)) (by decide)
      | false => exact absurd (hint (show intText i ++ x = 'f' :: _ from h)) (by decide)
    | str s => exact absurd (hint (show intText i ++ x = '"' :: _ from h)) (by decide)
  | null =>
    cases w with
    | null => exact ⟨rfl, List.append_cancel_left h⟩
    | int j => exact absurd (hint (show intText j ++ y = 'n' :: _ from h.symm)) (by decide)
    | bool b => cases b <;> simp [scalarText] at h
    | str s => simp [scalarText] at h
  | bool b =>
    cases w with
    | bool b' => cases b <;> cases b' <;> simp [scalarText] at h <;> exact ⟨rfl, h⟩
    | int j =>
      cases b with
      | true => exact absurd (hint (show intText j ++ y = 't' :: _ from h.symm)) (by decide)
      | false => exact absurd (hint (show intText j ++ y = 'f' :: _ from h.symm)) (by decide)
    | null => cases b <;> simp [scalarText] at h
    | str s => cases b <;> simp [scalarText] at h
  | str s =>
    cases w with
    | str t =>
      obtain ⟨hst, hxy⟩ := quoted_append_inj (List.cons.inj h).2
      exact ⟨by rw [String.toList_inj.1 hst], hxy⟩
    | int j => exact absurd (hint (show intText j ++ y = '"' :: _ from h.symm)) (by decide)
    | null => simp [scalarText] at h
    | bool b => cases b <;> simp [scalarText] at h

/-! ### Objects -/

/-- `"key":value`. -/
def fieldText (f : String × Scalar) : List Char :=
  '"' :: quoted f.1.toList ++ ':' :: scalarText f.2

theorem fieldText_append_inj {f g : String × Scalar} {x y : List Char} (hx : Closes x)
    (hy : Closes y) (h : fieldText f ++ x = fieldText g ++ y) : f = g ∧ x = y := by
  simp only [fieldText, List.cons_append, List.append_assoc] at h
  obtain ⟨hk, h⟩ := quoted_append_inj (List.cons.inj h).2
  obtain ⟨hv, h⟩ := scalarText_append_inj hx hy (List.cons.inj h).2
  exact ⟨Prod.ext (String.toList_inj.1 hk) hv, h⟩

/-- The fields after the first, and the closing brace. -/
def fieldsTail : Payload → List Char
  | [] => ['\x7d']
  | f :: fs => ',' :: (fieldText f ++ fieldsTail fs)

def objectText : Payload → List Char
  | [] => ['\x7b', '\x7d']
  | f :: fs => '\x7b' :: (fieldText f ++ fieldsTail fs)

theorem closes_fieldsTail (fs : Payload) : Closes (fieldsTail fs) := by
  cases fs with
  | nil => exact ⟨_, _, rfl, by decide⟩
  | cons f fs => exact ⟨_, _, rfl, by decide⟩

theorem fieldsTail_inj {fs gs : Payload} (h : fieldsTail fs = fieldsTail gs) : fs = gs := by
  induction fs generalizing gs with
  | nil =>
    cases gs with
    | nil => rfl
    | cons g gs => simp [fieldsTail] at h
  | cons f fs ih =>
    cases gs with
    | nil => simp [fieldsTail] at h
    | cons g gs =>
      obtain ⟨rfl, htail⟩ := fieldText_append_inj (closes_fieldsTail fs) (closes_fieldsTail gs)
        (List.cons.inj h).2
      rw [ih htail]

theorem objectText_inj {fs gs : Payload} (h : objectText fs = objectText gs) : fs = gs := by
  cases fs with
  | nil =>
    cases gs with
    | nil => rfl
    | cons g gs => simp [objectText, fieldText] at h
  | cons f fs =>
    cases gs with
    | nil => simp [objectText, fieldText] at h
    | cons g gs =>
      obtain ⟨rfl, htail⟩ := fieldText_append_inj (closes_fieldsTail fs) (closes_fieldsTail gs)
        (List.cons.inj h).2
      rw [fieldsTail_inj htail]

/-- The fields in the order of their keys. -/
def sortKeys (p : Payload) : Payload := p.insertionSort fun f g => f.1 ≤ g.1

/-- The canonical text of a flat object. -/
def dumps (p : Payload) : String := String.ofList (objectText (sortKeys p))

/-- Equal texts come from equal payloads, up to the order of the fields. -/
theorem perm_of_dumps_eq {p q : Payload} (h : dumps p = dumps q) : p.Perm q := by
  have hs : sortKeys p = sortKeys q := objectText_inj (String.ofList_inj.1 h)
  have hp : (sortKeys p).Perm p := List.perm_insertionSort _ p
  have hq : (sortKeys q).Perm q := List.perm_insertionSort _ q
  exact hp.symm.trans (hs ▸ hq)

instance : Std.Total fun f g : String × Scalar => f.1 ≤ g.1 := ⟨fun f g => String.le_total f.1 g.1⟩

instance : IsTrans (String × Scalar) fun f g => f.1 ≤ g.1 := ⟨fun _ _ _ h h' => String.le_trans h h'⟩

/-- The text of a dictionary says which fields it has, and nothing about their order. -/
theorem dumps_eq_iff {p q : Payload} (hp : (p.map Prod.fst).Nodup) :
    dumps p = dumps q ↔ p.Perm q := by
  refine ⟨perm_of_dumps_eq, fun h => ?_⟩
  have hsort : (sortKeys p).Perm (sortKeys q) :=
    ((List.perm_insertionSort _ p).trans h).trans (List.perm_insertionSort _ q).symm
  have hs : sortKeys p = sortKeys q := by
    refine hsort.eq_of_pairwise ?_ (List.pairwise_insertionSort _ p) (List.pairwise_insertionSort _ q)
    intro f g hf hg hle hge
    have hf' : f ∈ p := (List.mem_insertionSort _).1 hf
    have hg' : g ∈ p := h.mem_iff.2 ((List.mem_insertionSort _).1 hg)
    exact List.inj_on_of_nodup_map hp hf' hg' (String.le_antisymm hle hge)
  rw [dumps, dumps, hs]

/-- Fields that stand under the same keys in the same order are the same fields. -/
theorem eq_of_perm_of_keys {p q : Payload} (hp : (p.map Prod.fst).Nodup)
    (hk : p.map Prod.fst = q.map Prod.fst) (h : p.Perm q) : p = q := by
  induction p generalizing q with
  | nil => exact h.nil_eq
  | cons f p ih =>
    cases q with
    | nil => cases hk
    | cons g q =>
      rw [List.map_cons, List.map_cons, List.cons.injEq] at hk
      rw [List.map_cons, List.nodup_cons] at hp
      -- the head of one is in the other, and only the other's head has its key
      have hfg : f = g := by
        rcases List.mem_cons.1 (h.mem_iff.1 List.mem_cons_self) with hfg | hmem
        · exact hfg
        · exact absurd (hk.2 ▸ List.mem_map_of_mem hmem) hp.1
      subst hfg
      rw [ih hp.2 hk.2 (List.perm_cons _ |>.1 h)]

theorem dumps_eq_iff_of_keys {p q : Payload} (hp : (p.map Prod.fst).Nodup)
    (hk : p.map Prod.fst = q.map Prod.fst) : dumps p = dumps q ↔ p = q :=
  ⟨fun h => eq_of_perm_of_keys hp hk (perm_of_dumps_eq h), fun h => h ▸ rfl⟩

end JsonText

end MoneyMovement

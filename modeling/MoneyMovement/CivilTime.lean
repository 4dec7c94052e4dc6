/-
  MoneyMovement/CivilTime.lean
  ============================
  **UTC instants and their ISO-8601 text.**

  An instant is a number of microseconds since 0001-01-01T00:00:00 UTC, in the
  proleptic Gregorian calendar.  `isoformat` and `fromisoformat` follow the
  standard library functions of the same names on UTC datetimes:
  `YYYY-MM-DDTHH:MM:SS[.ffffff]+00:00`, the fraction left out when it is zero.
  `fromisoformat_isoformat` is the round trip for every representable instant
  (years up to 9999).
-/
import MoneyMovement.PositionalText

namespace MoneyMovement

/-- An instant: microseconds since 0001-01-01T00:00:00 UTC. -/
abbrev Time := Nat

namespace Time

def secondUs : Nat := 1000000
def dayUs : Nat := 86400 * secondUs

/-- `timedelta(seconds=n)`. -/
def seconds (n : Nat) : Time := n * secondUs

/-- `timedelta(hours=n)`. -/
def hours (n : Nat) : Time := n * 3600 * secondUs

/-- Midnight UTC of the day of `t`. -/
def startOfDay (t : Time) : Time := t / dayUs * dayUs

/-! ### The calendar -/

structure CivilDate where
  year : Nat
  month : Nat
  day : Nat
deriving DecidableEq, Repr

def isLeap (y : Nat) : Bool := y % 4 == 0 && (y % 100 != 0 || y % 400 == 0)

/-- Days before 1 January of year `y`, counted from 0001-01-01. -/
def daysBeforeYear (y : Nat) : Nat := (y - 1) * 365 + (y - 1) / 4 - (y - 1) / 100 + (y - 1) / 400

/-- Days of the year before the first of the month. -/
def daysBeforeMonth (leap : Bool) (m : Nat) : Nat :=
  [0, 0, 31, 59, 90, 120, 151, 181, 212, 243, 273, 304, 334].getD m 0 +
    if m > 2 && leap then 1 else 0

/-- The ordinal of a date, 0 for 0001-01-01. -/
def toOrdinal (d : CivilDate) : Nat :=
  daysBeforeYear d.year + daysBeforeMonth (isLeap d.year) d.month + (d.day - 1)

/-- Month and day of the `n`-th day of a year. -/
def monthDay (leap : Bool) (n : Nat) : Nat × Nat :=
  let guess := (n + 50) / 32
  if daysBeforeMonth leap guess > n then
    (guess - 1, n - daysBeforeMonth leap (guess - 1) + 1)
  else (guess, n - daysBeforeMonth leap guess + 1)

/-- The date from its 400-, 100-, 4- and 1-year cycles and the day of the year. -/
def ofCycles (n400 n100 n4 n1 n : Nat) : CivilDate :=
  let y := n400 * 400 + 1 + n100 * 100 + n4 * 4 + n1
  if n1 == 4 || n100 == 4 then ⟨y - 1, 12, 31⟩
  else
    let md := monthDay (n1 == 3 && (n4 != 24 || n100 == 3)) n
    ⟨y, md.1, md.2⟩

/-- The date of an ordinal. -/
def ofOrdinal (n : Nat) : CivilDate :=
  ofCycles (n / 146097) (n % 146097 / 36524) (n % 146097 % 36524 / 1461)
    (n % 146097 % 36524 % 1461 / 365) (n % 146097 % 36524 % 1461 % 365)

theorem monthDay_spec (leap : Bool) :
    ∀ n < (if leap then 366 else 365), 1 ≤ (monthDay leap n).1 ∧ (monthDay leap n).1 ≤ 12 ∧
      1 ≤ (monthDay leap n).2 ∧ (monthDay leap n).2 ≤ 31 ∧
      daysBeforeMonth leap (monthDay leap n).1 + ((monthDay leap n).2 - 1) = n := by
  cases leap <;> decide +kernel

/-- A date inside its century, four-year and one-year cycles: the days before its year
    and whether the year is a leap year. -/
theorem cycles_spec (a b c d : Nat) (hb : b < 4) (hc : c < 25) (hd : d < 4) :
    daysBeforeYear (a * 400 + 1 + b * 100 + c * 4 + d) =
        a * 146097 + b * 36524 + c * 1461 + d * 365 ∧
      isLeap (a * 400 + 1 + b * 100 + c * 4 + d) = (d == 3 && (c != 24 || b == 3)) := by
  constructor
  · unfold daysBeforeYear
    have h4 : (a * 400 + 1 + b * 100 + c * 4 + d - 1) / 4 = a * 100 + b * 25 + c := by omega
    have h100 : (a * 400 + 1 + b * 100 + c * 4 + d - 1) / 100 = a * 4 + b := by omega
    have h400 : (a * 400 + 1 + b * 100 + c * 4 + d - 1) / 400 = a := by omega
    rw [h4, h100, h400]
    omega
  · rw [Bool.eq_iff_iff]
    simp only [isLeap, Bool.and_eq_true, Bool.or_eq_true, beq_iff_eq, bne_iff_ne, ne_eq]
    omega

/-- The date of a cycle decomposition is valid, and `toOrdinal` gives its day count back. -/
theorem ofCycles_spec {a b c d r : Nat} (hb : b < 4 ∨ b = 4 ∧ c = 0 ∧ d = 0 ∧ r = 0)
    (hc : c < 25) (hd : d < 4 ∨ d = 4 ∧ r = 0 ∧ c < 24) (hr : r < 365) :
    (ofCycles a b c d r).month ≤ 12 ∧ (ofCycles a b c d r).day ≤ 31 ∧
      toOrdinal (ofCycles a b c d r) = a * 146097 + b * 36524 + c * 1461 + d * 365 + r := by
  by_cases hlast : d = 4 ∨ b = 4
  · -- 31 December of a leap year: the last day of a four-year or 400-year cycle
    have hdate : ofCycles a b c d r = ⟨a * 400 + 1 + b * 100 + c * 4 + d - 1, 12, 31⟩ := by
      rw [ofCycles, if_pos (by simpa using hlast)]
    have hyear : a * 400 + 1 + b * 100 + c * 4 + d - 1 =
        a * 400 + 1 + (if b = 4 then 3 else b) * 100 + (if b = 4 then 24 else c) * 4 + 3 := by
      split <;> omega
    obtain ⟨hy, hleap⟩ := cycles_spec a (if b = 4 then 3 else b) (if b = 4 then 24 else c) 3
      (by split <;> omega) (by split <;> omega) (by decide)
    have hl : (3 == 3 && ((if b = 4 then 24 else c) != 24 || (if b = 4 then 3 else b) == 3))
        = true := by
      by_cases h4 : b = 4
      · simp [h4]
      · have : c ≠ 24 := by omega
        simp [h4, this]
    have h12 : daysBeforeMonth true 12 = 335 := by decide
    rw [hdate]
    refine ⟨Nat.le_refl 12, Nat.le_refl 31, ?_⟩
    show daysBeforeYear _ + daysBeforeMonth (isLeap _) 12 + (31 - 1) = _
    rw [hyear, hy, hleap, hl, h12]
    split <;> omega
  · have hdate : ofCycles a b c d r = ⟨a * 400 + 1 + b * 100 + c * 4 + d,
        (monthDay (d == 3 && (c != 24 || b == 3)) r).1,
        (monthDay (d == 3 && (c != 24 || b == 3)) r).2⟩ := by
      rw [ofCycles, if_neg (by simpa using hlast)]
    obtain ⟨hy, hleap⟩ := cycles_spec a b c d (by omega) hc (by omega)
    obtain ⟨-, hm, -, hday, hord⟩ := monthDay_spec (d == 3 && (c != 24 || b == 3)) r
      (by split <;> omega)
    rw [hdate]
    refine ⟨hm, hday, ?_⟩
    simp only [toOrdinal, hy, hleap]
    omega

/-- `ofOrdinal` yields a valid date and `toOrdinal` undoes it. -/
theorem ofOrdinal_spec (n : Nat) :
    (ofOrdinal n).month ≤ 12 ∧ (ofOrdinal n).day ≤ 31 ∧ toOrdinal (ofOrdinal n) = n := by
  have hx : n % 146097 < 146097 := Nat.mod_lt _ (by decide)
  have hy : n % 146097 % 36524 < 36524 := Nat.mod_lt _ (by decide)
  have hz : n % 146097 % 36524 % 1461 < 1461 := Nat.mod_lt _ (by decide)
  obtain ⟨hm, hday, hord⟩ := ofCycles_spec (a := n / 146097) (b := n % 146097 / 36524)
    (c := n % 146097 % 36524 / 1461) (d := n % 146097 % 36524 % 1461 / 365)
    (r := n % 146097 % 36524 % 1461 % 365) (by omega) (by omega) (by omega) (by omega)
  refine ⟨hm, hday, ?_⟩
  rw [ofOrdinal, hord]
  omega

/-! ### ISO-8601 text -/

/-- Zero-padded decimal. -/
def padded (width n : Nat) : List Char := decimalAlphabet.encode width n

/-- `.ffffff`, or nothing when the fraction is zero. -/
def fraction (us : Nat) : List Char := if us = 0 then [] else '.' :: padded 6 us

def isoDate (d : CivilDate) : List Char :=
  padded 4 d.year ++ '-' :: (padded 2 d.month ++ '-' :: padded 2 d.day)

/-- Hours, minutes, seconds and fraction of `us` microseconds after midnight. -/
def isoClock (us : Nat) : List Char :=
  padded 2 (us / secondUs / 3600) ++ ':' :: (padded 2 (us / secondUs / 60 % 60) ++
    ':' :: (padded 2 (us / secondUs % 60) ++ fraction (us % secondUs)))

/-- `datetime.isoformat()` of a UTC instant. -/
def isoformat (t : Time) : String :=
  String.ofList (isoDate (ofOrdinal (t / dayUs)) ++ 'T' :: (isoClock (t % dayUs) ++
    "+00:00".toList))

/-- `%Y%m%d`. -/
def compactDate (t : Time) : String :=
  let d := ofOrdinal (t / dayUs)
  String.ofList (padded 4 d.year ++ padded 2 d.month ++ padded 2 d.day)

/-- A decimal field of the given width, and what follows it. -/
def field? (width : Nat) (cs : List Char) : Option (Nat × List Char) :=
  (decimalAlphabet.decode? (cs.take width)).map fun v => (v, cs.drop width)

/-- What follows a fixed character. -/
def after? (c : Char) : List Char → Option (List Char)
  | [] => none
  | d :: cs => if d = c then some cs else none

/-- The optional fraction, and what follows it. -/
def fraction? (cs : List Char) : Option (Nat × List Char) :=
  match after? '.' cs with
  | some rest => field? 6 rest
  | none => some (0, cs)

/-- `YYYY-MM-DDT`, and what follows it. -/
def date? (cs : List Char) : Option (CivilDate × List Char) := do
  let (year, cs) ← field? 4 cs
  let (month, cs) ← field? 2 (← after? '-' cs)
  let (day, cs) ← field? 2 (← after? '-' cs)
  return (⟨year, month, day⟩, ← after? 'T' cs)

/-- `HH:MM:SS[.ffffff]` in microseconds, and what follows it. -/
def clock? (cs : List Char) : Option (Nat × List Char) := do
  let (hour, cs) ← field? 2 cs
  let (minute, cs) ← field? 2 (← after? ':' cs)
  let (second, cs) ← field? 2 (← after? ':' cs)
  let (us, cs) ← fraction? cs
  return ((hour * 3600 + minute * 60 + second) * secondUs + us, cs)

/-- `datetime.fromisoformat` on the texts `isoformat` writes. -/
def fromisoformat (text : String) : Option Time := do
  let (date, cs) ← date? text.toList
  let (us, cs) ← clock? cs
  if cs = "+00:00".toList then some (toOrdinal date * dayUs + us) else none

theorem field?_padded {width v : Nat} (h : v < 10 ^ width) (rest : List Char) :
    field? width (padded width v ++ rest) = some (v, rest) := by
  have hlen : (padded width v).length = width := decimalAlphabet.length_encode width v
  have hdec : decimalAlphabet.decode? (padded width v) = some v :=
    decimalAlphabet.decode?_encode h
  rw [field?, List.take_left' hlen, List.drop_left' hlen, hdec]
  rfl

theorem after?_cons (c : Char) (rest : List Char) : after? c (c :: rest) = some rest :=
  if_pos rfl

theorem fraction?_fraction {us : Nat} (h : us < secondUs) :
    fraction? (fraction us ++ "+00:00".toList) = some (us, "+00:00".toList) := by
  rw [fraction]
  by_cases h0 : us = 0
  · subst h0
    rfl
  · rw [if_neg h0, List.cons_append, fraction?, after?_cons]
    exact field?_padded h _

theorem date?_isoDate {d : CivilDate} (hy : d.year < 10 ^ 4) (hm : d.month ≤ 12) (hd : d.day ≤ 31)
    (rest : List Char) : date? (isoDate d ++ 'T' :: rest) = some (d, rest) := by
  have hm' : d.month < 10 ^ 2 := by omega
  have hd' : d.day < 10 ^ 2 := by omega
  simp only [date?, isoDate, List.append_assoc, List.cons_append, Option.bind_eq_bind,
    field?_padded hy, field?_padded hm', field?_padded hd', after?_cons, Option.bind_some]
  rfl

theorem clock?_isoClock {us : Nat} (h : us < 86400 * 1000000) :
    clock? (isoClock us ++ "+00:00".toList) = some (us, "+00:00".toList) := by
  have hsec : secondUs = 1000000 := rfl
  have hhour : us / secondUs / 3600 < 10 ^ 2 := by
    rw [hsec]
    omega
  have hmin : us / secondUs / 60 % 60 < 10 ^ 2 := by omega
  have hs : us / secondUs % 60 < 10 ^ 2 := by omega
  have hsum : (us / secondUs / 3600 * 3600 + us / secondUs / 60 % 60 * 60 + us / secondUs % 60) *
      secondUs + us % secondUs = us := by
    rw [hsec]
    omega
  simp only [clock?, isoClock, List.append_assoc, List.cons_append, Option.bind_eq_bind,
    field?_padded hhour, field?_padded hmin, field?_padded hs, after?_cons, Option.bind_some,
    fraction?_fraction (Nat.mod_lt us (by decide : 0 < secondUs)), hsum]
  rfl

/-- The first instant of the year 10000: a datetime is always before it. -/
def datetimeMax : Time := 3652059 * dayUs

theorem year_lt {n : Nat} (h : n < 3652059) : (ofOrdinal n).year < 10 ^ 4 := by
  obtain ⟨-, -, hord⟩ := ofOrdinal_spec n
  have hle : daysBeforeYear (ofOrdinal n).year ≤ n := by
    rw [toOrdinal] at hord
    omega
  unfold daysBeforeYear at hle
  omega

/-- Reading back what `isoformat` writes. -/
theorem fromisoformat_isoformat {t : Time} (h : t < datetimeMax) :
    fromisoformat (isoformat t) = some t := by
  have hday : t / dayUs < 3652059 := (Nat.div_lt_iff_lt_mul (by decide)).2 h
  have hus : t % dayUs < 86400 * 1000000 := Nat.mod_lt _ (by decide)
  obtain ⟨hm, hd, hord⟩ := ofOrdinal_spec (t / dayUs)
  rw [fromisoformat, isoformat, String.toList_ofList, date?_isoDate (year_lt hday) hm hd,
    Option.bind_eq_bind, Option.bind_some]
  dsimp only
  rw [clock?_isoClock hus, Option.bind_eq_bind, Option.bind_some, if_pos rfl, hord, Nat.mul_comm,
    Nat.div_add_mod]

end Time

end MoneyMovement

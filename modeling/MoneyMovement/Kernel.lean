/-
  MoneyMovement/Kernel.lean
  =========================
  **Identifiers, money and the error taxonomy** — `platform_/kernel`.

  A `Ulid` is 48 bits of millisecond timestamp and 80 random bits; `Ulid.text`
  is the 26-character string `new_ulid` returns for them, and `Ulid.ofText?`
  reads it back.  Keeping the two numbers rather than the string makes the
  order and the equality of identifiers those of numbers; every place where the
  program builds a string from an identifier goes through `text`.
-/
import MoneyMovement.CivilTime
import MoneyMovement.JsonText

namespace MoneyMovement

/-! ### Identifiers (`kernel/ids.py`) -/

/-- `_CROCKFORD`: base 32 without I, L, O and U. -/
def crockford : Alphabet where
  digits := "0123456789ABCDEFGHJKMNPQRSTVWXYZ".toList
  nodup := by decide
  two_le := by decide

structure Ulid where
  ms : Fin (2 ^ 48)
  rand : Fin (2 ^ 80)
deriving DecidableEq, Repr

namespace Ulid

instance neZero_ms : NeZero (2 ^ 48) := ⟨by decide⟩

instance neZero_rand : NeZero (2 ^ 80) := ⟨by decide⟩

/-- The 26 characters of the identifier. -/
def chars (u : Ulid) : List Char := crockford.encode 10 u.ms ++ crockford.encode 16 u.rand

/-- `_encode(ms, 10) + _encode(randomness, 16)`. -/
def text (u : Ulid) : String := String.ofList u.chars

/-- The position of the identifier in `ORDER BY id`. -/
def rank (u : Ulid) : Nat := u.ms * 2 ^ 80 + u.rand

/-- Read an identifier back from its text. -/
def ofText? (s : String) : Option Ulid := do
  let ms ← crockford.decode? (s.toList.take 10)
  let rand ← crockford.decode? (s.toList.drop 10)
  if h : ms < 2 ^ 48 ∧ rand < 2 ^ 80 then some ⟨⟨ms, h.1⟩, ⟨rand, h.2⟩⟩ else none

@[simp] theorem length_chars (u : Ulid) : u.chars.length = 26 := by
  simp [chars]

theorem ofText?_text (u : Ulid) : ofText? u.text = some u := by
  have hms : crockford.decode? (crockford.encode 10 u.ms) = some u.ms.val :=
    crockford.decode?_encode (Nat.lt_of_lt_of_le u.ms.isLt (by decide))
  have hrand : crockford.decode? (crockford.encode 16 u.rand) = some u.rand.val :=
    crockford.decode?_encode (Nat.lt_of_lt_of_le u.rand.isLt (by decide))
  have hlen := crockford.length_encode 10 u.ms
  rw [ofText?, text, String.toList_ofList, chars, List.take_left' hlen, List.drop_left' hlen, hms,
    hrand]
  simp

theorem text_injective {u v : Ulid} (h : u.text = v.text) : u = v := by
  have := ofText?_text u
  rw [h, ofText?_text] at this
  exact (Option.some.inj this).symm

/-- In a text that starts with an identifier, the identifier can be read off. -/
theorem text_append_inj {u v : Ulid} {x y : String} (h : u.text ++ x = v.text ++ y) :
    u = v ∧ x = y := by
  have hl : u.chars ++ x.toList = v.chars ++ y.toList := by
    have := congrArg String.toList h
    simpa only [String.toList_append, text, String.toList_ofList] using this
  obtain ⟨hu, hx⟩ := List.append_inj hl (by rw [length_chars, length_chars])
  exact ⟨text_injective (congrArg String.ofList hu), String.toList_inj.1 hx⟩

/-- The last `n` characters, `id[-n:]`. -/
def suffix (u : Ulid) (n : Nat) : String := String.ofList (u.chars.drop (26 - n))

end Ulid

/-- A customer-facing reference, `PREFIX-YYYYMMDD-XXXXXXXX`. -/
structure Reference where
  pfx : String
  day : Nat
  suffix : Fin (32 ^ 8)
deriving DecidableEq, Repr

namespace Reference

instance neZero_suffix : NeZero (32 ^ 8) := ⟨by decide⟩

def text (r : Reference) : String :=
  r.pfx ++ "-" ++ Time.compactDate (r.day * Time.dayUs) ++ "-" ++
    String.ofList (crockford.encode 8 r.suffix)

end Reference

/-! ### Money (`kernel/money.py`) -/

/-- The supported currencies: one, so mixing currencies has no value to go wrong on. -/
inductive Currency where
  | BDT
deriving DecidableEq, Repr

namespace Currency

def code : Currency → String
  | BDT => "BDT"

/-- `SUPPORTED_CURRENCIES.get(code)`. -/
def ofCode? (s : String) : Option Currency := if s = "BDT" then some BDT else none

theorem ofCode?_code (c : Currency) : ofCode? c.code = some c := by
  cases c
  rfl

end Currency

/-- An exact amount in minor units. -/
structure Money where
  minor : Int
  currency : Currency := .BDT
deriving DecidableEq, Repr

namespace Money

def zero (c : Currency := .BDT) : Money := ⟨0, c⟩

/-- `from_minor`. -/
def fromMinor (minor : Int) (c : Currency := .BDT) : Money := ⟨minor, c⟩

def isPositive (m : Money) : Bool := decide (0 < m.minor)

def add (a b : Money) : Money := ⟨a.minor + b.minor, a.currency⟩

def sub (a b : Money) : Money := ⟨a.minor - b.minor, a.currency⟩

def neg (a : Money) : Money := ⟨-a.minor, a.currency⟩

end Money

/-! ### Errors (`kernel/errors.py`)

The `AppError` classes, and the exceptions of the language and the database
driver that reach the same handlers. -/

inductive ErrorKind where
  | validation
  | insufficientFunds
  | selfTransfer
  | accountInactive
  | currencyMismatch
  | transferLimitExceeded
  | dailyLimitExceeded
  | authentication
  | authorization
  | notFound
  | pinLocked
  | conflict
  | idempotencyKeyReuse
  | requestInProgress
  | stateConflict
  | dependencyUnavailable
  /-- A constraint of the schema refused the statement. -/
  | integrity
  /-- A text too long for its column. -/
  | data
  /-- `ValueError`, `RuntimeError`, `KeyError`, `RecursionError`. -/
  | python
deriving DecidableEq, Repr

namespace ErrorKind

/-- The class's own message. -/
def message : ErrorKind → String
  | validation => "The request was malformed."
  | insufficientFunds => "Your available balance is insufficient."
  | selfTransfer => "You cannot send money to your own account."
  | accountInactive => "This account cannot transact at the moment."
  | currencyMismatch => "Both accounts must hold the same currency."
  | transferLimitExceeded => "This amount exceeds the permitted transfer limit."
  | dailyLimitExceeded => "This transfer would exceed your daily sending limit."
  | authentication => "Authentication is required."
  | authorization => "You are not permitted to perform this action."
  | notFound => "The requested resource was not found."
  | pinLocked => "Too many incorrect PIN attempts. Try again later."
  | conflict => "The request conflicts with the current state."
  | idempotencyKeyReuse => "This idempotency key was already used with a different request."
  | requestInProgress => "An identical request is currently being processed."
  | stateConflict => "This request has already been handled."
  | dependencyUnavailable => "The service is temporarily unavailable. Please retry shortly."
  | integrity => "constraint violation"
  | data => "value too long"
  | python => "unexpected error"

end ErrorKind

/-- A raised exception. -/
structure AppError where
  kind : ErrorKind
  message : String
  details : Payload := []
deriving DecidableEq, Repr

namespace AppError

/-- Raise a class without arguments. -/
def of (k : ErrorKind) : AppError := ⟨k, k.message, []⟩

/-- Raise a class with its own message and details. -/
def detailed (k : ErrorKind) (details : Payload) : AppError := ⟨k, k.message, details⟩

end AppError

end MoneyMovement

/-
  MoneyMovement/SendScreen.lean
  =============================
  **The screen that sends money** — `frontend/src/screens/Send.jsx`, and what the API lets in of
  what it sends.

  The screen goes from `compose` over `review` to `submitting`, and from there to `succeeded`,
  back to `review`, or to `unknown`.  A handler that awaits an answer is two functions here, what
  it does before the `await` and what it does with the answer.  React shows every change before
  the next click, so a handler reads the state the last one has left.

  The receipt is the object the server answered, shown field by field; an answer whose body could
  not be read leaves it without fields.
-/
import MoneyMovement.Acknowledgements
import MoneyMovement.Queries
import MoneyMovement.RateLimit
import MoneyMovement.TakaText

namespace MoneyMovement

/-! ### What the API lets in (`apps/api/dependencies.py`, `apps/api/schemas.py`) -/

/-- `require_idempotency_key`. -/
def requireIdempotencyKey (idempotencyKey : Option String) : Except AppError String :=
  match idempotencyKey with
  | none | some "" => .error ⟨.validation,
      "The Idempotency-Key header is required for this operation.", [("header", .str "Idempotency-Key")]⟩
  | some header =>
    let key := String.ofList (strip header.toList)
    if 8 ≤ key.length ∧ key.length ≤ 128 then .ok key
    else .error ⟨.validation,
      "Idempotency-Key must be between 8 and 128 characters.", [("header", .str "Idempotency-Key")]⟩

/-- `str_strip_whitespace`: the white space of Unicode, without Python's separators 1C to 1F. -/
def stripWhitespace (text : String) : String :=
  let white := fun ch : Char => isPySpace ch && !(0x1C ≤ ch.toNat && ch.toNat ≤ 0x1F)
  String.ofList ((text.toList.dropWhile white).rdropWhile white)

/-- The body of `POST /transfers` as it is sent; an amount that is none goes out as `null`. -/
structure TransferRequest where
  recipientPhone : String
  amountMinor : Option Nat
  pin : String
  note : Option String
deriving DecidableEq

namespace TransferRequest

/-- `^[0-9]{4,6}$`. -/
def pinFormat (pin : String) : Bool :=
  4 ≤ pin.length && pin.length ≤ 6 && pin.toList.all Char.isDigit

/-- What is asked for, once the texts are stripped. -/
def intent (b : TransferRequest) : SendIntent where
  phone := stripWhitespace b.recipientPhone
  amount := .fromMinor (b.amountMinor.getD 0)
  note := b.note.map stripWhitespace

/-- The request of a body that fits the schema. -/
def accepted (b : TransferRequest) (user : Ulid) (key : String) (requestId : Option String) :
    Option Request :=
  let pin := stripWhitespace b.pin
  let note := b.note.map stripWhitespace
  match b.amountMinor with
  | none => none
  | some minor =>
    if SqlUserRepository.phoneFormat (stripWhitespace b.recipientPhone) = true ∧
        0 < minor ∧ minor ≤ 1000000000000 ∧ pinFormat pin = true ∧ ∀ n ∈ note, n.length ≤ 200 then
      some (.createTransfer user pin (stripWhitespace b.recipientPhone) (.fromMinor minor) note key
        requestId)
    else none

theorem accepted_eq_some {b : TransferRequest} {user : Ulid} {key : String} {requestId : Option String}
    {r : Request} (h : b.accepted user key requestId = some r) :
    ∃ pin, r = .createTransfer user pin b.intent.phone b.intent.amount b.intent.note key requestId := by
  unfold accepted at h
  cases hminor : b.amountMinor with
  | none => simp [hminor] at h
  | some minor =>
    simp only [hminor] at h
    split at h
    · cases h
      refine ⟨stripWhitespace b.pin, ?_⟩
      rw [intent, hminor]
      rfl
    · cases h

end TransferRequest

/-- What `newIdempotencyKey` returns: hexadecimal groups, or `key-` with digits and letters. -/
structure ClientKey where
  text : String
  plain : ∀ c ∈ text.toList, c.isAlphanum = true ∨ c = '-'
  length : 8 ≤ text.length ∧ text.length ≤ 128

theorem not_space_of_alphanum {c : Char} (h : c.isAlphanum = true) : isPySpace c = false := by
  have hrange : (48 ≤ c.toNat ∧ c.toNat ≤ 57) ∨ (65 ≤ c.toNat ∧ c.toNat ≤ 90) ∨
      (97 ≤ c.toNat ∧ c.toNat ≤ 122) := by
    change (decide (c.val ≥ 65 ∧ c.val ≤ 90) ||
      (decide (c.val ≥ 97) && decide (c.val ≤ 122)) ||
      (decide (c.val ≥ 48) && decide (c.val ≤ 57))) = true at h
    simp only [Bool.or_eq_true, Bool.and_eq_true, decide_eq_true_eq, ge_iff_le,
      UInt32.le_iff_toNat_le] at h
    rcases h with (h | h) | h
    · exact .inr (.inl h)
    · exact .inr (.inr h)
    · exact .inl h
  simp [isPySpace]
  omega

/-- The API takes it as it is. -/
theorem ClientKey.required (key : ClientKey) : requireIdempotencyKey (some key.text) = .ok key.text := by
  have hspace : ∀ c ∈ key.text.toList, isPySpace c = false := by
    intro c hc
    rcases key.plain c hc with h | rfl
    · exact not_space_of_alphanum h
    · decide
  have hstrip : strip key.text.toList = key.text.toList := by
    rw [strip, dropWhile_of_not hspace, dropWhile_of_not, List.reverse_reverse]
    exact fun c hc => hspace c (List.mem_reverse.1 hc)
  have hne : key.text ≠ "" := by
    intro he
    have := key.length.1
    rw [he] at this
    exact absurd this (by decide)
  unfold requireIdempotencyKey
  split
  · contradiction
  · rename_i he
    exact absurd (Option.some.inj he) hne
  · rename_i header _ he
    obtain rfl := Option.some.inj he
    simp only [hstrip, String.ofList_toList, if_pos key.length]

/-! ### The screen -/

/-- `step`. -/
inductive SendStep where
  | compose
  | review
  | submitting
  | unknown
  | succeeded
deriving DecidableEq

/-- The state of the component. -/
structure SendScreen where
  step : SendStep
  phone : String
  amount : String
  note : String
  pin : String
  recipient : Option Recipient
  receipt : Option Body
  error : Option String
  busy : Bool
  idempotencyKey : Option String
  undoKey : Option String

/-- `{ ...current, ...data }`. -/
def Body.spread (current data : Body) : Body :=
  current.filter (fun f => !data.any fun g => g.1 == f.1) ++ data

/-- `text.length`, in UTF-16 code units. -/
def utf16Length (text : String) : Nat :=
  (text.toList.map fun c => if 0x10000 ≤ c.toNat then 2 else 1).sum

namespace SendScreen

/-- As the component is mounted. -/
def mounted : SendScreen :=
  ⟨.compose, "", "", "", "", none, none, none, false, none, none⟩

def amountMinor (s : SendScreen) : Option Nat := parseTakaToMinor s.amount

/-- The number fits `PHONE_RE` and the amount is one, and not zero. -/
def composeReady (s : SendScreen) : Bool :=
  SqlUserRepository.phoneFormat s.phone &&
    match s.amountMinor with
    | some minor => 0 < minor
    | none => false

/-- The body `confirmSend` sends. -/
def request (s : SendScreen) : TransferRequest where
  recipientPhone := s.phone
  amountMinor := s.amountMinor
  pin := s.pin
  note := if s.note = "" then none else some s.note

/-- What the sender asks for with the form as it is. -/
def intent (s : SendScreen) : SendIntent := s.request.intent

/-- A call is under way. -/
def waiting (s : SendScreen) : SendScreen := { s with busy := true, error := none }

/-- `lookupRecipient` with the answer of `api.lookup`. -/
def lookedUp (s : SendScreen) (data : Recipient) (key : String) : SendScreen :=
  { s with recipient := some data, idempotencyKey := some key, step := .review, busy := false }

/-- The `catch` of the lookup and of the undo. -/
def failed (s : SendScreen) (message : String) : SendScreen :=
  { s with error := some message, busy := false }

/-- `confirmSend` before the answer. -/
def submitting (s : SendScreen) : SendScreen := { s.waiting with step := .submitting }

/-- `confirmSend` with the answer of `api.transfer`; the metadata repeats the flag of the body. -/
def sent (s : SendScreen) (data : Option Body) (undoKey : String) : SendScreen :=
  { s with receipt := some (data.getD []), undoKey := some undoKey, step := .succeeded, busy := false }

/-- An `UnknownOutcomeError`. -/
def unsure (s : SendScreen) : SendScreen := { s with step := .unknown, busy := false }

/-- Any other error of `api.transfer`. -/
def refused (s : SendScreen) (message : String) : SendScreen :=
  { s with error := some message, step := .review, busy := false }

/-- The undo button with the answer of `api.undoTransfer`. -/
def undone (s : SendScreen) (data : Option Body) : SendScreen :=
  { s with
    receipt := some (((s.receipt.getD []).spread (data.getD [])).spread
      [field "status" (.str "REFUNDED")])
    busy := false }

/-- `reset`, which leaves `busy` alone. -/
def reset (s : SendScreen) : SendScreen := { mounted with busy := s.busy }

end SendScreen

/-! ### What a receipt shows -/

section Receipts

variable {b current data : Body} {name text : String} {n : Int} {hold : TransferRow}

/-- What is read from the merged object is read from the newer one, where that has the field. -/
theorem Body.get?_spread :
    (current.spread data).get? name = (data.get? name).or (current.get? name) := by
  have hfilter : (current.filter fun f => !data.any fun g => g.1 == f.1).find? (fun f => f.1 == name) =
      if data.any (fun g => g.1 == name) = true then none else current.find? fun f => f.1 == name := by
    have hkeep : ∀ f : String × BodyValue, decide ((!data.any fun g => g.1 == f.1) = true ∧
        (f.1 == name) = true) = ((!data.any fun g => g.1 == name) && f.1 == name) := by
      intro f
      by_cases hf : f.1 = name
      · subst hf
        simp
      · simp [hf]
    rw [List.find?_filter]
    simp only [hkeep]
    cases data.any fun g => g.1 == name <;> simp
  unfold spread get?
  rw [List.find?_append, hfilter]
  cases hdata : data.find? (fun f => f.1 == name) with
  | none =>
    have hany : ¬data.any (fun g => g.1 == name) = true := by
      rw [List.any_eq_true]
      rintro ⟨g, hg, hname⟩
      exact List.find?_eq_none.1 hdata g hg hname
    rw [if_neg hany]
    simp
  | some g =>
    have hname := List.find?_some (p := fun f : String × BodyValue => f.1 == name) hdata
    have hany : data.any (fun g => g.1 == name) = true :=
      List.any_eq_true.2 ⟨g, List.mem_of_find?_eq_some hdata, hname⟩
    rw [if_pos hany]
    rfl

theorem Body.str?_spread (h : (current.spread data).str? name = some text) :
    data.str? name = some text ∨ current.str? name = some text := by
  unfold str? at h ⊢
  rw [get?_spread] at h
  cases hdata : data.get? name with
  | none => exact .inr (by simpa [hdata] using h)
  | some v => exact .inl (by simpa [hdata] using h)

theorem Body.int?_spread (h : (current.spread data).int? name = some n) :
    data.int? name = some n ∨ current.int? name = some n := by
  unfold int? at h ⊢
  rw [get?_spread] at h
  cases hdata : data.get? name with
  | none => exact .inr (by simpa [hdata] using h)
  | some v => exact .inl (by simpa [hdata] using h)

/-- Whatever the body shows of a transfer, it shows of this one. -/
structure Body.Shows (b : Body) (hold : TransferRow) : Prop where
  transferId : ∀ x, b.str? "transferId" = some x → x = hold.id.text
  reference : ∀ x, b.str? "reference" = some x → x = hold.reference.text
  amount : ∀ n, b.int? "amountMinor" = some n → n = hold.amountMinor

theorem Body.Names.shows (h : b.Names hold) : b.Shows hold where
  transferId _ hx := Option.some.inj (hx.symm.trans h.transferId)
  reference _ hx := Option.some.inj (hx.symm.trans h.reference)
  amount _ hn := Option.some.inj (hn.symm.trans h.amount)

theorem Body.Shows.nil : Body.Shows [] hold := ⟨nofun, nofun, nofun⟩

theorem Body.Shows.spread (h : current.Shows hold) (h' : data.Shows hold) :
    (current.spread data).Shows hold where
  transferId x hx := (str?_spread hx).elim (h'.transferId x) (h.transferId x)
  reference x hx := (str?_spread hx).elim (h'.reference x) (h.reference x)
  amount n hn := (int?_spread hn).elim (h'.amount n) (h.amount n)

/-- A receipt that was changed in its status only, later on. -/
theorem Body.Shows.same {hold' : TransferRow} (hsame : hold.SameMovement hold') (h : b.Shows hold) :
    b.Shows hold' := by
  obtain ⟨_, _, rfl⟩ := hsame
  exact ⟨h.transferId, h.reference, h.amount⟩

/-- The status the undo button writes is no other field. -/
theorem Body.shows_status (status : String) : Body.Shows [field "status" (.str status)] hold :=
  ⟨nofun, nofun, nofun⟩

end Receipts

end MoneyMovement

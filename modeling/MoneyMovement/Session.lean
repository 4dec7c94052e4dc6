/-
  MoneyMovement/Session.lean
  ==========================
  **What a request runs in**: the configured process, the outside world it
  draws from, and the database session.

  `Ctx` is fixed for one transaction.  Its `Oracle` stands for what the program
  does not control: clock readings, random bits, the database's own `now()`
  (constant inside a transaction), which task rows other workers have locked.
  Nothing is assumed about the random values: two identifiers may collide, and
  then it is a constraint of the schema that refuses the second.

  `Session` is what changes: the database as the transaction sees it, how many
  values were drawn from the oracle, and the account rows locked so far.
-/
import MoneyMovement.TransactionMonad
import MoneyMovement.Records

namespace MoneyMovement

open Txn

/-! ### Configuration (`platform_/config.py`) and cryptography -/

structure Settings where
  jwtSecret : String
  accessTokenTtlSeconds : Nat
  refreshTokenTtlSeconds : Nat
  pinMaxAttempts : Nat
  pinLockoutSeconds : Nat
  openingBalanceMinor : Nat
  maxTransferAmountMinor : Nat
  dailyTransferLimitMinor : Nat
  moneyRequestExpiryHours : Nat
  safepayAutoReleaseHours : Nat
  overdraftMaxDrawMinor : Nat
  overdraftLienSweepBasisPoints : Nat
  lien_pos : 1 ≤ overdraftLienSweepBasisPoints
  lien_le : overdraftLienSweepBasisPoints ≤ 10000
  maxDraw_pos : 1 ≤ overdraftMaxDrawMinor
  pinMaxAttempts_pos : 1 ≤ pinMaxAttempts

/-- The cryptographic functions the program calls: SHA-256 and HMAC (hex digests, and
    the first eight bytes of an HMAC as an integer), Argon2, JWT encoding. -/
structure Crypto where
  sha256 : String → String
  hmacHex : String → String → String
  hmacHead : String → String → Nat
  argon2 : String → String → String
  argon2Verify : String → String → Bool
  argon2NeedsRehash : String → Bool
  jwtEncode : String → Ulid → Ulid → Time → Time → String

structure Oracle where
  clock : Nat → Time
  clock_lt : ∀ i, clock i < Time.datetimeMax
  ulid : Nat → Ulid
  referenceSuffix : Nat → Fin (32 ^ 8)
  token : Nat → String
  salt : Nat → String
  dbNow : Time
  /-- Task rows another worker holds: `SKIP LOCKED` passes over them. -/
  busyTask : Ulid → Bool
  /-- The order in which the database meets rows that its `ORDER BY` does not separate. -/
  physical : Ulid → Nat

structure Ctx where
  settings : Settings
  crypto : Crypto
  oracle : Oracle

structure Session where
  db : Database
  draws : Nat
  /-- Account rows locked by this transaction, newest first. -/
  locks : List Ulid

abbrev Tx (α : Type) : Type := Txn AppError Session α

/-! ### Drawing from the outside -/

/-- `clock.now()`. -/
def now (c : Ctx) : Tx Time := fun s =>
  .ok (c.oracle.clock s.draws) { s with draws := s.draws + 1 }

/-- `new_ulid()`. -/
def newUlid (c : Ctx) : Tx Ulid := fun s =>
  .ok (c.oracle.ulid s.draws) { s with draws := s.draws + 1 }

/-- `generate_reference(prefix, now=now)`. -/
def generateReference (c : Ctx) (pfx : String) (now : Time) : Tx Reference := fun s =>
  .ok ⟨pfx, now / Time.dayUs, c.oracle.referenceSuffix s.draws⟩ { s with draws := s.draws + 1 }

/-- `secrets.token_urlsafe(32)`. -/
def tokenUrlsafe (c : Ctx) : Tx String := fun s =>
  .ok (c.oracle.token s.draws) { s with draws := s.draws + 1 }

/-- `PasswordHasherService.hash`: the salt is drawn per call. -/
def hashPassword (c : Ctx) (secret : String) : Tx String := fun s =>
  .ok (c.crypto.argon2 (c.oracle.salt s.draws) secret) { s with draws := s.draws + 1 }

theorem now_ok {c : Ctx} {t : Time} {s s' : Session} (h : now c s = .ok t s') :
    s'.db = s.db ∧ t = c.oracle.clock s.draws := by
  cases h
  exact ⟨rfl, rfl⟩

theorem newUlid_ok {c : Ctx} {u : Ulid} {s s' : Session} (h : newUlid c s = .ok u s') :
    s'.db = s.db := by
  cases h
  rfl

theorem generateReference_ok {c : Ctx} {pfx : String} {t : Time} {r : Reference} {s s' : Session}
    (h : generateReference c pfx t s = .ok r s') : s'.db = s.db := by
  cases h
  rfl

theorem tokenUrlsafe_ok {c : Ctx} {r : String} {s s' : Session} (h : tokenUrlsafe c s = .ok r s') :
    s'.db = s.db := by
  cases h
  rfl

theorem hashPassword_ok {c : Ctx} {p r : String} {s s' : Session}
    (h : hashPassword c p s = .ok r s') : s'.db = s.db := by
  cases h
  rfl

/-! ### Statements -/

/-- A `SELECT`. -/
def readDb {α : Type} (f : Database → α) : Tx α := query fun s => f s.db

/-- A statement that only changes the database. -/
def writeDb (f : Database → Database) : Tx Unit := modify fun s => { s with db := f s.db }

theorem readDb_ok {α : Type} {f : Database → α} {a : α} {s s' : Session} :
    readDb f s = .ok a s' ↔ f s.db = a ∧ s = s' := query_ok

theorem writeDb_ok {f : Database → Database} {u : Unit} {s s' : Session}
    (h : writeDb f s = .ok u s') : s'.db = f s.db := by
  cases h
  rfl

section Tables

variable {ρ κ : Type} {key : ρ → κ} [DecidableEq κ]

/-- `INSERT`: refused when the primary key is taken or `admits` (the table's other
    constraints, read in the current database) fails. -/
def insertInto (get : Database → Table key) (set : Database → Table key → Database) (row : ρ)
    (admits : Database → Bool) : Tx Unit := fun s =>
  if ((get s.db).find? (key row)).isNone && admits s.db then
    .ok () { s with db := set s.db ((get s.db).push row) }
  else .raised (.of .integrity) s

theorem insertInto_ok {get : Database → Table key} {set : Database → Table key → Database}
    {row : ρ} {admits : Database → Bool} {u : Unit} {s s' : Session}
    (h : insertInto get set row admits s = .ok u s') :
    (get s.db).find? (key row) = none ∧ admits s.db = true ∧
      s'.db = set s.db ((get s.db).push row) := by
  unfold insertInto at h
  split at h
  · rename_i hc
    rw [Bool.and_eq_true, Option.isNone_iff_eq_none] at hc
    cases h
    exact ⟨hc.1, hc.2, rfl⟩
  · cases h

theorem insertInto_of {get : Database → Table key} {set : Database → Table key → Database}
    {row : ρ} {admits : Database → Bool} {s : Session} (hk : (get s.db).find? (key row) = none)
    (ha : admits s.db = true) :
    insertInto get set row admits s =
      .ok () { s with db := set s.db ((get s.db).push row) } := by
  rw [insertInto, if_pos (by rw [hk, ha]; rfl)]

/-- `UPDATE … WHERE key = k AND p`: the number of rows changed, refused when the new row
    is not `admitted`. -/
def updateWhere (get : Database → Table key) (set : Database → Table key → Database) (k : κ)
    (p : ρ → Bool) (f : ρ → ρ) (hf : ∀ r, key (f r) = key r) (admits : Database → ρ → Bool) :
    Tx Nat := fun s =>
  match (get s.db).find? k with
  | none => .ok 0 s
  | some r =>
    if p r then
      if admits s.db (f r) then .ok 1 { s with db := set s.db ((get s.db).modifyAt k f hf) }
      else .raised (.of .integrity) s
    else .ok 0 s

theorem updateWhere_ok {get : Database → Table key} {set : Database → Table key → Database} {k : κ}
    {p : ρ → Bool} {f : ρ → ρ} {hf : ∀ r, key (f r) = key r} {admits : Database → ρ → Bool} {n : Nat}
    {s s' : Session} (h : updateWhere get set k p f hf admits s = .ok n s') :
    (n = 0 ∧ s' = s ∧ ∀ r, (get s.db).find? k = some r → p r = false) ∨
      ∃ r, n = 1 ∧ (get s.db).find? k = some r ∧ p r = true ∧ admits s.db (f r) = true ∧
        s' = { s with db := set s.db ((get s.db).modifyAt k f hf) } := by
  unfold updateWhere at h
  cases hr : (get s.db).find? k with
  | none =>
    rw [hr] at h
    cases h
    exact .inl ⟨rfl, rfl, fun r hr' => by cases hr'⟩
  | some r =>
    rw [hr] at h
    dsimp only at h
    split at h
    · rename_i hp
      split at h
      · rename_i ha
        cases h
        exact .inr ⟨r, rfl, rfl, hp, ha, rfl⟩
      · cases h
    · rename_i hp
      cases h
      refine .inl ⟨rfl, rfl, ?_⟩
      intro r' hr'
      cases hr'
      simpa using hp

theorem updateWhere_of {get : Database → Table key} {set : Database → Table key → Database} {k : κ}
    {p : ρ → Bool} {f : ρ → ρ} {hf : ∀ r, key (f r) = key r} {admits : Database → ρ → Bool}
    {s : Session} {r : ρ} (hr : (get s.db).find? k = some r) (hp : p r = true)
    (ha : admits s.db (f r) = true) :
    updateWhere get set k p f hf admits s =
      .ok 1 { s with db := set s.db ((get s.db).modifyAt k f hf) } := by
  unfold updateWhere
  rw [hr]
  dsimp only
  rw [if_pos hp, if_pos ha]

/-- An update by key, for readers of the database only. -/
theorem updateWhere_db {get : Database → Table key} {set : Database → Table key → Database} {k : κ}
    {p : ρ → Bool} {f : ρ → ρ} {hf : ∀ r, key (f r) = key r} {admits : Database → ρ → Bool} {n : Nat}
    {s s' : Session} (h : updateWhere get set k p f hf admits s = .ok n s') (hn : n = 1) :
    ∃ r, (get s.db).find? k = some r ∧ p r = true ∧ admits s.db (f r) = true ∧
      s'.db = set s.db ((get s.db).modifyAt k f hf) := by
  rcases updateWhere_ok h with ⟨h₀, -, -⟩ | ⟨r, -, hr, hp, ha, rfl⟩
  · omega
  · exact ⟨r, hr, hp, ha, rfl⟩

/-- An `INSERT` writes a row whose key is new, or nothing. -/
theorem insertInto_always_new {R : Session → Session → Prop} [Std.Refl R]
    {get : Database → Table key} {set : Database → Table key → Database} {row : ρ}
    {admits : Database → Bool} (h : ∀ s, (get s.db).find? (key row) = none →
      R s { s with db := set s.db ((get s.db).push row) }) :
    Always R (insertInto get set row admits) := by
  intro s
  unfold insertInto
  by_cases hc : (((get s.db).find? (key row)).isNone && admits s.db) = true
  · rw [if_pos hc]
    rw [Bool.and_eq_true, Option.isNone_iff_eq_none] at hc
    exact h s hc.1
  · rw [if_neg hc]
    exact Std.Refl.refl s

/-- An `UPDATE` writes a row that meets its condition, or nothing. -/
theorem updateWhere_always_found {R : Session → Session → Prop} [Std.Refl R]
    {get : Database → Table key} {set : Database → Table key → Database} {k : κ} {p : ρ → Bool}
    {f : ρ → ρ} {hf : ∀ r, key (f r) = key r} {admits : Database → ρ → Bool}
    (h : ∀ s r, (get s.db).find? k = some r → p r = true →
      R s { s with db := set s.db ((get s.db).modifyAt k f hf) }) :
    Always R (updateWhere get set k p f hf admits) := by
  intro s
  unfold updateWhere
  cases hr : (get s.db).find? k with
  | none => exact Std.Refl.refl s
  | some r =>
    dsimp only
    split
    · rename_i hp
      split
      · exact h s r hr hp
      · exact Std.Refl.refl s
    · exact Std.Refl.refl s

/-- What keeping a table's writes keeps, an `INSERT` keeps. -/
theorem insertInto_always {R : Session → Session → Prop} [Std.Refl R]
    {get : Database → Table key} {set : Database → Table key → Database} {row : ρ}
    {admits : Database → Bool} (h : ∀ s t, R s { s with db := set s.db t }) :
    Always R (insertInto get set row admits) :=
  insertInto_always_new fun s _ => h s _

theorem updateWhere_always {R : Session → Session → Prop} [Std.Refl R]
    {get : Database → Table key} {set : Database → Table key → Database} {k : κ} {p : ρ → Bool}
    {f : ρ → ρ} {hf : ∀ r, key (f r) = key r} {admits : Database → ρ → Bool}
    (h : ∀ s t, R s { s with db := set s.db t }) :
    Always R (updateWhere get set k p f hf admits) :=
  updateWhere_always_found fun s _ _ _ => h s _

/-- A refused `INSERT` is an integrity error. -/
theorem insertInto_raises {E : AppError → Prop} {get : Database → Table key}
    {set : Database → Table key → Database} {row : ρ} {admits : Database → Bool} {s : Session}
    (h : E (.of .integrity)) : RaisesOnly E (insertInto get set row admits) s := by
  intro e s' hr
  unfold insertInto at hr
  split at hr
  · cases hr
  · cases hr
    exact h

theorem updateWhere_raises {E : AppError → Prop} {get : Database → Table key}
    {set : Database → Table key → Database} {k : κ} {p : ρ → Bool} {f : ρ → ρ}
    {hf : ∀ r, key (f r) = key r} {admits : Database → ρ → Bool} {s : Session}
    (h : E (.of .integrity)) : RaisesOnly E (updateWhere get set k p f hf admits) s := by
  intro e s' hr
  unfold updateWhere at hr
  split at hr
  · cases hr
  · split at hr
    · split at hr
      · cases hr
      · cases hr
        exact h
    · cases hr

end Tables

/-- A text fits its `VARCHAR(n)` column.  A text with U+0000, which the driver refuses at any
    length, is not modelled. -/
def fits (n : Nat) (s : String) : Bool := decide (s.length ≤ n)

def fits? (n : Nat) : Option String → Bool
  | none => true
  | some s => fits n s

end MoneyMovement

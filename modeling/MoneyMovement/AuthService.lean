/-
  MoneyMovement/AuthService.lean
  ==============================
  **Registration, login, token refresh and PIN authorisation** —
  `identity/application/auth_service.py`, `platform_/security/tokens.py` and
  `financial_core/application/open_account.py`.
-/
import MoneyMovement.CreditLien

namespace MoneyMovement

open Txn

/-! ### Opening a funded account -/

namespace OpenAccountUseCase

/-- The opening grant: a balanced transfer out of the issuance account. -/
def grantCommand (c : Ctx) (userId accountId : Ulid) (openingBalance : Money)
    (requestId : Option String) : TransferCommand where
  actorUserId := userId
  senderAccountId := SYSTEM_ISSUANCE_ACCOUNT_ID
  receiverAccountId := accountId
  amount := openingBalance
  idempotencyKey := "signup-grant:" ++ userId.text
  requestFingerprint := fingerprintRequest c
    [("userId", .str userId.text), ("amountMinor", .int openingBalance.minor)]
  kind := .signupGrant
  note := some "Welcome bonus"
  requestId := requestId
  enforceLimits := false

/-- Fund the account when there is anything to fund it with. -/
def fund (c : Ctx) (userId accountId : Ulid) (openingBalance : Money)
    (requestId : Option String) : Tx Unit :=
  if openingBalance.isPositive then do
    let _ ← execute c (grantCommand c userId accountId openingBalance requestId)
    return ()
  else pure ()

/-- Create the account and fund it. -/
def execute (c : Ctx) (userId : Ulid) (openingBalance : Money) (accountNumber : String)
    (now : Time) (requestId : Option String) : Tx Ulid := do
  let accountId ← newUlid c
  SqlAccountRepository.create accountId userId accountNumber openingBalance.currency now
  fund c userId accountId openingBalance requestId
  return accountId

end OpenAccountUseCase

structure AuthTokens where
  accessToken : String
  refreshToken : String
  expiresInSeconds : Nat

structure RegisteredUser where
  userId : Ulid
  accountId : Ulid
  displayName : String
  phone : String
  tokens : AuthTokens

/-- What the route knows about the client. -/
structure ClientContext where
  userAgent : Option String
  ipAddress : Option String

namespace AuthService

/-! ### Sessions -/

/-- `hash_refresh_token`. -/
def hashRefreshToken (c : Ctx) (raw : String) : String := c.crypto.sha256 raw

def refreshExpiry (c : Ctx) (now : Time) : Time :=
  now + Time.seconds c.settings.refreshTokenTtlSeconds

def accessToken (c : Ctx) (userId sessionId : Ulid) (now : Time) : String :=
  c.crypto.jwtEncode c.settings.jwtSecret userId sessionId now
    (now + Time.seconds c.settings.accessTokenTtlSeconds)

/-- Issue a session row with a fresh refresh token; returns its id and the tokens.  The
    common part of `_start_session` and of a rotation. -/
def issueSession (c : Ctx) (userId : Ulid) (now : Time) (client : ClientContext) :
    Tx (Ulid × AuthTokens) := do
  let sessionId ← newUlid c
  let raw ← tokenUrlsafe c
  SqlSessionRepository.create sessionId userId (hashRefreshToken c raw) (refreshExpiry c now) now
    client.userAgent client.ipAddress
  return (sessionId,
    ⟨accessToken c userId sessionId now, raw, c.settings.accessTokenTtlSeconds⟩)

/-! ### Registration -/

def newUser (userId : Ulid) (phone displayName passwordHash pinHash : String) (now : Time) :
    UserRow where
  id := userId
  phone := phone
  displayName := displayName
  passwordHash := passwordHash
  pinHash := pinHash
  pinFailedAttempts := 0
  pinLockedUntil := none
  status := .active
  createdAt := now
  updatedAt := now

/-- A short account number derived from the user id. -/
def accountNumberFor (userId : Ulid) : String := "MM" ++ userId.suffix 10

/-- `users.create`, with a constraint violation turned into a conflict. -/
def createUser (row : UserRow) : Tx Unit := do
  match ← attempt (SqlUserRepository.create row) with
  | .ok _ => pure ()
  | .error e =>
    if e.kind = .integrity then
      raise ⟨.conflict, "This phone number is already registered.", []⟩
    else raise e

def register (c : Ctx) (phone displayName password pin : String) (requestId : Option String)
    (client : ClientContext) : Tx RegisteredUser := do
  let now ← now c
  let userId ← newUlid c
  let passwordHash ← hashPassword c password
  let pinHash ← hashPassword c pin
  createUser (newUser userId phone displayName passwordHash pinHash now)
  let accountId ← OpenAccountUseCase.execute c userId
    (.fromMinor c.settings.openingBalanceMinor) (accountNumberFor userId) now requestId
  let issued ← issueSession c userId now client
  return ⟨userId, accountId, displayName, phone, issued.2⟩

/-! ### Login, refresh, logout -/

def loginFailure : AppError := ⟨.authentication, "Phone number or password is incorrect.", []⟩

/-- Upgrade the stored hash when its parameters are outdated. -/
def rehash (c : Ctx) (user : UserRow) (password : String) : Tx Unit :=
  if c.crypto.argon2NeedsRehash user.passwordHash then do
    let passwordHash ← hashPassword c password
    SqlUserRepository.updatePasswordHash c user.id passwordHash
  else pure ()

def login (c : Ctx) (phone password : String) (client : ClientContext) :
    Tx (Ulid × AuthTokens) := do
  let now ← now c
  match ← SqlUserRepository.getByPhone phone with
  | none => do
    -- hash anyway, so that a missing user takes as long as a wrong password
    let _ ← hashPassword c password
    raise loginFailure
  | some user => do
    ensure (c.crypto.argon2Verify user.passwordHash password = true) loginFailure
    ensure (user.status = .active) loginFailure
    rehash c user password
    let issued ← issueSession c user.id now client
    return (user.id, issued.2)

/-- Rotate a live session: the successor first, then the mark on the old one. -/
def rotate (c : Ctx) (record : SessionRow) (now : Time) (client : ClientContext) :
    Tx AuthTokens := do
  let issued ← issueSession c record.userId now client
  SqlSessionRepository.markRotated record.id issued.1 now
  return issued.2

def refresh (c : Ctx) (refreshToken : String) (client : ClientContext) : Tx AuthTokens := do
  let now ← now c
  match ← SqlSessionRepository.getByTokenHash (hashRefreshToken c refreshToken) with
  | none => raise ⟨.authentication, "Invalid refresh token.", []⟩
  | some record =>
    if record.revokedAt.isSome then do
      -- a revoked token was rotated already: assume compromise, revoke the family
      SqlSessionRepository.revokeAllForUser record.userId now
      raise ⟨.authentication, "Session is no longer valid. Please sign in again.", []⟩
    else do
      ensure (now < record.expiresAt) ⟨.authentication, "Session expired. Please sign in again.", []⟩
      rotate c record now client

def logout (c : Ctx) (refreshToken : String) : Tx Unit := do
  let now ← now c
  match ← SqlSessionRepository.getByTokenHash (hashRefreshToken c refreshToken) with
  | none => pure ()
  | some record => do
    let _ ← SqlSessionRepository.revoke record.id now
    return ()

/-! ### PIN authorisation -/

def lockedError (until_ : Time) : AppError :=
  .detailed .pinLocked [("lockedUntil", .str (Time.isoformat until_))]

/-- Until when the attempt locks the PIN, if it does. -/
def pinLockAfter (c : Ctx) (attempts : Nat) (now : Time) : Option Time :=
  if c.settings.pinMaxAttempts ≤ attempts then
    some (now + Time.seconds c.settings.pinLockoutSeconds) else none

/-- Reset the counter after a correct PIN, if there is anything to reset. -/
def resetFailures (c : Ctx) (user : UserRow) : Tx Unit :=
  if user.pinFailedAttempts = 0 then pure () else SqlUserRepository.resetPinFailures c user.id

/-- Record a wrong PIN and refuse. -/
def refusePin (c : Ctx) (user : UserRow) (now : Time) : Tx Unit := do
  let attempts := user.pinFailedAttempts + 1
  let lockedUntil := pinLockAfter c attempts now
  SqlUserRepository.recordPinFailure c user.id attempts lockedUntil
  match lockedUntil with
  | some t => raise (lockedError t)
  | none => raise ⟨.validation, "Incorrect PIN.",
      [("remainingAttempts", .int (c.settings.pinMaxAttempts - attempts))]⟩

/-- The PIN is locked at `now`. -/
def pinLocked (user : UserRow) (now : Time) : Bool :=
  match user.pinLockedUntil with
  | some t => decide (now < t)
  | none => false

/-- Authorise a money movement: raises on failure. -/
def verifyPin (c : Ctx) (userId : Ulid) (pin : String) : Tx Unit := do
  let now ← now c
  let found ← SqlUserRepository.lockForUpdate userId
  let user ← orRaise found ⟨.authentication, "Unknown user.", []⟩
  ensure (pinLocked user now = false) (lockedError (user.pinLockedUntil.getD 0))
  if c.crypto.argon2Verify user.pinHash pin then resetFailures c user
  else refusePin c user now

end AuthService

end MoneyMovement

/-
  MoneyMovement/Requests.lean
  ===========================
  **The system**: every state-changing request of the API routes
  (`apps/api/routes`), the scheduler's batch (`apps/scheduler_worker`), and the
  transaction each of them runs in (`platform_/database/unit_of_work.py`).

  One request is one transaction over the database: `commit` keeps the session's
  database when the operation returns and the old one when it raises.  A request
  carries the oracle its transaction draws from, so a run of the system is a
  list of requests, in any order, with any clocks and any random bits.
-/
import MoneyMovement.OverdraftService
import MoneyMovement.SafePayService
import MoneyMovement.MoneyRequestService
import MoneyMovement.AuthService

namespace MoneyMovement

open Txn

/-! ### PIN protection (`apps/api/dependencies.py`) -/

/-- The exceptions of the PIN check that are committed as values. -/
def ErrorKind.isPinRefusal : ErrorKind → Bool
  | .validation | .pinLocked => true
  | _ => false

/-- `run_pin_protected`: a refused PIN leaves the transaction as a value, so that its
    attempt counter is committed; everything else raises. -/
def runPinProtected {α : Type} (c : Ctx) (userId : Ulid) (pin : String) (operation : Tx α) :
    Tx (Except AppError α) := do
  match ← attempt (AuthService.verifyPin c userId pin) with
  | .ok _ => do
    let result ← operation
    return .ok result
  | .error e => if e.kind.isPinRefusal then return .error e else raise e

/-! ### The scheduler's batch (`apps/scheduler_worker/main.py`) -/

namespace Scheduler

def BATCH_SIZE : Nat := 50
def MAX_ATTEMPTS : Nat := 8

/-- `ROLLBACK TO SAVEPOINT`: the database and the locks of the savepoint; what was drawn
    stays drawn. -/
def rollbackTo (before after : Session) : Session := { before with draws := after.draws }

/-- The handler of a task. -/
def handle (c : Ctx) (task : TaskRow) : Tx Unit :=
  match task.taskType with
  | .undoSettle => do
    let _ ← UndoableTransferService.settle c task.resourceId
    return ()
  | .escrowAutoRelease => do
    let _ ← SafePayService.autoRelease c task.resourceId
    return ()
  | .moneyRequestExpiry => do
    let _ ← MoneyRequestService.expireDue c
    return ()
  | .linkExpiry => pure ()

/-- The handler and the mark on the task row, under one savepoint. -/
def perform (c : Ctx) (task : TaskRow) : Tx Unit := do
  handle c task
  SqlScheduledTaskRepository.complete c task.id

/-- One task: done, or its failure recorded.  Returns how many completed. -/
def runTask (c : Ctx) (task : TaskRow) : Tx Nat := do
  match ← savepoint rollbackTo (perform c task) with
  | .ok _ => return 1
  | .error e => do
    SqlScheduledTaskRepository.recordFailure c task.id (task.attemptCount + 1) e.message MAX_ATTEMPTS
    return 0

def runTasks (c : Ctx) : List TaskRow → Tx Nat
  | [] => pure 0
  | task :: tasks => do
    let n ← runTask c task
    let m ← runTasks c tasks
    return n + m

/-- Claim and execute one batch. -/
def runDueTasks (c : Ctx) : Tx Nat := do
  let tasks ← SqlScheduledTaskRepository.claimDue c BATCH_SIZE
  runTasks c tasks

end Scheduler

/-! ### Requests -/

/-- A state-changing request.  `user` is the authenticated caller. -/
inductive Request where
  | register (phone displayName password pin : String) (requestId : Option String)
      (client : ClientContext)
  | login (phone password : String) (client : ClientContext)
  | refresh (refreshToken : String) (client : ClientContext)
  | logout (refreshToken : String)
  | createTransfer (user : Ulid) (pin recipientPhone : String) (amount : Money)
      (note : Option String) (key : String) (requestId : Option String)
  | undoTransfer (user transferId : Ulid) (key : String) (requestId : Option String)
  | createPool (user : Ulid) (pin : String) (amount : Money) (key : String)
      (requestId : Option String)
  | fundPool (user : Ulid) (pin : String) (amount : Money) (key : String)
      (requestId : Option String)
  | createGrant (user : Ulid) (pin beneficiaryPhone : String) (maxDrawMinor : Int) (key : String)
      (requestId : Option String)
  | createSafepay (user : Ulid) (pin sellerPhone : String) (amount : Money)
      (description : Option String) (key : String) (requestId : Option String)
  | shipSafepay (user escrowId : Ulid) (courier trackingNumber key : String)
      (requestId : Option String)
  | releaseSafepayCode (user escrowId : Ulid) (code key : String) (requestId : Option String)
  | confirmSafepayReceived (user escrowId : Ulid) (key : String) (requestId : Option String)
  | disputeSafepay (user escrowId : Ulid) (reason key : String) (requestId : Option String)
  | courierWebhook (courier eventId trackingNumber : String) (releaseImmediately : Bool)
      (signature : Option String)
  | resolveSafepay (escrowId : Ulid) (decision : SafePayService.Decision) (note : String)
      (ban : Bool) (key : String) (requestId : Option String)
  | createRequest (user : Ulid) (payerPhone : String) (amount : Money) (note : Option String)
      (requestId : Option String)
  | acceptRequest (user : Ulid) (pin : String) (moneyRequestId : Ulid) (key : String)
      (requestId : Option String)
  | rejectRequest (user moneyRequestId : Ulid) (requestId : Option String)
  | cancelRequest (user moneyRequestId : Ulid) (requestId : Option String)
  | expireDue
  | runDueTasks

/-- What a request answers. -/
inductive Reply where
  | registered (r : RegisteredUser)
  | tokens (userId : Option Ulid) (t : AuthTokens)
  | revoked
  | body (b : Body)
  | moneyRequest (r : MoneyRequestResult)
  | count (n : Nat)

/-- The `POST /transfers` operation behind the PIN check. -/
def createTransferOp (c : Ctx) (user : Ulid) (recipientPhone : String) (amount : Money)
    (note : Option String) (key : String) (requestId : Option String) : Tx Body := do
  let foundSender ← SqlAccountRepository.getByUserId user
  let sender ← orRaise foundSender ⟨.notFound, "Your account could not be found.", []⟩
  let foundRecipient ← SqlAccountRepository.getByPhone recipientPhone
  let recipient ← orRaise foundRecipient ⟨.notFound, "No user found with that phone number.", []⟩
  ensure (recipient.id ≠ sender.id) (.of .selfTransfer)
  OverdraftService.send c user sender.id recipient.id amount key note requestId

/-- The `POST /safepay` operation behind the PIN check. -/
def createSafepayOp (c : Ctx) (user : Ulid) (sellerPhone : String) (amount : Money)
    (description : Option String) (key : String) (requestId : Option String) : Tx Body := do
  let missing : AppError := ⟨.notFound, "Buyer or seller account not found.", []⟩
  let foundBuyer ← SqlAccountRepository.getByUserId user
  let foundSellerUser ← SqlUserRepository.getByPhone sellerPhone
  let foundSeller ← SqlAccountRepository.getByPhone sellerPhone
  let buyer ← orRaise foundBuyer missing
  let seller ← orRaise foundSeller missing
  let sellerUser ← orRaise foundSellerUser missing
  ensure (buyer.id ≠ seller.id) (.of .selfTransfer)
  SafePayService.create c user buyer.id sellerUser.id seller.id amount description key requestId

/-- The bytes a courier signs. -/
def courierSigned (courier eventId trackingNumber : String) (releaseImmediately : Bool) : String :=
  courier ++ "|" ++ eventId ++ "|" ++ trackingNumber ++ "|DELIVERED|" ++
    (if releaseImmediately then "true" else "false")

/-- The `POST /courier/webhooks/{courier}` operation.  A signature that is not ASCII, at which
    `compare_digest` raises a `TypeError`, is refused here as any wrong one. -/
def courierWebhookOp (c : Ctx) (courier eventId trackingNumber : String)
    (releaseImmediately : Bool) (signature : Option String) : Tx Body := do
  ensure (signature = some (c.crypto.hmacHex (c.settings.jwtSecret ++ ":courier")
      (courierSigned courier eventId trackingNumber releaseImmediately)))
    ⟨.authorization, "Invalid courier webhook signature.", []⟩
  SafePayService.courierDelivered c courier trackingNumber eventId releaseImmediately

/-- What the route makes of a code attempt after it is committed. -/
def codeReply (b : Body) : Except AppError Reply :=
  match b.str? "errorCode" with
  | none => .ok (.body b)
  | some code =>
    if code = "DELIVERY_CODE_LOCKED" then .error ⟨.pinLocked, (b.str? "message").getD "", []⟩
    else .error ⟨.validation, (b.str? "message").getD "", b.scalars⟩

/-- The transaction of a request.  An exception returned as a value is raised by the route
    after the commit. -/
def handle (c : Ctx) : Request → Tx (Except AppError Reply)
  | .register phone name password pin requestId client => do
    let r ← AuthService.register c phone name password pin requestId client
    return .ok (.registered r)
  | .login phone password client => do
    let r ← AuthService.login c phone password client
    return .ok (.tokens (some r.1) r.2)
  | .refresh token client => do
    let r ← AuthService.refresh c token client
    return .ok (.tokens none r)
  | .logout token => do
    AuthService.logout c token
    return .ok .revoked
  | .createTransfer user pin phone amount note key requestId => do
    let r ← runPinProtected c user pin (createTransferOp c user phone amount note key requestId)
    return r.map .body
  | .undoTransfer user transferId key requestId => do
    let r ← UndoableTransferService.undo c transferId user key requestId
    return .ok (.body r)
  | .createPool user pin amount key requestId => do
    let r ← runPinProtected c user pin (OverdraftService.createPool c user amount key requestId)
    return r.map .body
  | .fundPool user pin amount key requestId => do
    let r ← runPinProtected c user pin (OverdraftService.fundPool c user amount key requestId)
    return r.map .body
  | .createGrant user pin phone maxDraw key requestId => do
    let r ← runPinProtected c user pin
      (OverdraftService.grantAccess c user phone maxDraw key requestId)
    return r.map .body
  | .createSafepay user pin phone amount description key requestId => do
    let r ← runPinProtected c user pin
      (createSafepayOp c user phone amount description key requestId)
    return r.map .body
  | .shipSafepay user escrowId courier tracking key requestId => do
    let r ← SafePayService.markShipped c escrowId user courier tracking key requestId
    return .ok (.body r)
  | .releaseSafepayCode user escrowId code key requestId => do
    let r ← SafePayService.releaseWithCode c escrowId user code key requestId
    return codeReply r
  | .confirmSafepayReceived user escrowId key requestId => do
    let r ← SafePayService.confirmReceived c escrowId user key requestId
    return .ok (.body r)
  | .disputeSafepay user escrowId reason key requestId => do
    let r ← SafePayService.dispute c escrowId user reason key requestId
    return .ok (.body r)
  | .courierWebhook courier eventId tracking releaseNow signature => do
    let r ← courierWebhookOp c courier eventId tracking releaseNow signature
    return .ok (.body r)
  | .resolveSafepay escrowId decision note ban key requestId => do
    let r ← SafePayService.resolveDispute c escrowId decision note ban key requestId
    return .ok (.body r)
  | .createRequest user phone amount note requestId => do
    let r ← MoneyRequestService.create c user phone amount note requestId
    return .ok (.moneyRequest r)
  | .acceptRequest user pin moneyRequestId key requestId => do
    let r ← runPinProtected c user pin
      (MoneyRequestService.accept c moneyRequestId user key requestId)
    return r.map .moneyRequest
  | .rejectRequest user moneyRequestId requestId => do
    let r ← MoneyRequestService.reject c moneyRequestId user requestId
    return .ok (.moneyRequest r)
  | .cancelRequest user moneyRequestId requestId => do
    let r ← MoneyRequestService.cancel c moneyRequestId user requestId
    return .ok (.moneyRequest r)
  | .expireDue => do
    let n ← MoneyRequestService.expireDue c
    return .ok (.count n)
  | .runDueTasks => do
    let n ← Scheduler.runDueTasks c
    return .ok (.count n)

/-! ### Transactions -/

/-- A new session on the committed database. -/
def begin (db : Database) : Session := ⟨db, 0, []⟩

/-- `UnitOfWork.transaction`: commit on success, roll back on any exception. -/
def commit {α : Type} (m : Tx α) (db : Database) : Database :=
  match m (begin db) with
  | .ok _ s => s.db
  | .raised _ _ => db

theorem commit_of_ok {α : Type} {m : Tx α} {db : Database} {a : α} {s : Session}
    (h : m (begin db) = .ok a s) : commit m db = s.db := by
  rw [commit, h]

theorem commit_of_raised {α : Type} {m : Tx α} {db : Database} {e : AppError} {s : Session}
    (h : m (begin db) = .raised e s) : commit m db = db := by
  rw [commit, h]

/-- A committed operation either returned, or changed nothing. -/
theorem commit_cases {α : Type} (m : Tx α) (db : Database) :
    (∃ a s, m (begin db) = .ok a s ∧ commit m db = s.db) ∨ commit m db = db := by
  cases h : m (begin db) with
  | ok a s => exact .inl ⟨a, s, rfl, commit_of_ok h⟩
  | raised e s => exact .inr (commit_of_raised h)

/-- The fixed part of a deployment. -/
structure Deployment where
  settings : Settings
  crypto : Crypto

def Deployment.ctx (d : Deployment) (o : Oracle) : Ctx := ⟨d.settings, d.crypto, o⟩

/-- A request with what the outside world gives its transaction. -/
structure Call where
  oracle : Oracle
  request : Request

/-- The database after a call. -/
def serve (d : Deployment) (call : Call) (db : Database) : Database :=
  commit (handle (d.ctx call.oracle) call.request) db

/-- The database after a list of calls. -/
def serveAll (d : Deployment) : List Call → Database → Database
  | [], db => db
  | call :: calls, db => serveAll d calls (serve d call db)

/-- The states of the system: what calls, in any number and order, make of the migrated
    database. -/
inductive Reachable (d : Deployment) : Database → Prop where
  | init (now : Time) : Reachable d (migrated now)
  | step {db : Database} (call : Call) : Reachable d db → Reachable d (serve d call db)

theorem Reachable.serveAll {d : Deployment} {db : Database} (h : Reachable d db)
    (calls : List Call) : Reachable d (serveAll d calls db) := by
  induction calls generalizing db with
  | nil => exact h
  | cons call calls ih => exact ih (h.step call)

/-- To hold in every reachable state it is enough to hold after the migrations and to be
    kept by every transaction that commits. -/
theorem Reachable.invariant {d : Deployment} {P : Database → Prop}
    (hinit : ∀ now, P (migrated now))
    (hstep : ∀ db c r a s, Reachable d db → P db → c.settings = d.settings →
      c.crypto = d.crypto → handle c r (begin db) = .ok a s → P s.db)
    {db : Database} (h : Reachable d db) : P db := by
  induction h with
  | init now => exact hinit now
  | step call hdb ih =>
    rename_i db
    rcases commit_cases (handle (d.ctx call.oracle) call.request) db with ⟨a, s, hm, he⟩ | he
    · rw [serve, he]
      exact hstep db _ _ a s hdb ih rfl rfl hm
    · rw [serve, he]
      exact ih

/-! ### A deployment to run

The settings are the defaults of `platform_/config.py`.  The cryptography keeps
texts apart without hiding them, and the calls of a run are numbered: a call's
number is in every identifier its transaction draws. -/

namespace Sample

def settings : Settings where
  jwtSecret := "0123456789abcdef0123456789abcdef"
  accessTokenTtlSeconds := 900
  refreshTokenTtlSeconds := 604800
  pinMaxAttempts := 5
  pinLockoutSeconds := 900
  openingBalanceMinor := 10000000
  maxTransferAmountMinor := 5000000000
  dailyTransferLimitMinor := 50000000
  moneyRequestExpiryHours := 72
  safepayAutoReleaseHours := 72
  overdraftMaxDrawMinor := 50000
  overdraftLienSweepBasisPoints := 5000
  lien_pos := by decide
  lien_le := by decide
  maxDraw_pos := by decide
  pinMaxAttempts_pos := by decide

/-- The digests listed, and for every other text one of its own. -/
def digestOf (table : List (String × String)) (text : String) : String :=
  match table.find? fun x => decide (x.1 = text) with
  | some x => x.2
  | none => "sha256:" ++ text

theorem digestOf_injective {table : List (String × String)}
    (hne : ∀ x ∈ table, x.2.toList.take 7 ≠ "sha256:".toList)
    (hinj : ∀ x ∈ table, ∀ y ∈ table, x.2 = y.2 → x.1 = y.1) :
    Function.Injective (digestOf table) := by
  have hdigest : ∀ text, (∃ x ∈ table, x.1 = text ∧ digestOf table text = x.2) ∨
      digestOf table text = "sha256:" ++ text := by
    intro text
    unfold digestOf
    cases hfind : table.find? fun x => decide (x.1 = text) with
    | none => exact .inr rfl
    | some x =>
      exact .inl ⟨x, List.mem_of_find?_eq_some hfind, by simpa using List.find?_some hfind, rfl⟩
  have hapart : ∀ x ∈ table, ∀ text, x.2 ≠ "sha256:" ++ text := by
    intro x hx text h
    refine hne x hx ?_
    rw [h, String.toList_append, List.take_left' (by decide)]
  intro a b h
  rcases hdigest a with ⟨x, hx, rfl, ha⟩ | ha
  · rcases hdigest b with ⟨y, hy, rfl, hb⟩ | hb
    · exact hinj x hx y hy (ha.symm.trans (h.trans hb))
    · exact absurd (ha.symm.trans (h.trans hb)) (hapart x hx b)
  · rcases hdigest b with ⟨y, hy, rfl, hb⟩ | hb
    · exact absurd (hb.symm.trans (h.symm.trans ha)) (hapart y hy a)
    · exact (String.append_right_inj _).1 (ha.symm.trans (h.trans hb))

/-- The HMACs, under the couriers' key, of the events that couriers deliver in the runs of the later
    modules. -/
def courierDigests : List (String × String) :=
  [("courier|event|parcel|DELIVERED|true",
      "4fcbc2a3fe47e98c61c61714df4b12dcc37164368f502c3f0f49073a9661ec50"),
    ("redx|evt-0001|RDX-9000|DELIVERED|true",
      "20fe6a309e0d2e905458922c6bced69d089cc1ea6d6f7af97cd13363c480dcdf"),
    ("redx|evt-0001|LOT7|RDX-9000|DELIVERED|true",
      "358540bc1d6de0c829e789feea0826c03002a2cc6fbac46aae8bd22b650e51b4")]

/-- HMAC-SHA-256 on those events. -/
def courierHmac (key text : String) : String :=
  digestOf (if key = settings.jwtSecret ++ ":courier" then courierDigests else []) text

def crypto (sha256 : String → String) : Crypto where
  sha256 := sha256
  hmacHex := courierHmac
  hmacHead := fun _ text => text.length
  argon2 := fun _ secret => "$argon2id$" ++ secret
  argon2Verify := fun hash secret => decide (hash = "$argon2id$" ++ secret)
  argon2NeedsRehash := fun _ => false
  jwtEncode := fun _ user session _ _ => user.text ++ "." ++ session.text

def deployment : Deployment := ⟨settings, crypto fun text => "sha256:" ++ text⟩

theorem within_datetimeMax (t : Time) : t % Time.datetimeMax < Time.datetimeMax :=
  Nat.mod_lt _ (by decide)

/-- What the world gives call number `n` at instant `t`. -/
def oracle (n : Nat) (t : Time) : Oracle where
  clock := fun _ => t % Time.datetimeMax
  clock_lt := fun _ => within_datetimeMax t
  ulid := fun i => ⟨Fin.ofNat _ n, Fin.ofNat _ (n * 1000 + i)⟩
  referenceSuffix := fun i => Fin.ofNat _ (n * 1000 + i)
  token := fun i => "token-" ++ toString n ++ "-" ++ toString i
  salt := fun _ => "salt"
  dbNow := t % Time.datetimeMax
  busyTask := fun _ => false
  physical := fun _ => 0

/-- 2026-01-01T00:00:00 UTC. -/
def start : Time := 739616 * Time.dayUs

/-- Call number `n`, one second after the call before it. -/
def call (n : Nat) (req : Request) : Call := ⟨oracle n (start + Time.seconds n), req⟩

def client : ClientContext := ⟨none, none⟩

def register (n : Nat) (phone : String) : Call :=
  call n (.register phone "Name" "password" "1234" none client)

/-- The identifier call number `n` draws as its `i`-th value. -/
def id (n i : Nat) : Ulid := ⟨Fin.ofNat _ n, Fin.ofNat _ (n * 1000 + i)⟩

end Sample

end MoneyMovement

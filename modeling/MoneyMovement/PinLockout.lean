/-
  MoneyMovement/PinLockout.lean
  =============================
  **Guessing a PIN.**

  `run_pin_protected` compares a PIN with the user's hash unless the PIN is locked.
  A wrong one is counted and refused, and the count is committed although the
  request fails; a right one clears the counter in the transaction of the operation
  it authorises, so that both are committed or neither.  A request turned away by
  the lock changes nothing.

  Between two committed resets the wrong PINs of a user are therefore the failures
  of a lockout guard, and the bound of `Lockout` holds: over any requests, in any
  order, whatever their clocks say.
-/
import MoneyMovement.GuardedServices
import MoneyMovement.MoneyRequests

namespace MoneyMovement

open Txn Lockout AuthService

/-! ### The PIN check -/

/-- The user's row with another counter, lock and stamp. -/
def UserRow.counted (attempts : Nat) (lockedUntil : Option Time) (stamp : Time) (r : UserRow) :
    UserRow :=
  { r with pinFailedAttempts := attempts, pinLockedUntil := lockedUntil, updatedAt := stamp }

@[simp] theorem UserRow.id_counted (attempts : Nat) (lockedUntil : Option Time) (stamp : Time)
    (r : UserRow) : (r.counted attempts lockedUntil stamp).id = r.id := rfl

/-- The database in which the user's counter, lock and stamp are set. -/
def Database.counted (db : Database) (u : Ulid) (attempts : Nat) (lockedUntil : Option Time)
    (stamp : Time) : Database :=
  { db with
    users := db.users.modifyAt u (UserRow.counted attempts lockedUntil stamp)
      (UserRow.id_counted attempts lockedUntil stamp) }

section Check

variable {c : Ctx} {u : Ulid} {pin : String} {row : UserRow} {s : Session}

/-- The check up to the comparison. -/
theorem verifyPin_of_open (hrow : s.db.users.find? u = some row)
    (hopen : pinLocked row (c.oracle.clock s.draws) = false) :
    verifyPin c u pin s =
      (if c.crypto.argon2Verify row.pinHash pin then resetFailures c row
        else refusePin c row (c.oracle.clock s.draws)) { s with draws := s.draws + 1 } := by
  have h₁ : now c s = .ok (c.oracle.clock s.draws) { s with draws := s.draws + 1 } := rfl
  have h₂ : SqlUserRepository.lockForUpdate u { s with draws := s.draws + 1 } =
      .ok (some row) { s with draws := s.draws + 1 } := readDb_ok.2 ⟨hrow, rfl⟩
  rw [verifyPin, bind_of_ok h₁, bind_of_ok h₂, bind_of_ok (orRaise_ok.2 ⟨rfl, rfl⟩),
    bind_of_ok (ensure_of_pos hopen _ _)]

theorem verifyPin_of_unknown (pin : String) (hrow : s.db.users.find? u = none) :
    ∃ s', verifyPin c u pin s = .raised ⟨.authentication, "Unknown user.", []⟩ s' := by
  have h₁ : now c s = .ok (c.oracle.clock s.draws) { s with draws := s.draws + 1 } := rfl
  have h₂ : SqlUserRepository.lockForUpdate u { s with draws := s.draws + 1 } =
      .ok none { s with draws := s.draws + 1 } := readDb_ok.2 ⟨hrow, rfl⟩
  rw [verifyPin, bind_of_ok h₁, bind_of_ok h₂]
  exact ⟨_, rfl⟩

theorem verifyPin_of_locked (pin : String) (hrow : s.db.users.find? u = some row)
    (hlocked : pinLocked row (c.oracle.clock s.draws) = true) :
    ∃ t s', verifyPin c u pin s = .raised (lockedError t) s' ∧ s'.db = s.db := by
  have h₁ : now c s = .ok (c.oracle.clock s.draws) { s with draws := s.draws + 1 } := rfl
  have h₂ : SqlUserRepository.lockForUpdate u { s with draws := s.draws + 1 } =
      .ok (some row) { s with draws := s.draws + 1 } := readDb_ok.2 ⟨hrow, rfl⟩
  have h₃ : ¬pinLocked row (c.oracle.clock s.draws) = false := by
    rw [hlocked]
    decide
  rw [verifyPin, bind_of_ok h₁, bind_of_ok h₂, bind_of_ok (orRaise_ok.2 ⟨rfl, rfl⟩),
    bind_of_raised (ensure_of_neg h₃ _ _)]
  exact ⟨_, _, rfl, rfl⟩

/-- A right PIN clears the counter, if there is anything to clear. -/
theorem verifyPin_of_right (hrow : s.db.users.find? u = some row)
    (hopen : pinLocked row (c.oracle.clock s.draws) = false)
    (hright : c.crypto.argon2Verify row.pinHash pin = true) :
    ∃ s', verifyPin c u pin s = .ok () s' ∧
      (row.pinFailedAttempts = 0 ∧ s'.db = s.db ∨
        row.pinFailedAttempts ≠ 0 ∧ s'.db = s.db.counted u 0 none c.oracle.dbNow) := by
  rw [verifyPin_of_open hrow hopen, if_pos hright, resetFailures]
  have hid : row.id = u := Table.key_of_find? hrow
  by_cases hzero : row.pinFailedAttempts = 0
  · rw [if_pos hzero]
    exact ⟨_, rfl, .inl ⟨hzero, rfl⟩⟩
  · rw [if_neg hzero, hid]
    exact ⟨_, rfl, .inr ⟨hzero, rfl⟩⟩

/-- A wrong PIN is counted and refused. -/
theorem verifyPin_of_wrong (hrow : s.db.users.find? u = some row)
    (hopen : pinLocked row (c.oracle.clock s.draws) = false)
    (hwrong : c.crypto.argon2Verify row.pinHash pin = false) :
    ∃ e s', verifyPin c u pin s = .raised e s' ∧ e.kind.isPinRefusal = true ∧
      s'.db = s.db.counted u (row.pinFailedAttempts + 1)
        (pinLockAfter c (row.pinFailedAttempts + 1) (c.oracle.clock s.draws)) c.oracle.dbNow := by
  have hid : row.id = u := Table.key_of_find? hrow
  rw [verifyPin_of_open hrow hopen, if_neg (by rw [hwrong]; decide), refusePin, hid]
  generalize hlock : pinLockAfter c (row.pinFailedAttempts + 1) (c.oracle.clock s.draws) = lock
  cases lock with
  | none => exact ⟨_, _, rfl, rfl, rfl⟩
  | some t => exact ⟨_, _, rfl, rfl, rfl⟩

/-! ### Behind the check -/

variable {α : Type} {op : Tx α}

theorem runPinProtected_of_refused {e : AppError} {s' : Session}
    (h : verifyPin c u pin s = .raised e s') (he : e.kind.isPinRefusal = true) :
    runPinProtected c u pin op s = .ok (.error e) s' := by
  rw [runPinProtected, bind_of_ok (attempt_ok.2 (.inr ⟨e, h, rfl⟩))]
  dsimp only
  rw [if_pos he]
  rfl

theorem runPinProtected_of_raised {e : AppError} {s' : Session}
    (h : verifyPin c u pin s = .raised e s') (he : e.kind.isPinRefusal = false) :
    runPinProtected c u pin op s = .raised e s' := by
  rw [runPinProtected, bind_of_ok (attempt_ok.2 (.inr ⟨e, h, rfl⟩))]
  dsimp only
  rw [if_neg (by rw [he]; decide)]
  rfl

theorem runPinProtected_of_ok {s' s'' : Session} {a : α} (h : verifyPin c u pin s = .ok () s')
    (hop : op s' = .ok a s'') : runPinProtected c u pin op s = .ok (.ok a) s'' := by
  rw [runPinProtected, bind_of_ok (attempt_ok.2 (.inl ⟨(), h, rfl⟩))]
  dsimp only
  rw [bind_of_ok hop]
  rfl

theorem runPinProtected_of_failed {s' s'' : Session} {e : AppError}
    (h : verifyPin c u pin s = .ok () s') (hop : op s' = .raised e s'') :
    runPinProtected c u pin op s = .raised e s'' := by
  rw [runPinProtected, bind_of_ok (attempt_ok.2 (.inl ⟨(), h, rfl⟩))]
  dsimp only
  rw [bind_of_raised hop]

end Check

/-! ### Requests without a PIN -/

section Requests

variable {c : Ctx} {req : Request}

theorem Keeps.pins {α : Type} {m : Tx α} (h : Keeps m) : Always PinsKept m := fun s => (h s).pins

theorem SafePayService.releaseWithCode_pins (id seller : Ulid) (code key : String)
    (r : Option String) : Always PinsKept (releaseWithCode c id seller code key r) := by
  refine .bind now_keeps.pins fun t => ?_
  refine .bind (SqlIdempotencyRepository.reserve_keeps _ _ _).pins fun decision => ?_
  refine .bind (replayBodyOrRaise_keeps _).pins fun replay => ?_
  cases replay with
  | some body => exact .pure _
  | none =>
    refine .bind (.query _) fun found => .bind (.orRaise _ _) fun e => .bind (.ensure _ _) fun _ => ?_
    refine .ite _ ?_ (.ite _ ?_ ?_)
    · exact .bind (complete_keeps _ _ _ _ _).pins fun _ => .pure _
    · refine .bind (Always.modify fun _ _ => rfl) fun _ => ?_
      exact .bind (complete_keeps _ _ _ _ _).pins fun _ => .pure _
    · refine .bind (releaseLocked_keeps _ _ _ _ _).pins fun body => ?_
      exact .bind (complete_keeps _ _ _ _ _).pins fun _ => .pure _

/-- A request without a PIN touches no PIN's guard. -/
theorem Request.handle_pins (h : req.pin? = none) : Always PinsKept (handle c req) := by
  cases hcode : req.triesCode with
  | false => exact (Request.handle_keeps h hcode).pins
  | true =>
    cases req <;> cases hcode
    exact .bind (SafePayService.releaseWithCode_pins _ _ _ _ _) fun _ => .pure _

end Requests

/-! ### What a request does to the guards -/

section Serve

variable {d : Deployment} {db : Database} {call : Call} {u : Ulid} {pin : String} {row : UserRow}

/-- What every run of a request keeps, its commit keeps. -/
theorem serve_always (db : Database) {R : Session → Session → Prop} [Std.Refl R]
    (h : Always R (handle (d.ctx call.oracle) call.request)) :
    ∃ s, s.db = serve d call db ∧ R (begin db) s := by
  rcases commit_cases (handle (d.ctx call.oracle) call.request) db with ⟨a, s, hok, he⟩ | he
  · have hs := h (begin db)
    rw [hok] at hs
    exact ⟨s, he.symm, hs⟩
  · exact ⟨begin db, he.symm, Std.Refl.refl _⟩

theorem Database.pinGuard_counted {attempts : Nat} {lockedUntil : Option Time} {stamp : Time}
    (hrow : db.users.find? u = some row) (v : Ulid) :
    (db.counted u attempts lockedUntil stamp).pinGuard v =
      if v = u then ⟨attempts, lockedUntil⟩ else db.pinGuard v := by
  unfold pinGuard counted
  dsimp only
  rw [Table.find?_modifyAt]
  by_cases hv : v = u
  · rw [if_pos hv, if_pos hv, hrow]
    rfl
  · rw [if_neg hv, if_neg hv]

/-- The check refused the request, for good or with a count. -/
theorem serve_of_refused (hpin : call.request.pin? = some (u, pin)) {e : AppError} {s : Session}
    (h : verifyPin (d.ctx call.oracle) u pin (begin db) = .raised e s)
    (he : e.kind.isPinRefusal = true) :
    serve d call db = s.db ∧ Raises (d.ctx call.oracle) call.request db := by
  obtain ⟨α, op, reply, -, hhandle⟩ := Request.handle_pin (c := d.ctx call.oracle) hpin
  have hrun : handle (d.ctx call.oracle) call.request (begin db) = .ok (.error e) s := by
    rw [hhandle, bind_of_ok (runPinProtected_of_refused h he)]
    rfl
  refine ⟨commit_of_ok hrun, fun r s' hr => ?_⟩
  rw [hrun] at hr
  cases hr

/-- While the PIN is locked nothing happens, whatever the PIN. -/
theorem serve_of_locked (hpin : call.request.pin? = some (u, pin))
    (hrow : db.users.find? u = some row) (hlocked : pinLocked row (call.oracle.clock 0) = true) :
    serve d call db = db ∧ Raises (d.ctx call.oracle) call.request db := by
  obtain ⟨t, s, hv, hs⟩ := verifyPin_of_locked (c := d.ctx call.oracle) (s := begin db) pin hrow
    hlocked
  obtain ⟨hserve, hraises⟩ := serve_of_refused hpin hv rfl
  exact ⟨hserve.trans hs, hraises⟩

/-- A wrong PIN is counted, and nothing else is written. -/
theorem serve_of_wrong (hpin : call.request.pin? = some (u, pin))
    (hrow : db.users.find? u = some row) (hopen : pinLocked row (call.oracle.clock 0) = false)
    (hwrong : d.crypto.argon2Verify row.pinHash pin = false) :
    serve d call db = db.counted u (row.pinFailedAttempts + 1)
        (pinLockAfter (d.ctx call.oracle) (row.pinFailedAttempts + 1) (call.oracle.clock 0))
        call.oracle.dbNow ∧
      Raises (d.ctx call.oracle) call.request db := by
  obtain ⟨e, s, hv, he, hs⟩ := verifyPin_of_wrong (c := d.ctx call.oracle) (s := begin db) hrow hopen
    hwrong
  obtain ⟨hserve, hraises⟩ := serve_of_refused hpin hv he
  exact ⟨hserve.trans hs, hraises⟩

/-- A right PIN: the request raises and nothing is committed, the reset of the counter
    included, or the reset is committed with what the operation did. -/
theorem serve_of_right (hpin : call.request.pin? = some (u, pin))
    (hrow : db.users.find? u = some row) (hopen : pinLocked row (call.oracle.clock 0) = false)
    (hright : d.crypto.argon2Verify row.pinHash pin = true) :
    (Raises (d.ctx call.oracle) call.request db ∧ serve d call db = db) ∨
      (¬Raises (d.ctx call.oracle) call.request db ∧ ∀ v, (serve d call db).pinGuard v =
        if v = u ∧ row.pinFailedAttempts ≠ 0 then .fresh else db.pinGuard v) := by
  obtain ⟨α, op, reply, hkeeps, hhandle⟩ := Request.handle_pin (c := d.ctx call.oracle) hpin
  obtain ⟨s, hv, hs⟩ := verifyPin_of_right (c := d.ctx call.oracle) (s := begin db) hrow hopen hright
  cases hop : op s with
  | raised e s' =>
    have hraised : handle (d.ctx call.oracle) call.request (begin db) = .raised e s' := by
      rw [hhandle, bind_of_raised (runPinProtected_of_failed hv hop)]
    refine .inl ⟨fun r s₁ hr => ?_, commit_of_raised hraised⟩
    rw [hraised] at hr
    cases hr
  | ok a s' =>
    have hok : handle (d.ctx call.oracle) call.request (begin db) = .ok (.ok (reply a)) s' := by
      rw [hhandle, bind_of_ok (runPinProtected_of_ok hv hop)]
      rfl
    refine .inr ⟨fun hraises => hraises _ _ hok, fun v => ?_⟩
    have hkept := (hkeeps s).pins v
    rw [hop] at hkept
    rw [serve, commit_of_ok hok]
    refine hkept.trans ?_
    rcases hs with ⟨hzero, hs⟩ | ⟨hne, hs⟩
    · rw [hs, if_neg fun h => h.2 hzero]
      rfl
    · rw [hs]
      refine (Database.pinGuard_counted hrow v).trans ?_
      by_cases hvu : v = u
      · rw [if_pos hvu, if_pos ⟨hvu, hne⟩]
        rfl
      · rw [if_neg hvu, if_neg fun h => hvu h.1]

theorem serve_of_unknown (hpin : call.request.pin? = some (u, pin))
    (hrow : db.users.find? u = none) : serve d call db = db := by
  obtain ⟨α, op, reply, -, hhandle⟩ := Request.handle_pin (c := d.ctx call.oracle) hpin
  obtain ⟨s, hv⟩ := verifyPin_of_unknown (c := d.ctx call.oracle) (s := begin db) pin hrow
  have hraised : handle (d.ctx call.oracle) call.request (begin db) =
      .raised ⟨.authentication, "Unknown user.", []⟩ s := by
    rw [hhandle, bind_of_raised (runPinProtected_of_raised hv rfl)]
  exact commit_of_raised hraised

/-! ### Runs -/

/-- When the call compares a wrong PIN with the hash of `u`: at its first clock reading. -/
def wrongPin? (d : Deployment) (u : Ulid) (call : Call) (db : Database) : Option Time :=
  match call.request.pin?, db.users.find? u with
  | some (v, pin), some row =>
    if v = u ∧ pinLocked row (call.oracle.clock 0) = false ∧
        d.crypto.argon2Verify row.pinHash pin = false then some (call.oracle.clock 0) else none
  | _, _ => none

/-- When a run compares wrong PINs with the hash of `u`. -/
def wrongPins (d : Deployment) (u : Ulid) : List Call → Database → List Time
  | [], _ => []
  | call :: calls, db => (wrongPin? d u call db).toList ++ wrongPins d u calls (serve d call db)

/-- The call commits a reset of the counter of `u`. -/
def resetsPin (d : Deployment) (u : Ulid) (call : Call) (db : Database) : Bool :=
  (db.pinGuard u).attempts != 0 && ((serve d call db).pinGuard u).attempts == 0

/-- No call of the run does. -/
def noReset (d : Deployment) (u : Ulid) : List Call → Database → Bool
  | [], _ => true
  | call :: calls, db => !resetsPin d u call db && noReset d u calls (serve d call db)

/-- The bound on failures of a deployment's PIN guards. -/
abbrev PinFailures (d : Deployment) : Guard → List Nat → Prop :=
  Failures d.settings.pinMaxAttempts (Time.seconds d.settings.pinLockoutSeconds)

theorem wrongPin?_eq_some {t : Time} (h : wrongPin? d u call db = some t) :
    ∃ pin row, call.request.pin? = some (u, pin) ∧ db.users.find? u = some row ∧
      t = call.oracle.clock 0 ∧ pinLocked row t = false ∧
      d.crypto.argon2Verify row.pinHash pin = false := by
  unfold wrongPin? at h
  split at h
  · rename_i v pin row hpin hrow
    split at h
    · rename_i hc
      obtain ⟨rfl, hopen, hwrong⟩ := hc
      cases h
      exact ⟨pin, row, hpin, hrow, rfl, hopen, hwrong⟩
    · cases h
  · cases h

/-- A compared wrong PIN is a failure of the guard. -/
theorem serve_pinGuard_of_wrong {t : Time} (h : wrongPin? d u call db = some t) :
    (db.pinGuard u).locked t = false ∧ (serve d call db).pinGuard u =
      (db.pinGuard u).failed d.settings.pinMaxAttempts (Time.seconds d.settings.pinLockoutSeconds) t := by
  obtain ⟨pin, row, hpin, hrow, rfl, hopen, hwrong⟩ := wrongPin?_eq_some h
  rw [(serve_of_wrong hpin hrow hopen hwrong).1, Database.pinGuard_counted hrow, if_pos rfl,
    Database.pinGuard_of_some hrow]
  exact ⟨hopen, rfl⟩

/-- Any other call keeps the guard, unless it resets it. -/
theorem serve_pinGuard_of_none (h : wrongPin? d u call db = none)
    (hreset : resetsPin d u call db = false) : (serve d call db).pinGuard u = db.pinGuard u := by
  cases hpin : call.request.pin? with
  | none =>
    obtain ⟨s, hs, hkept⟩ := serve_always db
      (Request.handle_pins (c := d.ctx call.oracle) hpin)
    rw [← hs]
    exact hkept u
  | some p =>
    obtain ⟨v, pin⟩ := p
    cases hrow : db.users.find? v with
    | none => rw [serve_of_unknown hpin hrow]
    | some row =>
      cases hlocked : pinLocked row (call.oracle.clock 0) with
      | true => rw [(serve_of_locked hpin hrow hlocked).1]
      | false =>
        cases hverify : d.crypto.argon2Verify row.pinHash pin with
        | false =>
          have hne : u ≠ v := by
            rintro rfl
            unfold wrongPin? at h
            rw [hpin, hrow] at h
            dsimp only at h
            rw [if_pos ⟨rfl, hlocked, hverify⟩] at h
            cases h
          rw [(serve_of_wrong hpin hrow hlocked hverify).1, Database.pinGuard_counted hrow,
            if_neg hne]
        | true =>
          rcases serve_of_right hpin hrow hlocked hverify with ⟨-, he⟩ | ⟨-, hguard⟩
          · rw [he]
          · rw [hguard u]
            refine if_neg ?_
            rintro ⟨rfl, hne⟩
            -- the counter went back to zero, which is a reset
            unfold resetsPin at hreset
            rw [hguard u, if_pos ⟨rfl, hne⟩, Database.pinGuard_of_some hrow] at hreset
            simp [Guard.fresh, hne] at hreset

/-- The wrong PINs of a run without resets are failures of the guard. -/
theorem wrongPins_failures (calls : List Call) (h : noReset d u calls db = true) :
    PinFailures d (db.pinGuard u) (wrongPins d u calls db) := by
  induction calls generalizing db with
  | nil => exact .nil _
  | cons call calls ih =>
    unfold noReset at h
    rw [Bool.and_eq_true, Bool.not_eq_true'] at h
    have hrest := ih h.2
    unfold wrongPins
    cases hw : wrongPin? d u call db with
    | none =>
      rw [serve_pinGuard_of_none hw h.1] at hrest
      exact hrest
    | some t =>
      obtain ⟨hopen, hguard⟩ := serve_pinGuard_of_wrong hw
      rw [hguard] at hrest
      exact .cons hopen hrest

end Serve

/-- Between two resets few wrong PINs are compared; a locked PIN stops every request; a
    wrong PIN writes its count, and a right one nothing unless its operation succeeds. -/
theorem pin_lockout (d : Deployment) (db : Database) (u : Ulid) :
    (∀ calls, noReset d u calls db = true → ∀ start,
      countWithin (Time.seconds d.settings.pinLockoutSeconds) start (wrongPins d u calls db) ≤
        d.settings.pinMaxAttempts) ∧
    ∀ call pin row, call.request.pin? = some (u, pin) → db.users.find? u = some row →
      (pinLocked row (call.oracle.clock 0) = true →
        serve d call db = db ∧ Raises (d.ctx call.oracle) call.request db) ∧
      (pinLocked row (call.oracle.clock 0) = false →
        (d.crypto.argon2Verify row.pinHash pin = false →
          serve d call db = db.counted u (row.pinFailedAttempts + 1)
              (pinLockAfter (d.ctx call.oracle) (row.pinFailedAttempts + 1) (call.oracle.clock 0))
              call.oracle.dbNow ∧
            Raises (d.ctx call.oracle) call.request db) ∧
        (d.crypto.argon2Verify row.pinHash pin = true →
          Raises (d.ctx call.oracle) call.request db → serve d call db = db)) := by
  refine ⟨?_, ?_⟩
  · intro calls hreset start
    exact (wrongPins_failures calls hreset).countWithin_le d.settings.pinMaxAttempts_pos start
  · intro call pin row hpin hrow
    refine ⟨fun hlocked => serve_of_locked hpin hrow hlocked, fun hopen => ⟨fun hwrong => ?_, ?_⟩⟩
    · exact serve_of_wrong hpin hrow hopen hwrong
    · intro hright hraises
      rcases serve_of_right hpin hrow hopen hright with ⟨-, he⟩ | ⟨hno, -⟩
      · exact he
      · exact absurd hraises hno

namespace Sample

/-- Call number `n` asks for a pool with a PIN. -/
def guess (n : Nat) (pin : String) : Call :=
  call n (.createPool (id 1 1) pin (.fromMinor 5000) ("key-" ++ toString n) none)

/-- Seven wrong PINs, one second after the other. -/
def guesses : List Call := [2, 3, 4, 5, 6, 7, 8].map fun n => guess n "0000"

/-- The user has registered. -/
def registered : Database := serveAll deployment [register 1 "01711111111"] (migrated 0)

end Sample

/-- Of seven wrong PINs five are compared, as many as the bound allows. -/
theorem five_wrong_pins_compared :
    wrongPins Sample.deployment (Sample.id 1 1) Sample.guesses Sample.registered =
        [2, 3, 4, 5, 6].map (fun n => Sample.start + Time.seconds n) ∧
      countWithin (Time.seconds 900) (Sample.start + Time.seconds 2)
        (wrongPins Sample.deployment (Sample.id 1 1) Sample.guesses Sample.registered) ≤ 5 :=
  ⟨by decide +kernel, (pin_lockout Sample.deployment Sample.registered (Sample.id 1 1)).1
    Sample.guesses (by decide +kernel) _⟩

/-- A wrong PIN also stamps the user's row: counter and lock alone do not give the row that
    is committed. -/
theorem wrong_pin_stamps_row :
    wrongPin? Sample.deployment (Sample.id 1 1) (Sample.guess 2 "0000") Sample.registered =
        some (Sample.start + Time.seconds 2) ∧
      ¬∃ attempts lockedUntil, serve Sample.deployment (Sample.guess 2 "0000") Sample.registered =
        { Sample.registered with
          users := Sample.registered.users.modifyAt (Sample.id 1 1)
            (fun r => { r with pinFailedAttempts := attempts, pinLockedUntil := lockedUntil })
            fun _ => rfl } := by
  refine ⟨by decide +kernel, ?_⟩
  rintro ⟨attempts, lockedUntil, h⟩
  have hstamp := congrArg (fun db => (db.users.find? (Sample.id 1 1)).map UserRow.updatedAt) h
  dsimp only at hstamp
  rw [Table.find?_modifyAt, if_pos rfl, Option.map_map] at hstamp
  have hbefore : (Sample.registered.users.find? (Sample.id 1 1)).map UserRow.updatedAt =
      some (Sample.start + Time.seconds 1) := by decide +kernel
  have hafter : ((serve Sample.deployment (Sample.guess 2 "0000") Sample.registered).users.find?
      (Sample.id 1 1)).map UserRow.updatedAt = some (Sample.start + Time.seconds 2) := by
    decide +kernel
  rw [hafter] at hstamp
  exact absurd (hstamp.trans hbefore) (by decide)

end MoneyMovement

/-
  MoneyMovement/CodeLockout.lean
  ==============================
  **Guessing a delivery code.**

  `release_with_code` answers a wrong code, a locked one and a used key with a
  value, so each of these is committed: the count of a wrong code on the escrow, and
  the answer under the caller's key.  Only a new key gets as far as the escrow, and
  only an escrow that is not locked gets as far as the hash.  An expired lock leaves
  the counter where it is, so the next wrong code locks the escrow again.
-/
import MoneyMovement.PinLockout
import MoneyMovement.Acceptance
import MoneyMovement.Replay

namespace MoneyMovement

open Txn Lockout SafePayService

/-! ### What an attempt writes -/

/-- The escrow with another counter, lock and stamp. -/
def EscrowRow.counted (attempts : Nat) (lockedUntil : Option Time) (stamp : Time) (e : EscrowRow) :
    EscrowRow :=
  { e with
    deliveryCodeAttempts := attempts, deliveryCodeLockedUntil := lockedUntil, updatedAt := stamp }

@[simp] theorem EscrowRow.id_counted (attempts : Nat) (lockedUntil : Option Time) (stamp : Time)
    (e : EscrowRow) : (e.counted attempts lockedUntil stamp).id = e.id := rfl

/-- The database in which the escrow's counter, lock and stamp are set. -/
def Database.codeCounted (db : Database) (id : Ulid) (attempts : Nat) (lockedUntil : Option Time)
    (stamp : Time) : Database :=
  { db with
    safepayEscrows := db.safepayEscrows.modifyAt id (EscrowRow.counted attempts lockedUntil stamp)
      (EscrowRow.id_counted attempts lockedUntil stamp) }

/-- The database with one more idempotency record. -/
def Database.answered (db : Database) (r : IdempotencyRow) : Database :=
  { db with idempotencyRecords := db.idempotencyRecords.push r }

/-- The key is short enough, and new. -/
def Database.newKey (db : Database) (k : IdempotencyTriple) : Bool :=
  fits 100 k.endpoint && fits 128 k.key && (db.idempotencyRecords.find? k).isNone

section Attempts

variable {c : Ctx} {id u : Ulid} {code key : String} {req : Option String} {s s' : Session}
  {b : Body} {e : EscrowRow}

/-- The record of the attempt, once it is answered. -/
theorem complete_answered {k : IdempotencyTriple} {f : String} {now : Time} {db : Database}
    {resource : Ulid} {body : Body} {status : Nat} {v : Unit}
    (hnew : db.idempotencyRecords.find? k = none)
    (hs : s.db = db.answered (SqlIdempotencyRepository.processing k f now))
    (h : complete k resource body now status s = .ok v s') :
    ∃ r, r.triple = k ∧ s'.db = db.answered r := by
  have hpush := Table.modifyAt_push (r := SqlIdempotencyRepository.processing k f now) hnew
    (SqlIdempotencyRepository.completedRow resource status
      (body.without ["deliveryCode", "replayed"]) now)
    (SqlIdempotencyRepository.triple_completedRow _ _ _ _)
  unfold complete SqlIdempotencyRepository.complete at h
  refine ⟨SqlIdempotencyRepository.completedRow resource status
    (body.without ["deliveryCode", "replayed"]) now (SqlIdempotencyRepository.processing k f now), rfl, ?_⟩
  rw [writeDb_ok h, hs]
  exact congrArg (fun records => { db with idempotencyRecords := records }) hpush

/-- How an attempt that returned went: replayed, locked out, counted, or released. -/
theorem SafePayService.releaseWithCode_cases
    (h : releaseWithCode c id u code key req s = .ok b s') :
    s'.db = s.db ∨
      s.db.newKey (releaseCodeTriple id u key) = true ∧ ∃ e,
        s.db.safepayEscrows.find? id = some e ∧ e.sellerUserId = u ∧ acceptsCode e.status = true ∧
        ((codeLocked e (c.oracle.clock s.draws) = true ∧
            ∃ r, r.triple = releaseCodeTriple id u key ∧ s'.db = s.db.answered r) ∨
          codeLocked e (c.oracle.clock s.draws) = false ∧
            (c.crypto.argon2Verify e.deliveryCodeHash code = false ∨ CodesKept s s')) := by
  unfold releaseWithCode at h
  generalize releaseCodeTriple id u key = k at h ⊢
  obtain ⟨t, s₁, h₁, h⟩ := bind_ok.1 h
  obtain ⟨e₁, rfl⟩ := now_ok h₁
  obtain ⟨decision, s₂, h₂, h⟩ := bind_ok.1 h
  have hfits := SqlIdempotencyRepository.fits_of_reserve h₂
  obtain ⟨replay, s₃, h₃, h⟩ := bind_ok.1 h
  rcases reserve_or_replay h₂ h₃ with ⟨⟨b, rfl⟩, e₃, -⟩ | ⟨rfl, hnew, e₃⟩
  · obtain ⟨-, rfl⟩ := pure_ok.1 h
    exact .inl (e₃.trans e₁)
  · rw [e₁] at hnew e₃
    obtain ⟨found, s₄, h₄, h⟩ := bind_ok.1 h
    obtain ⟨rfl, rfl⟩ := readDb_ok.1 h₄
    obtain ⟨e, s₅, h₅, h⟩ := bind_ok.1 h
    obtain ⟨he, rfl⟩ := orRaise_ok.1 h₅
    rw [Option.filter_eq_some_iff, decide_eq_true_eq, e₃] at he
    obtain ⟨_, s₆, h₆, h⟩ := bind_ok.1 h
    obtain ⟨haccepts, rfl⟩ := ensure_ok.1 h₆
    refine .inr ⟨?_, e, he.1, he.2, haccepts, ?_⟩
    · rw [Database.newKey, hfits.1, hfits.2, hnew]
      rfl
    unfold releaseWithCodeLocked at h
    split at h
    · rename_i hlocked
      obtain ⟨_, s₇, h₇, h⟩ := bind_ok.1 h
      obtain ⟨-, rfl⟩ := pure_ok.1 h
      exact .inl ⟨hlocked, complete_answered hnew e₃ h₇⟩
    · rename_i hopen
      refine .inr ⟨by simpa using hopen, ?_⟩
      split at h
      · rename_i hwrong
        exact .inl (by simpa using hwrong)
      · obtain ⟨body, s₇, h₇, h⟩ := bind_ok.1 h
        obtain ⟨_, s₈, h₈, h⟩ := bind_ok.1 h
        obtain ⟨-, rfl⟩ := pure_ok.1 h
        have hkept := (releaseLocked_keeps (c := c) e u "Buyer delivery code verified" req none s₃).codes
        rw [h₇] at hkept
        have hkept' := (complete_keeps k e.id body (c.oracle.clock s.draws)
          200 s₇).codes
        rw [h₈] at hkept'
        have hbefore : CodesKept s s₃ := by
          intro x
          left
          rw [e₃]
          rfl
        exact .inr (IsTrans.trans _ _ _ hbefore (IsTrans.trans _ _ _ hkept hkept'))

/-- A wrong code is counted and answered. -/
theorem SafePayService.releaseWithCodeLocked_of_wrong {k : IdempotencyTriple} {f : String} {t : Time}
    {db : Database} (u : Ulid) (req : Option String) (hnew : db.idempotencyRecords.find? k = none)
    (hs : s.db = db.answered (SqlIdempotencyRepository.processing k f t))
    (hopen : codeLocked e t = false)
    (hwrong : c.crypto.argon2Verify e.deliveryCodeHash code = false) :
    ∃ b s' r, releaseWithCodeLocked c k e u code req t s = .ok b s' ∧ r.triple = k ∧
      s'.db = (db.codeCounted e.id (e.deliveryCodeAttempts + 1)
        (lockAfter (e.deliveryCodeAttempts + 1) t) t).answered r := by
  have hne : ¬codeLocked e t = true := by
    rw [hopen]
    decide
  rw [releaseWithCodeLocked, if_neg hne, if_pos (by rw [hwrong]; rfl)]
  generalize lockAfter (e.deliveryCodeAttempts + 1) t = lock
  obtain ⟨s₁, hcount, hs₁⟩ : ∃ s₁,
      SqlSafePayRepository.recordCodeFailure e.id (e.deliveryCodeAttempts + 1) lock t s = .ok () s₁ ∧
        s₁.db = (db.codeCounted e.id (e.deliveryCodeAttempts + 1) lock t).answered
          (SqlIdempotencyRepository.processing k f t) := by
    refine ⟨_, rfl, ?_⟩
    dsimp only
    rw [hs]
    rfl
  obtain ⟨s₂, hcomplete⟩ : ∃ s₂, complete k e.id (failureBody e (e.deliveryCodeAttempts + 1) lock) t
      (if lock.isSome then 423 else 400) s₁ = .ok () s₂ := ⟨_, rfl⟩
  have hnew₁ : (db.codeCounted e.id (e.deliveryCodeAttempts + 1) lock t).idempotencyRecords.find? k =
      none := hnew
  obtain ⟨r, hr, hdb⟩ := complete_answered hnew₁ hs₁ hcomplete
  exact ⟨_, s₂, r, bind_ok.2 ⟨_, _, hcount, bind_ok.2 ⟨_, _, hcomplete, rfl⟩⟩, hr, hdb⟩

/-- A wrong code under a new key gets there. -/
theorem SafePayService.releaseWithCode_of_wrong (req : Option String)
    (hkey : s.db.newKey (releaseCodeTriple id u key) = true)
    (he : s.db.safepayEscrows.find? id = some e) (hu : e.sellerUserId = u)
    (haccepts : acceptsCode e.status = true)
    (hopen : codeLocked e (c.oracle.clock s.draws) = false)
    (hwrong : c.crypto.argon2Verify e.deliveryCodeHash code = false) :
    ∃ b s' r, releaseWithCode c id u code key req s = .ok b s' ∧
      r.triple = releaseCodeTriple id u key ∧
      s'.db = (s.db.codeCounted id (e.deliveryCodeAttempts + 1)
        (lockAfter (e.deliveryCodeAttempts + 1) (c.oracle.clock s.draws))
        (c.oracle.clock s.draws)).answered r := by
  obtain rfl : e.id = id := Table.key_of_find? he
  unfold releaseWithCode
  generalize releaseCodeTriple e.id u key = k at hkey ⊢
  unfold Database.newKey at hkey
  rw [Bool.and_eq_true, Bool.and_eq_true, Option.isNone_iff_eq_none] at hkey
  have h₁ : now c s = .ok (c.oracle.clock s.draws) { s with draws := s.draws + 1 } := rfl
  have hreserve : Returns (SqlIdempotencyRepository.reserve k
      (fingerprintRequest c [("deliveryCode", .str code)]) (c.oracle.clock s.draws))
      { s with draws := s.draws + 1 } _ := SqlIdempotencyRepository.reserve_returns hkey.1 hkey.2
  obtain ⟨_, s₂, h₂, rfl, hs₂⟩ := hreserve
  have hreserved : s₂.db = s.db.answered (SqlIdempotencyRepository.processing k
      (fingerprintRequest c [("deliveryCode", .str code)]) (c.oracle.clock s.draws)) := by
    rw [hs₂]
    rfl
  have hlock : s₂.db.safepayEscrows.find? e.id = some e := by
    rw [hreserved]
    exact he
  have hfilter : (some e).filter (fun e => decide (e.sellerUserId = u)) = some e := by
    rw [Option.filter_some, hu]
    simp
  obtain ⟨b, s', r, hrun, hr, hdb⟩ := releaseWithCodeLocked_of_wrong (c := c) u req hkey.2 hreserved hopen hwrong
  refine ⟨b, s', r, ?_, hr, hdb⟩
  refine bind_ok.2 ⟨_, _, h₁, bind_ok.2 ⟨_, _, h₂, bind_ok.2 ⟨none, _, pure_ok.2 ⟨rfl, rfl⟩, ?_⟩⟩⟩
  refine bind_ok.2 ⟨some e, _, readDb_ok.2 ⟨hlock, rfl⟩, ?_⟩
  refine bind_ok.2 ⟨e, _, orRaise_ok.2 ⟨hfilter, rfl⟩, ?_⟩
  exact bind_ok.2 ⟨(), _, ensure_ok.2 ⟨haccepts, rfl⟩, hrun⟩

end Attempts

/-! ### Runs -/

section Runs

variable {d : Deployment} {db : Database} {call : Call} {e : Ulid}

/-- When the call compares a wrong code with the hash of escrow `e`: at its first clock
    reading. -/
def wrongCode? (d : Deployment) (e : Ulid) (call : Call) (db : Database) : Option Time :=
  match call.request, db.safepayEscrows.find? e with
  | .releaseSafepayCode user id code key _, some row =>
    if id = e ∧ db.newKey (releaseCodeTriple e user key) = true ∧ row.sellerUserId = user ∧
        acceptsCode row.status = true ∧ codeLocked row (call.oracle.clock 0) = false ∧
        d.crypto.argon2Verify row.deliveryCodeHash code = false
    then some (call.oracle.clock 0) else none
  | _, _ => none

/-- When a run compares wrong codes with the hash of escrow `e`. -/
def wrongCodes (d : Deployment) (e : Ulid) : List Call → Database → List Time
  | [], _ => []
  | call :: calls, db => (wrongCode? d e call db).toList ++ wrongCodes d e calls (serve d call db)

theorem wrongCode?_eq_some {t : Time} (h : wrongCode? d e call db = some t) :
    ∃ user code key req row, call.request = .releaseSafepayCode user e code key req ∧
      db.safepayEscrows.find? e = some row ∧ t = call.oracle.clock 0 ∧
      db.newKey (releaseCodeTriple e user key) = true ∧ row.sellerUserId = user ∧
      acceptsCode row.status = true ∧ codeLocked row t = false ∧
      d.crypto.argon2Verify row.deliveryCodeHash code = false := by
  unfold wrongCode? at h
  split at h
  · rename_i user id code key req row hreq hrow
    split at h
    · rename_i hc
      obtain ⟨rfl, hkey, hseller, haccepts, hopen, hwrong⟩ := hc
      cases h
      exact ⟨user, code, key, req, row, hreq, hrow, rfl, hkey, hseller, haccepts, hopen, hwrong⟩
    · cases h
  · cases h

/-- A compared wrong code writes the count and the answer, and nothing else. -/
theorem serve_of_wrongCode {t : Time} (h : wrongCode? d e call db = some t) :
    ∃ user code key req row r, call.request = .releaseSafepayCode user e code key req ∧
      db.safepayEscrows.find? e = some row ∧ r.triple = releaseCodeTriple e user key ∧
      serve d call db = (db.codeCounted e (row.deliveryCodeAttempts + 1)
        (lockAfter (row.deliveryCodeAttempts + 1) t) t).answered r := by
  obtain ⟨user, code, key, req, row, hreq, hrow, rfl, hkey, hseller, haccepts, hopen, hwrong⟩ :=
    wrongCode?_eq_some h
  obtain ⟨b, s, r, hrun, hr, hdb⟩ := SafePayService.releaseWithCode_of_wrong (c := d.ctx call.oracle)
    (s := begin db) req hkey hrow hseller haccepts hopen hwrong
  refine ⟨user, code, key, req, row, r, hreq, hrow, hr, ?_⟩
  have hok : handle (d.ctx call.oracle) call.request (begin db) = .ok (codeReply b) s := by
    rw [hreq, handle, bind_of_ok hrun]
    exact pure_ok.2 ⟨rfl, rfl⟩
  rw [serve, commit_of_ok hok]
  exact hdb

/-- The count of a wrong code is a failure of the guard. -/
theorem serve_codeGuard_of_wrong {t : Time} (h : wrongCode? d e call db = some t) :
    ∃ g, db.codeGuard e = some g ∧ g.locked t = false ∧ (serve d call db).codeGuard e =
      some (g.failed DELIVERY_CODE_MAX_ATTEMPTS (Time.seconds CODE_LOCK_SECONDS) t) := by
  obtain ⟨_, _, _, _, row, _, -, hrow, -, hserve⟩ := serve_of_wrongCode h
  obtain ⟨_, _, _, _, row', -, hrow', -, -, -, haccepts, hopen, -⟩ := wrongCode?_eq_some h
  obtain rfl := Option.some.inj (hrow.symm.trans hrow')
  refine ⟨_, (Database.codeGuard_of_some hrow).trans (if_pos haccepts), hopen, ?_⟩
  rw [hserve]
  unfold Database.codeGuard Database.answered Database.codeCounted
  dsimp only
  rw [Table.find?_modifyAt, if_pos rfl, hrow]
  exact if_pos haccepts

theorem Keeps.codes {α : Type} {m : Tx α} (h : Keeps m) : Always CodesKept m := fun s => (h s).codes

theorem runPinProtected_codes {α : Type} {c : Ctx} {u : Ulid} {pin : String} {op : Tx α}
    (h : Keeps op) : Always CodesKept (runPinProtected c u pin op) := by
  have hcheck : Always CodesKept (AuthService.verifyPin c u pin) := by
    intro s x
    obtain ⟨users, -, hs⟩ := AuthService.verifyPin_always (c := c) u pin s
    left
    rw [hs]
    rfl
  refine .bind hcheck.attempt fun outcome => ?_
  cases outcome with
  | ok _ => exact .bind h.codes fun _ => .pure _
  | error e => exact .ite _ (.pure _) (.raise _)

/-- Every other request keeps the guards of open escrows. -/
theorem Request.handle_codes {c : Ctx} {req : Request} (h : req.triesCode = false) :
    Always CodesKept (handle c req) := by
  cases hpin : req.pin? with
  | none => exact (Request.handle_keeps hpin h).codes
  | some p =>
    obtain ⟨α, op, reply, hkeeps, hhandle⟩ := Request.handle_pin (c := c) (u := p.1) hpin
    rw [hhandle]
    exact .bind (runPinProtected_codes hkeeps) fun _ => .pure _

/-- What an attempt at escrow `id` leaves behind, unless it was a wrong code for it. -/
theorem serve_codes_of_attempt {user id : Ulid} {code key : String} {req : Option String}
    (hreq : call.request = .releaseSafepayCode user id code key req)
    (h : wrongCode? d id call db = none) :
    ∃ s, s.db = serve d call db ∧ CodesKept (begin db) s := by
  rcases commit_cases (handle (d.ctx call.oracle) call.request) db with ⟨a, s, hok, he⟩ | he
  · refine ⟨s, he.symm, ?_⟩
    rw [hreq, handle] at hok
    obtain ⟨b, s₁, h₁, hok⟩ := bind_ok.1 hok
    obtain ⟨-, rfl⟩ := pure_ok.1 hok
    rcases SafePayService.releaseWithCode_cases h₁ with hdb | ⟨hkey, row, hrow, hseller, haccepts, hcase⟩
    · intro x
      left
      rw [hdb]
    · rcases hcase with ⟨-, r, -, hdb⟩ | ⟨hopen, hwrong | hkept⟩
      · intro x
        left
        rw [hdb]
        rfl
      · -- the conditions of a counted wrong code
        have hrow' : db.safepayEscrows.find? id = some row := hrow
        unfold wrongCode? at h
        rw [hreq, hrow'] at h
        dsimp only at h
        rw [if_pos ⟨rfl, hkey, hseller, haccepts, hopen, hwrong⟩] at h
        cases h
      · exact hkept
  · exact ⟨begin db, he.symm, Std.Refl.refl _⟩

/-- Any other call keeps the guard, or closes the escrow. -/
theorem serve_codeGuard_of_none (h : wrongCode? d e call db = none) :
    (serve d call db).codeGuard e = db.codeGuard e ∨ (serve d call db).codeGuard e = none := by
  cases hcode : call.request.triesCode with
  | false =>
    obtain ⟨s, hs, hkept⟩ := serve_always db
      (Request.handle_codes (c := d.ctx call.oracle) hcode)
    rw [← hs]
    exact hkept e
  | true =>
    obtain ⟨user, id, code, key, req, hreq⟩ : ∃ user id code key req,
        call.request = .releaseSafepayCode user id code key req := by
      generalize call.request = request at hcode
      cases request <;> first | exact ⟨_, _, _, _, _, rfl⟩ | cases hcode
    cases hw : wrongCode? d id call db with
    | none =>
      obtain ⟨s, hs, hkept⟩ := serve_codes_of_attempt hreq hw
      rw [← hs]
      exact hkept e
    | some t =>
      -- the wrong code was for another escrow
      have hne : e ≠ id := by
        rintro rfl
        rw [h] at hw
        cases hw
      obtain ⟨_, _, _, _, row, r, -, -, -, hserve⟩ := serve_of_wrongCode hw
      left
      rw [hserve]
      unfold Database.codeGuard Database.answered Database.codeCounted
      dsimp only
      rw [Table.find?_modifyAt, if_neg hne]

/-- A closed escrow stays closed, and no code is compared for it. -/
theorem closed_of_codeGuard_none (call : Call) (h : db.codeGuard e = none) :
    wrongCode? d e call db = none ∧ (serve d call db).codeGuard e = none := by
  have hw : wrongCode? d e call db = none := by
    cases hw : wrongCode? d e call db with
    | none => rfl
    | some t =>
      obtain ⟨g, hg, -⟩ := serve_codeGuard_of_wrong hw
      rw [h] at hg
      cases hg
  refine ⟨hw, ?_⟩
  rcases serve_codeGuard_of_none hw with hsame | hnone
  · rw [hsame, h]
  · exact hnone

/-- The bound on failures of delivery codes. -/
abbrev CodeFailures : Guard → List Nat → Prop :=
  Failures DELIVERY_CODE_MAX_ATTEMPTS (Time.seconds CODE_LOCK_SECONDS)

theorem wrongCodes_of_closed (calls : List Call) (h : db.codeGuard e = none) :
    wrongCodes d e calls db = [] := by
  induction calls generalizing db with
  | nil => rfl
  | cons call calls ih =>
    obtain ⟨hw, hserve⟩ := closed_of_codeGuard_none (d := d) call h
    rw [wrongCodes, hw, ih hserve]
    rfl

/-- The wrong codes of a run are failures of the escrow's guard. -/
theorem wrongCodes_failures (calls : List Call) {g : Guard} (hg : db.codeGuard e = some g) :
    CodeFailures g (wrongCodes d e calls db) := by
  induction calls generalizing db g with
  | nil => exact .nil _
  | cons call calls ih =>
    unfold wrongCodes
    cases hw : wrongCode? d e call db with
    | none =>
      rcases serve_codeGuard_of_none hw with hsame | hnone
      · exact ih (hsame.trans hg)
      · rw [wrongCodes_of_closed calls hnone]
        exact .nil _
    | some t =>
      obtain ⟨g', hg', hopen, hserve⟩ := serve_codeGuard_of_wrong hw
      obtain rfl := Option.some.inj (hg.symm.trans hg')
      exact .cons hopen (ih hserve)

/-- In every reachable state a locked escrow has used up its attempts. -/
theorem serveAll_counted (d : Deployment) (calls : List Call) (db : Database) (e : Ulid)
    (h : ∀ g, db.codeGuard e = some g → g.Counted DELIVERY_CODE_MAX_ATTEMPTS) :
    ∀ g, (serveAll d calls db).codeGuard e = some g → g.Counted DELIVERY_CODE_MAX_ATTEMPTS := by
  induction calls generalizing db with
  | nil => exact h
  | cons call calls ih =>
    refine ih (serve d call db) fun g hg => ?_
    cases hw : wrongCode? d e call db with
    | none =>
      rcases serve_codeGuard_of_none hw with hsame | hnone
      · exact h g (hsame.symm.trans hg)
      · rw [hnone] at hg
        cases hg
    | some t =>
      obtain ⟨g', -, -, hserve⟩ := serve_codeGuard_of_wrong hw
      obtain rfl := Option.some.inj (hserve.symm.trans hg)
      exact Guard.counted_failed _ _ _ _

end Runs

/-- Few wrong codes are compared with an escrow's hash, one per lock once it was locked; a
    locked escrow is not released; a wrong code writes its count and its answer. -/
theorem delivery_code_lockout (d : Deployment) (now : Time) (before : List Call) (e : Ulid) :
    let db := serveAll d before (migrated now)
    (∀ calls start, countWithin (Time.seconds CODE_LOCK_SECONDS) start (wrongCodes d e calls db) ≤
      DELIVERY_CODE_MAX_ATTEMPTS) ∧
    (∀ row, db.safepayEscrows.find? e = some row → row.deliveryCodeLockedUntil ≠ none →
      ∀ calls start, countWithin (Time.seconds CODE_LOCK_SECONDS) start
        (wrongCodes d e calls db) ≤ 1) ∧
    (∀ call user code key req row,
      call.request = .releaseSafepayCode user e code key req →
      db.safepayEscrows.find? e = some row → codeLocked row (call.oracle.clock 0) = true →
      serve d call db = db ∨
        ∃ r, r.triple = releaseCodeTriple e user key ∧ serve d call db = db.answered r) ∧
    ∀ call t, wrongCode? d e call db = some t → ∃ user code key req r attempts lockedUntil,
      call.request = .releaseSafepayCode user e code key req ∧
      r.triple = releaseCodeTriple e user key ∧
      serve d call db = (db.codeCounted e attempts lockedUntil t).answered r := by
  intro db
  refine ⟨?_, ?_, ?_, ?_⟩
  · intro calls start
    cases hg : db.codeGuard e with
    | none =>
      rw [wrongCodes_of_closed calls hg]
      exact Nat.zero_le _
    | some g => exact (wrongCodes_failures calls hg).countWithin_le (by decide) start
  · intro row hrow hlocked calls start
    have hguard := Database.codeGuard_of_some hrow
    by_cases ha : acceptsCode row.status = true
    · rw [if_pos ha] at hguard
      have hcounted := serveAll_counted d before (migrated now) e (by
        intro g hg
        cases hg
        exact Guard.counted_fresh _) _ hguard hlocked
      exact (wrongCodes_failures calls hguard).countWithin_le_one (Nat.le_succ_of_le hcounted) start
    · rw [if_neg ha] at hguard
      rw [wrongCodes_of_closed calls hguard]
      exact Nat.zero_le _
  · intro call user code key req row hreq hrow hlocked
    rcases commit_cases (handle (d.ctx call.oracle) call.request) db with ⟨a, s, hok, he⟩ | he
    · rw [serve, he]
      rw [hreq, handle] at hok
      obtain ⟨b, s₁, h₁, hok⟩ := bind_ok.1 hok
      obtain ⟨-, rfl⟩ := pure_ok.1 hok
      rcases SafePayService.releaseWithCode_cases h₁ with hdb | ⟨-, row', hrow', -, -, hcase⟩
      · exact .inl hdb
      · obtain rfl := Option.some.inj (hrow.symm.trans hrow')
        rcases hcase with ⟨-, r, hr, hdb⟩ | ⟨hopen, -⟩
        · exact .inr ⟨r, hr, hdb⟩
        · exact absurd (hlocked.symm.trans hopen) (by decide)
    · exact .inl he
  · intro call t hw
    obtain ⟨user, code, key, req, row, r, hreq, -, hr, hserve⟩ := serve_of_wrongCode hw
    exact ⟨user, code, key, req, r, _, _, hreq, hr, hserve⟩

namespace Sample

/-- Two users register, and the first orders from the second. -/
def orderCalls : List Call :=
  [register 1 "01711111111", register 2 "01722222222",
    call 3 (.createSafepay (id 1 1) "1234" "01722222222" (.fromMinor 5000) none "key" none)]

/-- Seven wrong codes, one second after the other; the third is sent twice. -/
def codeGuesses : List Call :=
  [(4, "a"), (5, "b"), (6, "c"), (7, "c"), (8, "d"), (9, "e"), (10, "f"), (11, "g")].map fun g =>
    call g.1 (.releaseSafepayCode (id 2 1) (id 3 2) "999999" g.2 none)

end Sample

/-- Of these codes five are compared, as many as the bound allows. -/
theorem five_wrong_codes_compared :
    let db := serveAll Sample.deployment Sample.orderCalls (migrated 0)
    wrongCodes Sample.deployment (Sample.id 3 2) Sample.codeGuesses db =
        [4, 5, 6, 8, 9].map (fun n => Sample.start + Time.seconds n) ∧
      countWithin (Time.seconds CODE_LOCK_SECONDS) (Sample.start + Time.seconds 4)
        (wrongCodes Sample.deployment (Sample.id 3 2) Sample.codeGuesses db) ≤ 5 :=
  ⟨by decide +kernel, (delivery_code_lockout Sample.deployment 0 Sample.orderCalls (Sample.id 3 2)).1
    Sample.codeGuesses _⟩

end MoneyMovement

/-
  MoneyMovement/RequestExpiry.lean
  ================================
  **Accepting a money request too late.**

  `accept` finds the request overdue, marks it EXPIRED and raises.  The exception
  leaves the PIN wrapper, which only keeps refused PINs, and then the unit of
  work, which rolls the mark back.  So the late acceptance is refused and moves no
  money, but the request stays PENDING until the sweep.
-/
import MoneyMovement.PinLockout
import MoneyMovement.Retries

namespace MoneyMovement

open Txn

/-- The call is refused, moves no money, and leaves the request marked as expired. -/
def ExpiryRecorded (d : Deployment) (call : Call) (db : Database) (id : Ulid) : Prop :=
  Raises (d.ctx call.oracle) call.request db ∧
    ((serve d call db).accounts = db.accounts ∧ (serve d call db).transfers = db.transfers ∧
      (serve d call db).ledgerEntries = db.ledgerEntries) ∧
    ∃ r, (serve d call db).moneyRequests.find? id = some r ∧ r.status = .expired

section Late

variable {c : Ctx} {user : Ulid} {pin key : String} {requestId : Option String} {s : Session}
  {r : MoneyRequestRow}

/-- The payer is late: the mark is written, and the exception is raised. -/
theorem MoneyRequestService.accept_of_expired (key : String) (requestId : Option String)
    (hr : s.db.moneyRequests.find? r.id = some r)
    (hpending : r.status = .pending) (howner : s.db.Owner r.payerAccountId user)
    (hlate : r.expiresAt ≤ c.oracle.clock s.draws) :
    ∃ s', accept c r.id user key requestId s =
      .raised ⟨.stateConflict, "This request has expired.", []⟩ s' := by
  obtain ⟨a, ha, hu⟩ := howner
  have h₁ : now c s = .ok (c.oracle.clock s.draws) { s with draws := s.draws + 1 } := rfl
  have h₂ : SqlMoneyRequestRepository.lockForUpdate r.id { s with draws := s.draws + 1 } =
      .ok (some r) { s with draws := s.draws + 1 } := readDb_ok.2 ⟨hr, rfl⟩
  have h₃ : SqlAccountRepository.getById r.payerAccountId { s with draws := s.draws + 1 } =
      .ok (some a.toDomain) { s with draws := s.draws + 1 } := by
    refine readDb_ok.2 ⟨?_, rfl⟩
    show (s.db.accounts.find? r.payerAccountId).map AccountRow.toDomain = _
    rw [ha, Option.map_some]
  have hpayer : (some a.toDomain).bind Account.userId = some user := hu
  have h₄ : SqlMoneyRequestRepository.markTerminal r.id .expired (c.oracle.clock s.draws)
      { s with draws := s.draws + 1 } = .ok 1 _ :=
    updateWhere_of hr (by rw [hpending]; rfl) rfl
  rw [accept, bind_of_ok h₁, bind_of_ok h₂, bind_of_ok (orRaise_ok.2 ⟨rfl, rfl⟩), bind_of_ok h₃,
    bind_of_ok (ensure_of_pos hpayer _ _), bind_of_ok (ensure_of_pos hpending _ _), if_pos hlate,
    bind_of_ok h₄]
  exact ⟨_, rfl⟩

/-- Whatever became of the PIN check, the request is not answered. -/
theorem accept_raises_of_expired {db : Database} (hr : db.moneyRequests.find? r.id = some r)
    (hpending : r.status = .pending) (howner : db.Owner r.payerAccountId user)
    (hlate : ∀ i, r.expiresAt ≤ c.oracle.clock i) :
    Raises c (.acceptRequest user pin r.id key requestId) db := by
  intro reply s' h
  obtain ⟨answer, s₁, h₁, h⟩ := bind_ok.1 h
  obtain ⟨hreply, -⟩ := pure_ok.1 h
  cases answer with
  | error e => cases hreply
  | ok a =>
    obtain ⟨s₀, ⟨users, -, hs₀⟩, hop⟩ := runPinProtected_ok h₁
    have hr₀ : s₀.db.moneyRequests.find? r.id = some r := by
      rw [hs₀]
      exact hr
    have howner₀ : s₀.db.Owner r.payerAccountId user := by
      rw [hs₀]
      exact howner
    obtain ⟨s'', hraised⟩ := MoneyRequestService.accept_of_expired key requestId hr₀ hpending howner₀
      (hlate _)
    rw [hraised] at hop
    cases hop

end Late

/-- A late acceptance with the right PIN is refused and changes nothing: the request is
    PENDING as before, never EXPIRED. -/
theorem late_accept_leaves_pending (d : Deployment) (now : Time) (calls : List Call) (o : Oracle)
    (user : Ulid) (pin key : String) (requestId : Option String) (r : MoneyRequestRow) (row : UserRow)
    (hr : (serveAll d calls (migrated now)).moneyRequests.find? r.id = some r)
    (hpending : r.status = .pending)
    (howner : (serveAll d calls (migrated now)).Owner r.payerAccountId user)
    (hrow : (serveAll d calls (migrated now)).users.find? user = some row)
    (hright : d.crypto.argon2Verify row.pinHash pin = true)
    (hlate : ∀ i, r.expiresAt ≤ o.clock i) :
    let db := serveAll d calls (migrated now)
    let call : Call := ⟨o, .acceptRequest user pin r.id key requestId⟩
    serve d call db = db ∧ Raises (d.ctx o) call.request db ∧ ¬ExpiryRecorded d call db r.id := by
  intro db call
  have hpin : call.request.pin? = some (user, pin) := rfl
  have hraises : Raises (d.ctx call.oracle) call.request db :=
    accept_raises_of_expired hr hpending howner hlate
  have hserve : serve d call db = db := by
    cases hlocked : AuthService.pinLocked row (o.clock 0) with
    | true => exact (serve_of_locked hpin hrow hlocked).1
    | false =>
      rcases serve_of_right hpin hrow hlocked hright with ⟨-, he⟩ | ⟨hno, -⟩
      · exact he
      · exact absurd hraises hno
  refine ⟨hserve, hraises, ?_⟩
  rintro ⟨-, -, r', hr', hexpired⟩
  rw [hserve] at hr'
  obtain rfl := Option.some.inj (hr.symm.trans hr')
  rw [hpending] at hexpired
  cases hexpired

namespace Sample

/-- The payer answers a request a hundred hours after it was made. -/
def late (n : Nat) (req : Request) : Call := ⟨oracle n (start + Time.hours 100), req⟩

def lateAccept : Call := late 4 (.acceptRequest (id 1 1) "1234" (id 3 1) "key" none)

/-- The request waits, and its payer has the PIN. -/
def lateCheck (db : Database) : Bool :=
  match db.moneyRequests.find? (id 3 1), db.users.find? (id 1 1) with
  | some r, some row => decide (r.id = id 3 1) && decide (r.status = .pending) &&
      decide (r.expiresAt ≤ start + Time.hours 100) &&
      deployment.crypto.argon2Verify row.pinHash "1234" &&
      decide ((db.accounts.find? r.payerAccountId).bind AccountRow.userId = some (id 1 1))
  | _, _ => false

theorem of_lateCheck {db : Database} (h : lateCheck db = true) :
    ∃ r row, r.id = id 3 1 ∧ db.moneyRequests.find? r.id = some r ∧ r.status = .pending ∧
      db.Owner r.payerAccountId (id 1 1) ∧ db.users.find? (id 1 1) = some row ∧
      deployment.crypto.argon2Verify row.pinHash "1234" = true ∧
      r.expiresAt ≤ start + Time.hours 100 := by
  unfold lateCheck at h
  split at h
  · rename_i r row hr hrow
    simp only [Bool.and_eq_true, decide_eq_true_eq] at h
    obtain ⟨⟨⟨⟨hid, hpending⟩, hlate⟩, hright⟩, howner⟩ := h
    obtain ⟨a, ha, hu⟩ := Option.bind_eq_some_iff.1 howner
    exact ⟨r, row, hid, by rw [hid]; exact hr, hpending, ⟨a, ha, hu⟩, hrow, hright, hlate⟩
  · cases h

theorem lateCheck_asked : lateCheck (serveAll deployment askedCalls (migrated 0)) = true := by
  decide +kernel

end Sample

/-- The late payer of the sample is refused, and nothing is written. -/
theorem late_accept_of_sample :
    let db := serveAll Sample.deployment Sample.askedCalls (migrated 0)
    serve Sample.deployment Sample.lateAccept db = db := by
  intro db
  obtain ⟨r, row, hid, hr, hpending, howner, hrow, hright, hlate⟩ :=
    Sample.of_lateCheck Sample.lateCheck_asked
  have hnow : ∀ i, (Sample.oracle 4 (Sample.start + Time.hours 100)).clock i =
      Sample.start + Time.hours 100 := fun _ => Nat.mod_eq_of_lt (by decide)
  have h := (late_accept_leaves_pending Sample.deployment 0 Sample.askedCalls
    (Sample.oracle 4 (Sample.start + Time.hours 100)) (Sample.id 1 1) "1234" "key" none r row hr
    hpending howner hrow hright fun i => by rw [hnow i]; exact hlate).1
  rw [hid] at h
  exact h

/-- After it the request is still pending, and its payer can still reject it. -/
theorem late_accept_not_recorded :
    let db := serveAll Sample.deployment Sample.askedCalls (migrated 0)
    ¬ExpiryRecorded Sample.deployment Sample.lateAccept db (Sample.id 3 1) ∧
      ((serve Sample.deployment (Sample.late 5 (.rejectRequest (Sample.id 1 1) (Sample.id 3 1) none))
        (serve Sample.deployment Sample.lateAccept db)).moneyRequests.find? (Sample.id 3 1)).map
          (fun r => r.status) = some .rejected := by
  have hafter : ((serve Sample.deployment Sample.lateAccept
      (serveAll Sample.deployment Sample.askedCalls (migrated 0))).moneyRequests.find?
        (Sample.id 3 1)).map (fun r => r.status) = some .pending := by decide +kernel
  refine ⟨?_, by decide +kernel⟩
  rintro ⟨-, -, r, hr, hexpired⟩
  rw [hr, Option.map_some, hexpired] at hafter
  cases hafter

end MoneyMovement

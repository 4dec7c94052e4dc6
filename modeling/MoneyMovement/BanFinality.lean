/-
  MoneyMovement/BanFinality.lean
  ==============================
  **A ban against the auth routes**, statement by statement under READ COMMITTED.

  The resolution that bans a buyer closes the user and revokes the buyer's
  sessions with one `UPDATE`, which sees the sessions committed when it starts.
  A login has read the user's status before it inserts its session; a refresh
  has read its session and looks at no status at all.  One that overlaps the
  revocation leaves a session behind that nobody revokes.  Without such an
  overlap the ban is final.
-/
import MoneyMovement.Sessions

namespace MoneyMovement.BanFinality

open Rotation (newSession admits rotated revoked id_rotated id_rotatedTo id_revoked)

/-! ### Requests in flight -/

/-- Where a request stands, and what it has written and not committed. -/
inductive Phase where
  | idle
  /-- A login has read its user, and the checks passed. -/
  | verified (user : UserRow)
  /-- It has upgraded the password hash; the user row is locked. -/
  | rehashed (user : UserRow) (passwordHash : String) (at_ : Time)
  /-- Its session is inserted. -/
  | started (user : UserRow) (rehash : Option (String × Time)) (session : SessionRow)
  /-- A refresh has looked its session up, and the checks passed. -/
  | lookedUp (record : SessionRow)
  | created (record successor : SessionRow)
  | marked (record successor : SessionRow) (now : Time)
  /-- A logout has looked its session up. -/
  | found (record : SessionRow)
  | revoking (record : SessionRow) (now : Time)
  /-- A resolution has closed the buyer; the user row is locked. -/
  | closing (buyer : Ulid) (at_ : Time)
  /-- Its `UPDATE` of the sessions runs: the rows of its snapshot it has still to come to, and
      the ones it has revoked. -/
  | sweeping (buyer : Ulid) (at_ : Time) (todo done : List Ulid) (now : Time)

/-- The committed rows, the requests in flight, who holds which row, the buyers whose ban is
    committed, and the users who were given tokens after that. -/
structure World where
  users : Table UserRow.id
  sessions : Table SessionRow.id
  phase : Nat → Phase
  userLock : Ulid → Option Nat
  sessionLock : Ulid → Option Nat
  banned : List Ulid
  late : List Ulid

/-- One statement of one request. -/
inductive Act where
  | select (p : Nat) (phone password : String)
  | rehash (p : Nat) (passwordHash : String) (at_ : Time)
  | insert (p : Nat) (sessionId : Ulid) (tokenHash : String) (expiresAt now : Time)
      (client : ClientContext)
  | lookUp (p : Nat) (tokenHash : String) (now : Time)
  | create (p : Nat) (sessionId : Ulid) (tokenHash : String) (expiresAt now : Time)
      (client : ClientContext)
  | mark (p : Nat) (now : Time)
  | find (p : Nat) (tokenHash : String)
  | revoke (p : Nat) (now : Time)
  | close (p : Nat) (buyer : Ulid) (at_ : Time)
  | sweep (p : Nat) (now : Time)
  /-- The `UPDATE` of the sessions comes to its next row. -/
  | sweepRow (p : Nat)
  | commit (p : Nat)
  /-- An exception, a timeout, a deadlock victim. -/
  | rollback (p : Nat)

/-- The request the statement is one of. -/
def Act.request : Act → Nat
  | .select p .. | .rehash p .. | .insert p .. | .lookUp p .. | .create p .. | .mark p _ | .find p _
  | .revoke p _ | .close p .. | .sweep p _ | .sweepRow p | .commit p | .rollback p => p

namespace World

def goto (w : World) (p : Nat) (phase : Phase) : World :=
  { w with phase := Function.update w.phase p phase }

/-- The request is over: its locks are released. -/
def finish (w : World) (p : Nat) : World :=
  { w with
    phase := Function.update w.phase p .idle
    userLock := fun id => if w.userLock id = some p then none else w.userLock id
    sessionLock := fun id => if w.sessionLock id = some p then none else w.sessionLock id }

/-- The row is free, or already held by the request. -/
def available (lock : Ulid → Option Nat) (id : Ulid) (p : Nat) : Bool :=
  decide (lock id = none ∨ lock id = some p)

def lockUser (w : World) (id : Ulid) (p : Nat) : World :=
  { w with userLock := Function.update w.userLock id (some p) }

def lockSession (w : World) (id : Ulid) (p : Nat) : World :=
  { w with sessionLock := Function.update w.sessionLock id (some p) }

def byPhone (w : World) (phone : String) : Option UserRow :=
  w.users.rows.find? fun u => decide (u.phone = phone)

def byTokenHash (w : World) (tokenHash : String) : Option SessionRow :=
  w.sessions.rows.find? fun x => decide (x.refreshTokenHash = tokenHash)

/-- The sessions `revoke_all_for_user` finds. -/
def live (w : World) (user : Ulid) : List Ulid :=
  (w.sessions.rows.filter fun x => decide (x.userId = user) && x.revokedAt.isNone).map SessionRow.id

/-- The answer with tokens goes out. -/
def grant (w : World) (user : Ulid) : World :=
  { w with late := if user ∈ w.banned then w.late ++ [user] else w.late }

end World

/-- `update_password_hash` on a row. -/
def withHash (passwordHash : String) (at_ : Time) (u : UserRow) : UserRow :=
  { u with passwordHash := passwordHash, updatedAt := at_ }

/-- `set_status` on a row. -/
def closed (at_ : Time) (u : UserRow) : UserRow := { u with status := .closed, updatedAt := at_ }

theorem id_withHash (passwordHash : String) (at_ : Time) (u : UserRow) :
    (withHash passwordHash at_ u).id = u.id := rfl

theorem id_closed (at_ : Time) (u : UserRow) : (closed at_ u).id = u.id := rfl

/-- The users after a login that may have upgraded a hash. -/
def rehashedUsers (users : Table UserRow.id) (user : UserRow) :
    Option (String × Time) → Table UserRow.id
  | none => users
  | some (passwordHash, at_) =>
    users.modifyAt user.id (withHash passwordHash at_) (id_withHash passwordHash at_)

/-- The world after a statement; a statement that cannot run, or waits, changes nothing. -/
def step (y : Crypto) (w : World) : Act → World
  | .select p phone password =>
    match w.phase p, w.byPhone phone with
    | .idle, some user =>
      if y.argon2Verify user.passwordHash password && decide (user.status = .active) then
        w.goto p (.verified user)
      else w
    | _, _ => w
  | .rehash p passwordHash at_ =>
    match w.phase p with
    | .verified user =>
      if y.argon2NeedsRehash user.passwordHash && World.available w.userLock user.id p then
        (w.lockUser user.id p).goto p (.rehashed user passwordHash at_)
      else w
    | _ => w
  | .insert p sessionId tokenHash expiresAt now client =>
    match w.phase p with
    | .verified user =>
      let row := newSession sessionId user.id tokenHash expiresAt now client
      if y.argon2NeedsRehash user.passwordHash then w
      else if admits w.sessions row then w.goto p (.started user none row) else w.finish p
    | .rehashed user passwordHash at_ =>
      let row := newSession sessionId user.id tokenHash expiresAt now client
      if admits w.sessions row then w.goto p (.started user (some (passwordHash, at_)) row)
      else w.finish p
    | _ => w
  | .lookUp p tokenHash now =>
    match w.phase p, w.byTokenHash tokenHash with
    | .idle, some record =>
      -- A revoked session is answered with an exception, which takes its revocations back.
      if record.revokedAt.isNone && decide (now < record.expiresAt) then w.goto p (.lookedUp record)
      else w
    | _, _ => w
  | .create p sessionId tokenHash expiresAt now client =>
    match w.phase p with
    | .lookedUp record =>
      let row := newSession sessionId record.userId tokenHash expiresAt now client
      if admits w.sessions row then w.goto p (.created record row) else w.finish p
    | _ => w
  | .mark p now =>
    match w.phase p with
    | .created record successor =>
      if World.available w.sessionLock record.id p then
        (w.lockSession record.id p).goto p (.marked record successor now)
      else w
    | _ => w
  | .find p tokenHash =>
    match w.phase p, w.byTokenHash tokenHash with
    | .idle, some record => w.goto p (.found record)
    | _, _ => w
  | .revoke p now =>
    match w.phase p with
    | .found record =>
      if World.available w.sessionLock record.id p then
        (w.lockSession record.id p).goto p (.revoking record now)
      else w
    | _ => w
  | .close p buyer at_ =>
    match w.phase p with
    | .idle =>
      if World.available w.userLock buyer p then (w.lockUser buyer p).goto p (.closing buyer at_) else w
    | _ => w
  | .sweep p now =>
    match w.phase p with
    | .closing buyer at_ => w.goto p (.sweeping buyer at_ (w.live buyer) [] now)
    | _ => w
  | .sweepRow p =>
    match w.phase p with
    | .sweeping buyer at_ (id :: todo) done now =>
      if World.available w.sessionLock id p then
        -- The predicate is evaluated again on the row as it is committed by now.
        match w.sessions.find? id with
        | some x =>
          if x.revokedAt.isNone then
            (w.lockSession id p).goto p (.sweeping buyer at_ todo (id :: done) now)
          else w.goto p (.sweeping buyer at_ todo done now)
        | none => w.goto p (.sweeping buyer at_ todo done now)
      else w
    | _ => w
  | .commit p =>
    match w.phase p with
    | .started user rehash session =>
      if admits w.sessions session then
        { (w.finish p).grant user.id with
          users := rehashedUsers w.users user rehash
          sessions := w.sessions.push session }
      else w.finish p
    | .marked record successor now =>
      if admits w.sessions successor then
        { (w.finish p).grant record.userId with
          sessions := (w.sessions.push successor).modifyAt record.id (rotated successor.id now)
            (id_rotatedTo successor now) }
      else w.finish p
    | .revoking record now =>
      { w.finish p with sessions := w.sessions.modifyAt record.id (revoked now) (id_revoked now) }
    | .sweeping buyer at_ [] done now =>
      { w.finish p with
        users := w.users.modifyAt buyer (closed at_) (id_closed at_)
        sessions := w.sessions.update (fun x => done.contains x.id) (revoked now) (id_revoked now)
        banned := buyer :: w.banned }
    | _ => w
  | .rollback p => w.finish p

def run (y : Crypto) : List Act → World → World
  | [], w => w
  | a :: acts, w => run y acts (step y w a)

/-- Any committed users and sessions, no request in flight. -/
def initial (users : Table UserRow.id) (sessions : Table SessionRow.id) : World :=
  ⟨users, sessions, fun _ => .idle, fun _ => none, fun _ => none, [], []⟩

/-! ### What keeps a ban final -/

/-- The user whose login or refresh is in flight. -/
def Phase.user? : Phase → Option Ulid
  | .verified user | .rehashed user _ _ | .started user _ _ => some user.id
  | .lookedUp record | .created record _ | .marked record _ _ => some record.userId
  | _ => none

/-- The buyer whose sessions are being revoked, with the rows of the snapshot not found
    revoked by others. -/
def Phase.sweep? : Phase → Option (Ulid × List Ulid)
  | .sweeping buyer _ todo done _ => some (buyer, todo ++ done)
  | _ => none

/-- A new session is one of the user the request is for. -/
def Phase.Own : Phase → Prop
  | .started user _ session => session.userId = user.id
  | .created record successor | .marked record successor _ => successor.userId = record.userId
  | _ => True

/-- No login or refresh of the user is in flight. -/
def Quiet (w : World) (user : Ulid) : Prop := ∀ q, (w.phase q).user? ≠ some user

/-- No resolution is between the revocation of the user's sessions and its commit. -/
def Settled (w : World) (user : Ulid) : Prop := ∀ q ids, (w.phase q).sweep? ≠ some (user, ids)

/-- The statement does not make a login or refresh of a buyer overlap the revocation of that
    buyer's sessions. -/
def Apart (w : World) : Act → Prop
  | .select _ phone _ => ∀ user, w.byPhone phone = some user → Settled w user.id
  | .lookUp _ tokenHash _ => ∀ record, w.byTokenHash tokenHash = some record → Settled w record.userId
  | .sweep p _ => ∀ buyer at_, w.phase p = .closing buyer at_ → Quiet w buyer
  | _ => True

/-- No statement of the run does. -/
def RunApart (y : Crypto) : List Act → World → Prop
  | [], _ => True
  | a :: acts, w => Apart w a ∧ RunApart y acts (step y w a)

/-- Once a ban is committed, every session of the buyer is revoked and no tokens were given
    to the buyer since. -/
def Final (w : World) : Prop :=
  ∀ u ∈ w.banned, (∀ x ∈ w.sessions.rows, x.userId = u → x.revokedAt.isSome = true) ∧ u ∉ w.late

structure Inv (w : World) : Prop where
  sessions : ∀ u ∈ w.banned, ∀ x ∈ w.sessions.rows, x.userId = u → x.revokedAt.isSome = true
  users : ∀ u ∈ w.banned, ∀ x ∈ w.users.rows, x.id = u → x.status ≠ .active
  inFlight : ∀ u ∈ w.banned, Quiet w u
  sweeping : ∀ p u ids, (w.phase p).sweep? = some (u, ids) → Quiet w u ∧
    ∀ x ∈ w.sessions.rows, x.userId = u → x.revokedAt = none → x.id ∈ ids
  own : ∀ p, (w.phase p).Own
  late : w.late = []

section Steps

variable {y : Crypto} {w : World} {p : Nat}

theorem initial_inv (users : Table UserRow.id) (sessions : Table SessionRow.id) :
    Inv (initial users sessions) where
  sessions := nofun
  users := nofun
  inFlight := nofun
  sweeping := nofun
  own _ := trivial
  late := rfl

/-- Whoever is in flight is not banned, and nobody is revoking their sessions. -/
theorem Inv.not_banned (h : Inv w) {u : Ulid} (hp : (w.phase p).user? = some u) :
    u ∉ w.banned ∧ Settled w u :=
  ⟨fun hu => h.inFlight u hu p hp, fun q ids hq => (h.sweeping q u ids hq).1 p hp⟩

theorem phase_goto_self (phase : Phase) : (w.goto p phase).phase p = phase :=
  Function.update_self _ _ _

theorem phase_goto_of_ne {q : Nat} (h : q ≠ p) (phase : Phase) :
    (w.goto p phase).phase q = w.phase q := Function.update_of_ne h _ _

/-- A user nobody is in flight for stays so, unless the request that moves on is for them. -/
theorem Quiet.goto {u : Ulid} {phase : Phase} (h : Quiet w u) (hp : phase.user? ≠ some u) :
    Quiet (w.goto p phase) u := by
  intro q
  by_cases hq : q = p
  · rw [hq, phase_goto_self]
    exact hp
  · rw [phase_goto_of_ne hq]
    exact h q

/-- A request moves on, for a user it may be for; what it revokes covers the live sessions. -/
theorem Inv.goto (h : Inv w) {phase : Phase} (hown : phase.Own)
    (huser : ∀ u, phase.user? = some u → u ∉ w.banned ∧ Settled w u)
    (hsweep : ∀ u ids, phase.sweep? = some (u, ids) → Quiet w u ∧ phase.user? = none ∧
      ∀ x ∈ w.sessions.rows, x.userId = u → x.revokedAt = none → x.id ∈ ids) :
    Inv (w.goto p phase) := by
  refine ⟨h.sessions, h.users, ?_, ?_, ?_, h.late⟩
  · intro u hu
    refine (h.inFlight u hu).goto ?_
    intro hp
    exact (huser u hp).1 hu
  · intro q u ids hq
    by_cases hqp : q = p
    · rw [hqp, phase_goto_self] at hq
      obtain ⟨hquiet, hnone, hcover⟩ := hsweep u ids hq
      exact ⟨hquiet.goto (by rw [hnone]; nofun), hcover⟩
    · rw [phase_goto_of_ne hqp] at hq
      refine ⟨(h.sweeping q u ids hq).1.goto ?_, (h.sweeping q u ids hq).2⟩
      intro hp
      exact (huser u hp).2 q ids hq
  · intro q
    by_cases hqp : q = p
    · rw [hqp, phase_goto_self]
      exact hown
    · rw [phase_goto_of_ne hqp]
      exact h.own q

/-- A login, a refresh or a logout moves on. -/
theorem Inv.advance (h : Inv w) {phase : Phase} (hown : phase.Own) (hsweep : phase.sweep? = none)
    (huser : phase.user? = (w.phase p).user? ∨ phase.user? = none) : Inv (w.goto p phase) := by
  refine h.goto hown ?_ ?_
  · intro u hu
    rcases huser with he | he
    · exact h.not_banned (he ▸ hu)
    · rw [he] at hu
      cases hu
  · intro u ids hs
    rw [hsweep] at hs
    cases hs

/-- The locks are not looked at. -/
theorem Inv.with_locks (h : Inv w) (userLock sessionLock : Ulid → Option Nat) :
    Inv { w with userLock := userLock, sessionLock := sessionLock } :=
  ⟨h.sessions, h.users, h.inFlight, h.sweeping, h.own, h.late⟩

theorem Inv.finish (h : Inv w) (p : Nat) : Inv (w.finish p) := by
  have hidle : Inv (w.goto p .idle) := h.advance trivial rfl (.inr rfl)
  exact hidle.with_locks _ _

/-- Committed rows: a live session was live before, or is one of a user whose requests may
    still commit; an active user was active before. -/
theorem Inv.with_rows (h : Inv w) {users : Table UserRow.id} {sessions : Table SessionRow.id}
    (hsessions : ∀ x' ∈ sessions.rows, x'.revokedAt = none →
      (∃ x ∈ w.sessions.rows, x.id = x'.id ∧ x.userId = x'.userId ∧ x.revokedAt = none) ∨
        x'.userId ∉ w.banned ∧ Settled w x'.userId)
    (husers : ∀ x' ∈ users.rows, x'.status = .active →
      ∃ x ∈ w.users.rows, x.id = x'.id ∧ x.status = .active) :
    Inv { w with users := users, sessions := sessions } := by
  refine ⟨?_, ?_, h.inFlight, ?_, h.own, h.late⟩
  · intro u hu x' hx' hxu
    by_contra hlive
    rw [Bool.not_eq_true, Option.isSome_eq_false_iff, Option.isNone_iff_eq_none] at hlive
    rcases hsessions x' hx' hlive with ⟨x, hx, -, hxu', hnone⟩ | ⟨hne, -⟩
    · have hrevoked := h.sessions u hu x hx (hxu'.trans hxu)
      rw [hnone] at hrevoked
      cases hrevoked
    · exact hne (hxu ▸ hu)
  · intro u hu x' hx' hxu hactive
    obtain ⟨x, hx, hid, hactive'⟩ := husers x' hx' hactive
    exact h.users u hu x hx (hid.trans hxu) hactive'
  · intro q u ids hq
    refine ⟨(h.sweeping q u ids hq).1, ?_⟩
    intro x' hx' hxu hlive
    rcases hsessions x' hx' hlive with ⟨x, hx, hid, hxu', hnone⟩ | ⟨-, hsettled⟩
    · rw [← hid]
      exact (h.sweeping q u ids hq).2 x hx (hxu'.trans hxu) hnone
    · exact absurd hq (hxu ▸ hsettled q ids)

theorem Inv.grant (h : Inv w) {u : Ulid} (hu : u ∉ w.banned) : Inv (w.grant u) := by
  refine ⟨h.sessions, h.users, h.inFlight, h.sweeping, h.own, ?_⟩
  show (if _ then _ else _) = _
  rw [if_neg hu]
  exact h.late

/-- A new session of the user in flight. -/
theorem mem_push_session {sessions : Table SessionRow.id} {row x : SessionRow}
    (hadmits : admits sessions row = true) (hx : x ∈ (sessions.push row).rows) :
    x ∈ sessions.rows ∨ x = row := by
  have hfresh := (Bool.and_eq_true_iff.1 hadmits).1
  exact (Table.mem_push (Option.isNone_iff_eq_none.1 hfresh)).1 hx

theorem active_of_rehashed {users : Table UserRow.id} {user x : UserRow}
    {rehash : Option (String × Time)} (hx : x ∈ (rehashedUsers users user rehash).rows)
    (hactive : x.status = .active) : ∃ x₀ ∈ users.rows, x₀.id = x.id ∧ x₀.status = .active := by
  match rehash, hx with
  | none, hx => exact ⟨x, hx, rfl, hactive⟩
  | some (passwordHash, at_), hx =>
    obtain ⟨x₀, hx₀, rfl⟩ := Table.mem_modifyAt.1 hx
    refine ⟨x₀, hx₀, ?_⟩
    split at hactive <;> rename_i hid
    · rw [if_pos hid]
      exact ⟨rfl, hactive⟩
    · rw [if_neg hid]
      exact ⟨rfl, hactive⟩

/-- The commit of a login. -/
theorem Inv.commit_login (h : Inv w) {user : UserRow} {rehash : Option (String × Time)}
    {session : SessionRow} (hp : w.phase p = .started user rehash session) (hadmits : admits w.sessions session = true) :
    Inv { (w.finish p).grant user.id with
      users := rehashedUsers w.users user rehash, sessions := w.sessions.push session } := by
  obtain ⟨hbanned, hsettled⟩ := h.not_banned (p := p) (u := user.id) (by rw [hp]; rfl)
  have hsession : session.userId = user.id := by
    have hown := h.own p
    rw [hp] at hown
    exact hown
  have hrows : Inv { w with
      users := rehashedUsers w.users user rehash, sessions := w.sessions.push session } := by
    refine h.with_rows ?_ fun x hx hactive => active_of_rehashed hx hactive
    intro x hx hlive
    rcases mem_push_session hadmits hx with hx | rfl
    · exact .inl ⟨x, hx, rfl, rfl, hlive⟩
    · rw [hsession]
      exact .inr ⟨hbanned, hsettled⟩
  exact (hrows.finish p).grant hbanned

/-- The commit of a refresh. -/
theorem Inv.commit_refresh (h : Inv w) {record successor : SessionRow} {now : Time}
    (hp : w.phase p = .marked record successor now) (hadmits : admits w.sessions successor = true) :
    Inv { (w.finish p).grant record.userId with
      sessions := (w.sessions.push successor).modifyAt record.id (rotated successor.id now)
        (id_rotated successor.id now) } := by
  obtain ⟨hbanned, hsettled⟩ := h.not_banned (p := p) (u := record.userId) (by rw [hp]; rfl)
  have hsuccessor : successor.userId = record.userId := by
    have hown := h.own p
    rw [hp] at hown
    exact hown
  have hrows : Inv { w with
      sessions := (w.sessions.push successor).modifyAt record.id (rotated successor.id now)
        (id_rotated successor.id now) } := by
    refine h.with_rows ?_ fun x hx hactive => ⟨x, hx, rfl, hactive⟩
    intro x' hx' hlive
    obtain ⟨x, hx, rfl⟩ := Table.mem_modifyAt.1 hx'
    split at hlive
    · cases hlive
    · rename_i hid
      rw [if_neg hid]
      rcases mem_push_session hadmits hx with hx | rfl
      · exact .inl ⟨x, hx, rfl, rfl, hlive⟩
      · rw [hsuccessor]
        exact .inr ⟨hbanned, hsettled⟩
  exact (hrows.finish p).grant hbanned

theorem isSome_revoked (now : Time) (x : SessionRow) : (revoked now x).revokedAt.isSome = true := by
  unfold revoked
  split
  · rfl
  · rename_i hsome
    rwa [Bool.not_eq_true, Option.isNone_eq_false_iff] at hsome

/-- A row of the sessions after some were revoked: if it is live, it is not one of them. -/
theorem live_of_update {sessions : Table SessionRow.id} {q : SessionRow → Bool} {now : Time}
    {x' : SessionRow} (hx' : x' ∈ (sessions.update q (revoked now) (id_revoked now)).rows)
    (hlive : x'.revokedAt = none) : x' ∈ sessions.rows ∧ q x' = false := by
  obtain ⟨x, hx, rfl⟩ := Table.mem_update.1 hx'
  split at hlive <;> rename_i hq
  · have hrevoked := isSome_revoked now x
    rw [hlive] at hrevoked
    cases hrevoked
  · rw [if_neg hq]
    exact ⟨hx, Bool.eq_false_iff.2 hq⟩

theorem Inv.commit_logout (h : Inv w) (record : SessionRow) (now : Time) :
    Inv { w.finish p with
      sessions := w.sessions.modifyAt record.id (revoked now) (id_revoked now) } := by
  have hrows : Inv { w with
      sessions := w.sessions.modifyAt record.id (revoked now) (id_revoked now) } := by
    refine h.with_rows ?_ fun x hx hactive => ⟨x, hx, rfl, hactive⟩
    intro x hx hlive
    exact .inl ⟨x, (live_of_update hx hlive).1, rfl, rfl, hlive⟩
  exact hrows.finish p

/-- The commit of a ban: what was live is revoked. -/
theorem Inv.commit_ban (h : Inv w) {buyer : Ulid} {at_ now : Time} {done : List Ulid}
    (hp : w.phase p = .sweeping buyer at_ [] done now) :
    Inv { w.finish p with
      users := w.users.modifyAt buyer (closed at_) (id_closed at_)
      sessions := w.sessions.update (fun x => done.contains x.id) (revoked now) (id_revoked now)
      banned := buyer :: w.banned } := by
  obtain ⟨hquiet, hcover⟩ := h.sweeping p buyer done (by rw [hp]; rfl)
  have hactive : ∀ x' ∈ (w.users.modifyAt buyer (closed at_) (id_closed at_)).rows,
      x'.status = .active → x' ∈ w.users.rows ∧ x'.id ≠ buyer := by
    intro x' hx' hactive
    obtain ⟨x, hx, rfl⟩ := Table.mem_modifyAt.1 hx'
    split at hactive <;> rename_i hid
    · cases hactive
    · rw [if_neg hid]
      exact ⟨hx, hid⟩
  have hrows : Inv { w with
      users := w.users.modifyAt buyer (closed at_) (id_closed at_)
      sessions := w.sessions.update (fun x => done.contains x.id) (revoked now) (id_revoked now) } := by
    refine h.with_rows ?_ fun x hx hx' => ⟨x, (hactive x hx hx').1, rfl, hx'⟩
    intro x hx hlive
    exact .inl ⟨x, (live_of_update hx hlive).1, rfl, rfl, hlive⟩
  have hfinish := hrows.finish p
  refine ⟨?_, ?_, ?_, hfinish.sweeping, hfinish.own, hfinish.late⟩
  · intro u hu x hx hxu
    rcases List.mem_cons.1 hu with rfl | hu
    · by_contra hlive
      rw [Bool.not_eq_true, Option.isSome_eq_false_iff, Option.isNone_iff_eq_none] at hlive
      obtain ⟨hx, hnot⟩ := live_of_update hx hlive
      rw [List.contains_eq_mem, decide_eq_false_iff_not] at hnot
      exact hnot (hcover x hx hxu hlive)
    · exact hfinish.sessions u hu x hx hxu
  · intro u hu x hx hxu hx'
    rcases List.mem_cons.1 hu with rfl | hu
    · exact (hactive x hx hx').2 hxu
    · exact hfinish.users u hu x hx hxu hx'
  · intro u hu
    rcases List.mem_cons.1 hu with rfl | hu
    · exact hquiet.goto nofun
    · exact hfinish.inFlight u hu

/-- A login reads its user: a banned one is not active any more. -/
theorem Inv.select (h : Inv w) {phone : String} {user : UserRow} (hu : w.byPhone phone = some user)
    (hactive : user.status = .active) (hsettled : Settled w user.id) :
    Inv (w.goto p (.verified user)) := by
  refine h.goto trivial ?_ nofun
  intro u hu'
  obtain rfl : user.id = u := Option.some.inj hu'
  refine ⟨?_, hsettled⟩
  intro hbanned
  exact h.users user.id hbanned user (List.mem_of_find?_eq_some hu) rfl hactive

/-- A refresh reads its session: a banned user has no live one any more. -/
theorem Inv.lookUp (h : Inv w) {tokenHash : String} {record : SessionRow}
    (hr : w.byTokenHash tokenHash = some record) (hlive : record.revokedAt.isNone = true)
    (hsettled : Settled w record.userId) : Inv (w.goto p (.lookedUp record)) := by
  refine h.goto trivial ?_ nofun
  intro u hu
  obtain rfl : record.userId = u := Option.some.inj hu
  refine ⟨?_, hsettled⟩
  intro hbanned
  have hrevoked := h.sessions record.userId hbanned record (List.mem_of_find?_eq_some hr) rfl
  rw [Option.isNone_iff_eq_none] at hlive
  rw [hlive] at hrevoked
  cases hrevoked

theorem Inv.sweep (h : Inv w) {buyer : Ulid} {at_ now : Time} (hquiet : Quiet w buyer) :
    Inv (w.goto p (.sweeping buyer at_ (w.live buyer) [] now)) := by
  refine h.goto trivial nofun ?_
  intro u ids hs
  obtain ⟨rfl, rfl⟩ := Prod.mk.inj (Option.some.inj hs)
  refine ⟨hquiet, rfl, ?_⟩
  intro x hx hxu hlive
  rw [List.append_nil]
  refine List.mem_map_of_mem (List.mem_filter.2 ⟨hx, ?_⟩)
  rw [hlive, decide_eq_true hxu]
  rfl

/-- The row the `UPDATE` has come to is revoked by it, or was so already. -/
theorem Inv.sweepRow (h : Inv w) {buyer id : Ulid} {at_ now : Time} {todo done done' : List Ulid}
    (hp : w.phase p = .sweeping buyer at_ (id :: todo) done now)
    (hdone : done' = id :: done ∨ done' = done ∧
      ∀ x, w.sessions.find? id = some x → x.revokedAt.isNone = false) :
    Inv (w.goto p (.sweeping buyer at_ todo done' now)) := by
  obtain ⟨hquiet, hcover⟩ := h.sweeping p buyer (id :: todo ++ done) (by rw [hp]; rfl)
  refine h.goto trivial nofun ?_
  intro u ids hs
  obtain ⟨rfl, rfl⟩ := Prod.mk.inj (Option.some.inj hs)
  refine ⟨hquiet, rfl, ?_⟩
  intro x hx hxu hlive
  have hmem := hcover x hx hxu hlive
  rcases hdone with rfl | ⟨rfl, hrevoked⟩
  · simp only [List.cons_append, List.mem_cons, List.mem_append] at hmem ⊢
    tauto
  · simp only [List.cons_append, List.mem_cons] at hmem
    rcases hmem with hid | hmem
    · have hnot := hrevoked x (hid ▸ Table.find?_of_mem hx)
      rw [hlive] at hnot
      cases hnot
    · exact hmem

theorem Inv.commit (h : Inv w) (p : Nat) : Inv (step y w (.commit p)) := by
  simp only [step]
  split
  · rename_i hp
    split
    · rename_i hadmits
      exact h.commit_login hp hadmits
    · exact h.finish p
  · rename_i hp
    split
    · rename_i hadmits
      exact h.commit_refresh hp hadmits
    · exact h.finish p
  · exact h.commit_logout _ _
  · rename_i hp
    exact h.commit_ban hp
  · exact h

theorem Inv.step (h : Inv w) {a : Act} (ha : Apart w a) : Inv (step y w a) := by
  cases a with
  | select p phone password =>
    simp only [BanFinality.step]
    split
    · rename_i user _ hu
      split
      · rename_i hcheck
        exact h.select hu (of_decide_eq_true (Bool.and_eq_true_iff.1 hcheck).2) (ha user hu)
      · exact h
    · exact h
  | rehash p passwordHash at_ =>
    simp only [BanFinality.step]
    split
    · rename_i hp
      split
      · exact (h.with_locks _ _).advance trivial rfl (.inl (congrArg Phase.user? hp).symm)
      · exact h
    · exact h
  | insert p sessionId tokenHash expiresAt now client =>
    simp only [BanFinality.step]
    split
    · rename_i hp
      split
      · exact h
      · split
        · exact h.advance rfl rfl (.inl (congrArg Phase.user? hp).symm)
        · exact h.finish p
    · rename_i hp
      split
      · exact h.advance rfl rfl (.inl (congrArg Phase.user? hp).symm)
      · exact h.finish p
    · exact h
  | lookUp p tokenHash now =>
    simp only [BanFinality.step]
    split
    · rename_i record _ hr
      split
      · rename_i hcheck
        exact h.lookUp hr (Bool.and_eq_true_iff.1 hcheck).1 (ha record hr)
      · exact h
    · exact h
  | create p sessionId tokenHash expiresAt now client =>
    simp only [BanFinality.step]
    split
    · rename_i hp
      split
      · exact h.advance rfl rfl (.inl (congrArg Phase.user? hp).symm)
      · exact h.finish p
    · exact h
  | mark p now =>
    simp only [BanFinality.step]
    split
    · rename_i hp
      split
      · have hown := h.own p
        rw [hp] at hown
        exact (h.with_locks _ _).advance hown rfl (.inl (congrArg Phase.user? hp).symm)
      · exact h
    · exact h
  | find p tokenHash =>
    simp only [BanFinality.step]
    split
    · exact h.advance trivial rfl (.inr rfl)
    · exact h
  | revoke p now =>
    simp only [BanFinality.step]
    split
    · split
      · exact (h.with_locks _ _).advance trivial rfl (.inr rfl)
      · exact h
    · exact h
  | close p buyer at_ =>
    simp only [BanFinality.step]
    split
    · split
      · exact (h.with_locks _ _).advance trivial rfl (.inr rfl)
      · exact h
    · exact h
  | sweep p now =>
    simp only [BanFinality.step]
    split
    · rename_i hp
      exact h.sweep (ha _ _ hp)
    · exact h
  | sweepRow p =>
    simp only [BanFinality.step]
    split
    · rename_i hp
      split
      · split
        · rename_i hx
          split
          · exact (h.with_locks _ _).sweepRow hp (.inl rfl)
          · rename_i hrevoked
            refine h.sweepRow hp (.inr ⟨rfl, ?_⟩)
            intro x' hx'
            cases hx.symm.trans hx'
            exact Bool.eq_false_iff.2 hrevoked
        · rename_i hnone
          refine h.sweepRow hp (.inr ⟨rfl, ?_⟩)
          intro x' hx'
          cases hnone.symm.trans hx'
      · exact h
    · exact h
  | commit p => exact h.commit p
  | rollback p => exact h.finish p

/-- A statement moves its own request only. -/
theorem phase_step_of_ne {a : Act} {q : Nat} (hq : q ≠ a.request) :
    (step y w a).phase q = w.phase q := by
  have hgoto : ∀ (w : World) (phase : Phase), (w.goto a.request phase).phase q = w.phase q :=
    fun _ phase => phase_goto_of_ne hq phase
  cases a <;> simp only [BanFinality.step, Act.request] at hgoto ⊢ <;> (repeat' split) <;>
    first | rfl | exact hgoto _ _

theorem Inv.run (h : Inv w) {acts : List Act} (ha : RunApart y acts w) : Inv (run y acts w) := by
  induction acts generalizing w with
  | nil => exact h
  | cons a acts ih => exact ih (h.step ha.1) ha.2

end Steps

/-- In every interleaving in which no login or refresh of a buyer overlaps the revocation of
    that buyer's sessions, a committed ban is final. -/
theorem ban_is_final (y : Crypto) (users : Table UserRow.id) (sessions : Table SessionRow.id)
    (acts : List Act) (hapart : RunApart y acts (initial users sessions)) :
    Final (run y acts (initial users sessions)) := by
  have hinv := (initial_inv users sessions).run hapart
  intro u hu
  refine ⟨hinv.sessions u hu, ?_⟩
  rw [hinv.late]
  nofun

namespace Sample

open MoneyMovement.Sample (crypto id client)

def y : Crypto := crypto fun text => "sha256:" ++ text

def buyer : UserRow where
  id := id 1 1
  phone := "01711111111"
  displayName := "Name"
  passwordHash := "$argon2id$password"
  pinHash := "$argon2id$1234"
  pinFailedAttempts := 0
  pinLockedUntil := none
  status := .active
  createdAt := 0
  updatedAt := 0

def users : Table UserRow.id := .push .empty buyer

def sessions : Table SessionRow.id := .push .empty (newSession (id 1 2) (id 1 1) "h1" 900 0 client)

def ban (p : Nat) : List Act := [.close p (id 1 1) 1, .sweep p 1, .sweepRow p, .commit p]

/-- The ban, then a login and a refresh of the buyer. -/
def afterwards : List Act :=
  ban 0 ++ [.select 0 "01711111111" "password", .lookUp 0 "h1" 1]

/-- The buyer's login has read the user when the ban runs, and inserts its session later. -/
def overlapping : List Act :=
  [.select 1 "01711111111" "password"] ++ ban 0 ++
    [.insert 1 (id 1 3) "h2" 900 1 client, .commit 1]

/-- Only request `0` has started. -/
theorem alone_apart {w : World} (hidle : ∀ q, q ≠ 0 → w.phase q = .idle) {a : Act}
    (huser : (w.phase 0).user? = none) (hsweep : (w.phase 0).sweep? = none) : Apart w a := by
  have hquiet : ∀ u, Quiet w u := by
    intro u q
    by_cases hq : q = 0
    · rw [hq, huser]
      nofun
    · rw [hidle q hq]
      nofun
  have hsettled : ∀ u, Settled w u := by
    intro u q ids
    by_cases hq : q = 0
    · rw [hq, hsweep]
      nofun
    · rw [hidle q hq]
      nofun
  cases a
  case select => exact fun user _ => hsettled user.id
  case lookUp => exact fun record _ => hsettled record.userId
  case sweep => exact fun buyer _ _ => hquiet buyer
  all_goals trivial

theorem phase_step_zero {w : World} {a : Act} (hidle : ∀ q, q ≠ 0 → w.phase q = .idle)
    (ha : a.request = 0) : ∀ q, q ≠ 0 → (step y w a).phase q = .idle := by
  intro q hq
  rw [phase_step_of_ne (ha ▸ hq), hidle q hq]

theorem afterwards_apart : RunApart y afterwards (initial users sessions) := by
  have h₀ : ∀ q, q ≠ 0 → (initial users sessions).phase q = .idle := fun _ _ => rfl
  have h₁ := phase_step_zero (a := .close 0 (id 1 1) 1) h₀ rfl
  have h₂ := phase_step_zero (a := .sweep 0 1) h₁ rfl
  have h₃ := phase_step_zero (a := .sweepRow 0) h₂ rfl
  have h₄ := phase_step_zero (a := .commit 0) h₃ rfl
  have h₅ := phase_step_zero (a := .select 0 "01711111111" "password") h₄ rfl
  exact ⟨trivial, alone_apart h₁ rfl rfl, trivial, trivial, alone_apart h₄ rfl rfl,
    alone_apart h₅ rfl rfl, trivial⟩

end Sample

theorem ban_is_final_afterwards :
    (run Sample.y Sample.afterwards (initial Sample.users Sample.sessions)).banned =
        [MoneyMovement.Sample.id 1 1] ∧
      Final (run Sample.y Sample.afterwards (initial Sample.users Sample.sessions)) :=
  ⟨by decide +kernel, ban_is_final Sample.y Sample.users Sample.sessions Sample.afterwards
    Sample.afterwards_apart⟩

/-- A login that overlaps the ban gets its tokens, and its session stays live. -/
theorem ban_misses_overlapping_login :
    (run Sample.y Sample.overlapping (initial Sample.users Sample.sessions)).banned =
        [MoneyMovement.Sample.id 1 1] ∧
      (run Sample.y Sample.overlapping (initial Sample.users Sample.sessions)).late =
        [MoneyMovement.Sample.id 1 1] ∧
      ¬Final (run Sample.y Sample.overlapping (initial Sample.users Sample.sessions)) := by
  have hbanned : (run Sample.y Sample.overlapping (initial Sample.users Sample.sessions)).banned =
      [MoneyMovement.Sample.id 1 1] := by decide +kernel
  have hlate : (run Sample.y Sample.overlapping (initial Sample.users Sample.sessions)).late =
      [MoneyMovement.Sample.id 1 1] := by decide +kernel
  refine ⟨hbanned, hlate, ?_⟩
  intro hfinal
  refine (hfinal (MoneyMovement.Sample.id 1 1) ?_).2 ?_
  · rw [hbanned]
    exact List.mem_singleton.2 rfl
  · rw [hlate]
    exact List.mem_singleton.2 rfl

end MoneyMovement.BanFinality

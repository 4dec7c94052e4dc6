/-
  MoneyMovement/Sessions.lean
  ===========================
  **Refresh-token sessions**: what a reused token does to its user's sessions,
  and what concurrent refreshes of one token do to each other.

  Within a transaction a reused token does revoke every session of its user, but
  the exception that follows rolls the revocation back with the rest.

  The second part leaves the whole-transaction view.  A refresh is a plain
  `SELECT`, an `INSERT` and an `UPDATE` with no predicate on `revoked_at`; under
  READ COMMITTED other transactions commit between them, and the row lock of the
  `UPDATE` only makes the second writer wait.  `Rotation.step` interleaves
  these statements.
-/
import MoneyMovement.Invariants

namespace MoneyMovement

open Txn

/-! ### Sessions through a run -/

theorem Step.sessionsKept {c : Ctx} {L : Licence} {k k' : Config} (hs : Step c L k k') :
    SessionsKept k.db.sessions k'.db.sessions := by
  cases hs
  case quiet hs => exact hs
  all_goals exact .refl _

theorem Steps.sessionsKept {c : Ctx} {L : Licence} {k k' : Config} (hs : Steps c L k k') :
    SessionsKept k.db.sessions k'.db.sessions := by
  induction hs with
  | refl => exact .refl _
  | tail _ hs ih => exact ih.trans hs.sessionsKept

theorem serve_sessionsKept (d : Deployment) (call : Call) (db : Database) :
    SessionsKept db.sessions (serve d call db).sessions := by
  rcases serve_cases d call db with he | hs
  · rw [he]
    exact .refl _
  · exact hs.sessionsKept

theorem serveAll_sessionsKept (d : Deployment) (calls : List Call) (db : Database) :
    SessionsKept db.sessions (serveAll d calls db).sessions := by
  induction calls generalizing db with
  | nil => exact .refl _
  | cons call calls ih => exact (serve_sessionsKept d call db).trans (ih _)

/-! ### A reused token -/

/-- A revoked session is not refreshed: the attempt raises. -/
theorem AuthService.refresh_of_revoked {c : Ctx} {token : String} {client : ClientContext}
    {s : Session} {x : SessionRow}
    (hx : SqlSessionRepository.byTokenHash s.db (hashRefreshToken c token) = some x)
    (hr : x.revokedAt.isSome = true) : ∃ e s', refresh c token client s = .raised e s' := by
  have h₁ : now c s = .ok (c.oracle.clock s.draws) { s with draws := s.draws + 1 } := rfl
  have h₂ : SqlSessionRepository.getByTokenHash (hashRefreshToken c token)
      { s with draws := s.draws + 1 } = .ok (some x) { s with draws := s.draws + 1 } :=
    readDb_ok.2 ⟨hx, rfl⟩
  rw [refresh, bind_of_ok h₁, bind_of_ok h₂]
  dsimp only
  rw [if_pos hr]
  exact ⟨_, _, rfl⟩

/-- No session of the user is live, and no token issued to the user up to `db` is good for a
    refresh in any continuation of `db'`. -/
def FamilyRevoked (d : Deployment) (db db' : Database) (user : Ulid) : Prop :=
  (∀ y ∈ db'.sessions.rows, y.userId = user → y.revokedAt.isSome = true) ∧
    ∀ (later : List Call) (o : Oracle) (token : String) (client : ClientContext) (y : SessionRow),
      SqlSessionRepository.byTokenHash db (d.crypto.sha256 token) = some y → y.userId = user →
      ∃ e s, AuthService.refresh (d.ctx o) token client (begin (serveAll d later db')) = .raised e s

/-- A reused token revokes its family exactly when there was nothing left to revoke. -/
theorem reuse_revokes_iff (d : Deployment) (now : Time) (calls : List Call) (o : Oracle)
    (token : String) (client : ClientContext) :
    let db := serveAll d calls (migrated now)
    let db' := serve d ⟨o, .refresh token client⟩ db
    ∀ x, SqlSessionRepository.byTokenHash db (d.crypto.sha256 token) = some x →
      x.revokedAt.isSome = true →
      (FamilyRevoked d db db' x.userId ↔
        ∀ y ∈ db.sessions.rows, y.userId = x.userId → y.revokedAt.isSome = true) := by
  intro db db' x hx hr
  have hsame : db' = db := by
    obtain ⟨e, s, hraised⟩ : ∃ e s, AuthService.refresh (d.ctx o) token client (begin db) =
        .raised e s := AuthService.refresh_of_revoked hx hr
    refine commit_of_raised (e := e) (s := s) ?_
    rw [handle, bind_of_raised hraised]
  rw [hsame]
  refine ⟨fun h => h.1, fun h => ⟨h, ?_⟩⟩
  intro later o' token' client' y hy hu
  obtain ⟨y', hy', hlater⟩ := (serveAll_sessionsKept d later db).byTokenHash hy
  have hmem : y ∈ db.sessions.rows := List.mem_of_find?_eq_some hy
  exact AuthService.refresh_of_revoked (c := d.ctx o') hy' (hlater.revoked (h y hmem hu))

namespace Sample

/-- A user registers and refreshes; the first token is then stale. -/
def rotatedOnce : List Call :=
  [register 1 "01711111111", call 2 (.refresh "token-1-14" client)]

end Sample

/-- The stale token is presented again: the second session stays live. -/
theorem reuse_leaves_session :
    let d := Sample.deployment
    let db := serveAll d Sample.rotatedOnce (migrated 0)
    let db' := serve d (Sample.call 3 (.refresh "token-1-14" Sample.client)) db
    (SqlSessionRepository.byTokenHash db (d.crypto.sha256 "token-1-14")).map
        (fun x => (x.userId, x.revokedAt.isSome)) = some (Sample.id 1 1, true) ∧
      ¬FamilyRevoked d db db' (Sample.id 1 1) := by
  have hlive : ¬∀ y ∈ (serve Sample.deployment
      (Sample.call 3 (.refresh "token-1-14" Sample.client))
      (serveAll Sample.deployment Sample.rotatedOnce (migrated 0))).sessions.rows,
      y.userId = Sample.id 1 1 → y.revokedAt.isSome = true := by
    decide +kernel
  refine ⟨by decide +kernel, fun h => hlive h.1⟩

/-! ### Concurrent refreshes, statement by statement -/

namespace Rotation

/-- Where a request of the auth routes stands. -/
inductive Phase where
  | idle
  /-- A refresh has looked its session up and the checks passed. -/
  | lookedUp (record : SessionRow)
  /-- Its successor is inserted, not committed. -/
  | created (record successor : SessionRow)
  /-- Its session is updated, not committed; the row is locked. -/
  | marked (record successor : SessionRow) (now : Time)
  /-- A logout has updated its session, not committed; the row is locked. -/
  | revoked (record : SessionRow) (now : Time)

/-- The committed sessions, the requests in flight, who holds which row, and the rotations
    that were committed, as predecessor and successor. -/
structure World where
  sessions : Table SessionRow.id
  phase : Nat → Phase
  locked : Ulid → Option Nat
  rotations : List (Ulid × Ulid)

/-- One statement of one request. -/
inductive Act where
  /-- A registration or a login, whose one statement on sessions is its `INSERT`. -/
  | login (sessionId user : Ulid) (tokenHash : String) (expiresAt now : Time) (client : ClientContext)
  | lookUp (p : Nat) (tokenHash : String) (now : Time)
  | create (p : Nat) (sessionId : Ulid) (tokenHash : String) (expiresAt now : Time)
      (client : ClientContext)
  | mark (p : Nat) (now : Time)
  /-- A logout's lookup and `UPDATE`, which has a predicate on `revoked_at`. -/
  | revoke (p : Nat) (tokenHash : String) (now : Time)
  | commit (p : Nat)
  /-- An exception, a timeout, a deadlock victim. -/
  | rollback (p : Nat)

/-- The row an `INSERT` writes. -/
def newSession (sessionId user : Ulid) (tokenHash : String) (expiresAt now : Time)
    (client : ClientContext) : SessionRow where
  id := sessionId
  userId := user
  refreshTokenHash := tokenHash
  rotatedToId := none
  issuedAt := now
  expiresAt := expiresAt
  revokedAt := none
  userAgent := SqlSessionRepository.truncated client.userAgent
  ipAddress := client.ipAddress

/-- The primary key and the unique token hash. -/
def admits (sessions : Table SessionRow.id) (row : SessionRow) : Bool :=
  (sessions.find? row.id).isNone &&
    sessions.rows.all fun x => decide (x.refreshTokenHash ≠ row.refreshTokenHash)

/-- `mark_rotated` on a row. -/
def rotated (successorId : Ulid) (now : Time) (x : SessionRow) : SessionRow :=
  { x with rotatedToId := some successorId, revokedAt := some now }

/-- `revoke` on a row. -/
def revoked (now : Time) (x : SessionRow) : SessionRow :=
  if x.revokedAt.isNone then { x with revokedAt := some now } else x

theorem id_rotated (successorId : Ulid) (now : Time) (x : SessionRow) :
    (rotated successorId now x).id = x.id := rfl

theorem id_rotatedTo (successor : SessionRow) (now : Time) (x : SessionRow) :
    (rotated successor.id now x).id = x.id := rfl

theorem id_revoked (now : Time) (x : SessionRow) : (revoked now x).id = x.id := by
  unfold revoked
  split <;> rfl

namespace World

def byTokenHash (w : World) (tokenHash : String) : Option SessionRow :=
  w.sessions.rows.find? fun x => decide (x.refreshTokenHash = tokenHash)

def setPhase (w : World) (p : Nat) (phase : Phase) : World :=
  { w with phase := Function.update w.phase p phase }

/-- The request is over: its locks are released. -/
def finish (w : World) (p : Nat) : World :=
  { w with
    phase := Function.update w.phase p .idle
    locked := fun id => if w.locked id = some p then none else w.locked id }

theorem phase_setPhase_self (w : World) (p : Nat) (phase : Phase) :
    (w.setPhase p phase).phase p = phase := Function.update_self _ _ _

theorem phase_setPhase_of_ne (w : World) {p q : Nat} (h : q ≠ p) (phase : Phase) :
    (w.setPhase p phase).phase q = w.phase q := Function.update_of_ne h _ _

theorem phase_finish_self (w : World) (p : Nat) : (w.finish p).phase p = .idle :=
  Function.update_self _ _ _

theorem phase_finish_of_ne (w : World) {p q : Nat} (h : q ≠ p) : (w.finish p).phase q = w.phase q :=
  Function.update_of_ne h _ _

/-- The row is free, or already held by the request. -/
def available (w : World) (id : Ulid) (p : Nat) : Bool :=
  decide (w.locked id = none ∨ w.locked id = some p)

def lock (w : World) (id : Ulid) (p : Nat) : World :=
  { w with locked := Function.update w.locked id (some p) }

end World

/-- The world after a statement; a statement that cannot run, or waits, changes nothing. -/
def step (w : World) : Act → World
  | .login sessionId user tokenHash expiresAt now client =>
    let row := newSession sessionId user tokenHash expiresAt now client
    if admits w.sessions row then { w with sessions := w.sessions.push row } else w
  | .lookUp p tokenHash now =>
    match w.phase p, w.byTokenHash tokenHash with
    | .idle, some record =>
      if record.revokedAt.isNone && decide (now < record.expiresAt) then w.setPhase p (.lookedUp record)
      else w
    | _, _ => w
  | .create p sessionId tokenHash expiresAt now client =>
    match w.phase p with
    | .lookedUp record =>
      let row := newSession sessionId record.userId tokenHash expiresAt now client
      if admits w.sessions row then w.setPhase p (.created record row) else w.finish p
    | _ => w
  | .mark p now =>
    match w.phase p with
    | .created record successor =>
      if w.available record.id p then (w.lock record.id p).setPhase p (.marked record successor now)
      else w
    | _ => w
  | .revoke p tokenHash now =>
    match w.phase p, w.byTokenHash tokenHash with
    | .idle, some record =>
      if w.available record.id p then (w.lock record.id p).setPhase p (.revoked record now) else w
    | _, _ => w
  | .commit p =>
    match w.phase p with
    | .marked record successor now =>
      if admits w.sessions successor then
        { w.finish p with
          sessions := (w.sessions.push successor).modifyAt record.id (rotated successor.id now)
            (id_rotatedTo successor now)
          rotations := w.rotations ++ [(record.id, successor.id)] }
      else w.finish p
    | .revoked record now =>
      { w.finish p with
        sessions := w.sessions.modifyAt record.id (revoked now) (id_revoked now) }
    | _ => w
  | .rollback p => w.finish p

/-- The world after a list of statements. -/
def run : List Act → World → World
  | [], w => w
  | a :: acts, w => run acts (step w a)

/-- Nobody has a session yet. -/
def initial : World := ⟨.empty, fun _ => .idle, fun _ => none, []⟩

/-! ### Linear rotation -/

/-- One session was rotated into another. -/
def Rotates (w : World) (x y : Ulid) : Prop := (x, y) ∈ w.rotations

/-- Each session has at most one successor, and what is reached by rotation from one session
    is a chain with at most one live member. -/
structure Linear (w : World) : Prop where
  one_successor : (w.rotations.map Prod.fst).Nodup
  chain : ∀ r x y, Relation.ReflTransGen (Rotates w) r x → Relation.ReflTransGen (Rotates w) r y →
    Relation.ReflTransGen (Rotates w) x y ∨ Relation.ReflTransGen (Rotates w) y x
  one_live : ∀ r x y, Relation.ReflTransGen (Rotates w) r x.id →
    Relation.ReflTransGen (Rotates w) r y.id → w.sessions.find? x.id = some x →
    w.sessions.find? y.id = some y → x.revokedAt = none → y.revokedAt = none → x = y

/-- When the `UPDATE` of a refresh runs, no other refresh of its session was committed since
    its lookup. -/
def undisturbed (w : World) : Act → Bool
  | .mark p _ =>
    match w.phase p with
    | .created record _ => ((w.sessions.find? record.id).bind SessionRow.rotatedToId).isNone
    | _ => true
  | _ => true

/-- Every statement of the list runs undisturbed. -/
def allUndisturbed : List Act → World → Bool
  | [], _ => true
  | a :: acts, w => undisturbed w a && allUndisturbed acts (step w a)

/-- The session a refresh is about. -/
def Phase.record? : Phase → Option SessionRow
  | .idle | .revoked .. => none
  | .lookedUp record | .created record _ | .marked record _ _ => some record

/-- What undisturbed statements keep. -/
structure Inv (w : World) : Prop where
  fst_nodup : (w.rotations.map Prod.fst).Nodup
  spent : ∀ r ∈ w.rotations, ∃ x, w.sessions.find? r.1 = some x ∧ x.revokedAt.isSome = true ∧
    x.rotatedToId.isSome = true
  known : ∀ p record, (w.phase p).record? = some record →
    (w.sessions.find? record.id).isSome = true
  held : ∀ p record successor now, w.phase p = .marked record successor now →
    w.locked record.id = some p ∧ record.id ∉ w.rotations.map Prod.fst

namespace Inv

variable {w : World}

theorem initial_inv : Inv initial where
  fst_nodup := List.nodup_nil
  spent _ h := by cases h
  known _ _ h := by cases h
  held _ _ _ _ h := by cases h

/-- Another committed table, with no rotation more. -/
theorem with_sessions (h : Inv w) {sessions : Table SessionRow.id}
    (hkept : ∀ k x, w.sessions.find? k = some x → ∃ x', sessions.find? k = some x' ∧
      (x.revokedAt.isSome = true → x'.revokedAt.isSome = true) ∧
      (x.rotatedToId.isSome = true → x'.rotatedToId.isSome = true)) :
    Inv { w with sessions := sessions } := by
  refine ⟨h.fst_nodup, ?_, ?_, h.held⟩
  · intro r hr
    obtain ⟨x, hx, hrev, hrot⟩ := h.spent r hr
    obtain ⟨x', hx', hrev', hrot'⟩ := hkept _ _ hx
    exact ⟨x', hx', hrev' hrev, hrot' hrot⟩
  · intro p record hrecord
    obtain ⟨x, hx⟩ := Option.isSome_iff_exists.1 (h.known p record hrecord)
    obtain ⟨x', hx', -⟩ := hkept _ _ hx
    show (sessions.find? record.id).isSome = true
    rw [hx']
    rfl

/-- A request moves on without holding the row of its session. -/
theorem setPhase (h : Inv w) {p : Nat} {phase : Phase}
    (hknown : ∀ record, phase.record? = some record → (w.sessions.find? record.id).isSome = true)
    (hmarked : ∀ record successor now, phase ≠ .marked record successor now) :
    Inv (w.setPhase p phase) := by
  refine ⟨h.fst_nodup, h.spent, ?_, ?_⟩
  · intro q record hq
    by_cases hqp : q = p
    · subst hqp
      rw [World.phase_setPhase_self] at hq
      exact hknown record hq
    · rw [World.phase_setPhase_of_ne _ hqp] at hq
      exact h.known q record hq
  · intro q record successor now hq
    by_cases hqp : q = p
    · subst hqp
      rw [World.phase_setPhase_self] at hq
      exact absurd hq (hmarked record successor now)
    · rw [World.phase_setPhase_of_ne _ hqp] at hq
      exact h.held q record successor now hq

/-- The rows of the other requests stay locked when one ends. -/
theorem finish (h : Inv w) (p : Nat) : Inv (w.finish p) := by
  refine ⟨h.fst_nodup, h.spent, ?_, ?_⟩
  · intro q record hq
    by_cases hqp : q = p
    · subst hqp
      rw [World.phase_finish_self] at hq
      cases hq
    · rw [World.phase_finish_of_ne _ hqp] at hq
      exact h.known q record hq
  · intro q record successor now hq
    by_cases hqp : q = p
    · subst hqp
      rw [World.phase_finish_self] at hq
      cases hq
    · rw [World.phase_finish_of_ne _ hqp] at hq
      obtain ⟨hlocked, hnew⟩ := h.held q record successor now hq
      refine ⟨?_, hnew⟩
      show (if w.locked record.id = some p then none else w.locked record.id) = some q
      rw [if_neg (by rw [hlocked]; simpa using hqp), hlocked]

/-- A row is taken that nobody else holds. -/
theorem lock (h : Inv w) {id : Ulid} {p : Nat} (ha : w.available id p = true)
    (hp : ∀ record successor now, w.phase p ≠ .marked record successor now) : Inv (w.lock id p) := by
  refine ⟨h.fst_nodup, h.spent, h.known, ?_⟩
  intro q record successor now hq
  obtain ⟨hlocked, hnew⟩ := h.held q record successor now hq
  refine ⟨?_, hnew⟩
  show Function.update w.locked id (some p) record.id = some q
  by_cases hid : record.id = id
  · subst hid
    rcases of_decide_eq_true ha with hfree | hown
    · rw [hfree] at hlocked
      cases hlocked
    · obtain rfl : p = q := Option.some.inj (hown.symm.trans hlocked)
      exact absurd hq (hp record successor now)
  · rw [Function.update_of_ne hid]
    exact hlocked

/-- The `UPDATE` of a refresh, undisturbed. -/
theorem mark (h : Inv w) {p : Nat} {record successor : SessionRow} {now : Time}
    (hphase : w.phase p = .created record successor) (ha : w.available record.id p = true)
    (hu : ((w.sessions.find? record.id).bind SessionRow.rotatedToId).isNone = true) :
    Inv ((w.lock record.id p).setPhase p (.marked record successor now)) := by
  have hl := h.lock ha (by rw [hphase]; intro _ _ _ he; cases he)
  refine ⟨h.fst_nodup, h.spent, ?_, ?_⟩
  · intro q x hq
    by_cases hqp : q = p
    · subst hqp
      rw [World.phase_setPhase_self] at hq
      refine h.known q x ?_
      rw [hphase]
      exact hq
    · rw [World.phase_setPhase_of_ne _ hqp] at hq
      exact h.known q x hq
  · intro q x y t hq
    by_cases hqp : q = p
    · subst hqp
      rw [World.phase_setPhase_self] at hq
      cases hq
      refine ⟨Function.update_self _ _ _, ?_⟩
      -- a rotated session has a successor in its committed row
      intro hmem
      obtain ⟨r, hr, hr₁⟩ := List.mem_map.1 hmem
      obtain ⟨z, hz, -, hrot⟩ := h.spent r hr
      rw [hr₁] at hz
      rw [hz, Option.bind_some, Option.isNone_iff_eq_none] at hu
      rw [hu] at hrot
      cases hrot
    · rw [World.phase_setPhase_of_ne _ hqp] at hq
      exact hl.held q x y t hq

/-- The commit of a refresh. -/
theorem rotate (h : Inv w) {p : Nat} {record successor : SessionRow} {now : Time}
    (hphase : w.phase p = .marked record successor now) :
    Inv { w.finish p with
      sessions := (w.sessions.push successor).modifyAt record.id (rotated successor.id now)
        (id_rotated successor.id now)
      rotations := w.rotations ++ [(record.id, successor.id)] } := by
  obtain ⟨hlocked, hnew⟩ := h.held p record successor now hphase
  have hfinished := h.finish p
  have hrecord : (w.sessions.find? record.id).isSome = true := h.known p record (by rw [hphase]; rfl)
  refine ⟨?_, ?_, ?_, ?_⟩
  · rw [List.map_append, List.nodup_append]
    refine ⟨h.fst_nodup, List.nodup_singleton _, ?_⟩
    rintro a ha b hb rfl
    obtain rfl := List.mem_singleton.1 hb
    exact hnew ha
  · intro r hr
    dsimp only
    rw [Table.find?_modifyAt]
    rcases List.mem_append.1 hr with hr | hr
    · obtain ⟨x, hx, hrev, hrot⟩ := h.spent r hr
      split
      · rename_i hk
        rw [← hk, Table.find?_push_of_some hx]
        exact ⟨rotated successor.id now x, rfl, rfl, rfl⟩
      · rw [Table.find?_push_of_some hx]
        exact ⟨x, rfl, hrev, hrot⟩
    · obtain rfl := List.mem_singleton.1 hr
      obtain ⟨x, hx⟩ := Option.isSome_iff_exists.1 hrecord
      rw [if_pos rfl, Table.find?_push_of_some hx]
      exact ⟨rotated successor.id now x, rfl, rfl, rfl⟩
  · intro q x hq
    exact (Table.extends_push _ _).trans (Table.extends_modifyAt _ _ _ (id_rotated successor.id now)) _
      (hfinished.known q x hq)
  · intro q x y t hq
    obtain ⟨hlocked', hnew'⟩ := hfinished.held q x y t hq
    refine ⟨hlocked', ?_⟩
    rw [List.map_append, List.mem_append, not_or]
    refine ⟨hnew', ?_⟩
    -- the row of another request is another row
    intro hmem
    have hsame : x.id = record.id := List.mem_singleton.1 hmem
    have hfree : (w.finish p).locked record.id = none := if_pos hlocked
    rw [hsame, hfree] at hlocked'
    cases hlocked'

theorem step (h : Inv w) {a : Act} (hu : undisturbed w a = true) : Inv (Rotation.step w a) := by
  cases a with
  | login sessionId user tokenHash expiresAt now client =>
    simp only [Rotation.step]
    split
    · exact h.with_sessions fun k x hx => ⟨x, Table.find?_push_of_some hx, fun h => h, fun h => h⟩
    · exact h
  | lookUp p tokenHash now =>
    simp only [Rotation.step]
    split
    · rename_i record _ hfound
      split
      · refine h.setPhase ?_ (fun _ _ _ he => by cases he)
        intro x hx
        cases hx
        rw [Table.find?_of_mem (List.mem_of_find?_eq_some hfound)]
        rfl
      · exact h
    · exact h
  | create p sessionId tokenHash expiresAt now client =>
    simp only [Rotation.step]
    split
    · rename_i record hphase
      split
      · refine h.setPhase ?_ (fun _ _ _ he => by cases he)
        intro x hx
        cases hx
        exact h.known p record (by rw [hphase]; rfl)
      · exact h.finish p
    · exact h
  | mark p now =>
    simp only [Rotation.step]
    split
    · rename_i record successor hphase
      split
      · rename_i ha
        simp only [undisturbed, hphase] at hu
        exact h.mark hphase ha hu
      · exact h
    · exact h
  | revoke p tokenHash now =>
    simp only [Rotation.step]
    split
    · rename_i record hphase hfound
      split
      · rename_i ha
        refine (h.lock ha ?_).setPhase (fun x hx => by cases hx) (fun _ _ _ he => by cases he)
        rw [hphase]
        intro _ _ _ he
        cases he
      · exact h
    · exact h
  | commit p =>
    simp only [Rotation.step]
    split
    · rename_i record successor now hphase
      split
      · exact h.rotate hphase
      · exact h.finish p
    · rename_i record now hphase
      refine (h.finish p).with_sessions ?_
      intro k x hx
      have hx' : w.sessions.find? k = some x := hx
      rw [Table.find?_modifyAt]
      split
      · rename_i hk
        rw [← hk, hx']
        refine ⟨revoked now x, rfl, ?_, ?_⟩ <;> unfold revoked <;> split <;> simp_all
      · exact ⟨x, hx', fun h => h, fun h => h⟩
    · exact h
  | rollback p => exact h.finish p

theorem run {acts : List Act} (h : Inv w) (hu : allUndisturbed acts w = true) :
    Inv (Rotation.run acts w) := by
  induction acts generalizing w with
  | nil => exact h
  | cons a acts ih =>
    rw [allUndisturbed, Bool.and_eq_true] at hu
    exact ih (h.step hu.1) hu.2

/-- A rotated session is spent, so that only the end of a chain can be live. -/
theorem linear (h : Inv w) : Linear w := by
  have hunique : Relator.RightUnique (Rotates w) := by
    intro x y z hy hz
    have := List.inj_on_of_nodup_map h.fst_nodup hy hz rfl
    exact congrArg Prod.snd this
  have hchain : ∀ r x y, Relation.ReflTransGen (Rotates w) r x →
      Relation.ReflTransGen (Rotates w) r y →
      Relation.ReflTransGen (Rotates w) x y ∨ Relation.ReflTransGen (Rotates w) y x :=
    fun r x y hx hy => Relation.ReflTransGen.total_of_right_unique hunique hx hy
  have hend : ∀ x y : SessionRow, w.sessions.find? x.id = some x → x.revokedAt = none →
      Relation.ReflTransGen (Rotates w) x.id y.id → y.id = x.id := by
    intro x y hx hlive hxy
    rcases Relation.ReflTransGen.cases_head hxy with he | ⟨z, hz, -⟩
    · exact he.symm
    · obtain ⟨x', hx', hrev, -⟩ := h.spent _ hz
      obtain rfl := Option.some.inj (hx.symm.trans hx')
      rw [hlive] at hrev
      cases hrev
  refine ⟨h.fst_nodup, hchain, ?_⟩
  intro r x y hrx hry hx hy hxlive hylive
  have hid : y.id = x.id := by
    rcases hchain r x.id y.id hrx hry with hxy | hyx
    · exact hend x y hx hxlive hxy
    · exact (hend y x hy hylive hyx).symm
  rw [hid] at hy
  exact Option.some.inj (hx.symm.trans hy)

end Inv

/-- Refreshes that nothing disturbs rotate linearly. -/
theorem rotation_is_linear (acts : List Act) (h : allUndisturbed acts initial = true) :
    Linear (run acts initial) :=
  (Inv.initial_inv.run h).linear

/-- A login; two requests that present its token at once, one of which dies before its `UPDATE` and,
    sent again, finds the token spent; and a refresh with the token of the other's successor. -/
def oneAfterTheOther : List Act :=
  let client : ClientContext := ⟨none, none⟩
  [.login ⟨1, 1⟩ ⟨1, 0⟩ "hash-1" 100 0 client,
    .lookUp 1 "hash-1" 1, .lookUp 3 "hash-1" 1, .create 1 ⟨1, 2⟩ "hash-2" 101 1 client,
    .create 3 ⟨1, 4⟩ "hash-4" 101 1 client, .mark 1 1, .rollback 3, .commit 1,
    .lookUp 3 "hash-1" 2, .create 3 ⟨1, 5⟩ "hash-5" 102 2 client, .mark 3 2, .commit 3,
    .lookUp 2 "hash-2" 2, .create 2 ⟨1, 3⟩ "hash-3" 102 2 client, .mark 2 2, .commit 2]

theorem rotation_one_after_the_other :
    (run oneAfterTheOther initial).rotations = [(⟨1, 1⟩, ⟨1, 2⟩), (⟨1, 2⟩, ⟨1, 3⟩)] ∧
      Linear (run oneAfterTheOther initial) :=
  ⟨by decide +kernel, rotation_is_linear oneAfterTheOther (by decide +kernel)⟩

/-- Two requests with the same token: both look it up before either commits. -/
def bothAtOnce : List Act :=
  let client : ClientContext := ⟨none, none⟩
  [.login ⟨1, 1⟩ ⟨1, 0⟩ "hash-1" 100 0 client,
    .lookUp 1 "hash-1" 1, .lookUp 2 "hash-1" 1,
    .create 1 ⟨1, 2⟩ "hash-2" 101 1 client, .create 2 ⟨1, 3⟩ "hash-3" 101 1 client,
    .mark 1 1, .commit 1, .mark 2 1, .commit 2]

/-- Both succeed, and the session has two successors. -/
theorem rotation_forks : ¬Linear (run bothAtOnce initial) := by
  intro h
  have hforks : ¬((run bothAtOnce initial).rotations.map Prod.fst).Nodup := by decide +kernel
  exact hforks h.one_successor

/-! ### A refresh on its own -/

/-- Its statements, one after the other, when nobody holds the session's row. -/
theorem run_alone {w : World} {p : Nat} {record : SessionRow} {tokenHash : String} {now : Time}
    (hp : w.phase p = .idle) (hl : w.locked record.id = none)
    (hfound : w.byTokenHash tokenHash = some record) (hlive : record.revokedAt.isNone = true)
    (hexp : now < record.expiresAt) {sessionId : Ulid} {successorHash : String} {expiresAt : Time}
    {client : ClientContext}
    (ha : admits w.sessions
      (newSession sessionId record.userId successorHash expiresAt now client) = true) :
    (run [.lookUp p tokenHash now, .create p sessionId successorHash expiresAt now client,
        .mark p now, .commit p] w).sessions =
      (w.sessions.push (newSession sessionId record.userId successorHash expiresAt now client)).modifyAt
        record.id (rotated sessionId now) (id_rotated sessionId now) := by
  have h₁ : step w (.lookUp p tokenHash now) = w.setPhase p (.lookedUp record) := by
    simp only [step, hp, hfound]
    exact if_pos (by rw [hlive, decide_eq_true hexp]; rfl)
  have h₂ : step (w.setPhase p (.lookedUp record))
      (.create p sessionId successorHash expiresAt now client) =
      (w.setPhase p (.lookedUp record)).setPhase p (.created record
        (newSession sessionId record.userId successorHash expiresAt now client)) := by
    simp only [step, World.phase_setPhase_self]
    exact if_pos ha
  have hfree : ((w.setPhase p (.lookedUp record)).setPhase p (.created record
      (newSession sessionId record.userId successorHash expiresAt now client))).available
      record.id p = true := decide_eq_true (.inl hl)
  simp only [run]
  rw [h₁, h₂]
  simp only [step, World.phase_setPhase_self, if_pos hfree]
  split
  · rfl
  · rename_i hrefused
    exact absurd ha hrefused

/-- The service does in one transaction what its statements do one after the other. -/
theorem refresh_run {c : Ctx} {token : String} {client : ClientContext} {r : AuthTokens}
    {s s' : Session} (h : AuthService.refresh c token client s = .ok r s') (p : Nat) (w : World)
    (hw : w.sessions = s.db.sessions) (hp : w.phase p = .idle) (hl : ∀ id, w.locked id = none) :
    ∃ now sessionId successorHash expiresAt,
      (run [.lookUp p (AuthService.hashRefreshToken c token) now,
        .create p sessionId successorHash expiresAt now client,
        .mark p now, .commit p] w).sessions = s'.db.sessions := by
  obtain ⟨now, s₁, h₁, h⟩ := bind_ok.1 h
  obtain ⟨e₁, -⟩ := now_ok h₁
  obtain ⟨found, s₂, h₂, h⟩ := bind_ok.1 h
  obtain ⟨hfound, rfl⟩ := readDb_ok.1 h₂
  rw [e₁] at hfound
  cases found with
  | none => exact (raise_ok.1 h).elim
  | some record =>
    dsimp only at h
    split at h
    · obtain ⟨_, _, -, h⟩ := bind_ok.1 h
      exact (raise_ok.1 h).elim
    · rename_i hlive
      obtain ⟨_, s₃, h₃, h⟩ := bind_ok.1 h
      obtain ⟨hexp, rfl⟩ := ensure_ok.1 h₃
      obtain ⟨issued, s₄, h₄, h⟩ := bind_ok.1 h
      obtain ⟨sessionId, s₅, h₅, h₄⟩ := bind_ok.1 h₄
      obtain ⟨raw, s₆, h₆, h₄⟩ := bind_ok.1 h₄
      obtain ⟨_, s₇, h₇, h₄⟩ := bind_ok.1 h₄
      obtain ⟨rfl, rfl⟩ := pure_ok.1 h₄
      obtain ⟨_, s₈, h₈, h₇⟩ := bind_ok.1 h₇
      obtain ⟨-, rfl⟩ := ensure_ok.1 h₈
      obtain ⟨hnew, hadm, e₇⟩ := insertInto_ok h₇
      have e₆ : s₆.db = s.db := (tokenUrlsafe_ok h₆).trans ((newUlid_ok h₅).trans e₁)
      have hs : w.sessions = s₆.db.sessions := by rw [e₆, hw]
      obtain ⟨_, s₉, h₉, h⟩ := bind_ok.1 h
      obtain ⟨-, rfl⟩ := pure_ok.1 h
      obtain ⟨n, s₁₀, h₁₀, h₉⟩ := bind_ok.1 h₉
      obtain ⟨-, rfl⟩ := pure_ok.1 h₉
      refine ⟨now, sessionId, AuthService.hashRefreshToken c raw, AuthService.refreshExpiry c now, ?_⟩
      rw [run_alone hp (hl record.id) (by rw [World.byTokenHash, hw]; exact hfound)
        (by rw [Option.isNone_iff_eq_none]; simpa using hlive) hexp
        (by
          rw [admits, Bool.and_eq_true, hs, Option.isNone_iff_eq_none]
          exact ⟨hnew, (Bool.and_eq_true _ _ ▸ hadm).1⟩)]
      rcases updateWhere_ok h₁₀ with ⟨-, -, hnone⟩ | ⟨x, -, -, -, -, rfl⟩
      · -- the session is there, so that its `UPDATE` changes it
        have hrow : s.db.sessions.find? record.id = some record :=
          Table.find?_of_mem (List.mem_of_find?_eq_some hfound)
        refine absurd (hnone record ?_) (by simp)
        show s₇.db.sessions.find? record.id = some record
        rw [e₇]
        refine Table.find?_push_of_some ?_
        rw [e₆]
        exact hrow
      · show _ = s₇.db.sessions.modifyAt record.id (rotated sessionId now) (id_rotated sessionId now)
        rw [hs, e₇]
        rfl

end Rotation

end MoneyMovement

/-
  MoneyMovement/Views.lean
  ========================
  **Two runs of the system, compared through a view.**

  A `View` says how the databases of two runs may differ: in the code hashes of
  escrows, in tasks it ignores, and in idempotency records whose triples it takes
  for the same request's.  Everything else is equal.  The runs' processes may
  differ too, in the function the delivery codes come from (`Ctx.recoded`).

  A statement that neither reads nor writes the four tables a view speaks of
  keeps every view; that is one definitional equation per statement, the side
  condition of the rules `read`, `write`, `insert` and `update`.
-/
import MoneyMovement.Lockstep
import MoneyMovement.AlikeTables
import MoneyMovement.FeatureRepositories

namespace MoneyMovement

open Txn

/-- The process with another source of delivery codes. -/
def Ctx.recoded (c : Ctx) (g : String → String → Nat) : Ctx :=
  { c with crypto := { c.crypto with hmacHead := g } }

/-! ### Rows -/

def EscrowRow.withHash (r : EscrowRow) (h : String) : EscrowRow := { r with deliveryCodeHash := h }

/-- The same escrow, with a code hash that may be another. -/
def EscrowRow.Alike (hash : Ulid → String → String → Prop) (r r' : EscrowRow) : Prop :=
  ∃ h, r' = r.withHash h ∧ hash r.id r.deliveryCodeHash h

/-- The same task; of an ignored one only what it is for. -/
def TaskRow.Alike (ignored : Ulid → Prop) (r r' : TaskRow) : Prop :=
  r.id = r'.id ∧ r.taskType = r'.taskType ∧ r.resourceId = r'.resourceId ∧ (¬ignored r.id → r = r')

/-- Two records that answer a request in the same way. -/
structure IdempotencyRow.Alike (r r' : IdempotencyRow) : Prop where
  fingerprint : r.requestFingerprint = r'.requestFingerprint
  status : r.status = r'.status
  httpStatus : r.httpStatus = r'.httpStatus
  responseBody : r.responseBody = r'.responseBody
  resourceId : r.resourceId = r'.resourceId

theorem IdempotencyRow.Alike.refl (r : IdempotencyRow) : r.Alike r := ⟨rfl, rfl, rfl, rfl, rfl⟩

theorem EscrowRow.Alike.id_eq {hash : Ulid → String → String → Prop} {r r' : EscrowRow}
    (h : r.Alike hash r') : r.id = r'.id := by
  obtain ⟨_, rfl, -⟩ := h
  rfl

/-! ### Views -/

/-- How two runs may differ. -/
structure View where
  hash : Ulid → String → String → Prop
  ignored : Ulid → Prop
  triple : IdempotencyTriple → IdempotencyTriple → Prop
  records : Table IdempotencyRow.triple → Table IdempotencyRow.triple → Prop
  journal : List Execution → List Execution → Prop
  lien : ∀ k, k.endpoint = "INTERNAL:/overdraft/lien-repayment" → triple k k
  fits : ∀ {k k'}, triple k k' → (fits 100 k.endpoint = true ∧ MoneyMovement.fits 128 k.key = true ↔
    MoneyMovement.fits 100 k'.endpoint = true ∧ MoneyMovement.fits 128 k'.key = true)
  find : ∀ {t t' k k'}, records t t' → triple k k' →
    Option.Rel IdempotencyRow.Alike (t.find? k) (t'.find? k')
  push : ∀ {t t' k k'} (f : String) (now : Time), records t t' → triple k k' →
    records (t.push (SqlIdempotencyRepository.processing k f now))
      (t'.push (SqlIdempotencyRepository.processing k' f now))
  complete : ∀ {t t' k k'} (id : Ulid) (status : Nat) (body : Body) (now : Time), records t t' →
    triple k k' →
    records (t.modifyAt k (SqlIdempotencyRepository.completedRow id status body now)
        (SqlIdempotencyRepository.triple_completedRow _ _ _ _))
      (t'.modifyAt k' (SqlIdempotencyRepository.completedRow id status body now)
        (SqlIdempotencyRepository.triple_completedRow _ _ _ _))
  append : ∀ {j j' k k'} (t l e : Ulid), journal j j' → triple k k' →
    journal (j ++ [⟨k, t, l, e⟩]) (j' ++ [⟨k', t, l, e⟩])

/-- The database with other escrows, tasks, records and journal. -/
def Database.over (db : Database) (e : Table EscrowRow.id) (t : Table TaskRow.id)
    (r : Table IdempotencyRow.triple) (j : List Execution) : Database :=
  { db with safepayEscrows := e, scheduledTasks := t, idempotencyRecords := r, journal := j }

namespace View

variable (v : View)

/-- The view does not tell the databases apart. -/
structure Like (db db' : Database) : Prop where
  escrows : db.safepayEscrows.Alike (EscrowRow.Alike v.hash) db'.safepayEscrows
  tasks : db.scheduledTasks.Alike (TaskRow.Alike v.ignored) db'.scheduledTasks
  records : v.records db.idempotencyRecords db'.idempotencyRecords
  journal : v.journal db.journal db'.journal
  rest : db' = db.over db'.safepayEscrows db'.scheduledTasks db'.idempotencyRecords db'.journal

/-- Sessions alike: the same draws and locks, databases the view does not tell apart. -/
structure Sessions (s s' : Session) : Prop where
  draws : s.draws = s'.draws
  locks : s.locks = s'.locks
  db : v.Like s.db s'.db

/-- The two computations agree: the same value or exception, sessions alike. -/
abbrev Agree {α : Type} (m m' : Tx α) : Prop := Lockstep v.Sessions Eq m m'

end View

/-! ### Statements that keep every view -/

section Statements

variable {v : View} {α : Type} {c : Ctx} {g : String → String → Nat}

/-- A change that leaves the four tables alone. -/
theorem View.Like.changed {db db' : Database} (h : v.Like db db') {f : Database → Database}
    (hf : ∀ db e t r j, f (db.over e t r j) = (f db).over e t r j) : v.Like (f db) (f db') := by
  have hleft : f db =
      (f db).over db.safepayEscrows db.scheduledTasks db.idempotencyRecords db.journal := hf db _ _ _ _
  have hright : f db' =
      (f db).over db'.safepayEscrows db'.scheduledTasks db'.idempotencyRecords db'.journal :=
    (congrArg f h.rest).trans (hf db _ _ _ _)
  rw [hright, hleft]
  exact ⟨h.escrows, h.tasks, h.records, h.journal, rfl⟩

namespace View.Agree

theorem read {f : Database → α} (h : ∀ db e t r j, f (db.over e t r j) = f db) :
    v.Agree (readDb f) (readDb f) := by
  refine .query fun s s' hs => ?_
  rw [hs.db.rest, h]

theorem write {f : Database → Database}
    (h : ∀ db e t r j, f (db.over e t r j) = (f db).over e t r j) :
    v.Agree (writeDb f) (writeDb f) :=
  .modify fun _ _ hs => ⟨hs.draws, hs.locks, hs.db.changed h⟩

variable {ρ κ : Type} {key : ρ → κ} [DecidableEq κ] {get : Database → Table key}
  {set : Database → Table key → Database}

theorem insert {row : ρ} {admits : Database → Bool}
    (hget : ∀ db e t r j, get (db.over e t r j) = get db)
    (hset : ∀ db x e t r j, set (db.over e t r j) x = (set db x).over e t r j)
    (hadmits : ∀ db e t r j, admits (db.over e t r j) = admits db) :
    v.Agree (insertInto get set row admits) (insertInto get set row admits) := by
  intro s s' hs
  have hsame : get s'.db = get s.db := by rw [hs.db.rest, hget]
  have hadmits' : admits s'.db = admits s.db := by rw [hs.db.rest, hadmits]
  unfold insertInto
  rw [hsame, hadmits']
  split
  · exact .ok rfl ⟨hs.draws, hs.locks,
      hs.db.changed (f := fun db => set db ((get s.db).push row)) fun db => hset db _⟩
  · exact .raised hs

theorem update {k : κ} {p : ρ → Bool} {f : ρ → ρ} {hf : ∀ r, key (f r) = key r}
    {admits : Database → ρ → Bool} (hget : ∀ db e t r j, get (db.over e t r j) = get db)
    (hset : ∀ db x e t r j, set (db.over e t r j) x = (set db x).over e t r j)
    (hadmits : ∀ db x e t r j, admits (db.over e t r j) x = admits db x) :
    v.Agree (updateWhere get set k p f hf admits) (updateWhere get set k p f hf admits) := by
  intro s s' hs
  have hsame : get s'.db = get s.db := by rw [hs.db.rest, hget]
  have hadmits' : ∀ x, admits s'.db x = admits s.db x := by
    intro x
    rw [hs.db.rest, hadmits]
  unfold updateWhere
  rw [hsame]
  cases (get s.db).find? k with
  | none => exact .ok rfl hs
  | some r =>
    dsimp only
    rw [hadmits']
    split
    · split
      · exact .ok rfl ⟨hs.draws, hs.locks,
          hs.db.changed (f := fun db => set db ((get s.db).modifyAt k f hf)) fun db => hset db _⟩
      · exact .raised hs
    · exact .ok rfl hs

/-- An `INSERT` into a table the view compares row by row. -/
theorem insert_alike {R : ρ → ρ → Prop} {row row' : ρ} {admits admits' : Database → Bool}
    (hkey : ∀ r r', R r r' → key r = key r')
    (hget : ∀ db db', v.Like db db' → (get db).Alike R (get db'))
    (hset : ∀ db db' t t', v.Like db db' → t.Alike R t' → v.Like (set db t) (set db' t'))
    (hadmits : ∀ db db', v.Like db db' → admits db = admits' db') (hrow : R row row') :
    v.Agree (insertInto get set row admits) (insertInto get set row' admits') := by
  intro s s' hs
  have htable := hget _ _ hs.db
  have hfind := htable.find? hkey (key row)
  have hnone : ((get s'.db).find? (key row')).isNone = ((get s.db).find? (key row)).isNone := by
    rw [← hkey _ _ hrow]
    generalize (get s.db).find? (key row) = o, (get s'.db).find? (key row) = o' at hfind
    cases hfind <;> rfl
  unfold insertInto
  rw [hnone, hadmits _ _ hs.db]
  split
  · exact .ok rfl ⟨hs.draws, hs.locks, hset _ _ _ _ hs.db (htable.push hkey hrow)⟩
  · exact .raised hs

/-- An `UPDATE` of a table the view compares row by row. -/
theorem update_alike {R : ρ → ρ → Prop} {k : κ} {p : ρ → Bool} {f : ρ → ρ}
    {hf : ∀ r, key (f r) = key r} {admits : Database → ρ → Bool}
    (hkey : ∀ r r', R r r' → key r = key r')
    (hget : ∀ db db', v.Like db db' → (get db).Alike R (get db'))
    (hset : ∀ db db' t t', v.Like db db' → t.Alike R t' → v.Like (set db t) (set db' t'))
    (hp : ∀ r r', R r r' → p r = p r') (hR : ∀ r r', R r r' → R (f r) (f r'))
    (hadmits : ∀ db db' r r', v.Like db db' → R r r' → admits db r = admits db' r') :
    v.Agree (updateWhere get set k p f hf admits) (updateWhere get set k p f hf admits) := by
  intro s s' hs
  have htable := hget _ _ hs.db
  have hfind := htable.find? hkey k
  unfold updateWhere
  generalize (get s.db).find? k = o, (get s'.db).find? k = o' at hfind
  cases hfind with
  | none => exact .ok rfl hs
  | some hrow =>
    dsimp only
    rw [hp _ _ hrow, hadmits _ _ _ _ hs.db (hR _ _ hrow)]
    split
    · split
      · exact .ok rfl ⟨hs.draws, hs.locks, hset _ _ _ _ hs.db (htable.modifyAt hkey hR)⟩
      · exact .raised hs
    · exact .ok rfl hs

end View.Agree

theorem View.Like.setTasks {db db' : Database} {t t' : Table TaskRow.id} (h : v.Like db db')
    (ht : t.Alike (TaskRow.Alike v.ignored) t') :
    v.Like (SqlScheduledTaskRepository.setTable db t) (SqlScheduledTaskRepository.setTable db' t') := by
  refine ⟨h.escrows, ht, h.records, h.journal, ?_⟩
  rw [h.rest]
  rfl

theorem View.Like.setEscrows {db db' : Database} {t t' : Table EscrowRow.id} (h : v.Like db db')
    (ht : t.Alike (EscrowRow.Alike v.hash) t') :
    v.Like (SqlSafePayRepository.setTable db t) (SqlSafePayRepository.setTable db' t') := by
  refine ⟨ht, h.tasks, h.records, h.journal, ?_⟩
  rw [h.rest]
  rfl

/-! ### Draws and locks -/

theorem draw_agree (f : Nat → α) :
    v.Agree (fun s => .ok (f s.draws) { s with draws := s.draws + 1 })
      (fun s => .ok (f s.draws) { s with draws := s.draws + 1 }) := by
  intro s s' hs
  refine .ok (congrArg f hs.draws) ⟨congrArg (· + 1) hs.draws, hs.locks, hs.db⟩

theorem now_agree : v.Agree (now c) (now (c.recoded g)) := draw_agree c.oracle.clock

theorem newUlid_agree : v.Agree (newUlid c) (newUlid (c.recoded g)) := draw_agree c.oracle.ulid

theorem generateReference_agree (pfx : String) (t : Time) :
    v.Agree (generateReference c pfx t) (generateReference (c.recoded g) pfx t) :=
  draw_agree fun i => (⟨pfx, t / Time.dayUs, c.oracle.referenceSuffix i⟩ : Reference)

theorem tokenUrlsafe_agree : v.Agree (tokenUrlsafe c) (tokenUrlsafe (c.recoded g)) :=
  draw_agree c.oracle.token

theorem hashPassword_agree (secret : String) :
    v.Agree (hashPassword c secret) (hashPassword (c.recoded g) secret) :=
  draw_agree fun i => c.crypto.argon2 (c.oracle.salt i) secret

theorem SqlAccountRepository.acquire_agree (ids : List Ulid) :
    v.Agree (SqlAccountRepository.acquire ids) (SqlAccountRepository.acquire ids) := by
  refine .modify fun s s' hs => ⟨hs.draws, ?_, hs.db⟩
  have haccounts : s'.db.accounts = s.db.accounts := by rw [hs.db.rest]; rfl
  show _ ++ s.locks = _ ++ s'.locks
  rw [haccounts, hs.locks]

/-! ### Idempotency records -/

namespace SqlIdempotencyRepository

variable {k k' : IdempotencyTriple}

theorem find_agree (hk : v.triple k k') :
    Lockstep v.Sessions (Option.Rel IdempotencyRow.Alike)
      (readDb fun db => db.idempotencyRecords.find? k)
      (readDb fun db => db.idempotencyRecords.find? k') :=
  .query fun _ _ hs => v.find hs.db.records hk

theorem reserve_agree (hk : v.triple k k') (f : String) (now : Time) :
    v.Agree (reserve k f now) (reserve k' f now) := by
  refine .andThen (.ensure_iff (v.fits hk) _) fun _ => ?_
  refine .bind (find_agree hk) fun found found' hfound => ?_
  cases hfound with
  | none =>
    refine .andThen ?_ fun _ => .pure rfl
    refine .modify fun s s' hs => ⟨hs.draws, hs.locks, ?_⟩
    refine ⟨hs.db.escrows, hs.db.tasks, v.push f now hs.db.records hk, hs.db.journal, ?_⟩
    dsimp only
    rw [hs.db.rest]
    rfl
  | some hrow =>
    dsimp only
    rw [hrow.fingerprint, hrow.status, hrow.httpStatus, hrow.responseBody, hrow.resourceId]
    exact .ite _ (.pure rfl) (.ite _ (.pure rfl) (.pure rfl))

theorem complete_agree (hk : v.triple k k') (id : Ulid) (status : Nat) (body : Body) (now : Time) :
    v.Agree (complete k id status body now) (complete k' id status body now) := by
  refine .modify fun s s' hs => ⟨hs.draws, hs.locks, ?_⟩
  refine ⟨hs.db.escrows, hs.db.tasks, v.complete id status body now hs.db.records hk, hs.db.journal, ?_⟩
  dsimp only
  rw [hs.db.rest]
  rfl

end SqlIdempotencyRepository

/-! ### Tasks -/

namespace SqlScheduledTaskRepository

theorem alike_id {F : Ulid → Prop} (r r' : TaskRow) (h : r.Alike F r') : r.id = r'.id := h.1

/-- What an update of tasks leaves alone: what they are for. -/
theorem alike_of_kept {F : Ulid → Prop} {f : TaskRow → TaskRow}
    (hf : ∀ x, (f x).id = x.id ∧ (f x).taskType = x.taskType ∧ (f x).resourceId = x.resourceId)
    (r r' : TaskRow) (h : r.Alike F r') : (f r).Alike F (f r') := by
  obtain ⟨hid, htype, hres, hsame⟩ := h
  obtain ⟨h₁, h₂, h₃⟩ := hf r
  obtain ⟨h₁', h₂', h₃'⟩ := hf r'
  refine ⟨by rw [h₁, h₁', hid], by rw [h₂, h₂', htype], by rw [h₃, h₃', hres], ?_⟩
  intro hseen
  rw [h₁] at hseen
  rw [hsame hseen]

theorem update_agree {p : TaskRow → Bool} {f : TaskRow → TaskRow} {hf : ∀ r, (f r).id = r.id}
    (hkept : ∀ x, (f x).id = x.id ∧ (f x).taskType = x.taskType ∧ (f x).resourceId = x.resourceId) :
    v.Agree (writeDb fun db => setTable db (db.scheduledTasks.update p f hf))
      (writeDb fun db => setTable db (db.scheduledTasks.update p f hf)) := by
  refine .modify fun s s' hs => ⟨hs.draws, hs.locks, hs.db.setTasks (.update ?_ hs.db.tasks)⟩
  refine alike_of_kept (f := fun x => if p x then f x else x) fun x => ?_
  split
  · exact hkept x
  · exact ⟨rfl, rfl, rfl⟩

theorem complete_agree (id : Ulid) : v.Agree (complete c id) (complete (c.recoded g) id) :=
  update_agree fun _ => ⟨rfl, rfl, rfl⟩

theorem cancel_agree (type : TaskType) (resource : Ulid) :
    v.Agree (cancel c type resource) (cancel (c.recoded g) type resource) :=
  update_agree fun _ => ⟨rfl, rfl, rfl⟩

theorem recordFailure_agree (id : Ulid) (attempt : Nat) (error : String) (max : Nat) :
    v.Agree (recordFailure c id attempt error max)
      (recordFailure (c.recoded g) id attempt error max) :=
  update_agree fun _ => ⟨rfl, rfl, rfl⟩

theorem schedule_agree (type : TaskType) (resource : Ulid) (delay : Nat) :
    v.Agree (schedule c type resource delay) (schedule (c.recoded g) type resource delay) := by
  refine .andThen newUlid_agree fun id => ?_
  refine .andThen (.query fun s s' hs => ?_) fun b => .ite _ (.pure rfl) ?_
  · refine hs.db.tasks.any_eq ?_
    rintro r r' ⟨-, ht, hr, -⟩
    unfold isFor
    rw [ht, hr]
  · exact View.Agree.insert_alike alike_id (fun _ _ h => h.tasks) (fun _ _ _ _ h ht => h.setTasks ht)
      (fun _ _ _ => rfl) ⟨rfl, rfl, rfl, fun _ => rfl⟩

/-- The claim needs a view that ignores no task. -/
theorem claimDue_agree (hseen : ∀ id, ¬v.ignored id) (n : Nat) :
    v.Agree (claimDue c n) (claimDue (c.recoded g) n) := by
  refine .query fun s s' hs => ?_
  have htasks : s.db.scheduledTasks = s'.db.scheduledTasks :=
    (hs.db.tasks.mono fun r r' h => h.2.2.2 (hseen r.id)).eq
  dsimp only
  rw [htasks]
  rfl

end SqlScheduledTaskRepository

/-! ### Escrows -/

namespace SqlSafePayRepository

theorem alike_id {H : Ulid → String → String → Prop} (r r' : EscrowRow) (h : r.Alike H r') :
    r.id = r'.id := h.id_eq

theorem lock_agree (id : Ulid) :
    Lockstep v.Sessions (Option.Rel fun r r' => r.Alike v.hash r' ∧ r.id = id) (lock id) (lock id) := by
  refine .query fun s s' hs => ?_
  have hfind := hs.db.escrows.find? alike_id id
  dsimp only
  cases hrow : s.db.safepayEscrows.find? id with
  | none =>
    rw [hrow] at hfind
    cases hrow' : s'.db.safepayEscrows.find? id with
    | none => exact .none
    | some r' =>
      rw [hrow'] at hfind
      cases hfind
  | some r =>
    rw [hrow] at hfind
    cases hrow' : s'.db.safepayEscrows.find? id with
    | none =>
      rw [hrow'] at hfind
      cases hfind
    | some r' =>
      rw [hrow'] at hfind
      cases hfind with
      | some hr => exact .some ⟨hr, Table.key_of_find? hrow⟩

theorem findByTracking_agree (courier tracking : String) :
    Lockstep v.Sessions (Option.Rel (EscrowRow.Alike v.hash)) (findByTracking c courier tracking)
      (findByTracking (c.recoded g) courier tracking) := by
  refine .query fun s s' hs => ?_
  refine (List.Forall₂.insertionSort ?_ (List.rel_filter ?_ hs.db.escrows)).head?
  · rintro a _ ⟨_, rfl, -⟩ b _ ⟨_, rfl, -⟩
    exact Iff.rfl
  · rintro a _ ⟨_, rfl, -⟩
    exact Iff.rfl

/-- A new escrow, with hashes the view takes for the same. -/
theorem create_agree {row row' : EscrowRow} (h : row.Alike v.hash row') :
    v.Agree (create row) (create row') := by
  have hrow := h
  obtain ⟨hash, rfl, -⟩ := h
  refine .andThen (.ensure _ _) fun _ => ?_
  refine View.Agree.insert_alike alike_id (fun _ _ h => h.escrows)
    (fun _ _ _ _ h ht => h.setEscrows ht) (fun db db' hlike => ?_) hrow
  have hall := hlike.escrows.all_eq (p := fun e =>
      decide (e.reference ≠ row.reference ∧ e.holdTransferId ≠ row.holdTransferId))
    (q := fun e => decide (e.reference ≠ row.reference ∧ e.holdTransferId ≠ row.holdTransferId)) (by
      rintro a _ ⟨_, rfl, -⟩
      rfl)
  rw [hall, hlike.rest]
  rfl

/-- An update of an escrow that neither reads nor writes its code hash. -/
theorem update_agree {id : Ulid} {p : EscrowRow → Bool} {f : EscrowRow → EscrowRow}
    {hf : ∀ r, (f r).id = r.id} {admits : Database → EscrowRow → Bool}
    (hp : ∀ r h, p (r.withHash h) = p r) (hkept : ∀ r h, f (r.withHash h) = (f r).withHash h)
    (hadmits : ∀ db db' r h, v.Like db db' → admits db r = admits db' (r.withHash h)) :
    v.Agree (updateWhere (·.safepayEscrows) setTable id p f hf admits)
      (updateWhere (·.safepayEscrows) setTable id p f hf admits) := by
  refine View.Agree.update_alike (R := EscrowRow.Alike v.hash) alike_id (fun _ _ h => h.escrows)
    (fun _ _ _ _ h ht => h.setEscrows ht) ?_ ?_ ?_
  · rintro r _ ⟨h, rfl, -⟩
    exact (hp r h).symm
  · rintro r _ ⟨h, rfl, hhash⟩
    have hsame : f r = (f r).withHash r.deliveryCodeHash := hkept r r.deliveryCodeHash
    have hown : (f r).deliveryCodeHash = r.deliveryCodeHash := by
      rw [hsame]
      rfl
    refine ⟨h, hkept r h, ?_⟩
    rw [hf, hown]
    exact hhash
  · rintro db db' r _ hlike ⟨h, rfl, -⟩
    exact hadmits db db' r h hlike

theorem markShipped_agree (id seller : Ulid) (courier tracking : String) (now : Time) :
    v.Agree (markShipped id seller courier tracking now) (markShipped id seller courier tracking now) :=
  update_agree (fun _ _ => rfl) (fun _ _ => rfl) fun _ _ _ _ _ => rfl

theorem markDelivered_agree (id : Ulid) (t t' : Time) :
    v.Agree (markDelivered id t t') (markDelivered id t t') :=
  update_agree (fun _ _ => rfl) (fun _ _ => rfl) fun _ _ _ _ _ => rfl

theorem markDisputed_agree (id buyer : Ulid) (reason : String) (now : Time) :
    v.Agree (markDisputed id buyer reason now) (markDisputed id buyer reason now) :=
  update_agree (fun _ _ => rfl) (fun _ _ => rfl) fun _ _ _ _ _ => rfl

theorem markSettled_agree (id : Ulid) (sources : List EscrowStatus) (status : EscrowStatus)
    (settlement : Ulid) (now : Time) (note : Option String) :
    v.Agree (markSettled id sources status settlement now note)
      (markSettled id sources status settlement now note) := by
  refine update_agree (fun _ _ => rfl) (fun _ _ => rfl) fun db db' r h hlike => ?_
  have hall := hlike.escrows.all_eq (p := fun x =>
      decide (x.settlementTransferId ≠ r.settlementTransferId))
    (q := fun x => decide (x.settlementTransferId ≠ r.settlementTransferId)) (by
      rintro a _ ⟨_, rfl, -⟩
      rfl)
  rw [hall, hlike.rest]
  rfl

theorem recordCodeFailure_agree (id : Ulid) (attempts : Nat) (until_ : Option Time) (now : Time) :
    v.Agree (recordCodeFailure id attempts until_ now) (recordCodeFailure id attempts until_ now) := by
  refine .modify fun s s' hs => ⟨hs.draws, hs.locks, hs.db.setEscrows (.modifyAt alike_id ?_ hs.db.escrows)⟩
  rintro r _ ⟨h, rfl, hhash⟩
  exact ⟨h, rfl, hhash⟩

end SqlSafePayRepository

end Statements

end MoneyMovement

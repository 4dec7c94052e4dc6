/-
  MoneyMovement/QueueClocks.lean
  ==============================
  **Two clocks and two queues** — when a row of `outbox_events` or of
  `scheduled_tasks` may be claimed.

  The claims compare with the database clock.  The scheduler writes its due
  times from that clock too; the relay writes the time of the next attempt from
  the application's.  A history is a list of row-level operations, each with the
  readings of both clocks, and two histories of the same operations at the same
  database times are compared for any readings of the application clock: the
  tasks are always the same, the events where the failed publishes read the same.
-/
import MoneyMovement.OutboxRelay
import MoneyMovement.Lockstep
import MoneyMovement.AlikeTables

namespace MoneyMovement

open Txn OutboxRelay

/-! ### Histories -/

/-- An operation on one row of a queue.  `refusal` and `failure` are the error of an attempt that
    went wrong. -/
inductive QueueOp where
  | append (eventType : EventType) (aggregateId : Ulid) (payload : Payload) (traceId : Option String)
  | publish (eventId : Ulid) (refusal : Option String)
  | schedule (taskType : TaskType) (resourceId : Ulid) (delaySeconds : Nat)
  | cancel (taskType : TaskType) (resourceId : Ulid)
  | perform (taskId : Ulid) (failure : Option String)

/-- The `WHERE` clause of `CLAIM_SQL`. -/
def TaskRow.claimable (now : Time) (t : TaskRow) : Bool :=
  decide (t.status = .pending ∧ t.dueAt ≤ now)

namespace QueueOp

/-- The relay's attempt at a row it claimed: the body of the loop of `process_batch`. -/
def publishRow (cfg : OutboxRelay.Config) (c : Ctx) (row : OutboxEventRow) : Option String → Tx Unit
  | none => writeDb fun db => { db with
      outboxEvents := write row.id (updateFor cfg c.oracle.dbNow row .confirmed) db.outboxEvents }
  | some error => do
    let clock ← now c
    let clock' ← now c
    writeDb fun db => { db with
      outboxEvents := write row.id
        (updateFor cfg c.oracle.dbNow row (.refused false error clock clock')) db.outboxEvents }

/-- The scheduler's attempt at a row it claimed: how `run_due_tasks` records its end. -/
def performRow (c : Ctx) (row : TaskRow) : Option String → Tx Unit
  | none => SqlScheduledTaskRepository.complete c row.id
  | some error => SqlScheduledTaskRepository.recordFailure c row.id (row.attemptCount + 1) error
      Scheduler.MAX_ATTEMPTS

/-- One operation.  An attempt is made at a row that can be claimed, or not at all. -/
def run (cfg : OutboxRelay.Config) (c : Ctx) : QueueOp → Tx Unit
  | append eventType aggregateId payload traceId => do
    let occurredAt ← now c
    let _ ← SqlOutboxPublisher.append c eventType aggregateId occurredAt payload traceId
    pure ()
  | publish eventId refusal => do
    let row ← readDb fun db => (db.outboxEvents.find? eventId).filter (claimable c.oracle.dbNow)
    match row with
    | none => pure ()
    | some row => publishRow cfg c row refusal
  | schedule taskType resourceId delaySeconds =>
    SqlScheduledTaskRepository.schedule c taskType resourceId delaySeconds
  | cancel taskType resourceId => SqlScheduledTaskRepository.cancel c taskType resourceId
  | perform taskId failure => do
    let row ← readDb fun db => (db.scheduledTasks.find? taskId).filter (TaskRow.claimable c.oracle.dbNow)
    match row with
    | none => pure ()
    | some row => performRow c row failure

end QueueOp

/-- An operation and the readings of the clocks at its time. -/
structure QueueStep where
  op : QueueOp
  oracle : Oracle

/-- The same operation at the same database time, under another application clock. -/
def QueueStep.Skewed (q q' : QueueStep) : Prop :=
  q'.op = q.op ∧ ∃ clock h, q'.oracle = { q.oracle with clock := clock, clock_lt := h }

section Histories

variable (cfg : OutboxRelay.Config) (d : Deployment)

def QueueStep.apply (q : QueueStep) (db : Database) : Database :=
  commit (q.op.run cfg (d.ctx q.oracle)) db

def replay : List QueueStep → Database → Database
  | [], db => db
  | q :: qs, db => replay qs (q.apply cfg d db)

/-- The publish of this step fails and the event will be tried again. -/
def WillRetry (db : Database) (q : QueueStep) : Prop :=
  ∃ id error row, q.op = .publish id (some error) ∧ db.outboxEvents.find? id = some row ∧
    claimable q.oracle.dbNow row = true ∧ row.attemptCount + 1 < cfg.maxAttempts

/-- Whenever a publish fails and will be tried again, the application clock reads the same in both
    histories. -/
def RetryReadingsAgree : Database → List QueueStep → List QueueStep → Prop
  | db, q :: qs, q' :: qs' =>
    (WillRetry cfg db q → q.oracle.clock 0 = q'.oracle.clock 0) ∧
      RetryReadingsAgree (q.apply cfg d db) qs qs'
  | _, _, _ => True

end Histories

/-- The rows of the two queues that can be claimed at the database time `t`. -/
def claimableEvents (t : Time) (db : Database) : Set Ulid :=
  { id | ∃ e ∈ db.outboxEvents.rows, e.id = id ∧ claimable t e = true }

def claimableTasks (t : Time) (db : Database) : Set Ulid :=
  { id | ∃ r ∈ db.scheduledTasks.rows, r.id = id ∧ r.claimable t = true }

/-! ### Two histories side by side -/

/-- Two versions of an event that are claimable at the same times: a dead one never is. -/
structure OutboxEventRow.Alike (e e' : OutboxEventRow) : Prop where
  id : e.id = e'.id
  attemptCount : e.attemptCount = e'.attemptCount
  published : e.publishedAt = e'.publishedAt
  dead : e.deadLetteredAt.isNone = e'.deadLetteredAt.isNone
  next : e.deadLetteredAt = none → e.nextAttemptAt = e'.nextAttemptAt

theorem OutboxEventRow.Alike.claimable_eq {e e' : OutboxEventRow} (h : e.Alike e') (t : Time) :
    claimable t e = claimable t e' := by
  unfold claimable
  rw [h.published, h.dead]
  cases hdead : e.deadLetteredAt with
  | none => rw [h.next hdead]
  | some _ =>
    have : e'.deadLetteredAt.isNone = false := by rw [← h.dead, hdead]; rfl
    rw [this]
    simp

/-- The queues of two databases: the same tasks, and events related by `E`. -/
structure SameQueues (E : Table OutboxEventRow.id → Table OutboxEventRow.id → Prop)
    (db db' : Database) : Prop where
  events : E db.outboxEvents db'.outboxEvents
  tasks : db.scheduledTasks = db'.scheduledTasks

/-- Events that claims cannot tell apart. -/
abbrev AlikeEvents : Table OutboxEventRow.id → Table OutboxEventRow.id → Prop :=
  Table.Alike OutboxEventRow.Alike

/-- Whatever the events are. -/
abbrev AnyEvents : Table OutboxEventRow.id → Table OutboxEventRow.id → Prop := fun _ _ => True

theorem OutboxEventRow.Alike.refl (e : OutboxEventRow) : e.Alike e := ⟨rfl, rfl, rfl, rfl, fun _ => rfl⟩

theorem SameQueues.refl (db : Database) : SameQueues AlikeEvents db db :=
  ⟨.refl OutboxEventRow.Alike.refl _, rfl⟩

theorem SameQueues.claimableEvents_eq {db db' : Database} (h : SameQueues AlikeEvents db db')
    (t : Time) : claimableEvents t db = claimableEvents t db' := by
  ext id
  have hany := h.events.any_eq (p := fun e => decide (e.id = id) && claimable t e)
    (q := fun e => decide (e.id = id) && claimable t e)
    fun e e' hee => by rw [hee.id, hee.claimable_eq]
  have hiff := Bool.eq_iff_iff.1 hany
  simp only [List.any_eq_true, Bool.and_eq_true, decide_eq_true_eq] at hiff
  exact hiff

/-- Sessions over such databases that have drawn equally often. -/
def SameSessions (E : Table OutboxEventRow.id → Table OutboxEventRow.id → Prop)
    (s s' : Session) : Prop :=
  SameQueues E s.db s'.db ∧ s.draws = s'.draws

section Lockstep

variable {cfg : OutboxRelay.Config} {c c' : Ctx}
  {E : Table OutboxEventRow.id → Table OutboxEventRow.id → Prop}

/-- The outside worlds of two skewed steps: everything but the application clock. -/
structure SameWorld (c c' : Ctx) : Prop where
  dbNow : c.oracle.dbNow = c'.oracle.dbNow
  ulid : c.oracle.ulid = c'.oracle.ulid

theorem now_skewed : Lockstep (SameSessions E) (fun _ _ => True) (now c) (now c') := by
  rintro s s' ⟨hq, hdraws⟩
  exact .ok trivial ⟨hq, congrArg (· + 1) hdraws⟩

theorem newUlid_same (h : SameWorld c c') : Lockstep (SameSessions E) Eq (newUlid c) (newUlid c') := by
  rintro s s' ⟨hq, hdraws⟩
  exact .ok (by rw [h.ulid, hdraws]) ⟨hq, congrArg (· + 1) hdraws⟩

theorem writeDb_same {f f' : Database → Database}
    (hf : ∀ db db', SameQueues E db db' → SameQueues E (f db) (f' db')) :
    Lockstep (SameSessions E) Eq (writeDb f) (writeDb f') :=
  .modify fun s s' hs => ⟨hf s.db s'.db hs.1, hs.2⟩

theorem insertInto_same {ρ κ : Type} {key : ρ → κ} [DecidableEq κ] {get : Database → Table key}
    {set : Database → Table key → Database} {row row' : ρ}
    (hfree : ∀ db db', SameQueues E db db' →
      ((get db).find? (key row)).isNone = ((get db').find? (key row')).isNone)
    (hset : ∀ db db', SameQueues E db db' →
      SameQueues E (set db ((get db).push row)) (set db' ((get db').push row'))) :
    Lockstep (SameSessions E) Eq (insertInto get set row fun _ => true)
      (insertInto get set row' fun _ => true) := by
  intro s s' hs
  have hfree := hfree _ _ hs.1
  cases hnone : ((get s.db).find? (key row)).isNone with
  | true =>
    rw [hnone] at hfree
    rw [insertInto_of (Option.isNone_iff_eq_none.1 hnone) rfl,
      insertInto_of (Option.isNone_iff_eq_none.1 hfree.symm) rfl]
    exact .ok rfl ⟨hset _ _ hs.1, hs.2⟩
  | false =>
    unfold insertInto
    rw [if_neg (by simp [hnone]), if_neg (by simp [← hfree, hnone])]
    exact .raised hs

theorem complete_same (h : SameWorld c c') (id : Ulid) :
    Lockstep (SameSessions E) Eq (SqlScheduledTaskRepository.complete c id)
      (SqlScheduledTaskRepository.complete c' id) := by
  unfold SqlScheduledTaskRepository.complete
  rw [h.dbNow]
  refine writeDb_same fun db db' hq => ⟨hq.events, ?_⟩
  simp only [SqlScheduledTaskRepository.setTable, hq.tasks]

theorem cancel_same (h : SameWorld c c') (type : TaskType) (resource : Ulid) :
    Lockstep (SameSessions E) Eq (SqlScheduledTaskRepository.cancel c type resource)
      (SqlScheduledTaskRepository.cancel c' type resource) := by
  unfold SqlScheduledTaskRepository.cancel
  rw [h.dbNow]
  refine writeDb_same fun db db' hq => ⟨hq.events, ?_⟩
  simp only [SqlScheduledTaskRepository.setTable, hq.tasks]

theorem recordFailure_same (h : SameWorld c c') (id : Ulid) (attempt : Nat) (error : String)
    (max : Nat) :
    Lockstep (SameSessions E) Eq (SqlScheduledTaskRepository.recordFailure c id attempt error max)
      (SqlScheduledTaskRepository.recordFailure c' id attempt error max) := by
  have hfailed : SqlScheduledTaskRepository.failed c attempt error max =
      SqlScheduledTaskRepository.failed c' attempt error max := by
    funext t
    simp only [SqlScheduledTaskRepository.failed, h.dbNow]
  unfold SqlScheduledTaskRepository.recordFailure
  refine writeDb_same fun db db' hq => ⟨hq.events, ?_⟩
  simp only [SqlScheduledTaskRepository.setTable, hq.tasks, hfailed]

theorem schedule_same (h : SameWorld c c') (type : TaskType) (resource : Ulid) (delay : Nat) :
    Lockstep (SameSessions E) Eq (SqlScheduledTaskRepository.schedule c type resource delay)
      (SqlScheduledTaskRepository.schedule c' type resource delay) := by
  unfold SqlScheduledTaskRepository.schedule
  refine .andThen (newUlid_same h) fun taskId => ?_
  refine .andThen (.query fun s s' hs => ?_) fun taken => ?_
  · exact congrArg (fun t : Table TaskRow.id => t.rows.any _) hs.1.tasks
  rw [h.dbNow]
  refine .ite _ (.pure rfl) (insertInto_same (fun db db' hq => ?_) fun db db' hq => ⟨hq.events, ?_⟩)
  · simp only [hq.tasks]
  · simp only [SqlScheduledTaskRepository.setTable, hq.tasks]

/-- An event is appended alike, whatever the time it bears. -/
theorem append_same (h : SameWorld c c') (type : EventType) (aggregate : Ulid) (t t' : Time)
    (payload : Payload) (trace : Option String) :
    Lockstep (SameSessions AlikeEvents) Eq (SqlOutboxPublisher.append c type aggregate t payload trace)
      (SqlOutboxPublisher.append c' type aggregate t' payload trace) := by
  unfold SqlOutboxPublisher.append
  refine .andThen (newUlid_same h) fun eventId => ?_
  refine .andThen (.ensure _ _) fun _ => .andThen ?_ fun _ => .pure rfl
  refine insertInto_same (fun db db' hq => ?_) fun db db' hq => ⟨?_, hq.tasks⟩
  · have hfind := hq.events.find? (fun _ _ hee => hee.id) eventId
    dsimp only
    generalize db.outboxEvents.find? eventId = o at hfind ⊢
    generalize db'.outboxEvents.find? eventId = o' at hfind ⊢
    cases hfind <;> rfl
  · exact hq.events.push (fun _ _ hee => hee.id) ⟨rfl, rfl, rfl, rfl, fun _ => rfl⟩

/-- The row an attempt finds, or none. -/
theorem readEvent_rel {db db' : Database} (hq : SameQueues AlikeEvents db db') (id : Ulid) (t : Time) :
    Option.Rel OutboxEventRow.Alike ((db.outboxEvents.find? id).filter (claimable t))
      ((db'.outboxEvents.find? id).filter (claimable t)) := by
  have hfind := hq.events.find? (fun _ _ hee => hee.id) id
  generalize db.outboxEvents.find? id = o at hfind ⊢
  generalize db'.outboxEvents.find? id = o' at hfind ⊢
  cases hfind with
  | none => exact .none
  | @some e e' hee =>
    rw [Option.filter_some, Option.filter_some, hee.claimable_eq]
    split
    · exact .some hee
    · exact .none

theorem readEvent_same (h : SameWorld c c') (id : Ulid) :
    Lockstep (SameSessions AlikeEvents) (Option.Rel OutboxEventRow.Alike)
      (readDb fun db => (db.outboxEvents.find? id).filter (claimable c.oracle.dbNow))
      (readDb fun db => (db.outboxEvents.find? id).filter (claimable c'.oracle.dbNow)) := by
  rw [h.dbNow]
  exact .query fun s s' hs => readEvent_rel hs.1 id _

theorem write_same {u u' : Update} {id : Ulid} {db db' : Database} (hq : SameQueues AlikeEvents db db')
    (hu : ∀ e e', e.Alike e' → (u.apply e).Alike (u'.apply e')) :
    SameQueues AlikeEvents { db with outboxEvents := write id u db.outboxEvents }
      { db' with outboxEvents := write id u' db'.outboxEvents } := by
  refine ⟨?_, hq.tasks⟩
  show List.Forall₂ _ _ _
  unfold write Table.modifyAt
  rw [Table.rows_update, Table.rows_update, List.forall₂_map_left_iff, List.forall₂_map_right_iff]
  refine List.Forall₂.imp ?_ hq.events
  intro e e' hee
  rw [hee.id]
  split
  · exact hu e e' hee
  · exact hee

theorem performRow_same (h : SameWorld c c') (row : TaskRow) (failure : Option String) :
    Lockstep (SameSessions E) Eq (QueueOp.performRow c row failure)
      (QueueOp.performRow c' row failure) := by
  cases failure with
  | none => exact complete_same h _
  | some error => exact recordFailure_same h _ _ _ _

/-- A successful publish is recorded alike. -/
theorem published_same (h : SameWorld c c') {row row' : OutboxEventRow} (hrow : row.Alike row') :
    Lockstep (SameSessions AlikeEvents) Eq (QueueOp.publishRow cfg c row none)
      (QueueOp.publishRow cfg c' row' none) := by
  unfold QueueOp.publishRow
  rw [h.dbNow, hrow.id]
  refine writeDb_same fun db db' hq => write_same hq ?_
  intro e e' hee
  exact ⟨hee.id, hee.attemptCount, rfl, hee.dead, hee.next⟩

/-- The operations of the scheduler. -/
def QueueOp.onTasks : QueueOp → Prop
  | .schedule .. | .cancel .. | .perform .. => True
  | _ => False

/-- They are the same under every application clock, whatever the events. -/
theorem runTask_same (h : SameWorld c c') {op : QueueOp} (hop : op.onTasks) :
    Lockstep (SameSessions E) Eq (op.run cfg c) (op.run cfg c') := by
  cases op with
  | append => exact hop.elim
  | publish => exact hop.elim
  | schedule type resource delay => exact schedule_same h type resource delay
  | cancel type resource => exact cancel_same h type resource
  | perform id failure =>
    refine .andThen (.query fun s s' hs => ?_) fun o => ?_
    · dsimp only
      rw [hs.1.tasks, h.dbNow]
    · cases o with
      | none => exact .pure rfl
      | some row => exact performRow_same h row failure

/-- Every operation but a failed publish is the same under every application clock. -/
theorem run_same (h : SameWorld c c') (op : QueueOp)
    (hop : ∀ id error, op ≠ .publish id (some error)) :
    Lockstep (SameSessions AlikeEvents) Eq (op.run cfg c) (op.run cfg c') := by
  cases op with
  | append type aggregate payload trace =>
    refine .bind now_skewed fun t t' _ => ?_
    exact .andThen (append_same h type aggregate t t' payload trace) fun _ => .pure rfl
  | publish id refusal =>
    cases refusal with
    | some error => exact absurd rfl (hop id error)
    | none =>
      refine .bind (readEvent_same h id) fun o o' hrel => ?_
      cases hrel with
      | none => exact .pure rfl
      | some hrow => exact published_same h hrow
  | schedule => exact runTask_same h trivial
  | cancel => exact runTask_same h trivial
  | perform => exact runTask_same h trivial

theorem commit_same {α : Type} {m m' : Tx α} (hm : Lockstep (SameSessions E) Eq m m')
    {db db' : Database} (hq : SameQueues E db db') : SameQueues E (commit m db) (commit m' db') := by
  have halike := hm (begin db) (begin db') ⟨hq, rfl⟩
  unfold commit
  generalize m (begin db) = o at halike ⊢
  generalize m' (begin db') = o' at halike ⊢
  cases halike with
  | ok _ hs => exact hs.1
  | raised _ => exact hq

end Lockstep

section Steps

variable {cfg : OutboxRelay.Config} {d : Deployment} {db db' : Database}

/-- What a failed publish writes. -/
theorem apply_refused {id : Ulid} {error : String} {o : Oracle} {row : OutboxEventRow}
    (h : (db.outboxEvents.find? id).filter (claimable o.dbNow) = some row) :
    (QueueStep.mk (.publish id (some error)) o).apply cfg d db =
      { db with
        outboxEvents := write row.id
          (updateFor cfg o.dbNow row (.refused false error (o.clock 0) (o.clock 1)))
          db.outboxEvents } := by
  have hread : (readDb fun db : Database =>
      (db.outboxEvents.find? id).filter (claimable (d.ctx o).oracle.dbNow)) (begin db) =
        .ok (some row) (begin db) := readDb_ok.2 ⟨h, rfl⟩
  exact commit_of_ok (m := QueueOp.run cfg (d.ctx o) (.publish id (some error)))
    ((bind_of_ok hread _).trans rfl)

theorem apply_refused_none {id : Ulid} {error : String} {o : Oracle}
    (h : (db.outboxEvents.find? id).filter (claimable o.dbNow) = none) :
    (QueueStep.mk (.publish id (some error)) o).apply cfg d db = db := by
  have hread : (readDb fun db : Database =>
      (db.outboxEvents.find? id).filter (claimable (d.ctx o).oracle.dbNow)) (begin db) =
        .ok none (begin db) := readDb_ok.2 ⟨h, rfl⟩
  exact commit_of_ok (m := QueueOp.run cfg (d.ctx o) (.publish id (some error)))
    ((bind_of_ok hread _).trans rfl)

/-- One step of both histories. -/
theorem apply_same {q q' : QueueStep} (hskew : q.Skewed q') (hq : SameQueues AlikeEvents db db')
    (hagree : WillRetry cfg db q → q.oracle.clock 0 = q'.oracle.clock 0) :
    SameQueues AlikeEvents (q.apply cfg d db) (q'.apply cfg d db') := by
  obtain ⟨op, o⟩ := q
  obtain ⟨op', o'⟩ := q'
  obtain ⟨hop, clock, hclock, horacle⟩ := hskew
  dsimp only at hop horacle
  subst hop
  have hworld : SameWorld (d.ctx o) (d.ctx o') := by
    subst horacle
    exact ⟨rfl, rfl⟩
  by_cases hfails : ∃ id error, op' = .publish id (some error)
  · obtain ⟨id, error, rfl⟩ := hfails
    have hnow : o.dbNow = o'.dbNow := hworld.dbNow
    have hfind := readEvent_rel hq id o.dbNow
    cases hrow : (db.outboxEvents.find? id).filter (claimable o.dbNow) with
    | none =>
      rw [hrow] at hfind
      have hrow' : (db'.outboxEvents.find? id).filter (claimable o'.dbNow) = none := by
        rw [← hnow]
        cases h : (db'.outboxEvents.find? id).filter (claimable o.dbNow) with
        | none => rfl
        | some row' =>
          rw [h] at hfind
          cases hfind
      rw [apply_refused_none hrow, apply_refused_none hrow']
      exact hq
    | some row =>
      rw [hrow] at hfind
      obtain ⟨row', hrow', halike⟩ : ∃ row', (db'.outboxEvents.find? id).filter
          (claimable o'.dbNow) = some row' ∧ row.Alike row' := by
        rw [← hnow]
        cases h : (db'.outboxEvents.find? id).filter (claimable o.dbNow) with
        | none =>
          rw [h] at hfind
          cases hfind
        | some row' =>
          rw [h] at hfind
          cases hfind with
          | some hee => exact ⟨row', rfl, hee⟩
      rw [apply_refused hrow, apply_refused hrow', halike.id]
      refine write_same hq fun e e' hee => ?_
      obtain ⟨hin, hclaim⟩ := Option.filter_eq_some_iff.1 hrow
      refine ⟨hee.id, ?_, hee.published, ?_, ?_⟩
      · simp only [updateFor, Update.apply, halike.attemptCount]
      · simp only [updateFor, Update.apply, halike.attemptCount]
        split <;> rfl
      · intro hlive
        have hretry : row.attemptCount + 1 < cfg.maxAttempts := by
          by_contra hdead
          simp [updateFor, Update.apply, Nat.le_of_not_lt hdead] at hlive
        have hread := hagree ⟨id, error, row, rfl, hin, hclaim, hretry⟩
        dsimp only at hread
        simp only [updateFor, Update.apply, halike.attemptCount, hread]
  · refine commit_same (run_same hworld op' fun id error h => hfails ⟨id, error, h⟩) hq

/-- Whole histories. -/
theorem replay_same {qs qs' : List QueueStep} (hskew : List.Forall₂ QueueStep.Skewed qs qs')
    (hq : SameQueues AlikeEvents db db') (hagree : RetryReadingsAgree cfg d db qs qs') :
    SameQueues AlikeEvents (replay cfg d qs db) (replay cfg d qs' db') := by
  induction hskew generalizing db db' with
  | nil => exact hq
  | cons hstep _ ih => exact ih (apply_same hstep hq hagree.1) hagree.2

/-! ### The tasks alone -/

theorem publishRow_tasks {c : Ctx} {row : OutboxEventRow} {refusal : Option String} {s s' : Session}
    {a : Unit} (h : QueueOp.publishRow cfg c row refusal s = .ok a s') :
    s'.db.scheduledTasks = s.db.scheduledTasks := by
  cases refusal with
  | none =>
    unfold QueueOp.publishRow at h
    rw [writeDb_ok h]
  | some error =>
    unfold QueueOp.publishRow at h
    obtain ⟨_, s₁, h₁, h⟩ := bind_ok.1 h
    obtain ⟨e₁, -⟩ := now_ok h₁
    obtain ⟨_, s₂, h₂, h⟩ := bind_ok.1 h
    obtain ⟨e₂, -⟩ := now_ok h₂
    rw [writeDb_ok h]
    show s₂.db.scheduledTasks = _
    rw [e₂, e₁]

/-- The relay and the publisher leave the tasks alone. -/
theorem apply_tasks_kept {q : QueueStep} (hop : ¬q.op.onTasks) :
    (q.apply cfg d db).scheduledTasks = db.scheduledTasks := by
  obtain ⟨op, o⟩ := q
  rcases commit_cases (op.run cfg (d.ctx o)) db with ⟨_, s, hok, he⟩ | he
  · show (commit (op.run cfg (d.ctx o)) db).scheduledTasks = _
    rw [he]
    clear he
    cases op with
    | schedule => exact absurd trivial hop
    | cancel => exact absurd trivial hop
    | perform => exact absurd trivial hop
    | append type aggregate payload trace =>
      obtain ⟨t, s₁, h₁, hok⟩ := bind_ok.1 hok
      obtain ⟨e₁, -⟩ := now_ok h₁
      obtain ⟨_, s₂, h₂, hok⟩ := bind_ok.1 hok
      obtain ⟨-, e₂⟩ := SqlOutboxPublisher.append_ok h₂
      obtain ⟨-, rfl⟩ := pure_ok.1 hok
      rw [e₂, e₁]
      rfl
    | publish id refusal =>
      obtain ⟨row, s₁, h₁, hok⟩ := bind_ok.1 hok
      obtain ⟨-, rfl⟩ := readDb_ok.1 h₁
      cases row with
      | none =>
        obtain ⟨-, rfl⟩ := pure_ok.1 hok
        rfl
      | some row => exact publishRow_tasks hok
  · exact congrArg Database.scheduledTasks he

/-- One step of both histories, under any two application clocks. -/
theorem apply_tasks_same {q q' : QueueStep} (hskew : q.Skewed q')
    (ht : db.scheduledTasks = db'.scheduledTasks) :
    (q.apply cfg d db).scheduledTasks = (q'.apply cfg d db').scheduledTasks := by
  obtain ⟨hop, clock, hclock, horacle⟩ := hskew
  by_cases hon : q.op.onTasks
  · have hworld : SameWorld (d.ctx q.oracle) (d.ctx q'.oracle) := by
      rw [horacle]
      exact ⟨rfl, rfl⟩
    have hsame : SameQueues AnyEvents (q.apply cfg d db) (q'.apply cfg d db') := by
      unfold QueueStep.apply
      rw [hop]
      exact commit_same (runTask_same hworld hon) ⟨trivial, ht⟩
    exact hsame.tasks
  · rw [apply_tasks_kept hon, apply_tasks_kept (hop ▸ hon), ht]

theorem replay_tasks_same {qs qs' : List QueueStep} (hskew : List.Forall₂ QueueStep.Skewed qs qs')
    (ht : db.scheduledTasks = db'.scheduledTasks) :
    (replay cfg d qs db).scheduledTasks = (replay cfg d qs' db').scheduledTasks := by
  induction hskew generalizing db db' with
  | nil => exact ht
  | cons hstep _ ih => exact ih (apply_tasks_same hstep ht)

/-! ### After a failure -/

theorem backoffDelay_le (attempt : Nat) : backoffDelay attempt ≤ Time.seconds 300 :=
  Nat.mul_le_mul_right _ (min_le_right _ _)

/-- A task that failed and was not given up is due within five minutes of the database clock. -/
theorem task_claimable_again {id : Ulid} {error : String} {o : Oracle} {row row' : TaskRow}
    (hrow : db.scheduledTasks.find? id = some row) (hclaim : row.claimable o.dbNow = true)
    (hrow' : ((QueueStep.mk (.perform id (some error)) o).apply cfg d db).scheduledTasks.find? id =
      some row') (hstatus : row'.status ≠ .failed) :
    row'.claimable (o.dbNow + Time.seconds 300) = true := by
  have hfound : (db.scheduledTasks.find? id).filter (TaskRow.claimable o.dbNow) = some row :=
    Option.filter_eq_some_iff.2 ⟨hrow, hclaim⟩
  have hread : (readDb fun db : Database =>
      (db.scheduledTasks.find? id).filter (TaskRow.claimable (d.ctx o).oracle.dbNow)) (begin db) =
        .ok (some row) (begin db) := readDb_ok.2 ⟨hfound, rfl⟩
  have happly : (QueueStep.mk (.perform id (some error)) o).apply cfg d db =
      SqlScheduledTaskRepository.setTable db (db.scheduledTasks.modifyAt row.id
        (SqlScheduledTaskRepository.failed (d.ctx o) (row.attemptCount + 1) error
          Scheduler.MAX_ATTEMPTS)
        (SqlScheduledTaskRepository.id_failed (d.ctx o) _ error _)) :=
    commit_of_ok (m := QueueOp.run cfg (d.ctx o) (.perform id (some error)))
      ((bind_of_ok hread _).trans rfl)
  rw [happly, SqlScheduledTaskRepository.setTable, Table.key_of_find? hrow,
    Table.find?_modifyAt, if_pos rfl, hrow] at hrow'
  cases hrow'
  have hretry : ¬Scheduler.MAX_ATTEMPTS ≤ row.attemptCount + 1 := by
    intro hlast
    simp [SqlScheduledTaskRepository.failed, hlast] at hstatus
  have hdelay : min (2 ^ (row.attemptCount + 1)) 300 * Time.secondUs ≤ 300 * Time.secondUs :=
    Nat.mul_le_mul_right _ (min_le_right _ _)
  simp only [TaskRow.claimable, SqlScheduledTaskRepository.failed, if_neg hretry,
    decide_eq_true_eq, true_and, Time.seconds]
  exact Nat.add_le_add_left hdelay _

/-- An event whose publish failed is claimable five minutes later by the database clock exactly
    when the application clock was not too far ahead. -/
theorem event_claimable_again_iff {id : Ulid} {error : String} {o : Oracle}
    {row row' : OutboxEventRow} (hrow : db.outboxEvents.find? id = some row)
    (hclaim : claimable o.dbNow row = true)
    (hrow' : ((QueueStep.mk (.publish id (some error)) o).apply cfg d db).outboxEvents.find? id =
      some row') (hlive : row'.deadLetteredAt = none) :
    claimable (o.dbNow + Time.seconds 300) row' = true ↔
      o.clock 0 + backoffDelay (row.attemptCount + 1) ≤ o.dbNow + Time.seconds 300 := by
  have hfound : (db.outboxEvents.find? id).filter (claimable o.dbNow) = some row :=
    Option.filter_eq_some_iff.2 ⟨hrow, hclaim⟩
  rw [apply_refused hfound, write, Table.key_of_find? hrow, Table.find?_modifyAt, if_pos rfl,
    hrow] at hrow'
  cases hrow'
  have hunpublished : row.publishedAt.isNone = true := by
    simp only [claimable, Bool.and_eq_true] at hclaim
    exact hclaim.1.1
  unfold claimable
  rw [hlive]
  simp [updateFor, Update.apply, hunpublished]

/-- An application clock that is not ahead makes that five minutes. -/
theorem event_claimable_again {id : Ulid} {error : String} {o : Oracle}
    {row row' : OutboxEventRow} (hrow : db.outboxEvents.find? id = some row)
    (hclaim : claimable o.dbNow row = true)
    (hrow' : ((QueueStep.mk (.publish id (some error)) o).apply cfg d db).outboxEvents.find? id =
      some row') (hlive : row'.deadLetteredAt = none) (hclock : o.clock 0 ≤ o.dbNow) :
    claimable (o.dbNow + Time.seconds 300) row' = true :=
  (event_claimable_again_iff hrow hclaim hrow' hlive).2
    (Nat.add_le_add hclock (backoffDelay_le (row.attemptCount + 1)))

end Steps

/-- Two histories that differ only in the application clock leave the same tasks to claim at every
    database time.  They leave the same events to claim if the clock reads the same wherever a
    publish fails and is to be retried.  A failed task is claimable again within five minutes
    under any clock; a failed event, exactly when the application clock plus its backoff is not
    later, and so whenever that clock is not ahead. -/
theorem queue_eligibility (cfg : OutboxRelay.Config) (d : Deployment) (db : Database)
    (qs qs' : List QueueStep) (hskew : List.Forall₂ QueueStep.Skewed qs qs') :
    (∀ t, claimableTasks t (replay cfg d qs db) = claimableTasks t (replay cfg d qs' db)) ∧
    (RetryReadingsAgree cfg d db qs qs' →
      ∀ t, claimableEvents t (replay cfg d qs db) = claimableEvents t (replay cfg d qs' db)) ∧
    (∀ (id : Ulid) (error : String) (o : Oracle) (row row' : TaskRow),
      let reached := replay cfg d qs db
      reached.scheduledTasks.find? id = some row → row.claimable o.dbNow = true →
      ((QueueStep.mk (.perform id (some error)) o).apply cfg d reached).scheduledTasks.find? id =
        some row' → row'.status ≠ .failed →
      row'.claimable (o.dbNow + Time.seconds 300) = true) ∧
    (∀ (id : Ulid) (error : String) (o : Oracle) (row row' : OutboxEventRow),
      let reached := replay cfg d qs db
      reached.outboxEvents.find? id = some row → claimable o.dbNow row = true →
      ((QueueStep.mk (.publish id (some error)) o).apply cfg d reached).outboxEvents.find? id =
        some row' → row'.deadLetteredAt = none →
      (claimable (o.dbNow + Time.seconds 300) row' = true ↔
        o.clock 0 + backoffDelay (row.attemptCount + 1) ≤ o.dbNow + Time.seconds 300) ∧
      (o.clock 0 ≤ o.dbNow → claimable (o.dbNow + Time.seconds 300) row' = true)) := by
  refine ⟨fun t => ?_, fun hagree t => ?_, ?_, ?_⟩
  · have htasks : (replay cfg d qs db).scheduledTasks = (replay cfg d qs' db).scheduledTasks :=
      replay_tasks_same hskew rfl
    rw [claimableTasks, claimableTasks, htasks]
  · exact (replay_same hskew (.refl db) hagree).claimableEvents_eq t
  · intro id error o row row' _ hrow hclaim hrow' hstatus
    exact task_claimable_again hrow hclaim hrow' hstatus
  · intro id error o row row' _ hrow hclaim hrow' hlive
    exact ⟨event_claimable_again_iff hrow hclaim hrow' hlive,
      event_claimable_again hrow hclaim hrow' hlive⟩

namespace Sample

def relayConfig : OutboxRelay.Config := ⟨50, 5, by decide, by decide, settings.pinMaxAttempts_pos⟩

/-- The world of call `n` at database time `t`, the application clock at `clock`. -/
def skewed (n : Nat) (t clock : Time) : Oracle :=
  { oracle n t with
    clock := fun _ => clock % Time.datetimeMax, clock_lt := fun _ => within_datetimeMax clock }

/-- An event is appended, and one second later its publish fails. -/
def failedPublish (ahead : Time) : List QueueStep :=
  [⟨.append .transferSucceeded (id 9 9) [] none, skewed 1 start (start + ahead)⟩,
    ⟨.publish (id 1 1) (some "broker unavailable"),
      skewed 2 (start + Time.seconds 1) (start + Time.seconds 1 + ahead)⟩]

theorem failedPublish_skewed (ahead ahead' : Time) :
    List.Forall₂ QueueStep.Skewed (failedPublish ahead) (failedPublish ahead') :=
  .cons ⟨rfl, _, _, rfl⟩ (.cons ⟨rfl, _, _, rfl⟩ .nil)

/-- The event after the failure: alive, and due or not at `t`. -/
def awaited (t : Time) (due : Bool) (db : Database) : Bool :=
  match db.outboxEvents.find? (id 1 1) with
  | some e => e.deadLetteredAt.isNone && claimable t e == due
  | none => false

/-- An event and a task are added; each fails, is tried again and fails again; and another event is
    added and published.  But for the failed publishes, the application clock is `ahead`. -/
def retried (ahead : Time) : List QueueStep :=
  let at_ := fun n seconds lead => skewed n (start + Time.seconds seconds)
    (start + Time.seconds seconds + lead)
  [⟨.append .transferSucceeded (id 9 9) [] none, at_ 1 0 ahead⟩,
    ⟨.schedule .undoSettle (id 9 9) 10, at_ 2 1 ahead⟩,
    ⟨.publish (id 1 1) (some "broker unavailable"), at_ 3 2 0⟩,
    ⟨.perform (id 2 0) (some "RuntimeError"), at_ 4 12 ahead⟩,
    ⟨.publish (id 1 1) (some "broker unavailable"), at_ 5 13 0⟩,
    ⟨.perform (id 2 0) (some "RuntimeError"), at_ 6 20 ahead⟩,
    ⟨.append .transferSucceeded (id 9 9) [] none, at_ 7 21 ahead⟩,
    ⟨.publish (id 7 1) none, at_ 8 22 ahead⟩]

theorem failedPublish_awaited :
    (awaited (start + Time.seconds 301) true
      (replay relayConfig deployment (failedPublish 0) (migrated start)) &&
    awaited (start + Time.seconds 301) false
      (replay relayConfig deployment (failedPublish (Time.seconds 3600)) (migrated start))) =
        true := by
  decide +kernel

end Sample

/-- An event and a task fail twice each under clocks an hour apart, which read the same where the
    publishes failed: both wait for their third attempt, and the other event is published. -/
theorem retried_under_skew :
    let level := replay Sample.relayConfig Sample.deployment (Sample.retried 0)
      (migrated Sample.start)
    let ahead := replay Sample.relayConfig Sample.deployment (Sample.retried (Time.seconds 3600))
      (migrated Sample.start)
    let later := Sample.start + Time.seconds 320
    (∀ t, claimableTasks t level = claimableTasks t ahead) ∧
      (∀ t, claimableEvents t level = claimableEvents t ahead) ∧
      ahead.outboxEvents.rows.map (fun e => (e.id, e.attemptCount, claimable later e)) =
        [(Sample.id 1 1, 2, true), (Sample.id 7 1, 0, false)] ∧
      ahead.scheduledTasks.rows.map (fun t => (t.id, t.attemptCount, t.claimable later)) =
        [(Sample.id 2 0, 2, true)] := by
  have hskew : List.Forall₂ QueueStep.Skewed (Sample.retried 0)
      (Sample.retried (Time.seconds 3600)) := by
    repeat' constructor
  have hall := queue_eligibility Sample.relayConfig Sample.deployment (migrated Sample.start)
    (Sample.retried 0) (Sample.retried (Time.seconds 3600)) hskew
  refine ⟨hall.1, hall.2.1 ?_, by decide +kernel, by decide +kernel⟩
  have hother : ∀ {db : Database} {q q' : QueueStep}, (∀ id error, q.op ≠ .publish id (some error)) →
      WillRetry Sample.relayConfig db q → q.oracle.clock 0 = q'.oracle.clock 0 := by
    rintro db q q' hop ⟨id, error, row, he, -⟩
    exact absurd he (hop id error)
  exact ⟨hother nofun, hother nofun, fun _ => rfl, hother nofun, fun _ => rfl, hother nofun,
    hother nofun, hother nofun, trivial⟩

/-- An hour's lead of the application clock at the failure keeps the event back for longer than
    five minutes of the database clock. -/
theorem failed_publish_delayed_by_skew :
    List.Forall₂ QueueStep.Skewed (Sample.failedPublish 0)
      (Sample.failedPublish (Time.seconds 3600)) ∧
    claimableEvents (Sample.start + Time.seconds 301)
        (replay Sample.relayConfig Sample.deployment (Sample.failedPublish 0)
          (migrated Sample.start)) ≠
      claimableEvents (Sample.start + Time.seconds 301)
        (replay Sample.relayConfig Sample.deployment (Sample.failedPublish (Time.seconds 3600))
          (migrated Sample.start)) ∧
    ∃ e, (replay Sample.relayConfig Sample.deployment (Sample.failedPublish (Time.seconds 3600))
        (migrated Sample.start)).outboxEvents.find? (Sample.id 1 1) = some e ∧
      e.deadLetteredAt = none ∧
      claimable (Sample.start + Time.seconds 1 + Time.seconds 300) e = false := by
  have hawaited := Sample.failedPublish_awaited
  generalize replay Sample.relayConfig Sample.deployment (Sample.failedPublish 0)
    (migrated Sample.start) = level at *
  generalize replay Sample.relayConfig Sample.deployment (Sample.failedPublish (Time.seconds 3600))
    (migrated Sample.start) = ahead at *
  obtain ⟨hlevel, hahead⟩ := Bool.and_eq_true_iff.1 hawaited
  unfold Sample.awaited at hlevel hahead
  split at hlevel
  · rename_i e he
    split at hahead
    · rename_i e' he'
      simp only [Bool.and_eq_true, beq_iff_eq, Option.isNone_iff_eq_none] at hlevel hahead
      refine ⟨Sample.failedPublish_skewed _ _, ?_, e', he', hahead.1, hahead.2⟩
      intro heq
      have hmem : Sample.id 1 1 ∈ claimableEvents (Sample.start + Time.seconds 301) level :=
        ⟨e, Table.mem_of_find? he, Table.key_of_find? he, hlevel.2⟩
      rw [heq] at hmem
      obtain ⟨x, hx, hid, hclaim⟩ := hmem
      have hxe : x = e' := Table.eq_of_key hx (Table.mem_of_find? he')
        (hid.trans (Table.key_of_find? he').symm)
      rw [hxe, hahead.2] at hclaim
      cases hclaim
    · cases hahead
  · cases hlevel

end MoneyMovement

/-
  MoneyMovement/SchedulerProgress.lean
  ====================================
  **What a batch of the scheduler does to its queue, and why it comes to an end.**

  A batch writes the rows it claimed and no other: each is done, or has one more
  failure behind it.  A task is given up at its last attempt, so the attempts that
  are left bound the claims of all batches together, and a scheduler that is left
  alone runs out of work.
-/
import MoneyMovement.Timers

namespace MoneyMovement

open Txn

open SqlScheduledTaskRepository (isFor failed)

/-! ### One task -/

/-- No two tasks are for the same thing. -/
def SingleTimers (rows : List TaskRow) : Prop :=
  ∀ t ∈ rows, ∀ t' ∈ rows, isFor t.taskType t.resourceId t' = true → t' = t

/-- The row of a task that was carried out. -/
def TaskRow.completed (c : Ctx) (t : TaskRow) : TaskRow :=
  { t with status := .done, completedAt := some c.oracle.dbNow }

/-- What a batch leaves of a task it claimed. -/
def TaskRow.WorkedOff (c : Ctx) (t t' : TaskRow) : Prop :=
  t' = t.completed c ∨ ∃ error, t' = failed c (t.attemptCount + 1) error Scheduler.MAX_ATTEMPTS t

theorem TaskRow.WorkedOff.id {c : Ctx} {t t' : TaskRow} (h : t.WorkedOff c t') : t'.id = t.id := by
  rcases h with rfl | ⟨_, rfl⟩ <;> rfl

theorem TaskRow.WorkedOff.isFor {c : Ctx} {t t' : TaskRow} (h : t.WorkedOff c t') :
    isFor t.taskType t.resourceId t' = true := by
  rcases h with rfl | ⟨_, rfl⟩ <;> exact isFor_iff.2 ⟨rfl, rfl⟩

/-- A row of the queue after the row `id` was exchanged. -/
def exchanged (id : Ulid) (t' t : TaskRow) : TaskRow := if t.id = id then t' else t

theorem SingleTimers.map {rows : List TaskRow} (h : SingleTimers rows) {f : TaskRow → TaskRow}
    (hfor : ∀ t ∈ rows, isFor t.taskType t.resourceId (f t) = true) : SingleTimers (rows.map f) := by
  intro x hx y hy hxy
  obtain ⟨t, ht, rfl⟩ := List.mem_map.1 hx
  obtain ⟨u, hu, rfl⟩ := List.mem_map.1 hy
  obtain ⟨htype, hres⟩ := isFor_iff.1 (hfor t ht)
  obtain ⟨htype', hres'⟩ := isFor_iff.1 (hfor u hu)
  rw [isFor_iff, htype, hres, htype', hres'] at hxy
  rw [h t ht u hu (isFor_iff.2 hxy)]

theorem SingleTimers.exchange {rows : List TaskRow} (h : SingleTimers rows) {task t' : TaskRow}
    (htask : ∀ t ∈ rows, t.id = task.id → t = task) (hfor : isFor task.taskType task.resourceId t' = true) :
    SingleTimers (rows.map (exchanged task.id t')) := by
  refine h.map fun t ht => ?_
  unfold exchanged
  split
  · rename_i hid
    rw [htask t ht hid]
    exact hfor
  · exact isFor_iff.2 ⟨rfl, rfl⟩

section Task

variable {c : Ctx} {s s' : Session}

/-- The tasks of a type and a resource may have been cancelled; the others are as they were. -/
def OnlyCancels (c : Ctx) (type : TaskType) (id : Ulid) (db db' : Database) : Prop :=
  ∃ f : TaskRow → TaskRow, db'.scheduledTasks.rows = db.scheduledTasks.rows.map f ∧
    ∀ t, f t = t ∨ isFor type id t = true ∧
      f t = { t with status := .cancelled, completedAt := some c.oracle.dbNow }

theorem OnlyCancels.of_eq {type : TaskType} {id : Ulid} {db db' : Database}
    (h : db'.scheduledTasks = db.scheduledTasks) : OnlyCancels c type id db db' :=
  ⟨fun t => t, by rw [h, List.map_id'], fun _ => .inl rfl⟩

/-- A release cancels the timer of its escrow. -/
theorem SafePayService.releaseLocked_cancels {e : EscrowRow} {u : Ulid} {reason : String}
    {req note : Option String} {b : Body} (he : s.db.safepayEscrows.find? e.id = some e)
    (h : releaseLocked c e u reason req note s = .ok b s') :
    OnlyCancels c .escrowAutoRelease e.id s.db s'.db := by
  obtain ⟨found, s₁, h₁, h⟩ := bind_ok.1 h
  obtain ⟨rfl, rfl⟩ := readDb_ok.1 h₁
  obtain ⟨hold, s₂, h₂, h⟩ := bind_ok.1 h
  obtain ⟨hhold, rfl⟩ := orRaise_ok.1 h₂
  obtain ⟨receiver, s₃, h₃, h⟩ := bind_ok.1 h
  obtain ⟨hreceiver, rfl⟩ := orRaise_ok.1 h₃
  obtain ⟨settlement, s₄, h₄, h⟩ := bind_ok.1 h
  obtain ⟨now, s₅, h₅, h⟩ := bind_ok.1 h
  obtain ⟨n, s₆, h₆, h⟩ := bind_ok.1 h
  obtain ⟨_, s₇, h₇, h⟩ := bind_ok.1 h
  obtain ⟨hn, rfl⟩ := ensure_ok.1 h₇
  obtain ⟨-, htasks, -⟩ := escrowLeg_steps (L := deliverLicence c e.id) [] (.inl ⟨rfl, rfl⟩)
    (fun _ _ _ _ hk hw => ⟨hk, hw⟩) ⟨rfl, .inr rfl⟩ (by decide)
    he hhold (.inl ⟨rfl, hreceiver⟩) h₄ (now_ok h₅).1 hn h₆
  obtain ⟨_, s₈, h₈, h⟩ := bind_ok.1 h
  obtain ⟨_, s₉, h₉, h⟩ := bind_ok.1 h
  obtain ⟨logs, e₉⟩ := SafePayService.auditEvent_ok h₉
  obtain ⟨-, rfl⟩ := pure_ok.1 h
  unfold SqlScheduledTaskRepository.cancel at h₈
  rw [e₉, writeDb_ok h₈]
  refine ⟨_, congrArg (fun tasks : Table TaskRow.id => tasks.rows.map _) htasks, fun t => ?_⟩
  dsimp only
  split
  · rename_i hq
    exact .inr ⟨(Bool.and_eq_true _ _ ▸ hq).1, rfl⟩
  · exact .inl rfl

namespace Scheduler

/-- A handler cancels its own task at most. -/
theorem handle_cancels {task : TaskRow} {v : Unit} (h : Scheduler.handle c task s = .ok v s') :
    OnlyCancels c task.taskType task.resourceId s.db s'.db := by
  unfold Scheduler.handle at h
  cases htype : task.taskType <;> simp only [htype] at h
  case undoSettle =>
    obtain ⟨_, s₁, h₁, h⟩ := bind_ok.1 h
    obtain ⟨-, rfl⟩ := pure_ok.1 h
    exact .of_eq (UndoableTransferService.settle_steps (L := licence c s.db .runDueTasks) []
      (licence_covers rfl) h₁).2.2.1
  case escrowAutoRelease =>
    obtain ⟨_, s₁, h₁, h⟩ := bind_ok.1 h
    obtain ⟨-, rfl⟩ := pure_ok.1 h
    unfold SafePayService.autoRelease at h₁
    obtain ⟨found, s₂, h₂, h₁⟩ := bind_ok.1 h₁
    obtain ⟨hf, rfl⟩ := readDb_ok.1 h₂
    cases found with
    | none =>
      obtain ⟨-, rfl⟩ := pure_ok.1 h₁
      exact .of_eq rfl
    | some e =>
      dsimp only at h₁
      split at h₁
      · obtain ⟨-, rfl⟩ := pure_ok.1 h₁
        exact .of_eq rfl
      · obtain ⟨body, s₃, h₃, h₁⟩ := bind_ok.1 h₁
        obtain ⟨-, rfl⟩ := pure_ok.1 h₁
        have hid : e.id = task.resourceId := Table.key_of_find? hf
        rw [← hid] at hf ⊢
        exact SafePayService.releaseLocked_cancels hf h₃
  case moneyRequestExpiry =>
    obtain ⟨_, s₁, h₁, h⟩ := bind_ok.1 h
    obtain ⟨-, rfl⟩ := pure_ok.1 h
    exact .of_eq (MoneyRequestService.expireDue_steps (L := licence c s.db .runDueTasks) (g := .idle)
      (fun _ _ hst hdue => ⟨hst, _, hdue⟩) h₁).2.2
  case linkExpiry =>
    obtain ⟨-, rfl⟩ := pure_ok.1 h
    exact .of_eq rfl

/-- A task that is carried out is done, and no other row is written. -/
theorem perform_rows {task : TaskRow} {v : Unit} (hsingle : SingleTimers s.db.scheduledTasks.rows)
    (htask : task ∈ s.db.scheduledTasks.rows) (h : perform c task s = .ok v s') :
    s'.db.scheduledTasks.rows = s.db.scheduledTasks.rows.map (exchanged task.id (task.completed c)) := by
  obtain ⟨_, s₁, h₁, h₂⟩ := bind_ok.1 h
  obtain ⟨f, hrows, hf⟩ := handle_cancels h₁
  unfold SqlScheduledTaskRepository.complete at h₂
  rw [writeDb_ok h₂]
  show (s₁.db.scheduledTasks.rows.map _) = _
  rw [hrows, List.map_map]
  refine List.map_congr_left fun t ht => ?_
  rw [Function.comp_apply, exchanged]
  rcases hf t with hsame | ⟨hfor, hcancelled⟩
  · rw [hsame]
    by_cases hid : t.id = task.id
    · rw [if_pos hid, Table.eq_of_key ht htask hid]
      simp [TaskRow.completed]
    · rw [if_neg hid]
      simp [hid]
  · obtain rfl := hsingle task htask t ht hfor
    rw [hcancelled, if_pos rfl]
    simp [TaskRow.completed]

/-- One task of a batch: its row is worked off, and no other is written. -/
theorem runTask_rows {task : TaskRow} {n : Nat} (hsingle : SingleTimers s.db.scheduledTasks.rows)
    (htask : task ∈ s.db.scheduledTasks.rows) (h : runTask c task s = .ok n s') :
    ∃ t', task.WorkedOff c t' ∧
      s'.db.scheduledTasks.rows = s.db.scheduledTasks.rows.map (exchanged task.id t') := by
  obtain ⟨outcome, s₁, h₁, h⟩ := bind_ok.1 h
  rcases savepoint_ok.1 h₁ with ⟨_, hp, rfl⟩ | ⟨e, s₂, -, rfl, rfl⟩
  · obtain ⟨-, rfl⟩ := pure_ok.1 h
    exact ⟨_, .inl rfl, perform_rows hsingle htask hp⟩
  · obtain ⟨_, s₃, h₃, h⟩ := bind_ok.1 h
    obtain ⟨-, rfl⟩ := pure_ok.1 h
    unfold SqlScheduledTaskRepository.recordFailure at h₃
    refine ⟨_, .inr ⟨e.message, rfl⟩, ?_⟩
    rw [writeDb_ok h₃]
    refine List.map_congr_left fun t ht => ?_
    rw [exchanged]
    by_cases hid : t.id = task.id
    · rw [if_pos hid, if_pos (decide_eq_true hid), Table.eq_of_key ht htask hid]
    · rw [if_neg hid, if_neg (by simpa using hid)]

/-! ### A batch -/

/-- What a batch leaves of its queue: the rows it claimed are worked off, the others are as
    they were. -/
structure WorkedThrough (c : Ctx) (claimed rows rows' : List TaskRow) (f : TaskRow → TaskRow) :
    Prop where
  rows_eq : rows' = rows.map f
  others : ∀ t ∈ rows, t ∉ claimed → f t = t
  claimed : ∀ t ∈ claimed, t.WorkedOff c (f t)

theorem runTasks_worked {tasks : List TaskRow} {n : Nat} (hsingle : SingleTimers s.db.scheduledTasks.rows)
    (hnodup : (tasks.map TaskRow.id).Nodup) (hmem : ∀ t ∈ tasks, t ∈ s.db.scheduledTasks.rows)
    (h : runTasks c tasks s = .ok n s') :
    ∃ f, WorkedThrough c tasks s.db.scheduledTasks.rows s'.db.scheduledTasks.rows f := by
  induction tasks generalizing s n with
  | nil =>
    obtain ⟨-, rfl⟩ := pure_ok.1 h
    exact ⟨fun t => t, (List.map_id' _).symm, fun _ _ _ => rfl, fun t ht => absurd ht List.not_mem_nil⟩
  | cons task tasks ih =>
    obtain ⟨k, s₁, h₁, h⟩ := bind_ok.1 h
    obtain ⟨m, s₂, h₂, h⟩ := bind_ok.1 h
    obtain ⟨-, rfl⟩ := pure_ok.1 h
    obtain ⟨hne, hnodup⟩ := List.nodup_cons.1 hnodup
    have htask := hmem task List.mem_cons_self
    obtain ⟨t', hworked, hrows⟩ := runTask_rows hsingle htask h₁
    have hkey : ∀ t ∈ s.db.scheduledTasks.rows, t.id = task.id → t = task := fun t ht hid =>
      Table.eq_of_key ht htask hid
    have hrest : ∀ t ∈ tasks, t.id ≠ task.id := fun t ht hid =>
      hne (List.mem_map.2 ⟨t, ht, hid⟩)
    have hkept : ∀ t ∈ s.db.scheduledTasks.rows, t.id ≠ task.id → t ∈ s₁.db.scheduledTasks.rows := by
      intro t ht hid
      rw [hrows]
      exact List.mem_map.2 ⟨t, ht, if_neg hid⟩
    obtain ⟨f, hf⟩ := ih (hrows ▸ hsingle.exchange hkey hworked.isFor) hnodup
      (fun t ht => hkept t (hmem t (List.mem_cons_of_mem _ ht)) (hrest t ht)) h₂
    refine ⟨fun t => f (exchanged task.id t' t), ?_, ?_, ?_⟩
    · rw [hf.rows_eq, hrows, List.map_map]
      rfl
    · intro t ht hnot
      rw [List.mem_cons, not_or] at hnot
      have hid : t.id ≠ task.id := fun hid => hnot.1 (hkey t ht hid)
      rw [exchanged, if_neg hid]
      exact hf.others t (hkept t ht hid) hnot.2
    · intro t ht
      rcases List.mem_cons.1 ht with rfl | ht
      · have hmem' : t' ∈ s₁.db.scheduledTasks.rows := by
          rw [hrows]
          exact List.mem_map.2 ⟨t, htask, if_pos rfl⟩
        rw [exchanged, if_pos rfl, hf.others t' hmem' fun hin => hrest t' hin hworked.id]
        exact hworked
      · rw [exchanged, if_neg (hrest t ht)]
        exact hf.claimed t ht

/-- A batch always commits: what a task raises stays in its savepoint. -/
theorem runTasks_returns (tasks : List TaskRow) : Returns (runTasks c tasks) s fun _ _ => True := by
  induction tasks generalizing s with
  | nil => exact Returns.pure trivial
  | cons task tasks ih =>
    have hone : Returns (runTask c task) s fun _ _ => True := by
      unfold runTask
      refine Returns.bind (P := fun _ _ => True) ?_ ?_
      · cases hp : perform c task s with
        | ok a s₁ => exact ⟨.ok a, s₁, savepoint_ok.2 (.inl ⟨a, hp, rfl⟩), trivial⟩
        | raised e s₁ =>
          exact ⟨.error e, rollbackTo s s₁, savepoint_ok.2 (.inr ⟨e, s₁, hp, rfl, rfl⟩), trivial⟩
      · intro outcome s₁ _
        cases outcome with
        | ok _ => exact Returns.pure trivial
        | error e =>
          exact Returns.bind (P := fun _ _ => True) (Returns.modify trivial) fun _ _ _ =>
            Returns.pure trivial
    exact Returns.bind hone fun _ _ _ => Returns.bind ih fun _ _ _ => Returns.pure trivial

/-- The tasks a batch claims. -/
def claimed (c : Ctx) (db : Database) : List TaskRow :=
  match SqlScheduledTaskRepository.claimDue c BATCH_SIZE (begin db) with
  | .ok tasks _ => tasks
  | .raised _ _ => []

/-- A claimed task is pending, due, and in nobody else's hands. -/
structure Claimable (c : Ctx) (db : Database) (t : TaskRow) : Prop where
  row : t ∈ db.scheduledTasks.rows
  pending : t.status = .pending
  due : t.dueAt ≤ c.oracle.dbNow
  free : c.oracle.busyTask t.id = false

theorem claimable_of_claimed {db : Database} {t : TaskRow} (h : t ∈ claimed c db) : Claimable c db t := by
  have hmem := (List.mem_insertionSort _).1 (List.mem_of_mem_take h)
  rw [List.mem_filter, Bool.and_eq_true, decide_eq_true_eq, Bool.not_eq_true'] at hmem
  exact ⟨hmem.1, hmem.2.1.1, hmem.2.1.2, hmem.2.2⟩

/-- A batch does not come back empty-handed while a task can be claimed. -/
theorem claimed_ne_nil {db : Database} {t : TaskRow} (h : Claimable c db t) : claimed c db ≠ [] := by
  intro hnil
  rcases List.take_eq_nil_iff.1 hnil with hzero | hsorted
  · cases hzero
  · have hlen := congrArg List.length hsorted
    rw [List.length_insertionSort] at hlen
    refine List.filter_eq_nil_iff.1 (List.eq_nil_of_length_eq_zero hlen) t h.row ?_
    simp [h.pending, h.due, h.free]

/-- One poll of the scheduler. -/
def poll (d : Deployment) (db : Database) (o : Oracle) : Database := serve d ⟨o, .runDueTasks⟩ db

theorem poll_worked {d : Deployment} {db : Database} (hsingle : SingleTimers db.scheduledTasks.rows)
    (o : Oracle) : ∃ f, WorkedThrough (d.ctx o) (claimed (d.ctx o) db) db.scheduledTasks.rows
      (poll d db o).scheduledTasks.rows f := by
  obtain ⟨n, s₁, hrun, -⟩ := runTasks_returns (c := d.ctx o) (s := begin db) (claimed (d.ctx o) db)
  have hhandle : MoneyMovement.handle (d.ctx o) .runDueTasks (begin db) = .ok (.ok (.count n)) s₁ :=
    bind_ok.2 ⟨n, s₁, bind_ok.2 ⟨_, _, rfl, hrun⟩, rfl⟩
  have hclaim : SqlScheduledTaskRepository.claimDue (d.ctx o) BATCH_SIZE (begin db) =
      .ok (claimed (d.ctx o) db) (begin db) := rfl
  obtain ⟨-, hbatch, -⟩ := claimDue_ok hclaim
  unfold poll serve
  rw [commit_of_ok hhandle]
  exact runTasks_worked hsingle hbatch.nodup (fun t ht => (claimable_of_claimed ht).row) hrun

end Scheduler

end Task

/-! ### Attempts that are left -/

/-- How often a task can still be claimed. -/
def TaskRow.triesLeft (t : TaskRow) : Nat :=
  if t.status = .pending then max 1 (Scheduler.MAX_ATTEMPTS - t.attemptCount) else 0

def Database.triesLeft (db : Database) : Nat := (db.scheduledTasks.rows.map TaskRow.triesLeft).sum

/-- Every claim costs a try. -/
theorem TaskRow.WorkedOff.triesLeft_lt {c : Ctx} {t t' : TaskRow} (h : t.WorkedOff c t')
    (hst : t.status = .pending) : t'.triesLeft + 1 ≤ t.triesLeft := by
  unfold TaskRow.triesLeft
  rw [if_pos hst]
  rcases h with rfl | ⟨error, rfl⟩
  · rw [if_neg (by simp [TaskRow.completed])]
    omega
  · by_cases hlast : Scheduler.MAX_ATTEMPTS ≤ t.attemptCount + 1
    · have hfailed : (failed c (t.attemptCount + 1) error Scheduler.MAX_ATTEMPTS t).status = .failed :=
        if_pos hlast
      rw [if_neg (by rw [hfailed]; decide)]
      omega
    · have hpending : (failed c (t.attemptCount + 1) error Scheduler.MAX_ATTEMPTS t).status = .pending :=
        if_neg hlast
      rw [if_pos hpending]
      show max 1 (Scheduler.MAX_ATTEMPTS - (t.attemptCount + 1)) + 1 ≤ _
      omega

theorem Database.triesLeft_pos {db : Database} :
    0 < db.triesLeft ↔ ∃ t ∈ db.scheduledTasks.rows, t.status = .pending := by
  unfold Database.triesLeft
  rw [List.sum_pos_iff_exists_pos_nat]
  constructor
  · rintro ⟨n, hn, hpos⟩
    obtain ⟨t, ht, rfl⟩ := List.mem_map.1 hn
    refine ⟨t, ht, ?_⟩
    by_contra hst
    rw [TaskRow.triesLeft, if_neg hst] at hpos
    exact Nat.lt_irrefl 0 hpos
  · rintro ⟨t, ht, hst⟩
    refine ⟨_, List.mem_map_of_mem ht, ?_⟩
    rw [TaskRow.triesLeft, if_pos hst]
    exact Nat.lt_of_lt_of_le Nat.zero_lt_one (Nat.le_max_left _ _)

theorem sum_triesLeft_le {rows claimed : List TaskRow} {f : TaskRow → TaskRow} [DecidableEq TaskRow]
    (h : ∀ t ∈ rows, (f t).triesLeft + (if t ∈ claimed then 1 else 0) ≤ t.triesLeft) :
    ((rows.map f).map TaskRow.triesLeft).sum + (rows.filter (· ∈ claimed)).length ≤
      (rows.map TaskRow.triesLeft).sum := by
  induction rows with
  | nil => exact Nat.le_refl _
  | cons t rows ih =>
    have hhead := h t List.mem_cons_self
    have htail := ih fun x hx => h x (List.mem_cons_of_mem _ hx)
    rw [List.filter_cons]
    simp only [List.map_cons, List.sum_cons]
    by_cases hin : t ∈ claimed
    · rw [if_pos hin] at hhead
      rw [if_pos (decide_eq_true hin), List.length_cons]
      omega
    · rw [if_neg hin] at hhead
      rw [if_neg (by simpa using hin)]
      omega

namespace Scheduler

variable {d : Deployment} {db : Database}

/-- What a poll claims, it takes from the tries that are left. -/
theorem poll_triesLeft (hsingle : SingleTimers db.scheduledTasks.rows) (o : Oracle) :
    (claimed (d.ctx o) db).length + (poll d db o).triesLeft ≤ db.triesLeft := by
  classical
  obtain ⟨f, hf⟩ := poll_worked (d := d) hsingle o
  have hle : ∀ t ∈ db.scheduledTasks.rows, (f t).triesLeft +
      (if t ∈ claimed (d.ctx o) db then 1 else 0) ≤ t.triesLeft := by
    intro t ht
    by_cases hin : t ∈ claimed (d.ctx o) db
    · rw [if_pos hin]
      exact (hf.claimed t hin).triesLeft_lt (claimable_of_claimed hin).pending
    · rw [if_neg hin, hf.others t ht hin]
      exact Nat.le_refl _
  have hnodup : (claimed (d.ctx o) db).Nodup := by
    have hclaim : SqlScheduledTaskRepository.claimDue (d.ctx o) BATCH_SIZE (begin db) =
        .ok (claimed (d.ctx o) db) (begin db) := rfl
    exact List.Nodup.of_map _ (claimDue_ok hclaim).2.1.nodup
  have hsub : (claimed (d.ctx o) db).length ≤
      (db.scheduledTasks.rows.filter (· ∈ claimed (d.ctx o) db)).length := by
    refine (List.subperm_of_subset hnodup fun t ht => ?_).length_le
    exact List.mem_filter.2 ⟨(claimable_of_claimed ht).row, by simpa using ht⟩
  have hsum := sum_triesLeft_le hle
  unfold Database.triesLeft
  rw [hf.rows_eq]
  omega

theorem poll_single (hsingle : SingleTimers db.scheduledTasks.rows) (o : Oracle) :
    SingleTimers (poll d db o).scheduledTasks.rows := by
  obtain ⟨f, hf⟩ := poll_worked (d := d) hsingle o
  rw [hf.rows_eq]
  refine hsingle.map fun t ht => ?_
  by_cases hin : t ∈ claimed (d.ctx o) db
  · exact (hf.claimed t hin).isFor
  · rw [hf.others t ht hin]
    exact isFor_iff.2 ⟨rfl, rfl⟩

def polls (d : Deployment) (db : Database) (os : List Oracle) : Database := os.foldl (poll d) db

/-- How many tasks each of a run of polls claims. -/
def claims (d : Deployment) : Database → List Oracle → List Nat
  | _, [] => []
  | db, o :: os => (claimed (d.ctx o) db).length :: claims d (poll d db o) os

/-- Every poll comes when all pending tasks are due, and finds none of them locked. -/
def Punctual (d : Deployment) : Database → List Oracle → Prop
  | _, [] => True
  | db, o :: os => (∀ t ∈ db.scheduledTasks.rows, t.status = .pending →
      t.dueAt ≤ o.dbNow ∧ o.busyTask t.id = false) ∧ Punctual d (poll d db o) os

instance decidablePunctual (d : Deployment) : (db : Database) → (os : List Oracle) →
    Decidable (Punctual d db os)
  | _, [] => inferInstanceAs (Decidable True)
  | db, o :: os => @instDecidableAnd _ _ _ (decidablePunctual d (poll d db o) os)

theorem claims_triesLeft (hsingle : SingleTimers db.scheduledTasks.rows) (os : List Oracle) :
    (claims d db os).sum + (polls d db os).triesLeft ≤ db.triesLeft := by
  induction os generalizing db with
  | nil => exact Nat.le_of_eq (Nat.zero_add _)
  | cons o os ih =>
    have hone := poll_triesLeft (d := d) hsingle o
    have hrest := ih (poll_single (d := d) hsingle o)
    simp only [claims, List.sum_cons, polls, List.foldl_cons] at hrest ⊢
    omega

/-- A task that is still pending after punctual polls was claimed by each of them. -/
theorem claims_of_pending {os : List Oracle} (hsingle : SingleTimers db.scheduledTasks.rows)
    (hp : Punctual d db os) (h : ∃ t ∈ (polls d db os).scheduledTasks.rows, t.status = .pending) :
    os.length ≤ (claims d db os).sum := by
  induction os generalizing db with
  | nil => exact Nat.zero_le _
  | cons o os ih =>
    have hrest := ih (poll_single (d := d) hsingle o) hp.2 h
    have hleft : 0 < db.triesLeft := by
      have hall := claims_triesLeft (d := d) hsingle (o :: os)
      have hlast := Database.triesLeft_pos.2 h
      omega
    obtain ⟨t, ht, hst⟩ := Database.triesLeft_pos.1 hleft
    obtain ⟨hdue, hfree⟩ := hp.1 t ht hst
    have hclaimed : claimed (d.ctx o) db ≠ [] := claimed_ne_nil ⟨ht, hst, hdue, hfree⟩
    have hone := List.length_pos_iff.2 hclaimed
    simp only [claims, List.sum_cons, List.length_cons]
    omega

theorem polls_eq (d : Deployment) (db : Database) (os : List Oracle) :
    polls d db os = serveAll d (os.map fun o => ⟨o, .runDueTasks⟩) db := by
  induction os generalizing db with
  | nil => rfl
  | cons o os ih => exact ih (poll d db o)

end Scheduler

open Scheduler

theorem serveAll_single (d : Deployment) (now : Time) (calls : List Call) :
    SingleTimers (serveAll d calls (migrated now)).scheduledTasks.rows :=
  (serveAll_timed d now calls).single

/-- In every reachable state a batch writes the rows it claims and no other row of the queue.  A
    claimed task is done, and what it waited for is over; or its failure is recorded: it backs off,
    and is given up at its last attempt. -/
theorem batch_outcome (d : Deployment) (now : Time) (calls : List Call) (o : Oracle) :
    let db := serveAll d calls (migrated now)
    let db' := poll d db o
    ∃ f, db'.scheduledTasks.rows = db.scheduledTasks.rows.map f ∧
      (∀ t ∈ db.scheduledTasks.rows, t ∉ claimed (d.ctx o) db → f t = t) ∧
      ∀ t ∈ claimed (d.ctx o) db, f t = t.completed (d.ctx o) ∧ t.Retired db' ∨
        ∃ error, f t = failed (d.ctx o) (t.attemptCount + 1) error MAX_ATTEMPTS t := by
  intro db db'
  obtain ⟨f, hf⟩ := poll_worked (d := d) (serveAll_single d now calls) o
  refine ⟨f, hf.rows_eq, hf.others, fun t ht => (hf.claimed t ht).imp_left fun hdone => ⟨hdone, ?_⟩⟩
  have htimed : db'.Timed := by
    have hrun := serveAll_timed d now (calls ++ [⟨o, .runDueTasks⟩])
    rw [serveAll_append] at hrun
    exact hrun
  have hrow : f t ∈ db'.scheduledTasks.rows := by
    rw [hf.rows_eq]
    exact List.mem_map_of_mem (claimable_of_claimed ht).row
  have hover := htimed.live_or_over (f t) hrow
  rw [hdone] at hover
  exact hover.resolve_left Bool.false_ne_true

/-- **A scheduler that is left alone runs out of work.**  From every reachable state, batches claim
    no more often than there are tries left.  When each of them comes with every pending task due,
    as many batches as there are tries leave no task pending: whatever still waits has a timer
    that was given up for an operator. -/
theorem scheduler_runs_dry (d : Deployment) (now : Time) (calls : List Call) (os : List Oracle) :
    let db := serveAll d calls (migrated now)
    let last := polls d db os
    (claims d db os).sum + last.triesLeft ≤ db.triesLeft ∧
      (Punctual d db os → db.triesLeft ≤ os.length →
        (∀ t ∈ last.scheduledTasks.rows, t.status ≠ .pending) ∧
        (∀ hold ∈ last.transfers.rows, hold.status = .pendingUndo →
          ∃ t ∈ last.scheduledTasks.rows, isFor .undoSettle hold.id t = true ∧ t.status = .failed) ∧
        ∀ e ∈ last.safepayEscrows.rows, e.status = .delivered →
          ∃ t ∈ last.scheduledTasks.rows, isFor .escrowAutoRelease e.id t = true ∧ t.status = .failed) := by
  intro db last
  have hsingle : SingleTimers db.scheduledTasks.rows := serveAll_single d now calls
  have hcost : (claims d db os).sum + last.triesLeft ≤ db.triesLeft := claims_triesLeft hsingle os
  refine ⟨hcost, fun hp hlen => ?_⟩
  have hdry : ∀ t ∈ last.scheduledTasks.rows, t.status ≠ .pending := by
    intro t ht hst
    have hclaims := claims_of_pending hsingle hp ⟨t, ht, hst⟩
    have hleft := Database.triesLeft_pos.2 ⟨t, ht, hst⟩
    omega
  have htimed : last.Timed := by
    have hrun := serveAll_timed d now (calls ++ os.map fun o => ⟨o, .runDueTasks⟩)
    rw [serveAll_append, ← polls_eq] at hrun
    exact hrun
  refine ⟨hdry, fun hold hm hst => ?_, fun e he hst => ?_⟩
  · obtain ⟨t, ht, hfor, hlive⟩ := htimed.hold_timer hm hst
    exact ⟨t, ht, hfor, hlive.resolve_left (hdry t ht)⟩
  · obtain ⟨t, ht, hfor, hlive⟩ := htimed.delivery_timer he hst
    exact ⟨t, ht, hfor, hlive.resolve_left (hdry t ht)⟩

namespace Sample

/-- The first user sends the second money, whose account is closed before the window ends. -/
def sentToBanned : List Call :=
  [register 1 "01711111111", register 2 "01722222222", register 3 "01733333333",
    call 4 (.createSafepay (id 2 1) "1234" "01733333333" (.fromMinor 6000) none "a" none),
    call 5 (.createTransfer (id 1 1) "1234" "01722222222" (.fromMinor 5000) none "b" none),
    call 6 (.disputeSafepay (id 2 1) (id 4 2) "never sent" "c" none),
    call 7 (.resolveSafepay (id 4 2) .release "sent" true "d" none)]

/-- Eight polls, ten minutes apart. -/
def eightPolls : List Oracle :=
  (List.range 8).map fun k => oracle (8 + k) (start + Time.seconds (600 * (k + 1)))

end Sample

/-- The settlement fails at each of eight polls, then its timer is given up. -/
theorem settlement_given_up :
    let db := serveAll Sample.deployment Sample.sentToBanned (migrated 0)
    let last := polls Sample.deployment db Sample.eightPolls
    claims Sample.deployment db Sample.eightPolls = [1, 1, 1, 1, 1, 1, 1, 1] ∧
      ∃ hold ∈ last.transfers.rows, hold.status = .pendingUndo ∧
        ∃ t ∈ last.scheduledTasks.rows, isFor .undoSettle hold.id t = true ∧ t.status = .failed := by
  have hall : let db := serveAll Sample.deployment Sample.sentToBanned (migrated 0)
      Punctual Sample.deployment db Sample.eightPolls ∧ db.triesLeft ≤ Sample.eightPolls.length ∧
        claims Sample.deployment db Sample.eightPolls = [1, 1, 1, 1, 1, 1, 1, 1] ∧
        ∃ hold ∈ (polls Sample.deployment db Sample.eightPolls).transfers.rows,
          hold.status = .pendingUndo := by
    decide +kernel
  obtain ⟨hp, hlen, hclaims, hold, hm, hst⟩ := hall
  have hrun := (scheduler_runs_dry Sample.deployment 0 Sample.sentToBanned Sample.eightPolls).2 hp hlen
  exact ⟨hclaims, hold, hm, hst, hrun.2.1 hold hm hst⟩

end MoneyMovement

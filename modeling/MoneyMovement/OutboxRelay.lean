/-
  MoneyMovement/OutboxRelay.lean
  ==============================
  **The outbox relay** — `apps/outbox_relay/main.py`, any number of processes of
  it next to the API.

  A relay claims a batch (`FOR UPDATE SKIP LOCKED`), hands its events to the
  broker one by one, and commits once.  What the broker accepted stays accepted
  when the batch is rolled back, so `World` keeps the broker's history apart
  from the committed rows, and `step` lets a relay die at any point of its
  batch.  `Inv` relates the two: an update that says "published" is only ever
  pending for an event the broker has accepted, and a claimed row cannot change
  under its claimer.
-/
import MoneyMovement.Invariants

namespace MoneyMovement

open Txn

/-! ### What the API adds to the outbox -/

/-- Events are added at the end, and the relay has not tried them. -/
def UnsentAdded (before after : Table OutboxEventRow.id) : Prop :=
  ∃ new, after.rows = before.rows ++ new ∧ ∀ e ∈ new, e.Unsent

theorem UnsentAdded.refl (events : Table OutboxEventRow.id) : UnsentAdded events events :=
  ⟨[], (List.append_nil _).symm, nofun⟩

theorem UnsentAdded.trans {events events' events'' : Table OutboxEventRow.id}
    (h : UnsentAdded events events') (h' : UnsentAdded events' events'') :
    UnsentAdded events events'' := by
  obtain ⟨new, hrows, hnew⟩ := h
  obtain ⟨new', hrows', hnew'⟩ := h'
  refine ⟨new ++ new', by rw [hrows', hrows, List.append_assoc], ?_⟩
  intro e he
  rcases List.mem_append.1 he with he | he
  · exact hnew e he
  · exact hnew' e he

theorem UnsentAdded.find? {events events' : Table OutboxEventRow.id} (h : UnsentAdded events events')
    {id : Ulid} {e : OutboxEventRow} (he : events.find? id = some e) : events'.find? id = some e := by
  obtain ⟨new, hrows, -⟩ := h
  obtain ⟨hmem, hid⟩ := Table.find?_eq_some.1 he
  refine Table.find?_eq_some.2 ⟨?_, hid⟩
  rw [hrows]
  exact List.mem_append_left _ hmem

theorem Step.unsentAdded {c : Ctx} {L : Licence} {k k' : Config} (hs : Step c L k k') :
    UnsentAdded k.db.outboxEvents k'.db.outboxEvents := by
  have hposted : ∀ {db : Database} {p : Posting}, p.Valid c db →
      UnsentAdded db.outboxEvents (p.apply db).outboxEvents := by
    intro db p hv
    refine ⟨_, Table.rows_push hv.event_fresh, ?_⟩
    intro e he
    obtain rfl := List.mem_singleton.1 he
    exact ⟨rfl, rfl, rfl, rfl⟩
  cases hs
  case quiet he _ _ =>
    obtain ⟨new, hrows, hnew⟩ := he
    exact ⟨new, hrows, fun e he => (hnew e he).1⟩
  case post hv _ => exact hposted hv
  case repay hv _ => exact hposted hv
  all_goals exact .refl _

theorem serve_unsentAdded (d : Deployment) (call : Call) (db : Database) :
    UnsentAdded db.outboxEvents (serve d call db).outboxEvents := by
  have hsteps : ∀ {c : Ctx} {L : Licence} {k k' : Config}, Steps c L k k' →
      UnsentAdded k.db.outboxEvents k'.db.outboxEvents := by
    intro c L k k' hs
    induction hs with
    | refl => exact .refl _
    | tail _ hs ih => exact ih.trans hs.unsentAdded
  rcases serve_cases d call db with he | hs
  · rw [he]
    exact .refl _
  · exact hsteps hs

namespace OutboxRelay

/-! ### One batch -/

/-- `outbox_batch_size` and `outbox_max_attempts` with their bounds (`platform_/config.py`). -/
structure Config where
  batchSize : Nat
  maxAttempts : Nat
  batchSize_pos : 1 ≤ batchSize
  batchSize_le : batchSize ≤ 1000
  maxAttempts_pos : 1 ≤ maxAttempts

/-- The `WHERE` clause of the claim at database time `now`. -/
def claimable (now : Time) (e : OutboxEventRow) : Bool :=
  e.publishedAt.isNone && e.deadLetteredAt.isNone &&
    match e.nextAttemptAt with
    | none => true
    | some t => decide (t ≤ now)

/-- `ORDER BY occurred_at`, ties as the rows lie. -/
def Older (physical : Ulid → Nat) (a b : OutboxEventRow) : Prop :=
  a.occurredAt < b.occurredAt ∨ a.occurredAt = b.occurredAt ∧ physical a.id ≤ physical b.id

instance (physical : Ulid → Nat) : DecidableRel (Older physical) :=
  fun _ _ => inferInstanceAs (Decidable (_ ∨ _))

/-- `CLAIM_BATCH_SQL`: the claimable rows nobody holds, oldest first. -/
def claimBatch (cfg : Config) (now : Time) (physical : Ulid → Nat) (held : Ulid → Bool)
    (events : Table OutboxEventRow.id) : List OutboxEventRow :=
  ((events.rows.filter fun e => claimable now e && !held e.id).insertionSort
    (Older physical)).take cfg.batchSize

/-- `_backoff_delay`. -/
def backoffDelay (attempt : Nat) : Time := Time.seconds (min (2 ^ attempt) 300)

/-- How `broker.publish` ends, with the clocks read after a failure.  A broker that raises
    may have stored the message all the same. -/
inductive Answer where
  | confirmed
  | refused (stored : Bool) (error : String) (clock clock' : Time)

/-- Did the broker take the message? -/
def Answer.accepts : Answer → Bool
  | confirmed => true
  | refused stored .. => stored

/-- The `UPDATE` of one event. -/
inductive Update where
  | published (now : Time)
  | failed (attempt : Nat) (error : String) (nextAt : Time) (deadAt : Option Time)

def Update.apply : Update → OutboxEventRow → OutboxEventRow
  | published now, e => { e with publishedAt := some now }
  | failed attempt error nextAt deadAt, e =>
    { e with
      attemptCount := attempt, lastError := some error, nextAttemptAt := some nextAt,
      deadLetteredAt := deadAt }

@[simp] theorem Update.id_apply (u : Update) (e : OutboxEventRow) : (u.apply e).id = e.id := by
  cases u <;> rfl

/-- What the loop of `process_batch` makes of the broker's answer for a claimed row. -/
def updateFor (cfg : Config) (now : Time) (row : OutboxEventRow) : Answer → Update
  | .confirmed => .published now
  | .refused _ error clock clock' =>
    .failed (row.attemptCount + 1) (String.ofList (error.toList.take 500))
      (clock + backoffDelay (row.attemptCount + 1))
      (if cfg.maxAttempts ≤ row.attemptCount + 1 then some clock' else none)

def write (id : Ulid) (u : Update) (events : Table OutboxEventRow.id) : Table OutboxEventRow.id :=
  events.modifyAt id u.apply u.id_apply

/-- The loop of `process_batch`. -/
def processRows (cfg : Config) (now : Time) (broker : Ulid → Answer) : List OutboxEventRow → Tx Nat
  | [] => pure 0
  | row :: rows => do
    writeDb fun db => { db with
      outboxEvents := write row.id (updateFor cfg now row (broker row.id)) db.outboxEvents }
    let n ← processRows cfg now broker rows
    return match broker row.id with
      | .confirmed => n + 1
      | .refused .. => n

/-- `process_batch`, when no other relay holds a row. -/
def processBatch (cfg : Config) (now : Time) (physical : Ulid → Nat) (broker : Ulid → Answer) :
    Tx Nat := do
  let rows ← readDb fun db => claimBatch cfg now physical (fun _ => false) db.outboxEvents
  processRows cfg now broker rows

/-! ### Many relays, one broker -/

/-- A batch in flight: the database time of its transaction, the rows still to be handed to
    the broker, the updates not committed yet. -/
structure Batch where
  now : Time
  todo : List OutboxEventRow
  done : List (Ulid × Update)

/-- The committed database, the batches in flight, which relay holds which row, and what the
    broker has accepted so far. -/
structure World where
  db : Database
  relay : Nat → Option Batch
  locked : Ulid → Option Nat
  accepted : List Ulid

inductive Act where
  /-- A request of the API commits. -/
  | call (call : Call)
  | claim (p : Nat) (now : Time) (physical : Ulid → Nat)
  /-- The next row of the relay's batch goes to the broker. -/
  | publish (p : Nat) (answer : Answer)
  | commit (p : Nat)
  /-- The relay dies, or its transaction fails. -/
  | die (p : Nat)

namespace World

/-- The relay's transaction is over: its locks are released. -/
def release (w : World) (p : Nat) : World :=
  { w with
    relay := Function.update w.relay p none
    locked := fun id => if w.locked id = some p then none else w.locked id }

/-- The relay holds the rows of its batch. -/
def start (w : World) (p : Nat) (now : Time) (rows : List OutboxEventRow) : World :=
  { w with
    relay := Function.update w.relay p (some ⟨now, rows, []⟩)
    locked := fun id => if id ∈ rows.map OutboxEventRow.id then some p else w.locked id }

/-- The broker has answered for the next row of the batch. -/
def hand (w : World) (cfg : Config) (p : Nat) (now : Time) (row : OutboxEventRow)
    (rows : List OutboxEventRow) (done : List (Ulid × Update)) (answer : Answer) : World :=
  { w with
    relay := Function.update w.relay p
      (some ⟨now, rows, done ++ [(row.id, updateFor cfg now row answer)]⟩)
    accepted := if answer.accepts then w.accepted ++ [row.id] else w.accepted }

/-- The updates of a batch, in order. -/
def writes (events : Table OutboxEventRow.id) : List (Ulid × Update) → Table OutboxEventRow.id
  | [] => events
  | (id, u) :: rest => writes (write id u events) rest

end World

/-- The world after an action; one that cannot happen changes nothing. -/
def step (d : Deployment) (cfg : Config) (w : World) : Act → World
  | .call call => { w with db := serve d call w.db }
  | .claim p now physical =>
    match w.relay p with
    | none => w.start p now
        (claimBatch cfg now physical (fun id => (w.locked id).isSome) w.db.outboxEvents)
    | some _ => w
  | .publish p answer =>
    match w.relay p with
    | some ⟨now, row :: rows, done⟩ => w.hand cfg p now row rows done answer
    | _ => w
  | .commit p =>
    match w.relay p with
    | some ⟨_, [], done⟩ =>
      { w.release p with db := { w.db with outboxEvents := World.writes w.db.outboxEvents done } }
    | _ => w
  | .die p => w.release p

def run (d : Deployment) (cfg : Config) : List Act → World → World
  | [], w => w
  | a :: acts, w => run d cfg acts (step d cfg w a)

/-- The migrated database, no relay running. -/
def initial (now : Time) : World := ⟨migrated now, fun _ => none, fun _ => none, []⟩

/-! ### What holds of the rows, and of a batch in flight -/

/-- Neither published nor dead-lettered. -/
def Open (e : OutboxEventRow) : Prop := e.publishedAt = none ∧ e.deadLetteredAt = none

/-- A committed row, against the broker's history. -/
structure RowOk (cfg : Config) (accepted : List Ulid) (e : OutboxEventRow) : Prop where
  published : e.publishedAt.isSome = true → e.id ∈ accepted
  exclusive : e.publishedAt = none ∨ e.deadLetteredAt = none
  bounded : e.attemptCount ≤ cfg.maxAttempts
  dead : e.deadLetteredAt.isSome = true ↔ e.attemptCount = cfg.maxAttempts

/-- An update that may be committed to the row. -/
def Update.Due (cfg : Config) (accepted : List Ulid) (row : OutboxEventRow) : Update → Prop
  | published _ => row.id ∈ accepted
  | failed attempt _ _ deadAt =>
    attempt = row.attemptCount + 1 ∧ (deadAt.isSome = true ↔ cfg.maxAttempts ≤ attempt)

/-- A batch in flight: the relay holds every row of it, and each is still as it was claimed. -/
structure BatchOk (cfg : Config) (w : World) (p : Nat) (b : Batch) : Prop where
  distinct : (b.todo.map OutboxEventRow.id ++ b.done.map Prod.fst).Nodup
  todo : ∀ row ∈ b.todo, w.locked row.id = some p ∧
    w.db.outboxEvents.find? row.id = some row ∧ Open row
  done : ∀ x ∈ b.done, w.locked x.1 = some p ∧
    ∃ row, w.db.outboxEvents.find? x.1 = some row ∧ Open row ∧ x.2.Due cfg w.accepted row

structure Inv (cfg : Config) (w : World) : Prop where
  rows : ∀ e ∈ w.db.outboxEvents.rows, RowOk cfg w.accepted e
  batches : ∀ p b, w.relay p = some b → BatchOk cfg w p b

section Rows

variable {cfg : Config} {accepted accepted' : List Ulid} {e row : OutboxEventRow}

theorem RowOk.mono (h : RowOk cfg accepted e) (hsub : accepted ⊆ accepted') :
    RowOk cfg accepted' e :=
  { h with published := fun hp => hsub (h.published hp) }

theorem RowOk.of_unsent (h : e.Unsent) : RowOk cfg accepted e := by
  have hpos := cfg.maxAttempts_pos
  refine ⟨?_, .inl h.published, ?_, ?_⟩
  · rw [h.published]
    nofun
  · rw [h.attempts]
    exact Nat.zero_le _
  · rw [h.dead, h.attempts]
    simp only [Option.isSome_none, Bool.false_eq_true, false_iff]
    omega

/-- An open row has attempts left. -/
theorem RowOk.attempts_left (h : RowOk cfg accepted e) (ho : Open e) :
    e.attemptCount < cfg.maxAttempts := by
  refine lt_of_le_of_ne h.bounded ?_
  intro heq
  have hdead := h.dead.2 heq
  rw [ho.2] at hdead
  cases hdead

theorem Update.Due.mono {u : Update} (h : u.Due cfg accepted row) (hsub : accepted ⊆ accepted') :
    u.Due cfg accepted' row := by
  cases u with
  | published => exact hsub h
  | failed => exact h

/-- What the loop writes is due once the broker's answer is in the history. -/
theorem updateFor_due (now : Time) (answer : Answer) :
    (updateFor cfg now row answer).Due cfg
      (if answer.accepts then accepted ++ [row.id] else accepted) row := by
  cases answer with
  | confirmed =>
    show row.id ∈ accepted ++ [row.id]
    simp
  | refused stored error clock clock' =>
    refine ⟨rfl, ?_⟩
    show (if _ then some clock' else none).isSome = true ↔ _
    split <;> simp_all

theorem Update.Due.apply_ok {u : Update} (h : u.Due cfg accepted row) (hr : RowOk cfg accepted row)
    (ho : Open row) : RowOk cfg accepted (u.apply row) := by
  have hleft := hr.attempts_left ho
  cases u with
  | published now =>
    exact ⟨fun _ => h, .inr ho.2, hr.bounded, hr.dead⟩
  | failed attempt error nextAt deadAt =>
    obtain ⟨rfl, hdead⟩ := h
    refine ⟨?_, .inl ho.1, ?_, ?_⟩
    · intro hp
      exact hr.published hp
    · show row.attemptCount + 1 ≤ _
      omega
    · show deadAt.isSome = true ↔ row.attemptCount + 1 = _
      rw [hdead]
      omega

end Rows

/-! ### The claim -/

section Claim

variable {cfg : Config} {now : Time} {physical : Ulid → Nat} {held : Ulid → Bool}
  {events : Table OutboxEventRow.id} {e : OutboxEventRow}

theorem claimable_open (h : claimable now e = true) : Open e := by
  unfold claimable at h
  simp only [Bool.and_eq_true, Option.isNone_iff_eq_none] at h
  exact h.1

theorem mem_claimBatch (h : e ∈ claimBatch cfg now physical held events) :
    e ∈ events.rows ∧ claimable now e = true ∧ held e.id = false := by
  have hsorted := List.mem_of_mem_take h
  have hmem := (List.perm_insertionSort _ _).mem_iff.1 hsorted
  simpa using hmem

theorem nodup_claimBatch :
    ((claimBatch cfg now physical held events).map OutboxEventRow.id).Nodup := by
  have hall := Table.nodup_query events (fun e => claimable now e && !held e.id)
    (Older physical)
    (fun r b (hb : some r = some b) => congrArg OutboxEventRow.id (Option.some.inj hb).symm)
  rw [List.filterMap_some] at hall
  exact hall.sublist ((List.take_sublist _ _).map _)

/-- A claimable row nobody holds is in the batch, unless the batch is full of older ones. -/
theorem claimed_or_full (hmem : e ∈ events.rows) (hc : claimable now e = true)
    (hfree : held e.id = false) :
    e ∈ claimBatch cfg now physical held events ∨
      (claimBatch cfg now physical held events).length = cfg.batchSize := by
  have hcand : e ∈ events.rows.filter fun e => claimable now e && !held e.id := by
    simp [hmem, hc, hfree]
  rw [claimBatch]
  rw [← (List.perm_insertionSort (Older physical) _).mem_iff] at hcand
  generalize List.insertionSort (Older physical) _ = candidates at hcand ⊢
  by_cases hlen : candidates.length ≤ cfg.batchSize
  · left
    rw [List.take_of_length_le hlen]
    exact hcand
  · right
    rw [List.length_take]
    omega

/-- A row that is open stays claimable from its next attempt on. -/
theorem claimable_from (ho : Open e) : ∃ t, ∀ now, t ≤ now → claimable now e = true := by
  refine ⟨e.nextAttemptAt.getD 0, ?_⟩
  intro now hle
  unfold claimable
  rw [ho.1, ho.2]
  cases hn : e.nextAttemptAt with
  | none => rfl
  | some t =>
    rw [hn] at hle
    simpa using hle

end Claim

/-! ### The commit -/

section Commit

variable {events : Table OutboxEventRow.id} {id : Ulid}

/-- A row the batch does not name is left alone. -/
theorem find?_writes_of_notMem : ∀ {done : List (Ulid × Update)} {events : Table OutboxEventRow.id},
    id ∉ done.map Prod.fst → (World.writes events done).find? id = events.find? id
  | [], _, _ => rfl
  | (id', u) :: rest, events, h => by
    obtain ⟨hne, hrest⟩ := not_or.1 (List.mem_cons.not.1 h)
    rw [World.writes, find?_writes_of_notMem hrest, write, Table.find?_modifyAt, if_neg hne]

theorem find?_writes_of_mem {u : Update} : ∀ {done : List (Ulid × Update)}
    {events : Table OutboxEventRow.id}, (done.map Prod.fst).Nodup → (id, u) ∈ done →
      (World.writes events done).find? id = (events.find? id).map u.apply
  | (id', u') :: rest, events, hnodup, hmem => by
    obtain ⟨hnotMem, hrest⟩ := List.nodup_cons.1 hnodup
    rw [World.writes]
    rcases List.mem_cons.1 hmem with heq | htail
    · cases heq
      rw [find?_writes_of_notMem hnotMem, write, Table.find?_modifyAt, if_pos rfl]
    · have hne : id ≠ id' := by
        rintro rfl
        exact hnotMem (List.mem_map.2 ⟨_, htail, rfl⟩)
      rw [find?_writes_of_mem hrest htail, write, Table.find?_modifyAt, if_neg hne]

end Commit

/-! ### The actions -/

section Actions

variable {d : Deployment} {cfg : Config} {w : World} {p q : Nat} {b : Batch}

/-- A batch does not see what leaves its rows and its locks alone. -/
theorem BatchOk.mono {w' : World} (h : BatchOk cfg w p b) (hsub : w.accepted ⊆ w'.accepted)
    (hlock : ∀ id, w.locked id = some p → w'.locked id = some p)
    (hfind : ∀ id e, w.locked id = some p → w.db.outboxEvents.find? id = some e →
      w'.db.outboxEvents.find? id = some e) : BatchOk cfg w' p b := by
  refine ⟨h.distinct, ?_, ?_⟩
  · intro row hrow
    obtain ⟨hl, hf, ho⟩ := h.todo row hrow
    exact ⟨hlock _ hl, hfind _ _ hl hf, ho⟩
  · intro x hx
    obtain ⟨hl, row, hf, ho, hdue⟩ := h.done x hx
    exact ⟨hlock _ hl, row, hfind _ _ hl hf, ho, hdue.mono hsub⟩

theorem Inv.call (h : Inv cfg w) (call : Call) : Inv cfg { w with db := serve d call w.db } := by
  have hadded := serve_unsentAdded d call w.db
  constructor
  · obtain ⟨new, hrows, hnew⟩ := hadded
    intro e he
    dsimp only at he
    rw [hrows] at he
    rcases List.mem_append.1 he with he | he
    · exact h.rows e he
    · exact .of_unsent (hnew e he)
  · intro p b hb
    exact (h.batches p b hb).mono (List.Subset.refl _) (fun _ hl => hl)
      (fun _ _ _ hf => hadded.find? hf)

theorem Inv.release (h : Inv cfg w) (p : Nat) : Inv cfg (w.release p) := by
  refine ⟨h.rows, ?_⟩
  intro q b hb
  dsimp only [World.release] at hb
  by_cases hq : q = p
  · subst hq
    rw [Function.update_self] at hb
    cases hb
  · rw [Function.update_of_ne hq] at hb
    refine (h.batches q b hb).mono (List.Subset.refl _) ?_ (fun _ _ _ hf => hf)
    intro id hl
    show (if w.locked id = some p then none else w.locked id) = some q
    rw [if_neg (by rw [hl]; simpa using hq)]
    exact hl

theorem Inv.claim (h : Inv cfg w) (now : Time) (physical : Ulid → Nat) :
    Inv cfg (w.start p now
      (claimBatch cfg now physical (fun id => (w.locked id).isSome) w.db.outboxEvents)) := by
  generalize hrows : claimBatch cfg now physical (fun id => (w.locked id).isSome)
    w.db.outboxEvents = rows
  have hfree : ∀ row ∈ rows, w.locked row.id = none := by
    rintro row hrow
    rw [← hrows] at hrow
    simpa using (mem_claimBatch hrow).2.2
  refine ⟨h.rows, ?_⟩
  intro q b hb
  dsimp only [World.start] at hb
  by_cases hq : q = p
  · subst hq
    rw [Function.update_self] at hb
    obtain rfl := Option.some.inj hb
    refine ⟨?_, ?_, nofun⟩
    · rw [List.map_nil, List.append_nil]
      show (rows.map OutboxEventRow.id).Nodup
      rw [← hrows]
      exact nodup_claimBatch
    · intro row hrow
      have hclaimed : row ∈ rows := hrow
      rw [← hrows] at hclaimed
      obtain ⟨hmem, hc, -⟩ := mem_claimBatch hclaimed
      exact ⟨if_pos (List.mem_map_of_mem hrow), Table.find?_of_mem hmem, claimable_open hc⟩
  · rw [Function.update_of_ne hq] at hb
    refine (h.batches q b hb).mono (List.Subset.refl _) ?_ (fun _ _ _ hf => hf)
    intro id hl
    show (if id ∈ rows.map OutboxEventRow.id then some p else w.locked id) = some q
    rw [if_neg]
    · exact hl
    · rintro hmem
      obtain ⟨row, hrow, rfl⟩ := List.mem_map.1 hmem
      rw [hfree row hrow] at hl
      cases hl

theorem Inv.publish {now : Time} {row : OutboxEventRow} {rows : List OutboxEventRow}
    {done : List (Ulid × Update)} (h : Inv cfg w) (hp : w.relay p = some ⟨now, row :: rows, done⟩)
    (answer : Answer) : Inv cfg (w.hand cfg p now row rows done answer) := by
  have hsub : w.accepted ⊆ if answer.accepts then w.accepted ++ [row.id] else w.accepted := by
    split
    · exact List.subset_append_left _ _
    · exact List.Subset.refl _
  refine ⟨fun e he => (h.rows e he).mono hsub, ?_⟩
  intro q b hb
  dsimp only [World.hand] at hb
  by_cases hq : q = p
  · subst hq
    rw [Function.update_self] at hb
    cases hb
    obtain ⟨hdistinct, htodo, hdone⟩ := h.batches q _ hp
    refine ⟨?_, fun r hr => htodo r (List.mem_cons_of_mem _ hr), ?_⟩
    · rw [List.map_append, ← List.append_assoc]
      refine (List.Perm.nodup_iff ?_).1 hdistinct
      exact (List.perm_append_singleton row.id _).symm
    · intro x hx
      rcases List.mem_append.1 hx with hx | hx
      · obtain ⟨hl, r, hf, ho, hdue⟩ := hdone x hx
        exact ⟨hl, r, hf, ho, hdue.mono hsub⟩
      · obtain rfl := List.mem_singleton.1 hx
        obtain ⟨hl, hf, ho⟩ := htodo row List.mem_cons_self
        exact ⟨hl, row, hf, ho, updateFor_due now answer⟩
  · rw [Function.update_of_ne hq] at hb
    exact (h.batches q b hb).mono hsub (fun _ hl => hl) (fun _ _ _ hf => hf)

theorem Inv.commit {now : Time} {done : List (Ulid × Update)} (h : Inv cfg w)
    (hp : w.relay p = some ⟨now, [], done⟩) :
    Inv cfg { w.release p with
      db := { w.db with outboxEvents := World.writes w.db.outboxEvents done } } := by
  obtain ⟨hdistinct, -, hdone⟩ := h.batches p _ hp
  rw [List.map_nil, List.nil_append] at hdistinct
  have hothers : ∀ q id, q ≠ p → w.locked id = some q → id ∉ done.map Prod.fst := by
    intro q id hq hl hmem
    obtain ⟨x, hx, rfl⟩ := List.mem_map.1 hmem
    rw [(hdone x hx).1] at hl
    exact hq (Option.some.inj hl).symm
  constructor
  · intro e he
    have hfind := Table.find?_of_mem he
    dsimp only at hfind
    by_cases hmem : e.id ∈ done.map Prod.fst
    · obtain ⟨⟨id, u⟩, hx, hid⟩ := List.mem_map.1 hmem
      dsimp only at hid
      subst hid
      obtain ⟨-, row, hf, ho, hdue⟩ := hdone _ hx
      rw [find?_writes_of_mem hdistinct hx, hf, Option.map_some] at hfind
      rw [← Option.some.inj hfind]
      exact hdue.apply_ok (h.rows row (Table.mem_of_find? hf)) ho
    · rw [find?_writes_of_notMem hmem] at hfind
      exact h.rows e (Table.mem_of_find? hfind)
  · intro q b hb
    have hq : q ≠ p := by
      rintro rfl
      dsimp only [World.release] at hb
      rw [Function.update_self] at hb
      cases hb
    have hrest := (h.release p).batches q b hb
    refine hrest.mono (List.Subset.refl _) (fun _ hl => hl) ?_
    intro id e hl hf
    have hl' : w.locked id = some q := by
      dsimp only [World.release] at hl
      split at hl
      · cases hl
      · exact hl
    exact (find?_writes_of_notMem (hothers q id hq hl')).trans hf

theorem Inv.step (h : Inv cfg w) (a : Act) : Inv cfg (step d cfg w a) := by
  cases a with
  | call call => exact h.call call
  | claim p now physical =>
    dsimp only [OutboxRelay.step]
    split
    · exact h.claim now physical
    · exact h
  | publish p answer =>
    dsimp only [OutboxRelay.step]
    split
    · exact h.publish ‹_› answer
    · exact h
  | commit p =>
    dsimp only [OutboxRelay.step]
    split
    · exact h.commit ‹_›
    · exact h
  | die p => exact h.release p

theorem Inv.run (acts : List Act) : ∀ {w : World}, Inv cfg w → Inv cfg (run d cfg acts w) := by
  induction acts with
  | nil => exact fun h => h
  | cons a acts ih => exact fun h => ih (h.step a)

theorem Inv.initial (now : Time) : Inv cfg (initial now) := by
  refine ⟨?_, nofun⟩
  intro e he
  cases he

/-- A locked row belongs to a relay with a batch in flight. -/
def Held (w : World) : Prop := ∀ id p, w.locked id = some p → (w.relay p).isSome = true

theorem Held.update {b : Batch} (h : Held w) (p : Nat) {id : Ulid} (hl : w.locked id = some q) :
    (Function.update w.relay p (some b) q).isSome = true := by
  by_cases hq : q = p
  · rw [hq, Function.update_self]
    rfl
  · rw [Function.update_of_ne hq]
    exact h id q hl

theorem Held.release (h : Held w) (p : Nat) : Held (w.release p) := by
  intro id q hl
  dsimp only [World.release] at hl ⊢
  split at hl
  · cases hl
  · rename_i hne
    rw [Function.update_of_ne]
    · exact h id q hl
    · rintro rfl
      exact hne hl

theorem Held.step (h : Held w) (a : Act) : Held (step d cfg w a) := by
  cases a with
  | call call => exact h
  | claim p now physical =>
    dsimp only [OutboxRelay.step]
    split
    · intro id q hl
      dsimp only [World.start] at hl ⊢
      split at hl
      · rw [← Option.some.inj hl, Function.update_self]
        rfl
      · exact h.update p hl
    · exact h
  | publish p answer =>
    dsimp only [OutboxRelay.step]
    split
    · exact fun id q hl => h.update p hl
    · exact h
  | commit p =>
    dsimp only [OutboxRelay.step]
    split
    · exact h.release p
    · exact h
  | die p => exact h.release p

theorem Held.run (acts : List Act) : ∀ {w : World}, Held w → Held (run d cfg acts w) := by
  induction acts with
  | nil => exact fun h => h
  | cons a acts ih => exact fun h => ih (h.step a)

/-- Whoever held a row, it is free once that relay is gone. -/
theorem locked_after_die (id : Ulid) (p : Nat) (h : w.locked id = some p) :
    (step d cfg w (.die p)).locked id = none := if_pos h

/-- A relay's action leaves every other table alone. -/
theorem step_frame (a : Act) (ha : ∀ call, a ≠ .call call) :
    ∃ events, (step d cfg w a).db = { w.db with outboxEvents := events } := by
  cases a with
  | call call => exact absurd rfl (ha call)
  | claim p now physical =>
    dsimp only [OutboxRelay.step]
    split <;> exact ⟨_, rfl⟩
  | publish p answer =>
    dsimp only [OutboxRelay.step]
    split <;> exact ⟨_, rfl⟩
  | commit p =>
    dsimp only [OutboxRelay.step]
    split <;> exact ⟨_, rfl⟩
  | die p => exact ⟨_, rfl⟩

end Actions

/-! ### One process alone -/

section Alone

variable (d : Deployment) (cfg : Config) (p : Nat) (now : Time) (broker : Ulid → Answer)

/-- The updates the loop makes for the rows. -/
def updates (rows : List OutboxEventRow) : List (Ulid × Update) :=
  rows.map fun row => (row.id, updateFor cfg now row (broker row.id))

theorem processRows_db : ∀ (rows : List OutboxEventRow) (s : Session), ∃ n,
    processRows cfg now broker rows s = .ok n { s with db := { s.db with
      outboxEvents := World.writes s.db.outboxEvents (updates cfg now broker rows) } }
  | [], s => ⟨0, rfl⟩
  | row :: rows, s => by
    obtain ⟨n, hn⟩ := processRows_db rows { s with db := { s.db with
      outboxEvents := write row.id (updateFor cfg now row (broker row.id)) s.db.outboxEvents } }
    refine ⟨match broker row.id with | .confirmed => n + 1 | .refused .. => n, ?_⟩
    rw [processRows]
    refine Txn.bind_ok.2 ⟨_, _, rfl, ?_⟩
    exact Txn.bind_ok.2 ⟨_, _, hn, rfl⟩

/-- The broker's answers to the rows of a batch, one action each. -/
theorem run_publish : ∀ (rows : List OutboxEventRow) (done : List (Ulid × Update)) (w : World),
    w.relay p = some ⟨now, rows, done⟩ → ∃ accepted,
      run d cfg (rows.map fun row => .publish p (broker row.id)) w = { w with
        relay := Function.update w.relay p (some ⟨now, [], done ++ updates cfg now broker rows⟩)
        accepted := accepted }
  | [], done, w, hp => by
    refine ⟨w.accepted, ?_⟩
    show w = _
    rw [updates, List.map_nil, List.append_nil, ← hp, Function.update_eq_self]
  | row :: rows, done, w, hp => by
    rw [List.map_cons, run]
    dsimp only [step]
    rw [hp]
    dsimp only
    obtain ⟨accepted, hrun⟩ := run_publish rows _
      (w.hand cfg p now row rows done (broker row.id)) (Function.update_self ..)
    refine ⟨accepted, hrun.trans ?_⟩
    simp [updates, World.hand]

theorem run_append (acts acts' : List Act) :
    ∀ w, run d cfg (acts ++ acts') w = run d cfg acts' (run d cfg acts w) := by
  induction acts with
  | nil => exact fun _ => rfl
  | cons a acts ih => exact fun w => ih (step d cfg w a)

/-- The actions of one iteration in which nothing goes wrong. -/
def iteration (physical : Ulid → Nat) (events : Table OutboxEventRow.id) : List Act :=
  .claim p now physical ::
    ((claimBatch cfg now physical (fun _ => false) events).map fun row =>
      .publish p (broker row.id)) ++ [.commit p]

/-- A relay that finds nobody else at work commits what `process_batch` computes. -/
theorem processBatch_run {w : World} (physical : Ulid → Nat) (s : Session)
    (hidle : w.relay p = none) (hfree : ∀ id, w.locked id = none) (hdb : s.db = w.db) :
    ∃ n, processBatch cfg now physical broker s = .ok n { s with
      db := (run d cfg (iteration cfg p now broker physical w.db.outboxEvents) w).db } := by
  have hheld : (fun id => (w.locked id).isSome) = fun _ => false := by
    funext id
    rw [hfree id]
    rfl
  generalize hrows : claimBatch cfg now physical (fun _ => false) w.db.outboxEvents = rows
  have hstep : step d cfg w (.claim p now physical) = w.start p now rows := by
    dsimp only [step]
    rw [hidle, ← hrows, ← hheld]
  obtain ⟨accepted, hpublish⟩ := run_publish d cfg p now broker rows []
    (w.start p now rows) (Function.update_self ..)
  obtain ⟨n, hn⟩ := processRows_db cfg now broker rows s
  refine ⟨n, ?_⟩
  have hrun : (run d cfg (iteration cfg p now broker physical w.db.outboxEvents) w).db =
      { w.db with
        outboxEvents := World.writes w.db.outboxEvents (updates cfg now broker rows) } := by
    rw [iteration, hrows, List.cons_append, run, run_append, hstep, hpublish]
    simp only [run, step, Function.update_self, List.nil_append]
    rfl
  rw [hrun, ← hdb]
  refine Txn.bind_ok.2 ⟨rows, s, readDb_ok.2 ⟨?_, rfl⟩, hn⟩
  rw [hdb, hrows]

end Alone

/-! ### Every run -/

/-- With any number of relays next to the API, any answers of the broker and any crashes: an
    event is marked published only after the broker took it, never both published and
    dead-lettered, dead-lettered exactly when its attempts are used up; an event that is
    neither stays claimable from some time on and is claimed then, or older events fill the
    batch; a row is held by a relay at work only, and free once that one is gone; and a relay
    writes to no other table. -/
theorem relay_is_safe (d : Deployment) (cfg : Config) (now : Time) (acts : List Act) :
    (∀ e ∈ (run d cfg acts (initial now)).db.outboxEvents.rows,
      (e.publishedAt.isSome = true → e.id ∈ (run d cfg acts (initial now)).accepted) ∧
      ¬ (e.publishedAt.isSome = true ∧ e.deadLetteredAt.isSome = true) ∧
      (e.deadLetteredAt.isSome = true ↔ e.attemptCount = cfg.maxAttempts) ∧
      e.attemptCount ≤ cfg.maxAttempts ∧
      (e.publishedAt = none → e.deadLetteredAt = none → ∃ t, ∀ now', t ≤ now' →
        claimable now' e = true ∧
        ∀ physical held, held e.id = false →
          e ∈ claimBatch cfg now' physical held
            (run d cfg acts (initial now)).db.outboxEvents ∨
          (claimBatch cfg now' physical held
            (run d cfg acts (initial now)).db.outboxEvents).length = cfg.batchSize)) ∧
    (∀ id p, (run d cfg acts (initial now)).locked id = some p →
      ((run d cfg acts (initial now)).relay p).isSome = true ∧
      (step d cfg (run d cfg acts (initial now)) (.die p)).locked id = none) ∧
    ∀ a, (∀ call, a ≠ .call call) →
      ∃ events, (step d cfg (run d cfg acts (initial now)) a).db =
        { (run d cfg acts (initial now)).db with outboxEvents := events } := by
  have hinv : Inv cfg (run d cfg acts (initial now)) := Inv.run acts (.initial now)
  have hheld : Held (run d cfg acts (initial now)) := Held.run acts nofun
  refine ⟨?_, fun id p hl => ⟨hheld id p hl, locked_after_die id p hl⟩, fun a ha => step_frame a ha⟩
  intro e he
  have hrow := hinv.rows e he
  refine ⟨hrow.published, ?_, hrow.dead, hrow.bounded, ?_⟩
  · rintro ⟨hp, hd⟩
    rcases hrow.exclusive with hnone | hnone
    · rw [hnone] at hp
      cases hp
    · rw [hnone] at hd
      cases hd
  · intro hp hd
    obtain ⟨t, ht⟩ := claimable_from ⟨hp, hd⟩
    refine ⟨t, fun now' hle => ⟨ht now' hle, ?_⟩⟩
    intro physical held hfree
    exact claimed_or_full he (ht now' hle) hfree

end OutboxRelay

end MoneyMovement

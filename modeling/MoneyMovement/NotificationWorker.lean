/-
  MoneyMovement/NotificationWorker.lean
  =====================================
  **The notification consumer** — `apps/notification_worker/main.py`, any number
  of workers on one queue that may deliver an event again and again.

  A worker inserts the event's inbox row, delivers the notification and commits.
  The notification cannot be taken back, the inbox row can: `World` keeps the
  delivered notifications apart from the committed inbox, and a worker may die at
  any point.  The row is only ever committed behind its notification.  A worker
  that dies between the two loses the row and not the notification, and the next
  delivery of the event repeats it.
-/
import MoneyMovement.JsonText
import MoneyMovement.NearestDouble
import MoneyMovement.Records

namespace MoneyMovement.NotificationWorker

/-! ### The message and its notification -/

def CONSUMER_NAME : String := "notification-worker"

/-- What `json.loads` makes of a body; `payload` is `none` when it is not an object. -/
structure Envelope where
  eventId : Option Ulid
  eventType : String
  payload : Option Payload
deriving DecidableEq

/-- Digits, the last one first, with a comma after every third. -/
def grouped : List Char → List Char
  | a :: b :: c :: d :: rest => a :: b :: c :: ',' :: grouped (d :: rest)
  | short => short

/-- A number of hundredths with the sign, the commas and the two decimals of `:,.2f`. -/
def hundredthsText (negative : Bool) (n : Nat) : String :=
  let units := (grouped (Nat.toDigits 10 (n / 100)).reverse).reverse
  let cents := Nat.toDigits 10 (n % 100)
  .ofList ((if negative then ['-'] else []) ++ units ++ '.' ::
    (if cents.length < 2 then '0' :: cents else cents))

/-- `f"{minor / 100:,.2f}"`; `none` when no float reaches the quotient. -/
def amountText (minor : Int) : Option String :=
  let amount := Binary64.nearest minor.natAbs 100
  if amount.finite then some (hundredthsText (decide (minor < 0)) (amount.decimals 2)) else none

/-- Below `2 ^ 52` the float shows the amount itself. -/
theorem amountText_of_lt {minor : Int} (h : minor.natAbs < 2 ^ 52) :
    amountText minor = some (hundredthsText (decide (minor < 0)) minor.natAbs) := by
  have hfinite : (Binary64.nearest minor.natAbs 100).finite = true :=
    Binary64.finite_nearest (h.trans (by decide))
  have hexact : (Binary64.nearest minor.natAbs 100).decimals 2 = minor.natAbs :=
    Binary64.decimals_nearest 2 h
  rw [amountText, hfinite, if_pos rfl, hexact]

example : amountText 7036874417766401 = some "70,368,744,177,664.02" := by decide +kernel

/-- How an f-string prints the value of a field, or its absence. -/
def fieldText : Option Scalar → String
  | none | some .null => "None"
  | some (.bool b) => if b then "True" else "False"
  | some (.int i) => toString i
  | some (.str s) => s

/-- `payload.get("amountMinor", 0)`, if it can be divided. -/
def amountMinor (payload : Payload) : Option Int :=
  match payload.lookup "amountMinor" with
  | none => some 0
  | some (.int i) => some i
  | some (.bool b) => some (if b then 1 else 0)
  | some _ => none

/-- `_describe`; `none` when it raises. -/
def describe (eventType : String) (payload : Payload) : Option String :=
  (amountMinor payload).bind fun minor => (amountText minor).map fun amount =>
    let reference := fieldText (payload.lookup "reference")
    let requestId := fieldText (payload.lookup "requestId")
    if eventType = "financial.transfer.succeeded.v1" then
      "Transfer " ++ reference ++ " of BDT " ++ amount ++ " completed"
    else if eventType = "money_request.created.v1" then
      "New money request " ++ reference ++ " for BDT " ++ amount
    else if eventType = "money_request.accepted.v1" then
      "Money request " ++ requestId ++ " was paid"
    else if eventType = "money_request.rejected.v1" then
      "Money request " ++ requestId ++ " was declined"
    else "Event " ++ eventType

/-! ### Workers, inbox and notifications -/

/-- `ConsumerInboxRecord`. -/
structure ConsumerInboxRecord where
  consumerName : String
  eventId : Ulid
  processedAt : Time
deriving DecidableEq

/-- The composite primary key. -/
def ConsumerInboxRecord.key (r : ConsumerInboxRecord) : String × Ulid := (r.consumerName, r.eventId)

/-- Where a worker is in `handle_message`. -/
inductive Phase where
  | idle
  /-- The body is read, the session open. -/
  | received (envelope : Envelope)
  /-- `_claim_event` has inserted the row, not committed. -/
  | claimed (eventId : Ulid) (envelope : Envelope) (record : ConsumerInboxRecord)
  /-- The notification is out, the row not committed. -/
  | delivered (eventId : Ulid) (record : ConsumerInboxRecord)
deriving DecidableEq

/-- The committed inbox, the worker whose uncommitted row holds an event, the notifications
    delivered so far, and where each worker is. -/
structure World where
  inbox : Table ConsumerInboxRecord.key
  holder : Ulid → Option Nat
  notified : List (Ulid × String)
  worker : Nat → Phase

inductive Act where
  /-- The broker delivers a message to an idle worker; `none` when the body is not JSON. -/
  | deliver (p : Nat) (body : Option Envelope)
  /-- The `INSERT` of `_claim_event`, at database time `now`. -/
  | claim (p : Nat) (now : Time)
  /-- The notification. -/
  | notify (p : Nat)
  | commit (p : Nat)
  /-- The worker dies or loses its connection: its transaction is rolled back. -/
  | die (p : Nat)

namespace World

def goto (w : World) (p : Nat) (phase : Phase) : World :=
  { w with worker := Function.update w.worker p phase }

/-- The worker's transaction is over. -/
def release (w : World) (p : Nat) : World :=
  { w with
    worker := Function.update w.worker p .idle
    holder := fun id => if w.holder id = some p then none else w.holder id }

/-- The row a claim inserts. -/
def row (id : Ulid) (now : Time) : ConsumerInboxRecord := ⟨CONSUMER_NAME, id, now⟩

end World

open World

/-- The world after an action; one that cannot happen changes nothing. -/
def step (w : World) : Act → World
  | .deliver p body =>
    match w.worker p, body with
    | .idle, some envelope => w.goto p (.received envelope)
    | _, _ => w
  | .claim p now =>
    match w.worker p with
    | .received envelope =>
      match envelope.eventId with
      -- NULL in a primary key is an IntegrityError as well: rolled back, ignored as a duplicate.
      | none => w.release p
      | some id =>
        match w.inbox.find? (CONSUMER_NAME, id), w.holder id with
        | some _, _ => w.release p
        | none, none =>
          { w.goto p (.claimed id envelope (row id now)) with
            holder := Function.update w.holder id (some p) }
        -- Another transaction has inserted the key: the INSERT waits for its end.
        | none, some _ => w
    | _ => w
  | .notify p =>
    match w.worker p with
    | .claimed id envelope record =>
      match envelope.payload.bind (describe envelope.eventType) with
      | some text =>
        { w.goto p (.delivered id record) with notified := w.notified ++ [(id, text)] }
      | none => w.release p
    | _ => w
  | .commit p =>
    match w.worker p with
    | .delivered _ record => { w.release p with inbox := w.inbox.push record }
    | _ => w
  | .die p => w.release p

def run : List Act → World → World
  | [], w => w
  | a :: acts, w => run acts (step w a)

/-- No worker has started, nothing is recorded. -/
def initial : World := ⟨.empty, fun _ => none, [], fun _ => .idle⟩

/-! ### The row comes after the notification -/

/-- The event whose inbox row a worker has inserted and not committed. -/
def Phase.event? : Phase → Option Ulid
  | claimed id .. | delivered id _ => some id
  | _ => none

namespace World

/-- The events notified so far, one entry for each time. -/
def events (w : World) : List Ulid := w.notified.map Prod.fst

def recorded (w : World) (id : Ulid) : Prop := w.inbox.find? (CONSUMER_NAME, id) ≠ none

end World

/-- A worker in the middle of an event: it alone holds the event, nobody has recorded it. -/
structure InFlight (w : World) (p : Nat) (id : Ulid) : Prop where
  held : w.holder id = some p
  unrecorded : ¬w.recorded id

structure Inv (w : World) : Prop where
  inFlight : ∀ p id, (w.worker p).event? = some id → InFlight w p id
  claimed : ∀ p id envelope record, w.worker p = .claimed id envelope record →
    record.key = (CONSUMER_NAME, id)
  delivered : ∀ p id record, w.worker p = .delivered id record →
    record.key = (CONSUMER_NAME, id) ∧ id ∈ w.events
  backed : ∀ record ∈ w.inbox.rows, record.eventId ∈ w.events

section Runs

variable {w : World} {p q : Nat} {id : Ulid}

theorem initial_inv : Inv initial where
  inFlight := nofun
  claimed := nofun
  delivered := nofun
  backed := nofun

/-- Two workers never hold one event. -/
theorem Inv.eq (h : Inv w) (hp : (w.worker p).event? = some id) (hq : (w.worker q).event? = some id) :
    p = q :=
  Option.some.inj ((h.inFlight p id hp).held.symm.trans (h.inFlight q id hq).held)

theorem worker_release_of_ne (h : q ≠ p) : (w.release p).worker q = w.worker q :=
  Function.update_of_ne h _ _

theorem worker_release_self : (w.release p).worker p = .idle := Function.update_self _ _ _

/-- Whoever is not idle after a release is another worker, where it was. -/
theorem worker_of_release {phase : Phase} (h : (w.release p).worker q = phase) (hne : phase ≠ .idle) :
    q ≠ p ∧ w.worker q = phase := by
  by_cases hq : q = p
  · rw [hq, worker_release_self] at h
    exact absurd h.symm hne
  · rw [worker_release_of_ne hq] at h
    exact ⟨hq, h⟩

theorem worker_of_goto {phase phase' : Phase} (h : (w.goto p phase).worker q = phase') :
    q = p ∧ phase = phase' ∨ q ≠ p ∧ w.worker q = phase' := by
  by_cases hq : q = p
  · subst hq
    exact .inl ⟨rfl, (Function.update_self _ _ _).symm.trans h⟩
  · exact .inr ⟨hq, (Function.update_of_ne hq _ _).symm.trans h⟩

theorem event?_of_goto {phase : Phase} (h : ((w.goto p phase).worker q).event? = some id) :
    q = p ∧ phase.event? = some id ∨ q ≠ p ∧ (w.worker q).event? = some id := by
  rcases worker_of_goto (rfl : _ = (w.goto p phase).worker q) with ⟨hq, he⟩ | ⟨hq, he⟩
  · exact .inl ⟨hq, he ▸ h⟩
  · exact .inr ⟨hq, he ▸ h⟩

theorem event?_of_release (h : ((w.release p).worker q).event? = some id) :
    q ≠ p ∧ (w.worker q).event? = some id := by
  by_cases hq : q = p
  · rw [hq, worker_release_self] at h
    cases h
  · rw [worker_release_of_ne hq] at h
    exact ⟨hq, h⟩

theorem holder_release_of_ne (h : w.holder id = some q) (hq : q ≠ p) :
    (w.release p).holder id = some q := by
  show (if _ then _ else _) = _
  rw [if_neg, h]
  rw [h]
  exact fun he => hq (Option.some.inj he)

theorem Inv.release (h : Inv w) (p : Nat) : Inv (w.release p) where
  inFlight q id hq := by
    obtain ⟨hne, hq⟩ := event?_of_release hq
    exact ⟨holder_release_of_ne (h.inFlight q id hq).held hne, (h.inFlight q id hq).unrecorded⟩
  claimed q id envelope record hq := h.claimed q id envelope record (worker_of_release hq nofun).2
  delivered q id record hq := h.delivered q id record (worker_of_release hq nofun).2
  backed := h.backed

theorem Inv.receive (h : Inv w) (p : Nat) (envelope : Envelope) :
    Inv (w.goto p (.received envelope)) where
  inFlight q id hq := by
    rcases event?_of_goto hq with ⟨-, hq⟩ | ⟨-, hq⟩
    · cases hq
    · exact ⟨(h.inFlight q id hq).held, (h.inFlight q id hq).unrecorded⟩
  claimed q id envelope record hq := by
    rcases worker_of_goto hq with ⟨-, hq⟩ | ⟨-, hq⟩
    · cases hq
    · exact h.claimed q id envelope record hq
  delivered q id record hq := by
    rcases worker_of_goto hq with ⟨-, hq⟩ | ⟨-, hq⟩
    · cases hq
    · exact h.delivered q id record hq
  backed := h.backed

theorem Inv.claim (h : Inv w) {envelope : Envelope} {now : Time} (hfree : w.holder id = none)
    (hnew : w.inbox.find? (CONSUMER_NAME, id) = none) :
    Inv { w.goto p (.claimed id envelope (row id now)) with
      holder := Function.update w.holder id (some p) } where
  inFlight q id' hq := by
    have hgoto : ((w.goto p (.claimed id envelope (row id now))).worker q).event? = some id' := hq
    rcases event?_of_goto hgoto with ⟨rfl, he⟩ | ⟨-, hq⟩
    · cases he
      exact ⟨Function.update_self _ _ _, not_not.2 hnew⟩
    · have hheld := (h.inFlight q id' hq).held
      have hne : id' ≠ id := by
        rintro rfl
        cases hfree.symm.trans hheld
      exact ⟨(Function.update_of_ne hne _ _).trans hheld, (h.inFlight q id' hq).unrecorded⟩
  claimed q id' envelope' record hq := by
    rcases worker_of_goto hq with ⟨-, hq⟩ | ⟨-, hq⟩
    · cases hq
      rfl
    · exact h.claimed q id' envelope' record hq
  delivered q id' record hq := by
    rcases worker_of_goto hq with ⟨-, hq⟩ | ⟨-, hq⟩
    · cases hq
    · exact h.delivered q id' record hq
  backed := h.backed

theorem Inv.notify (h : Inv w) {envelope : Envelope} {record : ConsumerInboxRecord} {text : String}
    (hp : w.worker p = .claimed id envelope record) :
    Inv { w.goto p (.delivered id record) with notified := w.notified ++ [(id, text)] } where
  inFlight q id' hq := by
    have hgoto : ((w.goto p (.delivered id record)).worker q).event? = some id' := hq
    rcases event?_of_goto hgoto with ⟨rfl, he⟩ | ⟨-, hq⟩
    · cases he
      have hevent : (w.worker q).event? = some id := by rw [hp]; rfl
      exact ⟨(h.inFlight q id hevent).held, (h.inFlight q id hevent).unrecorded⟩
    · exact ⟨(h.inFlight q id' hq).held, (h.inFlight q id' hq).unrecorded⟩
  claimed q id' envelope' record' hq := by
    rcases worker_of_goto hq with ⟨-, hq⟩ | ⟨-, hq⟩
    · cases hq
    · exact h.claimed q id' envelope' record' hq
  delivered q id' record' hq := by
    rcases worker_of_goto hq with ⟨-, hq⟩ | ⟨-, hq⟩
    · cases hq
      exact ⟨h.claimed p id envelope record hp, by simp [World.events]⟩
    · refine ⟨(h.delivered q id' record' hq).1, ?_⟩
      rw [World.events, List.map_append]
      exact List.mem_append_left _ (h.delivered q id' record' hq).2
  backed record' hr := by
    rw [World.events, List.map_append]
    exact List.mem_append_left _ (h.backed record' hr)

theorem Inv.commit (h : Inv w) {record : ConsumerInboxRecord} (hp : w.worker p = .delivered id record) :
    Inv { w.release p with inbox := w.inbox.push record } := by
  obtain ⟨hkey, hevent⟩ := h.delivered p id record hp
  have hflight : (w.worker p).event? = some id := by rw [hp]; rfl
  have hnew : w.inbox.find? record.key = none := by
    rw [hkey]
    exact not_not.1 (h.inFlight p id hflight).unrecorded
  refine ⟨?_, (h.release p).claimed, (h.release p).delivered, ?_⟩
  · intro q id' hq
    obtain ⟨hne, hq'⟩ := event?_of_release hq
    refine ⟨((h.release p).inFlight q id' hq).held, ?_⟩
    show ¬(w.inbox.push record).find? (CONSUMER_NAME, id') ≠ none
    rw [Table.find?_push hnew, hkey, if_neg]
    · exact (h.inFlight q id' hq').unrecorded
    · intro he
      exact hne (h.eq hq' ((congrArg some (Prod.mk.inj he).2) ▸ hflight))
  · intro record' hr
    rcases (Table.mem_push hnew).1 hr with hr | rfl
    · exact h.backed record' hr
    · rw [show record'.eventId = id from (Prod.mk.inj hkey).2]
      exact hevent

theorem Inv.step (h : Inv w) (a : Act) : Inv (step w a) := by
  cases a with
  | deliver p body =>
    simp only [NotificationWorker.step]
    split
    · exact h.receive p _
    · exact h
  | claim p now =>
    simp only [NotificationWorker.step]
    split
    · split
      · exact h.release p
      · split
        · exact h.release p
        · rename_i hnew hfree
          exact h.claim hfree hnew
        · exact h
    · exact h
  | notify p =>
    simp only [NotificationWorker.step]
    split
    · rename_i hp
      split
      · exact h.notify hp
      · exact h.release p
    · exact h
  | commit p =>
    simp only [NotificationWorker.step]
    split
    · rename_i hp
      exact h.commit hp
    · exact h
  | die p => exact h.release p

theorem Inv.run (h : Inv w) (acts : List Act) : Inv (run acts w) := by
  induction acts generalizing w with
  | nil => exact h
  | cons a acts ih => exact ih (h.step a)

/-! ### At most once -/

/-- No event has been notified twice, and a notified event is recorded or its worker is about
    to record it. -/
structure Once (w : World) : Prop where
  nodup : w.events.Nodup
  kept : ∀ id ∈ w.events, w.recorded id ∨ ∃ p record, w.worker p = .delivered id record

/-- The worker that dies has not delivered a notification it has still to record. -/
def Spares (w : World) : Act → Prop
  | .die p => ∀ id record, w.worker p ≠ .delivered id record
  | _ => True

/-- Every step of the run spares the workers that have just delivered. -/
def RunSpares : List Act → World → Prop
  | [], _ => True
  | a :: acts, w => Spares w a ∧ RunSpares acts (step w a)

theorem initial_once : Once initial := ⟨List.nodup_nil, nofun⟩

theorem Once.of_workers {w' : World} (h : Once w) (hevents : w'.events = w.events)
    (hinbox : w'.inbox = w.inbox)
    (hworker : ∀ q id record, w.worker q = .delivered id record → w'.worker q = .delivered id record) :
    Once w' := by
  refine ⟨hevents ▸ h.nodup, ?_⟩
  intro id hid
  rw [hevents] at hid
  rcases h.kept id hid with hrec | ⟨q, record, hq⟩
  · exact .inl (by rw [recorded, hinbox]; exact hrec)
  · exact .inr ⟨q, record, hworker q id record hq⟩

theorem Once.release (h : Once w) (hp : ∀ id record, w.worker p ≠ .delivered id record) :
    Once (w.release p) := by
  refine h.of_workers rfl rfl ?_
  intro q id record hq
  have hne : q ≠ p := by
    rintro rfl
    exact hp id record hq
  rw [worker_release_of_ne hne, hq]

theorem Once.goto (h : Once w) {phase : Phase} (hp : ∀ id record, w.worker p ≠ .delivered id record) :
    Once (w.goto p phase) := by
  refine h.of_workers rfl rfl ?_
  intro q id record hq
  have hne : q ≠ p := by
    rintro rfl
    exact hp id record hq
  exact (Function.update_of_ne hne _ _).trans hq

/-- The event of a claim has not been notified: it is not recorded, and no other worker has it. -/
theorem Once.not_mem_of_claimed (h : Once w) (hinv : Inv w) {envelope : Envelope}
    {record : ConsumerInboxRecord} (hp : w.worker p = .claimed id envelope record) :
    id ∉ w.events := by
  intro hmem
  have hclaimed : (w.worker p).event? = some id := by rw [hp]; rfl
  rcases h.kept id hmem with hrec | ⟨q, record', hq⟩
  · exact (hinv.inFlight p id hclaimed).unrecorded hrec
  · have hdelivered : (w.worker q).event? = some id := by rw [hq]; rfl
    obtain rfl := hinv.eq hclaimed hdelivered
    cases hp.symm.trans hq

theorem Once.notify (h : Once w) (hinv : Inv w) {envelope : Envelope} {record : ConsumerInboxRecord}
    {text : String} (hp : w.worker p = .claimed id envelope record) :
    Once { w.goto p (.delivered id record) with notified := w.notified ++ [(id, text)] } := by
  have hnew := h.not_mem_of_claimed hinv hp
  have hgoto : Once (w.goto p (.delivered id record)) := h.goto (by rw [hp]; nofun)
  constructor
  · rw [World.events, List.map_append]
    exact List.nodup_append.2 ⟨h.nodup, List.nodup_singleton _, by
      rintro x hx y hy rfl
      obtain rfl := List.mem_singleton.1 hy
      exact hnew hx⟩
  · intro id' hid
    rw [World.events, List.map_append] at hid
    rcases List.mem_append.1 hid with hid | hid
    · exact hgoto.kept id' hid
    · obtain rfl := List.mem_singleton.1 hid
      exact .inr ⟨p, record, Function.update_self _ _ _⟩

theorem Once.commit (h : Once w) (hinv : Inv w) {record : ConsumerInboxRecord}
    (hp : w.worker p = .delivered id record) :
    Once { w.release p with inbox := w.inbox.push record } := by
  obtain ⟨hkey, -⟩ := hinv.delivered p id record hp
  have hflight : (w.worker p).event? = some id := by rw [hp]; rfl
  have hnew : w.inbox.find? record.key = none := by
    rw [hkey]
    exact not_not.1 (hinv.inFlight p id hflight).unrecorded
  refine ⟨h.nodup, ?_⟩
  intro id' hid
  by_cases hid' : id' = id
  · left
    show (w.inbox.push record).find? (CONSUMER_NAME, id') ≠ none
    rw [Table.find?_push hnew, hkey, hid', if_pos rfl]
    nofun
  · rcases h.kept id' hid with hrec | ⟨q, record', hq⟩
    · left
      show (w.inbox.push record).find? (CONSUMER_NAME, id') ≠ none
      rw [Table.find?_push hnew, hkey, if_neg (fun he => hid' (Prod.mk.inj he).2.symm)]
      exact hrec
    · have hne : q ≠ p := by
        rintro rfl
        cases hp.symm.trans hq
        exact hid' rfl
      exact .inr ⟨q, record', (worker_release_of_ne hne).trans hq⟩

theorem Once.step (h : Once w) (hinv : Inv w) {a : Act} (ha : Spares w a) : Once (step w a) := by
  cases a with
  | deliver p body =>
    simp only [NotificationWorker.step]
    split
    · rename_i hp
      exact h.goto (by rw [hp]; intro _ _ hq; cases hq)
    · exact h
  | claim p now =>
    simp only [NotificationWorker.step]
    split
    · rename_i hp
      have hdelivered : ∀ id record, w.worker p ≠ .delivered id record := by
        rw [hp]
        intro _ _ hq
        cases hq
      split
      · exact h.release hdelivered
      · split
        · exact h.release hdelivered
        · exact (h.goto hdelivered).of_workers rfl rfl fun _ _ _ hq => hq
        · exact h
    · exact h
  | notify p =>
    simp only [NotificationWorker.step]
    split
    · rename_i hp
      split
      · exact h.notify hinv hp
      · exact h.release (by rw [hp]; intro _ _ hq; cases hq)
    · exact h
  | commit p =>
    simp only [NotificationWorker.step]
    split
    · rename_i hp
      exact h.commit hinv hp
    · exact h
  | die p => exact h.release ha

theorem Once.run (h : Once w) (hinv : Inv w) {acts : List Act} (hspares : RunSpares acts w) :
    Once (run acts w) := by
  induction acts generalizing w with
  | nil => exact h
  | cons a acts ih => exact ih (h.step hinv hspares.1) (hinv.step a) hspares.2

end Runs

/-- In every run in which no worker dies between its notification and its commit, an event is
    notified at most once; and, whoever dies, an inbox row stands for a notification only. -/
theorem notified_at_most_once (acts : List Act) (hspares : RunSpares acts initial) :
    (∀ id, (run acts initial).events.count id ≤ 1) ∧
      ∀ record ∈ (run acts initial).inbox.rows, record.eventId ∈ (run acts initial).events := by
  have honce := initial_once.run initial_inv hspares
  exact ⟨fun id => List.nodup_iff_count_le_one.1 honce.nodup id, (initial_inv.run acts).backed⟩

namespace Sample

def event : Ulid := ⟨1, 1⟩

def message : Option Envelope :=
  some ⟨some event, "money_request.accepted.v1", some [("requestId", .str "R1")]⟩

/-- Two workers get the event; the second waits for the first, and finds the row. -/
def shared : List Act :=
  [.deliver 0 message, .deliver 1 message, .claim 0 0, .claim 1 0, .notify 0, .commit 0, .claim 1 0]

/-- The worker dies before its commit, and the broker delivers the event again. -/
def repeated : List Act :=
  [.deliver 0 message, .claim 0 0, .notify 0, .die 0, .deliver 1 message, .claim 1 0, .notify 1,
    .commit 1]

end Sample

theorem shared_event_notified_once :
    (run Sample.shared initial).events = [Sample.event] ∧
      (run Sample.shared initial).events.count Sample.event ≤ 1 := by
  have hspares : RunSpares Sample.shared initial := by
    simp [RunSpares, Spares, Sample.shared]
  exact ⟨by decide, (notified_at_most_once Sample.shared hspares).1 Sample.event⟩

/-- A death between the notification and the commit makes it two. -/
theorem repeated_event_notified_twice :
    (run Sample.repeated initial).events = [Sample.event, Sample.event] ∧
      ¬∀ id, (run Sample.repeated initial).events.count id ≤ 1 := by
  have hevents : (run Sample.repeated initial).events = [Sample.event, Sample.event] := by decide
  refine ⟨hevents, fun h => ?_⟩
  have hle := h Sample.event
  rw [hevents] at hle
  exact absurd hle (by decide)

end MoneyMovement.NotificationWorker

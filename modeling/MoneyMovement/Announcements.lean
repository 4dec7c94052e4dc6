/-
  MoneyMovement/Announcements.lean
  ================================
  **The event of a transfer, and the status of the transfer.**

  Every execution writes one `TransferSucceeded` event, whatever status its
  command gives the transfer.  So every transfer has exactly one such event, and
  the event of a hold is there before the hold is settled, and stays when it is
  refunded.
-/
import MoneyMovement.Entitlements

namespace MoneyMovement

/-! ### One event for each transfer -/

theorem mem_transferEvents {db : Database} {e : OutboxEventRow} :
    e ∈ db.transferEvents ↔ e ∈ db.outboxEvents.rows ∧ e.eventType = .transferSucceeded := by
  unfold Database.transferEvents
  rw [List.mem_filter, beq_iff_eq]

namespace Journalled

variable {db : Database}

theorem event_transfers (h : Journalled db) :
    db.transferEvents.map OutboxEventRow.aggregateId = db.transfers.rows.map TransferRow.id := by
  rw [h.transfers]
  have := congrArg (List.map Prod.snd) h.events
  simpa [List.map_map, Function.comp_def] using this

/-- An event is about a transfer that exists. -/
theorem event_transfer (h : Journalled db) {e : OutboxEventRow} (he : e ∈ db.transferEvents) :
    ∃ t ∈ db.transfers.rows, t.id = e.aggregateId := by
  have hmem : e.aggregateId ∈ db.transferEvents.map OutboxEventRow.aggregateId :=
    List.mem_map_of_mem he
  rw [h.event_transfers] at hmem
  exact List.mem_map.1 hmem

/-- A transfer has one event. -/
theorem transfer_event (h : Journalled db) {t : TransferRow} (ht : t ∈ db.transfers.rows) :
    ∃! e, e ∈ db.outboxEvents.rows ∧ e.eventType = .transferSucceeded ∧ e.aggregateId = t.id := by
  have hmem : t.id ∈ db.transfers.rows.map TransferRow.id := List.mem_map_of_mem ht
  rw [← h.event_transfers] at hmem
  obtain ⟨e, he, hid⟩ := List.mem_map.1 hmem
  obtain ⟨hrow, htype⟩ := mem_transferEvents.1 he
  refine ⟨e, ⟨hrow, htype, hid⟩, ?_⟩
  rintro e' ⟨hrow', htype', hid'⟩
  have hnodup : (db.transferEvents.map OutboxEventRow.aggregateId).Nodup := by
    rw [h.event_transfers]
    exact db.transfers.nodup
  exact List.inj_on_of_nodup_map hnodup (mem_transferEvents.2 ⟨hrow', htype'⟩) he
    (hid'.trans hid.symm)

end Journalled

/-! ### Holds -/

def TransferKind.isHold : TransferKind → Bool
  | .undoHold | .escrowHold => true
  | _ => false

/-- The requests that take a hold: a send and the creation of a SafePay order. -/
def Request.takesHold : Request → Bool
  | .createTransfer .. | .createSafepay .. => true
  | _ => false

theorem Request.takesHold_of_posts {req : Request} {kind : TransferKind} (hk : kind.isHold = true)
    (h : req.posts kind = true) : req.takesHold = true := by
  have hkind : kind = .undoHold ∨ kind = .escrowHold := by
    cases kind <;> simp_all [TransferKind.isHold]
  cases req
  case createTransfer => rfl
  case createSafepay => rfl
  all_goals rcases hkind with rfl | rfl <;> cases h

theorem TransferRow.StatusOk.succeeded {t : TransferRow} (h : t.StatusOk) (hk : t.kind.isHold = false) :
    t.status = .succeeded := by
  unfold TransferRow.StatusOk at h
  cases hkind : t.kind <;> rw [hkind] at hk <;> simp only [hkind] at h <;>
    first | exact h | exact absurd hk (by decide)

/-- A run without sends and SafePay orders has no holds. -/
theorem serveAll_no_holds {d : Deployment} {calls : List Call} {db : Database}
    (hcalls : ∀ call ∈ calls, call.request.takesHold = false)
    (h : ∀ t ∈ db.transfers.rows, t.kind.isHold = false) :
    ∀ t ∈ (serveAll d calls db).transfers.rows, t.kind.isHold = false := by
  induction calls generalizing db with
  | nil => exact h
  | cons call calls ih =>
    refine ih (fun x hx => hcalls x (List.mem_cons_of_mem _ hx)) ?_
    intro t ht
    have hnone := hcalls call List.mem_cons_self
    rcases serve_cases d call db with he | hsteps
    · rw [he] at ht
      exact h t ht
    · rcases Steps.new_transfers hsteps t ht with ⟨t₀, ht₀⟩ | hposts | hrepay
      · obtain ⟨t', ht', hsame⟩ := hsteps.grows.transfer _ _ ht₀
        rw [Table.find?_of_mem ht] at ht'
        cases ht'
        obtain ⟨_, _, rfl⟩ := hsame
        exact h t₀ (Table.mem_of_find? ht₀)
      · by_contra hk
        rw [Request.takesHold_of_posts (by simpa using hk) hposts] at hnone
        cases hnone
      · rw [hrepay]
        rfl

/-! ### Every run -/

/-- Every `TransferSucceeded` event is about a transfer that succeeded. -/
def EventsTruthful (db : Database) : Prop :=
  ∀ e ∈ db.outboxEvents.rows, e.eventType = .transferSucceeded →
    ∃ t ∈ db.transfers.rows, t.id = e.aggregateId ∧ t.status = .succeeded

instance (db : Database) : Decidable (EventsTruthful db) :=
  inferInstanceAs (Decidable (∀ e ∈ db.outboxEvents.rows, _ → _))

/-- A transfer that succeeded has one event; the events are truthful exactly as long as every
    hold was settled to its receiver. -/
theorem succeeded_events_truthful_iff (d : Deployment) (now : Time) (calls : List Call) :
    let db := serveAll d calls (migrated now)
    (∀ t ∈ db.transfers.rows, t.status = .succeeded → ∃! e, e ∈ db.outboxEvents.rows ∧
      e.eventType = .transferSucceeded ∧ e.aggregateId = t.id) ∧
    (EventsTruthful db ↔
      ∀ t ∈ db.transfers.rows, t.kind.isHold = true → t.status = .succeeded) ∧
    ((∀ call ∈ calls, call.request.takesHold = false) → EventsTruthful db) := by
  intro db
  have hinv : db.Inv d := serveAll_inv d now calls
  have hiff : EventsTruthful db ↔
      ∀ t ∈ db.transfers.rows, t.kind.isHold = true → t.status = .succeeded := by
    constructor
    · intro h t ht _
      obtain ⟨e, ⟨he, htype, hid⟩, -⟩ := hinv.journalled.transfer_event ht
      obtain ⟨t', ht', hid', hs⟩ := h e he htype
      obtain rfl := Table.eq_of_key ht' ht (hid'.trans hid)
      exact hs
    · intro h e he htype
      obtain ⟨t, ht, hid⟩ := hinv.journalled.event_transfer (mem_transferEvents.2 ⟨he, htype⟩)
      refine ⟨t, ht, hid, ?_⟩
      by_cases hk : t.kind.isHold = true
      · exact h t ht hk
      · exact (hinv.routes.status t ht).succeeded (by simpa using hk)
  refine ⟨fun t ht _ => hinv.journalled.transfer_event ht, hiff, ?_⟩
  intro hcalls
  refine hiff.2 fun t ht hk => ?_
  have hstart : ∀ t ∈ (migrated now).transfers.rows, t.kind.isHold = false := by
    intro t ht
    cases ht
  have hnone : t.kind.isHold = false := serveAll_no_holds hcalls hstart t ht
  rw [hk] at hnone
  cases hnone

namespace Sample

/-- Two users register, and the first sends the second money. -/
def sentOnce : List Call :=
  [register 1 "01711111111", register 2 "01722222222",
    call 3 (.createTransfer (id 1 1) "1234" "01722222222" (.fromMinor 5000) none "key" none)]

end Sample

/-- The event of a send is there while the sender can still undo it. -/
theorem hold_announced_as_succeeded :
    let db := serveAll Sample.deployment Sample.sentOnce (migrated 0)
    ¬EventsTruthful db ∧
      (db.transfers.rows.filter fun t => t.kind.isHold).map (fun t => t.status) = [.pendingUndo] := by
  decide +kernel

end MoneyMovement

/-
  MoneyMovement/CourierEvents.lean
  ================================
  **How often a courier event takes effect.**

  `courier_delivered` looks for the newest escrow with the event's tracking
  number and reserves the event's id under that escrow's *seller*.  While the
  event finds the parcels of one seller the second delivery meets the record of
  the first; when a later parcel of another seller carries the same tracking
  number, the key is a new one and the event is applied again.

  `CourierEvent.along` collects what the deliveries of one event do in a run;
  `event_takes_effect_once` bounds it in every run in which the event finds
  parcels of one seller only, and `event_takes_effect_twice` is a run in which
  it does not.
-/
import MoneyMovement.Entitlements
import MoneyMovement.Replay

namespace MoneyMovement

open Txn DoubleEntry

/-! ### One event in a run -/

/-- What a courier signs and may send any number of times. -/
structure CourierEvent where
  courier : String
  eventId : String
  trackingNumber : String
  releaseImmediately : Bool
deriving DecidableEq

namespace CourierEvent

/-- The request delivers the event. -/
def deliveredBy (ev : CourierEvent) : Request → Bool
  | .courierWebhook courier eventId tracking releaseNow _ =>
    decide (ev = ⟨courier, eventId, tracking, releaseNow⟩)
  | _ => false

/-- What the deliveries of the event do in a run, one after the other. -/
def along {α : Type} (ev : CourierEvent) (d : Deployment) (effect : Database → Database → List α) :
    List Call → Database → List α
  | [], _ => []
  | call :: calls, db =>
    (if ev.deliveredBy call.request then effect db (serve d call db) else []) ++
      along ev d effect calls (serve d call db)

/-- The delivery finds this escrow, and its parcel is on the way. -/
def Finds (ev : CourierEvent) (c : Ctx) (db : Database) (e : EscrowRow) : Prop :=
  SqlSafePayRepository.findByTracking c ev.courier ev.trackingNumber (begin db) =
    .ok (some e) (begin db) ∧ e.status = .shipped

/-- Whatever parcel on the way a delivery of the event finds in the run is `seller`'s. -/
def OneSeller (ev : CourierEvent) (d : Deployment) (seller : Ulid) : List Call → Database → Prop
  | [], _ => True
  | call :: calls, db =>
    (ev.deliveredBy call.request = true → ∀ e, ev.Finds (d.ctx call.oracle) db e →
      e.sellerUserId = seller) ∧ OneSeller ev d seller calls (serve d call db)

instance (ev : CourierEvent) (c : Ctx) (db : Database) (seller : Ulid) :
    Decidable (∀ e, ev.Finds c db e → e.sellerUserId = seller) :=
  match h : SqlSafePayRepository.findByTracking c ev.courier ev.trackingNumber (begin db) with
  | .ok (some e) _ => decidable_of_iff (e.status = .shipped → e.sellerUserId = seller)
      ⟨fun hs x hx => by
        have hfound := h.symm.trans hx.1
        cases hfound
        exact hs hx.2, fun hs hst => hs e ⟨by
        have hsame := (SqlSafePayRepository.findByTracking_ok h).1
        rw [h, ← hsame], hst⟩⟩
  | .ok none _ => isTrue fun x hx => by cases h.symm.trans hx.1
  | .raised _ _ => isTrue fun x hx => by cases h.symm.trans hx.1

/-- Whether it finds one seller's parcels can be computed. -/
def decideOneSeller (ev : CourierEvent) (d : Deployment) (seller : Ulid) :
    (calls : List Call) → (db : Database) → Decidable (ev.OneSeller d seller calls db)
  | [], _ => isTrue trivial
  | call :: calls, db =>
    have : Decidable (ev.OneSeller d seller calls (serve d call db)) :=
      decideOneSeller ev d seller calls (serve d call db)
    inferInstanceAs (Decidable (_ ∧ _))

instance (ev : CourierEvent) (d : Deployment) (seller : Ulid) (calls : List Call) (db : Database) :
    Decidable (ev.OneSeller d seller calls db) := decideOneSeller ev d seller calls db

end CourierEvent

/-- The escrows whose status is another one after a call. -/
def statusChanges (before after : Database) : List Ulid :=
  (after.safepayEscrows.rows.filter fun e =>
    match before.safepayEscrows.find? e.id with
    | none => false
    | some e₀ => decide (e₀.status ≠ e.status)).map EscrowRow.id

/-- The payouts to sellers a call has added. -/
def payouts (before after : Database) : List Ulid :=
  (after.transfers.rows.filter fun t =>
    decide (t.kind = .escrowRelease ∧ before.transfers.find? t.id = none)).map TransferRow.id

/-! ### One delivery -/

section Delivery

variable {d : Deployment} {ev : CourierEvent} {call : Call} {db : Database}

/-- The licence of a delivery that found the escrow `e`. -/
def deliveryLicence (c : Ctx) (e : Ulid) : Licence where
  post := fun db d p d' => Warrant c db p d d'
  answer := Answerable c
  escrow := fun id _ => id = e
  ask := False
  request := fun _ _ => False
  task := fun _ _ => True

theorem deliveryLicence_sound (c : Ctx) (e : Ulid) : (deliveryLicence c e).Sound c where
  post _ _ _ _ h := h
  answer _ h := h

/-- What a delivery that changed anything has done: its escrow's seller had not used the
    event's id, and has used it now. -/
structure Delivered (c : Ctx) (courier eventId tracking : String) (s s' : Session) (e : EscrowRow) :
    Prop where
  found : SqlSafePayRepository.findByTracking c courier tracking s = .ok (some e) s
  fresh : s.db.idempotencyRecords.find? (SafePayService.courierTriple e courier eventId) = none
  spent : (s'.db.idempotencyRecords.find?
    (SafePayService.courierTriple e courier eventId)).isSome = true
  shipped : e.status = .shipped ∨
    s'.db.safepayEscrows = s.db.safepayEscrows ∧ s'.db.transfers = s.db.transfers
  steps : Steps c (deliveryLicence c e.id) ⟨.idle, s.db⟩ ⟨.idle, s'.db⟩

theorem SafePayService.courierDelivered_cases {c : Ctx} {courier eventId tracking : String}
    {releaseNow : Bool} {b : Body} {s s' : Session}
    (h : SafePayService.courierDelivered c courier tracking eventId releaseNow s = .ok b s') :
    s'.db = s.db ∨ ∃ e, Delivered c courier eventId tracking s s' e := by
  have hall := h
  obtain ⟨found, s₁, h₁, h⟩ := bind_ok.1 h
  obtain ⟨rfl, -⟩ := SqlSafePayRepository.findByTracking_ok h₁
  obtain ⟨e, s₂, h₂, h⟩ := bind_ok.1 h
  obtain ⟨rfl, rfl⟩ := orRaise_ok.1 h₂
  obtain ⟨now, s₁, -, ⟨-, b, e₁, hk⟩ | ⟨hn, e₁, hk⟩⟩ := shell_cases h
  · obtain ⟨-, rfl⟩ := pure_ok.1 hk
    exact .inl e₁
  right
  have hdeliver : MayDeliver c (deliveryLicence c e.id) releaseNow e.id :=
    ⟨rfl, fun _ => rfl, fun _ _ _ _ _ _ _ => trivial⟩
  refine ⟨e, h₁, hn, ?_, ?_, ?_⟩
  · have hsteps := SafePayService.courierReserved_steps (L := deliveryLicence c e.id) (f := "")
      (fun _ _ _ _ _ hw => hw) (fun _ ha => ha) (fun _ => hdeliver) hk
    refine hsteps.records_extend _ ?_
    dsimp only
    rw [e₁]
    exact Option.isSome_iff_exists.2 ⟨_, Table.find?_push_self hn⟩
  · by_cases hst : e.status = .shipped
    · exact .inl hst
    right
    obtain ⟨body, s₃, h₃, hk⟩ := bind_ok.1 hk
    obtain ⟨_, s₄, h₄, hk⟩ := bind_ok.1 hk
    obtain ⟨-, rfl⟩ := pure_ok.1 hk
    unfold SafePayService.complete SqlIdempotencyRepository.complete at h₄
    have hsame : s₁ = s₃ := by
      unfold courierEvent at h₃
      cases hst' : e.status <;> simp only [hst'] at h₃
      case shipped => exact absurd hst' hst
      case released | refunded | disputed => exact (pure_ok.1 h₃).2
      case awaitingShipment | delivered | cancelled => exact (raise_ok.1 h₃).elim
    rw [writeDb_ok h₄, ← hsame, e₁]
    exact ⟨rfl, rfl⟩
  · refine Exists.elim (SafePayService.courierDelivered_answered (fun _ _ _ _ _ hw => hw)
      (fun _ ha => ha) ?_ hall) fun _ ha => ha.2.steps
    intro x hx _
    rw [h₁] at hx
    cases hx
    exact hdeliver

/-- A delivery of the event changes nothing, or uses the event's id up. -/
theorem CourierEvent.serve_cases (d : Deployment) (db : Database) (hev : ev.deliveredBy call.request = true) :
    serve d call db = db ∨ ∃ e s', s'.db = serve d call db ∧
      Delivered (d.ctx call.oracle) ev.courier ev.eventId ev.trackingNumber (begin db) s' e := by
  rcases commit_cases (handle (d.ctx call.oracle) call.request) db with ⟨r, s, hok, he⟩ | he
  swap
  · exact .inl he
  change serve d call db = s.db at he
  obtain ⟨o, req⟩ := call
  cases req <;> try cases hev
  case courierWebhook courier eventId tracking releaseNow signature =>
    obtain rfl := of_decide_eq_true hev
    obtain ⟨b, s₁, h₁, hok⟩ := bind_ok.1 hok
    obtain ⟨-, rfl⟩ := pure_ok.1 hok
    obtain ⟨_, s₂, h₂, h₁⟩ := bind_ok.1 h₁
    obtain ⟨-, rfl⟩ := ensure_ok.1 h₂
    rcases SafePayService.courierDelivered_cases h₁ with hsame | ⟨e, hdelivered⟩
    · exact .inl (he.trans hsame)
    · exact .inr ⟨e, s₁, he.symm, hdelivered⟩

/-- A list without repetitions whose members are all equal has at most one. -/
theorem length_le_one_of_forall_eq {α : Type} {l : List α} (hnodup : l.Nodup)
    (h : ∀ x ∈ l, ∀ y ∈ l, x = y) : l.length ≤ 1 := by
  cases l with
  | nil => exact Nat.zero_le _
  | cons x l =>
    rw [List.eq_replicate_of_mem fun y hy => h y hy x List.mem_cons_self] at hnodup
    exact List.nodup_replicate.1 hnodup

theorem mem_statusChanges {before after : Database} {id : Ulid} :
    id ∈ statusChanges before after ↔ ∃ e₀ e, before.safepayEscrows.find? id = some e₀ ∧
      after.safepayEscrows.find? id = some e ∧ e₀.status ≠ e.status := by
  unfold statusChanges
  rw [List.mem_map]
  constructor
  · rintro ⟨e, he, rfl⟩
    obtain ⟨hmem, hne⟩ := List.mem_filter.1 he
    split at hne
    · cases hne
    · rename_i e₀ hb
      exact ⟨e₀, e, hb, Table.find?_of_mem hmem, of_decide_eq_true hne⟩
  · rintro ⟨e₀, e, hb, ha, hne⟩
    obtain rfl : e.id = id := Table.key_of_find? ha
    refine ⟨e, List.mem_filter.2 ⟨Table.mem_of_find? ha, ?_⟩, rfl⟩
    rw [hb]
    exact decide_eq_true hne

theorem nodup_statusChanges (before after : Database) : (statusChanges before after).Nodup :=
  after.safepayEscrows.nodup.sublist (List.filter_sublist.map _)

theorem mem_payouts {before after : Database} {id : Ulid} :
    id ∈ payouts before after ↔ ∃ t ∈ after.transfers.rows, t.id = id ∧ t.kind = .escrowRelease ∧
      before.transfers.find? id = none := by
  unfold payouts
  simp only [List.mem_map, List.mem_filter, decide_eq_true_eq]
  constructor
  · rintro ⟨t, ⟨ht, hk, hn⟩, rfl⟩
    exact ⟨t, ht, rfl, hk, hn⟩
  · rintro ⟨t, ht, rfl, hk, hn⟩
    exact ⟨t, ⟨ht, hk, hn⟩, rfl⟩

theorem nodup_payouts (before after : Database) : (payouts before after).Nodup :=
  after.transfers.nodup.sublist (List.filter_sublist.map _)

/-- Only the escrow the delivery found can change its status. -/
theorem Delivered.statusChanges {c : Ctx} {courier eventId tracking : String} {s s' : Session}
    {e : EscrowRow} (h : Delivered c courier eventId tracking s s' e)
    (hinv : Invariant c.settings c.crypto ⟨.idle, s.db⟩) :
    ∀ id ∈ statusChanges s.db s'.db, id = e.id := by
  intro id hid
  obtain ⟨x₀, x, hx₀, hx, hne⟩ := mem_statusChanges.1 hid
  have hmoves := Steps.escrowMoves h.steps (deliveryLicence_sound c e.id) hinv
  obtain ⟨x', hx', hmoved⟩ := hmoves.kept _ _ hx₀
  obtain rfl := Option.some.inj (hx'.symm.trans hx)
  obtain rfl : x₀.id = id := Table.key_of_find? hx₀
  rcases hmoved with rfl | ⟨-, -, ⟨hsame, -⟩ | hl⟩
  · exact absurd rfl hne
  · exact absurd hsame.symm hne
  · exact hl

/-- An escrow stays, and stays about the same deal. -/
theorem serve_escrow (call : Call) (hinv : db.Inv d) {id : Ulid} {e : EscrowRow}
    (he : db.safepayEscrows.find? id = some e) :
    ∃ e', (serve d call db).safepayEscrows.find? id = some e' ∧ e.SameDeal e' := by
  rcases MoneyMovement.serve_cases d call db with hsame | hs
  · rw [hsame]
    exact ⟨e, he, rfl, rfl, rfl, rfl, rfl⟩
  · obtain ⟨e', he', hmoved⟩ := (Steps.escrowMoves hs (licence_sound _ _ _) hinv).kept _ _ he
    refine ⟨e', he', ?_⟩
    rcases hmoved with rfl | ⟨-, hdeal, -⟩
    · exact ⟨rfl, rfl, rfl, rfl, rfl⟩
    · exact hdeal

/-- A payout closes an escrow: the one its hold belongs to. -/
theorem payout_closes (hinv : db.Inv d) (hinv' : (serve d call db).Inv d) {id : Ulid}
    (hid : id ∈ payouts db (serve d call db)) :
    ∃ t ∈ (serve d call db).transfers.rows, t.id = id ∧
    ∃ e ∈ (serve d call db).safepayEscrows.rows, e.id ∈ statusChanges db (serve d call db) ∧
      t.parentTransferId = some e.holdTransferId := by
  obtain ⟨t, ht, rfl, hk, hnew⟩ := mem_payouts.1 hid
  refine ⟨t, ht, rfl, ?_⟩
  have hroute := hinv'.routes.routed t ht
  unfold Routed at hroute
  rw [hk] at hroute
  obtain ⟨-, -, h, hold, hp, hf, hkind, -⟩ := hroute
  obtain rfl : hold.id = h := Table.key_of_find? hf
  obtain ⟨⟨pending, hpending, hst⟩, hdone⟩ := leg_posted_with_latch hinv hinv' ht hnew
    (by rw [hk]; rfl) hp hf (.inr hkind)
  have hkind₀ : pending.kind = .escrowHold := by
    rcases MoneyMovement.serve_cases d call db with he | hs
    · rw [he] at hf
      cases hf.symm.trans hpending
      exact hkind
    · obtain ⟨hold', hf', _, _, rfl⟩ := hs.grows.transfer _ _ hpending
      cases hf.symm.trans hf'
      exact hkind
  have hcovered := hinv.latches.covered pending (Table.mem_of_find? hpending) hkind₀
  obtain ⟨e₀, he₀, hhold⟩ | hduty := hcovered
  swap
  · cases hduty
  rw [Table.key_of_find? hpending] at hhold
  obtain ⟨e, he, hsame⟩ := serve_escrow call hinv (Table.find?_of_mem he₀)
  have hhold' : e.holdTransferId = hold.id := hsame.hold.trans hhold
  refine ⟨e, Table.mem_of_find? he, mem_statusChanges.2 ⟨e₀, e, ?_, ?_, ?_⟩, hhold' ▸ hp⟩
  · rw [hsame.id]
    exact Table.find?_of_mem he₀
  · rw [hsame.id]
    exact he
  · -- open before, since its hold was pending; closed now, since its hold is not
    obtain ⟨hold₀, hf₀, -, hstatus₀⟩ := hinv.escrow_status he₀
    rw [hhold, hpending] at hf₀
    cases hf₀
    obtain ⟨hold₁, hf₁, -, hstatus₁⟩ := hinv'.escrow_status (Table.mem_of_find? he)
    rw [hhold', hf] at hf₁
    cases hf₁
    intro heq
    rw [heq] at hstatus₀
    rcases hstatus₁ with ⟨-, hheld⟩ | ⟨hreleased, -⟩ | ⟨hrefunded, -⟩
    · exact hdone (.inr hheld)
    · rw [hreleased] at hstatus₀
      rcases hstatus₀ with ⟨hopen, -⟩ | ⟨-, hs⟩ | ⟨hs, -⟩
      · cases hopen
      · rw [hs] at hst
        rcases hst with hst | hst <;> cases hst
      · cases hs
    · rw [hrefunded] at hstatus₀
      rcases hstatus₀ with ⟨hopen, -⟩ | ⟨hs, -⟩ | ⟨-, hs⟩
      · cases hopen
      · cases hs
      · rw [hs] at hst
        rcases hst with hst | hst <;> cases hst

/-- What is the same in both databases has not changed. -/
theorem no_statusChanges {before after : Database}
    (h : after.safepayEscrows = before.safepayEscrows) : statusChanges before after = [] := by
  apply List.eq_nil_iff_forall_not_mem.2
  intro id hid
  obtain ⟨e₀, e, he₀, he, hne⟩ := mem_statusChanges.1 hid
  rw [h, he₀] at he
  cases he
  exact hne rfl

theorem no_payouts {before after : Database} (h : after.transfers = before.transfers) :
    payouts before after = [] := by
  apply List.eq_nil_iff_forall_not_mem.2
  intro id hid
  obtain ⟨t, ht, rfl, -, hn⟩ := mem_payouts.1 hid
  rw [h] at ht
  rw [Table.find?_of_mem ht] at hn
  cases hn

/-- One delivery changes the status of one escrow at most, and pays out once at most. -/
theorem CourierEvent.delivery_once (hinv : db.Inv d) (hinv' : (serve d call db).Inv d)
    (hev : ev.deliveredBy call.request = true) :
    (statusChanges db (serve d call db)).length ≤ 1 ∧ (payouts db (serve d call db)).length ≤ 1 := by
  rcases ev.serve_cases d db hev with hsame | ⟨e, s', hs', hdelivered⟩
  · rw [hsame, no_statusChanges rfl, no_payouts rfl]
    exact ⟨Nat.zero_le _, Nat.zero_le _⟩
  have honly : ∀ id ∈ statusChanges db (serve d call db), id = e.id := by
    rw [← hs']
    exact hdelivered.statusChanges hinv
  constructor
  · apply length_le_one_of_forall_eq (nodup_statusChanges _ _)
    intro x hx y hy
    exact (honly x hx).trans (honly y hy).symm
  · apply length_le_one_of_forall_eq (nodup_payouts _ _)
    intro x hx y hy
    obtain ⟨t, ht, rfl, e₁, he₁, hchanged₁, hp⟩ := payout_closes hinv hinv' hx
    obtain ⟨t', ht', rfl, e₂, he₂, hchanged₂, hp'⟩ := payout_closes hinv hinv' hy
    obtain rfl : e₁ = e₂ :=
      Table.eq_of_key he₁ he₂ ((honly _ hchanged₁).trans (honly _ hchanged₂).symm)
    -- both settle the hold of that escrow, which has one leg
    obtain ⟨hold, hf, hk, -⟩ := hinv'.escrow_status he₁
    obtain hid : hold.id = e₁.holdTransferId := Table.key_of_find? hf
    have hmem : t ∈ childrenOf (serve d call db).transfers hold.id := mem_entriesOf.2 ⟨ht, hid ▸ hp⟩
    have hmem' : t' ∈ childrenOf (serve d call db).transfers hold.id :=
      mem_entriesOf.2 ⟨ht', hid ▸ hp'⟩
    rcases hinv'.latches.holds hold (Table.mem_of_find? hf) (.inr hk) with
      ⟨-, hnone⟩ | ⟨_, hduty⟩ | ⟨leg, hleg, -⟩
    · rw [hnone] at hmem
      cases hmem
    · cases hduty
    · rw [hleg] at hmem hmem'
      rw [List.mem_singleton.1 hmem, List.mem_singleton.1 hmem']

end Delivery

/-! ### A run -/

section Run

variable {d : Deployment} {ev : CourierEvent} {seller : Ulid} {db : Database}
  {effect : Database → Database → List Ulid}

/-- The effect is read off the escrows and the transfers. -/
def ReadOff (effect : Database → Database → List Ulid) : Prop :=
  ∀ before after, after.safepayEscrows = before.safepayEscrows →
    after.transfers = before.transfers → effect before after = []

/-- The seller's parcels are safe from the event. -/
def CourierEvent.Spent (ev : CourierEvent) (seller : Ulid) (db : Database) : Prop :=
  (db.idempotencyRecords.find?
    ⟨seller, "POST:/courier/" ++ ev.courier ++ "/delivered", ev.eventId⟩).isSome = true

theorem CourierEvent.Spent.serve (h : ev.Spent seller db) (call : Call) :
    ev.Spent seller (serve d call db) := by
  rcases MoneyMovement.serve_cases d call db with he | hs
  · rw [he]
    exact h
  · exact hs.records_extend _ h

/-- A delivery has no effect, or finds a parcel on the way whose seller is not safe from the
    event yet, and is then. -/
theorem CourierEvent.effect_cases {call : Call} (d : Deployment) (db : Database)
    (hquiet : ReadOff effect) (hev : ev.deliveredBy call.request = true) :
    effect db (MoneyMovement.serve d call db) = [] ∨ ∃ e, ev.Finds (d.ctx call.oracle) db e ∧
      ¬ev.Spent e.sellerUserId db ∧ ev.Spent e.sellerUserId (MoneyMovement.serve d call db) := by
  rcases ev.serve_cases d db hev with hsame | ⟨e, s', hs', h⟩
  · rw [hsame]
    exact .inl (hquiet _ _ rfl rfl)
  · rcases h.shipped with hst | ⟨he, ht⟩
    · right
      refine ⟨e, ⟨h.found, hst⟩, ?_, hs' ▸ h.spent⟩
      intro hspent
      have hfresh : db.idempotencyRecords.find?
        (SafePayService.courierTriple e ev.courier ev.eventId) = none := h.fresh
      unfold CourierEvent.Spent at hspent
      unfold SafePayService.courierTriple at hfresh
      rw [hfresh] at hspent
      cases hspent
    · left
      rw [← hs']
      exact hquiet _ _ he ht

theorem CourierEvent.along_of_spent (hquiet : ReadOff effect) (calls : List Call) :
    ∀ {db : Database}, ev.Spent seller db → ev.OneSeller d seller calls db →
      ev.along d effect calls db = [] := by
  induction calls with
  | nil => exact fun _ _ => rfl
  | cons call calls ih =>
    intro db hspent hone
    rw [CourierEvent.along, ih (hspent.serve call) hone.2, List.append_nil]
    split
    · rename_i hev
      rcases ev.effect_cases d db hquiet hev with hnil | ⟨e, hfinds, hfresh, -⟩
      · exact hnil
      · rw [hone.1 hev e hfinds] at hfresh
        exact absurd hspent hfresh
    · rfl

theorem CourierEvent.length_along_le (hquiet : ReadOff effect)
    (honce : ∀ db call, db.Inv d → (MoneyMovement.serve d call db).Inv d →
      ev.deliveredBy call.request = true → (effect db (MoneyMovement.serve d call db)).length ≤ 1)
    (calls : List Call) : ∀ {db : Database}, Reachable d db → ev.OneSeller d seller calls db →
      (ev.along d effect calls db).length ≤ 1 := by
  induction calls with
  | nil => exact fun _ _ => Nat.zero_le _
  | cons call calls ih =>
    intro db hreach hone
    rw [CourierEvent.along]
    split
    · rename_i hev
      rcases ev.effect_cases d db hquiet hev with hnil | ⟨e, hfinds, -, hspent⟩
      · rw [hnil, List.nil_append]
        exact ih (hreach.step call) hone.2
      · rw [hone.1 hev e hfinds] at hspent
        rw [CourierEvent.along_of_spent hquiet calls hspent hone.2, List.append_nil]
        exact honce db call hreach.inv (hreach.step call).inv hev
    · exact ih (hreach.step call) hone.2

end Run

/-- In every run in which the event finds parcels of one seller, it changes the status of one
    escrow at most and pays out once at most, however often it is delivered. -/
theorem event_takes_effect_once (d : Deployment) (now : Time) (calls : List Call)
    (ev : CourierEvent) (seller : Ulid) (hone : ev.OneSeller d seller calls (migrated now)) :
    (ev.along d statusChanges calls (migrated now)).length ≤ 1 ∧
      (ev.along d payouts calls (migrated now)).length ≤ 1 := by
  constructor
  · refine ev.length_along_le ?_ ?_ calls (.init now) hone
    · exact fun _ _ he _ => no_statusChanges he
    · exact fun _ _ hinv hinv' hev => (ev.delivery_once hinv hinv' hev).1
  · refine ev.length_along_le ?_ ?_ calls (.init now) hone
    · exact fun _ _ _ ht => no_payouts ht
    · exact fun _ _ hinv hinv' hev => (ev.delivery_once hinv hinv' hev).2

namespace Sample

def delivery : CourierEvent := ⟨"courier", "event", "parcel", true⟩

/-- The event, signed. -/
def deliver (n : Nat) : Call :=
  call n (.courierWebhook "courier" "event" "parcel" true
    (some (deployment.crypto.hmacHex (settings.jwtSecret ++ ":courier")
      (courierSigned "courier" "event" "parcel" true))))

/-- A buyer and two sellers register; the buyer orders from the first, who ships. -/
def firstParcel : List Call :=
  [register 1 "01711111111", register 2 "01722222222", register 3 "01733333333",
    call 4 (.createSafepay (id 1 1) "1234" "01722222222" (.fromMinor 5000) none "first" none),
    call 5 (.shipSafepay (id 2 1) (id 4 2) "courier" "parcel" "first" none)]

/-- The buyer orders from the second seller, who ships with the same tracking number. -/
def secondParcel : List Call :=
  [call 7 (.createSafepay (id 1 1) "1234" "01733333333" (.fromMinor 7000) none "second" none),
    call 8 (.shipSafepay (id 3 1) (id 7 2) "courier" "parcel" "second" none)]

end Sample

/-- Delivered twice while the first seller's parcel is the only one: one payout. -/
theorem event_takes_effect_once_resent :
    Sample.delivery.OneSeller Sample.deployment (Sample.id 2 1)
        (Sample.firstParcel ++ [Sample.deliver 6, Sample.deliver 7]) (migrated 0) ∧
      (Sample.delivery.along Sample.deployment payouts
        (Sample.firstParcel ++ [Sample.deliver 6, Sample.deliver 7]) (migrated 0)).length ≤ 1 := by
  have hone : Sample.delivery.OneSeller Sample.deployment (Sample.id 2 1)
      (Sample.firstParcel ++ [Sample.deliver 6, Sample.deliver 7]) (migrated 0) := by decide +kernel
  exact ⟨hone, (event_takes_effect_once _ _ _ _ _ hone).2⟩

/-- Delivered again after the second seller has shipped under the same number: two escrows are
    released, and two sellers paid. -/
theorem event_takes_effect_twice :
    (Sample.delivery.along Sample.deployment statusChanges (Sample.firstParcel ++
        Sample.deliver 6 :: Sample.secondParcel ++ [Sample.deliver 9]) (migrated 0)).length = 2 ∧
      (Sample.delivery.along Sample.deployment payouts (Sample.firstParcel ++
        Sample.deliver 6 :: Sample.secondParcel ++ [Sample.deliver 9]) (migrated 0)).length = 2 := by
  decide +kernel

end MoneyMovement

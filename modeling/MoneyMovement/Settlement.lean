/-
  MoneyMovement/Settlement.lean
  =============================
  **Holds and escrows between transactions.**

  At rest nothing is owed, so the groups of `Holds.lean` say exactly how the
  hold, its payout and its escrow agree.  The second half follows escrows
  through a run: which call moved an escrow into a closed status, and what the
  calls in between can have done to a disputed one.
-/
import Mathlib.Data.List.Induction
import MoneyMovement.Invariants

namespace MoneyMovement

open SafePayService

/-! ### At rest -/

section AtRest

variable {d : Deployment} {db : Database}

theorem Invariant.account_balance {cfg : Settings} {y : Crypto} {k : Config} (h : Invariant cfg y k)
    {id : Ulid} {type : AccountType} (hs : SystemAccount id type) :
    ∃ a, k.db.accounts.find? id = some a ∧ a.balanceMinor = balanceOf k.db.accounts id := by
  obtain ⟨a, ha, -⟩ := h.chart.system id type hs
  exact ⟨a, ha, (balanceOf_of_find? ha).symm⟩

/-- A transfer that is still pending has not been paid out. -/
theorem Database.Inv.no_child (h : db.Inv d) {hold : TransferRow} (hm : hold ∈ db.transfers.rows)
    (hs : hold.status = .pendingUndo ∨ hold.status = .held) : childrenOf db.transfers hold.id = [] := by
  have hpending := (h.routes.status hold hm).pendingIn hs
  have hkind : hold.kind = .undoHold ∨ hold.kind = .escrowHold := by
    rcases hpending with ⟨-, hk⟩ | ⟨-, hk⟩
    · exact .inl hk
    · exact .inr hk
  rcases h.latches.holds hold hm hkind with ⟨-, hnone⟩ | ⟨s, hduty⟩ | ⟨leg, -, hpays⟩
  · exact hnone
  · cases hduty
  · rcases hpays.beneficiary.settles with hx | hx <;> rw [hx] at hs <;> rcases hs with hs | hs <;> cases hs

/-- A hold that has left its pending status was paid out once. -/
theorem Database.Inv.one_child (h : db.Inv d) {hold : TransferRow} (hm : hold ∈ db.transfers.rows)
    (hk : hold.kind = .undoHold ∨ hold.kind = .escrowHold)
    (hs : hold.status = .succeeded ∨ hold.status = .refunded) :
    ∃ leg, childrenOf db.transfers hold.id = [leg] ∧ Pays hold leg := by
  rcases h.latches.holds hold hm hk with ⟨hpending, -⟩ | ⟨s, hduty⟩ | hpaid
  · rcases hpending with ⟨hx, -⟩ | ⟨hx, -⟩ <;> rw [hx] at hs <;> rcases hs with hs | hs <;> cases hs
  · cases hduty
  · exact hpaid

/-- The escrow's status is its hold's. -/
theorem Database.Inv.escrow_status (h : db.Inv d) {e : EscrowRow} (he : e ∈ db.safepayEscrows.rows) :
    ∃ hold, db.transfers.find? e.holdTransferId = some hold ∧ hold.kind = .escrowHold ∧
      ((e.status.isOpen = true ∧ hold.status = .held) ∨
        (e.status = .released ∧ hold.status = .succeeded) ∨
        (e.status = .refunded ∧ hold.status = .refunded)) := by
  obtain ⟨hold, hf, hk, -⟩ := h.routes.escrows e he
  refine ⟨hold, hf, hk, ?_⟩
  rcases h.latches.follows e he hold hf with ho | ho | ho | ⟨-, hd⟩ | ⟨-, leg, hd, -⟩
  · exact .inl ho
  · exact .inr (.inl ho)
  · exact .inr (.inr ho)
  · cases hd
  · cases hd

end AtRest

/-- Money in the holding accounts is exactly what is pending, every hold is paid out at
    most once and to whom its outcome says, and escrows agree with their holds. -/
theorem holds_are_kept_in_every_run (d : Deployment) (now : Time) (calls : List Call) :
    let db := serveAll d calls (migrated now)
    (∃ a, db.accounts.find? PENDING_SETTLEMENT_ACCOUNT_ID = some a ∧ a.balanceMinor =
        db.transfers.sum fun t => if t.status = .pendingUndo then t.amountMinor else 0) ∧
      (∃ a, db.accounts.find? ESCROW_ACCOUNT_ID = some a ∧ a.balanceMinor =
        db.safepayEscrows.sum fun e =>
          if e.status ≠ .released ∧ e.status ≠ .refunded then e.amountMinor else 0) ∧
      (∀ hold ∈ db.transfers.rows, hold.status = .pendingUndo ∨ hold.status = .held →
        childrenOf db.transfers hold.id = []) ∧
      (∀ hold ∈ db.transfers.rows, hold.kind = .undoHold ∨ hold.kind = .escrowHold →
        (hold.status = .succeeded → ∃ leg, childrenOf db.transfers hold.id = [leg] ∧
          leg.amountMinor = hold.amountMinor ∧
          hold.intendedReceiverAccountId = some leg.receiverAccountId) ∧
        (hold.status = .refunded → ∃ leg, childrenOf db.transfers hold.id = [leg] ∧
          leg.amountMinor = hold.amountMinor ∧ hold.senderAccountId = leg.receiverAccountId)) ∧
      ∀ e ∈ db.safepayEscrows.rows, ∃ hold, db.transfers.find? e.holdTransferId = some hold ∧
        (e.status = .released ↔ hold.status = .succeeded) ∧
        (e.status = .refunded ↔ hold.status = .refunded) ∧
        (e.status ≠ .released ∧ e.status ≠ .refunded ↔ hold.status = .held) := by
  intro db
  have hinv : db.Inv d := serveAll_inv d now calls
  refine ⟨?_, ?_, fun hold hm hs => hinv.no_child hm hs, ?_, ?_⟩
  · obtain ⟨a, ha, hb⟩ := hinv.account_balance .pending
    refine ⟨a, ha, hb.trans ?_⟩
    rw [hinv.custody.pending]
    exact Int.add_zero _
  · obtain ⟨a, ha, hb⟩ := hinv.account_balance .escrow
    refine ⟨a, ha, hb.trans ?_⟩
    rw [hinv.custody.escrowed]
    refine (Int.add_zero _).trans (Table.sum_congr fun e _ => ?_)
    rw [EscrowRow.openAmount]
    cases e.status <;> rfl
  · intro hold hm hk
    refine ⟨fun hs => ?_, fun hs => ?_⟩
    · obtain ⟨leg, hleg, hpays⟩ := hinv.one_child hm hk (.inl hs)
      rcases hpays.beneficiary with ⟨-, hto⟩ | ⟨hx, -⟩
      · exact ⟨leg, hleg, hpays.amount, hto⟩
      · rw [hs] at hx
        cases hx
    · obtain ⟨leg, hleg, hpays⟩ := hinv.one_child hm hk (.inr hs)
      rcases hpays.beneficiary with ⟨hx, -⟩ | ⟨-, hto⟩
      · rw [hs] at hx
        cases hx
      · exact ⟨leg, hleg, hpays.amount, hto⟩
  · intro e he
    obtain ⟨hold, hf, -, hst⟩ := hinv.escrow_status he
    refine ⟨hold, hf, ?_⟩
    rcases hst with ⟨ho, hh⟩ | ⟨ho, hh⟩ | ⟨ho, hh⟩ <;> rw [hh]
    · cases hs : e.status <;> rw [hs] at ho <;> revert ho <;> decide
    · simp [ho]
    · simp [ho]

/-! ### What a transaction does to an escrow -/

/-- How an escrow row may have changed: not at all, or by a licensed transition from an open
    status, or within a status other than disputed. -/
def EscrowRow.MovedTo (L : Licence) (e e' : EscrowRow) : Prop :=
  e' = e ∨ e.status.isOpen = true ∧ e.SameDeal e' ∧
    (e'.status = e.status ∧ e.status ≠ .disputed ∨ L.escrow e.id e'.status)

theorem EscrowRow.SameDeal.trans {e e' e'' : EscrowRow} (h : e.SameDeal e') (h' : e'.SameDeal e'') :
    e.SameDeal e'' :=
  ⟨h'.id.trans h.id, h'.hold.trans h.hold, h'.buyer.trans h.buyer, h'.seller.trans h.seller,
    h'.amount.trans h.amount⟩

theorem EscrowRow.MovedTo.trans {L : Licence} {e e' e'' : EscrowRow} (h : e.MovedTo L e')
    (h' : e'.MovedTo L e'') : e.MovedTo L e'' := by
  rcases h with rfl | ⟨ho, hd, hst⟩
  · exact h'
  rcases h' with rfl | ⟨-, hd', hst'⟩
  · exact .inr ⟨ho, hd, hst⟩
  refine .inr ⟨ho, hd.trans hd', ?_⟩
  rcases hst' with ⟨hsame, -⟩ | hl
  · rw [hsame]
    exact hst
  · exact .inr (hd.id ▸ hl)

/-- What a transaction did to the escrows. -/
structure EscrowMoves (L : Licence) (before after : Table EscrowRow.id) : Prop where
  kept : ∀ id e, before.find? id = some e → ∃ e', after.find? id = some e' ∧ e.MovedTo L e'
  fresh : ∀ id e', before.find? id = none → after.find? id = some e' →
    e'.status = .awaitingShipment ∨ L.escrow id e'.status

namespace EscrowMoves

variable {L : Licence} {before middle after : Table EscrowRow.id}

theorem refl (L : Licence) (escrows : Table EscrowRow.id) : EscrowMoves L escrows escrows := by
  refine ⟨fun id e he => ⟨e, he, .inl rfl⟩, fun id e' hn he => ?_⟩
  rw [hn] at he
  cases he

theorem trans (h : EscrowMoves L before middle) (h' : EscrowMoves L middle after) :
    EscrowMoves L before after := by
  refine ⟨?_, ?_⟩
  · intro id e he
    obtain ⟨e', he', hmoved⟩ := h.kept id e he
    obtain ⟨e'', he'', hmoved'⟩ := h'.kept id e' he'
    exact ⟨e'', he'', hmoved.trans hmoved'⟩
  · intro id e'' hn he''
    cases hm : middle.find? id with
    | none => exact h'.fresh id e'' hm he''
    | some e' =>
      obtain ⟨x, hx, hmoved⟩ := h'.kept id e' hm
      obtain rfl := Option.some.inj (he''.symm.trans hx)
      have hid : e'.id = id := Table.key_of_find? hm
      rcases hmoved with rfl | ⟨-, -, ⟨hsame, -⟩ | hl⟩
      · exact h.fresh id e'' hn hm
      · rw [hsame]
        exact h.fresh id e' hn hm
      · exact .inr (hid ▸ hl)

/-- One row replaced. -/
theorem modify {e : EscrowRow} {f : EscrowRow → EscrowRow} (hid : ∀ x, (f x).id = x.id)
    (hf : before.find? e.id = some e) (hmoved : e.MovedTo L (f e)) :
    EscrowMoves L before (before.modifyAt e.id f hid) := by
  refine ⟨?_, ?_⟩
  · intro id x hx
    rw [Table.find?_modifyAt]
    by_cases hk : id = e.id
    · subst hk
      obtain rfl := Option.some.inj (hf.symm.trans hx)
      rw [if_pos rfl, hf]
      exact ⟨_, rfl, hmoved⟩
    · rw [if_neg hk]
      exact ⟨x, hx, .inl rfl⟩
  · intro id x hn hx
    rw [Table.find?_modifyAt] at hx
    split at hx
    · rename_i hk
      rw [← hk, hn] at hx
      cases hx
    · rw [hn] at hx
      cases hx

end EscrowMoves

section Transactions

variable {c : Ctx} {L : Licence} {k k' : Config}

theorem Step.escrowMoves (hs : Step c L k k')
    (hstray : k.progress.repaying = none → ¬Stray k.db k.progress.duty) :
    EscrowMoves L k.db.safepayEscrows k'.db.safepayEscrows := by
  cases hs
  case openEscrow e _ hf _ _ _ hst _ =>
    refine ⟨fun id x hx => ⟨x, Table.find?_push_of_some hx, .inl rfl⟩, ?_⟩
    intro id x hn hx
    dsimp only at hx
    rw [Table.find?_push hf] at hx
    split at hx
    · cases hx
      exact .inl hst
    · rw [hn] at hx
      cases hx
  case escrow hid hf ho _ hd hl => exact .modify hid hf (.inr ⟨ho, hd, hl⟩)
  case closeEscrow hid hf ho _ hd _ hl => exact .modify hid hf (.inr ⟨ho, hd, .inr hl⟩)
  case stray hs _ _ _ => exact absurd hs (hstray rfl)
  all_goals exact .refl L _

theorem Steps.escrowMoves (hs : Steps c L k k') (hL : L.Sound c)
    (hinv : Invariant c.settings c.crypto k) :
    EscrowMoves L k.db.safepayEscrows k'.db.safepayEscrows := by
  refine hinv.steps_induction hs hL (P := fun k' =>
    EscrowMoves L k.db.safepayEscrows k'.db.safepayEscrows) (.refl L _) ?_
  intro k₁ k₂ hinv₁ hstep hmoves
  exact hmoves.trans (hstep.escrowMoves hinv₁.no_stray)

/-! ### Where timers come from -/

/-- The request queued the timer: a courier event that delivered the parcel now, with a due
    time counted from the database's clock. -/
structure QueuedBy (c : Ctx) (db₀ : Database) (req : Request) (db : Database) (t : TaskRow) : Prop where
  courier : ∃ courier eventId tracking signature,
    req = .courierWebhook courier eventId tracking false signature
  due : c.oracle.dbNow + Time.hours c.settings.safepayAutoReleaseHours ≤ t.dueAt
  shipped : ∃ e, db₀.safepayEscrows.find? t.resourceId = some e ∧ e.status = .shipped
  delivered : ∃ e, db.safepayEscrows.find? t.resourceId = some e ∧ e.status = .delivered

/-- The timer was there before, due no later. -/
def KeptTimer (tasks : Table TaskRow.id) (t : TaskRow) : Prop :=
  ∃ t₀ ∈ tasks.rows, t₀.taskType = .escrowAutoRelease ∧ t₀.resourceId = t.resourceId ∧ t₀.dueAt ≤ t.dueAt

/-- A courier event that does not release at once leaves a delivered escrow delivered. -/
theorem QueuedBy.mono {db₀ db db' : Database} {req : Request} {t : TaskRow}
    (h : QueuedBy c db₀ req db t)
    (hm : EscrowMoves (licence c db₀ req) db.safepayEscrows db'.safepayEscrows) :
    QueuedBy c db₀ req db' t := by
  refine { h with delivered := ?_ }
  obtain ⟨e, he, hst⟩ := h.delivered
  obtain ⟨e', he', hmoved⟩ := hm.kept _ _ he
  refine ⟨e', he', ?_⟩
  rcases hmoved with rfl | ⟨-, -, ⟨hsame, -⟩ | hl⟩
  · exact hst
  · rw [hsame, hst]
  · obtain ⟨courier, eventId, tracking, signature, rfl⟩ := h.courier
    rcases hl.1 with hl | ⟨-, hl⟩
    · exact hl
    · cases hl

theorem Steps.timers {db₀ : Database} {req : Request}
    (hs : Steps c (licence c db₀ req) ⟨.idle, db₀⟩ k')
    (hinv : Invariant c.settings c.crypto ⟨.idle, db₀⟩) :
    ∀ t ∈ k'.db.scheduledTasks.rows, t.taskType = .escrowAutoRelease →
      KeptTimer db₀.scheduledTasks t ∨ QueuedBy c db₀ req k'.db t := by
  refine hinv.steps_induction hs (licence_sound c db₀ req) (P := fun k' =>
    ∀ t ∈ k'.db.scheduledTasks.rows, t.taskType = .escrowAutoRelease →
      KeptTimer db₀.scheduledTasks t ∨ QueuedBy c db₀ req k'.db t) ?_ ?_
  · intro t ht htype
    exact .inl ⟨t, ht, htype, rfl, Nat.le_refl _⟩
  intro k₁ k₂ hinv₁ hstep ih
  have hmoves := hstep.escrowMoves hinv₁.no_stray
  have hsame : k₂.db.scheduledTasks = k₁.db.scheduledTasks →
      ∀ t ∈ k₂.db.scheduledTasks.rows, t.taskType = .escrowAutoRelease →
        KeptTimer db₀.scheduledTasks t ∨ QueuedBy c db₀ req k₂.db t := by
    intro he t ht htype
    exact (ih t (he ▸ ht) htype).imp_right (·.mono hmoves)
  cases hstep
  case tasks hnew =>
    intro t ht htype
    rcases hnew.kept t ht with hl | ⟨t₀, ht₀, htype₀, hres, hdue⟩
    · right
      cases req <;> try exact hl.elim
      case createTransfer => exact absurd (htype.symm.trans hl) (by decide)
      case courierWebhook =>
        obtain ⟨-, rfl, hat, hshipped, hdelivered⟩ := hl
        exact ⟨⟨_, _, _, _, rfl⟩, Nat.le_of_eq hat.symm, hshipped, hdelivered⟩
    · rcases ih t₀ ht₀ (htype₀.trans htype) with ⟨t₁, ht₁, htype₁, hres₁, hdue₁⟩ | hq
      · exact .inl ⟨t₁, ht₁, htype₁, hres₁.trans hres, Nat.le_trans hdue₁ hdue⟩
      · exact .inr ⟨hq.courier, Nat.le_trans hq.due hdue, hres ▸ hq.shipped, hres ▸ hq.delivered⟩
  all_goals exact hsame rfl

end Transactions

/-! ### Through a run -/

/-- The courier event that delivered the escrow, in a run that starts from the migrated
    database. -/
structure DeliveredBy (d : Deployment) (now : Time) (earlier : List Call) (call : Call) (id : Ulid) :
    Prop where
  courier : ∃ courier eventId tracking signature,
    call.request = .courierWebhook courier eventId tracking false signature
  before : ∃ e, (serveAll d earlier (migrated now)).safepayEscrows.find? id = some e ∧
    e.status = .shipped
  after : ∃ e, (serveAll d (earlier ++ [call]) (migrated now)).safepayEscrows.find? id = some e ∧
    e.status = .delivered

/-- Some call of the run delivered the escrow, and that long before. -/
def DeliveredSince (d : Deployment) (now : Time) (calls : List Call) (id : Ulid) (due : Time) : Prop :=
  ∃ earlier call later, calls = earlier ++ call :: later ∧ DeliveredBy d now earlier call id ∧
    call.oracle.dbNow + Time.hours d.settings.safepayAutoReleaseHours ≤ due

theorem serveAll_concat (d : Deployment) (calls : List Call) (call : Call) (db : Database) :
    serveAll d (calls ++ [call]) db = serve d call (serveAll d calls db) :=
  serveAll_append d calls [call] db

/-- Every timer in a run was started by a delivery in that run. -/
theorem timers_traced (d : Deployment) (now : Time) (calls : List Call) :
    ∀ t ∈ (serveAll d calls (migrated now)).scheduledTasks.rows, t.taskType = .escrowAutoRelease →
      DeliveredSince d now calls t.resourceId t.dueAt := by
  induction calls using List.reverseRecOn with
  | nil =>
    intro t ht
    cases ht
  | append_singleton calls call ih =>
    have hkept : ∀ id due due', due ≤ due' → DeliveredSince d now calls id due →
        DeliveredSince d now (calls ++ [call]) id due' := by
      rintro id due due' hle ⟨earlier, del, later, rfl, hdel, hdue⟩
      exact ⟨earlier, del, later ++ [call], by simp, hdel, Nat.le_trans hdue hle⟩
    intro t ht htype
    rw [serveAll_concat] at ht
    rcases serve_cases d call (serveAll d calls (migrated now)) with he | hsteps
    · rw [he] at ht
      exact hkept _ _ _ (Nat.le_refl _) (ih t ht htype)
    · rcases Steps.timers hsteps (serveAll_inv d now calls) t ht htype with
        ⟨t₀, ht₀, htype₀, hres, hdue⟩ | hq
      · exact hkept _ _ _ hdue (hres ▸ ih t₀ ht₀ htype₀)
      · refine ⟨calls, call, [], rfl, ⟨hq.courier, hq.shipped, ?_⟩, hq.due⟩
        rw [serveAll_concat]
        exact hq.delivered

/-! ### What closes an escrow -/

/-- The ways to release an escrow that stood as `e` when the call began. -/
def ReleaseCause (c : Ctx) (e : EscrowRow) : Request → Prop
  | .releaseSafepayCode user id code .. => id = e.id ∧ user = e.sellerUserId ∧
      (e.status = .awaitingShipment ∨ e.status = .shipped ∨ e.status = .delivered) ∧
      codeLocked e (c.oracle.clock 0) = false ∧
      c.crypto.argon2Verify e.deliveryCodeHash code = true
  | .confirmSafepayReceived user id .. => id = e.id ∧ user = e.buyerUserId ∧
      (e.status = .shipped ∨ e.status = .delivered)
  | .courierWebhook courier _ tracking releaseImmediately _ => releaseImmediately = true ∧
      e.courierSlug = some courier ∧ e.trackingNumber = some tracking ∧ e.status = .shipped
  | .runDueTasks => e.status = .delivered
  | .resolveSafepay id decision .. => id = e.id ∧ decision = .release ∧ e.status = .disputed
  | _ => False

/-- The only way to refund it. -/
def RefundCause (e : EscrowRow) : Request → Prop
  | .resolveSafepay id decision .. => id = e.id ∧ decision = .refund ∧ e.status = .disputed
  | _ => False

theorem acceptsCode_iff {status : EscrowStatus} (h : acceptsCode status = true) :
    status = .awaitingShipment ∨ status = .shipped ∨ status = .delivered := by
  cases status <;> revert h <;> decide

theorem acceptsReceipt_iff {status : EscrowStatus} (h : acceptsReceipt status = true) :
    status = .shipped ∨ status = .delivered := by
  cases status <;> revert h <;> decide

section Causes

variable {c : Ctx} {db : Database} {req : Request} {id : Ulid} {e : EscrowRow}

theorem Request.escrow_exists {status : EscrowStatus} (h : req.escrow c db id status) :
    ∃ x, db.safepayEscrows.find? id = some x := by
  cases req <;> try exact h.elim
  case shipSafepay | releaseSafepayCode | confirmSafepayReceived | disputeSafepay =>
    obtain ⟨rfl, -, x, hx, -⟩ := h
    exact ⟨x, hx⟩
  case courierWebhook =>
    obtain ⟨-, x, hx, -⟩ := h
    exact ⟨x, hx⟩
  case resolveSafepay =>
    obtain ⟨rfl, -, x, hx, -⟩ := h
    exact ⟨x, hx⟩
  case runDueTasks =>
    obtain ⟨-, x, hx, -⟩ := h
    exact ⟨x, hx⟩

theorem Request.escrow_released (he : db.safepayEscrows.find? id = some e)
    (h : req.escrow c db id .released) : ReleaseCause c e req ∧
      (req = .runDueTasks → ∃ t ∈ db.scheduledTasks.rows, t.taskType = .escrowAutoRelease ∧
        t.resourceId = id ∧ t.dueAt ≤ c.oracle.dbNow) := by
  have hid : e.id = id := Table.key_of_find? he
  cases req <;> try exact h.elim
  case shipSafepay =>
    obtain ⟨-, hx, -⟩ := h
    cases hx
  case disputeSafepay =>
    obtain ⟨-, hx, -⟩ := h
    cases hx
  case releaseSafepayCode =>
    obtain ⟨rfl, -, x, hx, hseller, haccepts, hrest⟩ := h
    obtain rfl := Option.some.inj (he.symm.trans hx)
    exact ⟨⟨hid.symm, hseller.symm, acceptsCode_iff haccepts, hrest⟩, fun hr => by cases hr⟩
  case confirmSafepayReceived =>
    obtain ⟨rfl, -, x, hx, hbuyer, haccepts⟩ := h
    obtain rfl := Option.some.inj (he.symm.trans hx)
    exact ⟨⟨hid.symm, hbuyer.symm, acceptsReceipt_iff haccepts⟩, fun hr => by cases hr⟩
  case courierWebhook =>
    obtain ⟨hst, x, hx, hcourier, htracking, hship⟩ := h
    obtain rfl := Option.some.inj (he.symm.trans hx)
    rcases hst with hst | ⟨-, hnow⟩
    · cases hst
    · exact ⟨⟨hnow, hcourier, htracking, hship⟩, fun hr => by cases hr⟩
  case resolveSafepay =>
    obtain ⟨rfl, hst, x, hx, hdisputed⟩ := h
    obtain rfl := Option.some.inj (he.symm.trans hx)
    rcases hst with ⟨hdecision, -⟩ | ⟨-, hst⟩
    · exact ⟨⟨hid.symm, hdecision, hdisputed⟩, fun hr => by cases hr⟩
    · cases hst
  case runDueTasks =>
    obtain ⟨-, x, hx, hdelivered, htask⟩ := h
    obtain rfl := Option.some.inj (he.symm.trans hx)
    exact ⟨hdelivered, fun _ => htask⟩

theorem Request.escrow_refunded (he : db.safepayEscrows.find? id = some e)
    (h : req.escrow c db id .refunded) : RefundCause e req := by
  have hid : e.id = id := Table.key_of_find? he
  cases req <;> try exact h.elim
  case shipSafepay | releaseSafepayCode | confirmSafepayReceived | disputeSafepay =>
    obtain ⟨-, hx, -⟩ := h
    cases hx
  case courierWebhook =>
    obtain ⟨hst, -⟩ := h
    rcases hst with hst | ⟨hst, -⟩ <;> cases hst
  case resolveSafepay =>
    obtain ⟨rfl, hst, x, hx, hdisputed⟩ := h
    obtain rfl := Option.some.inj (he.symm.trans hx)
    rcases hst with ⟨-, hst⟩ | ⟨hdecision, -⟩
    · cases hst
    · exact ⟨hid.symm, hdecision, hdisputed⟩
  case runDueTasks =>
    obtain ⟨hst, -⟩ := h
    cases hst

/-- The admin's decision on an escrow. -/
def Request.resolves (id : Ulid) : Request → Prop
  | .resolveSafepay escrowId .. => escrowId = id
  | _ => False

/-- A disputed escrow is nobody's but the admin's. -/
theorem Request.escrow_disputed (he : db.safepayEscrows.find? id = some e)
    (hst : e.status = .disputed) (hr : ¬req.resolves id) (status : EscrowStatus) :
    ¬req.escrow c db id status := by
  intro h
  have hnot : ∀ x, db.safepayEscrows.find? id = some x → x.status = .disputed := by
    intro x hx
    obtain rfl := Option.some.inj (he.symm.trans hx)
    exact hst
  cases req <;> try exact h.elim
  case shipSafepay =>
    obtain ⟨rfl, -, x, hx, -, hs⟩ := h
    cases hs.symm.trans (hnot x hx)
  case releaseSafepayCode =>
    obtain ⟨rfl, -, x, hx, -, hs, -⟩ := h
    rw [hnot x hx] at hs
    cases hs
  case confirmSafepayReceived =>
    obtain ⟨rfl, -, x, hx, -, hs⟩ := h
    rw [hnot x hx] at hs
    cases hs
  case disputeSafepay =>
    obtain ⟨rfl, -, x, hx, -, hs⟩ := h
    rw [hnot x hx] at hs
    cases hs
  case courierWebhook =>
    obtain ⟨-, x, hx, -, -, hs⟩ := h
    cases hs.symm.trans (hnot x hx)
  case resolveSafepay =>
    exact hr h.1.symm
  case runDueTasks =>
    obtain ⟨-, x, hx, hs, -⟩ := h
    cases hs.symm.trans (hnot x hx)

end Causes

/-! ### Commands on a disputed escrow -/

section Disputed

open Txn

variable {c : Ctx} {s s' : Session} {e : EscrowRow}

/-- A one-shot command whose transition is refused can only have been a replay. -/
theorem SafePayService.stateCommand_refused {triple : IdempotencyTriple} {payload : Payload}
    {once : Time → Tx (Ulid × Body)} {b : Body}
    (hrefused : ∀ now s₁ x s₂, s₁.db.safepayEscrows = s.db.safepayEscrows →
      once now s₁ ≠ .ok x s₂)
    (h : stateCommand c triple payload once s = .ok b s') : s'.db = s.db := by
  unfold stateCommand at h
  obtain ⟨now, s₁, -, ⟨-, b, e, hk⟩ | ⟨-, e, hk⟩⟩ := shell_cases h
  · obtain ⟨-, rfl⟩ := pure_ok.1 hk
    exact e
  · obtain ⟨x, s₂, hk, -⟩ := bind_ok.1 hk
    exact absurd hk (hrefused now s₁ x s₂ (by rw [e]))

theorem escrow_updateWhere_refused {q : EscrowRow → Bool} {f : EscrowRow → EscrowRow}
    {hid : ∀ x, (f x).id = x.id} {admits : Database → EscrowRow → Bool} {n : Nat}
    (he : s.db.safepayEscrows.find? e.id = some e) (hq : q e = false)
    (h : updateWhere (·.safepayEscrows) SqlSafePayRepository.setTable e.id q f hid admits s =
      .ok n s') : n = 0 := by
  rcases updateWhere_ok h with ⟨hn, -⟩ | ⟨x, -, hx, hqx, -⟩
  · exact hn
  · obtain rfl := Option.some.inj (he.symm.trans hx)
    rw [hq] at hqx
    cases hqx

variable (he : s.db.safepayEscrows.find? e.id = some e) (hst : e.status = .disputed)

include he hst

theorem SafePayService.markShipped_disputed {u : Ulid} {courier tracking key : String}
    {req : Option String} {b : Body}
    (h : SafePayService.markShipped c e.id u courier tracking key req s = .ok b s') :
    s'.db = s.db := by
  refine SafePayService.stateCommand_refused ?_ h
  intro now s₁ x s₂ hes hrun
  obtain ⟨n, s₃, h₃, hrun⟩ := bind_ok.1 hrun
  obtain ⟨_, s₄, h₄, -⟩ := bind_ok.1 hrun
  have hn : n = 0 := escrow_updateWhere_refused (hes ▸ he) (by simp [hst]) h₃
  obtain ⟨hn', -⟩ := ensure_ok.1 h₄
  omega

theorem SafePayService.dispute_disputed {u : Ulid} {reason key : String} {req : Option String}
    {b : Body} (h : SafePayService.dispute c e.id u reason key req s = .ok b s') :
    s'.db = s.db := by
  refine SafePayService.stateCommand_refused ?_ h
  intro now s₁ x s₂ hes hrun
  obtain ⟨n, s₃, h₃, hrun⟩ := bind_ok.1 hrun
  obtain ⟨_, s₄, h₄, -⟩ := bind_ok.1 hrun
  have hn : n = 0 := escrow_updateWhere_refused (hes ▸ he)
    (by simp [hst, SqlSafePayRepository.canEnterDispute]) h₃
  obtain ⟨hn', -⟩ := ensure_ok.1 h₄
  omega

theorem SafePayService.confirmReceived_disputed {u : Ulid} {key : String} {req : Option String}
    {b : Body} (h : SafePayService.confirmReceived c e.id u key req s = .ok b s') :
    s'.db = s.db := by
  refine SafePayService.stateCommand_refused ?_ h
  intro now s₁ x s₂ hes hrun
  obtain ⟨found, s₃, h₃, hrun⟩ := bind_ok.1 hrun
  obtain ⟨rfl, rfl⟩ := readDb_ok.1 h₃
  obtain ⟨e', s₄, h₄, hrun⟩ := bind_ok.1 hrun
  obtain ⟨he', rfl⟩ := orRaise_ok.1 h₄
  rw [Option.filter_eq_some_iff, hes, he] at he'
  obtain rfl := Option.some.inj he'.1
  obtain ⟨_, s₅, h₅, -⟩ := bind_ok.1 hrun
  obtain ⟨haccepts, -⟩ := ensure_ok.1 h₅
  rw [hst] at haccepts
  cases haccepts

theorem SafePayService.releaseWithCode_disputed {u : Ulid} {code key : String} {req : Option String}
    {b : Body} (h : SafePayService.releaseWithCode c e.id u code key req s = .ok b s') :
    s'.db = s.db := by
  unfold SafePayService.releaseWithCode at h
  obtain ⟨now, s₁, -, ⟨-, b, e₁, hk⟩ | ⟨-, e₁, hk⟩⟩ := shell_cases h
  · obtain ⟨-, rfl⟩ := pure_ok.1 hk
    exact e₁
  · obtain ⟨found, s₃, h₃, hrun⟩ := bind_ok.1 hk
    obtain ⟨rfl, rfl⟩ := readDb_ok.1 h₃
    obtain ⟨e', s₄, h₄, hrun⟩ := bind_ok.1 hrun
    obtain ⟨he', rfl⟩ := orRaise_ok.1 h₄
    rw [Option.filter_eq_some_iff, e₁, he] at he'
    obtain rfl := Option.some.inj he'.1
    obtain ⟨_, s₅, h₅, -⟩ := bind_ok.1 hrun
    obtain ⟨haccepts, -⟩ := ensure_ok.1 h₅
    rw [hst] at haccepts
    cases haccepts

/-- The timer of a disputed escrow does nothing. -/
theorem SafePayService.autoRelease_disputed : autoRelease c e.id s = .ok none s := by
  refine bind_ok.2 ⟨some e, s, readDb_ok.2 ⟨he, rfl⟩, ?_⟩
  dsimp only
  rw [if_pos (by rw [hst]; decide)]
  rfl

omit he in
/-- A courier event for it is only recorded. -/
theorem SafePayService.courierDelivered_disputed {courier tracking eventId : String}
    {releaseNow : Bool} {b : Body}
    (hfind : SqlSafePayRepository.findByTracking c courier tracking s = .ok (some e) s)
    (h : SafePayService.courierDelivered c courier tracking eventId releaseNow s = .ok b s') :
    s'.db.accounts = s.db.accounts := by
  obtain ⟨found, s₁, h₁, h⟩ := bind_ok.1 h
  rw [hfind] at h₁
  cases h₁
  obtain ⟨e', s₂, h₂, h⟩ := bind_ok.1 h
  obtain ⟨he', rfl⟩ := orRaise_ok.1 h₂
  obtain rfl := Option.some.inj he'
  obtain ⟨now, s₁, -, ⟨-, b, e₁, hk⟩ | ⟨-, e₁, hk⟩⟩ := shell_cases h
  · obtain ⟨-, rfl⟩ := pure_ok.1 hk
    rw [e₁]
  · obtain ⟨body, s₃, h₃, hk⟩ := bind_ok.1 hk
    obtain ⟨_, s₄, h₄, hk⟩ := bind_ok.1 hk
    obtain ⟨-, rfl⟩ := pure_ok.1 hk
    unfold courierEvent at h₃
    simp only [hst] at h₃
    obtain ⟨-, rfl⟩ := pure_ok.1 h₃
    unfold SafePayService.complete SqlIdempotencyRepository.complete at h₄
    rw [writeDb_ok h₄, e₁]

end Disputed

/-- The Safe-Pay commands on one escrow, the admin's apart. -/
def Request.onEscrow (c : Ctx) (db : Database) (e : EscrowRow) : Request → Prop
  | .shipSafepay _ id .. => id = e.id
  | .releaseSafepayCode _ id .. => id = e.id
  | .confirmSafepayReceived _ id .. => id = e.id
  | .disputeSafepay _ id .. => id = e.id
  | .courierWebhook courier _ tracking _ _ =>
      SqlSafePayRepository.findByTracking c courier tracking (begin db) = .ok (some e) (begin db)
  | _ => False

/-- None of them moves money while the escrow is disputed. -/
theorem serve_disputed {d : Deployment} {call : Call} {db : Database} {e : EscrowRow}
    (he : db.safepayEscrows.find? e.id = some e) (hst : e.status = .disputed)
    (hr : call.request.onEscrow (d.ctx call.oracle) db e) :
    (serve d call db).accounts = db.accounts := by
  rcases commit_cases (handle (d.ctx call.oracle) call.request) db with ⟨r, s, hok, hcommit⟩ | hcommit
  swap
  · rw [serve, hcommit]
  rw [serve, hcommit]
  obtain ⟨o, req⟩ := call
  dsimp only at hr hok
  cases req <;> (try exact hr.elim) <;> rw [handle] at hok <;>
    obtain ⟨_, s₁, h₁, hok⟩ := Txn.bind_ok.1 hok <;> obtain ⟨-, rfl⟩ := Txn.pure_ok.1 hok
  case shipSafepay =>
    cases hr
    rw [SafePayService.markShipped_disputed he hst h₁]
    rfl
  case releaseSafepayCode =>
    cases hr
    rw [SafePayService.releaseWithCode_disputed he hst h₁]
    rfl
  case confirmSafepayReceived =>
    cases hr
    rw [SafePayService.confirmReceived_disputed he hst h₁]
    rfl
  case disputeSafepay =>
    cases hr
    rw [SafePayService.dispute_disputed he hst h₁]
    rfl
  case courierWebhook =>
    obtain ⟨_, s₂, h₂, h₁⟩ := Txn.bind_ok.1 h₁
    obtain ⟨-, rfl⟩ := Txn.ensure_ok.1 h₂
    exact SafePayService.courierDelivered_disputed hst hr h₁

/-- Escrows are closed only in the ways the state machine lists, the timer only after its
    window; a disputed escrow is frozen until the admin decides; a closed one stays closed. -/
theorem escrows_close_as_licensed (d : Deployment) (now : Time) (calls : List Call) (call : Call) :
    let db := serveAll d calls (migrated now)
    let c := d.ctx call.oracle
    let db' := serve d call db
    (∀ id e', db'.safepayEscrows.find? id = some e' → e'.status = .released →
      ∃ e, db.safepayEscrows.find? id = some e ∧ (e.status = .released ∨
        ReleaseCause c e call.request ∧
          (call.request = .runDueTasks → DeliveredSince d now calls id call.oracle.dbNow))) ∧
      (∀ id e', db'.safepayEscrows.find? id = some e' → e'.status = .refunded →
        ∃ e, db.safepayEscrows.find? id = some e ∧
          (e.status = .refunded ∨ RefundCause e call.request)) ∧
      (∀ id e, db.safepayEscrows.find? id = some e → e.status = .disputed →
        (¬call.request.resolves id → db'.safepayEscrows.find? id = some e ∧
          (∃ hold hold', db.transfers.find? e.holdTransferId = some hold ∧
            db'.transfers.find? e.holdTransferId = some hold' ∧ hold'.status = hold.status)) ∧
        (call.request.onEscrow c db e → db'.accounts = db.accounts) ∧
        ∀ (task : TaskRow) (s : Session), task.taskType = .escrowAutoRelease →
          task.resourceId = id → s.db.safepayEscrows.find? id = some e →
          Scheduler.handle c task s = .ok () s) ∧
      ∀ id e, db.safepayEscrows.find? id = some e → e.status = .released ∨ e.status = .refunded →
        db'.safepayEscrows.find? id = some e := by
  intro db c db'
  have hinv : db.Inv d := serveAll_inv d now calls
  have hinv' : db'.Inv d := by
    have hconcat := serveAll_inv d now (calls ++ [call])
    rw [serveAll_concat] at hconcat
    exact hconcat
  have hmoves : EscrowMoves (licence c db call.request) db.safepayEscrows db'.safepayEscrows := by
    rcases serve_cases d call db with he | hsteps
    · show EscrowMoves _ _ (serve d call db).safepayEscrows
      rw [he]
      exact .refl _ _
    · exact Steps.escrowMoves hsteps (licence_sound _ _ _) hinv
  -- whatever the new row is, it was licensed from an old one
  have hcause : ∀ id e', db'.safepayEscrows.find? id = some e' → e'.status ≠ .awaitingShipment →
      ∃ e, db.safepayEscrows.find? id = some e ∧
        (e.status = e'.status ∨ call.request.escrow c db id e'.status) := by
    intro id e' he' hne
    cases he : db.safepayEscrows.find? id with
    | none =>
      rcases hmoves.fresh id e' he he' with hst | hl
      · exact absurd hst hne
      · obtain ⟨x, hx⟩ := Request.escrow_exists hl
        rw [he] at hx
        cases hx
    | some e =>
      refine ⟨e, rfl, ?_⟩
      obtain ⟨x, hx, hmoved⟩ := hmoves.kept id e he
      obtain rfl := Option.some.inj (he'.symm.trans hx)
      have hid : e.id = id := Table.key_of_find? he
      rcases hmoved with rfl | ⟨-, -, ⟨hsame, -⟩ | hl⟩
      · exact .inl rfl
      · exact .inl hsame.symm
      · exact .inr (hid ▸ hl)
  refine ⟨?_, ?_, ?_, ?_⟩
  · intro id e' he' hst
    obtain ⟨e, he, hsame | hl⟩ := hcause id e' he' (by rw [hst]; decide)
    · exact ⟨e, he, .inl (hsame.trans hst)⟩
    · rw [hst] at hl
      obtain ⟨hrelease, htask⟩ := Request.escrow_released he hl
      refine ⟨e, he, .inr ⟨hrelease, fun hrun => ?_⟩⟩
      obtain ⟨t, ht, htype, hres, hdue⟩ := htask hrun
      obtain ⟨earlier, del, later, hcalls, hdel, hle⟩ := timers_traced d now calls t ht htype
      exact ⟨earlier, del, later, hcalls, hres ▸ hdel, Nat.le_trans hle hdue⟩
  · intro id e' he' hst
    obtain ⟨e, he, hsame | hl⟩ := hcause id e' he' (by rw [hst]; decide)
    · exact ⟨e, he, .inl (hsame.trans hst)⟩
    · rw [hst] at hl
      exact ⟨e, he, .inr (Request.escrow_refunded he hl)⟩
  · intro id e he hst
    obtain rfl : e.id = id := Table.key_of_find? he
    refine ⟨fun hr => ?_, fun hon => serve_disputed he hst hon, ?_⟩
    · have hkept : db'.safepayEscrows.find? e.id = some e := by
        obtain ⟨e', he', hmoved⟩ := hmoves.kept _ _ he
        rcases hmoved with rfl | ⟨-, -, ⟨-, hne⟩ | hl⟩
        · exact he'
        · exact absurd hst hne
        · exact absurd hl (Request.escrow_disputed he hst hr _)
      refine ⟨hkept, ?_⟩
      obtain ⟨hold, hf, -, hheld⟩ := hinv.escrow_status (Table.mem_of_find? he)
      obtain ⟨hold', hf', -, hheld'⟩ := hinv'.escrow_status (Table.mem_of_find? hkept)
      refine ⟨hold, hold', hf, hf', ?_⟩
      rw [hst] at hheld hheld'
      simp only [reduceCtorEq, false_and, or_false] at hheld hheld'
      rw [hheld.2, hheld'.2]
    · intro task s htype hres hs
      unfold Scheduler.handle
      rw [htype, hres]
      exact Txn.bind_ok.2 ⟨none, s, SafePayService.autoRelease_disputed hs hst, rfl⟩
  · intro id e he hst
    obtain ⟨e', he', hmoved⟩ := hmoves.kept id e he
    rcases hmoved with rfl | ⟨ho, -⟩
    · exact he'
    · rcases hst with hst | hst <;> rw [hst] at ho <;> cases ho

end MoneyMovement

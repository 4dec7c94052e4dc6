/-
  MoneyMovement/Routes.lean
  =========================
  **From where to where money goes**, by kind of transfer.

  `Routed` says of a transfer row what its kind promises: the accounts it moves
  money between, the hold it settles, the grant it draws on.  It does not look
  at the row's status, and everything it mentions only grows, so a transfer that
  was routed when it was posted stays routed.

  `Routes` adds what the rows themselves promise (legs name a hold, statuses fit
  the kind, an escrow has the hold it claims) and what the transaction still
  owes, `DutyOk`.
-/
import MoneyMovement.Chart

namespace MoneyMovement

/-! ### Routes by kind -/

/-- Money of a user, put into a holding account for another user. -/
def HeldIn (db : Database) (holding : Ulid) (t : TransferRow) : Prop :=
  (∃ u, db.OwnedBy t.senderAccountId u) ∧ t.receiverAccountId = holding ∧
    ∃ r v, t.intendedReceiverAccountId = some r ∧ db.OwnedBy r v

/-- The payout of a hold of that kind, out of a holding account. -/
def PaidOutOf (db : Database) (holding : Ulid) (kind : TransferKind) (t : TransferRow) : Prop :=
  t.senderAccountId = holding ∧ (∃ u, db.OwnedBy t.receiverAccountId u) ∧
    ∃ h hold, t.parentTransferId = some h ∧ db.transfers.find? h = some hold ∧ hold.kind = kind ∧
      hold.amountMinor = t.amountMinor

/-- Money of a user, paid into a pool. -/
def PaidIntoPool (db : Database) (t : TransferRow) : Prop :=
  (∃ u, db.OwnedBy t.senderAccountId u) ∧
    ∃ pool, db.overdraftPools.find? pool.id = some pool ∧ t.receiverAccountId = pool.poolAccountId

/-- Money of a pool, lent to the beneficiary of an active grant within both caps. -/
def DrawnFromPool (cfg : Settings) (db : Database) (t : TransferRow) : Prop :=
  ∃ pool grant u, db.overdraftGrants.find? grant.id = some grant ∧
    db.overdraftPools.find? grant.poolId = some pool ∧ t.senderAccountId = pool.poolAccountId ∧
    db.OwnedBy t.receiverAccountId u ∧ grant.beneficiaryUserId = u ∧ grant.status = .active ∧
    t.amountMinor ≤ grant.maxDrawMinor ∧ t.amountMinor ≤ cfg.overdraftMaxDrawMinor

def Routed (cfg : Settings) (db : Database) (t : TransferRow) : Prop :=
  match t.kind with
  | .signupGrant => t.senderAccountId = SYSTEM_ISSUANCE_ACCOUNT_ID ∧
      ∃ u, t.initiatedByUserId = some u ∧ db.OwnedBy t.receiverAccountId u
  | .undoHold => HeldIn db PENDING_SETTLEMENT_ACCOUNT_ID t
  | .escrowHold => HeldIn db ESCROW_ACCOUNT_ID t
  | .undoSettle | .undoRefund => PaidOutOf db PENDING_SETTLEMENT_ACCOUNT_ID .undoHold t
  | .escrowRelease | .escrowRefund => PaidOutOf db ESCROW_ACCOUNT_ID .escrowHold t
  | .overdraftFund | .overdraftRepay => PaidIntoPool db t
  | .overdraftDraw => DrawnFromPool cfg db t
  | .requestSettlement =>
      (∃ u, db.OwnedBy t.senderAccountId u) ∧ ∃ u, db.OwnedBy t.receiverAccountId u
  | _ => False

section Growth

variable {cfg : Settings} {db db' : Database} {t t' : TransferRow}

theorem HeldIn.mono {holding : Ulid} (hg : db.Grows db') (hs : t.SameMovement t')
    (h : HeldIn db holding t) : HeldIn db' holding t' := by
  obtain ⟨_, _, rfl⟩ := hs
  obtain ⟨⟨u, hu⟩, hr, r, v, hi, hv⟩ := h
  exact ⟨⟨u, hg.ownedBy hu⟩, hr, r, v, hi, hg.ownedBy hv⟩

theorem PaidOutOf.mono {holding : Ulid} {kind : TransferKind} (hg : db.Grows db')
    (hs : t.SameMovement t') (h : PaidOutOf db holding kind t) : PaidOutOf db' holding kind t' := by
  obtain ⟨_, _, rfl⟩ := hs
  obtain ⟨hsender, ⟨u, hu⟩, h, hold, hparent, hfound, hkind, hamount⟩ := h
  obtain ⟨hold', hfound', _, _, rfl⟩ := hg.transfer h hold hfound
  exact ⟨hsender, ⟨u, hg.ownedBy hu⟩, h, _, hparent, hfound', hkind, hamount⟩

theorem PaidIntoPool.mono (hg : db.Grows db') (hs : t.SameMovement t') (h : PaidIntoPool db t) :
    PaidIntoPool db' t' := by
  obtain ⟨_, _, rfl⟩ := hs
  obtain ⟨⟨u, hu⟩, pool, hpool, hr⟩ := h
  exact ⟨⟨u, hg.ownedBy hu⟩, pool, hg.pool _ _ hpool, hr⟩

theorem DrawnFromPool.mono (hg : db.Grows db') (hs : t.SameMovement t')
    (h : DrawnFromPool cfg db t) : DrawnFromPool cfg db' t' := by
  obtain ⟨_, _, rfl⟩ := hs
  obtain ⟨pool, grant, u, hgrant, hpool, hsender, hu, hrest⟩ := h
  exact ⟨pool, grant, u, hg.grant _ _ hgrant, hg.pool _ _ hpool, hsender, hg.ownedBy hu, hrest⟩

theorem Routed.mono (hg : db.Grows db') (hs : t.SameMovement t') (h : Routed cfg db t) :
    Routed cfg db' t' := by
  have hkind : t'.kind = t.kind := by
    obtain ⟨_, _, rfl⟩ := hs
    rfl
  unfold Routed at h ⊢
  rw [hkind]
  cases hk : t.kind <;> simp only [hk] at h ⊢
  case signupGrant =>
    obtain ⟨_, _, rfl⟩ := hs
    obtain ⟨hsender, u, hu, ho⟩ := h
    exact ⟨hsender, u, hu, hg.ownedBy ho⟩
  case undoHold | escrowHold => exact h.mono hg hs
  case undoSettle | undoRefund | escrowRelease | escrowRefund => exact h.mono hg hs
  case overdraftFund | overdraftRepay => exact h.mono hg hs
  case overdraftDraw => exact h.mono hg hs
  case requestSettlement =>
    obtain ⟨_, _, rfl⟩ := hs
    obtain ⟨⟨u, hu⟩, v, hv⟩ := h
    exact ⟨⟨u, hg.ownedBy hu⟩, v, hg.ownedBy hv⟩

end Growth

/-! ### The parties of a route -/

def TransferKind.senderType : TransferKind → AccountType
  | .signupGrant => .systemIssuance
  | .undoSettle | .undoRefund => .pendingSettlement
  | .escrowRelease | .escrowRefund => .escrow
  | .overdraftDraw => .overdraftPool
  | _ => .user

def TransferKind.receiverType : TransferKind → AccountType
  | .undoHold => .pendingSettlement
  | .escrowHold => .escrow
  | .overdraftFund | .overdraftRepay => .overdraftPool
  | _ => .user

section Parties

variable {cfg : Settings} {db : Database} {t : TransferRow}

theorem Routed.sender_hasType (h : Routed cfg db t) (hch : Chart db) :
    db.HasType t.senderAccountId t.kind.senderType := by
  unfold Routed at h
  cases hk : t.kind <;> simp only [hk] at h
  case signupGrant => exact h.1 ▸ hch.issuance
  case undoHold | escrowHold =>
    obtain ⟨⟨u, hu⟩, -⟩ := h
    exact hu.hasType
  case undoSettle | undoRefund => exact h.1 ▸ hch.pending
  case escrowRelease | escrowRefund => exact h.1 ▸ hch.escrow
  case overdraftFund | overdraftRepay | requestSettlement =>
    obtain ⟨⟨u, hu⟩, -⟩ := h
    exact hu.hasType
  case overdraftDraw =>
    obtain ⟨pool, grant, u, -, hpool, hsender, -⟩ := h
    exact hsender ▸ hch.pool_hasType hpool

theorem Routed.receiver_hasType (h : Routed cfg db t) (hch : Chart db) :
    db.HasType t.receiverAccountId t.kind.receiverType := by
  unfold Routed at h
  cases hk : t.kind <;> simp only [hk] at h
  case signupGrant =>
    obtain ⟨-, u, -, hu⟩ := h
    exact hu.hasType
  case undoHold => exact h.2.1 ▸ hch.pending
  case escrowHold => exact h.2.1 ▸ hch.escrow
  case undoSettle | undoRefund | escrowRelease | escrowRefund =>
    obtain ⟨-, ⟨u, hu⟩, -⟩ := h
    exact hu.hasType
  case overdraftFund | overdraftRepay =>
    obtain ⟨-, pool, hpool, hr⟩ := h
    exact hr ▸ hch.pool_hasType hpool
  case overdraftDraw =>
    obtain ⟨pool, grant, u, -, -, -, hu, -⟩ := h
    exact hu.hasType
  case requestSettlement =>
    obtain ⟨-, u, hu⟩ := h
    exact hu.hasType

end Parties

/-! ### Statuses and duties -/

/-- The statuses a transfer of a kind can have. -/
def TransferRow.StatusOk (t : TransferRow) : Prop :=
  match t.kind with
  | .undoHold => t.status = .pendingUndo ∨ t.status = .succeeded ∨ t.status = .refunded
  | .escrowHold => t.status = .held ∨ t.status = .succeeded ∨ t.status = .refunded
  | _ => t.status = .succeeded

/-- The hold a status belongs to. -/
def PendingIn (status : TransferStatus) (kind : TransferKind) : Prop :=
  status = .pendingUndo ∧ kind = .undoHold ∨ status = .held ∧ kind = .escrowHold

/-- A transfer in a pending status is a hold of the kind the status belongs to. -/
theorem TransferRow.StatusOk.pendingIn {t : TransferRow} (h : t.StatusOk)
    (hs : t.status = .pendingUndo ∨ t.status = .held) : PendingIn t.status t.kind := by
  unfold TransferRow.StatusOk at h
  rcases hs with hs | hs <;> rw [hs] at h ⊢ <;> cases hk : t.kind <;> simp [hk] at h
  · exact .inl ⟨rfl, rfl⟩
  · exact .inr ⟨rfl, rfl⟩

theorem TransferRow.StatusOk.latched {t : TransferRow} {kind : TransferKind} {toStatus : TransferStatus}
    {now : Time} (hk : t.kind = kind) (hkind : kind = .undoHold ∨ kind = .escrowHold)
    (hto : toStatus = .succeeded ∨ toStatus = .refunded) : (t.latched toStatus now).StatusOk := by
  unfold TransferRow.StatusOk TransferRow.latched
  rcases hkind with rfl | rfl <;> simp [hk, hto]

/-- What the rows say about the unfinished business. -/
def DutyOk (db : Database) : Duty → Prop
  | .none => True
  | .pay h fromStatus toStatus => ∃ hold, db.transfers.find? h = some hold ∧
      hold.status = toStatus ∧ (toStatus = .succeeded ∨ toStatus = .refunded) ∧
      PendingIn fromStatus hold.kind
  | .closeEscrow leg => db.transfers.find? leg.id = some leg ∧
      (leg.kind = .escrowRelease ∨ leg.kind = .escrowRefund)
  | .openEscrow hold => db.transfers.find? hold.id = some hold ∧ hold.kind = .escrowHold ∧
      hold.status = .held
  | .lend draw => db.transfers.find? draw.id = some draw ∧ draw.kind = .overdraftDraw
  | .accept t _ => db.transfers.find? t.id = some t ∧ t.kind = .requestSettlement

theorem DutyOk.mono {db db' : Database} {d : Duty} (h : DutyOk db d)
    (ht : ∀ id t, db.transfers.find? id = some t → db'.transfers.find? id = some t) :
    DutyOk db' d := by
  cases d with
  | none => trivial
  | pay h fromStatus toStatus =>
    obtain ⟨hold, hf, hrest⟩ := h
    exact ⟨hold, ht _ _ hf, hrest⟩
  | closeEscrow leg => exact ⟨ht _ _ h.1, h.2⟩
  | openEscrow hold => exact ⟨ht _ _ h.1, h.2⟩
  | lend draw => exact ⟨ht _ _ h.1, h.2⟩
  | accept t r => exact ⟨ht _ _ h.1, h.2⟩

structure Routes (cfg : Settings) (d : Duty) (db : Database) : Prop where
  routed : ∀ t ∈ db.transfers.rows, Routed cfg db t
  legs : ∀ t ∈ db.transfers.rows, t.kind.isSettlementLeg = t.parentTransferId.isSome
  status : ∀ t ∈ db.transfers.rows, t.StatusOk
  escrows : ∀ e ∈ db.safepayEscrows.rows, ∃ hold, db.transfers.find? e.holdTransferId = some hold ∧
    hold.kind = .escrowHold ∧ hold.amountMinor = e.amountMinor
  duty : DutyOk db d

/-! ### Movements by warrant -/

/-- A licence that posts nothing without a warrant, and answers nothing it may not. -/
structure Licence.Sound (c : Ctx) (L : Licence) : Prop where
  post : ∀ db d p d', L.post db d p d' → Warrant c db p d d'
  answer : ∀ row, L.answer row → Answerable c row

theorem licence_sound (c : Ctx) (db : Database) (req : Request) : (licence c db req).Sound c where
  post _ _ _ _ h := h.1
  answer _ h := h

section Warrants

variable {cfg : Settings} {c : Ctx} {db : Database} {p : Posting} {d d' : Duty}

/-- Whoever is paid out of a hold is a user. -/
theorem HeldIn.paidTo_owned {holding : Ulid} {hold : TransferRow} {toStatus : TransferStatus}
    {account : Ulid} (h : HeldIn db holding hold) (hp : PaidTo hold toStatus account) :
    ∃ u, db.OwnedBy account u := by
  obtain ⟨⟨u, hu⟩, -, r, v, hi, hv⟩ := h
  rcases hp with ⟨-, hr⟩ | ⟨-, rfl⟩
  · obtain rfl := Option.some.inj (hi.symm.trans hr)
    exact ⟨v, hv⟩
  · exact ⟨u, hu⟩

theorem Routes.heldIn (h : Routes cfg d db) {id : Ulid} {hold : TransferRow}
    (hf : db.transfers.find? id = some hold) :
    (hold.kind = .undoHold → HeldIn db PENDING_SETTLEMENT_ACCOUNT_ID hold) ∧
      (hold.kind = .escrowHold → HeldIn db ESCROW_ACCOUNT_ID hold) := by
  have hr := h.routed hold (Table.mem_of_find? hf)
  unfold Routed at hr
  refine ⟨fun hk => ?_, fun hk => ?_⟩ <;> simpa only [hk] using hr

/-- In duty to pay, the hold is the one the duty names. -/
theorem Routes.pay {hold : TransferRow} {fromStatus toStatus : TransferStatus}
    (h : Routes cfg (.pay hold.id fromStatus toStatus) db)
    (hf : db.transfers.find? hold.id = some hold) :
    hold.status = toStatus ∧ PendingIn fromStatus hold.kind := by
  obtain ⟨x, hx, hst, -, hk⟩ := h.duty
  obtain rfl := Option.some.inj (hf.symm.trans hx)
  exact ⟨hst, hk⟩

/-- A warranted movement goes where its kind says. -/
theorem Warrant.routed (hw : Warrant c db p d d') (hv : p.Valid c db) (hch : Chart db)
    (h : Routes c.settings d db) : Routed c.settings db p.row := by
  obtain ⟨cmd, now, stamp, sender, receiver, tid, ref, ltx, de, ce, ev⟩ := p
  cases hw with
  | grant hc ho =>
    dsimp only at hc
    subst hc
    exact ⟨rfl, _, rfl, ho⟩
  | fund hc _ hp ho =>
    dsimp only at hc
    subst hc
    exact ⟨⟨_, ho⟩, _, hp, rfl⟩
  | undoHold hc ho hr =>
    dsimp only at hc
    subst hc
    exact ⟨⟨_, ho⟩, rfl, _, _, rfl, hr⟩
  | escrowHold hc ho hr =>
    dsimp only at hc
    subst hc
    exact ⟨⟨_, ho⟩, rfl, _, _, rfl, hr⟩
  | draw hc hg hb hs hp hcap hmax ho =>
    dsimp only at hc
    subst hc
    exact ⟨_, _, _, hg, hp, rfl, ho, hb, hs, hcap, hmax⟩
  | request hc hf hs =>
    dsimp only at hc
    subst hc
    exact hch.parties _ (Table.mem_of_find? hf)
  | undoLeg hc hf hp =>
    rename_i hold toStatus account u note req
    dsimp only at hc
    subst hc
    have hk : hold.kind = .undoHold := by
      rcases (h.pay hf).2 with ⟨-, hk⟩ | ⟨hx, -⟩
      · exact hk
      · cases hx
    have hroute : PaidOutOf db PENDING_SETTLEMENT_ACCOUNT_ID .undoHold
        (Posting.row ⟨HoldingService.legCommand c hold.id toStatus account
          PENDING_SETTLEMENT_ACCOUNT_ID (.fromMinor hold.amountMinor) (undoLegKind toStatus) u note req,
          now, stamp, sender, receiver, tid, ref, ltx, de, ce, ev⟩) :=
      ⟨rfl, ((h.heldIn hf).1 hk).paidTo_owned hp, hold.id, hold, rfl, hf, hk, rfl⟩
    rcases hp with ⟨rfl, -⟩ | ⟨rfl, -⟩
    · exact hroute
    · exact hroute
  | escrowLeg hc hf hp he hh =>
    rename_i hold e toStatus account u note req
    dsimp only at hc
    subst hc
    have hk : hold.kind = .escrowHold := by
      rcases (h.pay hf).2 with ⟨hx, -⟩ | ⟨-, hk⟩
      · cases hx
      · exact hk
    obtain ⟨x, hx, -, hamount⟩ := h.escrows e (Table.mem_of_find? he)
    rw [hh] at hx
    obtain rfl := Option.some.inj (hf.symm.trans hx)
    have hroute : PaidOutOf db ESCROW_ACCOUNT_ID .escrowHold
        (Posting.row ⟨HoldingService.legCommand c hold.id toStatus account
          ESCROW_ACCOUNT_ID (.fromMinor e.amountMinor) (escrowLegKind toStatus) u note req,
          now, stamp, sender, receiver, tid, ref, ltx, de, ce, ev⟩) :=
      ⟨rfl, ((h.heldIn hf).2 hk).paidTo_owned hp, hold.id, hold, rfl, hf, hk, hamount⟩
    rcases hp with ⟨rfl, -⟩ | ⟨rfl, -⟩
    · exact hroute
    · exact hroute

theorem Repays.routed {loan : LoanRow} {pool : PoolRow} (hr : Repays db p loan pool) (hch : Chart db)
    (hv : p.Valid c db) : Routed cfg db p.row := by
  have hroute : PaidIntoPool db p.row := by
    obtain ⟨u, hu⟩ := hch.owner hv.sender_found hr.sender_type
    have hid : pool.id = loan.poolId := Table.key_of_find? hr.pool_found
    exact ⟨⟨u, hu⟩, pool, hid ▸ hr.pool_found, hr.receiver⟩
  have hk : p.row.kind = .overdraftRepay := hr.kind
  unfold Routed
  simpa only [hk] using hroute

theorem PaidTo.settles {hold : TransferRow} {toStatus : TransferStatus} {account : Ulid}
    (h : PaidTo hold toStatus account) : toStatus = .succeeded ∨ toStatus = .refunded := by
  rcases h with ⟨h, -⟩ | ⟨h, -⟩
  · exact .inl h
  · exact .inr h

theorem Warrant.statusOk (hw : Warrant c db p d d') : p.row.StatusOk := by
  obtain ⟨cmd, now, stamp, sender, receiver, tid, ref, ltx, de, ce, ev⟩ := p
  cases hw with
  | grant hc _ | fund hc _ _ _ | draw hc _ _ _ _ _ _ _ | request hc _ _ =>
    dsimp only at hc
    subst hc
    exact rfl
  | undoHold hc _ _ | escrowHold hc _ _ =>
    dsimp only at hc
    subst hc
    exact .inl rfl
  | undoLeg hc _ hp =>
    dsimp only at hc
    subst hc
    rcases hp.settles with rfl | rfl <;> exact rfl
  | escrowLeg hc _ hp _ _ =>
    dsimp only at hc
    subst hc
    rcases hp.settles with rfl | rfl <;> exact rfl

theorem Warrant.dutyOk (hw : Warrant c db p d d') (hv : p.Valid c db) (h : DutyOk db d) :
    DutyOk (p.apply db) d' := by
  have hpush : ∀ id t, db.transfers.find? id = some t → (p.apply db).transfers.find? id = some t :=
    fun _ _ ht => Table.find?_push_of_some ht
  have hrow : (p.apply db).transfers.find? p.row.id = some p.row :=
    Table.find?_push_self hv.transfer_fresh
  cases hw with
  | grant | fund | undoHold => exact h.mono hpush
  | escrowHold hc _ _ =>
    have hk : p.row.kind = .escrowHold ∧ p.row.status = .held :=
      ⟨congrArg TransferCommand.kind hc, congrArg TransferCommand.initialStatus hc⟩
    exact ⟨hrow, hk⟩
  | draw hc => exact ⟨hrow, congrArg TransferCommand.kind hc⟩
  | request hc => exact ⟨hrow, congrArg TransferCommand.kind hc⟩
  | undoLeg => trivial
  | escrowLeg hc _ hp _ _ =>
    refine ⟨hrow, ?_⟩
    have hk : p.row.kind = escrowLegKind _ := congrArg TransferCommand.kind hc
    rcases hp.settles with rfl | rfl
    · exact .inl hk
    · exact .inr hk

end Warrants

/-! ### Steps -/

namespace Routes

variable {cfg : Settings} {db db' : Database} {d d' : Duty}

theorem migrated_routes (cfg : Settings) (now : Time) : Routes cfg .none (migrated now) where
  routed t ht := by cases ht
  legs t ht := by cases ht
  status t ht := by cases ht
  escrows e he := by cases he
  duty := trivial

/-- Transfers and escrows are as they were. -/
theorem of_eq (h : Routes cfg d db) (hg : db.Grows db') (ht : db'.transfers = db.transfers)
    (he : db'.safepayEscrows = db.safepayEscrows) : Routes cfg d db' where
  routed t hmem := (h.routed t (ht ▸ hmem)).mono hg (.refl t)
  legs := ht ▸ h.legs
  status := ht ▸ h.status
  escrows := by
    rw [ht, he]
    exact h.escrows
  duty := h.duty.mono (by rw [ht]; exact fun _ _ hf => hf)

theorem with_duty (h : Routes cfg d db) (hd : DutyOk db d') : Routes cfg d' db :=
  ⟨h.routed, h.legs, h.status, h.escrows, hd⟩

/-- One more transfer, routed. -/
theorem post {c : Ctx} {p : Posting} (h : Routes cfg d db) (hv : p.Valid c db)
    (hrouted : Routed cfg db p.row) (hstatus : p.row.StatusOk) (hd : DutyOk (p.apply db) d') :
    Routes cfg d' (p.apply db) := by
  have hrows : ∀ t ∈ (p.apply db).transfers.rows, t ∈ db.transfers.rows ∨ t = p.row :=
    fun t ht => (Table.mem_push hv.transfer_fresh).1 ht
  refine ⟨?_, ?_, ?_, ?_, hd⟩
  · intro t ht
    rcases hrows t ht with ht | rfl
    · exact (h.routed t ht).mono hv.grows (.refl t)
    · exact hrouted.mono hv.grows (.refl _)
  · intro t ht
    rcases hrows t ht with ht | rfl
    · exact h.legs t ht
    · exact hv.leg_iff_parent
  · intro t ht
    rcases hrows t ht with ht | rfl
    · exact h.status t ht
    · exact hstatus
  · intro e he
    obtain ⟨hold, hf, hrest⟩ := h.escrows e he
    exact ⟨hold, Table.find?_push_of_some hf, hrest⟩

theorem repay {c : Ctx} {p : Posting} {loan : LoanRow} {pool : PoolRow} (h : Routes cfg d db)
    (hch : Chart db) (hv : p.Valid c db) (hr : Repays db p loan pool) : Routes cfg d (p.apply db) := by
  refine h.post hv (hr.routed hch hv) ?_ (h.duty.mono fun _ _ ht => Table.find?_push_of_some ht)
  have hk : p.row.kind = .overdraftRepay := hr.kind
  have hs : p.row.status = .succeeded := hr.status
  unfold TransferRow.StatusOk
  simpa only [hk] using hs

/-- A hold leaves its pending status: the row keeps its route, and its payout is due. -/
theorem latch {hold : TransferRow} {toStatus : TransferStatus} {now : Time} (h : Routes cfg .none db)
    (hg : db.Grows { db with
      transfers := db.transfers.modifyAt hold.id (TransferRow.latched toStatus now)
        (TransferRow.id_latched toStatus now) })
    (hf : db.transfers.find? hold.id = some hold)
    (hs : hold.status = .pendingUndo ∨ hold.status = .held)
    (hto : toStatus = .succeeded ∨ toStatus = .refunded) :
    Routes cfg (.pay hold.id hold.status toStatus) { db with
      transfers := db.transfers.modifyAt hold.id (TransferRow.latched toStatus now)
        (TransferRow.id_latched toStatus now) } := by
  have hmem := Table.mem_of_find? hf
  have hpending := (h.status hold hmem).pendingIn hs
  have hkind : hold.kind = .undoHold ∨ hold.kind = .escrowHold := by
    rcases hpending with ⟨-, hk⟩ | ⟨-, hk⟩
    · exact .inl hk
    · exact .inr hk
  refine ⟨?_, ?_, ?_, ?_, ?_⟩
  · intro t ht
    dsimp only at ht
    rcases Table.mem_of_mem_modifyAt hf ht with ⟨ht, -⟩ | rfl
    · exact (h.routed t ht).mono hg (.refl t)
    · exact (h.routed hold hmem).mono hg ⟨_, _, rfl⟩
  · intro t ht
    dsimp only at ht
    rcases Table.mem_of_mem_modifyAt hf ht with ⟨ht, -⟩ | rfl
    · exact h.legs t ht
    · exact h.legs hold hmem
  · intro t ht
    dsimp only at ht
    rcases Table.mem_of_mem_modifyAt hf ht with ⟨ht, -⟩ | rfl
    · exact h.status t ht
    · exact .latched rfl hkind hto
  · intro e he
    obtain ⟨x, hx, hk, ha⟩ := h.escrows e he
    obtain ⟨x', hx', _, _, rfl⟩ := hg.transfer _ _ hx
    exact ⟨_, hx', hk, ha⟩
  · refine ⟨hold.latched toStatus now, ?_, rfl, hto, hpending⟩
    rw [Table.find?_modifyAt, if_pos rfl, hf]
    rfl

/-- An escrow row may change in everything but the deal. -/
theorem modify_escrow {e : EscrowRow} {f : EscrowRow → EscrowRow} {hid : ∀ x, (f x).id = x.id}
    (h : Routes cfg d db) (hf : db.safepayEscrows.find? e.id = some e) (hd : e.SameDeal (f e)) :
    Routes cfg d { db with safepayEscrows := db.safepayEscrows.modifyAt e.id f hid } := by
  refine ⟨fun t ht => (h.routed t ht).mono (.of_eq rfl rfl rfl rfl) (.refl t), h.legs, h.status, ?_,
    h.duty.mono fun _ _ ht => ht⟩
  intro x hx
  dsimp only at hx
  rcases Table.mem_of_mem_modifyAt hf hx with ⟨hx, -⟩ | rfl
  · exact h.escrows x hx
  · rw [hd.hold, hd.amount]
    exact h.escrows e (Table.mem_of_find? hf)

theorem step {c : Ctx} {L : Licence} {k k' : Config} (hs : Step c L k k') (hL : L.Sound c)
    (hstray : k.progress.repaying = none → ¬Stray k.db k.progress.duty) (hch : Chart k.db)
    (h : Routes c.settings k.progress.duty k.db) : Routes c.settings k'.progress.duty k'.db := by
  have hg := hs.grows
  cases hs
  case post p hv hl =>
    have hw := hL.post _ _ _ _ hl
    exact h.post hv (hw.routed hv hch h) hw.statusOk (hw.dutyOk hv h.duty)
  case repay hv hr => exact h.repay hch hv hr
  case latch hf hst hto => exact h.latch hg hf hst hto
  case openEscrow t e _ hf hhold _ hamount _ _ =>
    refine ⟨fun t ht => (h.routed t ht).mono hg (.refl t), h.legs, h.status, ?_, trivial⟩
    intro x hx
    rcases (Table.mem_push hf).1 hx with hx | rfl
    · exact h.escrows x hx
    · obtain ⟨ht, hk, -⟩ := h.duty
      exact ⟨t, hhold ▸ ht, hk, hamount.symm⟩
  case escrow hf _ _ hd _ => exact h.modify_escrow hf hd
  case closeEscrow hf _ _ hd _ _ => exact (h.modify_escrow hf hd).with_duty trivial
  case lend => exact (h.of_eq hg rfl rfl).with_duty trivial
  case accept => exact (h.of_eq hg rfl rfl).with_duty trivial
  case stray hs _ _ _ => exact absurd hs (hstray rfl)
  all_goals exact h.of_eq hg rfl rfl

end Routes

end MoneyMovement

/-
  MoneyMovement/Stranding.lean
  ============================
  **Which holds can still be settled.**

  A settlement revalidates both accounts long after the hold was taken.  The
  holding account always passes: it is active and holds at least what is
  pending.  So whether `HoldingService.settle` goes through depends on the
  beneficiary's account alone, and a hold is stranded exactly when neither its
  sender nor its intended receiver is active any more.
-/
import MoneyMovement.LienSweep
import MoneyMovement.Settlement

namespace MoneyMovement

open Txn

/-! ### Identifiers nobody has used -/

/-- The values drawn before `N` are distinct, and no row has them. -/
structure Oracle.FreshFor (o : Oracle) (N : Nat) (db : Database) : Prop where
  ids : Distinct o.ulid 0 N
  suffixes : Distinct o.referenceSuffix 0 N
  transfers : Unused o 0 N db.transfers
  references : ∀ i < N, ∀ t ∈ db.transfers.rows, t.reference.suffix ≠ o.referenceSuffix i
  ledgerTransactions : Unused o 0 N db.ledgerTransactions
  ledgerEntries : Unused o 0 N db.ledgerEntries
  outboxEvents : Unused o 0 N db.outboxEvents
  auditLogs : Unused o 0 N db.auditLogs
  repayments : Unused o 0 N db.overdraftRepayments
  tasks : Unused o 0 N db.scheduledTasks

section AtRest

variable {d : Deployment} {db : Database}

/-- A transaction that begins on an unused oracle draws only fresh values. -/
theorem Oracle.FreshFor.begin {c : Ctx} {N : Nat} (h : c.oracle.FreshFor N db) (hinv : db.Inv d) :
    Fresh c N (begin db) where
  ids := h.ids
  suffixes := h.suffixes
  transfers := h.transfers
  references i _ hi := h.references i hi
  ledgerTransactions := h.ledgerTransactions
  posted i hi hi' x hx := by
    obtain ⟨t, _, _, ht, -⟩ := hinv.books.posted x hx
    intro heq
    rw [heq, h.transfers i hi hi'] at ht
    cases ht
  ledgerEntries := h.ledgerEntries
  outboxEvents := h.outboxEvents
  auditLogs := h.auditLogs
  repayments := h.repayments
  repaid i hi hi' x hx := by
    obtain ⟨-, t, ht, -⟩ := hinv.lending.repayment x hx
    intro heq
    rw [heq, h.transfers i hi hi'] at ht
    cases ht
  tasks := h.tasks

/-- Between transactions every record is complete. -/
theorem Database.Inv.completed (h : db.Inv d) {r : IdempotencyRow}
    (hr : r ∈ db.idempotencyRecords.rows) : r.status = .completed :=
  (h.reserved.settled r hr).resolve_left nofun

theorem Database.Inv.serviceable (h : db.Inv d) : Serviceable db where
  active := h.standing.active
  users := h.standing.users
  solvent := h.books.nonneg
  pools := h.chart.pools
  loans l hl := (h.lending.loan l hl).le_principal
  lienKeys r hr he := h.standing.lienKeys r hr (h.completed hr) he

/-! ### The settlement of a pending hold -/

open HoldingService

/-- The kind of the leg that settles a hold. -/
def TransferRow.legKind (hold : TransferRow) (toStatus : TransferStatus) : TransferKind :=
  if hold.kind = .escrowHold then escrowLegKind toStatus else undoLegKind toStatus

/-- `HoldingService.settle` of a hold, as the services call it: out of the account the hold
    put the money in, for the amount it put there. -/
def HoldingService.settleHold (c : Ctx) (hold : TransferRow) (toStatus : TransferStatus)
    (beneficiaryAccountId actorUserId : Ulid) (note requestId : Option String) : Tx TransferResult :=
  settle c hold.id hold.reference hold.status toStatus beneficiaryAccountId hold.receiverAccountId
    (.fromMinor hold.amountMinor) (hold.legKind toStatus) actorUserId note requestId

variable {hold : TransferRow} {toStatus : TransferStatus}

theorem TransferRow.legKind_isSettlementLeg (hold : TransferRow) (toStatus : TransferStatus) :
    (hold.legKind toStatus).isSettlementLeg = true ∧
      (hold.legKind toStatus).isSystemInitiated = true := by
  unfold TransferRow.legKind undoLegKind escrowLegKind
  cases toStatus <;> split <;> exact ⟨rfl, rfl⟩

/-- The legs have endpoints of their own. -/
theorem HoldingService.legEndpoint_ne (kind : TransferKind) (rest : String) :
    "POST:/" ++ rest ≠ legEndpoint kind := by
  refine append_ne_of_take ?_ rest
  unfold legEndpoint
  rw [String.toList_append, List.take_append_of_le_length (by decide)]
  decide

/-- The hold's key for a settlement is unused while the hold is pending. -/
theorem Database.Inv.settlementKey_free (h : db.Inv d) (hm : hold ∈ db.transfers.rows)
    (hs : hold.status = .pendingUndo ∨ hold.status = .held) (kind : TransferKind) (u : Ulid) :
    db.idempotencyRecords.find? ⟨u, legEndpoint kind, settlementKey hold.id toStatus⟩ = none := by
  cases hr : db.idempotencyRecords.find? ⟨u, legEndpoint kind, settlementKey hold.id toStatus⟩ with
  | none => rfl
  | some r =>
    exfalso
    have htriple := Table.key_of_find? hr
    rcases h.proven.records r (Table.mem_of_find? hr) (h.completed (Table.mem_of_find? hr)) with
      ⟨c, -, ⟨rest, hpost⟩, -⟩ | ⟨cmd, row, hrow⟩
    · rw [htriple] at hpost
      exact legEndpoint_ne kind rest hpost.symm
    · have hcmd : cmd.triple = _ := hrow.triple.symm.trans htriple
      have hparent := hrow.issued.parent_of_settlement (congrArg IdempotencyTriple.endpoint hcmd)
        (congrArg IdempotencyTriple.key hcmd)
      have hchild : row ∈ childrenOf db.transfers hold.id :=
        DoubleEntry.mem_entriesOf.2 ⟨Table.mem_of_find? hrow.found, hrow.created.parent.trans hparent⟩
      rw [h.no_child hm hs] at hchild
      cases hchild

theorem SystemAccount.type_ne {id : Ulid} {type : AccountType} (h : SystemAccount id type) :
    type ≠ .user ∧ type ≠ .overdraftPool := by
  cases h <;> exact ⟨nofun, nofun⟩

/-- The holding account is active, nobody's, and holds at least the hold's amount. -/
theorem Database.Inv.holding (h : db.Inv d) (hm : hold ∈ db.transfers.rows)
    (hs : hold.status = .pendingUndo ∨ hold.status = .held) :
    ∃ a, db.accounts.find? hold.receiverAccountId = some a ∧ a.status = .active ∧
      a.userId = none ∧ a.accountType ≠ .user ∧ hold.amountMinor ≤ a.balanceMinor := by
  have hf := Table.find?_of_mem hm
  have haccount : ∀ {type : AccountType}, SystemAccount hold.receiverAccountId type →
      hold.amountMinor ≤ balanceOf db.accounts hold.receiverAccountId →
      ∃ a, db.accounts.find? hold.receiverAccountId = some a ∧ a.status = .active ∧
        a.userId = none ∧ a.accountType ≠ .user ∧ hold.amountMinor ≤ a.balanceMinor := by
    intro type hsystem hle
    obtain ⟨a, ha, htype⟩ := h.chart.system _ _ hsystem
    have hmem := Table.mem_of_find? ha
    subst htype
    obtain ⟨huser, hpool⟩ := hsystem.type_ne
    refine ⟨a, ha, h.standing.active a hmem huser, ?_, huser, ?_⟩
    · rcases h.chart.kept a hmem with ⟨-, hnone⟩ | ⟨htype, -⟩
      · exact hnone
      · exact (htype.elim huser hpool).elim
    · rwa [balanceOf_of_find? ha] at hle
  rcases (h.routes.status hold hm).pendingIn hs with ⟨hst, hk⟩ | ⟨hst, hk⟩
  · obtain ⟨-, hto, -⟩ := (h.routes.heldIn hf).1 hk
    rw [hto] at haccount ⊢
    refine haccount .pending ?_
    have hpending : hold.pendingAmount = hold.amountMinor := if_pos hst
    rw [h.custody.pending, ← hpending]
    refine (Table.le_sum (fun x hx => ?_) hm).trans (Int.le_of_eq (Int.add_zero _).symm)
    have := (h.books.moves x hx).1
    unfold TransferRow.pendingAmount
    split <;> omega
  · obtain ⟨-, hto, -⟩ := (h.routes.heldIn hf).2 hk
    rw [hto] at haccount ⊢
    refine haccount .escrow ?_
    obtain ⟨e, he, hid⟩ := (h.latches.covered hold hm hk).resolve_right nofun
    obtain ⟨x, hx, -, hamount⟩ := h.routes.escrows e he
    obtain ⟨x', hx', -, hopen⟩ := h.escrow_status he
    rw [hid, hf] at hx hx'
    cases hx
    cases hx'
    have hopen : e.status.isOpen = true := by
      rcases hopen with ⟨ho, -⟩ | ⟨-, hx⟩ | ⟨-, hx⟩
      · exact ho
      · rw [hst] at hx
        cases hx
      · rw [hst] at hx
        cases hx
    have hopenAmount : e.openAmount = hold.amountMinor := by
      rw [EscrowRow.openAmount, if_pos hopen, hamount]
    rw [h.custody.escrowed, ← hopenAmount]
    refine (Table.le_sum (fun y hy => ?_) he).trans (Int.le_of_eq (Int.add_zero _).symm)
    obtain ⟨t, ht, -, ha⟩ := h.routes.escrows y hy
    have := (h.books.moves t (Table.mem_of_find? ht)).1
    unfold EscrowRow.openAmount
    split <;> omega

/-- The database once the hold is latched. -/
def Database.latched (db : Database) (hold : TransferRow) (toStatus : TransferStatus) (now : Time) :
    Database :=
  { db with
    transfers := db.transfers.modifyAt hold.id (TransferRow.latched toStatus now)
      (TransferRow.id_latched toStatus now) }

theorem Fresh.latched {c : Ctx} {N : Nat} {s s' : Session} {now : Time} (h : Fresh c N s)
    (hdraws : s'.draws = s.draws) (hdb : s'.db = s.db.latched hold toStatus now) : Fresh c N s' where
  ids := hdraws ▸ h.ids
  suffixes := hdraws ▸ h.suffixes
  transfers i hi hi' := by
    rw [hdb]
    exact Table.find?_modifyAt_none (TransferRow.id_latched _ _) (h.transfers i (hdraws ▸ hi) hi')
  references i hi hi' t ht := by
    rw [hdb] at ht
    dsimp only [Database.latched] at ht
    obtain ⟨t₀, ht₀, rfl⟩ := Table.mem_modifyAt.1 ht
    have hne := h.references i (hdraws ▸ hi) hi' t₀ ht₀
    split <;> exact hne
  ledgerTransactions := by
    rw [hdraws, hdb]
    exact h.ledgerTransactions
  posted := by
    rw [hdraws, hdb]
    exact h.posted
  ledgerEntries := by
    rw [hdraws, hdb]
    exact h.ledgerEntries
  outboxEvents := by
    rw [hdraws, hdb]
    exact h.outboxEvents
  auditLogs := by
    rw [hdraws, hdb]
    exact h.auditLogs
  repayments := by
    rw [hdraws, hdb]
    exact h.repayments
  repaid := by
    rw [hdraws, hdb]
    exact h.repaid
  tasks := by
    rw [hdraws, hdb]
    exact h.tasks

theorem Serviceable.latched (h : Serviceable db) (hold : TransferRow) (toStatus : TransferStatus)
    (now : Time) : Serviceable (db.latched hold toStatus now) :=
  ⟨h.active, h.users, h.solvent, h.pools, h.loans, fun r hr he =>
    (h.lienKeys r hr he).mono (Table.extends_modifyAt _ _ _ (TransferRow.id_latched _ _))⟩

theorem SqlTransferRepository.tryTransitionStatus_returns {c : Ctx} {s : Session}
    (hf : s.db.transfers.find? hold.id = some hold) :
    Returns (SqlTransferRepository.tryTransitionStatus c hold.id hold.status toStatus) s fun n s' =>
      n = 1 ∧ s'.draws = s.draws ∧ s'.db = s.db.latched hold toStatus c.oracle.dbNow :=
  ⟨_, _, updateWhere_of hf (by simp) rfl, rfl, rfl, rfl⟩

/-- The outstanding loans of a borrower are among all loans. -/
theorem length_outstanding_le (db : Database) (u : Ulid) :
    (SqlOverdraftRepository.outstanding db u).length ≤ db.overdraftLoans.rows.length := by
  unfold SqlOverdraftRepository.outstanding byCreatedAt
  refine (List.length_filterMap_le _ _).trans ?_
  rw [List.length_insertionSort]
  exact List.length_filter_le _ _

theorem fits_settlementKey (h : Ulid) (toStatus : TransferStatus) :
    fits 128 (settlementKey h toStatus) = true := by
  have hlen : (settlementKey h toStatus).length = 34 + toStatus.text.length := by
    simp only [settlementKey, String.length_append, Ulid.length_text]
    rfl
  rw [fits, hlen]
  cases toStatus <;> decide

theorem fits_legEndpoint (kind : TransferKind) :
    fits 100 (legEndpoint kind) = true ∧ legEndpoint kind ≠ LIEN_ENDPOINT := by
  cases kind <;> decide +kernel

/-- Whoever a hold is paid to is a user, whose account exists. -/
theorem Database.Inv.beneficiary (h : db.Inv d) (hm : hold ∈ db.transfers.rows)
    (hs : hold.status = .pendingUndo ∨ hold.status = .held) {account : Ulid}
    (hp : PaidTo hold toStatus account) : ∃ u, db.OwnedBy account u := by
  have hf := Table.find?_of_mem hm
  rcases (h.routes.status hold hm).pendingIn hs with ⟨-, hk⟩ | ⟨-, hk⟩
  · exact ((h.routes.heldIn hf).1 hk).paidTo_owned hp
  · exact ((h.routes.heldIn hf).2 hk).paidTo_owned hp

/-- The settlement goes through when the beneficiary is active: the money leaves the holding
    account, and the lien takes its share of it.  The caller may have reserved a key first. -/
theorem HoldingService.settleHold_returns_in {c : Ctx} {N : Nat} {s : Session} {account u : Ulid}
    {b : AccountRow} {note req : Option String} (hinv : db.Inv d) (hm : hold ∈ db.transfers.rows)
    (hs : hold.status = .pendingUndo ∨ hold.status = .held) (hp : PaidTo hold toStatus account)
    (hb : db.accounts.find? account = some b) (hactive : b.status = .active)
    (hdb : ∃ records, s.db = { db with idempotencyRecords := records })
    (hS : Serviceable s.db)
    (hkey : s.db.idempotencyRecords.find?
      ⟨u, legEndpoint (hold.legKind toStatus), settlementKey hold.id toStatus⟩ = none)
    (hfresh : Fresh c N s) (hN : s.draws + 8 + 10 * db.overdraftLoans.rows.length ≤ N)
    (hu : (db.users.find? u).isSome = true) (hnote : fits? 200 note = true)
    (hreq : fits? 64 req = true) :
    Returns (settleHold c hold toStatus account u note req) s fun _ s' =>
      (∀ v, b.userId = some v → s'.db.position =
        (db.position.pay hold.receiverAccountId account hold.amountMinor).swept account
          (SqlOverdraftRepository.outstanding db v)
          (OverdraftService.lienBudget c (.fromMinor hold.amountMinor))) ∧ Fresh c N s' ∧
      s'.draws ≤ s.draws + 8 + 10 * db.overdraftLoans.rows.length := by
  obtain ⟨records, hdb⟩ := hdb
  have hf := Table.find?_of_mem hm
  obtain ⟨a, ha, haactive, hnone, hatype, hafford⟩ := hinv.holding hm hs
  obtain ⟨v, b', hb', htype, hv⟩ := hinv.beneficiary hm hs hp
  cases hb.symm.trans hb'
  obtain ⟨hleg, hsystem⟩ := hold.legKind_isSettlementLeg toStatus
  obtain ⟨hfits, hendpoint⟩ := fits_legEndpoint (hold.legKind toStatus)
  have hfound : s.db.transfers.find? hold.id = some hold := by
    rw [hdb]
    exact hf
  refine Returns.bind (SqlTransferRepository.tryTransitionStatus_returns hfound) ?_
  rintro _ s₁ ⟨rfl, hd₁, e₁⟩
  refine Returns.bind (Returns.ensure rfl rfl : Returns _ s₁ fun _ s' => s₁ = s') ?_
  rintro _ _ rfl
  have hne : hold.receiverAccountId ≠ account := by
    intro heq
    rw [heq, hb] at ha
    cases ha
    exact hatype htype
  have hlen := length_outstanding_le db v
  have hout : SqlOverdraftRepository.outstanding s₁.db v = SqlOverdraftRepository.outstanding db v := by
    rw [e₁, hdb]
    rfl
  refine (execute_returns_swept (N := N) (a := a) (b := b) (u := v) ?_ (hfresh.latched hd₁ e₁) ?_ ?_
    ?_ htype hv hendpoint).mono ?_
  · refine ⟨⟨hfits, fits_settlementKey _ _⟩, ?_, ?_, ?_, .inl ⟨hsystem, hnone⟩, nofun⟩
    · rw [e₁]
      exact hkey
    · rw [e₁, hdb]
      have hpositive := (hinv.books.moves hold hm).1
      have hsolvent := hinv.books.nonneg b (Table.mem_of_find? hb) (by rw [htype]; nofun)
      exact ⟨ha, hb, hne, hpositive, haactive, hactive, .inr hafford, .inr hsolvent⟩
    · rw [e₁, hdb]
      refine ⟨hnote, hreq, hu, ?_, nofun, hleg⟩
      intro p hparent
      cases hparent
      exact Table.extends_modifyAt _ _ _ (TransferRow.id_latched _ _) _
        (Option.isSome_iff_exists.2 ⟨hold, hf⟩)
  · rw [e₁]
    exact hS.latched _ _ _
  · rw [hout, hd₁]
    omega
  · show OverdraftService.isLoanLeg (hold.legKind toStatus) = false
    revert hleg
    cases hold.legKind toStatus <;> decide
  · rintro r s₂ ⟨hposition, hfresh₂, hdraws⟩
    rw [hout, hd₁] at hdraws
    refine ⟨?_, hfresh₂, by omega⟩
    intro v' hv'
    cases hv.symm.trans hv'
    rw [hposition, hout, e₁, hdb]
    rfl

theorem HoldingService.settleHold_returns {c : Ctx} {account u : Ulid} {b : AccountRow}
    {note req : Option String} (hinv : db.Inv d) (hm : hold ∈ db.transfers.rows)
    (hs : hold.status = .pendingUndo ∨ hold.status = .held) (hp : PaidTo hold toStatus account)
    (hb : db.accounts.find? account = some b) (hactive : b.status = .active)
    (hfresh : c.oracle.FreshFor (8 + 10 * db.overdraftLoans.rows.length) db)
    (hu : (db.users.find? u).isSome = true) (hnote : fits? 200 note = true)
    (hreq : fits? 64 req = true) :
    Returns (settleHold c hold toStatus account u note req) (begin db) fun _ s' =>
      ∀ v, b.userId = some v → s'.db.position =
        (db.position.pay hold.receiverAccountId account hold.amountMinor).swept account
          (SqlOverdraftRepository.outstanding db v)
          (OverdraftService.lienBudget c (.fromMinor hold.amountMinor)) := by
  have hN : (begin db).draws + 8 + 10 * db.overdraftLoans.rows.length ≤
      8 + 10 * db.overdraftLoans.rows.length := by
    show 0 + 8 + _ ≤ _
    omega
  refine (settleHold_returns_in hinv hm hs hp hb hactive ⟨db.idempotencyRecords, rfl⟩ hinv.serviceable
    (hinv.settlementKey_free hm hs _ u) (hfresh.begin hinv) hN hu hnote hreq).mono ?_
  intro _ _ h
  exact h.1

/-- … and only then: the leg revalidates its receiver. -/
theorem HoldingService.active_of_settleHold {c : Ctx} {account u : Ulid} {b : AccountRow}
    {note req : Option String} {r : TransferResult} {s' : Session} (hinv : db.Inv d)
    (hm : hold ∈ db.transfers.rows) (hs : hold.status = .pendingUndo ∨ hold.status = .held)
    (hb : db.accounts.find? account = some b)
    (h : settleHold c hold toStatus account u note req (begin db) = .ok r s') :
    b.status = .active := by
  obtain ⟨n, s₁, h₁, h⟩ := bind_ok.1 h
  obtain ⟨_, s₂, h₂, hexec⟩ := bind_ok.1 h
  obtain ⟨hn, rfl⟩ := ensure_ok.1 h₂
  obtain ⟨-, -, -, e₁⟩ := SqlTransferRepository.tryTransitionStatus_ok hn h₁
  rcases execute_ok hexec with ⟨-, -, row, hrow⟩ | ⟨p, hp⟩
  · have hfound := hrow.found
    rw [e₁] at hfound
    cases (hinv.settlementKey_free hm hs _ u).symm.trans hfound
  · have hreceiver := hp.valid.receiver_found
    rw [hp.cmd_eq, e₁] at hreceiver
    cases hb.symm.trans hreceiver
    exact hp.valid.receiver_active

theorem HoldingService.settleHold_succeeds_iff {c : Ctx} {account u : Ulid} {b : AccountRow}
    {note req : Option String} (hinv : db.Inv d) (hm : hold ∈ db.transfers.rows)
    (hs : hold.status = .pendingUndo ∨ hold.status = .held) (hp : PaidTo hold toStatus account)
    (hb : db.accounts.find? account = some b)
    (hfresh : c.oracle.FreshFor (8 + 10 * db.overdraftLoans.rows.length) db)
    (hu : (db.users.find? u).isSome = true) (hnote : fits? 200 note = true)
    (hreq : fits? 64 req = true) :
    (settleHold c hold toStatus account u note req (begin db)).succeeded = true ↔
      b.status = .active := by
  rw [Outcome.succeeded_iff]
  constructor
  · rintro ⟨r, s', h⟩
    exact active_of_settleHold hinv hm hs hb h
  · intro hactive
    obtain ⟨r, s', h, -⟩ := settleHold_returns hinv hm hs hp hb hactive hfresh hu hnote hreq
    exact ⟨r, s', h⟩

end AtRest

/-! ### No stranded money -/

open HoldingService

/-- In every reachable state, a pending hold can be settled, to its intended receiver or back
    to its sender, exactly when one of the two accounts is active: whatever identifiers the
    settlement draws, and whoever initiates it. -/
theorem hold_can_be_settled_iff (d : Deployment) (now : Time) (calls : List Call) :
    let db := serveAll d calls (migrated now)
    ∀ hold ∈ db.transfers.rows, hold.status = .pendingUndo ∨ hold.status = .held →
      ∃ r sender receiver, hold.intendedReceiverAccountId = some r ∧
        db.accounts.find? hold.senderAccountId = some sender ∧
        db.accounts.find? r = some receiver ∧
        ∀ (o : Oracle) (u : Ulid) (note req : Option String),
          o.FreshFor (8 + 10 * db.overdraftLoans.rows.length) db →
          (db.users.find? u).isSome = true → fits? 200 note = true → fits? 64 req = true →
          ((settleHold (d.ctx o) hold .succeeded r u note req (begin db)).succeeded = true ∨
              (settleHold (d.ctx o) hold .refunded hold.senderAccountId u note req
                (begin db)).succeeded = true ↔
            receiver.status = .active ∨ sender.status = .active) := by
  intro db hold hm hs
  have hinv : db.Inv d := serveAll_inv d now calls
  obtain ⟨r, hr⟩ : ∃ r, hold.intendedReceiverAccountId = some r := by
    have hf := Table.find?_of_mem hm
    rcases (hinv.routes.status hold hm).pendingIn hs with ⟨-, hk⟩ | ⟨-, hk⟩
    · obtain ⟨-, -, r, -, hr, -⟩ := (hinv.routes.heldIn hf).1 hk
      exact ⟨r, hr⟩
    · obtain ⟨-, -, r, -, hr, -⟩ := (hinv.routes.heldIn hf).2 hk
      exact ⟨r, hr⟩
  have hforward : PaidTo hold .succeeded r := .inl ⟨rfl, hr⟩
  have hback : PaidTo hold .refunded hold.senderAccountId := .inr ⟨rfl, rfl⟩
  obtain ⟨-, receiver, hreceiver, -⟩ := hinv.beneficiary hm hs hforward
  obtain ⟨-, sender, hsender, -⟩ := hinv.beneficiary hm hs hback
  refine ⟨r, sender, receiver, hr, hsender, hreceiver, ?_⟩
  intro o u note req hfresh hu hnote hreq
  exact or_congr
    (settleHold_succeeds_iff (c := d.ctx o) hinv hm hs hforward hreceiver hfresh hu hnote hreq)
    (settleHold_succeeds_iff (c := d.ctx o) hinv hm hs hback hsender hfresh hu hnote hreq)

namespace Sample

/-- The first user buys from the third and from the second, the second from the third. -/
def orders : List Call :=
  [register 1 "01711111111", register 2 "01722222222", register 3 "01733333333",
    call 4 (.createSafepay (id 1 1) "1234" "01733333333" (.fromMinor 5000) none "a" none),
    call 5 (.createSafepay (id 2 1) "1234" "01733333333" (.fromMinor 6000) none "b" none),
    call 6 (.createSafepay (id 1 1) "1234" "01722222222" (.fromMinor 7000) none "c" none)]

/-- Both buyers lose a dispute with the third user, and are banned for it. -/
def bans : List Call :=
  [call 7 (.disputeSafepay (id 1 1) (id 4 2) "never sent" "d" none),
    call 8 (.resolveSafepay (id 4 2) .release "sent" true "e" none),
    call 9 (.disputeSafepay (id 2 1) (id 5 2) "never sent" "f" none),
    call 10 (.resolveSafepay (id 5 2) .release "sent" true "g" none)]

/-- Is this a hold that is `HELD`, between accounts of which `p` holds? -/
def heldBetween (p : AccountStatus → AccountStatus → Bool) (db : Database) (hold : TransferRow) :
    Bool :=
  hold.status == .held &&
    match hold.intendedReceiverAccountId with
    | none => false
    | some r =>
      match db.accounts.find? hold.senderAccountId, db.accounts.find? r with
      | some a, some b => p a.status b.status
      | _, _ => false

theorem of_any_heldBetween {p : AccountStatus → AccountStatus → Bool} {db : Database}
    (h : db.transfers.rows.any (heldBetween p db) = true) :
    ∃ hold ∈ db.transfers.rows, hold.status = .held ∧ ∃ r a b,
      hold.intendedReceiverAccountId = some r ∧
      db.accounts.find? hold.senderAccountId = some a ∧ db.accounts.find? r = some b ∧
      p a.status b.status = true := by
  obtain ⟨hold, hm, hcheck⟩ := List.any_eq_true.1 h
  obtain ⟨hs, hcheck⟩ := Bool.and_eq_true_iff.1 hcheck
  refine ⟨hold, hm, beq_iff_eq.1 hs, ?_⟩
  cases hr : hold.intendedReceiverAccountId with
  | none =>
    rw [hr] at hcheck
    cases hcheck
  | some r =>
    simp only [hr] at hcheck
    split at hcheck
    · rename_i a b ha hb
      exact ⟨r, a, b, rfl, ha, hb, hcheck⟩
    · cases hcheck

/-- Every identifier of the tables comes from a call before number `n`. -/
def before (n : Nat) (db : Database) : Bool :=
  db.transfers.rows.all (fun t => decide (t.id.ms.val < n ∧ t.reference.suffix.val < n * 1000)) &&
  db.ledgerTransactions.rows.all (fun x => decide (x.id.ms.val < n)) &&
  db.ledgerEntries.rows.all (fun x => decide (x.id.ms.val < n)) &&
  db.outboxEvents.rows.all (fun x => decide (x.id.ms.val < n)) &&
  db.auditLogs.rows.all (fun x => decide (x.id.ms.val < n)) &&
  db.overdraftRepayments.rows.all (fun x => decide (x.id.ms.val < n)) &&
  db.scheduledTasks.rows.all fun x => decide (x.id.ms.val < n)

theorem unused {ρ : Type} {key : ρ → Ulid} {t : Table key} {n N : Nat} {now : Time}
    (hn : n < 1000000) (h : t.rows.all (fun x => decide ((key x).ms.val < n)) = true) :
    Unused (oracle n now) 0 N t := by
  intro i _ _
  rw [Table.find?_eq_none]
  intro x hx heq
  have hlt : (key x).ms.val < n := by simpa using List.all_eq_true.1 h x hx
  have hms : (key x).ms.val = n % 2 ^ 48 := congrArg (fun u : Ulid => u.ms.val) heq
  omega

/-- The next call of a run draws nothing that an earlier one drew. -/
theorem freshFor {n N : Nat} {now : Time} {db : Database} (hn : n < 1000000) (hN : N < 1000)
    (h : before n db = true) : (oracle n now).FreshFor N db := by
  simp only [before, Bool.and_eq_true] at h
  obtain ⟨⟨⟨⟨⟨⟨ht, h₁⟩, h₂⟩, h₃⟩, h₄⟩, h₅⟩, h₆⟩ := h
  have hsuffix : ∀ i, ((oracle n now).referenceSuffix i).val = (n * 1000 + i) % 32 ^ 8 := fun _ => rfl
  refine ⟨?_, ?_, ?_, ?_, unused hn h₁, unused hn h₂, unused hn h₃, unused hn h₄, unused hn h₅,
    unused hn h₆⟩
  · intro i j _ hi _ hj heq
    have hrand : (n * 1000 + i) % 2 ^ 80 = (n * 1000 + j) % 2 ^ 80 :=
      congrArg (fun u : Ulid => u.rand.val) heq
    omega
  · intro i j _ hi _ hj heq
    have hval := congrArg Fin.val heq
    rw [hsuffix, hsuffix] at hval
    omega
  · refine unused hn (List.all_eq_true.2 fun t hmem => ?_)
    have hlt : _ ∧ _ := of_decide_eq_true (List.all_eq_true.1 ht t hmem)
    exact decide_eq_true hlt.1
  · intro i hi t hmem heq
    have hlt : _ ∧ _ := of_decide_eq_true (List.all_eq_true.1 ht t hmem)
    have hval := congrArg Fin.val heq
    rw [hsuffix] at hval
    omega

theorem orders_held : (serveAll deployment orders (migrated start)).transfers.rows.any
    (heldBetween (fun x y => x == .active && y == .active)
      (serveAll deployment orders (migrated start))) = true := by
  decide +kernel

theorem orders_before : before 20 (serveAll deployment orders (migrated start)) = true := by
  decide +kernel

theorem orders_user :
    ((serveAll deployment orders (migrated start)).users.find? (id 1 1)).isSome = true := by
  decide +kernel

theorem orders_loans : (serveAll deployment orders (migrated start)).overdraftLoans.rows.length = 0 := by
  decide +kernel

theorem bans_held : (serveAll deployment (orders ++ bans) (migrated start)).transfers.rows.any
    (heldBetween (fun x y => x == .closed && y == .closed)
      (serveAll deployment (orders ++ bans) (migrated start))) = true := by
  decide +kernel

end Sample

/-- Both orders on the third user are paid, so the second order can be settled either way. -/
theorem hold_can_be_settled_after_orders :
    let db := serveAll Sample.deployment Sample.orders (migrated Sample.start)
    ∃ hold ∈ db.transfers.rows, hold.status = .held ∧ ∃ r,
      hold.intendedReceiverAccountId = some r ∧
      ((settleHold (Sample.deployment.ctx (Sample.oracle 20 Sample.start)) hold .succeeded r
          (Sample.id 1 1) none none (begin db)).succeeded = true ∨
        (settleHold (Sample.deployment.ctx (Sample.oracle 20 Sample.start)) hold .refunded
          hold.senderAccountId (Sample.id 1 1) none none (begin db)).succeeded = true) := by
  have hsettled := hold_can_be_settled_iff Sample.deployment Sample.start Sample.orders
  have hheld := Sample.orders_held
  have huser := Sample.orders_user
  have hloans := Sample.orders_loans
  have hbefore := Sample.orders_before
  generalize serveAll Sample.deployment Sample.orders (migrated Sample.start) = db at *
  obtain ⟨hold, hm, hs, r, a, b, hr, ha, hb, hstatus⟩ := Sample.of_any_heldBetween hheld
  obtain ⟨hsender, -⟩ := Bool.and_eq_true_iff.1 hstatus
  obtain ⟨r', a', b', hr', ha', hb', hiff⟩ := hsettled hold hm (.inr hs)
  cases hr.symm.trans hr'
  cases ha.symm.trans ha'
  have hfresh : (Sample.oracle 20 Sample.start).FreshFor 8 db :=
    Sample.freshFor (by decide) (by decide) hbefore
  rw [hloans] at hiff
  exact ⟨hold, hm, hs, r, hr, (hiff _ _ none none hfresh huser rfl rfl).2 (.inr (beq_iff_eq.1 hsender))⟩

/-- Once both parties of the last order are banned, neither settlement of it can succeed. -/
theorem hold_is_stranded :
    let db := serveAll Sample.deployment (Sample.orders ++ Sample.bans) (migrated Sample.start)
    ∃ hold ∈ db.transfers.rows, hold.status = .held ∧ ∃ r,
      hold.intendedReceiverAccountId = some r ∧
      ∀ (o : Oracle) (u : Ulid) (note req : Option String),
        ¬((settleHold (Sample.deployment.ctx o) hold .succeeded r u note req
            (begin db)).succeeded = true ∨
          (settleHold (Sample.deployment.ctx o) hold .refunded hold.senderAccountId u note req
            (begin db)).succeeded = true) := by
  have hinv := serveAll_inv Sample.deployment Sample.start (Sample.orders ++ Sample.bans)
  have hheld := Sample.bans_held
  generalize serveAll Sample.deployment (Sample.orders ++ Sample.bans) (migrated Sample.start) = db at *
  obtain ⟨hold, hm, hs, r, a, b, hr, ha, hb, hstatus⟩ := Sample.of_any_heldBetween hheld
  obtain ⟨hsender, hreceiver⟩ := Bool.and_eq_true_iff.1 hstatus
  refine ⟨hold, hm, hs, r, hr, ?_⟩
  rintro o u note req (hpaid | hpaid)
  · obtain ⟨_, _, hok⟩ := Outcome.succeeded_iff.1 hpaid
    have := active_of_settleHold hinv hm (.inr hs) hb hok
    rw [beq_iff_eq.1 hreceiver] at this
    cases this
  · obtain ⟨_, _, hok⟩ := Outcome.succeeded_iff.1 hpaid
    have := active_of_settleHold hinv hm (.inr hs) ha hok
    rw [beq_iff_eq.1 hsender] at this
    cases this

end MoneyMovement

/-
  MoneyMovement/Entitlements.lean
  ===============================
  **Whose money moves, and by whose leave.**

  Two readings of the invariant at rest: what a sponsor's pool and its loans add
  up to, and for every debit of every account the reason it was made.  The one
  fact that is about a transaction rather than a state is that a settlement leg
  is posted by the transaction that takes its hold out of its pending status.
-/
import MoneyMovement.Settlement

namespace MoneyMovement

open DoubleEntry

/-! ### Pools and loans -/

/-- A pool's money is in its account or out on loan, and every loan is its draw less its
    repayments. -/
theorem pools_and_loans_in_every_run (d : Deployment) (now : Time) (calls : List Call) :
    let db := serveAll d calls (migrated now)
    (∀ pool ∈ db.overdraftPools.rows, ∃ a, db.accounts.find? pool.poolAccountId = some a ∧
        a.balanceMinor + outstandingOn db.overdraftLoans pool.id =
          fundedInto db.transfers pool.poolAccountId) ∧
      (∀ l ∈ db.overdraftLoans.rows, 0 ≤ l.outstandingMinor ∧
        l.outstandingMinor ≤ l.principalMinor ∧
        (∃ t, db.transfers.find? l.drawTransferId = some t ∧ t.kind = .overdraftDraw ∧
          t.amountMinor = l.principalMinor) ∧
        l.outstandingMinor = l.principalMinor - repaidOf db.overdraftRepayments l.id ∧
        (l.status = .repaid ↔ l.outstandingMinor = 0)) ∧
      ∀ x ∈ db.overdraftRepayments.rows, ∃ t, db.transfers.find? x.transferId = some t ∧
        t.kind = .overdraftRepay ∧ t.amountMinor = x.amountMinor := by
  intro db
  have hinv : db.Inv d := serveAll_inv d now calls
  refine ⟨?_, ?_, ?_⟩
  · intro pool hp
    obtain ⟨a, ha, -⟩ := hinv.chart.pools pool hp
    refine ⟨a, ha, ?_⟩
    have hworth := hinv.lending.worth pool hp
    have hbalance : balanceOf db.accounts pool.poolAccountId = a.balanceMinor := balanceOf_of_find? ha
    simp only [Progress.idle, lent, returned] at hworth
    rw [← hbalance, ← hworth]
    omega
  · intro l hl
    have hok := hinv.lending.loan l hl
    obtain ⟨t, -, ht, hk, ha, -⟩ := hok.draw
    exact ⟨hok.nonneg, hok.le_principal, ⟨t, ht, hk, ha⟩, hok.outstanding_eq, hok.repaid_iff⟩
  · intro x hx
    exact (hinv.lending.repayment x hx).2

/-! ### What a transaction posts -/

/-- No request posts both a hold and a settlement leg. -/
theorem Request.posts_hold_or_leg {req : Request} {leg hold : TransferKind}
    (hleg : req.posts leg = true) (hk : leg.isSettlementLeg = true)
    (hh : hold = .undoHold ∨ hold = .escrowHold) : req.posts hold = false := by
  cases req
  case createTransfer => cases leg <;> simp_all [Request.posts, TransferKind.isSettlementLeg]
  case createSafepay => cases leg <;> simp_all [Request.posts, TransferKind.isSettlementLeg]
  all_goals rcases hh with rfl | rfl <;> rfl

/-- The transfer a step adds is of a kind its request posts, or a repayment. -/
theorem Step.new_transfer {c : Ctx} {db₀ : Database} {req : Request} {k k' : Config}
    (hs : Step c (licence c db₀ req) k k') {t : TransferRow} (ht : t ∈ k'.db.transfers.rows) :
    (∃ t₀ ∈ k.db.transfers.rows, t₀.SameMovement t) ∨ req.posts t.kind = true ∨
      t.kind = .overdraftRepay := by
  cases hs
  case post p hv hl =>
    rcases (Table.mem_push hv.transfer_fresh).1 ht with ht | rfl
    · exact .inl ⟨t, ht, .refl t⟩
    · exact .inr (.inl hl.2)
  case repay p _ _ hv hr =>
    rcases (Table.mem_push hv.transfer_fresh).1 ht with ht | rfl
    · exact .inl ⟨t, ht, .refl t⟩
    · exact .inr (.inr hr.kind)
  case latch hf _ _ =>
    dsimp only at ht
    rcases Table.mem_of_mem_modifyAt hf ht with ⟨ht, -⟩ | rfl
    · exact .inl ⟨t, ht, .refl t⟩
    · exact .inl ⟨_, Table.mem_of_find? hf, _, _, rfl⟩
  all_goals exact .inl ⟨t, ht, .refl t⟩

/-- The transfers a transaction adds are of the kinds its request posts, or repayments. -/
theorem Steps.new_transfers {c : Ctx} {db₀ : Database} {req : Request} {k : Config}
    (hs : Steps c (licence c db₀ req) ⟨.idle, db₀⟩ k) :
    ∀ t ∈ k.db.transfers.rows, (∃ t₀, db₀.transfers.find? t.id = some t₀) ∨
      req.posts t.kind = true ∨ t.kind = .overdraftRepay := by
  induction hs with
  | refl => exact fun t ht => .inl ⟨t, Table.find?_of_mem ht⟩
  | tail _ hs ih =>
    intro t ht
    rcases hs.new_transfer ht with ⟨t₀, ht₀, hsame⟩ | hnew
    · obtain ⟨_, _, rfl⟩ := hsame
      exact ih t₀ ht₀
    · exact .inr hnew

/-- The hold of a leg was there, pending, when the transaction that posted the leg began. -/
theorem leg_posted_with_latch {d : Deployment} {call : Call} {db : Database} (hinv : db.Inv d)
    (hinv' : (serve d call db).Inv d) {t hold : TransferRow}
    (ht : t ∈ (serve d call db).transfers.rows) (hnew : db.transfers.find? t.id = none)
    (hleg : t.kind.isSettlementLeg = true) (hp : t.parentTransferId = some hold.id)
    (hf : (serve d call db).transfers.find? hold.id = some hold)
    (hk : hold.kind = .undoHold ∨ hold.kind = .escrowHold) :
    (∃ before, db.transfers.find? hold.id = some before ∧
      (before.status = .pendingUndo ∨ before.status = .held)) ∧
      ¬(hold.status = .pendingUndo ∨ hold.status = .held) := by
  have hchild : t ∈ childrenOf (serve d call db).transfers hold.id := mem_entriesOf.2 ⟨ht, hp⟩
  have hsettled : ¬(hold.status = .pendingUndo ∨ hold.status = .held) := by
    intro hs
    rw [hinv'.no_child (Table.mem_of_find? hf) hs] at hchild
    cases hchild
  refine ⟨?_, hsettled⟩
  rcases serve_cases d call db with he | hsteps
  · rw [he] at ht
    rw [Table.find?_of_mem ht] at hnew
    cases hnew
  have hbefore : ∃ before, db.transfers.find? hold.id = some before := by
    rcases Steps.new_transfers hsteps t ht with ⟨t₀, ht₀⟩ | hposts | hrepay
    · rw [hnew] at ht₀
      cases ht₀
    · rcases Steps.new_transfers hsteps hold (Table.mem_of_find? hf) with hold₀ | hposts' | hrepay
      · exact hold₀
      · rw [Request.posts_hold_or_leg hposts hleg hk] at hposts'
        cases hposts'
      · rcases hk with hk | hk <;> cases hk.symm.trans hrepay
    · rw [hrepay] at hleg
      cases hleg
  obtain ⟨before, hb⟩ := hbefore
  refine ⟨before, hb, ?_⟩
  obtain ⟨hold', hf', hsame⟩ := hsteps.grows.transfer _ _ hb
  obtain rfl := Option.some.inj (hf.symm.trans hf')
  have hkb : before.kind = .undoHold ∨ before.kind = .escrowHold := by
    obtain ⟨_, _, rfl⟩ := hsame
    exact hk
  have hid : before.id = hold.id := Table.key_of_find? hb
  rcases hinv.latches.holds before (Table.mem_of_find? hb) hkb with ⟨hpending, -⟩ | ⟨s, hduty⟩ | hpaid
  · rcases hpending with ⟨hs, -⟩ | ⟨hs, -⟩
    · exact .inl hs
    · exact .inr hs
  · cases hduty
  · -- it was paid already: then it has two children now
    obtain ⟨leg, hlegs, -⟩ := hpaid
    have hmem : leg ∈ childrenOf db.transfers before.id := by
      rw [hlegs]
      exact List.mem_singleton_self leg
    obtain ⟨hlm, hlp⟩ := mem_entriesOf.1 hmem
    obtain ⟨leg', hl', hlsame⟩ := hsteps.grows.transfer _ _ (Table.find?_of_mem hlm)
    have hchild' : leg' ∈ childrenOf (serve d call db).transfers hold.id := by
      refine mem_entriesOf.2 ⟨Table.mem_of_find? hl', ?_⟩
      obtain ⟨_, _, rfl⟩ := hlsame
      exact hlp.trans (congrArg some hid)
    rcases hinv'.latches.holds hold (Table.mem_of_find? hf) hk with ⟨-, hnone⟩ | ⟨s, hduty⟩ | hpaid'
    · rw [hnone] at hchild
      cases hchild
    · cases hduty
    · obtain ⟨only, honly, -⟩ := hpaid'
      rw [honly] at hchild hchild'
      obtain rfl := List.mem_singleton.1 hchild
      obtain rfl := List.mem_singleton.1 hchild'
      rw [hlsame.id, Table.find?_of_mem hlm] at hnew
      cases hnew

/-! ### Debits -/

/-- The reason for debiting an account of a type with the transfer `t`, committed by a call
    that took the database from `before` to `after`. -/
def DebitReason (cfg : Settings) (before after : Database) (a : AccountRow) (t : TransferRow) : Prop :=
  match a.accountType with
  | .user => a.userId.isSome = true ∧ t.initiatedByUserId = a.userId
  | .overdraftPool => t.kind = .overdraftDraw ∧ ∃ pool grant borrower,
      after.overdraftPools.find? grant.poolId = some pool ∧ pool.poolAccountId = a.id ∧
      after.overdraftGrants.find? grant.id = some grant ∧ grant.status = .active ∧
      grant.beneficiaryUserId = borrower ∧ after.OwnedBy t.receiverAccountId borrower ∧
      t.amountMinor ≤ grant.maxDrawMinor ∧ t.amountMinor ≤ cfg.overdraftMaxDrawMinor
  | .escrow | .pendingSettlement => t.kind.isSettlementLeg = true ∧ ∃ hold,
      t.parentTransferId = some hold.id ∧ after.transfers.find? hold.id = some hold ∧
      hold.receiverAccountId = a.id ∧ hold.amountMinor = t.amountMinor ∧
      (before.transfers.find? t.id = none →
        (∃ pending, before.transfers.find? hold.id = some pending ∧
          (pending.status = .pendingUndo ∨ pending.status = .held)) ∧
        ¬(hold.status = .pendingUndo ∨ hold.status = .held))
  | .systemIssuance => t.kind = .signupGrant ∧ ∃ u, t.initiatedByUserId = some u ∧
      after.OwnedBy t.receiverAccountId u
  | .group => False

/-- A debit is the sender's entry of a transfer. -/
theorem Books.debit {accounts : Table AccountRow.id} {transfers : Table TransferRow.id}
    {transactions : Table LedgerTransactionRow.id} {entries : Table LedgerEntryRow.id}
    (h : Books accounts transfers transactions entries) {e : LedgerEntryRow} (he : e ∈ entries.rows)
    (hneg : e.amountMinor < 0) :
    ∃ l t, transactions.find? e.ledgerTransactionId = some l ∧
      transfers.find? l.transferId = some t ∧ t.senderAccountId = e.accountId ∧
      t.amountMinor = -e.amountMinor := by
  obtain ⟨l, hl⟩ := Option.isSome_iff_exists.1 (h.entry_transaction e he)
  obtain ⟨t, debit, credit, ht, hpair, hp⟩ := h.posted l (Table.mem_of_find? hl)
  refine ⟨l, t, hl, ht, ?_⟩
  have hmem : e ∈ entriesOf LedgerEntryRow.ledgerTransactionId entries.rows l.id :=
    mem_entriesOf.2 ⟨he, (Table.key_of_find? hl).symm⟩
  rw [hpair, List.mem_cons, List.mem_singleton] at hmem
  rcases hmem with rfl | rfl
  · exact ⟨hp.debit_account.symm, by rw [hp.debit_amount]; omega⟩
  · have hpos := (h.moves t (Table.mem_of_find? ht)).1
    rw [hp.credit_amount] at hneg
    omega

theorem Routed.paidOutOf_hold {cfg : Settings} {db : Database} {t : TransferRow} {holding : Ulid}
    {kind : TransferKind} (hr : Routes cfg .none db) (hroute : PaidOutOf db holding kind t)
    (hk : kind = .undoHold ∧ holding = PENDING_SETTLEMENT_ACCOUNT_ID ∨
      kind = .escrowHold ∧ holding = ESCROW_ACCOUNT_ID) :
    ∃ hold, t.parentTransferId = some hold.id ∧ db.transfers.find? hold.id = some hold ∧
      hold.receiverAccountId = holding ∧ hold.amountMinor = t.amountMinor ∧
      (hold.kind = .undoHold ∨ hold.kind = .escrowHold) := by
  obtain ⟨-, -, h, hold, hp, hf, hkind, ha⟩ := hroute
  obtain rfl : hold.id = h := Table.key_of_find? hf
  have hheld := hr.heldIn hf
  rcases hk with ⟨rfl, rfl⟩ | ⟨rfl, rfl⟩
  · exact ⟨hold, hp, hf, (hheld.1 hkind).2.1, ha, .inl hkind⟩
  · exact ⟨hold, hp, hf, (hheld.2 hkind).2.1, ha, .inr hkind⟩

theorem debitReason_of_inv {d : Deployment} {call : Call} {db : Database} (hinv : db.Inv d)
    (hinv' : (serve d call db).Inv d) {t : TransferRow} {a : AccountRow}
    (ht : t ∈ (serve d call db).transfers.rows)
    (ha : (serve d call db).accounts.find? t.senderAccountId = some a) :
    DebitReason d.settings db (serve d call db) a t := by
  have hid : a.id = t.senderAccountId := Table.key_of_find? ha
  have hroute := hinv'.routes.routed t ht
  have htype : a.accountType = t.kind.senderType := by
    obtain ⟨a', ha', htype⟩ := hroute.sender_hasType hinv'.chart
    obtain rfl := Option.some.inj (ha.symm.trans ha')
    exact htype
  have huser : t.kind.senderType = .user → a.userId.isSome = true ∧ t.initiatedByUserId = a.userId := by
    intro hu
    obtain ⟨u, a', ha', -, hu'⟩ := hinv'.chart.owner ha (htype.trans hu)
    obtain rfl := Option.some.inj (ha.symm.trans ha')
    obtain ⟨b, hb, hauth⟩ := hinv'.authorized t ht
    obtain rfl := Option.some.inj (ha.symm.trans hb)
    rw [hu'] at hauth ⊢
    rcases hauth with hauth | hauth
    · cases hauth
    · exact ⟨rfl, hauth.symm⟩
  have hleg : ∀ holding kind, t.senderAccountId = holding → PaidOutOf (serve d call db) holding kind t →
      (kind = .undoHold ∧ holding = PENDING_SETTLEMENT_ACCOUNT_ID ∨
        kind = .escrowHold ∧ holding = ESCROW_ACCOUNT_ID) → t.kind.isSettlementLeg = true →
      t.kind.isSettlementLeg = true ∧ ∃ hold, t.parentTransferId = some hold.id ∧
        (serve d call db).transfers.find? hold.id = some hold ∧ hold.receiverAccountId = a.id ∧
        hold.amountMinor = t.amountMinor ∧ (db.transfers.find? t.id = none →
          (∃ pending, db.transfers.find? hold.id = some pending ∧
            (pending.status = .pendingUndo ∨ pending.status = .held)) ∧
          ¬(hold.status = .pendingUndo ∨ hold.status = .held)) := by
    intro holding kind hsender hpaid hk hsettles
    obtain ⟨hold, hp, hf, hreceiver, hamount, hkind⟩ := Routed.paidOutOf_hold hinv'.routes hpaid hk
    refine ⟨hsettles, hold, hp, hf, ?_, hamount, fun hnew => ?_⟩
    · rw [hreceiver, hid, hsender]
    · exact leg_posted_with_latch hinv hinv' ht hnew hsettles hp hf hkind
  unfold DebitReason
  unfold Routed at hroute
  cases hk : t.kind <;> rw [hk] at htype huser hleg <;> simp only [hk] at hroute <;>
    rw [htype] <;> dsimp only [TransferKind.senderType]
  case signupGrant =>
    obtain ⟨-, u, hu, ho⟩ := hroute
    exact ⟨rfl, u, hu, ho⟩
  case undoSettle | undoRefund =>
    exact hleg _ _ hroute.1 hroute (.inl ⟨rfl, rfl⟩) rfl
  case escrowRelease | escrowRefund =>
    exact hleg _ _ hroute.1 hroute (.inr ⟨rfl, rfl⟩) rfl
  case overdraftDraw =>
    obtain ⟨pool, grant, u, hg, hp, hs, ho, hb, hst, hcap, hmax⟩ := hroute
    exact ⟨rfl, pool, grant, u, hp, (hs.symm.trans hid.symm), hg, hst, hb, ho, hcap, hmax⟩
  all_goals exact huser rfl

/-- At most one welcome bonus per user: its key is the user's. -/
theorem Database.Inv.one_grant {d : Deployment} {db : Database} (h : db.Inv d) {t t' : TransferRow}
    (ht : t ∈ db.transfers.rows) (ht' : t' ∈ db.transfers.rows) (hk : t.kind = .signupGrant)
    (hk' : t'.kind = .signupGrant) (hu : t.initiatedByUserId = t'.initiatedByUserId) : t = t' := by
  have hexec : ∀ r ∈ db.transfers.rows, r.kind = .signupGrant → ∃ u, r.initiatedByUserId = some u ∧
      ∃ x ∈ db.journal, x.transferId = r.id ∧
        x.triple = ⟨u, TRANSFER_ENDPOINT, "signup-grant:" ++ u.text⟩ := by
    intro r hr hrk
    have hid : r.id ∈ db.journal.map Execution.transferId := by
      rw [← h.journalled.transfers]
      exact List.mem_map_of_mem hr
    obtain ⟨x, hx, hxid⟩ := List.mem_map.1 hid
    obtain ⟨cmd, row, hj⟩ := h.proven.executions x hx
    have hrow : row = r := Table.eq_of_key (Table.mem_of_find? hj.found) hr
      (hj.transfer.symm.trans hxid)
    subst hrow
    refine ⟨cmd.actorUserId, hj.created.initiator, x, hx, hxid, ?_⟩
    rw [hj.triple]
    exact hj.issued.grant_triple (hj.created.kind.symm.trans hrk)
  obtain ⟨u, htu, x, hx, hxid, hxt⟩ := hexec t ht hk
  obtain ⟨u', htu', x', hx', hxid', hxt'⟩ := hexec t' ht' hk'
  rw [htu, htu'] at hu
  cases hu
  have hsame : x = x' := List.inj_on_of_nodup_map h.journalled.nodup hx hx' (hxt.trans hxt'.symm)
  subst hsame
  exact Table.eq_of_key ht ht' (hxid.symm.trans hxid')

/-- Every debit has a reason: the owner's order, a licensed draw, the payout of a hold, or
    the one welcome bonus of a user. -/
theorem debits_have_reasons (d : Deployment) (now : Time) (calls : List Call) (call : Call) :
    let before := serveAll d calls (migrated now)
    let after := serve d call before
    (∀ e ∈ after.ledgerEntries.rows, e.amountMinor < 0 → ∃ l t a,
      after.ledgerTransactions.find? e.ledgerTransactionId = some l ∧
        after.transfers.find? l.transferId = some t ∧ after.accounts.find? e.accountId = some a ∧
        t.senderAccountId = e.accountId ∧ t.amountMinor = -e.amountMinor ∧
        DebitReason d.settings before after a t) ∧
      ∀ t ∈ after.transfers.rows, ∀ t' ∈ after.transfers.rows, t.kind = .signupGrant →
        t'.kind = .signupGrant → t.initiatedByUserId = t'.initiatedByUserId → t = t' := by
  intro before after
  have hinv : before.Inv d := serveAll_inv d now calls
  have hinv' : after.Inv d := by
    have hconcat := serveAll_inv d now (calls ++ [call])
    rw [serveAll_concat] at hconcat
    exact hconcat
  refine ⟨?_, fun t ht t' ht' hk hk' hu => hinv'.one_grant ht ht' hk hk' hu⟩
  intro e he hneg
  obtain ⟨l, t, hl, ht, hsender, hamount⟩ := hinv'.books.debit he hneg
  obtain ⟨a, ha⟩ := Option.isSome_iff_exists.1 (hinv'.books.entry_account e he)
  exact ⟨l, t, a, hl, ht, ha, hsender, hamount,
    debitReason_of_inv hinv hinv' (Table.mem_of_find? ht) (hsender ▸ ha)⟩

end MoneyMovement

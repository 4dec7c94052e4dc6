/-
  MoneyMovement/Lending.lean
  ==========================
  **What a sponsor's pool is worth.**

  A pool's money is in its account or out on loan.  Draws move it from the one
  to the other, repayments move it back, and each is recorded in a table of its
  own after the money has moved.  `Lending` is the identity that holds at every
  point in between, with `lent` and `returned` for what is posted but not yet
  recorded, together with what each loan and each repayment row says.
-/
import MoneyMovement.Holds

namespace MoneyMovement

/-- What is out on loan from a pool. -/
def outstandingOn (loans : Table LoanRow.id) (poolId : Ulid) : Int :=
  loans.sum fun l => if l.poolId = poolId then l.outstandingMinor else 0

/-- What was ever paid into a pool by its sponsor. -/
def fundedInto (transfers : Table TransferRow.id) (account : Ulid) : Int :=
  transfers.sum fun t =>
    if t.kind = .overdraftFund ∧ t.receiverAccountId = account then t.amountMinor else 0

/-- What was repaid of a loan. -/
def repaidOf (repayments : Table RepaymentRow.id) (loanId : Ulid) : Int :=
  repayments.sum fun r => if r.loanId = loanId then r.amountMinor else 0

/-- What has left the pool and is not yet a loan. -/
def lent (account : Ulid) : Duty → Int
  | .lend t => if t.senderAccountId = account then t.amountMinor else 0
  | _ => 0

/-- What has come back to the pool and is still counted as out. -/
def returned (account : Ulid) : Option (TransferRow × Ulid) → Int
  | some (t, _) => if t.receiverAccountId = account then t.amountMinor else 0
  | none => 0

structure LoanOk (transfers : Table TransferRow.id) (pools : Table PoolRow.id)
    (repayments : Table RepaymentRow.id) (l : LoanRow) : Prop where
  nonneg : 0 ≤ l.outstandingMinor
  le_principal : l.outstandingMinor ≤ l.principalMinor
  outstanding_eq : l.outstandingMinor = l.principalMinor - repaidOf repayments l.id
  live : l.status = .outstanding ∨ l.status = .repaid
  repaid_iff : l.status = .repaid ↔ l.outstandingMinor = 0
  draw : ∃ t pool, transfers.find? l.drawTransferId = some t ∧ t.kind = .overdraftDraw ∧
    t.amountMinor = l.principalMinor ∧ pools.find? l.poolId = some pool ∧
    pool.poolAccountId = t.senderAccountId

/-- A repayment that is posted and not recorded. -/
structure RepayingOk (transfers : Table TransferRow.id) (pools : Table PoolRow.id)
    (loans : Table LoanRow.id) (t : TransferRow) (loanId : Ulid) : Prop where
  found : transfers.find? t.id = some t
  kind : t.kind = .overdraftRepay
  loan : ∃ l pool, loans.find? loanId = some l ∧ t.amountMinor ≤ l.outstandingMinor ∧
    pools.find? l.poolId = some pool ∧ t.receiverAccountId = pool.poolAccountId

structure Lending (d : Duty) (r : Option (TransferRow × Ulid)) (accounts : Table AccountRow.id)
    (transfers : Table TransferRow.id) (pools : Table PoolRow.id) (loans : Table LoanRow.id)
    (repayments : Table RepaymentRow.id) : Prop where
  worth : ∀ pool ∈ pools.rows, balanceOf accounts pool.poolAccountId + outstandingOn loans pool.id +
    lent pool.poolAccountId d - returned pool.poolAccountId r =
      fundedInto transfers pool.poolAccountId
  loan : ∀ l ∈ loans.rows, LoanOk transfers pools repayments l
  repayment : ∀ x ∈ repayments.rows, (loans.find? x.loanId).isSome = true ∧
    ∃ t, transfers.find? x.transferId = some t ∧ t.kind = .overdraftRepay ∧
      t.amountMinor = x.amountMinor
  repaying : ∀ t l, r = some (t, l) → RepayingOk transfers pools loans t l
  draws_covered : ∀ t ∈ transfers.rows, t.kind = .overdraftDraw →
    (∃ l ∈ loans.rows, l.drawTransferId = t.id) ∨ d = .lend t
  repays_covered : ∀ t ∈ transfers.rows, t.kind = .overdraftRepay →
    (∃ x ∈ repayments.rows, x.transferId = t.id) ∨ ∃ l, r = some (t, l)

theorem LoanOk.mono {transfers transfers' : Table TransferRow.id} {pools pools' : Table PoolRow.id}
    {repayments : Table RepaymentRow.id} {l : LoanRow} (h : LoanOk transfers pools repayments l)
    (ht : ∀ id t, transfers.find? id = some t → ∃ t', transfers'.find? id = some t' ∧
      t.SameMovement t')
    (hp : ∀ id p, pools.find? id = some p → pools'.find? id = some p) :
    LoanOk transfers' pools' repayments l := by
  obtain ⟨t, pool, hf, hk, ha, hpool, hs⟩ := h.draw
  obtain ⟨t', hf', _, _, rfl⟩ := ht _ _ hf
  exact { h with draw := ⟨_, pool, hf', hk, ha, hp _ _ hpool, hs⟩ }

namespace Lending

variable {cfg : Settings} {c : Ctx} {db : Database} {d d' : Duty}
  {r r' : Option (TransferRow × Ulid)} {p : Posting}

theorem migrated_lending (now : Time) :
    Lending .none none (migrated now).accounts (migrated now).transfers (migrated now).overdraftPools
      (migrated now).overdraftLoans (migrated now).overdraftRepayments where
  worth _ h := by cases h
  loan _ h := by cases h
  repayment _ h := by cases h
  repaying _ _ h := by cases h
  draws_covered _ h := by cases h
  repays_covered _ h := by cases h

/-- The account of a pool is not one of another type. -/
theorem pool_ne (hch : Chart db) {pool : PoolRow} (hp : pool ∈ db.overdraftPools.rows) {id : Ulid}
    {type : AccountType} (hid : db.HasType id type) (ht : type ≠ .overdraftPool) :
    pool.poolAccountId ≠ id :=
  (hch.pools pool hp).ne hid ht.symm

/-- A movement: what it does to each pool must be what the duties say. -/
theorem post (h : Lending d r db.accounts db.transfers db.overdraftPools db.overdraftLoans
      db.overdraftRepayments) (hv : p.Valid c db)
    (hworth : ∀ pool ∈ db.overdraftPools.rows,
      (if pool.poolAccountId = p.cmd.receiverAccountId then p.cmd.amount.minor else 0) -
        (if pool.poolAccountId = p.cmd.senderAccountId then p.cmd.amount.minor else 0) +
        (lent pool.poolAccountId d' - lent pool.poolAccountId d) -
        (returned pool.poolAccountId r' - returned pool.poolAccountId r) =
      if p.cmd.kind = .overdraftFund ∧ p.cmd.receiverAccountId = pool.poolAccountId then
        p.cmd.amount.minor else 0)
    (hrepaying : ∀ t l, r' = some (t, l) → RepayingOk (db.transfers.push p.row) db.overdraftPools
      db.overdraftLoans t l)
    (hd : ∀ t, d = .lend t → d' = .lend t) (hr : ∀ t l, r = some (t, l) → r' = some (t, l))
    (hdraw : p.cmd.kind = .overdraftDraw → d' = .lend p.row)
    (hrepay : p.cmd.kind = .overdraftRepay → ∃ l, r' = some (p.row, l)) :
    Lending d' r' (p.apply db).accounts (p.apply db).transfers (p.apply db).overdraftPools
      (p.apply db).overdraftLoans (p.apply db).overdraftRepayments := by
  have hrows : ∀ t ∈ (p.apply db).transfers.rows, t ∈ db.transfers.rows ∨ t = p.row :=
    fun t ht => (Table.mem_push hv.transfer_fresh).1 ht
  refine ⟨?_, ?_, ?_, hrepaying, ?_, ?_⟩
  · intro pool hpool
    have hold := h.worth pool hpool
    have hdelta := hworth pool hpool
    have hfunded : fundedInto (db.transfers.push p.row) pool.poolAccountId =
        fundedInto db.transfers pool.poolAccountId +
          if p.cmd.kind = .overdraftFund ∧ p.cmd.receiverAccountId = pool.poolAccountId then
            p.cmd.amount.minor else 0 :=
      Table.sum_push hv.transfer_fresh _
    show balanceOf (p.accountsAfter db.accounts) _ + outstandingOn db.overdraftLoans _ + _ - _ =
      fundedInto (db.transfers.push p.row) _
    rw [hv.balanceOf_accountsAfter, hfunded, ← hdelta, ← hold]
    omega
  · intro l hl
    exact (h.loan l hl).mono (fun _ t ht => ⟨t, Table.find?_push_of_some ht, .refl t⟩)
      fun _ _ hp => hp
  · intro x hx
    obtain ⟨hl, t, ht, hrest⟩ := h.repayment x hx
    exact ⟨hl, t, Table.find?_push_of_some ht, hrest⟩
  · intro t ht hk
    rcases hrows t ht with ht | rfl
    · rcases h.draws_covered t ht hk with hl | hx
      · exact .inl hl
      · exact .inr (hd t hx)
    · exact .inr (hdraw hk)
  · intro t ht hk
    rcases hrows t ht with ht | rfl
    · rcases h.repays_covered t ht hk with hx | ⟨l, hx⟩
      · exact .inl hx
      · exact .inr ⟨l, hr t l hx⟩
    · exact .inr (hrepay hk)

/-- A movement between accounts that are not pools'. -/
theorem post_elsewhere (h : Lending d none db.accounts db.transfers db.overdraftPools
      db.overdraftLoans db.overdraftRepayments) (hch : Chart db) (hv : p.Valid c db)
    (hrouted : Routed cfg db p.row) (hs : p.cmd.kind.senderType ≠ .overdraftPool)
    (hrec : p.cmd.kind.receiverType ≠ .overdraftPool) (hd : ∀ t, d = .lend t → d' = .lend t)
    (hd' : ∀ t, d' = .lend t → d = .lend t) :
    Lending d' none (p.apply db).accounts (p.apply db).transfers (p.apply db).overdraftPools
      (p.apply db).overdraftLoans (p.apply db).overdraftRepayments := by
  have hlent : ∀ a, lent a d' = lent a d := by
    intro a
    cases d with
    | lend t => rw [hd t rfl]
    | _ =>
      cases d' with
      | lend t => cases hd' t rfl
      | _ => rfl
  refine h.post hv ?_ (fun _ _ hx => by cases hx) hd (fun _ _ hx => hx) ?_ ?_
  · intro pool hpool
    have hsender := pool_ne hch hpool (hrouted.sender_hasType hch) hs
    have hreceiver := pool_ne hch hpool (hrouted.receiver_hasType hch) hrec
    change pool.poolAccountId ≠ p.cmd.senderAccountId at hsender
    change pool.poolAccountId ≠ p.cmd.receiverAccountId at hreceiver
    rw [hlent, if_neg hreceiver, if_neg hsender, if_neg]
    · simp
    · rintro ⟨-, heq⟩
      exact hreceiver heq.symm
  · intro hk
    rw [hk] at hs
    exact absurd rfl hs
  · intro hk
    rw [hk] at hrec
    exact absurd rfl hrec

theorem post_warrant (h : Lending d none db.accounts db.transfers db.overdraftPools
      db.overdraftLoans db.overdraftRepayments) (hch : Chart db) (hr : Routes c.settings d db)
    (hv : p.Valid c db) (hw : Warrant c db p d d') :
    Lending d' none (p.apply db).accounts (p.apply db).transfers (p.apply db).overdraftPools
      (p.apply db).overdraftLoans (p.apply db).overdraftRepayments := by
  have hrouted := hw.routed hv hch hr
  have hsender := hrouted.sender_hasType hch
  have hreceiver := hrouted.receiver_hasType hch
  change db.HasType p.cmd.senderAccountId p.cmd.kind.senderType at hsender
  change db.HasType p.cmd.receiverAccountId p.cmd.kind.receiverType at hreceiver
  cases hw with
  | grant hc _ =>
    have hk : p.cmd.kind = .signupGrant := congrArg TransferCommand.kind hc
    exact h.post_elsewhere hch hv hrouted (by rw [hk]; decide) (by rw [hk]; decide) (fun _ hx => hx)
      fun _ hx => hx
  | undoHold hc _ _ =>
    have hk : p.cmd.kind = .undoHold := congrArg TransferCommand.kind hc
    exact h.post_elsewhere hch hv hrouted (by rw [hk]; decide) (by rw [hk]; decide) (fun _ hx => hx)
      fun _ hx => hx
  | escrowHold hc _ _ =>
    have hk : p.cmd.kind = .escrowHold := congrArg TransferCommand.kind hc
    exact h.post_elsewhere hch hv hrouted (by rw [hk]; decide) (by rw [hk]; decide) (by simp) (by simp)
  | request hc _ _ =>
    have hk : p.cmd.kind = .requestSettlement := congrArg TransferCommand.kind hc
    exact h.post_elsewhere hch hv hrouted (by rw [hk]; decide) (by rw [hk]; decide) (by simp) (by simp)
  | undoLeg hc _ hp =>
    have hk : p.cmd.kind = undoLegKind _ := congrArg TransferCommand.kind hc
    refine h.post_elsewhere hch hv hrouted ?_ ?_ (by simp) (by simp) <;>
      rcases hp.settles with rfl | rfl <;> rw [hk] <;> decide
  | escrowLeg hc _ hp _ _ =>
    have hk : p.cmd.kind = escrowLegKind _ := congrArg TransferCommand.kind hc
    refine h.post_elsewhere hch hv hrouted ?_ ?_ (by simp) (by simp) <;>
      rcases hp.settles with rfl | rfl <;> rw [hk] <;> decide
  | fund hc _ _ _ =>
    have hk : p.cmd.kind = .overdraftFund := congrArg TransferCommand.kind hc
    rw [hk] at hsender
    refine h.post hv ?_ (fun _ _ hx => by cases hx) (fun _ hx => hx) (fun _ _ hx => hx)
      (by simp [hk]) (by simp [hk])
    intro pool hpool
    rw [if_neg (pool_ne hch hpool hsender (by decide))]
    simp [hk, eq_comm]
  | draw hc _ _ _ _ _ _ _ =>
    have hk : p.cmd.kind = .overdraftDraw := congrArg TransferCommand.kind hc
    rw [hk] at hreceiver
    refine h.post hv ?_ (fun _ _ hx => by cases hx) (by simp) (fun _ _ hx => hx) (fun _ => rfl)
      (by simp [hk])
    intro pool hpool
    have hlent : lent pool.poolAccountId (.lend p.row) =
        if pool.poolAccountId = p.cmd.senderAccountId then p.cmd.amount.minor else 0 := by
      simp only [lent, Posting.row, TransferUseCase.transferRow, eq_comm]
    rw [if_neg (pool_ne hch hpool hreceiver (by decide)), hlent]
    simp [hk, lent]

/-- A repayment is posted: the pool has the money, the loan still counts it. -/
theorem repay {loan : LoanRow} {pool : PoolRow}
    (h : Lending d none db.accounts db.transfers db.overdraftPools db.overdraftLoans
      db.overdraftRepayments) (hch : Chart db) (hv : p.Valid c db) (hr : Repays db p loan pool) :
    Lending d (some (p.row, loan.id)) (p.apply db).accounts (p.apply db).transfers
      (p.apply db).overdraftPools (p.apply db).overdraftLoans (p.apply db).overdraftRepayments := by
  refine h.post hv ?_ ?_ (fun _ hx => hx) (fun _ _ hx => by cases hx) ?_ fun _ => ⟨loan.id, rfl⟩
  · intro q hq
    have hsender : q.poolAccountId ≠ p.cmd.senderAccountId :=
      pool_ne hch hq ⟨p.sender, hv.sender_found, hr.sender_type⟩ (by decide)
    have hreturned : returned q.poolAccountId (some (p.row, loan.id)) =
        if q.poolAccountId = p.cmd.receiverAccountId then p.cmd.amount.minor else 0 := by
      simp only [returned, Posting.row, TransferUseCase.transferRow, eq_comm]
    rw [if_neg hsender, hreturned]
    simp [hr.kind, returned]
  · intro t l hx
    injection hx with hx
    injection hx with h₁ h₂
    subst h₁ h₂
    exact ⟨Table.find?_push_self hv.transfer_fresh, hr.kind, loan, pool, hr.loan_found, hr.covered,
      hr.pool_found, hr.receiver⟩
  · intro hk
    rw [hr.kind] at hk
    cases hk

/-- Two pools of the chart are one when their accounts are. -/
theorem pool_eq_iff (hch : Chart db) {p q : PoolRow} (hp : db.overdraftPools.find? p.id = some p)
    (hq : q ∈ db.overdraftPools.rows) : p.id = q.id ↔ p.poolAccountId = q.poolAccountId := by
  constructor
  · intro heq
    rw [Table.eq_of_key (Table.mem_of_find? hp) hq heq]
  · intro heq
    rw [hch.pool_unique p (Table.mem_of_find? hp) q hq heq]

/-- The draw is recorded as a loan. -/
theorem lend {t : TransferRow} {loan : LoanRow} {pool : PoolRow}
    (h : Lending (.lend t) none db.accounts db.transfers db.overdraftPools db.overdraftLoans
      db.overdraftRepayments) (hch : Chart db) (hr : Routes cfg (.lend t) db) (hpos : 0 < t.amountMinor)
    (hf : db.overdraftLoans.find? loan.id = none)
    (hpool : db.overdraftPools.find? loan.poolId = some pool)
    (haccount : pool.poolAccountId = t.senderAccountId) (hdraw : loan.drawTransferId = t.id)
    (hprincipal : loan.principalMinor = t.amountMinor)
    (houtstanding : loan.outstandingMinor = loan.principalMinor)
    (hstatus : loan.status = .outstanding) :
    Lending .none none db.accounts db.transfers db.overdraftPools (db.overdraftLoans.push loan)
      db.overdraftRepayments := by
  obtain ⟨hfound, hkind⟩ := hr.duty
  have hpid : pool.id = loan.poolId := Table.key_of_find? hpool
  refine ⟨?_, ?_, ?_, (fun _ _ hx => by cases hx), ?_, ?_⟩
  · intro q hq
    have hold := h.worth q hq
    have hsum : outstandingOn (db.overdraftLoans.push loan) q.id =
        outstandingOn db.overdraftLoans q.id +
          if loan.poolId = q.id then loan.outstandingMinor else 0 := Table.sum_push hf _
    have hiff := pool_eq_iff hch (hpid ▸ hpool) hq
    rw [haccount, hpid] at hiff
    simp only [lent, returned, ← hiff] at hold
    rw [hsum, houtstanding, hprincipal]
    simp only [lent, returned]
    omega
  · intro l hl
    rcases (Table.mem_push hf).1 hl with hl | rfl
    · exact h.loan l hl
    · have hnone : repaidOf db.overdraftRepayments l.id = 0 := by
        refine (Table.sum_congr ?_).trans (List.sum_map_zero)
        intro x hx
        rw [if_neg]
        intro heq
        have := (h.repayment x hx).1
        rw [heq, hf] at this
        cases this
      refine ⟨by omega, by omega, by omega, .inl hstatus, ?_, t, pool, hdraw ▸ hfound, hkind,
        hprincipal.symm, hpool, haccount⟩
      constructor
      · intro hs
        rw [hstatus] at hs
        cases hs
      · intro hz
        omega
  · intro x hx
    obtain ⟨hl, ht⟩ := h.repayment x hx
    obtain ⟨l, hl⟩ := Option.isSome_iff_exists.1 hl
    exact ⟨by rw [Table.find?_push_of_some hl]; rfl, ht⟩
  · intro x hx hk
    left
    rcases h.draws_covered x hx hk with ⟨l, hl, hid⟩ | hd
    · exact ⟨l, Table.mem_push_of_mem hl, hid⟩
    · injection hd with hd
      exact ⟨loan, (Table.mem_push hf).2 (.inr rfl), by rw [hdraw, hd]⟩
  · exact h.repays_covered

/-- The repayment is recorded and the loan reduced.  The loan covers the amount, so the clamp
    of the code never takes effect. -/
theorem credit {t : TransferRow} {loan : LoanRow} {repayment : RepaymentRow} {now : Time}
    (h : Lending d (some (t, loan.id)) db.accounts db.transfers db.overdraftPools db.overdraftLoans
      db.overdraftRepayments) (hch : Chart db) (hpos : 0 < t.amountMinor)
    (hf : db.overdraftLoans.find? loan.id = some loan)
    (hn : db.overdraftRepayments.find? repayment.id = none) (hloan : repayment.loanId = loan.id)
    (ht : repayment.transferId = t.id) (hamount : repayment.amountMinor = t.amountMinor) :
    Lending d none db.accounts db.transfers db.overdraftPools
      (db.overdraftLoans.modifyAt loan.id
        (SqlOverdraftRepository.repaid (max 0 (loan.outstandingMinor - t.amountMinor)) now)
        (SqlOverdraftRepository.id_repaid _ _))
      (db.overdraftRepayments.push repayment) := by
  obtain ⟨hfound, hkind, l, pool, hl, hle, hpool, hreceiver⟩ := h.repaying t loan.id rfl
  obtain rfl := Option.some.inj (hf.symm.trans hl)
  have hclamp : max 0 (loan.outstandingMinor - t.amountMinor) =
      loan.outstandingMinor - t.amountMinor := by omega
  rw [hclamp]
  have hpid : pool.id = loan.poolId := Table.key_of_find? hpool
  have hrepaid : ∀ id, repaidOf (db.overdraftRepayments.push repayment) id =
      repaidOf db.overdraftRepayments id + if loan.id = id then t.amountMinor else 0 := by
    intro id
    rw [← hloan, ← hamount]
    exact Table.sum_push hn _
  refine ⟨?_, ?_, ?_, (fun _ _ hx => by cases hx), ?_, ?_⟩
  · intro q hq
    have hold := h.worth q hq
    have hsum : outstandingOn (db.overdraftLoans.modifyAt loan.id
        (SqlOverdraftRepository.repaid (loan.outstandingMinor - t.amountMinor) now)
        (SqlOverdraftRepository.id_repaid _ _)) q.id = outstandingOn db.overdraftLoans q.id +
          ((if loan.poolId = q.id then loan.outstandingMinor - t.amountMinor else 0) -
            if loan.poolId = q.id then loan.outstandingMinor else 0) :=
      Table.sum_modifyAt hf _
    have hiff := pool_eq_iff hch (hpid ▸ hpool) hq
    rw [← hreceiver, hpid] at hiff
    simp only [returned, ← hiff] at hold
    rw [hsum]
    simp only [returned]
    split at hold <;> simp_all
    omega
  · intro x hx
    rcases Table.mem_of_mem_modifyAt hf hx with ⟨hx, hne⟩ | rfl
    · have hx' := h.loan x hx
      refine { hx' with outstanding_eq := ?_ }
      rw [hrepaid, if_neg (Ne.symm hne), hx'.outstanding_eq]
      omega
    · have hx' := h.loan loan (Table.mem_of_find? hf)
      obtain ⟨h₁, h₂, h₃, -, -, hdraw⟩ := hx'
      have hst : (SqlOverdraftRepository.repaid (loan.outstandingMinor - t.amountMinor) now
          loan).status = if loan.outstandingMinor - t.amountMinor = 0 then .repaid else .outstanding :=
        rfl
      refine ⟨?_, ?_, ?_, ?_, ?_, hdraw⟩
      · show 0 ≤ loan.outstandingMinor - t.amountMinor
        omega
      · show loan.outstandingMinor - t.amountMinor ≤ loan.principalMinor
        omega
      · show loan.outstandingMinor - t.amountMinor = loan.principalMinor - repaidOf _ loan.id
        rw [hrepaid, if_pos rfl]
        omega
      · rw [hst]
        split
        · exact .inr rfl
        · exact .inl rfl
      · rw [hst]
        show _ ↔ loan.outstandingMinor - t.amountMinor = 0
        split <;> simp_all
  · intro x hx
    rcases (Table.mem_push hn).1 hx with hx | rfl
    · obtain ⟨hl, hrest⟩ := h.repayment x hx
      exact ⟨Table.isSome_modifyAt hl, hrest⟩
    · refine ⟨Table.isSome_modifyAt ?_, t, ht ▸ hfound, hkind, hamount.symm⟩
      rw [hloan, hf]
      rfl
  · intro x hx hk
    rcases h.draws_covered x hx hk with ⟨y, hy, hid⟩ | hd
    · left
      by_cases hyl : y.id = loan.id
      · obtain rfl := Table.eq_of_key hy (Table.mem_of_find? hf) hyl
        exact ⟨_, Table.mem_modifyAt_self hf, hid⟩
      · exact ⟨y, Table.mem_modifyAt_of_ne hy hyl, hid⟩
    · exact .inr hd
  · intro x hx hk
    left
    rcases h.repays_covered x hx hk with ⟨y, hy, hid⟩ | ⟨l, hl⟩
    · exact ⟨y, Table.mem_push_of_mem hy, hid⟩
    · injection hl with hl
      injection hl with h₁ h₂
      exact ⟨repayment, (Table.mem_push hn).2 (.inr rfl), by rw [ht, h₁]⟩

/-- No transfer has a fresh account on either side, and no loan a fresh pool. -/
theorem openPool {a : AccountRow} {pool : PoolRow}
    (h : Lending d r db.accounts db.transfers db.overdraftPools db.overdraftLoans
      db.overdraftRepayments) (hch : Chart db) (hr : Routes cfg d db)
    (hf : db.accounts.find? a.id = none) (hb : a.balanceMinor = 0)
    (hp : db.overdraftPools.find? pool.id = none) (ha : pool.poolAccountId = a.id) :
    Lending d r (db.accounts.push a) db.transfers (db.overdraftPools.push pool) db.overdraftLoans
      db.overdraftRepayments := by
  have hne : ∀ {x : Ulid} {type : AccountType}, db.HasType x type → x ≠ a.id := by
    rintro x type hx rfl
    have := hx.isSome
    rw [hf] at this
    cases this
  have hmono : ∀ id x, db.overdraftPools.find? id = some x →
      (db.overdraftPools.push pool).find? id = some x := fun _ _ hx => Table.find?_push_of_some hx
  refine ⟨?_, ?_, h.repayment, ?_, h.draws_covered, h.repays_covered⟩
  · intro q hq
    rcases (Table.mem_push hp).1 hq with hq | rfl
    · rw [balanceOf_push a (hch.pools q hq).isSome]
      exact h.worth q hq
    · have hbalance : balanceOf (db.accounts.push a) a.id = 0 := by
        rw [balanceOf_of_find? (Table.find?_push_self hf), hb]
      have hout : outstandingOn db.overdraftLoans q.id = 0 := by
        refine (Table.sum_congr ?_).trans List.sum_map_zero
        intro l hl
        rw [if_neg]
        intro heq
        obtain ⟨t, x, -, -, -, hx, -⟩ := (h.loan l hl).draw
        rw [heq, hp] at hx
        cases hx
      have hfunded : fundedInto db.transfers a.id = 0 := by
        refine (Table.sum_congr ?_).trans List.sum_map_zero
        intro t ht
        rw [if_neg]
        rintro ⟨-, heq⟩
        exact hne ((hr.routed t ht).receiver_hasType hch) heq
      have hlent : lent a.id d = 0 := by
        cases d with
        | lend t =>
          have hroute := hr.routed t (Table.mem_of_find? hr.duty.1)
          exact if_neg (hne (hroute.sender_hasType hch))
        | _ => rfl
      have hreturned : returned a.id r = 0 := by
        rcases r with _ | ⟨t, l⟩
        · rfl
        · obtain ⟨hfound, -⟩ := h.repaying t l rfl
          have hroute := hr.routed t (Table.mem_of_find? hfound)
          exact if_neg (hne (hroute.receiver_hasType hch))
      rw [ha, hbalance, hout, hfunded, hlent, hreturned]
      rfl
  · intro l hl
    exact (h.loan l hl).mono (fun _ t ht => ⟨t, ht, .refl t⟩) hmono
  · intro t l hx
    obtain ⟨hfound, hk, loan, x, hl, hle, hx, hrec⟩ := h.repaying t l hx
    exact ⟨hfound, hk, loan, x, hl, hle, hmono _ _ hx, hrec⟩

/-- A latched hold is neither a draw nor a repayment nor a top-up. -/
theorem latch {hold : TransferRow} {toStatus : TransferStatus} {now : Time}
    (h : Lending .none none db.accounts db.transfers db.overdraftPools db.overdraftLoans
      db.overdraftRepayments)
    (hg : ∀ id t, db.transfers.find? id = some t → ∃ t', (db.transfers.modifyAt hold.id
      (TransferRow.latched toStatus now) (TransferRow.id_latched toStatus now)).find? id = some t' ∧
      t.SameMovement t')
    (hf : db.transfers.find? hold.id = some hold) :
    Lending (.pay hold.id hold.status toStatus) none db.accounts
      (db.transfers.modifyAt hold.id (TransferRow.latched toStatus now)
        (TransferRow.id_latched toStatus now))
      db.overdraftPools db.overdraftLoans db.overdraftRepayments := by
  have hmem := Table.mem_of_find? hf
  refine ⟨?_, ?_, ?_, (fun _ _ hx => by cases hx), ?_, ?_⟩
  · intro q hq
    have hfunded : fundedInto (db.transfers.modifyAt hold.id (TransferRow.latched toStatus now)
        (TransferRow.id_latched toStatus now)) q.poolAccountId =
        fundedInto db.transfers q.poolAccountId := Table.sum_update_of_eq fun _ _ _ => rfl
    rw [hfunded]
    exact h.worth q hq
  · intro l hl
    exact (h.loan l hl).mono hg fun _ _ hp => hp
  · intro x hx
    obtain ⟨hl, t, ht, hk, ha⟩ := h.repayment x hx
    obtain ⟨t', ht', _, _, rfl⟩ := hg _ _ ht
    exact ⟨hl, _, ht', hk, ha⟩
  · intro t ht hk
    left
    rcases Table.mem_of_mem_modifyAt hf ht with ⟨ht, -⟩ | rfl
    · rcases h.draws_covered t ht hk with hl | hx
      · exact hl
      · cases hx
    · rcases h.draws_covered hold hmem hk with hl | hx
      · exact hl
      · cases hx
  · intro t ht hk
    left
    rcases Table.mem_of_mem_modifyAt hf ht with ⟨ht, -⟩ | rfl
    · rcases h.repays_covered t ht hk with hl | ⟨_, hx⟩
      · exact hl
      · cases hx
    · rcases h.repays_covered hold hmem hk with hl | ⟨_, hx⟩
      · exact hl
      · cases hx

/-- Duties that are not about lending. -/
theorem with_duty (h : Lending d r db.accounts db.transfers db.overdraftPools db.overdraftLoans
      db.overdraftRepayments) (hd : ∀ t, d ≠ .lend t) (hd' : ∀ t, d' ≠ .lend t) :
    Lending d' r db.accounts db.transfers db.overdraftPools db.overdraftLoans
      db.overdraftRepayments := by
  have hlent : ∀ a, lent a d' = lent a d := by
    intro a
    cases d with
    | lend t => exact absurd rfl (hd t)
    | _ =>
      cases d' with
      | lend t => exact absurd rfl (hd' t)
      | _ => rfl
  refine ⟨?_, h.loan, h.repayment, h.repaying, ?_, h.repays_covered⟩
  · intro q hq
    rw [hlent]
    exact h.worth q hq
  · intro t ht hk
    rcases h.draws_covered t ht hk with hl | hx
    · exact .inl hl
    · exact absurd hx (hd t)

theorem step {L : Licence} {k k' : Config} (hs : Step c L k k') (hL : L.Sound c)
    (hstray : k.progress.repaying = none → ¬Stray k.db k.progress.duty)
    (hpos : ∀ t ∈ k.db.transfers.rows, 0 < t.amountMinor) (hch : Chart k.db)
    (hr : Routes c.settings k.progress.duty k.db)
    (h : Lending k.progress.duty k.progress.repaying k.db.accounts k.db.transfers
      k.db.overdraftPools k.db.overdraftLoans k.db.overdraftRepayments) :
    Lending k'.progress.duty k'.progress.repaying k'.db.accounts k'.db.transfers
      k'.db.overdraftPools k'.db.overdraftLoans k'.db.overdraftRepayments := by
  have hg := hs.grows
  cases hs
  case post hv hl => exact h.post_warrant hch hr hv (hL.post _ _ _ _ hl)
  case repay hv hrep => exact h.repay hch hv hrep
  case credit hf _ hn hloan ht hamount =>
    have hfound := (h.repaying _ _ rfl).found
    exact h.credit hch (hpos _ (Table.mem_of_find? hfound)) hf hn hloan ht hamount
  case lend hf hpool haccount hdraw hprincipal hout hst =>
    exact h.lend hch hr (hpos _ (Table.mem_of_find? hr.duty.1)) hf hpool haccount hdraw hprincipal
      hout hst
  case latch hf _ _ => exact h.latch hg.transfer hf
  case openEscrow | closeEscrow | accept => exact h.with_duty (by simp) (by simp)
  case openAccount =>
    refine ⟨?_, h.loan, h.repayment, h.repaying, h.draws_covered, h.repays_covered⟩
    intro q hq
    dsimp only
    rw [balanceOf_push _ (hch.pools q hq).isSome]
    exact h.worth q hq
  case closeAccount =>
    refine ⟨?_, h.loan, h.repayment, h.repaying, h.draws_covered, h.repays_covered⟩
    intro q hq
    dsimp only
    rw [balanceOf_restated]
    exact h.worth q hq
  case openPool hf _ _ hb _ hp ha _ _ => exact h.openPool hch hr hf hb hp ha
  case stray hs _ _ _ => exact absurd hs (hstray rfl)
  all_goals exact h

end Lending

end MoneyMovement

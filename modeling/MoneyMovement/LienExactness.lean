/-
  MoneyMovement/LienExactness.lean
  ================================
  **How much the lien takes of a credit.**

  At any point of a transaction, a credit to a user's account is swept for
  exactly the smaller of the budget and what the user owes, oldest loan first.
  The statement is about the rows: the transfers the execution appends are the
  credit and one repayment for each loan it takes something for, so nothing
  sweeps a repayment again.
-/
import MoneyMovement.FundsErrors

namespace MoneyMovement

open Txn OverdraftService

/-! ### What a user owes -/

/-- The loan was taken out before the other: `ORDER BY created_at, id`. -/
def LoanRow.Older (l m : LoanRow) : Prop :=
  l.createdAt < m.createdAt ∨ l.createdAt = m.createdAt ∧ l.id.rank < m.id.rank

/-- The loan is the user's, and not repaid. -/
def LoanRow.OwedBy (l : LoanRow) (u : Ulid) : Prop := l.borrowerUserId = u ∧ l.status = .outstanding

instance (l : LoanRow) (u : Ulid) : Decidable (l.OwedBy u) := inferInstanceAs (Decidable (_ ∧ _))

/-- The sum of a user's outstanding loans. -/
def Database.owed (db : Database) (u : Ulid) : Int :=
  db.overdraftLoans.sum fun l => if l.OwedBy u then l.outstandingMinor else 0

section Outstanding

variable {cfg : Settings} {y : Crypto} {k : Config} {u : Ulid}

/-- A loan that is not repaid has something due, and its pool is there. -/
theorem Invariant.owed_loan (h : Invariant cfg y k) {l : LoanRow} (hl : l ∈ k.db.overdraftLoans.rows)
    (ho : l.OwedBy u) : 0 < l.outstandingMinor ∧ ∃ pool, k.db.overdraftPools.find? l.poolId = some pool := by
  have hok := h.lending.loan l hl
  obtain ⟨-, pool, -, -, -, hpool, -⟩ := hok.draw
  refine ⟨?_, pool, hpool⟩
  have hne : l.outstandingMinor ≠ 0 := by
    intro hzero
    have := hok.repaid_iff.2 hzero
    rw [ho.2] at this
    cases this
  have := hok.nonneg
  omega

theorem Invariant.mem_outstanding_of (h : Invariant cfg y k) {l : LoanRow}
    (hl : l ∈ k.db.overdraftLoans.rows) (ho : l.OwedBy u) :
    ∃ pool, (l, pool) ∈ SqlOverdraftRepository.outstanding k.db u := by
  obtain ⟨hpos, pool, hpool⟩ := h.owed_loan hl ho
  refine ⟨pool, ?_⟩
  unfold SqlOverdraftRepository.outstanding byCreatedAt
  refine List.mem_filterMap.2 ⟨l, ?_, by rw [hpool]; rfl⟩
  rw [List.mem_insertionSort, List.mem_filter, decide_eq_true_eq]
  exact ⟨hl, ho.1, ho.2, hpos⟩

/-- What is due on the loans the query returns is what the user owes. -/
theorem Invariant.sum_outstanding (h : Invariant cfg y k) (u : Ulid) :
    ((SqlOverdraftRepository.outstanding k.db u).map due).sum = k.db.owed u := by
  refine (Table.sum_query k.db.overdraftLoans _ _ (g := LoanRow.outstandingMinor) ?_).trans ?_
  · intro l hl hq
    rw [decide_eq_true_eq] at hq
    obtain ⟨-, pool, hpool⟩ := h.owed_loan hl ⟨hq.1, hq.2.1⟩
    exact ⟨(l, pool), by rw [hpool]; rfl, rfl⟩
  · apply Table.sum_congr
    intro l hl
    by_cases ho : l.OwedBy u
    · have hpos := (h.owed_loan hl ho).1
      rw [if_pos ho, if_pos (decide_eq_true ⟨ho.1, ho.2, hpos⟩)]
    · rw [if_neg ho, if_neg]
      rw [decide_eq_true_eq]
      rintro ⟨hu, hs, -⟩
      exact ho ⟨hu, hs⟩

/-- `ORDER BY created_at, id`. -/
theorem pairwise_byCreatedAt {ρ : Type} (createdAt : ρ → Time) (id : ρ → Ulid) (rows : List ρ) :
    (byCreatedAt createdAt id rows).Pairwise fun a b =>
      ¬(createdAt b < createdAt a ∨ createdAt b = createdAt a ∧ (id b).rank < (id a).rank) := by
  let le : ρ → ρ → Prop := fun a b =>
    createdAt a < createdAt b ∨ createdAt a = createdAt b ∧ (id a).rank ≤ (id b).rank
  have htotal : Std.Total le := by
    constructor
    intro a b
    rcases Nat.lt_trichotomy (createdAt a) (createdAt b) with hlt | heq | hlt
    · exact .inl (.inl hlt)
    · rcases Nat.le_total (id a).rank (id b).rank with hle | hle
      · exact .inl (.inr ⟨heq, hle⟩)
      · exact .inr (.inr ⟨heq.symm, hle⟩)
    · exact .inr (.inl hlt)
  have htrans : IsTrans ρ le := by
    constructor
    rintro a b c (hab | ⟨hab, hle⟩) (hbc | ⟨hbc, hle'⟩)
    · exact .inl (Nat.lt_trans hab hbc)
    · exact .inl (hbc ▸ hab)
    · exact .inl (hab ▸ hbc)
    · exact .inr ⟨hab.trans hbc, Nat.le_trans hle hle'⟩
  refine (List.pairwise_insertionSort le rows).imp ?_
  rintro a b (hab | ⟨hab, hle⟩) (hba | ⟨hba, hlt⟩)
  · exact Nat.lt_asymm hab hba
  · exact Nat.lt_irrefl _ (hba ▸ hab)
  · exact Nat.lt_irrefl _ (hab ▸ hba)
  · exact Nat.not_lt.2 hle hlt

/-- Oldest first. -/
theorem outstanding_ordered (db : Database) (u : Ulid) :
    (SqlOverdraftRepository.outstanding db u).Pairwise fun l m => ¬m.1.Older l.1 := by
  unfold SqlOverdraftRepository.outstanding
  rw [List.pairwise_filterMap]
  refine (pairwise_byCreatedAt LoanRow.createdAt LoanRow.id _).imp ?_
  intro a b hab l hl m hm
  obtain ⟨_, -, rfl⟩ := Option.map_eq_some_iff.1 hl
  obtain ⟨_, -, rfl⟩ := Option.map_eq_some_iff.1 hm
  exact hab

end Outstanding

/-! ### The credit and its repayments -/

/-- What a credit of `cmd` to an account of the user `u` does: it appends the transfer `credit`
    and the `repayments`, which collect the `takes`. -/
structure SweepsExactly (c : Ctx) (cmd : TransferCommand) (u : Ulid) (db db' : Database)
    (credit : TransferRow) (repayments : List TransferRow)
    (takes : List ((LoanRow × PoolRow) × Int)) : Prop where
  appended : db'.transfers.rows = db.transfers.rows ++ credit :: repayments
  credited : ∃ id reference now, credit = TransferUseCase.transferRow cmd id reference now
  repaying : ∀ t ∈ repayments, t.kind = .overdraftRepay ∧ t.senderAccountId = cmd.receiverAccountId
  collected : repayments.map (fun t => (t.receiverAccountId, t.amountMinor)) =
    takes.map fun y => (y.1.2.poolAccountId, y.2)
  owed : ∀ y ∈ takes, y.1.1 ∈ db.overdraftLoans.rows ∧ y.1.1.OwedBy u ∧
    db.overdraftPools.find? y.1.1.poolId = some y.1.2 ∧ 0 < y.2 ∧ y.2 ≤ y.1.1.outstandingMinor
  once : (takes.map fun y => y.1.1.id).Nodup
  total : (takes.map Prod.snd).sum =
    min (cmd.amount.minor * c.settings.overdraftLienSweepBasisPoints / 10000) (db.owed u)
  touched : ∀ y ∈ takes, owing db'.overdraftLoans y.1.1.id = y.1.1.outstandingMinor - y.2
  untouched : ∀ l ∈ db.overdraftLoans.rows, (∀ y ∈ takes, y.1.1 ≠ l) →
    db'.overdraftLoans.find? l.id = some l
  oldest_first : ∀ l ∈ db.overdraftLoans.rows, l.OwedBy u → ∀ y ∈ takes, l.Older y.1.1 →
    owing db'.overdraftLoans l.id = 0
  kept : balanceOf db'.accounts cmd.receiverAccountId =
      balanceOf db.accounts cmd.receiverAccountId + cmd.amount.minor - (takes.map Prod.snd).sum ∧
    balanceOf db.accounts cmd.receiverAccountId + (cmd.amount.minor -
        cmd.amount.minor * c.settings.overdraftLienSweepBasisPoints / 10000) ≤
      balanceOf db'.accounts cmd.receiverAccountId

section Credit

variable {c : Ctx} {cmd : TransferCommand} {u : Ulid} {db db' : Database} {p : Posting}

theorem lienTakes_of_user (hkind : isLoanLeg cmd.kind = false) {b : AccountRow}
    (htype : b.accountType = .user) (hu : b.userId = some u) :
    lienTakes c cmd db b =
      Waterfall.takes due (lienBudget c cmd.amount) (SqlOverdraftRepository.outstanding db u) := by
  unfold lienTakes
  rw [hkind, sweepable, if_pos htype, hu]
  rfl

theorem nodup_takes (db : Database) (u : Ulid) (budget : Int) :
    ((Waterfall.takes due budget (SqlOverdraftRepository.outstanding db u)).map
      fun y => y.1.1.id).Nodup := by
  have htaken : ((Waterfall.takes due budget (SqlOverdraftRepository.outstanding db u)).map
      Prod.fst).Sublist (SqlOverdraftRepository.outstanding db u) := Waterfall.map_fst_takes_sublist
  have hsub := htaken.map fun l => l.1.id
  rw [List.map_map] at hsub
  exact (nodup_outstanding db u).sublist hsub

/-- The loans ahead of one that something is taken for are taken in full. -/
theorem takes_oldest_first {l m : LoanRow × PoolRow} {budget n : Int}
    (hl : l ∈ SqlOverdraftRepository.outstanding db u)
    (hm : (m, n) ∈ Waterfall.takes due budget (SqlOverdraftRepository.outstanding db u))
    (holder : l.1.Older m.1) :
    (l, due l) ∈ Waterfall.takes due budget (SqlOverdraftRepository.outstanding db u) := by
  have hnodup : (SqlOverdraftRepository.outstanding db u).Nodup := .of_map _ (nodup_outstanding db u)
  have hordered : (SqlOverdraftRepository.outstanding db u).Pairwise fun a b => ¬b.1.Older a.1 :=
    outstanding_ordered db u
  refine Waterfall.takes_before hnodup hordered hl hm ?_ holder
  rintro rfl
  rcases holder with h | ⟨-, h⟩
  · exact Nat.lt_irrefl _ h
  · exact Nat.lt_irrefl _ h

/-- A credit that went through swept exactly. -/
theorem Collected.sweepsExactly {k : Config} (h : Collected c cmd k.db db' p)
    (hinv : Invariant c.settings c.crypto k) (hkind : isLoanLeg cmd.kind = false)
    (htype : p.receiver.accountType = .user) (hu : p.receiver.userId = some u) :
    ∃ repayments, SweepsExactly c cmd u k.db db' p.row repayments
      (Waterfall.takes due (lienBudget c cmd.amount) (SqlOverdraftRepository.outstanding k.db u)) := by
  obtain ⟨logs, db₁, x, -, hreceiver, hswept, rfl⟩ := h.swept
  have hv := h.valid
  have hcmd := h.cmd_eq
  rw [lienTakes_of_user hkind htype hu] at hswept
  have hpos : 0 < cmd.amount.minor := hcmd ▸ hv.amount_pos
  have hrate : (0 : Int) ≤ c.settings.overdraftLienSweepBasisPoints := Int.natCast_nonneg _
  have hbudget : 0 ≤ lienBudget c cmd.amount :=
    Int.ediv_nonneg (Int.mul_nonneg (by omega) hrate) (by decide)
  have hmem : ∀ y ∈ Waterfall.takes due (lienBudget c cmd.amount)
      (SqlOverdraftRepository.outstanding k.db u), Repayable k.db u y.1 ∧ 0 < y.2 ∧ y.2 ≤ due y.1 := by
    intro y hy
    obtain ⟨hin, hle⟩ := Waterfall.mem_takes hy
    exact ⟨(mem_outstanding hin).1, Waterfall.takes_pos (fun l hl => (mem_outstanding hl).2) hy, hle⟩
  have hdue : ∀ l ∈ SqlOverdraftRepository.outstanding k.db u, 0 ≤ due l :=
    fun l hl => Int.le_of_lt (mem_outstanding hl).2
  have htotal := Waterfall.sum_takes hbudget hdue
  rw [hinv.sum_outstanding] at htotal
  have howing : ∀ y ∈ Waterfall.takes due (lienBudget c cmd.amount)
      (SqlOverdraftRepository.outstanding k.db u),
      owing db₁.overdraftLoans y.1.1.id = y.1.1.outstandingMinor - y.2 := by
    intro y hy
    have hshare := Waterfall.share_of_mem (fun l => l.1.id)
      (nodup_takes k.db u (lienBudget c cmd.amount)) hy
    refine (hswept.owing _).trans ?_
    show owing k.db.overdraftLoans _ - _ = _
    rw [owing_of_find? (hmem y hy).1.1, hshare]
  obtain ⟨repayments, hrows, hmap, hall⟩ := hswept.rows
  refine ⟨repayments, ?_, ⟨p.transferId, p.reference, p.now, by rw [← hcmd]; rfl⟩, ?_, hmap, ?_,
    nodup_takes _ _ _, htotal, howing, ?_, ?_, ?_⟩
  · refine hrows.trans ?_
    show (k.db.transfers.push p.row).rows ++ repayments = _
    rw [Table.rows_push hv.transfer_fresh, List.append_assoc]
    rfl
  · intro t ht
    rw [← hreceiver]
    exact hall t ht
  · intro y hy
    obtain ⟨⟨hloan, hpool, hst, hborrower⟩, hn⟩ := hmem y hy
    exact ⟨Table.mem_of_find? hloan, ⟨hborrower, hst⟩, hpool, hn⟩
  · intro l hl hnot
    refine (hswept.loans_kept ?_).trans (Table.find?_of_mem hl)
    intro y hy heq
    refine hnot y hy ?_
    have hfound := (hmem y hy).1.1
    rw [heq, Table.find?_of_mem hl] at hfound
    exact (Option.some.inj hfound).symm
  · intro l hl ho y hy holder
    obtain ⟨pool, hin⟩ := hinv.mem_outstanding_of hl ho
    have hfull := takes_oldest_first hin hy holder
    have := howing _ hfull
    rw [due] at this
    exact this.trans (Int.sub_self _)
  · have hself : Waterfall.share (fun l : LoanRow × PoolRow =>
        decide (l.2.poolAccountId = cmd.receiverAccountId)) (Waterfall.takes due
          (lienBudget c cmd.amount) (SqlOverdraftRepository.outstanding k.db u)) = 0 := by
      apply Waterfall.share_eq_zero
      intro y hy
      apply decide_eq_false
      -- the receiver is a user's account, and no pool keeps its money in one
      obtain ⟨a, ha, hat⟩ := hinv.chart.pools _ (Table.mem_of_find? (hmem y hy).1.2.1)
      intro heq
      have hfound := hv.receiver_found
      rw [hcmd, ← heq, ha] at hfound
      cases hfound
      rw [htype] at hat
      cases hat
    have hposted : balanceOf (p.accountsAfter k.db.accounts) cmd.receiverAccountId =
        balanceOf k.db.accounts cmd.receiverAccountId + cmd.amount.minor := by
      rw [hv.balanceOf_accountsAfter, hcmd, if_neg (hcmd ▸ hv.parties_ne.symm), if_pos rfl]
      omega
    have hbalance : balanceOf db₁.accounts cmd.receiverAccountId =
        balanceOf k.db.accounts cmd.receiverAccountId + cmd.amount.minor -
          ((Waterfall.takes due (lienBudget c cmd.amount)
            (SqlOverdraftRepository.outstanding k.db u)).map Prod.snd).sum := by
      rw [hswept.balanceOf, if_pos hreceiver.symm, hself, Int.add_zero]
      exact congrArg (· - _) hposted
    refine ⟨hbalance, ?_⟩
    show _ ≤ balanceOf db₁.accounts cmd.receiverAccountId
    rw [hbalance, htotal]
    show _ + (_ - lienBudget c cmd.amount) ≤ _
    omega

end Credit

/-- At every point of every transaction, on every reachable database: a credit to a user's
    account by a movement that is not part of a loan is swept for exactly the smaller of the
    budget and what the user owes, oldest loan first, and it fails for lack of funds only when
    its own sender cannot pay. -/
theorem lien_sweep_is_exact (d : Deployment) (now : Time) (calls : List Call) (o : Oracle)
    (L : Licence) (hL : L.Sound (d.ctx o)) (duty : Duty) (rs : List IdempotencyRow) (s : Session)
    (hs : Steps (d.ctx o) L ⟨.idle, serveAll d calls (migrated now)⟩ ⟨⟨duty, none, rs⟩, s.db⟩)
    (cmd : TransferCommand) (hdraw : cmd.kind ≠ .overdraftDraw) (hrepay : cmd.kind ≠ .overdraftRepay)
    (b : AccountRow) (hb : s.db.accounts.find? cmd.receiverAccountId = some b)
    (htype : b.accountType = .user) (u : Ulid) (hu : b.userId = some u) :
    (∀ r s', execute (d.ctx o) cmd s = .ok r s' → r.replayed = false →
      ∃ credit repayments takes,
        SweepsExactly (d.ctx o) cmd u s.db s'.db credit repayments takes) ∧
    ∀ e s', execute (d.ctx o) cmd s = .raised e s' → e.kind = .insufficientFunds →
      ∃ a, s.db.accounts.find? cmd.senderAccountId = some a ∧ a.accountType ≠ .systemIssuance ∧
        a.balanceMinor < cmd.amount.minor := by
  have hinv : Invariant (d.ctx o).settings (d.ctx o).crypto ⟨⟨duty, none, rs⟩, s.db⟩ :=
    (serveAll_inv d now calls : Invariant (d.ctx o).settings (d.ctx o).crypto _).steps hs hL
  have hkind : isLoanLeg cmd.kind = false := by
    cases hk : cmd.kind <;> first | rfl | exact absurd hk hdraw | exact absurd hk hrepay
  constructor
  · intro r s' h hfirst
    rw [execute_wired] at h
    rcases TransferUseCase.execute_ok h with ⟨-, hreplayed, -⟩ | ⟨p, hp⟩
    · rw [hfirst] at hreplayed
      cases hreplayed
    · have hreceiver : p.receiver = b := by
        have := hp.valid.receiver_found
        rw [hp.cmd_eq] at this
        exact Option.some.inj (this.symm.trans hb)
      obtain ⟨repayments, hexact⟩ := (hp.collected hinv.standing).sweepsExactly hinv hkind
        (hreceiver ▸ htype) (hreceiver ▸ hu)
      exact ⟨_, _, _, hexact⟩
  · intro e s' h hfunds
    refine execute_raises hinv.standing hinv.books.nonneg ?_ e s' h hfunds
    intro a ha hpoor
    rw [not_or] at hpoor
    exact ⟨a, ha, hpoor.1, Int.not_le.1 hpoor.2⟩

/-- A transaction that has only begun. -/
theorem Steps.begin (c : Ctx) (L : Licence) (db : Database) :
    Steps c L ⟨.idle, db⟩ ⟨⟨.none, none, []⟩, (begin db).db⟩ := .refl

namespace Sample

/-- The second user sends a hundred taka more than it has, out of the first user's pool. -/
def lending : List Call :=
  [register 1 "01711111111", register 2 "01722222222", register 3 "01733333333",
    call 4 (.createPool (id 1 1) "1234" (.fromMinor 40000) "a" none),
    call 5 (.createGrant (id 1 1) "1234" "01722222222" 50000 "b" none),
    call 6 (.createTransfer (id 2 1) "1234" "01733333333" (.fromMinor 10010000) none "c" none)]

/-- The third user pays the second a hundred and fifty taka. -/
def income : TransferCommand where
  actorUserId := id 3 1
  senderAccountId := id 3 4
  receiverAccountId := id 2 4
  amount := .fromMinor 15000
  idempotencyKey := "k"
  requestFingerprint := ""

/-- Did the execution go through, and not as a replay? -/
def isFirst : Outcome AppError Session TransferResult → Bool
  | .ok r _ => !r.replayed
  | .raised _ _ => false

theorem of_isFirst {x : Outcome AppError Session TransferResult} (h : isFirst x = true) :
    ∃ r s, x = .ok r s ∧ r.replayed = false := by
  cases x with
  | ok r s => exact ⟨r, s, rfl, by simpa [isFirst] using h⟩
  | raised e s => cases h

/-- Is this the account of that user? -/
def isAccountOf (u : Ulid) (o : Option AccountRow) : Bool :=
  match o with
  | some a => a.accountType == .user && a.userId == some u
  | none => false

theorem of_isAccountOf {u : Ulid} {o : Option AccountRow} (h : isAccountOf u o = true) :
    ∃ a, o = some a ∧ a.accountType = .user ∧ a.userId = some u := by
  cases o with
  | none => cases h
  | some a =>
    obtain ⟨ht, hu⟩ := Bool.and_eq_true_iff.1 h
    exact ⟨a, rfl, beq_iff_eq.1 ht, beq_iff_eq.1 hu⟩

theorem lending_account : isAccountOf (id 2 1)
    ((serveAll deployment lending (migrated start)).accounts.find? (id 2 4)) = true := by
  decide +kernel

theorem lending_income : isFirst (execute (deployment.ctx (oracle 20 start)) income
    (begin (serveAll deployment lending (migrated start)))) = true := by
  decide +kernel

theorem lending_owed : (serveAll deployment lending (migrated start)).owed (id 2 1) = 10000 := by
  decide +kernel

end Sample

/-- Half of the payment goes to the pool the receiver has borrowed from. -/
theorem lien_takes_half_of_a_payment :
    let db := serveAll Sample.deployment Sample.lending (migrated Sample.start)
    ∃ r s' credit repayments takes,
      execute (Sample.deployment.ctx (Sample.oracle 20 Sample.start)) Sample.income (begin db) =
        .ok r s' ∧
      SweepsExactly (Sample.deployment.ctx (Sample.oracle 20 Sample.start)) Sample.income
        (Sample.id 2 1) db s'.db credit repayments takes ∧
      (takes.map Prod.snd).sum = 7500 := by
  have hexact := fun b hb ht hu => (lien_sweep_is_exact Sample.deployment Sample.start Sample.lending
    (Sample.oracle 20 Sample.start)
    (licence (Sample.deployment.ctx (Sample.oracle 20 Sample.start)) (migrated 0) .expireDue)
    (licence_sound _ _ _) .none [] (begin (serveAll Sample.deployment Sample.lending
      (migrated Sample.start))) (Steps.begin _ _ _) Sample.income nofun nofun b hb ht (Sample.id 2 1) hu).1
  have haccount := Sample.lending_account
  have hincome := Sample.lending_income
  have howed := Sample.lending_owed
  generalize serveAll Sample.deployment Sample.lending (migrated Sample.start) = db at *
  obtain ⟨b, hb, ht, hu⟩ := Sample.of_isAccountOf haccount
  obtain ⟨r, s', hok, hfirst⟩ := Sample.of_isFirst hincome
  obtain ⟨credit, repayments, takes, h⟩ := hexact b hb ht hu r s' hok hfirst
  refine ⟨r, s', credit, repayments, takes, hok, h, ?_⟩
  have htotal := h.total
  rw [show (begin db).db = db from rfl, howed] at htotal
  exact htotal

end MoneyMovement

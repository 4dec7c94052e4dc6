/-
  MoneyMovement/NetPosition.lean
  ==============================
  **What a user owns, less what it owes.**

  Lending and repaying are neutral: a draw raises the borrower's balance and its
  debt alike, and takes out of the pool what it adds to the pool's loans; a
  repayment undoes both.  So of a send only the hold counts, and of an undo
  only the refund, whatever was drawn and whatever the lien took.
-/
import MoneyMovement.ExactShortfall
import MoneyMovement.UndoSpec

namespace MoneyMovement

open Txn OverdraftService

/-! ### Positions -/

/-- The `USER` account of a user. -/
def AccountRow.IsUserOf (a : AccountRow) (u : Ulid) : Prop :=
  a.accountType = .user ∧ a.userId = some u

instance (a : AccountRow) (u : Ulid) : Decidable (a.IsUserOf u) := inferInstanceAs (Decidable (_ ∧ _))

/-- The balance of a user. -/
def Database.userBalance (db : Database) (u : Ulid) : Int :=
  db.accounts.sum fun a => if a.IsUserOf u then a.balanceMinor else 0

/-- A user's balance less its outstanding loans. -/
def Database.netPosition (db : Database) (u : Ulid) : Int := db.userBalance u - db.owed u

/-- A pool's balance and what it has lent. -/
def Database.poolWorth (db : Database) (pool : PoolRow) : Int :=
  balanceOf db.accounts pool.poolAccountId + outstandingOn db.overdraftLoans pool.id

section Movement

variable {c : Ctx} {db db' : Database} {p : Posting}

theorem Posting.Valid.userBalance (hv : p.Valid c db) (u : Ulid) :
    ((p.accountsAfter db.accounts).sum fun a => if a.IsUserOf u then a.balanceMinor else 0) =
      db.userBalance u - (if p.sender.IsUserOf u then p.cmd.amount.minor else 0) +
        (if p.receiver.IsUserOf u then p.cmd.amount.minor else 0) := by
  have hmoved : ∀ (a : AccountRow) (n : Int) (t : Time),
      (if (a.moved n t).IsUserOf u then (a.moved n t).balanceMinor else 0) =
        (if a.IsUserOf u then a.balanceMinor else 0) + if a.IsUserOf u then n else 0 := by
    intro a n t
    by_cases ha : a.IsUserOf u
    · rw [if_pos ha, if_pos ha, if_pos (show (a.moved n t).IsUserOf u from ha)]
      rfl
    · rw [if_neg ha, if_neg ha, if_neg (show ¬(a.moved n t).IsUserOf u from ha)]
      rfl
  rw [hv.sum_accountsAfter, hmoved, hmoved, Database.userBalance]
  split <;> omega

/-- What a movement does to the positions, as long as it touches no loan. -/
theorem Posting.Valid.position (hv : p.Valid c db)
    (haccounts : db'.accounts = p.accountsAfter db.accounts)
    (hloans : db'.overdraftLoans = db.overdraftLoans) (u : Ulid) :
    db'.netPosition u = db.netPosition u - (if p.sender.IsUserOf u then p.cmd.amount.minor else 0) +
      (if p.receiver.IsUserOf u then p.cmd.amount.minor else 0) := by
  rw [Database.netPosition, Database.userBalance, Database.owed, haccounts, hloans, hv.userBalance,
    Database.netPosition, ← Database.owed]
  omega

theorem Posting.Valid.worth (hv : p.Valid c db)
    (haccounts : db'.accounts = p.accountsAfter db.accounts)
    (hloans : db'.overdraftLoans = db.overdraftLoans) {pool : PoolRow}
    (hsender : pool.poolAccountId ≠ p.cmd.senderAccountId)
    (hreceiver : pool.poolAccountId ≠ p.cmd.receiverAccountId) :
    db'.poolWorth pool = db.poolWorth pool := by
  rw [Database.poolWorth, Database.poolWorth, haccounts, hloans, hv.balanceOf_accountsAfter,
    if_neg hsender, if_neg hreceiver]
  omega

end Movement

/-- Nobody's net position changes, no pool's worth, and nothing is held back. -/
structure Neutral (db db' : Database) : Prop where
  pools : db'.overdraftPools = db.overdraftPools
  position : ∀ u, db'.netPosition u = db.netPosition u
  worth : ∀ pool ∈ db.overdraftPools.rows, db'.poolWorth pool = db.poolWorth pool
  pending : balanceOf db'.accounts PENDING_SETTLEMENT_ACCOUNT_ID =
    balanceOf db.accounts PENDING_SETTLEMENT_ACCOUNT_ID

/-- The net position of `u` moves by `n`, out of the holding account; no other position and no
    pool's worth changes. -/
structure MovesNet (db db' : Database) (u : Ulid) (n : Int) : Prop where
  mover : db'.netPosition u = db.netPosition u + n
  others : ∀ v, v ≠ u → db'.netPosition v = db.netPosition v
  pools : db'.overdraftPools = db.overdraftPools
  worth : ∀ pool ∈ db.overdraftPools.rows, db'.poolWorth pool = db.poolWorth pool
  pending : balanceOf db'.accounts PENDING_SETTLEMENT_ACCOUNT_ID =
    balanceOf db.accounts PENDING_SETTLEMENT_ACCOUNT_ID - n

section Composition

variable {db₁ db₂ db₃ : Database} {u : Ulid} {n : Int}

theorem Neutral.refl (db : Database) : Neutral db db := ⟨rfl, fun _ => rfl, fun _ _ => rfl, rfl⟩

theorem Neutral.trans (h : Neutral db₁ db₂) (k : Neutral db₂ db₃) : Neutral db₁ db₃ where
  pools := k.pools.trans h.pools
  position u := (k.position u).trans (h.position u)
  worth pool hp := (k.worth pool (h.pools ▸ hp)).trans (h.worth pool hp)
  pending := k.pending.trans h.pending

theorem Neutral.movesNet (h : Neutral db₁ db₂) (k : MovesNet db₂ db₃ u n) : MovesNet db₁ db₃ u n where
  mover := by rw [k.mover, h.position]
  others v hv := (k.others v hv).trans (h.position v)
  pools := k.pools.trans h.pools
  worth pool hp := (k.worth pool (h.pools ▸ hp)).trans (h.worth pool hp)
  pending := by rw [k.pending, h.pending]

theorem MovesNet.neutral (h : MovesNet db₁ db₂ u n) (k : Neutral db₂ db₃) : MovesNet db₁ db₃ u n where
  mover := (k.position u).trans h.mover
  others v hv := (k.position v).trans (h.others v hv)
  pools := k.pools.trans h.pools
  worth pool hp := (k.worth pool (h.pools ▸ hp)).trans (h.worth pool hp)
  pending := k.pending.trans h.pending

end Composition

/-! ### Repayments -/

section Repayment

variable {c : Ctx} {x : Lien} {l : LoanRow × PoolRow} {n : Int} {db db' : Database} {p : Posting}

/-- What one loan adds to a debt, once something is repaid of it. -/
theorem owed_repaid {loans : Table LoanRow.id} {loan : LoanRow} {u : Ulid} {n : Int} {now : Time}
    (hf : loans.find? loan.id = some loan) (hs : loan.status = .outstanding) :
    ((loans.modifyAt loan.id (SqlOverdraftRepository.repaid (loan.outstandingMinor - n) now)
      (SqlOverdraftRepository.id_repaid _ _)).sum fun l => if l.OwedBy u then l.outstandingMinor else 0) =
      (loans.sum fun l => if l.OwedBy u then l.outstandingMinor else 0) -
        if loan.borrowerUserId = u then n else 0 := by
  rw [Table.sum_modifyAt hf]
  by_cases hu : loan.borrowerUserId = u
  · rw [if_pos hu, if_pos (show loan.OwedBy u from ⟨hu, hs⟩)]
    by_cases hzero : loan.outstandingMinor - n = 0
    · rw [if_neg]
      · omega
      · rintro ⟨-, hout⟩
        rw [SqlOverdraftRepository.repaid, if_pos hzero] at hout
        cases hout
    · rw [if_pos]
      · show _ + (loan.outstandingMinor - n - loan.outstandingMinor) = _
        omega
      · refine ⟨hu, ?_⟩
        show (if _ = _ then _ else _) = _
        rw [if_neg hzero]
  · rw [if_neg hu, if_neg (fun ho => hu ho.1), if_neg (fun ho => hu ho.1)]
    rfl

theorem outstandingOn_repaid {loans : Table LoanRow.id} {loan : LoanRow} {n : Int} {now : Time}
    (hf : loans.find? loan.id = some loan) (poolId : Ulid) :
    outstandingOn (loans.modifyAt loan.id
      (SqlOverdraftRepository.repaid (loan.outstandingMinor - n) now)
      (SqlOverdraftRepository.id_repaid _ _)) poolId =
      outstandingOn loans poolId - if loan.poolId = poolId then n else 0 := by
  rw [outstandingOn, Table.sum_modifyAt hf, ← outstandingOn]
  show _ + ((if loan.poolId = poolId then loan.outstandingMinor - n else 0) -
    if loan.poolId = poolId then loan.outstandingMinor else 0) = _
  split <;> omega

theorem Repaid.chart (h : Repaid c x l n db db' p) (hch : Chart db) : Chart db' := by
  have hpost := hch.post h.valid
  obtain ⟨logs, repayments, now, rfl⟩ := h.written
  exact ⟨hpost.system, hpost.kept, hpost.pools, hpost.pool_unique, hpost.parties⟩

/-- Money for debt. -/
theorem Repaid.neutral (h : Repaid c x l n db db' p) (hch : Chart db) : Neutral db db' := by
  have hr := h.repays
  have hv := h.valid
  have hamount : p.cmd.amount.minor = n := by
    rw [h.cmd_eq]
    rfl
  obtain ⟨now, hloans⟩ := h.debts
  obtain ⟨b, hb, hbt⟩ := hch.pool_hasType hr.pool_found
  have huser : db.HasType x.receiverId .user := by
    have hfound := hv.sender_found
    rw [h.cmd_eq] at hfound
    exact ⟨p.sender, hfound, hr.sender_type⟩
  refine ⟨h.untouched.pools, ?_, ?_, ?_⟩
  · intro u
    have hreceiver : ¬p.receiver.IsUserOf u := by
      have hfound := hv.receiver_found
      rw [hr.receiver, hb] at hfound
      cases hfound
      rintro ⟨ht, -⟩
      rw [hbt] at ht
      cases ht
    have hsender : p.sender.IsUserOf u ↔ l.1.borrowerUserId = u := by
      rw [AccountRow.IsUserOf, hr.sender_user, Option.some.injEq]
      exact and_iff_right hr.sender_type
    rw [Database.netPosition, Database.netPosition, Database.userBalance, Database.owed, h.accounts,
      hv.userBalance, hloans, owed_repaid hr.loan_found hr.outstanding, if_neg hreceiver, hamount,
      ← Database.owed]
    simp only [hsender]
    omega
  · intro pool hp
    have hpool : l.2.poolAccountId = pool.poolAccountId ↔ l.1.poolId = pool.id := by
      have hid : l.2.id = l.1.poolId := Table.key_of_find? hr.pool_found
      rw [← hid]
      exact (Lending.pool_eq_iff hch (hid ▸ hr.pool_found) hp).symm
    have hsender : pool.poolAccountId ≠ x.receiverId := (hch.pools pool hp).ne huser (by decide)
    rw [Database.poolWorth, Database.poolWorth, h.balanceOf, hloans, outstandingOn_repaid hr.loan_found,
      if_neg hsender]
    simp only [hpool]
    omega
  · have hpool : l.2.poolAccountId ≠ PENDING_SETTLEMENT_ACCOUNT_ID :=
      Database.HasType.ne ⟨b, hb, hbt⟩ hch.pending (by decide)
    rw [h.balanceOf, if_neg (hch.pending.ne huser (by decide)), if_neg hpool]
    omega

theorem SweptBy.neutral {takes : List ((LoanRow × PoolRow) × Int)} (h : SweptBy c x takes db db')
    (hch : Chart db) : Neutral db db' := by
  induction h with
  | nil => exact .refl _
  | cons h _ ih => exact (h.neutral hch).trans (ih (h.chart hch))

end Repayment

/-! ### Draws -/

section Draw

variable {c : Ctx} {x : Sending} {db db' : Database}

theorem AccountRow.not_isUserOf {a : AccountRow} {u : Ulid} (h : a.accountType ≠ .user) :
    ¬a.IsUserOf u := fun ha => h ha.1

/-- A draw is neutral once its loan is recorded. -/
theorem Drawn.neutral {n : Int} {g : GrantRow × PoolRow} {p : Posting} {l : LoanRow} {a : AccountRow}
    (h : Drawn c x n db db' g p l) (hch : Chart db) (hpool : db.overdraftPools.find? g.1.poolId = some g.2)
    (ha : db.accounts.find? x.account = some a) (hat : a.IsUserOf x.user) : Neutral db db' := by
  obtain ⟨db₁, hmoved, rfl⟩ := h.moved
  obtain ⟨now, hl⟩ := h.loan
  obtain ⟨b, hb, hbt⟩ := hch.pool_hasType hpool
  have hsender : p.sender = b := Option.some.inj (hmoved.sender_found.symm.trans hb)
  have hreceiver : p.receiver = a := Option.some.inj (hmoved.receiver_found.symm.trans ha)
  refine ⟨hmoved.untouched.pools, ?_, ?_, ?_⟩
  · intro u
    have hposition := hmoved.valid.position hmoved.accounts hmoved.loans u
    have howed : (({ db₁ with overdraftLoans := db.overdraftLoans.push l } : Database).owed u) =
        db₁.owed u + if x.user = u then n else 0 := by
      rw [Database.owed, Table.sum_push h.fresh, Database.owed, hmoved.loans, hl]
      congr 1
      simp only [LoanRow.OwedBy, Sending.loan, and_true]
    have huser : p.receiver.IsUserOf u ↔ x.user = u := by
      rw [hreceiver, AccountRow.IsUserOf, hat.2, Option.some.injEq]
      exact and_iff_right hat.1
    rw [hsender, if_neg (AccountRow.not_isUserOf (by rw [hbt]; nofun))] at hposition
    simp only [huser] at hposition
    show db₁.userBalance u - _ = _
    rw [howed]
    rw [Database.netPosition] at hposition
    have hamount : p.cmd.amount.minor = n := by
      rw [hmoved.cmd_eq]
      rfl
    rw [hamount] at hposition
    omega
  · intro pool hp
    have hid : g.2.id = g.1.poolId := Table.key_of_find? hpool
    have hsame : pool.poolAccountId = g.2.poolAccountId ↔ g.2.id = pool.id := by
      rw [Lending.pool_eq_iff hch (hid ▸ hpool) hp, eq_comm]
    have huser : pool.poolAccountId ≠ x.account :=
      (hch.pools pool hp).ne ⟨a, ha, hat.1⟩ (by decide)
    have hlent : outstandingOn (db.overdraftLoans.push l) pool.id =
        outstandingOn db.overdraftLoans pool.id + if g.2.id = pool.id then n else 0 := by
      rw [outstandingOn, Table.sum_push h.fresh, hl]
      rfl
    rw [Database.poolWorth, Database.poolWorth, hlent]
    show MoneyMovement.balanceOf db₁.accounts _ + _ = _
    rw [hmoved.balanceOf]
    show MoneyMovement.balanceOf db.accounts _ - (if pool.poolAccountId = g.2.poolAccountId then n else 0) +
      (if pool.poolAccountId = x.account then n else 0) + _ = _
    rw [if_neg huser]
    simp only [hsame]
    omega
  · have hpool : PENDING_SETTLEMENT_ACCOUNT_ID ≠ g.2.poolAccountId :=
      hch.pending.ne ⟨b, hb, hbt⟩ (by decide)
    have huser : PENDING_SETTLEMENT_ACCOUNT_ID ≠ x.account :=
      hch.pending.ne ⟨a, ha, hat.1⟩ (by decide)
    rw [h.balanceOf, if_neg hpool, if_neg huser]
    omega

theorem Covered.neutral {k : Config} {a : AccountRow} {o : Option Draw} (h : Covered c x a k.db db' o)
    (hinv : Invariant c.settings c.crypto k) (ha : k.db.accounts.find? x.account = some a)
    (hat : a.IsUserOf x.user) : Neutral k.db db' := by
  cases h with
  | enough => exact .refl _
  | drawn _ h => exact h.neutral hinv.chart (hinv.selected_first h.selected).1.pool ha hat

end Draw

/-! ### Into the holding account, and out of it -/

section Send

variable {c : Ctx} {x : Sending} {db db' : Database} {body : Body} {a : AccountRow}
  {o : Option Draw} {p : Posting}

/-- A payment between a user's account and the holding account. -/
theorem Posting.Valid.movesNet {u : Ulid} {n : Int} (hv : p.Valid c db)
    (haccounts : db'.accounts = p.accountsAfter db.accounts)
    (hloans : db'.overdraftLoans = db.overdraftLoans)
    (hpools : db'.overdraftPools = db.overdraftPools) (hch : Chart db)
    (h : p.sender.IsUserOf u ∧ p.cmd.receiverAccountId = PENDING_SETTLEMENT_ACCOUNT_ID ∧
        n = -p.cmd.amount.minor ∨
      p.receiver.IsUserOf u ∧ p.cmd.senderAccountId = PENDING_SETTLEMENT_ACCOUNT_ID ∧
        n = p.cmd.amount.minor) : MovesNet db db' u n := by
  have hposition := hv.position haccounts hloans
  have hworth : ∀ pool ∈ db.overdraftPools.rows, ∀ id type, db.HasType id type →
      AccountType.overdraftPool ≠ type → pool.poolAccountId ≠ id :=
    fun pool hp id type ht hne => (hch.pools pool hp).ne ht hne
  have hnobody : ∀ {a : AccountRow}, db.accounts.find? PENDING_SETTLEMENT_ACCOUNT_ID = some a →
      ∀ v, ¬a.IsUserOf v := by
    intro a ha v
    obtain ⟨r, hr, hrt⟩ := hch.pending
    cases ha.symm.trans hr
    exact AccountRow.not_isUserOf (by rw [hrt]; nofun)
  have hother : ∀ {a : AccountRow} {v : Ulid}, a.IsUserOf u → v ≠ u → ¬a.IsUserOf v :=
    fun ha hv hav => hv (Option.some.inj (hav.2.symm.trans ha.2))
  rcases h with ⟨huser, hend, rfl⟩ | ⟨huser, hend, rfl⟩
  · have hno := hnobody (hend ▸ hv.receiver_found)
    refine ⟨?_, ?_, hpools, ?_, ?_⟩
    · rw [hposition, if_pos huser, if_neg (hno u)]
      omega
    · intro v hne
      rw [hposition, if_neg (hother huser hne), if_neg (hno v)]
      omega
    · intro pool hp
      refine hv.worth haccounts hloans ?_ ?_
      · exact hworth pool hp _ _ ⟨p.sender, hv.sender_found, huser.1⟩ (by decide)
      · exact hworth pool hp _ _ (hend ▸ hch.pending) (by decide)
    · rw [haccounts, hv.balanceOf_accountsAfter, hend, if_pos rfl,
        if_neg (hend ▸ hv.parties_ne.symm)]
      omega
  · have hno := hnobody (hend ▸ hv.sender_found)
    refine ⟨?_, ?_, hpools, ?_, ?_⟩
    · rw [hposition, if_pos huser, if_neg (hno u)]
      omega
    · intro v hne
      rw [hposition, if_neg (hother huser hne), if_neg (hno v)]
      omega
    · intro pool hp
      refine hv.worth haccounts hloans ?_ ?_
      · exact hworth pool hp _ _ (hend ▸ hch.pending) (by decide)
      · exact hworth pool hp _ _ ⟨p.receiver, hv.receiver_found, huser.1⟩ (by decide)
    · rw [haccounts, hv.balanceOf_accountsAfter, hend, if_pos rfl,
        if_neg (hend ▸ hv.parties_ne)]
      omega

theorem Moved.chart {cmd : TransferCommand} (h : Moved c cmd db db' p) (hch : Chart db) : Chart db' := by
  have hpost := hch.post h.valid
  obtain ⟨logs, rfl⟩ := h.written
  exact ⟨hpost.system, hpost.kept, hpost.pools, hpost.pool_unique, hpost.parties⟩

/-- Covering a shortfall keeps the accounts' types and owners. -/
theorem Covered.chart (h : Covered c x a db db' o) (hch : Chart db) :
    Chart db' ∧ ∀ id u, db.OwnedBy id u → db'.OwnedBy id u := by
  cases h with
  | enough => exact ⟨hch, fun _ _ h => h⟩
  | drawn _ h =>
    obtain ⟨db₁, hmoved, rfl⟩ := h.moved
    have hch₁ := hmoved.chart hch
    exact ⟨⟨hch₁.system, hch₁.kept, hch₁.pools, hch₁.pool_unique, hch₁.parties⟩,
      hmoved.untouched.owners⟩

/-- A hold takes its amount out of the sender's net position. -/
theorem Moved.movesNet (h : Moved c (x.holdCommand c) db db' p) (hch : Chart db)
    (ho : db.OwnedBy x.account x.user) : MovesNet db db' x.user (-x.amount.minor) := by
  obtain ⟨s, hs, hst, hsu⟩ := ho
  have hsender : p.sender = s := Option.some.inj (h.sender_found.symm.trans hs)
  have hcmd := h.cmd_eq
  refine h.valid.movesNet h.accounts h.loans h.untouched.pools hch (.inl ⟨?_, ?_, ?_⟩)
  · rw [hsender]
    exact ⟨hst, hsu⟩
  · rw [hcmd]
    rfl
  · rw [hcmd]
    rfl

/-- Of a send, only the hold counts. -/
theorem Sent.movesNet (h : Sent c x db db' body a o p)
    (hinv : Invariant c.settings c.crypto ⟨.idle, db⟩) (htype : a.accountType = .user) :
    MovesNet db db' x.user (-x.amount.minor) := by
  obtain ⟨now, db₁, db₂, tasks, records, hcovered, hheld, rfl⟩ := h.runs
  obtain ⟨row, hinv₀⟩ := Sending.invariant_reserved (x := x) now hinv h.unused
  have hneutral := hcovered.neutral hinv₀ h.sender_found ⟨htype, h.owner⟩
  obtain ⟨hch₁, hown⟩ := hcovered.chart hinv₀.chart
  have hmoves := hheld.movesNet hch₁ (hown _ _ ⟨a, h.sender_found, htype, h.owner⟩)
  obtain ⟨hmover, hothers, hpools, hworth, hpending⟩ := hneutral.movesNet hmoves
  exact ⟨hmover, hothers, hpools, hworth, hpending⟩

/-- Of an undo, only the refund counts. -/
theorem Undone.movesNet {u : Ulid} {req : Option String} {hold : TransferRow}
    (h : Undone c u req db db' body hold p) : MovesNet db db' u hold.amountMinor := by
  obtain ⟨row, db₁, tasks, records, hinv, hcollected, rfl⟩ := h.runs
  obtain ⟨logs, db₂, x, -, -, hswept, rfl⟩ := hcollected.swept
  have hv := hcollected.valid
  have hcmd := hcollected.cmd_eq
  have hch₀ : Chart (hold.latchedIn c row db) := hinv.chart
  obtain ⟨b, hb, hbt, hbu⟩ := h.owner
  have hreceiver : p.receiver = b := by
    have hfound := hv.receiver_found
    rw [hcmd] at hfound
    exact Option.some.inj (hfound.symm.trans hb)
  have hposted := hch₀.post hv
  have hmoves : MovesNet (hold.latchedIn c row db) { p.apply (hold.latchedIn c row db) with
      auditLogs := logs } u hold.amountMinor := by
    refine hv.movesNet rfl rfl rfl hch₀ (.inr ⟨?_, ?_, ?_⟩)
    · rw [hreceiver]
      exact ⟨hbt, hbu⟩
    · rw [hcmd]
      rfl
    · rw [hcmd]
      rfl
  have hneutral := hswept.neutral
    ⟨hposted.system, hposted.kept, hposted.pools, hposted.pool_unique, hposted.parties⟩
  obtain ⟨hmover, hothers, hpools, hworth, hpending⟩ := hmoves.neutral hneutral
  exact ⟨hmover, hothers, hpools, hworth, hpending⟩

end Send

theorem MovesNet.of_users {db db' : Database} {users : Table UserRow.id} {u : Ulid} {n : Int}
    (h : MovesNet { db with users := users } db' u n) : MovesNet db db' u n :=
  ⟨h.mover, h.others, h.pools, h.worth, h.pending⟩

/-- In every reachable database: the first send under a key takes its amount out of the sender's
    net position and into the holding account, and an undo that is not a replay puts the amount of
    the hold back; no other net position and no pool's worth changes, whatever is drawn and
    whatever the lien takes. -/
theorem send_and_undo_move_net_positions (d : Deployment) (now : Time) (calls : List Call)
    (o : Oracle) :
    let db := serveAll d calls (migrated now)
    (∀ (α : Type) (check : Tx α) (v : α) (s s' : Session) (x : Sending) (body : Body),
      check (begin db) = .ok v s → SameButUsers (begin db) s → db.HasType x.account .user →
      db.idempotencyRecords.find? x.triple = none → KeyApart d.crypto db x.user x.key →
      (check >>= fun _ => x.run (d.ctx o)) (begin db) = .ok body s' →
      MovesNet db s'.db x.user (-x.amount.minor)) ∧
    ∀ (id u : Ulid) (key : String) (req : Option String) (body : Body) (s' : Session),
      UndoableTransferService.undo (d.ctx o) id u key req (begin db) = .ok body s' →
      (s'.db = db ∧ ∃ b : Body, body = b.put "replayed" (.bool true)) ∨
        ∃ hold, db.transfers.find? id = some hold ∧ hold.kind = .undoHold ∧
          hold.status = .pendingUndo ∧ db.OwnedBy hold.senderAccountId u ∧
          MovesNet db s'.db u hold.amountMinor := by
  intro db
  have hinv : db.Inv d := serveAll_inv d now calls
  refine ⟨?_, ?_⟩
  · intro α check v s s' x body hcheck hsame htype hfirst hapart hok
    rw [bind_of_ok hcheck] at hok
    have hhold : db.idempotencyRecords.find? (x.holdCommand (d.ctx o)).triple = none :=
      Sending.hold_unused (serveAll_holdsKeyed d now calls) hfirst hapart
    obtain ⟨users, hu, hs⟩ := hsame
    have hs : s.db = { db with users := users } := hs
    have hinv' : Invariant (d.ctx o).settings (d.ctx o).crypto ⟨.idle, s.db⟩ := by
      rw [hs]
      exact hinv.users o hu
    obtain ⟨a, ha, hat⟩ := htype
    obtain ⟨a', _, _, hsent⟩ := Sending.sent hinv' (by rw [hs]; exact ⟨a, ha, hat⟩)
      (by rw [hs]; exact hfirst) (by rw [hs]; exact hhold) hok
    have ha' : a' = a := by
      have hfound := hsent.sender_found
      rw [hs] at hfound
      exact Option.some.inj (hfound.symm.trans ha)
    have hmoves := hsent.movesNet hinv' (ha' ▸ hat)
    rw [hs] at hmoves
    exact hmoves.of_users
  · intro id u key req body s' hok
    rcases UndoableTransferService.undo_ok (s := begin db) hinv hok with hreplay | ⟨hold, p, rfl, h⟩
    · exact .inl hreplay
    · exact .inr ⟨hold, h.found, h.kind, h.status, h.owner, h.movesNet⟩

namespace Sample

/-- The second user undoes that send. -/
def undoing : Tx Body :=
  UndoableTransferService.undo (lender.ctx (oracle 7 start)) (id 6 12) (id 2 1) "u" none

/-- Is the hold undone, with a refund and a repayment? -/
def undoes (db : Database) : Bool :=
  decide ((db.transfers.find? (id 6 12)).map TransferRow.amountMinor = some 10010000) &&
  match undoing (begin db) with
  | .ok _ s => decide (s.db.transfers.rows.length = db.transfers.rows.length + 2)
  | .raised _ _ => false

theorem lending_undoes : undoes (serveAll lender lending (migrated start)) = true := by
  decide +kernel

theorem of_undoes {db : Database} (h : undoes db = true) :
    (∀ hold, db.transfers.find? (id 6 12) = some hold → hold.amountMinor = 10010000) ∧
      ∃ body s', undoing (begin db) = .ok body s' ∧ s'.db ≠ db := by
  obtain ⟨hamount, h⟩ := Bool.and_eq_true_iff.1 h
  rw [decide_eq_true_eq] at hamount
  refine ⟨?_, ?_⟩
  · intro hold hf
    rw [hf] at hamount
    exact Option.some.inj hamount
  · cases hout : undoing (begin db) with
    | ok body s' =>
      rw [hout] at h
      refine ⟨body, s', rfl, ?_⟩
      intro heq
      have hlength := of_decide_eq_true h
      rw [heq] at hlength
      omega
    | raised e s' =>
      rw [hout] at h
      cases h

end Sample

/-- A send that draws on a pool costs its sender the amount, and its undo, half of which the lien
    claims, gives the amount back. -/
theorem borrowed_send_is_given_back :
    let db := serveAll Sample.lender Sample.pooled (migrated Sample.start)
    let sent := serveAll Sample.lender Sample.lending (migrated Sample.start)
    (∃ body s', Sample.borrowing.run (Sample.lender.ctx (Sample.oracle 6 Sample.start)) (begin db) =
      .ok body s' ∧ MovesNet db s'.db (Sample.id 2 1) (-10010000)) ∧
    ∃ body s', Sample.undoing (begin sent) = .ok body s' ∧
      MovesNet sent s'.db (Sample.id 2 1) 10010000 := by
  have hsend := (send_and_undo_move_net_positions Sample.lender Sample.start Sample.pooled
    (Sample.oracle 6 Sample.start)).1
  have hundo := (send_and_undo_move_net_positions Sample.lender Sample.start Sample.lending
    (Sample.oracle 7 Sample.start)).2
  have hready := Sample.pooled_mayBorrow
  have hundoes := Sample.lending_undoes
  generalize serveAll Sample.lender Sample.pooled (migrated Sample.start) = db at *
  generalize serveAll Sample.lender Sample.lending (migrated Sample.start) = sent at *
  refine ⟨?_, ?_⟩
  · obtain ⟨⟨a, ha, hat, -⟩, hkey, hapart, body, s', hok⟩ := Sample.of_mayBorrow hready
    exact ⟨body, s', hok, hsend Unit (pure ()) () (begin db) s' Sample.borrowing body
      (pure_ok.2 ⟨rfl, rfl⟩) (Std.Refl.refl _) ⟨a, ha, hat⟩ hkey hapart hok⟩
  · obtain ⟨hamount, body, s', hok, hne⟩ := Sample.of_undoes hundoes
    rcases hundo (Sample.id 6 12) (Sample.id 2 1) "u" none body s' hok with
      ⟨heq, -⟩ | ⟨hold, hf, -, -, -, hmoves⟩
    · exact absurd heq hne
    · rw [hamount hold hf] at hmoves
      exact ⟨body, s', hok, hmoves⟩

end MoneyMovement

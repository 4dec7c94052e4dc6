/-
  MoneyMovement/ReportedBalances.lean
  ===================================
  **Which responses report the balance that is committed.**

  Four commands answer with a balance.  A send reports what the hold left, and
  the hold is not swept; a new pool reports what was paid in; a top-up reads the
  pool's account again.  An undo reports the balance its refund brought, before
  the lien took its part of the refund: so it is right exactly when the lien
  takes nothing.
-/
import MoneyMovement.NetPosition
import MoneyMovement.PoolSpec

namespace MoneyMovement

open Txn OverdraftService UndoableTransferService

/-! ### Commands that report a balance -/

inductive BalanceCommand where
  | send (x : Sending)
  | undo (transferId user : Ulid) (key : String) (requestId : Option String)
  | createPool (user : Ulid) (amount : Money) (key : String) (requestId : Option String)
  | fundPool (user : Ulid) (amount : Money) (key : String) (requestId : Option String)

namespace BalanceCommand

def run (c : Ctx) : BalanceCommand → Tx Body
  | .send x => x.run c
  | .undo id user key req => UndoableTransferService.undo c id user key req
  | .createPool user amount key req => OverdraftService.createPool c user amount key req
  | .fundPool user amount key req => OverdraftService.fundPool c user amount key req

/-- The field of the response. -/
def field : BalanceCommand → String
  | .send _ | .undo .. => "senderBalanceMinor"
  | .createPool .. | .fundPool .. => "balanceMinor"

/-- The account the field is about: the sender's, or the pool's. -/
def account (db : Database) : BalanceCommand → Option Ulid
  | .send x => some x.account
  | .undo id .. => (db.transfers.find? id).map TransferRow.senderAccountId
  | .createPool user .. | .fundPool user .. =>
      (SqlOverdraftRepository.poolOfSponsor db user).map PoolRow.poolAccountId

/-- The command is not a replay.  Of a top-up nothing is asked: it reads the balance either way. -/
def FirstTime (y : Crypto) (db : Database) : BalanceCommand → Prop
  | .send x => db.HasType x.account .user ∧ db.idempotencyRecords.find? x.triple = none ∧
      KeyApart y db x.user x.key
  | .undo id user key _ => db.idempotencyRecords.find? ⟨user, undoEndpoint id, key⟩ = none
  | .createPool user _ key _ => db.idempotencyRecords.find? ⟨user, POOL_ENDPOINT, key⟩ = none
  | .fundPool .. => True

/-- The response reports the balance as it is in the database. -/
def ReportsTruly (cmd : BalanceCommand) (body : Body) (db : Database) : Prop :=
  ∃ id a, cmd.account db = some id ∧ db.accounts.find? id = some a ∧
    body.int? cmd.field = some a.balanceMinor

/-- The lien has nothing to take of a refund: the sender owes nothing, or the part of the refund
    rounds to zero. -/
def Unswept (cfg : Settings) (db : Database) : BalanceCommand → Prop
  | .undo id user _ _ => ∀ hold, db.transfers.find? id = some hold → db.owed user = 0 ∨
      hold.amountMinor * cfg.overdraftLienSweepBasisPoints / 10000 = 0
  | _ => True

end BalanceCommand

/-! ### One command after the other -/

section Commands

variable {c : Ctx} {d : Deployment} {db db' : Database} {body : Body} {p : Posting}

theorem Invariant.owed_nonneg {cfg : Settings} {y : Crypto} {k : Config} (h : Invariant cfg y k)
    (u : Ulid) : 0 ≤ k.db.owed u := by
  apply Table.sum_nonneg
  intro l hl
  split
  · exact (h.lending.loan l hl).nonneg
  · exact Int.le_refl 0

theorem Sent.reportsTruly {x : Sending} {a : AccountRow} {o : Option Draw}
    (h : Sent c x db db' body a o p) : (BalanceCommand.send x).ReportsTruly body db' := by
  obtain ⟨now, db₁, db₂, tasks, records, -, hheld, rfl⟩ := h.runs
  have hfound : db₂.accounts.find? x.account =
      some (p.sender.moved (-x.amount.minor) p.stamp) := by
    have hne : x.account ≠ PENDING_SETTLEMENT_ACCOUNT_ID := hheld.parties_ne
    rw [hheld.accounts, hheld.valid.find?_accountsAfter_eq, hheld.cmd_eq]
    exact (if_neg hne).trans (if_pos rfl)
  refine ⟨x.account, _, rfl, hfound, ?_⟩
  rw [h.body_eq]
  show some (p.sender.balanceMinor - p.cmd.amount.minor) = _
  rw [hheld.cmd_eq]
  rfl

/-- The hold and its sender's account are there, the hold latched as it is. -/
theorem Undone.kept {u : Ulid} {req : Option String} {hold : TransferRow}
    (h : Undone c u req db db' body hold p) :
    (db'.transfers.find? hold.id).map TransferRow.senderAccountId = some hold.senderAccountId ∧
      db'.OwnedBy hold.senderAccountId u := by
  obtain ⟨row, db₁, tasks, records, -, hcollected, rfl⟩ := h.runs
  obtain ⟨logs, db₂, x, -, -, hswept, rfl⟩ := hcollected.swept
  have hlatched : (hold.latchedIn c row db).transfers.find? hold.id =
      some (hold.latched .refunded c.oracle.dbNow) := by
    unfold TransferRow.latchedIn
    dsimp only
    rw [Table.find?_modifyAt, if_pos rfl, h.found]
    rfl
  have huntouched := (Posting.untouched p (hold.latchedIn c row db) logs _).trans hswept.untouched
  refine ⟨?_, huntouched.owners _ _ h.owner⟩
  show (db₂.transfers.find? hold.id).map _ = _
  rw [huntouched.transfers _ _ hlatched]
  rfl

/-- An undo reports what the refund brought; the lien takes the smaller of its budget and the
    sender's debt of it. -/
theorem Undone.reportsTruly_iff {u : Ulid} {key : String} {req : Option String} {hold : TransferRow}
    (h : Undone c u req db db' body hold p) :
    (BalanceCommand.undo hold.id u key req).ReportsTruly body db' ↔
      (BalanceCommand.undo hold.id u key req).Unswept c.settings db := by
  obtain ⟨haccount, hkept⟩ := h.kept
  obtain ⟨row, db₁, tasks, records, hinv, hcollected, hdb'⟩ := h.runs
  have hv := hcollected.valid
  have hcmd := hcollected.cmd_eq
  obtain ⟨b, hb, hbt, hbu⟩ := h.owner
  have hreceiver : p.receiver = b := by
    have hfound := hv.receiver_found
    rw [hcmd] at hfound
    exact Option.some.inj (hfound.symm.trans hb)
  obtain ⟨repayments, hexact⟩ := hcollected.sweepsExactly hinv rfl (hreceiver ▸ hbt) (hreceiver ▸ hbu)
  have hbefore : balanceOf db.accounts hold.senderAccountId = b.balanceMinor := balanceOf_of_find? hb
  have hafter : balanceOf db'.accounts hold.senderAccountId = b.balanceMinor + hold.amountMinor -
      min (hold.amountMinor * c.settings.overdraftLienSweepBasisPoints / 10000) (db.owed u) := by
    have hbalance := hexact.kept.1
    rw [hexact.total] at hbalance
    rw [hdb', ← hbefore]
    exact hbalance
  have hreported : body.int? "senderBalanceMinor" = some (b.balanceMinor + hold.amountMinor) := by
    rw [h.body_eq]
    show some (p.receiver.balanceMinor + p.cmd.amount.minor) = _
    rw [hcmd, hreceiver]
    rfl
  have hbudget : 0 ≤ hold.amountMinor * c.settings.overdraftLienSweepBasisPoints / 10000 := by
    have hpos := hv.amount_pos
    rw [hcmd] at hpos
    have hamount : 0 ≤ hold.amountMinor := Int.le_of_lt hpos
    exact Int.ediv_nonneg (Int.mul_nonneg hamount (Int.natCast_nonneg _)) (by decide)
  have howed : 0 ≤ db.owed u := hinv.owed_nonneg u
  constructor
  · rintro ⟨id, a, hid, ha, hint⟩ hold' hf'
    cases h.found.symm.trans hf'
    obtain rfl : hold.senderAccountId = id := Option.some.inj (haccount.symm.trans hid)
    have hbalance : balanceOf db'.accounts hold.senderAccountId = a.balanceMinor := balanceOf_of_find? ha
    have hequal : b.balanceMinor + hold.amountMinor = a.balanceMinor :=
      Option.some.inj (hreported.symm.trans hint)
    omega
  · intro hunswept
    have hzero := hunswept hold h.found
    obtain ⟨a, ha, -⟩ := hkept
    have hbalance : a.balanceMinor = _ := (balanceOf_of_find? ha).symm.trans hafter
    refine ⟨hold.senderAccountId, a, haccount, ha, hreported.trans ?_⟩
    rw [hbalance]
    congr 1
    omega

/-- A new pool has what was paid in. -/
theorem PoolRun.reportsTruly {triple : IdempotencyTriple} {u : Ulid} {amount : Money} {key : String}
    {req : Option String} {s s' s₁ s₂ : Session} {a : AccountRow} {pool : PoolRow}
    {funding : TransferResult} {rs : List IdempotencyRow}
    (h : PoolRun c triple u amount req s s' body a pool funding s₁ s₂)
    (hinv : Invariant c.settings c.crypto ⟨⟨.none, none, rs⟩, s₁.db⟩)
    (hkey : ∀ t, t.endpoint = "INTERNAL:/overdraft/fund" → t.key = "pool-fund:" ++ pool.id.text →
      s₁.db.idempotencyRecords.find? t = none) :
    (BalanceCommand.createPool u amount key req).ReportsTruly body s'.db := by
  obtain ⟨account, hfund⟩ := h.funds
  obtain ⟨logs, id, b, now, e'⟩ := h.answers
  obtain ⟨htype, hzero, hid⟩ := h.account_eq
  have hfirst := hkey (openCommand c u account pool amount req).triple rfl rfl
  obtain ⟨p, -, hcollected⟩ := execute_collects hinv.standing
    (fun row hrow => by cases hfirst.symm.trans hrow) hfund
  have hnew : s₁.db.accounts.find? pool.poolAccountId = some a := by
    rw [h.opened, ← hid]
    exact Table.find?_push_self h.account_fresh
  have hv := hcollected.valid
  have hcmd := hcollected.cmd_eq
  have hreceiver : p.receiver = a := by
    have hfound := hv.receiver_found
    rw [hcmd] at hfound
    exact Option.some.inj (hfound.symm.trans hnew)
  have hmoved := hcollected.moved (lienTakes_of_type (by rw [hreceiver, htype]; nofun))
  have hafter : s₂.db.accounts.find? pool.poolAccountId = some (a.moved amount.minor p.stamp) := by
    rw [hmoved.accounts, hv.find?_accountsAfter_eq, hcmd, hreceiver]
    exact if_pos rfl
  refine ⟨pool.poolAccountId, _, ?_, by rw [e']; exact hafter, ?_⟩
  · have hpools : s'.db.overdraftPools = s.db.overdraftPools.push pool := by
      rw [e']
      exact (execute_pools hfund).trans (by rw [h.opened])
    show (SqlOverdraftRepository.poolOfSponsor s'.db u).map _ = _
    have hfirst : (s.db.overdraftPools.rows.find? fun p => decide (p.sponsorUserId = u)) = none :=
      h.first_pool
    unfold SqlOverdraftRepository.poolOfSponsor
    rw [hpools, Table.rows_push h.pool_fresh, List.find?_append, hfirst]
    simp [h.sponsor]
  · rw [h.body_eq]
    show some amount.minor = some (a.balanceMinor + amount.minor)
    rw [hzero, Int.zero_add]

/-- A top-up reads the account of the pool when everything is posted. -/
theorem OverdraftService.fundPool_reportsTruly {o : Oracle} {u : Ulid} {amount : Money} {key : String}
    {req : Option String} {s s' : Session} (hinv : s.db.Inv d)
    (h : OverdraftService.fundPool (d.ctx o) u amount key req s = .ok body s') :
    (BalanceCommand.fundPool u amount key req).ReportsTruly body s'.db := by
  have hsteps := OverdraftService.fundPool_steps
    (@licence_covers (d.ctx o) s.db (.fundPool u "" amount key req) .overdraftFund rfl) h
  have hch : Chart s'.db := (hinv.steps hsteps (licence_sound _ _ _)).chart
  obtain ⟨found, s₁, h₁, h⟩ := bind_ok.1 h
  obtain ⟨rfl, rfl⟩ := readDb_ok.1 h₁
  obtain ⟨pool, s₂, h₂, h⟩ := bind_ok.1 h
  obtain ⟨hpool, rfl⟩ := orRaise_ok.1 h₂
  obtain ⟨account, s₃, h₃, h⟩ := bind_ok.1 h
  obtain ⟨rfl, -⟩ := SqlAccountRepository.getByUserId_ok h₃
  obtain ⟨sponsor, s₄, h₄, h⟩ := bind_ok.1 h
  obtain ⟨-, rfl⟩ := orRaise_ok.1 h₄
  obtain ⟨transfer, s₅, h₅, h⟩ := bind_ok.1 h
  obtain ⟨poolAccount, s₆, h₆, h⟩ := bind_ok.1 h
  obtain ⟨rfl, rfl⟩ := readDb_ok.1 h₆
  obtain ⟨rfl, rfl⟩ := pure_ok.1 h
  have hpools := execute_pools h₅
  have hfound := (Option.filter_eq_some_iff.1 hpool).1
  have hmem : pool ∈ s₅.db.overdraftPools.rows := by
    rw [hpools]
    exact List.mem_of_find?_eq_some hfound
  obtain ⟨a, ha, -⟩ := hch.pools pool hmem
  refine ⟨pool.poolAccountId, a, ?_, ha, ?_⟩
  · have hsame : SqlOverdraftRepository.poolOfSponsor s₅.db u = some pool := by
      unfold SqlOverdraftRepository.poolOfSponsor
      rw [hpools]
      exact hfound
    show (SqlOverdraftRepository.poolOfSponsor s₅.db u).map _ = _
    rw [hsame]
    rfl
  · show some ((((s₅.db.accounts.find? pool.poolAccountId).map AccountRow.toDomain).map fun b =>
      b.balance.minor).getD 0) = _
    rw [ha]
    rfl

/-- The key that funds a new pool is unused: it names the pool. -/
theorem OverdraftService.createPool_reportsTruly {o : Oracle} {u : Ulid} {amount : Money}
    {key : String} {req : Option String} {s s' : Session} (hinv : s.db.Inv d)
    (hkeyed : KeyedBy "INTERNAL:/overdraft/fund" FundKeyed s.db)
    (hfirst : s.db.idempotencyRecords.find? ⟨u, POOL_ENDPOINT, key⟩ = none)
    (h : OverdraftService.createPool (d.ctx o) u amount key req s = .ok body s') :
    (BalanceCommand.createPool u amount key req).ReportsTruly body s'.db := by
  unfold OverdraftService.createPool at h
  obtain ⟨now, s₀, e₀, hk⟩ := shell_first hfirst h
  obtain ⟨a, pool, funding, s₁, s₂, hrun⟩ := OverdraftService.createPoolReserved_ok hk
  obtain ⟨row, hinv₁⟩ := hrun.invariant (c := d.ctx o) hinv hfirst e₀
  refine hrun.reportsTruly hinv₁ ?_
  intro t hend htkey
  have hne : t ≠ ⟨u, POOL_ENDPOINT, key⟩ := by
    rintro rfl
    exact absurd hend (show POOL_ENDPOINT ≠ _ by decide)
  have hold : s₁.db.idempotencyRecords.find? t = s.db.idempotencyRecords.find? t := by
    rw [hrun.opened, e₀]
    exact (Table.find?_push hfirst t).trans (if_neg hne.symm)
  rw [hold]
  by_contra hused
  obtain ⟨r, hr⟩ := Option.ne_none_iff_exists'.1 hused
  obtain rfl : r.triple = t := Table.key_of_find? hr
  obtain ⟨pool', hname, hsome⟩ := hkeyed r (Table.mem_of_find? hr) hend
  have hsame : pool' = pool.id :=
    Ulid.text_injective ((String.append_right_inj _).1 (hname.symm.trans htkey))
  have hfresh : s.db.overdraftPools.find? pool.id = none := by
    have hpool := hrun.pool_fresh
    rw [e₀] at hpool
    exact hpool
  rw [hsame, hfresh] at hsome
  cases hsome

/-- A send under an unused key, after a check that changes no account. -/
theorem Sending.run_reportsTruly {o : Oracle} {x : Sending} {s s' : Session} (hinv : s.db.Inv d)
    (hkeyed : KeyedBy UndoableTransferService.UNDO_HOLD_ENDPOINT (HoldKeyed d.crypto) s.db)
    (hfirst : (BalanceCommand.send x).FirstTime d.crypto s.db)
    (h : x.run (d.ctx o) s = .ok body s') : (BalanceCommand.send x).ReportsTruly body s'.db := by
  obtain ⟨htype, hunused, hapart⟩ := hfirst
  obtain ⟨a, _, _, hsent⟩ := Sending.sent hinv htype hunused
    (Sending.hold_unused hkeyed hunused hapart) h
  exact hsent.reportsTruly

end Commands

/-! ### Every command -/

/-- Commands read nothing of the users. -/
theorem BalanceCommand.FirstTime.users {y : Crypto} {db : Database} {cmd : BalanceCommand}
    (users : Table UserRow.id) (h : cmd.FirstTime y db) :
    cmd.FirstTime y { db with users := users } := by
  cases cmd <;> exact h

theorem BalanceCommand.unswept_users {cfg : Settings} {db : Database} {cmd : BalanceCommand}
    {users : Table UserRow.id} : cmd.Unswept cfg { db with users := users } ↔ cmd.Unswept cfg db := by
  cases cmd <;> exact Iff.rfl

theorem BalanceCommand.reportsTruly_iff {d : Deployment} {o : Oracle} {cmd : BalanceCommand}
    {s s' : Session} {body : Body} (hinv : s.db.Inv d)
    (hholds : KeyedBy UNDO_HOLD_ENDPOINT (HoldKeyed d.crypto) s.db)
    (hfunds : KeyedBy "INTERNAL:/overdraft/fund" FundKeyed s.db)
    (hfirst : cmd.FirstTime d.crypto s.db) (h : cmd.run (d.ctx o) s = .ok body s') :
    cmd.ReportsTruly body s'.db ↔ cmd.Unswept d.settings s.db := by
  cases cmd with
  | send x => exact iff_of_true (Sending.run_reportsTruly hinv hholds hfirst h) trivial
  | undo id u key req =>
    simp only [BalanceCommand.run] at h
    obtain ⟨hold, p, rfl, hundone⟩ := undo_undone hinv hfirst h
    exact hundone.reportsTruly_iff
  | createPool u amount key req =>
    exact iff_of_true (OverdraftService.createPool_reportsTruly hinv hfunds hfirst h) trivial
  | fundPool u amount key req =>
    exact iff_of_true (OverdraftService.fundPool_reportsTruly hinv h) trivial

/-- In every reachable database, a command that is no replay reports the committed balance of its
    account, unless it is an undo whose refund is swept. -/
theorem reported_balance_true_iff_unswept (d : Deployment) (now : Time) (calls : List Call)
    (o : Oracle) {α : Type} (check : Tx α) (v : α) (s s' : Session) (cmd : BalanceCommand) (body : Body) :
    let db := serveAll d calls (migrated now)
    check (begin db) = .ok v s → SameButUsers (begin db) s → cmd.FirstTime d.crypto db →
    (check >>= fun _ => cmd.run (d.ctx o)) (begin db) = .ok body s' →
    (cmd.ReportsTruly body s'.db ↔ cmd.Unswept d.settings db) := by
  intro db hcheck hsame hfirst hok
  rw [bind_of_ok hcheck] at hok
  obtain ⟨users, hu, hs⟩ := hsame
  have hs : s.db = { db with users := users } := hs
  have hinv : s.db.Inv d := by
    rw [hs]
    exact (serveAll_inv d now calls).users o hu
  have hholds : KeyedBy UNDO_HOLD_ENDPOINT (HoldKeyed d.crypto) s.db := by
    rw [hs]
    exact serveAll_holdsKeyed d now calls
  have hfunds : KeyedBy "INTERNAL:/overdraft/fund" FundKeyed s.db := by
    rw [hs]
    exact serveAll_fundsKeyed d now calls
  have hfirst : cmd.FirstTime d.crypto s.db := by
    rw [hs]
    exact hfirst.users users
  have hiff := BalanceCommand.reportsTruly_iff hinv hholds hfunds hfirst hok
  rw [hs] at hiff
  exact hiff.trans BalanceCommand.unswept_users

/-- A send that draws on a pool reports what the hold left. -/
theorem borrowing_reports_committed_balance :
    let db := serveAll Sample.lender Sample.pooled (migrated Sample.start)
    ∃ body s', Sample.borrowing.run (Sample.lender.ctx (Sample.oracle 6 Sample.start)) (begin db) =
      .ok body s' ∧ (BalanceCommand.send Sample.borrowing).ReportsTruly body s'.db := by
  have hreports := @reported_balance_true_iff_unswept Sample.lender Sample.start Sample.pooled
    (Sample.oracle 6 Sample.start) Unit (pure ()) ()
  have hready := Sample.pooled_mayBorrow
  generalize serveAll Sample.lender Sample.pooled (migrated Sample.start) = db at *
  obtain ⟨⟨a, ha, hat, -⟩, hkey, hapart, body, s', hok⟩ := Sample.of_mayBorrow hready
  refine ⟨body, s', hok, ?_⟩
  exact (hreports (begin db) s' (.send Sample.borrowing) body (pure_ok.2 ⟨rfl, rfl⟩)
    (Std.Refl.refl _) ⟨⟨a, ha, hat⟩, hkey, hapart⟩ hok).2 trivial

namespace Sample

/-- The undo of the send that drew on the pool. -/
def undoCommand : BalanceCommand := .undo (id 6 12) (id 2 1) "u" none

/-- Does the undo report what the account has without the repayment of its loan? -/
def misreports (db : Database) : Bool :=
  decide (db.idempotencyRecords.find? ⟨id 2 1, undoEndpoint (id 6 12), "u"⟩ = none) &&
  match undoing (begin db) with
  | .ok body s => decide (body.int? "senderBalanceMinor" = some 10010000) &&
      decide ((s.db.transfers.find? (id 6 12)).map TransferRow.senderAccountId = some (id 2 4)) &&
      decide ((s.db.accounts.find? (id 2 4)).map AccountRow.balanceMinor = some 10000000)
  | .raised _ _ => false

theorem lending_misreports : misreports (serveAll lender lending (migrated start)) = true := by
  decide +kernel

theorem of_misreports {db : Database} (h : misreports db = true) :
    undoCommand.FirstTime lender.crypto db ∧
      ∃ body s', undoing (begin db) = .ok body s' ∧
        body.int? "senderBalanceMinor" = some 10010000 ∧
        (s'.db.transfers.find? (id 6 12)).map TransferRow.senderAccountId = some (id 2 4) ∧
        (s'.db.accounts.find? (id 2 4)).map AccountRow.balanceMinor = some 10000000 := by
  obtain ⟨hfirst, h⟩ := Bool.and_eq_true_iff.1 h
  rw [decide_eq_true_eq] at hfirst
  refine ⟨hfirst, ?_⟩
  cases hout : undoing (begin db) with
  | ok body s' =>
    rw [hout, Bool.and_eq_true, Bool.and_eq_true] at h
    obtain ⟨⟨hbody, hsender⟩, hbalance⟩ := h
    exact ⟨body, s', rfl, of_decide_eq_true hbody, of_decide_eq_true hsender,
      of_decide_eq_true hbalance⟩
  | raised e s' =>
    rw [hout] at h
    cases h

end Sample

/-- The undo of a send that drew 100 on a pool reports 100100; 100000 is what the account has, since
    the lien has taken the 100 back. -/
theorem undo_reports_swept_money :
    let db := serveAll Sample.lender Sample.lending (migrated Sample.start)
    Sample.undoCommand.FirstTime Sample.lender.crypto db ∧
      ∃ body s', Sample.undoCommand.run (Sample.lender.ctx (Sample.oracle 7 Sample.start)) (begin db) =
          .ok body s' ∧
        body.int? "senderBalanceMinor" = some 10010000 ∧
        (s'.db.accounts.find? (Sample.id 2 4)).map AccountRow.balanceMinor = some 10000000 ∧
        ¬Sample.undoCommand.ReportsTruly body s'.db := by
  intro db
  have hmisreports : Sample.misreports db = true := Sample.lending_misreports
  generalize db = db at *
  obtain ⟨hfirst, body, s', hok, hbody, hsender, hbalance⟩ := Sample.of_misreports hmisreports
  refine ⟨hfirst, body, s', hok, hbody, hbalance, ?_⟩
  rintro ⟨id, a, hid, ha, hreported⟩
  obtain rfl : Sample.id 2 4 = id := Option.some.inj (hsender.symm.trans hid)
  rw [ha] at hbalance
  have hreal : a.balanceMinor = 10000000 := Option.some.inj hbalance
  have hsaid : (10010000 : Int) = a.balanceMinor := Option.some.inj (hbody.symm.trans hreported)
  omega

end MoneyMovement

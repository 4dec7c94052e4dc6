/-
  MoneyMovement/SendSpec.lean
  ===========================
  **What a send that went through has left.**

  A send is two movements at most: a draw on a pool when the balance is short,
  and the hold.  Neither is swept: a draw is part of a loan, and the account
  that holds the money is nobody's.  `Moved` is such a movement, `Covered` the
  draw with its loan or nothing, and `Sent` the whole command.
-/
import MoneyMovement.FundsErrors

namespace MoneyMovement

open Txn OverdraftService

/-! ### A movement that nothing is taken of -/

structure Moved (c : Ctx) (cmd : TransferCommand) (db db' : Database) (p : Posting) : Prop where
  cmd_eq : p.cmd = cmd
  valid : p.Valid c db
  written : ∃ logs, db' = p.completed { p.apply db with auditLogs := logs }

section Movement

variable {c : Ctx} {cmd : TransferCommand} {db db' : Database} {p : Posting}

theorem lienTakes_of_loanLeg (h : isLoanLeg cmd.kind = true) (b : AccountRow) :
    lienTakes c cmd db b = [] := if_pos h

theorem lienTakes_of_type {b : AccountRow} (h : b.accountType ≠ .user) : lienTakes c cmd db b = [] := by
  unfold lienTakes
  split
  · rfl
  · rw [sweepable, if_neg h]

theorem Collected.moved (h : Collected c cmd db db' p) (hnone : lienTakes c cmd db p.receiver = []) :
    Moved c cmd db db' p := by
  obtain ⟨logs, db₁, x, -, -, hswept, e⟩ := h.swept
  rw [hnone] at hswept
  cases hswept
  exact ⟨h.cmd_eq, h.valid, logs, e⟩

namespace Moved

theorem untouched (h : Moved c cmd db db' p) : Untouched db db' := by
  obtain ⟨logs, rfl⟩ := h.written
  exact Posting.untouched p db logs _

theorem accounts (h : Moved c cmd db db' p) : db'.accounts = p.accountsAfter db.accounts := by
  obtain ⟨logs, rfl⟩ := h.written
  rfl

theorem loans (h : Moved c cmd db db' p) : db'.overdraftLoans = db.overdraftLoans := by
  obtain ⟨logs, rfl⟩ := h.written
  rfl

theorem rows (h : Moved c cmd db db' p) : db'.transfers.rows = db.transfers.rows ++ [p.row] := by
  obtain ⟨logs, rfl⟩ := h.written
  exact Table.rows_push h.valid.transfer_fresh

theorem balanceOf (h : Moved c cmd db db' p) (id : Ulid) :
    MoneyMovement.balanceOf db'.accounts id = MoneyMovement.balanceOf db.accounts id -
      (if id = cmd.senderAccountId then cmd.amount.minor else 0) +
      (if id = cmd.receiverAccountId then cmd.amount.minor else 0) := by
  rw [h.accounts, h.valid.balanceOf_accountsAfter, h.cmd_eq]

theorem sender_found (h : Moved c cmd db db' p) :
    db.accounts.find? cmd.senderAccountId = some p.sender := h.cmd_eq ▸ h.valid.sender_found

theorem receiver_found (h : Moved c cmd db db' p) :
    db.accounts.find? cmd.receiverAccountId = some p.receiver := h.cmd_eq ▸ h.valid.receiver_found

theorem parties_ne (h : Moved c cmd db db' p) : cmd.senderAccountId ≠ cmd.receiverAccountId :=
  h.cmd_eq ▸ h.valid.parties_ne

theorem amount_pos (h : Moved c cmd db db' p) : 0 < cmd.amount.minor := h.cmd_eq ▸ h.valid.amount_pos

end Moved

end Movement

/-! ### Records of one execution -/

section Execution

variable {c : Ctx} {cmd : TransferCommand} {r : TransferResult} {p : Posting} {db db' : Database}

theorem Posting.records_completed (p : Posting) (db : Database) {triple : IdempotencyTriple}
    (hne : triple ≠ p.cmd.triple) :
    (p.completed db).idempotencyRecords.find? triple = db.idempotencyRecords.find? triple := by
  dsimp only [Posting.completed]
  rw [Table.find?_modifyAt, if_neg hne]

/-- An execution uses its own key, and those of the lien. -/
theorem Collected.records (h : Collected c cmd db db' p) {triple : IdempotencyTriple}
    (hne : triple ≠ cmd.triple) (hlien : triple.endpoint ≠ LIEN_ENDPOINT) :
    db'.idempotencyRecords.find? triple = db.idempotencyRecords.find? triple := by
  obtain ⟨logs, db₁, x, -, -, hswept, rfl⟩ := h.swept
  have hne' : triple ≠ p.cmd.triple := by
    rw [h.cmd_eq]
    exact hne
  rw [p.records_completed _ hne', hswept.records hlien]
  exact (Table.find?_push h.valid.key_fresh triple).trans (if_neg hne'.symm)

theorem execute_keys {s s' : Session} (hstanding : Standing s.db) (h : execute c cmd s = .ok r s')
    {triple : IdempotencyTriple} (hne : triple ≠ cmd.triple) (hlien : triple.endpoint ≠ LIEN_ENDPOINT) :
    s'.db.idempotencyRecords.find? triple = s.db.idempotencyRecords.find? triple := by
  rw [execute_wired] at h
  rcases TransferUseCase.execute_ok h with ⟨e, -⟩ | ⟨p, hp⟩
  · rw [e]
  · exact (hp.collected hstanding).records hne hlien

theorem Moved.records (h : Moved c cmd db db' p) {triple : IdempotencyTriple} (hne : triple ≠ cmd.triple) :
    db'.idempotencyRecords.find? triple = db.idempotencyRecords.find? triple := by
  obtain ⟨logs, rfl⟩ := h.written
  have hne' : triple ≠ p.cmd.triple := by
    rw [h.cmd_eq]
    exact hne
  rw [p.records_completed _ hne']
  exact (Table.find?_push h.valid.key_fresh triple).trans (if_neg hne'.symm)

end Execution

/-! ### The command -/

/-- The arguments of a send. -/
structure Sending where
  user : Ulid
  account : Ulid
  receiver : Ulid
  amount : Money
  key : String
  note : Option String
  requestId : Option String

namespace Sending

variable (x : Sending)

def run (c : Ctx) : Tx Body :=
  send c x.user x.account x.receiver x.amount x.key x.note x.requestId

def triple : IdempotencyTriple := ⟨x.user, SEND_ENDPOINT, x.key⟩

/-- What the sender lacks, when its balance is short. -/
def shortfall (a : AccountRow) : Int := x.amount.minor - a.balanceMinor

def drawCommand (c : Ctx) (pool : PoolRow) (n : Int) : TransferCommand :=
  OverdraftService.drawCommand c pool x.user x.account n x.amount.currency x.key x.requestId

def holdCommand (c : Ctx) : TransferCommand :=
  HoldingService.holdCommand c x.user x.account PENDING_SETTLEMENT_ACCOUNT_ID x.amount .undoHold
    .pendingUndo ("undo-hold:" ++ derivedKey c x.key) x.note x.requestId x.receiver
    UndoableTransferService.UNDO_HOLD_ENDPOINT

/-- The loan a draw makes. -/
def loan (id : Ulid) (pool : PoolRow) (transferId : Ulid) (n : Int) (now : Time) : LoanRow :=
  ⟨id, pool.id, x.user, transferId, n, n, x.amount.currency, .outstanding, now, none⟩

end Sending

/-- The first grant that covers an amount, as the accounts stand. -/
def selected (db : Database) (u : Ulid) (n : Int) : Option (GrantRow × PoolRow) :=
  selectGrant (SqlOverdraftRepository.activeGrants db u)
    (fun id => (db.accounts.find? id).map AccountRow.toDomain) n

theorem selectGrant_congr {grants : List (GrantRow × PoolRow)} {locked : Ulid → Option Account}
    (locked' : Ulid → Option Account)
    (h : ∀ g ∈ grants, locked g.2.poolAccountId = locked' g.2.poolAccountId) (n : Int) :
    selectGrant grants locked n = selectGrant grants locked' n := by
  induction grants with
  | nil => rfl
  | cons g grants ih =>
    have ih := ih fun g' hg' => h g' (List.mem_cons_of_mem _ hg')
    unfold selectGrant at ih ⊢
    rw [List.find?_cons, List.find?_cons, h g List.mem_cons_self, ih]

/-- A draw on the pool of the grant `g`, by the movement `p`, for the loan `l`. -/
structure Drawn (c : Ctx) (x : Sending) (n : Int) (db db' : Database) (g : GrantRow × PoolRow)
    (p : Posting) (l : LoanRow) : Prop where
  selected : MoneyMovement.selected db x.user n = some g
  within : n ≤ c.settings.overdraftMaxDrawMinor
  fresh : db.overdraftLoans.find? l.id = none
  loan : ∃ now, l = x.loan l.id g.2 p.transferId n now
  moved : ∃ db₁, Moved c (x.drawCommand c g.2 n) db db₁ p ∧
    db' = { db₁ with overdraftLoans := db.overdraftLoans.push l }

/-- How the sender `a` comes to have the amount. -/
inductive Covered (c : Ctx) (x : Sending) (a : AccountRow) (db : Database) :
    Database → Option Draw → Prop where
  | enough (h : x.amount.minor ≤ a.balanceMinor) : Covered c x a db db none
  | drawn {db' : Database} {g : GrantRow × PoolRow} {p : Posting} {l : LoanRow}
      (hshort : a.balanceMinor < x.amount.minor) (h : Drawn c x (x.shortfall a) db db' g p l) :
      Covered c x a db db' (some ⟨l.id, g.2.id, p.transferId, x.shortfall a⟩)

/-- The database with the key of a send reserved. -/
def Sending.reserved (c : Ctx) (x : Sending) (now : Time) (db : Database) : Database :=
  { db with
    idempotencyRecords := db.idempotencyRecords.push (SqlIdempotencyRepository.processing x.triple
      (sendFingerprint c x.account x.receiver x.amount x.note) now) }

/-- A send that went through for the sender `a`, with the hold `p`. -/
structure Sent (c : Ctx) (x : Sending) (db db' : Database) (body : Body) (a : AccountRow)
    (o : Option Draw) (p : Posting) : Prop where
  unused : db.idempotencyRecords.find? x.triple = none
  sender_found : db.accounts.find? x.account = some a
  owner : a.userId = some x.user
  body_eq : body = sendBody p.result o
  runs : ∃ now db₁ db₂ tasks records, Covered c x a (x.reserved c now db) db₁ o ∧
    Moved c (x.holdCommand c) db₁ db₂ p ∧
    db' = { db₂ with scheduledTasks := tasks, idempotencyRecords := records }

/-! ### The command, taken apart -/

section Command

variable {c : Ctx} {x : Sending} {s s' : Session} {body : Body}

/-- The run of a send once its key is reserved. -/
structure SendRun (c : Ctx) (x : Sending) (s s' : Session) (body : Body) (a : AccountRow)
    (o : Option Draw) (hold : TransferResult) (s₁ s₂ s₃ : Session) : Prop where
  sender_found : s.db.accounts.find? x.account = some a
  owner : a.userId = some x.user
  start : s₁.db = s.db
  covers : ∃ locked now, (∀ g ∈ SqlOverdraftRepository.activeGrants s₁.db x.user,
      locked g.2.poolAccountId = (s₁.db.accounts.find? g.2.poolAccountId).map AccountRow.toDomain) ∧
    coverShortfall c x.user x.account a.toDomain x.amount
      (SqlOverdraftRepository.activeGrants s₁.db x.user) locked x.key x.requestId now s₁ = .ok o s₂
  holds : UndoableTransferService.send c x.user x.account x.receiver x.amount
    ("undo-hold:" ++ derivedKey c x.key) x.note x.requestId UndoableTransferService.UNDO_HOLD_ENDPOINT
    s₂ = .ok hold s₃
  answers : ∃ id b now, s'.db = { s₃.db with
    idempotencyRecords := s₃.db.idempotencyRecords.modifyAt x.triple
      (SqlIdempotencyRepository.completedRow id 201 b now)
      (SqlIdempotencyRepository.triple_completedRow _ _ _ _) }
  body_eq : body = sendBody hold o

theorem OverdraftService.sendReserved_ok {now : Time}
    (h : sendReserved c x.triple x.user x.account x.receiver x.amount x.key x.note x.requestId now s =
      .ok body s') : ∃ a o hold s₁ s₂ s₃, SendRun c x s s' body a o hold s₁ s₂ s₃ := by
  obtain ⟨grants, s₁, h₁, h⟩ := bind_ok.1 h
  obtain ⟨rfl, rfl⟩ := readDb_ok.1 h₁
  obtain ⟨locked, s₂, h₂, h⟩ := bind_ok.1 h
  obtain ⟨e₂, hlocked⟩ := SqlAccountRepository.lockForUpdate_ok h₂
  obtain ⟨sender, s₃, h₃, h⟩ := bind_ok.1 h
  obtain ⟨hsender, rfl⟩ := orRaise_ok.1 h₃
  obtain ⟨_, s₄, h₄, h⟩ := bind_ok.1 h
  obtain ⟨howner, rfl⟩ := ensure_ok.1 h₄
  obtain ⟨o, s₅, h₅, h⟩ := bind_ok.1 h
  obtain ⟨hold, s₆, h₆, h⟩ := bind_ok.1 h
  obtain ⟨_, s₇, h₇, h⟩ := bind_ok.1 h
  obtain ⟨rfl, rfl⟩ := pure_ok.1 h
  unfold complete at h₇
  rw [hlocked _ List.mem_cons_self] at hsender
  obtain ⟨a, ha, rfl⟩ := Option.map_eq_some_iff.1 hsender
  refine ⟨a, o, hold, s₂, s₅, s₆, ha, howner, e₂, ⟨locked, now, ?_, e₂ ▸ h₅⟩, h₆,
    ⟨_, _, _, writeDb_ok h₇⟩, rfl⟩
  intro g hg
  rw [e₂] at hg ⊢
  refine hlocked _ (List.mem_cons_of_mem _ (List.mem_cons_of_mem _ ?_))
  exact List.mem_map.2 ⟨g, hg, rfl⟩

/-- A send replays, or it reserves its key and runs. -/
theorem Sending.run_ok (h : x.run c s = .ok body s') :
    s'.db = s.db ∨ s.db.idempotencyRecords.find? x.triple = none ∧ ∃ now s₀ a o hold s₁ s₂ s₃,
      s₀.db = x.reserved c now s.db ∧ SendRun c x s₀ s' body a o hold s₁ s₂ s₃ := by
  unfold Sending.run send at h
  obtain ⟨now, s₀, -, ⟨-, b, e, hk⟩ | ⟨hn, e, hk⟩⟩ := shell_cases h
  · obtain ⟨-, rfl⟩ := pure_ok.1 hk
    exact .inl e
  · obtain ⟨a, o, hold, s₁, s₂, s₃, hrun⟩ := OverdraftService.sendReserved_ok hk
    exact .inr ⟨hn, now, s₀, a, o, hold, s₁, s₂, s₃, e, hrun⟩

/-- A service's command under an unused key reserves the key and runs. -/
theorem shell_first {α : Type} {triple : IdempotencyTriple} {f : String} {v : α}
    {k : Time → Option Body → Tx α} (hfirst : s.db.idempotencyRecords.find? triple = none)
    (h : (now c >>= fun t => SqlIdempotencyRepository.reserve triple f t >>= fun decision =>
      replayBodyOrRaise decision >>= k t) s = .ok v s') : ∃ now s₁, s₁.db = { s.db with
        idempotencyRecords := s.db.idempotencyRecords.push
          (SqlIdempotencyRepository.processing triple f now) } ∧ k now none s₁ = .ok v s' := by
  obtain ⟨now, s₁, h₁, h⟩ := bind_ok.1 h
  have e₁ := (now_ok h₁).1
  obtain ⟨decision, s₂, h₂, h⟩ := bind_ok.1 h
  obtain ⟨b, s₃, h₃, h⟩ := bind_ok.1 h
  rcases SqlIdempotencyRepository.reserve_ok h₂ with ⟨rfl, -, e₂⟩ | ⟨-, row, hrow, -⟩
  · obtain ⟨rfl, rfl⟩ := pure_ok.1 h₃
    rw [e₁] at e₂
    exact ⟨now, _, e₂, h⟩
  · rw [e₁] at hrow
    cases hfirst.symm.trans hrow

/-- A send under an unused key runs. -/
theorem Sending.run_first (hfirst : s.db.idempotencyRecords.find? x.triple = none)
    (h : x.run c s = .ok body s') : ∃ now s₀ a o hold s₁ s₂ s₃,
      s₀.db = x.reserved c now s.db ∧ SendRun c x s₀ s' body a o hold s₁ s₂ s₃ := by
  unfold Sending.run send at h
  obtain ⟨now, s₀, e₀, hk⟩ := shell_first hfirst h
  obtain ⟨a, o, hold, s₁, s₂, s₃, hrun⟩ := OverdraftService.sendReserved_ok hk
  exact ⟨now, s₀, a, o, hold, s₁, s₂, s₃, e₀, hrun⟩

/-- A draw went through as a movement and a loan: a loan for an earlier draw is refused. -/
theorem OverdraftService.drawShortfall_drawn {rs : List IdempotencyRow} {sender : Account}
    {locked : Ulid → Option Account} {n : Int} {now : Time} {draw : Draw}
    (hinv : Invariant c.settings c.crypto ⟨⟨.none, none, rs⟩, s.db⟩)
    (hlocked : ∀ g ∈ SqlOverdraftRepository.activeGrants s.db x.user,
      locked g.2.poolAccountId = (s.db.accounts.find? g.2.poolAccountId).map AccountRow.toDomain)
    (h : drawShortfall c x.user x.account sender x.amount
      (SqlOverdraftRepository.activeGrants s.db x.user) locked x.key x.requestId n now s =
        .ok draw s') :
    ∃ g p l, Drawn c x n s.db s'.db g p l ∧ draw = ⟨l.id, g.2.id, p.transferId, n⟩ := by
  obtain ⟨g, s₁, h₁, h⟩ := bind_ok.1 h
  obtain ⟨hg, rfl⟩ := orRaise_ok.1 h₁
  rw [Option.filter_eq_some_iff, decide_eq_true_eq,
    selectGrant_congr (fun id => (s.db.accounts.find? id).map AccountRow.toDomain) hlocked] at hg
  obtain ⟨r, s₂, h₂, h⟩ := bind_ok.1 h
  obtain ⟨loanId, s₃, h₃, h⟩ := bind_ok.1 h
  obtain ⟨rfl, rfl⟩ := pure_ok.1 h
  obtain ⟨hn, hfresh, e₃⟩ := SqlOverdraftRepository.createLoan_ok h₃
  rw [execute_wired] at h₂
  rcases TransferUseCase.execute_ok h₂ with ⟨e₂, -, row, hrow⟩ | ⟨p, hp⟩
  · rw [e₂] at hfresh
    exact absurd (.lend hrow rfl hfresh) (hinv.no_stray rfl)
  · have hmoved : Moved c (x.drawCommand c g.2 n) s.db s₂.db p :=
      (hp.collected hinv.standing).moved (lienTakes_of_loanLeg rfl _)
    obtain rfl := hp.result
    refine ⟨g, p, x.loan loanId g.2 p.transferId n now,
      ⟨hg.1, hg.2, ?_, ⟨now, rfl⟩, s₂.db, hmoved, ?_⟩, rfl⟩
    · rw [hmoved.loans] at hn
      exact hn
    · rw [e₃, hmoved.loans]
      rfl

theorem OverdraftService.coverShortfall_covered {rs : List IdempotencyRow} {a : AccountRow}
    {locked : Ulid → Option Account} {now : Time} {o : Option Draw}
    (hinv : Invariant c.settings c.crypto ⟨⟨.none, none, rs⟩, s.db⟩)
    (hlocked : ∀ g ∈ SqlOverdraftRepository.activeGrants s.db x.user,
      locked g.2.poolAccountId = (s.db.accounts.find? g.2.poolAccountId).map AccountRow.toDomain)
    (h : coverShortfall c x.user x.account a.toDomain x.amount
      (SqlOverdraftRepository.activeGrants s.db x.user) locked x.key x.requestId now s = .ok o s') :
    Covered c x a s.db s'.db o := by
  unfold coverShortfall at h
  split at h
  · rename_i hshort
    obtain ⟨draw, s₁, h₁, h⟩ := bind_ok.1 h
    obtain ⟨rfl, rfl⟩ := pure_ok.1 h
    obtain ⟨g, p, l, hdrawn, rfl⟩ := drawShortfall_drawn hinv hlocked h₁
    exact .drawn (Int.sub_pos.1 hshort) hdrawn
  · rename_i hshort
    obtain ⟨rfl, rfl⟩ := pure_ok.1 h
    exact .enough (Int.not_lt.1 fun hlt => hshort (Int.sub_pos.2 hlt))

theorem SqlScheduledTaskRepository.schedule_ok {type : TaskType} {id : Ulid} {delay : Nat} {u : Unit}
    (h : SqlScheduledTaskRepository.schedule c type id delay s = .ok u s') :
    ∃ tasks, s'.db = { s.db with scheduledTasks := tasks } := by
  obtain ⟨taskId, s₁, h₁, h⟩ := bind_ok.1 h
  have e₁ := newUlid_ok h₁
  obtain ⟨b, s₂, h₂, h⟩ := bind_ok.1 h
  obtain ⟨-, rfl⟩ := readDb_ok.1 h₂
  split at h
  · obtain ⟨-, rfl⟩ := pure_ok.1 h
    exact ⟨s.db.scheduledTasks, e₁⟩
  · obtain ⟨-, -, e₂⟩ := insertInto_ok h
    rw [e₁] at e₂
    exact ⟨_, e₂⟩

/-- The hold is an execution; the rest is the clock. -/
theorem SendRun.hold_ok {a : AccountRow} {o : Option Draw} {hold : TransferResult} {s₁ s₂ s₃ : Session}
    (h : SendRun c x s s' body a o hold s₁ s₂ s₃) : ∃ s₄ tasks,
      execute c (x.holdCommand c) s₂ = .ok hold s₄ ∧ s₃.db = { s₄.db with scheduledTasks := tasks } := by
  obtain ⟨hold', s₄, h₄, hrest⟩ := bind_ok.1 h.holds
  obtain ⟨_, s₅, h₅, hrest⟩ := bind_ok.1 hrest
  obtain ⟨rfl, rfl⟩ := pure_ok.1 hrest
  refine ⟨s₄, ?_⟩
  unfold UndoableTransferService.startClock at h₅
  split at h₅
  · obtain ⟨-, rfl⟩ := pure_ok.1 h₅
    exact ⟨s₄.db.scheduledTasks, h₄, rfl⟩
  · obtain ⟨tasks, e⟩ := SqlScheduledTaskRepository.schedule_ok h₅
    exact ⟨tasks, h₄, e⟩

section Run

variable {rs : List IdempotencyRow} {a : AccountRow} {o : Option Draw} {hold : TransferResult}
  {s₁ s₂ s₃ : Session}

theorem SendRun.covered (h : SendRun c x s s' body a o hold s₁ s₂ s₃)
    (hinv : Invariant c.settings c.crypto ⟨⟨.none, none, rs⟩, s.db⟩) : Covered c x a s.db s₂.db o := by
  obtain ⟨locked, now, hlocked, hcover⟩ := h.covers
  rw [← h.start] at hinv ⊢
  exact coverShortfall_covered hinv hlocked hcover

/-- The invariant holds between the two movements, too. -/
theorem SendRun.invariant (h : SendRun c x s s' body a o hold s₁ s₂ s₃)
    (hinv : Invariant c.settings c.crypto ⟨⟨.none, none, rs⟩, s.db⟩) (htype : a.accountType = .user) :
    Invariant c.settings c.crypto ⟨⟨.none, none, rs⟩, s₂.db⟩ := by
  obtain ⟨locked, now, -, hcover⟩ := h.covers
  have howned : s₁.db.OwnedBy x.account x.user := by
    rw [h.start]
    exact ⟨a, h.sender_found, htype, h.owner⟩
  let request : Request := .createTransfer x.user "" "" x.amount x.note x.key x.requestId
  have hsteps := (coverShortfall_steps (L := licence c s₁.db request) rs (licence_covers rfl) howned
    hcover).1
  rw [h.start] at hsteps
  exact hinv.steps hsteps (licence_sound _ _ _)

/-- Of the keys, covering a shortfall uses at most that of the draw. -/
theorem Covered.records {db db' : Database} (h : Covered c x a db db' o) {triple : IdempotencyTriple}
    (hne : triple.endpoint ≠ "INTERNAL:/overdraft/draw") :
    db'.idempotencyRecords.find? triple = db.idempotencyRecords.find? triple := by
  cases h with
  | enough => rfl
  | drawn _ h =>
    obtain ⟨db₁, hmoved, rfl⟩ := h.moved
    apply hmoved.records
    rintro rfl
    exact hne rfl

theorem Sending.records_reserved {now : Time} {db : Database}
    (hfirst : db.idempotencyRecords.find? x.triple = none) {triple : IdempotencyTriple}
    (hne : triple ≠ x.triple) :
    (x.reserved c now db).idempotencyRecords.find? triple = db.idempotencyRecords.find? triple :=
  (Table.find?_push hfirst triple).trans (if_neg hne.symm)

theorem Sending.holdTriple_ne : (x.holdCommand c).triple ≠ x.triple := by
  intro heq
  have hend : UndoableTransferService.UNDO_HOLD_ENDPOINT = SEND_ENDPOINT :=
    congrArg IdempotencyTriple.endpoint heq
  exact absurd hend (by decide)

theorem Sending.invariant_reserved (now : Time) {db : Database}
    (hinv : Invariant c.settings c.crypto ⟨.idle, db⟩)
    (hfirst : db.idempotencyRecords.find? x.triple = none) : ∃ row,
      Invariant c.settings c.crypto ⟨⟨.none, none, [row]⟩, x.reserved c now db⟩ :=
  ⟨_, hinv.step (.reserve x.triple _ now hfirst) (licence_sound c db .expireDue)⟩

/-- A send under keys that nobody has used is what `Sent` says. -/
theorem Sending.sent (hinv : Invariant c.settings c.crypto ⟨.idle, s.db⟩)
    (htype : s.db.HasType x.account .user)
    (hfirst : s.db.idempotencyRecords.find? x.triple = none)
    (hhold : s.db.idempotencyRecords.find? (x.holdCommand c).triple = none)
    (h : x.run c s = .ok body s') : ∃ a o p, Sent c x s.db s'.db body a o p := by
  obtain ⟨now, s₀, a, o, hold, s₁, s₂, s₃, e₀, hrun⟩ := Sending.run_first hfirst h
  obtain ⟨row, hinv₀⟩ := Sending.invariant_reserved (x := x) now hinv hfirst
  rw [← e₀] at hinv₀
  have hcovered := hrun.covered hinv₀
  have ha : s.db.accounts.find? x.account = some a := by
    have := hrun.sender_found
    rw [e₀] at this
    exact this
  have hat : a.accountType = .user := by
    obtain ⟨a', ha', hat'⟩ := htype
    cases ha.symm.trans ha'
    exact hat'
  have hinv₂ := hrun.invariant hinv₀ hat
  have hkey : s₂.db.idempotencyRecords.find? (x.holdCommand c).triple = none := by
    rw [hcovered.records (show UndoableTransferService.UNDO_HOLD_ENDPOINT ≠ _ by decide), e₀,
      Sending.records_reserved hfirst Sending.holdTriple_ne, hhold]
  obtain ⟨s₄, tasks, hexec, e₃⟩ := hrun.hold_ok
  obtain ⟨p, rfl, hcollected⟩ := execute_collects hinv₂.standing
    (fun row hrow => by cases hkey.symm.trans hrow) hexec
  obtain ⟨pending, hpending, hptype⟩ := hinv₂.chart.pending
  have hreceiver : p.receiver = pending := by
    have := hcollected.valid.receiver_found
    rw [hcollected.cmd_eq] at this
    exact Option.some.inj (this.symm.trans hpending)
  have hmoved := hcollected.moved (lienTakes_of_type (by rw [hreceiver, hptype]; nofun))
  obtain ⟨id, b, now', e'⟩ := hrun.answers
  refine ⟨a, o, p, hfirst, ha, hrun.owner, hrun.body_eq, now, s₂.db, s₄.db, tasks,
    s'.db.idempotencyRecords, ?_, hmoved, ?_⟩
  · rw [← e₀]
    exact hcovered
  · rw [e', e₃]

end Run

end Command

/-! ### What it changed -/

section Effects

variable {c : Ctx} {x : Sending} {db db' : Database} {body : Body} {a : AccountRow} {o : Option Draw}
  {p : Posting} {n : Int} {g : GrantRow × PoolRow} {l : LoanRow}

theorem Drawn.balanceOf (h : Drawn c x n db db' g p l) (id : Ulid) :
    MoneyMovement.balanceOf db'.accounts id = MoneyMovement.balanceOf db.accounts id -
      (if id = g.2.poolAccountId then n else 0) + (if id = x.account then n else 0) := by
  obtain ⟨db₁, hmoved, rfl⟩ := h.moved
  exact hmoved.balanceOf id

/-- The sender pays the amount into the holding account, and has borrowed what it lacked. -/
theorem Sent.effects (h : Sent c x db db' body a o p) :
    x.amount.minor ≤ a.balanceMinor ∧ o = none ∧ db'.overdraftLoans = db.overdraftLoans ∧
      (∀ id, balanceOf db'.accounts id = balanceOf db.accounts id -
        (if id = x.account then x.amount.minor else 0) +
        (if id = PENDING_SETTLEMENT_ACCOUNT_ID then x.amount.minor else 0)) ∨
    a.balanceMinor < x.amount.minor ∧ ∃ g l t now,
      o = some ⟨l.id, g.2.id, t, x.shortfall a⟩ ∧ selected db x.user (x.shortfall a) = some g ∧
      x.shortfall a ≤ c.settings.overdraftMaxDrawMinor ∧
      l = x.loan l.id g.2 t (x.shortfall a) now ∧ db.overdraftLoans.find? l.id = none ∧
      db'.overdraftLoans = db.overdraftLoans.push l ∧
      ∀ id, balanceOf db'.accounts id = balanceOf db.accounts id -
        (if id = g.2.poolAccountId then x.shortfall a else 0) +
        (if id = x.account then x.shortfall a else 0) -
        (if id = x.account then x.amount.minor else 0) +
        (if id = PENDING_SETTLEMENT_ACCOUNT_ID then x.amount.minor else 0) := by
  obtain ⟨now, db₁, db₂, tasks, records, hcovered, hheld, rfl⟩ := h.runs
  cases hcovered with
  | enough hle => exact .inl ⟨hle, rfl, hheld.loans, hheld.balanceOf⟩
  | @drawn _ g q l hshort hdrawn =>
    obtain ⟨now', hl⟩ := hdrawn.loan
    refine .inr ⟨hshort, g, l, q.transferId, now', rfl, hdrawn.selected, hdrawn.within, hl,
      hdrawn.fresh, ?_, ?_⟩
    · obtain ⟨db₃, -, rfl⟩ := hdrawn.moved
      exact hheld.loans
    · intro id
      refine (hheld.balanceOf id).trans ?_
      rw [hdrawn.balanceOf]
      rfl

theorem Sent.pools (h : Sent c x db db' body a o p) : db'.overdraftPools = db.overdraftPools := by
  obtain ⟨now, db₁, db₂, tasks, records, hcovered, hheld, rfl⟩ := h.runs
  refine hheld.untouched.pools.trans ?_
  cases hcovered with
  | enough => rfl
  | drawn _ hdrawn =>
    obtain ⟨db₃, hmoved, rfl⟩ := hdrawn.moved
    exact hmoved.untouched.pools

end Effects

end MoneyMovement

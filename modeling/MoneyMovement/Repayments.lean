/-
  MoneyMovement/Repayments.lean
  =============================
  **What a credit that went through has left.**

  `Repaid` is one repayment of the lien, written out: the movement, the loan's
  row and the repayment's.  `SweptBy` chains the repayments of one credit, each
  with what it took, and `Collected` is the whole execution: the movement, the
  repayments, the completed key.  `execute_collects` says that a successful
  execution that is not a replay is one of these, with the takes the waterfall
  gives for the receiver's loans.  What the chain does to balances and debts is
  linear in the takes.
-/
import MoneyMovement.Stranding
import MoneyMovement.Waterfall

namespace MoneyMovement

open Txn OverdraftService

/-! ### One repayment -/

/-- The credit a repayment is taken from, and the account it is taken out of. -/
structure Lien where
  transferId : Ulid
  receiverId : Ulid
  userId : Ulid
  currency : Currency
  requestId : Option String

/-- The command that takes an amount for a loan. -/
def Lien.command (c : Ctx) (x : Lien) (l : LoanRow × PoolRow) (n : Int) : TransferCommand :=
  repayCommand c x.transferId x.receiverId x.userId x.currency x.requestId l.1 l.2 n

/-- The key of that command. -/
def Lien.triple (x : Lien) (l : LoanRow × PoolRow) : IdempotencyTriple :=
  ⟨x.userId, LIEN_ENDPOINT, "lien:" ++ x.transferId.text ++ ":" ++ l.1.id.text⟩

/-- What is due on a loan. -/
def due (l : LoanRow × PoolRow) : Int := l.1.outstandingMinor

structure Repaid (c : Ctx) (x : Lien) (l : LoanRow × PoolRow) (n : Int) (db db' : Database)
    (p : Posting) : Prop where
  cmd_eq : p.cmd = x.command c l n
  valid : p.Valid c db
  repays : Repays db p l.1 l.2
  written : ∃ logs repayments now, db' = { p.apply db with
    auditLogs := logs
    idempotencyRecords := (db.idempotencyRecords.push p.reservation).modifyAt p.cmd.triple
      (SqlIdempotencyRepository.completedRow p.transferId 201 p.result.toResponse p.now)
      (SqlIdempotencyRepository.triple_completedRow _ _ _ _)
    overdraftLoans := db.overdraftLoans.modifyAt l.1.id
      (SqlOverdraftRepository.repaid (max 0 (l.1.outstandingMinor - n)) now)
      (SqlOverdraftRepository.id_repaid _ _)
    overdraftRepayments := repayments }

section Execution

variable {c : Ctx} {cmd : TransferCommand} {exec : TransferCommand → Tx TransferResult}
  {r : TransferResult} {p : Posting} {db db' : Database} {s s' : Session}

/-- The database once the movement's key is completed. -/
def Posting.completed (p : Posting) (db : Database) : Database :=
  { db with
    idempotencyRecords := db.idempotencyRecords.modifyAt p.cmd.triple
      (SqlIdempotencyRepository.completedRow p.transferId 201 p.result.toResponse p.now)
      p.triple_answered }

/-- A loan leg is not swept: the movement and its key are all it writes. -/
theorem Executed.of_loanLeg (h : Executed exec c cmd db db' r p) (hk : isLoanLeg cmd.kind = true) :
    ∃ logs, db' = p.completed { p.apply db with auditLogs := logs } := by
  obtain ⟨s₁, s₂, logs, e₁, h₁, e₂⟩ := h.runs
  simp only [afterCredit, hk, if_true] at h₁
  obtain ⟨-, rfl⟩ := pure_ok.1 h₁
  rw [e₁, ← h.cmd_eq] at e₂
  exact ⟨logs, e₂⟩

/-- A key that no finished request has used is not replayed. -/
theorem execute_first (hkey : ∀ row, s.db.idempotencyRecords.find? cmd.triple = some row →
      row.status ≠ .completed) (h : execute c cmd s = .ok r s') :
    ∃ p, Executed (execute c) c cmd s.db s'.db r p := by
  rw [execute_wired] at h
  rcases TransferUseCase.execute_ok h with ⟨-, -, row, hrow⟩ | hp
  · exact absurd hrow.completed (hkey row hrow.found)
  · exact hp

/-- One round of the loop that went through. -/
theorem OverdraftService.repayOne_ok {x : Lien} {l : LoanRow × PoolRow} {n : Int} {v : Unit}
    (hl : Repayable s.db x.userId l) (hn : n ≤ due l) (ho : s.db.OwnedBy x.receiverId x.userId)
    (hin : (s.db.transfers.find? x.transferId).isSome = true)
    (hkey : ∀ row, s.db.idempotencyRecords.find? (x.triple l) = some row → row.status ≠ .completed)
    (h : repayOne (execute c) c x.transferId x.receiverId x.userId x.currency x.requestId l.1 l.2 n s =
      .ok v s') : ∃ p, Repaid c x l n s.db s'.db p := by
  obtain ⟨hloan, hpool, hout, hborrower⟩ := hl
  obtain ⟨r, s₁, h₁, h⟩ := bind_ok.1 h
  obtain ⟨now, s₂, h₂, h⟩ := bind_ok.1 h
  have e₂ := (now_ok h₂).1
  obtain ⟨p, hp⟩ := execute_first hkey h₁
  obtain ⟨logs, e₁⟩ := hp.of_loanLeg rfl
  obtain ⟨a, ha, hat, hau⟩ := ho
  have hsender : p.sender = a := by
    have := hp.valid.sender_found
    rw [hp.cmd_eq] at this
    exact Option.some.inj (this.symm.trans ha)
  have hrepays : Repays s.db p l.1 l.2 := by
    refine ⟨?_, ?_, ?_, hloan, hpool, hout, ?_, ?_, hsender ▸ hat, ?_, ?_⟩
    · rw [hp.cmd_eq]
      rfl
    · rw [hp.cmd_eq]
      rfl
    · rw [hp.cmd_eq]
      rfl
    · rw [hp.cmd_eq]
      exact hn
    · rw [hp.cmd_eq]
      rfl
    · rw [hsender, hau, hborrower]
    · rw [hp.cmd_eq]
      exact ⟨x.transferId, l.1.id.text, hin, rfl⟩
  have hloan₂ : s₂.db.overdraftLoans.find? l.1.id = some l.1 := by
    rw [e₂, e₁]
    exact hloan
  obtain ⟨row, -, -, -, -, -, e₃⟩ := SqlOverdraftRepository.applyRepayment_ok hloan₂ hout h
  rw [e₂, e₁] at e₃
  exact ⟨p, hp.cmd_eq, hp.valid, hrepays, logs, _, now, e₃⟩

end Execution

/-! ### What one repayment changes -/

/-- What is still owed on a loan. -/
def owing (loans : Table LoanRow.id) (id : Ulid) : Int :=
  ((loans.find? id).map LoanRow.outstandingMinor).getD 0

theorem owing_of_find? {loans : Table LoanRow.id} {id : Ulid} {l : LoanRow}
    (h : loans.find? id = some l) : owing loans id = l.outstandingMinor := by
  rw [owing, h]
  rfl

namespace Repaid

variable {c : Ctx} {x : Lien} {l : LoanRow × PoolRow} {n : Int} {db db' : Database} {p : Posting}

theorem triple_eq (h : Repaid c x l n db db' p) : p.cmd.triple = x.triple l := by
  rw [h.cmd_eq]
  rfl

theorem le_due (h : Repaid c x l n db db' p) : n ≤ due l := by
  have := h.repays.covered
  rw [h.cmd_eq] at this
  exact this

theorem untouched (h : Repaid c x l n db db' p) : Untouched db db' := by
  obtain ⟨logs, repayments, now, rfl⟩ := h.written
  have hpost := Posting.untouched p db logs db.idempotencyRecords
  exact ⟨rfl, rfl, rfl, rfl, rfl, hpost.transfers, hpost.owners⟩

theorem users (h : Repaid c x l n db db' p) : db'.users = db.users := by
  obtain ⟨logs, repayments, now, rfl⟩ := h.written
  rfl

/-- Only the repayment's own key is used. -/
theorem records (h : Repaid c x l n db db' p) {triple : IdempotencyTriple} (hne : triple ≠ x.triple l) :
    db'.idempotencyRecords.find? triple = db.idempotencyRecords.find? triple := by
  obtain ⟨logs, repayments, now, rfl⟩ := h.written
  dsimp only
  rw [Table.find?_modifyAt, h.triple_eq, if_neg hne, Table.find?_push h.valid.key_fresh, if_neg]
  show p.cmd.triple ≠ triple
  rw [h.triple_eq]
  exact hne.symm

theorem rows (h : Repaid c x l n db db' p) : db'.transfers.rows = db.transfers.rows ++ [p.row] := by
  obtain ⟨logs, repayments, now, rfl⟩ := h.written
  exact Table.rows_push h.valid.transfer_fresh

theorem accounts (h : Repaid c x l n db db' p) : db'.accounts = p.accountsAfter db.accounts := by
  obtain ⟨logs, repayments, now, rfl⟩ := h.written
  rfl

theorem balanceOf (h : Repaid c x l n db db' p) (id : Ulid) :
    MoneyMovement.balanceOf db'.accounts id = MoneyMovement.balanceOf db.accounts id -
      (if id = x.receiverId then n else 0) + (if l.2.poolAccountId = id then n else 0) := by
  have hpool : (if l.2.poolAccountId = id then n else 0) = if id = l.2.poolAccountId then n else 0 := by
    simp only [eq_comm]
  rw [h.accounts, h.valid.balanceOf_accountsAfter, h.cmd_eq, hpool]
  rfl

theorem debts (h : Repaid c x l n db db' p) : ∃ now,
    db'.overdraftLoans = db.overdraftLoans.modifyAt l.1.id
      (SqlOverdraftRepository.repaid (l.1.outstandingMinor - n) now)
      (SqlOverdraftRepository.id_repaid _ _) := by
  have hle : n ≤ l.1.outstandingMinor := h.le_due
  have hmax : max 0 (l.1.outstandingMinor - n) = l.1.outstandingMinor - n := by omega
  obtain ⟨logs, repayments, now, rfl⟩ := h.written
  refine ⟨now, ?_⟩
  dsimp only
  rw [hmax]

theorem loans (h : Repaid c x l n db db' p) (id : Ulid) : ∃ now,
    db'.overdraftLoans.find? id = if id = l.1.id then
      some (SqlOverdraftRepository.repaid (l.1.outstandingMinor - n) now l.1)
    else db.overdraftLoans.find? id := by
  obtain ⟨now, e⟩ := h.debts
  refine ⟨now, ?_⟩
  rw [e, Table.find?_modifyAt, h.repays.loan_found]
  rfl

theorem owing (h : Repaid c x l n db db' p) (id : Ulid) :
    MoneyMovement.owing db'.overdraftLoans id = MoneyMovement.owing db.overdraftLoans id -
      if l.1.id = id then n else 0 := by
  obtain ⟨now, hloans⟩ := h.loans id
  rw [MoneyMovement.owing, hloans]
  by_cases hid : id = l.1.id
  · rw [if_pos hid, if_pos hid.symm, hid, owing_of_find? h.repays.loan_found]
    rfl
  · rw [if_neg hid, if_neg (Ne.symm hid), Int.sub_zero]
    rfl

/-- The other loans can be repaid as before. -/
theorem repayable (h : Repaid c x l n db db' p) {u : Ulid} {l' : LoanRow × PoolRow}
    (hne : l'.1.id ≠ l.1.id) (hl : Repayable db u l') : Repayable db' u l' := by
  obtain ⟨hloan, hpool, hrest⟩ := hl
  obtain ⟨now, hloans⟩ := h.loans l'.1.id
  refine ⟨?_, ?_, hrest⟩
  · rw [hloans, if_neg hne, hloan]
  · rw [h.untouched.pools, hpool]

end Repaid

/-! ### The repayments of one credit -/

inductive SweptBy (c : Ctx) (x : Lien) :
    List ((LoanRow × PoolRow) × Int) → Database → Database → Prop where
  | nil {db : Database} : SweptBy c x [] db db
  | cons {l : LoanRow × PoolRow} {n : Int} {takes : List ((LoanRow × PoolRow) × Int)}
      {db db₁ db₂ : Database} {p : Posting} (h : Repaid c x l n db db₁ p)
      (ht : SweptBy c x takes db₁ db₂) : SweptBy c x ((l, n) :: takes) db db₂

theorem Lien.triple_inj {x : Lien} {l l' : LoanRow × PoolRow} (h : x.triple l = x.triple l') :
    l.1.id = l'.1.id :=
  Ulid.text_injective ((String.append_right_inj _).1 (congrArg IdempotencyTriple.key h))

/-- What the loop relies on for the loans ahead of it. -/
structure Liable (x : Lien) (loans : List (LoanRow × PoolRow)) (db : Database) : Prop where
  repayable : ∀ l ∈ loans, Repayable db x.userId l
  nodup : (loans.map fun l => l.1.id).Nodup
  owner : db.OwnedBy x.receiverId x.userId
  incoming : (db.transfers.find? x.transferId).isSome = true
  keys : ∀ l ∈ loans, ∀ row, db.idempotencyRecords.find? (x.triple l) = some row →
    row.status ≠ .completed

/-- The loans behind the one just repaid. -/
theorem Liable.next {c : Ctx} {x : Lien} {l : LoanRow × PoolRow} {loans : List (LoanRow × PoolRow)}
    {n : Int} {db db' : Database} {p : Posting} (h : Liable x (l :: loans) db)
    (hp : Repaid c x l n db db' p) : Liable x loans db' := by
  obtain ⟨hnew, hnodup⟩ := List.nodup_cons.1 h.nodup
  have hne : ∀ l' ∈ loans, l'.1.id ≠ l.1.id := by
    intro l' hl' heq
    exact hnew (List.mem_map.2 ⟨l', hl', heq⟩)
  refine ⟨?_, hnodup, hp.untouched.owners _ _ h.owner, ?_, ?_⟩
  · intro l' hl'
    exact hp.repayable (hne l' hl') (h.repayable l' (List.mem_cons_of_mem _ hl'))
  · obtain ⟨t, ht⟩ := Option.isSome_iff_exists.1 h.incoming
    rw [hp.untouched.transfers _ _ ht]
    rfl
  · intro l' hl' row hrow
    rw [hp.records fun heq => hne l' hl' (Lien.triple_inj heq)] at hrow
    exact h.keys l' (List.mem_cons_of_mem _ hl') row hrow

/-- The loop collects what the waterfall gives. -/
theorem OverdraftService.sweep_ok {c : Ctx} {x : Lien} {loans : List (LoanRow × PoolRow)}
    {budget : Int} {s s' : Session} {v : Unit} (hx : Liable x loans s.db)
    (h : sweep (execute c) c x.transferId x.receiverId x.userId x.currency x.requestId loans budget s =
      .ok v s') : SweptBy c x (Waterfall.takes due budget loans) s.db s'.db := by
  induction loans generalizing s budget with
  | nil =>
    obtain ⟨-, rfl⟩ := pure_ok.1 h
    exact .nil
  | cons l loans ih =>
    rw [sweep] at h
    rw [Waterfall.takes]
    split at h
    · rename_i hspent
      obtain ⟨-, rfl⟩ := pure_ok.1 h
      rw [if_pos hspent]
      exact .nil
    · rename_i hleft
      rw [if_neg hleft]
      obtain ⟨_, s₁, h₁, h⟩ := bind_ok.1 h
      obtain ⟨p, hp⟩ := OverdraftService.repayOne_ok (hx.repayable _ List.mem_cons_self)
        (Int.min_le_right _ _) hx.owner hx.incoming (hx.keys _ List.mem_cons_self) h₁
      exact .cons hp (ih (hx.next hp) h)

namespace SweptBy

variable {c : Ctx} {x : Lien} {takes : List ((LoanRow × PoolRow) × Int)} {db db' : Database}

theorem untouched (h : SweptBy c x takes db db') : Untouched db db' := by
  induction h with
  | nil => exact .refl _
  | cons h _ ih => exact h.untouched.trans ih

theorem users (h : SweptBy c x takes db db') : db'.users = db.users := by
  induction h with
  | nil => rfl
  | cons h _ ih => rw [ih, h.users]

theorem records (h : SweptBy c x takes db db') {triple : IdempotencyTriple}
    (hne : triple.endpoint ≠ LIEN_ENDPOINT) :
    db'.idempotencyRecords.find? triple = db.idempotencyRecords.find? triple := by
  induction h with
  | nil => rfl
  | cons h _ ih =>
    rw [ih]
    apply h.records
    rintro rfl
    exact hne rfl

/-- One transfer for each take, and none besides. -/
theorem rows (h : SweptBy c x takes db db') : ∃ repayments : List TransferRow,
    db'.transfers.rows = db.transfers.rows ++ repayments ∧
      repayments.map (fun t => (t.receiverAccountId, t.amountMinor)) =
        takes.map (fun y => (y.1.2.poolAccountId, y.2)) ∧
      ∀ t ∈ repayments, t.kind = .overdraftRepay ∧ t.senderAccountId = x.receiverId := by
  induction h with
  | nil =>
    refine ⟨[], (List.append_nil _).symm, rfl, ?_⟩
    intro t ht
    cases ht
  | cons h _ ih =>
    rename_i l n takes db db₁ db₂ p _
    obtain ⟨repayments, hrows, hmap, hall⟩ := ih
    have hcmd := h.cmd_eq
    refine ⟨p.row :: repayments, ?_, ?_, ?_⟩
    · rw [hrows, h.rows, List.append_assoc]
      rfl
    · rw [List.map_cons, List.map_cons, hmap]
      show (p.cmd.receiverAccountId, p.cmd.amount.minor) :: _ = _
      rw [hcmd]
      rfl
    · intro t ht
      rcases List.mem_cons.1 ht with rfl | ht
      · show p.cmd.kind = _ ∧ p.cmd.senderAccountId = _
        rw [hcmd]
        exact ⟨rfl, rfl⟩
      · exact hall t ht

theorem balanceOf (h : SweptBy c x takes db db') (id : Ulid) :
    MoneyMovement.balanceOf db'.accounts id = MoneyMovement.balanceOf db.accounts id -
      (if id = x.receiverId then (takes.map Prod.snd).sum else 0) +
      Waterfall.share (fun l => decide (l.2.poolAccountId = id)) takes := by
  induction h with
  | nil => simp [Waterfall.share]
  | cons h _ ih =>
    rw [ih, h.balanceOf, Waterfall.share, List.map_cons, List.sum_cons]
    simp only [decide_eq_true_eq]
    split <;> omega

theorem owing (h : SweptBy c x takes db db') (id : Ulid) :
    MoneyMovement.owing db'.overdraftLoans id = MoneyMovement.owing db.overdraftLoans id -
      Waterfall.share (fun l => decide (l.1.id = id)) takes := by
  induction h with
  | nil => simp [Waterfall.share]
  | cons h _ ih =>
    rw [ih, h.owing, Waterfall.share]
    simp only [decide_eq_true_eq]
    omega

/-- A loan nothing is taken for stays as it is. -/
theorem loans_kept (h : SweptBy c x takes db db') {id : Ulid} (hid : ∀ y ∈ takes, y.1.1.id ≠ id) :
    db'.overdraftLoans.find? id = db.overdraftLoans.find? id := by
  induction h with
  | nil => rfl
  | cons h _ ih =>
    obtain ⟨now, hloans⟩ := h.loans id
    have hne := hid _ List.mem_cons_self
    rw [ih fun y hy => hid y (List.mem_cons_of_mem _ hy), hloans, if_neg hne.symm]

end SweptBy

/-! ### A credit and what is collected of it -/

/-- What the lien takes of a credit. -/
def lienTakes (c : Ctx) (cmd : TransferCommand) (db : Database) (receiver : AccountRow) :
    List ((LoanRow × PoolRow) × Int) :=
  if isLoanLeg cmd.kind then []
  else
    match sweepable receiver.accountType receiver.userId with
    | none => []
    | some u =>
      Waterfall.takes due (lienBudget c cmd.amount) (SqlOverdraftRepository.outstanding db u)

/-- An execution that was not a replay: the movement, what was collected of it, its key. -/
structure Collected (c : Ctx) (cmd : TransferCommand) (db db' : Database) (p : Posting) : Prop where
  cmd_eq : p.cmd = cmd
  valid : p.Valid c db
  swept : ∃ logs db₁ x, x.transferId = p.transferId ∧ x.receiverId = cmd.receiverAccountId ∧
    SweptBy c x (lienTakes c cmd db p.receiver) { p.apply db with auditLogs := logs } db₁ ∧
    db' = p.completed db₁

/-- No finished repayment has the key of a transfer that does not exist. -/
theorem Standing.lienKey_free {db : Database} (h : Standing db) {t u : Ulid} {y : String}
    {row : IdempotencyRow} (ht : db.transfers.find? t = none)
    (hr : db.idempotencyRecords.find? ⟨u, LIEN_ENDPOINT, "lien:" ++ t.text ++ ":" ++ y⟩ = some row) :
    row.status ≠ .completed := by
  intro hcompleted
  have htriple := Table.key_of_find? hr
  obtain ⟨t', y', ht', hkey⟩ := h.lienKeys row (Table.mem_of_find? hr) hcompleted (by rw [htriple])
  rw [htriple] at hkey
  have hkey' : "lien:" ++ (t.text ++ (":" ++ y)) = "lien:" ++ (t'.text ++ (":" ++ y')) := by
    simpa only [String.append_assoc] using hkey
  have heq := (Ulid.text_append_inj ((String.append_right_inj _).1 hkey')).1
  rw [← heq, ht] at ht'
  cases ht'

theorem sweepable_eq_some {type : AccountType} {o : Option Ulid} {u : Ulid}
    (h : sweepable type o = some u) : type = .user ∧ o = some u := by
  unfold sweepable at h
  split at h
  · exact ⟨‹_›, h⟩
  · cases h

section Execution

variable {c : Ctx} {cmd : TransferCommand} {r : TransferResult} {p : Posting} {db db' : Database}

/-- Right after the movement, the receiver can be held to its loans. -/
theorem Posting.liable {s : Session} {logs : Table AuditLogRow.id} {u : Ulid} (hv : p.Valid c db)
    (hstanding : Standing db) (hs : s.db = { p.apply db with auditLogs := logs })
    (htype : p.receiver.accountType = .user) (hu : p.receiver.userId = some u) (cur : Currency)
    (req : Option String) :
    Liable ⟨p.transferId, p.credited.id, u, cur, req⟩ (SqlOverdraftRepository.outstanding s.db u) s.db := by
  have hid : p.receiver.id = p.cmd.receiverAccountId := Table.key_of_find? hv.receiver_found
  refine ⟨fun l hl => (mem_outstanding hl).1, nodup_outstanding _ _, ?_, ?_, ?_⟩
  · rw [hs]
    refine (Posting.untouched p db logs _).owners _ _ ⟨p.receiver, ?_, htype, hu⟩
    exact (congrArg _ hid).trans hv.receiver_found
  · rw [hs]
    exact Option.isSome_iff_exists.2 ⟨_, Posting.find?_push_row hv⟩
  · intro l _ row hrow
    rw [hs] at hrow
    dsimp only [Posting.apply] at hrow
    rw [Table.find?_push hv.key_fresh] at hrow
    split at hrow
    · cases hrow
      intro hstatus
      cases hstatus
    · exact hstanding.lienKey_free hv.transfer_fresh hrow

/-- The interceptor collects what the waterfall gives. -/
theorem Executed.collected (h : Executed (execute c) c cmd db db' r p) (hstanding : Standing db) :
    Collected c cmd db db' p := by
  obtain ⟨s₁, s₂, logs, e₁, h₁, e₂⟩ := h.runs
  have hv := h.valid
  have hid : p.credited.id = cmd.receiverAccountId := by
    rw [← h.cmd_eq]
    show p.receiver.id = _
    exact Table.key_of_find? hv.receiver_found
  have hdb' : db' = p.completed s₂.db := by
    rw [e₂, Posting.completed, h.cmd_eq]
  have hnothing : lienTakes c cmd db p.receiver = [] → s₁ = s₂ → Collected c cmd db db' p := by
    intro htakes hs
    refine ⟨h.cmd_eq, hv, logs, s₂.db, ⟨p.transferId, cmd.receiverAccountId, p.transferId,
      cmd.amount.currency, cmd.requestId⟩, rfl, rfl, ?_, hdb'⟩
    rw [htakes, ← hs, e₁]
    exact .nil
  unfold afterCredit at h₁
  by_cases hleg : isLoanLeg cmd.kind = true
  · rw [if_pos hleg] at h₁
    exact hnothing (if_pos hleg) (pure_ok.1 h₁).2
  · rw [if_neg hleg] at h₁
    have htakes : lienTakes c cmd db p.receiver = _ := if_neg hleg
    cases hu : sweepable p.receiver.accountType p.receiver.userId with
    | none =>
      rw [hu] at htakes
      have hu' : sweepable p.credited.accountType p.credited.userId = none := hu
      rw [hu'] at h₁
      exact hnothing htakes (pure_ok.1 h₁).2
    | some u =>
      rw [hu] at htakes
      dsimp only at htakes
      have hu' : sweepable p.credited.accountType p.credited.userId = some u := hu
      rw [hu'] at h₁
      dsimp only at h₁
      by_cases hbudget : lienBudget c cmd.amount ≤ 0
      · rw [if_pos hbudget] at h₁
        rw [Waterfall.takes_of_nonpos hbudget] at htakes
        exact hnothing htakes (pure_ok.1 h₁).2
      · rw [if_neg hbudget] at h₁
        obtain ⟨loans, s₃, h₃, h₁⟩ := bind_ok.1 h₁
        obtain ⟨rfl, rfl⟩ := readDb_ok.1 h₃
        obtain ⟨htype, hown⟩ := sweepable_eq_some hu
        have hout : SqlOverdraftRepository.outstanding s₁.db u =
            SqlOverdraftRepository.outstanding db u := by
          rw [e₁]
          rfl
        have hliable := Posting.liable hv hstanding e₁ htype hown cmd.amount.currency cmd.requestId
        refine ⟨h.cmd_eq, hv, logs, s₂.db, ⟨p.transferId, p.credited.id, u,
          cmd.amount.currency, cmd.requestId⟩, rfl, hid, ?_, hdb'⟩
        rw [htakes, ← hout, ← e₁]
        exact OverdraftService.sweep_ok hliable h₁

/-- A successful execution under a key that no finished request has used. -/
theorem execute_collects {s s' : Session} (hstanding : Standing s.db)
    (hkey : ∀ row, s.db.idempotencyRecords.find? cmd.triple = some row → row.status ≠ .completed)
    (h : execute c cmd s = .ok r s') : ∃ p, r = p.result ∧ Collected c cmd s.db s'.db p := by
  obtain ⟨p, hp⟩ := execute_first hkey h
  exact ⟨p, hp.result, hp.collected hstanding⟩

end Execution

end MoneyMovement

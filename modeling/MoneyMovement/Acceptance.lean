/-
  MoneyMovement/Acceptance.lean
  =============================
  **When a transfer goes through.**

  `ExecuteSpec` says what a successful execution has done; here is the other
  direction: on which states it succeeds.  The one thing outside the database
  that can make it fail is an identifier that is drawn twice, so `Fresh` says of
  a session that what it draws next occurs nowhere yet.  It is stated for a
  bounded number of draws, since there are only finitely many identifiers.

  Each function gets the condition under which it returns, and what it leaves
  for its caller to go on with.
-/
import MoneyMovement.ExecuteSpec

namespace MoneyMovement

open Txn

/-! ### Identifiers not yet used -/

/-- The identifiers drawn from `n` on, before `N`, are no keys of the table. -/
def Unused {ρ : Type} {key : ρ → Ulid} (o : Oracle) (n N : Nat) (t : Table key) : Prop :=
  ∀ i, n ≤ i → i < N → t.find? (o.ulid i) = none

/-- No two of them are equal. -/
def Distinct {α : Type} (draw : Nat → α) (n N : Nat) : Prop :=
  ∀ i j, n ≤ i → i < N → n ≤ j → j < N → draw i = draw j → i = j

theorem Distinct.mono {α : Type} {draw : Nat → α} {n n' N : Nat} (h : Distinct draw n N)
    (hn : n ≤ n') : Distinct draw n' N :=
  fun i j hi hi' hj hj' => h i j (Nat.le_trans hn hi) hi' (Nat.le_trans hn hj) hj'

section Unused

variable {ρ : Type} {key : ρ → Ulid} {o : Oracle} {n k N : Nat} {t : Table key}

theorem Unused.mono (h : Unused o n N t) (hn : n ≤ k) : Unused o k N t :=
  fun i hi hi' => h i (Nat.le_trans hn hi) hi'

/-- A row under one of the identifiers, which is used up then. -/
theorem Unused.push (h : Unused o n N t) (hd : Distinct o.ulid n N) {row : ρ} {j : Nat}
    (hrow : key row = o.ulid j) (hj : n ≤ j) (hj' : j < k) (hN : j < N) :
    Unused o k N (t.push row) := by
  intro i hi hi'
  have hfresh : t.find? (key row) = none := hrow ▸ h j hj hN
  have hne : key row ≠ o.ulid i := by
    intro heq
    have := hd i j (by omega) hi' hj hN (heq.symm.trans hrow)
    omega
  rw [Table.find?_push hfresh, if_neg hne]
  exact h i (by omega) hi'

end Unused

/-- What the session draws next, before `N`, occurs nowhere in its database. -/
structure Fresh (c : Ctx) (N : Nat) (s : Session) : Prop where
  ids : Distinct c.oracle.ulid s.draws N
  suffixes : Distinct c.oracle.referenceSuffix s.draws N
  transfers : Unused c.oracle s.draws N s.db.transfers
  references : ∀ i, s.draws ≤ i → i < N → ∀ t ∈ s.db.transfers.rows,
    t.reference.suffix ≠ c.oracle.referenceSuffix i
  ledgerTransactions : Unused c.oracle s.draws N s.db.ledgerTransactions
  posted : ∀ i, s.draws ≤ i → i < N → ∀ x ∈ s.db.ledgerTransactions.rows,
    x.transferId ≠ c.oracle.ulid i
  ledgerEntries : Unused c.oracle s.draws N s.db.ledgerEntries
  outboxEvents : Unused c.oracle s.draws N s.db.outboxEvents
  auditLogs : Unused c.oracle s.draws N s.db.auditLogs
  repayments : Unused c.oracle s.draws N s.db.overdraftRepayments
  repaid : ∀ i, s.draws ≤ i → i < N → ∀ x ∈ s.db.overdraftRepayments.rows,
    x.transferId ≠ c.oracle.ulid i
  tasks : Unused c.oracle s.draws N s.db.scheduledTasks

/-- The tables `Fresh` speaks about are the same, and nothing was undrawn. -/
theorem Fresh.congr {c : Ctx} {N : Nat} {s s' : Session} (h : Fresh c N s)
    (hdraws : s.draws ≤ s'.draws) (htransfers : s'.db.transfers = s.db.transfers)
    (hledger : s'.db.ledgerTransactions = s.db.ledgerTransactions)
    (hentries : s'.db.ledgerEntries = s.db.ledgerEntries)
    (hevents : s'.db.outboxEvents = s.db.outboxEvents) (hlogs : s'.db.auditLogs = s.db.auditLogs)
    (hrepayments : s'.db.overdraftRepayments = s.db.overdraftRepayments)
    (htasks : s'.db.scheduledTasks = s.db.scheduledTasks) : Fresh c N s' where
  ids := h.ids.mono hdraws
  suffixes := h.suffixes.mono hdraws
  transfers := htransfers ▸ h.transfers.mono hdraws
  references i hi hi' := htransfers ▸ h.references i (Nat.le_trans hdraws hi) hi'
  ledgerTransactions := hledger ▸ h.ledgerTransactions.mono hdraws
  posted i hi hi' := hledger ▸ h.posted i (Nat.le_trans hdraws hi) hi'
  ledgerEntries := hentries ▸ h.ledgerEntries.mono hdraws
  outboxEvents := hevents ▸ h.outboxEvents.mono hdraws
  auditLogs := hlogs ▸ h.auditLogs.mono hdraws
  repayments := hrepayments ▸ h.repayments.mono hdraws
  repaid i hi hi' := hrepayments ▸ h.repaid i (Nat.le_trans hdraws hi) hi'
  tasks := htasks ▸ h.tasks.mono hdraws

/-! ### The parts of an execution -/

section Parts

variable {c : Ctx} {s : Session}

/-- The balance is written; the other accounts and tables are left alone. -/
theorem SqlAccountRepository.persistBalance_returns {account : Account} {a : AccountRow}
    (ha : s.db.accounts.find? account.id = some a)
    (hb : a.accountType = .systemIssuance ∨ 0 ≤ account.balance.minor) :
    Returns (SqlAccountRepository.persistBalance c account) s fun _ s' =>
      s'.draws = s.draws ∧ ∃ accounts, s'.db = { s.db with accounts := accounts } ∧
        s.db.accounts.Extends accounts ∧
        ∀ id, id ≠ account.id → accounts.find? id = s.db.accounts.find? id := by
  refine Returns.bind (Returns.modify ⟨rfl, rfl⟩ : Returns _ s fun _ s' =>
    s'.draws = s.draws ∧ s'.db = s.db) ?_
  rintro _ s₁ ⟨hdraws, hdb⟩
  refine Returns.bind (P := fun n s' => n = 1 ∧ s'.draws = s.draws ∧
    ∃ accounts, s'.db = { s.db with accounts := accounts } ∧ s.db.accounts.Extends accounts ∧
      ∀ id, id ≠ account.id → accounts.find? id = s.db.accounts.find? id) ?_ ?_
  · have hadmits : (a.accountType == AccountType.systemIssuance ||
        decide (0 ≤ account.balance.minor)) = true := by
      simpa using hb
    refine ⟨1, _, updateWhere_of (hdb ▸ ha) rfl hadmits, rfl, hdraws, _, by rw [hdb], ?_, ?_⟩
    · exact Table.extends_modifyAt _ _ _ _
    · intro id hid
      rw [Table.find?_modifyAt, if_neg hid]
  · rintro n s' ⟨rfl, hrest⟩
    exact Returns.ensure rfl hrest

/-- An unused key is reserved. -/
theorem SqlIdempotencyRepository.reserve_returns {triple : IdempotencyTriple} {f : String}
    {now : Time} (hfits : fits 100 triple.endpoint = true ∧ fits 128 triple.key = true)
    (hkey : s.db.idempotencyRecords.find? triple = none) :
    Returns (SqlIdempotencyRepository.reserve triple f now) s fun d s' =>
      d = .proceed ∧ s' = { s with db := { s.db with
        idempotencyRecords := s.db.idempotencyRecords.push
          (SqlIdempotencyRepository.processing triple f now) } } := by
  refine Returns.bind (Returns.ensure hfits rfl : Returns _ s fun _ s' => s = s') ?_
  rintro _ _ rfl
  refine Returns.bind (Returns.query ⟨hkey, rfl⟩ : Returns _ s fun o s' => o = none ∧ s = s') ?_
  rintro _ _ ⟨rfl, rfl⟩
  exact ⟨_, _, rfl, rfl, rfl⟩

/-- What a movement needs of the accounts it is between. -/
structure Movable (cmd : TransferCommand) (db : Database) (a b : AccountRow) : Prop where
  sender : db.accounts.find? cmd.senderAccountId = some a
  receiver : db.accounts.find? cmd.receiverAccountId = some b
  parties_ne : cmd.senderAccountId ≠ cmd.receiverAccountId
  positive : 0 < cmd.amount.minor
  sender_active : a.status = .active
  receiver_active : b.status = .active
  affordable : a.accountType = .systemIssuance ∨ cmd.amount.minor ≤ a.balanceMinor
  solvent : b.accountType = .systemIssuance ∨ 0 ≤ b.balanceMinor

/-- What the row of the transfer needs: texts that fit, and rows to refer to. -/
structure Recordable (cmd : TransferCommand) (db : Database) : Prop where
  note : fits? 200 cmd.note = true
  requestId : fits? 64 cmd.requestId = true
  actor : (db.users.find? cmd.actorUserId).isSome = true
  parent : ∀ p, cmd.parentTransferId = some p → (db.transfers.find? p).isSome = true
  intended : ∀ a, cmd.intendedReceiverAccountId = some a → (db.accounts.find? a).isSome = true
  leg : cmd.kind.isSettlementLeg = cmd.parentTransferId.isSome

theorem Account.debit_returns {a : Account} {amount : Money} (hpos : 0 < amount.minor)
    (hactive : a.status = .active)
    (hafford : a.accountType = .systemIssuance ∨ amount.minor ≤ a.balance.minor) :
    Returns (a.debit amount) s fun a' s' => s = s' ∧
      a' = { a with balance := a.balance.sub amount, version := a.version + 1 } := by
  refine Returns.bind (Returns.ensure ?_ rfl : Returns _ s fun _ s' => s = s') ?_
  · simpa [Money.isPositive] using hpos
  rintro _ _ rfl
  refine Returns.bind (Returns.ensure hactive rfl : Returns _ s fun _ s' => s = s') ?_
  rintro _ _ rfl
  refine Returns.bind (Returns.ensure ?_ rfl : Returns _ s fun _ s' => s = s') ?_
  · simpa [Account.mayGoNegative] using hafford
  rintro _ _ rfl
  exact Returns.pure ⟨rfl, rfl⟩

theorem Account.credit_returns {a : Account} {amount : Money} (hpos : 0 < amount.minor)
    (hactive : a.status = .active) :
    Returns (a.credit amount) s fun a' s' => s = s' ∧
      a' = { a with balance := a.balance.add amount, version := a.version + 1 } := by
  refine Returns.bind (Returns.ensure ?_ rfl : Returns _ s fun _ s' => s = s') ?_
  · simpa [Money.isPositive] using hpos
  rintro _ _ rfl
  refine Returns.bind (Returns.ensure hactive rfl : Returns _ s fun _ s' => s = s') ?_
  rintro _ _ rfl
  exact Returns.pure ⟨rfl, rfl⟩

theorem newUlid_returns : Returns (newUlid c) s fun id s' =>
    id = c.oracle.ulid s.draws ∧ s' = { s with draws := s.draws + 1 } :=
  ⟨_, _, rfl, rfl, rfl⟩

theorem SqlTransferRepository.create_returns {row : TransferRow}
    (hfits : fits? 200 row.note = true ∧ fits? 64 row.requestId = true)
    (hfresh : s.db.transfers.find? row.id = none)
    (hadmits : SqlTransferRepository.admits row s.db = true) :
    Returns (SqlTransferRepository.create row) s fun _ s' =>
      s' = { s with db := { s.db with transfers := s.db.transfers.push row } } := by
  refine Returns.bind (Returns.ensure hfits rfl : Returns _ s fun _ s' => s = s') ?_
  rintro _ _ rfl
  exact ⟨_, _, insertInto_of hfresh hadmits, rfl⟩

/-- One line of a posting gets its entry. -/
theorem SqlLedgerRepository.postLines_cons_returns {ltx : Ulid} {balances : Ulid → Option Money}
    {b : Money} {now : Time} {line : PostingLine} {lines : List PostingLine}
    {Q : Unit → Session → Prop} (hb : balances line.accountId = some b)
    (hfresh : s.db.ledgerEntries.find? (c.oracle.ulid s.draws) = none)
    (hltx : (s.db.ledgerTransactions.find? ltx).isSome = true)
    (haccount : (s.db.accounts.find? line.accountId).isSome = true)
    (hrest : ∀ entry : LedgerEntryRow, entry.id = c.oracle.ulid s.draws →
      Returns (SqlLedgerRepository.postLines c ltx balances now lines)
        { s with
          draws := s.draws + 1
          db := { s.db with ledgerEntries := (s.db.ledgerEntries.push entry) } } Q) :
    Returns (SqlLedgerRepository.postLines c ltx balances now (line :: lines)) s Q := by
  rw [SqlLedgerRepository.postLines]
  refine Returns.bind newUlid_returns ?_
  rintro _ _ ⟨rfl, rfl⟩
  refine Returns.bind (Returns.orRaise hb ⟨rfl, rfl⟩ : Returns _ _ fun m s' =>
    b = m ∧ { s with draws := s.draws + 1 } = s') ?_
  rintro _ _ ⟨rfl, rfl⟩
  refine Returns.bind (P := fun _ s' => s' = { s with
    draws := s.draws + 1
    db := { s.db with ledgerEntries := (s.db.ledgerEntries.push
      ⟨c.oracle.ulid s.draws, ltx, line.accountId, line.amount.minor, line.amount.currency, b.minor,
        now⟩) } }) ?_ ?_
  · refine ⟨_, _, insertInto_of hfresh ?_, rfl⟩
    simp only [Bool.and_eq_true, decide_eq_true_eq]
    exact ⟨⟨hltx, haccount⟩, line.ne_zero⟩
  · rintro _ _ rfl
    exact hrest _ rfl

/-- Both lines of the posting get an entry. -/
theorem SqlLedgerRepository.post_returns {N : Nat} {x y t : Ulid} {m bx by_ : Money}
    {kind : TransferKind} {note : Option String} {balances : Ulid → Option Money} {now : Time}
    (hpos : 0 < m.minor) (hne : x ≠ y) (hbx : balances x = some bx) (hby : balances y = some by_)
    (hN : s.draws + 3 ≤ N) (hids : Distinct c.oracle.ulid s.draws N)
    (hledger : Unused c.oracle s.draws N s.db.ledgerTransactions)
    (hentries : Unused c.oracle s.draws N s.db.ledgerEntries)
    (hnew : ∀ z ∈ s.db.ledgerTransactions.rows, z.transferId ≠ t)
    (ht : (s.db.transfers.find? t).isSome = true) (hx : (s.db.accounts.find? x).isSome = true)
    (hy : (s.db.accounts.find? y).isSome = true) :
    Returns (SqlLedgerRepository.post c (LedgerPosting.transfer x y m hpos hne) t kind note balances
        now) s fun _ s' => s'.draws = s.draws + 3 ∧
      ∃ transaction debit credit, transaction.id = c.oracle.ulid s.draws ∧
        transaction.transferId = t ∧ debit.id = c.oracle.ulid (s.draws + 1) ∧
        credit.id = c.oracle.ulid (s.draws + 2) ∧ s'.db = { s.db with
          ledgerTransactions := s.db.ledgerTransactions.push transaction
          ledgerEntries := (s.db.ledgerEntries.push debit).push credit } := by
  refine Returns.bind newUlid_returns ?_
  rintro _ _ ⟨rfl, rfl⟩
  have hltx := hledger s.draws (Nat.le_refl _) (by omega)
  refine Returns.bind (P := fun _ s' => s' = { s with
    draws := s.draws + 1
    db := { s.db with ledgerTransactions := (s.db.ledgerTransactions.push
      ⟨c.oracle.ulid s.draws, t, kind, note, now⟩) } }) ?_ ?_
  · refine ⟨_, _, insertInto_of hltx ?_, rfl⟩
    simp only [Bool.and_eq_true, List.all_eq_true, decide_eq_true_eq]
    exact ⟨hnew, ht⟩
  rintro _ _ rfl
  have hfound : (((s.db.ledgerTransactions.push
      ⟨c.oracle.ulid s.draws, t, kind, note, now⟩).find? (c.oracle.ulid s.draws))).isSome = true := by
    rw [Table.find?_push_self hltx]
    rfl
  refine Returns.bind (P := fun _ s' => s'.draws = s.draws + 3 ∧ ∃ debit credit,
    debit.id = c.oracle.ulid (s.draws + 1) ∧ credit.id = c.oracle.ulid (s.draws + 2) ∧
    s'.db = { s.db with
      ledgerTransactions := (s.db.ledgerTransactions.push
        ⟨c.oracle.ulid s.draws, t, kind, note, now⟩)
      ledgerEntries := (s.db.ledgerEntries.push debit).push credit }) ?_ ?_
  · refine SqlLedgerRepository.postLines_cons_returns hbx (hentries _ (by simp) (by simp; omega))
      hfound hx ?_
    intro debit hdebit
    refine SqlLedgerRepository.postLines_cons_returns hby ?_ hfound hy ?_
    · exact (hentries.push (k := s.draws + 2) hids hdebit (by simp) (by simp) (by simp; omega)) _
        (Nat.le_refl _) (by simp; omega)
    · intro credit hcredit
      exact Returns.pure ⟨rfl, debit, credit, hdebit, hcredit, rfl⟩
  · rintro _ s' ⟨hdraws, debit, credit, hdebit, hcredit, hdb⟩
    exact Returns.pure ⟨hdraws, _, debit, credit, rfl, rfl, hdebit, hcredit, hdb⟩

theorem SqlOutboxPublisher.append_returns {e : EventType} {id : Ulid} {t : Time} {p : Payload}
    {trace : Option String} (hfits : fits? 64 trace = true)
    (hfresh : s.db.outboxEvents.find? (c.oracle.ulid s.draws) = none) :
    Returns (SqlOutboxPublisher.append c e id t p trace) s fun _ s' => s'.draws = s.draws + 1 ∧
      ∃ event : OutboxEventRow, event.id = c.oracle.ulid s.draws ∧
        s'.db = { s.db with outboxEvents := s.db.outboxEvents.push event } := by
  refine Returns.bind newUlid_returns ?_
  rintro _ _ ⟨rfl, rfl⟩
  refine Returns.bind (Returns.ensure hfits rfl : Returns _ _ fun _ s' =>
    { s with draws := s.draws + 1 } = s') ?_
  rintro _ _ rfl
  refine Returns.bind (P := fun _ s' => s'.draws = s.draws + 1 ∧
      ∃ event : OutboxEventRow, event.id = c.oracle.ulid s.draws ∧
        s'.db = { s.db with outboxEvents := s.db.outboxEvents.push event }) ?_ ?_
  · exact ⟨_, _, insertInto_of hfresh rfl, rfl, _, rfl, rfl⟩
  · intro _ s' h
    exact Returns.pure h

theorem SqlAuditRepository.record_returns {actor : Ulid} {action type : String} {id : Option Ulid}
    {req : Option String} {metadata : Option Payload} {now : Time} (hfits : fits? 64 req = true)
    (hactor : (s.db.users.find? actor).isSome = true)
    (hfresh : s.db.auditLogs.find? (c.oracle.ulid s.draws) = none) :
    Returns (SqlAuditRepository.record c (some actor) action type id req metadata now) s fun _ s' =>
      s'.draws = s.draws + 1 ∧ ∃ log : AuditLogRow, log.id = c.oracle.ulid s.draws ∧
        s'.db = { s.db with auditLogs := s.db.auditLogs.push log } := by
  refine Returns.bind newUlid_returns ?_
  rintro _ _ ⟨rfl, rfl⟩
  refine Returns.bind (Returns.ensure hfits rfl : Returns _ _ fun _ s' =>
    { s with draws := s.draws + 1 } = s') ?_
  rintro _ _ rfl
  exact ⟨_, _, insertInto_of hfresh hactor, rfl, _, rfl, rfl⟩

theorem LedgerPosting.transfer?_returns {x y : Ulid} {m : Money} (hpos : 0 < m.minor)
    (hne : x ≠ y) : Returns (LedgerPosting.transfer? x y m) s fun p s' =>
      p = LedgerPosting.transfer x y m hpos hne ∧ s = s' := by
  refine ⟨_, _, ?_, rfl, rfl⟩
  rw [LedgerPosting.transfer?, dif_pos hpos, dif_pos hne]

end Parts

/-! ### The movement -/

section Movement

variable {c : Ctx} {N : Nat} {cmd : TransferCommand} {s : Session} {a b : AccountRow}

theorem Recordable.admits (h : Recordable cmd s.db) (hm : Movable cmd s.db a b)
    (hf : Fresh c N s) (hN : s.draws + 1 < N) (now : Time) {db : Database}
    (hdb : ∃ accounts, db = { s.db with accounts := accounts } ∧ s.db.accounts.Extends accounts) :
    SqlTransferRepository.admits (TransferUseCase.transferRow cmd (c.oracle.ulid s.draws)
      ⟨"TRX", now / Time.dayUs, c.oracle.referenceSuffix (s.draws + 1)⟩ now) db = true := by
  obtain ⟨accounts, rfl, hext⟩ := hdb
  simp only [SqlTransferRepository.admits, TransferUseCase.transferRow, Bool.and_eq_true,
    List.all_eq_true, beq_iff_eq]
  refine ⟨⟨⟨⟨⟨⟨⟨⟨?_, ?_⟩, ?_⟩, h.actor⟩, ?_⟩, ?_⟩, decide_eq_true hm.positive⟩,
    decide_eq_true hm.parties_ne⟩, h.leg⟩
  · intro t ht
    apply decide_eq_true
    intro heq
    exact hf.references (s.draws + 1) (by omega) hN t ht (congrArg Reference.suffix heq)
  · exact hext _ (by rw [hm.sender]; rfl)
  · exact hext _ (by rw [hm.receiver]; rfl)
  · cases hp : cmd.parentTransferId with
    | none => rfl
    | some p => exact h.parent p hp
  · cases hi : cmd.intendedReceiverAccountId with
    | none => rfl
    | some r => exact hext _ (h.intended r hi)

/-- The movement draws seven values, first the identifier of the transfer. -/
theorem TransferUseCase.applyMovement_returns {now : Time} (hf : Fresh c N s) (hN : s.draws + 7 ≤ N)
    (hm : Movable cmd s.db a b) (hr : Recordable cmd s.db) :
    Returns (applyMovement c cmd a.toDomain b.toDomain (noFeeStrategy cmd.amount) now) s
      fun m s' => m.transferId = c.oracle.ulid s.draws ∧ s'.draws = s.draws + 7 ∧ Fresh c N s' := by
  have hida : a.id = cmd.senderAccountId := Table.key_of_find? hm.sender
  have hidb : b.id = cmd.receiverAccountId := Table.key_of_find? hm.receiver
  have hfee : (cmd.amount.add (noFeeStrategy cmd.amount)).minor = cmd.amount.minor := Int.add_zero _
  unfold applyMovement
  refine Returns.bind (Account.debit_returns (hfee ▸ hm.positive) hm.sender_active
    (hfee ▸ hm.affordable)) ?_
  rintro _ _ ⟨rfl, rfl⟩
  refine Returns.bind (Account.credit_returns hm.positive hm.receiver_active) ?_
  rintro _ _ ⟨rfl, rfl⟩
  -- the two balances
  refine Returns.bind (SqlAccountRepository.persistBalance_returns (hida ▸ hm.sender) ?_) ?_
  · rcases hm.affordable with h | h
    · exact .inl h
    · right
      show 0 ≤ a.balanceMinor - (cmd.amount.add (noFeeStrategy cmd.amount)).minor
      omega
  rintro _ s₁ ⟨hd₁, accounts₁, e₁, hext₁, hsame₁⟩
  have hb₁ : s₁.db.accounts.find? b.id = some b := by
    rw [e₁]
    exact (hsame₁ _ (by
      show b.id ≠ a.id
      rw [hida, hidb]
      exact hm.parties_ne.symm)).trans (hidb ▸ hm.receiver)
  refine Returns.bind (SqlAccountRepository.persistBalance_returns hb₁ ?_) ?_
  · rcases hm.solvent with h | h
    · exact .inl h
    · right
      show 0 ≤ b.balanceMinor + cmd.amount.minor
      have := hm.positive
      omega
  rintro _ s₂ ⟨hd₂, accounts₂, e₂, hext₂, -⟩
  rw [e₁] at e₂ hext₂
  dsimp only at e₂ hext₂
  have hext := hext₁.trans hext₂
  have hdraws : s₂.draws = s.draws := hd₂.trans hd₁
  -- the transfer
  refine Returns.bind newUlid_returns ?_
  rintro _ _ ⟨rfl, rfl⟩
  refine Returns.bind (P := fun r s' => r = ⟨"TRX", now / Time.dayUs,
    c.oracle.referenceSuffix (s.draws + 1)⟩ ∧ s' = { s₂ with draws := s.draws + 2 }) ?_ ?_
  · exact ⟨_, _, rfl, by rw [hdraws], by rw [hdraws]⟩
  rintro _ _ ⟨rfl, rfl⟩
  rw [hdraws]
  have hfresh : s₂.db.transfers.find? (c.oracle.ulid s.draws) = none := by
    rw [e₂]
    exact hf.transfers s.draws (Nat.le_refl _) (by omega)
  refine Returns.bind (P := fun _ s' => s'.draws = s.draws + 2 ∧ ∃ row : TransferRow,
    row.id = c.oracle.ulid s.draws ∧ row.reference.suffix = c.oracle.referenceSuffix (s.draws + 1) ∧
    s'.db = { s.db with accounts := accounts₂, transfers := s.db.transfers.push row }) ?_ ?_
  · refine (SqlTransferRepository.create_returns (s := { s₂ with draws := s.draws + 2 })
      ⟨hr.note, hr.requestId⟩ hfresh
      (hr.admits hm hf (by omega) now ⟨accounts₂, e₂, hext⟩)).mono ?_
    rintro _ _ rfl
    exact ⟨rfl, _, rfl, rfl, by dsimp only; rw [e₂]⟩
  rintro _ s₃ ⟨hd₃, row, hrow, hsuffix, e₃⟩
  rw [e₂] at hfresh
  have hfound : (s₃.db.transfers.find? (c.oracle.ulid s.draws)).isSome = true := by
    rw [e₃, ← hrow]
    dsimp only
    rw [Table.find?_push_self (hrow ▸ hfresh)]
    rfl
  -- the ledger
  have hne : a.id ≠ b.id := by
    rw [hida, hidb]
    exact hm.parties_ne
  refine Returns.bind (LedgerPosting.transfer?_returns hm.positive hne) ?_
  rintro _ _ ⟨rfl, rfl⟩
  refine Returns.bind (SqlLedgerRepository.post_returns (N := N) hm.positive hne
    ((if_neg hne).trans (if_pos rfl)) (if_pos rfl) (by omega) (hf.ids.mono (by omega)) ?_ ?_ ?_ hfound
    ?_ ?_) ?_
  · rw [e₃]
    exact hf.ledgerTransactions.mono (by omega)
  · rw [e₃]
    exact hf.ledgerEntries.mono (by omega)
  · rw [e₃]
    exact hf.posted s.draws (Nat.le_refl _) (by omega)
  · rw [e₃]
    exact hext _ (by rw [hida, hm.sender]; rfl)
  · rw [e₃]
    exact hext _ (by rw [hidb, hm.receiver]; rfl)
  rintro _ s₄ ⟨hd₄, transaction, debit, credit, hid, htransfer, hdebit, hcredit, e₄⟩
  rw [e₃] at e₄
  dsimp only at e₄
  -- the event, the history entry, the audit row
  refine Returns.bind (SqlOutboxPublisher.append_returns hr.requestId ?_) ?_
  · rw [e₄]
    exact hf.outboxEvents _ (by omega) (by omega)
  rintro _ s₅ ⟨hd₅, event, hevent, e₅⟩
  refine Returns.bind (P := fun _ s' => s'.draws = s₅.draws ∧ ∃ journal,
    s'.db = { s₅.db with journal := journal }) ⟨_, _, rfl, rfl, _, rfl⟩ ?_
  rintro _ s₆ ⟨hd₆, journal, e₆⟩
  rw [e₅, e₄] at e₆
  refine Returns.bind (SqlAuditRepository.record_returns hr.requestId ?_ ?_) ?_
  · rw [e₆]
    exact hr.actor
  · rw [e₆]
    exact hf.auditLogs _ (by omega) (by omega)
  rintro _ s₇ ⟨hd₇, log, hlog, e₇⟩
  rw [e₆] at e₇
  have hd : s₇.draws = s.draws + 7 := by omega
  rw [hd₃] at hid hdebit hcredit
  rw [show s₄.draws = s.draws + 5 by omega] at hevent
  rw [show s₆.draws = s.draws + 6 by omega] at hlog
  refine Returns.pure ⟨rfl, hd, ?_⟩
  have hn : ∀ {i}, s₇.draws ≤ i → s.draws ≤ i := fun hi => by omega
  constructor
  · exact hf.ids.mono (by omega)
  · exact hf.suffixes.mono (by omega)
  · rw [e₇]
    exact hf.transfers.push hf.ids hrow (Nat.le_refl _) (by omega) (by omega)
  · intro i hi hi' t ht
    rw [e₇] at ht
    rcases (Table.mem_push (hrow ▸ hfresh)).1 ht with ht | rfl
    · exact hf.references i (hn hi) hi' t ht
    · rw [hsuffix]
      intro heq
      have := hf.suffixes _ _ (by omega) (by omega) (hn hi) hi' heq
      omega
  · rw [e₇]
    exact hf.ledgerTransactions.push hf.ids hid (by omega) (by omega) (by omega)
  · intro i hi hi' x hx
    rw [e₇] at hx
    rcases (Table.mem_push (hid ▸ hf.ledgerTransactions _ (by omega) (by omega))).1 hx with hx | rfl
    · exact hf.posted i (hn hi) hi' x hx
    · rw [htransfer]
      intro heq
      have := hf.ids _ _ (Nat.le_refl _) (by omega) (hn hi) hi' heq
      omega
  · rw [e₇]
    exact (hf.ledgerEntries.push (k := s.draws + 4) hf.ids hdebit (by omega) (by omega)
      (by omega)).push (hf.ids.mono (by omega)) hcredit (by omega) (by omega) (by omega)
  · rw [e₇]
    exact hf.outboxEvents.push hf.ids hevent (by omega) (by omega) (by omega)
  · rw [e₇]
    exact hf.auditLogs.push hf.ids hlog (by omega) (by omega) (by omega)
  · rw [e₇]
    exact hf.repayments.mono (by omega)
  · intro i hi hi'
    rw [e₇]
    exact hf.repaid i (hn hi) hi'
  · rw [e₇]
    exact hf.tasks.mono (by omega)

end Movement

/-! ### The use case -/

section UseCase

open TransferUseCase OverdraftService Container

variable {exec : TransferCommand → Tx TransferResult} {c : Ctx} {N : Nat} {cmd : TransferCommand}
  {s : Session} {a b : AccountRow}

theorem OverdraftService.additionalLockIds_returns (id : Ulid) (kind : TransferKind) :
    Returns (additionalLockIds id kind) s fun _ s' => s = s' := by
  unfold additionalLockIds
  split
  · exact Returns.pure rfl
  · refine Returns.bind (Returns.query rfl : Returns _ s fun _ s' => s = s') ?_
    rintro receiver _ rfl
    cases receiver with
    | none => exact Returns.pure rfl
    | some receiver =>
      dsimp only
      cases sweepable receiver.accountType receiver.userId with
      | none => exact Returns.pure rfl
      | some u =>
        refine Returns.bind (Returns.query rfl : Returns _ s fun _ s' => s = s') ?_
        rintro loans _ rfl
        exact Returns.pure rfl

theorem SqlAccountRepository.lockForUpdate_returns (ids : List Ulid) :
    Returns (SqlAccountRepository.lockForUpdate ids) s fun f s' => s'.db = s.db ∧
      s'.draws = s.draws ∧ ∀ id ∈ ids, f id = (s.db.accounts.find? id).map AccountRow.toDomain :=
  ⟨_, _, rfl, rfl, rfl, fun _ hid => if_pos hid⟩

theorem TransferUseCase.lockParties_returns
    (ha : s.db.accounts.find? cmd.senderAccountId = some a)
    (hb : s.db.accounts.find? cmd.receiverAccountId = some b) :
    Returns (lockParties (useCaseOver exec c) cmd) s fun parties s' =>
      parties = (a.toDomain, b.toDomain) ∧ s'.db = s.db ∧ s'.draws = s.draws := by
  refine Returns.bind (OverdraftService.additionalLockIds_returns _ _) ?_
  rintro extra _ rfl
  refine Returns.bind (SqlAccountRepository.lockForUpdate_returns _) ?_
  rintro locked s₁ ⟨hdb, hdraws, hlocked⟩
  have hsender : locked cmd.senderAccountId = some a.toDomain := by
    rw [hlocked _ (by simp), ha]
    rfl
  have hreceiver : locked cmd.receiverAccountId = some b.toDomain := by
    rw [hlocked _ (by simp), hb]
    rfl
  refine Returns.bind (Returns.orRaise hsender ⟨rfl, rfl⟩ : Returns _ s₁ fun x s' =>
    x = a.toDomain ∧ s₁ = s') ?_
  rintro _ _ ⟨rfl, rfl⟩
  refine Returns.bind (Returns.orRaise hreceiver ⟨rfl, rfl⟩ : Returns _ s₁ fun x s' =>
    x = b.toDomain ∧ s₁ = s') ?_
  rintro _ _ ⟨rfl, rfl⟩
  exact Returns.pure ⟨rfl, hdb, hdraws⟩

/-- What the use case asks of the command itself, at the instant it runs. -/
structure Permitted (c : Ctx) (cmd : TransferCommand) (db : Database) (a : AccountRow) (now : Time) :
    Prop where
  authorized : (cmd.kind.isSystemInitiated = true ∧ a.userId = none) ∨
    a.userId = some cmd.actorUserId
  within_limits : cmd.enforceLimits = true →
    cmd.amount.minor ≤ c.settings.maxTransferAmountMinor ∧
      SqlTransferRepository.sentSince db a.id (Time.startOfDay now) + cmd.amount.minor ≤
        c.settings.dailyTransferLimitMinor

theorem TransferUseCase.checkLimits_returns {now : Time} (hp : Permitted c cmd s.db a now) :
    Returns (checkLimits (useCaseOver exec c) cmd a.toDomain
      (cmd.amount.add (noFeeStrategy cmd.amount)) now) s fun _ s' => s = s' := by
  have hfee : (cmd.amount.add (noFeeStrategy cmd.amount)).minor = cmd.amount.minor := Int.add_zero _
  unfold checkLimits
  split
  · rename_i hon
    obtain ⟨hmax, hday⟩ := hp.within_limits hon
    refine Returns.bind (Returns.query ⟨rfl, rfl⟩ : Returns _ s fun m s' =>
      m = ⟨SqlTransferRepository.sentSince s.db a.id (Time.startOfDay now), .BDT⟩ ∧ s = s') ?_
    rintro _ _ ⟨rfl, rfl⟩
    refine Returns.bind (Returns.ensure (hfee ▸ hmax) rfl : Returns _ s fun _ s' => s = s') ?_
    rintro _ _ rfl
    exact Returns.ensure (hfee ▸ hday) rfl
  · exact Returns.pure rfl

/-- There is one currency. -/
theorem Currency.eq (x y : Currency) : x = y := by
  cases x
  cases y
  rfl

theorem TransferUseCase.revalidate_returns {now : Time} (hm : Movable cmd s.db a b)
    (hp : Permitted c cmd s.db a now) :
    Returns (revalidate (useCaseOver exec c) cmd a.toDomain b.toDomain now) s fun fee s' =>
      fee = noFeeStrategy cmd.amount ∧ s = s' := by
  have hfee : (cmd.amount.add (noFeeStrategy cmd.amount)).minor = cmd.amount.minor := Int.add_zero _
  refine Returns.bind (Returns.ensure hp.authorized rfl : Returns _ s fun _ s' => s = s') ?_
  rintro _ _ rfl
  refine Returns.bind (Returns.ensure hm.sender_active rfl : Returns _ s fun _ s' => s = s') ?_
  rintro _ _ rfl
  refine Returns.bind (Returns.ensure hm.receiver_active rfl : Returns _ s fun _ s' => s = s') ?_
  rintro _ _ rfl
  refine Returns.bind (Returns.ensure (Currency.eq _ _) rfl : Returns _ s fun _ s' => s = s') ?_
  rintro _ _ rfl
  refine Returns.bind (checkLimits_returns hp) ?_
  rintro _ _ rfl
  refine Returns.bind (Returns.ensure ?_ rfl : Returns _ s fun _ s' => s = s') ?_
  · show a.toDomain.mayGoNegative = true ∨ _
    rw [show (useCaseOver exec c).feeStrategy cmd.amount = noFeeStrategy cmd.amount from rfl, hfee]
    simpa [Account.mayGoNegative, AccountRow.toDomain] using hm.affordable
  rintro _ _ rfl
  exact Returns.pure ⟨rfl, rfl⟩

/-- The posting an execution makes, in the session its credit is announced in. -/
structure Announced (c : Ctx) (N : Nat) (cmd : TransferCommand) (s : Session) (p : Posting)
    (s₁ : Session) : Prop where
  cmd_eq : p.cmd = cmd
  clocked : p.now = c.oracle.clock s.draws
  drawn : p.transferId = c.oracle.ulid (s.draws + 1)
  valid : p.Valid c s.db
  db : ∃ logs, s₁.db = { p.apply s.db with auditLogs := logs }
  draws : s₁.draws = s.draws + 8
  fresh : Fresh c N s₁

/-- The session once the key is completed. -/
def Session.answered (s : Session) (cmd : TransferCommand) (p : Posting) : Session :=
  { s with db := { s.db with
    idempotencyRecords := s.db.idempotencyRecords.modifyAt cmd.triple
      (SqlIdempotencyRepository.completedRow p.transferId 201 p.result.toResponse p.now)
      p.triple_answered } }

/-- An execution goes through when its interceptor does. -/
theorem TransferUseCase.execute_returns {Q : Posting → Session → Prop} (hf : Fresh c N s)
    (hN : s.draws + 8 ≤ N)
    (hfits : fits 100 cmd.idempotencyEndpoint = true ∧ fits 128 cmd.idempotencyKey = true)
    (hkey : s.db.idempotencyRecords.find? cmd.triple = none) (hm : Movable cmd s.db a b)
    (hr : Recordable cmd s.db) (hp : Permitted c cmd s.db a (c.oracle.clock s.draws))
    (hafter : ∀ p s₁, Announced c N cmd s p s₁ → p.receiver = b →
      Returns (afterCredit exec c p.transferId p.credited cmd.amount cmd.kind cmd.requestId) s₁
        fun _ s₂ => Q p s₂) :
    Returns ((useCaseOver exec c).execute c cmd) s fun r s' => ∃ p s₁ s₂,
      Announced c N cmd s p s₁ ∧ r = p.result ∧ Q p s₂ ∧ s' = s₂.answered cmd p := by
  refine Returns.bind (P := fun t s' => t = c.oracle.clock s.draws ∧
    s' = { s with draws := s.draws + 1 }) ⟨_, _, rfl, rfl, rfl⟩ ?_
  rintro _ _ ⟨rfl, rfl⟩
  refine Returns.bind (SqlIdempotencyRepository.reserve_returns hfits hkey) ?_
  rintro _ _ ⟨rfl, rfl⟩
  refine Returns.bind (Returns.pure ⟨rfl, rfl⟩ : Returns _ _ fun o s' => o = none ∧ _ = s') ?_
  rintro _ _ ⟨rfl, rfl⟩
  refine Returns.bind (Returns.ensure hm.parties_ne rfl : Returns _ _ fun _ s' => _ = s') ?_
  rintro _ _ rfl
  refine Returns.bind (lockParties_returns hm.sender hm.receiver) ?_
  rintro _ s₁ ⟨rfl, e₁, hd₁⟩
  have hm₁ : Movable cmd s₁.db a b := by
    rw [e₁]
    exact ⟨hm.sender, hm.receiver, hm.parties_ne, hm.positive, hm.sender_active, hm.receiver_active,
      hm.affordable, hm.solvent⟩
  have hp₁ : Permitted c cmd s₁.db a (c.oracle.clock s.draws) := by
    rw [e₁]
    exact ⟨hp.authorized, hp.within_limits⟩
  have hr₁ : Recordable cmd s₁.db := by
    rw [e₁]
    exact ⟨hr.note, hr.requestId, hr.actor, hr.parent, hr.intended, hr.leg⟩
  refine Returns.bind (revalidate_returns hm₁ hp₁) ?_
  rintro _ _ ⟨rfl, rfl⟩
  have hf₁ : Fresh c N s₁ :=
    hf.congr (by rw [hd₁]; exact Nat.le_succ _) (by rw [e₁]) (by rw [e₁]) (by rw [e₁]) (by rw [e₁])
      (by rw [e₁]) (by rw [e₁]) (by rw [e₁])
  have hd : s₁.draws = s.draws + 1 := hd₁
  refine Returns.bind ((applyMovement_returns hf₁ (by omega) hm₁ hr₁).and_of_ok fun m s' h =>
    applyMovement_ok hm₁.sender hm₁.receiver hm₁.parties_ne h) ?_
  rintro m s₂ ⟨⟨hid, hd₂, hf₂⟩, p, hcmd, hnow, ha, hb, hpos, hfresh, href, hleg, hltx, hdebit, hcredit, hevent,
    rfl, logs, e₂⟩
  subst hcmd ha hb
  rw [e₁] at hfresh href hltx hdebit hcredit hevent
  have hann : Announced c N p.cmd s p s₂ := by
    refine ⟨rfl, hnow, hd ▸ hid, ⟨hkey, hm.parties_ne, hm.sender, hm.receiver, hp.authorized, hm.sender_active,
      hm.receiver_active, ?_, hpos, hm.affordable, hfresh, href, hleg, hltx, hdebit, hcredit, hevent⟩,
      ⟨logs, ?_⟩, by omega, hf₂⟩
    · rw [hnow]
      exact hp.within_limits
    · rw [e₂, e₁]
      simp only [Posting.apply, Posting.reservation, hnow]
  refine Returns.bind (hafter p s₂ hann rfl) ?_
  intro _ s₃ hQ
  refine Returns.bind (P := fun _ s' => s' = s₃.answered p.cmd p) ?_ ?_
  · refine ⟨_, _, rfl, ?_⟩
    rw [← hnow, Posting.resultOf_eq]
    rfl
  rintro _ _ rfl
  refine Returns.pure ⟨p, s₂, s₃, hann, ?_, hQ, rfl⟩
  rw [← hnow, Posting.resultOf_eq]

end UseCase

end MoneyMovement

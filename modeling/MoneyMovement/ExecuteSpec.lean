/-
  MoneyMovement/ExecuteSpec.lean
  ==============================
  **The transfer use case as steps.**

  One inversion lemma per repository function the use case calls, then the
  movement itself (`applyMovement_ok`), the lien's loop (`sweep_steps`) and the
  whole of `execute` (`execute_ok`): a successful execution is either a replay,
  which leaves the database alone, or a posting followed by the repayments of
  the lien and the completion of the key.
-/
import MoneyMovement.Effects

namespace MoneyMovement

open Txn

/-! ### Repository functions -/

theorem SqlAccountRepository.acquire_ok {ids : List Ulid} {u : Unit} {s s' : Session}
    (h : SqlAccountRepository.acquire ids s = .ok u s') : s'.db = s.db := by
  cases h
  rfl

theorem SqlAccountRepository.lockForUpdate_ok {ids : List Ulid} {f : Ulid → Option Account}
    {s s' : Session} (h : SqlAccountRepository.lockForUpdate ids s = .ok f s') :
    s'.db = s.db ∧ ∀ id ∈ ids, f id = (s.db.accounts.find? id).map AccountRow.toDomain := by
  obtain ⟨_, s₁, h₁, h₂⟩ := bind_ok.1 h
  have e₁ := SqlAccountRepository.acquire_ok h₁
  obtain ⟨rfl, rfl⟩ := readDb_ok.1 h₂
  refine ⟨e₁, ?_⟩
  intro id hid
  rw [← e₁]
  exact if_pos hid

/-- The balance written back is the one decided from the row as it stands. -/
theorem SqlAccountRepository.persistBalance_ok {c : Ctx} {a : Account} {u : Unit} {s s' : Session}
    (h : SqlAccountRepository.persistBalance c a s = .ok u s') {id : Ulid} {r : AccountRow}
    (delta : Int) (hid : a.id = id) (hr : s.db.accounts.find? id = some r)
    (hb : a.balance.minor = r.balanceMinor + delta) (hv : a.version = r.version + 1) :
    s'.db = { s.db with
      accounts := s.db.accounts.modifyAt id (AccountRow.moved delta c.oracle.dbNow)
        (AccountRow.id_moved _ _) } := by
  subst hid
  obtain ⟨_, s₁, h₁, h⟩ := bind_ok.1 h
  have e₁ := SqlAccountRepository.acquire_ok h₁
  obtain ⟨n, s₂, h₂, h₃⟩ := bind_ok.1 h
  obtain ⟨hn, rfl⟩ := ensure_ok.1 h₃
  obtain ⟨r', -, -, -, e₂⟩ := updateWhere_db h₂ hn
  rw [e₂, e₁]
  congr 1
  apply Table.modifyAt_congr hr
  simp only [AccountRow.moved, hb, hv]

theorem SqlTransferRepository.create_ok {row : TransferRow} {u : Unit} {s s' : Session}
    (h : SqlTransferRepository.create row s = .ok u s') :
    s.db.transfers.find? row.id = none ∧ SqlTransferRepository.admits row s.db = true ∧
      s'.db = { s.db with transfers := s.db.transfers.push row } := by
  obtain ⟨_, s₁, h₁, h₂⟩ := bind_ok.1 h
  obtain ⟨-, rfl⟩ := ensure_ok.1 h₁
  exact insertInto_ok h₂

theorem SqlTransferRepository.of_admits {row : TransferRow} {db : Database}
    (h : SqlTransferRepository.admits row db = true) :
    (∀ t ∈ db.transfers.rows, t.reference ≠ row.reference) ∧
      row.kind.isSettlementLeg = row.parentTransferId.isSome := by
  simp only [SqlTransferRepository.admits, Bool.and_eq_true, beq_iff_eq, List.all_eq_true,
    decide_eq_true_eq] at h
  exact ⟨h.1.1.1.1.1.1.1.1, h.2⟩

theorem SqlLedgerRepository.insertEntry_ok {row : LedgerEntryRow} {u : Unit} {s s' : Session}
    (h : SqlLedgerRepository.insertEntry row s = .ok u s') :
    s.db.ledgerEntries.find? row.id = none ∧
      s'.db = { s.db with ledgerEntries := s.db.ledgerEntries.push row } := by
  obtain ⟨h₁, -, h₂⟩ := insertInto_ok h
  exact ⟨h₁, h₂⟩

theorem SqlOutboxPublisher.append_ok {c : Ctx} {e : EventType} {a : Ulid} {t : Time} {p : Payload}
    {tr : Option String} {id : Ulid} {s s' : Session}
    (h : SqlOutboxPublisher.append c e a t p tr s = .ok id s') :
    s.db.outboxEvents.find? id = none ∧ s'.db = { s.db with
      outboxEvents := s.db.outboxEvents.push
        ⟨id, e.aggregateType, a, e, p, tr, 1, t, none, 0, none, none, none⟩ } := by
  obtain ⟨id', s₁, h₁, h⟩ := bind_ok.1 h
  obtain ⟨_, s₂, h₂, h⟩ := bind_ok.1 h
  obtain ⟨-, rfl⟩ := ensure_ok.1 h₂
  obtain ⟨_, s₃, h₃, h⟩ := bind_ok.1 h
  obtain ⟨rfl, rfl⟩ := pure_ok.1 h
  obtain ⟨hn, -, hs⟩ := insertInto_ok h₃
  rw [newUlid_ok h₁] at hn hs
  exact ⟨hn, hs⟩

theorem SqlAuditRepository.record_ok {c : Ctx} {actor : Option Ulid} {action type : String}
    {res : Option Ulid} {req : Option String} {m : Option Payload} {t : Time} {u : Unit}
    {s s' : Session} (h : SqlAuditRepository.record c actor action type res req m t s = .ok u s') :
    ∃ logs, s'.db = { s.db with auditLogs := logs } := by
  obtain ⟨id, s₁, h₁, h⟩ := bind_ok.1 h
  obtain ⟨_, s₂, h₂, h⟩ := bind_ok.1 h
  obtain ⟨-, rfl⟩ := ensure_ok.1 h₂
  obtain ⟨-, -, hs⟩ := insertInto_ok h
  rw [newUlid_ok h₁] at hs
  exact ⟨_, hs⟩

/-- What the store answers, and what it wrote. -/
theorem SqlIdempotencyRepository.reserve_ok {triple : IdempotencyTriple} {f : String} {now : Time}
    {d : IdempotencyDecision} {s s' : Session}
    (h : SqlIdempotencyRepository.reserve triple f now s = .ok d s') :
    (d = .proceed ∧ s.db.idempotencyRecords.find? triple = none ∧ s'.db = { s.db with
        idempotencyRecords := s.db.idempotencyRecords.push
          (SqlIdempotencyRepository.processing triple f now) }) ∨
      s' = s ∧ ∃ r, s.db.idempotencyRecords.find? triple = some r ∧
        (d = .payloadMismatch ∧ r.requestFingerprint ≠ f ∨
          r.requestFingerprint = f ∧ r.status = .completed ∧
            d = .replay r.httpStatus r.responseBody r.resourceId ∨
          r.requestFingerprint = f ∧ r.status ≠ .completed ∧ d = .inProgress) := by
  obtain ⟨_, s₁, h₁, h⟩ := bind_ok.1 h
  obtain ⟨-, rfl⟩ := ensure_ok.1 h₁
  obtain ⟨o, s₂, h₂, h⟩ := bind_ok.1 h
  obtain ⟨ho, rfl⟩ := readDb_ok.1 h₂
  cases o with
  | none =>
    obtain ⟨_, s₃, h₃, h⟩ := bind_ok.1 h
    obtain ⟨rfl, rfl⟩ := pure_ok.1 h
    exact .inl ⟨rfl, ho, writeDb_ok h₃⟩
  | some r =>
    right
    dsimp only at h
    split at h
    · rename_i hne
      obtain ⟨rfl, rfl⟩ := pure_ok.1 h
      exact ⟨rfl, r, ho, .inl ⟨rfl, hne⟩⟩
    · rename_i heq
      rw [not_not] at heq
      split at h
      · rename_i hc
        obtain ⟨rfl, rfl⟩ := pure_ok.1 h
        exact ⟨rfl, r, ho, .inr (.inl ⟨heq, hc, rfl⟩)⟩
      · rename_i hc
        obtain ⟨rfl, rfl⟩ := pure_ok.1 h
        exact ⟨rfl, r, ho, .inr (.inr ⟨heq, hc, rfl⟩)⟩

/-! ### The movement -/

theorem LedgerPosting.transfer?_ok {x y : Ulid} {m : Money} {p : LedgerPosting} {s s' : Session}
    (h : LedgerPosting.transfer? x y m s = .ok p s') :
    s = s' ∧ ∃ (hpos : 0 < m.minor) (hne : x ≠ y), p = LedgerPosting.transfer x y m hpos hne := by
  unfold LedgerPosting.transfer? at h
  split at h
  · split at h
    · cases h
      exact ⟨rfl, _, _, rfl⟩
    · cases h
  · cases h

theorem Account.debit_ok {a b : Account} {m : Money} {s s' : Session}
    (h : a.debit m s = .ok b s') :
    s = s' ∧ 0 < m.minor ∧ b = { a with balance := a.balance.sub m, version := a.version + 1 } := by
  obtain ⟨_, s₁, h₁, h⟩ := bind_ok.1 h
  obtain ⟨hpos, rfl⟩ := ensure_ok.1 h₁
  obtain ⟨_, s₂, h₂, h⟩ := bind_ok.1 h
  obtain ⟨-, rfl⟩ := ensure_ok.1 h₂
  obtain ⟨_, s₃, h₃, h⟩ := bind_ok.1 h
  obtain ⟨-, rfl⟩ := ensure_ok.1 h₃
  obtain ⟨rfl, rfl⟩ := pure_ok.1 h
  exact ⟨rfl, by simpa [Money.isPositive] using hpos, rfl⟩

theorem Account.credit_ok {a b : Account} {m : Money} {s s' : Session}
    (h : a.credit m s = .ok b s') :
    s = s' ∧ 0 < m.minor ∧ b = { a with balance := a.balance.add m, version := a.version + 1 } := by
  obtain ⟨_, s₁, h₁, h⟩ := bind_ok.1 h
  obtain ⟨hpos, rfl⟩ := ensure_ok.1 h₁
  obtain ⟨_, s₂, h₂, h⟩ := bind_ok.1 h
  obtain ⟨-, rfl⟩ := ensure_ok.1 h₂
  obtain ⟨rfl, rfl⟩ := pure_ok.1 h
  exact ⟨rfl, by simpa [Money.isPositive] using hpos, rfl⟩

/-- One line of a posting: its entry, with a fresh identifier. -/
theorem SqlLedgerRepository.postLines_cons_ok {c : Ctx} {ltx : Ulid}
    {after : Ulid → Option Money} {now : Time} {line : PostingLine} {lines : List PostingLine}
    {u : Unit} {s s' : Session} {b : Money} (hb : after line.accountId = some b)
    (h : SqlLedgerRepository.postLines c ltx after now (line :: lines) s = .ok u s') :
    ∃ id s₁, s.db.ledgerEntries.find? id = none ∧
      s₁.db = { s.db with
        ledgerEntries := s.db.ledgerEntries.push
          ⟨id, ltx, line.accountId, line.amount.minor, line.amount.currency, b.minor, now⟩ } ∧
      SqlLedgerRepository.postLines c ltx after now lines s₁ = .ok u s' := by
  obtain ⟨id, s₁, h₁, h⟩ := bind_ok.1 h
  obtain ⟨b', s₂, h₂, h⟩ := bind_ok.1 h
  obtain ⟨hb', rfl⟩ := orRaise_ok.1 h₂
  rw [← Option.some.inj (hb.symm.trans hb')] at h
  obtain ⟨_, s₃, h₃, h⟩ := bind_ok.1 h
  obtain ⟨hn, hs⟩ := SqlLedgerRepository.insertEntry_ok h₃
  rw [newUlid_ok h₁] at hn hs
  exact ⟨id, s₃, hn, hs, h⟩

/-- A two-line posting: the ledger transaction, the debit, the credit. -/
theorem SqlLedgerRepository.post_ok {c : Ctx} {x y t ltx : Ulid} {m bx by_ : Money}
    {hpos : 0 < m.minor} {hne : x ≠ y} {kind : TransferKind} {note : Option String} {now : Time}
    {after : Ulid → Option Money} {s s' : Session} (hx : after x = some bx) (hy : after y = some by_)
    (h : SqlLedgerRepository.post c (LedgerPosting.transfer x y m hpos hne) t kind note after now s =
      .ok ltx s') :
    ∃ d e, s.db.ledgerTransactions.find? ltx = none ∧ s.db.ledgerEntries.find? d = none ∧
      (s.db.ledgerEntries.push ⟨d, ltx, x, -m.minor, m.currency, bx.minor, now⟩).find? e = none ∧
      s'.db = { s.db with
        ledgerTransactions := s.db.ledgerTransactions.push ⟨ltx, t, kind, note, now⟩
        ledgerEntries :=
          (s.db.ledgerEntries.push ⟨d, ltx, x, -m.minor, m.currency, bx.minor, now⟩).push
            ⟨e, ltx, y, m.minor, m.currency, by_.minor, now⟩ } := by
  obtain ⟨id, s₁, h₁, h⟩ := bind_ok.1 h
  obtain ⟨_, s₂, h₂, h⟩ := bind_ok.1 h
  obtain ⟨hn, -, e₂⟩ := insertInto_ok h₂
  rw [newUlid_ok h₁] at hn e₂
  obtain ⟨_, s₃, h₃, h⟩ := bind_ok.1 h
  obtain ⟨rfl, rfl⟩ := pure_ok.1 h
  obtain ⟨d, s₄, hd, e₄, h₄⟩ := SqlLedgerRepository.postLines_cons_ok hx h₃
  obtain ⟨e, s₅, he, e₅, h₅⟩ := SqlLedgerRepository.postLines_cons_ok hy h₄
  obtain ⟨-, rfl⟩ := pure_ok.1 h₅
  rw [e₂] at hd
  rw [e₄, e₂] at he
  refine ⟨d, e, hn, hd, he, ?_⟩
  rw [e₅, e₄, e₂]
  rfl

section Movement

variable {c : Ctx} {cmd : TransferCommand} {s s' : Session}

/-- Every row a movement writes, whatever the fee: the sender is charged it, and no entry
    records it. -/
theorem TransferUseCase.applyMovement_db {m : TransferUseCase.Movement} {a b : AccountRow}
    {fee : Money} {now : Time} (ha : s.db.accounts.find? cmd.senderAccountId = some a)
    (hb : s.db.accounts.find? cmd.receiverAccountId = some b)
    (hne : cmd.senderAccountId ≠ cmd.receiverAccountId)
    (h : TransferUseCase.applyMovement c cmd a.toDomain b.toDomain fee now s = .ok m s') :
    ∃ tid ref ltx d e event logs,
      let debit : LedgerEntryRow := ⟨d, ltx, cmd.senderAccountId, -cmd.amount.minor,
        cmd.amount.currency, a.balanceMinor - (cmd.amount.minor + fee.minor), now⟩
      let credit : LedgerEntryRow := ⟨e, ltx, cmd.receiverAccountId, cmd.amount.minor,
        cmd.amount.currency, b.balanceMinor + cmd.amount.minor, now⟩
      0 < cmd.amount.minor ∧ s.db.transfers.find? tid = none ∧
      (∀ t ∈ s.db.transfers.rows, t.reference ≠ ref) ∧
      cmd.kind.isSettlementLeg = cmd.parentTransferId.isSome ∧
      s.db.ledgerTransactions.find? ltx = none ∧ s.db.ledgerEntries.find? d = none ∧
      (s.db.ledgerEntries.push debit).find? e = none ∧ s.db.outboxEvents.find? event = none ∧
      m = ⟨tid, ref,
        { a.toDomain with
          balance := a.toDomain.balance.sub (cmd.amount.add fee), version := a.version + 1 },
        { b.toDomain with balance := b.toDomain.balance.add cmd.amount, version := b.version + 1 }⟩ ∧
      s'.db = { s.db with
        accounts := (s.db.accounts.modifyAt cmd.senderAccountId
          (AccountRow.moved (-(cmd.amount.minor + fee.minor)) c.oracle.dbNow)
          (AccountRow.id_moved _ _)).modifyAt cmd.receiverAccountId
            (AccountRow.moved cmd.amount.minor c.oracle.dbNow) (AccountRow.id_moved _ _)
        transfers := s.db.transfers.push (TransferUseCase.transferRow cmd tid ref now)
        ledgerTransactions := s.db.ledgerTransactions.push ⟨ltx, tid, cmd.kind, cmd.note, now⟩
        ledgerEntries := (s.db.ledgerEntries.push debit).push credit
        outboxEvents := s.db.outboxEvents.push
          ⟨event, EventType.transferSucceeded.aggregateType, tid, .transferSucceeded,
            TransferUseCase.succeededPayload cmd tid ref a.toDomain b.toDomain fee, cmd.requestId, 1,
            now, none, 0, none, none, none⟩
        journal := s.db.journal ++ [⟨cmd.triple, tid, ltx, event⟩]
        auditLogs := logs } := by
  have hida : a.id = cmd.senderAccountId := Table.key_of_find? ha
  have hidb : b.id = cmd.receiverAccountId := Table.key_of_find? hb
  obtain ⟨a', s₁, h₁, h⟩ := bind_ok.1 h
  obtain ⟨rfl, hpos, rfl⟩ := Account.debit_ok h₁
  obtain ⟨b', s₂, h₂, h⟩ := bind_ok.1 h
  obtain ⟨rfl, hpos', rfl⟩ := Account.credit_ok h₂
  -- the two balances
  obtain ⟨_, s₃, h₃, h⟩ := bind_ok.1 h
  have e₃ := SqlAccountRepository.persistBalance_ok h₃ (-(cmd.amount.minor + fee.minor)) hida ha
    Int.sub_eq_add_neg rfl
  obtain ⟨_, s₄, h₄, h⟩ := bind_ok.1 h
  have hb₃ : s₃.db.accounts.find? cmd.receiverAccountId = some b := by
    rw [e₃]
    dsimp only
    rw [Table.find?_modifyAt, if_neg (Ne.symm hne), hb]
  have e₄ := SqlAccountRepository.persistBalance_ok h₄ cmd.amount.minor hidb hb₃ rfl rfl
  -- the transfer
  obtain ⟨tid, s₅, h₅, h⟩ := bind_ok.1 h
  obtain ⟨ref, s₆, h₆, h⟩ := bind_ok.1 h
  obtain ⟨_, s₇, h₇, h⟩ := bind_ok.1 h
  obtain ⟨hfresh, hadmits, e₇⟩ := SqlTransferRepository.create_ok h₇
  -- the ledger
  obtain ⟨posting, s₈, h₈, h⟩ := bind_ok.1 h
  obtain ⟨rfl, hp, hn, rfl⟩ := LedgerPosting.transfer?_ok h₈
  obtain ⟨ltx, s₉, h₉, h⟩ := bind_ok.1 h
  obtain ⟨d, e, hltx, hd, he, e₉⟩ := SqlLedgerRepository.post_ok
    (by rw [if_neg hn, if_pos rfl]) (if_pos rfl) h₉
  -- the event, the history entry, the audit row
  obtain ⟨event, s₁₀, h₁₀, h⟩ := bind_ok.1 h
  obtain ⟨hevent, e₁₀⟩ := SqlOutboxPublisher.append_ok h₁₀
  obtain ⟨_, s₁₁, h₁₁, h⟩ := bind_ok.1 h
  have e₁₁ := writeDb_ok h₁₁
  obtain ⟨_, s₁₂, h₁₂, h⟩ := bind_ok.1 h
  obtain ⟨logs, e₁₂⟩ := SqlAuditRepository.record_ok h₁₂
  obtain ⟨rfl, rfl⟩ := pure_ok.1 h
  have e₆ : s₆.db = s₄.db := (generateReference_ok h₆).trans (newUlid_ok h₅)
  rw [e₆, e₄, e₃] at hfresh hadmits e₇
  rw [e₇] at hltx hd he e₉
  rw [e₉] at hevent e₁₀
  change ((_ : Table LedgerEntryRow.id).push (LedgerEntryRow.mk d ltx a.id _ _ _ now)).find? e = none
    at he
  rw [hida] at he
  obtain ⟨href, hleg⟩ := SqlTransferRepository.of_admits hadmits
  refine ⟨tid, ref, ltx, d, e, event, logs, hpos', hfresh, href, hleg, hltx, hd, he, hevent, rfl, ?_⟩
  rw [e₁₂, e₁₁, e₁₀]
  change ({ s.db with
    accounts := _, transfers := _, ledgerTransactions := _
    ledgerEntries := (s.db.ledgerEntries.push (LedgerEntryRow.mk d ltx a.id _ _ _ now)).push
      (LedgerEntryRow.mk e ltx b.id _ _ _ now)
    outboxEvents := _, journal := _, auditLogs := logs } : Database) = _
  rw [hida, hidb]
  rfl

/-- Without a fee the movement is the posting's effect, but for the reservation of the key,
    which came before it. -/
theorem TransferUseCase.applyMovement_ok {m : TransferUseCase.Movement} {a b : AccountRow}
    {now : Time} (ha : s.db.accounts.find? cmd.senderAccountId = some a)
    (hb : s.db.accounts.find? cmd.receiverAccountId = some b)
    (hne : cmd.senderAccountId ≠ cmd.receiverAccountId)
    (h : TransferUseCase.applyMovement c cmd a.toDomain b.toDomain (noFeeStrategy cmd.amount) now s =
      .ok m s') :
    ∃ p : Posting, p.cmd = cmd ∧ p.now = now ∧ p.sender = a ∧ p.receiver = b ∧
      0 < cmd.amount.minor ∧ s.db.transfers.find? p.transferId = none ∧
      (∀ t ∈ s.db.transfers.rows, t.reference ≠ p.reference) ∧
      cmd.kind.isSettlementLeg = cmd.parentTransferId.isSome ∧
      s.db.ledgerTransactions.find? p.ledgerTransactionId = none ∧
      s.db.ledgerEntries.find? p.debitEntryId = none ∧
      (s.db.ledgerEntries.push p.debitEntry).find? p.creditEntryId = none ∧
      s.db.outboxEvents.find? p.eventId = none ∧
      m = ⟨p.transferId, p.reference,
        { a.toDomain with
          balance := a.toDomain.balance.sub (cmd.amount.add (noFeeStrategy cmd.amount))
          version := a.version + 1 },
        { b.toDomain with balance := b.toDomain.balance.add cmd.amount, version := b.version + 1 }⟩ ∧
      ∃ logs, s'.db = { p.apply s.db with
        idempotencyRecords := s.db.idempotencyRecords, auditLogs := logs } := by
  obtain ⟨tid, ref, ltx, d, e, event, logs, hpos, hfresh, href, hleg, hltx, hd, he, hevent, rfl, e₁⟩ :=
    applyMovement_db ha hb hne h
  have hzero : cmd.amount.minor + (noFeeStrategy cmd.amount).minor = cmd.amount.minor :=
    Int.add_zero _
  rw [hzero] at he e₁
  exact ⟨⟨cmd, now, c.oracle.dbNow, a, b, tid, ref, ltx, d, e, event⟩, rfl, rfl, rfl, rfl, hpos, hfresh,
    href, hleg, hltx, hd, he, hevent, rfl, logs, e₁⟩

end Movement

/-! ### The use case around the movement -/

section UseCase

open TransferUseCase OverdraftService Container

variable {exec : TransferCommand → Tx TransferResult} {c : Ctx} {cmd : TransferCommand}
  {s s' : Session}

theorem OverdraftService.additionalLockIds_ok {id : Ulid} {kind : TransferKind} {ids : List Ulid}
    (h : additionalLockIds id kind s = .ok ids s') : s = s' := by
  unfold additionalLockIds at h
  split at h
  · exact (pure_ok.1 h).2
  · obtain ⟨o, s₁, h₁, h⟩ := bind_ok.1 h
    obtain ⟨-, rfl⟩ := readDb_ok.1 h₁
    cases o with
    | none => exact (pure_ok.1 h).2
    | some receiver =>
      cases hu : sweepable receiver.accountType receiver.userId with
      | none =>
        simp only [hu] at h
        exact (pure_ok.1 h).2
      | some u =>
        simp only [hu] at h
        obtain ⟨_, s₂, h₂, h⟩ := bind_ok.1 h
        obtain ⟨-, rfl⟩ := readDb_ok.1 h₂
        exact (pure_ok.1 h).2

/-- Both parties exist, and are read as they stand. -/
theorem TransferUseCase.lockParties_ok {parties : Account × Account}
    (h : lockParties (useCaseOver exec c) cmd s = .ok parties s') :
    s'.db = s.db ∧ ∃ a b, s.db.accounts.find? cmd.senderAccountId = some a ∧
      s.db.accounts.find? cmd.receiverAccountId = some b ∧
      parties = (a.toDomain, b.toDomain) := by
  obtain ⟨extra, s₁, h₁, h⟩ := bind_ok.1 h
  obtain rfl := OverdraftService.additionalLockIds_ok h₁
  obtain ⟨locked, s₂, h₂, h⟩ := bind_ok.1 h
  obtain ⟨e₂, hlocked⟩ := SqlAccountRepository.lockForUpdate_ok h₂
  obtain ⟨sender, s₃, h₃, h⟩ := bind_ok.1 h
  obtain ⟨hsender, rfl⟩ := orRaise_ok.1 h₃
  obtain ⟨receiver, s₄, h₄, h⟩ := bind_ok.1 h
  obtain ⟨hreceiver, rfl⟩ := orRaise_ok.1 h₄
  obtain ⟨rfl, rfl⟩ := pure_ok.1 h
  rw [hlocked _ (by simp), Option.map_eq_some_iff] at hsender hreceiver
  obtain ⟨a, ha, rfl⟩ := hsender
  obtain ⟨b, hb, rfl⟩ := hreceiver
  exact ⟨e₂, a, b, ha, hb, rfl⟩

theorem TransferUseCase.checkLimits_ok {a : Account} {m : Money} {now : Time} {u : Unit}
    (h : checkLimits (useCaseOver exec c) cmd a m now s = .ok u s') :
    s = s' ∧ (cmd.enforceLimits = true → m.minor ≤ c.settings.maxTransferAmountMinor ∧
      SqlTransferRepository.sentSince s.db a.id (Time.startOfDay now) + m.minor ≤
        c.settings.dailyTransferLimitMinor) := by
  unfold checkLimits at h
  split at h
  · obtain ⟨sent, s₁, h₁, h⟩ := bind_ok.1 h
    obtain ⟨rfl, rfl⟩ := readDb_ok.1 h₁
    obtain ⟨_, s₂, h₂, h⟩ := bind_ok.1 h
    obtain ⟨hmax, rfl⟩ := ensure_ok.1 h₂
    obtain ⟨hday, rfl⟩ := ensure_ok.1 h
    exact ⟨rfl, fun _ => ⟨hmax, hday⟩⟩
  · rename_i hoff
    exact ⟨(pure_ok.1 h).2, fun hon => absurd hon hoff⟩

/-- The guards of the locked state.  The fee is zero. -/
theorem TransferUseCase.revalidate_ok {a b : Account} {now : Time} {fee : Money}
    (h : revalidate (useCaseOver exec c) cmd a b now s = .ok fee s') :
    s = s' ∧ fee = noFeeStrategy cmd.amount ∧
      ((cmd.kind.isSystemInitiated = true ∧ a.userId = none) ∨ a.userId = some cmd.actorUserId) ∧
      a.status = .active ∧ b.status = .active ∧
      (cmd.enforceLimits = true → cmd.amount.minor ≤ c.settings.maxTransferAmountMinor ∧
        SqlTransferRepository.sentSince s.db a.id (Time.startOfDay now) + cmd.amount.minor ≤
          c.settings.dailyTransferLimitMinor) ∧
      (a.accountType = .systemIssuance ∨ cmd.amount.minor ≤ a.balance.minor) := by
  obtain ⟨_, s₁, h₁, h⟩ := bind_ok.1 h
  obtain ⟨hauth, rfl⟩ := ensure_ok.1 h₁
  obtain ⟨_, s₂, h₂, h⟩ := bind_ok.1 h
  obtain ⟨hsender, rfl⟩ := ensure_ok.1 h₂
  obtain ⟨_, s₃, h₃, h⟩ := bind_ok.1 h
  obtain ⟨hreceiver, rfl⟩ := ensure_ok.1 h₃
  obtain ⟨_, s₄, h₄, h⟩ := bind_ok.1 h
  obtain ⟨-, rfl⟩ := ensure_ok.1 h₄
  obtain ⟨_, s₅, h₅, h⟩ := bind_ok.1 h
  obtain ⟨rfl, hlimits⟩ := checkLimits_ok h₅
  obtain ⟨_, s₆, h₆, h⟩ := bind_ok.1 h
  obtain ⟨hafford, rfl⟩ := ensure_ok.1 h₆
  obtain ⟨rfl, rfl⟩ := pure_ok.1 h
  have htotal : (cmd.amount.add ((useCaseOver exec c).feeStrategy cmd.amount)).minor =
      cmd.amount.minor := Int.add_zero _
  rw [htotal] at hlimits hafford
  refine ⟨rfl, rfl, hauth, hsender, hreceiver, hlimits, ?_⟩
  simpa [Account.mayGoNegative] using hafford

/-- The receiver's account right after the credit. -/
def Posting.credited (p : Posting) : Account :=
  { p.receiver.toDomain with
    balance := p.receiver.toDomain.balance.add p.cmd.amount, version := p.receiver.version + 1 }

/-- Without a fee, the result the use case returns is the posting's. -/
theorem Posting.resultOf_eq (p : Posting) :
    resultOf p.cmd
      ⟨p.transferId, p.reference, { p.sender.toDomain with
          balance := p.sender.toDomain.balance.sub (p.cmd.amount.add (noFeeStrategy p.cmd.amount))
          version := p.sender.version + 1 },
        { p.receiver.toDomain with
          balance := p.receiver.toDomain.balance.add p.cmd.amount, version := p.receiver.version + 1 }⟩
      (noFeeStrategy p.cmd.amount) p.now = p.result := by
  have hfee : p.sender.balanceMinor - (p.cmd.amount.minor + 0) =
      p.sender.balanceMinor - p.cmd.amount.minor := by omega
  simp only [resultOf, Posting.result, AccountRow.toDomain, Money.sub, Money.add, noFeeStrategy,
    Money.zero, hfee]

/-- A first execution: the posting, the interceptor, the completion of the key. -/
structure Executed (exec : TransferCommand → Tx TransferResult) (c : Ctx) (cmd : TransferCommand)
    (db db' : Database) (r : TransferResult) (p : Posting) : Prop where
  cmd_eq : p.cmd = cmd
  clocked : ∃ i, p.now = c.oracle.clock i
  valid : p.Valid c db
  result : r = p.result
  runs : ∃ s₁ s₂ logs, s₁.db = { p.apply db with auditLogs := logs } ∧
    afterCredit exec c p.transferId p.credited cmd.amount cmd.kind cmd.requestId s₁ = .ok () s₂ ∧
    db' = { s₂.db with
      idempotencyRecords := s₂.db.idempotencyRecords.modifyAt cmd.triple
        (SqlIdempotencyRepository.completedRow p.transferId 201 p.result.toResponse p.now)
        (SqlIdempotencyRepository.triple_completedRow _ _ _ _) }

/-- The three stages up to the movement, once the key is reserved. -/
theorem TransferUseCase.movement_ok {now : Time} {db : Database} {parties : Account × Account}
    {fee : Money} {m : Movement} {s₁ s₂ : Session}
    (hkey : db.idempotencyRecords.find? cmd.triple = none)
    (hdb : s.db = { db with
      idempotencyRecords := db.idempotencyRecords.push
        (SqlIdempotencyRepository.processing cmd.triple cmd.requestFingerprint now) })
    (hne : cmd.senderAccountId ≠ cmd.receiverAccountId)
    (hlock : lockParties (useCaseOver exec c) cmd s = .ok parties s₁)
    (hcheck : revalidate (useCaseOver exec c) cmd parties.1 parties.2 now s₁ = .ok fee s₂)
    (hmove : applyMovement c cmd parties.1 parties.2 fee now s₂ = .ok m s') :
    ∃ (p : Posting) (logs : Table AuditLogRow.id), p.cmd = cmd ∧ p.now = now ∧ p.Valid c db ∧
      fee = noFeeStrategy cmd.amount ∧
      m = ⟨p.transferId, p.reference,
        { p.sender.toDomain with
          balance := p.sender.toDomain.balance.sub (cmd.amount.add (noFeeStrategy cmd.amount))
          version := p.sender.version + 1 }, p.credited⟩ ∧
      s'.db = { p.apply db with auditLogs := logs } := by
  obtain ⟨e₁, a, b, ha, hb, rfl⟩ := lockParties_ok hlock
  obtain ⟨rfl, rfl, hauth, hsender, hreceiver, hlimits, hafford⟩ := revalidate_ok hcheck
  rw [← e₁] at ha hb
  obtain ⟨p, rfl, rfl, rfl, rfl, hpos, hfresh, href, hleg, hltx, hdebit, hcredit, hevent, rfl, logs,
    e₂⟩ := applyMovement_ok ha hb hne hmove
  rw [e₁, hdb] at *
  exact ⟨p, logs, rfl, rfl, ⟨hkey, hne, ha, hb, hauth, hsender, hreceiver, hlimits, hpos, hafford, hfresh,
    href, hleg, hltx, hdebit, hcredit, hevent⟩, rfl, rfl, e₂⟩

theorem TransferUseCase.executeReserved_ok {now : Time} {r : TransferResult} {db : Database}
    (hnow : ∃ i, now = c.oracle.clock i) (hkey : db.idempotencyRecords.find? cmd.triple = none)
    (hdb : s.db = { db with
      idempotencyRecords := db.idempotencyRecords.push
        (SqlIdempotencyRepository.processing cmd.triple cmd.requestFingerprint now) })
    (h : executeReserved (useCaseOver exec c) c cmd now s = .ok r s') :
    ∃ p, Executed exec c cmd db s'.db r p := by
  obtain ⟨_, s₁, h₁, h⟩ := bind_ok.1 h
  obtain ⟨hne, rfl⟩ := ensure_ok.1 h₁
  obtain ⟨parties, s₂, h₂, h⟩ := bind_ok.1 h
  obtain ⟨fee, s₃, h₃, h⟩ := bind_ok.1 h
  obtain ⟨m, s₄, h₄, h⟩ := bind_ok.1 h
  obtain ⟨p, logs, rfl, rfl, hv, rfl, rfl, e₄⟩ := movement_ok hkey hdb hne h₂ h₃ h₄
  obtain ⟨_, s₅, h₅, h⟩ := bind_ok.1 h
  obtain ⟨_, s₆, h₆, h⟩ := bind_ok.1 h
  have e₆ := writeDb_ok h₆
  obtain ⟨rfl, rfl⟩ := pure_ok.1 h
  have hresult : resultOf p.cmd ⟨p.transferId, p.reference, _, p.credited⟩
      (noFeeStrategy p.cmd.amount) p.now = p.result := Posting.resultOf_eq p
  rw [hresult] at e₆ ⊢
  exact ⟨p, rfl, hnow, hv, rfl, s₄, s₅, logs, e₄, h₅, e₆⟩

/-- The transfer a replay reports is the one its record answers with. -/
theorem TransferUseCase.replayResult_ok {row : IdempotencyRow} {r : TransferResult}
    (h : replayResult c (row.responseBody.getD []) row.resourceId s = .ok r s') :
    s'.db = s.db ∧ row.transferId? = some r.transferId ∧ r.replayed = true := by
  obtain ⟨currency, s₁, h₁, h⟩ := bind_ok.1 h
  obtain ⟨-, rfl⟩ := orRaise_ok.1 h₁
  obtain ⟨t, s₂, h₂, h⟩ := bind_ok.1 h
  obtain ⟨ht, rfl⟩ := orRaise_ok.1 h₂
  obtain ⟨completedAt, s₃, h₃, h⟩ := bind_ok.1 h
  obtain ⟨rfl, rfl⟩ := pure_ok.1 h
  refine ⟨?_, ht, rfl⟩
  unfold storedCompletedAt at h₃
  cases hc : (row.responseBody.getD []).str? "completedAt" with
  | none =>
    rw [hc] at h₃
    exact (now_ok h₃).1
  | some text =>
    rw [hc] at h₃
    obtain ⟨-, rfl⟩ := orRaise_ok.1 h₃
    rfl

/-- The execution answered from the store. -/
def Replayed (cmd : TransferCommand) (db db' : Database) (r : TransferResult) : Prop :=
  db' = db ∧ r.replayed = true ∧
    ∃ row, Replays db cmd.triple cmd.requestFingerprint r.transferId row

/-- A successful execution is a replay, or a first execution. -/
theorem TransferUseCase.execute_ok {r : TransferResult}
    (h : (useCaseOver exec c).execute c cmd s = .ok r s') :
    Replayed cmd s.db s'.db r ∨ ∃ p, Executed exec c cmd s.db s'.db r p := by
  obtain ⟨now, s₁, h₁, h⟩ := bind_ok.1 h
  obtain ⟨e₁, hnow⟩ := now_ok h₁
  obtain ⟨decision, s₂, h₂, h⟩ := bind_ok.1 h
  obtain ⟨o, s₃, h₃, h⟩ := bind_ok.1 h
  rcases SqlIdempotencyRepository.reserve_ok h₂ with ⟨rfl, hn, e₂⟩ | ⟨rfl, row, hrow, hd⟩
  · obtain ⟨rfl, rfl⟩ := pure_ok.1 h₃
    rw [e₁] at hn e₂
    exact .inr (executeReserved_ok ⟨_, hnow⟩ hn e₂ h)
  · rcases hd with ⟨rfl, -⟩ | ⟨hf, hc, rfl⟩ | ⟨-, -, rfl⟩
    · exact (raise_ok.1 h₃).elim
    · left
      obtain ⟨result, s₄, h₄, h₅⟩ := bind_ok.1 h₃
      obtain ⟨rfl, rfl⟩ := pure_ok.1 h₅
      obtain ⟨rfl, rfl⟩ := pure_ok.1 h
      obtain ⟨e₄, ht, hr⟩ := replayResult_ok h₄
      rw [e₁] at hrow e₄
      exact ⟨e₄, hr, row, hrow, hf, hc, ht⟩
    · exact (raise_ok.1 h₃).elim

/-! ### The lien's loop -/

/-- What an execution leaves alone, whatever it repays on the way. -/
structure Untouched (db db' : Database) : Prop where
  escrows : db'.safepayEscrows = db.safepayEscrows
  requests : db'.moneyRequests = db.moneyRequests
  pools : db'.overdraftPools = db.overdraftPools
  grants : db'.overdraftGrants = db.overdraftGrants
  tasks : db'.scheduledTasks = db.scheduledTasks
  transfers : ∀ k x, db.transfers.find? k = some x → db'.transfers.find? k = some x
  owners : ∀ id u, db.OwnedBy id u → db'.OwnedBy id u

theorem Untouched.refl (db : Database) : Untouched db db :=
  ⟨rfl, rfl, rfl, rfl, rfl, fun _ _ h => h, fun _ _ h => h⟩

theorem Untouched.trans {db₁ db₂ db₃ : Database} (h : Untouched db₁ db₂) (k : Untouched db₂ db₃) :
    Untouched db₁ db₃ where
  escrows := k.escrows.trans h.escrows
  requests := k.requests.trans h.requests
  pools := k.pools.trans h.pools
  grants := k.grants.trans h.grants
  tasks := k.tasks.trans h.tasks
  transfers := fun i x hx => k.transfers i x (h.transfers i x hx)
  owners := fun i u hu => k.owners i u (h.owners i u hu)

/-- A balance change keeps an account's type and owner. -/
theorem Posting.find?_accountsAfter {p : Posting} {accounts : Table AccountRow.id} {id : Ulid}
    {a : AccountRow} (h : accounts.find? id = some a) :
    ∃ a', (p.accountsAfter accounts).find? id = some a' ∧ a'.accountType = a.accountType ∧
      a'.userId = a.userId ∧ a'.status = a.status := by
  unfold Posting.accountsAfter
  rw [Table.find?_modifyAt, Table.find?_modifyAt, Table.find?_modifyAt]
  by_cases hr : id = p.cmd.receiverAccountId
  · subst hr
    by_cases hs : p.cmd.receiverAccountId = p.cmd.senderAccountId
    · rw [if_pos rfl, if_pos hs, ← hs, h]
      exact ⟨_, rfl, rfl, rfl, rfl⟩
    · rw [if_pos rfl, if_neg hs, h]
      exact ⟨_, rfl, rfl, rfl, rfl⟩
  · rw [if_neg hr]
    by_cases hs : id = p.cmd.senderAccountId
    · rw [if_pos hs, ← hs, h]
      exact ⟨_, rfl, rfl, rfl, rfl⟩
    · rw [if_neg hs, h]
      exact ⟨_, rfl, rfl, rfl, rfl⟩

theorem Posting.find?_push_row {p : Posting} {db : Database} (hv : p.Valid c db) :
    (db.transfers.push p.row).find? p.transferId = some p.row :=
  Table.find?_push_self hv.transfer_fresh

/-- The posting, its audit row, and whatever became of the keys. -/
theorem Posting.untouched (p : Posting) (db : Database) (logs : Table AuditLogRow.id) (records : Table IdempotencyRow.triple) :
    Untouched db { p.apply db with auditLogs := logs, idempotencyRecords := records } where
  escrows := rfl
  requests := rfl
  pools := rfl
  grants := rfl
  tasks := rfl
  transfers := by
    intro k x hx
    exact Table.find?_push_of_some hx
  owners := by
    rintro id u ⟨a, ha, ht, hu⟩
    obtain ⟨a', ha', ht', hu', -⟩ := Posting.find?_accountsAfter (p := p) ha
    exact ⟨a', ha', ht'.trans ht, hu'.trans hu⟩

theorem Steps.audit {L : Licence} {g : Progress} (db : Database) (logs : Table AuditLogRow.id) :
    Steps c L ⟨g, db⟩ ⟨g, { db with auditLogs := logs }⟩ :=
  .single (.quiet db.users db.sessions logs db.outboxEvents (.refl _) (.refl _) (.refl _))

variable (L : Licence) (d : Duty) (rs : List IdempotencyRow)

/-- The money of one repayment: the posting and the completion of its key. -/
theorem Executed.repays {r : TransferResult} {p : Posting} {db db' : Database} {loan : LoanRow}
    {pool : PoolRow} (h : Executed exec c cmd db db' r p) (hr : Repays db p loan pool) :
    Steps c L ⟨⟨d, none, rs⟩, db⟩ ⟨⟨d, some (p.row, loan.id), rs⟩, db'⟩ ∧ Untouched db db' ∧
      db'.overdraftLoans = db.overdraftLoans := by
  obtain ⟨s₁, s₂, logs, e₁, h₁, e₂⟩ := h.runs
  have hk : isLoanLeg cmd.kind = true := by
    rw [← h.cmd_eq, hr.kind]
    rfl
  simp only [afterCredit, hk, if_true] at h₁
  obtain ⟨-, rfl⟩ := pure_ok.1 h₁
  subst e₂
  rw [e₁, ← h.cmd_eq]
  refine ⟨?_, Posting.untouched p db _ _, rfl⟩
  have hpost : Steps c L ⟨⟨d, none, rs⟩, db⟩
      ⟨⟨d, some (p.row, loan.id), p.reservation :: rs⟩, p.apply db⟩ :=
    .single (.repay p loan pool h.valid hr)
  have hkey : { p.apply db with auditLogs := logs }.LienKey p.cmd.idempotencyKey :=
    hr.key.mono (Table.extends_push _ _)
  have hfinish : Step c L
      ⟨⟨d, some (p.row, loan.id), p.reservation :: rs⟩, { p.apply db with auditLogs := logs }⟩ _ :=
    .finish p (Posting.find?_push_row h.valid) (.inr ⟨⟨loan.id, rfl⟩, hr.kind, hr.endpoint, hkey⟩)
  exact (hpost.trans (Steps.audit _ logs)).tail hfinish

/-- A repayment of an outstanding loan is recorded. -/
theorem SqlOverdraftRepository.applyRepayment_ok {loan : LoanRow} {t incoming : Ulid} {n : Int}
    {now : Time} {u : Unit} (hf : s.db.overdraftLoans.find? loan.id = some loan)
    (ho : loan.status = .outstanding)
    (h : SqlOverdraftRepository.applyRepayment c loan.id t n incoming now s = .ok u s') :
    ∃ x : RepaymentRow, x.loanId = loan.id ∧ x.transferId = t ∧ x.amountMinor = n ∧
      s.db.overdraftRepayments.find? x.id = none ∧
      (∀ y ∈ s.db.overdraftRepayments.rows, y.transferId ≠ t) ∧
      s'.db = { s.db with
        overdraftLoans := s.db.overdraftLoans.modifyAt loan.id
          (SqlOverdraftRepository.repaid (max 0 (loan.outstandingMinor - n)) now)
          (SqlOverdraftRepository.id_repaid _ _)
        overdraftRepayments := s.db.overdraftRepayments.push x } := by
  obtain ⟨o, s₁, h₁, h⟩ := bind_ok.1 h
  obtain ⟨rfl, rfl⟩ := readDb_ok.1 h₁
  rw [hf] at h
  dsimp only at h
  rw [if_pos ho] at h
  obtain ⟨k, s₂, h₂, h⟩ := bind_ok.1 h
  have hk : k = 1 := by
    rcases updateWhere_ok h₂ with ⟨-, -, hp⟩ | ⟨_, hk, -⟩
    · have := hp loan hf
      simp [ho] at this
    · exact hk
  obtain ⟨-, -, -, -, e₂⟩ := updateWhere_db h₂ hk
  obtain ⟨id, s₃, h₃, h⟩ := bind_ok.1 h
  obtain ⟨hn, hadmits, e₄⟩ := insertInto_ok h
  rw [newUlid_ok h₃, e₂] at hn hadmits e₄
  simp only [Bool.and_eq_true, List.all_eq_true, decide_eq_true_eq] at hadmits
  exact ⟨_, rfl, rfl, rfl, hn, hadmits.1.1.1.1, e₄⟩

/-- What the loop knows about a loan it is about to repay. -/
def Repayable (db : Database) (u : Ulid) (l : LoanRow × PoolRow) : Prop :=
  db.overdraftLoans.find? l.1.id = some l.1 ∧ db.overdraftPools.find? l.1.poolId = some l.2 ∧
    l.1.status = .outstanding ∧ l.1.borrowerUserId = u

/-- One round of the loop. -/
theorem OverdraftService.repayOne_steps {t rid u : Ulid} {cur : Currency} {req : Option String}
    {loan : LoanRow} {pool : PoolRow} {n : Int} {v : Unit} (hl : Repayable s.db u (loan, pool))
    (hn : n ≤ loan.outstandingMinor) (ho : s.db.OwnedBy rid u)
    (hin : (s.db.transfers.find? t).isSome = true)
    (h : repayOne (execute c) c t rid u cur req loan pool n s = .ok v s') :
    Steps c L ⟨⟨d, none, rs⟩, s.db⟩ ⟨⟨d, none, rs⟩, s'.db⟩ ∧ Untouched s.db s'.db ∧
      ∀ l u', l.1.id ≠ loan.id → Repayable s.db u' l → Repayable s'.db u' l := by
  obtain ⟨hloan, hpool, hout, rfl⟩ := hl
  obtain ⟨r, s₁, h₁, h⟩ := bind_ok.1 h
  rw [execute_wired] at h₁
  obtain ⟨now, s₂, h₂, h⟩ := bind_ok.1 h
  have e₂ := (now_ok h₂).1
  rcases TransferUseCase.execute_ok h₁ with ⟨e₁, -, row, hrow⟩ | ⟨p, hp⟩
  · -- a replay: the caller records a repayment no money was moved for
    rw [e₁] at e₂
    obtain ⟨x, -, -, -, -, hfresh, e₃⟩ :=
      SqlOverdraftRepository.applyRepayment_ok (e₂ ▸ hloan) hout h
    rw [e₂] at hfresh e₃
    refine ⟨?_, ?_, ?_⟩
    · rw [e₃]
      exact .single (.stray (.repay hrow rfl hfresh) _ _ _)
    · rw [e₃]
      exact ⟨rfl, rfl, rfl, rfl, rfl, fun _ _ hx => hx, fun _ _ hx => hx⟩
    · rintro l u' hne ⟨hf, hrest⟩
      rw [e₃]
      refine ⟨?_, hrest⟩
      dsimp only
      rw [Table.find?_modifyAt, if_neg hne, hf]
  · obtain ⟨a, ha, hat, hau⟩ := ho
    have hsender : p.sender = a := by
      have := hp.valid.sender_found
      rw [hp.cmd_eq] at this
      exact Option.some.inj (this.symm.trans ha)
    have hr : Repays s.db p loan pool := by
      refine ⟨?_, ?_, ?_, hloan, hpool, hout, ?_, ?_, hsender ▸ hat, hsender ▸ hau, ?_⟩ <;>
        rw [hp.cmd_eq]
      · rfl
      · rfl
      · rfl
      · exact hn
      · rfl
      · exact ⟨t, loan.id.text, hin, rfl⟩
    obtain ⟨hsteps, hun, hloans⟩ := hp.repays L d rs hr
    rw [← e₂] at hsteps hun hloans
    obtain ⟨x, hx₁, hx₂, hx₃, hx₄, -, e₃⟩ :=
      SqlOverdraftRepository.applyRepayment_ok (hloans ▸ hloan) hout h
    have hamount : n = p.row.amountMinor := by
      show n = p.cmd.amount.minor
      rw [hp.cmd_eq]
      rfl
    rw [hp.result] at hx₂
    rw [hamount] at hx₃ e₃
    refine ⟨?_, ?_, ?_⟩
    · rw [e₃]
      exact hsteps.tail (.credit loan x now (hloans ▸ hloan) hout hx₄ hx₁ hx₂ hx₃)
    · rw [e₃]
      exact hun.trans ⟨rfl, rfl, rfl, rfl, rfl, fun _ _ hx => hx, fun _ _ hx => hx⟩
    · rintro l u' hne ⟨hf, hpl, hrest⟩
      rw [e₃]
      refine ⟨?_, ?_, hrest⟩
      · dsimp only
        rw [Table.find?_modifyAt, if_neg hne, hloans, hf]
      · dsimp only
        rw [hun.pools, hpl]

/-- The whole loop. -/
theorem OverdraftService.sweep_steps {t rid u : Ulid} {cur : Currency} {req : Option String}
    {loans : List (LoanRow × PoolRow)} {budget : Int} {v : Unit}
    (hl : ∀ l ∈ loans, Repayable s.db u l) (hnd : (loans.map fun l => l.1.id).Nodup)
    (ho : s.db.OwnedBy rid u) (hin : (s.db.transfers.find? t).isSome = true)
    (h : sweep (execute c) c t rid u cur req loans budget s = .ok v s') :
    Steps c L ⟨⟨d, none, rs⟩, s.db⟩ ⟨⟨d, none, rs⟩, s'.db⟩ ∧ Untouched s.db s'.db := by
  induction loans generalizing s budget with
  | nil =>
    obtain ⟨-, rfl⟩ := pure_ok.1 h
    exact ⟨.refl, .refl _⟩
  | cons l loans ih =>
    obtain ⟨loan, pool⟩ := l
    rw [sweep] at h
    split at h
    · obtain ⟨-, rfl⟩ := pure_ok.1 h
      exact ⟨.refl, .refl _⟩
    · obtain ⟨_, s₁, h₁, h⟩ := bind_ok.1 h
      rw [List.map_cons, List.nodup_cons] at hnd
      obtain ⟨hsteps, hun, hkeep⟩ := repayOne_steps L d rs (hl _ List.mem_cons_self)
        (Int.min_le_right _ _) ho hin h₁
      have hl₁ : ∀ l ∈ loans, Repayable s₁.db u l := by
        intro l hmem
        apply hkeep l u _ (hl l (List.mem_cons_of_mem _ hmem))
        intro heq
        exact hnd.1 (heq ▸ List.mem_map_of_mem hmem)
      have hin₁ : (s₁.db.transfers.find? t).isSome = true := by
        obtain ⟨x, hx⟩ := Option.isSome_iff_exists.1 hin
        rw [hun.transfers _ _ hx]
        rfl
      obtain ⟨hsteps', hun'⟩ := ih hl₁ hnd.2 (hun.owners _ _ ho) hin₁ h
      exact ⟨hsteps.trans hsteps', hun.trans hun'⟩

theorem mem_outstanding {db : Database} {u : Ulid} {l : LoanRow × PoolRow}
    (h : l ∈ SqlOverdraftRepository.outstanding db u) :
    Repayable db u l ∧ 0 < l.1.outstandingMinor := by
  unfold SqlOverdraftRepository.outstanding byCreatedAt at h
  obtain ⟨loan, hloan, hl⟩ := List.mem_filterMap.1 h
  rw [List.mem_insertionSort, List.mem_filter, decide_eq_true_eq] at hloan
  obtain ⟨pool, hpool, rfl⟩ := Option.map_eq_some_iff.1 hl
  exact ⟨⟨Table.find?_of_mem hloan.1, hpool, hloan.2.2.1, hloan.2.1⟩, hloan.2.2.2⟩

theorem nodup_outstanding (db : Database) (u : Ulid) :
    ((SqlOverdraftRepository.outstanding db u).map fun l => l.1.id).Nodup := by
  apply Table.nodup_query
  intro loan l hl
  obtain ⟨pool, -, rfl⟩ := Option.map_eq_some_iff.1 hl
  rfl

/-- The interceptor: nothing, or repayments out of the receiver's `USER` account. -/
theorem OverdraftService.afterCredit_steps {t : Ulid} {a : Account} {m : Money}
    {kind : TransferKind} {req : Option String} {v : Unit}
    (ho : ∀ u, a.accountType = .user → a.userId = some u → s.db.OwnedBy a.id u)
    (hin : (s.db.transfers.find? t).isSome = true)
    (h : afterCredit (execute c) c t a m kind req s = .ok v s') :
    Steps c L ⟨⟨d, none, rs⟩, s.db⟩ ⟨⟨d, none, rs⟩, s'.db⟩ ∧ Untouched s.db s'.db := by
  unfold afterCredit at h
  split at h
  · obtain ⟨-, rfl⟩ := pure_ok.1 h
    exact ⟨.refl, .refl _⟩
  · cases hu : sweepable a.accountType a.userId with
    | none =>
      simp only [hu] at h
      obtain ⟨-, rfl⟩ := pure_ok.1 h
      exact ⟨.refl, .refl _⟩
    | some u =>
      simp only [hu] at h
      split at h
      · obtain ⟨-, rfl⟩ := pure_ok.1 h
        exact ⟨.refl, .refl _⟩
      · obtain ⟨loans, s₁, h₁, h⟩ := bind_ok.1 h
        obtain ⟨rfl, rfl⟩ := readDb_ok.1 h₁
        have htype : a.accountType = .user ∧ a.userId = some u := by
          unfold sweepable at hu
          split at hu
          · exact ⟨‹_›, hu⟩
          · cases hu
        exact sweep_steps L d rs (fun l hl => (mem_outstanding hl).1) (nodup_outstanding _ _)
          (ho u htype.1 htype.2) hin h

/-- What a first execution does, for whoever is entitled to post it. -/
structure Posted (c : Ctx) (cmd : TransferCommand) (db db' : Database) (r : TransferResult)
    (p : Posting) : Prop where
  cmd_eq : p.cmd = cmd
  valid : p.Valid c db
  result : r = p.result
  untouched : Untouched db db'
  row : db'.transfers.find? p.transferId = some p.row
  steps : ∀ L d d' rs, Licence.post L db d p d' →
    Steps c L ⟨⟨d, none, rs⟩, db⟩ ⟨⟨d', none, rs⟩, db'⟩

/-- Between the posting and the completion of its key only the lien runs. -/
theorem Executed.swept {r : TransferResult} {p : Posting} {db db' : Database}
    (h : Executed (execute c) c cmd db db' r p) :
    ∃ db₁ logs, (∀ L d rs, Steps c L ⟨⟨d, none, rs⟩, { p.apply db with auditLogs := logs }⟩
        ⟨⟨d, none, rs⟩, db₁⟩) ∧
      Untouched { p.apply db with auditLogs := logs } db₁ ∧ db' = { db₁ with
        idempotencyRecords := db₁.idempotencyRecords.modifyAt cmd.triple
          (SqlIdempotencyRepository.completedRow p.transferId 201 p.result.toResponse p.now)
          (SqlIdempotencyRepository.triple_completedRow _ _ _ _) } := by
  obtain ⟨s₁, s₂, logs, e₁, h₁, rfl⟩ := h.runs
  have hid : p.receiver.id = p.cmd.receiverAccountId := Table.key_of_find? h.valid.receiver_found
  have ho : ∀ u, p.credited.accountType = .user → p.credited.userId = some u →
      s₁.db.OwnedBy p.credited.id u := by
    intro u ht hu
    rw [e₁]
    apply (Posting.untouched p db logs _).owners
    exact ⟨p.receiver, (congrArg _ hid).trans h.valid.receiver_found, ht, hu⟩
  have hin : (s₁.db.transfers.find? p.transferId).isSome = true := by
    rw [e₁]
    exact Option.isSome_iff_exists.2 ⟨_, Posting.find?_push_row h.valid⟩
  have hsweep := fun L d rs => OverdraftService.afterCredit_steps (c := c) L d rs ho hin h₁
  rw [e₁] at hsweep
  exact ⟨s₂.db, logs, fun L d rs => (hsweep L d rs).1, (hsweep .all .none []).2, rfl⟩

theorem Executed.posted {r : TransferResult} {p : Posting} {db db' : Database}
    (h : Executed (execute c) c cmd db db' r p) : Posted c cmd db db' r p := by
  obtain ⟨db₁, logs, hsweep, hun, rfl⟩ := h.swept
  have hrow := hun.transfers _ _ (Posting.find?_push_row h.valid)
  refine ⟨h.cmd_eq, h.valid, h.result, ?_, hrow, ?_⟩
  · have hpost := (Posting.untouched p db logs _).trans hun
    exact ⟨hpost.escrows, hpost.requests, hpost.pools, hpost.grants, hpost.tasks, hpost.transfers,
      hpost.owners⟩
  · intro L d d' rs hl
    have hposted : Steps c L ⟨⟨d, none, rs⟩, db⟩ ⟨⟨d', none, p.reservation :: rs⟩, p.apply db⟩ :=
      .single (.post p h.valid hl)
    have hfinish : Step c L ⟨⟨d', none, p.reservation :: rs⟩, db₁⟩ _ :=
      .finish p hrow (.inl ⟨rfl, db, d, hl⟩)
    rw [← h.cmd_eq]
    exact ((hposted.trans (Steps.audit _ logs)).trans (hsweep L d' _)).tail hfinish

/-- The wired use case: a replay, or a first execution. -/
theorem execute_ok {r : TransferResult} (h : execute c cmd s = .ok r s') :
    Replayed cmd s.db s'.db r ∨ ∃ p, Posted c cmd s.db s'.db r p := by
  rw [execute_wired] at h
  rcases TransferUseCase.execute_ok h with h | ⟨p, hp⟩
  · exact .inl h
  · exact .inr ⟨p, hp.posted⟩

end UseCase

end MoneyMovement

/-
  MoneyMovement/Fees.lean
  =======================
  **Fee strategies and the books.**

  The fee is a policy of its own (`domain/policies.py`), and the transfer use
  case takes any.  The sender is charged amount and fee, the receiver is
  credited the amount, and the ledger posting carries the amount: the fee leaves
  the sender and arrives nowhere.  `Charges` measures that, leg by leg, over a
  whole execution with the repayments it sweeps, and `books_survive_fees_iff`
  says when nothing was lost.
-/
import MoneyMovement.Books
import MoneyMovement.ExecuteSpec
import MoneyMovement.Requests

namespace MoneyMovement

open Txn DoubleEntry OverdraftService

/-! ### Strategies -/

def flatFeeStrategy (flatMinor : Int) : FeeStrategy := fun amount => ⟨flatMinor, amount.currency⟩

/-- Basis points of the amount, rounded up, and at least the minimum. -/
def percentageFeeStrategy (basisPoints minimumMinor : Int) : FeeStrategy := fun amount =>
  ⟨max (-(-amount.minor * basisPoints / 10000)) minimumMinor, amount.currency⟩

/-- What a strategy is asked for: no negative fee, in the transfer's currency. -/
def FeeStrategy.Admissible (fee : FeeStrategy) : Prop :=
  ∀ amount, 0 ≤ (fee amount).minor ∧ (fee amount).currency = amount.currency

theorem flatFeeStrategy_admissible {flatMinor : Int} (h : 0 ≤ flatMinor) :
    (flatFeeStrategy flatMinor).Admissible := fun _ => ⟨h, rfl⟩

namespace Container

/-- The wired use case with another fee strategy. -/
def useCaseCharging (fee : FeeStrategy) (exec : TransferCommand → Tx TransferResult) (c : Ctx) :
    TransferUseCase :=
  { useCaseOver exec c with feeStrategy := fee }

def wiredCharging (fee : FeeStrategy) (c : Ctx) : Nat → TransferCommand → Tx TransferResult
  | 0 => fun _ => raise ⟨.python, "maximum recursion depth exceeded", []⟩
  | n + 1 => (useCaseCharging fee (wiredCharging fee c n) c).execute c

theorem wiredCharging_noFee (c : Ctx) (n : Nat) : wiredCharging noFeeStrategy c n = wiredAt c n := by
  induction n with
  | zero => rfl
  | succ n ih =>
    rw [wiredCharging, ih]
    rfl

end Container

/-- `execute` of the wired use case under a fee strategy. -/
def executeCharging (fee : FeeStrategy) (c : Ctx) (cmd : TransferCommand) : Tx TransferResult :=
  Container.wiredCharging fee c 2 cmd

theorem executeCharging_noFee (c : Ctx) (cmd : TransferCommand) :
    executeCharging noFeeStrategy c cmd = execute c cmd := by
  rw [executeCharging, Container.wiredCharging_noFee]
  rfl

/-! ### What a fee does to the books -/

/-- The sum of an account's ledger entries. -/
def Database.posted (db : Database) (account : Ulid) : Int :=
  net LedgerEntryRow.amountMinor (entriesOf LedgerEntryRow.accountId db.ledgerEntries.rows account)

/-- Each balance is the sum of its account's entries, and all balances sum to zero. -/
def Database.Reconciles (db : Database) : Prop :=
  (∀ a ∈ db.accounts.rows, a.balanceMinor = db.posted a.id) ∧
    db.accounts.sum AccountRow.balanceMinor = 0

instance (db : Database) : Decidable db.Reconciles :=
  inferInstanceAs (Decidable (_ ∧ _))

/-- The balances lost `fee` altogether; when that is nothing, no balance parted from its
    entries. -/
structure Charges (db db' : Database) (fee : Int) : Prop where
  nonneg : 0 ≤ fee
  total : db'.accounts.sum AccountRow.balanceMinor =
    db.accounts.sum AccountRow.balanceMinor - fee
  kept : fee = 0 → ∀ a' ∈ db'.accounts.rows, ∃ a ∈ db.accounts.rows, a.id = a'.id ∧
    a'.balanceMinor - db'.posted a'.id = a.balanceMinor - db.posted a.id

namespace Charges

variable {db db' db'' : Database} {fee fee' : Int}

theorem of_eq (ha : db'.accounts = db.accounts) (he : db'.ledgerEntries = db.ledgerEntries) :
    Charges db db' 0 := by
  refine ⟨Int.le_refl 0, by rw [ha]; omega, ?_⟩
  intro _ a' ha'
  refine ⟨a', ha ▸ ha', rfl, ?_⟩
  rw [Database.posted, Database.posted, he]

theorem trans (h : Charges db db' fee) (h' : Charges db' db'' fee') :
    Charges db db'' (fee + fee') := by
  have hfee := h.nonneg
  have hfee' := h'.nonneg
  refine ⟨by omega, by rw [h'.total, h.total]; omega, ?_⟩
  intro hzero a'' ha''
  obtain ⟨a', ha', hid', heq'⟩ := h'.kept (by omega) a'' ha''
  obtain ⟨a, ha, hid, heq⟩ := h.kept (by omega) a' ha'
  exact ⟨a, ha, hid.trans hid', heq'.trans heq⟩

/-- The books survive exactly when nothing was charged. -/
theorem reconciles_iff (h : Charges db db' fee) (hb : db.Reconciles) : db'.Reconciles ↔ fee = 0 := by
  have htotal := h.total
  rw [hb.2] at htotal
  constructor
  · intro hb'
    have := hb'.2
    omega
  · intro hzero
    refine ⟨?_, by omega⟩
    intro a' ha'
    obtain ⟨a, ha, -, heq⟩ := h.kept hzero a' ha'
    have := hb.1 a ha
    omega

/-- One leg: the sender pays amount and fee, the entries carry the amount. -/
theorem leg {a b : AccountRow} {amount : Int} {stamp : Time} (debit credit : LedgerEntryRow)
    (ha : db.accounts.find? debit.accountId = some a)
    (hb : db.accounts.find? credit.accountId = some b) (hne : debit.accountId ≠ credit.accountId)
    (hfee : 0 ≤ fee) (hdebit : debit.amountMinor = -amount) (hcredit : credit.amountMinor = amount)
    (hd : db.ledgerEntries.find? debit.id = none)
    (hc : (db.ledgerEntries.push debit).find? credit.id = none)
    (haccounts : db'.accounts = (db.accounts.modifyAt debit.accountId
      (AccountRow.moved (-(amount + fee)) stamp) (AccountRow.id_moved _ _)).modifyAt
        credit.accountId (AccountRow.moved amount stamp) (AccountRow.id_moved _ _))
    (hentries : db'.ledgerEntries = (db.ledgerEntries.push debit).push credit) :
    Charges db db' fee := by
  have hb' : (db.accounts.modifyAt debit.accountId (AccountRow.moved (-(amount + fee)) stamp)
      (AccountRow.id_moved _ _)).find? credit.accountId = some b := by
    rw [Table.find?_modifyAt, if_neg hne.symm, hb]
  have hposted : ∀ k, db'.posted k = db.posted k + (if debit.accountId = k then -amount else 0) +
      (if credit.accountId = k then amount else 0) := by
    intro k
    unfold Database.posted
    rw [hentries, Table.rows_push hc, Table.rows_push hd, entriesOf_append, entriesOf_append,
      net_append, net_append]
    congr 1
    · congr 1
      by_cases hk : debit.accountId = k
      · rw [if_pos hk, entriesOf_of_forall (by simpa using hk), net_singleton, hdebit]
      · rw [if_neg hk, entriesOf_eq_nil (by simpa using hk)]
        rfl
    · by_cases hk : credit.accountId = k
      · rw [if_pos hk, entriesOf_of_forall (by simpa using hk), net_singleton, hcredit]
      · rw [if_neg hk, entriesOf_eq_nil (by simpa using hk)]
        rfl
  refine ⟨hfee, ?_, ?_⟩
  · rw [haccounts, Table.sum_modifyAt hb', Table.sum_modifyAt ha]
    show _ + (a.balanceMinor + -(amount + fee) - a.balanceMinor) +
      (b.balanceMinor + amount - b.balanceMinor) = _
    omega
  · rintro rfl a' ha'
    rw [haccounts] at ha'
    obtain ⟨a₁, ha₁, rfl⟩ := Table.mem_modifyAt.1 ha'
    obtain ⟨a₀, ha₀, rfl⟩ := Table.mem_modifyAt.1 ha₁
    refine ⟨a₀, ha₀, ?_⟩
    by_cases hx : a₀.id = debit.accountId
    · have hy : a₀.id ≠ credit.accountId := hx ▸ hne
      rw [if_pos hx, AccountRow.id_moved, if_neg hy]
      refine ⟨rfl, ?_⟩
      rw [hposted, AccountRow.id_moved, if_pos hx.symm, if_neg (Ne.symm hy)]
      show a₀.balanceMinor + -(amount + 0) - _ = _
      omega
    · rw [if_neg hx]
      by_cases hy : a₀.id = credit.accountId
      · rw [if_pos hy]
        refine ⟨rfl, ?_⟩
        rw [hposted, AccountRow.id_moved, if_neg (Ne.symm hx), if_pos hy.symm]
        show a₀.balanceMinor + amount - _ = _
        omega
      · rw [if_neg hy]
        refine ⟨rfl, ?_⟩
        rw [hposted, if_neg (Ne.symm hx), if_neg (Ne.symm hy)]
        omega

end Charges

/-! ### One execution -/

/-- Nothing was drawn from the outside. -/
def SameDraws (s s' : Session) : Prop := s'.draws = s.draws

instance : Std.Refl SameDraws := ⟨fun _ => rfl⟩

instance : IsTrans Session SameDraws := ⟨fun _ _ _ h h' => h'.trans h⟩

theorem SameDraws.of_ok {α : Type} {m : Tx α} {a : α} {s s' : Session} (hm : Always SameDraws m)
    (h : m s = .ok a s') : s'.draws = s.draws := by
  have := hm s
  rw [h] at this
  exact this

theorem writeDb_sameDraws (f : Database → Database) : Always SameDraws (writeDb f) :=
  fun _ => rfl

theorem acquire_sameDraws (ids : List Ulid) : Always SameDraws (SqlAccountRepository.acquire ids) :=
  fun _ => rfl

theorem reserve_sameDraws (triple : IdempotencyTriple) (f : String) (now : Time) :
    Always SameDraws (SqlIdempotencyRepository.reserve triple f now) := by
  refine (Always.ensure _ _).bind fun _ => (Always.query _).bind fun o => ?_
  cases o with
  | none => exact (writeDb_sameDraws _).bind fun _ => Always.pure _
  | some r =>
    dsimp only
    split
    · exact Always.pure _
    · split <;> exact Always.pure _

section Execution

variable {fee : FeeStrategy} {exec : TransferCommand → Tx TransferResult} {c : Ctx}
  {cmd : TransferCommand} {s s' : Session}

open Container TransferUseCase

theorem additionalLockIds_sameDraws (id : Ulid) (kind : TransferKind) :
    Always SameDraws (additionalLockIds id kind) := by
  unfold additionalLockIds
  split
  · exact Always.pure _
  · refine (Always.query _).bind fun o => ?_
    cases o with
    | none => exact Always.pure _
    | some a =>
      dsimp only
      split
      · exact Always.pure _
      · exact (Always.query _).bind fun _ => Always.pure _

theorem lockParties_sameDraws : Always SameDraws (lockParties (useCaseOver exec c) cmd) := by
  have hlock : ∀ ids, Always SameDraws (SqlAccountRepository.lockForUpdate ids) := fun ids =>
    (acquire_sameDraws ids).bind fun _ => Always.query _
  exact (additionalLockIds_sameDraws _ _).bind fun _ => (hlock _).bind fun _ =>
    (Always.orRaise _ _).bind fun _ => (Always.orRaise _ _).bind fun _ => Always.pure _

/-- The checks on the locked state, under any strategy. -/
theorem revalidate_charging {a b : Account} {now : Time} {m : Money}
    (h : revalidate (useCaseCharging fee exec c) cmd a b now s = .ok m s') :
    s = s' ∧ m = fee cmd.amount := by
  obtain ⟨_, s₁, h₁, h⟩ := bind_ok.1 h
  obtain ⟨-, rfl⟩ := ensure_ok.1 h₁
  obtain ⟨_, s₂, h₂, h⟩ := bind_ok.1 h
  obtain ⟨-, rfl⟩ := ensure_ok.1 h₂
  obtain ⟨_, s₃, h₃, h⟩ := bind_ok.1 h
  obtain ⟨-, rfl⟩ := ensure_ok.1 h₃
  obtain ⟨_, s₄, h₄, h⟩ := bind_ok.1 h
  obtain ⟨-, rfl⟩ := ensure_ok.1 h₄
  obtain ⟨_, s₅, h₅, h⟩ := bind_ok.1 h
  have hlimits : checkLimits (useCaseOver exec c) cmd a (cmd.amount.add (fee cmd.amount)) now s =
    .ok _ s₅ := h₅
  obtain ⟨rfl, -⟩ := checkLimits_ok hlimits
  obtain ⟨_, s₆, h₆, h⟩ := bind_ok.1 h
  obtain ⟨-, rfl⟩ := ensure_ok.1 h₆
  obtain ⟨rfl, rfl⟩ := pure_ok.1 h
  exact ⟨rfl, rfl⟩

theorem persistBalance_sameDraws (a : Account) :
    Always SameDraws (SqlAccountRepository.persistBalance c a) := by
  exact (acquire_sameDraws _).bind fun _ => (updateWhere_always fun _ _ => rfl).bind fun _ =>
    Always.ensure _ _

/-- The transfer's identifier is the first thing the movement draws. -/
theorem applyMovement_transferId {a b : Account} {m : Movement} {f : Money} {now : Time}
    (h : applyMovement c cmd a b f now s = .ok m s') : m.transferId = c.oracle.ulid s.draws := by
  obtain ⟨_, s₁, h₁, h⟩ := bind_ok.1 h
  obtain ⟨rfl, -, -⟩ := Account.debit_ok h₁
  obtain ⟨_, s₂, h₂, h⟩ := bind_ok.1 h
  obtain ⟨rfl, -, -⟩ := Account.credit_ok h₂
  obtain ⟨_, s₃, h₃, h⟩ := bind_ok.1 h
  have d₃ := SameDraws.of_ok (persistBalance_sameDraws _) h₃
  obtain ⟨_, s₄, h₄, h⟩ := bind_ok.1 h
  have d₄ := SameDraws.of_ok (persistBalance_sameDraws _) h₄
  obtain ⟨tid, s₅, h₅, h⟩ := bind_ok.1 h
  obtain ⟨ref, s₆, -, h⟩ := bind_ok.1 h
  obtain ⟨_, s₇, -, h⟩ := bind_ok.1 h
  obtain ⟨posting, s₈, -, h⟩ := bind_ok.1 h
  obtain ⟨ltx, s₉, -, h⟩ := bind_ok.1 h
  obtain ⟨event, s₁₀, -, h⟩ := bind_ok.1 h
  obtain ⟨_, s₁₁, -, h⟩ := bind_ok.1 h
  obtain ⟨_, s₁₂, -, h⟩ := bind_ok.1 h
  obtain ⟨rfl, -⟩ := pure_ok.1 h
  rw [← d₃, ← d₄]
  cases h₅
  rfl

/-- A first execution under a fee strategy: the leg, what the interceptor then does, and the
    completion of the key. -/
structure Leg (fee : FeeStrategy) (exec : TransferCommand → Tx TransferResult) (c : Ctx)
    (cmd : TransferCommand) (s s' : Session) (receiver : AccountRow) (s₁ s₂ : Session)
    (credited : Account) : Prop where
  receiver_found : s.db.accounts.find? cmd.receiverAccountId = some receiver
  charges : 0 ≤ (fee cmd.amount).minor → Charges s.db s₁.db (fee cmd.amount).minor
  records : ∃ row : IdempotencyRow, row.triple = cmd.triple ∧ row.status = .processing ∧
    s₁.db.idempotencyRecords = s.db.idempotencyRecords.push row
  loans : s₁.db.overdraftLoans = s.db.overdraftLoans
  pools : s₁.db.overdraftPools = s.db.overdraftPools
  credited_type : credited.accountType = receiver.accountType
  credited_user : credited.userId = receiver.userId
  swept : afterCredit exec c (c.oracle.ulid (s.draws + 1)) credited cmd.amount cmd.kind
    cmd.requestId s₁ = .ok () s₂
  finished : ∃ row : IdempotencyRow → IdempotencyRow, ∃ hrow,
    s'.db = { s₂.db with
      idempotencyRecords := s₂.db.idempotencyRecords.modifyAt cmd.triple row hrow }

/-- A successful execution is a replay, which changes nothing, or a leg. -/
theorem execute_charging {r : TransferResult}
    (h : (useCaseCharging fee exec c).execute c cmd s = .ok r s') :
    (∃ row, s.db.idempotencyRecords.find? cmd.triple = some row ∧ row.status = .completed ∧
        s'.db = s.db) ∨
      s.db.idempotencyRecords.find? cmd.triple = none ∧
        ∃ receiver s₁ s₂ credited, Leg fee exec c cmd s s' receiver s₁ s₂ credited := by
  obtain ⟨now, s₁, h₁, h⟩ := bind_ok.1 h
  have e₁ := (now_ok h₁).1
  have d₁ : s₁.draws = s.draws + 1 := by
    cases h₁
    rfl
  obtain ⟨decision, s₂, h₂, h⟩ := bind_ok.1 h
  have d₂ := SameDraws.of_ok (reserve_sameDraws _ _ _) h₂
  obtain ⟨o, s₃, h₃, h⟩ := bind_ok.1 h
  rcases SqlIdempotencyRepository.reserve_ok h₂ with ⟨rfl, hn, e₂⟩ | ⟨rfl, row, hrow, hd⟩
  · obtain ⟨rfl, rfl⟩ := pure_ok.1 h₃
    rw [e₁] at hn e₂
    refine .inr ⟨hn, ?_⟩
    obtain ⟨_, s₄, h₄, h⟩ := bind_ok.1 h
    obtain ⟨hne, rfl⟩ := ensure_ok.1 h₄
    obtain ⟨parties, s₅, h₅, h⟩ := bind_ok.1 h
    have hlock : lockParties (useCaseOver exec c) cmd s₂ = .ok parties s₅ := h₅
    obtain ⟨e₅, a, b, ha, hb, rfl⟩ := lockParties_ok hlock
    have d₅ := SameDraws.of_ok lockParties_sameDraws hlock
    obtain ⟨f, s₆, h₆, h⟩ := bind_ok.1 h
    obtain ⟨rfl, rfl⟩ := revalidate_charging h₆
    obtain ⟨m, s₇, h₇, h⟩ := bind_ok.1 h
    have hid := applyMovement_transferId h₇
    rw [d₅, d₂, d₁] at hid
    obtain ⟨tid, ref, ltx, d, e, event, logs, -, -, -, -, -, hdebit, hcredit, -, rfl, e₇⟩ :=
      applyMovement_db (e₅ ▸ ha) (e₅ ▸ hb) hne h₇
    obtain ⟨_, s₈, h₈, h⟩ := bind_ok.1 h
    obtain ⟨_, s₉, h₉, h⟩ := bind_ok.1 h
    have e₉ := writeDb_ok h₉
    obtain ⟨-, rfl⟩ := pure_ok.1 h
    dsimp only at hid
    subst hid
    rw [e₅, e₂] at e₇ hdebit hcredit
    rw [e₂] at ha hb
    refine ⟨b, s₇, s₈, _, hb, ?_, ⟨_, rfl, rfl, by rw [e₇]⟩, by rw [e₇], by rw [e₇], rfl, rfl, h₈,
      ⟨_, _, e₉⟩⟩
    intro hfee
    exact .leg ⟨d, ltx, cmd.senderAccountId, -cmd.amount.minor, cmd.amount.currency, _, now⟩
      ⟨e, ltx, cmd.receiverAccountId, cmd.amount.minor, cmd.amount.currency, _, now⟩
      ha hb hne hfee rfl rfl hdebit hcredit (by rw [e₇]) (by rw [e₇])
  · left
    rw [e₁] at hrow
    rcases hd with ⟨rfl, -⟩ | ⟨-, hcompleted, rfl⟩ | ⟨-, -, rfl⟩
    · exact (raise_ok.1 h₃).elim
    · obtain ⟨result, s₄, h₄, h₅⟩ := bind_ok.1 h₃
      obtain ⟨rfl, rfl⟩ := pure_ok.1 h₅
      obtain ⟨rfl, rfl⟩ := pure_ok.1 h
      exact ⟨row, hrow, hcompleted, by rw [(replayResult_ok h₄).1, e₁]⟩
    · exact (raise_ok.1 h₃).elim

/-! ### The repayments -/

/-- Nothing is charged under this key: it is recorded already, or the fee is zero. -/
def Uncharged (fee : FeeStrategy) (db : Database) (triple : IdempotencyTriple) (amount : Money) :
    Prop :=
  (db.idempotencyRecords.find? triple).isSome = true ∨ (fee amount).minor = 0

/-- What one execution charges, and what it leaves of the store. -/
structure Charged (fee : FeeStrategy) (triple : IdempotencyTriple) (amount : Money)
    (db db' : Database) (charged : Int) : Prop where
  charges : Charges db db' charged
  zero_iff : charged = 0 ↔ Uncharged fee db triple amount
  completed : ∀ row, db.idempotencyRecords.find? triple = some row → row.status = .completed
  others : ∀ τ, τ ≠ triple → db'.idempotencyRecords.find? τ = db.idempotencyRecords.find? τ

/-- A leg of a loan is not swept. -/
theorem execute_loanLeg_charging {r : TransferResult} (hfee : fee.Admissible)
    (hk : isLoanLeg cmd.kind = true)
    (h : (useCaseCharging fee exec c).execute c cmd s = .ok r s') :
    ∃ charged, Charged fee cmd.triple cmd.amount s.db s'.db charged := by
  rcases execute_charging h with ⟨row, hrow, hcompleted, e⟩ | ⟨hn, receiver, s₁, s₂, a, hleg⟩
  · refine ⟨0, .of_eq (by rw [e]) (by rw [e]), ?_, ?_, by rw [e]; exact fun _ _ => rfl⟩
    · exact iff_of_true rfl (.inl (by rw [hrow]; rfl))
    · intro row' hrow'
      rw [hrow] at hrow'
      cases hrow'
      exact hcompleted
  · obtain ⟨row, hrowTriple, -, hrecords⟩ := hleg.records
    obtain ⟨f, hf, e⟩ := hleg.finished
    have hsame : s₁ = s₂ := by
      have hswept := hleg.swept
      simp only [afterCredit, hk, if_true] at hswept
      exact (pure_ok.1 hswept).2
    subst hsame
    refine ⟨(fee cmd.amount).minor, ?_, ?_, ?_, ?_⟩
    · have hcharges := hleg.charges (hfee cmd.amount).1
      have hlast : Charges s₁.db s'.db 0 := .of_eq (by rw [e]) (by rw [e])
      simpa using hcharges.trans hlast
    · unfold Uncharged
      rw [hn]
      simp
    · intro row' hrow'
      rw [hn] at hrow'
      cases hrow'
    · intro τ hτ
      rw [e]
      dsimp only
      rw [Table.find?_modifyAt, if_neg hτ, hrecords,
        Table.find?_push (by rw [hrowTriple]; exact hn), if_neg (by rw [hrowTriple]; exact Ne.symm hτ)]

/-- Accounts, entries and keys are as they were. -/
def SameBooks (s s' : Session) : Prop :=
  s'.db.accounts = s.db.accounts ∧ s'.db.ledgerEntries = s.db.ledgerEntries ∧
    s'.db.idempotencyRecords = s.db.idempotencyRecords

instance : Std.Refl SameBooks := ⟨fun _ => ⟨rfl, rfl, rfl⟩⟩

instance : IsTrans Session SameBooks :=
  ⟨fun _ _ _ h h' => ⟨h'.1.trans h.1, h'.2.1.trans h.2.1, h'.2.2.trans h.2.2⟩⟩

theorem applyRepayment_sameBooks (loanId t : Ulid) (n : Int) (incoming : Ulid) (now : Time) :
    Always SameBooks (SqlOverdraftRepository.applyRepayment c loanId t n incoming now) := by
  refine (Always.query _).bind fun o => ?_
  cases o with
  | none => exact Always.pure _
  | some loan =>
    dsimp only
    split
    · have hid : Always SameBooks (newUlid c) := fun _ => ⟨rfl, rfl, rfl⟩
      exact (updateWhere_always fun _ _ => ⟨rfl, rfl, rfl⟩).bind fun _ => hid.bind fun _ =>
        insertInto_always fun _ _ => ⟨rfl, rfl, rfl⟩
    · exact Always.pure _

/-- The key of a repayment. -/
def lienTriple (incoming user loan : Ulid) : IdempotencyTriple :=
  ⟨user, LIEN_ENDPOINT, "lien:" ++ incoming.text ++ ":" ++ loan.text⟩

theorem lienTriple_inj {t u loan loan' : Ulid} (h : lienTriple t u loan = lienTriple t u loan') :
    loan = loan' := by
  have hkey : "lien:" ++ t.text ++ ":" ++ loan.text = "lien:" ++ t.text ++ ":" ++ loan'.text :=
    congrArg IdempotencyTriple.key h
  exact Ulid.text_injective ((String.append_right_inj _).1 hkey)

theorem repayOne_charging {t rid u : Ulid} {cur : Currency} {req : Option String} {loan : LoanRow}
    {pool : PoolRow} {n : Int} {v : Unit} (hfee : fee.Admissible)
    (h : repayOne ((useCaseCharging fee exec c).execute c) c t rid u cur req loan pool n s =
      .ok v s') :
    ∃ charged, Charged fee (lienTriple t u loan.id) ⟨n, cur⟩ s.db s'.db charged := by
  obtain ⟨r, s₁, h₁, h⟩ := bind_ok.1 h
  obtain ⟨now, s₂, h₂, h⟩ := bind_ok.1 h
  have e₂ := (now_ok h₂).1
  obtain ⟨charged, hcharged⟩ := execute_loanLeg_charging hfee rfl h₁
  have hbooks := applyRepayment_sameBooks (c := c) loan.id r.transferId n t now s₂
  rw [h, SameBooks] at hbooks
  obtain ⟨ha, he, hr⟩ := hbooks
  rw [e₂] at ha he hr
  have hlast : Charges s₁.db s'.db 0 := .of_eq ha he
  refine ⟨charged, by simpa using hcharged.charges.trans hlast, hcharged.zero_iff, hcharged.completed,
    ?_⟩
  intro τ hτ
  show s'.db.idempotencyRecords.find? τ = _
  rw [show s'.db.idempotencyRecords = s₁.db.idempotencyRecords from hr]
  exact hcharged.others τ hτ

/-- The repayments a budget covers, oldest loan first. -/
def lienLegs : List (LoanRow × PoolRow) → Int → List (LoanRow × Int)
  | [], _ => []
  | (loan, _) :: loans, budget =>
    if budget ≤ 0 then []
    else (loan, min budget loan.outstandingMinor) ::
      lienLegs loans (budget - min budget loan.outstandingMinor)

theorem mem_lienLegs {loans : List (LoanRow × PoolRow)} {budget : Int} {l : LoanRow × Int}
    (h : l ∈ lienLegs loans budget) : l.1.id ∈ loans.map fun x => x.1.id := by
  induction loans generalizing budget with
  | nil => cases h
  | cons x loans ih =>
    obtain ⟨loan, pool⟩ := x
    rw [lienLegs] at h
    split at h
    · cases h
    · rcases List.mem_cons.1 h with rfl | h
      · exact List.mem_cons_self
      · exact List.mem_cons_of_mem _ (ih h)

/-- The loop charges nothing exactly when no leg of it does. -/
theorem sweep_charging {t rid u : Ulid} {cur : Currency} {req : Option String}
    {loans : List (LoanRow × PoolRow)} {budget : Int} {v : Unit} (hfee : fee.Admissible)
    (hnd : (loans.map fun l => l.1.id).Nodup)
    (h : sweep ((useCaseCharging fee exec c).execute c) c t rid u cur req loans budget s = .ok v s') :
    ∃ charged, Charges s.db s'.db charged ∧
      (charged = 0 ↔ ∀ l ∈ lienLegs loans budget,
        Uncharged fee s.db (lienTriple t u l.1.id) ⟨l.2, cur⟩) ∧
      ∀ l ∈ lienLegs loans budget, ∀ row,
        s.db.idempotencyRecords.find? (lienTriple t u l.1.id) = some row → row.status = .completed := by
  induction loans generalizing s budget with
  | nil =>
    obtain ⟨-, rfl⟩ := pure_ok.1 h
    exact ⟨0, .of_eq rfl rfl, by simp [lienLegs], by simp [lienLegs]⟩
  | cons x loans ih =>
    obtain ⟨loan, pool⟩ := x
    rw [sweep] at h
    rw [lienLegs]
    split at h
    · rename_i hspent
      obtain ⟨-, rfl⟩ := pure_ok.1 h
      rw [if_pos hspent]
      exact ⟨0, .of_eq rfl rfl, by simp, by simp⟩
    · rename_i hleft
      rw [if_neg hleft]
      obtain ⟨_, s₁, h₁, h⟩ := bind_ok.1 h
      rw [List.map_cons, List.nodup_cons] at hnd
      obtain ⟨first, hfirst⟩ := repayOne_charging hfee h₁
      obtain ⟨rest, hrest, hiff, hcompleted⟩ := ih hnd.2 h
      -- the first leg's key is not a key of the rest
      have hothers : ∀ l ∈ lienLegs loans (budget - min budget loan.outstandingMinor),
          s₁.db.idempotencyRecords.find? (lienTriple t u l.1.id) =
            s.db.idempotencyRecords.find? (lienTriple t u l.1.id) := by
        intro l hl
        refine hfirst.others _ ?_
        intro heq
        exact hnd.1 (lienTriple_inj heq ▸ mem_lienLegs hl)
      refine ⟨first + rest, hfirst.charges.trans hrest, ?_, ?_⟩
      · have h₀ := hfirst.charges.nonneg
        have h₀' := hrest.nonneg
        have hsum : first + rest = 0 ↔ first = 0 ∧ rest = 0 := by omega
        rw [hsum, hfirst.zero_iff, hiff, List.forall_mem_cons]
        refine and_congr_right fun _ => forall₂_congr fun l hl => ?_
        unfold Uncharged
        rw [hothers l hl]
      · intro l hl row hrow
        rcases List.mem_cons.1 hl with rfl | hl
        · exact hfirst.completed row hrow
        · exact hcompleted l hl row (by rw [hothers l hl]; exact hrow)

/-! ### A whole execution -/

/-- The borrower whose loans a credit of the command would repay. -/
def sweptUser (db : Database) (cmd : TransferCommand) : Option Ulid :=
  if isLoanLeg cmd.kind then none
  else (db.accounts.find? cmd.receiverAccountId).bind fun a => sweepable a.accountType a.userId

/-- No leg of the execution is charged: not the movement itself, unless its key is recorded,
    and no repayment it triggers.  The transfer's identifier is the second value drawn. -/
def ChargesNothing (fee : FeeStrategy) (c : Ctx) (cmd : TransferCommand) (s : Session) : Prop :=
  (s.db.idempotencyRecords.find? cmd.triple).isSome = true ∨
    (fee cmd.amount).minor = 0 ∧ ∀ u, sweptUser s.db cmd = some u →
      ∀ l ∈ lienLegs (SqlOverdraftRepository.outstanding s.db u) (lienBudget c cmd.amount),
        Uncharged fee s.db (lienTriple (c.oracle.ulid (s.draws + 1)) u l.1.id)
          ⟨l.2, cmd.amount.currency⟩

theorem outstanding_congr {db db' : Database} (hl : db'.overdraftLoans = db.overdraftLoans)
    (hp : db'.overdraftPools = db.overdraftPools) (u : Ulid) :
    SqlOverdraftRepository.outstanding db' u = SqlOverdraftRepository.outstanding db u := by
  unfold SqlOverdraftRepository.outstanding
  rw [hl, hp]

theorem lienLegs_of_spent (loans : List (LoanRow × PoolRow)) {budget : Int} (h : budget ≤ 0) :
    lienLegs loans budget = [] := by
  cases loans with
  | nil => rfl
  | cons l loans => rw [lienLegs, if_pos h]

/-- What the interceptor charges after a credit. -/
theorem afterCredit_charging {t : Ulid} {a : Account} {v : Unit} {u? : Option Ulid}
    (hfee : fee.Admissible)
    (hu : u? = if isLoanLeg cmd.kind then none else sweepable a.accountType a.userId)
    (h : afterCredit ((useCaseCharging fee exec c).execute c) c t a cmd.amount cmd.kind cmd.requestId
      s = .ok v s') :
    ∃ charged, Charges s.db s'.db charged ∧
      (charged = 0 ↔ ∀ u, u? = some u →
        ∀ l ∈ lienLegs (SqlOverdraftRepository.outstanding s.db u) (lienBudget c cmd.amount),
          Uncharged fee s.db (lienTriple t u l.1.id) ⟨l.2, cmd.amount.currency⟩) ∧
      ∀ u, u? = some u →
        ∀ l ∈ lienLegs (SqlOverdraftRepository.outstanding s.db u) (lienBudget c cmd.amount), ∀ row,
          s.db.idempotencyRecords.find? (lienTriple t u l.1.id) = some row →
            row.status = .completed := by
  have hnothing : s = s' → (∀ u, u? = some u →
      lienLegs (SqlOverdraftRepository.outstanding s.db u) (lienBudget c cmd.amount) = []) →
      ∃ charged, Charges s.db s'.db charged ∧
      (charged = 0 ↔ ∀ u, u? = some u →
        ∀ l ∈ lienLegs (SqlOverdraftRepository.outstanding s.db u) (lienBudget c cmd.amount),
          Uncharged fee s.db (lienTriple t u l.1.id) ⟨l.2, cmd.amount.currency⟩) ∧
      ∀ u, u? = some u →
        ∀ l ∈ lienLegs (SqlOverdraftRepository.outstanding s.db u) (lienBudget c cmd.amount), ∀ row,
          s.db.idempotencyRecords.find? (lienTriple t u l.1.id) = some row →
            row.status = .completed := by
    rintro rfl hnil
    refine ⟨0, .of_eq rfl rfl, iff_of_true rfl ?_, ?_⟩
    · intro u hu l hl
      rw [hnil u hu] at hl
      cases hl
    · intro u hu l hl
      rw [hnil u hu] at hl
      cases hl
  unfold afterCredit at h
  split at h
  · rename_i hk
    rw [if_pos hk] at hu
    exact hnothing (pure_ok.1 h).2 (by rw [hu]; exact nofun)
  · rename_i hk
    rw [if_neg hk] at hu
    cases hs : sweepable a.accountType a.userId with
    | none =>
      simp only [hs] at h hu
      exact hnothing (pure_ok.1 h).2 (by rw [hu]; exact nofun)
    | some u =>
      simp only [hs] at h hu
      subst hu
      split at h
      · rename_i hspent
        exact hnothing (pure_ok.1 h).2 fun u _ => lienLegs_of_spent _ hspent
      · obtain ⟨loans, s₁, h₁, h⟩ := bind_ok.1 h
        obtain ⟨rfl, rfl⟩ := readDb_ok.1 h₁
        obtain ⟨charged, hcharges, hiff, hcompleted⟩ :=
          sweep_charging hfee (nodup_outstanding _ _) h
        refine ⟨charged, hcharges, ?_, ?_⟩
        · rw [hiff]
          constructor
          · rintro hl u' hu'
            cases hu'
            exact hl
          · intro hl
            exact hl u rfl
        · rintro u' hu'
          cases hu'
          exact hcompleted

/-- What a whole execution charges. -/
theorem executeCharging_charges {r : TransferResult} (hfee : fee.Admissible)
    (h : executeCharging fee c cmd s = .ok r s') :
    ∃ charged, Charges s.db s'.db charged ∧ (charged = 0 ↔ ChargesNothing fee c cmd s) := by
  rcases execute_charging h with ⟨row, hrow, -, e⟩ | ⟨hn, receiver, s₁, s₂, a, hleg⟩
  · exact ⟨0, .of_eq (by rw [e]) (by rw [e]), iff_of_true rfl (.inl (by rw [hrow]; rfl))⟩
  · obtain ⟨row, hrowTriple, hprocessing, hrecords⟩ := hleg.records
    obtain ⟨f, hf, e⟩ := hleg.finished
    have hfresh : s.db.idempotencyRecords.find? row.triple = none := by
      rw [hrowTriple]
      exact hn
    have huser : sweptUser s.db cmd =
        if isLoanLeg cmd.kind then none else sweepable a.accountType a.userId := by
      rw [sweptUser, hleg.receiver_found, hleg.credited_type, hleg.credited_user]
      rfl
    obtain ⟨swept, hswept, hiff, hcompleted⟩ := afterCredit_charging hfee huser hleg.swept
    have hcharges := hleg.charges (hfee cmd.amount).1
    have hlast : Charges s₂.db s'.db 0 := .of_eq (by rw [e]) (by rw [e])
    refine ⟨(fee cmd.amount).minor + swept, by simpa using (hcharges.trans hswept).trans hlast, ?_⟩
    have hsum : (fee cmd.amount).minor + swept = 0 ↔ (fee cmd.amount).minor = 0 ∧ swept = 0 := by
      have h₀ := hcharges.nonneg
      have h₀' := hswept.nonneg
      omega
    rw [hsum, hiff, ChargesNothing, hn]
    simp only [Option.isSome_none, Bool.false_eq_true, false_or]
    refine and_congr_right fun _ => forall₂_congr fun u hu => ?_
    have hkeys := hcompleted u hu
    rw [outstanding_congr hleg.loans hleg.pools] at hkeys ⊢
    refine forall₂_congr fun l hl => ?_
    -- the repayment's key is not the one reserved by the movement: that one is not completed
    have hother : lienTriple (c.oracle.ulid (s.draws + 1)) u l.1.id ≠ row.triple := by
      intro heq
      have hdone := hkeys l hl row (by rw [hrecords, heq, Table.find?_push_self hfresh])
      rw [hprocessing] at hdone
      cases hdone
    unfold Uncharged
    rw [hrecords, Table.find?_push hfresh, if_neg (Ne.symm hother)]

end Execution

/-- The books survive an execution exactly when none of its legs is charged. -/
theorem books_survive_fees_iff (fee : FeeStrategy) (hfee : fee.Admissible) (c : Ctx)
    (cmd : TransferCommand) (s s' : Session) (r : TransferResult) (hbooks : s.db.Reconciles)
    (h : executeCharging fee c cmd s = .ok r s') :
    s'.db.Reconciles ↔ ChargesNothing fee c cmd s := by
  obtain ⟨charged, hcharges, hiff⟩ := executeCharging_charges hfee h
  rw [hcharges.reconciles_iff hbooks, hiff]

namespace Sample

/-- Two users, and a transfer between them. -/
def twoUsers : Session :=
  begin (serveAll deployment [register 1 "01711111111", register 2 "01722222222"] (migrated 0))

def directTransfer : TransferCommand where
  actorUserId := id 1 1
  senderAccountId := id 1 4
  receiverAccountId := id 2 4
  amount := .fromMinor 100000
  idempotencyKey := "key"
  requestFingerprint := "fingerprint"

end Sample

theorem books_survive_fees_flat :
    ∃ r s', executeCharging (flatFeeStrategy 50) (Sample.deployment.ctx (Sample.oracle 3 Sample.start))
        Sample.directTransfer Sample.twoUsers = .ok r s' ∧
      (s'.db.Reconciles ↔ ChargesNothing (flatFeeStrategy 50)
        (Sample.deployment.ctx (Sample.oracle 3 Sample.start)) Sample.directTransfer
        Sample.twoUsers) := by
  obtain ⟨r, s', h⟩ := Outcome.succeeded_iff.1 (show (executeCharging (flatFeeStrategy 50)
    (Sample.deployment.ctx (Sample.oracle 3 Sample.start)) Sample.directTransfer
    Sample.twoUsers).succeeded = true by decide +kernel)
  exact ⟨r, s', h, books_survive_fees_iff _ (flatFeeStrategy_admissible (by decide)) _ _ _ _ _
    (by decide +kernel) h⟩

/-- One percent of a transfer between two users is lost. -/
theorem percentage_fee_is_lost :
    let outcome := executeCharging (percentageFeeStrategy 100 0)
      (Sample.deployment.ctx (Sample.oracle 3 Sample.start)) Sample.directTransfer Sample.twoUsers
    FeeStrategy.Admissible (percentageFeeStrategy 100 0) ∧
      Sample.twoUsers.db.Reconciles ∧ outcome.succeeded = true ∧ ¬outcome.session.db.Reconciles ∧
      (percentageFeeStrategy 100 0 Sample.directTransfer.amount).minor = 1000 ∧
      outcome.session.db.accounts.sum AccountRow.balanceMinor = -1000 :=
  ⟨fun _ => ⟨Int.le_max_right _ _, rfl⟩, by decide +kernel⟩

end MoneyMovement

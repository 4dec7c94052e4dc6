/-
  MoneyMovement/History.lean
  ==========================
  **History is never rewritten.**

  `Continues` relates a database to what any further run makes of it.  The
  ledger, the pools, the grants and the repayments only get longer.  Accounts,
  transfers, keys, requests, orders and loans keep their rows and what those
  rows are about; a row whose matter is closed never changes again.

  So the present ledger still tells every past balance: an account's version
  says how many of its entries there were, and they are the first ones.
-/
import MoneyMovement.TableHistory
import MoneyMovement.Directory

namespace MoneyMovement

open DoubleEntry

/-! ### What a row may become -/

structure AccountRow.Later (a a' : AccountRow) : Prop where
  id : a'.id = a.id
  user : a'.userId = a.userId
  type : a'.accountType = a.accountType
  number : a'.accountNumber = a.accountNumber
  currency : a'.currency = a.currency
  created : a'.createdAt = a.createdAt
  version : a.version ≤ a'.version

/-- A hold that waits may be settled or refunded; nothing else changes its status. -/
structure TransferRow.Later (t t' : TransferRow) : Prop where
  movement : t.SameMovement t'
  final : t.status ≠ .pendingUndo → t.status ≠ .held → t' = t
  next : t'.status = t.status ∨ t'.status = .succeeded ∨ t'.status = .refunded

structure IdempotencyRow.Later (r r' : IdempotencyRow) : Prop where
  triple : r'.triple = r.triple
  fingerprint : r'.requestFingerprint = r.requestFingerprint
  final : r.status = .completed → r' = r

structure MoneyRequestRow.Later (r r' : MoneyRequestRow) : Prop where
  id : r'.id = r.id
  terms : r.SameTerms r'
  final : r.status ≠ .pending → r' = r

structure EscrowRow.Later (e e' : EscrowRow) : Prop where
  deal : e.SameDeal e'
  final : e.status.isOpen = false → e' = e

structure LoanRow.Later (l l' : LoanRow) : Prop where
  id : l'.id = l.id
  pool : l'.poolId = l.poolId
  borrower : l'.borrowerUserId = l.borrowerUserId
  draw : l'.drawTransferId = l.drawTransferId
  principal : l'.principalMinor = l.principalMinor
  outstanding : l'.outstandingMinor ≤ l.outstandingMinor
  final : l.status ≠ .outstanding → l' = l

namespace AccountRow.Later

theorem refl (a : AccountRow) : a.Later a := ⟨rfl, rfl, rfl, rfl, rfl, rfl, Nat.le_refl _⟩

theorem trans (a b c : AccountRow) (h : a.Later b) (h' : b.Later c) : a.Later c where
  id := h'.id.trans h.id
  user := h'.user.trans h.user
  type := h'.type.trans h.type
  number := h'.number.trans h.number
  currency := h'.currency.trans h.currency
  created := h'.created.trans h.created
  version := Nat.le_trans h.version h'.version

end AccountRow.Later

namespace TransferRow.Later

theorem refl (t : TransferRow) : t.Later t := ⟨.refl t, fun _ _ => rfl, .inl rfl⟩

theorem trans (t t' t'' : TransferRow) (h : t.Later t') (h' : t'.Later t'') : t.Later t'' where
  movement := h.movement.trans h'.movement
  final hp hh := by
    obtain rfl := h.final hp hh
    exact h'.final hp hh
  next := by
    rcases h'.next with hsame | hset
    · rw [hsame]
      exact h.next
    · exact .inr hset

end TransferRow.Later

namespace IdempotencyRow.Later

theorem refl (r : IdempotencyRow) : r.Later r := ⟨rfl, rfl, fun _ => rfl⟩

theorem trans (r s t : IdempotencyRow) (h : r.Later s) (h' : s.Later t) : r.Later t where
  triple := h'.triple.trans h.triple
  fingerprint := h'.fingerprint.trans h.fingerprint
  final hr := by
    obtain rfl := h.final hr
    exact h'.final hr

end IdempotencyRow.Later

namespace MoneyRequestRow.Later

theorem refl (r : MoneyRequestRow) : r.Later r := ⟨rfl, .refl r, fun _ => rfl⟩

theorem trans (r s t : MoneyRequestRow) (h : r.Later s) (h' : s.Later t) : r.Later t where
  id := h'.id.trans h.id
  terms := h.terms.trans h'.terms
  final hr := by
    obtain rfl := h.final hr
    exact h'.final hr

end MoneyRequestRow.Later

namespace EscrowRow.Later

theorem refl (e : EscrowRow) : e.Later e := ⟨⟨rfl, rfl, rfl, rfl, rfl⟩, fun _ => rfl⟩

theorem trans (e f g : EscrowRow) (h : e.Later f) (h' : f.Later g) : e.Later g where
  deal := {
    id := h'.deal.id.trans h.deal.id
    hold := h'.deal.hold.trans h.deal.hold
    buyer := h'.deal.buyer.trans h.deal.buyer
    seller := h'.deal.seller.trans h.deal.seller
    amount := h'.deal.amount.trans h.deal.amount }
  final he := by
    obtain rfl := h.final he
    exact h'.final he

end EscrowRow.Later

namespace LoanRow.Later

theorem refl (l : LoanRow) : l.Later l :=
  ⟨rfl, rfl, rfl, rfl, rfl, Int.le_refl _, fun _ => rfl⟩

theorem trans (l m n : LoanRow) (h : l.Later m) (h' : m.Later n) : l.Later n where
  id := h'.id.trans h.id
  pool := h'.pool.trans h.pool
  borrower := h'.borrower.trans h.borrower
  draw := h'.draw.trans h.draw
  principal := h'.principal.trans h.principal
  outstanding := Int.le_trans h'.outstanding h.outstanding
  final hl := by
    obtain rfl := h.final hl
    exact h'.final hl

end LoanRow.Later

/-! ### What a database may become -/

structure Database.Continues (db db' : Database) : Prop where
  accounts : db.accounts.Evolves AccountRow.Later db'.accounts
  transfers : db.transfers.Evolves TransferRow.Later db'.transfers
  ledgerTransactions : db.ledgerTransactions.Evolves (· = ·) db'.ledgerTransactions
  ledgerEntries : db.ledgerEntries.Evolves (· = ·) db'.ledgerEntries
  idempotencyRecords : db.idempotencyRecords.Evolves IdempotencyRow.Later db'.idempotencyRecords
  moneyRequests : db.moneyRequests.Evolves MoneyRequestRow.Later db'.moneyRequests
  safepayEscrows : db.safepayEscrows.Evolves EscrowRow.Later db'.safepayEscrows
  overdraftPools : db.overdraftPools.Evolves (· = ·) db'.overdraftPools
  overdraftGrants : db.overdraftGrants.Evolves (· = ·) db'.overdraftGrants
  overdraftLoans : db.overdraftLoans.Evolves LoanRow.Later db'.overdraftLoans
  overdraftRepayments : db.overdraftRepayments.Evolves (· = ·) db'.overdraftRepayments
  journal : db.journal <+: db'.journal

namespace Database.Continues

variable {db db' : Database}

theorem refl (db : Database) : db.Continues db where
  accounts := .refl .refl _
  transfers := .refl .refl _
  ledgerTransactions := .refl (fun _ => rfl) _
  ledgerEntries := .refl (fun _ => rfl) _
  idempotencyRecords := .refl .refl _
  moneyRequests := .refl .refl _
  safepayEscrows := .refl .refl _
  overdraftPools := .refl (fun _ => rfl) _
  overdraftGrants := .refl (fun _ => rfl) _
  overdraftLoans := .refl .refl _
  overdraftRepayments := .refl (fun _ => rfl) _
  journal := List.prefix_rfl

theorem trans {db'' : Database} (h : db.Continues db') (h' : db'.Continues db'') :
    db.Continues db'' where
  accounts := h.accounts.trans AccountRow.Later.trans h'.accounts
  transfers := h.transfers.trans TransferRow.Later.trans h'.transfers
  ledgerTransactions := h.ledgerTransactions.trans (fun _ _ _ => Eq.trans) h'.ledgerTransactions
  ledgerEntries := h.ledgerEntries.trans (fun _ _ _ => Eq.trans) h'.ledgerEntries
  idempotencyRecords :=
    h.idempotencyRecords.trans IdempotencyRow.Later.trans h'.idempotencyRecords
  moneyRequests := h.moneyRequests.trans MoneyRequestRow.Later.trans h'.moneyRequests
  safepayEscrows := h.safepayEscrows.trans EscrowRow.Later.trans h'.safepayEscrows
  overdraftPools := h.overdraftPools.trans (fun _ _ _ => Eq.trans) h'.overdraftPools
  overdraftGrants := h.overdraftGrants.trans (fun _ _ _ => Eq.trans) h'.overdraftGrants
  overdraftLoans := h.overdraftLoans.trans LoanRow.Later.trans h'.overdraftLoans
  overdraftRepayments :=
    h.overdraftRepayments.trans (fun _ _ _ => Eq.trans) h'.overdraftRepayments
  journal := h.journal.trans h'.journal

/-- A movement adds rows, and to the version of two accounts. -/
theorem post (p : Posting) (db : Database) : db.Continues (p.apply db) where
  accounts := by
    have hmoved : ∀ (delta : Int) (a : AccountRow), a.Later (a.moved delta p.stamp) :=
      fun _ _ => ⟨rfl, rfl, rfl, rfl, rfl, rfl, Nat.le_succ _⟩
    exact (Table.Evolves.modifyAt .refl (AccountRow.id_moved _ _) fun a _ => hmoved _ a).trans
      AccountRow.Later.trans (.modifyAt .refl (AccountRow.id_moved _ _) fun a _ => hmoved _ a)
  transfers := .push .refl _ _
  ledgerTransactions := .push (fun _ => rfl) _ _
  ledgerEntries := (Table.Evolves.push (fun _ => rfl) _ _).trans (fun _ _ _ => Eq.trans)
    (.push (fun _ => rfl) _ _)
  idempotencyRecords := .push .refl _ _
  moneyRequests := .refl .refl _
  safepayEscrows := .refl .refl _
  overdraftPools := .refl (fun _ => rfl) _
  overdraftGrants := .refl (fun _ => rfl) _
  overdraftLoans := .refl .refl _
  overdraftRepayments := .refl (fun _ => rfl) _
  journal := List.prefix_append _ _

end Database.Continues

/-- Only a record that is being processed is completed. -/
theorem Invariant.completes {cfg : Settings} {y : Crypto} {k : Config} (h : Invariant cfg y k)
    {row : IdempotencyRow} (hrow : row ∈ k.progress.reserved) (resourceId : Ulid)
    (httpStatus : Nat) (body : Body) (now : Time) :
    k.db.idempotencyRecords.Evolves IdempotencyRow.Later
      (k.db.idempotencyRecords.modifyAt row.triple
        (SqlIdempotencyRepository.completedRow resourceId httpStatus body now)
        (SqlIdempotencyRepository.triple_completedRow resourceId httpStatus body now)) := by
  refine .modifyAt .refl _ fun r hr => ⟨rfl, rfl, fun hc => ?_⟩
  obtain rfl := Option.some.inj ((h.reserved.found row hrow).symm.trans hr)
  rw [h.processing row hrow] at hc
  cases hc

/-- What is repaid is not owed any more. -/
theorem Invariant.repaid_later {cfg : Settings} {y : Crypto} {k : Config} (h : Invariant cfg y k)
    {t : TransferRow} {loan : LoanRow} (hr : k.progress.repaying = some (t, loan.id))
    (hf : k.db.overdraftLoans.find? loan.id = some loan) (ho : loan.status = .outstanding)
    (now : Time) : loan.Later (SqlOverdraftRepository.repaid
      (max 0 (loan.outstandingMinor - t.amountMinor)) now loan) := by
  refine ⟨rfl, rfl, rfl, rfl, rfl, ?_, fun hn => absurd ho hn⟩
  have hnonneg := (h.lending.loan loan (Table.mem_of_find? hf)).nonneg
  have hpos := (h.books.moves t (Table.mem_of_find? (h.lending.repaying t loan.id hr).found)).1
  show max 0 _ ≤ _
  omega

theorem Step.continues {c : Ctx} {L : Licence} {k k' : Config} (hs : Step c L k k')
    (h : Invariant c.settings c.crypto k) : k.db.Continues k'.db := by
  cases hs
  case post p _ _ => exact .post p _
  case repay p _ _ _ _ => exact .post p _
  case reserve => exact { Database.Continues.refl _ with idempotencyRecords := .push .refl _ _ }
  case answer =>
    exact { Database.Continues.refl _ with
      idempotencyRecords := h.completes List.mem_cons_self _ _ _ _ }
  case finish p _ _ =>
    exact { Database.Continues.refl _ with
      idempotencyRecords := h.completes (List.mem_cons_self : p.reservation ∈ _) _ _ _ _ }
  case credit loan _ now hf ho _ _ _ _ =>
    refine { Database.Continues.refl _ with
      overdraftLoans := .modifyAt .refl (SqlOverdraftRepository.id_repaid _ _) fun l hl => ?_
      overdraftRepayments := .push (fun _ => rfl) _ _ }
    obtain rfl := Option.some.inj (hf.symm.trans hl)
    exact h.repaid_later rfl hf ho now
  case lend => exact { Database.Continues.refl _ with overdraftLoans := .push .refl _ _ }
  case latch hold toStatus now hf hst hto =>
    refine { Database.Continues.refl _ with transfers := .modifyAt .refl (TransferRow.id_latched _ _) fun t ht => ?_ }
    obtain rfl := Option.some.inj (hf.symm.trans ht)
    exact ⟨⟨_, _, rfl⟩, fun hp hh => absurd hst (not_or.2 ⟨hp, hh⟩), .inr hto⟩
  case openEscrow => exact { Database.Continues.refl _ with safepayEscrows := .push .refl _ _ }
  case escrow e f _ hid hf ho _ hd _ =>
    refine { Database.Continues.refl _ with safepayEscrows := .modifyAt .refl hid fun x hx => ?_ }
    obtain rfl := Option.some.inj (hf.symm.trans hx)
    exact ⟨hd, fun hclosed => absurd (ho.symm.trans hclosed) nofun⟩
  case closeEscrow e f _ hid hf ho _ hd _ _ =>
    refine { Database.Continues.refl _ with safepayEscrows := .modifyAt .refl hid fun x hx => ?_ }
    obtain rfl := Option.some.inj (hf.symm.trans hx)
    exact ⟨hd, fun hclosed => absurd (ho.symm.trans hclosed) nofun⟩
  case request => exact { Database.Continues.refl _ with moneyRequests := .push .refl _ _ }
  case decline q f hid hq =>
    refine { Database.Continues.refl _ with moneyRequests := .update .refl hid fun r hr hqr => ?_ }
    obtain ⟨hpending, -, -, -, hterms, -⟩ := hq r hr hqr
    exact ⟨hid r, hterms, fun hn => absurd hpending hn⟩
  case accept hf hst _ =>
    refine { Database.Continues.refl _ with moneyRequests := .modifyAt .refl (SqlMoneyRequestRepository.id_accepted _ _) fun r hr => ?_ }
    obtain rfl := Option.some.inj (hf.symm.trans hr)
    exact ⟨rfl, ⟨rfl, rfl, rfl, rfl⟩, fun hn => absurd hst hn⟩
  case acceptReplayed hf hst =>
    refine { Database.Continues.refl _ with moneyRequests := .modifyAt .refl (SqlMoneyRequestRepository.id_accepted _ _) fun r hr => ?_ }
    obtain rfl := Option.some.inj (hf.symm.trans hr)
    exact ⟨rfl, ⟨rfl, rfl, rfl, rfl⟩, fun hn => absurd hst hn⟩
  case openAccount => exact { Database.Continues.refl _ with accounts := .push .refl _ _ }
  case closeAccount =>
    exact { Database.Continues.refl _ with
      accounts := .modifyAt .refl (AccountRow.id_restated _ _) fun a _ =>
        ⟨rfl, rfl, rfl, rfl, rfl, rfl, Nat.le_refl _⟩ }
  case openPool =>
    exact { Database.Continues.refl _ with
      accounts := .push .refl _ _, overdraftPools := .push (fun _ => rfl) _ _ }
  case createGrant =>
    exact { Database.Continues.refl _ with overdraftGrants := .push (fun _ => rfl) _ _ }
  case stray hstray _ _ _ => exact absurd hstray (h.no_stray rfl)
  -- what is left writes other tables
  all_goals exact { Database.Continues.refl _ with accounts := .refl .refl _ }

/-! ### A run -/

theorem Steps.continues {c : Ctx} {L : Licence} {k k' : Config} (hs : Steps c L k k')
    (hL : L.Sound c) (h : Invariant c.settings c.crypto k) : k.db.Continues k'.db :=
  Invariant.steps_induction (P := fun k₁ => k.db.Continues k₁.db) hs hL h (.refl _)
    fun _ _ hinv hstep hc => hc.trans (hstep.continues hinv)

theorem serveAll_continues {d : Deployment} {db : Database} (hinv : db.Inv d) (calls : List Call) :
    db.Continues (serveAll d calls db) := by
  induction calls generalizing db with
  | nil => exact .refl db
  | cons call calls ih =>
    rw [serveAll]
    rcases serve_cases d call db with he | hs
    · rw [he]
      exact ih hinv
    · have hL := licence_sound (d.ctx call.oracle) db call.request
      exact (hs.continues hL hinv).trans (ih (hinv.steps hs hL))

/-! ### The past in the present -/

/-- The entries an account had at one of its versions. -/
def entriesAt (db : Database) (account : Ulid) (version : Nat) : List LedgerEntryRow :=
  (entriesOf LedgerEntryRow.accountId db.ledgerEntries.rows account).take version

/-- A longer ledger starts with the entries that an account in step with the shorter one had. -/
theorem entriesAt_grown {past db : Database} {a : AccountRow}
    (hkept : InStep past.ledgerEntries.rows a)
    (hpre : past.ledgerEntries.rows <+: db.ledgerEntries.rows) :
    entriesAt db a.id a.version = entriesOf LedgerEntryRow.accountId past.ledgerEntries.rows a.id := by
  obtain ⟨new, hnew⟩ := hpre
  rw [entriesAt, ← hnew, entriesOf_append, hkept.version_eq]
  exact List.take_left

/-- **History is never rewritten.**  Whatever a run goes on to do, the database continues the one
    it was: and for every account of that time the present ledger still says what its balance
    was, as the sum of its first entries and in the last of them. -/
theorem history_is_never_rewritten (d : Deployment) (now : Time) (calls later : List Call) :
    let past := serveAll d calls (migrated now)
    let db := serveAll d (calls ++ later) (migrated now)
    past.Continues db ∧
      ∀ a ∈ past.accounts.rows,
        a.balanceMinor = net LedgerEntryRow.amountMinor (entriesAt db a.id a.version) ∧
        (entriesAt db a.id a.version).length = a.version ∧
        ∀ e, (entriesAt db a.id a.version).getLast? = some e → e.balanceAfterMinor = a.balanceMinor := by
  intro past db
  have hinv : past.Inv d := serveAll_inv d now calls
  have hcont : past.Continues db := by
    show past.Continues (serveAll d (calls ++ later) (migrated now))
    rw [serveAll_append]
    exact serveAll_continues hinv later
  refine ⟨hcont, fun a ha => ?_⟩
  have hkept : InStep past.ledgerEntries.rows a := hinv.books.kept a ha
  rw [entriesAt_grown hkept hcont.ledgerEntries.rows_prefix]
  refine ⟨hkept.balance_eq, hkept.version_eq.symm, fun e he => ?_⟩
  obtain ⟨before, hbefore⟩ := List.getLast?_eq_some_iff.1 he
  have hrunning := hkept.running
  rw [hbefore] at hrunning
  rw [hrunning.last, hkept.balance_eq, hbefore]

end MoneyMovement

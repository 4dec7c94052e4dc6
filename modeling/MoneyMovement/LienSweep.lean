/-
  MoneyMovement/LienSweep.lean
  ============================
  **When the lien's loop goes through**, and what it leaves.

  `Position` is the part of the database a borrower cares about: what every
  account holds and what every loan still owes.  `Position.swept` says, without
  the database, what the loop of `after_credit` does to it, and `sweep_returns`
  that the loop gets to its end and does that, in every session where `Swept`
  holds of the loans ahead.
-/
import MoneyMovement.Acceptance

namespace MoneyMovement

open Txn

/-! ### Balances and debts -/

/-- A loan but for the instant it was repaid at. -/
def LoanRow.undated (l : LoanRow) : LoanRow := { l with repaidAt := none }

structure Position where
  balance : Ulid → Option Int
  debt : Ulid → Option LoanRow

def Database.position (db : Database) : Position where
  balance id := (db.accounts.find? id).map AccountRow.balanceMinor
  debt id := (db.overdraftLoans.find? id).map LoanRow.undated

namespace Position

/-- An amount leaves one account for another. -/
def pay (x y : Ulid) (n : Int) (p : Position) : Position :=
  { p with
    balance := fun id => (p.balance id).map fun m =>
      if id = y then m + n else if id = x then m - n else m }

/-- A loan is repaid in part. -/
def repay (loanId : Ulid) (n : Int) (p : Position) : Position :=
  { p with
    debt := fun id => if id = loanId then (p.debt id).map fun l =>
        (SqlOverdraftRepository.repaid (max 0 (l.outstandingMinor - n)) 0 l).undated
      else p.debt id }

/-- Oldest loan first, until the budget is spent. -/
def swept (receiverId : Ulid) : List (LoanRow × PoolRow) → Int → Position → Position
  | [], _, p => p
  | (loan, pool) :: loans, budget, p =>
    if budget ≤ 0 then p
    else swept receiverId loans (budget - min budget loan.outstandingMinor)
      ((p.pay receiverId pool.poolAccountId (min budget loan.outstandingMinor)).repay loan.id
        (min budget loan.outstandingMinor))

end Position

/-! ### One movement -/

section Movement

variable {c : Ctx} {p : Posting} {db : Database}

/-- Both accounts are moved, the others left alone. -/
theorem Posting.find?_accountsAfter_eq (hne : p.cmd.senderAccountId ≠ p.cmd.receiverAccountId)
    (accounts : Table AccountRow.id) (id : Ulid) :
    (p.accountsAfter accounts).find? id = (accounts.find? id).map fun a =>
      if id = p.cmd.receiverAccountId then a.moved p.cmd.amount.minor p.stamp
      else if id = p.cmd.senderAccountId then a.moved (-p.cmd.amount.minor) p.stamp else a := by
  unfold Posting.accountsAfter
  rw [Table.find?_modifyAt, Table.find?_modifyAt, Table.find?_modifyAt]
  by_cases hr : id = p.cmd.receiverAccountId
  · subst hr
    rw [if_pos rfl, if_neg hne.symm]
    simp
  · rw [if_neg hr]
    by_cases hs : id = p.cmd.senderAccountId
    · subst hs
      simp [hne]
    · simp [hr, hs]

theorem Posting.balance_apply (hne : p.cmd.senderAccountId ≠ p.cmd.receiverAccountId) (id : Ulid) :
    ((p.accountsAfter db.accounts).find? id).map AccountRow.balanceMinor =
      ((db.position.pay p.cmd.senderAccountId p.cmd.receiverAccountId p.cmd.amount.minor).balance id) := by
  rw [Posting.find?_accountsAfter_eq hne, Option.map_map]
  show _ = ((db.accounts.find? id).map AccountRow.balanceMinor).map _
  rw [Option.map_map]
  congr 1
  funext a
  simp only [Function.comp_apply]
  split
  · rfl
  · split
    · exact (Int.sub_eq_add_neg).symm
    · rfl

end Movement

/-! ### One repayment -/

section Repayment

open OverdraftService

variable {c : Ctx} {N : Nat} {s : Session}

theorem Ulid.length_text (u : Ulid) : u.text.length = 26 := by
  simp [Ulid.text, Ulid.chars]

/-- The key of a repayment fits its column. -/
theorem fits_lienKey (t loan : Ulid) : fits 128 ("lien:" ++ t.text ++ ":" ++ loan.text) = true := by
  have hlen : ("lien:" ++ t.text ++ ":" ++ loan.text).length = 58 := by
    simp only [String.length_append, Ulid.length_text]
    rfl
  rw [fits, hlen]
  rfl

/-- An outstanding loan's repayment is recorded; it draws the identifier of its row. -/
theorem SqlOverdraftRepository.applyRepayment_returns {loan : LoanRow} {t incoming : Ulid} {n : Int}
    {now : Time} (hloan : s.db.overdraftLoans.find? loan.id = some loan)
    (hout : loan.status = .outstanding) (hpos : 0 < n) (hle : n ≤ loan.outstandingMinor)
    (hprincipal : loan.outstandingMinor ≤ loan.principalMinor)
    (hfresh : s.db.overdraftRepayments.find? (c.oracle.ulid s.draws) = none)
    (hnew : ∀ x ∈ s.db.overdraftRepayments.rows, x.transferId ≠ t)
    (ht : (s.db.transfers.find? t).isSome = true)
    (hin : (s.db.transfers.find? incoming).isSome = true) :
    Returns (SqlOverdraftRepository.applyRepayment c loan.id t n incoming now) s fun _ s' =>
      s'.draws = s.draws + 1 ∧ ∃ row : RepaymentRow, row.id = c.oracle.ulid s.draws ∧
        row.transferId = t ∧ s'.db = { s.db with
          overdraftLoans := s.db.overdraftLoans.modifyAt loan.id
            (SqlOverdraftRepository.repaid (max 0 (loan.outstandingMinor - n)) now)
            (SqlOverdraftRepository.id_repaid _ _)
          overdraftRepayments := s.db.overdraftRepayments.push row } := by
  refine Returns.bind (Returns.query ⟨hloan, rfl⟩ : Returns _ s fun o s' => o = some loan ∧ s = s') ?_
  rintro _ _ ⟨rfl, rfl⟩
  dsimp only
  rw [if_pos hout]
  have hadmits : decide (0 ≤ max 0 (loan.outstandingMinor - n) ∧
      max 0 (loan.outstandingMinor - n) ≤ loan.principalMinor) = true := by
    apply decide_eq_true
    omega
  refine Returns.bind (P := fun _ s' => s' = { s with db := { s.db with
    overdraftLoans := (s.db.overdraftLoans.modifyAt loan.id
      (SqlOverdraftRepository.repaid (max 0 (loan.outstandingMinor - n)) now)
      (SqlOverdraftRepository.id_repaid _ _)) } }) ?_ ?_
  · exact ⟨_, _, updateWhere_of hloan (by simp [hout]) hadmits, rfl⟩
  rintro _ _ rfl
  refine Returns.bind newUlid_returns ?_
  rintro _ _ ⟨rfl, rfl⟩
  refine ⟨_, _, insertInto_of hfresh ?_, rfl, _, rfl, rfl, rfl⟩
  simp only [Bool.and_eq_true, List.all_eq_true, decide_eq_true_eq]
  refine ⟨⟨⟨⟨hnew, ?_⟩, ht⟩, hin⟩, hpos⟩
  exact Table.isSome_modifyAt (by rw [hloan]; rfl)

/-- What the loop relies on for the loans ahead of it. -/
structure Collectable (c : Ctx) (N : Nat) (s : Session) (t receiverId u : Ulid)
    (loans : List (LoanRow × PoolRow)) (budget : Int) : Prop where
  fresh : Fresh c N s
  draws : s.draws + 10 * loans.length ≤ N
  account : ∃ a, s.db.accounts.find? receiverId = some a ∧ a.userId = some u ∧ a.status = .active ∧
    budget ≤ a.balanceMinor
  user : (s.db.users.find? u).isSome = true
  incoming : (s.db.transfers.find? t).isSome = true
  owed : ∀ l ∈ loans, Repayable s.db u l ∧ 0 < l.1.outstandingMinor ∧
    l.1.outstandingMinor ≤ l.1.principalMinor
  pools : ∀ l ∈ loans, receiverId ≠ l.2.poolAccountId ∧
    ∃ b, s.db.accounts.find? l.2.poolAccountId = some b ∧ b.status = .active ∧ 0 ≤ b.balanceMinor
  keys : ∀ l ∈ loans, s.db.idempotencyRecords.find?
    ⟨u, LIEN_ENDPOINT, "lien:" ++ t.text ++ ":" ++ l.1.id.text⟩ = none
  nodup : (loans.map fun l => l.1.id).Nodup

theorem OverdraftService.repayCommand_triple {t rid u : Ulid} {cur : Currency}
    {req : Option String} {loan : LoanRow} {pool : PoolRow} {n : Int} :
    (repayCommand c t rid u cur req loan pool n).triple =
      ⟨u, LIEN_ENDPOINT, "lien:" ++ t.text ++ ":" ++ loan.id.text⟩ := rfl

/-- The money of one repayment. -/
theorem OverdraftService.repay_execute_returns {t rid u : Ulid} {cur : Currency}
    {req : Option String} {loan : LoanRow} {pool : PoolRow} {loans : List (LoanRow × PoolRow)}
    {budget n : Int} (h : Collectable c N s t rid u ((loan, pool) :: loans) budget)
    (hreq : fits? 64 req = true) (hpos : 0 < n) (hn : n ≤ budget) :
    Returns (execute c (repayCommand c t rid u cur req loan pool n)) s fun r s' => ∃ p s₁,
      Announced c N (repayCommand c t rid u cur req loan pool n) s p s₁ ∧ r = p.result ∧
        s' = s₁.answered (repayCommand c t rid u cur req loan pool n) p := by
  obtain ⟨a, ha, hau, hactive, hbudget⟩ := h.account
  obtain ⟨hne, b, hb, hbactive, hbpos⟩ := h.pools _ List.mem_cons_self
  have hdraws := h.draws
  rw [List.length_cons] at hdraws
  generalize hcmd : repayCommand c t rid u cur req loan pool n = cmd
  have hendpoint : fits 100 LIEN_ENDPOINT = true := by decide
  have hnote : fits? 200 (some "Automatic Spot-Me repayment") = true := by decide
  have hfits : fits 100 cmd.idempotencyEndpoint = true ∧ fits 128 cmd.idempotencyKey = true := by
    rw [← hcmd]
    exact ⟨hendpoint, fits_lienKey _ _⟩
  have hkey : s.db.idempotencyRecords.find? cmd.triple = none := by
    rw [← hcmd, repayCommand_triple]
    exact h.keys (loan, pool) List.mem_cons_self
  have hmovable : Movable cmd s.db a b := by
    rw [← hcmd]
    exact ⟨ha, hb, hne, hpos, hactive, hbactive, .inr (Int.le_trans hn hbudget), .inr hbpos⟩
  have hrecordable : Recordable cmd s.db := by
    rw [← hcmd]
    exact ⟨hnote, hreq, h.user, nofun, nofun, rfl⟩
  have hpermitted : Permitted c cmd s.db a (c.oracle.clock s.draws) := by
    rw [← hcmd]
    exact ⟨.inr hau, nofun⟩
  have hleg : isLoanLeg cmd.kind = true := by
    rw [← hcmd]
    rfl
  rw [execute_wired]
  refine (TransferUseCase.execute_returns (Q := fun p s₂ => ∃ s₁, Announced c N cmd s p s₁ ∧ s₂ = s₁)
    h.fresh (by omega) hfits hkey hmovable hrecordable hpermitted ?_).mono ?_
  · intro p s₁ hann _
    simp only [afterCredit, hleg, if_true]
    exact Returns.pure ⟨s₁, hann, rfl⟩
  · rintro r s' ⟨p, -, s₂, -, hr, ⟨s₁, hann, rfl⟩, hs'⟩
    exact ⟨p, s₂, hann, hr, hs'⟩

/-- A repayment row under the identifier `j`, of the transfer drawn at `k`. -/
theorem Fresh.push_repayment {s' : Session} {row : RepaymentRow} {j k : Nat} (h : Fresh c N s)
    (hids : Distinct c.oracle.ulid k N) (hid : row.id = c.oracle.ulid j)
    (htransfer : row.transferId = c.oracle.ulid k) (hj : s.draws ≤ j) (hj' : j < s'.draws)
    (hk : k ≤ j) (hN : j < N)
    (hdb : ∃ records loans, s'.db = { s.db with
      idempotencyRecords := records, overdraftLoans := loans
      overdraftRepayments := s.db.overdraftRepayments.push row }) : Fresh c N s' := by
  obtain ⟨records, loans, hdb⟩ := hdb
  have hmono : s.draws ≤ s'.draws := by omega
  have hfresh : s.db.overdraftRepayments.find? row.id = none := hid ▸ h.repayments j hj hN
  constructor
  · exact h.ids.mono hmono
  · exact h.suffixes.mono hmono
  · rw [hdb]
    exact h.transfers.mono hmono
  · intro i hi hi'
    rw [hdb]
    exact h.references i (by omega) hi'
  · rw [hdb]
    exact h.ledgerTransactions.mono hmono
  · intro i hi hi'
    rw [hdb]
    exact h.posted i (by omega) hi'
  · rw [hdb]
    exact h.ledgerEntries.mono hmono
  · rw [hdb]
    exact h.outboxEvents.mono hmono
  · rw [hdb]
    exact h.auditLogs.mono hmono
  · rw [hdb]
    exact h.repayments.push h.ids hid hj hj' hN
  · intro i hi hi' x hx
    rw [hdb] at hx
    rcases (Table.mem_push hfresh).1 hx with hx | rfl
    · exact h.repaid i (by omega) hi' x hx
    · rw [htransfer]
      intro heq
      have := hids k i (Nat.le_refl _) (by omega) (by omega) hi' heq
      omega
  · rw [hdb]
    exact h.tasks.mono hmono

/-- What one round of the loop does to the tables the next one reads. -/
structure Round (c : Ctx) (N : Nat) (s s' : Session) (receiverId u : Ulid) (key : String)
    (loan : LoanRow) (pool : PoolRow) (n : Int) : Prop where
  draws : s'.draws = s.draws + 10
  fresh : Fresh c N s'
  accounts : ∃ stamp, ∀ id, s'.db.accounts.find? id = (s.db.accounts.find? id).map fun a =>
    if id = pool.poolAccountId then a.moved n stamp
    else if id = receiverId then a.moved (-n) stamp else a
  users : s'.db.users = s.db.users
  transfers : s.db.transfers.Extends s'.db.transfers
  pools : s'.db.overdraftPools = s.db.overdraftPools
  loans : ∃ now, ∀ id, s'.db.overdraftLoans.find? id = if id = loan.id then
      some (SqlOverdraftRepository.repaid (max 0 (loan.outstandingMinor - n)) now loan)
    else s.db.overdraftLoans.find? id
  records : ∀ triple, triple ≠ ⟨u, LIEN_ENDPOINT, key⟩ →
    s'.db.idempotencyRecords.find? triple = s.db.idempotencyRecords.find? triple

/-- The loans behind the one just repaid are collectable still. -/
theorem Collectable.next {s' : Session} {t rid u : Ulid} {loan : LoanRow} {pool : PoolRow}
    {loans : List (LoanRow × PoolRow)} {budget n : Int}
    (h : Collectable c N s t rid u ((loan, pool) :: loans) budget) (hpos : 0 < n)
    (hr : Round c N s s' rid u ("lien:" ++ t.text ++ ":" ++ loan.id.text) loan pool n) :
    Collectable c N s' t rid u loans (budget - n) := by
  obtain ⟨stamp, haccounts⟩ := hr.accounts
  obtain ⟨now, hloans⟩ := hr.loans
  obtain ⟨hnew, hnodup⟩ := List.nodup_cons.1 h.nodup
  have hdistinct : ∀ l ∈ loans, l.1.id ≠ loan.id := by
    intro l hl heq
    exact hnew (List.mem_map.2 ⟨l, hl, heq⟩)
  have hdraws := h.draws
  have hdraws' := hr.draws
  rw [List.length_cons] at hdraws
  refine ⟨hr.fresh, by omega, ?_, hr.users ▸ h.user, hr.transfers _ h.incoming, ?_, ?_, ?_, hnodup⟩
  · obtain ⟨a, ha, hau, hactive, hbudget⟩ := h.account
    refine ⟨a.moved (-n) stamp, ?_, hau, hactive, ?_⟩
    · rw [haccounts, ha, Option.map_some, if_neg (h.pools _ List.mem_cons_self).1, if_pos rfl]
    · show budget - n ≤ a.balanceMinor + -n
      omega
  · intro l hl
    obtain ⟨⟨hf, hp, hst, hu⟩, hrest⟩ := h.owed l (List.mem_cons_of_mem _ hl)
    refine ⟨⟨?_, hr.pools ▸ hp, hst, hu⟩, hrest⟩
    rw [hloans, if_neg (hdistinct l hl), hf]
  · intro l hl
    obtain ⟨hne, b, hb, hactive, hbpos⟩ := h.pools l (List.mem_cons_of_mem _ hl)
    refine ⟨hne, ?_⟩
    rw [haccounts, hb, Option.map_some]
    by_cases hp : l.2.poolAccountId = pool.poolAccountId
    · rw [if_pos hp]
      refine ⟨_, rfl, hactive, ?_⟩
      show 0 ≤ b.balanceMinor + n
      omega
    · rw [if_neg hp, if_neg hne.symm]
      exact ⟨b, rfl, hactive, hbpos⟩
  · intro l hl
    rw [hr.records, h.keys l (List.mem_cons_of_mem _ hl)]
    intro heq
    have htext := String.append_right_inj _ |>.1 (congrArg IdempotencyTriple.key heq)
    exact hdistinct l hl (Ulid.text_injective htext)

/-- The position after one round. -/
theorem Round.position {s' : Session} {rid u : Ulid} {key : String} {loan : LoanRow}
    {pool : PoolRow} {n : Int} (hloan : s.db.overdraftLoans.find? loan.id = some loan)
    (hr : Round c N s s' rid u key loan pool n) :
    s'.db.position = (s.db.position.pay rid pool.poolAccountId n).repay loan.id n := by
  obtain ⟨stamp, haccounts⟩ := hr.accounts
  obtain ⟨now, hloans⟩ := hr.loans
  have hbalance : s'.db.position.balance =
      ((s.db.position.pay rid pool.poolAccountId n).repay loan.id n).balance := by
    funext id
    show (s'.db.accounts.find? id).map _ = ((s.db.accounts.find? id).map _).map _
    rw [haccounts, Option.map_map, Option.map_map]
    congr 1
    funext a
    simp only [Function.comp_apply]
    split
    · rfl
    · split
      · exact Int.sub_eq_add_neg.symm
      · rfl
  have hdebt : s'.db.position.debt =
      ((s.db.position.pay rid pool.poolAccountId n).repay loan.id n).debt := by
    funext id
    show (s'.db.overdraftLoans.find? id).map _ =
      if id = loan.id then ((s.db.overdraftLoans.find? id).map _).map _
      else (s.db.overdraftLoans.find? id).map _
    rw [hloans]
    by_cases hid : id = loan.id
    · rw [if_pos hid, if_pos hid, hid, hloan]
      rfl
    · rw [if_neg hid, if_neg hid]
  calc s'.db.position = ⟨s'.db.position.balance, s'.db.position.debt⟩ := rfl
    _ = _ := by rw [hbalance, hdebt]

/-- One round of the loop goes through. -/
theorem OverdraftService.repayOne_returns {t rid u : Ulid} {cur : Currency}
    {req : Option String} {loan : LoanRow} {pool : PoolRow} {loans : List (LoanRow × PoolRow)}
    {budget n : Int} (h : Collectable c N s t rid u ((loan, pool) :: loans) budget)
    (hreq : fits? 64 req = true) (hpos : 0 < n) (hn : n ≤ budget) (hle : n ≤ loan.outstandingMinor) :
    Returns (repayOne (execute c) c t rid u cur req loan pool n) s fun _ s' =>
      Round c N s s' rid u ("lien:" ++ t.text ++ ":" ++ loan.id.text) loan pool n := by
  obtain ⟨⟨hloan, -, hout, -⟩, -, hprincipal⟩ := h.owed _ List.mem_cons_self
  have hdraws := h.draws
  rw [List.length_cons] at hdraws
  refine Returns.bind (OverdraftService.repay_execute_returns h hreq hpos hn) ?_
  rintro _ _ ⟨p, s₁, hann, rfl, rfl⟩
  obtain ⟨logs, e₁⟩ := hann.db
  have hd₁ := hann.draws
  have hdrawn := hann.drawn
  have hrow : (s₁.db.transfers.find? p.transferId).isSome = true := by
    rw [e₁]
    exact Option.isSome_iff_exists.2 ⟨_, Posting.find?_push_row hann.valid⟩
  refine Returns.bind (P := fun _ s' => s'.draws = s.draws + 9 ∧ s'.db = { s₁.db with
    idempotencyRecords := s₁.db.idempotencyRecords.modifyAt
      ⟨u, LIEN_ENDPOINT, "lien:" ++ t.text ++ ":" ++ loan.id.text⟩
      (SqlIdempotencyRepository.completedRow p.transferId 201 p.result.toResponse p.now)
      (SqlIdempotencyRepository.triple_completedRow _ _ _ _) })
    ⟨_, _, rfl, congrArg (· + 1) hd₁, rfl⟩ ?_
  rintro now s₂ ⟨hd₂, e₂⟩
  refine (SqlOverdraftRepository.applyRepayment_returns (s := s₂) ?_ hout hpos hle hprincipal ?_ ?_ ?_
    ?_).mono ?_
  · rw [e₂, e₁]
    exact hloan
  · rw [e₂, e₁]
    exact h.fresh.repayments _ (by omega) (by omega)
  · rw [e₂, e₁]
    show ∀ x ∈ s.db.overdraftRepayments.rows, x.transferId ≠ p.transferId
    rw [hdrawn]
    exact h.fresh.repaid _ (by omega) (by omega)
  · rw [e₂]
    exact hrow
  · rw [e₂, e₁]
    exact Table.extends_push _ _ _ h.incoming
  rintro _ s₃ ⟨hd₃, row, hid, htransfer, e₃⟩
  have hd : s₃.draws = s.draws + 10 := by omega
  have hcmd := hann.cmd_eq
  have hfresh : Fresh c N s₃ := by
    refine hann.fresh.push_repayment (h.fresh.ids.mono (by omega)) hid (htransfer.trans hdrawn)
      (by omega) (by omega) (by omega) (by omega)
      ⟨s₃.db.idempotencyRecords, s₃.db.overdraftLoans, ?_⟩
    rw [e₃, e₂]
  rw [e₂, e₁] at e₃
  refine ⟨hd, hfresh, ⟨p.stamp, ?_⟩, by rw [e₃]; rfl, ?_, by rw [e₃]; rfl, ⟨now, ?_⟩, ?_⟩
  · intro id
    rw [e₃]
    refine (Posting.find?_accountsAfter_eq hann.valid.parties_ne s.db.accounts id).trans ?_
    rw [hcmd]
    rfl
  · rw [e₃]
    exact Table.extends_push _ _
  · intro id
    rw [e₃]
    dsimp only
    rw [Table.find?_modifyAt]
    by_cases hid : id = loan.id
    · rw [if_pos hid, if_pos hid]
      exact congrArg (Option.map _) hloan
    · rw [if_neg hid, if_neg hid]
      rfl
  · intro triple hne
    rw [e₃]
    dsimp only
    have htriple : p.reservation.triple = ⟨u, LIEN_ENDPOINT, "lien:" ++ t.text ++ ":" ++ loan.id.text⟩ := by
      show p.cmd.triple = _
      rw [hcmd, repayCommand_triple]
    rw [Table.find?_modifyAt, if_neg hne]
    refine (Table.find?_push hann.valid.key_fresh triple).trans (if_neg ?_)
    rw [htriple]
    exact hne.symm

end Repayment

/-! ### The loop -/

section Loop

open OverdraftService

variable {c : Ctx} {N : Nat} {s : Session}

/-- The loop gets to its end, and does what `Position.swept` says. -/
theorem OverdraftService.sweep_returns {t rid u : Ulid} {cur : Currency} {req : Option String}
    {loans : List (LoanRow × PoolRow)} {budget : Int} (h : Collectable c N s t rid u loans budget)
    (hreq : fits? 64 req = true) :
    Returns (sweep (execute c) c t rid u cur req loans budget) s fun _ s' =>
      s'.db.position = s.db.position.swept rid loans budget ∧ Fresh c N s' ∧
        s'.draws ≤ s.draws + 10 * loans.length := by
  induction loans generalizing s budget with
  | nil => exact Returns.pure ⟨rfl, h.fresh, Nat.le_refl _⟩
  | cons l loans ih =>
    obtain ⟨loan, pool⟩ := l
    rw [sweep, Position.swept]
    by_cases hb : budget ≤ 0
    · rw [if_pos hb, if_pos hb]
      exact Returns.pure ⟨rfl, h.fresh, Nat.le_add_right _ _⟩
    · rw [if_neg hb, if_neg hb]
      obtain ⟨⟨hloan, -⟩, hout, -⟩ := h.owed _ List.mem_cons_self
      have hpos : 0 < min budget loan.outstandingMinor := by
        have : 0 < loan.outstandingMinor := hout
        omega
      refine Returns.bind (OverdraftService.repayOne_returns h hreq hpos (Int.min_le_left _ _)
        (Int.min_le_right _ _)) ?_
      intro _ s₁ hround
      rw [← hround.position hloan]
      refine (ih (h.next hpos hround)).mono ?_
      rintro _ s₂ ⟨hposition, hfresh, hdraws⟩
      have hd := hround.draws
      refine ⟨hposition, hfresh, ?_⟩
      rw [List.length_cons]
      omega

end Loop

/-! ### A credit and its sweep -/

/-- What every credit can rely on, whatever it credits. -/
structure Serviceable (db : Database) : Prop where
  active : ∀ a ∈ db.accounts.rows, a.accountType ≠ .user → a.status = .active
  users : ∀ a ∈ db.accounts.rows, ∀ u, a.userId = some u → (db.users.find? u).isSome = true
  solvent : ∀ a ∈ db.accounts.rows, a.accountType ≠ .systemIssuance → 0 ≤ a.balanceMinor
  pools : ∀ p ∈ db.overdraftPools.rows,
    ∃ a, db.accounts.find? p.poolAccountId = some a ∧ a.accountType = .overdraftPool
  loans : ∀ l ∈ db.overdraftLoans.rows, l.outstandingMinor ≤ l.principalMinor
  lienKeys : ∀ r ∈ db.idempotencyRecords.rows, r.triple.endpoint = LIEN_ENDPOINT →
    db.LienKey r.triple.key

/-- A transfer that does not exist yet has no repayment key. -/
theorem Serviceable.no_lienKey {db : Database} (h : Serviceable db) {t u : Ulid} (x : String)
    (ht : db.transfers.find? t = none) :
    db.idempotencyRecords.find? ⟨u, LIEN_ENDPOINT, "lien:" ++ t.text ++ ":" ++ x⟩ = none := by
  cases hr : db.idempotencyRecords.find? ⟨u, LIEN_ENDPOINT, "lien:" ++ t.text ++ ":" ++ x⟩ with
  | none => rfl
  | some r =>
    exfalso
    have htriple := Table.key_of_find? hr
    obtain ⟨t', x', ht', hkey⟩ := h.lienKeys r (Table.mem_of_find? hr) (by rw [htriple])
    rw [htriple] at hkey
    have heq : t = t' := by
      have hkey' : "lien:" ++ (t.text ++ (":" ++ x)) = "lien:" ++ (t'.text ++ (":" ++ x')) := by
        simpa only [String.append_assoc] using hkey
      exact (Ulid.text_append_inj ((String.append_right_inj _).1 hkey')).1
    rw [← heq, ht] at ht'
    cases ht'

section Credit

open OverdraftService TransferUseCase

variable {c : Ctx} {N : Nat} {cmd : TransferCommand} {s s₁ : Session} {a b : AccountRow} {p : Posting}
  {u : Ulid}

/-- At most the whole credit is swept. -/
theorem OverdraftService.lienBudget_le (c : Ctx) {m : Money} (h : 0 < m.minor) :
    lienBudget c m ≤ m.minor := by
  have hle : (c.settings.overdraftLienSweepBasisPoints : Int) ≤ 10000 :=
    Int.ofNat_le.2 c.settings.lien_le
  have hmul : m.minor * c.settings.overdraftLienSweepBasisPoints ≤ m.minor * 10000 :=
    Int.mul_le_mul_of_nonneg_left hle (by omega)
  unfold lienBudget
  omega

/-- Right after the posting, every loan of the receiver is collectable. -/
theorem Announced.collectable (hann : Announced c N cmd s p s₁) (hS : Serviceable s.db)
    (hN : s.draws + 8 + 10 * (SqlOverdraftRepository.outstanding s.db u).length ≤ N)
    (htype : p.receiver.accountType = .user) (hu : p.receiver.userId = some u)
    (hendpoint : cmd.idempotencyEndpoint ≠ LIEN_ENDPOINT) :
    Collectable c N s₁ p.transferId p.credited.id u (SqlOverdraftRepository.outstanding s.db u)
      (lienBudget c cmd.amount) := by
  obtain ⟨logs, e₁⟩ := hann.db
  have hv := hann.valid
  have hd := hann.draws
  have hmem := Table.mem_of_find? hv.receiver_found
  have hid : p.receiver.id = p.cmd.receiverAccountId := Table.key_of_find? hv.receiver_found
  have haccounts : ∀ id, s₁.db.accounts.find? id = (s.db.accounts.find? id).map fun x =>
      if id = p.cmd.receiverAccountId then x.moved p.cmd.amount.minor p.stamp
      else if id = p.cmd.senderAccountId then x.moved (-p.cmd.amount.minor) p.stamp else x := by
    intro id
    rw [e₁]
    exact Posting.find?_accountsAfter_eq hv.parties_ne _ id
  have hpool : ∀ l ∈ SqlOverdraftRepository.outstanding s.db u, ∃ x,
      s.db.accounts.find? l.2.poolAccountId = some x ∧ x.accountType = .overdraftPool := by
    intro l hl
    exact hS.pools _ (Table.mem_of_find? (mem_outstanding hl).1.2.1)
  refine ⟨hann.fresh, by omega, ?_, ?_, ?_, ?_, ?_, ?_, nodup_outstanding _ _⟩
  · refine ⟨p.receiver.moved p.cmd.amount.minor p.stamp, ?_, hu, hv.receiver_active, ?_⟩
    · rw [haccounts]
      show (s.db.accounts.find? p.receiver.id).map _ = _
      rw [hid, hv.receiver_found, Option.map_some]
      exact congrArg some (if_pos hid)
    · have hbudget := OverdraftService.lienBudget_le c (m := cmd.amount) (hann.cmd_eq ▸ hv.amount_pos)
      have hsolvent := hS.solvent _ hmem (by rw [htype]; nofun)
      show _ ≤ p.receiver.balanceMinor + p.cmd.amount.minor
      rw [hann.cmd_eq]
      omega
  · rw [e₁]
    exact hS.users _ hmem u hu
  · rw [e₁]
    exact Option.isSome_iff_exists.2 ⟨_, Posting.find?_push_row hv⟩
  · intro l hl
    obtain ⟨⟨hf, hp, hst, hb⟩, hout⟩ := mem_outstanding hl
    refine ⟨?_, hout, hS.loans _ (Table.mem_of_find? hf)⟩
    unfold Repayable
    rw [e₁]
    exact ⟨hf, hp, hst, hb⟩
  · intro l hl
    obtain ⟨x, hx, hxt⟩ := hpool l hl
    have hxmem := Table.mem_of_find? hx
    have hactive := hS.active x hxmem (by rw [hxt]; nofun)
    have hxpos := hS.solvent x hxmem (by rw [hxt]; nofun)
    have hne : p.credited.id ≠ l.2.poolAccountId := by
      show p.receiver.id ≠ _
      intro heq
      rw [← heq, hid, hv.receiver_found] at hx
      cases hx
      rw [htype] at hxt
      cases hxt
    refine ⟨hne, ?_⟩
    rw [haccounts, hx, Option.map_some]
    have hne' : l.2.poolAccountId ≠ p.cmd.receiverAccountId := by
      rw [← hid]
      exact hne.symm
    rw [if_neg hne']
    by_cases hsender : l.2.poolAccountId = p.cmd.senderAccountId
    · rw [if_pos hsender]
      refine ⟨_, rfl, hactive, ?_⟩
      rw [hsender, hv.sender_found] at hx
      cases hx
      show 0 ≤ p.sender.balanceMinor + -p.cmd.amount.minor
      rcases hv.affordable with h | h
      · rw [hxt] at h
        cases h
      · omega
    · rw [if_neg hsender]
      exact ⟨x, rfl, hactive, hxpos⟩
  · intro l _
    rw [e₁]
    refine (Table.find?_push hv.key_fresh _).trans ?_
    rw [if_neg, hS.no_lienKey _ hv.transfer_fresh]
    intro heq
    have : p.cmd.idempotencyEndpoint = LIEN_ENDPOINT := congrArg IdempotencyTriple.endpoint heq
    exact hendpoint (hann.cmd_eq ▸ this)

/-- What a credit needs besides the accounts: a key of its own, and texts that fit. -/
structure Submittable (c : Ctx) (cmd : TransferCommand) (s : Session) (a b : AccountRow) : Prop where
  fits : fits 100 cmd.idempotencyEndpoint = true ∧ fits 128 cmd.idempotencyKey = true
  key : s.db.idempotencyRecords.find? cmd.triple = none
  movable : Movable cmd s.db a b
  recordable : Recordable cmd s.db
  permitted : Permitted c cmd s.db a (c.oracle.clock s.draws)

/-- A credit the lien leaves alone moves its amount. -/
theorem execute_returns_unswept (h : Submittable c cmd s a b) (hf : Fresh c N s)
    (hN : s.draws + 8 ≤ N) (hnone : isLoanLeg cmd.kind = true ∨ b.accountType ≠ .user) :
    Returns (execute c cmd) s fun r s' => ∃ p s₁, Announced c N cmd s p s₁ ∧ r = p.result ∧
      s' = s₁.answered cmd p := by
  rw [execute_wired]
  refine (TransferUseCase.execute_returns (Q := fun p s₂ => Announced c N cmd s p s₂) hf hN h.fits h.key
    h.movable h.recordable h.permitted ?_).mono ?_
  · intro p s₁ hann hb
    unfold afterCredit
    split
    · exact Returns.pure hann
    · rename_i hleg
      have htype : p.credited.accountType ≠ .user := by
        show p.receiver.accountType ≠ .user
        rw [hb]
        exact hnone.resolve_left hleg
      rw [sweepable, if_neg htype]
      exact Returns.pure hann
  · rintro r s' ⟨p, -, s₂, -, hr, hann, hs'⟩
    exact ⟨p, s₂, hann, hr, hs'⟩

/-- A credit to a user moves its amount, and the lien takes its share of it. -/
theorem execute_returns_swept (h : Submittable c cmd s a b) (hf : Fresh c N s) (hS : Serviceable s.db)
    (hN : s.draws + 8 + 10 * (SqlOverdraftRepository.outstanding s.db u).length ≤ N)
    (hleg : isLoanLeg cmd.kind = false) (htype : b.accountType = .user) (hu : b.userId = some u)
    (hendpoint : cmd.idempotencyEndpoint ≠ LIEN_ENDPOINT) :
    Returns (execute c cmd) s fun _ s' => s'.db.position =
      (s.db.position.pay cmd.senderAccountId cmd.receiverAccountId cmd.amount.minor).swept
        cmd.receiverAccountId (SqlOverdraftRepository.outstanding s.db u)
        (lienBudget c cmd.amount) ∧ Fresh c N s' ∧
      s'.draws ≤ s.draws + 8 + 10 * (SqlOverdraftRepository.outstanding s.db u).length := by
  have hid : b.id = cmd.receiverAccountId := Table.key_of_find? h.movable.receiver
  rw [execute_wired]
  refine (TransferUseCase.execute_returns (Q := fun _ s₂ => s₂.db.position =
    (s.db.position.pay cmd.senderAccountId cmd.receiverAccountId cmd.amount.minor).swept
      cmd.receiverAccountId (SqlOverdraftRepository.outstanding s.db u) (lienBudget c cmd.amount) ∧
    Fresh c N s₂ ∧
      s₂.draws ≤ s.draws + 8 + 10 * (SqlOverdraftRepository.outstanding s.db u).length)
    hf (by omega) h.fits h.key h.movable h.recordable h.permitted ?_).mono ?_
  · intro p s₁ hann hb
    obtain ⟨logs, e₁⟩ := hann.db
    have hd := hann.draws
    have hpay : s₁.db.position =
        s.db.position.pay cmd.senderAccountId cmd.receiverAccountId cmd.amount.minor := by
      rw [e₁, ← hann.cmd_eq]
      exact congrArg (Position.mk · _) (funext (Posting.balance_apply hann.valid.parties_ne))
    rw [← hpay]
    have hsweepable : sweepable p.credited.accountType p.credited.userId = some u := by
      show sweepable p.receiver.accountType p.receiver.userId = some u
      rw [hb, sweepable, if_pos htype, hu]
    unfold afterCredit
    rw [hleg, hsweepable]
    simp only [Bool.false_eq_true, if_false]
    split
    · rename_i hbudget
      refine Returns.pure ⟨?_, hann.fresh, by omega⟩
      cases SqlOverdraftRepository.outstanding s.db u with
      | nil => rfl
      | cons l loans => rw [Position.swept, if_pos hbudget]
    · refine Returns.bind (P := fun loans s' =>
        loans = SqlOverdraftRepository.outstanding s.db u ∧ s₁ = s') ?_ ?_
      · refine Returns.query ⟨?_, rfl⟩
        rw [e₁]
        rfl
      rintro _ _ ⟨rfl, rfl⟩
      have hcredited : p.credited.id = cmd.receiverAccountId := by
        rw [← hid, ← hb]
        rfl
      rw [← hcredited, ← hd]
      exact OverdraftService.sweep_returns
        (hann.collectable hS hN (hb ▸ htype) (hb ▸ hu) hendpoint) h.recordable.requestId
  · rintro r s' ⟨p, s₁, s₂, -, -, ⟨hposition, hfresh, hdraws⟩, rfl⟩
    exact ⟨hposition, hfresh.congr (Nat.le_refl _) rfl rfl rfl rfl rfl rfl rfl, hdraws⟩

end Credit

end MoneyMovement

/-
  MoneyMovement/LendingPaths.lean
  ===============================
  **Spot-Me pools and the send command as steps.**

  A draw and its loan row are two statements: between them the transaction's
  duty is `lend`.
-/
import MoneyMovement.ServicePaths

namespace MoneyMovement

open Txn OverdraftService

variable {c : Ctx} {L : Licence} {s s' : Session}

/-! ### Account lookups -/

theorem ofUser_ownedBy {db : Database} {u : Ulid} {a : AccountRow}
    (h : SqlAccountRepository.ofUser db u = some a) : db.OwnedBy a.id u := by
  have hmem := List.mem_of_find?_eq_some h
  have hp := List.find?_some h
  rw [decide_eq_true_eq] at hp
  exact ⟨a, Table.find?_of_mem hmem, hp.2, hp.1⟩

/-- The user with a phone number. -/
def SqlUserRepository.byPhone (db : Database) (phone : String) : Option UserRow :=
  db.users.rows.find? fun u => decide (u.phone = phone)

/-- The account of the user with a phone number. -/
def SqlAccountRepository.ofPhone (db : Database) (phone : String) : Option AccountRow :=
  (SqlUserRepository.byPhone db phone).bind fun u => ofUser db u.id

theorem ofPhone_ownedBy {db : Database} {phone : String} {a : AccountRow}
    (h : SqlAccountRepository.ofPhone db phone = some a) :
    ∃ u, SqlUserRepository.byPhone db phone = some u ∧ db.OwnedBy a.id u.id := by
  obtain ⟨u, hu, ha⟩ := Option.bind_eq_some_iff.1 h
  exact ⟨u, hu, ofUser_ownedBy ha⟩

/-- The account of a user, as the repository hands it out. -/
theorem SqlAccountRepository.getByUserId_ok {u : Ulid} {o : Option Account}
    (h : SqlAccountRepository.getByUserId u s = .ok o s') :
    s = s' ∧ ∀ a, o = some a → s.db.OwnedBy a.id u := by
  obtain ⟨rfl, rfl⟩ := readDb_ok.1 h
  refine ⟨rfl, ?_⟩
  intro a ha
  obtain ⟨row, hrow, rfl⟩ := Option.map_eq_some_iff.1 ha
  exact ofUser_ownedBy hrow

theorem SqlAccountRepository.getByPhone_ok {phone : String} {o : Option Account}
    (h : SqlAccountRepository.getByPhone phone s = .ok o s') :
    s = s' ∧ ∀ a, o = some a → ∃ u, s.db.OwnedBy a.id u := by
  obtain ⟨rfl, rfl⟩ := readDb_ok.1 h
  refine ⟨rfl, ?_⟩
  intro a ha
  obtain ⟨row, hrow, rfl⟩ := Option.map_eq_some_iff.1 ha
  obtain ⟨user, -, hown⟩ := ofPhone_ownedBy hrow
  exact ⟨user.id, hown⟩

theorem SqlAccountRepository.createSubaccount_ok {id : Ulid} {u : Option Ulid} {type : AccountType}
    {number : String} {cur : Currency} {now : Time} {v : Unit}
    (h : SqlAccountRepository.createSubaccount id u type number cur now s = .ok v s') :
    s.db.accounts.find? id = none ∧
      (∀ x ∈ s.db.accounts.rows, ∀ y, u = some y → ¬(x.userId = some y ∧ x.accountType = type)) ∧
      (∀ y, u = some y → (s.db.users.find? y).isSome = true) ∧
      s'.db = { s.db with
        accounts := s.db.accounts.push ⟨id, u, type, number, cur, 0, .active, 0, now, now⟩ } := by
  obtain ⟨_, s₁, h₁, h⟩ := bind_ok.1 h
  obtain ⟨-, rfl⟩ := ensure_ok.1 h₁
  obtain ⟨hn, hadmits, e⟩ := insertInto_ok h
  cases u with
  | none => exact ⟨hn, nofun, nofun, e⟩
  | some y =>
    simp only [SqlAccountRepository.admits, Bool.and_eq_true, List.all_eq_true, Bool.not_eq_true',
      Bool.and_eq_false_iff, beq_eq_false_iff_ne] at hadmits
    obtain ⟨hex, hothers⟩ := hadmits.1.1.2
    refine ⟨hn, ?_, ?_, e⟩
    · rintro x hx _ ⟨⟩ ⟨hxu, hxt⟩
      rcases hothers x hx with h | h
      · exact h hxu
      · exact h hxt
    · rintro _ ⟨⟩
      exact hex

/-! ### Sponsor commands -/

theorem auditEvent_steps {g : Progress} {actor id : Ulid} {action : String} {req : Option String}
    {m : Payload} {v : Unit} (h : auditEvent c actor action id req m s = .ok v s') :
    Steps c L ⟨g, s.db⟩ ⟨g, s'.db⟩ := by
  obtain ⟨now, s₁, h₁, h⟩ := bind_ok.1 h
  obtain ⟨logs, e⟩ := SqlAuditRepository.record_ok h
  rw [e, (now_ok h₁).1]
  exact Steps.audit _ logs

theorem fund_steps {d : Duty} {rs : List IdempotencyRow} {u account : Ulid} (pool : PoolRow)
    {amount : Money} {key note endpoint : String} {req : Option String} {r : TransferResult}
    (hc : L.Covers c .overdraftFund)
    (he : endpoint = "INTERNAL:/overdraft/fund" ∨
      endpoint = "POST:/api/v1/overdraft/pools/" ++ pool.id.text ++ "/fund")
    (hp : s.db.overdraftPools.find? pool.id = some pool) (ho : s.db.OwnedBy account u)
    (h : execute c (fundCommand c u account pool.id pool.poolAccountId amount key note req endpoint) s =
      .ok r s') : Steps c L ⟨⟨d, none, rs⟩, s.db⟩ ⟨⟨d, none, rs⟩, s'.db⟩ := by
  rcases execute_ok h with ⟨e, -, -⟩ | ⟨p, hposted⟩
  · rw [e]
  · exact hposted.steps L d d rs
      (hc _ _ _ _ (by rw [hposted.cmd_eq]; rfl) (.fund hposted.cmd_eq he hp ho))

theorem OverdraftService.complete_step {d : Duty} {r : Option (TransferRow × Ulid)}
    {rs : List IdempotencyRow} {triple : IdempotencyTriple} {row : IdempotencyRow} {id : Ulid} {n : Nat}
    {b : Body} {now : Time} {v : Unit} (hl : L.answer row) (ht : row.triple = triple)
    (h : OverdraftService.complete triple id b now n s = .ok v s') :
    Steps c L ⟨⟨d, r, row :: rs⟩, s.db⟩ ⟨⟨d, r, rs⟩, s'.db⟩ := by
  unfold OverdraftService.complete at h
  exact MoneyMovement.complete_step hl ht h

/-- The pool's account and the pool, in two statements. -/
theorem openPool_steps {g : Progress} {poolId u account : Ulid} {number : String} {cur : Currency}
    {now : Time} {v w : Unit} {s₁ : Session}
    (h₁ : SqlAccountRepository.createSubaccount account (some u) .overdraftPool number cur now s =
      .ok v s₁)
    (h₂ : SqlOverdraftRepository.createPool poolId u account cur now s₁ = .ok w s') :
    Steps c L ⟨g, s.db⟩ ⟨g, s'.db⟩ ∧
      s'.db.overdraftPools.find? poolId = some ⟨poolId, u, account, cur, .active, now, now⟩ ∧
      ∀ id v, s.db.OwnedBy id v → s'.db.OwnedBy id v := by
  obtain ⟨haccount, -, hex, e₁⟩ := SqlAccountRepository.createSubaccount_ok h₁
  obtain ⟨hpool, -, e₂⟩ := insertInto_ok h₂
  rw [e₁] at hpool e₂
  rw [e₂]
  refine ⟨.single ?_, Table.find?_push_self hpool, ?_⟩
  · exact .openPool ⟨account, some u, .overdraftPool, number, cur, 0, .active, 0, now, now⟩
      ⟨poolId, u, account, cur, .active, now, now⟩ haccount rfl rfl rfl rfl hpool rfl rfl
      (hex u rfl)
  · rintro id v ⟨a, ha, hrest⟩
    exact ⟨a, Table.find?_push_of_some ha, hrest⟩

theorem OverdraftService.createPool_answered {u : Ulid} {amount : Money} {key : String}
    {req : Option String} {b : Body} (hc : L.Covers c .overdraftFund)
    (ha : ∀ row, Answerable c row → L.answer row)
    (h : OverdraftService.createPool c u amount key req s = .ok b s') :
    CommandAnswered c L ⟨u, POOL_ENDPOINT, key⟩
      (fingerprintRequest c
        [("amountMinor", .int amount.minor), ("currency", .str amount.currency.code)]) s s' := by
  unfold OverdraftService.createPool at h
  refine shell_answered ?_ ?_ h
  · intro now b s₁ s₂ x hr
    exact (pure_ok.1 hr).2
  intro row now s₁ s₂ x _ hrow e₁ hrun
  obtain ⟨existing, s₃, h₃, hrun⟩ := bind_ok.1 hrun
  obtain ⟨-, rfl⟩ := readDb_ok.1 h₃
  obtain ⟨_, s₄, h₄, hrun⟩ := bind_ok.1 hrun
  obtain ⟨-, rfl⟩ := ensure_ok.1 h₄
  obtain ⟨found, s₅, h₅, hrun⟩ := bind_ok.1 hrun
  obtain ⟨rfl, hfound⟩ := SqlAccountRepository.getByUserId_ok h₅
  obtain ⟨sponsor, s₆, h₆, hrun⟩ := bind_ok.1 hrun
  obtain ⟨hsponsor, rfl⟩ := orRaise_ok.1 h₆
  obtain ⟨poolId, s₇, h₇, hrun⟩ := bind_ok.1 hrun
  obtain ⟨account, s₈, h₈, hrun⟩ := bind_ok.1 hrun
  have e₈ := (newUlid_ok h₈).trans (newUlid_ok h₇)
  obtain ⟨_, s₉, h₉, hrun⟩ := bind_ok.1 hrun
  obtain ⟨_, s₁₀, h₁₀, hrun⟩ := bind_ok.1 hrun
  obtain ⟨hopen, hpool, hown⟩ := openPool_steps (c := c) (L := L) (g := ⟨.none, none, [row]⟩) h₉ h₁₀
  rw [e₈] at hopen hown
  obtain ⟨funding, s₁₁, h₁₁, hrun⟩ := bind_ok.1 hrun
  have hfund : Steps c L ⟨⟨.none, none, [row]⟩, s₁₀.db⟩ ⟨⟨.none, none, [row]⟩, s₁₁.db⟩ :=
    fund_steps ⟨poolId, u, account, amount.currency, .active, now, now⟩ hc (.inl rfl) hpool
      (hown _ _ (hfound _ hsponsor)) h₁₁
  obtain ⟨_, s₁₂, h₁₂, hrun⟩ := bind_ok.1 hrun
  obtain ⟨_, s₁₃, h₁₃, hrun⟩ := bind_ok.1 hrun
  obtain ⟨-, rfl⟩ := pure_ok.1 hrun
  have hanswer : Steps c L ⟨⟨.none, none, [row]⟩, s₁₁.db⟩ ⟨.idle, s₁₂.db⟩ := by
    subst hrow
    refine OverdraftService.complete_step (ha _ ?_) rfl h₁₂
    exact answerable_of_isPrefixOf POOL_ENDPOINT "" String.append_empty.symm (by decide) (by decide)
  exact ((hopen.trans hfund).trans hanswer).trans (auditEvent_steps h₁₃)

theorem OverdraftService.fundPool_steps {u : Ulid} {amount : Money} {key : String}
    {req : Option String} {b : Body} (hc : L.Covers c .overdraftFund)
    (h : OverdraftService.fundPool c u amount key req s = .ok b s') :
    Steps c L ⟨.idle, s.db⟩ ⟨.idle, s'.db⟩ := by
  obtain ⟨found, s₁, h₁, h⟩ := bind_ok.1 h
  obtain ⟨rfl, rfl⟩ := readDb_ok.1 h₁
  obtain ⟨pool, s₂, h₂, h⟩ := bind_ok.1 h
  obtain ⟨hpool, rfl⟩ := orRaise_ok.1 h₂
  obtain ⟨account, s₃, h₃, h⟩ := bind_ok.1 h
  obtain ⟨rfl, haccount⟩ := SqlAccountRepository.getByUserId_ok h₃
  obtain ⟨sponsor, s₄, h₄, h⟩ := bind_ok.1 h
  obtain ⟨hsponsor, rfl⟩ := orRaise_ok.1 h₄
  obtain ⟨transfer, s₅, h₅, h⟩ := bind_ok.1 h
  obtain ⟨poolAccount, s₆, h₆, h⟩ := bind_ok.1 h
  obtain ⟨-, rfl⟩ := readDb_ok.1 h₆
  obtain ⟨-, rfl⟩ := pure_ok.1 h
  rw [Option.filter_eq_some_iff] at hpool
  have hmem := List.mem_of_find?_eq_some hpool.1
  exact fund_steps pool hc (.inr rfl) (Table.find?_of_mem hmem) (haccount _ hsponsor) h₅

theorem OverdraftService.grantAccess_answered {u : Ulid} {phone : String} {n : Int} {key : String}
    {req : Option String} {b : Body} (ha : ∀ row, Answerable c row → L.answer row)
    (h : OverdraftService.grantAccess c u phone n key req s = .ok b s') :
    CommandAnswered c L ⟨u, GRANT_ENDPOINT, key⟩
      (fingerprintRequest c [("beneficiaryPhone", .str phone), ("maxDrawMinor", .int n)]) s s' := by
  unfold OverdraftService.grantAccess at h
  refine shell_answered ?_ ?_ h
  · intro now b s₁ s₂ x hr
    exact (pure_ok.1 hr).2
  intro row now s₁ s₂ x _ hrow e₁ hrun
  obtain ⟨_, s₃, h₃, hrun⟩ := bind_ok.1 hrun
  obtain ⟨-, rfl⟩ := readDb_ok.1 h₃
  obtain ⟨_, s₄, h₄, hrun⟩ := bind_ok.1 hrun
  obtain ⟨-, rfl⟩ := readDb_ok.1 h₄
  obtain ⟨pool, s₅, h₅, hrun⟩ := bind_ok.1 hrun
  obtain ⟨-, rfl⟩ := orRaise_ok.1 h₅
  obtain ⟨beneficiary, s₆, h₆, hrun⟩ := bind_ok.1 hrun
  obtain ⟨-, rfl⟩ := orRaise_ok.1 h₆
  obtain ⟨_, s₇, h₇, hrun⟩ := bind_ok.1 hrun
  obtain ⟨-, rfl⟩ := ensure_ok.1 h₇
  obtain ⟨_, s₈, h₈, hrun⟩ := bind_ok.1 hrun
  obtain ⟨-, rfl⟩ := ensure_ok.1 h₈
  obtain ⟨_, s₉, h₉, hrun⟩ := bind_ok.1 hrun
  obtain ⟨-, rfl⟩ := readDb_ok.1 h₉
  obtain ⟨_, s₁₀, h₁₀, hrun⟩ := bind_ok.1 hrun
  obtain ⟨-, rfl⟩ := ensure_ok.1 h₁₀
  obtain ⟨grantId, s₁₁, h₁₁, hrun⟩ := bind_ok.1 hrun
  obtain ⟨_, s₁₂, h₁₂, hrun⟩ := bind_ok.1 hrun
  obtain ⟨hn, -, e₁₂⟩ := insertInto_ok h₁₂
  rw [newUlid_ok h₁₁] at hn e₁₂
  obtain ⟨_, s₁₃, h₁₃, hrun⟩ := bind_ok.1 hrun
  obtain ⟨_, s₁₄, h₁₄, hrun⟩ := bind_ok.1 hrun
  obtain ⟨-, rfl⟩ := pure_ok.1 hrun
  have hgrant : Steps c L ⟨⟨.none, none, [row]⟩, s₁.db⟩ ⟨⟨.none, none, [row]⟩, s₁₂.db⟩ := by
    rw [e₁₂]
    exact .single (.createGrant _ hn)
  subst hrow
  refine hgrant.trans
    ((OverdraftService.complete_step (ha _ ?_) rfl h₁₃).trans (auditEvent_steps h₁₄))
  exact answerable_of_isPrefixOf GRANT_ENDPOINT "" String.append_empty.symm (by decide) (by decide)

/-! ### Sending -/

/-- A grant the borrower may draw on, with its pool. -/
theorem mem_activeGrants {db : Database} {u : Ulid} {g : GrantRow × PoolRow}
    (h : g ∈ SqlOverdraftRepository.activeGrants db u) :
    db.overdraftGrants.find? g.1.id = some g.1 ∧ g.1.beneficiaryUserId = u ∧ g.1.status = .active ∧
      db.overdraftPools.find? g.1.poolId = some g.2 := by
  unfold SqlOverdraftRepository.activeGrants byCreatedAt at h
  obtain ⟨grant, hgrant, hoffer⟩ := List.mem_filterMap.1 h
  rw [List.mem_insertionSort, List.mem_filter, decide_eq_true_eq] at hgrant
  unfold SqlOverdraftRepository.offer at hoffer
  cases hpool : db.overdraftPools.find? grant.poolId with
  | none =>
    rw [hpool] at hoffer
    cases hoffer
  | some pool =>
    rw [hpool] at hoffer
    dsimp only at hoffer
    cases haccount : db.accounts.find? pool.poolAccountId with
    | none =>
      rw [haccount] at hoffer
      cases hoffer
    | some a =>
      rw [haccount] at hoffer
      dsimp only at hoffer
      split at hoffer
      · cases hoffer
        exact ⟨Table.find?_of_mem hgrant.1, hgrant.2.1, hgrant.2.2, hpool⟩
      · cases hoffer

theorem SqlOverdraftRepository.createLoan_ok {pool u t id : Ulid} {n : Int} {cur : Currency}
    {now : Time} (h : SqlOverdraftRepository.createLoan c pool u t n cur now s = .ok id s') :
    s.db.overdraftLoans.find? id = none ∧
      (∀ l ∈ s.db.overdraftLoans.rows, l.drawTransferId ≠ t) ∧ s'.db = { s.db with
        overdraftLoans := s.db.overdraftLoans.push
          ⟨id, pool, u, t, n, n, cur, .outstanding, now, none⟩ } := by
  obtain ⟨loanId, s₁, h₁, h⟩ := bind_ok.1 h
  obtain ⟨_, s₂, h₂, h⟩ := bind_ok.1 h
  obtain ⟨rfl, rfl⟩ := pure_ok.1 h
  obtain ⟨hn, hadmits, e⟩ := insertInto_ok h₂
  rw [newUlid_ok h₁] at hn hadmits e
  simp only [Bool.and_eq_true, List.all_eq_true, decide_eq_true_eq] at hadmits
  exact ⟨hn, hadmits.1.1.1.1, e⟩

variable (rs : List IdempotencyRow)

theorem OverdraftService.drawShortfall_steps {u account : Ulid} {sender : Account} {amount : Money}
    {locked : Ulid → Option Account} {key : String} {req : Option String} {n : Int} {now : Time}
    {draw : Draw} (hc : L.Covers c .overdraftDraw) (ho : s.db.OwnedBy account u)
    (h : drawShortfall c u account sender amount (SqlOverdraftRepository.activeGrants s.db u) locked
      key req n now s = .ok draw s') :
    Steps c L ⟨⟨.none, none, rs⟩, s.db⟩ ⟨⟨.none, none, rs⟩, s'.db⟩ ∧
      ∀ id v, s.db.OwnedBy id v → s'.db.OwnedBy id v := by
  obtain ⟨g, s₁, h₁, h⟩ := bind_ok.1 h
  obtain ⟨hg, rfl⟩ := orRaise_ok.1 h₁
  rw [Option.filter_eq_some_iff, decide_eq_true_eq] at hg
  have hmem := List.mem_of_find?_eq_some hg.1
  have hcap := List.find?_some hg.1
  rw [Bool.and_eq_true, decide_eq_true_eq] at hcap
  obtain ⟨hgrant, hben, hactive, hpool⟩ := mem_activeGrants hmem
  have hpid : g.2.id = g.1.poolId := Table.key_of_find? hpool
  obtain ⟨r, s₂, h₂, h⟩ := bind_ok.1 h
  obtain ⟨loanId, s₃, h₃, h⟩ := bind_ok.1 h
  obtain ⟨-, rfl⟩ := pure_ok.1 h
  obtain ⟨hn, hfresh, e₃⟩ := SqlOverdraftRepository.createLoan_ok h₃
  rcases execute_ok h₂ with ⟨e₂, -, row, hrow⟩ | ⟨p, hp⟩
  · -- a replay: a loan would be recorded for a draw made earlier
    rw [e₂] at hfresh e₃
    rw [e₃]
    exact ⟨.single (.stray (.lend hrow rfl hfresh) _ _ _), fun _ _ hx => hx⟩
  · have hw : Warrant c s.db p .none (.lend p.row) :=
      .draw hp.cmd_eq hgrant hben hactive hpool hcap.1 hg.2 ho
    have hsteps := hp.steps L .none (.lend p.row) rs (hc _ _ _ _ (by rw [hp.cmd_eq]; rfl) hw)
    have hp₂ : s₂.db.overdraftPools.find? g.2.id = some g.2 := by
      rw [hp.untouched.pools, hpid, hpool]
    rw [e₃]
    refine ⟨hsteps.tail (.lend ⟨loanId, g.2.id, u, r.transferId, n, n, amount.currency, .outstanding,
      now, none⟩ g.2 hn hp₂ ?_ ?_ ?_ rfl rfl), hp.untouched.owners⟩
    · show g.2.poolAccountId = p.cmd.senderAccountId
      rw [hp.cmd_eq]
      rfl
    · show r.transferId = p.transferId
      rw [hp.result]
      rfl
    · show n = p.cmd.amount.minor
      rw [hp.cmd_eq]
      rfl

theorem OverdraftService.coverShortfall_steps {u account : Ulid} {sender : Account} {amount : Money}
    {locked : Ulid → Option Account} {key : String} {req : Option String} {now : Time}
    {o : Option Draw} (hc : L.Covers c .overdraftDraw) (ho : s.db.OwnedBy account u)
    (h : coverShortfall c u account sender amount (SqlOverdraftRepository.activeGrants s.db u) locked
      key req now s = .ok o s') :
    Steps c L ⟨⟨.none, none, rs⟩, s.db⟩ ⟨⟨.none, none, rs⟩, s'.db⟩ ∧
      ∀ id v, s.db.OwnedBy id v → s'.db.OwnedBy id v := by
  unfold coverShortfall at h
  split at h
  · obtain ⟨draw, s₁, h₁, h⟩ := bind_ok.1 h
    obtain ⟨-, rfl⟩ := pure_ok.1 h
    exact drawShortfall_steps rs hc ho h₁
  · obtain ⟨-, rfl⟩ := pure_ok.1 h
    exact ⟨.refl, fun _ _ hx => hx⟩

theorem OverdraftService.send_answered {u account receiver v : Ulid} {amount : Money} {key : String}
    {note req : Option String} {b : Body} (hdraw : L.Covers c .overdraftDraw)
    (hhold : L.Covers c .undoHold) (htask : ∀ db t, t.taskType = .undoSettle → L.task db t)
    (ha : ∀ row, Answerable c row → L.answer row) (ho : s.db.OwnedBy account u)
    (hr : s.db.OwnedBy receiver v)
    (h : OverdraftService.send c u account receiver amount key note req s = .ok b s') :
    CommandAnswered c L ⟨u, SEND_ENDPOINT, key⟩
      (sendFingerprint c account receiver amount note) s s' := by
  unfold OverdraftService.send at h
  refine shell_answered ?_ ?_ h
  · intro now b s₁ s₂ x hr
    exact (pure_ok.1 hr).2
  intro row now s₁ s₂ x _ hrow e₁ hrun
  have ho₁ : ∀ id w, s.db.OwnedBy id w → s₁.db.OwnedBy id w := by
    rw [e₁]
    exact fun _ _ hx => hx
  obtain ⟨grants, s₃, h₃, hrun⟩ := bind_ok.1 hrun
  obtain ⟨rfl, rfl⟩ := readDb_ok.1 h₃
  obtain ⟨locked, s₄, h₄, hrun⟩ := bind_ok.1 hrun
  have e₄ := (SqlAccountRepository.lockForUpdate_ok h₄).1
  obtain ⟨sender, s₅, h₅, hrun⟩ := bind_ok.1 hrun
  obtain ⟨-, rfl⟩ := orRaise_ok.1 h₅
  obtain ⟨_, s₆, h₆, hrun⟩ := bind_ok.1 hrun
  obtain ⟨-, rfl⟩ := ensure_ok.1 h₆
  rw [← e₄] at ho₁ hrun
  obtain ⟨o, s₇, h₇, hrun⟩ := bind_ok.1 hrun
  obtain ⟨hcover, ho₇⟩ := coverShortfall_steps [row] hdraw (ho₁ _ _ ho) h₇
  obtain ⟨hold, s₈, h₈, hrun⟩ := bind_ok.1 hrun
  have hheld : Steps c L ⟨⟨.none, none, [row]⟩, s₇.db⟩ ⟨⟨.none, none, [row]⟩, s₈.db⟩ :=
    UndoableTransferService.send_steps [row] hhold htask (ho₇ _ _ (ho₁ _ _ ho))
      (ho₇ _ _ (ho₁ _ _ hr)) h₈
  obtain ⟨_, s₉, h₉, hrun⟩ := bind_ok.1 hrun
  obtain ⟨-, rfl⟩ := pure_ok.1 hrun
  have hanswer : Steps c L ⟨⟨.none, none, [row]⟩, s₈.db⟩ ⟨.idle, s₉.db⟩ := by
    subst hrow
    refine OverdraftService.complete_step (ha _ ⟨?_, ?_⟩) rfl h₉
    · exact ⟨"api/v1/transfers", show SEND_ENDPOINT = _ by decide⟩
    · intro _
      exact ⟨account, receiver, amount, note, rfl⟩
  rw [← e₄]
  exact (hcover.trans hheld).trans hanswer

end MoneyMovement

/-
  MoneyMovement/PoolSpec.lean
  ===========================
  **What opening and funding a pool leave.**

  A new pool is funded under a key that names the pool, on an endpoint that
  nothing else uses.  So the funding of a new pool is never a replay, and the
  pool starts with exactly what its sponsor paid in.
-/
import MoneyMovement.SendKeys

namespace MoneyMovement

open Txn OverdraftService

/-! ### Opening a pool -/

/-- The command that funds a new pool. -/
def openCommand (c : Ctx) (u account : Ulid) (pool : PoolRow) (amount : Money)
    (requestId : Option String) : TransferCommand :=
  fundCommand c u account pool.id pool.poolAccountId amount ("pool-fund:" ++ pool.id.text)
    "Fund Spot-Me pool" requestId "INTERNAL:/overdraft/fund"

/-- The run of `create_pool` once its key is reserved: the account `a` and the `pool` are inserted,
    the pool is funded, the request answered. -/
structure PoolRun (c : Ctx) (triple : IdempotencyTriple) (u : Ulid) (amount : Money)
    (req : Option String) (s s' : Session) (body : Body) (a : AccountRow) (pool : PoolRow)
    (funding : TransferResult) (s₁ s₂ : Session) : Prop where
  account_fresh : s.db.accounts.find? a.id = none
  account_eq : a.accountType = .overdraftPool ∧ a.balanceMinor = 0 ∧ a.id = pool.poolAccountId
  pool_fresh : s.db.overdraftPools.find? pool.id = none
  first_pool : SqlOverdraftRepository.poolOfSponsor s.db u = none
  sponsor : pool.sponsorUserId = u
  opened : s₁.db = { s.db with
    accounts := s.db.accounts.push a, overdraftPools := s.db.overdraftPools.push pool }
  steps : ∀ (L : Licence) (g : Progress), Steps c L ⟨g, s.db⟩ ⟨g, s₁.db⟩
  funds : ∃ account, execute c (openCommand c u account pool amount req) s₁ = .ok funding s₂
  body_eq : body = poolBody pool.id pool.poolAccountId amount funding
  answers : ∃ logs id b now, s'.db = { s₂.db with
    auditLogs := logs
    idempotencyRecords := s₂.db.idempotencyRecords.modifyAt triple
      (SqlIdempotencyRepository.completedRow id 201 b now)
      (SqlIdempotencyRepository.triple_completedRow _ _ _ _) }

section Opening

variable {c : Ctx} {triple : IdempotencyTriple} {u : Ulid} {amount : Money} {req : Option String}
  {s s' : Session} {body : Body}

theorem OverdraftService.createPoolReserved_ok {now : Time}
    (h : createPoolReserved c triple u amount req now s = .ok body s') :
    ∃ a pool funding s₁ s₂, PoolRun c triple u amount req s s' body a pool funding s₁ s₂ := by
  obtain ⟨existing, s₁, h₁, h⟩ := bind_ok.1 h
  obtain ⟨hexisting, rfl⟩ := readDb_ok.1 h₁
  obtain ⟨_, s₂, h₂, h⟩ := bind_ok.1 h
  obtain ⟨hnone, rfl⟩ := ensure_ok.1 h₂
  obtain ⟨found, s₃, h₃, h⟩ := bind_ok.1 h
  obtain ⟨rfl, -⟩ := SqlAccountRepository.getByUserId_ok h₃
  obtain ⟨sponsor, s₄, h₄, h⟩ := bind_ok.1 h
  obtain ⟨-, rfl⟩ := orRaise_ok.1 h₄
  obtain ⟨poolId, s₅, h₅, h⟩ := bind_ok.1 h
  obtain ⟨accountId, s₆, h₆, h⟩ := bind_ok.1 h
  have e₆ := (newUlid_ok h₆).trans (newUlid_ok h₅)
  obtain ⟨_, s₇, h₇, h⟩ := bind_ok.1 h
  obtain ⟨_, s₈, h₈, h⟩ := bind_ok.1 h
  obtain ⟨funding, s₉, h₉, h⟩ := bind_ok.1 h
  obtain ⟨_, s₁₀, h₁₀, h⟩ := bind_ok.1 h
  obtain ⟨_, s₁₁, h₁₁, h⟩ := bind_ok.1 h
  obtain ⟨rfl, rfl⟩ := pure_ok.1 h
  obtain ⟨haccount, -, -, e₇⟩ := SqlAccountRepository.createSubaccount_ok h₇
  obtain ⟨hpool, -, e₈⟩ := insertInto_ok h₈
  rw [e₆] at haccount e₇
  rw [e₇] at hpool e₈
  obtain ⟨_, s₁₂, h₁₂, h₁₁⟩ := bind_ok.1 h₁₁
  obtain ⟨logs, e₁₁⟩ := SqlAuditRepository.record_ok h₁₁
  rw [(now_ok h₁₂).1] at e₁₁
  unfold complete at h₁₀
  refine ⟨_, _, funding, s₈, s₉, haccount, ⟨rfl, rfl, rfl⟩, hpool, ?_, rfl, e₈, ?_, ⟨_, h₉⟩, rfl, logs, ?_⟩
  · rw [Option.isNone_iff_eq_none, ← hexisting] at hnone
    exact hnone
  · intro L g
    have hsteps := (openPool_steps (c := c) (L := L) (g := g) h₇ h₈).1
    rw [e₆] at hsteps
    exact hsteps
  · refine ⟨poolId, (poolBody poolId accountId amount funding).without ["replayed"], now, ?_⟩
    rw [e₁₁, writeDb_ok h₁₀]

/-- Opening a pool reserves its key and runs, or replays. -/
theorem OverdraftService.createPool_ok {key : String}
    (h : OverdraftService.createPool c u amount key req s = .ok body s') :
    s'.db = s.db ∨ s.db.idempotencyRecords.find? ⟨u, POOL_ENDPOINT, key⟩ = none ∧
      ∃ f now s₀ a pool funding s₁ s₂, s₀.db = { s.db with
          idempotencyRecords := s.db.idempotencyRecords.push
            (SqlIdempotencyRepository.processing ⟨u, POOL_ENDPOINT, key⟩ f now) } ∧
        PoolRun c ⟨u, POOL_ENDPOINT, key⟩ u amount req s₀ s' body a pool funding s₁ s₂ := by
  unfold OverdraftService.createPool at h
  obtain ⟨now, s₀, -, ⟨-, b, e, hk⟩ | ⟨hn, e, hk⟩⟩ := shell_cases h
  · obtain ⟨-, rfl⟩ := pure_ok.1 hk
    exact .inl e
  · obtain ⟨a, pool, funding, s₁, s₂, hrun⟩ := createPoolReserved_ok hk
    exact .inr ⟨hn, _, now, s₀, a, pool, funding, s₁, s₂, e, hrun⟩

/-- The invariant holds when the pool is funded. -/
theorem PoolRun.invariant {db : Database} {f : String} {now : Time} {a : AccountRow} {pool : PoolRow}
    {funding : TransferResult} {s₁ s₂ : Session}
    (h : PoolRun c triple u amount req s s' body a pool funding s₁ s₂)
    (hinv : Invariant c.settings c.crypto ⟨.idle, db⟩)
    (hfirst : db.idempotencyRecords.find? triple = none)
    (hs : s.db = { db with
      idempotencyRecords := db.idempotencyRecords.push
        (SqlIdempotencyRepository.processing triple f now) }) : ∃ row,
      Invariant c.settings c.crypto ⟨⟨.none, none, [row]⟩, s₁.db⟩ := by
  have hreserved := hinv.step (.reserve triple f now hfirst) (licence_sound c db .expireDue)
  rw [← hs] at hreserved
  exact ⟨_, hreserved.steps (h.steps _ _) (licence_sound c db .expireDue)⟩

theorem execute_pools {cmd : TransferCommand} {r : TransferResult} (h : execute c cmd s = .ok r s') :
    s'.db.overdraftPools = s.db.overdraftPools := by
  rcases execute_ok h with ⟨e, -⟩ | ⟨p, hp⟩
  · rw [e]
  · exact hp.untouched.pools

end Opening

/-! ### The keys of fundings -/

/-- The key names a pool that exists. -/
def FundKeyed (db : Database) (triple : IdempotencyTriple) : Prop :=
  ∃ pool : Ulid, triple.key = "pool-fund:" ++ pool.text ∧ (db.overdraftPools.find? pool).isSome = true

section Fundings

variable {c : Ctx} {d : Deployment} {db : Database} {s s' : Session} {u : Ulid} {amount : Money}
  {key : String} {req : Option String} {body : Body}

theorem FundKeyed.mono {db db' : Database} {triple : IdempotencyTriple} (hg : db.Grows db')
    (h : FundKeyed db triple) : FundKeyed db' triple := by
  obtain ⟨pool, hkey, hsome⟩ := h
  obtain ⟨row, hrow⟩ := Option.isSome_iff_exists.1 hsome
  exact ⟨pool, hkey, Option.isSome_iff_exists.2 ⟨row, hg.pool _ _ hrow⟩⟩

/-- Opening a pool uses its own key and the key that names the pool. -/
theorem OverdraftService.createPool_keys (hinv : Invariant c.settings c.crypto ⟨.idle, s.db⟩)
    (h : OverdraftService.createPool c u amount key req s = .ok body s')
    {triple : IdempotencyTriple} (he : triple.endpoint = "INTERNAL:/overdraft/fund") :
    s'.db.idempotencyRecords.find? triple = s.db.idempotencyRecords.find? triple ∨
      FundKeyed s'.db triple := by
  rcases OverdraftService.createPool_ok h with e | ⟨hn, f, now, s₀, a, pool, funding, s₁, s₂, e₀, hrun⟩
  · exact .inl (by rw [e])
  obtain ⟨account, hfund⟩ := hrun.funds
  obtain ⟨logs, id, b, now', e'⟩ := hrun.answers
  have hne : triple ≠ ⟨u, POOL_ENDPOINT, key⟩ := by
    rintro rfl
    exact absurd he (show POOL_ENDPOINT ≠ _ by decide)
  by_cases hopen : triple = (openCommand c u account pool amount req).triple
  · refine .inr ⟨pool.id, by rw [hopen]; rfl, ?_⟩
    have hpools : s'.db.overdraftPools = s₁.db.overdraftPools := by
      rw [e']
      exact execute_pools hfund
    rw [hpools, hrun.opened]
    exact Option.isSome_iff_exists.2 ⟨pool, Table.find?_push_self hrun.pool_fresh⟩
  · left
    obtain ⟨row, hinv₁⟩ := hrun.invariant hinv hn e₀
    have hlien : triple.endpoint ≠ LIEN_ENDPOINT := by
      rw [he]
      decide
    have hkept := execute_keys hinv₁.standing hfund hopen hlien
    rw [e']
    dsimp only
    rw [Table.find?_modifyAt, if_neg hne, hkept, hrun.opened, e₀]
    exact (Table.find?_push hn triple).trans (if_neg hne.symm)

/-- Funding a pool uses the client's key. -/
theorem OverdraftService.fundPool_keys (hinv : Invariant c.settings c.crypto ⟨.idle, s.db⟩)
    (h : OverdraftService.fundPool c u amount key req s = .ok body s')
    {triple : IdempotencyTriple} (he : triple.endpoint = "INTERNAL:/overdraft/fund") :
    s'.db.idempotencyRecords.find? triple = s.db.idempotencyRecords.find? triple := by
  obtain ⟨found, s₁, h₁, h⟩ := bind_ok.1 h
  obtain ⟨-, rfl⟩ := readDb_ok.1 h₁
  obtain ⟨pool, s₂, h₂, h⟩ := bind_ok.1 h
  obtain ⟨-, rfl⟩ := orRaise_ok.1 h₂
  obtain ⟨account, s₃, h₃, h⟩ := bind_ok.1 h
  obtain ⟨rfl, -⟩ := SqlAccountRepository.getByUserId_ok h₃
  obtain ⟨sponsor, s₄, h₄, h⟩ := bind_ok.1 h
  obtain ⟨-, rfl⟩ := orRaise_ok.1 h₄
  obtain ⟨transfer, s₅, h₅, h⟩ := bind_ok.1 h
  obtain ⟨poolAccount, s₆, h₆, h⟩ := bind_ok.1 h
  obtain ⟨-, rfl⟩ := readDb_ok.1 h₆
  obtain ⟨-, rfl⟩ := pure_ok.1 h
  refine execute_keys hinv.standing h₅ ?_ ?_
  · rintro rfl
    have hend : "POST:/api/v1/overdraft/pools/" ++ pool.id.text ++ "/fund" = "INTERNAL:/overdraft/fund" := he
    rw [String.append_assoc] at hend
    exact append_ne_of_take (by decide) _ hend
  · rw [he]
    decide

theorem Request.posts_fund {req : Request} (h : req.posts .overdraftFund = true) :
    (∃ u pin amount key id, req = .createPool u pin amount key id) ∨
      ∃ u pin amount key id, req = .fundPool u pin amount key id := by
  cases req <;> first | exact .inl ⟨_, _, _, _, _, rfl⟩ | exact .inr ⟨_, _, _, _, _, rfl⟩ | cases h

theorem serve_fundsKeyed (hinv : db.Inv d) (call : Call)
    (h : KeyedBy "INTERNAL:/overdraft/fund" FundKeyed db) :
    KeyedBy "INTERNAL:/overdraft/fund" FundKeyed (serve d call db) := by
  rcases commit_cases (handle (d.ctx call.oracle) call.request) db with ⟨r, s, hok, he⟩ | he
  · rw [serve, he]
    have hsteps := handle_steps hok
    have hmono : ∀ triple, FundKeyed db triple → FundKeyed s.db triple :=
      fun _ => FundKeyed.mono hsteps.grows
    have hinv₀ : ∀ {s₀ : Session}, SameButCounters (begin db) s₀ →
        Invariant (d.ctx call.oracle).settings (d.ctx call.oracle).crypto ⟨.idle, s₀.db⟩ ∧
          s₀.db.idempotencyRecords = db.idempotencyRecords := by
      rintro s₀ ⟨users, hu, e₀⟩
      rw [e₀]
      exact ⟨hinv.users call.oracle hu.usersKept, rfl⟩
    by_cases hposts : call.request.posts .overdraftFund = true
    · rcases Request.posts_fund hposts with ⟨u, pin, amount, key, id, hreq⟩ | ⟨u, pin, amount, key, id, hreq⟩ <;>
        rw [hreq, handle] at hok <;> obtain ⟨r₁, s₁, h₁, hok⟩ := bind_ok.1 hok <;>
        obtain ⟨-, rfl⟩ := pure_ok.1 hok <;>
        rcases runPinProtected_cases h₁ with ⟨-, -, users, -, e⟩ | ⟨s₀, body, -, hsame, hop⟩
      · rw [e]
        exact h
      · obtain ⟨hinv', hrecords⟩ := hinv₀ hsame
        refine h.of_records hmono fun triple he => ?_
        rw [← hrecords]
        exact OverdraftService.createPool_keys hinv' hop he
      · rw [e]
        exact h
      · obtain ⟨hinv', hrecords⟩ := hinv₀ hsame
        refine h.of_records hmono fun triple he => .inl ?_
        rw [← hrecords]
        exact OverdraftService.fundPool_keys hinv' hop he
    · refine h.steps hsteps (licence_sound _ _ _) hinv ?_ (by decide) (by decide) hmono
      rintro db₁ d₁ p d₂ ⟨hw, hk⟩ hend
      rw [hw.issued.kind_of_fund hend] at hk
      exact hposts hk
  · rw [serve, he]
    exact h

theorem serveAll_fundsKeyed (d : Deployment) (now : Time) (calls : List Call) :
    KeyedBy "INTERNAL:/overdraft/fund" FundKeyed (serveAll d calls (migrated now)) := by
  refine serveAll_induction now ?_ (fun db call hinv h => serve_fundsKeyed hinv call h) calls
  intro r hr
  cases hr

end Fundings

end MoneyMovement

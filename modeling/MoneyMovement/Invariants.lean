/-
  MoneyMovement/Invariants.lean
  =============================
  **The invariant of the system.**

  The groups proved one by one are put together here.  They lean on each other:
  no replay goes astray because the loans, escrows and legs of the transfers it
  could replay are in place, and those are in place because no replay went
  astray.  `Invariant.step` ties the knot one step at a time, `Invariant.steps`
  carries it through a transaction, and `Reachable.inv` through every run of the
  system.
-/
import MoneyMovement.RequestPaths
import MoneyMovement.Standing

namespace MoneyMovement

/-! ### Two more groups -/

/-- Whoever owns the account a transfer left has initiated it. -/
def Authorized (db : Database) : Prop :=
  ∀ t ∈ db.transfers.rows, ∃ a, db.accounts.find? t.senderAccountId = some a ∧
    (a.userId = none ∨ a.userId = t.initiatedByUserId)

/-- An accepted request names a transfer. -/
def Linked (requests : Table MoneyRequestRow.id) : Prop :=
  ∀ r ∈ requests.rows, r.status = .accepted → r.transferId.isSome = true

namespace Authorized

variable {db db' : Database}

theorem mono (h : Authorized db) (hg : db.Grows db')
    (ht : ∀ t ∈ db'.transfers.rows, ∃ t₀ ∈ db.transfers.rows, t₀.SameMovement t) : Authorized db' := by
  intro t hmem
  obtain ⟨t₀, hmem₀, _, _, rfl⟩ := ht t hmem
  obtain ⟨a, ha, hu⟩ := h t₀ hmem₀
  obtain ⟨a', ha', -, hu'⟩ := hg.account _ _ ha
  exact ⟨a', ha', hu' ▸ hu⟩

theorem post {c : Ctx} {p : Posting} (h : Authorized db) (hv : p.Valid c db) :
    Authorized (p.apply db) := by
  intro t hmem
  rcases (Table.mem_push hv.transfer_fresh).1 hmem with hmem | rfl
  · obtain ⟨a, ha, hu⟩ := h t hmem
    obtain ⟨a', ha', -, hu'⟩ := hv.grows.account _ _ ha
    exact ⟨a', ha', hu' ▸ hu⟩
  · obtain ⟨a', ha', -, hu'⟩ := hv.grows.account _ _ hv.sender_found
    refine ⟨a', ha', ?_⟩
    rw [hu']
    rcases hv.authorized with ⟨-, hnone⟩ | hown
    · exact .inl hnone
    · exact .inr hown

theorem step {c : Ctx} {L : Licence} {k k' : Config} (hs : Step c L k k') (h : Authorized k.db) :
    Authorized k'.db := by
  have hg := hs.grows
  cases hs
  case post hv _ => exact h.post hv
  case repay hv _ => exact h.post hv
  case latch hf _ _ =>
    refine h.mono hg fun t hmem => ?_
    dsimp only at hmem
    rcases Table.mem_of_mem_modifyAt hf hmem with ⟨hmem, -⟩ | rfl
    · exact ⟨t, hmem, .refl t⟩
    · exact ⟨_, Table.mem_of_find? hf, _, _, rfl⟩
  all_goals exact h.mono hg fun t hmem => ⟨t, hmem, .refl t⟩

end Authorized

theorem Linked.step {c : Ctx} {L : Licence} {k k' : Config} (hs : Step c L k k')
    (h : Linked k.db.moneyRequests) : Linked k'.db.moneyRequests := by
  cases hs
  case request row _ hf hst _ _ _ =>
    intro r hr ha
    rcases (Table.mem_push hf).1 hr with hr | rfl
    · exact h r hr ha
    · rw [hst] at ha
      cases ha
  case decline q f hid hq =>
    intro r hr ha
    dsimp only at hr
    obtain ⟨r₀, hr₀, rfl⟩ := Table.mem_update.1 hr
    by_cases hqr : q r₀ = true
    · rw [if_pos hqr] at ha
      exact absurd ha (hq r₀ hr₀ hqr).2.2.1
    · rw [if_neg hqr] at ha ⊢
      exact h r₀ hr₀ ha
  case accept hf _ _ =>
    intro r hr ha
    dsimp only at hr
    rcases Table.mem_of_mem_modifyAt hf hr with ⟨hr, -⟩ | rfl
    · exact h r hr ha
    · rfl
  case acceptReplayed hf _ =>
    intro r hr ha
    dsimp only at hr
    rcases Table.mem_of_mem_modifyAt hf hr with ⟨hr, -⟩ | rfl
    · exact h r hr ha
    · rfl
  all_goals exact h

/-! ### The invariant -/

structure Invariant (cfg : Settings) (y : Crypto) (k : Config) : Prop where
  books : Books k.db.accounts k.db.transfers k.db.ledgerTransactions k.db.ledgerEntries
  chart : Chart k.db
  authorized : Authorized k.db
  routes : Routes cfg k.progress.duty k.db
  latches : Latches k.progress.duty k.db.transfers k.db.safepayEscrows
  custody : Custody k.progress.duty k.db.accounts k.db.transfers k.db.safepayEscrows
  lending : Lending k.progress.duty k.progress.repaying k.db.accounts k.db.transfers
    k.db.overdraftPools k.db.overdraftLoans k.db.overdraftRepayments
  reserved : Reserved k.progress.reserved k.db.idempotencyRecords
  processing : ∀ r ∈ k.progress.reserved, r.status = .processing
  journalled : Journalled k.db
  proven : Proven y k.db
  linked : Linked k.db.moneyRequests
  standing : Standing k.db

namespace Invariant

variable {c : Ctx} {L : Licence} {k k' : Config}

theorem migrated_invariant (cfg : Settings) (y : Crypto) (now : Time) :
    Invariant cfg y ⟨.idle, migrated now⟩ where
  books := Books.migrated_books now
  chart := Chart.migrated_chart now
  authorized _ h := by cases h
  routes := Routes.migrated_routes cfg now
  latches := Latches.migrated_latches now
  custody := Custody.migrated_custody now
  lending := Lending.migrated_lending now
  reserved := Reserved.migrated_reserved now
  processing _ h := by cases h
  journalled := Journalled.migrated_journalled now
  proven := Proven.migrated_proven y now
  linked _ h := by cases h
  standing := Standing.migrated_standing now

theorem no_stray {cfg : Settings} {y : Crypto} (h : Invariant cfg y k)
    (hr : k.progress.repaying = none) : ¬Stray k.db k.progress.duty :=
  h.proven.no_stray h.latches (hr ▸ h.lending)

theorem step (hs : Step c L k k') (hL : L.Sound c) (h : Invariant c.settings c.crypto k) :
    Invariant c.settings c.crypto k' where
  books := h.books.step hs
  chart := h.chart.step hs
  authorized := h.authorized.step hs
  routes := h.routes.step hs hL h.no_stray h.chart
  latches := h.latches.step hs hL h.no_stray h.routes
  custody := h.custody.step hs hL h.no_stray h.chart h.routes
  lending := h.lending.step hs hL h.no_stray (fun t ht => (h.books.moves t ht).1) h.chart h.routes
  reserved := h.reserved.step hs
  processing := hs.reserved_processing h.processing
  journalled := h.journalled.step hs
  proven := h.proven.step hs hL h.reserved
  linked := h.linked.step hs
  standing := h.standing.step hs hL h.reserved

theorem steps (hs : Steps c L k k') (hL : L.Sound c) (h : Invariant c.settings c.crypto k) :
    Invariant c.settings c.crypto k' := by
  induction hs with
  | refl => exact h
  | tail _ hs ih => exact ih.step hs hL

/-- What every step keeps, given the invariant, a transaction keeps. -/
theorem steps_induction {P : Config → Prop} (hs : Steps c L k k') (hL : L.Sound c)
    (h : Invariant c.settings c.crypto k) (hinit : P k)
    (hstep : ∀ k₁ k₂, Invariant c.settings c.crypto k₁ → Step c L k₁ k₂ → P k₁ → P k₂) : P k' := by
  induction hs with
  | refl => exact hinit
  | tail hs hlast ih => exact hstep _ _ (h.steps hs hL) hlast ih

end Invariant

/-- Between transactions. -/
abbrev Database.Inv (d : Deployment) (db : Database) : Prop :=
  Invariant d.settings d.crypto ⟨.idle, db⟩

/-- What a transaction that commits does, step by step. -/
theorem Reachable.inv {d : Deployment} {db : Database} (h : Reachable d db) : db.Inv d := by
  refine h.invariant (Invariant.migrated_invariant _ _) ?_
  intro db c req r s _ hinv hcfg hcrypto hok
  have hsteps := handle_steps hok
  unfold Database.Inv at hinv ⊢
  rw [← hcfg, ← hcrypto] at hinv ⊢
  exact hinv.steps hsteps (licence_sound c db req)

/-- A call changes nothing, or takes licensed steps. -/
theorem serve_cases (d : Deployment) (call : Call) (db : Database) :
    serve d call db = db ∨ Steps (d.ctx call.oracle) (licence (d.ctx call.oracle) db call.request)
      ⟨.idle, db⟩ ⟨.idle, serve d call db⟩ := by
  rcases commit_cases (handle (d.ctx call.oracle) call.request) db with ⟨r, s, hok, he⟩ | he
  · right
    rw [serve, he]
    exact handle_steps hok
  · exact .inl he

theorem serveAll_append (d : Deployment) (calls calls' : List Call) (db : Database) :
    serveAll d (calls ++ calls') db = serveAll d calls' (serveAll d calls db) := by
  induction calls generalizing db with
  | nil => rfl
  | cons call calls ih => exact ih _

theorem serveAll_inv (d : Deployment) (now : Time) (calls : List Call) :
    (serveAll d calls (migrated now)).Inv d :=
  ((Reachable.init now).serveAll calls).inv

/-- What every call keeps, given the invariant, holds after every list of calls. -/
theorem serveAll_induction {d : Deployment} {P : Database → Prop} (now : Time) (hinit : P (migrated now))
    (hstep : ∀ db call, db.Inv d → P db → P (serve d call db)) (calls : List Call) :
    P (serveAll d calls (migrated now)) := by
  have hall : ∀ db, db.Inv d → P db → ∀ calls, P (serveAll d calls db) := by
    intro db hinv hP calls
    induction calls generalizing db with
    | nil => exact hP
    | cons call calls ih =>
      refine ih _ ?_ (hstep db call hinv hP)
      rcases serve_cases d call db with e | hsteps
      · rw [e]
        exact hinv
      · exact hinv.steps hsteps (licence_sound (d.ctx call.oracle) _ _)
  exact hall _ (Invariant.migrated_invariant _ _ now) hinit calls

end MoneyMovement

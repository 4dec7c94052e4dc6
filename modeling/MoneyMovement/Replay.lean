/-
  MoneyMovement/Replay.lean
  =========================
  **Submitting a command any number of times.**

  A client that saw no answer submits again; the unit of work retries a
  transaction the database aborted; other requests run in between.  A run here
  is a list of such events.  The idempotency record of a first execution is
  written once and never changes again, and a later execution rebuilds the same
  answer from it, field by field.
-/
import MoneyMovement.Invariants

namespace MoneyMovement

open Txn

/-! ### Runs with direct submissions -/

/-- What happens next: a request of the system, a command submitted to the use case in a
    transaction of its own, or an attempt that the database aborts. -/
inductive Event where
  | call (call : Call)
  | submit (oracle : Oracle) (cmd : TransferCommand)
  | aborted

/-- `execute` through the unit of work. -/
def submit (d : Deployment) (o : Oracle) (cmd : TransferCommand) (db : Database) : Database :=
  commit (execute (d.ctx o) cmd) db

namespace Event

/-- The database after an event. -/
def apply (d : Deployment) (db : Database) : Event → Database
  | .call x => serve d x db
  | .submit o cmd => MoneyMovement.submit d o cmd db
  | .aborted => db

/-- The database after a list of events. -/
def run (d : Deployment) (events : List Event) (db : Database) : Database :=
  events.foldl (apply d) db

end Event

/-- An event changes nothing, or takes steps. -/
theorem Event.apply_cases (d : Deployment) (e : Event) (db : Database) :
    e.apply d db = db ∨ ∃ c L, Steps c L ⟨.idle, db⟩ ⟨.idle, e.apply d db⟩ := by
  cases e with
  | call call =>
    rcases serve_cases d call db with he | hs
    · exact .inl he
    · exact .inr ⟨_, _, hs⟩
  | submit o cmd =>
    rcases commit_cases (execute (d.ctx o) cmd) db with ⟨r, s, hok, he⟩ | he
    · rcases execute_ok hok with ⟨hsame, -⟩ | ⟨p, hp⟩
      · exact .inl (he.trans hsame)
      · right
        refine ⟨d.ctx o, .all, ?_⟩
        show Steps _ _ _ ⟨_, commit _ db⟩
        rw [he]
        exact hp.steps .all .none .none [] trivial
    · exact .inl he
  | aborted => exact .inl rfl

/-! ### Keys -/

/-- What the store of keys promises at any point of a transaction. -/
structure Keyed (k : Config) : Prop where
  reserved : Reserved k.progress.reserved k.db.idempotencyRecords
  processing : ∀ r ∈ k.progress.reserved, r.status = .processing
  journalled : Journalled k.db

namespace Keyed

variable {c : Ctx} {L : Licence} {k k' : Config}

theorem step (hs : Step c L k k') (h : Keyed k) : Keyed k' :=
  ⟨h.reserved.step hs, hs.reserved_processing h.processing, h.journalled.step hs⟩

theorem steps (hs : Steps c L k k') (h : Keyed k) : Keyed k' := by
  induction hs with
  | refl => exact h
  | tail _ hs ih => exact ih.step hs

/-- A completed record stays as it is through a transaction. -/
theorem record_kept (hs : Steps c L k k') (h : Keyed k) {triple : IdempotencyTriple}
    {r : IdempotencyRow} (hf : k.db.idempotencyRecords.find? triple = some r)
    (hr : r.status = .completed) : k'.db.idempotencyRecords.find? triple = some r := by
  induction hs with
  | refl => exact hf
  | tail hs hlast ih =>
    have hk := h.steps hs
    exact hlast.record_kept hk.reserved hk.processing ih hr

theorem migrated_keyed (now : Time) : Keyed ⟨.idle, migrated now⟩ where
  reserved := Reserved.migrated_reserved now
  processing _ h := by cases h
  journalled := Journalled.migrated_journalled now

variable {db : Database}

/-- Between transactions every record is complete. -/
theorem completed (h : Keyed ⟨.idle, db⟩) {r : IdempotencyRow}
    (hr : r ∈ db.idempotencyRecords.rows) : r.status = .completed := by
  rcases h.reserved.settled r hr with hmem | hc
  · cases hmem
  · exact hc

theorem event (d : Deployment) (e : Event) (h : Keyed ⟨.idle, db⟩) : Keyed ⟨.idle, e.apply d db⟩ := by
  rcases e.apply_cases d db with he | ⟨c, L, hs⟩
  · rw [he]
    exact h
  · exact h.steps hs

theorem run (d : Deployment) (events : List Event) (h : Keyed ⟨.idle, db⟩) :
    Keyed ⟨.idle, Event.run d events db⟩ := by
  induction events generalizing db with
  | nil => exact h
  | cons e events ih => exact ih (h.event d e)

theorem run_record_kept (d : Deployment) (events : List Event) (h : Keyed ⟨.idle, db⟩)
    {triple : IdempotencyTriple} {r : IdempotencyRow}
    (hf : db.idempotencyRecords.find? triple = some r) :
    (Event.run d events db).idempotencyRecords.find? triple = some r := by
  induction events generalizing db with
  | nil => exact hf
  | cons e events ih =>
    refine ih (h.event d e) ?_
    rcases e.apply_cases d db with he | ⟨c, L, hs⟩
    · rw [he]
      exact hf
    · exact record_kept hs h hf (h.completed (Table.mem_of_find? hf))

end Keyed

/-! ### The record of a first execution -/

/-- The lien's repayments leave the reservation of the credit they follow alone, so that
    what `complete` fills in is that reservation. -/
theorem Executed.record {c : Ctx} {cmd : TransferCommand} {r : TransferResult} {p : Posting}
    {db db' : Database} (h : Executed (execute c) c cmd db db' r p) (hk : Keyed ⟨.idle, db⟩) :
    db'.idempotencyRecords.find? cmd.triple = some
      (SqlIdempotencyRepository.completedRow p.transferId 201 p.result.toResponse p.now
        p.reservation) := by
  obtain ⟨db₁, logs, hsweep, -, rfl⟩ := h.swept
  have hpost : Steps c .all ⟨.idle, db⟩ ⟨⟨.none, none, [p.reservation]⟩, p.apply db⟩ :=
    .single (.post p h.valid trivial)
  have hswept := hk.steps ((hpost.trans (Steps.audit _ logs)).trans (hsweep .all .none _))
  have hfound := hswept.reserved.found p.reservation (List.mem_singleton_self _)
  have htriple : p.reservation.triple = cmd.triple := congrArg TransferCommand.triple h.cmd_eq
  dsimp only at hfound ⊢
  rw [htriple] at hfound
  rw [Table.find?_modifyAt, if_pos rfl, hfound]
  rfl

/-! ### Answering from the store -/

namespace TransferUseCase

/-- What the stored body of a result says. -/
theorem replayResult_stored (c : Ctx) {r : TransferResult} (hr : r.completedAt < Time.datetimeMax)
    (resourceId : Option Ulid) (s : Session) :
    ∃ r', replayResult c r.toResponse resourceId s = .ok r' s ∧ r'.toResponse = r.toResponse := by
  have hid : ((some r.transferId.text).bind Ulid.ofText?).or resourceId = some r.transferId := by
    rw [Option.bind_some, Ulid.ofText?_text]
    rfl
  have hcur : Currency.ofCode? r.amount.currency.code = some r.amount.currency :=
    Currency.ofCode?_code _
  refine ⟨{ r with
    fee := ⟨r.fee.minor, r.amount.currency⟩
    senderBalanceAfter := ⟨r.senderBalanceAfter.minor, r.amount.currency⟩
    receiverBalanceAfter := ⟨0, r.amount.currency⟩
    replayed := true }, ?_, rfl⟩
  have h₁ : (orRaise (Currency.ofCode? ((Body.str? r.toResponse "currency").getD "BDT"))
      ⟨.notFound, "Stored transfer used an unsupported currency.", []⟩ : Tx Currency) s =
      .ok r.amount.currency s := orRaise_ok.2 ⟨hcur, rfl⟩
  have h₂ : (orRaise (((Body.str? r.toResponse "transferId").bind Ulid.ofText?).or resourceId)
      ⟨.python, "stored transfer id", []⟩ : Tx Ulid) s = .ok r.transferId s := orRaise_ok.2 ⟨hid, rfl⟩
  have h₃ : storedCompletedAt c r.toResponse s = .ok r.completedAt s :=
    orRaise_ok.2 ⟨Time.fromisoformat_isoformat hr, rfl⟩
  rw [replayResult, bind_of_ok h₁, bind_of_ok h₂, bind_of_ok h₃]
  rfl

end TransferUseCase

/-- What `reserve` answers when the key is taken. -/
theorem SqlIdempotencyRepository.reserve_of_some {triple : IdempotencyTriple} {s : Session}
    {r : IdempotencyRow} (f : String) (now : Time) (hfits : fits 100 triple.endpoint = true ∧
      fits 128 triple.key = true) (hf : s.db.idempotencyRecords.find? triple = some r)
    (hr : r.status = .completed) :
    reserve triple f now s = .ok (if r.requestFingerprint ≠ f then .payloadMismatch
      else .replay r.httpStatus r.responseBody r.resourceId) s := by
  have h₂ : readDb (fun db => db.idempotencyRecords.find? triple) s = .ok (some r) s :=
    readDb_ok.2 ⟨hf, rfl⟩
  rw [reserve, bind_of_ok (ensure_of_pos hfits _ s), bind_of_ok h₂]
  by_cases he : r.requestFingerprint ≠ f
  · dsimp only
    rw [if_pos he, if_pos he]
    rfl
  · dsimp only
    rw [if_neg he, if_pos hr, if_neg he]
    rfl

/-- The key was short enough for its columns. -/
theorem SqlIdempotencyRepository.fits_of_reserve {triple : IdempotencyTriple} {f : String}
    {now : Time} {s s' : Session} {d : IdempotencyDecision} (h : reserve triple f now s = .ok d s') :
    fits 100 triple.endpoint = true ∧ fits 128 triple.key = true := by
  obtain ⟨_, s₁, h₁, -⟩ := bind_ok.1 h
  exact (ensure_ok.1 h₁).1

section Resubmission

variable {c : Ctx} {cmd : TransferCommand} {s : Session} {r : IdempotencyRow}

/-- Another payload under a used key is refused. -/
theorem execute_of_mismatch (hfits : fits 100 cmd.triple.endpoint = true ∧
      fits 128 cmd.triple.key = true)
    (hf : s.db.idempotencyRecords.find? cmd.triple = some r) (hr : r.status = .completed)
    (hne : r.requestFingerprint ≠ cmd.requestFingerprint) :
    ∃ s', execute c cmd s = .raised (.of .idempotencyKeyReuse) s' := by
  have h₂ := SqlIdempotencyRepository.reserve_of_some (s := { s with draws := s.draws + 1 })
    cmd.requestFingerprint (c.oracle.clock s.draws) hfits hf hr
  rw [if_pos hne] at h₂
  refine ⟨{ s with draws := s.draws + 1 }, ?_⟩
  rw [execute_wired, TransferUseCase.execute]
  have h₁ : now c s = .ok (c.oracle.clock s.draws) { s with draws := s.draws + 1 } := rfl
  rw [bind_of_ok h₁, bind_of_ok h₂]
  exact bind_of_raised rfl _

/-- The same payload under a used key is answered from the store. -/
theorem execute_of_stored (hfits : fits 100 cmd.triple.endpoint = true ∧
      fits 128 cmd.triple.key = true)
    (hf : s.db.idempotencyRecords.find? cmd.triple = some r) (hr : r.status = .completed)
    (heq : r.requestFingerprint = cmd.requestFingerprint) {t : TransferResult}
    (hb : r.responseBody = some t.toResponse) (ht : t.completedAt < Time.datetimeMax) :
    ∃ t' s', execute c cmd s = .ok t' s' ∧ s'.db = s.db ∧ t'.toResponse = t.toResponse := by
  have h₂ := SqlIdempotencyRepository.reserve_of_some (s := { s with draws := s.draws + 1 })
    cmd.requestFingerprint (c.oracle.clock s.draws) hfits hf hr
  rw [if_neg (not_not.2 heq)] at h₂
  obtain ⟨t', h₃, ht'⟩ := TransferUseCase.replayResult_stored c ht r.resourceId
    { s with draws := s.draws + 1 }
  refine ⟨t', { s with draws := s.draws + 1 }, ?_, rfl, ht'⟩
  rw [execute_wired, TransferUseCase.execute]
  have h₁ : now c s = .ok (c.oracle.clock s.draws) { s with draws := s.draws + 1 } := rfl
  have h₄ : TransferUseCase.handleIdempotencyDecision c
      (.replay r.httpStatus r.responseBody r.resourceId) { s with draws := s.draws + 1 } =
      .ok (some t') { s with draws := s.draws + 1 } := by
    rw [TransferUseCase.handleIdempotencyDecision, hb, Option.getD_some, bind_of_ok h₃]
    rfl
  rw [bind_of_ok h₁, bind_of_ok h₂, bind_of_ok h₄]
  rfl

/-- A first execution leaves a record that answers as it did. -/
theorem execute_records {r : TransferResult} {s' : Session} (hk : Keyed ⟨.idle, s.db⟩)
    (h : execute c cmd s = .ok r s') (hr : r.replayed = false) :
    ∃ row, s'.db.idempotencyRecords.find? cmd.triple = some row ∧ row.status = .completed ∧
      row.requestFingerprint = cmd.requestFingerprint ∧ row.responseBody = some r.toResponse ∧
      r.completedAt < Time.datetimeMax := by
  rw [execute_wired] at h
  rcases TransferUseCase.execute_ok h with ⟨-, hreplayed, -⟩ | ⟨p, hp⟩
  · rw [hr] at hreplayed
    cases hreplayed
  · obtain ⟨i, hi⟩ := hp.clocked
    refine ⟨_, hp.record hk, rfl, congrArg TransferCommand.requestFingerprint hp.cmd_eq, ?_, ?_⟩
    · rw [hp.result]
      rfl
    · rw [hp.result]
      show p.now < _
      rw [hi]
      exact c.oracle.clock_lt i

/-- An execution that returned left a record under its key. -/
theorem execute_recorded {r : TransferResult} {s' : Session} (hk : Keyed ⟨.idle, s.db⟩)
    (h : execute c cmd s = .ok r s') :
    (∃ row, s'.db.idempotencyRecords.find? cmd.triple = some row ∧ row.status = .completed ∧
      row.requestFingerprint = cmd.requestFingerprint) ∧
      fits 100 cmd.triple.endpoint = true ∧ fits 128 cmd.triple.key = true := by
  have hfits : fits 100 cmd.triple.endpoint = true ∧ fits 128 cmd.triple.key = true := by
    rw [execute_wired] at h
    obtain ⟨_, s₁, -, h⟩ := bind_ok.1 h
    obtain ⟨_, s₂, h₂, -⟩ := bind_ok.1 h
    exact SqlIdempotencyRepository.fits_of_reserve h₂
  refine ⟨?_, hfits⟩
  rw [execute_wired] at h
  rcases TransferUseCase.execute_ok h with ⟨hsame, -, row, hrow⟩ | ⟨p, hp⟩
  · rw [hsame]
    exact ⟨row, hrow.found, hrow.completed, hrow.same⟩
  · exact ⟨_, hp.record hk, rfl, congrArg TransferCommand.requestFingerprint hp.cmd_eq⟩

end Resubmission

/-- One triple, one execution; later ones answer from the store, or are refused. -/
theorem executions_are_idempotent (d : Deployment) (now : Time) (before after : List Event)
    (o : Oracle) (cmd : TransferCommand) :
    let db := Event.run d before (migrated now)
    -- what the executions of a triple have created, over the whole run
    ((db.journal.filter fun x => decide (x.triple = cmd.triple)).length ≤ 1 ∧
      db.transfers.rows.map TransferRow.id = db.journal.map Execution.transferId ∧
      db.ledgerTransactions.rows.map (fun l => (l.id, l.transferId)) =
        db.journal.map (fun x => (x.ledgerTransactionId, x.transferId)) ∧
      db.transferEvents.map (fun e => (e.id, e.aggregateId)) =
        db.journal.map fun x => (x.eventId, x.transferId)) ∧
    -- an attempt that raised
    (∀ e s, execute (d.ctx o) cmd (begin db) = .raised e s →
      submit d o cmd db = db ∧ ∀ r ∈ db.idempotencyRecords.rows, r.status = .completed) ∧
    -- an attempt that returned, and what comes after it
    ∀ r s, execute (d.ctx o) cmd (begin db) = .ok r s →
      let db' := Event.run d after s.db
      ∀ o' cmd', cmd'.triple = cmd.triple →
        (cmd'.requestFingerprint = cmd.requestFingerprint → r.replayed = false →
          ∃ r' s', execute (d.ctx o') cmd' (begin db') = .ok r' s' ∧ s'.db = db' ∧
            r'.toResponse = r.toResponse) ∧
        (cmd'.requestFingerprint ≠ cmd.requestFingerprint →
          (∃ s', execute (d.ctx o') cmd' (begin db') = .raised (.of .idempotencyKeyReuse) s') ∧
            submit d o' cmd' db' = db') := by
  intro db
  have hk : Keyed ⟨.idle, db⟩ := (Keyed.migrated_keyed now).run d before
  refine ⟨⟨?_, hk.journalled.transfers, hk.journalled.ledger, hk.journalled.events⟩, ?_, ?_⟩
  · rw [← List.countP_eq_length_filter]
    have hcount := List.nodup_iff_count_le_one.1 hk.journalled.nodup cmd.triple
    rw [List.count, List.countP_map] at hcount
    exact hcount
  · intro e s hraised
    exact ⟨commit_of_raised hraised, fun r hr => hk.completed hr⟩
  · intro r s hok db' o' cmd' htriple
    have hk' : Keyed ⟨.idle, s.db⟩ := by
      have := hk.event d (.submit o cmd)
      show Keyed ⟨.idle, s.db⟩
      rw [← commit_of_ok hok]
      exact this
    obtain ⟨⟨row, hrow, hc, hfp⟩, hfits⟩ := execute_recorded hk hok
    rw [← htriple] at hfits
    have hlater : (begin db').db.idempotencyRecords.find? cmd'.triple = some row := by
      rw [htriple]
      exact hk'.run_record_kept d after hrow
    refine ⟨?_, ?_⟩
    · intro hsame hfirst
      obtain ⟨row', hrow', -, -, hb, ht⟩ := execute_records hk hok hfirst
      obtain rfl := Option.some.inj (hrow.symm.trans hrow')
      exact execute_of_stored hfits hlater hc (hfp.trans hsame.symm) hb ht
    · intro hother
      obtain ⟨s', hs'⟩ := execute_of_mismatch (c := d.ctx o') hfits hlater hc
        (fun he => hother (he.symm.trans hfp))
      exact ⟨⟨s', hs'⟩, commit_of_raised hs'⟩

end MoneyMovement

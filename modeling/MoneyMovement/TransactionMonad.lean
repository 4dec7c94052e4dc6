/-
  MoneyMovement/TransactionMonad.lean
  ===================================
  **Computations inside one database transaction.**

  `Txn ε σ α` is a computation over a session of type `σ` that either returns
  or raises.  Both outcomes carry the session as it stood at that point: an
  exception does not undo anything by itself.  What undoes is the construct
  that catches it: `attempt` keeps the writes made before the exception (a plain
  `try … except`), `savepoint` discards them.

  The first group of lemmas inverts a successful run, one lemma per construct;
  the second evaluates a run whose first part is known.  `Always R m` says that
  every run of `m`, also one that raises, relates the session before and after by
  `R`, `Returns` that a run gets to its end, and `RaisesOnly` what a run can raise,
  each with one rule per construct.

  Nothing here refers to a particular kind of session.
-/
import Mathlib.Order.Defs.Unbundled

/-- How a computation ends: with a value, or with an exception. -/
inductive Outcome (ε σ α : Type) where
  | ok (a : α) (s : σ)
  | raised (e : ε) (s : σ)

namespace Outcome

variable {ε σ α : Type}

/-- The session in which the computation ended. -/
def session : Outcome ε σ α → σ
  | ok _ s => s
  | raised _ s => s

/-- Did the computation return? -/
def succeeded : Outcome ε σ α → Bool
  | ok _ _ => true
  | raised _ _ => false

theorem succeeded_iff {o : Outcome ε σ α} : o.succeeded = true ↔ ∃ a s, o = .ok a s := by
  cases o with
  | ok a s => exact ⟨fun _ => ⟨a, s, rfl⟩, fun _ => rfl⟩
  | raised e s => simp [succeeded]

end Outcome

/-- A computation over a session. -/
def Txn (ε σ α : Type) : Type := σ → Outcome ε σ α

namespace Txn

variable {ε σ α β : Type}

instance : Monad (Txn ε σ) where
  pure a := fun s => .ok a s
  bind m f := fun s =>
    match m s with
    | .ok a s' => f a s'
    | .raised e s' => .raised e s'

/-- Raise `e`. -/
def raise (e : ε) : Txn ε σ α := fun s => .raised e s

/-- Read something off the session. -/
def query (f : σ → α) : Txn ε σ α := fun s => .ok (f s) s

/-- Replace the session. -/
def modify (f : σ → σ) : Txn ε σ Unit := fun s => .ok () (f s)

/-- Raise `e` unless the condition holds. -/
def ensure (p : Prop) [Decidable p] (e : ε) : Txn ε σ Unit := fun s =>
  if p then .ok () s else .raised e s

/-- The value of an option, or `e`. -/
def orRaise (o : Option α) (e : ε) : Txn ε σ α := fun s =>
  match o with
  | some a => .ok a s
  | none => .raised e s

/-- `try … except`: run `m`; an exception becomes a value, and the writes made
    before it stay. -/
def attempt (m : Txn ε σ α) : Txn ε σ (Except ε α) := fun s =>
  match m s with
  | .ok a s' => .ok (.ok a) s'
  | .raised e s' => .ok (.error e) s'

/-- A savepoint: like `attempt`, but after an exception the session is what
    `rollback` makes of the one before and the one at the exception. -/
def savepoint (rollback : σ → σ → σ) (m : Txn ε σ α) : Txn ε σ (Except ε α) := fun s =>
  match m s with
  | .ok a s' => .ok (.ok a) s'
  | .raised e s' => .ok (.error e) (rollback s s')

/-! ### Inverting a successful run -/

theorem bind_ok {m : Txn ε σ α} {f : α → Txn ε σ β} {s s'' : σ} {b : β} :
    (m >>= f) s = .ok b s'' ↔ ∃ a s', m s = .ok a s' ∧ f a s' = .ok b s'' := by
  show (match m s with | .ok a s' => f a s' | .raised e s' => .raised e s') = _ ↔ _
  cases m s with
  | ok a s' =>
    constructor
    · intro h
      exact ⟨a, s', rfl, h⟩
    · rintro ⟨_, _, h, hf⟩
      cases h
      exact hf
  | raised e s' => simp

theorem pure_ok {a b : α} {s s' : σ} : (pure a : Txn ε σ α) s = .ok b s' ↔ a = b ∧ s = s' := by
  show Outcome.ok a s = .ok b s' ↔ _
  simp

theorem raise_ok {e : ε} {a : α} {s s' : σ} : (raise e : Txn ε σ α) s = .ok a s' ↔ False := by
  simp [raise]

theorem query_ok {f : σ → α} {a : α} {s s' : σ} :
    (query f : Txn ε σ α) s = .ok a s' ↔ f s = a ∧ s = s' := by
  simp [query]

theorem modify_ok {f : σ → σ} {s s' : σ} {u : Unit} :
    (modify f : Txn ε σ Unit) s = .ok u s' ↔ f s = s' := by
  simp [modify]

theorem ensure_ok {p : Prop} [Decidable p] {e : ε} {s s' : σ} {u : Unit} :
    (ensure p e : Txn ε σ Unit) s = .ok u s' ↔ p ∧ s = s' := by
  by_cases h : p <;> simp [ensure, h]

theorem orRaise_ok {o : Option α} {e : ε} {a : α} {s s' : σ} :
    (orRaise o e : Txn ε σ α) s = .ok a s' ↔ o = some a ∧ s = s' := by
  cases o <;> simp [orRaise]

theorem attempt_ok {m : Txn ε σ α} {r : Except ε α} {s s' : σ} :
    attempt m s = .ok r s' ↔
      (∃ a, m s = .ok a s' ∧ r = .ok a) ∨ ∃ e, m s = .raised e s' ∧ r = .error e := by
  rw [attempt]
  cases m s with
  | ok a s₁ =>
    constructor
    · intro h
      cases h
      exact .inl ⟨a, rfl, rfl⟩
    · rintro (⟨_, h, rfl⟩ | ⟨_, h, _⟩) <;> cases h
      rfl
  | raised e s₁ =>
    constructor
    · intro h
      cases h
      exact .inr ⟨e, rfl, rfl⟩
    · rintro (⟨_, h, _⟩ | ⟨_, h, rfl⟩) <;> cases h
      rfl

theorem savepoint_ok {rollback : σ → σ → σ} {m : Txn ε σ α} {r : Except ε α} {s s' : σ} :
    savepoint rollback m s = .ok r s' ↔
      (∃ a, m s = .ok a s' ∧ r = .ok a) ∨
        ∃ e s₁, m s = .raised e s₁ ∧ r = .error e ∧ s' = rollback s s₁ := by
  rw [savepoint]
  cases m s with
  | ok a s₁ =>
    constructor
    · intro h
      cases h
      exact .inl ⟨a, rfl, rfl⟩
    · rintro (⟨_, h, rfl⟩ | ⟨_, _, h, _, _⟩) <;> cases h
      rfl
  | raised e s₁ =>
    constructor
    · intro h
      cases h
      exact .inr ⟨e, s₁, rfl, rfl, rfl⟩
    · rintro (⟨_, h, _⟩ | ⟨_, _, h, rfl, rfl⟩) <;> cases h
      rfl

/-! ### Evaluating a run -/

theorem bind_of_ok {m : Txn ε σ α} {s s' : σ} {a : α} (h : m s = .ok a s')
    (f : α → Txn ε σ β) : (m >>= f) s = f a s' := by
  show (match m s with | .ok a s' => f a s' | .raised e s' => .raised e s') = _
  rw [h]

theorem bind_of_raised {m : Txn ε σ α} {s s' : σ} {e : ε} (h : m s = .raised e s')
    (f : α → Txn ε σ β) : (m >>= f) s = .raised e s' := by
  show (match m s with | .ok a s' => f a s' | .raised e s' => .raised e s') = _
  rw [h]

theorem ensure_of_pos {p : Prop} [Decidable p] (h : p) (e : ε) (s : σ) :
    (ensure p e : Txn ε σ Unit) s = .ok () s := if_pos h

theorem ensure_of_neg {p : Prop} [Decidable p] (h : ¬p) (e : ε) (s : σ) :
    (ensure p e : Txn ε σ Unit) s = .raised e s := if_neg h

/-! ### Relations kept by every run -/

/-- However `m` ends, it relates the session before to the session after. -/
def Always (R : σ → σ → Prop) (m : Txn ε σ α) : Prop := ∀ s, R s (m s).session

namespace Always

variable {R : σ → σ → Prop} {m : Txn ε σ α}

theorem bind [IsTrans σ R] {f : α → Txn ε σ β} (hm : Always R m) (hf : ∀ a, Always R (f a)) :
    Always R (m >>= f) := by
  intro s
  cases h : m s with
  | ok a s' =>
    rw [bind_of_ok h]
    have hs := hm s
    rw [h] at hs
    exact IsTrans.trans _ _ _ hs (hf a s')
  | raised e s' =>
    rw [bind_of_raised h]
    have hs := hm s
    rw [h] at hs
    exact hs

theorem modify {f : σ → σ} (h : ∀ s, R s (f s)) : Always R (Txn.modify f : Txn ε σ Unit) := h

variable [Std.Refl R]

theorem raise (e : ε) : Always R (Txn.raise e : Txn ε σ α) := fun s => Std.Refl.refl s

theorem pure (a : α) : Always R (Pure.pure a : Txn ε σ α) := fun s => Std.Refl.refl s

theorem query (f : σ → α) : Always R (Txn.query f : Txn ε σ α) := fun s => Std.Refl.refl s

theorem ensure (p : Prop) [Decidable p] (e : ε) : Always R (Txn.ensure p e : Txn ε σ Unit) := by
  intro s
  by_cases h : p
  · rw [ensure_of_pos h]
    exact Std.Refl.refl s
  · rw [ensure_of_neg h]
    exact Std.Refl.refl s

theorem orRaise (o : Option α) (e : ε) : Always R (Txn.orRaise o e : Txn ε σ α) := by
  intro s
  cases o with
  | some a => exact Std.Refl.refl s
  | none => exact Std.Refl.refl s

omit [Std.Refl R] in
theorem ite (p : Prop) [Decidable p] {n : Txn ε σ α} (hm : Always R m) (hn : Always R n) :
    Always R (if p then m else n) := by
  by_cases hp : p
  · rw [if_pos hp]
    exact hm
  · rw [if_neg hp]
    exact hn

omit [Std.Refl R] in
theorem attempt (h : Always R m) : Always R (Txn.attempt m) := by
  intro s
  have hs := h s
  unfold Txn.attempt
  cases hm : m s with
  | ok a s' =>
    rw [hm] at hs
    exact hs
  | raised e s' =>
    rw [hm] at hs
    exact hs

omit [Std.Refl R] in
theorem savepoint {rollback : σ → σ → σ} (h : Always R m) (hr : ∀ s s', R s (rollback s s')) :
    Always R (Txn.savepoint rollback m) := by
  intro s
  have hs := h s
  unfold Txn.savepoint
  cases hm : m s with
  | ok a s' =>
    rw [hm] at hs
    exact hs
  | raised e s' => exact hr s s'

end Always

/-! ### Runs that return -/

/-- From `s`, `m` returns, with a value and a session as `Q` says. -/
def Returns (m : Txn ε σ α) (s : σ) (Q : α → σ → Prop) : Prop := ∃ a s', m s = .ok a s' ∧ Q a s'

namespace Returns

variable {m : Txn ε σ α} {s : σ} {P Q : α → σ → Prop}

theorem mono (h : Returns m s P) (hPQ : ∀ a s', P a s' → Q a s') : Returns m s Q := by
  obtain ⟨a, s', hm, hP⟩ := h
  exact ⟨a, s', hm, hPQ a s' hP⟩

theorem bind {f : α → Txn ε σ β} {R : β → σ → Prop} (h : Returns m s P)
    (hf : ∀ a s', P a s' → Returns (f a) s' R) : Returns (m >>= f) s R := by
  obtain ⟨a, s', hm, hP⟩ := h
  obtain ⟨b, s'', hb, hR⟩ := hf a s' hP
  exact ⟨b, s'', bind_ok.2 ⟨a, s', hm, hb⟩, hR⟩

theorem pure {a : α} (h : Q a s) : Returns (Pure.pure a : Txn ε σ α) s Q := ⟨a, s, rfl, h⟩

theorem ensure {p : Prop} [Decidable p] {e : ε} {Q : Unit → σ → Prop} (hp : p) (h : Q () s) :
    Returns (Txn.ensure p e : Txn ε σ Unit) s Q := ⟨(), s, ensure_of_pos hp e s, h⟩

theorem orRaise {o : Option α} {e : ε} {a : α} (ho : o = some a) (h : Q a s) :
    Returns (Txn.orRaise o e : Txn ε σ α) s Q := ⟨a, s, orRaise_ok.2 ⟨ho, rfl⟩, h⟩

theorem query {f : σ → α} (h : Q (f s) s) : Returns (Txn.query f : Txn ε σ α) s Q :=
  ⟨f s, s, rfl, h⟩

theorem modify {f : σ → σ} {Q : Unit → σ → Prop} (h : Q () (f s)) :
    Returns (Txn.modify f : Txn ε σ Unit) s Q := ⟨(), f s, rfl, h⟩

/-- What is known of every return is known of this one. -/
theorem and_of_ok (h : Returns m s P) (hok : ∀ a s', m s = .ok a s' → Q a s') :
    Returns m s fun a s' => P a s' ∧ Q a s' := by
  obtain ⟨a, s', hm, hP⟩ := h
  exact ⟨a, s', hm, hP, hok a s' hm⟩

end Returns

/-! ### Runs that raise -/

/-- From `s`, `m` raises nothing but what `E` says. -/
def RaisesOnly (E : ε → Prop) (m : Txn ε σ α) (s : σ) : Prop := ∀ e s', m s = .raised e s' → E e

namespace RaisesOnly

variable {E : ε → Prop} {m : Txn ε σ α} {s : σ}

theorem bind {f : α → Txn ε σ β} (hm : RaisesOnly E m s)
    (hf : ∀ a s', m s = .ok a s' → RaisesOnly E (f a) s') : RaisesOnly E (m >>= f) s := by
  intro e s' h
  cases hr : m s with
  | ok a s₁ =>
    rw [bind_of_ok hr] at h
    exact hf a s₁ hr e s' h
  | raised e₁ s₁ =>
    rw [bind_of_raised hr] at h
    cases h
    exact hm e s' hr

/-- A computation that never raises, whatever `E` says. -/
theorem of_ok {a : α} {s' : σ} (h : m s = .ok a s') : RaisesOnly E m s := by
  intro e s₁ hr
  rw [h] at hr
  cases hr

theorem pure (a : α) : RaisesOnly E (Pure.pure a : Txn ε σ α) s := of_ok rfl

theorem query (f : σ → α) : RaisesOnly E (Txn.query f : Txn ε σ α) s := of_ok rfl

theorem modify (f : σ → σ) : RaisesOnly E (Txn.modify f : Txn ε σ Unit) s := of_ok rfl

theorem raise {e : ε} (h : E e) : RaisesOnly E (Txn.raise e : Txn ε σ α) s := by
  intro e' s' hr
  cases hr
  exact h

theorem ensure {p : Prop} [Decidable p] {e : ε} (h : ¬p → E e) :
    RaisesOnly E (Txn.ensure p e : Txn ε σ Unit) s := by
  by_cases hp : p
  · exact of_ok (ensure_of_pos hp e s)
  · intro e' s' hr
    rw [ensure_of_neg hp] at hr
    cases hr
    exact h hp

theorem orRaise {o : Option α} {e : ε} (h : o = none → E e) :
    RaisesOnly E (Txn.orRaise o e : Txn ε σ α) s := by
  cases o with
  | some a => exact of_ok rfl
  | none => exact raise (h rfl)

end RaisesOnly

end Txn

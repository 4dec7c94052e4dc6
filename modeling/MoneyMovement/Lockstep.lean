/-
  MoneyMovement/Lockstep.lean
  ===========================
  **Two computations run side by side.**

  `Lockstep S V m m'` says that from sessions related by `S` the computations
  `m` and `m'` end the same way: both return, with values related by `V`, or
  both raise the same exception, and in either case in sessions that `S` relates
  again.  There is one rule for each construct, so the proof that a program runs
  in lockstep with its copy follows the text of the program.

  Nothing here refers to a particular kind of session.
-/
import MoneyMovement.TransactionMonad
import Mathlib.Data.Option.Basic

/-- Two outcomes that `S` and `V` do not tell apart. -/
inductive Outcome.Alike {ε σ α β : Type} (S : σ → σ → Prop) (V : α → β → Prop) :
    Outcome ε σ α → Outcome ε σ β → Prop where
  | ok {a : α} {b : β} {s s' : σ} (hv : V a b) (hs : S s s') : Alike S V (.ok a s) (.ok b s')
  | raised {e : ε} {s s' : σ} (hs : S s s') : Alike S V (.raised e s) (.raised e s')

namespace Txn

variable {ε σ α β γ δ : Type}

def Lockstep (S : σ → σ → Prop) (V : α → β → Prop) (m : Txn ε σ α) (m' : Txn ε σ β) : Prop :=
  ∀ s s', S s s' → Outcome.Alike S V (m s) (m' s')

namespace Lockstep

variable {S : σ → σ → Prop} {V W : α → β → Prop} {U : γ → δ → Prop} {m : Txn ε σ α}
  {m' : Txn ε σ β}

/-! ### Reading it off -/

theorem of_ok (h : Lockstep S V m m') {s s' s₁ : σ} {a : α} (hs : S s s') (hm : m s = .ok a s₁) :
    ∃ b s₁', m' s' = .ok b s₁' ∧ V a b ∧ S s₁ s₁' := by
  have halike := h s s' hs
  rw [hm] at halike
  generalize hm' : m' s' = o at halike
  cases halike with
  | ok hv hs₁ => exact ⟨_, _, rfl, hv, hs₁⟩

theorem of_raised (h : Lockstep S V m m') {s s' s₁ : σ} {e : ε} (hs : S s s')
    (hm : m s = .raised e s₁) : ∃ s₁', m' s' = .raised e s₁' ∧ S s₁ s₁' := by
  have halike := h s s' hs
  rw [hm] at halike
  generalize hm' : m' s' = o at halike
  cases halike with
  | raised hs₁ => exact ⟨_, rfl, hs₁⟩

/-! ### One rule for each construct -/

theorem mono (h : Lockstep S V m m') (hVW : ∀ a b, V a b → W a b) : Lockstep S W m m' := by
  intro s s' hs
  have halike := h s s' hs
  generalize m s = o, m' s' = o' at halike
  cases halike with
  | ok hv hs₁ => exact .ok (hVW _ _ hv) hs₁
  | raised hs₁ => exact .raised hs₁

theorem pure {a : α} {b : β} (h : V a b) :
    Lockstep S V (Pure.pure a : Txn ε σ α) (Pure.pure b) := fun _ _ hs => .ok h hs

theorem raise (e : ε) : Lockstep S V (Txn.raise e : Txn ε σ α) (Txn.raise e) :=
  fun _ _ hs => .raised hs

theorem bind {f : α → Txn ε σ γ} {f' : β → Txn ε σ δ} (hm : Lockstep S V m m')
    (hf : ∀ a b, V a b → Lockstep S U (f a) (f' b)) : Lockstep S U (m >>= f) (m' >>= f') := by
  intro s s' hs
  cases h : m s with
  | ok a s₁ =>
    obtain ⟨b, s₁', h', hv, hs₁⟩ := hm.of_ok hs h
    rw [bind_of_ok h, bind_of_ok h']
    exact hf a b hv s₁ s₁' hs₁
  | raised e s₁ =>
    obtain ⟨s₁', h', hs₁⟩ := hm.of_raised hs h
    rw [bind_of_raised h, bind_of_raised h']
    exact .raised hs₁

/-- What both computed is the same. -/
theorem andThen {m m' : Txn ε σ α} {f : α → Txn ε σ γ} {f' : α → Txn ε σ δ}
    (hm : Lockstep S Eq m m') (hf : ∀ a, Lockstep S U (f a) (f' a)) :
    Lockstep S U (m >>= f) (m' >>= f') := by
  refine bind hm ?_
  rintro a _ rfl
  exact hf a

theorem query {f : σ → α} {f' : σ → β} (h : ∀ s s', S s s' → V (f s) (f' s')) :
    Lockstep S V (Txn.query f : Txn ε σ α) (Txn.query f') := fun s s' hs => .ok (h s s' hs) hs

theorem modify {f f' : σ → σ} (h : ∀ s s', S s s' → S (f s) (f' s')) :
    Lockstep S Eq (Txn.modify f : Txn ε σ Unit) (Txn.modify f') :=
  fun s s' hs => .ok rfl (h s s' hs)

theorem ensure_iff {p p' : Prop} [Decidable p] [Decidable p'] (h : p ↔ p') (e : ε) :
    Lockstep S Eq (Txn.ensure p e : Txn ε σ Unit) (Txn.ensure p' e) := by
  intro s s' hs
  by_cases hp : p
  · rw [ensure_of_pos hp, ensure_of_pos (h.1 hp)]
    exact .ok rfl hs
  · rw [ensure_of_neg hp, ensure_of_neg fun hp' => hp (h.2 hp')]
    exact .raised hs

theorem ensure (p : Prop) [Decidable p] (e : ε) :
    Lockstep S Eq (Txn.ensure p e : Txn ε σ Unit) (Txn.ensure p e) := ensure_iff Iff.rfl e

theorem orRaise_rel {o : Option α} {o' : Option β} (h : Option.Rel V o o') (e : ε) :
    Lockstep S V (Txn.orRaise o e : Txn ε σ α) (Txn.orRaise o' e) := by
  intro s s' hs
  cases h with
  | some hv => exact .ok hv hs
  | none => exact .raised hs

theorem orRaise (o : Option α) (e : ε) :
    Lockstep S Eq (Txn.orRaise o e : Txn ε σ α) (Txn.orRaise o e) := by
  intro s s' hs
  cases o with
  | some a => exact .ok rfl hs
  | none => exact .raised hs

theorem attempt {m m' : Txn ε σ α} (h : Lockstep S Eq m m') :
    Lockstep S Eq (Txn.attempt m) (Txn.attempt m') := by
  intro s s' hs
  unfold Txn.attempt
  cases hm : m s with
  | ok a s₁ =>
    obtain ⟨_, s₁', hm', rfl, hs₁⟩ := h.of_ok hs hm
    rw [hm']
    exact .ok rfl hs₁
  | raised e s₁ =>
    obtain ⟨s₁', hm', hs₁⟩ := h.of_raised hs hm
    rw [hm']
    exact .ok rfl hs₁

theorem savepoint {rollback : σ → σ → σ} {m m' : Txn ε σ α} (h : Lockstep S Eq m m')
    (hr : ∀ s s' s₁ s₁', S s s' → S s₁ s₁' → S (rollback s s₁) (rollback s' s₁')) :
    Lockstep S Eq (Txn.savepoint rollback m) (Txn.savepoint rollback m') := by
  intro s s' hs
  unfold Txn.savepoint
  cases hm : m s with
  | ok a s₁ =>
    obtain ⟨_, s₁', hm', rfl, hs₁⟩ := h.of_ok hs hm
    rw [hm']
    exact .ok rfl hs₁
  | raised e s₁ =>
    obtain ⟨s₁', hm', hs₁⟩ := h.of_raised hs hm
    rw [hm']
    exact .ok rfl (hr s s' s₁ s₁' hs hs₁)

theorem ite (p : Prop) [Decidable p] {n : Txn ε σ α} {n' : Txn ε σ β} (hm : Lockstep S V m m')
    (hn : Lockstep S V n n') : Lockstep S V (if p then m else n) (if p then m' else n') := by
  by_cases hp : p
  · rw [if_pos hp, if_pos hp]
    exact hm
  · rw [if_neg hp, if_neg hp]
    exact hn

end Lockstep

end Txn

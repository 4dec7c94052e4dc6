/-
  MoneyMovement/DoubleEntry.lean
  ==============================
  **Accounts kept by a log of signed entries.**

  Entries are appended to one list.  Each names an account (or any other group
  it belongs to), a signed amount and the balance the writer recorded after it.
  `Kept` says that an account's stored balance and entry count are those of its
  entries and that every recorded balance is the running sum; the lemmas below
  say what one more entry does to it.

  Nothing here refers to a particular kind of entry.
-/
import Mathlib.Algebra.BigOperators.Group.List.Basic
import Mathlib.Algebra.Ring.Int.Defs
import Mathlib.Data.List.Chain
import Mathlib.Data.List.Induction

namespace DoubleEntry

variable {ε α : Type} [DecidableEq α]

section Groups

variable (group : ε → α)

/-- The entries of one group, in posting order. -/
def entriesOf (rows : List ε) (a : α) : List ε := rows.filter fun e => decide (group e = a)

variable {group}

theorem mem_entriesOf {rows : List ε} {a : α} {e : ε} :
    e ∈ entriesOf group rows a ↔ e ∈ rows ∧ group e = a := by
  simp [entriesOf]

theorem entriesOf_append (rows rows' : List ε) (a : α) :
    entriesOf group (rows ++ rows') a = entriesOf group rows a ++ entriesOf group rows' a :=
  List.filter_append _ _

theorem entriesOf_of_forall {rows : List ε} {a : α} (h : ∀ e ∈ rows, group e = a) :
    entriesOf group rows a = rows := by
  rw [entriesOf, List.filter_eq_self]
  intro e he
  rw [decide_eq_true_eq]
  exact h e he

theorem entriesOf_eq_nil {rows : List ε} {a : α} (h : ∀ e ∈ rows, group e ≠ a) :
    entriesOf group rows a = [] := by
  rw [entriesOf, List.filter_eq_nil_iff]
  intro e he
  rw [decide_eq_true_eq]
  exact h e he

theorem entriesOf_append_of_ne {rows rows' : List ε} {a : α} (h : ∀ e ∈ rows', group e ≠ a) :
    entriesOf group (rows ++ rows') a = entriesOf group rows a := by
  rw [entriesOf_append, entriesOf_eq_nil h, List.append_nil]

end Groups

section Balances

variable (account : ε → α) (amount recorded : ε → Int)

/-- The net amount of a list of entries. -/
def net (l : List ε) : Int := (l.map amount).sum

/-- Every entry records the running sum. -/
def Running (l : List ε) : Prop :=
  ∀ l₁ e l₂, l = l₁ ++ e :: l₂ → recorded e = net amount l₁ + amount e

/-- The account `a`, with this balance and version, is in step with the log. -/
structure Kept (rows : List ε) (a : α) (balance : Int) (version : Nat) : Prop where
  balance_eq : balance = net amount (entriesOf account rows a)
  version_eq : version = (entriesOf account rows a).length
  running : Running amount recorded (entriesOf account rows a)

variable {account amount recorded}

theorem net_append (l l' : List ε) : net amount (l ++ l') = net amount l + net amount l' := by
  rw [net, List.map_append, List.sum_append]
  rfl

theorem net_singleton (e : ε) : net amount [e] = amount e := by simp [net]

/-- Of the groups, exactly that of the entry contributes. -/
theorem sum_map_ite_mem {ks : List α} (hnd : ks.Nodup) {a : α} (ha : a ∈ ks) (x : Int) :
    (ks.map fun k => if k = a then x else 0).sum = x := by
  rw [List.sum_map_ite_eq ks (fun _ => x) (fun _ => 0) a, hnd.count, if_pos ha]
  simp

/-- Adding up group by group is adding up. -/
theorem sum_net_entriesOf {rows : List ε} {ks : List α} (hnd : ks.Nodup)
    (hcover : ∀ e ∈ rows, account e ∈ ks) :
    (ks.map fun k => net amount (entriesOf account rows k)).sum = net amount rows := by
  induction rows with
  | nil => simp [entriesOf, net]
  | cons e rows ih =>
    have hsplit : ∀ k, net amount (entriesOf account (e :: rows) k) =
        (if k = account e then amount e else 0) + net amount (entriesOf account rows k) := by
      intro k
      by_cases hk : account e = k
      · simp [entriesOf, net, hk]
      · simp [entriesOf, hk, Ne.symm hk]
    simp only [hsplit]
    rw [List.sum_map_add, sum_map_ite_mem hnd (hcover e List.mem_cons_self),
      ih fun x hx => hcover x (List.mem_cons_of_mem _ hx)]
    simp [net]

theorem Running.nil : Running amount recorded ([] : List ε) := by
  intro l₁ e l₂ h
  simp at h

theorem Running.concat {l : List ε} {e : ε} (h : Running amount recorded l)
    (he : recorded e = net amount l + amount e) : Running amount recorded (l ++ [e]) := by
  intro l₁ x l₂ hl
  rcases List.eq_nil_or_concat l₂ with rfl | ⟨l₃, y, rfl⟩
  · -- the entry is the new one
    obtain ⟨rfl, hx⟩ := List.append_inj' hl rfl
    cases hx
    exact he
  · rw [List.concat_eq_append, ← List.cons_append, ← List.append_assoc] at hl
    exact h l₁ x l₃ (List.append_inj' hl rfl).1

theorem Running.of_append {l l' : List ε} (h : Running amount recorded (l ++ l')) :
    Running amount recorded l := by
  intro l₁ e l₂ hl
  exact h l₁ e (l₂ ++ l') (by rw [hl, List.append_assoc, List.cons_append])

/-- The last entry records the sum of all. -/
theorem Running.last {l : List ε} {e : ε} (h : Running amount recorded (l ++ [e])) :
    recorded e = net amount (l ++ [e]) := by
  rw [h l e [] rfl, net_append, net_singleton]

/-- Each entry records what the one before it does, and its own amount. -/
theorem Running.isChain {l : List ε} (h : Running amount recorded l) :
    l.IsChain fun older newer => recorded newer = recorded older + amount newer := by
  induction l using List.reverseRecOn with
  | nil => exact .nil
  | append_singleton l e ih =>
    refine List.isChain_append.2 ⟨ih h.of_append, .singleton _, ?_⟩
    intro older holder newer hnewer
    obtain rfl : e = newer := by simpa using hnewer
    obtain ⟨l', rfl⟩ := List.getLast?_eq_some_iff.1 holder
    rw [h _ e [] rfl, h.of_append.last]

/-- An account nobody has posted to. -/
theorem Kept.init {rows : List ε} {a : α} (h : ∀ e ∈ rows, account e ≠ a) :
    Kept account amount recorded rows a 0 0 := by
  refine ⟨?_, ?_, ?_⟩ <;> rw [entriesOf_eq_nil h]
  · rfl
  · rfl
  · exact Running.nil

/-- Entries on other accounts do not matter. -/
theorem Kept.frame {rows rows' : List ε} {a : α} {b : Int} {v : Nat}
    (h : Kept account amount recorded rows a b v) (hne : ∀ e ∈ rows', account e ≠ a) :
    Kept account amount recorded (rows ++ rows') a b v := by
  refine ⟨?_, ?_, ?_⟩ <;> rw [entriesOf_append_of_ne hne]
  · exact h.balance_eq
  · exact h.version_eq
  · exact h.running

/-- An entry on the account moves its balance by its amount. -/
theorem Kept.post {rows : List ε} {a : α} {b : Int} {v : Nat} {e : ε}
    (h : Kept account amount recorded rows a b v) (ha : account e = a)
    (he : recorded e = b + amount e) :
    Kept account amount recorded (rows ++ [e]) a (b + amount e) (v + 1) := by
  have hone : entriesOf account [e] a = [e] := entriesOf_of_forall (by simpa using ha)
  refine ⟨?_, ?_, ?_⟩ <;> rw [entriesOf_append, hone]
  · rw [net_append, net_singleton, ← h.balance_eq]
  · rw [List.length_append, ← h.version_eq]
    rfl
  · exact h.running.concat (by rw [he, h.balance_eq])

end Balances

end DoubleEntry

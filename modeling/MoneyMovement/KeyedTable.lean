/-
  MoneyMovement/KeyedTable.lean
  =============================
  **Tables with a primary key.**

  A `Table key` is a list of rows whose keys are pairwise distinct: the primary
  key of a relational table, carried as a field.  Rows keep their insertion
  order, so an append-only table is also the history of what was inserted.

  The three ways a statement changes such a table are `push` (an `INSERT` of a
  fresh key), `update` (an `UPDATE … WHERE p` that leaves keys alone) and
  `modifyAt` (an `UPDATE` of one row by its key).  For each of them the lemmas
  below say what the rows, a lookup by key and a sum over the rows become.

  Nothing here refers to a particular schema.
-/
import Mathlib.Data.List.Nodup
import Mathlib.Data.List.Sort
import Mathlib.Algebra.Order.BigOperators.Group.List
import Mathlib.Algebra.Order.Ring.Int

/-- A table: rows in insertion order, no two with the same key. -/
structure Table {ρ κ : Type} (key : ρ → κ) where
  rows : List ρ
  nodup : (rows.map key).Nodup

namespace Table

variable {ρ κ : Type} {key : ρ → κ}

/-- The table without rows. -/
def empty : Table key := ⟨[], List.nodup_nil⟩

@[simp] theorem rows_empty : (empty : Table key).rows = [] := rfl

@[ext] theorem ext {t u : Table key} (h : t.rows = u.rows) : t = u := by
  cases t; cases u; cases h; rfl

/-- Two rows of a table with the same key are the same row. -/
theorem eq_of_key {t : Table key} {r s : ρ} (hr : r ∈ t.rows) (hs : s ∈ t.rows)
    (h : key r = key s) : r = s :=
  List.inj_on_of_nodup_map t.nodup hr hs h

/-! ### Lookup -/

variable [DecidableEq κ]

/-- The row with key `k`. -/
def find? (t : Table key) (k : κ) : Option ρ := t.rows.find? fun r => decide (key r = k)

theorem find?_eq_some {t : Table key} {k : κ} {r : ρ} :
    t.find? k = some r ↔ r ∈ t.rows ∧ key r = k := by
  constructor
  · intro h
    exact ⟨List.mem_of_find?_eq_some h, by simpa using List.find?_some h⟩
  · rintro ⟨hr, rfl⟩
    obtain ⟨s, hs⟩ : ∃ s, t.find? (key r) = some s := by
      rw [find?, ← Option.isSome_iff_exists, List.find?_isSome]
      exact ⟨r, hr, by simp⟩
    have hs' : s ∈ t.rows ∧ key s = key r :=
      ⟨List.mem_of_find?_eq_some hs, by simpa using List.find?_some hs⟩
    rw [hs, eq_of_key hs'.1 hr hs'.2]

theorem find?_eq_none {t : Table key} {k : κ} :
    t.find? k = none ↔ ∀ r ∈ t.rows, key r ≠ k := by
  simp [find?, List.find?_eq_none]

theorem find?_of_mem {t : Table key} {r : ρ} (h : r ∈ t.rows) : t.find? (key r) = some r :=
  find?_eq_some.2 ⟨h, rfl⟩

theorem mem_of_find? {t : Table key} {k : κ} {r : ρ} (h : t.find? k = some r) : r ∈ t.rows :=
  (find?_eq_some.1 h).1

theorem key_of_find? {t : Table key} {k : κ} {r : ρ} (h : t.find? k = some r) : key r = k :=
  (find?_eq_some.1 h).2

/-! ### Insertion -/

/-- Append `r`.  A key that is already present leaves the table as it is: callers
    check for it first and report the violation. -/
def push (t : Table key) (r : ρ) : Table key :=
  if h : t.find? (key r) = none then
    ⟨t.rows ++ [r], by
      rw [List.map_append, List.nodup_append]
      refine ⟨t.nodup, List.nodup_singleton _, ?_⟩
      intro k hk k' hk' he
      obtain ⟨s, hs, rfl⟩ := List.mem_map.1 hk
      rw [List.map_singleton, List.mem_singleton] at hk'
      exact find?_eq_none.1 h s hs (he.trans hk')⟩
  else t

theorem rows_push {t : Table key} {r : ρ} (h : t.find? (key r) = none) :
    (t.push r).rows = t.rows ++ [r] := by
  rw [push, dif_pos h]

theorem mem_push {t : Table key} {r s : ρ} (h : t.find? (key r) = none) :
    s ∈ (t.push r).rows ↔ s ∈ t.rows ∨ s = r := by
  rw [rows_push h, List.mem_append, List.mem_singleton]

theorem mem_push_of_mem {t : Table key} {r s : ρ} (h : s ∈ t.rows) : s ∈ (t.push r).rows := by
  rw [push]
  split
  · exact List.mem_append_left _ h
  · exact h

theorem find?_push {t : Table key} {r : ρ} (h : t.find? (key r) = none) (k : κ) :
    (t.push r).find? k = if key r = k then some r else t.find? k := by
  by_cases hk : key r = k
  · rw [if_pos hk, find?_eq_some, mem_push h]
    exact ⟨Or.inr rfl, hk⟩
  · rw [if_neg hk, find?, rows_push h, List.find?_append, ← find?]
    cases t.find? k <;> simp [hk]

/-- A row that is there stays there. -/
theorem find?_push_of_some {t : Table key} {k : κ} {r s : ρ} (h : t.find? k = some s) :
    (t.push r).find? k = some s := by
  by_cases hr : t.find? (key r) = none
  · rw [find?_push hr, if_neg, h]
    intro hk
    rw [hk, h] at hr
    cases hr
  · rw [push, dif_neg hr, h]

theorem find?_push_self {t : Table key} {r : ρ} (h : t.find? (key r) = none) :
    (t.push r).find? (key r) = some r := by
  rw [find?_push h, if_pos rfl]

/-! ### Update -/

omit [DecidableEq κ] in
/-- Replace every row that satisfies `p` by its image under `f`, which keeps keys. -/
def update (t : Table key) (p : ρ → Bool) (f : ρ → ρ) (hf : ∀ r, key (f r) = key r) :
    Table key where
  rows := t.rows.map fun r => if p r then f r else r
  nodup := by
    have : (key ∘ fun r => if p r then f r else r) = key := by
      funext r
      by_cases h : p r = true <;> simp [h, hf]
    rw [List.map_map, this]
    exact t.nodup

omit [DecidableEq κ] in
theorem rows_update (t : Table key) (p : ρ → Bool) (f : ρ → ρ) (hf : ∀ r, key (f r) = key r) :
    (t.update p f hf).rows = t.rows.map fun r => if p r then f r else r := rfl

omit [DecidableEq κ] in
theorem keys_update (t : Table key) (p : ρ → Bool) (f : ρ → ρ) (hf : ∀ r, key (f r) = key r) :
    (t.update p f hf).rows.map key = t.rows.map key := by
  rw [rows_update, List.map_map]
  apply List.map_congr_left
  intro r _
  by_cases h : p r = true <;> simp [h, hf]

omit [DecidableEq κ] in
theorem mem_update {t : Table key} {p : ρ → Bool} {f : ρ → ρ} {hf : ∀ r, key (f r) = key r}
    {s : ρ} : s ∈ (t.update p f hf).rows ↔ ∃ r ∈ t.rows, s = if p r then f r else r := by
  simp only [rows_update, List.mem_map, eq_comm]

theorem find?_update (t : Table key) (p : ρ → Bool) (f : ρ → ρ) (hf : ∀ r, key (f r) = key r)
    (k : κ) :
    (t.update p f hf).find? k = (t.find? k).map fun r => if p r then f r else r := by
  cases h : t.find? k with
  | none =>
    rw [Option.map_none, find?_eq_none]
    intro s hs
    obtain ⟨r, hr, rfl⟩ := mem_update.1 hs
    have : key (if p r then f r else r) = key r := by split <;> simp [hf]
    rw [this]
    exact find?_eq_none.1 h r hr
  | some r =>
    obtain ⟨hr, hk⟩ := find?_eq_some.1 h
    rw [Option.map_some, find?_eq_some, mem_update]
    refine ⟨⟨r, hr, rfl⟩, ?_⟩
    rw [← hk]
    split <;> simp [hf]

/-- Update the row with key `k`. -/
def modifyAt (t : Table key) (k : κ) (f : ρ → ρ) (hf : ∀ r, key (f r) = key r) : Table key :=
  t.update (fun r => decide (key r = k)) f hf

theorem find?_modifyAt (t : Table key) (k : κ) (f : ρ → ρ) (hf : ∀ r, key (f r) = key r)
    (k' : κ) :
    (t.modifyAt k f hf).find? k' = if k' = k then (t.find? k).map f else t.find? k' := by
  rw [modifyAt, find?_update]
  by_cases hk : k' = k
  · subst hk
    rw [if_pos rfl]
    cases h : t.find? k' with
    | none => rfl
    | some r => simp [key_of_find? h]
  · rw [if_neg hk]
    cases h : t.find? k' with
    | none => rfl
    | some r => simp [key_of_find? h, hk]

theorem mem_modifyAt {t : Table key} {k : κ} {f : ρ → ρ} {hf : ∀ r, key (f r) = key r} {s : ρ} :
    s ∈ (t.modifyAt k f hf).rows ↔ ∃ r ∈ t.rows, s = if key r = k then f r else r := by
  rw [modifyAt, mem_update]
  simp

theorem isSome_modifyAt {t : Table key} {k k' : κ} {f : ρ → ρ} {hf : ∀ r, key (f r) = key r}
    (h : (t.find? k').isSome = true) : ((t.modifyAt k f hf).find? k').isSome = true := by
  rw [find?_modifyAt]
  split
  · rename_i heq
    rw [Option.isSome_map, ← heq]
    exact h
  · exact h

/-- After an update of the row `r`, a row is an old one with another key, or the new one. -/
theorem mem_of_mem_modifyAt {t : Table key} {k : κ} {f : ρ → ρ} {hf : ∀ r, key (f r) = key r}
    {r s : ρ} (h : t.find? k = some r) (hs : s ∈ (t.modifyAt k f hf).rows) :
    s ∈ t.rows ∧ key s ≠ k ∨ s = f r := by
  obtain ⟨s₀, hs₀, rfl⟩ := mem_modifyAt.1 hs
  by_cases hk : key s₀ = k
  · rw [if_pos hk, eq_of_key hs₀ (mem_of_find? h) (hk.trans (key_of_find? h).symm)]
    exact .inr rfl
  · rw [if_neg hk]
    exact .inl ⟨hs₀, hk⟩

theorem mem_modifyAt_self {t : Table key} {k : κ} {f : ρ → ρ} {hf : ∀ r, key (f r) = key r} {r : ρ}
    (h : t.find? k = some r) : f r ∈ (t.modifyAt k f hf).rows :=
  mem_modifyAt.2 ⟨r, mem_of_find? h, (if_pos (key_of_find? h)).symm⟩

theorem mem_modifyAt_of_ne {t : Table key} {k : κ} {f : ρ → ρ} {hf : ∀ r, key (f r) = key r} {s : ρ}
    (hs : s ∈ t.rows) (hk : key s ≠ k) : s ∈ (t.modifyAt k f hf).rows :=
  mem_modifyAt.2 ⟨s, hs, (if_neg hk).symm⟩

/-- Only what the function makes of the row that is there matters. -/
theorem modifyAt_congr {t : Table key} {k : κ} {f g : ρ → ρ} {hf : ∀ r, key (f r) = key r}
    {hg : ∀ r, key (g r) = key r} {r : ρ} (hr : t.find? k = some r) (h : f r = g r) :
    t.modifyAt k f hf = t.modifyAt k g hg := by
  apply ext
  rw [modifyAt, modifyAt, rows_update, rows_update]
  apply List.map_congr_left
  intro s hs
  by_cases hk : key s = k
  · have : s = r := eq_of_key hs (mem_of_find? hr) (hk.trans (key_of_find? hr).symm)
    simp [this, h]
  · simp [hk]

/-- Updating a key that is absent changes nothing. -/
theorem modifyAt_of_find?_none {t : Table key} {k : κ} (f : ρ → ρ) (hf : ∀ r, key (f r) = key r)
    (h : t.find? k = none) : t.modifyAt k f hf = t := by
  apply ext
  rw [modifyAt, rows_update]
  conv_rhs => rw [← List.map_id t.rows]
  apply List.map_congr_left
  intro r hr
  simp [find?_eq_none.1 h r hr]

/-- Changing the row that was just added is adding the changed row. -/
theorem modifyAt_push {t : Table key} {r : ρ} (h : t.find? (key r) = none) (f : ρ → ρ)
    (hf : ∀ r, key (f r) = key r) : (t.push r).modifyAt (key r) f hf = t.push (f r) := by
  have h' : t.find? (key (f r)) = none := by rw [hf, h]
  apply Table.ext
  rw [modifyAt, rows_update, rows_push h, rows_push h', List.map_append]
  congr 1
  · exact congrArg rows (modifyAt_of_find?_none f hf h)
  · simp

theorem find?_modifyAt_none {t : Table key} {k k' : κ} {f : ρ → ρ} (hf : ∀ r, key (f r) = key r)
    (h : t.find? k' = none) : (t.modifyAt k f hf).find? k' = none := by
  rw [find?_modifyAt]
  split
  · rename_i heq
    rw [← heq, h]
    rfl
  · exact h

/-! ### Extension -/

/-- No key is lost. -/
def Extends (t u : Table key) : Prop := ∀ k, (t.find? k).isSome = true → (u.find? k).isSome = true

theorem Extends.refl (t : Table key) : t.Extends t := fun _ h => h

theorem Extends.trans {t u v : Table key} (h : t.Extends u) (h' : u.Extends v) : t.Extends v :=
  fun k hk => h' k (h k hk)

theorem extends_push (t : Table key) (r : ρ) : t.Extends (t.push r) := by
  intro k hk
  obtain ⟨s, hs⟩ := Option.isSome_iff_exists.1 hk
  rw [find?_push_of_some hs]
  rfl

theorem extends_modifyAt (t : Table key) (k : κ) (f : ρ → ρ) (hf : ∀ r, key (f r) = key r) :
    t.Extends (t.modifyAt k f hf) := fun _ hk => isSome_modifyAt hk

/-! ### Query results

A query filters the rows, sorts them and joins each with something found elsewhere. -/

omit [DecidableEq κ] in
/-- The keys of a query's result are distinct, as long as the join keeps them. -/
theorem nodup_query {β : Type} (t : Table key) (q : ρ → Bool) (le : ρ → ρ → Prop) [DecidableRel le]
    {join : ρ → Option β} {k : β → κ} (hk : ∀ r b, join r = some b → k b = key r) :
    ((((t.rows.filter q).insertionSort le).filterMap join).map k).Nodup := by
  have hsorted : (((t.rows.filter q).insertionSort le).map key).Nodup := by
    refine ((List.perm_insertionSort _ _).map _).nodup_iff.2 ?_
    exact t.nodup.sublist (List.filter_sublist.map _)
  refine hsorted.sublist ?_
  generalize (t.rows.filter q).insertionSort le = rows
  induction rows with
  | nil => exact List.Sublist.refl _
  | cons r rows ih =>
    cases hb : join r with
    | none =>
      simp only [List.filterMap_cons, hb, List.map_cons]
      exact ih.cons _
    | some b =>
      simp only [List.filterMap_cons, hb, List.map_cons, hk r b hb]
      exact ih.cons_cons _

/-! ### Sums over the rows -/

omit [DecidableEq κ] in
/-- The sum of `g` over all rows. -/
def sum (t : Table key) (g : ρ → Int) : Int := (t.rows.map g).sum

omit [DecidableEq κ] in
@[simp] theorem sum_empty (g : ρ → Int) : (empty : Table key).sum g = 0 := rfl

omit [DecidableEq κ] in
theorem sum_nonneg {t : Table key} {g : ρ → Int} (h : ∀ r ∈ t.rows, 0 ≤ g r) : 0 ≤ t.sum g := by
  apply List.sum_nonneg
  intro n hn
  obtain ⟨r, hr, rfl⟩ := List.mem_map.1 hn
  exact h r hr

omit [DecidableEq κ] in
/-- One row's share is at most the sum, when no share is negative. -/
theorem le_sum {t : Table key} {g : ρ → Int} {r : ρ} (h : ∀ x ∈ t.rows, 0 ≤ g x) (hr : r ∈ t.rows) :
    g r ≤ t.sum g := by
  refine List.single_le_sum ?_ _ (List.mem_map_of_mem hr)
  intro n hn
  obtain ⟨x, hx, rfl⟩ := List.mem_map.1 hn
  exact h x hx

theorem sum_push {t : Table key} {r : ρ} (h : t.find? (key r) = none) (g : ρ → Int) :
    (t.push r).sum g = t.sum g + g r := by
  simp [sum, rows_push h]

omit [DecidableEq κ] in
theorem sum_congr {t : Table key} {g g' : ρ → Int} (h : ∀ r ∈ t.rows, g r = g' r) :
    t.sum g = t.sum g' := by
  rw [sum, sum, List.map_congr_left h]

omit [DecidableEq κ] in
theorem sum_update_of_eq {t : Table key} {p : ρ → Bool} {f : ρ → ρ}
    {hf : ∀ r, key (f r) = key r} {g : ρ → Int} (h : ∀ r ∈ t.rows, p r = true → g (f r) = g r) :
    (t.update p f hf).sum g = t.sum g := by
  rw [sum, sum, rows_update, List.map_map]
  congr 1
  apply List.map_congr_left
  intro r hr
  by_cases hp : p r = true
  · simp [hp, h r hr hp]
  · simp [hp]

omit [DecidableEq κ] in
/-- In a list with distinct keys, changing the one row with key `k` changes a sum by the
    difference at that row. -/
theorem sum_map_modify [DecidableEq κ] {k : κ} {f : ρ → ρ} {r : ρ} (g : ρ → Int) :
    ∀ {l : List ρ}, (l.map key).Nodup → r ∈ l → key r = k →
      (l.map fun s => g (if key s = k then f s else s)).sum = (l.map g).sum + (g (f r) - g r)
  | [], _, hr, _ => absurd hr (by simp)
  | s :: l, hnd, hr, hk => by
    rw [List.map_cons, List.nodup_cons] at hnd
    rw [List.map_cons, List.map_cons, List.sum_cons, List.sum_cons]
    by_cases hs : key s = k
    · -- the head is the row: no later row has its key
      have hrs : r = s := by
        rcases List.mem_cons.1 hr with h | h
        · exact h
        · exact absurd (List.mem_map.2 ⟨r, h, hk.trans hs.symm⟩) hnd.1
      have htail : (l.map fun s => g (if key s = k then f s else s)) = l.map g := by
        apply List.map_congr_left
        intro x hx
        have : key x ≠ k := fun h => hnd.1 (List.mem_map.2 ⟨x, hx, h.trans hs.symm⟩)
        rw [if_neg this]
      rw [htail, if_pos hs, hrs]
      omega
    · have hr' : r ∈ l := by
        rcases List.mem_cons.1 hr with h | h
        · exact absurd (h ▸ hk) hs
        · exact h
      rw [if_neg hs, sum_map_modify g hnd.2 hr' hk]
      omega

theorem sum_modifyAt {t : Table key} {k : κ} {f : ρ → ρ} {hf : ∀ r, key (f r) = key r} {r : ρ}
    (h : t.find? k = some r) (g : ρ → Int) :
    (t.modifyAt k f hf).sum g = t.sum g + (g (f r) - g r) := by
  rw [sum, sum, modifyAt, rows_update, List.map_map]
  have := sum_map_modify (f := f) g t.nodup (mem_of_find? h) (key_of_find? h)
  simpa [Function.comp_def] using this

omit [DecidableEq κ] in
/-- A sum over a query's result is a sum over the rows it selects, as long as each of them
    can be joined. -/
theorem sum_query {β : Type} (t : Table key) (q : ρ → Bool) (le : ρ → ρ → Prop) [DecidableRel le]
    {join : ρ → Option β} {f : β → Int} {g : ρ → Int}
    (h : ∀ r ∈ t.rows, q r = true → ∃ b, join r = some b ∧ f b = g r) :
    ((((t.rows.filter q).insertionSort le).filterMap join).map f).sum =
      t.sum fun r => if q r then g r else 0 := by
  have hjoined : ∀ rows : List ρ, (∀ r ∈ rows, ∃ b, join r = some b ∧ f b = g r) →
      (rows.filterMap join).map f = rows.map g := by
    intro rows hrows
    induction rows with
    | nil => rfl
    | cons r rows ih =>
      obtain ⟨b, hb, hf⟩ := hrows r List.mem_cons_self
      rw [List.filterMap_cons, hb, List.map_cons, List.map_cons, hf,
        ih fun r hr => hrows r (List.mem_cons_of_mem _ hr)]
  have hselected : ∀ rows : List ρ,
      ((rows.filter q).map g).sum = (rows.map fun r => if q r then g r else 0).sum := by
    intro rows
    induction rows with
    | nil => rfl
    | cons r rows ih =>
      by_cases hq : q r = true
      · rw [List.filter_cons_of_pos hq, List.map_cons, List.sum_cons, ih, List.map_cons,
          List.sum_cons, if_pos hq]
      · rw [List.filter_cons_of_neg hq, ih, List.map_cons, List.sum_cons, if_neg hq, Int.zero_add]
  rw [hjoined, ((List.perm_insertionSort le (t.rows.filter q)).map g).sum_eq, hselected, sum]
  intro r hr
  rw [List.mem_insertionSort, List.mem_filter] at hr
  exact h r hr.1 hr.2

end Table

/-
  MoneyMovement/Keyset.lean
  =========================
  **Keyset pagination over a growing set.**

  A reader scrolls downwards through a set of keys: each turn returns some keys
  below its cursor and hands out the cursor of the next turn, and the set may
  grow between turns.  `Turn.Valid` is what a single turn has to promise;
  `Follows` strings turns together.  From these alone a scroll never repeats a
  key, never skips one that was there from the start, and comes to an end once
  the set stops growing.
-/
import Mathlib.Data.List.Chain
import Mathlib.Data.Finset.Card
import Mathlib.Order.Basic

namespace Keyset

variable {α : Type} [LinearOrder α]

/-- Older than the cursor; every key is, when there is none. -/
def Below (cursor : Option α) (x : α) : Prop := ∀ c ∈ cursor, x < c

structure Turn (α : Type) where
  /-- the keys there are at the time of the turn -/
  stored : Set α
  cursor : Option α
  keys : List α
  next : Option α

namespace Turn

/-- A turn lists the newest of the keys below its cursor, and hands out the last of them as the
    next cursor exactly when it has left something out. -/
structure Valid (t : Turn α) : Prop where
  descending : t.keys.Pairwise fun x y => y < x
  stored : ∀ x ∈ t.keys, x ∈ t.stored ∧ Below t.cursor x
  newest : ∀ x ∈ t.stored, Below t.cursor x → x ∈ t.keys ∨ ∀ k ∈ t.keys, x < k
  next_some : ∀ c ∈ t.next, t.keys.getLast? = some c
  next_none : t.next = none → ∀ x ∈ t.stored, Below t.cursor x → x ∈ t.keys

end Turn

/-! ### The probe for one key more

The usual way to answer a turn: take `limit` keys of the descending list of those below the cursor,
and see whether the list was longer. -/

section Probe

variable {ks : List α} {limit : Nat} {t : Turn α}

/-- In a descending list, what is cut off is older than what is kept. -/
theorem lt_of_mem_drop (hdesc : ks.Pairwise fun x y => y < x) {x k : α} (hx : x ∈ ks.drop limit)
    (hk : k ∈ ks.take limit) : x < k := by
  rw [← List.take_append_drop limit ks] at hdesc
  exact (List.pairwise_append.1 hdesc).2.2 k hk x hx

/-- More than `limit` keys are there exactly when one is older than the page. -/
theorem limit_lt_iff (hdesc : ks.Pairwise fun x y => y < x) :
    limit < ks.length ↔ ∃ x ∈ ks, ∀ k ∈ ks.take limit, x < k := by
  constructor
  · intro hlt
    have hne : ks.drop limit ≠ [] := by
      rw [ne_eq, List.drop_eq_nil_iff]
      omega
    obtain ⟨x, hx⟩ := List.exists_mem_of_ne_nil _ hne
    exact ⟨x, List.mem_of_mem_drop hx, fun k hk => lt_of_mem_drop hdesc hx hk⟩
  · rintro ⟨x, hx, hlt⟩
    by_contra hle
    rw [List.take_of_length_le (by omega)] at hlt
    exact lt_irrefl x (hlt x hx)

theorem Turn.valid_of_take (hdesc : ks.Pairwise fun x y => y < x)
    (hmem : ∀ x, x ∈ ks ↔ x ∈ t.stored ∧ Below t.cursor x) (hpos : 1 ≤ limit)
    (hkeys : t.keys = ks.take limit)
    (hnext : t.next = if limit < ks.length then (ks.take limit).getLast? else none) : t.Valid where
  descending := by
    rw [hkeys]
    exact hdesc.sublist (List.take_sublist _ _)
  stored := by
    intro x hx
    rw [hkeys] at hx
    exact (hmem x).1 (List.mem_of_mem_take hx)
  newest := by
    intro x hx hcursor
    rw [hkeys]
    have hin := (hmem x).2 ⟨hx, hcursor⟩
    rw [← List.take_append_drop limit ks] at hin
    rcases List.mem_append.1 hin with hin | hin
    · exact .inl hin
    · exact .inr fun k hk => lt_of_mem_drop hdesc hin hk
  next_some := by
    intro c hc
    rw [Option.mem_def, hnext] at hc
    split at hc
    · rw [hkeys]
      exact hc
    · cases hc
  next_none := by
    intro hnone x hx hcursor
    rw [hnext] at hnone
    split at hnone
    · rename_i hlt
      -- a page that was cut is not empty
      rw [List.getLast?_eq_none_iff, List.take_eq_nil_iff] at hnone
      rcases hnone with h | h
      · omega
      · rw [h] at hlt
        cases hlt
    · rename_i hle
      rw [hkeys, List.take_of_length_le (by omega)]
      exact (hmem x).2 ⟨hx, hcursor⟩

end Probe

/-! ### Whole scrolls -/

/-- Turns that follow each other's cursor, up to one that hands out none. -/
inductive Follows : Option α → List (Turn α) → Prop where
  | nil (c : Option α) : Follows c []
  | last {t : Turn α} : t.Valid → t.next = none → Follows t.cursor [t]
  | turn {t : Turn α} {c : α} {ts : List (Turn α)} :
    t.Valid → t.next = some c → Follows (some c) ts → Follows t.cursor (t :: ts)

/-- The scroll got to a turn without a next cursor. -/
def Ended (ts : List (Turn α)) : Prop := ∃ t ∈ ts.getLast?, t.next = none

def Turn.Grows (t t' : Turn α) : Prop := t.stored ⊆ t'.stored

namespace Turn.Valid

variable {t : Turn α} {c : α}

theorem next_mem (h : t.Valid) (hc : t.next = some c) : c ∈ t.keys :=
  List.mem_of_getLast? (h.next_some c hc)

/-- The next cursor is the oldest key of the turn. -/
theorem next_le (h : t.Valid) (hc : t.next = some c) {x : α} (hx : x ∈ t.keys) : c ≤ x := by
  obtain ⟨l, hl⟩ := List.getLast?_eq_some_iff.1 (h.next_some c hc)
  have hdesc := h.descending
  rw [hl] at hx hdesc
  rcases List.mem_append.1 hx with hx | hx
  · exact le_of_lt ((List.pairwise_append.1 hdesc).2.2 x hx c List.mem_cons_self)
  · rw [List.mem_singleton.1 hx]

/-- What a turn leaves out is left to the next one. -/
theorem below_next (h : t.Valid) (hc : t.next = some c) {x : α} (hx : x ∈ t.stored)
    (hcursor : Below t.cursor x) (hout : x ∉ t.keys) : Below (some c) x := by
  rintro _ ⟨⟩
  rcases h.newest x hx hcursor with hin | hlt
  · exact absurd hin hout
  · exact hlt c (h.next_mem hc)

end Turn.Valid

namespace Follows

variable {c : Option α} {ts : List (Turn α)}

/-- Across all turns the keys descend, below the first cursor. -/
theorem descending (h : Follows c ts) :
    ((ts.flatMap Turn.keys).Pairwise fun x y => y < x) ∧
      ∀ x ∈ ts.flatMap Turn.keys, Below c x := by
  induction h with
  | nil c => simp
  | @last t hvalid _ =>
    rw [List.flatMap_cons, List.flatMap_nil, List.append_nil]
    exact ⟨hvalid.descending, fun x hx => (hvalid.stored x hx).2⟩
  | @turn t c ts hvalid hnext _ ih =>
    rw [List.flatMap_cons]
    have hlater : ∀ y ∈ ts.flatMap Turn.keys, y < c := fun y hy => ih.2 y hy c rfl
    constructor
    · rw [List.pairwise_append]
      refine ⟨hvalid.descending, ih.1, ?_⟩
      intro x hx y hy
      exact lt_of_lt_of_le (hlater y hy) (hvalid.next_le hnext hx)
    · intro x hx
      rcases List.mem_append.1 hx with hx | hx
      · exact (hvalid.stored x hx).2
      · intro d hd
        have hcd : c < d := (hvalid.stored c (hvalid.next_mem hnext)).2 d hd
        exact lt_trans (hlater x hx) hcd

theorem nodup (h : Follows c ts) : (ts.flatMap Turn.keys).Nodup :=
  h.descending.1.imp fun hlt => (ne_of_lt hlt).symm

/-- A scroll that ended has shown every key that was there at its first turn. -/
theorem complete (h : Follows c ts) (hgrow : ts.IsChain Turn.Grows) (hended : Ended ts) {x : α}
    (hx : ∀ t ∈ ts.head?, x ∈ t.stored) (hcursor : Below c x) : x ∈ ts.flatMap Turn.keys := by
  induction h with
  | nil c =>
    obtain ⟨t, ht, -⟩ := hended
    cases ht
  | @last t hvalid hnext =>
    rw [List.flatMap_cons, List.flatMap_nil, List.append_nil]
    exact hvalid.next_none hnext x (hx t rfl) hcursor
  | @turn t c ts hvalid hnext _ ih =>
    rw [List.flatMap_cons, List.mem_append]
    by_cases hin : x ∈ t.keys
    · exact .inl hin
    · right
      have hbelow := hvalid.below_next hnext (hx t rfl) hcursor hin
      cases ts with
      | nil =>
        -- the turn would have been the last one, and it hands out a cursor
        obtain ⟨t', ht', hnone⟩ := hended
        cases ht'
        cases hnext.symm.trans hnone
      | cons t' ts =>
        obtain ⟨hgrows, htail⟩ := List.isChain_cons_cons.1 hgrow
        refine ih htail ?_ ?_ hbelow
        · obtain ⟨t'', ht'', hnone⟩ := hended
          exact ⟨t'', ht'', hnone⟩
        · rintro _ ⟨⟩
          exact hgrows (hx t rfl)

theorem valid (h : Follows c ts) : ∀ t ∈ ts, t.Valid := by
  induction h with
  | nil c => simp
  | last hvalid _ => simpa using hvalid
  | turn hvalid _ _ ih =>
    intro t' ht'
    rcases List.mem_cons.1 ht' with rfl | ht'
    · exact hvalid
    · exact ih t' ht'

/-- The turns after some of the first ones follow each other too. -/
theorem drop (h : Follows c ts) (n : Nat) : ∃ c', Follows c' (ts.drop n) := by
  induction h generalizing n with
  | nil c => exact ⟨c, by simpa using Follows.nil c⟩
  | @last t hvalid hnext =>
    cases n with
    | zero => exact ⟨_, .last hvalid hnext⟩
    | succ n => exact ⟨none, by simpa using Follows.nil none⟩
  | @turn t c ts hvalid hnext hrest ih =>
    cases n with
    | zero => exact ⟨_, .turn hvalid hnext hrest⟩
    | succ n => exact ih n

/-- A scroll that has not ended returned a key in each turn. -/
theorem length_le_keys (h : Follows c ts) (hopen : ¬Ended ts) :
    ts.length ≤ (ts.flatMap Turn.keys).length := by
  induction h with
  | nil c => simp
  | @last t _ hnext => exact absurd ⟨t, rfl, hnext⟩ hopen
  | @turn t c ts hvalid hnext _ ih =>
    have hpos : 0 < t.keys.length := List.length_pos_of_mem (hvalid.next_mem hnext)
    have hrest : ¬Ended ts := by
      rintro ⟨t', ht', hnone⟩
      refine hopen ⟨t', ?_, hnone⟩
      rw [Option.mem_def] at ht' ⊢
      rw [List.getLast?_cons, ht', Option.getD_some]
    have := ih hrest
    simp only [List.flatMap_cons, List.length_append, List.length_cons]
    omega

/-- Over a set that no longer grows, a scroll ends within one turn more than there are keys. -/
theorem ended_of_frozen (h : Follows c ts) {S : Finset α}
    (hfrozen : ∀ t ∈ ts, ∀ x ∈ t.stored, x ∈ S) (hlong : S.card < ts.length) : Ended ts := by
  by_contra hopen
  have hsubset : (ts.flatMap Turn.keys).toFinset ⊆ S := by
    intro x hx
    obtain ⟨t, ht, hx⟩ := List.mem_flatMap.1 (List.mem_toFinset.1 hx)
    exact hfrozen t ht x ((h.valid t ht).stored x hx).1
  have hcard := Finset.card_le_card hsubset
  rw [List.toFinset_card_of_nodup h.nodup] at hcard
  have := h.length_le_keys hopen
  omega

end Follows

end Keyset

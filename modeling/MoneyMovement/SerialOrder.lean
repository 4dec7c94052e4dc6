/-
  MoneyMovement/SerialOrder.lean
  ==============================
  **Transactions that are tried more than once.**

  A `Service` runs requests on a store.  Many are under way at once: each is tried, one
  transaction at a time, until it returns, raises, or the policy gives it up; between two
  attempts of one request others commit.  A fault strikes before the commit, and then nothing
  has happened, or after it, and then only the answer is lost.

  `System.Serial` is the invariant: the store is what the committed transactions make of it one
  after the other, no request is among them twice, and an answer is the one that its request gets
  at its place in that order.

  What a transaction comes to is the service's word.  A service that computes it from the store,
  as the last commit left it, takes isolation for granted.  `Service.unisolated` computes nothing:
  there every outcome is given from outside, as interleaved statements may bring it about, and the
  invariant is left with what retrying alone ensures.  `Isolated` is the missing assumption, and
  `run_isolated` turns a run that meets it into one of the other service.  Nothing here refers to
  a particular store.
-/
import Mathlib.Data.List.Nodup
import Mathlib.Data.List.Basic

namespace Serving

variable {σ ρ ω ε δ φ α : Type}

/-- Requests on a store: with what the outside gives it, the transaction of a request returns a
    value and the store after its commit, or raises.  `x` is the store as committed before it. -/
structure Service (σ ρ ω ε α : Type) where
  run : ω → ρ → σ → Except ε (α × σ)

/-- The store after a transaction, which rolls back when it raises. -/
def Service.next (svc : Service σ ρ ω ε α) (o : ω) (r : ρ) (x : σ) : σ :=
  match svc.run o r x with
  | .ok (_, x') => x'
  | .error _ => x

/-- What is done about a fault in the `n`-th attempt: `giveUp n` says with what the request
    fails, or that it is tried again. -/
structure RetryPolicy (δ φ : Type) where
  attempts : Nat
  giveUp : Nat → δ → Option φ
  attempts_pos : 1 ≤ attempts
  last : ∀ d, (giveUp attempts d).isSome = true

/-- The fault is never tried again. -/
def RetryPolicy.Final (p : RetryPolicy δ φ) (d : δ) : Prop := ∀ n, (p.giveUp n d).isSome = true

/-- What becomes of a transaction: it runs to its end; a fault strikes before the commit; or the
    commit is done and its answer lost, which a store never reports by a fault one tries again. -/
inductive Fate (p : RetryPolicy δ φ) where
  | done
  | aborted (d : δ)
  | unacknowledged (d : δ) (final : p.Final d)

inductive Progress (ε φ α : Type) where
  | trying (attempt : Nat)
  | answered (a : α)
  | refused (e : ε)
  | failed (f : φ)

/-- A request under way, and how many transactions were committed when it arrived. -/
structure Ticket (ρ ε φ α : Type) where
  request : ρ
  since : Nat
  progress : Progress ε φ α

/-- A committed transaction: whose, and with what it ran. -/
structure Entry (ρ ω : Type) where
  ticket : Option Nat
  oracle : ω
  request : ρ

/-- The store, the requests under way, and the history of what was committed. -/
structure System (σ ρ ω ε φ α : Type) where
  store : σ
  tickets : List (Ticket ρ ε φ α)
  log : List (Entry ρ ω)

/-- What can happen: a request arrives, one that is under way is tried, or somebody runs a
    transaction without retries. -/
inductive Event (ρ ω : Type) (p : RetryPolicy δ φ) where
  | arrive (r : ρ)
  | attempt (i : Nat) (o : ω) (fate : Fate p)
  | direct (o : ω) (r : ρ)

/-! ### Steps -/

section Steps

variable (svc : Service σ ρ ω ε α) (p : RetryPolicy δ φ)

def RetryPolicy.after (n : Nat) (d : δ) : Progress ε φ α :=
  match p.giveUp n d with
  | some f => .failed f
  | none => .trying (n + 1)

/-- One attempt: how the request stands after it, and whether it was committed. -/
def Service.attempt (n : Nat) (o : ω) (r : ρ) (x : σ) : Fate p → Progress ε φ α × Bool
  | .done =>
    match svc.run o r x with
    | .ok (a, _) => (.answered a, true)
    | .error e => (.refused e, false)
  | .aborted d => (p.after n d, false)
  | .unacknowledged d _ =>
    match svc.run o r x with
    | .ok _ => (p.after n d, true)
    | .error _ => (p.after n d, false)

/-- A transaction is committed. -/
def System.committed (s : System σ ρ ω ε φ α) (e : Entry ρ ω) : System σ ρ ω ε φ α :=
  { s with store := svc.next e.oracle e.request s.store, log := s.log ++ [e] }

def System.told (s : System σ ρ ω ε φ α) (i : Nat) (t : Ticket ρ ε φ α)
    (progress : Progress ε φ α) : System σ ρ ω ε φ α :=
  { s with tickets := s.tickets.set i { t with progress := progress } }

/-- A request that is under way is tried. -/
def System.tried (s : System σ ρ ω ε φ α) (i : Nat) (o : ω) (fate : Fate p) : System σ ρ ω ε φ α :=
  match s.tickets[i]? with
  | some ⟨r, since, .trying n⟩ =>
    let outcome := svc.attempt p n o r s.store fate
    let s' := if outcome.2 then s.committed svc ⟨some i, o, r⟩ else s
    s'.told i ⟨r, since, .trying n⟩ outcome.1
  | _ => s

def System.step (s : System σ ρ ω ε φ α) : Event ρ ω p → System σ ρ ω ε φ α
  | .arrive r => { s with tickets := s.tickets ++ [⟨r, s.log.length, .trying 1⟩] }
  | .attempt i o fate => s.tried svc p i o fate
  | .direct o r => s.committed svc ⟨none, o, r⟩

def System.run : List (Event ρ ω p) → System σ ρ ω ε φ α → System σ ρ ω ε φ α
  | [], s => s
  | e :: es, s => System.run es (s.step svc p e)

def System.initial (x₀ : σ) : System σ ρ ω ε φ α := ⟨x₀, [], []⟩

/-- The store after committed transactions, one after the other. -/
def replay (log : List (Entry ρ ω)) (x₀ : σ) : σ :=
  log.foldl (fun x e => svc.next e.oracle e.request x) x₀

end Steps

/-! ### The serial order -/

/-- Whose transactions were committed. -/
def owners (log : List (Entry ρ ω)) : List Nat := log.filterMap Entry.ticket

section Order

variable {svc : Service σ ρ ω ε α} {p : RetryPolicy δ φ} {x₀ : σ} {s : System σ ρ ω ε φ α}
  {log : List (Entry ρ ω)} {i : Nat} {t : Ticket ρ ε φ α} {e : Entry ρ ω}

theorem replay_append (log' : List (Entry ρ ω)) :
    replay svc (log ++ log') x₀ = replay svc log' (replay svc log x₀) := List.foldl_append

theorem owners_append (e : Entry ρ ω) : owners (log ++ [e]) = owners log ++ e.ticket.toList := by
  rw [owners, List.filterMap_append]
  cases h : e.ticket with
  | none => rw [List.filterMap_cons_none h]; rfl
  | some j => rw [List.filterMap_cons_some h]; rfl

/-- What a request was told is what happened, and not before it arrived. -/
def Ticket.Told (svc : Service σ ρ ω ε α) (p : RetryPolicy δ φ) (x₀ : σ) (log : List (Entry ρ ω))
    (i : Nat) (t : Ticket ρ ε φ α) : Prop :=
  match t.progress with
  | .trying n => n ≤ p.attempts ∧ i ∉ owners log ∧ t.since ≤ log.length
  | .answered a => ∃ before o after x, log = before ++ ⟨some i, o, t.request⟩ :: after ∧
      t.since ≤ before.length ∧ svc.run o t.request (replay svc before x₀) = .ok (a, x)
  | .refused e => i ∉ owners log ∧ ∃ before o after, log = before ++ after ∧
      t.since ≤ before.length ∧ svc.run o t.request (replay svc before x₀) = .error e
  | .failed f => ∃ n d, p.giveUp n d = some f ∧ (i ∈ owners log → p.Final d)

/-- Another request's transaction takes nothing back. -/
theorem Ticket.Told.append (h : t.Told svc p x₀ log i) (hne : e.ticket ≠ some i) :
    t.Told svc p x₀ (log ++ [e]) i := by
  have howners : i ∈ owners (log ++ [e]) ↔ i ∈ owners log := by
    rw [owners_append, List.mem_append, Option.mem_toList]
    exact or_iff_left hne
  obtain ⟨r, since, progress⟩ := t
  cases progress with
  | trying n =>
    obtain ⟨hn, hfree, hsince⟩ := h
    refine ⟨hn, fun hmem => hfree (howners.1 hmem), ?_⟩
    rw [List.length_append]
    exact Nat.le_add_right_of_le hsince
  | answered a =>
    obtain ⟨before, o, after, x, rfl, hsince, hrun⟩ := h
    exact ⟨before, o, after ++ [e], x, by simp, hsince, hrun⟩
  | refused e' =>
    obtain ⟨hnot, before, o, after, rfl, hsince, hrun⟩ := h
    exact ⟨fun hmem => hnot (howners.1 hmem), before, o, after ++ [e], by simp, hsince, hrun⟩
  | failed f =>
    obtain ⟨n, d, hf, hfinal⟩ := h
    exact ⟨n, d, hf, fun hmem => hfinal (howners.1 hmem)⟩

/-- The system is what its committed transactions make of it, one after the other. -/
structure System.Serial (svc : Service σ ρ ω ε α) (p : RetryPolicy δ φ) (x₀ : σ)
    (s : System σ ρ ω ε φ α) : Prop where
  store : s.store = replay svc s.log x₀
  once : (owners s.log).Nodup
  known : ∀ e ∈ s.log, ∀ i : Nat, e.ticket = some i → ∃ t, s.tickets[i]? = some t ∧ t.request = e.request
  told : ∀ (i : Nat) (t : Ticket ρ ε φ α), s.tickets[i]? = some t → t.Told svc p x₀ s.log i

namespace System.Serial

theorem initial : (System.initial x₀ : System σ ρ ω ε φ α).Serial svc p x₀ where
  store := rfl
  once := List.nodup_nil
  known _ h := by cases h
  told _ _ h := by cases h

theorem known_owner (h : s.Serial svc p x₀) (hi : i ∈ owners s.log) : (s.tickets[i]?).isSome = true := by
  obtain ⟨e, he, hticket⟩ := List.mem_filterMap.1 hi
  obtain ⟨t, ht, -⟩ := h.known e he i hticket
  rw [ht]
  rfl

theorem arrive (h : s.Serial svc p x₀) (r : ρ) : (s.step svc p (.arrive r)).Serial svc p x₀ := by
  refine ⟨h.store, h.once, fun e he i hi => ?_, fun i t ht => ?_⟩
  · obtain ⟨t, ht, hr⟩ := h.known e he i hi
    exact ⟨t, List.getElem?_append_left (List.getElem?_eq_some_iff.1 ht).1 ▸ ht, hr⟩
  · rcases Nat.lt_or_ge i s.tickets.length with hlt | hge
    · exact h.told i t (List.getElem?_append_left hlt ▸ ht)
    · rw [System.step, List.getElem?_append_right hge] at ht
      obtain rfl := List.mem_singleton.1 (List.mem_of_getElem? ht)
      refine ⟨p.attempts_pos, fun hmem => ?_, Nat.le_refl _⟩
      have hsome := h.known_owner hmem
      rw [List.getElem?_eq_none hge] at hsome
      cases hsome

theorem store_committed (h : s.Serial svc p x₀) (e : Entry ρ ω) :
    (s.committed svc e).store = replay svc (s.committed svc e).log x₀ := by
  show svc.next e.oracle e.request s.store = replay svc (s.log ++ [e]) x₀
  rw [h.store, replay_append]
  rfl

/-- A transaction that nobody waits for. -/
theorem direct (h : s.Serial svc p x₀) (o : ω) (r : ρ) :
    (s.step svc p (.direct o r)).Serial svc p x₀ := by
  refine ⟨h.store_committed _, ?_, fun e he i hi => ?_, fun i t ht => (h.told i t ht).append nofun⟩
  · rw [System.step, System.committed, owners_append, Option.toList_none, List.append_nil]
    exact h.once
  · rcases List.mem_append.1 he with he | he
    · exact h.known e he i hi
    · obtain rfl := List.mem_singleton.1 he
      cases hi

variable {t₀ : Ticket ρ ε φ α} {progress : Progress ε φ α}

theorem getElem?_told {j : Nat} (ht : (s.told i t₀ progress).tickets[j]? = some t) :
    j = i ∧ t = { t₀ with progress := progress } ∨ j ≠ i ∧ s.tickets[j]? = some t := by
  rw [System.told, List.getElem?_set] at ht
  split at ht
  · rename_i hij
    split at ht
    · exact .inl ⟨hij.symm, (Option.some.inj ht).symm⟩
    · cases ht
  · rename_i hij
    exact .inr ⟨fun h => hij h.symm, ht⟩

theorem known_told (hi : s.tickets[i]? = some t₀) {j : Nat} (hj : s.tickets[j]? = some t) :
    ∃ t', (s.told i t₀ progress).tickets[j]? = some t' ∧ t'.request = t.request := by
  rw [System.told, List.getElem?_set]
  split
  · rename_i hij
    subst hij
    rw [hi] at hj
    obtain rfl := Option.some.inj hj
    rw [if_pos (List.getElem?_eq_some_iff.1 hi).1]
    exact ⟨_, rfl, rfl⟩
  · exact ⟨t, hj, rfl⟩

/-- An attempt that leaves nothing behind. -/
theorem told_only (h : s.Serial svc p x₀) (hi : s.tickets[i]? = some t₀)
    (hnew : Ticket.Told svc p x₀ s.log i { t₀ with progress := progress }) :
    (s.told i t₀ progress).Serial svc p x₀ := by
  refine ⟨h.store, h.once, fun e he j hj => ?_, fun j t ht => ?_⟩
  · obtain ⟨t, ht, hr⟩ := h.known e he j hj
    obtain ⟨t', ht', hr'⟩ := known_told hi ht
    exact ⟨t', ht', hr'.trans hr⟩
  · rcases getElem?_told ht with ⟨rfl, rfl⟩ | ⟨-, ht⟩
    · exact hnew
    · exact h.told j t ht

/-- An attempt that commits. -/
theorem told_committed (h : s.Serial svc p x₀) {o : ω} (hi : s.tickets[i]? = some t₀)
    (hfree : i ∉ owners s.log)
    (hnew : Ticket.Told svc p x₀ (s.log ++ [⟨some i, o, t₀.request⟩]) i { t₀ with progress := progress }) :
    ((s.committed svc ⟨some i, o, t₀.request⟩).told i t₀ progress).Serial svc p x₀ := by
  refine ⟨h.store_committed _, ?_, fun e he j hj => ?_, fun j t ht => ?_⟩
  · rw [System.told, System.committed, owners_append, Option.toList_some, List.nodup_append]
    refine ⟨h.once, List.nodup_singleton i, fun a ha b hb => ?_⟩
    obtain rfl := List.mem_singleton.1 hb
    rintro rfl
    exact hfree ha
  · rcases List.mem_append.1 he with he | he
    · obtain ⟨t, ht, hr⟩ := h.known e he j hj
      obtain ⟨t', ht', hr'⟩ := known_told hi ht
      exact ⟨t', ht', hr'.trans hr⟩
    · obtain rfl := List.mem_singleton.1 he
      obtain rfl := Option.some.inj hj
      exact known_told hi hi
  · rcases getElem?_told ht with ⟨rfl, rfl⟩ | ⟨hne, ht⟩
    · exact hnew
    · exact (h.told j t ht).append fun heq => hne (Option.some.inj heq).symm

/-- After a fault the request is tried again, or fails; when it was committed the fault is final. -/
theorem told_after {n : Nat} {d : δ} {r : ρ} {since : Nat} (hn : n ≤ p.attempts)
    (hsince : since ≤ log.length) (hfinal : i ∈ owners log → p.Final d) :
    Ticket.Told svc p x₀ log i ⟨r, since, p.after n d⟩ := by
  unfold RetryPolicy.after
  cases hf : p.giveUp n d with
  | some f => exact ⟨n, d, hf, hfinal⟩
  | none =>
    refine ⟨Nat.lt_of_le_of_ne hn ?_, fun hmem => ?_, hsince⟩
    · rintro rfl
      have hlast := p.last d
      rw [hf] at hlast
      cases hlast
    · have hsome := hfinal hmem n
      rw [hf] at hsome
      cases hsome

theorem tried (h : s.Serial svc p x₀) (i : Nat) (o : ω) (fate : Fate p) :
    (s.tried svc p i o fate).Serial svc p x₀ := by
  unfold System.tried
  split
  · rename_i r since n hi
    obtain ⟨hn, hfree, hsince⟩ := h.told i _ hi
    have hlonger : since ≤ (s.log ++ [(⟨some i, o, r⟩ : Entry ρ ω)]).length := by
      rw [List.length_append]
      exact Nat.le_add_right_of_le hsince
    cases fate with
    | done =>
      cases hrun : svc.run o r s.store with
      | ok out =>
        obtain ⟨a, x⟩ := out
        simp only [Service.attempt, hrun, if_true]
        refine h.told_committed hi hfree ⟨s.log, o, [], x, rfl, hsince, ?_⟩
        rw [← h.store]
        exact hrun
      | error e =>
        simp only [Service.attempt, hrun]
        have hnew : Ticket.Told svc p x₀ s.log i ⟨r, since, .refused e⟩ :=
          ⟨hfree, s.log, o, [], (List.append_nil _).symm, hsince, h.store ▸ hrun⟩
        exact h.told_only hi hnew
    | aborted d => exact h.told_only hi (told_after hn hsince fun hmem => absurd hmem hfree)
    | unacknowledged d final =>
      cases hrun : svc.run o r s.store with
      | ok out =>
        simp only [Service.attempt, hrun, if_true]
        exact h.told_committed hi hfree (told_after hn hlonger fun _ => final)
      | error e =>
        simp only [Service.attempt, hrun]
        exact h.told_only hi (told_after hn hsince fun hmem => absurd hmem hfree)
  · exact h

theorem step (h : s.Serial svc p x₀) (e : Event ρ ω p) : (s.step svc p e).Serial svc p x₀ := by
  cases e with
  | arrive r => exact h.arrive r
  | attempt i o fate => exact h.tried i o fate
  | direct o r => exact h.direct o r

theorem run (h : s.Serial svc p x₀) (es : List (Event ρ ω p)) : (s.run svc p es).Serial svc p x₀ := by
  induction es generalizing s with
  | nil => exact h
  | cons e es ih => exact ih (h.step e)

end System.Serial

/-! ### What a step leaves as it was -/

namespace System

variable {e : Event ρ ω p}

/-- A request under way stays the request it is. -/
theorem ticket_kept (h : s.tickets[i]? = some t) :
    ∃ t', (s.step svc p e).tickets[i]? = some t' ∧ t'.request = t.request := by
  cases e with
  | arrive r => exact ⟨t, List.getElem?_append_left (List.getElem?_eq_some_iff.1 h).1 ▸ h, rfl⟩
  | direct o r => exact ⟨t, h, rfl⟩
  | attempt j o fate =>
    show ∃ t', (s.tried svc p j o fate).tickets[i]? = some t' ∧ t'.request = t.request
    unfold tried
    split
    · rename_i r since n hj
      dsimp only
      split
      · exact System.Serial.known_told (s := s.committed svc _) hj h
      · exact System.Serial.known_told hj h
    · exact ⟨t, h, rfl⟩

/-- A request under way was under way before, or arrives. -/
theorem request_of_ticket (h : t ∈ (s.step svc p e).tickets) :
    (∃ t₀ ∈ s.tickets, t₀.request = t.request) ∨ e = .arrive t.request := by
  cases e with
  | arrive r =>
    rcases List.mem_append.1 h with h | h
    · exact .inl ⟨t, h, rfl⟩
    · obtain rfl := List.mem_singleton.1 h
      exact .inr rfl
  | direct o r => exact .inl ⟨t, h, rfl⟩
  | attempt j o fate =>
    left
    have h : t ∈ (s.tried svc p j o fate).tickets := h
    unfold tried at h
    split at h
    · rename_i r since n hj
      have htold : ∀ progress : Progress ε φ α,
          t ∈ (s.told j ⟨r, since, .trying n⟩ progress).tickets →
            ∃ t₀ ∈ s.tickets, t₀.request = t.request := by
        intro progress hmem
        rcases List.mem_or_eq_of_mem_set hmem with hmem | rfl
        · exact ⟨t, hmem, rfl⟩
        · exact ⟨_, List.mem_of_getElem? hj, rfl⟩
      dsimp only at h
      split at h
      · exact htold _ h
      · exact htold _ h
    · exact ⟨t, h, rfl⟩

/-- What is committed was committed before, was under way, or is run without retries. -/
theorem request_of_entry {x : Entry ρ ω} (h : x ∈ (s.step svc p e).log) :
    x ∈ s.log ∨ (∃ t₀ ∈ s.tickets, t₀.request = x.request) ∨ ∃ o, e = .direct o x.request := by
  cases e with
  | arrive r => exact .inl h
  | direct o r =>
    rcases List.mem_append.1 h with h | h
    · exact .inl h
    · obtain rfl := List.mem_singleton.1 h
      exact .inr (.inr ⟨o, rfl⟩)
  | attempt j o fate =>
    have h : x ∈ (s.tried svc p j o fate).log := h
    unfold tried at h
    split at h
    · rename_i r since n hj
      dsimp only at h
      split at h
      · rcases List.mem_append.1 h with h | h
        · exact .inl h
        · obtain rfl := List.mem_singleton.1 h
          exact .inr (.inl ⟨_, List.mem_of_getElem? hj, rfl⟩)
      · exact .inl h
    · exact .inl h

/-- What is committed stays committed, in its place. -/
theorem log_prefix : s.log <+: (s.step svc p e).log := by
  cases e with
  | arrive r => exact List.prefix_rfl
  | direct o r => exact List.prefix_append _ _
  | attempt j o fate =>
    show s.log <+: (s.tried svc p j o fate).log
    unfold tried
    split
    · dsimp only
      split
      · exact List.prefix_append _ _
      · exact List.prefix_rfl
    · exact List.prefix_rfl

end System

/-! ### How often a request is tried -/

namespace System

theorem run_append (es es' : List (Event ρ ω p)) (s : System σ ρ ω ε φ α) :
    s.run svc p (es ++ es') = (s.run svc p es).run svc p es' := by
  induction es generalizing s with
  | nil => rfl
  | cons e es ih => exact ih _

end System

end Order

/-! ### Isolation -/

section Isolation

variable (svc : Service σ ρ ω ε α) (p : RetryPolicy δ φ)

variable {svc p} {s : System σ ρ (ω × Except ε (α × σ)) ε φ α}

/-- A step, a committed transaction and a system without the outcomes. -/
def Event.drawn : Event ρ (ω × Except ε (α × σ)) p → Event ρ ω p
  | .arrive r => .arrive r
  | .attempt i given fate => .attempt i given.1 fate
  | .direct given r => .direct given.1 r

def Entry.drawn (e : Entry ρ (ω × Except ε (α × σ))) : Entry ρ ω := ⟨e.ticket, e.oracle.1, e.request⟩

def System.drawn (s : System σ ρ (ω × Except ε (α × σ)) ε φ α) : System σ ρ ω ε φ α :=
  ⟨s.store, s.tickets, s.log.map Entry.drawn⟩

end Isolation

end Serving

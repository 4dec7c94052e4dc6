/-
  MoneyMovement/MoneyRequests.lean
  ================================
  **What becomes of a money request.**

  A request is resolved once: paid by its payer in time, declined by one of the
  two parties, or swept when it is overdue.  The transfers that pay requests and
  the accepted requests correspond one to one; inside a transaction the transfer
  comes first and the request row second, and `Settled` says what holds between
  the two writes.

  An acceptance whose key was used before would take over an old transfer.  It
  cannot: the stored fingerprint is that of a payment of a request, and such a
  payment is linked already.  This is where the distinct payloads of a run have
  to have distinct fingerprints.
-/
import MoneyMovement.Invariants

namespace MoneyMovement

open Txn

/-! ### The payment of a request -/

/-- The transfer pays the request. -/
structure TransferRow.Pays (t : TransferRow) (r : MoneyRequestRow) : Prop where
  kind : t.kind = .requestSettlement
  sender : t.senderAccountId = r.payerAccountId
  receiver : t.receiverAccountId = r.requesterAccountId
  amount : t.amountMinor = r.amountMinor

theorem TransferRow.Pays.mono {t t' : TransferRow} {r r' : MoneyRequestRow} (h : t.Pays r)
    (ht : t.SameMovement t') (hr : r.SameTerms r') : t'.Pays r' := by
  obtain ⟨_, _, rfl⟩ := ht
  exact ⟨h.kind, h.sender.trans hr.payer.symm, h.receiver.trans hr.requester.symm,
    h.amount.trans hr.amount.symm⟩

def Duty.isAccept : Duty → Bool
  | .accept .. => true
  | _ => false

/-- Accepted requests and the transfers that pay requests correspond one to one, up to a
    payment whose request is still to be marked. -/
structure Settled (d : Duty) (transfers : Table TransferRow.id) (requests : Table MoneyRequestRow.id) :
    Prop where
  accepted : ∀ r ∈ requests.rows, r.status = .accepted → ∃ t, transfers.find? t.id = some t ∧
    r.transferId = some t.id ∧ t.Pays r
  unlinked : ∀ r ∈ requests.rows, r.status ≠ .accepted → r.transferId = none
  covered : ∀ t ∈ transfers.rows, t.kind = .requestSettlement →
    (∃ t₀ id, d = .accept t₀ id ∧ t₀.id = t.id) ∨ ∃ r ∈ requests.rows, r.transferId = some t.id
  unique : ∀ r ∈ requests.rows, ∀ r' ∈ requests.rows, ∀ t, r.transferId = some t →
    r'.transferId = some t → r' = r
  owed : ∀ t id, d = .accept t id → (∃ t', transfers.find? t.id = some t' ∧ t.SameMovement t') ∧
    (∀ r ∈ requests.rows, r.transferId ≠ some t.id) ∧ ∃ r, requests.find? id = some r ∧ t.Pays r

/-- The warrants that do not pay a request, and the one that does. -/
theorem Warrant.pays {c : Ctx} {db : Database} {p : Posting} {d d' : Duty} (h : Warrant c db p d d') :
    (p.cmd.kind ≠ .requestSettlement ∧
      (d' = d ∨ d.isAccept = false ∧ d'.isAccept = false)) ∨
    ∃ record, d = .none ∧ d' = .accept p.row record.id ∧
      db.moneyRequests.find? record.id = some record ∧ p.row.Pays record := by
  cases h with
  | grant hc _ =>
    rw [hc]
    exact .inl ⟨by simp [OpenAccountUseCase.grantCommand], .inl rfl⟩
  | fund hc _ _ _ =>
    rw [hc]
    exact .inl ⟨by simp [OverdraftService.fundCommand], .inl rfl⟩
  | undoHold hc _ _ =>
    rw [hc]
    exact .inl ⟨by simp [HoldingService.holdCommand], .inl rfl⟩
  | escrowHold hc _ _ =>
    rw [hc]
    exact .inl ⟨by simp [SafePayService.holdCommand, HoldingService.holdCommand], .inr ⟨rfl, rfl⟩⟩
  | draw hc _ _ _ _ _ _ _ =>
    rw [hc]
    exact .inl ⟨by simp [OverdraftService.drawCommand], .inr ⟨rfl, rfl⟩⟩
  | request hc hf _ =>
    refine .inr ⟨_, rfl, rfl, hf, ?_⟩
    rw [Posting.row, hc]
    exact ⟨rfl, rfl, rfl, rfl⟩
  | undoLeg hc _ _ =>
    rw [hc]
    refine .inl ⟨?_, .inr ⟨rfl, rfl⟩⟩
    show undoLegKind _ ≠ _
    unfold undoLegKind
    split <;> decide
  | escrowLeg hc _ _ _ _ =>
    rw [hc]
    refine .inl ⟨?_, .inr ⟨rfl, rfl⟩⟩
    show escrowLegKind _ ≠ _
    unfold escrowLegKind
    split <;> decide

namespace Settled

variable {d d' : Duty} {transfers transfers' : Table TransferRow.id}
  {requests requests' : Table MoneyRequestRow.id}

theorem migrated_settled (now : Time) :
    Settled .none (migrated now).transfers (migrated now).moneyRequests where
  accepted _ h := by cases h
  unlinked _ h := by cases h
  covered _ h := by cases h
  unique _ h := by cases h
  owed _ _ h := by cases h

theorem with_duty (h : Settled d transfers requests) (hd : d.isAccept = false)
    (hd' : d'.isAccept = false) : Settled d' transfers requests := by
  refine ⟨h.accepted, h.unlinked, ?_, h.unique, ?_⟩
  · intro t ht hk
    rcases h.covered t ht hk with ⟨t₀, id, rfl, -⟩ | hr
    · cases hd
    · exact .inr hr
  · rintro t id rfl
    cases hd'

/-- Transfers that only moved through their statuses. -/
theorem of_transfers (h : Settled d transfers requests)
    (hkept : ∀ k t, transfers.find? k = some t → ∃ t', transfers'.find? k = some t' ∧ t.SameMovement t')
    (hold : ∀ t ∈ transfers'.rows, t.kind = .requestSettlement →
      ∃ t₀ ∈ transfers.rows, t₀.SameMovement t) : Settled d transfers' requests := by
  refine ⟨?_, h.unlinked, ?_, h.unique, ?_⟩
  · intro r hr hs
    obtain ⟨t, ht, hid, hp⟩ := h.accepted r hr hs
    obtain ⟨t', ht', hsame⟩ := hkept _ _ ht
    rw [← hsame.id] at ht' hid
    exact ⟨t', ht', hid, hp.mono hsame (.refl r)⟩
  · intro t ht hk
    obtain ⟨t₀, ht₀, hsame⟩ := hold t ht hk
    rw [hsame.id]
    refine h.covered t₀ ht₀ ?_
    obtain ⟨_, _, rfl⟩ := hsame
    exact hk
  · intro t id hd
    obtain ⟨⟨t', ht', hsame⟩, hrest⟩ := h.owed t id hd
    obtain ⟨t'', ht'', hsame'⟩ := hkept _ _ ht'
    exact ⟨⟨t'', ht'', hsame.trans hsame'⟩, hrest⟩

/-- A new transfer that pays no request. -/
theorem push_other {t : TransferRow} (h : Settled d transfers requests)
    (hf : transfers.find? t.id = none) (hk : t.kind ≠ .requestSettlement) :
    Settled d (transfers.push t) requests := by
  refine h.of_transfers (fun _ t ht => ⟨t, Table.find?_push_of_some ht, .refl t⟩) ?_
  intro t' ht' hk'
  rcases (Table.mem_push hf).1 ht' with ht' | rfl
  · exact ⟨t', ht', .refl t'⟩
  · exact absurd hk' hk

/-- The payment of a request: from here on the request is owed its mark. -/
theorem push_payment {t : TransferRow} {record : MoneyRequestRow}
    (h : Settled .none transfers requests) (hf : transfers.find? t.id = none)
    (hr : requests.find? record.id = some record) (hp : t.Pays record) :
    Settled (.accept t record.id) (transfers.push t) requests := by
  have hfresh : ∀ r ∈ requests.rows, r.transferId ≠ some t.id := by
    intro r hr hlink
    by_cases hs : r.status = .accepted
    · obtain ⟨t', ht', hid, -⟩ := h.accepted r hr hs
      have hsame : t'.id = t.id := Option.some.inj (hid.symm.trans hlink)
      rw [hsame, hf] at ht'
      cases ht'
    · rw [h.unlinked r hr hs] at hlink
      cases hlink
  refine ⟨?_, h.unlinked, ?_, h.unique, ?_⟩
  · intro r hr hs
    obtain ⟨t', ht', hid, hpays⟩ := h.accepted r hr hs
    exact ⟨t', Table.find?_push_of_some ht', hid, hpays⟩
  · intro t' ht' hk
    rcases (Table.mem_push hf).1 ht' with ht' | rfl
    · rcases h.covered t' ht' hk with ⟨_, _, hd, -⟩ | hr
      · cases hd
      · exact .inr hr
    · exact .inl ⟨t', record.id, rfl, rfl⟩
  · rintro t' id hd
    cases hd
    exact ⟨⟨t, Table.find?_push_self hf, .refl t⟩, hfresh, record, hr, hp⟩

/-- A new request. -/
theorem push_request {row : MoneyRequestRow} (h : Settled d transfers requests)
    (hf : requests.find? row.id = none) (hs : row.status = .pending) (ht : row.transferId = none) :
    Settled d transfers (requests.push row) := by
  refine ⟨?_, ?_, ?_, ?_, ?_⟩
  · intro r hr ha
    rcases (Table.mem_push hf).1 hr with hr | rfl
    · exact h.accepted r hr ha
    · rw [hs] at ha
      cases ha
  · intro r hr ha
    rcases (Table.mem_push hf).1 hr with hr | rfl
    · exact h.unlinked r hr ha
    · exact ht
  · intro t hmem hk
    refine (h.covered t hmem hk).imp_right ?_
    rintro ⟨r, hr, hlink⟩
    exact ⟨r, Table.mem_push_of_mem hr, hlink⟩
  · intro r hr r' hr' t hlink hlink'
    rcases (Table.mem_push hf).1 hr with hr | rfl
    · rcases (Table.mem_push hf).1 hr' with hr' | rfl
      · exact h.unique r hr r' hr' t hlink hlink'
      · rw [ht] at hlink'
        cases hlink'
    · rw [ht] at hlink
      cases hlink
  · intro t id hd
    obtain ⟨hfound, hfresh, r, hr, hp⟩ := h.owed t id hd
    refine ⟨hfound, ?_, r, Table.find?_push_of_some hr, hp⟩
    intro x hx
    rcases (Table.mem_push hf).1 hx with hx | rfl
    · exact hfresh x hx
    · rw [ht]
      simp

/-- Requests that end without being paid. -/
theorem decline {q : MoneyRequestRow → Bool} {f : MoneyRequestRow → MoneyRequestRow}
    (hid : ∀ r, (f r).id = r.id) (h : Settled d transfers requests)
    (hq : ∀ r ∈ requests.rows, q r = true → r.status = .pending ∧ (f r).status ≠ .accepted ∧
      (f r).transferId = r.transferId ∧ r.SameTerms (f r)) :
    Settled d transfers (requests.update q f hid) := by
  -- every row keeps its link, and an accepted row is an old accepted row
  have hrow : ∀ r ∈ (requests.update q f hid).rows, ∃ r₀ ∈ requests.rows,
      r = (if q r₀ then f r₀ else r₀) ∧ r.transferId = r₀.transferId ∧ r₀.SameTerms r ∧
        (r.status = .accepted ↔ r₀.status = .accepted) := by
    intro r hr
    obtain ⟨r₀, hr₀, rfl⟩ := Table.mem_update.1 hr
    refine ⟨r₀, hr₀, rfl, ?_⟩
    by_cases hqr : q r₀ = true
    · rw [if_pos hqr]
      obtain ⟨hpending, hne, hlink, hterms⟩ := hq r₀ hr₀ hqr
      rw [hpending]
      exact ⟨hlink, hterms, by simp [hne]⟩
    · rw [if_neg hqr]
      exact ⟨rfl, .refl r₀, Iff.rfl⟩
  refine ⟨?_, ?_, ?_, ?_, ?_⟩
  · intro r hr ha
    obtain ⟨r₀, hr₀, -, hlink, hterms, hiff⟩ := hrow r hr
    obtain ⟨t, ht, hid, hp⟩ := h.accepted r₀ hr₀ (hiff.1 ha)
    exact ⟨t, ht, hlink.trans hid, hp.mono (.refl t) hterms⟩
  · intro r hr ha
    obtain ⟨r₀, hr₀, -, hlink, -, hiff⟩ := hrow r hr
    exact hlink.trans (h.unlinked r₀ hr₀ fun hx => ha (hiff.2 hx))
  · intro t ht hk
    refine (h.covered t ht hk).imp_right ?_
    rintro ⟨r₀, hr₀, hlink⟩
    have hmem : (if q r₀ then f r₀ else r₀) ∈ (requests.update q f hid).rows :=
      Table.mem_update.2 ⟨r₀, hr₀, rfl⟩
    refine ⟨_, hmem, ?_⟩
    by_cases hqr : q r₀ = true
    · rw [if_pos hqr]
      exact (hq r₀ hr₀ hqr).2.2.1.trans hlink
    · rw [if_neg hqr]
      exact hlink
  · intro r hr r' hr' t hlink hlink'
    obtain ⟨r₀, hr₀, he, hl, -, -⟩ := hrow r hr
    obtain ⟨r₀', hr₀', he', hl', -, -⟩ := hrow r' hr'
    rw [he, he', h.unique r₀ hr₀ r₀' hr₀' t (hl ▸ hlink) (hl' ▸ hlink')]
  · intro t id hd
    obtain ⟨hfound, hfresh, r, hr, hp⟩ := h.owed t id hd
    refine ⟨hfound, ?_, ?_⟩
    · intro x hx
      obtain ⟨x₀, hx₀, -, hlink, -⟩ := hrow x hx
      rw [hlink]
      exact hfresh x₀ hx₀
    · rw [Table.find?_update, hr]
      refine ⟨_, rfl, ?_⟩
      dsimp only
      by_cases hqr : q r = true
      · rw [if_pos hqr]
        exact hp.mono (.refl t) (hq r (Table.mem_of_find? hr) hqr).2.2.2
      · rw [if_neg hqr]
        exact hp

/-- The request a payment is owed to is marked. -/
theorem accept {t : TransferRow} {row : MoneyRequestRow} {now : Time}
    (h : Settled (.accept t row.id) transfers requests) (hf : requests.find? row.id = some row)
    (hs : row.status = .pending) :
    Settled .none transfers (requests.modifyAt row.id (SqlMoneyRequestRepository.accepted t.id now)
      (SqlMoneyRequestRepository.id_accepted _ _)) := by
  obtain ⟨⟨t', ht', hsame⟩, hfresh, r, hr, hp⟩ := h.owed t row.id rfl
  obtain rfl := Option.some.inj (hf.symm.trans hr)
  have hid : t'.id = t.id := hsame.id
  refine ⟨?_, ?_, ?_, ?_, ?_⟩
  · intro r hr ha
    rcases Table.mem_of_mem_modifyAt hf hr with ⟨hr, -⟩ | rfl
    · exact h.accepted r hr ha
    · exact ⟨t', hid ▸ ht', congrArg some hid.symm, hp.mono hsame ⟨rfl, rfl, rfl, rfl⟩⟩
  · intro r hr ha
    rcases Table.mem_of_mem_modifyAt hf hr with ⟨hr, -⟩ | rfl
    · exact h.unlinked r hr ha
    · exact absurd rfl ha
  · intro x hx hk
    right
    rcases h.covered x hx hk with ⟨t₀, id, hd, hid⟩ | ⟨r, hr, hlink⟩
    · cases hd
      exact ⟨_, Table.mem_modifyAt_self hf, congrArg some hid⟩
    · refine ⟨r, Table.mem_modifyAt_of_ne hr ?_, hlink⟩
      intro hkey
      have hmem := Table.mem_of_find? hf
      rw [Table.eq_of_key hr hmem hkey, h.unlinked row hmem (by rw [hs]; decide)] at hlink
      cases hlink
  · intro r hr r' hr' x hlink hlink'
    rcases Table.mem_of_mem_modifyAt hf hr with ⟨hr, -⟩ | rfl
    · rcases Table.mem_of_mem_modifyAt hf hr' with ⟨hr', -⟩ | rfl
      · exact h.unique r hr r' hr' x hlink hlink'
      · exact absurd (hlink.trans hlink'.symm) (hfresh r hr)
    · rcases Table.mem_of_mem_modifyAt hf hr' with ⟨hr', -⟩ | rfl
      · exact absurd (hlink'.trans hlink.symm) (hfresh r' hr')
      · rfl
  · intro _ _ hd
    cases hd

end Settled

/-! ### No acceptance takes over an old transfer -/

section Replays

variable {y : Crypto} {db : Database} {c : Ctx}

/-- Equal fingerprints of one deployment are fingerprints of the same fields. -/
theorem perm_of_fingerprint_eq {c' : Ctx} {p q : Payload} (hsha : Function.Injective y.sha256)
    (hc : c.crypto = y) (hc' : c'.crypto = y) (h : fingerprintRequest c p = fingerprintRequest c' q) :
    p.Perm q := by
  rw [fingerprintRequest, fingerprintRequest, hc, hc'] at h
  exact JsonText.perm_of_dumps_eq (hsha h)

/-- What is stored under the fingerprint of a payment is the answer of a payment, and that
    payment's request is linked to it. -/
theorem Settled.no_replay (h : Settled .none db.transfers db.moneyRequests) (hp : Proven y db)
    (hsha : Function.Injective y.sha256) (hc : c.crypto = y) {row : MoneyRequestRow} {payer t : Ulid}
    {key : String} {requestId : Option String} {r : IdempotencyRow}
    (hr : Replays db (MoneyRequestService.payCommand c row payer key requestId).triple
      (MoneyRequestService.payCommand c row payer key requestId).requestFingerprint t r)
    (hunique : ∀ x ∈ db.moneyRequests.rows, x.transferId ≠ some t) : False := by
  have htriple : r.triple = (MoneyRequestService.payCommand c row payer key requestId).triple :=
    Table.key_of_find? hr.found
  have hsame : r.requestFingerprint = fingerprintRequest c
      [("moneyRequestId", .str row.id.text), ("amountMinor", .int row.amountMinor)] := hr.same
  rcases hp.records r (Table.mem_of_find? hr.found) hr.completed with ⟨c', hc', hans⟩ | ⟨cmd, t', hrep⟩
  · -- the answer of a send has other fields
    obtain ⟨_, _, _, _, hsend⟩ := hans.2 (congrArg IdempotencyTriple.endpoint htriple)
    have hperm := perm_of_fingerprint_eq hsha hc hc' (hsame.symm.trans hsend)
    exact absurd hperm.length_eq (by simp)
  · have hend : cmd.idempotencyEndpoint = TRANSFER_ENDPOINT :=
      congrArg IdempotencyTriple.endpoint (hrep.triple.symm.trans htriple)
    rcases hrep.issued.of_transfers hend with ⟨c', hc', u, account, amount, req, rfl⟩ | hkind
    · -- so has a welcome bonus
      have hperm := perm_of_fingerprint_eq hsha hc hc' (hsame.symm.trans hrep.fingerprint)
      have hmem := hperm.subset List.mem_cons_self
      simp at hmem
    · have hk : t'.kind = .requestSettlement := hrep.created.kind.trans hkind
      have ht : t'.id = t := Option.some.inj (hrep.answers.symm.trans hr.answers)
      rcases h.covered t' (Table.mem_of_find? hrep.found) hk with ⟨_, _, hd, -⟩ | ⟨x, hx, hlink⟩
      · cases hd
      · exact hunique x hx (ht ▸ hlink)

end Replays

theorem Settled.step {c : Ctx} {L : Licence} {k k' : Config} (hs : Step c L k k') (hL : L.Sound c)
    (hsha : Function.Injective c.crypto.sha256) (hinv : Invariant c.settings c.crypto k)
    (h : Settled k.progress.duty k.db.transfers k.db.moneyRequests) :
    Settled k'.progress.duty k'.db.transfers k'.db.moneyRequests := by
  have hstray := hinv.no_stray
  have hproven := hinv.proven
  clear hinv
  cases hs
  case post p hv hl =>
    rcases (hL.post _ _ _ _ hl).pays with ⟨hk, hd⟩ | ⟨record, rfl, rfl, hf, hp⟩
    · have hpushed := h.push_other (t := p.row) hv.transfer_fresh hk
      rcases hd with rfl | ⟨hd, hd'⟩
      · exact hpushed
      · exact hpushed.with_duty hd hd'
    · exact h.push_payment hv.transfer_fresh hf hp
  case repay p _ _ hv hr =>
    refine h.push_other hv.transfer_fresh ?_
    show p.cmd.kind ≠ _
    rw [hr.kind]
    decide
  case latch hold toStatus now hf _ _ =>
    refine Settled.with_duty (d := .none) ?_ rfl rfl
    refine h.of_transfers ?_ ?_
    · exact (Step.latch (c := c) (L := L) hold toStatus now hf ‹_› ‹_›).grows.transfer
    · intro t ht _
      dsimp only at ht
      rcases Table.mem_of_mem_modifyAt hf ht with ⟨ht, -⟩ | rfl
      · exact ⟨t, ht, .refl t⟩
      · exact ⟨_, Table.mem_of_find? hf, _, _, rfl⟩
  case lend => exact h.with_duty rfl rfl
  case openEscrow => exact h.with_duty rfl rfl
  case closeEscrow => exact h.with_duty rfl rfl
  case request _ hf hst ht _ _ => exact h.push_request hf hst ht
  case decline q f hid hq =>
    refine h.decline hid ?_
    intro r hr hqr
    obtain ⟨hpending, -, hne, hlink, hterms, -⟩ := hq r hr hqr
    exact ⟨hpending, hne, hlink, hterms⟩
  case accept hf hst _ => exact h.accept hf hst
  case acceptReplayed hr hunique _ _ => exact (h.no_replay hproven hsha rfl hr hunique).elim
  case stray hstr _ _ _ => exact (hstray rfl hstr).elim
  all_goals exact h

/-! ### What a transaction does to a request -/

/-- How a request row may have changed: not at all, or by a licensed resolution. -/
def MoneyRequestRow.Resolved (L : Licence) (r r' : MoneyRequestRow) : Prop :=
  r' = r ∨ r.status = .pending ∧ r'.status ≠ .pending ∧ r.SameTerms r' ∧ L.request r r'

theorem MoneyRequestRow.Resolved.trans {L : Licence} {r r' r'' : MoneyRequestRow}
    (h : r.Resolved L r') (h' : r'.Resolved L r'') : r.Resolved L r'' := by
  rcases h with rfl | ⟨hp, hne, hterms, hl⟩
  · exact h'
  · rcases h' with rfl | ⟨hp', -⟩
    · exact .inr ⟨hp, hne, hterms, hl⟩
    · exact absurd hp' hne

/-- What a transaction did to the requests. -/
structure RequestMoves (L : Licence) (before after : Table MoneyRequestRow.id) : Prop where
  kept : ∀ id r, before.find? id = some r → ∃ r', after.find? id = some r' ∧ r.Resolved L r'
  fresh : ∀ id r', before.find? id = none → after.find? id = some r' → L.ask ∧ r'.status = .pending

namespace RequestMoves

variable {L : Licence} {before middle after : Table MoneyRequestRow.id}

theorem refl (L : Licence) (requests : Table MoneyRequestRow.id) : RequestMoves L requests requests := by
  refine ⟨fun id r hr => ⟨r, hr, .inl rfl⟩, fun id r' hn hr => ?_⟩
  rw [hn] at hr
  cases hr

/-- A request that is created is not also resolved: no licence covers both. -/
theorem trans (hL : L.ask → ∀ r r', ¬L.request r r') (h : RequestMoves L before middle)
    (h' : RequestMoves L middle after) : RequestMoves L before after := by
  refine ⟨?_, ?_⟩
  · intro id r hr
    obtain ⟨r', hr', hres⟩ := h.kept id r hr
    obtain ⟨r'', hr'', hres'⟩ := h'.kept id r' hr'
    exact ⟨r'', hr'', hres.trans hres'⟩
  · intro id r'' hn hr''
    cases hm : middle.find? id with
    | none => exact h'.fresh id r'' hm hr''
    | some r' =>
      obtain ⟨hask, hpending⟩ := h.fresh id r' hn hm
      obtain ⟨x, hx, hres⟩ := h'.kept id r' hm
      obtain rfl := Option.some.inj (hr''.symm.trans hx)
      rcases hres with rfl | ⟨-, -, -, hl⟩
      · exact ⟨hask, hpending⟩
      · exact absurd hl (hL hask _ _)

/-- What one licence covers another one may cover too. -/
theorem mono {L' : Licence} (h : RequestMoves L before after) (hask : L.ask → L'.ask)
    (hrequest : ∀ r r', L.request r r' → L'.request r r') : RequestMoves L' before after := by
  refine ⟨?_, fun id r' hn hr' => (h.fresh id r' hn hr').imp_left hask⟩
  intro id r hr
  obtain ⟨r', hr', hres⟩ := h.kept id r hr
  refine ⟨r', hr', hres.imp_right ?_⟩
  rintro ⟨hpending, hne, hterms, hl⟩
  exact ⟨hpending, hne, hterms, hrequest r r' hl⟩

theorem of_update {q : MoneyRequestRow → Bool} {f : MoneyRequestRow → MoneyRequestRow}
    (hid : ∀ r, (f r).id = r.id) (hq : ∀ r ∈ before.rows, q r = true → r.Resolved L (f r)) :
    RequestMoves L before (before.update q f hid) := by
  refine ⟨?_, ?_⟩
  · intro id r hr
    refine ⟨if q r then f r else r, ?_, ?_⟩
    · rw [Table.find?_update, hr]
      rfl
    · by_cases hqr : q r = true
      · rw [if_pos hqr]
        exact hq r (Table.mem_of_find? hr) hqr
      · rw [if_neg hqr]
        exact .inl rfl
  · intro id r' hn hr'
    rw [Table.find?_update, hn] at hr'
    cases hr'

end RequestMoves

theorem Step.requestMoves {c : Ctx} {L : Licence} {k k' : Config} (hs : Step c L k k')
    (hsha : Function.Injective c.crypto.sha256) (hinv : Invariant c.settings c.crypto k)
    (h : Settled k.progress.duty k.db.transfers k.db.moneyRequests) :
    RequestMoves L k.db.moneyRequests k'.db.moneyRequests := by
  have hproven := hinv.proven
  clear hinv
  cases hs
  case request row hl hf hst ht _ _ =>
    refine ⟨fun id r hr => ⟨r, Table.find?_push_of_some hr, .inl rfl⟩, ?_⟩
    intro id r' hn hr'
    dsimp only at hn hr'
    rw [Table.find?_push hf] at hr'
    split at hr'
    · cases hr'
      exact ⟨hl, hst⟩
    · rw [hn] at hr'
      cases hr'
  case decline q f hid hq =>
    refine .of_update hid ?_
    intro r hr hqr
    obtain ⟨hpending, hne, -, -, hterms, hl⟩ := hq r hr hqr
    exact .inr ⟨hpending, hne, hterms, hl⟩
  case accept row now hf hst hl =>
    refine .of_update (SqlMoneyRequestRepository.id_accepted _ _) ?_
    intro r hr hkey
    obtain rfl := Table.eq_of_key hr (Table.mem_of_find? hf) (of_decide_eq_true hkey)
    exact .inr ⟨hst, by simp [SqlMoneyRequestRepository.accepted], ⟨rfl, rfl, rfl, rfl⟩, hl⟩
  case acceptReplayed hr hunique _ _ => exact (h.no_replay hproven hsha rfl hr hunique).elim
  all_goals exact .refl L _

/-- The request that creates a money request resolves none. -/
theorem Request.ask_request {c : Ctx} {db : Database} {req : Request} (h : req.ask)
    (r r' : MoneyRequestRow) : ¬req.request c db r r' := by
  cases req <;> first | exact h.elim | exact id

/-- Between transactions. -/
structure Database.RequestsInv (d : Deployment) (db : Database) : Prop where
  inv : db.Inv d
  settled : Settled .none db.transfers db.moneyRequests

section Runs

variable {d : Deployment} {db : Database}

/-- A transaction keeps the correspondence and resolves requests as licensed. -/
theorem Database.RequestsInv.steps {c : Ctx} {req : Request} {k : Config}
    (hsha : Function.Injective c.crypto.sha256) (hinv : Invariant c.settings c.crypto ⟨.idle, db⟩)
    (h : Settled .none db.transfers db.moneyRequests)
    (hs : Steps c (licence c db req) ⟨.idle, db⟩ k) :
    Settled k.progress.duty k.db.transfers k.db.moneyRequests ∧
      RequestMoves (licence c db req) db.moneyRequests k.db.moneyRequests := by
  refine Invariant.steps_induction (P := fun k =>
    Settled k.progress.duty k.db.transfers k.db.moneyRequests ∧
      RequestMoves (licence c db req) db.moneyRequests k.db.moneyRequests)
    hs (licence_sound c db req) hinv ⟨h, .refl _ _⟩ ?_
  rintro k₁ k₂ hk hstep ⟨hsettled, hmoves⟩
  exact ⟨hsettled.step hstep (licence_sound c db req) hsha hk,
    hmoves.trans Request.ask_request (hstep.requestMoves hsha hk hsettled)⟩

theorem Database.RequestsInv.serve (hsha : Function.Injective d.crypto.sha256)
    (h : db.RequestsInv d) (call : Call) : (serve d call db).RequestsInv d ∧
      RequestMoves (licence (d.ctx call.oracle) db call.request) db.moneyRequests
        (MoneyMovement.serve d call db).moneyRequests := by
  rcases serve_cases d call db with he | hs
  · rw [he]
    exact ⟨h, .refl _ _⟩
  · obtain ⟨hsettled, hmoves⟩ := steps (c := d.ctx call.oracle) hsha h.inv h.settled hs
    have hinv : Invariant (d.ctx call.oracle).settings (d.ctx call.oracle).crypto _ :=
      h.inv.steps hs (licence_sound _ _ _)
    exact ⟨⟨hinv, hsettled⟩, hmoves⟩

theorem serveAll_requestsInv (hsha : Function.Injective d.crypto.sha256) (calls : List Call)
    (h : db.RequestsInv d) : (serveAll d calls db).RequestsInv d := by
  induction calls generalizing db with
  | nil => exact h
  | cons call calls ih => exact ih (h.serve hsha call).1

end Runs

/-! ### Calls that raise -/

/-- The calls that resolve money requests. -/
def Request.onMoneyRequest : Request → Prop
  | .acceptRequest .. | .rejectRequest .. | .cancelRequest .. | .expireDue => True
  | _ => False

/-- The call did not return: its transaction raised, or its route raises after a commit. -/
def Raises (c : Ctx) (req : Request) (db : Database) : Prop :=
  ∀ r s, handle c req (begin db) ≠ .ok (.ok r) s

/-- A call that raises moves no money. -/
theorem serve_of_raises {d : Deployment} {call : Call} {db : Database}
    (hon : call.request.onMoneyRequest) (h : Raises (d.ctx call.oracle) call.request db) :
    ∃ users, serve d call db = { db with users := users } := by
  rcases commit_cases (handle (d.ctx call.oracle) call.request) db with ⟨r, s, hok, he⟩ | he
  · rw [serve, he]
    cases r with
    | ok r => exact absurd hok (h r s)
    | error e =>
      generalize call.request = req at hon hok
      cases req <;> (try exact hon.elim) <;> rw [handle] at hok <;>
        obtain ⟨a, s₁, h₁, hok⟩ := bind_ok.1 hok <;> obtain ⟨hr, rfl⟩ := pure_ok.1 hok
      case acceptRequest =>
        cases a with
        | ok a => cases hr
        | error e' =>
          obtain ⟨users, -, he⟩ := runPinProtected_error h₁
          exact ⟨users, he⟩
      all_goals cases hr
  · exact ⟨db.users, he⟩

/-! ### Every run -/

/-- Who resolved a request, how and when. -/
def Resolution (c : Ctx) (db : Database) (req : Request) (r r' : MoneyRequestRow) : Prop :=
  match r'.status with
  | .pending => False
  | .accepted => ∃ user pin key requestId i, req = .acceptRequest user pin r.id key requestId ∧
      db.Owner r.payerAccountId user ∧ r'.respondedAt = some (c.oracle.clock i) ∧
      c.oracle.clock i < r.expiresAt
  | .rejected => ∃ user requestId, req = .rejectRequest user r.id requestId ∧
      db.Owner r.payerAccountId user
  | .cancelled => ∃ user requestId, req = .cancelRequest user r.id requestId ∧
      db.Owner r.requesterAccountId user
  | .expired => (req = .expireDue ∨ req = .runDueTasks) ∧ ∃ i, r.expiresAt ≤ c.oracle.clock i

theorem Request.request_resolution {c : Ctx} {db : Database} {req : Request} {r r' : MoneyRequestRow}
    (h : req.request c db r r') : Resolution c db req r r' := by
  unfold Resolution
  cases req <;> try exact h.elim
  case acceptRequest user pin id key requestId =>
    obtain ⟨rfl, howner, hs, i, hi, hlt⟩ := h
    rw [hs]
    exact ⟨user, pin, key, requestId, i, rfl, howner, hi, hlt⟩
  case rejectRequest user id requestId =>
    obtain ⟨rfl, howner, hs⟩ := h
    rw [hs]
    exact ⟨user, requestId, rfl, howner⟩
  case cancelRequest user id requestId =>
    obtain ⟨rfl, howner, hs⟩ := h
    rw [hs]
    exact ⟨user, requestId, rfl, howner⟩
  case expireDue =>
    obtain ⟨hs, hdue⟩ := h
    rw [hs]
    exact ⟨.inl rfl, hdue⟩
  case runDueTasks =>
    obtain ⟨hs, hdue⟩ := h
    rw [hs]
    exact ⟨.inr rfl, hdue⟩

/-- The deployment with another digest. -/
def Deployment.rehashed (d : Deployment) (sha256 : String → String) : Deployment :=
  { d with crypto := { d.crypto with sha256 := sha256 } }

/-- SHA-256 tells apart what the run hashes: with some digest that tells all texts apart, every
    call leaves the store it leaves with SHA-256. -/
def HashesApart (d : Deployment) (now : Time) (calls : List Call) : Prop :=
  ∃ sha256, Function.Injective sha256 ∧ ∀ before, before <+: calls →
    serveAll (d.rehashed sha256) before (migrated now) = serveAll d before (migrated now)

/-- Who may resolve a request does not depend on digests. -/
theorem Request.request_rehashed (d : Deployment) (sha256 : String → String) (o : Oracle)
    (db : Database) (req : Request) :
    req.request ((d.rehashed sha256).ctx o) db = req.request (d.ctx o) db := by
  cases req <;> rfl

theorem HashesApart.of_injective {d : Deployment} (hsha : Function.Injective d.crypto.sha256)
    (now : Time) (calls : List Call) : HashesApart d now calls :=
  ⟨d.crypto.sha256, hsha, fun _ _ => rfl⟩

/-- In a run whose digests are apart the requests are settled, and its last call moved them as
    it may. -/
theorem HashesApart.requestMoves {d : Deployment} {now : Time} {calls : List Call} {call : Call}
    (h : HashesApart d now (calls ++ [call])) :
    let db := serveAll d calls (migrated now)
    Settled .none db.transfers db.moneyRequests ∧
      RequestMoves (licence (d.ctx call.oracle) db call.request) db.moneyRequests
        (serve d call db).moneyRequests := by
  obtain ⟨sha256, hsha, hsame⟩ := h
  have hbefore := hsame calls (List.prefix_append _ _)
  have hafter := hsame _ List.prefix_rfl
  rw [serveAll_append, serveAll_append, hbefore] at hafter
  have hinv : (serveAll (d.rehashed sha256) calls (migrated now)).RequestsInv (d.rehashed sha256) :=
    serveAll_requestsInv hsha calls
      ⟨Invariant.migrated_invariant _ _ now, Settled.migrated_settled now⟩
  rw [hbefore] at hinv
  obtain ⟨-, hmoves⟩ := hinv.serve hsha call
  have hserve : serve (d.rehashed sha256) call (serveAll d calls (migrated now)) =
      serve d call (serveAll d calls (migrated now)) := hafter
  rw [hserve] at hmoves
  refine ⟨hinv.settled, hmoves.mono id fun r r' hl => ?_⟩
  rw [licence, Request.request_rehashed] at hl
  exact hl

/-- Requests and their payments correspond, and each request is resolved once, by whoever
    may resolve it. -/
theorem money_requests_resolve_once (d : Deployment) (now : Time) (calls : List Call) (call : Call)
    (hapart : HashesApart d now (calls ++ [call])) :
    let db := serveAll d calls (migrated now)
    let db' := serve d call db
    (∀ r ∈ db.moneyRequests.rows,
      (r.status = .accepted ↔ ∃! t, t ∈ db.transfers.rows ∧ t.kind = .requestSettlement ∧
        r.transferId = some t.id) ∧
      ∀ t ∈ db.transfers.rows, r.transferId = some t.id → t.Pays r) ∧
    (∀ t ∈ db.transfers.rows, t.kind = .requestSettlement →
      ∃! r, r ∈ db.moneyRequests.rows ∧ r.transferId = some t.id) ∧
    (∀ id r, db.moneyRequests.find? id = some r → ∃ r', db'.moneyRequests.find? id = some r' ∧
      (r' = r ∨ r.status = .pending ∧ r.SameTerms r' ∧
        Resolution (d.ctx call.oracle) db call.request r r')) ∧
    (∀ id r', db.moneyRequests.find? id = none → db'.moneyRequests.find? id = some r' →
      r'.status = .pending) ∧
    (call.request.onMoneyRequest → Raises (d.ctx call.oracle) call.request db →
      db'.accounts = db.accounts ∧ db'.transfers = db.transfers ∧
        db'.ledgerEntries = db.ledgerEntries) := by
  intro db db'
  obtain ⟨hsettled, hmoves⟩ : Settled .none db.transfers db.moneyRequests ∧ RequestMoves
    (licence (d.ctx call.oracle) db call.request) db.moneyRequests db'.moneyRequests :=
      hapart.requestMoves
  have hlinked : ∀ r ∈ db.moneyRequests.rows, ∀ t ∈ db.transfers.rows, r.transferId = some t.id →
      r.status = .accepted ∧ t.Pays r := by
    intro r hr t ht hlink
    by_cases ha : r.status = .accepted
    · obtain ⟨t', ht', hid, hp⟩ := hsettled.accepted r hr ha
      have hkey : t'.id = t.id := Option.some.inj (hid.symm.trans hlink)
      obtain rfl := Table.eq_of_key (Table.mem_of_find? ht') ht hkey
      exact ⟨ha, hp⟩
    · rw [hsettled.unlinked r hr ha] at hlink
      cases hlink
  refine ⟨?_, ?_, ?_, ?_, ?_⟩
  · intro r hr
    refine ⟨⟨?_, ?_⟩, fun t ht hlink => (hlinked r hr t ht hlink).2⟩
    · intro ha
      obtain ⟨t, ht, hid, hp⟩ := hsettled.accepted r hr ha
      refine ⟨t, ⟨Table.mem_of_find? ht, hp.kind, hid⟩, ?_⟩
      rintro t' ⟨ht', -, hid'⟩
      exact Table.eq_of_key ht' (Table.mem_of_find? ht) (Option.some.inj (hid'.symm.trans hid))
    · rintro ⟨t, ⟨ht, -, hlink⟩, -⟩
      exact (hlinked r hr t ht hlink).1
  · intro t ht hk
    rcases hsettled.covered t ht hk with ⟨_, _, hd, -⟩ | ⟨r, hr, hlink⟩
    · cases hd
    · exact ⟨r, ⟨hr, hlink⟩, fun r' hr' => hsettled.unique r hr r' hr'.1 _ hlink hr'.2⟩
  · intro id r hr
    obtain ⟨r', hr', hres⟩ := hmoves.kept id r hr
    refine ⟨r', hr', ?_⟩
    rcases hres with rfl | ⟨hpending, -, hterms, hl⟩
    · exact .inl rfl
    · exact .inr ⟨hpending, hterms, Request.request_resolution hl⟩
  · intro id r' hn hr'
    exact (hmoves.fresh id r' hn hr').2
  · intro hon hraises
    obtain ⟨users, he⟩ := serve_of_raises hon hraises
    have he' : db' = { db with users := users } := he
    rw [he']
    exact ⟨rfl, rfl, rfl⟩

namespace Sample

/-- The SHA-256 digests of what the run below hashes. -/
def digests : List (String × String) :=
  [("\x7b\"amountMinor\":10000000,\"userId\":\"000000000100000000000000Z9\"\x7d",
      "632ac5b3bd2099bd33f161e7edd4b476f8f4700c771ae774c151d9789c6fe0c6"),
    ("\x7b\"amountMinor\":10000000,\"userId\":\"000000000200000000000001YH\"\x7d",
      "081321be35a695dbbc076ac3e6d5e6af4c71c3233aebb3fc8cd669a4b032d333"),
    ("\x7b\"amountMinor\":5000,\"moneyRequestId\":\"000000000300000000000002XS\"\x7d",
      "3f7c3bd064c6b4b965b0d136aa6fe1b8a00ef76ddce8ec339636f1575414a687"),
    ("token-1-14",
      "d800179aeb40fc16ffed24e9f1f3982bf21cd51e3bd33faa82847e34df22a83b"),
    ("token-2-14",
      "ede6a15d2083ff61d848fd99c0be3e567ad72a5878296dcdb934f4d0e5b0814e")]

/-- SHA-256 on those texts, and a digest of its own for every other text. -/
def tabulatedSha256 : String → String := digestOf digests

theorem tabulatedSha256_injective : Function.Injective tabulatedSha256 :=
  digestOf_injective (by decide +kernel) (by decide +kernel)

/-- Two users register, the second asks the first for money, the first pays. -/
def paidCalls : List Call :=
  [register 1 "01711111111", register 2 "01722222222",
    call 3 (.createRequest (id 2 1) "01711111111" (.fromMinor 5000) none none),
    call 4 (.acceptRequest (id 1 1) "1234" (id 3 1) "key" none)]

end Sample

/-- In that run the request is paid, by one transfer. -/
theorem money_request_paid :
    let db := serveAll ⟨Sample.settings, Sample.crypto Sample.tabulatedSha256⟩ Sample.paidCalls
      (migrated 0)
    db.moneyRequests.rows.map (fun r => r.status) = [.accepted] ∧
      ∀ r ∈ db.moneyRequests.rows, (r.status = .accepted ↔
        ∃! t, t ∈ db.transfers.rows ∧ t.kind = .requestSettlement ∧ r.transferId = some t.id) := by
  have hapart : HashesApart ⟨Sample.settings, Sample.crypto Sample.tabulatedSha256⟩ 0
      (Sample.paidCalls ++ [Sample.call 5 .expireDue]) :=
    .of_injective Sample.tabulatedSha256_injective _ _
  refine ⟨by decide +kernel, fun r hr => ?_⟩
  exact ((money_requests_resolve_once ⟨Sample.settings, Sample.crypto Sample.tabulatedSha256⟩ 0
    Sample.paidCalls (Sample.call 5 .expireDue) hapart).1 r hr).1

end MoneyMovement

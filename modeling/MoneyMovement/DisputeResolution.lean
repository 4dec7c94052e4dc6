/-
  MoneyMovement/DisputeResolution.lean
  ====================================
  **Which decisions of a dispute can be carried out.**

  The admin's note goes into two rows: the escrow's, which takes 500 characters
  like the request schema, and as the reason of the settlement into the transfer's,
  which takes 200.  Everything else a decision needs is there in every reachable
  state, so a decision is carried out exactly when its note is short enough for the
  second row, and the request id fits, too.

  Length is all that is asked of a text here (`fits`): that the driver refuses one with
  U+0000 is not modelled.
-/
import MoneyMovement.DeferredSend
import MoneyMovement.Directory
import MoneyMovement.SendSpec

namespace MoneyMovement

open Txn SafePayService

/-! ### What an escrow row refers to -/

/-- An open escrow has no settlement yet, a settlement is a transfer, and the hold is between
    the accounts of buyer and seller. -/
structure EscrowLinks (db : Database) : Prop where
  unsettled : ∀ e ∈ db.safepayEscrows.rows, e.status.isOpen = true → e.settlementTransferId = none
  settled : ∀ e ∈ db.safepayEscrows.rows, ∀ t, e.settlementTransferId = some t →
    (db.transfers.find? t).isSome = true
  parties : ∀ e ∈ db.safepayEscrows.rows, ∃ hold,
    db.transfers.find? e.holdTransferId = some hold ∧ e.HeldBy db hold

section Links

variable {c : Ctx} {L : Licence} {k k' : Config} {db db' : Database} {e e' : EscrowRow}

theorem EscrowRow.HeldBy.mono {t t' : TransferRow} (hg : db.Grows db') (hs : t.SameMovement t')
    (h : e.HeldBy db t) : e.HeldBy db' t' := by
  obtain ⟨_, _, rfl⟩ := hs
  obtain ⟨hbuyer, r, hr, hseller⟩ := h
  exact ⟨hg.ownedBy hbuyer, r, hr, hg.ownedBy hseller⟩

theorem EscrowRow.HeldBy.deal {t : TransferRow} (hd : e.SameDeal e') (h : e.HeldBy db t) :
    e'.HeldBy db t := by
  unfold EscrowRow.HeldBy
  rw [hd.buyer, hd.seller]
  exact h

namespace EscrowLinks

theorem migrated_escrowLinks (now : Time) : EscrowLinks (migrated now) where
  unsettled _ h := by cases h
  settled _ h := by cases h
  parties _ h := by cases h

theorem grow (h : EscrowLinks db) (hg : db.Grows db') (he : db'.safepayEscrows = db.safepayEscrows) :
    EscrowLinks db' := by
  constructor
  · rw [he]
    exact h.unsettled
  · intro e hm t ht
    obtain ⟨row, hrow⟩ := Option.isSome_iff_exists.1 (h.settled e (he ▸ hm) t ht)
    obtain ⟨row', hrow', -⟩ := hg.transfer _ _ hrow
    rw [hrow']
    rfl
  · intro e hm
    obtain ⟨hold, hf, hheld⟩ := h.parties e (he ▸ hm)
    obtain ⟨hold', hf', hsame⟩ := hg.transfer _ _ hf
    exact ⟨hold', hf', hheld.mono hg hsame⟩

/-- One row replaced by another of the same deal. -/
theorem modify {f : EscrowRow → EscrowRow} (hid : ∀ x, (f x).id = x.id) (h : EscrowLinks db)
    (hf : db.safepayEscrows.find? e.id = some e) (hd : e.SameDeal (f e))
    (hopen : (f e).status.isOpen = true → (f e).settlementTransferId = none)
    (hsettled : ∀ t, (f e).settlementTransferId = some t → (db.transfers.find? t).isSome = true) :
    EscrowLinks { db with safepayEscrows := db.safepayEscrows.modifyAt e.id f hid } := by
  constructor
  · intro x hx ho
    dsimp only at hx
    rcases Table.mem_of_mem_modifyAt hf hx with ⟨hx, -⟩ | rfl
    · exact h.unsettled x hx ho
    · exact hopen ho
  · intro x hx t ht
    dsimp only at hx
    rcases Table.mem_of_mem_modifyAt hf hx with ⟨hx, -⟩ | rfl
    · exact h.settled x hx t ht
    · exact hsettled t ht
  · intro x hx
    dsimp only at hx
    rcases Table.mem_of_mem_modifyAt hf hx with ⟨hx, -⟩ | rfl
    · exact h.parties x hx
    · obtain ⟨hold, hhold, hheld⟩ := h.parties e (Table.mem_of_find? hf)
      exact ⟨hold, hd.hold ▸ hhold, hheld.deal hd⟩

theorem step (hinv : Invariant c.settings c.crypto k) (hs : Step c L k k') (h : EscrowLinks k.db) :
    EscrowLinks k'.db := by
  have hg := hs.grows
  have hduty := hinv.routes.duty
  have hstray := hinv.no_stray
  cases hs
  case openEscrow t e hparties hf hhold _ _ _ hnone =>
    constructor
    · intro x hx ho
      rcases (Table.mem_push hf).1 hx with hx | rfl
      · exact h.unsettled x hx ho
      · exact hnone
    · intro x hx y hy
      rcases (Table.mem_push hf).1 hx with hx | rfl
      · exact h.settled x hx y hy
      · rw [hnone] at hy
        cases hy
    · intro x hx
      rcases (Table.mem_push hf).1 hx with hx | rfl
      · exact h.parties x hx
      · exact ⟨t, hhold ▸ hduty.1, hparties⟩
  case escrow e f hsettled hid hf ho _ hd _ =>
    have hmem := Table.mem_of_find? hf
    refine h.modify hid hf hd ?_ ?_
    · intro _
      rw [hsettled]
      exact h.unsettled e hmem ho
    · rw [hsettled]
      exact h.settled e hmem
  case closeEscrow t e f hsettled hid hf _ _ hd hst _ =>
    refine h.modify hid hf hd ?_ ?_
    · intro ho
      rcases hst with ⟨hst, -⟩ | ⟨hst, -⟩ <;> rw [hst] at ho <;> cases ho
    · intro y hy
      obtain rfl := Option.some.inj (hsettled.symm.trans hy)
      rw [hduty.1]
      rfl
  case stray hs _ _ _ => exact absurd hs (hstray rfl)
  all_goals exact h.grow hg rfl

end EscrowLinks

end Links

theorem serveAll_links (d : Deployment) (now : Time) (calls : List Call) :
    EscrowLinks (serveAll d calls (migrated now)) := by
  refine serveAll_induction now (P := EscrowLinks) (EscrowLinks.migrated_escrowLinks now) ?_ calls
  intro db call hinv h
  rcases serve_cases d call db with he | hsteps
  · rw [he]
    exact h
  · refine Invariant.steps_induction hsteps (licence_sound (d.ctx call.oracle) _ _) hinv
      (P := fun k => EscrowLinks k.db) h ?_
    intro k₁ k₂ hinv₁ hstep h₁
    exact h₁.step hinv₁ hstep

/-! ### The settlement of a disputed escrow -/

/-- What a decision makes of the hold and of the escrow, and whom it pays. -/
def SafePayService.Decision.holdStatus : Decision → TransferStatus
  | release => .succeeded
  | refund => .refunded

def SafePayService.Decision.outcome : Decision → EscrowStatus
  | release => .released
  | refund => .refunded

def SafePayService.Decision.beneficiary (e : EscrowRow) : Decision → Ulid
  | release => e.sellerUserId
  | refund => e.buyerUserId

/-- The key under which the admin's command is recorded. -/
def SafePayService.resolveTriple (escrowId : Ulid) (idempotencyKey : String) : IdempotencyTriple :=
  ⟨escrowId, "POST:/api/v1/admin/safepay/" ++ escrowId.text ++ "/resolve", idempotencyKey⟩

/-- The session in which the money of the escrow has been paid out and its row not been
    written yet. -/
structure PaidOut (c : Ctx) (N : Nat) (db : Database) (s : Session) (e : EscrowRow)
    (account v : Ulid) (r : TransferResult) : Prop where
  position : s.db.position = (db.position.pay ESCROW_ACCOUNT_ID account e.amountMinor).swept account
    (SqlOverdraftRepository.outstanding db v)
    (OverdraftService.lienBudget c (.fromMinor e.amountMinor))
  fresh : Fresh c N s
  draws : s.draws + 3 ≤ N
  escrows : s.db.safepayEscrows = db.safepayEscrows
  users : db.users.Extends s.db.users
  new : db.transfers.find? r.transferId = none
  found : (s.db.transfers.find? r.transferId).isSome = true

section Payout

variable {d : Deployment} {c : Ctx} {N : Nat} {db : Database} {s : Session} {e : EscrowRow}
  {hold : TransferRow}

/-- The hold of a disputed escrow is still held, in the escrow account. -/
theorem Database.Inv.disputed_hold (hinv : db.Inv d) (he : e ∈ db.safepayEscrows.rows)
    (hst : e.status = .disputed) (hf : db.transfers.find? e.holdTransferId = some hold) :
    hold.status = .held ∧ hold.kind = .escrowHold ∧ hold.amountMinor = e.amountMinor ∧
      hold.receiverAccountId = ESCROW_ACCOUNT_ID := by
  obtain ⟨hold₁, hf₁, hkind, hamount⟩ := hinv.routes.escrows e he
  cases hf.symm.trans hf₁
  obtain ⟨hold₂, hf₂, -, hstatus⟩ := hinv.escrow_status he
  cases hf.symm.trans hf₂
  obtain ⟨-, hto, -⟩ := (hinv.routes.heldIn hf).2 hkind
  refine ⟨?_, hkind, hamount, hto⟩
  rcases hstatus with ⟨-, hheld⟩ | ⟨hclosed, -⟩ | ⟨hclosed, -⟩
  · exact hheld
  · rw [hst] at hclosed
    cases hclosed
  · rw [hst] at hclosed
    cases hclosed

/-- What a settlement has done when it went through. -/
theorem HoldingService.settle_facts {toStatus : TransferStatus} {reference : Reference}
    {account holding u : Ulid} {amount : Money} {kind : TransferKind} {note req : Option String}
    {r : TransferResult} {s' : Session}
    (hdb : ∃ records, s.db = { db with idempotencyRecords := records })
    (hkey : s.db.idempotencyRecords.find?
      ⟨u, legEndpoint kind, settlementKey hold.id toStatus⟩ = none)
    (h : settle c hold.id reference .held toStatus account holding amount kind u note req s =
      .ok r s') :
    fits? 200 note = true ∧ fits? 64 req = true ∧ s'.db.safepayEscrows = db.safepayEscrows ∧
      db.users.Extends s'.db.users ∧ db.transfers.find? r.transferId = none ∧
      (s'.db.transfers.find? r.transferId).isSome = true := by
  obtain ⟨records, hdb⟩ := hdb
  obtain ⟨n, s₁, h₁, h⟩ := bind_ok.1 h
  obtain ⟨_, s₂, h₂, hexec⟩ := bind_ok.1 h
  obtain ⟨hn, rfl⟩ := ensure_ok.1 h₂
  obtain ⟨-, -, -, e₁⟩ := SqlTransferRepository.tryTransitionStatus_ok hn h₁
  rw [hdb] at e₁ hkey
  have hkey₁ : s₁.db.idempotencyRecords.find?
      ⟨u, legEndpoint kind, settlementKey hold.id toStatus⟩ = none := by
    rw [e₁]
    exact hkey
  obtain ⟨a, b, hchecked⟩ := execute_checks hexec hkey₁
  refine ⟨hchecked.note, hchecked.requestId, ?_⟩
  rcases execute_ok hexec with ⟨-, -, row, hrow⟩ | ⟨p, hp⟩
  · have hfound := hrow.found
    cases hkey₁.symm.trans hfound
  · have hr : r.transferId = p.transferId := by
      rw [hp.result]
      rfl
    have hnew := hp.valid.transfer_fresh
    rw [e₁] at hnew
    refine ⟨?_, ?_, ?_, ?_⟩
    · rw [hp.untouched.escrows, e₁]
    · have hsteps := hp.steps .all .none .none [] trivial
      have husers := hsteps.usersKept.toExtends
      rw [e₁] at husers
      exact husers
    · rw [hr]
      dsimp only at hnew
      rw [Table.find?_modifyAt] at hnew
      split at hnew
      · rename_i heq
        rw [heq]
        exact Option.map_eq_none_iff.1 hnew
      · exact hnew
    · rw [hr, hp.row]
      rfl

/-- The settlement of the decision goes through when whoever it pays is active. -/
theorem SafePayService.settle_returns (decision : Decision) {account u v : Ulid} {b : AccountRow}
    {note req : Option String} (hinv : db.Inv d) (he : e ∈ db.safepayEscrows.rows)
    (hst : e.status = .disputed) (hf : db.transfers.find? e.holdTransferId = some hold)
    (hp : PaidTo hold decision.holdStatus account) (hb : db.accounts.find? account = some b)
    (hactive : b.status = .active) (hv : b.userId = some v)
    (hdb : ∃ records, s.db = { db with idempotencyRecords := records }) (hS : Serviceable s.db)
    (hkey : s.db.idempotencyRecords.find? ⟨u, HoldingService.legEndpoint
      (escrowLegKind decision.holdStatus), HoldingService.settlementKey hold.id decision.holdStatus⟩ =
        none)
    (hfresh : Fresh c N s) (hN : s.draws + 11 + 10 * db.overdraftLoans.rows.length ≤ N)
    (hu : (db.users.find? u).isSome = true) (hnote : fits? 200 note = true)
    (hreq : fits? 64 req = true) :
    Returns (HoldingService.settle c hold.id hold.reference .held decision.holdStatus account
      ESCROW_ACCOUNT_ID (.fromMinor e.amountMinor) (escrowLegKind decision.holdStatus) u note req) s
      fun r s' => PaidOut c N db s' e account v r := by
  obtain ⟨hheld, hkind, hamount, hto⟩ := hinv.disputed_hold he hst hf
  have hleg : hold.legKind decision.holdStatus = escrowLegKind decision.holdStatus := if_pos hkind
  have hsettle : Returns (HoldingService.settleHold c hold decision.holdStatus account u note req) s _ :=
    HoldingService.settleHold_returns_in hinv (Table.mem_of_find? hf) (.inr hheld) hp hb hactive hdb hS
      (hleg ▸ hkey) hfresh (by omega) hu hnote hreq
  unfold HoldingService.settleHold at hsettle
  rw [hleg, hto, hheld, hamount] at hsettle
  refine (hsettle.and_of_ok fun _ _ => HoldingService.settle_facts hdb hkey).mono ?_
  rintro r s' ⟨⟨hposition, hfresh', hdraws⟩, -, -, hescrows, husers, hnew, hfound⟩
  exact ⟨hposition v hv, hfresh', by omega, hescrows, husers, hnew, hfound⟩

/-- The escrow's row is written once the money is paid out. -/
theorem SqlSafePayRepository.markSettled_returns {account v : Ulid} {r : TransferResult}
    {froms : List EscrowStatus} {status : EscrowStatus} {now : Time} {note : String} {s' : Session}
    (hlinks : EscrowLinks db) (he : e ∈ db.safepayEscrows.rows) (hopen : e.status.isOpen = true)
    (hmem : e.status ∈ froms) (hnote : fits 500 note = true)
    (hpaid : PaidOut c N db s e account v r) (hdb : s'.db = s.db) :
    Returns (SqlSafePayRepository.markSettled e.id froms status r.transferId now (some note)) s'
      fun n s₁ => n = 1 ∧ s₁.draws = s'.draws ∧ ∃ f hid, (f e).status = status ∧
        (f e).resolutionNote = some note ∧ s₁.db = { s.db with
          safepayEscrows := s.db.safepayEscrows.modifyAt e.id f hid } := by
  have hfound : s'.db.safepayEscrows.find? e.id = some e := by
    rw [hdb, hpaid.escrows]
    exact Table.find?_of_mem he
  have hnone := hlinks.unsettled e he hopen
  refine ⟨_, _, updateWhere_of hfound ?_ ?_, rfl, rfl, _, _, rfl, rfl, by rw [hdb]; rfl⟩
  · simp [hnone, hmem]
  · simp only [Bool.and_eq_true, List.all_eq_true, decide_eq_true_eq]
    refine ⟨⟨hnote, ?_⟩, ?_⟩
    · rw [hdb, hpaid.escrows]
      intro x hx heq
      have hsome := hlinks.settled x hx _ heq
      rw [hpaid.new] at hsome
      cases hsome
    · rw [hdb]
      exact hpaid.found

/-- The decision is carried out: the amount has left the escrow account for the beneficiary,
    whose lien then took its share, and the escrow's row has the note. -/
structure CarriedOut (c : Ctx) (db db' : Database) (e : EscrowRow) (decision : Decision)
    (note : String) : Prop where
  paid : ∃ account, SqlAccountRepository.ofUser db (decision.beneficiary e) = some account ∧
    db'.position = (db.position.pay ESCROW_ACCOUNT_ID account.id e.amountMinor).swept account.id
      (SqlOverdraftRepository.outstanding db (decision.beneficiary e))
      (OverdraftService.lienBudget c (.fromMinor e.amountMinor))
  recorded : ∃ e', db'.safepayEscrows.find? e.id = some e' ∧ e'.status = decision.outcome ∧
    e'.resolutionNote = some note

/-- What a decision can rely on once its key is reserved. -/
structure Resolvable (c : Ctx) (N : Nat) (db : Database) (s : Session) (e : EscrowRow) : Prop where
  inv : ∃ d : Deployment, db.Inv d
  links : EscrowLinks db
  sole : SoleAccounts db.accounts
  row : e ∈ db.safepayEscrows.rows
  disputed : e.status = .disputed
  active : ∀ decision : Decision, ∃ b,
    SqlAccountRepository.ofUser db (decision.beneficiary e) = some b ∧ b.status = .active
  same : ∃ records, s.db = { db with idempotencyRecords := records }
  serviceable : Serviceable s.db
  keys : ∀ u kind toStatus, s.db.idempotencyRecords.find?
    ⟨u, HoldingService.legEndpoint kind, HoldingService.settlementKey e.holdTransferId toStatus⟩ = none
  fresh : Fresh c N s
  draws : s.draws + 11 + 10 * db.overdraftLoans.rows.length ≤ N

/-- The account a decision pays. -/
theorem Resolvable.paidTo (h : Resolvable c N db s e) (decision : Decision)
    (hf : db.transfers.find? e.holdTransferId = some hold) :
    ∃ b, SqlAccountRepository.ofUser db (decision.beneficiary e) = some b ∧ b.status = .active ∧
      db.accounts.find? b.id = some b ∧ b.userId = some (decision.beneficiary e) ∧
      (db.users.find? (decision.beneficiary e)).isSome = true ∧
      PaidTo hold decision.holdStatus b.id := by
  obtain ⟨d, hinv⟩ := h.inv
  obtain ⟨b, hb, hactive⟩ := h.active decision
  obtain ⟨hold', hf', hbuyer, r, hr, hseller⟩ := h.links.parties e h.row
  cases hf.symm.trans hf'
  obtain ⟨b', hfound, -, huser⟩ := ofUser_ownedBy hb
  have hmem := List.mem_of_find?_eq_some hb
  cases (Table.find?_of_mem hmem).symm.trans hfound
  refine ⟨b, hb, hactive, hfound, huser, hinv.standing.users b hmem _ huser, ?_⟩
  cases decision with
  | release =>
    rw [ofUser_of_ownedBy h.sole hb hseller]
    exact .inl ⟨rfl, hr⟩
  | refund =>
    rw [ofUser_of_ownedBy h.sole hb hbuyer]
    exact .inr ⟨rfl, rfl⟩

theorem now_returns : Returns (MoneyMovement.now c) s fun _ s' =>
    s'.draws = s.draws + 1 ∧ s'.db = s.db :=
  ⟨_, _, rfl, rfl, rfl⟩

theorem SafePayService.auditEvent_returns {actor id : Ulid} {action : String} {req : Option String}
    {metadata : Payload} (hreq : fits? 64 req = true)
    (hactor : (s.db.users.find? actor).isSome = true)
    (hfresh : s.db.auditLogs.find? (c.oracle.ulid (s.draws + 1)) = none) :
    Returns (auditEvent c actor id action req metadata) s fun _ s' =>
      ∃ logs, s'.db = { s.db with auditLogs := logs } := by
  refine Returns.bind now_returns ?_
  rintro _ s₁ ⟨hd₁, e₁⟩
  rw [← e₁, ← hd₁] at hfresh
  rw [← e₁] at hactor ⊢
  refine (SqlAuditRepository.record_returns hreq hactor hfresh).mono ?_
  rintro _ s₂ ⟨-, log, -, e₂⟩
  exact ⟨_, e₂⟩

/-- `_refund_locked` goes through. -/
theorem SafePayService.refundLocked_returns {note : String} {req : Option String}
    (h : Resolvable c N db s e) (hnote : fits 200 note = true) (hnote' : fits 500 note = true)
    (hreq : fits? 64 req = true) :
    Returns (refundLocked c e note req note) s fun _ s' => CarriedOut c db s'.db e .refund note := by
  obtain ⟨d, hinv⟩ := h.inv
  obtain ⟨hold, hf, -⟩ := h.links.parties e h.row
  obtain ⟨b, hb, hactive, hfound, huser, hu, hpaid⟩ := h.paidTo .refund hf
  obtain ⟨records, hdb⟩ := h.same
  have hid : hold.id = e.holdTransferId := Table.key_of_find? hf
  have hsender : hold.senderAccountId = b.id := (hpaid.resolve_left fun hx => nomatch hx.1).2
  unfold refundLocked
  refine Returns.bind (Returns.query ⟨?_, rfl⟩ : Returns _ s fun o s' => o = some hold ∧ s = s') ?_
  · rw [hdb]
    exact hf
  rintro _ _ ⟨rfl, rfl⟩
  refine Returns.bind (Returns.orRaise rfl ⟨rfl, rfl⟩ : Returns _ s fun x s' => hold = x ∧ s = s') ?_
  rintro _ _ ⟨rfl, rfl⟩
  rw [hsender]
  refine Returns.bind (SafePayService.settle_returns .refund hinv h.row h.disputed hf hpaid
    hfound hactive huser h.same h.serviceable (hid ▸ h.keys _ _ _) h.fresh h.draws hu hnote hreq) ?_
  intro r s₁ hout
  refine Returns.bind now_returns ?_
  rintro t s₂ ⟨hd₂, e₂⟩
  refine Returns.bind (SqlSafePayRepository.markSettled_returns h.links h.row (by rw [h.disputed]; rfl)
    (by rw [h.disputed]; decide) hnote' hout e₂) ?_
  rintro _ s₃ ⟨rfl, -, f, hfid, hstatus, hrecorded, e₃⟩
  refine Returns.bind (Returns.ensure rfl rfl : Returns _ s₃ fun _ s' => s₃ = s') ?_
  rintro _ _ rfl
  refine Returns.pure ⟨⟨b, hb, ?_⟩, ?_⟩
  · rw [e₃]
    exact hout.position
  · refine ⟨f e, ?_, hstatus, hrecorded⟩
    rw [e₃]
    dsimp only
    rw [Table.find?_modifyAt, if_pos rfl, hout.escrows, Table.find?_of_mem h.row]
    rfl

/-- `_release_locked` goes through. -/
theorem SafePayService.releaseLocked_returns {note : String} {req : Option String}
    (h : Resolvable c N db s e) (hnote : fits 200 note = true) (hnote' : fits 500 note = true)
    (hreq : fits? 64 req = true) :
    Returns (releaseLocked c e e.sellerUserId note req (some note)) s fun _ s' =>
      CarriedOut c db s'.db e .release note := by
  obtain ⟨d, hinv⟩ := h.inv
  obtain ⟨hold, hf, -⟩ := h.links.parties e h.row
  obtain ⟨b, hb, hactive, hfound, huser, hu, hpaid⟩ := h.paidTo .release hf
  obtain ⟨records, hdb⟩ := h.same
  have hid : hold.id = e.holdTransferId := Table.key_of_find? hf
  have hreceiver : hold.intendedReceiverAccountId = some b.id :=
    (hpaid.resolve_right fun hx => nomatch hx.1).2
  unfold releaseLocked
  refine Returns.bind (Returns.query ⟨?_, rfl⟩ : Returns _ s fun o s' => o = some hold ∧ s = s') ?_
  · rw [hdb]
    exact hf
  rintro _ _ ⟨rfl, rfl⟩
  refine Returns.bind (Returns.orRaise rfl ⟨rfl, rfl⟩ : Returns _ s fun x s' => hold = x ∧ s = s') ?_
  rintro _ _ ⟨rfl, rfl⟩
  refine Returns.bind (Returns.orRaise hreceiver ⟨rfl, rfl⟩ : Returns _ s fun x s' =>
    b.id = x ∧ s = s') ?_
  rintro _ _ ⟨rfl, rfl⟩
  refine Returns.bind (SafePayService.settle_returns .release hinv h.row h.disputed hf hpaid
    hfound hactive huser h.same h.serviceable (hid ▸ h.keys _ _ _) h.fresh h.draws hu hnote hreq) ?_
  intro r s₁ hout
  refine Returns.bind now_returns ?_
  rintro t s₂ ⟨hd₂, e₂⟩
  refine Returns.bind (SqlSafePayRepository.markSettled_returns h.links h.row (by rw [h.disputed]; rfl)
    (by rw [h.disputed]; decide) hnote' hout e₂) ?_
  rintro _ s₃ ⟨rfl, hd₃, f, hfid, hstatus, hrecorded, e₃⟩
  refine Returns.bind (Returns.ensure rfl rfl : Returns _ s₃ fun _ s' => s₃ = s') ?_
  rintro _ _ rfl
  refine Returns.bind (Returns.modify ⟨rfl, rfl⟩ : Returns _ s₃ fun _ s' => s'.draws = s₃.draws ∧
    s'.db = SqlScheduledTaskRepository.setTable s₃.db _) ?_
  rintro _ s₄ ⟨hd₄, e₄⟩
  refine Returns.bind (SafePayService.auditEvent_returns hreq ?_ ?_) ?_
  · rw [e₄, e₃]
    exact hout.users _ hu
  · rw [e₄, e₃, hd₄, hd₃, hd₂]
    have := hout.draws
    exact hout.fresh.auditLogs _ (by omega) (by omega)
  rintro _ s₅ ⟨logs, e₅⟩
  refine Returns.pure ⟨⟨b, hb, ?_⟩, ?_⟩
  · rw [e₅, e₄, e₃]
    exact hout.position
  · refine ⟨f e, ?_, hstatus, hrecorded⟩
    rw [e₅, e₄, e₃]
    show (s₁.db.safepayEscrows.modifyAt e.id f hfid).find? e.id = _
    rw [Table.find?_modifyAt, if_pos rfl, hout.escrows, Table.find?_of_mem h.row]
    rfl

/-- A change of an account that leaves its balance alone. -/
theorem Database.position_modifyAt (db : Database) (id : Ulid) {f : AccountRow → AccountRow}
    {hid : ∀ a, (f a).id = a.id} (hf : ∀ a, (f a).balanceMinor = a.balanceMinor) :
    ({ db with accounts := db.accounts.modifyAt id f hid } : Database).position = db.position := by
  refine congrArg (Position.mk · _) (funext fun x => ?_)
  dsimp only
  rw [Table.find?_modifyAt]
  by_cases hx : x = id
  · rw [if_pos hx, hx, Option.map_map]
    exact congrArg (Option.map · _) (funext hf)
  · rw [if_neg hx]

/-- The ban of a buyer goes through, and leaves the money and the escrows alone. -/
theorem SafePayService.banBuyer_returns (u : Ulid) :
    Returns (banBuyer c u) s fun _ s' => s'.db.position = s.db.position ∧
      s'.db.safepayEscrows = s.db.safepayEscrows := by
  unfold banBuyer
  refine Returns.bind (P := fun _ s' => s'.db.accounts = s.db.accounts ∧
    s'.db.overdraftLoans = s.db.overdraftLoans ∧ s'.db.safepayEscrows = s.db.safepayEscrows)
    (Returns.modify ⟨rfl, rfl, rfl⟩) ?_
  rintro _ s₁ ⟨ha, hl, he⟩
  have hposition : s₁.db.position = s.db.position := by
    unfold Database.position
    rw [ha, hl]
  refine Returns.bind (Returns.query ⟨rfl, rfl⟩ : Returns _ s₁ fun o s' => o =
    (SqlAccountRepository.ofUser s₁.db u).map AccountRow.toDomain ∧ s₁ = s') ?_
  rintro _ _ ⟨rfl, rfl⟩
  cases hfound : SqlAccountRepository.ofUser s₁.db u with
  | none =>
    refine Returns.bind now_returns ?_
    rintro t s₂ ⟨-, e₂⟩
    refine Returns.modify ⟨?_, ?_⟩
    · show s₂.db.position = _
      rw [e₂, hposition]
    · show s₂.db.safepayEscrows = _
      rw [e₂, he]
  | some account =>
    obtain ⟨row, hrow, -⟩ := ofUser_ownedBy hfound
    refine Returns.bind (P := fun _ s' => s'.db.position = s₁.db.position ∧
      s'.db.safepayEscrows = s₁.db.safepayEscrows) ?_ ?_
    · refine Returns.bind (Returns.modify rfl : Returns _ s₁ fun _ s' => s'.db = s₁.db) ?_
      intro _ s₂ e₂
      refine ⟨_, _, updateWhere_of (e₂ ▸ hrow) rfl rfl, ?_, ?_⟩
      · rw [← e₂]
        exact s₂.db.position_modifyAt account.id fun _ => rfl
      · show s₂.db.safepayEscrows = _
        rw [e₂]
    rintro _ s₂ ⟨hposition₂, he₂⟩
    refine Returns.bind now_returns ?_
    rintro t s₃ ⟨-, e₃⟩
    refine Returns.modify ⟨?_, ?_⟩
    · show s₃.db.position = _
      rw [e₃, hposition₂, hposition]
    · show s₃.db.safepayEscrows = _
      rw [e₃, he₂, he]

theorem CarriedOut.same {db₁ db₂ : Database} {decision : Decision} {note : String}
    (h : CarriedOut c db db₁ e decision note) (hposition : db₂.position = db₁.position)
    (hescrows : db₂.safepayEscrows = db₁.safepayEscrows) : CarriedOut c db db₂ e decision note := by
  constructor
  · rw [hposition]
    exact h.paid
  · rw [hescrows]
    exact h.recorded

theorem SafePayService.resolveOnce_returns {note : String} {req : Option String}
    (h : Resolvable c N db s e) (decision : Decision) (ban : Bool) (now : Time)
    (hnote : fits 200 note = true) (hnote' : fits 500 note = true) (hreq : fits? 64 req = true) :
    Returns (resolveOnce c e.id decision note ban req now) s fun _ s' =>
      CarriedOut c db s'.db e decision note := by
  obtain ⟨records, hdb⟩ := h.same
  unfold resolveOnce
  refine Returns.bind (Returns.query ⟨?_, rfl⟩ : Returns _ s fun o s' => o = some e ∧ s = s') ?_
  · rw [hdb]
    exact Table.find?_of_mem h.row
  rintro _ _ ⟨rfl, rfl⟩
  refine Returns.bind (Returns.orRaise rfl ⟨rfl, rfl⟩ : Returns _ s fun x s' => e = x ∧ s = s') ?_
  rintro _ _ ⟨rfl, rfl⟩
  refine Returns.bind (Returns.ensure h.disputed rfl : Returns _ s fun _ s' => s = s') ?_
  rintro _ _ rfl
  cases decision with
  | release =>
    refine Returns.bind (SafePayService.releaseLocked_returns h hnote hnote' hreq) ?_
    intro body s₁ hout
    split
    · refine Returns.bind (SafePayService.banBuyer_returns _) ?_
      rintro _ s₂ ⟨hposition, hescrows⟩
      exact Returns.pure (hout.same hposition hescrows)
    · exact Returns.pure hout
  | refund =>
    refine Returns.bind (SafePayService.refundLocked_returns h hnote hnote' hreq) ?_
    intro body s₁ hout
    exact Returns.pure hout

end Payout

/-! ### The command -/

section Command

variable {d : Deployment} {c : Ctx} {db : Database} {s : Session} {e : EscrowRow}

/-- A command under an unused key runs once, and is answered. -/
theorem SafePayService.stateCommand_returns {triple : IdempotencyTriple} {payload : Payload}
    {once : Time → Tx (Ulid × Body)} {Q : Database → Prop}
    (hfits : fits 100 triple.endpoint = true ∧ fits 128 triple.key = true)
    (hkey : s.db.idempotencyRecords.find? triple = none)
    (honce : ∀ now s₁, s₁.draws = s.draws + 1 → s₁.db = { s.db with
        idempotencyRecords := s.db.idempotencyRecords.push
          (SqlIdempotencyRepository.processing triple (fingerprintRequest c payload) now) } →
      Returns (once now) s₁ fun _ s₂ => Q s₂.db)
    (hQ : ∀ db records, Q db → Q { db with idempotencyRecords := records }) :
    Returns (stateCommand c triple payload once) s fun _ s' => Q s'.db := by
  refine Returns.bind now_returns ?_
  rintro now s₁ ⟨hd₁, e₁⟩
  refine Returns.bind (SqlIdempotencyRepository.reserve_returns hfits (e₁ ▸ hkey)) ?_
  rintro _ s₂ ⟨rfl, e₂⟩
  refine Returns.bind (Returns.pure ⟨rfl, rfl⟩ : Returns _ s₂ fun o s' => o = none ∧ s₂ = s') ?_
  rintro _ _ ⟨rfl, rfl⟩
  refine Returns.bind (honce now s₂ ?_ ?_) ?_
  · rw [e₂]
    exact hd₁
  · rw [e₂, e₁]
  intro x s₃ hx
  refine Returns.bind (P := fun _ s' => Q s'.db) (Returns.modify (hQ _ _ hx)) ?_
  intro _ _ h
  exact Returns.pure h

theorem SafePayService.resolveTriple_endpoint (id : Ulid) (key : String) :
    ∃ rest, (resolveTriple id key).endpoint = "POST:/" ++ rest := by
  refine ⟨"api/v1/admin/safepay/" ++ (id.text ++ "/resolve"), ?_⟩
  have hsplit : "POST:/api/v1/admin/safepay/" = "POST:/" ++ "api/v1/admin/safepay/" := by decide
  show "POST:/api/v1/admin/safepay/" ++ id.text ++ "/resolve" = _
  rw [hsplit, String.append_assoc, String.append_assoc]

theorem SafePayService.resolveTriple_answerable (id : Ulid) (key f : String) (now : Time) :
    Answerable c (SqlIdempotencyRepository.processing (resolveTriple id key) f now) :=
  answerable_of_isPrefixOf "POST:/api/v1/admin/safepay/" (id.text ++ "/resolve")
    String.append_assoc (by decide) (by decide)

theorem SafePayService.fits_resolveTriple (id : Ulid) (key : String) :
    fits 100 (resolveTriple id key).endpoint = true := by
  have hlen : (resolveTriple id key).endpoint.length = 61 := by
    simp only [resolveTriple, String.length_append, Ulid.length_text]
    rfl
  rw [fits, hlen]
  rfl

/-- The reservation of the command's own key is in no settlement's way. -/
theorem SafePayService.settlementKeys_free {key f : String} {now : Time} (hinv : db.Inv d)
    (hlinks : EscrowLinks db) (he : e ∈ db.safepayEscrows.rows) (hst : e.status = .disputed)
    (hkey : db.idempotencyRecords.find? (resolveTriple e.id key) = none)
    (hdb : s.db = { db with
      idempotencyRecords := db.idempotencyRecords.push
        (SqlIdempotencyRepository.processing (resolveTriple e.id key) f now) })
    (u : Ulid) (kind : TransferKind) (toStatus : TransferStatus) :
    s.db.idempotencyRecords.find? ⟨u, HoldingService.legEndpoint kind,
      HoldingService.settlementKey e.holdTransferId toStatus⟩ = none := by
  rw [hdb]
  refine (Table.find?_push hkey _).trans ?_
  obtain ⟨rest, hrest⟩ := resolveTriple_endpoint e.id key
  have hne : resolveTriple e.id key ≠ ⟨u, HoldingService.legEndpoint kind,
      HoldingService.settlementKey e.holdTransferId toStatus⟩ := by
    intro heq
    have hend := congrArg IdempotencyTriple.endpoint heq
    exact HoldingService.legEndpoint_ne kind rest (hrest.symm.trans hend)
  refine (if_neg hne).trans ?_
  obtain ⟨hold, hf, -⟩ := hlinks.parties e he
  obtain ⟨hheld, -⟩ := hinv.disputed_hold he hst hf
  have hid : hold.id = e.holdTransferId := Table.key_of_find? hf
  rw [← hid]
  exact hinv.settlementKey_free (Table.mem_of_find? hf) (.inr hheld) kind u

theorem SafePayService.resolvable {key f : String} {now : Time} (hinv : db.Inv d)
    (hlinks : EscrowLinks db) (hsole : SoleAccounts db.accounts) (he : e ∈ db.safepayEscrows.rows)
    (hst : e.status = .disputed)
    (hactive : ∀ decision : Decision, ∃ b,
      SqlAccountRepository.ofUser db (decision.beneficiary e) = some b ∧ b.status = .active)
    (hkey : db.idempotencyRecords.find? (resolveTriple e.id key) = none)
    (hfresh : c.oracle.FreshFor (12 + 10 * db.overdraftLoans.rows.length) db)
    (hd : s.draws = 1) (hdb : s.db = { db with
      idempotencyRecords := db.idempotencyRecords.push
        (SqlIdempotencyRepository.processing (resolveTriple e.id key) f now) }) :
    Resolvable c (12 + 10 * db.overdraftLoans.rows.length) db s e := by
  refine ⟨⟨d, hinv⟩, hlinks, hsole, he, hst, hactive, ⟨_, hdb⟩, ?_,
    settlementKeys_free hinv hlinks he hst hkey hdb, ?_, by omega⟩
  · have hS := hinv.serviceable
    rw [hdb]
    refine ⟨hS.active, hS.users, hS.solvent, hS.pools, hS.loans, fun r hr hend => ?_⟩
    rcases (Table.mem_push hkey).1 hr with hr | rfl
    · exact hS.lienKeys r hr hend
    · exact absurd hend (Standing.lien_not_answerable (resolveTriple_answerable (c := c) e.id key f now))
  · refine (hfresh.begin hinv).congr ?_ ?_ ?_ ?_ ?_ ?_ ?_ ?_
    · rw [hd]
      exact Nat.zero_le _
    all_goals rw [hdb]; rfl

/-- The note and the request id of a decision that was carried out fit the transfer's row. -/
theorem SafePayService.fits_of_resolveOnce {decision : Decision} {note : String}
    {ban : Bool} {req : Option String} {now : Time} {x : Ulid × Body} {s' : Session}
    (he : e ∈ db.safepayEscrows.rows)
    (hdb : ∃ records, s.db = { db with idempotencyRecords := records })
    (hkeys : ∀ u kind toStatus, s.db.idempotencyRecords.find? ⟨u, HoldingService.legEndpoint kind,
      HoldingService.settlementKey e.holdTransferId toStatus⟩ = none)
    (hok : resolveOnce c e.id decision note ban req now s = .ok x s') :
    fits 200 note = true ∧ fits? 64 req = true := by
  obtain ⟨found, s₁, h₁, hok⟩ := bind_ok.1 hok
  obtain ⟨rfl, rfl⟩ := readDb_ok.1 h₁
  obtain ⟨e', s₂, h₂, hok⟩ := bind_ok.1 hok
  obtain ⟨he', rfl⟩ := orRaise_ok.1 h₂
  obtain ⟨_, s₃, h₃, hok⟩ := bind_ok.1 hok
  obtain ⟨-, rfl⟩ := ensure_ok.1 h₃
  obtain rfl : e = e' := by
    obtain ⟨records, hdb⟩ := hdb
    rw [hdb] at he'
    exact Option.some.inj ((Table.find?_of_mem he).symm.trans he')
  cases decision with
  | release =>
    obtain ⟨body, s₄, h₄, -⟩ := bind_ok.1 hok
    obtain ⟨found, s₅, h₅, h₄⟩ := bind_ok.1 h₄
    obtain ⟨rfl, rfl⟩ := readDb_ok.1 h₅
    obtain ⟨hold, s₆, h₆, h₄⟩ := bind_ok.1 h₄
    obtain ⟨hf, rfl⟩ := orRaise_ok.1 h₆
    obtain ⟨receiver, s₇, h₇, h₄⟩ := bind_ok.1 h₄
    obtain ⟨-, rfl⟩ := orRaise_ok.1 h₇
    obtain ⟨r, s₈, h₈, -⟩ := bind_ok.1 h₄
    have hid : hold.id = e.holdTransferId := Table.key_of_find? hf
    obtain ⟨hnote, hreq, -⟩ := HoldingService.settle_facts hdb (hid ▸ hkeys _ _ _) h₈
    exact ⟨hnote, hreq⟩
  | refund =>
    obtain ⟨body, s₄, h₄, -⟩ := bind_ok.1 hok
    obtain ⟨found, s₅, h₅, h₄⟩ := bind_ok.1 h₄
    obtain ⟨rfl, rfl⟩ := readDb_ok.1 h₅
    obtain ⟨hold, s₆, h₆, h₄⟩ := bind_ok.1 h₄
    obtain ⟨hf, rfl⟩ := orRaise_ok.1 h₆
    obtain ⟨r, s₈, h₈, -⟩ := bind_ok.1 h₄
    have hid : hold.id = e.holdTransferId := Table.key_of_find? hf
    obtain ⟨hnote, hreq, -⟩ := HoldingService.settle_facts hdb (hid ▸ hkeys _ _ _) h₈
    exact ⟨hnote, hreq⟩

end Command

/-- In every reachable state, a decision on a disputed escrow between active accounts is carried
    out exactly when its note fits the note of a transfer, 200 characters, and the request id its
    column: whatever the decision, under every unused key, with fresh identifiers. -/
theorem dispute_resolved_iff_note_fits (d : Deployment) (now : Time) (calls : List Call) :
    let db := serveAll d calls (migrated now)
    ∀ e ∈ db.safepayEscrows.rows, e.status = .disputed →
      ∀ buyer seller, SqlAccountRepository.ofUser db e.buyerUserId = some buyer →
        SqlAccountRepository.ofUser db e.sellerUserId = some seller → buyer.status = .active →
        seller.status = .active →
        ∀ (o : Oracle) (decision : Decision) (note : String) (ban : Bool) (key : String)
          (req : Option String), 10 ≤ note.length → note.length ≤ 500 → key.length ≤ 128 →
          db.idempotencyRecords.find? (resolveTriple e.id key) = none →
          o.FreshFor (12 + 10 * db.overdraftLoans.rows.length) db →
          ((∃ body s', handle (d.ctx o) (.resolveSafepay e.id decision note ban key req) (begin db) =
              .ok (.ok (.body body)) s' ∧ CarriedOut (d.ctx o) db s'.db e decision note) ↔
            note.length ≤ 200 ∧ fits? 64 req = true) := by
  intro db e he hst buyer seller hbuyer hseller hbactive hsactive o decision note ban key req _ hlong
    hkeylen hkey hfresh
  have hinv : db.Inv d := serveAll_inv d now calls
  have hlinks := serveAll_links d now calls
  have hsole := (serveAll_directory d now calls).accounts
  have hactive : ∀ decision : Decision, ∃ b,
      SqlAccountRepository.ofUser db (decision.beneficiary e) = some b ∧ b.status = .active := by
    intro decision
    cases decision with
    | release => exact ⟨seller, hseller, hsactive⟩
    | refund => exact ⟨buyer, hbuyer, hbactive⟩
  constructor
  · rintro ⟨body, s', hok, -⟩
    rw [handle] at hok
    obtain ⟨r, s₁, h₁, -⟩ := bind_ok.1 hok
    unfold resolveDispute stateCommand at h₁
    obtain ⟨t, s₂, e₂, h₂⟩ := shell_first hkey h₁
    obtain ⟨x, s₃, h₃, -⟩ := bind_ok.1 h₂
    have hkeys := settlementKeys_free hinv hlinks he hst hkey e₂
    obtain ⟨hnote, hreq⟩ := fits_of_resolveOnce he ⟨_, e₂⟩ hkeys h₃
    exact ⟨of_decide_eq_true hnote, hreq⟩
  · rintro ⟨hnote, hreq⟩
    have hresolve : Returns (resolveDispute (d.ctx o) e.id decision note ban key req) (begin db)
        fun _ s' => CarriedOut (d.ctx o) db s'.db e decision note := by
      refine stateCommand_returns (s := begin db)
        (Q := fun db' => CarriedOut (d.ctx o) db db' e decision note)
        ⟨fits_resolveTriple e.id key, decide_eq_true hkeylen⟩ hkey ?_ ?_
      · intro t s₁ hd₁ e₁
        exact resolveOnce_returns (resolvable hinv hlinks hsole he hst hactive hkey hfresh hd₁ e₁)
          decision ban t (decide_eq_true hnote) (decide_eq_true hlong) hreq
      · intro db' records h
        exact ⟨h.paid, h.recorded⟩
    obtain ⟨body, s', hok, hcarried⟩ := hresolve
    refine ⟨body, s', ?_, hcarried⟩
    rw [handle, bind_of_ok hok]
    rfl

namespace Sample

/-- An order of the first user from the second, frozen by a dispute. -/
def disputed : List Call :=
  [register 1 "01711111111", register 2 "01722222222",
    call 3 (.createSafepay (id 1 1) "1234" "01722222222" (.fromMinor 5000) none "a" none),
    call 4 (.disputeSafepay (id 1 1) (id 3 2) "never sent" "b" none)]

def isActive : Option AccountRow → Bool
  | none => false
  | some a => a.status == .active

/-- The order can be decided in the next call, under the key `"decision"`. -/
def awaitsDecision (db : Database) (e : EscrowRow) : Bool :=
  e.status == .disputed && isActive (SqlAccountRepository.ofUser db e.buyerUserId) &&
    isActive (SqlAccountRepository.ofUser db e.sellerUserId) &&
    (db.idempotencyRecords.find? (resolveTriple e.id "decision")).isNone &&
    db.overdraftLoans.rows.length == 0 && before 20 db

/-- A note that the schema admits and the transfer's row does not. -/
def longNote : String := String.ofList (List.replicate 201 'x')

theorem length_longNote : longNote.length = 201 := by
  unfold longNote
  rw [String.length_ofList, List.length_replicate]

/-- The decision to release the order, with this note. -/
def release (note : String) (e : EscrowRow) : Request :=
  .resolveSafepay e.id .release note false "decision" (some "r1")

theorem of_isActive {o : Option AccountRow} (h : isActive o = true) :
    ∃ a, o = some a ∧ a.status = .active := by
  cases o with
  | none => cases h
  | some a => exact ⟨a, rfl, beq_iff_eq.1 h⟩

theorem disputed_awaits : (serveAll deployment disputed (migrated start)).safepayEscrows.rows.any
    (awaitsDecision (serveAll deployment disputed (migrated start))) = true := by
  decide +kernel

theorem disputed_longNote :
    (serveAll deployment disputed (migrated start)).safepayEscrows.rows.all (fun e =>
      !(handle (deployment.ctx (oracle 20 start)) (release longNote e)
        (begin (serveAll deployment disputed (migrated start)))).succeeded) = true := by
  decide +kernel

/-- What `awaitsDecision` checks. -/
theorem of_awaitsDecision {db : Database} (h : db.safepayEscrows.rows.any (awaitsDecision db) = true) :
    ∃ e ∈ db.safepayEscrows.rows, e.status = .disputed ∧ ∃ buyer seller,
      SqlAccountRepository.ofUser db e.buyerUserId = some buyer ∧
      SqlAccountRepository.ofUser db e.sellerUserId = some seller ∧ buyer.status = .active ∧
      seller.status = .active ∧
      db.idempotencyRecords.find? (resolveTriple e.id "decision") = none ∧
      (oracle 20 start).FreshFor (12 + 10 * db.overdraftLoans.rows.length) db := by
  obtain ⟨e, he, hcheck⟩ := List.any_eq_true.1 h
  simp only [awaitsDecision, Bool.and_eq_true] at hcheck
  obtain ⟨⟨⟨⟨⟨hst, hbuyer⟩, hseller⟩, hkey⟩, hloans⟩, hbefore⟩ := hcheck
  obtain ⟨buyer, hb, hbactive⟩ := of_isActive hbuyer
  obtain ⟨seller, hs, hsactive⟩ := of_isActive hseller
  refine ⟨e, he, beq_iff_eq.1 hst, buyer, seller, hb, hs, hbactive, hsactive,
    Option.isNone_iff_eq_none.1 hkey, ?_⟩
  rw [beq_iff_eq.1 hloans]
  exact freshFor (by decide) (by decide) hbefore

end Sample

/-- A decision with a short note is carried out. -/
theorem short_note_is_carried_out :
    let db := serveAll Sample.deployment Sample.disputed (migrated Sample.start)
    let c := Sample.deployment.ctx (Sample.oracle 20 Sample.start)
    ∃ e ∈ db.safepayEscrows.rows, e.status = .disputed ∧ ∃ body s',
      handle c (Sample.release "The parcel arrived." e) (begin db) = .ok (.ok (.body body)) s' ∧
        CarriedOut c db s'.db e .release "The parcel arrived." := by
  have hresolved := dispute_resolved_iff_note_fits Sample.deployment Sample.start Sample.disputed
  have hawaits := Sample.disputed_awaits
  generalize serveAll Sample.deployment Sample.disputed (migrated Sample.start) = db at *
  obtain ⟨e, he, hst, buyer, seller, hb, hs, hbactive, hsactive, hkey, hfresh⟩ :=
    Sample.of_awaitsDecision hawaits
  refine ⟨e, he, hst, ?_⟩
  exact (hresolved e he hst buyer seller hb hs hbactive hsactive _ .release "The parcel arrived." false
    "decision" (some "r1") (by decide) (by decide) (by decide) hkey hfresh).2 ⟨by decide, by decide⟩

/-- The same decision with a note of 201 characters is not. -/
theorem long_note_is_refused :
    let db := serveAll Sample.deployment Sample.disputed (migrated Sample.start)
    let c := Sample.deployment.ctx (Sample.oracle 20 Sample.start)
    10 ≤ Sample.longNote.length ∧ Sample.longNote.length ≤ 500 ∧
    ∃ e ∈ db.safepayEscrows.rows, e.status = .disputed ∧ (∃ buyer seller,
      SqlAccountRepository.ofUser db e.buyerUserId = some buyer ∧
      SqlAccountRepository.ofUser db e.sellerUserId = some seller ∧ buyer.status = .active ∧
      seller.status = .active) ∧
      db.idempotencyRecords.find? (resolveTriple e.id "decision") = none ∧
      (Sample.oracle 20 Sample.start).FreshFor (12 + 10 * db.overdraftLoans.rows.length) db ∧
      ¬∃ body s', handle c (Sample.release Sample.longNote e) (begin db) = .ok (.ok (.body body)) s' ∧
        CarriedOut c db s'.db e .release Sample.longNote := by
  have hawaits := Sample.disputed_awaits
  have hrefused := Sample.disputed_longNote
  generalize serveAll Sample.deployment Sample.disputed (migrated Sample.start) = db at *
  obtain ⟨e, he, hst, buyer, seller, hb, hs, hbactive, hsactive, hkey, hfresh⟩ :=
    Sample.of_awaitsDecision hawaits
  have hlen := Sample.length_longNote
  refine ⟨by omega, by omega, e, he, hst, ⟨buyer, seller, hb, hs, hbactive, hsactive⟩, hkey, hfresh, ?_⟩
  rintro ⟨body, s', hok, -⟩
  have hfailed := List.all_eq_true.1 hrefused e he
  rw [hok] at hfailed
  cases hfailed

end MoneyMovement

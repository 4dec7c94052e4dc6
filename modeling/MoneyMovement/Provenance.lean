/-
  MoneyMovement/Provenance.lean
  =============================
  **Where every idempotency record comes from.**

  A key is reserved, and completed before the transaction ends: `Reserved` is
  that bracket, `Journalled` the one-to-one correspondence between executions
  of the transfer use case and the rows they leave.

  A completed record either answers a request of a route, or replays a transfer
  that one of the services issued (`Issued`), with that command's triple and
  fingerprint.  Since the services use disjoint endpoints, the endpoint of a
  record tells what its transfer is.  That is why no caller can be led to write
  as if money had just moved: a `Stray` replay would have to be of a transfer
  whose own row is already in place.
-/
import MoneyMovement.Lending

namespace MoneyMovement

open OverdraftService

/-! ### Reservations -/

/-- The keys a transaction has reserved are its own, and every other record is complete. -/
structure Reserved (rs : List IdempotencyRow) (records : Table IdempotencyRow.triple) : Prop where
  nodup : (rs.map IdempotencyRow.triple).Nodup
  found : ∀ r ∈ rs, records.find? r.triple = some r
  settled : ∀ r ∈ records.rows, r ∈ rs ∨ r.status = .completed

namespace Reserved

variable {rs : List IdempotencyRow} {records : Table IdempotencyRow.triple} {row : IdempotencyRow}

theorem migrated_reserved (now : Time) : Reserved [] (migrated now).idempotencyRecords where
  nodup := List.nodup_nil
  found _ h := by cases h
  settled _ h := by cases h

theorem reserve (h : Reserved rs records) (hf : records.find? row.triple = none) :
    Reserved (row :: rs) (records.push row) := by
  refine ⟨?_, ?_, ?_⟩
  · rw [List.map_cons, List.nodup_cons]
    refine ⟨?_, h.nodup⟩
    intro hmem
    obtain ⟨r, hr, he⟩ := List.mem_map.1 hmem
    have hr' := h.found r hr
    rw [he, hf] at hr'
    cases hr'
  · intro r hr
    rcases List.mem_cons.1 hr with rfl | hr
    · exact Table.find?_push_self hf
    · exact Table.find?_push_of_some (h.found r hr)
  · intro r hr
    rcases (Table.mem_push hf).1 hr with hr | rfl
    · exact (h.settled r hr).imp_left (List.mem_cons_of_mem _)
    · exact .inl List.mem_cons_self

theorem complete (h : Reserved (row :: rs) records) (resourceId : Ulid) (httpStatus : Nat)
    (body : Body) (now : Time) :
    Reserved rs (records.modifyAt row.triple
      (SqlIdempotencyRepository.completedRow resourceId httpStatus body now)
      (SqlIdempotencyRepository.triple_completedRow resourceId httpStatus body now)) := by
  have hnodup := h.nodup
  rw [List.map_cons, List.nodup_cons] at hnodup
  have hrow := h.found row List.mem_cons_self
  refine ⟨hnodup.2, ?_, ?_⟩
  · intro r hr
    have hne : r.triple ≠ row.triple := fun he => hnodup.1 (he ▸ List.mem_map_of_mem hr)
    rw [Table.find?_modifyAt, if_neg hne]
    exact h.found r (List.mem_cons_of_mem _ hr)
  · intro r hr
    rcases Table.mem_of_mem_modifyAt hrow hr with ⟨hr, hne⟩ | rfl
    · rcases h.settled r hr with hr' | hr'
      · rcases List.mem_cons.1 hr' with rfl | hr'
        · exact absurd rfl hne
        · exact .inl hr'
      · exact .inr hr'
    · exact .inr rfl

theorem step {c : Ctx} {L : Licence} {k k' : Config} (hs : Step c L k k')
    (h : Reserved k.progress.reserved k.db.idempotencyRecords) :
    Reserved k'.progress.reserved k'.db.idempotencyRecords := by
  cases hs
  case reserve hf => exact h.reserve hf
  case answer row resourceId httpStatus body now _ => exact h.complete resourceId httpStatus body now
  case post hv _ => exact h.reserve hv.key_fresh
  case repay hv _ => exact h.reserve hv.key_fresh
  case finish p _ _ => exact h.complete p.transferId 201 p.result.toResponse p.now
  all_goals exact h

end Reserved

/-- A completed record stays as it is. -/
theorem Step.record_kept {c : Ctx} {L : Licence} {k k' : Config} (hs : Step c L k k')
    (h : Reserved k.progress.reserved k.db.idempotencyRecords)
    (hp : ∀ r ∈ k.progress.reserved, r.status = .processing) {triple : IdempotencyTriple}
    {r : IdempotencyRow} (hf : k.db.idempotencyRecords.find? triple = some r)
    (hr : r.status = .completed) : k'.db.idempotencyRecords.find? triple = some r := by
  have hmodify : ∀ (row : IdempotencyRow) (resourceId : Ulid) (httpStatus : Nat) (body : Body)
      (now : Time), row ∈ k.progress.reserved →
      (k.db.idempotencyRecords.modifyAt row.triple
        (SqlIdempotencyRepository.completedRow resourceId httpStatus body now)
        (SqlIdempotencyRepository.triple_completedRow _ _ _ _)).find? triple = some r := by
    intro row _ _ _ _ hrow
    rw [Table.find?_modifyAt, if_neg ?_]
    · exact hf
    · rintro rfl
      obtain rfl := Option.some.inj ((h.found row hrow).symm.trans hf)
      rw [hp _ hrow] at hr
      cases hr
  cases hs
  case reserve => exact Table.find?_push_of_some hf
  case answer row _ _ _ _ _ => exact hmodify row _ _ _ _ List.mem_cons_self
  case post => exact Table.find?_push_of_some hf
  case repay => exact Table.find?_push_of_some hf
  case finish p _ _ => exact hmodify p.reservation _ _ _ _ List.mem_cons_self
  all_goals exact hf

/-- What a transaction has reserved is not yet complete. -/
theorem Step.reserved_processing {c : Ctx} {L : Licence} {k k' : Config} (hs : Step c L k k')
    (hp : ∀ r ∈ k.progress.reserved, r.status = .processing) :
    ∀ r ∈ k'.progress.reserved, r.status = .processing := by
  have hcons : ∀ row : IdempotencyRow, row.status = .processing →
      ∀ r ∈ row :: k.progress.reserved, r.status = .processing := by
    intro row hrow r hr
    rcases List.mem_cons.1 hr with rfl | hr
    · exact hrow
    · exact hp r hr
  cases hs
  case reserve => exact hcons _ rfl
  case answer => exact fun r hr => hp r (List.mem_cons_of_mem _ hr)
  case post => exact hcons _ rfl
  case repay => exact hcons _ rfl
  case finish => exact fun r hr => hp r (List.mem_cons_of_mem _ hr)
  all_goals exact hp

/-! ### The journal -/

/-- Executions and what they leave correspond one to one, and no two share a triple. -/
structure Journalled (db : Database) : Prop where
  nodup : (db.journal.map Execution.triple).Nodup
  recorded : ∀ x ∈ db.journal, (db.idempotencyRecords.find? x.triple).isSome = true
  transfers : db.transfers.rows.map TransferRow.id = db.journal.map Execution.transferId
  ledger : db.ledgerTransactions.rows.map (fun l => (l.id, l.transferId)) =
    db.journal.map fun x => (x.ledgerTransactionId, x.transferId)
  events : db.transferEvents.map (fun e => (e.id, e.aggregateId)) =
    db.journal.map fun x => (x.eventId, x.transferId)

namespace Journalled

variable {c : Ctx} {db : Database} {p : Posting}

theorem migrated_journalled (now : Time) : Journalled (migrated now) where
  nodup := List.nodup_nil
  recorded _ h := by cases h
  transfers := rfl
  ledger := rfl
  events := rfl

theorem post (h : Journalled db) (hv : p.Valid c db) : Journalled (p.apply db) := by
  refine ⟨?_, ?_, ?_, ?_, ?_⟩
  · show ((db.journal ++ [p.execution]).map Execution.triple).Nodup
    rw [List.map_append, List.nodup_append]
    refine ⟨h.nodup, List.nodup_singleton _, ?_⟩
    intro a ha b hb
    obtain ⟨x, hx, rfl⟩ := List.mem_map.1 ha
    obtain rfl := List.mem_singleton.1 hb
    intro he
    have hfound := h.recorded x hx
    have hfresh : db.idempotencyRecords.find? x.triple = none := he ▸ hv.key_fresh
    rw [hfresh] at hfound
    cases hfound
  · intro x hx
    show ((db.idempotencyRecords.push p.reservation).find? x.triple).isSome = true
    rcases List.mem_append.1 hx with hx | hx
    · obtain ⟨r, hr⟩ := Option.isSome_iff_exists.1 (h.recorded x hx)
      rw [Table.find?_push_of_some hr]
      rfl
    · obtain rfl := List.mem_singleton.1 hx
      have hself : (db.idempotencyRecords.push p.reservation).find? p.execution.triple =
          some p.reservation := Table.find?_push_self hv.key_fresh
      rw [hself]
      rfl
  · show (db.transfers.push p.row).rows.map _ = (db.journal ++ [p.execution]).map _
    rw [Table.rows_push hv.transfer_fresh, List.map_append, List.map_append, h.transfers]
    rfl
  · show (db.ledgerTransactions.push p.ledgerTransaction).rows.map _ =
      (db.journal ++ [p.execution]).map _
    rw [Table.rows_push hv.ledger_fresh, List.map_append, List.map_append, h.ledger]
    rfl
  · show ((db.outboxEvents.push p.event).rows.filter _).map _ = (db.journal ++ [p.execution]).map _
    rw [Table.rows_push hv.event_fresh, List.filter_append, List.map_append, List.map_append]
    congr 1
    exact h.events

theorem complete (h : Journalled db) (triple : IdempotencyTriple)
    (f : IdempotencyRow → IdempotencyRow) (hf : ∀ r, (f r).triple = r.triple) :
    Journalled { db with idempotencyRecords := db.idempotencyRecords.modifyAt triple f hf } := by
  refine { h with recorded := ?_ }
  intro x hx
  dsimp only
  exact Table.isSome_modifyAt (h.recorded x hx)

theorem step {L : Licence} {k k' : Config} (hs : Step c L k k') (h : Journalled k.db) :
    Journalled k'.db := by
  cases hs
  case quiet he _ _ => exact { h with events := (congrArg _ he.transferEvents).trans h.events }
  case reserve =>
    refine { h with recorded := ?_ }
    intro x hx
    obtain ⟨r, hr⟩ := Option.isSome_iff_exists.1 (h.recorded x hx)
    dsimp only
    rw [Table.find?_push_of_some hr]
    rfl
  case answer => exact h.complete _ _ _
  case post hv _ => exact h.post hv
  case repay hv _ => exact h.post hv
  case finish => exact h.complete _ _ _
  case latch =>
    refine { h with transfers := ?_ }
    dsimp only
    rw [Table.modifyAt, Table.keys_update]
    exact h.transfers
  all_goals exact { h with }

end Journalled

/-! ### Endpoints -/

/-- A text that starts with `a` is not one that starts otherwise. -/
theorem append_ne_of_take {a b : String} (h : b.toList.take a.toList.length ≠ a.toList)
    (x : String) : a ++ x ≠ b := by
  rintro rfl
  apply h
  rw [String.toList_append, List.take_left]

theorem settlementKey_inj {h h' : Ulid} {s s' : TransferStatus}
    (he : HoldingService.settlementKey h s = HoldingService.settlementKey h' s') : h = h' := by
  simp only [HoldingService.settlementKey, String.append_assoc] at he
  exact (Ulid.text_append_inj ((String.append_right_inj _).1 he)).1

/-! ### Commands of the services -/

/-- The transfer commands the services issue, under the deployment's cryptography. -/
inductive Issued (y : Crypto) (cmd : TransferCommand) : Prop where
  | grant (c : Ctx) (hy : c.crypto = y) {u account : Ulid} {amount : Money} {req : Option String}
      (hc : cmd = OpenAccountUseCase.grantCommand c u account amount req)
  | fund (c : Ctx) {u account poolId poolAccountId : Ulid} {amount : Money}
      {key note endpoint : String} {req : Option String}
      (hc : cmd = fundCommand c u account poolId poolAccountId amount key note req endpoint)
      (he : endpoint = "INTERNAL:/overdraft/fund" ∨
        endpoint = "POST:/api/v1/overdraft/pools/" ++ poolId.text ++ "/fund")
  | undoHold (hk : cmd.kind = .undoHold)
      (he : cmd.idempotencyEndpoint = UndoableTransferService.UNDO_HOLD_ENDPOINT)
  | escrowHold (hk : cmd.kind = .escrowHold) (he : cmd.idempotencyEndpoint = SAFEPAY_HOLD_ENDPOINT)
  | draw (hk : cmd.kind = .overdraftDraw) (he : cmd.idempotencyEndpoint = DRAW_ENDPOINT)
  | request (c : Ctx) (hy : c.crypto = y) {record : MoneyRequestRow} {u : Ulid} {key : String}
      {req : Option String} (hc : cmd = MoneyRequestService.payCommand c record u key req)
  | leg (c : Ctx) {hold account holding u : Ulid} {toStatus : TransferStatus} {amount : Money}
      {kind : TransferKind} {note req : Option String} (hk : kind.isSettlementLeg = true)
      (hc : cmd = HoldingService.legCommand c hold toStatus account holding amount kind u note req)
  | lien (hk : cmd.kind = .overdraftRepay) (he : cmd.idempotencyEndpoint = LIEN_ENDPOINT)

theorem undoLegKind_isSettlementLeg (s : TransferStatus) : (undoLegKind s).isSettlementLeg = true := by
  cases s <;> rfl

theorem escrowLegKind_isSettlementLeg (s : TransferStatus) :
    (escrowLegKind s).isSettlementLeg = true := by
  cases s <;> rfl

theorem Warrant.issued {c : Ctx} {db : Database} {p : Posting} {d d' : Duty}
    (h : Warrant c db p d d') : Issued c.crypto p.cmd := by
  cases h with
  | grant hc _ => exact .grant c rfl hc
  | fund hc he _ _ => exact .fund c hc he
  | undoHold hc _ _ => exact .undoHold (hc ▸ rfl) (hc ▸ rfl)
  | escrowHold hc _ _ => exact .escrowHold (hc ▸ rfl) (hc ▸ rfl)
  | draw hc => exact .draw (hc ▸ rfl) (hc ▸ rfl)
  | request hc _ _ => exact .request c rfl hc
  | undoLeg hc _ _ => exact .leg c (undoLegKind_isSettlementLeg _) hc
  | escrowLeg hc _ _ _ _ => exact .leg c (escrowLegKind_isSettlementLeg _) hc

/-- The kind that belongs to an internal endpoint of fixed text. -/
def internalKind (endpoint : String) : Option TransferKind :=
  if endpoint = DRAW_ENDPOINT then some .overdraftDraw
  else if endpoint = LIEN_ENDPOINT then some .overdraftRepay
  else if endpoint = SAFEPAY_HOLD_ENDPOINT then some .escrowHold
  else none

theorem internalKind_transfers : internalKind TRANSFER_ENDPOINT = none := by decide

theorem internalKind_fund : internalKind "INTERNAL:/overdraft/fund" = none := by decide

theorem internalKind_undoHold :
    internalKind UndoableTransferService.UNDO_HOLD_ENDPOINT = none := by decide

theorem internalKind_pool (x : String) :
    internalKind ("POST:/api/v1/overdraft/pools/" ++ x) = none := by
  rw [internalKind, if_neg (append_ne_of_take (by decide) x), if_neg (append_ne_of_take (by decide) x),
    if_neg (append_ne_of_take (by decide) x)]

theorem internalKind_holds (x : String) : internalKind ("INTERNAL:/holds/" ++ x) = none := by
  rw [internalKind, if_neg (append_ne_of_take (by decide) x), if_neg (append_ne_of_take (by decide) x),
    if_neg (append_ne_of_take (by decide) x)]

namespace Issued

variable {y : Crypto} {cmd : TransferCommand}

/-- The internal endpoints of draws, repayments and escrow holds are used for nothing else. -/
theorem kind_of_internal (h : Issued y cmd) {kind : TransferKind}
    (hk : internalKind cmd.idempotencyEndpoint = some kind) : cmd.kind = kind := by
  cases h with
  | grant c _ hc | request c _ hc =>
    subst hc
    cases internalKind_transfers.symm.trans hk
  | fund c hc he =>
    subst hc
    rcases he with rfl | rfl
    · cases internalKind_fund.symm.trans hk
    · rw [fundCommand, String.append_assoc, internalKind_pool] at hk
      cases hk
  | undoHold _ he =>
    rw [he, internalKind_undoHold] at hk
    cases hk
  | escrowHold hkind he | draw hkind he | lien hkind he =>
    rw [he] at hk
    rw [hkind]
    exact Option.some.inj hk
  | leg c _ hc =>
    subst hc
    cases (internalKind_holds _).symm.trans hk

/-- A settlement key names the hold it settles. -/
theorem parent_of_settlement (h : Issued y cmd) {hold : Ulid} {toStatus : TransferStatus}
    {kind : TransferKind} (he : cmd.idempotencyEndpoint = HoldingService.legEndpoint kind)
    (hkey : cmd.idempotencyKey = HoldingService.settlementKey hold toStatus) :
    cmd.parentTransferId = some hold := by
  have hleg : ∀ x : String, x.toList.take "INTERNAL:/holds/".toList.length ≠
      "INTERNAL:/holds/".toList → x ≠ HoldingService.legEndpoint kind := by
    intro x hx hx'
    exact append_ne_of_take hx _ hx'.symm
  cases h with
  | grant c _ hc | request c _ hc =>
    subst hc
    exact absurd he (hleg TRANSFER_ENDPOINT (by decide))
  | fund c hc hend =>
    subst hc
    rcases hend with rfl | rfl
    · exact absurd he (hleg "INTERNAL:/overdraft/fund" (by decide))
    · refine absurd he (hleg _ ?_)
      rw [fundCommand, String.append_assoc, String.toList_append,
        List.take_append_of_le_length (by decide)]
      decide
  | undoHold _ hend | escrowHold _ hend | draw _ hend | lien _ hend =>
    rw [hend] at he
    exact absurd he (hleg _ (by decide))
  | leg c _ hc =>
    subst hc
    rw [settlementKey_inj hkey.symm]
    rfl

/-- On the public transfers endpoint the services pay requests and grant welcome bonuses. -/
theorem of_transfers (h : Issued y cmd) (he : cmd.idempotencyEndpoint = TRANSFER_ENDPOINT) :
    (∃ c : Ctx, c.crypto = y ∧ ∃ u account amount req,
      cmd = OpenAccountUseCase.grantCommand c u account amount req) ∨ cmd.kind = .requestSettlement := by
  cases h with
  | grant c hy hc => exact .inl ⟨c, hy, _, _, _, _, hc⟩
  | request c _ hc =>
    subst hc
    exact .inr rfl
  | fund c hc hend =>
    subst hc
    rcases hend with rfl | rfl
    · have hne : "INTERNAL:/overdraft/fund" ≠ TRANSFER_ENDPOINT := by decide
      exact absurd he hne
    · rw [fundCommand, String.append_assoc] at he
      exact absurd he (append_ne_of_take (by decide) _)
  | undoHold _ hend | escrowHold _ hend | draw _ hend | lien _ hend =>
    rw [hend] at he
    exact absurd he (by decide)
  | leg c _ hc =>
    subst hc
    exact absurd he (append_ne_of_take (by decide) _)

/-- A welcome bonus is keyed by its user. -/
theorem grant_triple (h : Issued y cmd) (hk : cmd.kind = .signupGrant) :
    cmd.triple = ⟨cmd.actorUserId, TRANSFER_ENDPOINT, "signup-grant:" ++ cmd.actorUserId.text⟩ := by
  cases h with
  | grant c _ hc =>
    subst hc
    rfl
  | fund c hc _ | request c _ hc =>
    subst hc
    cases hk
  | undoHold hkind _ | escrowHold hkind _ | draw hkind _ | lien hkind _ =>
    rw [hkind] at hk
    cases hk
  | leg c hleg hc =>
    subst hc
    cases hk
    cases hleg

end Issued

/-! ### Records -/

/-- The transfer is one the command created, in whatever status it is now. -/
def TransferRow.CreatedBy (t : TransferRow) (cmd : TransferCommand) : Prop :=
  ∃ id reference now, (TransferUseCase.transferRow cmd id reference now).SameMovement t

namespace TransferRow

variable {t t' : TransferRow} {cmd : TransferCommand}

theorem CreatedBy.mono (h : t.CreatedBy cmd) (hs : t.SameMovement t') : t'.CreatedBy cmd := by
  obtain ⟨id, reference, now, h⟩ := h
  exact ⟨id, reference, now, h.trans hs⟩

theorem CreatedBy.kind (h : t.CreatedBy cmd) : t.kind = cmd.kind := by
  obtain ⟨_, _, _, _, _, rfl⟩ := h
  rfl

theorem CreatedBy.parent (h : t.CreatedBy cmd) : t.parentTransferId = cmd.parentTransferId := by
  obtain ⟨_, _, _, _, _, rfl⟩ := h
  rfl

theorem CreatedBy.initiator (h : t.CreatedBy cmd) : t.initiatedByUserId = some cmd.actorUserId := by
  obtain ⟨_, _, _, _, _, rfl⟩ := h
  rfl

end TransferRow

theorem Posting.row_createdBy (p : Posting) : p.row.CreatedBy p.cmd := ⟨p.transferId, p.reference, p.now, .refl _⟩

/-- A record that a route answers with a body of its own. -/
def Answered (y : Crypto) (r : IdempotencyRow) : Prop := ∃ c : Ctx, c.crypto = y ∧ Answerable c r

/-- A record of `cmd` that replays the transfer `t`. -/
structure Replayable (y : Crypto) (db : Database) (r : IdempotencyRow) (cmd : TransferCommand)
    (t : TransferRow) : Prop where
  issued : Issued y cmd
  triple : r.triple = cmd.triple
  fingerprint : r.requestFingerprint = cmd.requestFingerprint
  answers : r.transferId? = some t.id
  found : db.transfers.find? t.id = some t
  created : t.CreatedBy cmd

/-- An execution of `cmd` that made the transfer `t`. -/
structure Journals (y : Crypto) (db : Database) (x : Execution) (cmd : TransferCommand)
    (t : TransferRow) : Prop where
  issued : Issued y cmd
  triple : x.triple = cmd.triple
  transfer : x.transferId = t.id
  found : db.transfers.find? t.id = some t
  created : t.CreatedBy cmd

structure Proven (y : Crypto) (db : Database) : Prop where
  records : ∀ r ∈ db.idempotencyRecords.rows, r.status = .completed →
    Answered y r ∨ ∃ cmd t, Replayable y db r cmd t
  executions : ∀ x ∈ db.journal, ∃ cmd t, Journals y db x cmd t

theorem transferId?_completedRow (p : Posting) (r : IdempotencyRow) :
    (SqlIdempotencyRepository.completedRow p.transferId 201 p.result.toResponse p.now r).transferId? =
      some p.transferId := by
  show ((some p.transferId.text).bind Ulid.ofText?).or _ = _
  rw [Option.bind_some, Ulid.ofText?_text]
  rfl

namespace Proven

variable {y : Crypto} {db db' : Database}

theorem migrated_proven (y : Crypto) (now : Time) : Proven y (migrated now) where
  records _ h := by cases h
  executions _ h := by cases h

theorem replayable_mono (hg : db.Grows db') {r : IdempotencyRow}
    (h : ∃ cmd t, Replayable y db r cmd t) : ∃ cmd t, Replayable y db' r cmd t := by
  obtain ⟨cmd, t, h⟩ := h
  obtain ⟨t', hf, hsame⟩ := hg.transfer _ _ h.found
  exact ⟨cmd, t', h.issued, h.triple, h.fingerprint, hsame.id ▸ h.answers, hsame.id ▸ hf,
    h.created.mono hsame⟩

theorem journals_mono (hg : db.Grows db') {x : Execution} (h : ∃ cmd t, Journals y db x cmd t) :
    ∃ cmd t, Journals y db' x cmd t := by
  obtain ⟨cmd, t, h⟩ := h
  obtain ⟨t', hf, hsame⟩ := hg.transfer _ _ h.found
  exact ⟨cmd, t', h.issued, h.triple, hsame.id ▸ h.transfer, hsame.id ▸ hf, h.created.mono hsame⟩

/-- Records come and are completed; what is known of the others stays known. -/
theorem of_records (h : Proven y db) (hg : db.Grows db') (hj : db'.journal = db.journal)
    (hr : ∀ r ∈ db'.idempotencyRecords.rows, r ∈ db.idempotencyRecords.rows ∨
      r.status = .processing ∨ Answered y r ∨ ∃ cmd t, Replayable y db' r cmd t) : Proven y db' := by
  refine ⟨?_, ?_⟩
  · intro r hmem hc
    rcases hr r hmem with hmem | hp | hp
    · exact (h.records r hmem hc).imp_right (replayable_mono hg)
    · rw [hp] at hc
      cases hc
    · exact hp
  · intro x hx
    rw [hj] at hx
    exact journals_mono hg (h.executions x hx)

theorem post {c : Ctx} {p : Posting} (h : Proven y db) (hv : p.Valid c db) (hi : Issued y p.cmd) :
    Proven y (p.apply db) := by
  refine ⟨?_, ?_⟩
  · intro r hmem hc
    rcases (Table.mem_push hv.key_fresh).1 hmem with hmem | rfl
    · exact (h.records r hmem hc).imp_right (replayable_mono hv.grows)
    · cases hc
  · intro x hx
    rcases List.mem_append.1 hx with hx | hx
    · exact journals_mono hv.grows (h.executions x hx)
    · obtain rfl := List.mem_singleton.1 hx
      exact ⟨p.cmd, p.row, hi, rfl, rfl, Table.find?_push_self hv.transfer_fresh, p.row_createdBy⟩

theorem step {c : Ctx} {L : Licence} {k k' : Config} (hs : Step c L k k') (hL : L.Sound c)
    (hres : Reserved k.progress.reserved k.db.idempotencyRecords) (h : Proven c.crypto k.db) :
    Proven c.crypto k'.db := by
  have hg := hs.grows
  cases hs
  case post hv hl => exact h.post hv (hL.post _ _ _ _ hl).issued
  case repay hv hr => exact h.post hv (.lien hr.kind hr.endpoint)
  case reserve hf =>
    refine h.of_records hg rfl fun r hmem => ?_
    rcases (Table.mem_push hf).1 hmem with hmem | rfl
    · exact .inl hmem
    · exact .inr (.inl rfl)
  case answer row _ _ _ _ hl =>
    refine h.of_records hg rfl fun r hmem => ?_
    dsimp only at hmem
    rcases Table.mem_of_mem_modifyAt (hres.found row List.mem_cons_self) hmem with ⟨hmem, -⟩ | rfl
    · exact .inl hmem
    · have ha : Answerable c row := hL.answer row hl
      exact .inr (.inr (.inl ⟨c, rfl, ha⟩))
  case finish p hrow hp =>
    have hi : Issued c.crypto p.cmd := by
      rcases hp with ⟨-, db₀, d₀, hl⟩ | ⟨-, hk, he, -⟩
      · exact (hL.post _ _ _ _ hl).issued
      · exact .lien hk he
    refine h.of_records hg rfl fun r hmem => ?_
    dsimp only at hmem
    rcases Table.mem_of_mem_modifyAt (hres.found p.reservation List.mem_cons_self) hmem with
      ⟨hmem, -⟩ | rfl
    · exact .inl hmem
    · exact .inr (.inr (.inr ⟨p.cmd, p.row, hi, rfl, rfl, transferId?_completedRow p _, hrow,
        p.row_createdBy⟩))
  all_goals exact h.of_records hg rfl fun _ hmem => .inl hmem

/-! ### No replay goes astray -/

/-- A record of an internal endpoint replays a transfer. -/
theorem replayable_of_internal (h : Proven y db) {triple : IdempotencyTriple} {f : String} {t : Ulid}
    {r : IdempotencyRow} (hr : Replays db triple f t r)
    (he : triple.endpoint.toList.take "POST:/".toList.length ≠ "POST:/".toList) :
    ∃ cmd row, Issued y cmd ∧ cmd.idempotencyEndpoint = triple.endpoint ∧
      cmd.idempotencyKey = triple.key ∧ row.id = t ∧ row ∈ db.transfers.rows ∧ row.CreatedBy cmd := by
  have htriple := Table.key_of_find? hr.found
  rcases h.records r (Table.mem_of_find? hr.found) hr.completed with ⟨c, -, ⟨rest, hpost⟩, -⟩ | hrep
  · rw [htriple] at hpost
    exact absurd hpost.symm (append_ne_of_take he rest)
  · obtain ⟨cmd, row, hrow⟩ := hrep
    have hcmd : cmd.triple = triple := hrow.triple.symm.trans htriple
    exact ⟨cmd, row, hrow.issued, congrArg IdempotencyTriple.endpoint hcmd,
      congrArg IdempotencyTriple.key hcmd, Option.some.inj (hrow.answers.symm.trans hr.answers),
      Table.mem_of_find? hrow.found, hrow.created⟩

/-- On a draw, repayment or escrow endpoint, it replays a transfer of that kind. -/
theorem row_of_internal (h : Proven y db) {triple : IdempotencyTriple} {f : String} {t : Ulid}
    {r : IdempotencyRow} (hr : Replays db triple f t r) {kind : TransferKind}
    (hk : internalKind triple.endpoint = some kind)
    (he : triple.endpoint.toList.take "POST:/".toList.length ≠ "POST:/".toList) :
    ∃ row ∈ db.transfers.rows, row.id = t ∧ row.kind = kind := by
  obtain ⟨cmd, row, hi, hend, -, hid, hmem, hcreated⟩ := h.replayable_of_internal hr he
  exact ⟨row, hmem, hid, hcreated.kind.trans (hi.kind_of_internal (hend ▸ hk))⟩

theorem no_stray {d : Duty} (h : Proven y db) (hlatch : Latches d db.transfers db.safepayEscrows)
    (hlend : Lending d none db.accounts db.transfers db.overdraftPools db.overdraftLoans
      db.overdraftRepayments) : ¬Stray db d := by
  intro hs
  cases hs with
  | lend hr he hn =>
    obtain ⟨row, hmem, rfl, hk⟩ := h.row_of_internal hr (by rw [he]; rfl) (by rw [he]; decide)
    rcases hlend.draws_covered row hmem hk with ⟨l, hl, hid⟩ | hd
    · exact hn l hl hid
    · cases hd
  | openEscrow hr he hn =>
    obtain ⟨row, hmem, rfl, hk⟩ := h.row_of_internal hr (by rw [he]; rfl) (by rw [he]; decide)
    rcases hlatch.covered row hmem hk with ⟨e, he', hid⟩ | hd
    · exact hn e he' hid
    · cases hd
  | repay hr he hn =>
    obtain ⟨row, hmem, rfl, hk⟩ := h.row_of_internal hr (by rw [he]; rfl) (by rw [he]; decide)
    rcases hlend.repays_covered row hmem hk with ⟨x, hx, hid⟩ | ⟨l, hl⟩
    · exact hn x hx hid
    · cases hl
  | pay hr hk he hkey =>
    have hinternal : ∀ x : String, ("INTERNAL:/holds/" ++ x).toList.take "POST:/".toList.length ≠
        "POST:/".toList := by
      intro x
      rw [String.toList_append, List.take_append_of_le_length (by decide)]
      decide
    obtain ⟨cmd, row, hi, hend, hkey', -, hmem, hcreated⟩ :=
      h.replayable_of_internal hr (he ▸ hinternal _)
    have hparent := hi.parent_of_settlement (hend.trans he) (hkey'.trans hkey)
    have hchild : row ∈ childrenOf db.transfers _ :=
      DoubleEntry.mem_entriesOf.2 ⟨hmem, hcreated.parent.trans hparent⟩
    rw [hlatch.due _ _ _ rfl] at hchild
    cases hchild

end Proven

end MoneyMovement

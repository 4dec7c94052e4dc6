/-
  MoneyMovement/UndoSpec.lean
  ===========================
  **What an undo that went through has left.**

  An undo latches the hold and pays it back to its sender, an incoming credit
  like any other: the lien takes its part of it.
-/
import MoneyMovement.SendSpec

namespace MoneyMovement

open Txn UndoableTransferService

/-- The leg that pays a hold back. -/
def refundCommand (c : Ctx) (hold : TransferRow) (u : Ulid) (requestId : Option String) :
    TransferCommand :=
  HoldingService.legCommand c hold.id .refunded hold.senderAccountId PENDING_SETTLEMENT_ACCOUNT_ID
    (.fromMinor hold.amountMinor) .undoRefund u (some "Undone by sender") requestId

/-- The database with the hold latched, under a reserved key. -/
def TransferRow.latchedIn (hold : TransferRow) (c : Ctx) (row : IdempotencyRow) (db : Database) :
    Database :=
  { db with
    transfers := db.transfers.modifyAt hold.id (TransferRow.latched .refunded c.oracle.dbNow)
      (TransferRow.id_latched .refunded c.oracle.dbNow)
    idempotencyRecords := db.idempotencyRecords.push row }

/-- An undo of `hold` by the user `u` that went through, with the refund `p`. -/
structure Undone (c : Ctx) (u : Ulid) (req : Option String) (db db' : Database) (body : Body)
    (hold : TransferRow) (p : Posting) : Prop where
  found : db.transfers.find? hold.id = some hold
  kind : hold.kind = .undoHold
  status : hold.status = .pendingUndo
  owner : db.OwnedBy hold.senderAccountId u
  body_eq : body = undoResponse hold p.result
  runs : ∃ row db₁ tasks records, Invariant c.settings c.crypto
      ⟨⟨.pay hold.id hold.status .refunded, none, [row]⟩, hold.latchedIn c row db⟩ ∧
    Collected c (refundCommand c hold u req) (hold.latchedIn c row db) db₁ p ∧
    db' = { db₁ with scheduledTasks := tasks, idempotencyRecords := records }

section Undo

variable {c : Ctx} {d : Deployment} {s s' : Session} {id u : Ulid} {key : String}
  {req : Option String} {body : Body}

/-- The sender of a hold is a user. -/
theorem Invariant.hold_owner {cfg : Settings} {y : Crypto} {k : Config} (h : Invariant cfg y k)
    {hold : TransferRow} (hm : hold ∈ k.db.transfers.rows) (hk : hold.kind = .undoHold) :
    ∃ v, k.db.OwnedBy hold.senderAccountId v := by
  have hrouted := h.routes.routed hold hm
  unfold Routed at hrouted
  simp only [hk] at hrouted
  exact hrouted.1

theorem undoEndpoint_ne_leg (id : Ulid) (kind : TransferKind) :
    undoEndpoint id ≠ HoldingService.legEndpoint kind := by
  have hpost : undoEndpoint id = "POST:/" ++ ("api/v1/transfers/" ++ (id.text ++ "/undo")) := by
    have hhead : "POST:/api/v1/transfers/" = "POST:/" ++ "api/v1/transfers/" := by decide
    unfold undoEndpoint
    rw [hhead]
    simp only [String.append_assoc]
  rw [hpost]
  refine append_ne_of_take ?_ _
  unfold HoldingService.legEndpoint
  rw [String.toList_append, List.take_append_of_le_length (by decide)]
  decide

/-- An undo under an unused key is what `Undone` says. -/
theorem UndoableTransferService.undo_undone {o : Oracle} (hinv : s.db.Inv d)
    (hfirst : s.db.idempotencyRecords.find? ⟨u, undoEndpoint id, key⟩ = none)
    (h : undo (d.ctx o) id u key req s = .ok body s') :
    ∃ hold p, hold.id = id ∧ Undone (d.ctx o) u req s.db s'.db body hold p := by
  unfold UndoableTransferService.undo at h
  obtain ⟨now, s₁, e₁, h⟩ := shell_first hfirst h
  generalize hrow : SqlIdempotencyRepository.processing _ _ now = row at e₁
  obtain ⟨hold, s₂, h₂, h⟩ := bind_ok.1 h
  obtain ⟨rfl, hf, hk, hst⟩ := requireHold_ok h₂
  obtain ⟨sender, s₃, h₃, h⟩ := bind_ok.1 h
  obtain ⟨hsender, rfl⟩ := readDb_ok.1 h₃
  obtain ⟨_, s₄, h₄, h⟩ := bind_ok.1 h
  obtain ⟨howner, rfl⟩ := ensure_ok.1 h₄
  obtain ⟨settlement, s₅, h₅, h⟩ := bind_ok.1 h
  obtain ⟨_, s₆, h₆, h⟩ := bind_ok.1 h
  obtain ⟨_, s₇, h₇, h⟩ := bind_ok.1 h
  obtain ⟨rfl, rfl⟩ := pure_ok.1 h
  obtain ⟨n, s₈, h₈, hexec⟩ := bind_ok.1 h₅
  obtain ⟨_, s₉, h₉, hexec⟩ := bind_ok.1 hexec
  obtain ⟨hn, rfl⟩ := ensure_ok.1 h₉
  obtain ⟨t, ht, -, e₈⟩ := SqlTransferRepository.tryTransitionStatus_ok hn h₈
  obtain rfl : hold.id = id := Table.key_of_find? hf
  rw [e₁] at e₈ hf hsender
  have hf : s.db.transfers.find? hold.id = some hold := hf
  have hmem := Table.mem_of_find? hf
  -- the owner the check has found is the user the hold belongs to
  obtain ⟨v, a, ha, hat, hav⟩ := hinv.hold_owner hmem hk
  have hown : s.db.OwnedBy hold.senderAccountId u := by
    have hbind : Option.bind ((s.db.accounts.find? hold.senderAccountId).map AccountRow.toDomain)
        Account.userId = some u := hsender ▸ howner
    rw [ha] at hbind
    exact ⟨a, ha, hat, hbind⟩
  have hinv₈ : Invariant (d.ctx o).settings (d.ctx o).crypto
      ⟨⟨.pay hold.id hold.status .refunded, none, [row]⟩, s₈.db⟩ := by
    have hreserved := Invariant.step (.reserve ⟨u, undoEndpoint hold.id, key⟩
      (fingerprintRequest (d.ctx o) [("transferId", .str hold.id.text)]) now hfirst)
      (licence_sound (d.ctx o) s.db .expireDue) hinv
    rw [hrow] at hreserved
    rw [e₈]
    exact hreserved.step (.latch hold .refunded (d.ctx o).oracle.dbNow hf (.inl hst) (.inr rfl))
      (licence_sound (d.ctx o) s.db .expireDue)
  have hkey : s₈.db.idempotencyRecords.find? (refundCommand (d.ctx o) hold u req).triple = none := by
    have hfresh : s.db.idempotencyRecords.find? row.triple = none := by
      rw [← hrow]
      exact hfirst
    have hrecords : s₈.db.idempotencyRecords = s.db.idempotencyRecords.push row := by rw [e₈]
    rw [hrecords, Table.find?_push hfresh, if_neg]
    · exact hinv.settlementKey_free hmem (.inl hst) .undoRefund u
    · rw [← hrow]
      intro heq
      exact undoEndpoint_ne_leg hold.id .undoRefund (congrArg IdempotencyTriple.endpoint heq)
  have hfirst₈ : ∀ row, s₈.db.idempotencyRecords.find? (refundCommand (d.ctx o) hold u req).triple =
      some row → row.status ≠ .completed := by
    intro row hr
    cases hkey.symm.trans hr
  obtain ⟨p, rfl, hcollected⟩ := execute_collects hinv₈.standing hfirst₈ hexec
  rw [e₈] at hcollected hinv₈
  refine ⟨hold, p, rfl, hf, hk, hst, hown, rfl, row, s₅.db, s₇.db.scheduledTasks,
    s₇.db.idempotencyRecords, hinv₈, hcollected, ?_⟩
  rw [writeDb_ok h₇, writeDb_ok h₆]
  rfl

/-- An undo is a replay, which changes nothing, or it undoes a pending hold. -/
theorem UndoableTransferService.undo_ok {o : Oracle} (hinv : s.db.Inv d)
    (h : undo (d.ctx o) id u key req s = .ok body s') :
    (s'.db = s.db ∧ ∃ b : Body, body = b.put "replayed" (.bool true)) ∨
      ∃ hold p, hold.id = id ∧ Undone (d.ctx o) u req s.db s'.db body hold p := by
  cases hrow : s.db.idempotencyRecords.find? ⟨u, undoEndpoint id, key⟩ with
  | none => exact .inr (undo_undone hinv hrow h)
  | some row =>
    unfold UndoableTransferService.undo at h
    obtain ⟨now, s₁, -, ⟨-, b, e, hk⟩ | ⟨hn, -⟩⟩ := shell_cases h
    · obtain ⟨rfl, rfl⟩ := pure_ok.1 hk
      exact .inl ⟨e, b, rfl⟩
    · cases hrow.symm.trans hn

end Undo

end MoneyMovement

/-
  MoneyMovement/Acknowledgements.lean
  ===================================
  **What stands behind an answer.**

  The second answer under a key is read from the record of the first.  So what
  it says was true once; that it is true still, and of the same transfer, is a
  matter of every run in between.  `Backs` says that a record's body is borne out
  by the database; it holds in every state of a run as soon as the first answer
  under the key makes it so and what it says cannot become false.

  Two commands are taken up: a send, whose answer is the receipt of its hold, and
  an undo, after whose answer the hold is refunded.
-/
import MoneyMovement.Fingerprints
import MoneyMovement.History
import MoneyMovement.KeyFootprint
import MoneyMovement.SendKeys
import MoneyMovement.UndoSpec

namespace MoneyMovement

open Txn OverdraftService

/-! ### Records the database bears out -/

/-- What the record of a triple answers, the database bears out. -/
def Database.Backs (db : Database) (k : IdempotencyTriple) (Q : Database → IdempotencyRow → Prop) :
    Prop :=
  ∀ r, db.idempotencyRecords.find? k = some r → Q db r

section Backing

variable {k : IdempotencyTriple} {Q : Database → IdempotencyRow → Prop}

/-- After one more call, a completed record is the same one. -/
theorem serveAll_record_kept (d : Deployment) (now : Time) (calls : List Call) (call : Call)
    {r : IdempotencyRow}
    (hr : (serveAll d calls (migrated now)).idempotencyRecords.find? k = some r) :
    (serveAll d (calls ++ [call]) (migrated now)).idempotencyRecords.find? k = some r := by
  have hinv := serveAll_inv d now calls
  have hcompleted : r.status = .completed :=
    (hinv.reserved.settled r (Table.mem_of_find? hr)).resolve_left nofun
  rw [serveAll_append]
  exact (serveAll_continues hinv [call]).idempotencyRecords.find?_final (fun _ _ h => h.triple)
    (fun _ h => h.final hcompleted) hr

/-- It is enough to look at the calls that name the triple while it is unused. -/
theorem serveAll_backs (d : Deployment) (now : Time) (calls : List Call) (hapi : k.OfApi)
    (hmono : ∀ before call r, Q (serveAll d before (migrated now)) r →
      Q (serveAll d (before ++ [call]) (migrated now)) r)
    (hfirst : ∀ before call rest, calls = before ++ call :: rest → call.request.OwnKey k →
      (serveAll d before (migrated now)).idempotencyRecords.find? k = none →
      (serveAll d (before ++ [call]) (migrated now)).Backs k Q) :
    (serveAll d calls (migrated now)).Backs k Q := by
  induction calls using List.reverseRecOn with
  | nil =>
    intro r hr
    cases hr
  | append_singleton calls call ih =>
    have ih := ih fun before call' rest hcalls => hfirst before call' (rest ++ [call])
      (by rw [hcalls, List.append_assoc]; rfl)
    cases hold : (serveAll d calls (migrated now)).idempotencyRecords.find? k with
    | some r =>
      intro r' hr'
      rw [serveAll_record_kept d now calls call hold] at hr'
      cases hr'
      exact hmono calls call r (ih r hold)
    | none =>
      by_cases hown : call.request.OwnKey k
      · exact hfirst calls call [] rfl hown hold
      · -- nobody has used it, and this call does not either
        intro r hr
        rw [serveAll_append, serveAll_own_keys d [call] hapi, hold] at hr
        · cases hr
        · intro call' hmem
          rwa [List.mem_singleton.1 hmem]

/-- Under a used key a command answers with the stored body. -/
theorem shell_replayed {α : Type} {c : Ctx} {s s' : Session} {f : String} {v : α}
    {row : IdempotencyRow} {m : Time → Option Body → Tx α}
    (hrow : s.db.idempotencyRecords.find? k = some row)
    (h : (now c >>= fun t => SqlIdempotencyRepository.reserve k f t >>= fun decision =>
      replayBodyOrRaise decision >>= m t) s = .ok v s') :
    ∃ now s₁, s₁.db = s.db ∧ m now (some (row.responseBody.getD [])) s₁ = .ok v s' := by
  obtain ⟨now, s₁, h₁, h⟩ := bind_ok.1 h
  have e₁ := (now_ok h₁).1
  obtain ⟨decision, s₂, h₂, h⟩ := bind_ok.1 h
  obtain ⟨b, s₃, h₃, h⟩ := bind_ok.1 h
  rcases SqlIdempotencyRepository.reserve_ok h₂ with ⟨-, hn, -⟩ | ⟨rfl, row', hrow', hd⟩
  · rw [e₁, hrow] at hn
    cases hn
  rw [e₁, hrow] at hrow'
  obtain rfl := Option.some.inj hrow'
  rcases hd with ⟨rfl, -⟩ | ⟨-, -, rfl⟩ | ⟨-, -, rfl⟩
  · exact (raise_ok.1 h₃).elim
  · obtain ⟨rfl, rfl⟩ := pure_ok.1 h₃
    exact ⟨now, s₂, e₁, h⟩
  · exact (raise_ok.1 h₃).elim

end Backing

/-! ### Sends -/

/-- What a sender asks for. -/
structure SendIntent where
  phone : String
  amount : Money
  note : Option String
deriving DecidableEq

/-- The account is that of the user with this number. -/
def Database.NumberOwns (db : Database) (phone : String) (account : Ulid) : Prop :=
  ∃ v, db.users.find? v.id = some v ∧ v.phone = phone ∧ db.OwnedBy account v.id

/-- The hold is what `u` asked for: out of its account, for the account with that number. -/
structure TransferRow.Carries (db : Database) (u : Ulid) (I : SendIntent) (hold : TransferRow) :
    Prop where
  kind : hold.kind = .undoHold
  sender : db.OwnedBy hold.senderAccountId u
  receiver : ∃ account, hold.intendedReceiverAccountId = some account ∧ db.NumberOwns I.phone account
  amount : hold.amountMinor = I.amount.minor
  note : hold.note = I.note

/-- The triple of the hold behind a client's key. -/
def holdTriple (y : Crypto) (u : Ulid) (key : String) : IdempotencyTriple :=
  ⟨u, UndoableTransferService.UNDO_HOLD_ENDPOINT, holdKey y key⟩

/-- What was held under a client's key. -/
def Database.heldUnder (db : Database) (y : Crypto) (u : Ulid) (key : String) : List TransferRow :=
  (db.journal.filter fun x => decide (x.triple = holdTriple y u key)).filterMap fun x =>
    db.transfers.find? x.transferId

/-- The hold was made under the key, as `I` asks. -/
structure HeldFor (y : Crypto) (db : Database) (u : Ulid) (key : String) (I : SendIntent)
    (hold : TransferRow) : Prop where
  executed : ∃ x ∈ db.journal, x.triple = holdTriple y u key ∧ x.transferId = hold.id
  found : db.transfers.find? hold.id = some hold
  carries : hold.Carries db u I

/-- The body is about the hold. -/
structure Body.Names (b : Body) (hold : TransferRow) : Prop where
  transferId : b.str? "transferId" = some hold.id.text
  reference : b.str? "reference" = some hold.reference.text
  amount : b.int? "amountMinor" = some hold.amountMinor

/-- The body is a receipt of the hold. -/
structure ReceiptOf (b : Body) (hold : TransferRow) : Prop extends b.Names hold where
  status : b.str? "status" = some TransferStatus.pendingUndo.text

section Sends

variable {y : Crypto} {db db' : Database} {u : Ulid} {key phone : String} {I : SendIntent}
  {hold : TransferRow} {b : Body}

theorem Database.NumberOwns.mono {account : Ulid} (hl : db.Later db') (h : db.NumberOwns phone account) :
    db'.NumberOwns phone account := by
  obtain ⟨v, hv, hphone, hown⟩ := h
  obtain ⟨v', hv', hphone'⟩ := hl.users.phone _ _ hv
  have hid : v'.id = v.id := Table.key_of_find? hv'
  exact ⟨v', hid ▸ hv', hphone'.trans hphone, hid ▸ hl.grows.ownedBy hown⟩

theorem TransferRow.Carries.mono {hold' : TransferRow} (hl : db.Later db')
    (hsame : hold.SameMovement hold') (h : hold.Carries db u I) : hold'.Carries db' u I := by
  obtain ⟨_, _, rfl⟩ := hsame
  obtain ⟨account, hreceiver, hnumber⟩ := h.receiver
  exact ⟨h.kind, hl.grows.ownedBy h.sender, ⟨account, hreceiver, hnumber.mono hl⟩, h.amount, h.note⟩

theorem ReceiptOf.same {hold' : TransferRow} (hsame : hold.SameMovement hold') (h : ReceiptOf b hold) :
    ReceiptOf b hold' := by
  obtain ⟨_, _, rfl⟩ := hsame
  exact ⟨⟨h.transferId, h.reference, h.amount⟩, h.status⟩

/-- A hold stays, and stays what was asked for. -/
theorem HeldFor.mono (hc : db.Continues db') (hl : db.Later db') (h : HeldFor y db u key I hold) :
    ∃ hold', hold.SameMovement hold' ∧ HeldFor y db' u key I hold' := by
  obtain ⟨hold', hf, hlater⟩ := hc.transfers.find? (fun _ _ h => h.movement.id) h.found
  obtain ⟨x, hx, htriple, hid⟩ := h.executed
  have hid' : hold'.id = hold.id := hlater.movement.id
  exact ⟨hold', hlater.movement, ⟨x, hc.journal.subset hx, htriple, hid.trans hid'.symm⟩,
    hid' ▸ hf, h.carries.mono hl hlater.movement⟩

/-- A key is executed once at most. -/
theorem Journalled.execution_unique (h : Journalled db) {x x' : Execution} (hx : x ∈ db.journal)
    (hx' : x' ∈ db.journal) (he : x.triple = x'.triple) : x = x' :=
  List.inj_on_of_nodup_map h.nodup hx hx' he

theorem HeldFor.heldUnder (hj : Journalled db) (h : HeldFor y db u key I hold) :
    db.heldUnder y u key = [hold] := by
  obtain ⟨x, hx, htriple, hid⟩ := h.executed
  have hfilter : db.journal.filter (fun x => decide (x.triple = holdTriple y u key)) = [x] := by
    have hmem : x ∈ db.journal.filter fun x => decide (x.triple = holdTriple y u key) :=
      List.mem_filter.2 ⟨hx, decide_eq_true htriple⟩
    have hnodup := (hj.nodup.of_map _).filter fun x => decide (x.triple = holdTriple y u key)
    have hrep := List.eq_replicate_of_mem (a := x) fun x' hx' => by
      obtain ⟨hmem', he⟩ := List.mem_filter.1 hx'
      have he : x'.triple = holdTriple y u key := of_decide_eq_true he
      exact hj.execution_unique hmem' hx (he.trans htriple.symm)
    rw [hrep, List.nodup_replicate] at hnodup
    have hlength := Nat.le_antisymm hnodup (List.length_pos_of_mem hmem)
    rw [hrep, hlength]
    rfl
  rw [Database.heldUnder, hfilter, List.filterMap_cons_some (hid ▸ h.found), List.filterMap_nil]

end Sends

section Sending

variable {c : Ctx} {d : Deployment} {o : Oracle} {s s' : Session} {x : Sending} {body : Body}
  {u : Ulid} {key : String} {I : SendIntent}

/-- What a send stores is what it answers, the flag apart. -/
theorem OverdraftService.sendReserved_stores {triple : IdempotencyTriple} {account receiver : Ulid}
    {amount : Money} {note req : Option String} {now : Time}
    (h : sendReserved c triple u account receiver amount key note req now s = .ok body s') :
    ∀ row, s'.db.idempotencyRecords.find? triple = some row →
      row.responseBody = some (body.without ["replayed"]) := by
  obtain ⟨grants, s₁, -, h⟩ := bind_ok.1 h
  obtain ⟨locked, s₂, -, h⟩ := bind_ok.1 h
  obtain ⟨sender, s₃, -, h⟩ := bind_ok.1 h
  obtain ⟨_, s₄, -, h⟩ := bind_ok.1 h
  obtain ⟨draw, s₅, -, h⟩ := bind_ok.1 h
  obtain ⟨hold, s₆, -, h⟩ := bind_ok.1 h
  obtain ⟨_, s₇, h₇, h⟩ := bind_ok.1 h
  obtain ⟨rfl, rfl⟩ := pure_ok.1 h
  intro row hrow
  unfold complete at h₇
  rw [writeDb_ok h₇] at hrow
  dsimp only at hrow
  rw [Table.find?_modifyAt, if_pos rfl] at hrow
  obtain ⟨row₀, -, rfl⟩ := Option.map_eq_some_iff.1 hrow
  rfl

/-- The receipt of a hold, as the first answer has it and as the store does. -/
theorem receiptOf_sendBody (p : Posting) (draw : Option Draw)
    (hstatus : p.cmd.initialStatus = .pendingUndo) :
    ReceiptOf (sendBody p.result draw) p.row ∧
      ReceiptOf (((sendBody p.result draw).without ["replayed"]).put "replayed" (.bool true)) p.row := by
  have hs : p.result.status = TransferStatus.pendingUndo.text := congrArg TransferStatus.text hstatus
  constructor
  · exact ⟨⟨rfl, rfl, rfl⟩, congrArg some hs⟩
  · exact ⟨⟨rfl, rfl, rfl⟩, congrArg some hs⟩

/-- A send that ran has made the hold it answers with. -/
theorem Sent.heldFor {db db' : Database} {a : AccountRow} {draw : Option Draw} {p : Posting}
    {phone : String} (h : Sent c x db db' body a draw p) (hl : db.Later db')
    (hown : db.OwnedBy x.account x.user) (hnumber : db.NumberOwns phone x.receiver) :
    HeldFor c.crypto db' x.user x.key ⟨phone, x.amount, x.note⟩ p.row ∧ ReceiptOf body p.row ∧
      ReceiptOf ((body.without ["replayed"]).put "replayed" (.bool true)) p.row := by
  obtain ⟨now, db₁, db₂, tasks, records, -, hheld, rfl⟩ := h.runs
  have hcmd := hheld.cmd_eq
  have hreceipts := receiptOf_sendBody p draw (by rw [hcmd]; rfl)
  rw [← h.body_eq] at hreceipts
  refine ⟨⟨⟨p.execution, ?_, ?_, rfl⟩, ?_, ?_⟩, hreceipts⟩
  · obtain ⟨logs, e⟩ := hheld.written
    rw [e]
    exact List.mem_append_right _ (List.mem_singleton_self _)
  · show p.cmd.triple = _
    rw [hcmd]
    rfl
  · obtain ⟨logs, e⟩ := hheld.written
    rw [e]
    exact Table.find?_push_self hheld.valid.transfer_fresh
  · refine ⟨congrArg TransferCommand.kind hcmd, ?_, ⟨x.receiver, ?_, hnumber.mono hl⟩, ?_, ?_⟩
    · rw [show p.row.senderAccountId = x.account from congrArg TransferCommand.senderAccountId hcmd]
      exact hl.grows.ownedBy hown
    · exact congrArg TransferCommand.intendedReceiverAccountId hcmd
    · rw [show p.row.amountMinor = p.cmd.amount.minor from rfl, hcmd]
      rfl
    · exact congrArg TransferCommand.note hcmd

/-- The route sends out of the caller's account, to the account with the number asked for. -/
theorem createTransferOp_sending {req : Option String}
    (h : createTransferOp c u I.phone I.amount I.note key req s = .ok body s') :
    ∃ account receiver, s.db.OwnedBy account u ∧ s.db.NumberOwns I.phone receiver ∧
      (⟨u, account, receiver, I.amount, key, I.note, req⟩ : Sending).run c s = .ok body s' := by
  obtain ⟨foundSender, s₁, h₁, h⟩ := bind_ok.1 h
  obtain ⟨rfl, rfl⟩ := readDb_ok.1 h₁
  obtain ⟨sender, s₂, h₂, h⟩ := bind_ok.1 h
  obtain ⟨hs, rfl⟩ := orRaise_ok.1 h₂
  obtain ⟨sender, hsender, rfl⟩ := Option.map_eq_some_iff.1 hs
  obtain ⟨foundRecipient, s₃, h₃, h⟩ := bind_ok.1 h
  obtain ⟨rfl, rfl⟩ := readDb_ok.1 h₃
  obtain ⟨recipient, s₄, h₄, h⟩ := bind_ok.1 h
  obtain ⟨hr, rfl⟩ := orRaise_ok.1 h₄
  obtain ⟨recipient, hrecipient, rfl⟩ := Option.map_eq_some_iff.1 hr
  obtain ⟨_, s₅, h₅, h⟩ := bind_ok.1 h
  obtain ⟨-, rfl⟩ := ensure_ok.1 h₅
  obtain ⟨user, huser, hown⟩ := ofPhone_ownedBy hrecipient
  obtain ⟨hfound, hphone⟩ := byPhone_eq_some huser
  exact ⟨sender.id, recipient.id, ofUser_ownedBy hsender, ⟨user, hfound, hphone, hown⟩, h⟩

theorem holdKey_injective {y : Crypto} (hsha : Function.Injective y.sha256) :
    Function.Injective (holdKey y) := by
  intro key key' h
  have hdumps := hsha (String.append_right_inj _ |>.1 h)
  have hperm := (JsonText.dumps_eq_iff (by simp)).1 hdumps
  rw [List.perm_singleton] at hperm
  simpa using hperm

/-- Digests that do not collide keep all keys apart. -/
theorem KeyApart.of_injective {y : Crypto} {db : Database} (hsha : Function.Injective y.sha256) :
    KeyApart y db u key :=
  fun _ _ h => holdKey_injective hsha h

/-- Keys that are apart were so before. -/
theorem KeyApart.earlier {y : Crypto} {db db' : Database} (hc : db.Continues db')
    (h : KeyApart y db' u key) : KeyApart y db u key := by
  intro key' hsome hsame
  obtain ⟨row, hrow⟩ := Option.isSome_iff_exists.1 hsome
  obtain ⟨row', hrow', -⟩ := hc.idempotencyRecords.find? (fun _ _ h => h.triple) hrow
  exact h key' (Option.isSome_iff_exists.2 ⟨row', hrow'⟩) hsame

/-- The first send under a key makes the hold, or leaves the key unused. -/
theorem send_first (now : Time) (calls : List Call)
    (hapart : KeyApart d.crypto (serveAll d calls (migrated now)) u key)
    {pin : String} {req : Option String} {reply : Except AppError Reply}
    (hfirst : (serveAll d calls (migrated now)).idempotencyRecords.find?
      ⟨u, SEND_ENDPOINT, key⟩ = none)
    (hok : handle (d.ctx o) (.createTransfer u pin I.phone I.amount I.note key req)
      (begin (serveAll d calls (migrated now))) = .ok reply s) :
    (∃ e, reply = .error e ∧ s.db.idempotencyRecords.find? ⟨u, SEND_ENDPOINT, key⟩ = none) ∨
      ∃ b hold, reply = .ok (.body b) ∧ HeldFor d.crypto s.db u key I hold ∧ ReceiptOf b hold ∧
        ∀ row, s.db.idempotencyRecords.find? ⟨u, SEND_ENDPOINT, key⟩ = some row →
          ∃ b', row.responseBody = some b' ∧ ReceiptOf (b'.put "replayed" (.bool true)) hold := by
  have hinv := serveAll_inv d now calls
  have hkeyed := serveAll_holdsKeyed d now calls
  generalize serveAll d calls (migrated now) = db at *
  rw [handle] at hok
  obtain ⟨r, s₁, h₁, hok⟩ := bind_ok.1 hok
  obtain ⟨rfl, rfl⟩ := pure_ok.1 hok
  rcases runPinProtected_cases h₁ with ⟨e, rfl, users, -, e₁⟩ | ⟨s₀, body, rfl, ⟨users, hu, e₀⟩, hop⟩
  · refine .inl ⟨e, rfl, ?_⟩
    rw [e₁]
    exact hfirst
  right
  have e₀ : s₀.db = { db with users := users } := e₀
  obtain ⟨account, receiver, hown, hnumber, hrun⟩ := createTransferOp_sending hop
  have hinv₀ : Invariant d.settings d.crypto ⟨.idle, s₀.db⟩ := by
    rw [e₀]
    exact hinv.users o hu.usersKept
  have hfirst₀ : s₀.db.idempotencyRecords.find? ⟨u, SEND_ENDPOINT, key⟩ = none := by
    rw [e₀]
    exact hfirst
  have hhold : s₀.db.idempotencyRecords.find? (holdTriple d.crypto u key) = none := by
    rw [e₀]
    exact Sending.hold_unused (c := d.ctx o) (x := ⟨u, account, receiver, I.amount, key, I.note, req⟩)
      hkeyed hfirst hapart
  obtain ⟨a, draw, p, hsent⟩ := Sending.sent hinv₀ hown.hasType hfirst₀ hhold hrun
  have hl : s₀.db.Later s₁.db := by
    have hall : ∀ row, Answerable (d.ctx o) row → Licence.all.answer row := fun _ _ => trivial
    obtain ⟨v, -, -, hreceiver⟩ := hnumber
    exact .steps (send_answered (L := .all) (fun _ _ _ _ _ _ => trivial) (fun _ _ _ _ _ _ => trivial)
      (fun _ _ _ => trivial) hall hown hreceiver hrun).steps
  obtain ⟨hheld, hreceipt, hstored⟩ := hsent.heldFor hl hown hnumber
  refine ⟨body, p.row, rfl, hheld, hreceipt, fun row hrow => ⟨_, ?_, hstored⟩⟩
  unfold Sending.run send at hrun
  obtain ⟨now', s₂, -, hk⟩ := shell_first hfirst₀ hrun
  exact sendReserved_stores hk row hrow

/-- Under an unused key nothing is held. -/
theorem heldUnder_of_unused (now : Time) (calls : List Call)
    (hapart : KeyApart d.crypto (serveAll d calls (migrated now)) u key)
    (hfirst : (serveAll d calls (migrated now)).idempotencyRecords.find?
      ⟨u, SEND_ENDPOINT, key⟩ = none) :
    (serveAll d calls (migrated now)).heldUnder d.crypto u key = [] := by
  have hnone : (serveAll d calls (migrated now)).journal.filter
      (fun x => decide (x.triple = holdTriple d.crypto u key)) = [] := by
    rw [List.filter_eq_nil_iff]
    intro e he htriple
    have htriple : e.triple = holdTriple d.crypto u key := of_decide_eq_true htriple
    -- the execution has a record, and behind it is that of a send, under this very key
    obtain ⟨row, hrow⟩ := Option.isSome_iff_exists.1 ((serveAll_inv d now calls).journalled.recorded e he)
    have hkey := Table.key_of_find? hrow
    rw [htriple] at hkey
    obtain ⟨key', hsame, hsome⟩ :=
      serveAll_holdsKeyed d now calls row (Table.mem_of_find? hrow) (by rw [hkey]; rfl)
    rw [hkey] at hsame hsome
    rw [hapart key' hsome hsame.symm] at hsome
    have hsome : ((serveAll d calls (migrated now)).idempotencyRecords.find?
      ⟨u, SEND_ENDPOINT, key⟩).isSome = true := hsome
    rw [hfirst] at hsome
    cases hsome
  rw [Database.heldUnder, hnone, List.filterMap_nil]

/-- The answer stored for a send, and the hold it speaks of. -/
def HeldAsStored (y : Crypto) (u : Ulid) (key : String) (I : SendIntent) (db : Database)
    (r : IdempotencyRow) : Prop :=
  ∃ b hold, r.responseBody = some b ∧ HeldFor y db u key I hold ∧
    ReceiptOf (b.put "replayed" (.bool true)) hold

/-- The calls under this key, if any, ask for `I`. -/
def AskedAs (u : Ulid) (key : String) (I : SendIntent) (calls : List Call) : Prop :=
  ∀ call ∈ calls, call.request.OwnKey ⟨u, SEND_ENDPOINT, key⟩ → ∃ pin req,
    call.request = .createTransfer u pin I.phone I.amount I.note key req

theorem serveAll_continues_later (d : Deployment) (now : Time) (before calls : List Call) :
    (serveAll d before (migrated now)).Continues (serveAll d (before ++ calls) (migrated now)) ∧
      (serveAll d before (migrated now)).Later (serveAll d (before ++ calls) (migrated now)) := by
  rw [serveAll_append]
  exact ⟨serveAll_continues (serveAll_inv d now before) calls, serveAll_later d calls _⟩

theorem sends_backed (now : Time) (calls : List Call)
    (hapart : KeyApart d.crypto (serveAll d calls (migrated now)) u key)
    (hasked : AskedAs u key I calls) :
    (serveAll d calls (migrated now)).Backs ⟨u, SEND_ENDPOINT, key⟩ (HeldAsStored d.crypto u key I) := by
  refine serveAll_backs d now calls ⟨"api/v1/transfers", show SEND_ENDPOINT = _ by decide⟩ ?_ ?_
  · rintro before call r ⟨b, hold, hb, hheld, hreceipt⟩
    obtain ⟨hc, hl⟩ := serveAll_continues_later d now before [call]
    obtain ⟨hold', hsame, hheld'⟩ := hheld.mono hc hl
    exact ⟨b, hold', hb, hheld', hreceipt.same hsame⟩
  · intro before call rest hcalls hown hfirst row hrow
    have hmem : call ∈ calls := hcalls ▸ List.mem_append_right _ List.mem_cons_self
    obtain ⟨pin, req, hreq⟩ := hasked call hmem hown
    rw [hcalls] at hapart
    have hapart := hapart.earlier (serveAll_continues_later d now before (call :: rest)).1
    rw [serveAll_append, serveAll, serveAll] at hrow ⊢
    rcases commit_cases (handle (d.ctx call.oracle) call.request)
      (serveAll d before (migrated now)) with ⟨reply, s, hok, he⟩ | he
    · rw [serve, he] at hrow ⊢
      rw [hreq] at hok
      rcases send_first now before hapart hfirst hok with
        ⟨e, -, hnone⟩ | ⟨b, hold, -, hheld, -, hstored⟩
      · cases hnone.symm.trans hrow
      · obtain ⟨b', hb', hreceipt⟩ := hstored row hrow
        exact ⟨b', hold, hb', hheld, hreceipt⟩
    · rw [serve, he] at hrow
      cases hfirst.symm.trans hrow

/-- **An answered send is held.**  Whatever else was asked, and whichever answer this is under its
    key, the transfer it names is the one hold made under the key, as it was asked for. -/
theorem answered_send_is_held (now : Time) (calls : List Call)
    (hapart : KeyApart d.crypto (serveAll d calls (migrated now)) u key)
    (hasked : AskedAs u key I calls) {pin : String} {req : Option String}
    {reply : Reply} (hok : handle (d.ctx o) (.createTransfer u pin I.phone I.amount I.note key req)
      (begin (serveAll d calls (migrated now))) = .ok (.ok reply) s) :
    ∃ b hold, reply = .body b ∧ HeldFor d.crypto s.db u key I hold ∧ ReceiptOf b hold := by
  cases hrow : (serveAll d calls (migrated now)).idempotencyRecords.find? ⟨u, SEND_ENDPOINT, key⟩ with
  | none =>
    rcases send_first now calls hapart hrow hok with ⟨e, he, -⟩ | ⟨b, hold, hb, hheld, hreceipt, -⟩
    · cases he
    · cases hb
      exact ⟨b, hold, rfl, hheld, hreceipt⟩
  | some row =>
    obtain ⟨stored, hold, hstored, hheld, hreceipt⟩ := sends_backed now calls hapart hasked row hrow
    have hall : serveAll d (calls ++ [⟨o, .createTransfer u pin I.phone I.amount I.note key req⟩])
        (migrated now) = s.db := by
      rw [serveAll_append, serveAll, serveAll, serve, commit_of_ok hok]
    obtain ⟨hc, hl⟩ := serveAll_continues_later d now calls
      [⟨o, .createTransfer u pin I.phone I.amount I.note key req⟩]
    rw [hall] at hc hl
    obtain ⟨hold', hsame, hheld'⟩ := hheld.mono hc hl
    -- the answer is the stored one
    rw [handle] at hok
    obtain ⟨r, s₁, h₁, hok⟩ := bind_ok.1 hok
    obtain ⟨he, rfl⟩ := pure_ok.1 hok
    cases r with
    | error e => cases he
    | ok b =>
      cases he
      obtain ⟨s₀, ⟨users, -, e₀⟩, hop⟩ := runPinProtected_ok h₁
      obtain ⟨account, receiver, -, -, hrun⟩ := createTransferOp_sending hop
      unfold Sending.run send at hrun
      have hrow₀ : s₀.db.idempotencyRecords.find? ⟨u, SEND_ENDPOINT, key⟩ = some row := by
        rw [e₀]
        exact hrow
      obtain ⟨now', s₂, -, hk⟩ := shell_replayed hrow₀ hrun
      obtain ⟨rfl, -⟩ := pure_ok.1 hk
      rw [hstored]
      exact ⟨_, hold', rfl, hheld', hreceipt.same hsame⟩

end Sending

/-! ### Undos -/

/-- The hold has been paid back, and the body is about it. -/
def Database.UndoneAs (db : Database) (id : Ulid) (b : Body) : Prop :=
  ∃ hold, db.transfers.find? id = some hold ∧ hold.kind = .undoHold ∧ hold.status = .refunded ∧
    b.Names hold

section Undoing

variable {d : Deployment} {o : Oracle} {s s' : Session} {u id : Ulid} {key : String} {body : Body}

theorem Database.UndoneAs.mono {db db' : Database} (hc : db.Continues db') (h : db.UndoneAs id body) :
    db'.UndoneAs id body := by
  obtain ⟨hold, hf, hkind, hstatus, hnames⟩ := h
  refine ⟨hold, hc.transfers.find?_final (fun _ _ h => h.movement.id) (fun t ht => ?_) hf, hkind, hstatus,
    hnames⟩
  exact ht.final (by rw [hstatus]; nofun) (by rw [hstatus]; nofun)

/-- An undo that ran has refunded the hold, and says so now and later. -/
theorem Undone.undoneAs {c : Ctx} {req : Option String} {db db' : Database} {hold : TransferRow}
    {p : Posting} (h : Undone c u req db db' body hold p) :
    db'.UndoneAs hold.id body ∧ db'.UndoneAs hold.id (body.put "replayed" (.bool true)) := by
  obtain ⟨row, db₁, tasks, records, -, hcollected, rfl⟩ := h.runs
  obtain ⟨logs, db₂, x, -, -, hswept, rfl⟩ := hcollected.swept
  have hlatched : (hold.latchedIn c row db).transfers.find? hold.id =
      some (hold.latched .refunded c.oracle.dbNow) := by
    dsimp only [TransferRow.latchedIn]
    rw [Table.find?_modifyAt, if_pos rfl, h.found]
    rfl
  have huntouched := (Posting.untouched p (hold.latchedIn c row db) logs _).trans hswept.untouched
  have hamount : p.result.amount.minor = hold.amountMinor := by
    show p.cmd.amount.minor = _
    rw [hcollected.cmd_eq]
    rfl
  have hnames : ∀ b : Body, b.str? "transferId" = some hold.id.text →
      b.str? "reference" = some hold.reference.text →
      b.int? "amountMinor" = some p.result.amount.minor →
      b.Names (hold.latched .refunded c.oracle.dbNow) :=
    fun b hid href hminor => ⟨hid, href, hminor.trans (congrArg some hamount)⟩
  have hfound := huntouched.transfers _ _ hlatched
  rw [h.body_eq]
  exact ⟨⟨_, hfound, h.kind, rfl, hnames _ rfl rfl rfl⟩, ⟨_, hfound, h.kind, rfl, hnames _ rfl rfl rfl⟩⟩

/-- What an undo stores is what it answers. -/
theorem UndoableTransferService.undoReserved_stores {c : Ctx} {triple : IdempotencyTriple}
    {req : Option String} {now : Time}
    (h : undoReserved c triple id u req now s = .ok body s') :
    ∀ row, s'.db.idempotencyRecords.find? triple = some row → row.responseBody = some body := by
  obtain ⟨hold, s₁, -, h⟩ := bind_ok.1 h
  obtain ⟨sender, s₂, -, h⟩ := bind_ok.1 h
  obtain ⟨_, s₃, -, h⟩ := bind_ok.1 h
  obtain ⟨settlement, s₄, -, h⟩ := bind_ok.1 h
  obtain ⟨_, s₅, -, h⟩ := bind_ok.1 h
  obtain ⟨_, s₆, h₆, h⟩ := bind_ok.1 h
  obtain ⟨rfl, rfl⟩ := pure_ok.1 h
  intro row hrow
  rw [writeDb_ok h₆] at hrow
  dsimp only at hrow
  rw [Table.find?_modifyAt, if_pos rfl] at hrow
  obtain ⟨row₀, -, rfl⟩ := Option.map_eq_some_iff.1 hrow
  rfl

/-- The first undo under a key has refunded the hold, and stores what it answers. -/
theorem UndoableTransferService.undo_first {req : Option String} (hinv : s.db.Inv d)
    (hfirst : s.db.idempotencyRecords.find? ⟨u, undoEndpoint id, key⟩ = none)
    (h : undo (d.ctx o) id u key req s = .ok body s') :
    s'.db.UndoneAs id body ∧
      ∀ row, s'.db.idempotencyRecords.find? ⟨u, undoEndpoint id, key⟩ = some row →
        ∃ b, row.responseBody = some b ∧ s'.db.UndoneAs id (b.put "replayed" (.bool true)) := by
  obtain ⟨hold, p, rfl, hundone⟩ := undo_undone hinv hfirst h
  refine ⟨hundone.undoneAs.1, fun row hrow => ⟨body, ?_, hundone.undoneAs.2⟩⟩
  unfold UndoableTransferService.undo at h
  obtain ⟨now, s₁, -, hk⟩ := shell_first hfirst h
  exact undoReserved_stores hk row hrow

/-- An endpoint that begins otherwise is not that of an undo. -/
theorem undoEndpoint_ne (head rest : String)
    (h : (head.toList.take 14).isPrefixOf "POST:/api/v1/transfers/".toList = false)
    (hlength : 14 ≤ head.toList.length) :
    UndoableTransferService.undoEndpoint id ≠ head ++ rest := by
  intro he
  have htake := congrArg (fun text : String => text.toList.take 14) he
  unfold UndoableTransferService.undoEndpoint at htake
  simp only [String.toList_append, List.append_assoc] at htake
  rw [List.take_append_of_le_length (by decide), List.take_append_of_le_length hlength] at htake
  rw [← htake] at h
  exact absurd h (by decide)

theorem undoEndpoint_ne_fixed {endpoint : String}
    (h : "POST:/api/v1/transfers/".toList.isPrefixOf endpoint.toList = false) :
    UndoableTransferService.undoEndpoint id ≠ endpoint := by
  intro he
  unfold UndoableTransferService.undoEndpoint at he
  rw [String.append_assoc] at he
  exact append_ne_of_not_isPrefixOf h he

/-- Nobody else names the triple of an undo. -/
theorem Request.OwnKey.undo {r : Request}
    (h : r.OwnKey ⟨u, UndoableTransferService.undoEndpoint id, key⟩) :
    ∃ req, r = .undoTransfer u id key req := by
  have hfixed : ∀ endpoint : String,
      "POST:/api/v1/transfers/".toList.isPrefixOf endpoint.toList = false →
      UndoableTransferService.undoEndpoint id ≠ endpoint := fun _ => undoEndpoint_ne_fixed
  have hfor : ∀ (head : String) (name : Ulid) (rest : String),
      (head.toList.take 14).isPrefixOf "POST:/api/v1/transfers/".toList = false →
      14 ≤ head.toList.length →
      UndoableTransferService.undoEndpoint id ≠ head ++ name.text ++ rest := by
    intro head name rest hhead hlength
    rw [String.append_assoc]
    exact undoEndpoint_ne head _ hhead hlength
  cases r
  case undoTransfer user transferId key' req =>
    obtain ⟨rfl, hend, rfl⟩ := IdempotencyTriple.mk.inj h
    obtain rfl := endpoint_inj hend
    exact ⟨req, rfl⟩
  case register => exact absurd h.1 (hfixed TRANSFER_ENDPOINT (by decide))
  case createTransfer =>
    exact absurd (IdempotencyTriple.mk.inj h).2.1 (hfixed SEND_ENDPOINT (by decide))
  case acceptRequest =>
    exact absurd (IdempotencyTriple.mk.inj h).2.1 (hfixed TRANSFER_ENDPOINT (by decide))
  case createPool =>
    exact absurd (IdempotencyTriple.mk.inj h).2.1 (hfixed POOL_ENDPOINT (by decide))
  case createGrant =>
    exact absurd (IdempotencyTriple.mk.inj h).2.1 (hfixed GRANT_ENDPOINT (by decide))
  case createSafepay =>
    exact absurd (IdempotencyTriple.mk.inj h).2.1 (hfixed SafePayService.CREATE_ENDPOINT (by decide))
  case fundPool =>
    obtain ⟨pool, h⟩ := h
    exact absurd (IdempotencyTriple.mk.inj h).2.1
      (hfor "POST:/api/v1/overdraft/pools/" _ _ (by decide) (by decide))
  case courierWebhook courier eventId _ _ _ =>
    obtain ⟨escrow, h⟩ := h
    refine absurd (IdempotencyTriple.mk.inj h).2.1 ?_
    rw [String.append_assoc]
    exact undoEndpoint_ne "POST:/courier/" _ (by decide) (by decide)
  case resolveSafepay =>
    exact absurd (IdempotencyTriple.mk.inj h).2.1
      (hfor "POST:/api/v1/admin/safepay/" _ _ (by decide) (by decide))
  all_goals
    first
      | exact h.elim
      | exact absurd (IdempotencyTriple.mk.inj h).2.1
          (hfor "POST:/api/v1/safepay/" _ _ (by decide) (by decide))

/-- The answer stored for an undo. -/
def UndoneAsStored (id : Ulid) (db : Database) (r : IdempotencyRow) : Prop :=
  ∃ b, r.responseBody = some b ∧ db.UndoneAs id (b.put "replayed" (.bool true))

theorem undos_backed (now : Time) (calls : List Call) :
    (serveAll d calls (migrated now)).Backs ⟨u, UndoableTransferService.undoEndpoint id, key⟩
      (UndoneAsStored id) := by
  refine serveAll_backs d now calls ⟨"api/v1/transfers/" ++ id.text ++ "/undo", ?_⟩ ?_ ?_
  · show "POST:/api/v1/transfers/" ++ id.text ++ "/undo" = _
    rw [show "POST:/api/v1/transfers/" = "POST:/" ++ "api/v1/transfers/" by decide]
    simp only [String.append_assoc]
  · rintro before call _ ⟨b, hb, h⟩
    exact ⟨b, hb, h.mono (serveAll_continues_later d now before [call]).1⟩
  · intro before call _ _ hown hfirst row hrow
    obtain ⟨req, hreq⟩ := hown.undo
    rw [serveAll_append, serveAll, serveAll] at hrow ⊢
    rcases commit_cases (handle (d.ctx call.oracle) call.request)
      (serveAll d before (migrated now)) with ⟨reply, s, hok, he⟩ | he
    · rw [serve, he] at hrow ⊢
      rw [hreq, handle] at hok
      obtain ⟨b, s₁, h₁, hok⟩ := bind_ok.1 hok
      obtain ⟨-, rfl⟩ := pure_ok.1 hok
      exact (UndoableTransferService.undo_first (serveAll_inv d now before) hfirst h₁).2 row hrow
    · rw [serve, he] at hrow
      cases hfirst.symm.trans hrow

/-- **An answered undo has refunded the hold it names**, whichever answer this is under its key. -/
theorem answered_undo_refunded (now : Time) (calls : List Call) {req : Option String}
    {reply : Reply} (hok : handle (d.ctx o) (.undoTransfer u id key req)
      (begin (serveAll d calls (migrated now))) = .ok (.ok reply) s) :
    ∃ b, reply = .body b ∧ s.db.UndoneAs id b := by
  rw [handle] at hok
  obtain ⟨b, s₁, h₁, hok⟩ := bind_ok.1 hok
  obtain ⟨he, rfl⟩ := pure_ok.1 hok
  cases he
  refine ⟨b, rfl, ?_⟩
  cases hrow : (serveAll d calls (migrated now)).idempotencyRecords.find?
      ⟨u, UndoableTransferService.undoEndpoint id, key⟩ with
  | none => exact (UndoableTransferService.undo_first (serveAll_inv d now calls) hrow h₁).1
  | some row =>
    obtain ⟨stored, hstored, hundone⟩ := undos_backed now calls row hrow
    unfold UndoableTransferService.undo at h₁
    obtain ⟨now', s₂, e₂, hk⟩ := shell_replayed hrow h₁
    obtain ⟨rfl, rfl⟩ := pure_ok.1 hk
    rw [hstored, e₂]
    exact hundone

end Undoing

end MoneyMovement

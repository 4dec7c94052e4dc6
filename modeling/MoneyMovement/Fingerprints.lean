/-
  MoneyMovement/Fingerprints.lean
  ===============================
  **What a fingerprint tells apart.**

  A keyed command is recorded under who called, which endpoint and which key,
  with the hash of the canonical text of a payload.  The payload is not the body
  of the request: a phone number has become the identifier of an account or of a
  user, an identifier of the path stands in the endpoint instead, and the amount
  of a money request is read from its row.

  `fingerprints_separate_intents`: of two requests with one triple, sent in
  whatever two states of a run, the texts are equal exactly when the requests ask
  for the same thing.  `answered_submits` ties the payloads to the code: they are
  what the record of an answered request carries.
-/
import MoneyMovement.Directory
import MoneyMovement.Replay

namespace MoneyMovement

open Txn OverdraftService SafePayService

/-! ### Keyed commands -/

/-- What a keyed command asks for: the body of the request without the PIN, and the
    identifiers of its path. -/
inductive Intent where
  | send (recipientPhone : String) (amount : Money) (note : Option String)
  | undo (transferId : Ulid)
  | accept (moneyRequestId : Ulid)
  | createPool (amount : Money)
  | fundPool (amount : Money)
  | grant (beneficiaryPhone : String) (maxDrawMinor : Int)
  | createSafepay (sellerPhone : String) (amount : Money) (description : Option String)
  | ship (escrowId : Ulid) (courier trackingNumber : String)
  | releaseCode (escrowId : Ulid) (code : String)
  | confirmReceived (escrowId : Ulid)
  | dispute (escrowId : Ulid) (reason : String)
  | courierEvent (courier eventId trackingNumber : String) (releaseImmediately : Bool)
  | resolve (escrowId : Ulid) (decision : Decision) (note : String) (banBuyer : Bool)
deriving DecidableEq

def Request.intent? : Request → Option Intent
  | .createTransfer _ _ phone amount note _ _ => some (.send phone amount note)
  | .undoTransfer _ transferId _ _ => some (.undo transferId)
  | .acceptRequest _ _ moneyRequestId _ _ => some (.accept moneyRequestId)
  | .createPool _ _ amount _ _ => some (.createPool amount)
  | .fundPool _ _ amount _ _ => some (.fundPool amount)
  | .createGrant _ _ phone maxDraw _ _ => some (.grant phone maxDraw)
  | .createSafepay _ _ phone amount description _ _ => some (.createSafepay phone amount description)
  | .shipSafepay _ escrowId courier tracking _ _ => some (.ship escrowId courier tracking)
  | .releaseSafepayCode _ escrowId code _ _ => some (.releaseCode escrowId code)
  | .confirmSafepayReceived _ escrowId _ _ => some (.confirmReceived escrowId)
  | .disputeSafepay _ escrowId reason _ _ => some (.dispute escrowId reason)
  | .courierWebhook courier eventId tracking releaseNow _ =>
    some (.courierEvent courier eventId tracking releaseNow)
  | .resolveSafepay escrowId decision note ban _ _ => some (.resolve escrowId decision note ban)
  | _ => none

/-- What `send` fingerprints. -/
def OverdraftService.sendPayload (senderAccountId receiverAccountId : Ulid) (amount : Money)
    (note : Option String) : Payload :=
  [("senderAccountId", .str senderAccountId.text),
    ("receiverAccountId", .str receiverAccountId.text), ("amountMinor", .int amount.minor),
    ("currency", .str amount.currency.code),
    ("note", match note with
      | some n => .str n
      | none => .null)]

/-- In the state `db` the request reserves `triple` with the fingerprint of `payload`. -/
inductive Submits (c : Ctx) (db : Database) : Request → IdempotencyTriple → Payload → Prop where
  | send {user : Ulid} {pin phone : String} {amount : Money} {note : Option String} {key : String}
      {requestId : Option String} {sender recipient : AccountRow}
      (hs : SqlAccountRepository.ofUser db user = some sender)
      (hr : SqlAccountRepository.ofPhone db phone = some recipient) :
      Submits c db (.createTransfer user pin phone amount note key requestId)
        ⟨user, SEND_ENDPOINT, key⟩ (sendPayload sender.id recipient.id amount note)
  | undo {user transferId : Ulid} {key : String} {requestId : Option String} :
      Submits c db (.undoTransfer user transferId key requestId)
        ⟨user, UndoableTransferService.undoEndpoint transferId, key⟩
        [("transferId", .str transferId.text)]
  | accept {user moneyRequestId : Ulid} {pin key : String} {requestId : Option String}
      {record : MoneyRequestRow} (hr : db.moneyRequests.find? moneyRequestId = some record) :
      Submits c db (.acceptRequest user pin moneyRequestId key requestId)
        ⟨user, TRANSFER_ENDPOINT, key⟩
        [("moneyRequestId", .str record.id.text), ("amountMinor", .int record.amountMinor)]
  | createPool {user : Ulid} {pin : String} {amount : Money} {key : String}
      {requestId : Option String} :
      Submits c db (.createPool user pin amount key requestId) ⟨user, POOL_ENDPOINT, key⟩
        [("amountMinor", .int amount.minor), ("currency", .str amount.currency.code)]
  | fundPool {user : Ulid} {pin : String} {amount : Money} {key : String}
      {requestId : Option String} {pool : PoolRow}
      (hp : SqlOverdraftRepository.poolOfSponsor db user = some pool) :
      Submits c db (.fundPool user pin amount key requestId)
        ⟨user, "POST:/api/v1/overdraft/pools/" ++ pool.id.text ++ "/fund", key⟩
        [("poolId", .str pool.id.text), ("amountMinor", .int amount.minor)]
  | grant {user : Ulid} {pin phone : String} {maxDraw : Int} {key : String}
      {requestId : Option String} :
      Submits c db (.createGrant user pin phone maxDraw key requestId) ⟨user, GRANT_ENDPOINT, key⟩
        [("beneficiaryPhone", .str phone), ("maxDrawMinor", .int maxDraw)]
  | createSafepay {user : Ulid} {pin phone : String} {amount : Money} {description : Option String}
      {key : String} {requestId : Option String} {seller : UserRow}
      (hs : SqlUserRepository.byPhone db phone = some seller) :
      Submits c db (.createSafepay user pin phone amount description key requestId)
        ⟨user, CREATE_ENDPOINT, key⟩ (createPayload seller.id amount description)
  | ship {user escrowId : Ulid} {courier tracking key : String} {requestId : Option String} :
      Submits c db (.shipSafepay user escrowId courier tracking key requestId)
        ⟨user, "POST:/api/v1/safepay/" ++ escrowId.text ++ "/ship", key⟩
        [("courier", .str courier), ("trackingNumber", .str tracking)]
  | releaseCode {user escrowId : Ulid} {code key : String} {requestId : Option String} :
      Submits c db (.releaseSafepayCode user escrowId code key requestId)
        (releaseCodeTriple escrowId user key) [("deliveryCode", .str code)]
  | confirmReceived {user escrowId : Ulid} {key : String} {requestId : Option String} :
      Submits c db (.confirmSafepayReceived user escrowId key requestId)
        ⟨user, "POST:/api/v1/safepay/" ++ escrowId.text ++ "/confirm-received", key⟩
        [("escrowId", .str escrowId.text)]
  | dispute {user escrowId : Ulid} {reason key : String} {requestId : Option String} :
      Submits c db (.disputeSafepay user escrowId reason key requestId)
        ⟨user, "POST:/api/v1/safepay/" ++ escrowId.text ++ "/dispute", key⟩
        [("reason", .str reason)]
  | courierEvent {courier eventId tracking : String} {releaseNow : Bool} {signature : Option String}
      {escrow : EscrowRow} (he : SqlSafePayRepository.findByTracking c courier tracking (begin db) =
        .ok (some escrow) (begin db)) :
      Submits c db (.courierWebhook courier eventId tracking releaseNow signature)
        (courierTriple escrow courier eventId)
        [("trackingNumber", .str tracking), ("releaseImmediately", .bool releaseNow)]
  | resolve {escrowId : Ulid} {decision : Decision} {note : String} {ban : Bool} {key : String}
      {requestId : Option String} :
      Submits c db (.resolveSafepay escrowId decision note ban key requestId)
        ⟨escrowId, "POST:/api/v1/admin/safepay/" ++ escrowId.text ++ "/resolve", key⟩
        [("decision", .str decision.text), ("note", .str note), ("banBuyer", .bool ban)]

/-! ### One command -/

/-- The keyed commands. -/
inductive Command where
  | send | undo | accept | createPool | fundPool | grant | createSafepay | ship | releaseCode
  | confirmReceived | dispute | courierEvent | resolve
deriving DecidableEq

def Intent.command : Intent → Command
  | .send .. => .send
  | .undo .. => .undo
  | .accept .. => .accept
  | .createPool .. => .createPool
  | .fundPool .. => .fundPool
  | .grant .. => .grant
  | .createSafepay .. => .createSafepay
  | .ship .. => .ship
  | .releaseCode .. => .releaseCode
  | .confirmReceived .. => .confirmReceived
  | .dispute .. => .dispute
  | .courierEvent .. => .courierEvent
  | .resolve .. => .resolve

/-- The fields of a command's payload. -/
def Command.fields : Command → List String
  | send => ["senderAccountId", "receiverAccountId", "amountMinor", "currency", "note"]
  | undo => ["transferId"]
  | accept => ["moneyRequestId", "amountMinor"]
  | createPool => ["amountMinor", "currency"]
  | fundPool => ["poolId", "amountMinor"]
  | grant => ["beneficiaryPhone", "maxDrawMinor"]
  | createSafepay => ["sellerUserId", "amountMinor", "currency", "description"]
  | ship => ["courier", "trackingNumber"]
  | releaseCode => ["deliveryCode"]
  | confirmReceived => ["escrowId"]
  | dispute => ["reason"]
  | courierEvent => ["trackingNumber", "releaseImmediately"]
  | resolve => ["decision", "note", "banBuyer"]

theorem Command.nodup_fields (x : Command) : x.fields.Nodup := by
  cases x <;> decide

/-- No two commands fingerprint the same fields. -/
theorem Command.eq_of_fields {x y : Command} (h : x.fields.Perm y.fields) : x = y := by
  cases x <;> cases y <;> first | rfl | exact absurd h (by decide)

section Separation

variable {c c' : Ctx} {db db' : Database} {r r' : Request} {i i' : Intent}
  {t t' : IdempotencyTriple} {p p' : Payload}

theorem Submits.fields (h : Submits c db r t p) (hi : r.intent? = some i) :
    p.map Prod.fst = i.command.fields := by
  cases h <;> cases hi <;> rfl

/-- Equal texts come from one command. -/
theorem Submits.command_eq (h : Submits c db r t p) (h' : Submits c' db' r' t' p')
    (hi : r.intent? = some i) (hi' : r'.intent? = some i')
    (heq : JsonText.dumps p = JsonText.dumps p') : i.command = i'.command := by
  refine Command.eq_of_fields ?_
  rw [← h.fields hi, ← h'.fields hi']
  exact (JsonText.perm_of_dumps_eq heq).map Prod.fst

/-- An optional text as a payload has it. -/
theorem optional_inj {x y : Option String} (h : (match x with
      | some v => Scalar.str v
      | none => .null) = match y with
      | some v => Scalar.str v
      | none => .null) : x = y := by
  cases x with
  | none =>
    cases y with
    | none => rfl
    | some w => cases h
  | some v =>
    cases y with
    | none => cases h
    | some w =>
      cases h
      rfl

theorem Money.ext_minor {x y : Money} (h : x.minor = y.minor) : x = y := by
  cases x with
  | mk minor currency =>
    cases y with
    | mk minor' currency' =>
      cases currency
      cases currency'
      cases h
      rfl

theorem Decision.text_inj {x y : Decision} (h : x.text = y.text) : x = y := by
  cases x <;> cases y <;> first | rfl | exact absurd h (by decide)

/-- An endpoint names the identifier between its two ends. -/
theorem endpoint_inj {x y : String} {u v : Ulid} (h : x ++ u.text ++ y = x ++ v.text ++ y) : u = v :=
  Ulid.text_injective ((String.append_right_inj x).1 ((String.append_left_inj y).1 h))

/-- Of one command under one triple, the payloads are equal exactly when the intents are. -/
theorem Submits.payload_iff (h : Submits c db r t p) (h' : Submits c' db' r' t' p')
    (hl : db.Later db') (hdir : db'.Directory) (ht : t = t') (hi : r.intent? = some i)
    (hi' : r'.intent? = some i') (hc : i.command = i'.command) : p = p' ↔ i = i' := by
  cases h <;> cases h' <;> obtain rfl := Option.some.inj hi <;>
    obtain rfl := Option.some.inj hi' <;> try (cases hc; done)
  case send.send hs hr _ _ _ _ _ _ _ _ _ hs' hr' =>
    obtain ⟨rfl, -, rfl⟩ := IdempotencyTriple.mk.inj ht
    have hsender := hl.ofUser hdir hs hs'
    have hphone := hl.ofPhone hdir hr hr'
    constructor
    · intro hp
      simp only [sendPayload, List.cons.injEq, Prod.mk.injEq, Scalar.str.injEq, Scalar.int.injEq,
        true_and, and_true] at hp
      obtain ⟨-, hrecipient, hamount, hnote⟩ := hp
      rw [hphone.1 (Ulid.text_injective hrecipient), Money.ext_minor hamount, optional_inj hnote]
    · intro hp
      obtain ⟨hsame, rfl, rfl⟩ := Intent.send.inj hp
      rw [hsender, hphone.2 hsame]
  case accept.accept hr _ _ _ _ _ _ hr' =>
    have hid : _ = _ := Table.key_of_find? hr
    have hid' : _ = _ := Table.key_of_find? hr'
    constructor
    · intro hp
      simp only [List.cons.injEq, Prod.mk.injEq, Scalar.str.injEq, true_and] at hp
      rw [← hid, ← hid', Ulid.text_injective hp.1]
    · intro hp
      obtain rfl := Intent.accept.inj hp
      obtain ⟨later, hlater, hterms⟩ := hl.terms _ _ hr
      obtain rfl := Option.some.inj (hr'.symm.trans hlater)
      rw [hid, hid', hterms.amount]
  case createSafepay.createSafepay hs _ _ _ _ _ _ _ _ hs' =>
    have hphone := hl.byPhone hdir hs hs'
    constructor
    · intro hp
      simp only [createPayload, List.cons.injEq, Prod.mk.injEq, Scalar.str.injEq, Scalar.int.injEq,
        true_and, and_true] at hp
      obtain ⟨hseller, hamount, hdescription⟩ := hp
      rw [hphone.1 (Ulid.text_injective hseller), Money.ext_minor hamount,
        optional_inj hdescription]
    · intro hp
      obtain ⟨hsame, rfl, rfl⟩ := Intent.createSafepay.inj hp
      rw [hphone.2 hsame]
  case fundPool.fundPool =>
    obtain ⟨-, hendpoint, -⟩ := IdempotencyTriple.mk.inj ht
    rw [endpoint_inj hendpoint]
    constructor
    · intro hp
      simp only [List.cons.injEq, Prod.mk.injEq, Scalar.int.injEq, true_and, and_true] at hp
      rw [Money.ext_minor hp]
    · intro hp
      obtain rfl := Intent.fundPool.inj hp
      rfl
  case undo.undo =>
    obtain ⟨-, hendpoint, -⟩ := IdempotencyTriple.mk.inj ht
    rw [endpoint_inj hendpoint]
    simp
  case createPool.createPool =>
    constructor
    · intro hp
      simp only [List.cons.injEq, Prod.mk.injEq, Scalar.int.injEq, true_and, and_true] at hp
      rw [Money.ext_minor hp]
    · intro hp
      rw [Intent.createPool.inj hp]
  case grant.grant => simp
  case ship.ship =>
    obtain ⟨-, hendpoint, -⟩ := IdempotencyTriple.mk.inj ht
    rw [endpoint_inj hendpoint]
    simp
  case releaseCode.releaseCode =>
    obtain ⟨-, hendpoint, -⟩ := IdempotencyTriple.mk.inj ht
    rw [endpoint_inj hendpoint]
    simp
  case confirmReceived.confirmReceived =>
    obtain ⟨-, hendpoint, -⟩ := IdempotencyTriple.mk.inj ht
    rw [endpoint_inj hendpoint]
    simp
  case dispute.dispute =>
    obtain ⟨-, hendpoint, -⟩ := IdempotencyTriple.mk.inj ht
    rw [endpoint_inj hendpoint]
    simp
  case courierEvent.courierEvent =>
    obtain ⟨-, hendpoint, hevent⟩ := IdempotencyTriple.mk.inj ht
    rw [(String.append_right_inj _).1 ((String.append_left_inj _).1 hendpoint), hevent]
    simp
  case resolve.resolve =>
    obtain ⟨rfl, -⟩ := IdempotencyTriple.mk.inj ht
    constructor
    · intro hp
      simp only [List.cons.injEq, Prod.mk.injEq, Scalar.str.injEq, Scalar.bool.injEq, true_and,
        and_true] at hp
      rw [Decision.text_inj hp.1, hp.2.1, hp.2.2]
    · intro hp
      obtain ⟨-, rfl, rfl, rfl⟩ := Intent.resolve.inj hp
      rfl

/-- The texts of two submissions under one triple are equal exactly when the intents are. -/
theorem Submits.dumps_iff (h : Submits c db r t p) (h' : Submits c' db' r' t p')
    (hl : db.Later db') (hdir : db'.Directory) (hi : r.intent? = some i)
    (hi' : r'.intent? = some i') : JsonText.dumps p = JsonText.dumps p' ↔ i = i' := by
  constructor
  · intro heq
    have hc := h.command_eq h' hi hi' heq
    refine (h.payload_iff h' hl hdir rfl hi hi' hc).1 ((JsonText.dumps_eq_iff_of_keys ?_ ?_).1 heq)
    · rw [h.fields hi]
      exact Command.nodup_fields _
    · rw [h.fields hi, h'.fields hi', hc]
  · intro heq
    rw [(h.payload_iff h' hl hdir rfl hi hi' (congrArg Intent.command heq)).2 heq]

end Separation

/-! ### What the code records -/

section Recording

variable {c : Ctx} {db : Database} {r : Request} {i : Intent} {s s' : Session}

/-- A state has one submission for a request. -/
theorem Submits.unique {t t' : IdempotencyTriple} {p p' : Payload} (h : Submits c db r t p)
    (h' : Submits c db r t' p') : t = t' ∧ p = p' := by
  cases h <;> cases h'
  case send.send hs hr _ _ hs' hr' =>
    obtain rfl := Option.some.inj (hs.symm.trans hs')
    obtain rfl := Option.some.inj (hr.symm.trans hr')
    exact ⟨rfl, rfl⟩
  case accept.accept hr _ hr' =>
    obtain rfl := Option.some.inj (hr.symm.trans hr')
    exact ⟨rfl, rfl⟩
  case fundPool.fundPool hp _ hp' =>
    obtain rfl := Option.some.inj (hp.symm.trans hp')
    exact ⟨rfl, rfl⟩
  case createSafepay.createSafepay hs _ hs' =>
    obtain rfl := Option.some.inj (hs.symm.trans hs')
    exact ⟨rfl, rfl⟩
  case courierEvent.courierEvent he _ he' =>
    rw [he] at he'
    cases he'
    exact ⟨rfl, rfl⟩
  all_goals exact ⟨rfl, rfl⟩

/-- A command behind the PIN that was answered ran after the check. -/
theorem pinned_ok {α : Type} {u : Ulid} {pin : String} {op : Tx α} {f : α → Reply} {reply : Reply}
    (h : (runPinProtected c u pin op >>= fun a => pure (a.map f)) s = .ok (.ok reply) s') :
    ∃ s₁ a, SameButCounters s s₁ ∧ op s₁ = .ok a s' := by
  obtain ⟨a, s₁, h₁, h⟩ := bind_ok.1 h
  obtain ⟨hr, rfl⟩ := pure_ok.1 h
  cases a with
  | error e => cases hr
  | ok a =>
    obtain ⟨s₀, hpin, hop⟩ := runPinProtected_ok h₁
    exact ⟨s₀, a, hpin, hop⟩

theorem SameButCounters.keyed (c : Ctx) (h : SameButCounters s s') (hk : Keyed ⟨.idle, s.db⟩) :
    Keyed ⟨.idle, s'.db⟩ :=
  hk.steps (h.steps (c := c) (L := .all))

theorem SameButCounters.ofUser {u : Ulid} (h : SameButCounters s s') :
    SqlAccountRepository.ofUser s'.db u = SqlAccountRepository.ofUser s.db u := by
  obtain ⟨users, -, e⟩ := h
  rw [e]
  rfl

theorem SameButCounters.byPhone {phone : String} {u' : UserRow} (h : SameButCounters s s')
    (hu' : SqlUserRepository.byPhone s'.db phone = some u') :
    ∃ u, SqlUserRepository.byPhone s.db phone = some u ∧ u.id = u'.id := by
  obtain ⟨users, hu, e⟩ := h
  refine SameNumbers.byPhone ?_ hu'
  rw [e]
  exact hu

theorem SameButCounters.ofPhone {phone : String} {a : AccountRow} (h : SameButCounters s s')
    (ha : SqlAccountRepository.ofPhone s'.db phone = some a) :
    SqlAccountRepository.ofPhone s.db phone = some a := by
  obtain ⟨u', hu', ha⟩ := Option.bind_eq_some_iff.1 ha
  obtain ⟨u, hu, hid⟩ := h.byPhone hu'
  rw [← hid, h.ofUser] at ha
  exact Option.bind_eq_some_iff.2 ⟨u, hu, ha⟩

theorem MoneyRequestService.accept_recorded {id user : Ulid} {key : String}
    {requestId : Option String} {a : MoneyRequestResult} (hk : Keyed ⟨.idle, s.db⟩)
    (h : MoneyRequestService.accept c id user key requestId s = .ok a s') :
    ∃ record, s.db.moneyRequests.find? id = some record ∧
      s'.db.Recorded ⟨user, TRANSFER_ENDPOINT, key⟩ (fingerprintRequest c
        [("moneyRequestId", .str record.id.text), ("amountMinor", .int record.amountMinor)]) := by
  obtain ⟨now, s₁, h₁, h⟩ := bind_ok.1 h
  obtain ⟨e₁, -⟩ := now_ok h₁
  obtain ⟨found, s₂, h₂, h⟩ := bind_ok.1 h
  obtain ⟨rfl, rfl⟩ := readDb_ok.1 h₂
  obtain ⟨record, s₃, h₃, h⟩ := bind_ok.1 h
  obtain ⟨hf, rfl⟩ := orRaise_ok.1 h₃
  obtain ⟨payer, s₄, h₄, h⟩ := bind_ok.1 h
  obtain ⟨-, rfl⟩ := readDb_ok.1 h₄
  obtain ⟨_, s₅, h₅, h⟩ := bind_ok.1 h
  obtain ⟨-, rfl⟩ := ensure_ok.1 h₅
  obtain ⟨_, s₆, h₆, h⟩ := bind_ok.1 h
  obtain ⟨-, rfl⟩ := ensure_ok.1 h₆
  rw [e₁] at hf
  refine ⟨record, hf, ?_⟩
  split at h
  · obtain ⟨_, s₇, -, h⟩ := bind_ok.1 h
    exact (raise_ok.1 h).elim
  -- the payment records the key; what follows leaves the records alone
  obtain ⟨transfer, s₇, h₇, h⟩ := bind_ok.1 h
  obtain ⟨⟨row, hrow, -, hfp⟩, -⟩ := execute_recorded (e₁ ▸ hk) h₇
  obtain ⟨n, s₈, h₈, h⟩ := bind_ok.1 h
  obtain ⟨_, s₉, h₉, h⟩ := bind_ok.1 h
  obtain ⟨hn, rfl⟩ := ensure_ok.1 h₉
  obtain ⟨_, -, -, -, e₈⟩ := updateWhere_db h₈ hn
  obtain ⟨_, s₁₀, h₁₀, h⟩ := bind_ok.1 h
  obtain ⟨-, e₁₀⟩ := SqlOutboxPublisher.append_ok h₁₀
  obtain ⟨_, s₁₁, h₁₁, h⟩ := bind_ok.1 h
  obtain ⟨logs, e₁₁⟩ := SqlAuditRepository.record_ok h₁₁
  obtain ⟨-, rfl⟩ := pure_ok.1 h
  rw [e₁₁, e₁₀, e₈]
  exact ⟨row, hrow, hfp⟩

theorem OverdraftService.fundPool_recorded {user : Ulid} {amount : Money} {key : String}
    {requestId : Option String} {b : Body} (hk : Keyed ⟨.idle, s.db⟩)
    (h : OverdraftService.fundPool c user amount key requestId s = .ok b s') :
    ∃ pool, SqlOverdraftRepository.poolOfSponsor s.db user = some pool ∧
      s'.db.Recorded ⟨user, "POST:/api/v1/overdraft/pools/" ++ pool.id.text ++ "/fund", key⟩
        (fingerprintRequest c [("poolId", .str pool.id.text), ("amountMinor", .int amount.minor)]) := by
  obtain ⟨found, s₁, h₁, h⟩ := bind_ok.1 h
  obtain ⟨rfl, rfl⟩ := readDb_ok.1 h₁
  obtain ⟨pool, s₂, h₂, h⟩ := bind_ok.1 h
  obtain ⟨hpool, rfl⟩ := orRaise_ok.1 h₂
  obtain ⟨account, s₃, h₃, h⟩ := bind_ok.1 h
  obtain ⟨-, rfl⟩ := readDb_ok.1 h₃
  obtain ⟨sponsor, s₄, h₄, h⟩ := bind_ok.1 h
  obtain ⟨-, rfl⟩ := orRaise_ok.1 h₄
  obtain ⟨transfer, s₅, h₅, h⟩ := bind_ok.1 h
  obtain ⟨⟨row, hrow, -, hfp⟩, -⟩ := execute_recorded hk h₅
  obtain ⟨poolAccount, s₆, h₆, h⟩ := bind_ok.1 h
  obtain ⟨-, rfl⟩ := readDb_ok.1 h₆
  obtain ⟨-, rfl⟩ := pure_ok.1 h
  rw [Option.filter_eq_some_iff] at hpool
  exact ⟨pool, hpool.1, row, hrow, hfp⟩

/-- What an answered request leaves under its key is the fingerprint of its submission. -/
theorem answered_submits {reply : Reply} (hi : r.intent? = some i) (hk : Keyed ⟨.idle, db⟩)
    (h : handle c r (begin db) = .ok (.ok reply) s') :
    ∃ t p, Submits c db r t p ∧ s'.db.Recorded t (fingerprintRequest c p) := by
  have hpost : ∀ kind, Licence.all.Covers c kind := fun _ _ _ _ _ _ _ => trivial
  have hanswer : ∀ row, Answerable c row → Licence.all.answer row := fun _ _ => trivial
  cases r <;> cases hi <;> rw [handle] at h
  case createTransfer.refl =>
    obtain ⟨s₁, b, hpin, hop⟩ := pinned_ok h
    obtain ⟨sender, recipient, hs, hr, ha⟩ := createTransferOp_answered (hpost _) (hpost _) hanswer
      (fun _ _ _ => trivial) hop
    rw [hpin.ofUser] at hs
    exact ⟨_, _, .send hs (hpin.ofPhone hr), ha.recorded⟩
  case createSafepay.refl =>
    obtain ⟨s₁, b, hpin, hop⟩ := pinned_ok h
    obtain ⟨seller, hs, ha⟩ := createSafepayOp_answered (hpost _) hanswer hop
    obtain ⟨u, hu, hid⟩ := hpin.byPhone hs
    rw [← hid] at ha
    exact ⟨_, _, .createSafepay hu, ha.recorded⟩
  case createPool.refl =>
    obtain ⟨s₁, b, -, hop⟩ := pinned_ok h
    exact ⟨_, _, .createPool, (OverdraftService.createPool_answered (hpost _) hanswer hop).recorded⟩
  case createGrant.refl =>
    obtain ⟨s₁, b, -, hop⟩ := pinned_ok h
    exact ⟨_, _, .grant, (OverdraftService.grantAccess_answered hanswer hop).recorded⟩
  case fundPool.refl =>
    obtain ⟨s₁, b, hpin, hop⟩ := pinned_ok h
    obtain ⟨pool, hp, hrec⟩ := OverdraftService.fundPool_recorded (hpin.keyed c hk) hop
    obtain ⟨users, -, e⟩ := hpin
    rw [e] at hp
    exact ⟨_, _, .fundPool hp, hrec⟩
  case acceptRequest.refl =>
    obtain ⟨s₁, a, hpin, hop⟩ := pinned_ok h
    obtain ⟨record, hr, hrec⟩ := MoneyRequestService.accept_recorded (hpin.keyed c hk) hop
    obtain ⟨users, -, e⟩ := hpin
    rw [e] at hr
    exact ⟨_, _, .accept hr, hrec⟩
  all_goals
    obtain ⟨b, s₁, h₁, h⟩ := bind_ok.1 h
    obtain ⟨-, rfl⟩ := pure_ok.1 h
  case undoTransfer.refl =>
    exact ⟨_, _, .undo, (UndoableTransferService.undo_answered (hpost _) hanswer h₁).recorded⟩
  case shipSafepay.refl =>
    exact ⟨_, _, .ship, (SafePayService.markShipped_answered hanswer
      (fun _ _ _ _ => trivial) h₁).recorded⟩
  case releaseSafepayCode.refl =>
    exact ⟨_, _, .releaseCode, (SafePayService.releaseWithCode_answered (hpost _) hanswer
      (fun _ _ _ _ _ _ => trivial) h₁).recorded⟩
  case confirmSafepayReceived.refl =>
    exact ⟨_, _, .confirmReceived, (SafePayService.confirmReceived_answered (hpost _) hanswer
      (fun _ _ _ _ => trivial) h₁).recorded⟩
  case disputeSafepay.refl =>
    exact ⟨_, _, .dispute, (SafePayService.dispute_answered hanswer
      (fun _ _ _ _ => trivial) h₁).recorded⟩
  case resolveSafepay.refl =>
    exact ⟨_, _, .resolve, (SafePayService.resolveDispute_answered (hpost _) (hpost _) hanswer
      (fun _ _ _ => ⟨fun _ => trivial, fun _ => trivial⟩) h₁).recorded⟩
  case courierWebhook.refl =>
    obtain ⟨_, s₂, h₂, h₁⟩ := bind_ok.1 h₁
    obtain ⟨-, rfl⟩ := ensure_ok.1 h₂
    obtain ⟨e, he, ha⟩ := SafePayService.courierDelivered_answered (hpost _) hanswer
      (fun _ _ _ => ⟨trivial, fun _ => trivial, fun _ _ _ _ _ _ _ => trivial⟩) h₁
    exact ⟨_, _, .courierEvent he, ha.recorded⟩

end Recording

/-! ### Runs -/

theorem serveAll_keyed (d : Deployment) (now : Time) (calls : List Call) :
    Keyed ⟨.idle, serveAll d calls (migrated now)⟩ := by
  have hinv := serveAll_inv d now calls
  exact ⟨hinv.reserved, hinv.processing, hinv.journalled⟩

theorem serveAll_append_later (d : Deployment) (now : Time) (calls later : List Call) :
    (serveAll d calls (migrated now)).Later (serveAll d (calls ++ later) (migrated now)) := by
  rw [serveAll_append]
  exact serveAll_later d later _

/-- Whatever two keyed requests meet under one triple, in whatever two states of a run: their
    canonical texts are equal exactly when they ask for the same.  Dictionaries in general
    have one text exactly when they differ in the order of their fields at most, and the text
    of an answered request is what its record carries the hash of. -/
theorem fingerprints_separate_intents (d : Deployment) (now : Time) (calls later : List Call)
    (o o' : Oracle) (r r' : Request) (i i' : Intent) (t : IdempotencyTriple) (p p' : Payload)
    (hi : r.intent? = some i) (hi' : r'.intent? = some i')
    (h : Submits (d.ctx o) (serveAll d calls (migrated now)) r t p)
    (h' : Submits (d.ctx o') (serveAll d (calls ++ later) (migrated now)) r' t p') :
    (JsonText.dumps p = JsonText.dumps p' ↔ i = i') ∧
      (∀ q q' : Payload, (q.map Prod.fst).Nodup →
        (JsonText.dumps q = JsonText.dumps q' ↔ q.Perm q')) ∧
      ∀ reply s, handle (d.ctx o) r (begin (serveAll d calls (migrated now))) =
        .ok (.ok reply) s → s.db.Recorded t (d.crypto.sha256 (JsonText.dumps p)) := by
  refine ⟨h.dumps_iff h' (serveAll_append_later d now calls later) (serveAll_directory d now _) hi hi',
    fun q q' hq => JsonText.dumps_eq_iff hq, ?_⟩
  intro reply s hok
  obtain ⟨t₁, p₁, h₁, hrec⟩ := answered_submits hi (serveAll_keyed d now calls) hok
  obtain ⟨rfl, rfl⟩ := h.unique h₁
  exact hrec

namespace Sample

/-- Two users register. -/
def pair : List Call := [register 1 "01711111111", register 2 "01722222222"]

/-- The first sends to the second. -/
def noted (pin : String) (note : Option String) : Request :=
  .createTransfer (id 1 1) pin "01722222222" (.fromMinor 5000) note "key" none

theorem pair_sender :
    (SqlAccountRepository.ofUser (serveAll deployment pair (migrated 0)) (id 1 1)).isSome = true := by
  decide +kernel

theorem pair_recipient : (SqlAccountRepository.ofPhone (serveAll deployment pair (migrated 0))
    "01722222222").isSome = true := by
  decide +kernel

end Sample

/-- A note with a quote in it is not the note that ends there. -/
theorem fingerprints_separate_notes : ∃ t p p',
    Submits (Sample.deployment.ctx (Sample.oracle 3 Sample.start))
      (serveAll Sample.deployment Sample.pair (migrated 0))
      (Sample.noted "1234" (some "rent\",\"pin\":\"")) t p ∧
    Submits (Sample.deployment.ctx (Sample.oracle 4 Sample.start))
      (serveAll Sample.deployment (Sample.pair ++ []) (migrated 0))
      (Sample.noted "9999" (some "rent")) t p' ∧
    JsonText.dumps p ≠ JsonText.dumps p' := by
  obtain ⟨sender, hs⟩ := Option.isSome_iff_exists.1 Sample.pair_sender
  obtain ⟨recipient, hr⟩ := Option.isSome_iff_exists.1 Sample.pair_recipient
  have h : Submits (Sample.deployment.ctx (Sample.oracle 3 Sample.start)) _
      (Sample.noted "1234" (some "rent\",\"pin\":\"")) _ _ := .send hs hr
  have h' : Submits (Sample.deployment.ctx (Sample.oracle 4 Sample.start)) _
      (Sample.noted "9999" (some "rent")) _ _ := .send hs hr
  refine ⟨_, _, _, h, h', fun heq => ?_⟩
  have hsame := (fingerprints_separate_intents Sample.deployment 0 Sample.pair [] _ _ _ _ _ _ _ _ _
    rfl rfl h h').1.1 heq
  exact absurd (Intent.send.inj hsame).2.2 (by decide)

theorem serveAll_recorded {t : IdempotencyTriple} {f : String} (d : Deployment) (calls : List Call)
    {db : Database} (h : db.Recorded t f) : (serveAll d calls db).Recorded t f := by
  induction calls generalizing db with
  | nil => exact h
  | cons call calls ih =>
    refine ih ?_
    rcases serve_cases d call db with he | hs
    · rw [he]
      exact h
    · exact hs.recorded h

/-- So a request under a used key is answered only when it asks for what was asked before. -/
theorem answered_alike (d : Deployment) (hsha : Function.Injective d.crypto.sha256) (now : Time)
    (calls later : List Call) (o o' : Oracle) (r r' : Request) (i i' : Intent)
    (t : IdempotencyTriple) (p p' : Payload) (reply reply' : Reply) (s s' : Session)
    (hi : r.intent? = some i) (hi' : r'.intent? = some i')
    (h : Submits (d.ctx o) (serveAll d calls (migrated now)) r t p)
    (h' : Submits (d.ctx o') (serveAll d (calls ++ ⟨o, r⟩ :: later) (migrated now)) r' t p')
    (hok : handle (d.ctx o) r (begin (serveAll d calls (migrated now))) = .ok (.ok reply) s)
    (hok' : handle (d.ctx o') r' (begin (serveAll d (calls ++ ⟨o, r⟩ :: later) (migrated now))) =
      .ok (.ok reply') s') : i = i' := by
  have hrec : (serveAll d (calls ++ ⟨o, r⟩ :: later) (migrated now)).Recorded t
      (d.crypto.sha256 (JsonText.dumps p)) := by
    obtain ⟨t₁, p₁, h₁, hrec⟩ := answered_submits hi (serveAll_keyed d now calls) hok
    obtain ⟨rfl, rfl⟩ := h.unique h₁
    rw [serveAll_append, serveAll, serve, commit_of_ok hok]
    exact serveAll_recorded d later hrec
  have hrec' : s'.db.Recorded t (d.crypto.sha256 (JsonText.dumps p')) := by
    obtain ⟨t₁, p₁, h₁, hrec'⟩ := answered_submits hi' (serveAll_keyed d now _) hok'
    obtain ⟨rfl, rfl⟩ := h'.unique h₁
    exact hrec'
  -- the record of the first answer is still there after the second
  obtain ⟨row, hrow, hf⟩ := (handle_steps hok').recorded hrec
  obtain ⟨row', hrow', hf'⟩ := hrec'
  obtain rfl := Option.some.inj (hrow.symm.trans hrow')
  exact (h.dumps_iff h' (serveAll_append_later d now calls _) (serveAll_directory d now _) hi hi').1
    (hsha (hf.symm.trans hf'))

end MoneyMovement

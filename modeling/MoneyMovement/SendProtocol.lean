/-
  MoneyMovement/SendProtocol.lean
  ===============================
  **The screen and the server together.**

  The screen's calls go onto the wire.  Each may reach the server never, late, or more than once,
  and its answer may be lost, or be an error of whatever kind.  Meanwhile everybody else's
  requests are served, and every request is tried as often as its unit of work tries it.

  `send_screen_honest` is what the screen may be trusted with: under the key of the present intent
  there is at most one hold, as the form has it; `succeeded` is shown when there is exactly that
  one, with its own data on the receipt; and `REFUNDED` when it is paid back.  It rests on three
  promises: that the digest of a drawn key is no other key's of the user, that a drawn key is new,
  and that the transactions of the server are isolated, each a step of its own (`SerialOrder`).
-/
import MoneyMovement.MoneyRequests
import MoneyMovement.SendScreen
import MoneyMovement.UnitOfWork

namespace MoneyMovement

open Serving OverdraftService

/-! ### The wire -/

/-- A call of the screen that is to change something. -/
inductive Message where
  | transfer (body : TransferRequest) (key : Option String)
  | undo (transferId : Ulid) (key : Option String)
deriving DecidableEq

/-- The request a call becomes, when the API lets it in. -/
def Message.request (user : Ulid) (requestId : Option String) : Message → Option Request
  | .transfer body key =>
    match requireIdempotencyKey key with
    | .ok key => body.accepted user key requestId
    | .error _ => none
  | .undo transferId key =>
    match requireIdempotencyKey key with
    | .ok key => some (.undoTransfer user transferId key requestId)
    | .error _ => none

/-- What the screen awaits: a recipient, with what the server has found so far, or the answer to
    a call. -/
inductive Awaiting where
  | lookup (phone : String) (found : Option Recipient)
  | reply (m : Message)

/-- The server, one screen of the signed-in user, and what is between them. -/
structure SendWorld where
  server : System Database Request Oracle AppError Failure (Except AppError Reply)
  screen : SendScreen
  awaiting : Option Awaiting
  wire : List Message
  /-- which ticket is which call's -/
  delivered : List (Nat × Message)

/-- What can happen. -/
inductive Move (uow : UnitOfWork) where
  /-- a request of somebody else arrives, or one that is under way is tried -/
  | server (e : Serving.Event Request Oracle uow.policy)
  /-- a call reaches the server -/
  | deliver (m : Message) (requestId : Option String)
  | setPhone (text : String)
  | setAmount (text : String)
  | setNote (text : String)
  | setPin (text : String)
  | lookupRecipient
  | lookupServed
  | lookupAnswered (key : ClientKey)
  /-- the lookup is answered without a body that can be read -/
  | lookupUnreadable (key : ClientKey)
  | back
  | confirmSend
  | transferAnswered (ticket : Nat) (readable : Bool) (undoKey : ClientKey)
  | undo (transferId : Ulid)
  | undoAnswered (ticket : Nat) (readable : Bool)
  /-- `fetch` throws -/
  | connectionLost
  /-- an error status, whoever sends it -/
  | refused (message : String)
  | reset
  /-- the component is unmounted, and mounted again -/
  | leave

namespace Move

variable {uow : UnitOfWork}

/-- The keys drawn. -/
def draws : Move uow → List String
  | .lookupAnswered key | .lookupUnreadable key => [key.text]
  | .transferAnswered _ _ undoKey => [undoKey.text]
  | _ => []

/-- The request that comes from elsewhere. -/
def foreign : Move uow → Option Request
  | .server (.arrive r) => some r
  | .server (.direct _ r) => some r
  | _ => none

end Move

namespace SendWorld

def initial (db : Database) : SendWorld := ⟨.initial db, .mounted, none, [], []⟩

/-- The answer to a call that has gone through, when this ticket is the call's. -/
def answer (w : SendWorld) (ticket : Nat) (m : Message) : Option Body :=
  if (ticket, m) ∈ w.delivered then
    match w.server.tickets[ticket]? with
    | some ⟨_, _, .answered (.ok (.body b))⟩ => some b
    | _ => none
  else none

/-- A call goes out, and its answer is awaited. -/
def calling (w : SendWorld) (screen : SendScreen) (m : Message) : SendWorld :=
  { w with screen := screen, awaiting := some (.reply m), wire := m :: w.wire }

/-- What was awaited is settled. -/
def settled (w : SendWorld) (screen : SendScreen) : SendWorld :=
  { w with screen := screen, awaiting := none }

/-- `NETWORK_ERROR` of `request`. -/
def cannotReach : String := "Cannot reach the server."

/-- The message of `UnknownOutcomeError`. -/
def couldNotConfirm : String := "We could not confirm whether this went through."

/-- The screen after `fetch` has thrown: without a key, an error like any other. -/
def afterLoss (s : SendScreen) : Awaiting → SendScreen
  | .lookup _ _ => s.failed cannotReach
  | .reply (.transfer _ key) => if key.getD "" = "" then s.refused cannotReach else s.unsure
  | .reply (.undo _ key) => s.failed (if key.getD "" = "" then cannotReach else couldNotConfirm)

/-- The screen after an error status. -/
def afterError (s : SendScreen) (message : String) : Awaiting → SendScreen
  | .lookup _ _ => s.failed message
  | .reply (.transfer _ _) => s.refused message
  | .reply (.undo _ _) => s.failed message

/-- The undo button is shown, and not greyed out, for this transfer. -/
def CanUndo (s : SendScreen) (transferId : Ulid) : Prop :=
  s.step = .succeeded ∧ s.busy = false ∧
    s.receipt.bind (·.str? "status") = some "PENDING_UNDO" ∧
    s.receipt.bind (·.str? "transferId") = some transferId.text

instance (s : SendScreen) (transferId : Ulid) : Decidable (CanUndo s transferId) :=
  inferInstanceAs (Decidable (_ ∧ _ ∧ _ ∧ _))

section Step

variable (d : Deployment) (uow : UnitOfWork) (user : Ulid)

/-- A move that its time has not come for changes nothing. -/
def step (w : SendWorld) : Move uow → SendWorld
  | .server e => { w with server := w.server.step (service d) uow.policy e }
  | .deliver m requestId =>
    match m.request user requestId with
    | some r =>
      if m ∈ w.wire then
        { w with
          server := w.server.step (service d) uow.policy (.arrive r)
          delivered := (w.server.tickets.length, m) :: w.delivered }
      else w
    | none => w
  | .setPhone text =>
    if w.screen.step = .compose then { w with screen := { w.screen with phone := text } } else w
  | .setAmount text =>
    if w.screen.step = .compose then { w with screen := { w.screen with amount := text } } else w
  | .setNote text =>
    if w.screen.step = .compose then { w with screen := { w.screen with note := text } } else w
  | .setPin text =>
    if w.screen.step = .review then { w with screen := { w.screen with pin := text } } else w
  | .lookupRecipient =>
    if w.screen.step = .compose ∧ w.screen.composeReady = true ∧ w.screen.busy = false then
      { w with screen := w.screen.waiting, awaiting := some (.lookup w.screen.phone none) }
    else w
  | .lookupServed =>
    match w.awaiting with
    | some (.lookup phone _) =>
      match lookupRecipient w.server.store user phone with
      | .ok found => { w with awaiting := some (.lookup phone (some found)) }
      | .error _ => w
    | _ => w
  | .lookupAnswered key =>
    match w.awaiting with
    | some (.lookup _ (some found)) => w.settled (w.screen.lookedUp found key.text)
    | _ => w
  -- The review of no recipient cannot be rendered: React takes everything down, until a reload.
  | .lookupUnreadable _ =>
    match w.awaiting with
    | some (.lookup _ _) => w.settled .mounted
    | _ => w
  | .back =>
    if w.screen.step = .review then { w with screen := { w.screen with step := .compose } } else w
  | .confirmSend =>
    if (w.screen.step = .review ∨ w.screen.step = .unknown) ∧ w.screen.busy = false ∧
        4 ≤ utf16Length w.screen.pin then
      w.calling w.screen.submitting (.transfer w.screen.request w.screen.idempotencyKey)
    else w
  | .transferAnswered ticket readable undoKey =>
    match w.awaiting with
    | some (.reply (.transfer body key)) =>
      match w.answer ticket (.transfer body key) with
      | some data => w.settled (w.screen.sent (if readable then some data else none) undoKey.text)
      | none => w
    | _ => w
  | .undo transferId =>
    if CanUndo w.screen transferId then
      w.calling w.screen.waiting (.undo transferId w.screen.undoKey)
    else w
  | .undoAnswered ticket readable =>
    match w.awaiting with
    | some (.reply (.undo transferId key)) =>
      match w.answer ticket (.undo transferId key) with
      | some data => w.settled (w.screen.undone (if readable then some data else none))
      | none => w
    | _ => w
  | .connectionLost =>
    match w.awaiting with
    | some a => w.settled (afterLoss w.screen a)
    | none => w
  | .refused message =>
    match w.awaiting with
    | some a => w.settled (afterError w.screen message a)
    | none => w
  | .reset => if w.screen.step = .succeeded then { w with screen := w.screen.reset } else w
  | .leave => w.settled .mounted

def run (moves : List (Move uow)) (w : SendWorld) : SendWorld := moves.foldl (step d uow user) w

theorem run_concat (moves : List (Move uow)) (move : Move uow) (w : SendWorld) :
    run d uow user (moves ++ [move]) w = (run d uow user moves w).step d uow user move :=
  List.foldl_append

end Step

end SendWorld

/-! ### The server's half -/

/-- Whatever is asked under one of the keys, the screen has asked. -/
def OnlyAsked (user : Ulid) (keys : List String) (wire : List Message) (r : Request) : Prop :=
  ∀ key ∈ keys, r.OwnKey ⟨user, SEND_ENDPOINT, key⟩ → ∃ body pin requestId,
    Message.transfer body (some key) ∈ wire ∧
      r = .createTransfer user pin body.intent.phone body.intent.amount body.intent.note key requestId

/-- The server is serial, and nobody else has used the keys. -/
structure Served (d : Deployment) (uow : UnitOfWork) (now : Time) (user : Ulid) (keys : List String)
    (wire : List Message)
    (server : System Database Request Oracle AppError Failure (Except AppError Reply)) : Prop where
  serial : server.Serial (service d) uow.policy (migrated now)
  tickets : ∀ t ∈ server.tickets, OnlyAsked user keys wire t.request
  log : ∀ e ∈ server.log, OnlyAsked user keys wire e.request

section Server

variable {d : Deployment} {uow : UnitOfWork} {now : Time} {user : Ulid} {keys : List String}
  {wire wire' : List Message} {r : Request} {I : SendIntent} {key : String}
  {server : System Database Request Oracle AppError Failure (Except AppError Reply)}

theorem OnlyAsked.mono (hsub : wire ⊆ wire') (h : OnlyAsked user keys wire r) :
    OnlyAsked user keys wire' r := by
  intro key hkey hown
  obtain ⟨body, pin, requestId, hwire, hr⟩ := h key hkey hown
  exact ⟨body, pin, requestId, hsub hwire, hr⟩

/-- A step of the server continues its store. -/
theorem step_continues (h : server.Serial (service d) uow.policy (migrated now))
    (e : Serving.Event Request Oracle uow.policy) :
    server.store.Continues (server.step (service d) uow.policy e).store ∧
      server.store.Later (server.step (service d) uow.policy e).store := by
  obtain ⟨rest, hrest⟩ : server.log <+: (server.step (service d) uow.policy e).log :=
    System.log_prefix
  rw [h.store, (h.step e).store, replay_eq_serveAll, replay_eq_serveAll, ← hrest,
    committedCalls_append]
  exact serveAll_continues_later d now _ _

namespace Served

theorem mono (hsub : wire ⊆ wire') (h : Served d uow now user keys wire server) :
    Served d uow now user keys wire' server :=
  ⟨h.serial, fun t ht => (h.tickets t ht).mono hsub, fun e he => (h.log e he).mono hsub⟩

theorem step (h : Served d uow now user keys wire server) (e : Serving.Event Request Oracle uow.policy)
    (hnew : ∀ r, (e = .arrive r ∨ ∃ o, e = .direct o r) → OnlyAsked user keys wire r) :
    Served d uow now user keys wire (server.step (service d) uow.policy e) := by
  refine ⟨h.serial.step e, fun t ht => ?_, fun x hx => ?_⟩
  · rcases System.request_of_ticket ht with ⟨t₀, ht₀, hr⟩ | he
    · exact hr ▸ h.tickets t₀ ht₀
    · exact hnew _ (.inl he)
  · rcases System.request_of_entry hx with hx | ⟨t₀, ht₀, hr⟩ | ⟨o, he⟩
    · exact h.log x hx
    · exact hr ▸ h.tickets t₀ ht₀
    · exact hnew _ (.inr ⟨o, he⟩)

theorem store_eq (h : Served d uow now user keys wire server) :
    server.store = serveAll d (committedCalls server.log) (migrated now) :=
  h.serial.store.trans (replay_eq_serveAll ..)

/-- What was committed so far, the store continues. -/
theorem continues (h : Served d uow now user keys wire server) {before log : List (Entry Request Oracle)}
    (hlog : server.log = before ++ log) :
    (serveAll d (committedCalls before) (migrated now)).Continues server.store ∧
      (serveAll d (committedCalls before) (migrated now)).Later server.store := by
  rw [h.store_eq, hlog, committedCalls_append]
  exact serveAll_continues_later d now _ _

/-- Under a key, all that was committed asks for what the screen asked for. -/
theorem asked (h : Served d uow now user keys wire server) (hkey : key ∈ keys)
    (hagreed : ∀ body, Message.transfer body (some key) ∈ wire → body.intent = I)
    {before rest : List (Entry Request Oracle)} (hlog : server.log = before ++ rest) :
    AskedAs user key I (committedCalls before) := by
  intro call hcall hown
  obtain ⟨e, he, rfl⟩ := List.mem_map.1 hcall
  obtain ⟨body, pin, requestId, hwire, hr⟩ :=
    h.log e (hlog ▸ List.mem_append_left _ he) key hkey hown
  obtain rfl := hagreed body hwire
  exact ⟨pin, requestId, hr⟩

/-- Nothing is held under the key, or one hold, as it was asked for. -/
theorem heldUnder (h : Served d uow now user keys wire server)
    (hapart : KeyApart d.crypto server.store user key) (hkey : key ∈ keys)
    (hagreed : ∀ body, Message.transfer body (some key) ∈ wire → body.intent = I) :
    server.store.heldUnder d.crypto user key = [] ∨
      ∃ hold, server.store.heldUnder d.crypto user key = [hold] ∧ hold.Carries server.store user I := by
  have hasked := h.asked hkey hagreed (List.append_nil server.log).symm
  rw [h.store_eq] at hapart ⊢
  cases hrow : (serveAll d (committedCalls server.log) (migrated now)).idempotencyRecords.find?
      ⟨user, SEND_ENDPOINT, key⟩ with
  | none => exact .inl (heldUnder_of_unused now _ hapart hrow)
  | some row =>
    obtain ⟨_, hold, -, hheld, -⟩ := sends_backed now _ hapart hasked row hrow
    exact .inr ⟨hold, hheld.heldUnder (serveAll_inv d now _).journalled, hheld.carries⟩

/-- Under a key that the screen has not used nothing is held. -/
theorem heldUnder_of_silent (h : Served d uow now user keys wire server)
    (hapart : KeyApart d.crypto server.store user key) (hkey : key ∈ keys)
    (hsilent : ∀ body, Message.transfer body (some key) ∉ wire) :
    server.store.heldUnder d.crypto user key = [] := by
  have hown : ∀ call ∈ committedCalls server.log, ¬call.request.OwnKey ⟨user, SEND_ENDPOINT, key⟩ := by
    intro call hcall hown
    obtain ⟨e, he, rfl⟩ := List.mem_map.1 hcall
    obtain ⟨body, pin, requestId, hwire, -⟩ := h.log e he key hkey hown
    exact hsilent body hwire
  rw [h.store_eq] at hapart ⊢
  refine heldUnder_of_unused now _ hapart ?_
  rw [serveAll_own_keys d _ ⟨"api/v1/transfers", show SEND_ENDPOINT = _ by decide⟩ hown]
  rfl

/-- **An answered call to send is held**, now as when it was answered. -/
theorem transfer_answered (h : Served d uow now user keys wire server)
    (hapart : KeyApart d.crypto server.store user key) (hkey : key ∈ keys)
    (hagreed : ∀ body, Message.transfer body (some key) ∈ wire → body.intent = I) {i since : Nat}
    {pin : String} {requestId : Option String} {reply : Reply}
    (ht : server.tickets[i]? = some ⟨.createTransfer user pin I.phone I.amount I.note key requestId,
      since, .answered (.ok reply)⟩) :
    ∃ b hold, reply = .body b ∧ HeldFor d.crypto server.store user key I hold ∧ ReceiptOf b hold := by
  obtain ⟨before, o, after, db, hlog, -, hrun⟩ := h.serial.told i _ ht
  rw [replay_eq_serveAll] at hrun
  obtain ⟨s, hok, rfl⟩ := service_ok hrun
  obtain ⟨b, hold, rfl, hheld, hreceipt⟩ := answered_send_is_held now (committedCalls before)
    (hapart.earlier (h.continues hlog).1) (h.asked hkey hagreed hlog) hok
  -- the store is this one, with what was committed after it
  obtain ⟨hc, hl⟩ := h.continues (hlog.trans (List.append_cons before _ after))
  rw [serveAll_committed (e := ⟨some i, o, _⟩) hok] at hc hl
  obtain ⟨hold', hsame, hheld'⟩ := hheld.mono hc hl
  exact ⟨b, hold', rfl, hheld', hreceipt.same hsame⟩

/-- **An answered undo is done**, now as when it was answered. -/
theorem undo_answered (h : Served d uow now user keys wire server) {i since : Nat} {transferId : Ulid}
    {requestId : Option String} {reply : Reply}
    (ht : server.tickets[i]? = some ⟨.undoTransfer user transferId key requestId, since,
      .answered (.ok reply)⟩) :
    ∃ b, reply = .body b ∧ server.store.UndoneAs transferId b := by
  obtain ⟨before, o, after, db, hlog, -, hrun⟩ := h.serial.told i _ ht
  rw [replay_eq_serveAll] at hrun
  obtain ⟨s, hok, rfl⟩ := service_ok hrun
  obtain ⟨b, rfl, hundone⟩ := answered_undo_refunded now (committedCalls before) hok
  obtain ⟨hc, -⟩ := h.continues (hlog.trans (List.append_cons before _ after))
  rw [serveAll_committed (e := ⟨some i, o, _⟩) hok] at hc
  exact ⟨b, rfl, hundone.mono hc⟩

end Served

end Server

/-! ### The screen's half -/

/-- The user the screen shows has this number. -/
def Database.Meets (db : Database) (found : Recipient) : Prop :=
  ∃ v, db.users.find? found.userId = some v ∧ v.phone = found.phone

/-- The step goes with what is awaited. -/
def Awaiting.Fits (db : Database) (wire : List Message) (s : SendScreen) : Awaiting → Prop
  | .lookup _ found => s.step = .compose ∧ ∀ r, found = some r → db.Meets r
  | .reply (.transfer body key) =>
    s.step = .submitting ∧ .transfer body key ∈ wire ∧ key = s.idempotencyKey
  | .reply (.undo _ _) => s.step = .compose ∨ s.step = .succeeded

/-- The receipt is that of the one hold under the key, which is as the form has it. -/
def Receipted (d : Deployment) (user : Ulid) (db : Database) (s : SendScreen)
    (awaiting : Option Awaiting) : Prop :=
  ∃ key r hold, s.idempotencyKey = some key ∧ s.receipt = some r ∧
    HeldFor d.crypto db user key s.intent hold ∧ r.Shows hold ∧
    (r.str? "status" = some "REFUNDED" → hold.status = .refunded) ∧
    ∀ id undoKey, awaiting = some (.reply (.undo id undoKey)) → id = hold.id

/-- What the screen has drawn, sent and shown is borne out. -/
structure Shown (d : Deployment) (user : Ulid) (drawn : List String) (db : Database)
    (wire : List Message) (s : SendScreen) (awaiting : Option Awaiting) : Prop where
  busy : s.busy = awaiting.isSome
  fits : ∀ a, awaiting = some a → a.Fits db wire s
  keyed : s.step ≠ .compose → ∃ key ∈ drawn, s.idempotencyKey = some key ∧
    ∀ body, Message.transfer body (some key) ∈ wire → body.intent = s.intent
  met : s.step ≠ .compose → ∃ found, s.recipient = some found ∧ db.Meets found
  receipted : s.step = .succeeded → Receipted d user db s awaiting

section Screen

variable {d : Deployment} {user : Ulid} {drawn drawn' : List String} {db db' : Database}
  {wire wire' : List Message} {s s' : SendScreen} {awaiting awaiting' : Option Awaiting}

theorem Database.Meets.mono {found : Recipient} (hl : db.Later db') (h : db.Meets found) :
    db'.Meets found := by
  obtain ⟨v, hv, hphone⟩ := h
  obtain ⟨v', hv', hphone'⟩ := hl.users.phone _ _ hv
  exact ⟨v', hv', hphone'.trans hphone⟩

theorem lookupRecipient_meets {phone : String} {found : Recipient}
    (h : lookupRecipient db user phone = .ok found) : db.Meets found := by
  unfold lookupRecipient at h
  split at h
  · cases h
  · rename_i found' hsearch
    obtain rfl := Except.ok.inj h
    obtain ⟨v, hv, rfl⟩ := Option.map_eq_some_iff.1 hsearch
    exact ⟨v, Table.find?_of_mem (List.mem_of_find?_eq_some hv), rfl⟩

theorem Awaiting.Fits.mono {a : Awaiting} (hl : db.Later db') (hsub : wire ⊆ wire')
    (h : a.Fits db wire s) : a.Fits db' wire' s := by
  match a, h with
  | .lookup _ _, ⟨hstep, hfound⟩ => exact ⟨hstep, fun r hr => (hfound r hr).mono hl⟩
  | .reply (.transfer _ _), ⟨hstep, hwire, hkey⟩ => exact ⟨hstep, hsub hwire, hkey⟩
  | .reply (.undo _ _), h => exact h

theorem Receipted.mono (hc : db.Continues db') (hl : db.Later db') (h : Receipted d user db s awaiting) :
    Receipted d user db' s awaiting := by
  obtain ⟨key, r, hold, hkey, hr, hheld, hshows, hstatus, hundo⟩ := h
  obtain ⟨hold', hfound, hlater⟩ := hc.transfers.find? (fun _ _ h => h.movement.id) hheld.found
  obtain ⟨hold'', hsame, hheld'⟩ := hheld.mono hc hl
  have hid : hold''.id = hold.id := hsame.id
  obtain rfl : hold' = hold'' := by
    have hfound' := hheld'.found
    rw [hid, hfound] at hfound'
    exact Option.some.inj hfound'
  refine ⟨key, r, hold', hkey, hr, hheld', hshows.same hsame, fun hrefunded => ?_, fun id k hk => ?_⟩
  · have hold_refunded := hstatus hrefunded
    have hfinal := hlater.final (by rw [hold_refunded]; nofun) (by rw [hold_refunded]; nofun)
    rw [hfinal, hold_refunded]
  · rw [hundo id k hk, hid]

/-- The store goes on. -/
theorem Shown.served (hc : db.Continues db') (hl : db.Later db') (h : Shown d user drawn db wire s awaiting) :
    Shown d user drawn db' wire s awaiting where
  busy := h.busy
  fits a ha := (h.fits a ha).mono hl fun _ => id
  keyed := h.keyed
  met hstep := (h.met hstep).imp fun _ hf => ⟨hf.1, hf.2.mono hl⟩
  receipted hstep := (h.receipted hstep).mono hc hl

theorem SendScreen.past_compose {step : SendStep} (hstep : s.step = step) (hne : step ≠ .compose) :
    s.step ≠ .compose := by
  rw [hstep]
  exact hne

/-- While the form is filled in, nothing is promised. -/
theorem Shown.composing (hstep : s.step = .compose) (hbusy : s.busy = awaiting.isSome)
    (hfits : ∀ a, awaiting = some a → a.Fits db wire s) : Shown d user drawn db wire s awaiting where
  busy := hbusy
  fits := hfits
  keyed hne := absurd hstep hne
  met hne := absurd hstep hne
  receipted hs := by cases hstep.symm.trans hs

/-- The form is what it was. -/
structure SendScreen.SameForm (s s' : SendScreen) : Prop where
  intent : s'.intent = s.intent
  key : s'.idempotencyKey = s.idempotencyKey
  recipient : s'.recipient = s.recipient

/-- From one step behind the form to another, before the receipt. -/
theorem Shown.moved (h : Shown d user drawn db wire s awaiting) (hform : s.SameForm s')
    (hstep : s.step ≠ .compose) (hstep' : s'.step ≠ .succeeded) (hbusy : s'.busy = awaiting'.isSome)
    (hfits : ∀ a, awaiting' = some a → a.Fits db wire s') : Shown d user drawn db wire s' awaiting' where
  busy := hbusy
  fits := hfits
  keyed _ := by
    rw [hform.key, hform.intent]
    exact h.keyed hstep
  met _ := by
    rw [hform.recipient]
    exact h.met hstep
  receipted hs := absurd hs hstep'

/-- Behind the receipt. -/
theorem Shown.received (h : Shown d user drawn db wire s awaiting) (hform : s.SameForm s')
    (hstep : s.step ≠ .compose) (hbusy : s'.busy = awaiting'.isSome)
    (hfits : ∀ a, awaiting' = some a → a.Fits db wire s')
    (hreceipted : Receipted d user db s' awaiting') : Shown d user drawn db wire s' awaiting' where
  busy := hbusy
  fits := hfits
  keyed _ := by
    rw [hform.key, hform.intent]
    exact h.keyed hstep
  met _ := by
    rw [hform.recipient]
    exact h.met hstep
  receipted _ := hreceipted

/-- The answer to a call to send: the receipt is there. -/
theorem Shown.sent {body : TransferRequest}
    {key undoKey : String} {data : Option Body} {hold : TransferRow}
    (h : Shown d user drawn db wire s (some (.reply (.transfer body (some key)))))
    (hheld : HeldFor d.crypto db user key body.intent hold)
    (hdata : ∀ b, data = some b → ReceiptOf b hold) :
    Shown d user drawn db wire (s.sent data undoKey) none := by
  obtain ⟨hstep, hwire, hkey⟩ := h.fits _ rfl
  have hne := SendScreen.past_compose hstep nofun
  obtain ⟨key', -, hkey', hagreed⟩ := h.keyed hne
  obtain rfl : key = key' := Option.some.inj (hkey.trans hkey')
  refine h.received ⟨rfl, rfl, rfl⟩ hne rfl nofun ⟨key, data.getD [], hold, hkey', rfl, ?_, ?_, ?_, nofun⟩
  · rw [show (s.sent data undoKey).intent = s.intent from rfl, ← hagreed body hwire]
    exact hheld
  · cases data with
    | none => exact .nil
    | some b => exact (hdata b rfl).toNames.shows
  · intro hrefunded
    cases data with
    | none => cases hrefunded
    | some b => exact absurd (Option.some.inj ((hdata b rfl).status.symm.trans hrefunded)) (by decide)

/-- The answer to an undo: the hold is paid back. -/
theorem Shown.undone {transferId : Ulid}
    {key : Option String} {data : Option Body} {b : Body}
    (h : Shown d user drawn db wire s (some (.reply (.undo transferId key))))
    (hundone : db.UndoneAs transferId b) (hdata : ∀ b', data = some b' → b' = b) :
    Shown d user drawn db wire (s.undone data) none := by
  rcases h.fits _ rfl with hstep | hstep
  · exact .composing hstep rfl nofun
  · have hne := SendScreen.past_compose hstep nofun
    obtain ⟨k, r, hold, hkey, hr, hheld, hshows, -, hid⟩ := h.receipted hstep
    obtain ⟨hold', hf, -, hrefunded, hnames⟩ := hundone
    obtain rfl : transferId = hold.id := hid _ _ rfl
    obtain rfl : hold = hold' := Option.some.inj (hheld.found.symm.trans hf)
    refine h.received ⟨rfl, rfl, rfl⟩ hne rfl nofun
      ⟨k, _, hold, hkey, rfl, hheld, ?_, fun _ => hrefunded, nofun⟩
    rw [hr]
    refine (hshows.spread ?_).spread (Body.shows_status _)
    cases data with
    | none => exact .nil
    | some b' => exact hdata b' rfl ▸ hnames.shows

/-- The undo button is pressed for the transfer on the receipt. -/
theorem Shown.undoing {transferId : Ulid}
    {key : Option String} (h : Shown d user drawn db wire s none) (hcan : SendWorld.CanUndo s transferId) :
    Shown d user drawn db (.undo transferId key :: wire) s.waiting
      (some (.reply (.undo transferId key))) := by
  obtain ⟨hstep, -, -, hid⟩ := hcan
  have hne := SendScreen.past_compose hstep nofun
  obtain ⟨k, r, hold, hkey, hr, hheld, hshows, hstatus, -⟩ := h.receipted hstep
  have hid : r.str? "transferId" = some transferId.text := by
    rw [hr] at hid
    exact hid
  refine ⟨rfl, ?_, fun _ => ?_, fun _ => h.met hne, fun _ => ⟨k, r, hold, hkey, hr, hheld, hshows, hstatus, ?_⟩⟩
  · rintro _ ⟨⟩
    exact .inr hstep
  · obtain ⟨k', hdrawn, hk', hagreed⟩ := h.keyed hne
    refine ⟨k', hdrawn, hk', fun body hmem => hagreed body ?_⟩
    exact (List.mem_cons.1 hmem).resolve_left nofun
  · rintro _ _ ⟨⟩
    exact Ulid.text_injective (hshows.transferId _ hid)

/-- The call to send goes out. -/
theorem Shown.submitting
    (h : Shown d user drawn db wire s none) (hstep : s.step = .review ∨ s.step = .unknown) :
    Shown d user drawn db (.transfer s.request s.idempotencyKey :: wire) s.submitting
      (some (.reply (.transfer s.request s.idempotencyKey))) := by
  have hne : s.step ≠ .compose := by
    rcases hstep with hstep | hstep <;> rw [hstep] <;> nofun
  refine ⟨rfl, ?_, fun _ => ?_, fun _ => h.met hne, nofun⟩
  · rintro _ ⟨⟩
    exact ⟨rfl, List.mem_cons_self, rfl⟩
  · obtain ⟨k, hdrawn, hk, hagreed⟩ := h.keyed hne
    refine ⟨k, hdrawn, hk, fun body hmem => ?_⟩
    rcases List.mem_cons.1 hmem with he | hmem
    · obtain ⟨rfl, -⟩ := Message.transfer.inj he
      rfl
    · exact hagreed body hmem

/-- What was awaited will not come. -/
theorem Shown.lost {a : Awaiting} (h : Shown d user drawn db wire s (some a)) :
    Shown d user drawn db wire (SendWorld.afterLoss s a) none ∧
      ∀ message, Shown d user drawn db wire (SendWorld.afterError s message a) none := by
  have hfits := h.fits a rfl
  match a, hfits with
  | .lookup _ _, ⟨hstep, _⟩ => exact ⟨.composing hstep rfl nofun, fun _ => .composing hstep rfl nofun⟩
  | .reply (.transfer _ key), ⟨hstep, _, _⟩ =>
    have hne := SendScreen.past_compose hstep nofun
    have hrefused : ∀ text, Shown d user drawn db wire (s.refused text) none := fun _ =>
      h.moved ⟨rfl, rfl, rfl⟩ hne nofun rfl nofun
    refine ⟨?_, hrefused⟩
    show Shown d user drawn db wire (if key.getD "" = "" then s.refused SendWorld.cannotReach else s.unsure) none
    split
    · exact hrefused _
    · exact h.moved ⟨rfl, rfl, rfl⟩ hne nofun rfl nofun
  | .reply (.undo _ key), hstep =>
    have hfailed : ∀ text, Shown d user drawn db wire (s.failed text) none := by
      intro text
      rcases hstep with hstep | hstep
      · exact .composing hstep rfl nofun
      · have hne := SendScreen.past_compose hstep nofun
        obtain ⟨k, r, hold, hkey, hr, hheld, hshows, hstatus, -⟩ := h.receipted hstep
        exact h.received ⟨rfl, rfl, rfl⟩ hne rfl nofun
          ⟨k, r, hold, hkey, hr, hheld, hshows, hstatus, nofun⟩
    exact ⟨hfailed _, hfailed⟩

end Screen

/-! ### Both together -/

namespace SendWorld

/-- The invariant: `keys` are all keys the screen ever draws, `drawn` those it has drawn. -/
structure Honest (d : Deployment) (uow : UnitOfWork) (now : Time) (user : Ulid)
    (keys drawn : List String) (w : SendWorld) : Prop where
  served : Served d uow now user keys w.wire w.server
  drawn_keys : ∀ key ∈ drawn, key ∈ keys ∧ requireIdempotencyKey (some key) = .ok key
  wired : ∀ body key, Message.transfer body (some key) ∈ w.wire → key ∈ drawn
  agreed : ∀ key body body', Message.transfer body (some key) ∈ w.wire →
    Message.transfer body' (some key) ∈ w.wire → body.intent = body'.intent
  delivered : ∀ ticket m, (ticket, m) ∈ w.delivered → ∃ t requestId,
    w.server.tickets[ticket]? = some t ∧ m.request user requestId = some t.request
  shown : Shown d user drawn w.server.store w.wire w.screen w.awaiting

section Honesty

variable {d : Deployment} {uow : UnitOfWork} {now : Time} {user : Ulid} {keys drawn : List String}
  {w : SendWorld} {s' : SendScreen} {A : Option Awaiting}

theorem Honest.initial : (initial (migrated now)).Honest d uow now user keys [] where
  served := ⟨System.Serial.initial, fun _ ht => absurd ht List.not_mem_nil,
    fun _ he => absurd he List.not_mem_nil⟩
  drawn_keys _ hk := absurd hk List.not_mem_nil
  wired _ _ hm := absurd hm List.not_mem_nil
  agreed _ _ _ hm := absurd hm List.not_mem_nil
  delivered _ _ hm := absurd hm List.not_mem_nil
  shown := .composing rfl rfl nofun

/-- Only the screen has changed. -/
theorem Honest.screen (h : w.Honest d uow now user keys drawn)
    (hshown : Shown d user drawn w.server.store w.wire s' A) :
    Honest d uow now user keys drawn { w with screen := s', awaiting := A } :=
  ⟨h.served, h.drawn_keys, h.wired, h.agreed, h.delivered, hshown⟩

/-- Keys are drawn. -/
theorem Honest.more (h : w.Honest d uow now user keys drawn) {key : ClientKey}
    (hkey : key.text ∈ keys) : w.Honest d uow now user keys (drawn ++ [key.text]) := by
  have hsub : ∀ k ∈ drawn, k ∈ drawn ++ [key.text] := fun k hk => List.mem_append_left _ hk
  refine ⟨h.served, fun k hk => ?_, fun body k hk => hsub k (h.wired body k hk), h.agreed, h.delivered,
    h.shown.busy, h.shown.fits, fun hne => ?_, h.shown.met, h.shown.receipted⟩
  · rcases List.mem_append.1 hk with hk | hk
    · exact h.drawn_keys k hk
    · obtain rfl := List.mem_singleton.1 hk
      exact ⟨hkey, key.required⟩
  · obtain ⟨k, hk, hrest⟩ := h.shown.keyed hne
    exact ⟨k, hsub k hk, hrest⟩

/-- The server goes on. -/
theorem Honest.server (h : w.Honest d uow now user keys drawn)
    (e : Serving.Event Request Oracle uow.policy) {delivered' : List (Nat × Message)}
    (hnew : ∀ r, (e = .arrive r ∨ ∃ o, e = .direct o r) → OnlyAsked user keys w.wire r)
    (hdelivered : ∀ ticket m, (ticket, m) ∈ delivered' → (ticket, m) ∈ w.delivered ∨ ∃ t requestId,
      (w.server.step (service d) uow.policy e).tickets[ticket]? = some t ∧
        m.request user requestId = some t.request) :
    Honest d uow now user keys drawn
      { w with server := w.server.step (service d) uow.policy e, delivered := delivered' } := by
  obtain ⟨hc, hl⟩ := step_continues h.served.serial e
  refine ⟨h.served.step e hnew, h.drawn_keys, h.wired, h.agreed, fun ticket m hm => ?_,
    h.shown.served hc hl⟩
  rcases hdelivered ticket m hm with hold | hnew
  · obtain ⟨t, requestId, ht, hr⟩ := h.delivered ticket m hold
    obtain ⟨t', ht', hr'⟩ : ∃ t', (w.server.step (service d) uow.policy e).tickets[ticket]? = some t' ∧
        t'.request = t.request := System.ticket_kept ht
    exact ⟨t', requestId, ht', hr' ▸ hr⟩
  · exact hnew

/-- The request of a call to send, and that of an undo. -/
theorem request_transfer {key : String} {requestId : Option String} {body : TransferRequest}
    {r : Request} (hrequired : requireIdempotencyKey (some key) = .ok key)
    (h : (Message.transfer body (some key)).request user requestId = some r) :
    ∃ pin, r = .createTransfer user pin body.intent.phone body.intent.amount body.intent.note key
      requestId := by
  unfold Message.request at h
  simp only [hrequired] at h
  exact TransferRequest.accepted_eq_some h

theorem request_undo {key : Option String} {requestId : Option String} {transferId : Ulid} {r : Request}
    (h : (Message.undo transferId key).request user requestId = some r) :
    ∃ key', r = .undoTransfer user transferId key' requestId := by
  unfold Message.request at h
  dsimp only at h
  split at h
  · exact ⟨_, (Option.some.inj h).symm⟩
  · cases h

/-- A call that is let in is the screen's. -/
theorem Honest.onlyAsked (h : w.Honest d uow now user keys drawn) {m : Message} (hm : m ∈ w.wire)
    {requestId : Option String} {r : Request} (hr : m.request user requestId = some r) :
    OnlyAsked user keys w.wire r := by
  intro key hkey hown
  cases m with
  | transfer body key' =>
    cases key' with
    | none => cases hr
    | some key' =>
      obtain ⟨pin, rfl⟩ := request_transfer (h.drawn_keys key' (h.wired body key' hm)).2 hr
      obtain rfl : key' = key := (IdempotencyTriple.mk.inj hown).2.2.symm
      exact ⟨body, pin, requestId, hm, rfl⟩
  | undo transferId key' =>
    obtain ⟨key'', rfl⟩ := request_undo hr
    exact absurd (IdempotencyTriple.mk.inj hown).2.1.symm (undoEndpoint_ne_fixed (by decide))

/-- A call goes out. -/
theorem Honest.calling (h : w.Honest d uow now user keys drawn) {m : Message}
    (hm : ∀ body key, m = .transfer body (some key) → key ∈ drawn ∧
      ∀ body', Message.transfer body' (some key) ∈ w.wire → body'.intent = body.intent)
    (hshown : Shown d user drawn w.server.store (m :: w.wire) s' (some (.reply m))) :
    (w.calling s' m).Honest d uow now user keys drawn where
  served := h.served.mono (List.subset_cons_self m w.wire)
  drawn_keys := h.drawn_keys
  wired body key hmem := by
    rcases List.mem_cons.1 hmem with he | hmem
    · exact (hm body key he.symm).1
    · exact h.wired body key hmem
  agreed key body body' hmem hmem' := by
    rcases List.mem_cons.1 hmem with he | hmem
    · rcases List.mem_cons.1 hmem' with he' | hmem'
      · rw [← he] at he'
        cases he'
        rfl
      · exact ((hm body key he.symm).2 body' hmem').symm
    · rcases List.mem_cons.1 hmem' with he' | hmem'
      · exact (hm body' key he'.symm).2 body hmem
      · exact h.agreed key body body' hmem hmem'
  delivered := h.delivered
  shown := hshown

theorem answer_eq_some {ticket : Nat} {m : Message} {b : Body} (h : w.answer ticket m = some b) :
    (ticket, m) ∈ w.delivered ∧
      ∃ r since, w.server.tickets[ticket]? = some ⟨r, since, .answered (.ok (.body b))⟩ := by
  unfold answer at h
  split at h
  · rename_i hmem
    split at h
    · rename_i r since b' ht
      obtain rfl := Option.some.inj h
      exact ⟨hmem, r, since, ht⟩
    · cases h
  · cases h

theorem Honest.transfer_answered (h : w.Honest d uow now user keys drawn) {ticket : Nat}
    {body : TransferRequest} {key : String} {b : Body}
    (hapart : KeyApart d.crypto w.server.store user key)
    (hmem : Message.transfer body (some key) ∈ w.wire)
    (ha : w.answer ticket (.transfer body (some key)) = some b) :
    ∃ hold, HeldFor d.crypto w.server.store user key body.intent hold ∧ ReceiptOf b hold := by
  obtain ⟨hdelivered, r, since, ht⟩ := answer_eq_some ha
  obtain ⟨t, requestId, ht', hr⟩ := h.delivered ticket _ hdelivered
  obtain rfl := Option.some.inj (ht.symm.trans ht')
  obtain ⟨hkey, hrequired⟩ := h.drawn_keys key (h.wired body key hmem)
  obtain ⟨pin, rfl⟩ := request_transfer hrequired hr
  obtain ⟨b', hold, hb, hheld, hreceipt⟩ := h.served.transfer_answered hapart hkey
    (fun body' hmem' => h.agreed key body' body hmem' hmem) ht
  cases hb
  exact ⟨hold, hheld, hreceipt⟩

theorem Honest.undo_answered (h : w.Honest d uow now user keys drawn) {ticket : Nat}
    {transferId : Ulid} {key : Option String} {b : Body}
    (ha : w.answer ticket (.undo transferId key) = some b) : w.server.store.UndoneAs transferId b := by
  obtain ⟨hdelivered, r, since, ht⟩ := answer_eq_some ha
  obtain ⟨t, requestId, ht', hr⟩ := h.delivered ticket _ hdelivered
  obtain rfl := Option.some.inj (ht.symm.trans ht')
  obtain ⟨key', rfl⟩ := request_undo hr
  obtain ⟨b', hb, hundone⟩ := h.served.undo_answered ht
  cases hb
  exact hundone

/-- The server's moves. -/
theorem Honest.step_server (h : w.Honest d uow now user keys drawn)
    (e : Serving.Event Request Oracle uow.policy)
    (hforeign : ∀ r, (Move.server e).foreign = some r → ∀ key ∈ keys,
      ¬r.OwnKey ⟨user, SEND_ENDPOINT, key⟩) :
    (w.step d uow user (.server e)).Honest d uow now user keys drawn := by
  refine h.server e (fun r hr key hkey hown => ?_) fun _ _ hm => .inl hm
  refine absurd hown (hforeign r ?_ key hkey)
  rcases hr with rfl | ⟨o, rfl⟩ <;> rfl

/-- A call reaches the server. -/
theorem Honest.step_deliver (h : w.Honest d uow now user keys drawn) (m : Message)
    (requestId : Option String) :
    (w.step d uow user (.deliver m requestId)).Honest d uow now user keys drawn := by
  unfold SendWorld.step
  dsimp only
  split
  · rename_i r hr
    split
    · rename_i hmem
      refine h.server (.arrive r) (fun r' hr' => ?_) fun ticket m' hm' => ?_
      · rcases hr' with he | ⟨o, he⟩
        · cases he
          exact h.onlyAsked hmem hr
        · cases he
      · rcases List.mem_cons.1 hm' with he | hm'
        · cases he
          exact .inr ⟨_, requestId, List.getElem?_concat_length, hr⟩
        · exact .inl hm'
    · exact h
  · exact h

/-- A move that draws no key. -/
theorem Honest.step_drawless (h : w.Honest d uow now user keys drawn) {move : Move uow}
    (hdraws : move.draws = [])
    (hforeign : ∀ r, move.foreign = some r → ∀ key ∈ keys, ¬r.OwnKey ⟨user, SEND_ENDPOINT, key⟩) :
    (w.step d uow user move).Honest d uow now user keys drawn := by
  have hs := h.shown
  -- the form is edited, and nothing is awaited that was not awaited before
  have hedit : ∀ s' : SendScreen, w.screen.step = .compose → s'.step = .compose →
      s'.busy = w.screen.busy → Honest d uow now user keys drawn { w with screen := s' } := by
    intro s' hstep hstep' hbusy
    refine h.screen (.composing hstep' (hbusy.trans hs.busy) fun a ha => ?_)
    match a, hs.fits a ha with
    | .lookup _ _, ⟨_, hfound⟩ => exact ⟨hstep', hfound⟩
    | .reply (.transfer _ _), ⟨hne, _⟩ => cases hstep.symm.trans hne
    | .reply (.undo _ _), _ => exact .inl hstep'
  -- nothing is awaited while the user reviews, or does not know
  have hidle : w.screen.busy = false → w.awaiting = none := by
    intro hbusy
    rw [hs.busy] at hbusy
    simpa using hbusy
  have hreview : w.screen.step = .review → w.awaiting = none := by
    intro hstep
    cases ha : w.awaiting with
    | none => rfl
    | some a =>
      match a, hs.fits a ha with
      | .lookup _ _, ⟨hne, _⟩ => cases hstep.symm.trans hne
      | .reply (.transfer _ _), ⟨hne, _⟩ => cases hstep.symm.trans hne
      | .reply (.undo _ _), hne =>
        rcases hne with hne | hne <;> cases hstep.symm.trans hne
  cases move with
  | server e => exact h.step_server e hforeign
  | deliver m requestId => exact h.step_deliver m requestId
  | lookupAnswered key => cases hdraws
  | lookupUnreadable key => cases hdraws
  | transferAnswered ticket readable undoKey => cases hdraws
  | setPhone text | setAmount text | setNote text =>
    unfold SendWorld.step
    dsimp only
    split
    · rename_i hstep
      exact hedit _ hstep hstep rfl
    · exact h
  | setPin text =>
    unfold SendWorld.step
    dsimp only
    split
    · rename_i hstep
      have hne : w.screen.step ≠ .compose := by
        rw [hstep]
        nofun
      have hnone := hreview hstep
      rw [hnone] at hs
      refine h.screen (A := w.awaiting) ?_
      rw [hnone]
      refine hs.moved ⟨rfl, rfl, rfl⟩ hne (fun he => ?_) hs.busy nofun
      cases hstep.symm.trans he
    · exact h
  | lookupRecipient =>
    unfold SendWorld.step
    dsimp only
    split
    · rename_i hready
      refine h.screen (.composing hready.1 rfl ?_)
      rintro _ ⟨⟩
      exact ⟨hready.1, nofun⟩
    · exact h
  | lookupServed =>
    unfold SendWorld.step
    dsimp only
    split
    · rename_i phone found ha
      split
      · rename_i found' hfound
        obtain ⟨hstep, -⟩ := hs.fits _ ha
        refine h.screen (.composing hstep (by rw [hs.busy, ha]; rfl) ?_)
        rintro _ ⟨⟩
        refine ⟨hstep, ?_⟩
        rintro _ ⟨⟩
        exact lookupRecipient_meets hfound
      · exact h
    · exact h
  | back =>
    unfold SendWorld.step
    dsimp only
    split
    · rename_i hstep
      have hnone := hreview hstep
      refine h.screen (A := w.awaiting) (.composing rfl hs.busy ?_)
      rw [hnone]
      nofun
    · exact h
  | confirmSend =>
    unfold SendWorld.step
    dsimp only
    split
    · rename_i hcan
      obtain ⟨hstep, hbusy, -⟩ := hcan
      rw [hidle hbusy] at hs
      refine h.calling (fun body key hm => ?_) (hs.submitting hstep)
      have hne : w.screen.step ≠ .compose := by
        rcases hstep with hstep | hstep <;> rw [hstep] <;> nofun
      obtain ⟨k, hdrawn, hk, hagreed⟩ := hs.keyed hne
      obtain ⟨rfl, hkey⟩ := Message.transfer.inj hm
      obtain rfl : k = key := Option.some.inj (hk.symm.trans hkey)
      exact ⟨hdrawn, hagreed⟩
    · exact h
  | undo transferId =>
    unfold SendWorld.step
    dsimp only
    split
    · rename_i hcan
      rw [hidle hcan.2.1] at hs
      exact h.calling nofun (hs.undoing hcan)
    · exact h
  | undoAnswered ticket readable =>
    unfold SendWorld.step
    dsimp only
    split
    · rename_i transferId key ha
      split
      · rename_i data hdata
        rw [ha] at hs
        refine h.screen (hs.undone (h.undo_answered hdata) fun b hb => ?_)
        split at hb
        · exact (Option.some.inj hb).symm
        · cases hb
      · exact h
    · exact h
  | connectionLost =>
    unfold SendWorld.step
    dsimp only
    split
    · rename_i a ha
      rw [ha] at hs
      exact h.screen hs.lost.1
    · exact h
  | refused message =>
    unfold SendWorld.step
    dsimp only
    split
    · rename_i a ha
      rw [ha] at hs
      exact h.screen (hs.lost.2 message)
    · exact h
  | reset =>
    unfold SendWorld.step
    dsimp only
    split
    · rename_i hstep
      refine h.screen (A := w.awaiting) (.composing rfl hs.busy fun a ha => ?_)
      match a, hs.fits a ha with
      | .lookup _ _, ⟨hne, _⟩ => cases hstep.symm.trans hne
      | .reply (.transfer _ _), ⟨hne, _⟩ => cases hstep.symm.trans hne
      | .reply (.undo _ _), _ => exact .inl rfl
    · exact h
  | leave => exact h.screen (.composing rfl rfl nofun)

/-- Every move keeps the invariant. -/
theorem Honest.step (h : w.Honest d uow now user keys drawn)
    (hapart : ∀ key ∈ drawn, KeyApart d.crypto w.server.store user key) (move : Move uow)
    (hkeys : ∀ key ∈ move.draws, key ∈ keys ∧ key ∉ drawn)
    (hforeign : ∀ r, move.foreign = some r → ∀ key ∈ keys, ¬r.OwnKey ⟨user, SEND_ENDPOINT, key⟩) :
    (w.step d uow user move).Honest d uow now user keys (drawn ++ move.draws) := by
  cases move with
  | lookupAnswered key =>
    obtain ⟨hkey, hnew⟩ := hkeys key.text (List.mem_singleton_self _)
    have h' := h.more hkey
    unfold SendWorld.step
    dsimp only
    split
    · rename_i phone found ha
      obtain ⟨-, hfound⟩ := h.shown.fits _ ha
      refine h'.screen ⟨rfl, nofun, fun _ => ⟨key.text, ?_, rfl, fun body hmem => ?_⟩,
        fun _ => ⟨found, rfl, hfound found rfl⟩, nofun⟩
      · exact List.mem_append_right _ (List.mem_singleton_self _)
      · exact absurd (h.wired body _ hmem) hnew
    · exact h'
  | lookupUnreadable key =>
    have h' := h.more (hkeys key.text (List.mem_singleton_self _)).1
    unfold SendWorld.step
    dsimp only
    split
    · exact h'.screen (.composing rfl rfl nofun)
    · exact h'
  | transferAnswered ticket readable undoKey =>
    have h' := h.more (hkeys undoKey.text (List.mem_singleton_self _)).1
    unfold SendWorld.step
    dsimp only
    split
    · rename_i body key ha
      split
      · rename_i data hdata
        have hs := h'.shown
        rw [ha] at hs
        obtain ⟨hstep, hwire, hkey⟩ := hs.fits _ rfl
        obtain ⟨k, -, hk, -⟩ := hs.keyed (by rw [hstep]; nofun)
        obtain rfl : key = some k := hkey.trans hk
        obtain ⟨hold, hheld, hreceipt⟩ :=
          h.transfer_answered (hapart k (h.wired body k hwire)) hwire hdata
        refine h'.screen (hs.sent hheld fun b hb => ?_)
        split at hb
        · exact Option.some.inj hb ▸ hreceipt
        · cases hb
      · exact h'
    · exact h'
  | _ =>
    show Honest d uow now user keys (drawn ++ []) _
    rw [List.append_nil]
    exact h.step_drawless rfl hforeign

/-- The server only ever takes steps of its own. -/
theorem server_step (w : SendWorld) (move : Move uow) :
    (w.step d uow user move).server = w.server ∨
      ∃ e, (w.step d uow user move).server = w.server.step (service d) uow.policy e := by
  cases move with
  | server e => exact .inr ⟨e, rfl⟩
  | deliver m requestId =>
    unfold SendWorld.step
    dsimp only
    split
    · rename_i r hr
      split
      · exact .inr ⟨.arrive r, rfl⟩
      · exact .inl rfl
    · exact .inl rfl
  | _ =>
    left
    unfold SendWorld.step
    dsimp only
    repeat' split
    all_goals rfl

theorem serial_run (moves : List (Move uow)) :
    (run d uow user moves (SendWorld.initial (migrated now))).server.Serial (service d) uow.policy
      (migrated now) := by
  induction moves using List.reverseRecOn with
  | nil => exact System.Serial.initial
  | append_singleton moves move ih =>
    rw [run_concat]
    rcases server_step (run d uow user moves (SendWorld.initial (migrated now))) move with he | ⟨e, he⟩
    · rw [he]
      exact ih
    · rw [he]
      exact ih.step e

theorem run_continues (moves : List (Move uow)) (move : Move uow) :
    (run d uow user moves (SendWorld.initial (migrated now))).server.store.Continues
      (run d uow user (moves ++ [move]) (SendWorld.initial (migrated now))).server.store := by
  have hserial : (run d uow user moves (SendWorld.initial (migrated now))).server.Serial (service d)
      uow.policy (migrated now) := serial_run moves
  rw [run_concat]
  rcases server_step (run d uow user moves (SendWorld.initial (migrated now))) move with he | ⟨e, he⟩
  · rw [he]
    exact .refl _
  · rw [he]
    exact (step_continues hserial e).1

/-- Runs, whose keys' digests stay apart from those of the user's other keys. -/
theorem Honest.run (moves : List (Move uow))
    (hapart : ∀ key ∈ moves.flatMap Move.draws, KeyApart d.crypto
      (run d uow user moves (SendWorld.initial (migrated now))).server.store user key)
    (hkeys : ∀ key ∈ moves.flatMap Move.draws, key ∈ keys) (hfresh : (moves.flatMap Move.draws).Nodup)
    (hforeign : ∀ move ∈ moves, ∀ r, move.foreign = some r → ∀ key ∈ keys,
      ¬r.OwnKey ⟨user, SEND_ENDPOINT, key⟩) :
    (run d uow user moves (SendWorld.initial (migrated now))).Honest d uow now user keys
      (moves.flatMap Move.draws) := by
  induction moves using List.reverseRecOn with
  | nil => exact .initial
  | append_singleton moves move ih =>
    have hdraws : (moves ++ [move]).flatMap Move.draws = moves.flatMap Move.draws ++ move.draws := by
      simp
    rw [hdraws] at hkeys hfresh hapart ⊢
    obtain ⟨hbefore, -, hnew⟩ := List.nodup_append.1 hfresh
    have hearlier : ∀ key ∈ moves.flatMap Move.draws, KeyApart d.crypto
        (SendWorld.run d uow user moves (.initial (migrated now))).server.store user key :=
      fun key hk => (hapart key (List.mem_append_left _ hk)).earlier (run_continues moves move)
    have h := ih hearlier (fun key hk => hkeys key (List.mem_append_left _ hk)) hbefore
      fun move' hm => hforeign move' (List.mem_append_left _ hm)
    rw [run_concat]
    exact h.step hearlier move
      (fun key hk => ⟨hkeys key (List.mem_append_right _ hk), fun hk' => hnew key hk' key hk rfl⟩)
      (hforeign move (List.mem_append_right _ (List.mem_singleton_self _)))

end Honesty

end SendWorld

/-- The user with the number is the one the screen has shown. -/
theorem TransferRow.Carries.payee {db : Database} {user : Ulid} {I : SendIntent} {hold : TransferRow}
    {found : Recipient} (hdir : db.Directory) (h : hold.Carries db user I) (hmet : db.Meets found)
    (hphone : found.phone = I.phone) :
    ∃ account, hold.intendedReceiverAccountId = some account ∧ db.OwnedBy account found.userId := by
  obtain ⟨account, haccount, v, hv, hvphone, hown⟩ := h.receiver
  obtain ⟨v', hv', hvphone'⟩ := hmet
  have hid : v.id = v'.id := hdir.phones v (Table.mem_of_find? hv) v' (Table.mem_of_find? hv')
    (hvphone.trans (hphone.symm.trans hvphone'.symm))
  have hfound : v'.id = found.userId := Table.key_of_find? hv'
  exact ⟨account, haccount, hfound ▸ hid ▸ hown⟩

/-- **The screen is honest.**  Whatever is lost, repeated or late between the screen and the server,
    and whatever else is served: under every key the screen has drawn nothing is held, or one hold,
    as a call the user has confirmed asked for it; from the review on this is, under the present
    key, what the form says, and goes to the user shown if that is whose number is in the form;
    and the receipt is that of this hold, and calls it refunded only when it is. -/
theorem send_screen_honest (d : Deployment) (uow : UnitOfWork) (now : Time) (user : Ulid)
    (moves : List (Move uow)) (hfresh : (moves.flatMap Move.draws).Nodup)
    (hapart : ∀ key ∈ moves.flatMap Move.draws, KeyApart d.crypto
      (SendWorld.run d uow user moves (.initial (migrated now))).server.store user key)
    (hforeign : ∀ move ∈ moves, ∀ r, move.foreign = some r → ∀ key ∈ moves.flatMap Move.draws,
      ¬r.OwnKey ⟨user, SEND_ENDPOINT, key⟩) :
    let w := SendWorld.run d uow user moves (.initial (migrated now))
    let db := w.server.store
    (∀ key ∈ moves.flatMap Move.draws, db.heldUnder d.crypto user key = [] ∨
      ∃ hold body, db.heldUnder d.crypto user key = [hold] ∧ .transfer body (some key) ∈ w.wire ∧
        hold.Carries db user body.intent) ∧
    (w.screen.step ≠ .compose → ∃ key found, w.screen.idempotencyKey = some key ∧
      w.screen.recipient = some found ∧ ∀ hold ∈ db.heldUnder d.crypto user key,
        hold.Carries db user w.screen.intent ∧ (found.phone = w.screen.intent.phone →
          ∃ account, hold.intendedReceiverAccountId = some account ∧
            db.OwnedBy account found.userId)) ∧
    (w.screen.step = .succeeded → ∃ key r hold, w.screen.idempotencyKey = some key ∧
      w.screen.receipt = some r ∧ db.heldUnder d.crypto user key = [hold] ∧ r.Shows hold ∧
        (r.str? "status" = some "REFUNDED" → hold.status = .refunded)) := by
  intro w db
  have h : w.Honest d uow now user (moves.flatMap Move.draws) (moves.flatMap Move.draws) :=
    SendWorld.Honest.run moves hapart (fun _ => id) hfresh hforeign
  have hstore := h.served.store_eq
  refine ⟨fun key hkey => ?_, fun hstep => ?_, fun hstep => ?_⟩
  · by_cases hasked : ∃ body, Message.transfer body (some key) ∈ w.wire
    · obtain ⟨body, hbody⟩ := hasked
      have hagreed : ∀ body', Message.transfer body' (some key) ∈ w.wire → body'.intent = body.intent :=
        fun body' hbody' => h.agreed key body' body hbody' hbody
      rcases h.served.heldUnder (hapart key hkey) hkey hagreed with hnone | ⟨hold, hone, hcarries⟩
      · exact .inl hnone
      · exact .inr ⟨hold, body, hone, hbody, hcarries⟩
    · exact .inl (h.served.heldUnder_of_silent (hapart key hkey) hkey
        fun body hbody => hasked ⟨body, hbody⟩)
  · obtain ⟨key, hkey, hscreen, hagreed⟩ := h.shown.keyed hstep
    obtain ⟨found, hfound, hmet⟩ := h.shown.met hstep
    refine ⟨key, found, hscreen, hfound, fun hold hmem => ?_⟩
    rcases h.served.heldUnder (hapart key hkey) hkey hagreed with hnone | ⟨hold', hone, hcarries⟩
    · rw [hnone] at hmem
      cases hmem
    · rw [hone] at hmem
      obtain rfl := List.mem_singleton.1 hmem
      have hdir : db.Directory := by
        rw [show db = _ from hstore]
        exact serveAll_directory d now _
      exact ⟨hcarries, hcarries.payee hdir hmet⟩
  · obtain ⟨key, r, hold, hkey, hr, hheld, hshows, hstatus, -⟩ := h.shown.receipted hstep
    refine ⟨key, r, hold, hkey, hr, hheld.heldUnder ?_, hshows, hstatus⟩
    rw [hstore]
    exact (serveAll_inv d now _).journalled

namespace Sample

/-- The SHA-256 digests of what the run below hashes. -/
def sendDigests : List (String × String) :=
  [("\x7b\"amountMinor\":10000000,\"userId\":\"000000000100000000000000Z9\"\x7d",
      "632ac5b3bd2099bd33f161e7edd4b476f8f4700c771ae774c151d9789c6fe0c6"),
    ("\x7b\"amountMinor\":10000000,\"userId\":\"000000000200000000000001YH\"\x7d",
      "081321be35a695dbbc076ac3e6d5e6af4c71c3233aebb3fc8cd669a4b032d333"),
    ("\x7b\"amountMinor\":5000,\"currency\":\"BDT\",\"note\":null," ++
      "\"receiverAccountId\":\"000000000200000000000001YM\"," ++
      "\"senderAccountId\":\"000000000100000000000000ZC\"\x7d",
      "c1005ccdf50acc44ca79f7a802e62d92a77fbc9e51a0dedd23e58c7e87cda71f"),
    ("\x7b\"clientKey\":\"7d444840-9dc0-41d1-b245-5ffdce74fad2\"\x7d",
      "96371165fc89dbea74af9adf96864a450edfe6a63ac6aef0d21f1e0156d712de"),
    ("\x7b\"amountMinor\":5000,\"holding\":\"00000000000000000000000002\"," ++
      "\"kind\":\"UNDO_HOLD\",\"payer\":\"000000000100000000000000ZC\"\x7d",
      "9e3bad85e4e94b75a6fa245e127dec77b502548cf1c9fc6aff0b52ab699a644c"),
    ("token-1-14",
      "d800179aeb40fc16ffed24e9f1f3982bf21cd51e3bd33faa82847e34df22a83b"),
    ("token-2-14",
      "ede6a15d2083ff61d848fd99c0be3e567ad72a5878296dcdb934f4d0e5b0814e")]

def sending : Deployment := ⟨settings, crypto (digestOf sendDigests)⟩

theorem plain_of_all {text : String}
    (h : (text.toList.all fun c => c.isAlphanum || c == '-') = true) :
    ∀ c ∈ text.toList, c.isAlphanum = true ∨ c = '-' := by
  intro c hc
  simpa using List.all_eq_true.1 h c hc

def sendKey : ClientKey where
  text := "7d444840-9dc0-41d1-b245-5ffdce74fad2"
  plain := plain_of_all (by decide +kernel)
  length := by decide +kernel

def undoKey : ClientKey where
  text := "1b9d6bcd-bbfd-4b2d-9b5d-ab8dfbbd4bed"
  plain := plain_of_all (by decide +kernel)
  length := by decide +kernel

def fiftyTaka : Message := .transfer ⟨"01722222222", some 5000, "1234", none⟩ (some sendKey.text)

/-- Two users register.  The first sends the second fifty taka; the call is lost, the check is
    delivered twice, and the first delivery is answered. -/
def lostAndChecked : List (Move uow) :=
  let soon := fun n => oracle n (start + Time.seconds n)
  [.server (.direct (soon 1) (register 1 "01711111111").request),
    .server (.direct (soon 2) (register 2 "01722222222").request),
    .setPhone "01722222222", .setAmount "50", .lookupRecipient, .lookupServed,
    .lookupAnswered sendKey, .setPin "1234", .confirmSend, .connectionLost, .confirmSend,
    .deliver fiftyTaka none, .deliver fiftyTaka none,
    .server (.attempt 0 (soon 3) .done), .transferAnswered 0 true undoKey]

/-- The world after that. -/
def sentWorld : SendWorld :=
  SendWorld.run sending uow (id 1 1) lostAndChecked (.initial (migrated 0))

/-- Of the requests from elsewhere, none has a key of the screen's. -/
theorem foreign_lostAndChecked : ∀ move ∈ lostAndChecked, ∀ r, move.foreign = some r →
    ∀ key ∈ lostAndChecked.flatMap Move.draws, ¬r.OwnKey ⟨id 1 1, SEND_ENDPOINT, key⟩ := by
  have hregister : ∀ move ∈ lostAndChecked, ∀ r, move.foreign = some r → ∀ key,
      r.OwnKey ⟨id 1 1, SEND_ENDPOINT, key⟩ → key = "signup-grant:" ++ (id 1 1).text := by
    simp [lostAndChecked, Move.foreign, register, call, Request.OwnKey]
  intro move hmove r hr key hkey hown
  rw [hregister move hmove r hr key hown] at hkey
  exact absurd hkey (by decide +kernel)

end Sample

/-- The call goes out twice and is held once, and the receipt is that of the hold. -/
theorem sent_twice_held_once :
    Sample.sentWorld.wire = [Sample.fiftyTaka, Sample.fiftyTaka] ∧ ∃ r hold,
      Sample.sentWorld.screen.receipt = some r ∧ r.Shows hold ∧
        Sample.sentWorld.server.store.heldUnder Sample.sending.crypto (Sample.id 1 1)
          Sample.sendKey.text = [hold] := by
  have hrun : Sample.sentWorld.wire = [Sample.fiftyTaka, Sample.fiftyTaka] ∧
      Sample.sentWorld.screen.step = .succeeded ∧
      Sample.sentWorld.screen.idempotencyKey = some Sample.sendKey.text := by
    decide +kernel
  obtain ⟨hwire, hstep, hkey⟩ := hrun
  have hsha : Function.Injective Sample.sending.crypto.sha256 :=
    Sample.digestOf_injective (by decide +kernel) (by decide +kernel)
  have hfresh : (Sample.lostAndChecked.flatMap Move.draws).Nodup := by decide +kernel
  have hall := send_screen_honest Sample.sending Sample.uow 0 (Sample.id 1 1) Sample.lostAndChecked
    hfresh (fun _ _ => .of_injective hsha) Sample.foreign_lostAndChecked
  have hworld : SendWorld.run Sample.sending Sample.uow (Sample.id 1 1) Sample.lostAndChecked
      (.initial (migrated 0)) = Sample.sentWorld := rfl
  rw [hworld] at hall
  generalize Sample.sentWorld = w at hall hwire hstep hkey ⊢
  obtain ⟨key, r, hold, hkey', hr, hheld, hshows, -⟩ := hall.2.2 hstep
  obtain rfl : key = Sample.sendKey.text := Option.some.inj (hkey'.symm.trans hkey)
  exact ⟨hwire, r, hold, hr, hshows, hheld⟩

end MoneyMovement

/-
  MoneyMovement/KeyFootprint.lean
  ===============================
  **Whose key a record is.**

  A request writes idempotency records under the triple it names itself, and under the
  `INTERNAL:` triples of the movements behind it.  `Request.handle_agree` says which triples a
  view has to take for the same in order to follow a request; `frameView` takes only those, and
  pins every other record.  So each record of the API comes from a request that named it.
-/
import MoneyMovement.ViewedRequests
import MoneyMovement.Invariants

/-- Appending a row changes no other key's. -/
theorem Table.find?_push_of_ne {ρ κ : Type} [DecidableEq κ] {key : ρ → κ} {t : Table key} {r : ρ}
    {k : κ} (h : key r ≠ k) : (t.push r).find? k = t.find? k := by
  by_cases hn : t.find? (key r) = none
  · rw [find?_push hn, if_neg h]
  · unfold push
    rw [dif_neg hn]

namespace MoneyMovement

open Txn SafePayService

/-! ### The keys of a request -/

/-- A triple of the API: its endpoint is a route. -/
def IdempotencyTriple.OfApi (k : IdempotencyTriple) : Prop := ∃ rest, k.endpoint = "POST:/" ++ rest

theorem IdempotencyTriple.not_ofApi (endpoint : String)
    (h : "POST:/".toList.isPrefixOf endpoint.toList = false) {k : IdempotencyTriple}
    (hk : k.endpoint = endpoint) : ¬k.OfApi := by
  rintro ⟨rest, hrest⟩
  exact append_ne_of_not_isPrefixOf h (hrest.symm.trans hk)

/-- The triples of the API a request names.  A registration names that of the welcome grant. -/
def Request.OwnKey : Request → IdempotencyTriple → Prop
  | .register .., k => k.endpoint = TRANSFER_ENDPOINT ∧ k.key = "signup-grant:" ++ k.actorId.text
  | .createTransfer user _ _ _ _ key _, k => k = ⟨user, OverdraftService.SEND_ENDPOINT, key⟩
  | .undoTransfer user transferId key _, k =>
    k = ⟨user, UndoableTransferService.undoEndpoint transferId, key⟩
  | .createPool user _ _ key _, k => k = ⟨user, OverdraftService.POOL_ENDPOINT, key⟩
  | .fundPool user _ _ key _, k =>
    ∃ pool : Ulid, k = ⟨user, "POST:/api/v1/overdraft/pools/" ++ pool.text ++ "/fund", key⟩
  | .createGrant user _ _ _ key _, k => k = ⟨user, OverdraftService.GRANT_ENDPOINT, key⟩
  | .createSafepay user _ _ _ _ key _, k => k = ⟨user, CREATE_ENDPOINT, key⟩
  | .shipSafepay user escrowId _ _ key _, k =>
    k = ⟨user, "POST:/api/v1/safepay/" ++ escrowId.text ++ "/ship", key⟩
  | .releaseSafepayCode user escrowId _ key _, k => k = releaseCodeTriple escrowId user key
  | .confirmSafepayReceived user escrowId key _, k =>
    k = ⟨user, "POST:/api/v1/safepay/" ++ escrowId.text ++ "/confirm-received", key⟩
  | .disputeSafepay user escrowId _ key _, k =>
    k = ⟨user, "POST:/api/v1/safepay/" ++ escrowId.text ++ "/dispute", key⟩
  | .courierWebhook courier eventId _ _ _, k => ∃ escrow, k = courierTriple escrow courier eventId
  | .resolveSafepay escrowId _ _ _ key _, k =>
    k = ⟨escrowId, "POST:/api/v1/admin/safepay/" ++ escrowId.text ++ "/resolve", key⟩
  | .acceptRequest user _ _ key _, k => k = ⟨user, TRANSFER_ENDPOINT, key⟩
  | _, _ => False

/-! ### Following a request -/

/-- The view takes every triple behind the API for its own, and ignores no task. -/
structure View.Internal (v : View) : Prop where
  same : ∀ k : IdempotencyTriple, ¬k.OfApi → v.triple k k
  seen : ∀ id, ¬v.ignored id

section Requests

variable {v : View} {c : Ctx} {g : String → String → Nat}

namespace View.Internal

theorem legs (hv : v.Internal) : v.Legs := by
  intro u hold status kind
  have hend : "POST:/".toList.isPrefixOf (HoldingService.legEndpoint kind).toList = false := by
    rw [HoldingService.legEndpoint, String.toList_append]
    rfl
  exact hv.same _ (IdempotencyTriple.not_ofApi _ hend rfl)

theorem fundings (hv : v.Internal) : OverdraftService.Fundings v := fun _ _ =>
  hv.same _ (IdempotencyTriple.not_ofApi "INTERNAL:/overdraft/fund" (by decide) rfl)

theorem sendKeys (hv : v.Internal) {u : Ulid} {key : String}
    (hsend : v.triple ⟨u, OverdraftService.SEND_ENDPOINT, key⟩ ⟨u, OverdraftService.SEND_ENDPOINT, key⟩) :
    OverdraftService.SendKeys v c u key key where
  send := hsend
  draw _ := hv.same _ (IdempotencyTriple.not_ofApi "INTERNAL:/overdraft/draw" (by decide) rfl)
  hold := hv.same _
    (IdempotencyTriple.not_ofApi UndoableTransferService.UNDO_HOLD_ENDPOINT (by decide) rfl)

end View.Internal

theorem createTransferOp_agree {u : Ulid} {key : String} (hk : OverdraftService.SendKeys v c u key key)
    (phone : String) (amount : Money) (note r : Option String) :
    v.Agree (createTransferOp c u phone amount note key r)
      (createTransferOp (c.recoded g) u phone amount note key r) := by
  refine .andThen (SqlAccountRepository.getByUserId_agree u) fun foundSender => ?_
  refine .andThen (.orRaise _ _) fun sender => ?_
  refine .andThen (SqlAccountRepository.getByPhone_agree phone) fun foundRecipient => ?_
  refine .andThen (.orRaise _ _) fun recipient => .andThen (.ensure _ _) fun _ => ?_
  exact OverdraftService.send_agree hk

/-- A request behind the PIN check, whose operation answers alike. -/
theorem pinProtected_agree {α : Type} (u : Ulid) (pin : String) {op op' : Tx α} (reply : α → Reply)
    (hop : v.Agree op op') :
    v.Agree (runPinProtected c u pin op >>= fun r => pure (r.map reply))
      (runPinProtected (c.recoded g) u pin op' >>= fun r => pure (r.map reply)) := by
  refine .bind (runPinProtected_agree u pin hop) fun r r' hr => .pure ?_
  rcases hr with rfl | ⟨a, _, rfl, rfl, rfl⟩
  · rfl
  · rfl

/-- A creation, up to a relation on what it answers. -/
theorem createSafepay_lockstep {V : Body → Body → Prop} {u : Ulid} {pin phone : String} {amount : Money}
    {note : Option String} {key : String} {r : Option String}
    (hcreate : ∀ account seller receiver, Lockstep v.Sessions V
      (create c u account seller receiver amount note key r)
      (create (c.recoded g) u account seller receiver amount note key r)) :
    Lockstep v.Sessions (fun x x' => x = x' ∨ ∃ b b', x = .ok (.body b) ∧ x' = .ok (.body b') ∧ V b b')
      (handle c (.createSafepay u pin phone amount note key r))
      (handle (c.recoded g) (.createSafepay u pin phone amount note key r)) := by
  refine .bind (V := fun x x' => x = x' ∨ ∃ b b', x = .ok b ∧ x' = .ok b' ∧ V b b')
    (runPinProtected_agree u pin ?_) fun x x' hx => .pure ?_
  · refine .andThen (SqlAccountRepository.getByUserId_agree u) fun foundBuyer => ?_
    refine .andThen (View.Agree.read fun _ _ _ _ _ => rfl) fun foundUser => ?_
    refine .andThen (SqlAccountRepository.getByPhone_agree phone) fun foundSeller => ?_
    refine .andThen (.orRaise _ _) fun buyer => .andThen (.orRaise _ _) fun seller => ?_
    refine .andThen (.orRaise _ _) fun user => .andThen (.ensure _ _) fun _ => ?_
    exact hcreate _ _ _
  · rcases hx with rfl | ⟨b, b', rfl, rfl, hb⟩
    · exact .inl rfl
    · exact .inr ⟨b, b', rfl, rfl, hb⟩

/-- A request that neither creates an order nor tries a code answers alike in every view that
    takes its own keys for the same. -/
theorem Request.handle_agree {req : Request} (hv : v.Internal) (hown : ∀ k, req.OwnKey k → v.triple k k)
    (hcreate : ∀ u pin phone amount note key r, req ≠ .createSafepay u pin phone amount note key r)
    (hverdict : ∀ u id code key r, req = .releaseSafepayCode u id code key r →
      ∀ (row : EscrowRow) (h : String), row.id = id → v.hash row.id row.deliveryCodeHash h →
        c.crypto.argon2Verify row.deliveryCodeHash code = c.crypto.argon2Verify h code) :
    v.Agree (handle c req) (handle (c.recoded g) req) := by
  cases req
  case createSafepay => exact absurd rfl (hcreate _ _ _ _ _ _ _)
  case register =>
    exact .andThen (AuthService.register_agree (fun _ => hown _ ⟨rfl, rfl⟩) _ _ _ _ _ _) fun _ => .pure rfl
  case login => exact .andThen (AuthService.login_agree _ _ _) fun _ => .pure rfl
  case refresh => exact .andThen (AuthService.refresh_agree _ _) fun _ => .pure rfl
  case logout => exact .andThen (AuthService.logout_agree _) fun _ => .pure rfl
  case createTransfer =>
    exact pinProtected_agree _ _ _ (createTransferOp_agree (hv.sendKeys (hown _ rfl)) _ _ _ _)
  case undoTransfer =>
    exact .andThen (UndoableTransferService.undo_agree hv.legs (hown _ rfl)) fun _ => .pure rfl
  case createPool =>
    exact pinProtected_agree _ _ _ (OverdraftService.createPool_agree hv.fundings (hown _ rfl))
  case fundPool =>
    exact pinProtected_agree _ _ _ (OverdraftService.fundPool_agree fun pool => hown _ ⟨pool, rfl⟩)
  case createGrant =>
    exact pinProtected_agree _ _ _ (OverdraftService.grantAccess_agree (hown _ rfl))
  case shipSafepay => exact .andThen (markShipped_agree (hown _ rfl)) fun _ => .pure rfl
  case releaseSafepayCode u id code key r =>
    refine .andThen (releaseWithCode_agree hv.legs (hown _ rfl) ?_) fun _ => .pure rfl
    exact hverdict u id code key r rfl
  case confirmSafepayReceived =>
    exact .andThen (confirmReceived_agree hv.legs (hown _ rfl)) fun _ => .pure rfl
  case disputeSafepay => exact .andThen (dispute_agree (hown _ rfl)) fun _ => .pure rfl
  case courierWebhook =>
    refine .andThen (.andThen (.ensure _ _) fun _ => ?_) fun _ => .pure rfl
    exact courierDelivered_agree hv.legs _ fun e => hown _ ⟨e, rfl⟩
  case resolveSafepay =>
    exact .andThen (resolveDispute_agree hv.legs _ _ _ _ (hown _ rfl)) fun _ => .pure rfl
  case createRequest => exact .andThen (MoneyRequestService.create_agree _ _ _ _ _) fun _ => .pure rfl
  case acceptRequest =>
    exact pinProtected_agree _ _ _ (MoneyRequestService.accept_agree (hown _ rfl))
  case rejectRequest => exact .andThen (MoneyRequestService.terminate_agree _ _ _ _) fun _ => .pure rfl
  case cancelRequest => exact .andThen (MoneyRequestService.terminate_agree _ _ _ _) fun _ => .pure rfl
  case expireDue => exact .andThen MoneyRequestService.expireDue_agree fun _ => .pure rfl
  case runDueTasks => exact .andThen (Scheduler.runDueTasks_agree hv.legs hv.seen) fun _ => .pure rfl

end Requests

/-! ### One run, watched -/

/-- Two runs that are one: the records outside `P` are those of `t₀`. -/
def frameView (P : IdempotencyTriple → Prop) (hlien : ∀ k : IdempotencyTriple, ¬k.OfApi → P k)
    (t₀ : Table IdempotencyRow.triple) : View where
  hash _ h h' := h = h'
  ignored _ := False
  triple k k' := k = k' ∧ P k
  records t t' := t = t' ∧ ∀ k, ¬P k → t.find? k = t₀.find? k
  journal := Eq
  lien k hk := ⟨rfl, hlien k (IdempotencyTriple.not_ofApi LIEN_ENDPOINT (by decide) hk)⟩
  fits := by
    rintro k _ ⟨rfl, -⟩
    exact Iff.rfl
  find := by
    rintro t _ k _ ⟨rfl, -⟩ ⟨rfl, -⟩
    cases t.find? k with
    | none => exact .none
    | some row => exact .some (.refl row)
  push := by
    rintro t _ k _ f now ⟨rfl, ht⟩ ⟨rfl, hk⟩
    refine ⟨rfl, fun k' hk' => ?_⟩
    rw [← ht k' hk']
    refine Table.find?_push_of_ne ?_
    rintro rfl
    exact hk' hk
  complete := by
    rintro t _ k _ id status body now ⟨rfl, ht⟩ ⟨rfl, hk⟩
    refine ⟨rfl, fun k' hk' => ?_⟩
    have hne : k' ≠ k := by
      rintro rfl
      exact hk' hk
    rw [Table.find?_modifyAt, if_neg hne]
    exact ht k' hk'
  append := by
    rintro j _ k _ t l e rfl ⟨rfl, -⟩
    rfl

section Frame

variable {P : IdempotencyTriple → Prop} {H : ∀ k : IdempotencyTriple, ¬k.OfApi → P k}
  {c : Ctx}

theorem frameView_internal (t₀ : Table IdempotencyRow.triple) :
    (frameView P H t₀).Internal where
  same k hk := ⟨rfl, H k hk⟩
  seen _ h := h

theorem frameView_sessions (s : Session) :
    (frameView P H s.db.idempotencyRecords).Sessions s s where
  draws := rfl
  locks := rfl
  db := ⟨.refl (fun _ => ⟨_, rfl, rfl⟩) _, .refl (fun _ => ⟨rfl, rfl, rfl, fun _ => rfl⟩) _,
    ⟨rfl, fun _ _ => rfl⟩, rfl, rfl⟩

/-- What runs alike in such a view with itself leaves the pinned records alone. -/
theorem frame_kept {α : Type} {m : Tx α} {a : α} {s s' : Session} {V : α → α → Prop}
    (hm : Lockstep (frameView P H s.db.idempotencyRecords).Sessions V m m)
    (h : m s = .ok a s') {k : IdempotencyTriple} (hk : ¬P k) :
    s'.db.idempotencyRecords.find? k = s.db.idempotencyRecords.find? k := by
  obtain ⟨_, s₁, h₁, -, hs₁⟩ := hm.of_ok (frameView_sessions s) h
  rw [h] at h₁
  cases h₁
  exact hs₁.db.records.2 k hk

theorem Ctx.recoded_self (c : Ctx) : c.recoded c.crypto.hmacHead = c := rfl

/-- A creation, watched. -/
theorem create_frame {u account seller receiver : Ulid} {amount : Money} {note : Option String}
    {key : String} {r : Option String} (t₀ : Table IdempotencyRow.triple)
    (hown : P ⟨u, CREATE_ENDPOINT, key⟩) :
    (frameView P H t₀).Agree (create c u account seller receiver amount note key r)
      (create (c.recoded c.crypto.hmacHead) u account seller receiver amount note key r) := by
  have hk : (frameView P H t₀).triple ⟨u, CREATE_ENDPOINT, key⟩ ⟨u, CREATE_ENDPOINT, key⟩ :=
    ⟨rfl, hown⟩
  refine .andThen now_agree fun t => ?_
  refine .andThen (SqlIdempotencyRepository.reserve_agree hk _ _) fun decision => ?_
  refine .andThen (replayBodyOrRaise_agree _) fun replay => ?_
  cases replay with
  | some b => exact .pure rfl
  | none =>
    refine .andThen newUlid_agree fun id => ?_
    refine .andThen (execute_agree_same ⟨rfl, H _ ?_⟩) fun hold => ?_
    · exact IdempotencyTriple.not_ofApi SAFEPAY_HOLD_ENDPOINT (by decide) rfl
    refine .andThen (generateReference_agree _ _) fun reference => ?_
    refine .andThen (hashPassword_agree _) fun hash => ?_
    refine .andThen (SqlSafePayRepository.create_agree ⟨hash, rfl, rfl⟩) fun _ => ?_
    refine .andThen (SafePayService.complete_agree hk _ _ _ _) fun _ => ?_
    exact .andThen (auditEvent_agree _ _ _ _ _) fun _ => .pure rfl

end Frame

/-! ### Records come from requests that name them -/

section Keys

variable {c : Ctx} {req : Request} {db : Database} {r : Except AppError Reply} {s : Session}
  {k : IdempotencyTriple}

/-- A request leaves every record of the API that is not its own as it was. -/
theorem handle_own_keys (h : handle c req (begin db) = .ok r s) (hapi : k.OfApi) (hown : ¬req.OwnKey k) :
    s.db.idempotencyRecords.find? k = db.idempotencyRecords.find? k := by
  have hk : ¬(¬k.OfApi ∨ req.OwnKey k) := fun hor => hor.elim (· hapi) hown
  have hv := frameView_internal (P := fun k => ¬k.OfApi ∨ req.OwnKey k) (H := fun _ => .inl)
    (begin db).db.idempotencyRecords
  by_cases hcreate : ∃ u pin phone amount note key x,
      req = .createSafepay u pin phone amount note key x
  · obtain ⟨u, pin, phone, amount, note, key, x, rfl⟩ := hcreate
    refine frame_kept (P := fun k => ¬k.OfApi ∨ Request.OwnKey _ k) (H := fun _ => .inl)
      (createSafepay_lockstep (g := c.crypto.hmacHead) (V := Eq) fun account seller receiver => ?_) h hk
    exact create_frame _ (.inr rfl)
  · have hagree := Request.handle_agree (c := c) (g := c.crypto.hmacHead) hv
      (fun k hk => ⟨rfl, .inr hk⟩)
      (fun u pin phone amount note key x he => hcreate ⟨u, pin, phone, amount, note, key, x, he⟩)
      (fun _ _ _ _ _ _ _ _ _ heq => by rw [show _ = _ from heq])
    exact frame_kept hagree h hk

theorem serve_own_keys (d : Deployment) (call : Call) (hapi : k.OfApi) (hown : ¬call.request.OwnKey k) :
    (serve d call db).idempotencyRecords.find? k = db.idempotencyRecords.find? k := by
  rcases commit_cases (handle (d.ctx call.oracle) call.request) db with ⟨r, s, hok, he⟩ | he
  · rw [serve, he]
    exact handle_own_keys hok hapi hown
  · rw [serve, he]

theorem serveAll_own_keys (d : Deployment) (calls : List Call) (hapi : k.OfApi)
    (hown : ∀ call ∈ calls, ¬call.request.OwnKey k) :
    (serveAll d calls db).idempotencyRecords.find? k = db.idempotencyRecords.find? k := by
  induction calls generalizing db with
  | nil => rfl
  | cons call calls ih =>
    rw [serveAll, ih fun call' hmem => hown call' (List.mem_cons_of_mem _ hmem)]
    exact serve_own_keys d call hapi (hown call List.mem_cons_self)

end Keys

/-- **Every key has its owner.**  In every reachable state each record of an API command is under
    a triple that a request of the run named as its own; and a run in which no request names a
    triple leaves the record under it, or its absence, as it was. -/
theorem keys_have_owners (d : Deployment) (now : Time) (calls later : List Call) :
    (∀ r ∈ (serveAll d calls (migrated now)).idempotencyRecords.rows, r.triple.OfApi →
      ∃ call ∈ calls, call.request.OwnKey r.triple) ∧
    ∀ k : IdempotencyTriple, k.OfApi → (∀ call ∈ later, ¬call.request.OwnKey k) →
      (serveAll d (calls ++ later) (migrated now)).idempotencyRecords.find? k =
        (serveAll d calls (migrated now)).idempotencyRecords.find? k := by
  refine ⟨fun r hr hapi => ?_, fun k hapi hown => ?_⟩
  · by_contra hnone
    have hkept : (serveAll d calls (migrated now)).idempotencyRecords.find? r.triple =
        (migrated now).idempotencyRecords.find? r.triple :=
      serveAll_own_keys d calls hapi fun call hmem hown => hnone ⟨call, hmem, hown⟩
    rw [Table.find?_of_mem hr] at hkept
    cases hkept
  · rw [serveAll_append]
    exact serveAll_own_keys d later hapi hown

end MoneyMovement

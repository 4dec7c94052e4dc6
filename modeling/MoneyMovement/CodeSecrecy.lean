/-
  MoneyMovement/CodeSecrecy.lean
  ==============================
  **The delivery code is the buyer's secret.**
  Two deployments that agree on every code but that of one order serve the same requests and
  questions, step by step.  `codesView` relates their databases: the same rows, the hash of that
  code apart.  Every request keeps it (`handle_agree`, `create_lockstep`), so whatever anyone but
  the buyer is told is the same in both, and the code cannot be read off it.
-/
import MoneyMovement.KeyFootprint
import MoneyMovement.SafePayPaths
import MoneyMovement.Settlement
import MoneyMovement.CodeLockout
import MoneyMovement.Queries

namespace MoneyMovement

open Txn SafePayService

/-! ### Every request but a creation -/

/-- The view ignores no task, and takes every triple for its own except that of a creation. -/
structure View.Plain (v : View) : Prop where
  same : ∀ k : IdempotencyTriple, k.endpoint ≠ CREATE_ENDPOINT → v.triple k k
  seen : ∀ id, ¬v.ignored id

theorem CREATE_ENDPOINT_ofApi {k : IdempotencyTriple} (h : k.endpoint = CREATE_ENDPOINT) : k.OfApi :=
  ⟨"api/v1/safepay", h.trans (by decide)⟩

theorem View.Plain.internal {v : View} (hv : v.Plain) : v.Internal where
  same k hk := hv.same k fun he => hk (CREATE_ENDPOINT_ofApi he)
  seen := hv.seen

/-- No request but a creation names the endpoint of creations. -/
theorem Request.OwnKey.not_creation {req : Request} {k : IdempotencyTriple} (h : req.OwnKey k)
    (hcreate : ∀ u pin phone amount note key r, req ≠ .createSafepay u pin phone amount note key r) :
    k.endpoint ≠ CREATE_ENDPOINT := by
  -- the commands on an order go on where the endpoint of a creation ends
  have hnot : ∀ {x y : String}, x.toList.isPrefixOf CREATE_ENDPOINT.toList = false →
      x ++ y ≠ CREATE_ENDPOINT := append_ne_of_not_isPrefixOf
  cases req <;> try cases h
  case createSafepay.refl => exact absurd rfl (hcreate _ _ _ _ _ _ _)
  case register.intro hend _ =>
    rw [hend]
    decide
  case createTransfer.refl => exact show OverdraftService.SEND_ENDPOINT ≠ _ by decide
  case createPool.refl => exact show OverdraftService.POOL_ENDPOINT ≠ _ by decide
  case createGrant.refl => exact show OverdraftService.GRANT_ENDPOINT ≠ _ by decide
  case acceptRequest.refl => exact show TRANSFER_ENDPOINT ≠ _ by decide
  case fundPool.intro pool he =>
    subst he
    rw [String.append_assoc]
    exact hnot (by decide)
  case courierWebhook.intro e he =>
    subst he
    rw [courierTriple, String.append_assoc]
    exact hnot (by decide)
  all_goals
    show _ ++ _ ≠ _
    rw [String.append_assoc]
    exact hnot (by decide)

/-- A request that neither creates an order nor tries a code answers alike. -/
theorem handle_agree {v : View} {c : Ctx} {g : String → String → Nat} (hv : v.Plain) {req : Request}
    (hcreate : ∀ u pin phone amount note key r, req ≠ .createSafepay u pin phone amount note key r)
    (hverdict : ∀ u id code key r, req = .releaseSafepayCode u id code key r →
      ∀ (row : EscrowRow) (h : String), row.id = id → v.hash row.id row.deliveryCodeHash h →
        c.crypto.argon2Verify row.deliveryCodeHash code = c.crypto.argon2Verify h code) :
    v.Agree (handle c req) (handle (c.recoded g) req) :=
  Request.handle_agree hv.internal (fun k hk => hv.same k (hk.not_creation hcreate)) hcreate hverdict

/-! ### What the record of a creation keeps -/

/-- One run watched: who does not create orders leaves the records of creations alone. -/
def creationView (t₀ : Table IdempotencyRow.triple) : View :=
  frameView (fun k => k.endpoint ≠ CREATE_ENDPOINT) (fun _ hk he => hk (CREATE_ENDPOINT_ofApi he)) t₀

theorem creationView_plain (t₀ : Table IdempotencyRow.triple) : (creationView t₀).Plain where
  same _ hk := ⟨rfl, hk⟩
  seen _ h := h

theorem creations_kept {α : Type} {m : Tx α} {a : α} {s s' : Session}
    (hm : (creationView s.db.idempotencyRecords).Agree m m) (h : m s = .ok a s')
    {k : IdempotencyTriple} (hk : k.endpoint = CREATE_ENDPOINT) :
    s'.db.idempotencyRecords.find? k = s.db.idempotencyRecords.find? k :=
  frame_kept hm h fun hne => hne hk

theorem execute_creations {c : Ctx} {cmd : TransferCommand} {result : TransferResult} {s s' : Session}
    (hcmd : cmd.idempotencyEndpoint ≠ CREATE_ENDPOINT) (h : execute c cmd s = .ok result s')
    {k : IdempotencyTriple} (hk : k.endpoint = CREATE_ENDPOINT) :
    s'.db.idempotencyRecords.find? k = s.db.idempotencyRecords.find? k := by
  have hagree : (creationView s.db.idempotencyRecords).Agree (execute c cmd)
      (execute (c.recoded c.crypto.hmacHead) cmd) :=
    execute_agree_same ((creationView_plain _).same _ hcmd)
  rw [Ctx.recoded_self] at hagree
  exact creations_kept hagree h hk

/-- Whose order it is. -/
def Database.BuyerOf (db : Database) (id u : Ulid) : Prop :=
  ∃ e, db.safepayEscrows.find? id = some e ∧ e.buyerUserId = u

/-- A stored creation is about an order of the caller's. -/
def CreationsKnown (db : Database) : Prop :=
  ∀ k row b, db.idempotencyRecords.find? k = some row → k.endpoint = CREATE_ENDPOINT →
    row.responseBody = some b → ∃ id, db.BuyerOf id k.actorId ∧ b.str? "escrowId" = some id.text

/-- A reservation stores no body yet. -/
theorem stored_of_push {t : Table IdempotencyRow.triple} {triple k : IdempotencyTriple} {f : String}
    {now : Time} {row : IdempotencyRow} {b : Body} (hn : t.find? triple = none)
    (h : (t.push (SqlIdempotencyRepository.processing triple f now)).find? k = some row)
    (hb : row.responseBody = some b) : t.find? k = some row := by
  rw [Table.find?_push hn] at h
  split at h
  · obtain rfl := Option.some.inj h
    cases hb
  · exact h

theorem Body.str?_put {b : Body} {name other : String} {v : Scalar} (h : name ≠ other) :
    (b.put name v).str? other = b.str? other := by
  have hlast : ([(name, BodyValue.scalar v)].find? fun f => f.1 == other) = none := by simp [h]
  have hfind : (b.put name v).get? other = b.get? other := by
    unfold put get?
    rw [List.find?_append, hlast, Option.or_none, List.find?_filter]
    congr 2
    funext f
    by_cases hf : f.1 = other
    · simp [hf, Ne.symm h]
    · simp [hf]
  unfold str?
  rw [hfind]

section Creations

variable {c : Ctx} {s s' : Session} {u account seller receiver : Ulid} {amount : Money}
  {note : Option String} {key : String} {r : Option String}

theorem complete_ok {triple : IdempotencyTriple} {id : Ulid} {b : Body} {now : Time} {status : Nat}
    {x : Unit} (h : complete triple id b now status s = .ok x s') :
    s'.db = { s.db with
      idempotencyRecords := s.db.idempotencyRecords.modifyAt triple
        (SqlIdempotencyRepository.completedRow id status
          (b.without ["deliveryCode", "replayed"]) now)
        (SqlIdempotencyRepository.triple_completedRow _ _ _ _) } := by
  unfold complete SqlIdempotencyRepository.complete at h
  exact writeDb_ok h

/-- A creation under a fresh key: the caller's order, and the record that names it. -/
theorem createReserved_creation {triple : IdempotencyTriple} {now : Time} {b : Body}
    (h : createReserved c triple u account seller receiver amount note r now s = .ok b s') :
    ∃ id, s'.db.BuyerOf id u ∧ b.str? "escrowId" = some id.text ∧
      ∀ k row b', k.endpoint = CREATE_ENDPOINT → s'.db.idempotencyRecords.find? k = some row →
        row.responseBody = some b' → k = triple ∧ b'.str? "escrowId" = some id.text ∨
          s.db.idempotencyRecords.find? k = some row := by
  obtain ⟨id, s₁, h₁, h⟩ := bind_ok.1 h
  obtain ⟨hold, s₂, h₂, h⟩ := bind_ok.1 h
  obtain ⟨reference, s₃, h₃, h⟩ := bind_ok.1 h
  obtain ⟨codeHash, s₄, h₄, h⟩ := bind_ok.1 h
  obtain ⟨_, s₅, h₅, h⟩ := bind_ok.1 h
  obtain ⟨_, s₆, h₆, h⟩ := bind_ok.1 h
  obtain ⟨_, s₇, h₇, h⟩ := bind_ok.1 h
  obtain ⟨rfl, rfl⟩ := pure_ok.1 h
  obtain ⟨_, s₈, h₈, h₅⟩ := bind_ok.1 h₅
  obtain ⟨-, rfl⟩ := ensure_ok.1 h₈
  obtain ⟨hfresh, -, e₅⟩ := insertInto_ok h₅
  obtain ⟨logs, e₇⟩ := SafePayService.auditEvent_ok h₇
  have e₆ := complete_ok h₆
  have e₄ := (hashPassword_ok h₄).trans (generateReference_ok h₃)
  have e₁ := newUlid_ok h₁
  refine ⟨id, ⟨newEscrow id reference hold.transferId u seller amount note codeHash now, ?_, rfl⟩,
    rfl, ?_⟩
  · rw [e₇, e₆, e₅]
    exact Table.find?_push_self hfresh
  · intro k row b' hk hrow hb
    have hkept : s₂.db.idempotencyRecords.find? k = s.db.idempotencyRecords.find? k := by
      rw [← e₁]
      exact execute_creations (show SAFEPAY_HOLD_ENDPOINT ≠ CREATE_ENDPOINT by decide) h₂ hk
    have hrecords : s₅.db.idempotencyRecords = s₂.db.idempotencyRecords := by
      rw [e₅, ← e₄]
      rfl
    rw [e₇, e₆] at hrow
    dsimp only at hrow
    rw [hrecords, Table.find?_modifyAt] at hrow
    split at hrow
    · rename_i heq
      obtain ⟨row₀, -, rfl⟩ := Option.map_eq_some_iff.1 hrow
      obtain rfl := Option.some.inj hb
      exact .inl ⟨heq, rfl⟩
    · rw [hkept] at hrow
      exact .inr hrow

/-- A creation, first or replayed: the order it answers is the caller's, and the records stay
    known. -/
theorem create_creation {b : Body} (hknown : CreationsKnown s.db)
    (hkept : ∀ id v, s.db.BuyerOf id v → s'.db.BuyerOf id v)
    (h : create c u account seller receiver amount note key r s = .ok b s') :
    CreationsKnown s'.db ∧ ∀ e : Ulid, b.str? "escrowId" = some e.text → s'.db.BuyerOf e u := by
  obtain ⟨now, s₁, h₁, h⟩ := bind_ok.1 h
  have e₁ := (now_ok h₁).1
  generalize fingerprintRequest c _ = f at h
  obtain ⟨decision, s₂, h₂, h⟩ := bind_ok.1 h
  obtain ⟨replay, s₃, h₃, h⟩ := bind_ok.1 h
  -- what was known before is known after
  have hold : ∀ k row b', s.db.idempotencyRecords.find? k = some row →
      k.endpoint = CREATE_ENDPOINT → row.responseBody = some b' → ∃ id, s'.db.BuyerOf id k.actorId ∧
        b'.str? "escrowId" = some id.text := by
    intro k row b' hrow hk hb'
    obtain ⟨id, hbuyer, hid⟩ := hknown k row b' hrow hk hb'
    exact ⟨id, hkept _ _ hbuyer, hid⟩
  rcases SqlIdempotencyRepository.reserve_ok h₂ with ⟨rfl, hn, e₂⟩ | ⟨rfl, row, hrow, hd⟩
  · obtain ⟨rfl, rfl⟩ := pure_ok.1 h₃
    obtain ⟨id, hbuyer, hbody, hrecords⟩ := createReserved_creation h
    refine ⟨?_, ?_⟩
    · intro k row b' hrow hk hb'
      rcases hrecords k row b' hk hrow hb' with ⟨rfl, hid⟩ | hrow
      · exact ⟨id, hbuyer, hid⟩
      · rw [e₂] at hrow
        have hrow := stored_of_push hn hrow hb'
        rw [e₁] at hrow
        exact hold k row b' hrow hk hb'
    · intro e he
      rw [hbody] at he
      obtain rfl := Ulid.text_injective (Option.some.inj he)
      exact hbuyer
  · rw [e₁] at hrow
    rcases hd with ⟨rfl, -⟩ | ⟨-, -, rfl⟩ | ⟨-, -, rfl⟩
    · exact (raise_ok.1 h₃).elim
    · obtain ⟨rfl, rfl⟩ := pure_ok.1 h₃
      obtain ⟨rfl, rfl⟩ := pure_ok.1 h
      refine ⟨fun k row b' hrow hk hb' => ?_, fun e he => ?_⟩
      · rw [e₁] at hrow
        exact hold k row b' hrow hk hb'
      · cases hb' : row.responseBody with
        | none =>
          rw [hb'] at he
          cases he
        | some b' =>
          obtain ⟨id, hbuyer, hid⟩ := hold _ row b' hrow rfl hb'
          rw [hb', Option.getD_some, Body.str?_put (by decide), Body.str?_put (by decide), hid] at he
          obtain rfl := Ulid.text_injective (Option.some.inj he)
          exact hbuyer
    · exact (raise_ok.1 h₃).elim

end Creations

section Transactions

variable {c : Ctx} {req : Request} {db : Database} {s : Session} {r : Except AppError Reply}

theorem handle_buyers (hinv : Invariant c.settings c.crypto ⟨.idle, db⟩)
    (h : handle c req (begin db) = .ok r s) {id u : Ulid} (hbuyer : db.BuyerOf id u) :
    s.db.BuyerOf id u := by
  obtain ⟨e, he, hu⟩ := hbuyer
  obtain ⟨e', he', hmoved⟩ :=
    (Steps.escrowMoves (handle_steps h) (licence_sound _ _ _) hinv).kept id e he
  rcases hmoved with rfl | ⟨-, hd, -⟩
  · exact ⟨e', he', hu⟩
  · exact ⟨e', he', hd.buyer.trans hu⟩

/-- A creation that answered: the order is the caller's. -/
theorem handle_creation {u : Ulid} {pin phone : String} {amount : Money} {note : Option String}
    {key : String} {x : Option String} (hinv : Invariant c.settings c.crypto ⟨.idle, db⟩)
    (hknown : CreationsKnown db)
    (h : handle c (.createSafepay u pin phone amount note key x) (begin db) = .ok r s) :
    CreationsKnown s.db ∧ ∀ (b : Body) (e : Ulid), r = .ok (.body b) →
      b.str? "escrowId" = some e.text → s.db.BuyerOf e u := by
  have hbuyers : ∀ id v, db.BuyerOf id v → s.db.BuyerOf id v := fun _ _ => handle_buyers hinv h
  obtain ⟨o, s₁, h₁, h⟩ := bind_ok.1 h
  obtain ⟨rfl, rfl⟩ := pure_ok.1 h
  rcases runPinProtected_cases h₁ with ⟨e, rfl, hpin⟩ | ⟨s₂, b, rfl, hpin, hop⟩
  · obtain ⟨users, -, he⟩ := hpin
    refine ⟨?_, ?_⟩
    · rw [he]
      exact hknown
    · intro b e hb
      cases hb
  · obtain ⟨users, -, he⟩ := hpin
    obtain ⟨foundBuyer, s₃, h₃, hop⟩ := bind_ok.1 hop
    obtain ⟨-, rfl⟩ := readDb_ok.1 h₃
    obtain ⟨foundUser, s₄, h₄, hop⟩ := bind_ok.1 hop
    obtain ⟨-, rfl⟩ := readDb_ok.1 h₄
    obtain ⟨foundSeller, s₅, h₅, hop⟩ := bind_ok.1 hop
    obtain ⟨-, rfl⟩ := readDb_ok.1 h₅
    obtain ⟨buyer, s₆, h₆, hop⟩ := bind_ok.1 hop
    obtain ⟨-, rfl⟩ := orRaise_ok.1 h₆
    obtain ⟨seller, s₇, h₇, hop⟩ := bind_ok.1 hop
    obtain ⟨-, rfl⟩ := orRaise_ok.1 h₇
    obtain ⟨sellerUser, s₈, h₈, hop⟩ := bind_ok.1 hop
    obtain ⟨-, rfl⟩ := orRaise_ok.1 h₈
    obtain ⟨_, s₉, h₉, hop⟩ := bind_ok.1 hop
    obtain ⟨-, rfl⟩ := ensure_ok.1 h₉
    have hknown' : CreationsKnown s₂.db := by
      rw [he]
      exact hknown
    have hkept : ∀ id v, s₂.db.BuyerOf id v → s₁.db.BuyerOf id v := by
      intro id v hv
      rw [he] at hv
      exact hbuyers id v hv
    obtain ⟨hknown', hbuyer⟩ := create_creation hknown' hkept hop
    refine ⟨hknown', fun b' e hb hid => ?_⟩
    cases hb
    exact hbuyer e hid

theorem handle_creationsKnown (hinv : Invariant c.settings c.crypto ⟨.idle, db⟩)
    (hknown : CreationsKnown db) (h : handle c req (begin db) = .ok r s) : CreationsKnown s.db := by
  by_cases hcreate : ∃ u pin phone amount note key x, req = .createSafepay u pin phone amount note key x
  · obtain ⟨u, pin, phone, amount, note, key, x, rfl⟩ := hcreate
    exact (handle_creation hinv hknown h).1
  · intro k row b hrow hk hb
    have hagree : (creationView (begin db).db.idempotencyRecords).Agree (handle c req)
        (handle (c.recoded c.crypto.hmacHead) req) := by
      refine handle_agree (creationView_plain _) ?_ ?_
      · rintro u pin phone amount note key x rfl
        exact hcreate ⟨_, _, _, _, _, _, _, rfl⟩
      · rintro _ _ code _ _ - row h - hsame
        exact congrArg (c.crypto.argon2Verify · code) hsame
    rw [Ctx.recoded_self] at hagree
    rw [creations_kept hagree h hk] at hrow
    obtain ⟨id, hbuyer, hid⟩ := hknown k row b hrow hk hb
    exact ⟨id, handle_buyers hinv h hbuyer, hid⟩

end Transactions

/-! ### Two processes that differ in one code -/

/-- The databases of the two runs differ in the code hash of `e` at most. -/
def codesView (y : Crypto) (code code' : String) (e : Ulid) : View where
  hash id h h' := if id = e then ∃ salt, h = y.argon2 salt code ∧ h' = y.argon2 salt code' else h = h'
  ignored _ := False
  triple := Eq
  records := Eq
  journal := Eq
  lien _ _ := rfl
  fits := by
    rintro k _ rfl
    exact Iff.rfl
  find := by
    rintro t _ k _ rfl rfl
    cases t.find? k with
    | none => exact .none
    | some row => exact .some (.refl row)
  push := by
    rintro t _ k _ f now rfl rfl
    rfl
  complete := by
    rintro t _ k _ id status body now rfl rfl
    rfl
  append := by
    rintro j _ k _ t l e rfl rfl
    rfl

theorem codesView_plain (y : Crypto) (code code' : String) (e : Ulid) :
    (codesView y code code' e).Plain where
  same _ _ := rfl
  seen _ h := h

/-- Replies that are equal, or about the order `e`. -/
def EqualBut (e : Ulid) (b b' : Body) : Prop := b = b' ∨ b.str? "escrowId" = some e.text

section Codes

variable {c : Ctx} {g : String → String → Nat} {e : Ulid}

/-- The processes of the two runs agree on every code but that of `e`. -/
def SameCodesBut (e : Ulid) (c : Ctx) (g : String → String → Nat) : Prop :=
  ∀ x : String, x ≠ e.text → deliveryCode (c.recoded g) x = deliveryCode c x

theorem Ulid.text_ne_empty (u : Ulid) : u.text ≠ "" := by
  intro h
  have hlen := Ulid.length_chars u
  rw [← String.toList_ofList (l := u.chars)] at hlen
  change u.text.toList.length = 26 at hlen
  rw [h] at hlen
  cases hlen

/-- The hash of a new order's code is drawn with one salt in both runs. -/
theorem hashCode_lockstep (hcodes : SameCodesBut e c g) (id : Ulid) :
    Lockstep (codesView c.crypto (deliveryCode c e.text) (deliveryCode (c.recoded g) e.text) e).Sessions
      ((codesView c.crypto (deliveryCode c e.text) (deliveryCode (c.recoded g) e.text) e).hash id)
      (hashPassword c (deliveryCode c id.text))
      (hashPassword (c.recoded g) (deliveryCode (c.recoded g) id.text)) := by
  intro s s' hs
  refine .ok ?_ ⟨congrArg (· + 1) hs.draws, hs.locks, hs.db⟩
  show if id = e then _ else _
  split
  · rename_i hid
    subst hid
    exact ⟨c.oracle.salt s.draws, rfl, by rw [hs.draws]; rfl⟩
  · rename_i hid
    rw [hcodes _ fun hx => hid (Ulid.text_injective hx), hs.draws]
    rfl

theorem create_lockstep (hcodes : SameCodesBut e c g) (u account seller receiver : Ulid)
    (amount : Money) (note : Option String) (key : String) (r : Option String) :
    Lockstep (codesView c.crypto (deliveryCode c e.text) (deliveryCode (c.recoded g) e.text) e).Sessions
      (EqualBut e) (create c u account seller receiver amount note key r)
      (create (c.recoded g) u account seller receiver amount note key r) := by
  have hv := codesView_plain c.crypto (deliveryCode c e.text) (deliveryCode (c.recoded g) e.text) e
  have hend : SAFEPAY_HOLD_ENDPOINT ≠ CREATE_ENDPOINT := by decide
  refine .andThen now_agree fun t => ?_
  refine .andThen (SqlIdempotencyRepository.reserve_agree rfl _ _) fun decision => ?_
  refine .andThen (replayBodyOrRaise_agree _) fun replay => ?_
  cases replay with
  | some b =>
    refine .pure ?_
    by_cases hb : b.str? "escrowId" = some e.text
    · right
      rw [Body.str?_put (by decide), Body.str?_put (by decide)]
      exact hb
    · left
      rw [hcodes]
      intro hx
      cases hid : b.str? "escrowId" with
      | none =>
        rw [hid] at hx
        exact e.text_ne_empty hx.symm
      | some x =>
        rw [hid] at hx hb
        exact hb (congrArg some hx)
  | none =>
    refine .andThen newUlid_agree fun id => ?_
    refine .andThen (execute_agree_same (hv.same _ hend)) fun hold => ?_
    refine .andThen (generateReference_agree _ _) fun reference => ?_
    refine .bind (hashCode_lockstep hcodes id) fun hash hash' hhash => ?_
    refine .andThen (SqlSafePayRepository.create_agree ⟨hash', rfl, hhash⟩) fun _ => ?_
    refine .andThen (complete_agree rfl _ _ _ _) fun _ => ?_
    refine .andThen (auditEvent_agree _ _ _ _ _) fun _ => .pure ?_
    by_cases hid : id = e
    · subst hid
      exact .inr rfl
    · left
      rw [hcodes _ fun hx => hid (Ulid.text_injective hx)]

end Codes

/-! ### Questions -/

section Questions

variable {α β : Type} {R : α → α → Prop} {l l' : List α}

theorem filterMap_of_forall₂ {f f' : α → Option β} (hf : ∀ a b, R a b → f a = f' b)
    (h : List.Forall₂ R l l') : l.filterMap f = l'.filterMap f' := by
  induction h with
  | nil => rfl
  | cons hab _ ih => rw [List.filterMap_cons, List.filterMap_cons, hf _ _ hab, ih]

theorem mapM_of_forall₂ {f f' : α → Option β} (hf : ∀ a b, R a b → f a = f' b)
    (h : List.Forall₂ R l l') : l.mapM f = l'.mapM f' := by
  induction h with
  | nil => rfl
  | cons hab _ ih => rw [List.mapM_cons, List.mapM_cons, hf _ _ hab, ih]

variable {v : View} {c : Ctx} {g : String → String → Nat} {e : Ulid} {db db' : Database}

/-- No listing shows a code hash. -/
theorem listForUser_alike (h : v.Like db db') (u : Ulid) (limit : Nat) :
    SqlSafePayRepository.listForUser (c.recoded g) db' u limit =
      SqlSafePayRepository.listForUser c db u limit := by
  unfold SqlSafePayRepository.listForUser newestFirst
  congr 1
  symm
  refine filterMap_of_forall₂ (R := EscrowRow.Alike v.hash) ?_ (List.Forall₂.insertionSort ?_
    (List.rel_filter ?_ h.escrows))
  · rintro a _ ⟨_, rfl, -⟩
    rw [h.rest]
    rfl
  · rintro a _ ⟨_, rfl, -⟩ b _ ⟨_, rfl, -⟩
    exact Iff.rfl
  · rintro a _ ⟨_, rfl, -⟩
    exact Iff.rfl

theorem listDisputes_alike (h : v.Like db db') (limit : Nat) :
    SqlSafePayRepository.listDisputes db' limit = SqlSafePayRepository.listDisputes db limit := by
  unfold SqlSafePayRepository.listDisputes
  symm
  refine mapM_of_forall₂ (R := fun x y => (∃ hash, y.1 = x.1.withHash hash) ∧ x.2 = y.2) ?_
    (List.forall₂_take _ (List.rel_filterMap ?_ (List.Forall₂.insertionSort ?_
      (List.rel_filter ?_ h.escrows))))
  · rintro ⟨a, buyer, seller⟩ ⟨_, _⟩ ⟨⟨_, rfl⟩, rfl⟩
    rfl
  · rintro a _ ⟨hash, rfl, -⟩
    have hparties : SqlSafePayRepository.parties db' (a.withHash hash) =
        (SqlSafePayRepository.parties db a).map fun x => (x.1.withHash hash, x.2) := by
      unfold SqlSafePayRepository.parties
      rw [h.rest]
      show ((db.users.find? a.buyerUserId).bind fun buyer =>
        (db.users.find? a.sellerUserId).bind fun seller => some (a.withHash hash, buyer, seller)) =
          Option.map _ ((db.users.find? a.buyerUserId).bind fun buyer =>
            (db.users.find? a.sellerUserId).bind fun seller => some (a, buyer, seller))
      cases db.users.find? a.buyerUserId with
      | none => rfl
      | some buyer => cases db.users.find? a.sellerUserId <;> rfl
    rw [hparties]
    cases hp : SqlSafePayRepository.parties db a with
    | none => exact .none
    | some x => exact .some ⟨⟨hash, rfl⟩, rfl⟩
  · rintro a _ ⟨_, rfl, -⟩ b _ ⟨_, rfl, -⟩
    exact Iff.rfl
  · rintro a _ ⟨_, rfl, -⟩
    exact Iff.rfl

/-- An order shows its parties the same, the buyer of `e` apart. -/
theorem detail_alike (hcodes : SameCodesBut e c g) (h : v.Like db db') {u id : Ulid}
    (hu : ¬db.BuyerOf e u) : detail (c.recoded g) db' id u = detail c db id u := by
  have hfind := h.escrows.find? SqlSafePayRepository.alike_id id
  unfold detail requireVisible
  cases hrow : db.safepayEscrows.find? id with
  | none =>
    rw [hrow] at hfind
    generalize db'.safepayEscrows.find? id = o at hfind
    cases hfind
    rfl
  | some r =>
    rw [hrow] at hfind
    generalize db'.safepayEscrows.find? id = o at hfind
    cases hfind with
    | some hr =>
      obtain ⟨hash, rfl, -⟩ := hr
      have hcode : r.buyerUserId = u → deliveryCode (c.recoded g) r.id.text = deliveryCode c r.id.text := by
        intro hbuyer
        refine hcodes _ fun hid => hu ?_
        obtain rfl : r.id = e := Ulid.text_injective hid
        obtain rfl := Table.key_of_find? hrow
        exact ⟨r, hrow, hbuyer⟩
      show (if SqlSafePayRepository.isParty u r = true then Except.ok (r.withHash hash)
          else Except.error orderNotFound) >>= _ =
        (if SqlSafePayRepository.isParty u r = true then Except.ok r else Except.error orderNotFound) >>= _
      split
      · show Except.ok (OrderDetail.mk _ _ (if r.buyerUserId = u ∧ isClosed r.status = false then _ else none)) =
          Except.ok (OrderDetail.mk _ _ (if r.buyerUserId = u ∧ isClosed r.status = false then _ else none))
        split
        · rename_i hopen
          exact congrArg (fun code => Except.ok (OrderDetail.mk _ _ (some code))) (hcode hopen.1)
        · rfl
      · rfl

/-- Whoever is not the buyer of `e` is answered the same. -/
theorem answer_alike (hcodes : SameCodesBut e c g) (h : v.Like db db')
    (htasks : db.scheduledTasks = db'.scheduledTasks) (q : Query)
    (hq : ∀ u, q.caller? = some u → ¬db.BuyerOf e u) :
    answer (c.recoded g) db' q = answer c db q := by
  cases q
  case orders u => exact congrArg (Except.ok ∘ QueryReply.orders) (listForUser_alike h u 50)
  case disputes => exact congrArg (Except.ok ∘ QueryReply.disputes) (listDisputes_alike h 100)
  case order u id => exact congrArg (Except.map QueryReply.order) (detail_alike hcodes h (hq u rfl))
  case scheduler =>
    rw [answer, answer, SqlScheduledTaskRepository.backlog, SqlScheduledTaskRepository.backlog, htasks]
    rfl
  all_goals
    rw [h.rest]
    rfl

end Questions

/-! ### Whole runs -/

/-- The deployment with another source of delivery codes. -/
def Deployment.recoded (d : Deployment) (g : String → String → Nat) : Deployment :=
  { d with crypto := { d.crypto with hmacHead := g } }

/-- The delivery code of an escrow: it depends on the deployment only. -/
def Deployment.codeOf (d : Deployment) (escrowId : String) : String :=
  String.ofList (Time.padded 6 (d.crypto.hmacHead (d.settings.jwtSecret ++ ":safepay")
    ("safepay-delivery:" ++ escrowId) % 1000000))

theorem deliveryCode_ctx (d : Deployment) (o : Oracle) (x : String) :
    deliveryCode (d.ctx o) x = d.codeOf x := rfl

/-- What the route of a request returns. -/
def respond (d : Deployment) (call : Call) (db : Database) : Except AppError Reply :=
  match handle (d.ctx call.oracle) call.request (begin db) with
  | .ok r _ => r
  | .raised e _ => .error e

/-- The user who makes the request.  Couriers, the holder of the engineering key and the workers
    are none, and neither is who has yet to log in. -/
def Request.caller? : Request → Option Ulid
  | .createTransfer u .. | .undoTransfer u .. | .createPool u .. | .fundPool u .. | .createGrant u ..
  | .createSafepay u .. | .shipSafepay u .. | .releaseSafepayCode u .. | .confirmSafepayReceived u ..
  | .disputeSafepay u .. | .createRequest u .. | .acceptRequest u .. | .rejectRequest u ..
  | .cancelRequest u .. => some u
  | _ => none

inductive Interaction where
  | request (call : Call)
  | query (oracle : Oracle) (q : Query)

inductive Response where
  | reply (r : Except AppError Reply)
  | answer (a : Except AppError QueryReply)

namespace Interaction

def caller? : Interaction → Option Ulid
  | request call => call.request.caller?
  | query _ q => q.caller?

def response (d : Deployment) (db : Database) : Interaction → Response
  | request call => .reply (respond d call db)
  | query o q => .answer (answer (d.ctx o) db q)

def apply (d : Deployment) (db : Database) : Interaction → Database
  | request call => serve d call db
  | query .. => db

end Interaction

/-- The database after a list of interactions. -/
def applyAll (d : Deployment) : List Interaction → Database → Database
  | [], db => db
  | i :: is, db => applyAll d is (i.apply d db)

/-- What each of them is told. -/
def responses (d : Deployment) : List Interaction → Database → List Response
  | [], _ => []
  | i :: is, db => i.response d db :: responses d is (i.apply d db)

/-- The same rows, the code hash of one escrow apart. -/
structure Database.EqualButHash (e : Ulid) (db db' : Database) : Prop where
  rest : db' = { db with safepayEscrows := db'.safepayEscrows }
  escrows : List.Forall₂ (fun r r' : EscrowRow => ∃ h, r' = r.withHash h ∧
    (r.id ≠ e → h = r.deliveryCodeHash)) db.safepayEscrows.rows db'.safepayEscrows.rows

section Runs

variable {d : Deployment} {g : String → String → Nat} {e : Ulid} {db db' : Database}

/-- The two runs, seen from anywhere but the code of `e`. -/
abbrev codesOf (d : Deployment) (g : String → String → Nat) (e : Ulid) : View :=
  codesView d.crypto (d.codeOf e.text) ((d.recoded g).codeOf e.text) e

theorem tasks_of_like (h : (codesOf d g e).Like db db') : db.scheduledTasks = db'.scheduledTasks :=
  (h.tasks.mono fun _ _ hr => hr.2.2.2 fun hno => hno).eq

theorem equalButHash_of_like (h : (codesOf d g e).Like db db') : db.EqualButHash e db' where
  rest := by
    have hrest := h.rest
    have htasks := tasks_of_like h
    have hrecords : db.idempotencyRecords = db'.idempotencyRecords := h.records
    have hjournal : db.journal = db'.journal := h.journal
    rw [← htasks, ← hrecords, ← hjournal] at hrest
    exact hrest
  escrows := by
    refine List.Forall₂.imp ?_ h.escrows
    rintro r _ ⟨hash, rfl, hhash⟩
    refine ⟨hash, rfl, fun hne => ?_⟩
    change if r.id = e then _ else _ at hhash
    rw [if_neg hne] at hhash
    exact hhash.symm

/-- What the first run's database is known to satisfy. -/
structure Watched (d : Deployment) (db : Database) : Prop where
  inv : db.Inv d
  known : CreationsKnown db

theorem migrated_watched (d : Deployment) (now : Time) : Watched d (migrated now) where
  inv := (Reachable.init now).inv
  known := by
    intro k row b hrow
    cases hrow

/-- A code tried for `e` is accepted for both codes or for none: no guess tells the two apart. -/
def Interaction.Blind (d : Deployment) (g : String → String → Nat) (e : Ulid) (i : Interaction) : Prop :=
  ∀ o u code key x, i = .request ⟨o, .releaseSafepayCode u e code key x⟩ → ∀ salt,
    d.crypto.argon2Verify (d.crypto.argon2 salt (d.codeOf e.text)) code =
      d.crypto.argon2Verify (d.crypto.argon2 salt ((d.recoded g).codeOf e.text)) code

/-- The two runs of a request: replies that differ are about `e`, and the request creates it. -/
theorem handle_lockstep
    (hcodes : ∀ x : String, x ≠ e.text → (d.recoded g).codeOf x = d.codeOf x) {call : Call}
    (hblind : (Interaction.request call).Blind d g e) :
    Lockstep (codesOf d g e).Sessions (fun r r' => r = r' ∨ ∃ b u pin phone amount note key x,
        call.request = .createSafepay u pin phone amount note key x ∧ r = .ok (.body b) ∧
          b.str? "escrowId" = some e.text)
      (handle (d.ctx call.oracle) call.request)
      (handle ((d.recoded g).ctx call.oracle) call.request) := by
  obtain ⟨o, req⟩ := call
  by_cases hcreate : ∃ u pin phone amount note key x, req = .createSafepay u pin phone amount note key x
  · obtain ⟨u, pin, phone, amount, note, key, x, rfl⟩ := hcreate
    refine (createSafepay_lockstep (c := d.ctx o) (g := g) (V := EqualBut e) fun account seller receiver =>
      create_lockstep (c := d.ctx o) hcodes u account seller receiver amount note key x).mono ?_
    rintro r r' (rfl | ⟨b, b', rfl, rfl, rfl | hb⟩)
    · exact .inl rfl
    · exact .inl rfl
    · exact .inr ⟨b, u, pin, phone, amount, note, key, x, rfl, rfl, hb⟩
  · refine (handle_agree (c := d.ctx o) (codesView_plain _ _ _ _) ?_ ?_).mono fun _ _ h => .inl h
    · rintro u pin phone amount note key x rfl
      exact hcreate ⟨_, _, _, _, _, _, _, rfl⟩
    · rintro u id code key x rfl row h rfl hhash
      change if row.id = e then _ else _ at hhash
      split at hhash
      · rename_i hid
        obtain ⟨salt, htrue, hother⟩ := hhash
        show d.crypto.argon2Verify _ _ = d.crypto.argon2Verify _ _
        rw [htrue, hother]
        rw [hid] at hblind
        exact hblind o u code key x rfl salt
      · rw [hhash]

theorem begin_sessions (h : (codesOf d g e).Like db db') :
    (codesOf d g e).Sessions (begin db) (begin db') := ⟨rfl, rfl, h⟩

/-- A request keeps the databases alike, and tells everyone but the buyer the same. -/
theorem request_alike
    (hcodes : ∀ x : String, x ≠ e.text → (d.recoded g).codeOf x = d.codeOf x) {call : Call}
    (hblind : (Interaction.request call).Blind d g e) (hw : Watched d db)
    (h : (codesOf d g e).Like db db') :
    (codesOf d g e).Like (serve d call db) (serve (d.recoded g) call db') ∧
      ((∀ u, call.request.caller? = some u → ¬(serve d call db).BuyerOf e u) →
        respond d call db = respond (d.recoded g) call db') := by
  have hstep := handle_lockstep hcodes hblind
  unfold respond serve
  cases hm : handle (d.ctx call.oracle) call.request (begin db) with
  | ok r s =>
    obtain ⟨r', s', hm', hr, hs⟩ := hstep.of_ok (begin_sessions h) hm
    rw [commit_of_ok hm, commit_of_ok hm', hm']
    refine ⟨hs.db, fun hbuyer => ?_⟩
    rcases hr with rfl | ⟨b, u, pin, phone, amount, note, key, x, hreq, rfl, hb⟩
    · rfl
    · rw [hreq] at hm hbuyer
      exact absurd ((handle_creation hw.inv hw.known hm).2 b e rfl hb) (hbuyer u rfl)
  | raised error s =>
    obtain ⟨s', hm', -⟩ := hstep.of_raised (begin_sessions h) hm
    rw [commit_of_raised hm, commit_of_raised hm', hm']
    exact ⟨h, fun _ => rfl⟩

theorem Watched.serve (hw : Watched d db) (call : Call) : Watched d (serve d call db) := by
  rcases commit_cases (handle (d.ctx call.oracle) call.request) db with ⟨r, s, hm, he⟩ | he
  · rw [MoneyMovement.serve, he]
    exact ⟨hw.inv.steps (handle_steps hm) (licence_sound _ _ _), handle_creationsKnown hw.inv hw.known hm⟩
  · rw [MoneyMovement.serve, he]
    exact hw

theorem Watched.buyers (hw : Watched d db) (is : List Interaction) {u : Ulid} (h : db.BuyerOf e u) :
    (applyAll d is db).BuyerOf e u := by
  induction is generalizing db with
  | nil => exact h
  | cons i is ih =>
    cases i with
    | query o q => exact ih hw h
    | request call =>
      refine ih (hw.serve call) ?_
      rcases commit_cases (handle (d.ctx call.oracle) call.request) db with ⟨r, s, hm, he⟩ | he
      · show (MoneyMovement.serve d call db).BuyerOf e u
        rw [MoneyMovement.serve, he]
        exact handle_buyers hw.inv hm h
      · show (MoneyMovement.serve d call db).BuyerOf e u
        rw [MoneyMovement.serve, he]
        exact h

/-- The same for any run of interactions. -/
theorem interactions_alike
    (hcodes : ∀ x : String, x ≠ e.text → (d.recoded g).codeOf x = d.codeOf x)
    (is : List Interaction) (hblind : ∀ i ∈ is, i.Blind d g e) (hw : Watched d db)
    (h : (codesOf d g e).Like db db') :
    (codesOf d g e).Like (applyAll d is db) (applyAll (d.recoded g) is db') ∧
      ∀ (n : Nat) (i : Interaction), is[n]? = some i → (∀ u, i.caller? = some u → ¬(applyAll d is db).BuyerOf e u) →
        (responses d is db)[n]? = (responses (d.recoded g) is db')[n]? := by
  induction is generalizing db db' with
  | nil => exact ⟨h, fun n i hn => absurd hn (by simp)⟩
  | cons i is ih =>
    have hrest : ∀ x ∈ is, x.Blind d g e := fun x hx => hblind x (List.mem_cons_of_mem _ hx)
    have hstep : Watched d (i.apply d db) ∧
        (codesOf d g e).Like (i.apply d db) (i.apply (d.recoded g) db') ∧
        ((∀ u, i.caller? = some u → ¬(i.apply d db).BuyerOf e u) →
          i.response d db = i.response (d.recoded g) db') := by
      cases i with
      | request call =>
        obtain ⟨hlike, hsame⟩ :=
          request_alike hcodes (hblind _ List.mem_cons_self) hw h
        exact ⟨hw.serve call, hlike, fun hu => congrArg Response.reply (hsame hu)⟩
      | query o q =>
        refine ⟨hw, h, fun hu => congrArg Response.answer ?_⟩
        exact (answer_alike (c := d.ctx o) hcodes h (tasks_of_like h) q hu).symm
    obtain ⟨hw', hlike, hsame⟩ := hstep
    obtain ⟨hend, hlater⟩ := ih hrest hw' hlike
    refine ⟨hend, ?_⟩
    intro n x hx hbuyer
    cases n with
    | zero =>
      obtain rfl := Option.some.inj hx
      refine congrArg some (hsame fun u hu hb => ?_)
      exact hbuyer u hu (hw'.buyers is hb)
    | succ n => exact hlater n x hx hbuyer

/-- **A delivery code is the buyer's secret**: two deployments that differ in the code of one
    order answer everyone but its buyer the same, in every run in which no code that is tried
    tells them apart, and leave the same rows but for its hash. -/
theorem delivery_code_is_secret (d : Deployment) (g : String → String → Nat) (e : Ulid) (now : Time)
    (is : List Interaction)
    (hcodes : ∀ x : String, x ≠ e.text → (d.recoded g).codeOf x = d.codeOf x)
    (hblind : ∀ i ∈ is, i.Blind d g e) :
    (applyAll d is (migrated now)).EqualButHash e (applyAll (d.recoded g) is (migrated now)) ∧
      ∀ (n : Nat) (i : Interaction), is[n]? = some i →
        (∀ u, i.caller? = some u → ¬(applyAll d is (migrated now)).BuyerOf e u) →
        (responses d is (migrated now))[n]? = (responses (d.recoded g) is (migrated now))[n]? := by
  have hstart : (codesOf d g e).Like (migrated now) (migrated now) :=
    ⟨List.Forall₂.nil, List.Forall₂.nil, rfl, rfl, rfl⟩
  obtain ⟨hlike, hsame⟩ := interactions_alike hcodes is hblind (migrated_watched d now) hstart
  exact ⟨equalButHash_of_like hlike, hsame⟩

end Runs

namespace Sample

/-- Another code for the order of `orderCalls`. -/
def otherHead (_ text : String) : Nat :=
  if text = "safepay-delivery:" ++ (id 3 2).text then 7 else text.length

/-- The seller ships the order, looks at it, and guesses its code. -/
def sellerTalk : List Interaction :=
  orderCalls.map .request ++
    [.request (call 4 (.shipSafepay (id 2 1) (id 3 2) "TRACK-1" "redx" "ship" none)),
      .query (oracle 5 start) (.order (id 2 1) (id 3 2)), .query (oracle 6 start) (.orders (id 2 1)),
      .request (call 7 (.releaseSafepayCode (id 2 1) (id 3 2) "999999" "guess" none))]

end Sample

/-- The seller learns nothing of the code, which differs in the two deployments. -/
theorem seller_learns_nothing :
    let other := Sample.deployment.recoded Sample.otherHead
    Sample.deployment.codeOf (Sample.id 3 2).text = "000043" ∧
      other.codeOf (Sample.id 3 2).text = "000007" ∧
      ∀ n ∈ [3, 4, 5, 6], (responses Sample.deployment Sample.sellerTalk (migrated 0))[n]? =
        (responses other Sample.sellerTalk (migrated 0))[n]? := by
  have htrue : Sample.deployment.codeOf (Sample.id 3 2).text = "000043" := by decide +kernel
  have hother : (Sample.deployment.recoded Sample.otherHead).codeOf (Sample.id 3 2).text = "000007" := by
    decide +kernel
  refine ⟨htrue, hother, fun n hn => ?_⟩
  have hbuyer : ((applyAll Sample.deployment Sample.sellerTalk (migrated 0)).safepayEscrows.find?
      (Sample.id 3 2)).map (·.buyerUserId) = some (Sample.id 1 1) := by decide +kernel
  have hseller : ∃ i, Sample.sellerTalk[n]? = some i ∧ i.caller? = some (Sample.id 2 1) := by
    rcases List.mem_cons.1 hn with rfl | hn
    · exact ⟨_, rfl, rfl⟩
    rcases List.mem_cons.1 hn with rfl | hn
    · exact ⟨_, rfl, rfl⟩
    rcases List.mem_cons.1 hn with rfl | hn
    · exact ⟨_, rfl, rfl⟩
    obtain rfl := List.mem_singleton.1 hn
    exact ⟨_, rfl, rfl⟩
  obtain ⟨i, hi, hcaller⟩ := hseller
  refine (delivery_code_is_secret Sample.deployment Sample.otherHead (Sample.id 3 2) 0 Sample.sellerTalk
    ?_ ?_).2 n i hi ?_
  · intro x hx
    have hne : "safepay-delivery:" ++ x ≠ "safepay-delivery:" ++ (Sample.id 3 2).text := fun h =>
      hx (String.append_right_inj _ |>.1 h)
    have hhead : Sample.otherHead "" ("safepay-delivery:" ++ x) = ("safepay-delivery:" ++ x).length :=
      if_neg hne
    exact congrArg (fun k => String.ofList (Time.padded 6 (k % 1000000))) hhead
  · rintro i hi o u code key x rfl salt
    have hcode : code = "999999" := by
      simp [Sample.sellerTalk, Sample.orderCalls, Sample.call, Sample.register] at hi
      exact hi.2.2.1
    subst hcode
    have hboth : ∀ code ∈ ["000043", "000007"], Sample.deployment.crypto.argon2Verify
        ("$argon2id$" ++ code) "999999" = false := by decide +kernel
    rw [htrue, hother]
    exact (hboth _ (by simp)).trans (hboth _ (by simp)).symm
  · rintro u hu ⟨row, hrow, hb⟩
    rw [hrow] at hbuyer
    obtain rfl := Option.some.inj (hcaller.symm.trans hu)
    rw [Option.map_some, hb] at hbuyer
    exact absurd hbuyer (by decide)

end MoneyMovement

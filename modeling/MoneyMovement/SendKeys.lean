/-
  MoneyMovement/SendKeys.lean
  ===========================
  **The keys behind a client's key.**

  A send reserves the client's key and derives from it the key of its hold; a
  new pool is funded under a key that names the pool.  Nothing else uses these
  internal endpoints.  So while a client's key is unused, the hold it would
  make is unused, too, unless SHA-256 gives two keys the same digest.
-/
import MoneyMovement.SendSpec

namespace MoneyMovement

open Txn OverdraftService

/-! ### Records of an internal endpoint -/

/-- A transaction that posts nothing on an internal endpoint completes no record of it. -/
theorem Steps.completed_of_endpoint {c : Ctx} {L : Licence} {k k' : Config} {endpoint : String}
    (hs : Steps c L k k') (hL : L.Sound c) (hinv : Invariant c.settings c.crypto k)
    (hpost : ∀ db d p d', L.post db d p d' → p.cmd.idempotencyEndpoint ≠ endpoint)
    (hlien : LIEN_ENDPOINT ≠ endpoint)
    (hapi : endpoint.toList.take "POST:/".toList.length ≠ "POST:/".toList) {r : IdempotencyRow}
    (hr : r ∈ k'.db.idempotencyRecords.rows) (hcompleted : r.status = .completed)
    (he : r.triple.endpoint = endpoint) : r ∈ k.db.idempotencyRecords.rows := by
  refine Invariant.steps_induction (P := fun k₁ => ∀ r ∈ k₁.db.idempotencyRecords.rows,
    r.status = .completed → r.triple.endpoint = endpoint → r ∈ k.db.idempotencyRecords.rows)
    hs hL hinv (fun r hr _ _ => hr) ?_ r hr hcompleted he
  clear hr hcompleted he
  intro k₁ k₂ hinv₁ hstep h
  -- a new row is not complete yet
  have hpush : ∀ row : IdempotencyRow, k₁.db.idempotencyRecords.find? row.triple = none →
      row.status = .processing → ∀ r ∈ (k₁.db.idempotencyRecords.push row).rows,
      r.status = .completed → r.triple.endpoint = endpoint → r ∈ k.db.idempotencyRecords.rows := by
    intro row hf hp r hr hc he
    rcases (Table.mem_push hf).1 hr with hr | rfl
    · exact h r hr hc he
    · rw [hp] at hc
      cases hc
  -- a row that is completed now is not of the endpoint
  have hcomplete : ∀ (row : IdempotencyRow) (id : Ulid) (n : Nat) (b : Body) (now : Time),
      row ∈ k₁.progress.reserved → row.triple.endpoint ≠ endpoint →
      ∀ r ∈ (k₁.db.idempotencyRecords.modifyAt row.triple
        (SqlIdempotencyRepository.completedRow id n b now)
        (SqlIdempotencyRepository.triple_completedRow id n b now)).rows,
      r.status = .completed → r.triple.endpoint = endpoint → r ∈ k.db.idempotencyRecords.rows := by
    intro row id n b now hrow hne r hr hc he
    rcases Table.mem_of_mem_modifyAt (hinv₁.reserved.found row hrow) hr with ⟨hr, -⟩ | rfl
    · exact h r hr hc he
    · exact absurd he hne
  cases hstep
  case reserve hf => exact hpush _ hf rfl
  case answer row id n b now hl =>
    refine hcomplete row id n b now List.mem_cons_self ?_
    obtain ⟨⟨rest, hrest⟩, -⟩ := hL.answer row hl
    rw [hrest]
    exact append_ne_of_take hapi rest
  case post p hv _ => exact hpush p.reservation hv.key_fresh rfl
  case repay p _ _ hv _ => exact hpush p.reservation hv.key_fresh rfl
  case finish p _ hp =>
    refine hcomplete p.reservation _ _ _ _ List.mem_cons_self ?_
    rcases hp with ⟨-, db₀, d₀, hl⟩ | ⟨-, -, he, -⟩
    · exact hpost _ _ _ _ hl
    · show p.cmd.idempotencyEndpoint ≠ endpoint
      rw [he]
      exact hlien
  all_goals exact h

/-- On which endpoint a service posts a movement of which kind. -/
theorem Issued.endpoints {y : Crypto} {cmd : TransferCommand} (h : Issued y cmd) :
    cmd.idempotencyEndpoint = TRANSFER_ENDPOINT ∨
      cmd.kind = .overdraftFund ∧ (cmd.idempotencyEndpoint = "INTERNAL:/overdraft/fund" ∨
        ∃ rest, cmd.idempotencyEndpoint = "POST:/api/v1/overdraft/pools/" ++ rest) ∨
      cmd.kind = .undoHold ∧
        cmd.idempotencyEndpoint = UndoableTransferService.UNDO_HOLD_ENDPOINT ∨
      internalKind cmd.idempotencyEndpoint = some cmd.kind ∨
      ∃ rest, cmd.idempotencyEndpoint = "INTERNAL:/holds/" ++ rest := by
  cases h with
  | grant c _ hc | request c _ hc =>
    subst hc
    exact .inl rfl
  | fund c hc he =>
    subst hc
    refine .inr (.inl ⟨rfl, he.imp_right ?_⟩)
    intro he
    exact ⟨_, he.trans (String.append_assoc ..)⟩
  | undoHold hk he => exact .inr (.inr (.inl ⟨hk, he⟩))
  | escrowHold hk he | draw hk he | lien hk he =>
    refine .inr (.inr (.inr (.inl ?_)))
    rw [hk, he]
    decide
  | leg c _ hc =>
    subst hc
    exact .inr (.inr (.inr (.inr ⟨_, rfl⟩)))

theorem Issued.kind_of_undoHold {y : Crypto} {cmd : TransferCommand} (h : Issued y cmd)
    (he : cmd.idempotencyEndpoint = UndoableTransferService.UNDO_HOLD_ENDPOINT) :
    cmd.kind = .undoHold := by
  rcases h.endpoints with hend | ⟨-, hend | ⟨rest, hend⟩⟩ | ⟨hk, -⟩ | hend | ⟨rest, hend⟩
  · exact absurd (hend.symm.trans he) (by decide)
  · exact absurd (hend.symm.trans he) (by decide)
  · exact absurd (hend.symm.trans he) (append_ne_of_take (by decide) rest)
  · exact hk
  · rw [he, internalKind_undoHold] at hend
    cases hend
  · exact absurd (hend.symm.trans he) (append_ne_of_take (by decide) rest)

theorem Issued.kind_of_fund {y : Crypto} {cmd : TransferCommand} (h : Issued y cmd)
    (he : cmd.idempotencyEndpoint = "INTERNAL:/overdraft/fund") : cmd.kind = .overdraftFund := by
  rcases h.endpoints with hend | ⟨hk, -⟩ | ⟨-, hend⟩ | hend | ⟨rest, hend⟩
  · exact absurd (hend.symm.trans he) (by decide)
  · exact hk
  · exact absurd (hend.symm.trans he) (by decide)
  · rw [he, internalKind_fund] at hend
    cases hend
  · exact absurd (hend.symm.trans he) (append_ne_of_take (by decide) rest)

/-! ### Endpoints whose keys say something -/

/-- Every record of the endpoint has a key that the database explains. -/
def KeyedBy (endpoint : String) (Q : Database → IdempotencyTriple → Prop) (db : Database) : Prop :=
  ∀ r ∈ db.idempotencyRecords.rows, r.triple.endpoint = endpoint → Q db r.triple

section Keyed

variable {c : Ctx} {endpoint : String} {Q : Database → IdempotencyTriple → Prop} {db db' : Database}

/-- The new records are explained, and the old ones still are. -/
theorem KeyedBy.of_records (h : KeyedBy endpoint Q db)
    (hmono : ∀ triple, Q db triple → Q db' triple)
    (hnew : ∀ triple : IdempotencyTriple, triple.endpoint = endpoint →
      db'.idempotencyRecords.find? triple = db.idempotencyRecords.find? triple ∨ Q db' triple) :
    KeyedBy endpoint Q db' := by
  intro r hr he
  rcases hnew r.triple he with hsame | hq
  · rw [Table.find?_of_mem hr] at hsame
    exact hmono _ (h r (Table.mem_of_find? hsame.symm) he)
  · exact hq

/-- A transaction that posts nothing on the endpoint adds no record to it. -/
theorem KeyedBy.steps {L : Licence} (hs : Steps c L ⟨.idle, db⟩ ⟨.idle, db'⟩) (hL : L.Sound c)
    (hinv : Invariant c.settings c.crypto ⟨.idle, db⟩)
    (hpost : ∀ db d p d', L.post db d p d' → p.cmd.idempotencyEndpoint ≠ endpoint)
    (hlien : LIEN_ENDPOINT ≠ endpoint)
    (hapi : endpoint.toList.take "POST:/".toList.length ≠ "POST:/".toList)
    (hmono : ∀ triple, Q db triple → Q db' triple) (h : KeyedBy endpoint Q db) :
    KeyedBy endpoint Q db' := by
  intro r hr he
  have hcompleted : r.status = .completed :=
    ((hinv.steps hs hL).reserved.settled r hr).resolve_left nofun
  have hold := hs.completed_of_endpoint hL hinv hpost hlien hapi hr hcompleted he
  exact hmono _ (h r hold he)

end Keyed

/-! ### Sends behind the route -/

/-- The route sends out of the caller's own account. -/
theorem createTransferOp_ok {c : Ctx} {u : Ulid} {phone : String} {amount : Money} {note : Option String}
    {key : String} {req : Option String} {body : Body} {s s' : Session}
    (h : createTransferOp c u phone amount note key req s = .ok body s') : ∃ account receiver,
      s.db.OwnedBy account u ∧
      (⟨u, account, receiver, amount, key, note, req⟩ : Sending).run c s = .ok body s' := by
  obtain ⟨foundSender, s₁, h₁, h⟩ := bind_ok.1 h
  obtain ⟨rfl, hsender⟩ := SqlAccountRepository.getByUserId_ok h₁
  obtain ⟨sender, s₂, h₂, h⟩ := bind_ok.1 h
  obtain ⟨hs, rfl⟩ := orRaise_ok.1 h₂
  obtain ⟨foundRecipient, s₃, h₃, h⟩ := bind_ok.1 h
  obtain ⟨rfl, -⟩ := SqlAccountRepository.getByPhone_ok h₃
  obtain ⟨recipient, s₄, h₄, h⟩ := bind_ok.1 h
  obtain ⟨-, rfl⟩ := orRaise_ok.1 h₄
  obtain ⟨_, s₅, h₅, h⟩ := bind_ok.1 h
  obtain ⟨-, rfl⟩ := ensure_ok.1 h₅
  exact ⟨sender.id, recipient.id, hsender sender hs, h⟩

/-! ### The keys of holds -/

/-- The key of the hold behind a client's key. -/
def holdKey (y : Crypto) (key : String) : String :=
  "undo-hold:" ++ y.sha256 (JsonText.dumps [("clientKey", .str key)])

/-- Behind the key of a hold is the record of a send. -/
def HoldKeyed (y : Crypto) (db : Database) (triple : IdempotencyTriple) : Prop :=
  ∃ key, triple.key = holdKey y key ∧
    (db.idempotencyRecords.find? ⟨triple.actorId, SEND_ENDPOINT, key⟩).isSome = true

section Holds

variable {c : Ctx} {d : Deployment} {db : Database}

/-- A send uses its own key, that of its hold, and those of the draw. -/
theorem Sending.run_records {x : Sending} {s s' : Session} {body : Body}
    (hinv : Invariant c.settings c.crypto ⟨.idle, s.db⟩) (hown : s.db.OwnedBy x.account x.user)
    (h : x.run c s = .ok body s') :
    s'.db = s.db ∨ (s'.db.idempotencyRecords.find? x.triple).isSome = true ∧
      ∀ triple : IdempotencyTriple, triple ≠ x.triple → triple ≠ (x.holdCommand c).triple →
        triple.endpoint ≠ "INTERNAL:/overdraft/draw" → triple.endpoint ≠ LIEN_ENDPOINT →
        s'.db.idempotencyRecords.find? triple = s.db.idempotencyRecords.find? triple := by
  rcases Sending.run_ok h with e | ⟨hfirst, now, s₀, a, o, hold, s₁, s₂, s₃, e₀, hrun⟩
  · exact .inl e
  obtain ⟨row, hinv₀⟩ := Sending.invariant_reserved (x := x) now hinv hfirst
  rw [← e₀] at hinv₀
  have hat : a.accountType = .user := by
    obtain ⟨a', ha', hat', -⟩ := hown
    have := hrun.sender_found
    rw [e₀] at this
    cases this.symm.trans ha'
    exact hat'
  have hinv₂ := hrun.invariant hinv₀ hat
  obtain ⟨s₄, tasks, hexec, e₃⟩ := hrun.hold_ok
  obtain ⟨id, b, now', e'⟩ := hrun.answers
  have hkept : ∀ triple : IdempotencyTriple, triple ≠ (x.holdCommand c).triple →
      triple.endpoint ≠ "INTERNAL:/overdraft/draw" → triple.endpoint ≠ LIEN_ENDPOINT →
      s₃.db.idempotencyRecords.find? triple = (x.reserved c now s.db).idempotencyRecords.find? triple := by
    intro triple hhold hdraw hlien
    rw [← e₀, ← (hrun.covered hinv₀).records hdraw, ← execute_keys hinv₂.standing hexec hhold hlien, e₃]
  refine .inr ⟨?_, ?_⟩
  · rw [e']
    refine Table.extends_modifyAt _ _ _ (SqlIdempotencyRepository.triple_completedRow _ _ _ _) _ ?_
    rw [hkept _ Sending.holdTriple_ne.symm (show SEND_ENDPOINT ≠ _ by decide)
      (show SEND_ENDPOINT ≠ _ by decide)]
    exact Option.isSome_iff_exists.2 ⟨_, Table.find?_push_self hfirst⟩
  · intro triple hne hhold hdraw hlien
    rw [e']
    dsimp only
    rw [Table.find?_modifyAt, if_neg hne, hkept triple hhold hdraw hlien,
      Sending.records_reserved hfirst hne]

/-- A call that posts holds is a send. -/
theorem Request.posts_undoHold {req : Request} (h : req.posts .undoHold = true) :
    ∃ u pin phone amount note key id, req = .createTransfer u pin phone amount note key id := by
  cases req <;> first | exact ⟨_, _, _, _, _, _, _, rfl⟩ | cases h

theorem HoldKeyed.mono {y : Crypto} {db db' : Database} {triple : IdempotencyTriple}
    (hext : db.idempotencyRecords.Extends db'.idempotencyRecords) (h : HoldKeyed y db triple) :
    HoldKeyed y db' triple := by
  obtain ⟨key, hkey, hsome⟩ := h
  exact ⟨key, hkey, hext _ hsome⟩

/-- A send explains the key of its hold. -/
theorem KeyedBy.send {x : Sending} {s s' : Session} {body : Body} {db : Database}
    {users : Table UserRow.id} (hs : s.db = { db with users := users })
    (hext : db.idempotencyRecords.Extends s'.db.idempotencyRecords)
    (hinv : Invariant c.settings c.crypto ⟨.idle, s.db⟩) (hown : s.db.OwnedBy x.account x.user)
    (h : x.run c s = .ok body s')
    (hkeyed : KeyedBy UndoableTransferService.UNDO_HOLD_ENDPOINT (HoldKeyed c.crypto) db) :
    KeyedBy UndoableTransferService.UNDO_HOLD_ENDPOINT (HoldKeyed c.crypto) s'.db := by
  refine hkeyed.of_records (fun _ => HoldKeyed.mono hext) fun triple he => ?_
  rcases Sending.run_records hinv hown h with e | ⟨hsome, hkept⟩
  · refine .inl ?_
    rw [e, hs]
  · by_cases hhold : triple = (x.holdCommand c).triple
    · subst hhold
      exact .inr ⟨x.key, rfl, hsome⟩
    · have hends : ∀ other : String, UndoableTransferService.UNDO_HOLD_ENDPOINT ≠ other →
          triple.endpoint ≠ other := fun other hne => he ▸ hne
      refine .inl ?_
      rw [hkept triple ?_ hhold (hends _ (by decide)) (hends _ (by decide)), hs]
      rintro rfl
      exact hends SEND_ENDPOINT (by decide) rfl

theorem Database.Inv.users (o : Oracle) {users : Table UserRow.id} (hinv : db.Inv d)
    (hu : UsersKept db.users users) : ({ db with users := users } : Database).Inv d :=
  hinv.steps (Steps.users (c := d.ctx o) db hu) (licence_sound _ db .expireDue)

theorem serve_holdsKeyed (hinv : db.Inv d) (call : Call)
    (h : KeyedBy UndoableTransferService.UNDO_HOLD_ENDPOINT (HoldKeyed d.crypto) db) :
    KeyedBy UndoableTransferService.UNDO_HOLD_ENDPOINT (HoldKeyed d.crypto) (serve d call db) := by
  rcases commit_cases (handle (d.ctx call.oracle) call.request) db with ⟨r, s, hok, he⟩ | he
  · rw [serve, he]
    have hsteps := handle_steps hok
    by_cases hposts : call.request.posts .undoHold = true
    · obtain ⟨u, pin, phone, amount, note, key, id, hreq⟩ := Request.posts_undoHold hposts
      rw [hreq, handle] at hok
      obtain ⟨r₁, s₁, h₁, hok⟩ := bind_ok.1 hok
      obtain ⟨-, rfl⟩ := pure_ok.1 hok
      rcases runPinProtected_cases h₁ with ⟨-, -, users, -, e⟩ | ⟨s₀, body, -, ⟨users, hu, e₀⟩, hop⟩
      · rw [e]
        exact h
      · obtain ⟨account, receiver, hown, hsend⟩ := createTransferOp_ok hop
        have hinv₀ : Invariant d.settings d.crypto ⟨.idle, s₀.db⟩ := by
          rw [e₀]
          exact hinv.users call.oracle hu.usersKept
        exact h.send e₀ hsteps.records_extend hinv₀ hown hsend
    · refine h.steps hsteps (licence_sound _ _ _) hinv ?_ (by decide) (by decide)
        (fun _ => HoldKeyed.mono hsteps.records_extend)
      rintro db₁ d₁ p d₂ ⟨hw, hk⟩ hend
      rw [hw.issued.kind_of_undoHold hend] at hk
      exact hposts hk
  · rw [serve, he]
    exact h

theorem serveAll_holdsKeyed (d : Deployment) (now : Time) (calls : List Call) :
    KeyedBy UndoableTransferService.UNDO_HOLD_ENDPOINT (HoldKeyed d.crypto)
      (serveAll d calls (migrated now)) := by
  refine serveAll_induction now ?_ (fun db call hinv h => serve_holdsKeyed hinv call h) calls
  intro r hr
  cases hr

/-- The user has sent under no other key with the same digest. -/
def KeyApart (y : Crypto) (db : Database) (u : Ulid) (key : String) : Prop :=
  ∀ key', (db.idempotencyRecords.find? ⟨u, SEND_ENDPOINT, key'⟩).isSome = true →
    holdKey y key' = holdKey y key → key' = key

/-- While a client's key is unused, so is the key of its hold. -/
theorem Sending.hold_unused {x : Sending}
    (hkeyed : KeyedBy UndoableTransferService.UNDO_HOLD_ENDPOINT (HoldKeyed c.crypto) db)
    (hfirst : db.idempotencyRecords.find? x.triple = none)
    (hapart : KeyApart c.crypto db x.user x.key) :
    db.idempotencyRecords.find? (x.holdCommand c).triple = none := by
  cases hrow : db.idempotencyRecords.find? (x.holdCommand c).triple with
  | none => rfl
  | some row =>
    have htriple := Table.key_of_find? hrow
    obtain ⟨key, hkey, hsome⟩ := hkeyed row (Table.mem_of_find? hrow) (by rw [htriple]; rfl)
    rw [htriple] at hkey hsome
    have heq : key = x.key := hapart key hsome hkey.symm
    rw [heq] at hsome
    rw [show (⟨(x.holdCommand c).triple.actorId, SEND_ENDPOINT, x.key⟩ : IdempotencyTriple) = x.triple
      from rfl, hfirst] at hsome
    cases hsome

end Holds

end MoneyMovement

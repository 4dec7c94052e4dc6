/-
  MoneyMovement/DeferredSend.lean
  ===============================
  **The deferred send against the direct transfer.**

  `OverdraftService.send` holds the amount and `UndoableTransferService.settle`
  pays it out later; a direct `P2P_SEND` moves it at once.  The checks on the
  sender are the same, and when the receiver is active both ways end in the same
  position.  The receiver's status, however, is only checked where the receiver
  is credited: the hold never looks at it.
-/
import MoneyMovement.Stranding

namespace MoneyMovement

open Txn

/-! ### What a first execution has checked -/

section Checks

open TransferUseCase Container

variable {c : Ctx} {cmd : TransferCommand} {s s' : Session}

theorem TransferUseCase.applyMovement_checks {a b : Account} {fee : Money} {now : Time}
    {m : Movement} (h : applyMovement c cmd a b fee now s = .ok m s') :
    0 < cmd.amount.minor ∧ fits? 200 cmd.note = true ∧ fits? 64 cmd.requestId = true := by
  obtain ⟨_, _, -, h⟩ := bind_ok.1 h
  obtain ⟨_, _, hcredit, h⟩ := bind_ok.1 h
  obtain ⟨_, _, -, h⟩ := bind_ok.1 h
  obtain ⟨_, _, -, h⟩ := bind_ok.1 h
  obtain ⟨_, _, -, h⟩ := bind_ok.1 h
  obtain ⟨_, _, -, h⟩ := bind_ok.1 h
  obtain ⟨_, _, hcreate, -⟩ := bind_ok.1 h
  obtain ⟨_, _, hfits, -⟩ := bind_ok.1 hcreate
  exact ⟨(Account.credit_ok hcredit).2.1, (ensure_ok.1 hfits).1⟩

/-- What holds when an execution under an unused key has gone through, at the instant it
    read first. -/
structure Checked (c : Ctx) (cmd : TransferCommand) (s : Session) (a b : AccountRow) : Prop where
  sender : s.db.accounts.find? cmd.senderAccountId = some a
  receiver : s.db.accounts.find? cmd.receiverAccountId = some b
  permitted : Permitted c cmd s.db a (c.oracle.clock s.draws)
  sender_active : a.status = .active
  receiver_active : b.status = .active
  positive : 0 < cmd.amount.minor
  note : fits? 200 cmd.note = true
  requestId : fits? 64 cmd.requestId = true

theorem execute_checks {r : TransferResult} (h : execute c cmd s = .ok r s')
    (hkey : s.db.idempotencyRecords.find? cmd.triple = none) : ∃ a b, Checked c cmd s a b := by
  rw [execute_wired] at h
  obtain ⟨now, s₁, h₁, h⟩ := bind_ok.1 h
  obtain ⟨e₁, rfl⟩ := now_ok h₁
  obtain ⟨decision, s₂, h₂, h⟩ := bind_ok.1 h
  obtain ⟨o, s₃, h₃, h⟩ := bind_ok.1 h
  rcases SqlIdempotencyRepository.reserve_ok h₂ with ⟨rfl, -, e₂⟩ | ⟨-, row, hrow, -⟩
  · obtain ⟨rfl, rfl⟩ := pure_ok.1 h₃
    obtain ⟨_, s₄, h₄, h⟩ := bind_ok.1 h
    obtain ⟨-, rfl⟩ := ensure_ok.1 h₄
    obtain ⟨parties, s₅, h₅, h⟩ := bind_ok.1 h
    obtain ⟨e₅, a, b, ha, hb, rfl⟩ := lockParties_ok h₅
    obtain ⟨fee, s₆, h₆, h⟩ := bind_ok.1 h
    obtain ⟨rfl, rfl, hauth, hsender, hreceiver, hlimits, -⟩ := revalidate_ok h₆
    obtain ⟨_, _, hmove, -⟩ := bind_ok.1 h
    obtain ⟨hpos, hnote, hreq⟩ := applyMovement_checks hmove
    rw [e₅, e₂, e₁] at hlimits
    rw [e₂, e₁] at ha hb
    exact ⟨a, b, ha, hb, ⟨hauth, hlimits⟩, hsender, hreceiver, hpos, hnote, hreq⟩
  · rw [e₁, hkey] at hrow
    cases hrow

end Checks

/-! ### The two ways -/

namespace OverdraftService

/-- The direct transfer a send stands for. -/
def directCommand (c : Ctx) (actorUserId senderAccountId receiverAccountId : Ulid) (amount : Money)
    (idempotencyKey : String) (note requestId : Option String) : TransferCommand where
  actorUserId := actorUserId
  senderAccountId := senderAccountId
  receiverAccountId := receiverAccountId
  amount := amount
  idempotencyKey := idempotencyKey
  requestFingerprint := sendFingerprint c senderAccountId receiverAccountId amount note
  kind := .p2pSend
  note := note
  requestId := requestId
  enforceLimits := true

/-- The key has been used neither for a send nor for the hold of one. -/
structure UnusedKey (c : Ctx) (db : Database) (u : Ulid) (key : String) : Prop where
  fits : fits 128 key = true
  send : db.idempotencyRecords.find? ⟨u, SEND_ENDPOINT, key⟩ = none
  hold : db.idempotencyRecords.find?
    ⟨u, UndoableTransferService.UNDO_HOLD_ENDPOINT, "undo-hold:" ++ derivedKey c key⟩ = none

/-- Reserving the send leaves the hold's key alone. -/
theorem UnusedKey.hold_reserved {c : Ctx} {db : Database} {u : Ulid} {key : String}
    (h : UnusedKey c db u key) (f : String) (now : Time) :
    (db.idempotencyRecords.push (SqlIdempotencyRepository.processing ⟨u, SEND_ENDPOINT, key⟩ f
      now)).find? ⟨u, UndoableTransferService.UNDO_HOLD_ENDPOINT, "undo-hold:" ++ derivedKey c key⟩ =
        none := by
  have hne : SEND_ENDPOINT ≠ UndoableTransferService.UNDO_HOLD_ENDPOINT := by decide
  refine (Table.find?_push h.send _).trans ?_
  rw [if_neg, h.hold]
  intro heq
  exact hne (congrArg IdempotencyTriple.endpoint heq)

/-- Everything both ways check of the sender, on the day `day` starts. -/
structure SenderMay (cfg : Settings) (db : Database) (a : AccountRow) (u : Ulid) (amount : Money)
    (note requestId : Option String) (day : Time) : Prop where
  owner : a.userId = some u
  active : a.status = .active
  positive : 0 < amount.minor
  single : amount.minor ≤ cfg.maxTransferAmountMinor
  daily : SqlTransferRepository.sentSince db a.id day + amount.minor ≤ cfg.dailyTransferLimitMinor
  note : fits? 200 note = true
  requestId : fits? 64 requestId = true

end OverdraftService

section Ways

open OverdraftService

variable {d : Deployment} {db : Database} {c : Ctx} {a b : AccountRow} {u : Ulid} {amount : Money}
  {key : String} {note req : Option String}

/-- The direct way needs the receiver active, too. -/
theorem direct_returns (hinv : db.Inv d) (ha : a ∈ db.accounts.rows) (hb : b ∈ db.accounts.rows)
    (hbt : b.accountType = .user) (hne : a.id ≠ b.id) (hcover : amount.minor ≤ a.balanceMinor)
    (hkey : UnusedKey c db u key)
    (hmay : SenderMay c.settings db a u amount note req (Time.startOfDay (c.oracle.clock 0)))
    (hactive : b.status = .active) {v : Ulid} (hv : b.userId = some v)
    (hfresh : c.oracle.FreshFor (8 + 10 * db.overdraftLoans.rows.length) db) :
    Returns (execute c (directCommand c u a.id b.id amount key note req)) (begin db) fun _ s' =>
      s'.db.position = (db.position.pay a.id b.id amount.minor).swept b.id
        (SqlOverdraftRepository.outstanding db v) (lienBudget c amount) := by
  have hlen := length_outstanding_le db v
  have hendpoint : fits 100 TRANSFER_ENDPOINT = true := by decide
  have hlien : TRANSFER_ENDPOINT ≠ LIEN_ENDPOINT := by decide
  have hsolvent := hinv.books.nonneg b hb (by rw [hbt]; nofun)
  have hsubmit : Submittable c (directCommand c u a.id b.id amount key note req) (begin db) a b :=
    ⟨⟨hendpoint, hkey.fits⟩, hkey.send,
      ⟨Table.find?_of_mem ha, Table.find?_of_mem hb, hne, hmay.positive, hmay.active, hactive,
        .inr hcover, .inr hsolvent⟩,
      ⟨hmay.note, hmay.requestId, hinv.standing.users a ha u hmay.owner, nofun, nofun, rfl⟩,
      .inr hmay.owner, fun _ => ⟨hmay.single, hmay.daily⟩⟩
  refine (execute_returns_swept hsubmit (hfresh.begin hinv) hinv.serviceable
    (by show 0 + 8 + 10 * (SqlOverdraftRepository.outstanding db v).length ≤ _; omega) rfl hbt hv
    hlien).mono ?_
  intro _ _ h
  exact h.1

theorem direct_checks {r : TransferResult} {s' : Session} (ha : a ∈ db.accounts.rows)
    (hb : b ∈ db.accounts.rows) (hkey : UnusedKey c db u key)
    (h : execute c (directCommand c u a.id b.id amount key note req) (begin db) = .ok r s') :
    SenderMay c.settings db a u amount note req (Time.startOfDay (c.oracle.clock 0)) ∧
      b.status = .active := by
  obtain ⟨a', b', hcheck⟩ := execute_checks h hkey.send
  cases (Table.find?_of_mem ha).symm.trans hcheck.sender
  cases (Table.find?_of_mem hb).symm.trans hcheck.receiver
  obtain ⟨hsingle, hdaily⟩ := hcheck.permitted.within_limits rfl
  have howner := hcheck.permitted.authorized.resolve_left (fun hsystem => nomatch hsystem.1)
  exact ⟨⟨howner, hcheck.sender_active, hcheck.positive, hsingle, hdaily, hcheck.note,
    hcheck.requestId⟩, hcheck.receiver_active⟩

/-- A send that its balance covers comes down to the hold. -/
theorem send_eq (ha : a ∈ db.accounts.rows) (hcover : amount.minor ≤ a.balanceMinor)
    (hkey : UnusedKey c db u key) (howner : a.userId = some u) :
    ∃ s₁ : Session, s₁.draws = 1 ∧ s₁.db = { db with
        idempotencyRecords := db.idempotencyRecords.push (SqlIdempotencyRepository.processing
          ⟨u, SEND_ENDPOINT, key⟩ (sendFingerprint c a.id b.id amount note) (c.oracle.clock 0)) } ∧
      send c u a.id b.id amount key note req (begin db) = (do
        let hold ← UndoableTransferService.send c u a.id b.id amount
          ("undo-hold:" ++ derivedKey c key) note req UndoableTransferService.UNDO_HOLD_ENDPOINT
        complete ⟨u, SEND_ENDPOINT, key⟩ hold.transferId (sendBody hold none) (c.oracle.clock 0) 201
        return sendBody hold none : Tx Body) s₁ := by
  have hfits : fits 100 SEND_ENDPOINT = true := by decide
  have hreserve : Returns (SqlIdempotencyRepository.reserve ⟨u, SEND_ENDPOINT, key⟩
      (sendFingerprint c a.id b.id amount note) (c.oracle.clock 0)) ⟨db, 1, []⟩ _ :=
    SqlIdempotencyRepository.reserve_returns ⟨hfits, hkey.fits⟩ hkey.send
  obtain ⟨_, s₁, hreserve, rfl, rfl⟩ := hreserve
  have hnow : now c (begin db) = .ok (c.oracle.clock 0) ⟨db, 1, []⟩ := rfl
  have hproceed : ∀ s : Session, replayBodyOrRaise .proceed s = .ok none s := fun _ => rfl
  unfold send
  rw [bind_of_ok hnow, bind_of_ok hreserve, bind_of_ok (hproceed _)]
  dsimp only
  unfold sendReserved
  generalize hs₁ : (⟨{ db with
    idempotencyRecords := db.idempotencyRecords.push (SqlIdempotencyRepository.processing
      ⟨u, SEND_ENDPOINT, key⟩ (sendFingerprint c a.id b.id amount note) (c.oracle.clock 0)) }, 1, []⟩ :
      Session) = s₁
  have hgrants : SqlOverdraftRepository.activeGrantsForBorrower u s₁ =
      .ok (SqlOverdraftRepository.activeGrants s₁.db u) s₁ := rfl
  obtain ⟨locked, s₂, hlock, e₂, hd₂, hlocked⟩ := SqlAccountRepository.lockForUpdate_returns (s := s₁)
    (a.id :: PENDING_SETTLEMENT_ACCOUNT_ID ::
      (SqlOverdraftRepository.activeGrants s₁.db u).map fun g => g.2.poolAccountId)
  have hsender : locked a.id = some a.toDomain := by
    rw [hlocked _ List.mem_cons_self, ← hs₁]
    exact congrArg (Option.map _) (Table.find?_of_mem ha)
  have hfound : (orRaise (locked a.id) ⟨.notFound, "Your account could not be found.", []⟩ : Tx _) s₂ =
      .ok a.toDomain s₂ := orRaise_ok.2 ⟨hsender, rfl⟩
  have howned : a.toDomain.ensureOwnedBy u s₂ = .ok () s₂ := ensure_of_pos howner _ _
  have hcovered : coverShortfall c u a.id a.toDomain amount
      (SqlOverdraftRepository.activeGrants s₁.db u) locked key req (c.oracle.clock 0) s₂ =
      .ok none s₂ := by
    have hnot : ¬0 < amount.minor - a.toDomain.balance.minor := by
      show ¬0 < amount.minor - a.balanceMinor
      omega
    rw [coverShortfall, if_neg hnot]
    rfl
  refine ⟨s₂, ?_, ?_, ?_⟩
  · rw [hd₂, ← hs₁]
  · rw [e₂, ← hs₁]
  · rw [bind_of_ok hgrants, bind_of_ok hlock, bind_of_ok hfound, bind_of_ok howned,
      bind_of_ok hcovered]

/-- A send goes out of the actor's own account only. -/
theorem send_owner {r : Ulid} {body : Body} {s' : Session} (ha : a ∈ db.accounts.rows)
    (hkey : UnusedKey c db u key) (h : send c u a.id r amount key note req (begin db) = .ok body s') :
    a.userId = some u := by
  obtain ⟨now, s₁, h₁, h⟩ := bind_ok.1 h
  obtain ⟨e₁, -⟩ := now_ok h₁
  obtain ⟨decision, s₂, h₂, h⟩ := bind_ok.1 h
  obtain ⟨o, s₃, h₃, h⟩ := bind_ok.1 h
  rcases SqlIdempotencyRepository.reserve_ok h₂ with ⟨rfl, -, e₂⟩ | ⟨-, row, hrow, -⟩
  · obtain ⟨rfl, rfl⟩ := pure_ok.1 h₃
    obtain ⟨grants, s₄, h₄, h⟩ := bind_ok.1 h
    obtain ⟨-, rfl⟩ := readDb_ok.1 h₄
    obtain ⟨locked, s₅, h₅, h⟩ := bind_ok.1 h
    obtain ⟨-, hlocked⟩ := SqlAccountRepository.lockForUpdate_ok h₅
    obtain ⟨sender, s₆, h₆, h⟩ := bind_ok.1 h
    obtain ⟨hsender, rfl⟩ := orRaise_ok.1 h₆
    obtain ⟨_, s₇, h₇, -⟩ := bind_ok.1 h
    have howned := (ensure_ok.1 h₇).1
    rw [hlocked _ List.mem_cons_self, e₂, e₁] at hsender
    cases (congrArg (Option.map AccountRow.toDomain) (Table.find?_of_mem ha)).symm.trans hsender
    exact howned
  · rw [e₁] at hrow
    cases hkey.send.symm.trans hrow

/-- The send has checked everything about the sender, and nothing about the receiver. -/
theorem send_checks {body : Body} {s' : Session} (ha : a ∈ db.accounts.rows)
    (hcover : amount.minor ≤ a.balanceMinor) (hkey : UnusedKey c db u key)
    (h : send c u a.id b.id amount key note req (begin db) = .ok body s') :
    SenderMay c.settings db a u amount note req (Time.startOfDay (c.oracle.clock 1)) := by
  have howner := send_owner ha hkey h
  obtain ⟨s₁, hd₁, e₁, heq⟩ := send_eq (b := b) ha hcover hkey howner
  rw [heq] at h
  obtain ⟨hold, s₂, hhold, -⟩ := bind_ok.1 h
  obtain ⟨_, s₃, hexec, -⟩ := bind_ok.1 hhold
  obtain ⟨a', b', hcheck⟩ := execute_checks hexec (by rw [e₁]; exact hkey.hold_reserved _ _)
  have hsender := hcheck.sender
  have hpermitted := hcheck.permitted
  rw [e₁] at hsender hpermitted
  cases (Table.find?_of_mem ha).symm.trans hsender
  obtain ⟨hsingle, hdaily⟩ := hpermitted.within_limits rfl
  rw [hd₁] at hdaily
  exact ⟨howner, hcheck.sender_active, hcheck.positive, hsingle, hdaily, hcheck.note, hcheck.requestId⟩

theorem SqlScheduledTaskRepository.schedule_returns {s : Session} {type : TaskType} {id : Ulid}
    {delay : Nat} (hfresh : s.db.scheduledTasks.find? (c.oracle.ulid s.draws) = none) :
    Returns (SqlScheduledTaskRepository.schedule c type id delay) s fun _ s' =>
      ∃ tasks, s'.db = { s.db with scheduledTasks := tasks } := by
  refine Returns.bind newUlid_returns ?_
  rintro _ _ ⟨rfl, rfl⟩
  refine Returns.bind (P := fun _ s' => s' = { s with draws := s.draws + 1 }) ⟨_, _, rfl, rfl⟩ ?_
  rintro found _ rfl
  cases found with
  | true => exact Returns.pure ⟨_, rfl⟩
  | false =>
    simp only [Bool.false_eq_true, if_false]
    exact ⟨_, _, insertInto_of hfresh rfl, _, rfl⟩

/-- The hold and its clock. -/
theorem UndoableTransferService.send_returns {N : Nat} {cmd : TransferCommand} {s : Session}
    {holdKey endpoint : String} {x r : Ulid}
    (hcmd : HoldingService.holdCommand c u x PENDING_SETTLEMENT_ACCOUNT_ID amount .undoHold
      .pendingUndo holdKey note req r endpoint = cmd)
    (hsubmit : Submittable c cmd s a b) (hf : Fresh c N s) (hN : s.draws + 9 ≤ N)
    (htype : b.accountType ≠ .user) :
    Returns (UndoableTransferService.send c u x r amount holdKey note req endpoint) s fun t s' =>
      ∃ p s₂, Announced c N cmd s p s₂ ∧ t = p.result ∧ ∃ records tasks,
        s'.db = { s₂.db with idempotencyRecords := records, scheduledTasks := tasks } := by
  unfold UndoableTransferService.send
  rw [hcmd]
  refine Returns.bind (execute_returns_unswept hsubmit hf (by omega) (.inr htype)) ?_
  rintro _ _ ⟨p, s₂, hann, rfl, rfl⟩
  have hd₂ := hann.draws
  have htask : (s₂.answered cmd p).db.scheduledTasks.find?
      (c.oracle.ulid (s₂.answered cmd p).draws) = none :=
    hann.fresh.tasks s₂.draws (Nat.le_refl _) (by omega)
  refine Returns.bind (P := fun _ s' => ∃ tasks,
    s'.db = { (s₂.answered cmd p).db with scheduledTasks := tasks }) ?_ ?_
  · exact SqlScheduledTaskRepository.schedule_returns htask
  · rintro _ s₃ ⟨tasks, e₃⟩
    exact Returns.pure ⟨p, s₂, hann, rfl, _, tasks, e₃⟩

theorem fits_derivedKey (hsha : ∀ x, (c.crypto.sha256 x).length = 64) (key : String) :
    fits 128 ("undo-hold:" ++ derivedKey c key) = true := by
  have hlen : ("undo-hold:" ++ derivedKey c key).length = 74 := by
    rw [String.length_append, derivedKey, fingerprintRequest, hsha]
    rfl
  rw [fits, hlen]
  rfl

/-- The send holds the amount: its row is a pending hold for the receiver, and only the two
    balances have changed. -/
theorem send_returns (hinv : db.Inv d) (hsha : ∀ x, (c.crypto.sha256 x).length = 64)
    (ha : a ∈ db.accounts.rows) (hat : a.accountType = .user) (hb : b ∈ db.accounts.rows)
    (hbt : b.accountType = .user) (hab : a.id ≠ b.id)
    (hcover : amount.minor ≤ a.balanceMinor) (hkey : UnusedKey c db u key)
    (hmay : SenderMay c.settings db a u amount note req (Time.startOfDay (c.oracle.clock 1)))
    (hfresh : c.oracle.FreshFor 10 db) :
    Returns (send c u a.id b.id amount key note req) (begin db) fun body s' =>
      ∃ hold : TransferRow, body.str? "transferId" = some hold.id.text ∧
        s'.db.transfers.find? hold.id = some hold ∧ hold.status = .pendingUndo ∧
        hold.kind = .undoHold ∧ hold.receiverAccountId = PENDING_SETTLEMENT_ACCOUNT_ID ∧
        hold.intendedReceiverAccountId = some b.id ∧ hold.amountMinor = amount.minor ∧
        hold.initiatedByUserId = some u ∧ hold.note = note ∧
        s'.db.position = db.position.pay a.id PENDING_SETTLEMENT_ACCOUNT_ID amount.minor ∧
        s'.db.overdraftLoans = db.overdraftLoans ∧ s'.db.overdraftPools = db.overdraftPools ∧
        s'.db.users = db.users ∧ s'.db.accounts.find? b.id = some b := by
  obtain ⟨s₁, hd₁, e₁, heq⟩ := send_eq (b := b) ha hcover hkey hmay.owner
  obtain ⟨pending, hpending, hptype⟩ := hinv.chart.system _ _ .pending
  have hpmem := Table.mem_of_find? hpending
  have hpactive := hinv.standing.active pending hpmem (by rw [hptype]; nofun)
  have hpsolvent := hinv.books.nonneg pending hpmem (by rw [hptype]; nofun)
  have hne : ∀ x ∈ db.accounts.rows, x.accountType = .user → x.id ≠ PENDING_SETTLEMENT_ACCOUNT_ID := by
    intro x hx hxt hid
    rw [← hid, Table.find?_of_mem hx] at hpending
    cases hpending
    rw [hxt] at hptype
    cases hptype
  generalize hcmd : HoldingService.holdCommand c u a.id PENDING_SETTLEMENT_ACCOUNT_ID amount .undoHold
    .pendingUndo ("undo-hold:" ++ derivedKey c key) note req b.id
    UndoableTransferService.UNDO_HOLD_ENDPOINT = cmd
  have hsubmit : Submittable c cmd s₁ a pending := by
    have hendpoint : fits 100 UndoableTransferService.UNDO_HOLD_ENDPOINT = true := by decide
    subst hcmd
    refine ⟨⟨hendpoint, fits_derivedKey hsha key⟩, ?_, ?_, ?_, .inr hmay.owner, ?_⟩
    · rw [e₁]
      exact hkey.hold_reserved _ _
    · rw [e₁]
      exact ⟨Table.find?_of_mem ha, hpending, hne a ha hat, hmay.positive, hmay.active, hpactive, .inr hcover,
        .inr hpsolvent⟩
    · rw [e₁]
      refine ⟨hmay.note, hmay.requestId, hinv.standing.users a ha u hmay.owner, nofun, ?_, rfl⟩
      intro r hr
      cases hr
      exact Option.isSome_iff_exists.2 ⟨b, Table.find?_of_mem hb⟩
    · rw [hd₁, e₁]
      exact fun _ => ⟨hmay.single, hmay.daily⟩
  have hfresh₁ : Fresh c 10 s₁ := by
    refine (hfresh.begin hinv).congr (Nat.zero_le _) ?_ ?_ ?_ ?_ ?_ ?_ ?_ <;> rw [e₁] <;> rfl
  have hrun : Returns (do
      let hold ← UndoableTransferService.send c u a.id b.id amount
        ("undo-hold:" ++ derivedKey c key) note req UndoableTransferService.UNDO_HOLD_ENDPOINT
      complete ⟨u, SEND_ENDPOINT, key⟩ hold.transferId (sendBody hold none) (c.oracle.clock 0) 201
      return sendBody hold none : Tx Body) s₁ fun body s' => ∃ p s₂, Announced c 10 cmd s₁ p s₂ ∧
        body = sendBody p.result none ∧ ∃ records tasks,
          s'.db = { s₂.db with idempotencyRecords := records, scheduledTasks := tasks } := by
    refine Returns.bind (UndoableTransferService.send_returns hcmd hsubmit hfresh₁ (by omega)
      (by rw [hptype]; nofun)) ?_
    rintro _ s₃ ⟨p, s₂, hann, rfl, records, tasks, e₃⟩
    refine Returns.bind (P := fun _ s' => ∃ records, s'.db = { s₃.db with
      idempotencyRecords := records }) ⟨_, _, rfl, _, rfl⟩ ?_
    rintro _ s₄ ⟨records, e₄⟩
    rw [e₃] at e₄
    exact Returns.pure ⟨p, s₂, hann, rfl, records, tasks, e₄⟩
  obtain ⟨body, s', hok, p, s₂, hann, rfl, records, tasks, e'⟩ := hrun
  obtain ⟨logs, e₂⟩ := hann.db
  have hpcmd := hann.cmd_eq
  have hrow : s'.db.transfers.find? p.row.id = some p.row := by
    rw [e', e₂]
    exact Posting.find?_push_row hann.valid
  have hposition : s'.db.position =
      s₁.db.position.pay cmd.senderAccountId cmd.receiverAccountId cmd.amount.minor := by
    rw [e', e₂, ← hpcmd]
    exact congrArg (Position.mk · _) (funext (Posting.balance_apply hann.valid.parties_ne))
  have hreceiver : s'.db.accounts.find? b.id = some b := by
    rw [e', e₂]
    refine (Posting.find?_accountsAfter_eq hann.valid.parties_ne _ _).trans ?_
    rw [hpcmd, ← hcmd, e₁]
    dsimp only [HoldingService.holdCommand]
    rw [Table.find?_of_mem hb, Option.map_some]
    exact congrArg some ((if_neg (hne b hb hbt)).trans (if_neg hab.symm))
  refine ⟨_, s', heq.trans hok, p.row, rfl, hrow, ?_⟩
  rw [hposition, hreceiver, e', e₂, e₁]
  unfold Posting.row
  rw [hpcmd, ← hcmd]
  exact ⟨rfl, rfl, rfl, rfl, rfl, rfl, rfl, rfl, rfl, rfl, rfl, rfl⟩

theorem UndoableTransferService.settle_returns {hold : TransferRow} (hinv : db.Inv d)
    (hf : db.transfers.find? hold.id = some hold) (hs : hold.status = .pendingUndo)
    (hk : hold.kind = .undoHold) (hto : hold.receiverAccountId = PENDING_SETTLEMENT_ACCOUNT_ID)
    (hr : hold.intendedReceiverAccountId = some b.id) (hu : hold.initiatedByUserId = some u)
    (hb : db.accounts.find? b.id = some b) (hactive : b.status = .active) {v : Ulid}
    (hv : b.userId = some v) (huser : (db.users.find? u).isSome = true)
    (hnote : fits? 200 hold.note = true)
    (hfresh : c.oracle.FreshFor (8 + 10 * db.overdraftLoans.rows.length) db) :
    Returns (UndoableTransferService.settle c hold.id) (begin db) fun o s' => o.isSome = true ∧
      s'.db.position =
        (db.position.pay PENDING_SETTLEMENT_ACCOUNT_ID b.id hold.amountMinor).swept b.id
          (SqlOverdraftRepository.outstanding db v) (lienBudget c (.fromMinor hold.amountMinor)) := by
  unfold UndoableTransferService.settle
  refine Returns.bind (Returns.query ⟨hf, rfl⟩ : Returns _ (begin db) fun o s' =>
    o = some hold ∧ begin db = s') ?_
  rintro _ _ ⟨rfl, rfl⟩
  dsimp only
  rw [if_neg (not_not.2 hs)]
  refine Returns.bind (Returns.orRaise hr ⟨rfl, rfl⟩ : Returns _ (begin db) fun x s' =>
    x = b.id ∧ begin db = s') ?_
  rintro _ _ ⟨rfl, rfl⟩
  refine Returns.bind (Returns.orRaise hu ⟨rfl, rfl⟩ : Returns _ (begin db) fun x s' =>
    u = x ∧ begin db = s') ?_
  rintro _ _ ⟨rfl, rfl⟩
  have hleg : hold.legKind .succeeded = .undoSettle := by
    rw [TransferRow.legKind, hk]
    rfl
  have hpaid : PaidTo hold .succeeded b.id := .inl ⟨rfl, hr⟩
  have hsettle := HoldingService.settleHold_returns hinv (Table.mem_of_find? hf) (.inl hs) hpaid hb
    hactive hfresh huser hnote (rfl : fits? 64 none = true)
  unfold HoldingService.settleHold at hsettle
  rw [hleg, hto, hs] at hsettle
  refine Returns.bind hsettle ?_
  intro r s' hposition
  exact Returns.pure ⟨rfl, hposition v hv⟩

/-- What goes through an account leaves it as it was. -/
theorem Position.pay_through (p : Position) {x y z : Ulid} (hxy : x ≠ y) (hzy : z ≠ y) (hxz : x ≠ z)
    (n : Int) : (p.pay x y n).pay y z n = p.pay x z n := by
  unfold Position.pay
  congr 1
  funext id
  dsimp only
  rw [Option.map_map]
  congr 1
  funext m
  simp only [Function.comp_apply]
  by_cases hz : id = z
  · subst hz
    rw [if_pos rfl, if_pos rfl, if_neg hzy, if_neg hxz.symm]
  · rw [if_neg hz, if_neg hz]
    by_cases hy : id = y
    · subst hy
      rw [if_pos rfl, if_pos rfl, if_neg hxy.symm]
      omega
    · rw [if_neg hy, if_neg hy]

end Ways

/-! ### When they agree -/

open OverdraftService

/-- The claim for one send: it is accepted when the direct transfer is, and settling its hold
    next succeeds and leaves the position the direct transfer leaves. -/
def SendAgrees (d : Deployment) (db : Database) (a b : AccountRow) (u : Ulid) (amount : Money)
    (key : String) (note req : Option String) (o o' : Oracle) : Prop :=
  ((send (d.ctx o) u a.id b.id amount key note req (begin db)).succeeded = true ↔
    (execute (d.ctx o') (directCommand (d.ctx o') u a.id b.id amount key note req)
      (begin db)).succeeded = true) ∧
  ∀ body s, send (d.ctx o) u a.id b.id amount key note req (begin db) = .ok body s →
    ∃ hold ∈ s.db.transfers.rows, body.str? "transferId" = some hold.id.text ∧
      ∀ o'' : Oracle, o''.FreshFor (8 + 10 * s.db.overdraftLoans.rows.length) s.db →
        ∃ settlement s₁ result s₂,
          UndoableTransferService.settle (d.ctx o'') hold.id (begin s.db) = .ok (some settlement) s₁ ∧
          execute (d.ctx o') (directCommand (d.ctx o') u a.id b.id amount key note req) (begin db) =
            .ok result s₂ ∧
          s₁.db.position = s₂.db.position

section Agreement

variable {d : Deployment} {db : Database} {a b : AccountRow} {u : Ulid} {amount : Money}
  {key : String} {note req : Option String} {o o' : Oracle}

/-- The invariant holds after a send. -/
theorem Database.Inv.send {v : Ulid} {body : Body} {s : Session} (hinv : db.Inv d)
    (ho : db.OwnedBy a.id u) (hr : db.OwnedBy b.id v)
    (h : send (d.ctx o) u a.id b.id amount key note req (begin db) = .ok body s) : s.db.Inv d := by
  let request : Request := .createTransfer u "" "" amount note key req
  have hsteps : Steps (d.ctx o) (licence (d.ctx o) db request) ⟨.idle, db⟩ ⟨.idle, s.db⟩ :=
    (send_answered (L := licence (d.ctx o) db request) (licence_covers rfl) (licence_covers rfl)
      (fun _ _ ht => ht) (fun _ hrow => hrow) ho hr h).steps
  exact hinv.steps hsteps (licence_sound _ _ _)

/-- With the receiver active, the hold of an accepted send settles into the position of the
    direct transfer. -/
theorem settles_as_direct {v : Ulid} (hinv : db.Inv d)
    (hsha : ∀ x, (d.crypto.sha256 x).length = 64) (ha : a ∈ db.accounts.rows)
    (hat : a.accountType = .user) (hb : b ∈ db.accounts.rows) (hbt : b.accountType = .user)
    (hab : a.id ≠ b.id) (hcover : amount.minor ≤ a.balanceMinor)
    (hkey : UnusedKey (d.ctx o) db u key)
    (hmay : SenderMay d.settings db a u amount note req (Time.startOfDay (o.clock 1)))
    (hmay' : SenderMay d.settings db a u amount note req (Time.startOfDay (o'.clock 0)))
    (hactive : b.status = .active) (hv : b.userId = some v) (hfresh : o.FreshFor 10 db)
    (hfresh' : o'.FreshFor (8 + 10 * db.overdraftLoans.rows.length) db) :
    SendAgrees d db a b u amount key note req o o' := by
  obtain ⟨body, s, hsend, hold, hbody, hf, hs, hk, hto, hr, hamount, hu, hnote, hposition, hloans, hpools,
    husers, hreceiver⟩ :=
    send_returns (c := d.ctx o) hinv hsha ha hat hb hbt hab hcover hkey hmay hfresh
  obtain ⟨result, s₂, hdirect, hdirected⟩ := direct_returns (c := d.ctx o') hinv ha hb hbt hab hcover
    ⟨hkey.fits, hkey.send, hkey.hold⟩ hmay' hactive hv hfresh'
  have hinv' : s.db.Inv d := hinv.send ⟨a, Table.find?_of_mem ha, hat, hmay.owner⟩
    ⟨b, Table.find?_of_mem hb, hbt, hv⟩ hsend
  have hout : SqlOverdraftRepository.outstanding s.db v = SqlOverdraftRepository.outstanding db v := by
    unfold SqlOverdraftRepository.outstanding
    rw [hloans, hpools]
  obtain ⟨pending, hpending, hptype⟩ := hinv.chart.system _ _ .pending
  have hne : ∀ x ∈ db.accounts.rows, x.accountType = .user → x.id ≠ PENDING_SETTLEMENT_ACCOUNT_ID :=
    fun x hx hxt => Database.HasType.ne ⟨x, Table.find?_of_mem hx, hxt⟩ ⟨pending, hpending, hptype⟩
      (by decide)
  refine ⟨?_, ?_⟩
  · rw [hsend, hdirect]
    exact Iff.rfl
  · intro body' s' hsend'
    cases hsend.symm.trans hsend'
    refine ⟨hold, Table.mem_of_find? hf, hbody, ?_⟩
    intro o'' hfresh''
    have hsettle := UndoableTransferService.settle_returns (c := d.ctx o'') hinv' hf hs hk hto hr hu
      hreceiver hactive hv (husers ▸ hinv.standing.users a ha u hmay.owner) (hnote ▸ hmay.note) hfresh''
    obtain ⟨settlement, s₁, hok, hsome, hsettled⟩ := hsettle
    obtain ⟨settlement, rfl⟩ := Option.isSome_iff_exists.1 hsome
    refine ⟨settlement, s₁, result, s₂, hok, hdirect, ?_⟩
    rw [hsettled, hdirected, hposition, hout, hamount,
      Position.pay_through _ (hne a ha hat) (hne b hb hbt) hab]
    rfl

/-- Neither way accepts what the sender may not send. -/
theorem refused_alike (ha : a ∈ db.accounts.rows) (hb : b ∈ db.accounts.rows)
    (hcover : amount.minor ≤ a.balanceMinor) (hkey : UnusedKey (d.ctx o) db u key)
    (hday : Time.startOfDay (o.clock 1) = Time.startOfDay (o'.clock 0))
    (hmay : ¬SenderMay d.settings db a u amount note req (Time.startOfDay (o.clock 1))) :
    SendAgrees d db a b u amount key note req o o' := by
  have hsend : ∀ body s, send (d.ctx o) u a.id b.id amount key note req (begin db) ≠ .ok body s := by
    intro body s hok
    exact hmay (send_checks ha hcover hkey hok)
  refine ⟨⟨?_, ?_⟩, ?_⟩
  · intro h
    obtain ⟨body, s, hok⟩ := Outcome.succeeded_iff.1 h
    exact absurd hok (hsend body s)
  · intro h
    obtain ⟨result, s, hok⟩ := Outcome.succeeded_iff.1 h
    have hkey' : UnusedKey (d.ctx o') db u key := ⟨hkey.fits, hkey.send, hkey.hold⟩
    have hchecked := (direct_checks ha hb hkey' hok).1
    refine absurd ?_ hmay
    rw [hday]
    exact hchecked
  · intro body s hok
    exact absurd hok (hsend body s)

/-- A send its sender may make is accepted even when the receiver is not active, and the
    direct transfer is then refused. -/
theorem accepted_only_deferred (o' : Oracle) (hinv : db.Inv d)
    (hsha : ∀ x, (d.crypto.sha256 x).length = 64) (ha : a ∈ db.accounts.rows) (hat : a.accountType = .user) (hb : b ∈ db.accounts.rows)
    (hbt : b.accountType = .user) (hab : a.id ≠ b.id) (hcover : amount.minor ≤ a.balanceMinor)
    (hkey : UnusedKey (d.ctx o) db u key)
    (hmay : SenderMay d.settings db a u amount note req (Time.startOfDay (o.clock 1)))
    (hfresh : o.FreshFor 10 db) (hinactive : b.status ≠ .active) :
    (send (d.ctx o) u a.id b.id amount key note req (begin db)).succeeded = true ∧
      (execute (d.ctx o') (directCommand (d.ctx o') u a.id b.id amount key note req)
        (begin db)).succeeded = false := by
  obtain ⟨body, s, hsend, -⟩ :=
    send_returns (c := d.ctx o) hinv hsha ha hat hb hbt hab hcover hkey hmay hfresh
  refine ⟨Outcome.succeeded_iff.2 ⟨body, s, hsend⟩, ?_⟩
  rw [Bool.eq_false_iff]
  intro h
  obtain ⟨result, s', hdirect⟩ := Outcome.succeeded_iff.1 h
  have hkey' : UnusedKey (d.ctx o') db u key := ⟨hkey.fits, hkey.send, hkey.hold⟩
  exact hinactive (direct_checks ha hb hkey' hdirect).2

/-- In every reachable state, a covered send under an unused key agrees with the direct
    transfer exactly when the receiver is active, or the sender may not send it anyway. -/
theorem send_agrees_with_direct_iff (d : Deployment) (now : Time) (calls : List Call)
    (hsha : ∀ x, (d.crypto.sha256 x).length = 64) :
    let db := serveAll d calls (migrated now)
    ∀ a ∈ db.accounts.rows, ∀ b ∈ db.accounts.rows,
      a.accountType = .user → b.accountType = .user → a.id ≠ b.id →
      ∀ (u : Ulid) (amount : Money) (key : String) (note req : Option String) (o o' : Oracle),
        amount.minor ≤ a.balanceMinor → UnusedKey (d.ctx o) db u key →
        o.FreshFor 10 db → o'.FreshFor (8 + 10 * db.overdraftLoans.rows.length) db →
        Time.startOfDay (o.clock 1) = Time.startOfDay (o'.clock 0) →
        (SendAgrees d db a b u amount key note req o o' ↔ b.status = .active ∨
          ¬SenderMay d.settings db a u amount note req (Time.startOfDay (o.clock 1))) := by
  intro db a ha b hb hat hbt hab u amount key note req o o' hcover hkey hfresh hfresh' hday
  have hinv : db.Inv d := serveAll_inv d now calls
  obtain ⟨v, b', hb', -, hv⟩ := hinv.chart.owner (Table.find?_of_mem hb) hbt
  cases (Table.find?_of_mem hb).symm.trans hb'
  constructor
  · intro hagrees
    rw [or_iff_not_imp_right, not_not]
    intro hmay
    by_contra hinactive
    obtain ⟨hsend, hdirect⟩ := accepted_only_deferred o' hinv hsha ha hat hb hbt hab hcover hkey hmay
      hfresh hinactive
    rw [hagrees.1.1 hsend] at hdirect
    cases hdirect
  · intro hcond
    by_cases hmay : SenderMay d.settings db a u amount note req (Time.startOfDay (o.clock 1))
    · have hactive := hcond.resolve_right (not_not.2 hmay)
      exact settles_as_direct hinv hsha ha hat hb hbt hab hcover hkey hmay (hday ▸ hmay) hactive hv
        hfresh hfresh'
    · exact refused_alike ha hb hcover hkey hday hmay

end Agreement

namespace Sample

/-- The SHA-256 digests of what the runs below hash. -/
def sendingDigests : List (String × String) :=
  [("\x7b\"amountMinor\":10000000,\"userId\":\"000000000100000000000000Z9\"\x7d",
      "632ac5b3bd2099bd33f161e7edd4b476f8f4700c771ae774c151d9789c6fe0c6"),
    ("\x7b\"amountMinor\":10000000,\"userId\":\"000000000200000000000001YH\"\x7d",
      "081321be35a695dbbc076ac3e6d5e6af4c71c3233aebb3fc8cd669a4b032d333"),
    ("\x7b\"amountMinor\":10000000,\"userId\":\"000000000300000000000002XS\"\x7d",
      "dc81826144ec60d5d9277afeef7412c95ef3ade09dee64f2aae39bbb949a657e"),
    ("\x7b\"amountMinor\":5000,\"currency\":\"BDT\",\"description\":null," ++
      "\"sellerUserId\":\"000000000300000000000002XS\"\x7d",
      "50296018578167594dab0c445839d07b7d6df528b8584dd01b4deb93c577ec96"),
    ("\x7b\"amountMinor\":5000,\"holding\":\"00000000000000000000000001\"," ++
      "\"kind\":\"ESCROW_HOLD\",\"payer\":\"000000000200000000000001YM\"\x7d",
      "6bc72d52bb314612a95efff962195ba9457d88c52c102af052a1b7ae0b8dbd7a"),
    ("\x7b\"reason\":\"never sent\"\x7d",
      "42e00c7971ba6047c46bf5ec9a16a8662f0df59cc83241bdd136b41cf2a66f0e"),
    ("\x7b\"banBuyer\":true,\"decision\":\"RELEASE\",\"note\":\"sent\"\x7d",
      "7a8956b5be85d81fdb11efeb35d171c5c9ebd15a5cebeda1620136b81d2971ff"),
    ("\x7b\"hold\":\"000000000400000000000003X4\",\"outcome\":\"SUCCEEDED\"\x7d",
      "3b4b6d1fd738ae1da0cc581b3fc7e8b5dc45ab229350f69695177803808eeb14"),
    ("\x7b\"amountMinor\":5000,\"currency\":\"BDT\",\"note\":null," ++
      "\"receiverAccountId\":\"000000000200000000000001YM\"," ++
      "\"senderAccountId\":\"000000000100000000000000ZC\"\x7d",
      "c1005ccdf50acc44ca79f7a802e62d92a77fbc9e51a0dedd23e58c7e87cda71f"),
    ("\x7b\"clientKey\":\"k\"\x7d",
      "0ca1a5e7fb18af9983fc0beae06577bc001659896deccd305960fc8ed8a8bbe1"),
    ("\x7b\"amountMinor\":5000,\"holding\":\"00000000000000000000000002\"," ++
      "\"kind\":\"UNDO_HOLD\",\"payer\":\"000000000100000000000000ZC\"\x7d",
      "9e3bad85e4e94b75a6fa245e127dec77b502548cf1c9fc6aff0b52ab699a644c"),
    ("token-1-14",
      "d800179aeb40fc16ffed24e9f1f3982bf21cd51e3bd33faa82847e34df22a83b"),
    ("token-2-14",
      "ede6a15d2083ff61d848fd99c0be3e567ad72a5878296dcdb934f4d0e5b0814e"),
    ("token-3-14",
      "9d35085250185c84ab586e41ca0f279394b7c9dd346cf59e40738430cb335661")]

/-- SHA-256 on those texts; other texts are not told apart. -/
def digest (text : String) : String :=
  match sendingDigests.find? fun x => decide (x.1 = text) with
  | some x => x.2
  | none => .ofList (List.replicate 64 '0')

theorem length_digest (text : String) : (digest text).length = 64 := by
  have hall : ∀ x ∈ sendingDigests, x.2.length = 64 := by decide +kernel
  unfold digest
  split
  · rename_i x hfind
    exact hall x (List.mem_of_find?_eq_some hfind)
  · rw [String.length_ofList, List.length_replicate]

def digesting : Deployment := ⟨settings, crypto digest⟩

def people : List Call :=
  [register 1 "01711111111", register 2 "01722222222", register 3 "01733333333"]

/-- The second user buys from the third, disputes the order and loses: a ban. -/
def banned : List Call :=
  people ++ [call 4 (.createSafepay (id 2 1) "1234" "01733333333" (.fromMinor 5000) none "a" none),
    call 5 (.disputeSafepay (id 2 1) (id 4 2) "never sent" "b" none),
    call 6 (.resolveSafepay (id 4 2) .release "sent" true "c" none)]

/-- The second user's account is in status `status`, and the first user can send to it. -/
def ready (status : AccountStatus) (db : Database) : Bool :=
  (match db.accounts.find? (id 1 4), db.accounts.find? (id 2 4) with
    | some a, some b =>
      a.accountType == .user && b.accountType == .user && a.id != b.id && a.userId == some (id 1 1) &&
        a.status == .active && b.status == status && decide (5000 ≤ a.balanceMinor) &&
        decide (SqlTransferRepository.sentSince db a.id (Time.startOfDay start) = 0)
    | _, _ => false) &&
  (db.idempotencyRecords.find? ⟨id 1 1, SEND_ENDPOINT, "k"⟩).isNone &&
  (db.idempotencyRecords.find? ⟨id 1 1, UndoableTransferService.UNDO_HOLD_ENDPOINT,
    "undo-hold:" ++ derivedKey (digesting.ctx (oracle 20 start)) "k"⟩).isNone &&
  before 20 db && db.overdraftLoans.rows.length == 0

theorem people_ready : ready .active (serveAll digesting people (migrated start)) = true := by
  decide +kernel

theorem banned_ready : ready .closed (serveAll digesting banned (migrated start)) = true := by
  decide +kernel

/-- What the theorem below asks of a state. -/
theorem of_ready {status : AccountStatus} {db : Database} (h : ready status db = true) :
    ∃ a ∈ db.accounts.rows, ∃ b ∈ db.accounts.rows, a.accountType = .user ∧ b.accountType = .user ∧
      a.id ≠ b.id ∧ (5000 : Int) ≤ a.balanceMinor ∧ b.status = status ∧
      UnusedKey (digesting.ctx (oracle 20 start)) db (id 1 1) "k" ∧
      SenderMay settings db a (id 1 1) (.fromMinor 5000) none none
        (Time.startOfDay ((oracle 20 start).clock 0)) ∧
      (oracle 20 start).FreshFor 10 db ∧
      (oracle 20 start).FreshFor (8 + 10 * db.overdraftLoans.rows.length) db := by
  simp only [ready, Bool.and_eq_true, beq_iff_eq, Option.isNone_iff_eq_none] at h
  obtain ⟨⟨⟨⟨haccounts, hsend⟩, hhold⟩, hbefore⟩, hloans⟩ := h
  split at haccounts
  · rename_i a b ha hb
    simp only [Bool.and_eq_true, beq_iff_eq, bne_iff_ne, decide_eq_true_eq] at haccounts
    obtain ⟨⟨⟨⟨⟨⟨⟨hat, hbt⟩, hab⟩, hu⟩, hs⟩, hstatus⟩, hcover⟩, hsent⟩ := haccounts
    have hday : (oracle 20 start).clock 0 = start := by decide +kernel
    refine ⟨a, Table.mem_of_find? ha, b, Table.mem_of_find? hb, hat, hbt, hab, hcover, hstatus,
      ⟨by decide, hsend, hhold⟩, ?_, freshFor (by decide) (by decide) hbefore, ?_⟩
    · refine ⟨hu, hs, by decide, by decide, ?_, rfl, rfl⟩
      rw [hday, hsent]
      decide
    · rw [hloans]
      exact freshFor (by decide) (by decide) hbefore
  · cases haccounts

end Sample

/-- Between two active users, the send and the direct transfer agree. -/
theorem send_agrees_between_active_users :
    let db := serveAll Sample.digesting Sample.people (migrated Sample.start)
    ∃ a ∈ db.accounts.rows, ∃ b ∈ db.accounts.rows, a.id ≠ b.id ∧
      SendAgrees Sample.digesting db a b (Sample.id 1 1) (.fromMinor 5000) "k" none none
        (Sample.oracle 20 Sample.start) (Sample.oracle 20 Sample.start) := by
  have hiff := send_agrees_with_direct_iff Sample.digesting Sample.start Sample.people
    Sample.length_digest
  have hready := Sample.people_ready
  generalize serveAll Sample.digesting Sample.people (migrated Sample.start) = db at *
  obtain ⟨a, ha, b, hb, hat, hbt, hab, hcover, hstatus, hkey, -, hfresh, hfresh'⟩ :=
    Sample.of_ready hready
  exact ⟨a, ha, b, hb, hab, (hiff a ha b hb hat hbt hab _ _ _ _ _ _ _ hcover hkey hfresh hfresh'
    (congrArg Time.startOfDay rfl)).2 (.inl hstatus)⟩

/-- To a banned receiver the send is accepted, and the direct transfer is refused. -/
theorem send_accepted_for_banned_receiver :
    let db := serveAll Sample.digesting Sample.banned (migrated Sample.start)
    ∃ a ∈ db.accounts.rows, ∃ b ∈ db.accounts.rows, a.accountType = .user ∧ b.accountType = .user ∧
      a.id ≠ b.id ∧ (5000 : Int) ≤ a.balanceMinor ∧
      (send (Sample.digesting.ctx (Sample.oracle 20 Sample.start)) (Sample.id 1 1) a.id b.id
        (.fromMinor 5000) "k" none none (begin db)).succeeded = true ∧
      (execute (Sample.digesting.ctx (Sample.oracle 20 Sample.start))
        (directCommand (Sample.digesting.ctx (Sample.oracle 20 Sample.start)) (Sample.id 1 1) a.id b.id
          (.fromMinor 5000) "k" none none) (begin db)).succeeded = false ∧
      ¬SendAgrees Sample.digesting db a b (Sample.id 1 1) (.fromMinor 5000) "k" none none
        (Sample.oracle 20 Sample.start) (Sample.oracle 20 Sample.start) := by
  have hinv := serveAll_inv Sample.digesting Sample.start Sample.banned
  have hready := Sample.banned_ready
  generalize serveAll Sample.digesting Sample.banned (migrated Sample.start) = db at *
  obtain ⟨a, ha, b, hb, hat, hbt, hab, hcover, hstatus, hkey, hmay, hfresh, -⟩ :=
    Sample.of_ready hready
  have hinactive : b.status ≠ .active := by
    rw [hstatus]
    decide
  obtain ⟨hsend, hdirect⟩ := accepted_only_deferred (Sample.oracle 20 Sample.start) hinv
    Sample.length_digest ha hat hb hbt hab hcover hkey hmay hfresh hinactive
  refine ⟨a, ha, b, hb, hat, hbt, hab, hcover, hsend, hdirect, ?_⟩
  intro hagrees
  exact Bool.false_ne_true (hdirect.symm.trans (hagrees.1.1 hsend))

end MoneyMovement

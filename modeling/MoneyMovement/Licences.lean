/-
  MoneyMovement/Licences.lean
  ===========================
  **What each request is entitled to.**

  A `Warrant` is the reason for which the system posts a movement: which command
  it is, and which rows justify it at that moment.  There is one per feature,
  and a settlement leg has one for each of the two holding accounts.

  `licence` then says, request by request, which kinds of movement it may post
  and into which status it may put an escrow, a money request or a task, in
  terms of the request itself and of the database its transaction started from.
-/
import MoneyMovement.ExecuteSpec
import MoneyMovement.Requests

namespace MoneyMovement

open OverdraftService SafePayService

/-! ### Warrants -/

/-- The leg that settles an undo hold into a status. -/
def undoLegKind : TransferStatus → TransferKind
  | .succeeded => .undoSettle
  | _ => .undoRefund

/-- The leg that settles an escrow hold into a status. -/
def escrowLegKind : TransferStatus → TransferKind
  | .succeeded => .escrowRelease
  | _ => .escrowRefund

/-- Who a hold is paid to: its intended receiver, or its sender. -/
def PaidTo (hold : TransferRow) (toStatus : TransferStatus) (account : Ulid) : Prop :=
  toStatus = .succeeded ∧ hold.intendedReceiverAccountId = some account ∨
    toStatus = .refunded ∧ hold.senderAccountId = account

/-- Why the system posts a movement, and what it owes before and after. -/
inductive Warrant (c : Ctx) (db : Database) (p : Posting) : Duty → Duty → Prop where
  | grant {d : Duty} {u account : Ulid} {amount : Money} {req : Option String}
      (hc : p.cmd = OpenAccountUseCase.grantCommand c u account amount req)
      (ho : db.OwnedBy account u) : Warrant c db p d d
  | fund {d : Duty} {u account : Ulid} {pool : PoolRow} {amount : Money} {key note endpoint : String}
      {req : Option String}
      (hc : p.cmd = fundCommand c u account pool.id pool.poolAccountId amount key note req endpoint)
      (he : endpoint = "INTERNAL:/overdraft/fund" ∨
        endpoint = "POST:/api/v1/overdraft/pools/" ++ pool.id.text ++ "/fund")
      (hp : db.overdraftPools.find? pool.id = some pool) (ho : db.OwnedBy account u) :
      Warrant c db p d d
  | undoHold {d : Duty} {u account receiver v : Ulid} {amount : Money} {key : String}
      {note req : Option String}
      (hc : p.cmd = HoldingService.holdCommand c u account PENDING_SETTLEMENT_ACCOUNT_ID amount
        .undoHold .pendingUndo key note req receiver UndoableTransferService.UNDO_HOLD_ENDPOINT)
      (ho : db.OwnedBy account u) (hr : db.OwnedBy receiver v) : Warrant c db p d d
  | escrowHold {escrowId u account receiver v : Ulid} {amount : Money} {note req : Option String}
      (hc : p.cmd = SafePayService.holdCommand c escrowId u account receiver amount note req)
      (ho : db.OwnedBy account u) (hr : db.OwnedBy receiver v) :
      Warrant c db p .none (.openEscrow p.row)
  | draw {u account : Ulid} {grant : GrantRow} {pool : PoolRow} {shortfall : Int} {cur : Currency}
      {key : String} {req : Option String}
      (hc : p.cmd = drawCommand c pool u account shortfall cur key req)
      (hg : db.overdraftGrants.find? grant.id = some grant) (hb : grant.beneficiaryUserId = u)
      (hs : grant.status = .active) (hp : db.overdraftPools.find? grant.poolId = some pool)
      (hcap : shortfall ≤ grant.maxDrawMinor) (hmax : shortfall ≤ c.settings.overdraftMaxDrawMinor)
      (ho : db.OwnedBy account u) : Warrant c db p .none (.lend p.row)
  | request {record : MoneyRequestRow} {u : Ulid} {key : String} {req : Option String}
      (hc : p.cmd = MoneyRequestService.payCommand c record u key req)
      (hf : db.moneyRequests.find? record.id = some record) (hs : record.status = .pending) :
      Warrant c db p .none (.accept p.row record.id)
  | undoLeg {hold : TransferRow} {toStatus : TransferStatus} {account u : Ulid}
      {note req : Option String}
      (hc : p.cmd = HoldingService.legCommand c hold.id toStatus account
        PENDING_SETTLEMENT_ACCOUNT_ID (.fromMinor hold.amountMinor) (undoLegKind toStatus) u note req)
      (hf : db.transfers.find? hold.id = some hold) (hp : PaidTo hold toStatus account) :
      Warrant c db p (.pay hold.id .pendingUndo toStatus) .none
  | escrowLeg {hold : TransferRow} {e : EscrowRow} {toStatus : TransferStatus} {account u : Ulid}
      {note req : Option String}
      (hc : p.cmd = HoldingService.legCommand c hold.id toStatus account ESCROW_ACCOUNT_ID
        (.fromMinor e.amountMinor) (escrowLegKind toStatus) u note req)
      (hf : db.transfers.find? hold.id = some hold) (hp : PaidTo hold toStatus account)
      (he : db.safepayEscrows.find? e.id = some e) (hh : e.holdTransferId = hold.id) :
      Warrant c db p (.pay hold.id .held toStatus) (.closeEscrow p.row)

/-! ### Licences -/

/-- The kinds of movement a request posts, repayments of the lien apart. -/
def Request.posts : Request → TransferKind → Bool
  | .register .., k => k == .signupGrant
  | .createTransfer .., k => k == .overdraftDraw || k == .undoHold
  | .undoTransfer .., k => k == .undoRefund
  | .createPool .., k => k == .overdraftFund
  | .fundPool .., k => k == .overdraftFund
  | .createSafepay .., k => k == .escrowHold
  | .releaseSafepayCode .., k => k == .escrowRelease
  | .confirmSafepayReceived .., k => k == .escrowRelease
  | .courierWebhook .., k => k == .escrowRelease
  | .resolveSafepay .., k => k == .escrowRelease || k == .escrowRefund
  | .acceptRequest .., k => k == .requestSettlement
  | .runDueTasks, k => k == .undoSettle || k == .escrowRelease
  | _, _ => false

/-- A record a service answers itself: never one of an internal endpoint, and on the
    transfers endpoint only that of a send. -/
def Answerable (c : Ctx) (row : IdempotencyRow) : Prop :=
  (∃ rest, row.triple.endpoint = "POST:/" ++ rest) ∧
    (row.triple.endpoint = TRANSFER_ENDPOINT →
      ∃ x y m n, row.requestFingerprint = sendFingerprint c x y m n)

/-- Into which status a request may put an escrow. -/
def Request.escrow (c : Ctx) (db₀ : Database) : Request → Ulid → EscrowStatus → Prop
  | .shipSafepay user id .., e, status => e = id ∧ status = .shipped ∧
      ∃ x, db₀.safepayEscrows.find? id = some x ∧ x.sellerUserId = user ∧
        x.status = .awaitingShipment
  | .releaseSafepayCode user id code .., e, status => e = id ∧ status = .released ∧
      ∃ x, db₀.safepayEscrows.find? id = some x ∧ x.sellerUserId = user ∧
        acceptsCode x.status = true ∧ codeLocked x (c.oracle.clock 0) = false ∧
        c.crypto.argon2Verify x.deliveryCodeHash code = true
  | .confirmSafepayReceived user id .., e, status => e = id ∧ status = .released ∧
      ∃ x, db₀.safepayEscrows.find? id = some x ∧ x.buyerUserId = user ∧
        acceptsReceipt x.status = true
  | .disputeSafepay user id .., e, status => e = id ∧ status = .disputed ∧
      ∃ x, db₀.safepayEscrows.find? id = some x ∧ x.buyerUserId = user ∧
        SqlSafePayRepository.canEnterDispute x.status = true
  | .courierWebhook courier _ tracking releaseNow _, e, status =>
      (status = .delivered ∨ status = .released ∧ releaseNow = true) ∧
      ∃ x, db₀.safepayEscrows.find? e = some x ∧ x.courierSlug = some courier ∧
        x.trackingNumber = some tracking ∧ x.status = .shipped
  | .resolveSafepay id decision .., e, status => e = id ∧
      (decision = .release ∧ status = .released ∨ decision = .refund ∧ status = .refunded) ∧
      ∃ x, db₀.safepayEscrows.find? id = some x ∧ x.status = .disputed
  | .runDueTasks, e, status => status = .released ∧
      ∃ x, db₀.safepayEscrows.find? e = some x ∧ x.status = .delivered ∧
      ∃ t ∈ db₀.scheduledTasks.rows, t.taskType = .escrowAutoRelease ∧ t.resourceId = e ∧
        t.dueAt ≤ c.oracle.dbNow
  | _, _, _ => False

/-- The account belongs to the user. -/
def Database.Owner (db : Database) (account user : Ulid) : Prop :=
  ∃ a, db.accounts.find? account = some a ∧ a.userId = some user

/-- Which change of a money request a request may make. -/
def Request.request (c : Ctx) (db₀ : Database) : Request → MoneyRequestRow → MoneyRequestRow → Prop
  | .acceptRequest user _ id .., r, r' => r.id = id ∧ db₀.Owner r.payerAccountId user ∧
      r'.status = .accepted ∧ ∃ i, r'.respondedAt = some (c.oracle.clock i) ∧
        c.oracle.clock i < r.expiresAt
  | .rejectRequest user id _, r, r' => r.id = id ∧ db₀.Owner r.payerAccountId user ∧
      r'.status = .rejected
  | .cancelRequest user id _, r, r' => r.id = id ∧ db₀.Owner r.requesterAccountId user ∧
      r'.status = .cancelled
  | .expireDue, r, r' => r'.status = .expired ∧ ∃ i, r.expiresAt ≤ c.oracle.clock i
  | .runDueTasks, r, r' => r'.status = .expired ∧ ∃ i, r.expiresAt ≤ c.oracle.clock i
  | _, _, _ => False

/-- Which request may create a money request. -/
def Request.ask : Request → Prop
  | .createRequest .. => True
  | _ => False

/-- Which task a request may queue, and in which state. -/
def Request.task (c : Ctx) (db₀ : Database) : Request → Database → TaskRow → Prop
  | .createTransfer .., _, t => t.taskType = .undoSettle
  | .courierWebhook _ _ _ releaseNow _, db, t => t.taskType = .escrowAutoRelease ∧
      releaseNow = false ∧
      t.dueAt = c.oracle.dbNow + Time.seconds (c.settings.safepayAutoReleaseHours * 3600) ∧
      (∃ x, db₀.safepayEscrows.find? t.resourceId = some x ∧ x.status = .shipped) ∧
      ∃ x, db.safepayEscrows.find? t.resourceId = some x ∧ x.status = .delivered
  | _, _, _ => False

/-- The licence of a request whose transaction starts from `db₀`. -/
def licence (c : Ctx) (db₀ : Database) (req : Request) : Licence where
  post := fun db d p d' => Warrant c db p d d' ∧ req.posts p.cmd.kind = true
  answer := Answerable c
  escrow := req.escrow c db₀
  ask := req.ask
  request := req.request c db₀
  task := req.task c db₀

/-- The licence covers movements of a kind. -/
def Licence.Covers (c : Ctx) (L : Licence) (kind : TransferKind) : Prop :=
  ∀ (db : Database) (d : Duty) (p : Posting) (d' : Duty), p.cmd.kind = kind → Warrant c db p d d' →
    L.post db d p d'

theorem licence_covers {c : Ctx} {db₀ : Database} {req : Request} {kind : TransferKind}
    (h : req.posts kind = true) : (licence c db₀ req).Covers c kind := by
  intro db d p d' hk hw
  exact ⟨hw, hk ▸ h⟩

end MoneyMovement

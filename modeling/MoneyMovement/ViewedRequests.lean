/-
  MoneyMovement/ViewedRequests.lean
  =================================
  **The other services, in two runs that a view does not tell apart.**

  Safe-Pay, money requests, identity and the scheduler.  A locked escrow differs
  from its copy in its code hash at most, which nothing reads but the check of a
  delivery code; the two commands that deal with the code itself are left to the
  module that says how the codes of the two runs differ.
-/
import MoneyMovement.ViewedTransfers
import MoneyMovement.Requests

namespace MoneyMovement

open Txn

section Services

variable {v : View} {c : Ctx} {g : String → String → Nat}

theorem SqlUserRepository.modifyUser_agree (u : Ulid) (f : UserRow → UserRow)
    (hf : ∀ r, (f r).id = r.id) :
    v.Agree (SqlUserRepository.modifyUser c u f hf) (SqlUserRepository.modifyUser (c.recoded g) u f hf) :=
  View.Agree.write (f := fun db => { db with
    users := db.users.modifyAt u (fun r => { f r with updatedAt := c.oracle.dbNow }) hf })
    fun _ _ _ _ _ => rfl

/-! ### Safe-Pay -/

namespace SafePayService

theorem complete_agree {triple triple' : IdempotencyTriple} (hk : v.triple triple triple') (id : Ulid)
    (body : Body) (now : Time) (status : Nat) :
    v.Agree (complete triple id body now status) (complete triple' id body now status) :=
  SqlIdempotencyRepository.complete_agree hk _ _ _ _

theorem auditEvent_agree (actor id : Ulid) (action : String) (req : Option String)
    (metadata : Payload) :
    v.Agree (auditEvent c actor id action req metadata)
      (auditEvent (c.recoded g) actor id action req metadata) :=
  .andThen now_agree fun _ => SqlAuditRepository.record_agree _ _ _ _ _ _ _

theorem stateCommand_agree {triple triple' : IdempotencyTriple} (hk : v.triple triple triple')
    (payload : Payload) {once once' : Time → Tx (Ulid × Body)}
    (honce : ∀ now, v.Agree (once now) (once' now)) :
    v.Agree (stateCommand c triple payload once) (stateCommand (c.recoded g) triple' payload once') := by
  refine .andThen now_agree fun t => ?_
  refine .andThen (SqlIdempotencyRepository.reserve_agree hk _ _) fun decision => ?_
  refine .andThen (replayBodyOrRaise_agree _) fun replay => ?_
  cases replay with
  | some body => exact .pure rfl
  | none =>
    refine .andThen (honce t) fun result => ?_
    exact .andThen (complete_agree hk _ _ _ _) fun _ => .pure rfl

theorem releaseLocked_agree (hlegs : v.Legs) (r : EscrowRow) (h : String) (actor : Ulid)
    (reason : String) (req note : Option String) :
    v.Agree (releaseLocked c r actor reason req note)
      (releaseLocked (c.recoded g) (r.withHash h) actor reason req note) := by
  refine .andThen (SqlTransferRepository.get_agree _) fun found => ?_
  refine .andThen (.orRaise _ _) fun hold => .andThen (.orRaise _ _) fun receiver => ?_
  refine .andThen (HoldingService.settle_agree hlegs _ _ _ _ _ _ _ _ _ _ _) fun settlement => ?_
  refine .andThen now_agree fun t => ?_
  refine .andThen (SqlSafePayRepository.markSettled_agree _ _ _ _ _ _) fun n => ?_
  refine .andThen (.ensure _ _) fun _ => ?_
  refine .andThen (SqlScheduledTaskRepository.cancel_agree _ _) fun _ => ?_
  exact .andThen (auditEvent_agree _ _ _ _ _) fun _ => .pure rfl

theorem refundLocked_agree (hlegs : v.Legs) (r : EscrowRow) (h reason : String) (req : Option String)
    (note : String) :
    v.Agree (refundLocked c r reason req note)
      (refundLocked (c.recoded g) (r.withHash h) reason req note) := by
  refine .andThen (SqlTransferRepository.get_agree _) fun found => .andThen (.orRaise _ _) fun hold => ?_
  refine .andThen (HoldingService.settle_agree hlegs _ _ _ _ _ _ _ _ _ _ _) fun settlement => ?_
  refine .andThen now_agree fun t => ?_
  refine .andThen (SqlSafePayRepository.markSettled_agree _ _ _ _ _ _) fun n => ?_
  exact .andThen (.ensure _ _) fun _ => .pure rfl

theorem markShipped_agree {id seller : Ulid} {courier tracking key key' : String}
    {req : Option String}
    (hk : v.triple ⟨seller, "POST:/api/v1/safepay/" ++ id.text ++ "/ship", key⟩
      ⟨seller, "POST:/api/v1/safepay/" ++ id.text ++ "/ship", key'⟩) :
    v.Agree (markShipped c id seller courier tracking key req)
      (markShipped (c.recoded g) id seller courier tracking key' req) := by
  refine stateCommand_agree hk _ fun t => ?_
  refine .andThen (SqlSafePayRepository.markShipped_agree _ _ _ _ _) fun n => ?_
  refine .andThen (.ensure _ _) fun _ => ?_
  exact .andThen (auditEvent_agree _ _ _ _ _) fun _ => .pure rfl

theorem dispute_agree {id buyer : Ulid} {reason key key' : String} {req : Option String}
    (hk : v.triple ⟨buyer, "POST:/api/v1/safepay/" ++ id.text ++ "/dispute", key⟩
      ⟨buyer, "POST:/api/v1/safepay/" ++ id.text ++ "/dispute", key'⟩) :
    v.Agree (dispute c id buyer reason key req) (dispute (c.recoded g) id buyer reason key' req) := by
  refine stateCommand_agree hk _ fun t => ?_
  refine .andThen (SqlSafePayRepository.markDisputed_agree _ _ _ _) fun n => ?_
  refine .andThen (.ensure _ _) fun _ => ?_
  refine .andThen (SqlScheduledTaskRepository.cancel_agree _ _) fun _ => ?_
  exact .andThen (auditEvent_agree _ _ _ _ _) fun _ => .pure rfl

/-- The order a party asks for, found in both runs or in neither. -/
theorem lockedOrder_agree (id : Ulid) {p : EscrowRow → Bool} (hp : ∀ r h, p (r.withHash h) = p r)
    (e : AppError) {α : Type} {f f' : EscrowRow → Tx α}
    (hf : ∀ r h, r.id = id → v.hash r.id r.deliveryCodeHash h → v.Agree (f r) (f' (r.withHash h))) :
    v.Agree (SqlSafePayRepository.lock id >>= fun found => orRaise (found.filter p) e >>= f)
      (SqlSafePayRepository.lock id >>= fun found => orRaise (found.filter p) e >>= f') := by
  refine .bind (SqlSafePayRepository.lock_agree id) fun found found' hfound => ?_
  refine .bind (V := fun r r' => r.Alike v.hash r' ∧ r.id = id) (.orRaise_rel ?_ e) ?_
  · cases hfound with
    | none => exact .none
    | @some r r' hr =>
      have halike := hr
      obtain ⟨⟨h, rfl, -⟩, -⟩ := hr
      rw [Option.filter_some, Option.filter_some, hp]
      split
      · exact .some halike
      · exact .none
  · rintro r _ ⟨⟨h, rfl, hhash⟩, hid⟩
    exact hf r h hid hhash

theorem confirmReceived_agree (hlegs : v.Legs) {id buyer : Ulid} {key key' : String}
    {req : Option String}
    (hk : v.triple ⟨buyer, "POST:/api/v1/safepay/" ++ id.text ++ "/confirm-received", key⟩
      ⟨buyer, "POST:/api/v1/safepay/" ++ id.text ++ "/confirm-received", key'⟩) :
    v.Agree (confirmReceived c id buyer key req) (confirmReceived (c.recoded g) id buyer key' req) := by
  refine stateCommand_agree hk _ fun t => ?_
  refine lockedOrder_agree id (fun _ _ => rfl) _ fun r h _ _ => ?_
  refine .andThen (.ensure _ _) fun _ => ?_
  exact .andThen (releaseLocked_agree hlegs r h _ _ _ _) fun body => .pure rfl

theorem deliver_agree (hlegs : v.Legs) (r : EscrowRow) (h courier : String) (immediately : Bool)
    (now : Time) :
    v.Agree (deliver c r courier immediately now)
      (deliver (c.recoded g) (r.withHash h) courier immediately now) := by
  refine .andThen (SqlSafePayRepository.markDelivered_agree _ _ _) fun n => ?_
  refine .andThen (.ensure _ _) fun _ => ?_
  refine .bind (SqlSafePayRepository.lock_agree _) fun found found' hfound => ?_
  refine .bind (.orRaise_rel hfound _) ?_
  rintro r' _ ⟨⟨h', rfl, -⟩, -⟩
  refine .ite _ (releaseLocked_agree hlegs r' h' _ _ _ _) ?_
  exact .andThen (SqlScheduledTaskRepository.schedule_agree _ _ _) fun _ => .pure rfl

theorem courierEvent_agree (hlegs : v.Legs) (r : EscrowRow) (h courier : String) (immediately : Bool)
    (now : Time) :
    v.Agree (courierEvent c r courier immediately now)
      (courierEvent (c.recoded g) (r.withHash h) courier immediately now) := by
  have hstatus : (r.withHash h).status = r.status := rfl
  unfold courierEvent
  rw [hstatus]
  cases r.status with
  | shipped => exact deliver_agree hlegs r h _ _ _
  | released => exact .pure rfl
  | refunded => exact .pure rfl
  | disputed => exact .pure rfl
  | awaitingShipment => exact .raise _
  | delivered => exact .raise _
  | cancelled => exact .raise _

theorem courierDelivered_agree (hlegs : v.Legs) {courier tracking event : String} (immediately : Bool)
    (hk : ∀ r, v.triple (courierTriple r courier event) (courierTriple r courier event)) :
    v.Agree (courierDelivered c courier tracking event immediately)
      (courierDelivered (c.recoded g) courier tracking event immediately) := by
  refine .bind (SqlSafePayRepository.findByTracking_agree _ _) fun found found' hfound => ?_
  refine .bind (.orRaise_rel hfound _) ?_
  rintro r _ ⟨h, rfl, -⟩
  refine .andThen now_agree fun t => ?_
  refine .andThen (SqlIdempotencyRepository.reserve_agree (hk r) _ _) fun decision => ?_
  refine .andThen (replayBodyOrRaise_agree _) fun replay => ?_
  cases replay with
  | some body => exact .pure rfl
  | none =>
    refine .andThen (courierEvent_agree hlegs r h _ _ _) fun body => ?_
    exact .andThen (complete_agree (hk r) _ _ _ _) fun _ => .pure rfl

/-- The release by code, when both runs come to the same verdict on the code. -/
theorem releaseWithCode_agree (hlegs : v.Legs) {id seller : Ulid} {code key key' : String}
    {req : Option String}
    (hk : v.triple (releaseCodeTriple id seller key) (releaseCodeTriple id seller key'))
    (hverdict : ∀ (r : EscrowRow) (h : String), r.id = id → v.hash r.id r.deliveryCodeHash h →
      c.crypto.argon2Verify r.deliveryCodeHash code = c.crypto.argon2Verify h code) :
    v.Agree (releaseWithCode c id seller code key req)
      (releaseWithCode (c.recoded g) id seller code key' req) := by
  refine .andThen now_agree fun t => ?_
  refine .andThen (SqlIdempotencyRepository.reserve_agree hk _ _) fun decision => ?_
  refine .andThen (replayBodyOrRaise_agree _) fun replay => ?_
  cases replay with
  | some body => exact .pure rfl
  | none =>
    refine lockedOrder_agree id (fun _ _ => rfl) _ fun r h hid hhash => ?_
    have hsame : (c.recoded g).crypto.argon2Verify (r.withHash h).deliveryCodeHash code =
        c.crypto.argon2Verify r.deliveryCodeHash code := (hverdict r h hid hhash).symm
    refine .andThen (.ensure _ _) fun _ => ?_
    unfold releaseWithCodeLocked
    rw [hsame]
    refine .ite _ (.andThen (complete_agree hk _ _ _ _) fun _ => .pure rfl) (.ite _ ?_ ?_)
    · refine .andThen (SqlSafePayRepository.recordCodeFailure_agree _ _ _ _) fun _ => ?_
      exact .andThen (complete_agree hk _ _ _ _) fun _ => .pure rfl
    · refine .andThen (releaseLocked_agree hlegs r h _ _ _ _) fun body => ?_
      exact .andThen (complete_agree hk _ _ _ _) fun _ => .pure rfl

theorem autoRelease_agree (hlegs : v.Legs) (id : Ulid) :
    v.Agree (autoRelease c id) (autoRelease (c.recoded g) id) := by
  refine .bind (SqlSafePayRepository.lock_agree id) fun found found' hfound => ?_
  cases hfound with
  | none => exact .pure rfl
  | @some r r' hr =>
    obtain ⟨⟨h, rfl, -⟩, -⟩ := hr
    refine .ite _ (.pure rfl) ?_
    exact .andThen (releaseLocked_agree hlegs r h _ _ _ _) fun body => .pure rfl

theorem banBuyer_agree (u : Ulid) : v.Agree (banBuyer c u) (banBuyer (c.recoded g) u) := by
  refine .andThen (SqlUserRepository.modifyUser_agree _ _ _) fun _ => ?_
  refine .andThen (SqlAccountRepository.getByUserId_agree u) fun found => ?_
  cases found with
  | none => exact .andThen now_agree fun t => View.Agree.write fun _ _ _ _ _ => rfl
  | some account =>
    refine .andThen (SqlAccountRepository.setStatus_agree _ _) fun _ => ?_
    exact .andThen now_agree fun t => View.Agree.write fun _ _ _ _ _ => rfl

theorem resolveDispute_agree (hlegs : v.Legs) {id : Ulid} {key key' : String} (decision : Decision)
    (note : String) (ban : Bool) (req : Option String)
    (hk : v.triple ⟨id, "POST:/api/v1/admin/safepay/" ++ id.text ++ "/resolve", key⟩
      ⟨id, "POST:/api/v1/admin/safepay/" ++ id.text ++ "/resolve", key'⟩) :
    v.Agree (resolveDispute c id decision note ban key req)
      (resolveDispute (c.recoded g) id decision note ban key' req) := by
  refine stateCommand_agree hk _ fun t => ?_
  refine .bind (SqlSafePayRepository.lock_agree _) fun found found' hfound => ?_
  refine .bind (.orRaise_rel hfound _) ?_
  rintro r _ ⟨⟨h, rfl, -⟩, -⟩
  refine .andThen (.ensure _ _) fun _ => ?_
  cases decision with
  | release =>
    refine .andThen (releaseLocked_agree hlegs r h _ _ _ _) fun body => ?_
    exact .ite _ (.andThen (banBuyer_agree _) fun _ => .pure rfl) (.pure rfl)
  | refund => exact .andThen (refundLocked_agree hlegs r h _ _ _) fun body => .pure rfl

end SafePayService

/-! ### Money requests -/

namespace MoneyRequestService

theorem create_agree (u : Ulid) (phone : String) (amount : Money) (note req : Option String) :
    v.Agree (create c u phone amount note req) (create (c.recoded g) u phone amount note req) := by
  refine .andThen now_agree fun t => ?_
  refine .andThen (SqlAccountRepository.getByUserId_agree u) fun found => ?_
  refine .andThen (.orRaise _ _) fun requester => ?_
  refine .andThen (SqlAccountRepository.getByPhone_agree phone) fun foundPayer => ?_
  refine .andThen (.orRaise _ _) fun payer => ?_
  refine .andThen (.ensure _ _) fun _ => .andThen (.ensure _ _) fun _ => ?_
  refine .andThen (.ensure _ _) fun _ => .andThen (.ensure _ _) fun _ => ?_
  refine .andThen newUlid_agree fun id => .andThen (generateReference_agree _ _) fun reference => ?_
  refine .andThen (.andThen (.ensure _ _) fun _ => ?_) fun _ => ?_
  · exact View.Agree.insert (fun _ _ _ _ _ => rfl) (fun _ _ _ _ _ _ => rfl) fun _ _ _ _ _ => rfl
  refine .andThen (SqlOutboxPublisher.append_agree _ _ _ _ _) fun event => ?_
  exact .andThen (SqlAuditRepository.record_agree _ _ _ _ _ _ _) fun _ => .pure rfl

theorem settle_agree (r : MoneyRequestRow) (u : Ulid) {key key' : String} (req : Option String)
    (now : Time) (hk : v.triple ⟨u, TRANSFER_ENDPOINT, key⟩ ⟨u, TRANSFER_ENDPOINT, key'⟩) :
    v.Agree (settle c r u key req now) (settle (c.recoded g) r u key' req now) := by
  refine .andThen (execute_agree key' hk) fun transfer => ?_
  refine .andThen ?_ fun n => .andThen (.ensure _ _) fun _ => ?_
  · exact View.Agree.update (fun _ _ _ _ _ => rfl) (fun _ _ _ _ _ _ => rfl) fun _ _ _ _ _ _ => rfl
  refine .andThen (SqlOutboxPublisher.append_agree _ _ _ _ _) fun event => ?_
  exact .andThen (SqlAuditRepository.record_agree _ _ _ _ _ _ _) fun _ => .pure rfl

theorem markTerminal_agree (id : Ulid) (status : RequestStatus) (now : Time) :
    v.Agree (SqlMoneyRequestRepository.markTerminal id status now)
      (SqlMoneyRequestRepository.markTerminal id status now) :=
  View.Agree.update (fun _ _ _ _ _ => rfl) (fun _ _ _ _ _ _ => rfl) fun _ _ _ _ _ _ => rfl

theorem accept_agree {id u : Ulid} {key key' : String} {req : Option String}
    (hk : v.triple ⟨u, TRANSFER_ENDPOINT, key⟩ ⟨u, TRANSFER_ENDPOINT, key'⟩) :
    v.Agree (accept c id u key req) (accept (c.recoded g) id u key' req) := by
  refine .andThen now_agree fun t => ?_
  refine .andThen (View.Agree.read fun _ _ _ _ _ => rfl) fun found => ?_
  refine .andThen (.orRaise _ _) fun record => ?_
  refine .andThen (SqlAccountRepository.getById_agree _) fun payer => ?_
  refine .andThen (.ensure _ _) fun _ => .andThen (.ensure _ _) fun _ => ?_
  refine .ite _ (.andThen (markTerminal_agree _ _ _) fun _ => .raise _) ?_
  exact settle_agree record u req t hk

theorem terminate_agree (role : Role) (id u : Ulid) (req : Option String) :
    v.Agree (terminate c role id u req) (terminate (c.recoded g) role id u req) := by
  refine .andThen now_agree fun t => ?_
  refine .andThen (View.Agree.read fun _ _ _ _ _ => rfl) fun found => ?_
  refine .andThen (.orRaise _ _) fun record => ?_
  refine .andThen (SqlAccountRepository.getById_agree _) fun account => ?_
  refine .andThen (.ensure _ _) fun _ => .andThen (markTerminal_agree _ _ _) fun n => ?_
  refine .andThen (.ensure _ _) fun _ => .andThen ?_ fun _ => ?_
  · cases role with
    | payer => exact .andThen (SqlOutboxPublisher.append_agree _ _ _ _ _) fun _ => .pure rfl
    | requester => exact .pure rfl
  · exact .andThen (SqlAuditRepository.record_agree _ _ _ _ _ _ _) fun _ => .pure rfl

theorem expireDue_agree : v.Agree (expireDue c) (expireDue (c.recoded g)) := by
  refine .andThen now_agree fun t => ?_
  refine .andThen (View.Agree.read fun _ _ _ _ _ => rfl) fun n => ?_
  exact .andThen (View.Agree.write fun _ _ _ _ _ => rfl) fun _ => .pure rfl

end MoneyRequestService

/-! ### Identity -/

namespace AuthService

theorem issueSession_agree (u : Ulid) (now : Time) (client : ClientContext) :
    v.Agree (issueSession c u now client) (issueSession (c.recoded g) u now client) := by
  refine .andThen newUlid_agree fun id => .andThen tokenUrlsafe_agree fun raw => ?_
  refine .andThen (.andThen (.ensure _ _) fun _ => ?_) fun _ => .pure rfl
  exact View.Agree.insert (fun _ _ _ _ _ => rfl) (fun _ _ _ _ _ _ => rfl) fun _ _ _ _ _ => rfl

theorem createUser_agree (row : UserRow) : v.Agree (createUser row) (createUser row) := by
  refine .andThen (.attempt (.andThen (.ensure _ _) fun _ => ?_)) fun outcome => ?_
  · exact View.Agree.insert (fun _ _ _ _ _ => rfl) (fun _ _ _ _ _ _ => rfl) fun _ _ _ _ _ => rfl
  · cases outcome with
    | ok _ => exact .pure rfl
    | error e => exact .ite _ (.raise _) (.raise _)

/-- The view takes the opening grant of a new user for the same in both runs. -/
def Openings (v : View) : Prop :=
  ∀ u : Ulid, v.triple ⟨u, TRANSFER_ENDPOINT, "signup-grant:" ++ u.text⟩
    ⟨u, TRANSFER_ENDPOINT, "signup-grant:" ++ u.text⟩

theorem openAccount_agree (hopen : Openings v) (u : Ulid) (opening : Money) (number : String)
    (now : Time) (req : Option String) :
    v.Agree (OpenAccountUseCase.execute c u opening number now req)
      (OpenAccountUseCase.execute (c.recoded g) u opening number now req) := by
  refine .andThen newUlid_agree fun account => ?_
  refine .andThen (SqlAccountRepository.createSubaccount_agree _ _ _ _ _ _) fun _ => ?_
  refine .andThen (.ite _ ?_ (.pure rfl)) fun _ => .pure rfl
  exact .andThen (execute_agree_same (hopen u)) fun _ => .pure rfl

theorem register_agree (hopen : Openings v) (phone name password pin : String)
    (req : Option String) (client : ClientContext) :
    v.Agree (register c phone name password pin req client)
      (register (c.recoded g) phone name password pin req client) := by
  refine .andThen now_agree fun t => .andThen newUlid_agree fun u => ?_
  refine .andThen (hashPassword_agree _) fun passwordHash => ?_
  refine .andThen (hashPassword_agree _) fun pinHash => ?_
  refine .andThen (createUser_agree _) fun _ => ?_
  refine .andThen (openAccount_agree hopen _ _ _ _ _) fun account => ?_
  exact .andThen (issueSession_agree _ _ _) fun issued => .pure rfl

theorem login_agree (phone password : String) (client : ClientContext) :
    v.Agree (login c phone password client) (login (c.recoded g) phone password client) := by
  refine .andThen now_agree fun t => ?_
  refine .andThen (View.Agree.read fun _ _ _ _ _ => rfl) fun found => ?_
  cases found with
  | none => exact .andThen (hashPassword_agree _) fun _ => .raise _
  | some user =>
    refine .andThen (.ensure _ _) fun _ => .andThen (.ensure _ _) fun _ => ?_
    refine .andThen (.ite _ ?_ (.pure rfl)) fun _ => ?_
    · exact .andThen (hashPassword_agree _) fun _ => SqlUserRepository.modifyUser_agree _ _ _
    · exact .andThen (issueSession_agree _ _ _) fun issued => .pure rfl

theorem refresh_agree (token : String) (client : ClientContext) :
    v.Agree (refresh c token client) (refresh (c.recoded g) token client) := by
  refine .andThen now_agree fun t => ?_
  refine .andThen (View.Agree.read fun _ _ _ _ _ => rfl) fun found => ?_
  cases found with
  | none => exact .raise _
  | some record =>
    refine .ite _ (.andThen (View.Agree.write fun _ _ _ _ _ => rfl) fun _ => .raise _) ?_
    refine .andThen (.ensure _ _) fun _ => .andThen (issueSession_agree _ _ _) fun issued => ?_
    refine .andThen (.andThen ?_ fun _ => .pure rfl) fun _ => .pure rfl
    exact View.Agree.update (fun _ _ _ _ _ => rfl) (fun _ _ _ _ _ _ => rfl) fun _ _ _ _ _ _ => rfl

theorem logout_agree (token : String) : v.Agree (logout c token) (logout (c.recoded g) token) := by
  refine .andThen now_agree fun t => ?_
  refine .andThen (View.Agree.read fun _ _ _ _ _ => rfl) fun found => ?_
  cases found with
  | none => exact .pure rfl
  | some record =>
    refine .andThen ?_ fun _ => .pure rfl
    exact View.Agree.update (fun _ _ _ _ _ => rfl) (fun _ _ _ _ _ _ => rfl) fun _ _ _ _ _ _ => rfl

theorem verifyPin_agree (u : Ulid) (pin : String) :
    v.Agree (verifyPin c u pin) (verifyPin (c.recoded g) u pin) := by
  refine .andThen now_agree fun t => ?_
  refine .andThen (View.Agree.read fun _ _ _ _ _ => rfl) fun found => ?_
  refine .andThen (.orRaise _ _) fun user => .andThen (.ensure _ _) fun _ => ?_
  refine .ite _ (.ite _ (.pure rfl) (SqlUserRepository.modifyUser_agree _ _ _)) ?_
  refine .andThen (SqlUserRepository.modifyUser_agree _ _ _) fun _ => ?_
  have hlock : pinLockAfter (c.recoded g) (user.pinFailedAttempts + 1) t =
      pinLockAfter c (user.pinFailedAttempts + 1) t := rfl
  rw [hlock]
  cases pinLockAfter c (user.pinFailedAttempts + 1) t with
  | some until_ => exact .raise _
  | none => exact .raise _

end AuthService

/-- The PIN check and the operation behind it. -/
theorem runPinProtected_agree {α : Type} {V : α → α → Prop} (u : Ulid) (pin : String)
    {op op' : Tx α} (hop : Lockstep v.Sessions V op op') :
    Lockstep v.Sessions (fun r r' => r = r' ∨ ∃ a a', r = .ok a ∧ r' = .ok a' ∧ V a a')
      (runPinProtected c u pin op) (runPinProtected (c.recoded g) u pin op') := by
  refine .andThen (.attempt (AuthService.verifyPin_agree u pin)) fun outcome => ?_
  cases outcome with
  | ok _ => exact .bind hop fun a a' ha => .pure (.inr ⟨a, a', rfl, rfl, ha⟩)
  | error e => exact .ite _ (.pure (.inl rfl)) (.raise _)

/-! ### The scheduler -/

namespace Scheduler

theorem perform_agree (hlegs : v.Legs) (task : TaskRow) :
    v.Agree (perform c task) (perform (c.recoded g) task) := by
  refine .andThen ?_ fun _ => SqlScheduledTaskRepository.complete_agree _
  unfold Scheduler.handle
  cases task.taskType with
  | undoSettle => exact .andThen (UndoableTransferService.settle_agree hlegs _) fun _ => .pure rfl
  | escrowAutoRelease => exact .andThen (SafePayService.autoRelease_agree hlegs _) fun _ => .pure rfl
  | moneyRequestExpiry => exact .andThen MoneyRequestService.expireDue_agree fun _ => .pure rfl
  | linkExpiry => exact .pure rfl

theorem runTask_agree (hlegs : v.Legs) (task : TaskRow) :
    v.Agree (runTask c task) (runTask (c.recoded g) task) := by
  refine .andThen (.savepoint (perform_agree hlegs task) ?_) fun outcome => ?_
  · intro s s' s₁ s₁' hs hs₁
    exact ⟨hs₁.draws, hs.locks, hs.db⟩
  · cases outcome with
    | ok _ => exact .pure rfl
    | error e => exact .andThen (SqlScheduledTaskRepository.recordFailure_agree _ _ _ _) fun _ => .pure rfl

theorem runTasks_agree (hlegs : v.Legs) (tasks : List TaskRow) :
    v.Agree (runTasks c tasks) (runTasks (c.recoded g) tasks) := by
  induction tasks with
  | nil => exact .pure rfl
  | cons task tasks ih =>
    exact .andThen (runTask_agree hlegs task) fun n => .andThen ih fun m => .pure rfl

theorem runDueTasks_agree (hlegs : v.Legs) (hseen : ∀ id, ¬v.ignored id) :
    v.Agree (runDueTasks c) (runDueTasks (c.recoded g)) :=
  .andThen (SqlScheduledTaskRepository.claimDue_agree hseen _) fun tasks => runTasks_agree hlegs tasks

end Scheduler

end Services

end MoneyMovement

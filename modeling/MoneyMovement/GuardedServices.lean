/-
  MoneyMovement/GuardedServices.lean
  ==================================
  **The services and the guards.**

  Every command keeps every guard, but for the two checks that count: the PIN
  check keeps those of the delivery codes, and the release by code those of the
  PINs.  The escrow statuses decide here: no transition leads back to a status in
  which a code is accepted.
-/
import MoneyMovement.Guards

namespace MoneyMovement

open Txn Lockout SafePayService

variable {c : Ctx}

/-! ### Holds and Spot-Me -/

theorem HoldingService.settle_keeps (hold : Ulid) (reference : Reference)
    (source target : TransferStatus) (beneficiary holding : Ulid) (amount : Money) (kind : TransferKind)
    (actor : Ulid) (note req : Option String) :
    Keeps (settle c hold reference source target beneficiary holding amount kind actor note req) :=
  .bind (SqlTransferRepository.tryTransitionStatus_keeps _ _ _) fun _ => .bind (.ensure _ _) fun _ =>
    execute_keeps _

namespace UndoableTransferService

theorem send_keeps (u sender receiver : Ulid) (amount : Money) (key : String)
    (note req : Option String) (endpoint : String) :
    Keeps (send c u sender receiver amount key note req endpoint) := by
  refine .bind (execute_keeps _) fun hold => .bind (.ite _ (.pure _) ?_) fun _ => .pure _
  exact SqlScheduledTaskRepository.schedule_keeps _ _ _

theorem requireHold_keeps (id : Ulid) : Keeps (requireHold id) :=
  .bind (.query _) fun _ => .bind (.orRaise _ _) fun _ => .bind (.ensure _ _) fun _ => .pure _

theorem undo_keeps (id u : Ulid) (key : String) (req : Option String) :
    Keeps (undo c id u key req) := by
  refine .bind now_keeps fun t => .bind (SqlIdempotencyRepository.reserve_keeps _ _ _) fun decision => ?_
  refine .bind (replayBodyOrRaise_keeps _) fun replay => ?_
  cases replay with
  | some body => exact .pure _
  | none =>
    refine .bind (requireHold_keeps id) fun hold => .bind (.query _) fun sender => ?_
    refine .bind (.ensure _ _) fun _ => ?_
    refine .bind (HoldingService.settle_keeps _ _ _ _ _ _ _ _ _ _ _) fun settlement => ?_
    refine .bind (SqlScheduledTaskRepository.cancel_keeps _ _) fun _ => ?_
    exact .bind (SqlIdempotencyRepository.complete_keeps _ _ _ _ _) fun _ => .pure _

theorem settle_keeps (id : Ulid) : Keeps (settle c id) := by
  refine .bind (.query _) fun found => ?_
  cases found with
  | none => exact .pure _
  | some hold =>
    refine .ite _ (.pure _) ?_
    refine .bind (.orRaise _ _) fun receiver => .bind (.orRaise _ _) fun actor => ?_
    exact .bind (HoldingService.settle_keeps _ _ _ _ _ _ _ _ _ _ _) fun _ => .pure _

end UndoableTransferService

namespace OverdraftService

theorem complete_keeps (triple : IdempotencyTriple) (id : Ulid) (body : Body) (now : Time)
    (status : Nat) : Keeps (complete triple id body now status) :=
  SqlIdempotencyRepository.complete_keeps _ _ _ _ _

theorem auditEvent_keeps (actor : Ulid) (action : String) (id : Ulid) (req : Option String)
    (metadata : Payload) : Keeps (auditEvent c actor action id req metadata) :=
  .bind now_keeps fun _ => SqlAuditRepository.record_keeps _ _ _ _ _ _ _

theorem createPool_keeps (u : Ulid) (amount : Money) (key : String) (req : Option String) :
    Keeps (createPool c u amount key req) := by
  refine .bind now_keeps fun t => .bind (SqlIdempotencyRepository.reserve_keeps _ _ _) fun decision => ?_
  refine .bind (replayBodyOrRaise_keeps _) fun replay => ?_
  cases replay with
  | some body => exact .pure _
  | none =>
    refine .bind (.query _) fun existing => .bind (.ensure _ _) fun _ => ?_
    refine .bind (.query _) fun found => .bind (.orRaise _ _) fun sponsor => ?_
    refine .bind newUlid_keeps fun pool => .bind newUlid_keeps fun account => ?_
    refine .bind (SqlAccountRepository.createSubaccount_keeps _ _ _ _ _ _) fun _ => ?_
    refine .bind (Keeps.insert (fun _ _ => rfl) fun _ _ => rfl) fun _ => ?_
    refine .bind (execute_keeps _) fun funding => .bind (complete_keeps _ _ _ _ _) fun _ => ?_
    exact .bind (auditEvent_keeps _ _ _ _ _) fun _ => .pure _

theorem fundPool_keeps (u : Ulid) (amount : Money) (key : String) (req : Option String) :
    Keeps (fundPool c u amount key req) := by
  refine .bind (.query _) fun found => .bind (.orRaise _ _) fun pool => ?_
  refine .bind (.query _) fun account => .bind (.orRaise _ _) fun sponsor => ?_
  generalize "POST:/api/v1/overdraft/pools/" ++ pool.id.text ++ "/fund" = endpoint
  exact .bind (execute_keeps _) fun transfer => .bind (.query _) fun balance => .pure _

theorem grantAccess_keeps (u : Ulid) (phone : String) (maxDraw : Int) (key : String)
    (req : Option String) : Keeps (grantAccess c u phone maxDraw key req) := by
  refine .bind now_keeps fun t => .bind (SqlIdempotencyRepository.reserve_keeps _ _ _) fun decision => ?_
  refine .bind (replayBodyOrRaise_keeps _) fun replay => ?_
  cases replay with
  | some body => exact .pure _
  | none =>
    refine .bind (.query _) fun foundPool => .bind (.query _) fun foundUser => ?_
    refine .bind (.orRaise _ _) fun pool => .bind (.orRaise _ _) fun beneficiary => ?_
    refine .bind (.ensure _ _) fun _ => .bind (.ensure _ _) fun _ => .bind (.query _) fun existing => ?_
    refine .bind (.ensure _ _) fun _ => .bind newUlid_keeps fun grant => ?_
    refine .bind (Keeps.insert (fun _ _ => rfl) fun _ _ => rfl) fun _ => ?_
    refine .bind (complete_keeps _ _ _ _ _) fun _ => ?_
    exact .bind (auditEvent_keeps _ _ _ _ _) fun _ => .pure _

theorem coverShortfall_keeps (u account : Ulid) (sender : Account) (amount : Money)
    (grants : List (GrantRow × PoolRow)) (locked : Ulid → Option Account) (key : String)
    (req : Option String) (now : Time) :
    Keeps (coverShortfall c u account sender amount grants locked key req now) := by
  refine .ite _ (.bind (.bind (.orRaise _ _) fun selected => ?_) fun draw => .pure _) (.pure _)
  refine .bind (execute_keeps _) fun draw => .bind (.bind newUlid_keeps fun loan => ?_) fun _ => .pure _
  exact .bind (Keeps.insert (fun _ _ => rfl) fun _ _ => rfl) fun _ => .pure _

theorem send_keeps (u account receiver : Ulid) (amount : Money) (key : String)
    (note req : Option String) : Keeps (send c u account receiver amount key note req) := by
  refine .bind now_keeps fun t => .bind (SqlIdempotencyRepository.reserve_keeps _ _ _) fun decision => ?_
  refine .bind (replayBodyOrRaise_keeps _) fun replay => ?_
  cases replay with
  | some body => exact .pure _
  | none =>
    refine .bind (.query _) fun grants => ?_
    refine .bind (SqlAccountRepository.lockForUpdate_keeps _) fun locked => ?_
    refine .bind (.orRaise _ _) fun sender => .bind (.ensure _ _) fun _ => ?_
    refine .bind (coverShortfall_keeps _ _ _ _ _ _ _ _ _) fun draw => ?_
    refine .bind (UndoableTransferService.send_keeps _ _ _ _ _ _ _ _) fun hold => ?_
    exact .bind (complete_keeps _ _ _ _ _) fun _ => .pure _

end OverdraftService

/-! ### Users -/

theorem SqlUserRepository.modifyUser_keeps (u : Ulid) {f : UserRow → UserRow}
    (hf : ∀ r, (f r).id = r.id) (hattempts : ∀ r, (f r).pinFailedAttempts = r.pinFailedAttempts)
    (hlock : ∀ r, (f r).pinLockedUntil = r.pinLockedUntil) : Keeps (modifyUser c u f hf) := by
  refine Always.modify fun s => ⟨fun v => ?_, fun e => .inl rfl⟩
  unfold Database.pinGuard
  dsimp only
  rw [Table.find?_modifyAt]
  by_cases hv : v = u
  · subst hv
    rw [if_pos rfl]
    cases s.db.users.find? v with
    | none => rfl
    | some row =>
      dsimp only [Option.map_some]
      rw [hattempts, hlock]
  · rw [if_neg hv]

/-- A new user's guard is fresh, as it was before the user was there. -/
theorem AuthService.createUser_keeps {row : UserRow} (hattempts : row.pinFailedAttempts = 0)
    (hlock : row.pinLockedUntil = none) : Keeps (createUser row) := by
  refine .bind (.attempt (.bind (.ensure _ _) fun _ => ?_)) fun outcome => ?_
  · refine insertInto_always_new fun s hnew => ⟨fun u => ?_, fun e => .inl rfl⟩
    unfold Database.pinGuard
    dsimp only at hnew ⊢
    rw [Table.find?_push hnew]
    by_cases hu : row.id = u
    · subst hu
      rw [if_pos rfl, hnew]
      dsimp only
      rw [hattempts, hlock]
      rfl
    · rw [if_neg hu]
  · cases outcome with
    | ok _ => exact .pure _
    | error e => exact .ite _ (.raise _) (.raise _)

/-! ### Escrows -/

namespace SqlSafePayRepository

/-- An update that leads to no status in which a code is accepted, or from one such status
    to another. -/
theorem update_keeps {id : Ulid} {p : EscrowRow → Bool} {f : EscrowRow → EscrowRow}
    {hf : ∀ r, (f r).id = r.id} {admits : Database → EscrowRow → Bool}
    (h : ∀ r, p r = true → acceptsCode (f r).status = true → acceptsCode r.status = true ∧
      (f r).deliveryCodeAttempts = r.deliveryCodeAttempts ∧
      (f r).deliveryCodeLockedUntil = r.deliveryCodeLockedUntil) :
    Keeps (updateWhere (·.safepayEscrows) setTable id p f hf admits) := by
  refine updateWhere_always_found fun s r hr hp => ⟨fun u => rfl, fun e => ?_⟩
  unfold Database.codeGuard setTable
  dsimp only at hr ⊢
  rw [Table.find?_modifyAt]
  by_cases he : e = id
  · subst he
    rw [if_pos rfl, hr]
    dsimp only [Option.map_some]
    by_cases ha : acceptsCode (f r).status = true
    · obtain ⟨hbefore, hattempts, hlock⟩ := h r hp ha
      rw [if_pos ha, if_pos hbefore, hattempts, hlock]
      exact .inl rfl
    · rw [if_neg ha]
      exact .inr rfl
  · rw [if_neg he]
    exact .inl rfl

theorem markShipped_keeps (id seller : Ulid) (courier tracking : String) (now : Time) :
    Keeps (markShipped id seller courier tracking now) := by
  refine update_keeps fun r hp _ => ?_
  obtain ⟨-, hstatus⟩ := of_decide_eq_true hp
  rw [hstatus]
  exact ⟨rfl, rfl, rfl⟩

theorem markDelivered_keeps (id : Ulid) (t t' : Time) : Keeps (markDelivered id t t') := by
  refine update_keeps fun r hp _ => ?_
  rw [beq_iff_eq] at hp
  rw [hp]
  exact ⟨rfl, rfl, rfl⟩

theorem markDisputed_keeps (id buyer : Ulid) (reason : String) (now : Time) :
    Keeps (markDisputed id buyer reason now) := by
  refine update_keeps fun _ _ h => ?_
  cases h

theorem markSettled_keeps (id : Ulid) (sources : List EscrowStatus) {status : EscrowStatus}
    (hclosed : acceptsCode status = false) (settlement : Ulid) (now : Time) (note : Option String) :
    Keeps (markSettled id sources status settlement now note) := by
  refine update_keeps fun _ _ h => ?_
  dsimp only at h
  rw [hclosed] at h
  cases h

/-- A new escrow's guard is fresh, as it was before the escrow was there. -/
theorem create_keeps {row : EscrowRow} (hattempts : row.deliveryCodeAttempts = 0)
    (hlock : row.deliveryCodeLockedUntil = none) (hopen : acceptsCode row.status = true) :
    Keeps (create row) := by
  refine .bind (.ensure _ _) fun _ => insertInto_always_new fun s hnew => ⟨fun u => rfl, fun e => .inl ?_⟩
  unfold Database.codeGuard setTable
  dsimp only at hnew ⊢
  rw [Table.find?_push hnew]
  by_cases he : row.id = e
  · subst he
    rw [if_pos rfl, hnew]
    dsimp only
    rw [if_pos hopen, hattempts, hlock]
    rfl
  · rw [if_neg he]

end SqlSafePayRepository

/-! ### Safe-Pay -/

namespace SafePayService

theorem complete_keeps (triple : IdempotencyTriple) (id : Ulid) (body : Body) (now : Time)
    (status : Nat) : Keeps (complete triple id body now status) :=
  SqlIdempotencyRepository.complete_keeps _ _ _ _ _

theorem auditEvent_keeps (actor id : Ulid) (action : String) (req : Option String)
    (metadata : Payload) : Keeps (auditEvent c actor id action req metadata) :=
  .bind now_keeps fun _ => SqlAuditRepository.record_keeps _ _ _ _ _ _ _

theorem stateCommand_keeps (triple : IdempotencyTriple) (payload : Payload)
    {once : Time → Tx (Ulid × Body)} (honce : ∀ now, Keeps (once now)) :
    Keeps (stateCommand c triple payload once) := by
  refine .bind now_keeps fun t => .bind (SqlIdempotencyRepository.reserve_keeps _ _ _) fun decision => ?_
  refine .bind (replayBodyOrRaise_keeps _) fun replay => ?_
  cases replay with
  | some body => exact .pure _
  | none => exact .bind (honce t) fun _ => .bind (complete_keeps _ _ _ _ _) fun _ => .pure _

theorem releaseLocked_keeps (r : EscrowRow) (actor : Ulid) (reason : String)
    (req note : Option String) : Keeps (releaseLocked c r actor reason req note) := by
  refine .bind (.query _) fun found => .bind (.orRaise _ _) fun hold => .bind (.orRaise _ _) fun _ => ?_
  refine .bind (HoldingService.settle_keeps _ _ _ _ _ _ _ _ _ _ _) fun settlement => ?_
  refine .bind now_keeps fun t => .bind (SqlSafePayRepository.markSettled_keeps _ _ rfl _ _ _) fun n => ?_
  refine .bind (.ensure _ _) fun _ => .bind (SqlScheduledTaskRepository.cancel_keeps _ _) fun _ => ?_
  exact .bind (auditEvent_keeps _ _ _ _ _) fun _ => .pure _

theorem refundLocked_keeps (r : EscrowRow) (reason : String) (req : Option String) (note : String) :
    Keeps (refundLocked c r reason req note) := by
  refine .bind (.query _) fun found => .bind (.orRaise _ _) fun hold => ?_
  refine .bind (HoldingService.settle_keeps _ _ _ _ _ _ _ _ _ _ _) fun settlement => ?_
  refine .bind now_keeps fun t => .bind (SqlSafePayRepository.markSettled_keeps _ _ rfl _ _ _) fun n => ?_
  exact .bind (.ensure _ _) fun _ => .pure _

theorem create_keeps (buyer buyerAccount seller sellerAccount : Ulid) (amount : Money)
    (description : Option String) (key : String) (req : Option String) :
    Keeps (create c buyer buyerAccount seller sellerAccount amount description key req) := by
  refine .bind now_keeps fun t => .bind (SqlIdempotencyRepository.reserve_keeps _ _ _) fun decision => ?_
  refine .bind (replayBodyOrRaise_keeps _) fun replay => ?_
  cases replay with
  | some body => exact .pure _
  | none =>
    refine .bind newUlid_keeps fun id => .bind (execute_keeps _) fun hold => ?_
    refine .bind (generateReference_keeps _ _) fun reference => ?_
    refine .bind (hashPassword_keeps _) fun hash => ?_
    refine .bind (SqlSafePayRepository.create_keeps rfl rfl rfl) fun _ => ?_
    refine .bind (complete_keeps _ _ _ _ _) fun _ => ?_
    exact .bind (auditEvent_keeps _ _ _ _ _) fun _ => .pure _

theorem markShipped_keeps (id seller : Ulid) (courier tracking key : String) (req : Option String) :
    Keeps (markShipped c id seller courier tracking key req) := by
  refine stateCommand_keeps _ _ fun now => ?_
  refine .bind (SqlSafePayRepository.markShipped_keeps _ _ _ _ _) fun n => ?_
  exact .bind (.ensure _ _) fun _ => .bind (auditEvent_keeps _ _ _ _ _) fun _ => .pure _

theorem dispute_keeps (id buyer : Ulid) (reason key : String) (req : Option String) :
    Keeps (dispute c id buyer reason key req) := by
  refine stateCommand_keeps _ _ fun now => ?_
  refine .bind (SqlSafePayRepository.markDisputed_keeps _ _ _ _) fun n => .bind (.ensure _ _) fun _ => ?_
  refine .bind (SqlScheduledTaskRepository.cancel_keeps _ _) fun _ => ?_
  exact .bind (auditEvent_keeps _ _ _ _ _) fun _ => .pure _

theorem confirmReceived_keeps (id buyer : Ulid) (key : String) (req : Option String) :
    Keeps (confirmReceived c id buyer key req) := by
  refine stateCommand_keeps _ _ fun now => ?_
  refine .bind (.query _) fun found => .bind (.orRaise _ _) fun r => .bind (.ensure _ _) fun _ => ?_
  exact .bind (releaseLocked_keeps _ _ _ _ _) fun _ => .pure _

theorem courierEvent_keeps (r : EscrowRow) (courier : String) (immediately : Bool) (now : Time) :
    Keeps (courierEvent c r courier immediately now) := by
  unfold courierEvent
  cases r.status with
  | shipped =>
    refine .bind (SqlSafePayRepository.markDelivered_keeps _ _ _) fun n => .bind (.ensure _ _) fun _ => ?_
    refine .bind (.query _) fun found => .bind (.orRaise _ _) fun r => ?_
    refine .ite _ (releaseLocked_keeps _ _ _ _ _) ?_
    exact .bind (SqlScheduledTaskRepository.schedule_keeps _ _ _) fun _ => .pure _
  | released => exact .pure _
  | refunded => exact .pure _
  | disputed => exact .pure _
  | awaitingShipment => exact .raise _
  | delivered => exact .raise _
  | cancelled => exact .raise _

theorem courierDelivered_keeps (courier tracking event : String) (immediately : Bool) :
    Keeps (courierDelivered c courier tracking event immediately) := by
  refine .bind (.query _) fun found => .bind (.orRaise _ _) fun r => .bind now_keeps fun t => ?_
  refine .bind (SqlIdempotencyRepository.reserve_keeps _ _ _) fun decision => ?_
  refine .bind (replayBodyOrRaise_keeps _) fun replay => ?_
  cases replay with
  | some body => exact .pure _
  | none =>
    refine .bind (courierEvent_keeps _ _ _ _) fun body => ?_
    exact .bind (complete_keeps _ _ _ _ _) fun _ => .pure _

theorem autoRelease_keeps (id : Ulid) : Keeps (autoRelease c id) := by
  refine .bind (.query _) fun found => ?_
  cases found with
  | none => exact .pure _
  | some r => exact .ite _ (.pure _) (.bind (releaseLocked_keeps _ _ _ _ _) fun _ => .pure _)

theorem banBuyer_keeps (u : Ulid) : Keeps (banBuyer c u) := by
  refine .bind (SqlUserRepository.modifyUser_keeps _ _ (fun _ => rfl) fun _ => rfl) fun _ => ?_
  refine .bind (.query _) fun found => ?_
  cases found with
  | none => exact .bind now_keeps fun t => Keeps.write (fun _ => rfl) fun _ => rfl
  | some account =>
    refine .bind (SqlAccountRepository.setStatus_keeps _ _) fun _ => ?_
    exact .bind now_keeps fun t => Keeps.write (fun _ => rfl) fun _ => rfl

theorem resolveDispute_keeps (id : Ulid) (decision : Decision) (note : String) (ban : Bool)
    (key : String) (req : Option String) :
    Keeps (resolveDispute c id decision note ban key req) := by
  refine stateCommand_keeps _ _ fun now => ?_
  refine .bind (.query _) fun found => .bind (.orRaise _ _) fun r => .bind (.ensure _ _) fun _ => ?_
  cases decision with
  | release =>
    refine .bind (releaseLocked_keeps _ _ _ _ _) fun body => .ite _ ?_ (.pure _)
    exact .bind (banBuyer_keeps _) fun _ => .pure _
  | refund => exact .bind (refundLocked_keeps _ _ _ _) fun _ => .pure _

end SafePayService

/-! ### Money requests -/

namespace MoneyRequestService

theorem create_keeps (u : Ulid) (phone : String) (amount : Money) (note req : Option String) :
    Keeps (create c u phone amount note req) := by
  refine .bind now_keeps fun t => .bind (.query _) fun found => .bind (.orRaise _ _) fun requester => ?_
  refine .bind (.query _) fun foundPayer => .bind (.orRaise _ _) fun payer => ?_
  refine .bind (.ensure _ _) fun _ => .bind (.ensure _ _) fun _ => ?_
  refine .bind (.ensure _ _) fun _ => .bind (.ensure _ _) fun _ => ?_
  refine .bind newUlid_keeps fun id => .bind (generateReference_keeps _ _) fun reference => ?_
  refine .bind (.bind (.ensure _ _) fun _ => Keeps.insert (fun _ _ => rfl) fun _ _ => rfl) fun _ => ?_
  refine .bind (SqlOutboxPublisher.append_keeps _ _ _ _ _) fun event => ?_
  exact .bind (SqlAuditRepository.record_keeps _ _ _ _ _ _ _) fun _ => .pure _

theorem accept_keeps (id u : Ulid) (key : String) (req : Option String) :
    Keeps (accept c id u key req) := by
  refine .bind now_keeps fun t => .bind (.query _) fun found => .bind (.orRaise _ _) fun record => ?_
  refine .bind (.query _) fun payer => .bind (.ensure _ _) fun _ => .bind (.ensure _ _) fun _ => ?_
  refine .ite _ (.bind (Keeps.update (fun _ _ => rfl) fun _ _ => rfl) fun _ => .raise _) ?_
  refine .bind (execute_keeps _) fun transfer => ?_
  refine .bind (Keeps.update (fun _ _ => rfl) fun _ _ => rfl) fun n => .bind (.ensure _ _) fun _ => ?_
  refine .bind (SqlOutboxPublisher.append_keeps _ _ _ _ _) fun event => ?_
  exact .bind (SqlAuditRepository.record_keeps _ _ _ _ _ _ _) fun _ => .pure _

theorem terminate_keeps (role : Role) (id u : Ulid) (req : Option String) :
    Keeps (terminate c role id u req) := by
  refine .bind now_keeps fun t => .bind (.query _) fun found => .bind (.orRaise _ _) fun record => ?_
  refine .bind (.query _) fun account => .bind (.ensure _ _) fun _ => ?_
  refine .bind (Keeps.update (fun _ _ => rfl) fun _ _ => rfl) fun n => .bind (.ensure _ _) fun _ => ?_
  refine .bind ?_ fun _ => .bind (SqlAuditRepository.record_keeps _ _ _ _ _ _ _) fun _ => .pure _
  cases role with
  | payer => exact .bind (SqlOutboxPublisher.append_keeps _ _ _ _ _) fun _ => .pure _
  | requester => exact .pure _

theorem expireDue_keeps : Keeps (expireDue c) := by
  refine .bind now_keeps fun t => .bind (.query _) fun n => ?_
  exact .bind (Keeps.write (fun _ => rfl) fun _ => rfl) fun _ => .pure _

end MoneyRequestService

/-! ### Identity -/

namespace AuthService

theorem issueSession_keeps (u : Ulid) (now : Time) (client : ClientContext) :
    Keeps (issueSession c u now client) := by
  refine .bind newUlid_keeps fun id => .bind tokenUrlsafe_keeps fun raw => ?_
  refine .bind (.bind (.ensure _ _) fun _ => ?_) fun _ => .pure _
  exact Keeps.insert (fun _ _ => rfl) fun _ _ => rfl

theorem register_keeps (phone name password pin : String) (req : Option String)
    (client : ClientContext) : Keeps (register c phone name password pin req client) := by
  refine .bind now_keeps fun t => .bind newUlid_keeps fun u => ?_
  refine .bind (hashPassword_keeps _) fun passwordHash => .bind (hashPassword_keeps _) fun pinHash => ?_
  refine .bind (createUser_keeps rfl rfl) fun _ => .bind (.bind newUlid_keeps fun account => ?_) fun _ => ?_
  · refine .bind (SqlAccountRepository.createSubaccount_keeps _ _ _ _ _ _) fun _ => ?_
    refine .bind (.ite _ ?_ (.pure _)) fun _ => .pure _
    exact .bind (execute_keeps _) fun _ => .pure _
  · exact .bind (issueSession_keeps _ _ _) fun issued => .pure _

theorem login_keeps (phone password : String) (client : ClientContext) :
    Keeps (login c phone password client) := by
  refine .bind now_keeps fun t => .bind (.query _) fun found => ?_
  cases found with
  | none => exact .bind (hashPassword_keeps _) fun _ => .raise _
  | some user =>
    refine .bind (.ensure _ _) fun _ => .bind (.ensure _ _) fun _ => .bind (.ite _ ?_ (.pure _)) fun _ => ?_
    · exact .bind (hashPassword_keeps _) fun _ =>
        SqlUserRepository.modifyUser_keeps _ _ (fun _ => rfl) fun _ => rfl
    · exact .bind (issueSession_keeps _ _ _) fun issued => .pure _

theorem refresh_keeps (token : String) (client : ClientContext) : Keeps (refresh c token client) := by
  refine .bind now_keeps fun t => .bind (.query _) fun found => ?_
  cases found with
  | none => exact .raise _
  | some record =>
    refine .ite _ (.bind (Keeps.write (fun _ => rfl) fun _ => rfl) fun _ => .raise _) ?_
    refine .bind (.ensure _ _) fun _ => .bind (issueSession_keeps _ _ _) fun issued => ?_
    refine .bind (.bind ?_ fun _ => .pure _) fun _ => .pure _
    exact Keeps.update (fun _ _ => rfl) fun _ _ => rfl

theorem logout_keeps (token : String) : Keeps (logout c token) := by
  refine .bind now_keeps fun t => .bind (.query _) fun found => ?_
  cases found with
  | none => exact .pure _
  | some record => exact .bind (Keeps.update (fun _ _ => rfl) fun _ _ => rfl) fun _ => .pure _

end AuthService

/-! ### The scheduler -/

namespace Scheduler

theorem runTask_keeps (task : TaskRow) : Keeps (runTask c task) := by
  refine .bind (.savepoint (.bind ?_ fun _ => SqlScheduledTaskRepository.complete_keeps _) ?_)
    fun outcome => ?_
  · unfold Scheduler.handle
    cases task.taskType with
    | undoSettle => exact .bind (UndoableTransferService.settle_keeps _) fun _ => .pure _
    | escrowAutoRelease => exact .bind (SafePayService.autoRelease_keeps _) fun _ => .pure _
    | moneyRequestExpiry => exact .bind MoneyRequestService.expireDue_keeps fun _ => .pure _
    | linkExpiry => exact .pure _
  · exact fun _ _ => .same rfl rfl
  · cases outcome with
    | ok _ => exact .pure _
    | error e => exact .bind (SqlScheduledTaskRepository.recordFailure_keeps _ _ _ _) fun _ => .pure _

theorem runDueTasks_keeps : Keeps (runDueTasks c) := by
  refine .bind (.query _) fun tasks => ?_
  induction tasks with
  | nil => exact .pure _
  | cons task tasks ih => exact .bind (runTask_keeps task) fun _ => .bind ih fun _ => .pure _

end Scheduler

/-! ### Requests -/

/-- Who authorises the request, and with which PIN. -/
def Request.pin? : Request → Option (Ulid × String)
  | .createTransfer user pin .. | .createPool user pin .. | .fundPool user pin ..
  | .createGrant user pin .. | .createSafepay user pin .. | .acceptRequest user pin .. =>
    some (user, pin)
  | _ => none

variable {req : Request}

theorem createTransferOp_keeps (u : Ulid) (phone : String) (amount : Money) (note : Option String)
    (key : String) (r : Option String) : Keeps (createTransferOp c u phone amount note key r) := by
  refine .bind (.query _) fun found => .bind (.orRaise _ _) fun sender => ?_
  refine .bind (.query _) fun found => .bind (.orRaise _ _) fun recipient => ?_
  exact .bind (.ensure _ _) fun _ => OverdraftService.send_keeps _ _ _ _ _ _ _

theorem createSafepayOp_keeps (u : Ulid) (phone : String) (amount : Money)
    (description : Option String) (key : String) (r : Option String) :
    Keeps (createSafepayOp c u phone amount description key r) := by
  refine .bind (.query _) fun buyer => .bind (.query _) fun user => .bind (.query _) fun seller => ?_
  refine .bind (.orRaise _ _) fun buyer => .bind (.orRaise _ _) fun seller => ?_
  refine .bind (.orRaise _ _) fun user => .bind (.ensure _ _) fun _ => ?_
  exact SafePayService.create_keeps _ _ _ _ _ _ _ _

/-- The operation a PIN protects, which keeps every guard. -/
theorem Request.handle_pin {u : Ulid} {pin : String} (h : req.pin? = some (u, pin)) :
    ∃ (α : Type) (op : Tx α) (reply : α → Reply), Keeps op ∧
      handle c req = (runPinProtected c u pin op >>= fun r => pure (r.map reply)) := by
  cases req <;> try cases h
  case createTransfer => exact ⟨_, _, _, createTransferOp_keeps _ _ _ _ _ _, rfl⟩
  case createPool => exact ⟨_, _, _, OverdraftService.createPool_keeps _ _ _ _, rfl⟩
  case fundPool => exact ⟨_, _, _, OverdraftService.fundPool_keeps _ _ _ _, rfl⟩
  case createGrant => exact ⟨_, _, _, OverdraftService.grantAccess_keeps _ _ _ _ _, rfl⟩
  case createSafepay => exact ⟨_, _, _, createSafepayOp_keeps _ _ _ _ _ _, rfl⟩
  case acceptRequest => exact ⟨_, _, _, MoneyRequestService.accept_keeps _ _ _ _, rfl⟩

theorem courierWebhookOp_keeps (courier event tracking : String) (immediately : Bool)
    (signature : Option String) :
    Keeps (courierWebhookOp c courier event tracking immediately signature) :=
  .bind (.ensure _ _) fun _ => SafePayService.courierDelivered_keeps _ _ _ _

/-- The request tries a delivery code. -/
def Request.triesCode : Request → Bool
  | .releaseSafepayCode .. => true
  | _ => false

/-- A request with neither a PIN nor a code keeps every guard. -/
theorem Request.handle_keeps (hpin : req.pin? = none) (hcode : req.triesCode = false) :
    Keeps (handle c req) := by
  cases req <;> cases hpin
  case releaseSafepayCode => cases hcode
  case register => exact .bind (AuthService.register_keeps _ _ _ _ _ _) fun _ => .pure _
  case login => exact .bind (AuthService.login_keeps _ _ _) fun _ => .pure _
  case refresh => exact .bind (AuthService.refresh_keeps _ _) fun _ => .pure _
  case logout => exact .bind (AuthService.logout_keeps _) fun _ => .pure _
  case undoTransfer => exact .bind (UndoableTransferService.undo_keeps _ _ _ _) fun _ => .pure _
  case shipSafepay => exact .bind (markShipped_keeps _ _ _ _ _ _) fun _ => .pure _
  case confirmSafepayReceived => exact .bind (confirmReceived_keeps _ _ _ _) fun _ => .pure _
  case disputeSafepay => exact .bind (dispute_keeps _ _ _ _ _) fun _ => .pure _
  case courierWebhook => exact .bind (courierWebhookOp_keeps _ _ _ _ _) fun _ => .pure _
  case resolveSafepay => exact .bind (resolveDispute_keeps _ _ _ _ _ _) fun _ => .pure _
  case createRequest => exact .bind (MoneyRequestService.create_keeps _ _ _ _ _) fun _ => .pure _
  case rejectRequest => exact .bind (MoneyRequestService.terminate_keeps _ _ _ _) fun _ => .pure _
  case cancelRequest => exact .bind (MoneyRequestService.terminate_keeps _ _ _ _) fun _ => .pure _
  case expireDue => exact .bind MoneyRequestService.expireDue_keeps fun _ => .pure _
  case runDueTasks => exact .bind Scheduler.runDueTasks_keeps fun _ => .pure _

end MoneyMovement

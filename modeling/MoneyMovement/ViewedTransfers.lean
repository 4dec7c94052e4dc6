/-
  MoneyMovement/ViewedTransfers.lean
  ==================================
  **The transfer use case, in two runs that a view does not tell apart.**

  Each statement and each function of the use case, the lien, the holds and the
  Spot-Me commands agrees with its copy in the other run, where the copy may be
  given another idempotency key, as long as the view relates the triples.
-/
import MoneyMovement.Views
import MoneyMovement.OverdraftService

namespace MoneyMovement

open Txn

section Transfers

variable {v : View} {c : Ctx} {g : String → String → Nat}

/-! ### Repositories -/

namespace SqlAccountRepository

theorem getById_agree (id : Ulid) : v.Agree (getById id) (getById id) := .read fun _ _ _ _ _ => rfl

theorem getByUserId_agree (u : Ulid) : v.Agree (getByUserId u) (getByUserId u) :=
  .read fun _ _ _ _ _ => rfl

theorem getByPhone_agree (phone : String) : v.Agree (getByPhone phone) (getByPhone phone) :=
  .read fun _ _ _ _ _ => rfl

theorem lockForUpdate_agree (ids : List Ulid) : v.Agree (lockForUpdate ids) (lockForUpdate ids) :=
  .andThen (acquire_agree ids) fun _ => View.Agree.read fun _ _ _ _ _ => rfl

theorem createSubaccount_agree (id : Ulid) (u : Option Ulid) (type : AccountType) (number : String)
    (currency : Currency) (now : Time) :
    v.Agree (createSubaccount id u type number currency now)
      (createSubaccount id u type number currency now) :=
  .andThen (.ensure _ _) fun _ => View.Agree.insert (fun _ _ _ _ _ => rfl) (fun _ _ _ _ _ _ => rfl)
    fun _ _ _ _ _ => rfl

theorem setStatus_agree (id : Ulid) (status : AccountStatus) :
    v.Agree (setStatus c id status) (setStatus (c.recoded g) id status) :=
  .andThen (acquire_agree _) fun _ => View.Agree.update (fun _ _ _ _ _ => rfl)
    (fun _ _ _ _ _ _ => rfl) fun _ _ _ _ _ _ => rfl

theorem persistBalance_agree (a : Account) :
    v.Agree (persistBalance c a) (persistBalance (c.recoded g) a) := by
  refine .andThen (acquire_agree _) fun _ => ?_
  refine .andThen ?_ fun n => .ensure _ _
  exact View.Agree.update (fun _ _ _ _ _ => rfl) (fun _ _ _ _ _ _ => rfl) fun _ _ _ _ _ _ => rfl

end SqlAccountRepository

namespace Account

theorem debit_agree (a : Account) (amount : Money) : v.Agree (a.debit amount) (a.debit amount) :=
  .andThen (.ensure _ _) fun _ => .andThen (.ensure _ _) fun _ => .andThen (.ensure _ _) fun _ =>
    .pure rfl

theorem credit_agree (a : Account) (amount : Money) : v.Agree (a.credit amount) (a.credit amount) :=
  .andThen (.ensure _ _) fun _ => .andThen (.ensure _ _) fun _ => .pure rfl

end Account

namespace SqlTransferRepository

theorem create_agree (row : TransferRow) : v.Agree (create row) (create row) :=
  .andThen (.ensure _ _) fun _ => View.Agree.insert (fun _ _ _ _ _ => rfl) (fun _ _ _ _ _ _ => rfl)
    fun _ _ _ _ _ => rfl

theorem tryTransitionStatus_agree (id : Ulid) (source target : TransferStatus) :
    v.Agree (tryTransitionStatus c id source target)
      (tryTransitionStatus (c.recoded g) id source target) :=
  View.Agree.update (fun _ _ _ _ _ => rfl) (fun _ _ _ _ _ _ => rfl) fun _ _ _ _ _ _ => rfl

theorem get_agree (id : Ulid) : v.Agree (get id) (get id) := .read fun _ _ _ _ _ => rfl

theorem sumSentSince_agree (id : Ulid) (since : Time) :
    v.Agree (sumSentSince id since) (sumSentSince id since) := .read fun _ _ _ _ _ => rfl

end SqlTransferRepository

theorem LedgerPosting.transfer?_agree (a b : Ulid) (amount : Money) :
    v.Agree (LedgerPosting.transfer? a b amount) (LedgerPosting.transfer? a b amount) := by
  intro s s' hs
  unfold LedgerPosting.transfer?
  split
  · split
    · exact .ok rfl hs
    · exact .raised hs
  · exact .raised hs

namespace SqlLedgerRepository

theorem postLines_agree (id : Ulid) (balances : Ulid → Option Money) (now : Time)
    (lines : List PostingLine) :
    v.Agree (postLines c id balances now lines) (postLines (c.recoded g) id balances now lines) := by
  induction lines with
  | nil => exact .pure rfl
  | cons line lines ih =>
    refine .andThen newUlid_agree fun entry => ?_
    refine .andThen (.orRaise _ _) fun balance => ?_
    refine .andThen ?_ fun _ => ih
    exact View.Agree.insert (fun _ _ _ _ _ => rfl) (fun _ _ _ _ _ _ => rfl) fun _ _ _ _ _ => rfl

theorem post_agree (posting : LedgerPosting) (id : Ulid) (type : TransferKind)
    (description : Option String) (balances : Ulid → Option Money) (now : Time) :
    v.Agree (post c posting id type description balances now)
      (post (c.recoded g) posting id type description balances now) := by
  refine .andThen newUlid_agree fun transaction => ?_
  refine .andThen ?_ fun _ => .andThen (postLines_agree _ _ _ _) fun _ => .pure rfl
  exact View.Agree.insert (fun _ _ _ _ _ => rfl) (fun _ _ _ _ _ _ => rfl) fun _ _ _ _ _ => rfl

end SqlLedgerRepository

theorem SqlOutboxPublisher.append_agree (type : EventType) (id : Ulid) (t : Time) (payload : Payload)
    (trace : Option String) :
    v.Agree (SqlOutboxPublisher.append c type id t payload trace)
      (SqlOutboxPublisher.append (c.recoded g) type id t payload trace) := by
  refine .andThen newUlid_agree fun event => .andThen (.ensure _ _) fun _ => ?_
  refine .andThen ?_ fun _ => .pure rfl
  exact View.Agree.insert (fun _ _ _ _ _ => rfl) (fun _ _ _ _ _ _ => rfl) fun _ _ _ _ _ => rfl

theorem SqlAuditRepository.record_agree (actor : Option Ulid) (action type : String)
    (id : Option Ulid) (req : Option String) (metadata : Option Payload) (t : Time) :
    v.Agree (SqlAuditRepository.record c actor action type id req metadata t)
      (SqlAuditRepository.record (c.recoded g) actor action type id req metadata t) :=
  .andThen newUlid_agree fun _ => .andThen (.ensure _ _) fun _ =>
    View.Agree.insert (fun _ _ _ _ _ => rfl) (fun _ _ _ _ _ _ => rfl) fun _ _ _ _ _ => rfl

/-! ### The use case -/

/-- The command under another key. -/
def TransferCommand.keyed (cmd : TransferCommand) (key : String) : TransferCommand :=
  { cmd with idempotencyKey := key }

theorem replayBodyOrRaise_agree (decision : IdempotencyDecision) :
    v.Agree (replayBodyOrRaise decision) (replayBodyOrRaise decision) := by
  cases decision with
  | proceed => exact .pure rfl
  | replay status body id => exact .pure rfl
  | inProgress => exact .raise _
  | payloadMismatch => exact .raise _

namespace TransferUseCase

open OverdraftService Container

variable {exec exec' : TransferCommand → Tx TransferResult} {cmd : TransferCommand} {key : String}

theorem replayResult_agree (body : Body) (id : Option Ulid) :
    v.Agree (replayResult c body id) (replayResult (c.recoded g) body id) := by
  refine .andThen (.orRaise _ _) fun currency => .andThen (.orRaise _ _) fun transfer => ?_
  refine .andThen ?_ fun t => .pure rfl
  unfold storedCompletedAt
  cases body.str? "completedAt" with
  | some text => exact .orRaise _ _
  | none => exact now_agree

theorem handleIdempotencyDecision_agree (decision : IdempotencyDecision) :
    v.Agree (handleIdempotencyDecision c decision)
      (handleIdempotencyDecision (c.recoded g) decision) := by
  cases decision with
  | proceed => exact .pure rfl
  | replay status body id => exact .andThen (replayResult_agree _ _) fun _ => .pure rfl
  | inProgress => exact .raise _
  | payloadMismatch => exact .raise _

theorem additionalLockIds_agree (id : Ulid) (kind : TransferKind) :
    v.Agree (additionalLockIds id kind) (additionalLockIds id kind) := by
  refine .ite _ (.pure rfl) ?_
  refine .andThen (SqlAccountRepository.getById_agree id) fun found => ?_
  cases found with
  | none => exact .pure rfl
  | some receiver =>
    dsimp only
    cases sweepable receiver.accountType receiver.userId with
    | none => exact .pure rfl
    | some u => exact .andThen (View.Agree.read fun _ _ _ _ _ => rfl) fun loans => .pure rfl

theorem lockParties_agree : v.Agree (lockParties (useCaseOver exec c) cmd)
    (lockParties (useCaseOver exec' (c.recoded g)) (cmd.keyed key)) := by
  refine .andThen (additionalLockIds_agree _ _) fun extra => ?_
  refine .andThen (SqlAccountRepository.lockForUpdate_agree _) fun locked => ?_
  refine .andThen (.orRaise _ _) fun sender => .andThen (.orRaise _ _) fun receiver => ?_
  exact .pure rfl

theorem checkLimits_agree (sender : Account) (total : Money) (now : Time) :
    v.Agree (checkLimits (useCaseOver exec c) cmd sender total now)
      (checkLimits (useCaseOver exec' (c.recoded g)) (cmd.keyed key) sender total now) := by
  refine .ite _ ?_ (.pure rfl)
  refine .andThen (SqlTransferRepository.sumSentSince_agree _ _) fun sent => ?_
  exact .andThen (.ensure _ _) fun _ => .ensure _ _

theorem revalidate_agree (sender receiver : Account) (now : Time) :
    v.Agree (revalidate (useCaseOver exec c) cmd sender receiver now)
      (revalidate (useCaseOver exec' (c.recoded g)) (cmd.keyed key) sender receiver now) := by
  refine .andThen (.ensure _ _) fun _ => .andThen (.ensure _ _) fun _ => ?_
  refine .andThen (.ensure _ _) fun _ => .andThen (.ensure _ _) fun _ => ?_
  refine .andThen (checkLimits_agree _ _ _) fun _ => .andThen (.ensure _ _) fun _ => ?_
  exact .pure rfl

theorem journal_agree (hk : v.triple cmd.triple (cmd.keyed key).triple) (t l e : Ulid) :
    v.Agree (writeDb fun db => { db with journal := db.journal ++ [⟨cmd.triple, t, l, e⟩] })
      (writeDb fun db => { db with
        journal := db.journal ++ [⟨(cmd.keyed key).triple, t, l, e⟩] }) := by
  refine .modify fun s s' hs => ⟨hs.draws, hs.locks, hs.db.escrows, hs.db.tasks, hs.db.records,
    v.append t l e hs.db.journal hk, ?_⟩
  dsimp only
  rw [hs.db.rest]
  rfl

theorem applyMovement_agree (hk : v.triple cmd.triple (cmd.keyed key).triple)
    (sender receiver : Account) (fee : Money) (now : Time) :
    v.Agree (applyMovement c cmd sender receiver fee now)
      (applyMovement (c.recoded g) (cmd.keyed key) sender receiver fee now) := by
  refine .andThen (sender.debit_agree _) fun debited => ?_
  refine .andThen (receiver.credit_agree _) fun credited => ?_
  refine .andThen (SqlAccountRepository.persistBalance_agree _) fun _ => ?_
  refine .andThen (SqlAccountRepository.persistBalance_agree _) fun _ => ?_
  refine .andThen newUlid_agree fun transfer => ?_
  refine .andThen (generateReference_agree _ _) fun reference => ?_
  refine .andThen (SqlTransferRepository.create_agree _) fun _ => ?_
  refine .andThen (LedgerPosting.transfer?_agree _ _ _) fun posting => ?_
  refine .andThen (SqlLedgerRepository.post_agree _ _ _ _ _ _) fun transaction => ?_
  refine .andThen (SqlOutboxPublisher.append_agree _ _ _ _ _) fun event => ?_
  refine .andThen (journal_agree hk _ _ _) fun _ => ?_
  refine .andThen (SqlAuditRepository.record_agree _ _ _ _ _ _ _) fun _ => ?_
  exact .pure rfl

theorem applyRepayment_agree (loan transfer : Ulid) (amount : Int) (trigger : Ulid) (now : Time) :
    v.Agree (SqlOverdraftRepository.applyRepayment c loan transfer amount trigger now)
      (SqlOverdraftRepository.applyRepayment (c.recoded g) loan transfer amount trigger now) := by
  refine .andThen (View.Agree.read fun _ _ _ _ _ => rfl) fun found => ?_
  cases found with
  | none => exact .pure rfl
  | some loan =>
    refine .ite _ ?_ (.pure rfl)
    refine .andThen ?_ fun _ => .andThen newUlid_agree fun id => ?_
    · exact View.Agree.update (fun _ _ _ _ _ => rfl) (fun _ _ _ _ _ _ => rfl)
        fun _ _ _ _ _ _ => rfl
    · exact View.Agree.insert (fun _ _ _ _ _ => rfl) (fun _ _ _ _ _ _ => rfl) fun _ _ _ _ _ => rfl

/-- Executions agree on the commands of the lien. -/
def AgreeOnLiens (v : View) (exec exec' : TransferCommand → Tx TransferResult) : Prop :=
  ∀ cmd, cmd.idempotencyEndpoint = "INTERNAL:/overdraft/lien-repayment" → v.Agree (exec cmd) (exec' cmd)

theorem sweep_agree (hexec : AgreeOnLiens v exec exec') (transfer receiver u : Ulid)
    (currency : Currency) (req : Option String) (loans : List (LoanRow × PoolRow)) (budget : Int) :
    v.Agree (sweep exec c transfer receiver u currency req loans budget)
      (sweep exec' (c.recoded g) transfer receiver u currency req loans budget) := by
  induction loans generalizing budget with
  | nil => exact .pure rfl
  | cons l loans ih =>
    refine .ite _ (.pure rfl) ?_
    refine .andThen ?_ fun _ => ih _
    refine .andThen (hexec _ rfl) fun repayment => .andThen now_agree fun t => ?_
    exact applyRepayment_agree _ _ _ _ _

theorem afterCredit_agree (hexec : AgreeOnLiens v exec exec') (transfer : Ulid) (receiver : Account)
    (amount : Money) (kind : TransferKind) (req : Option String) :
    v.Agree (afterCredit exec c transfer receiver amount kind req)
      (afterCredit exec' (c.recoded g) transfer receiver amount kind req) := by
  refine .ite _ (.pure rfl) ?_
  cases sweepable receiver.accountType receiver.userId with
  | none => exact .pure rfl
  | some u =>
    refine .ite _ (.pure rfl) ?_
    refine .andThen (View.Agree.read fun _ _ _ _ _ => rfl) fun loans => ?_
    exact sweep_agree hexec _ _ _ _ _ _ _

theorem executeReserved_agree (hexec : AgreeOnLiens v exec exec')
    (hk : v.triple cmd.triple (cmd.keyed key).triple) (now : Time) :
    v.Agree (executeReserved (useCaseOver exec c) c cmd now)
      (executeReserved (useCaseOver exec' (c.recoded g)) (c.recoded g) (cmd.keyed key) now) := by
  refine .andThen (.ensure _ _) fun _ => .andThen lockParties_agree fun parties => ?_
  refine .andThen (revalidate_agree _ _ _) fun fee => ?_
  refine .andThen (applyMovement_agree hk _ _ _ _) fun m => ?_
  refine .andThen (afterCredit_agree hexec _ _ _ _ _) fun _ => ?_
  exact .andThen (SqlIdempotencyRepository.complete_agree hk _ _ _ _) fun _ => .pure rfl

theorem executeOver_agree (key : String) (hexec : AgreeOnLiens v exec exec')
    (hk : v.triple cmd.triple (cmd.keyed key).triple) :
    v.Agree ((useCaseOver exec c).execute c cmd)
      ((useCaseOver exec' (c.recoded g)).execute (c.recoded g) (cmd.keyed key)) := by
  refine .andThen now_agree fun t => ?_
  refine .andThen (SqlIdempotencyRepository.reserve_agree hk _ _) fun decision => ?_
  refine .andThen (handleIdempotencyDecision_agree _) fun replay => ?_
  cases replay with
  | some r => exact .pure rfl
  | none => exact executeReserved_agree hexec hk _

end TransferUseCase

/-- The wired use case, under another key. -/
theorem execute_agree {cmd : TransferCommand} (key : String)
    (hk : v.triple cmd.triple (cmd.keyed key).triple) :
    v.Agree (execute c cmd) (execute (c.recoded g) (cmd.keyed key)) := by
  have hzero : TransferUseCase.AgreeOnLiens v (Container.wiredAt c 0) (Container.wiredAt (c.recoded g) 0) :=
    fun _ _ => .raise _
  have hone : TransferUseCase.AgreeOnLiens v (Container.wiredAt c 1) (Container.wiredAt (c.recoded g) 1) :=
    fun cmd hlien => TransferUseCase.executeOver_agree cmd.idempotencyKey hzero (v.lien _ hlien)
  exact TransferUseCase.executeOver_agree key hone hk

/-- The wired use case, under the same key. -/
theorem execute_agree_same {cmd : TransferCommand} (hk : v.triple cmd.triple cmd.triple) :
    v.Agree (execute c cmd) (execute (c.recoded g) cmd) :=
  execute_agree cmd.idempotencyKey hk

/-! ### Holds -/

/-- The view takes the settlement of a hold for the same in both runs. -/
def View.Legs (v : View) : Prop :=
  ∀ (u hold : Ulid) (status : TransferStatus) (kind : TransferKind),
    v.triple ⟨u, HoldingService.legEndpoint kind, HoldingService.settlementKey hold status⟩
      ⟨u, HoldingService.legEndpoint kind, HoldingService.settlementKey hold status⟩

theorem HoldingService.settle_agree (hlegs : v.Legs) (hold : Ulid) (reference : Reference)
    (source target : TransferStatus) (beneficiary holding : Ulid) (amount : Money) (kind : TransferKind)
    (actor : Ulid) (note req : Option String) :
    v.Agree (settle c hold reference source target beneficiary holding amount kind actor note req)
      (settle (c.recoded g) hold reference source target beneficiary holding amount kind actor note
        req) := by
  refine .andThen (SqlTransferRepository.tryTransitionStatus_agree _ _ _) fun n => ?_
  refine .andThen (.ensure _ _) fun _ => ?_
  exact execute_agree_same (hlegs _ _ _ _)

namespace UndoableTransferService

theorem send_agree {u sender receiver : Ulid} {amount : Money} {key key' : String}
    {note req : Option String} {endpoint : String}
    (hk : v.triple ⟨u, endpoint, key⟩ ⟨u, endpoint, key'⟩) :
    v.Agree (send c u sender receiver amount key note req endpoint)
      (send (c.recoded g) u sender receiver amount key' note req endpoint) := by
  refine .andThen (execute_agree key' hk) fun hold => ?_
  refine .andThen (.ite _ (.pure rfl) ?_) fun _ => .pure rfl
  exact SqlScheduledTaskRepository.schedule_agree _ _ _

theorem requireHold_agree (id : Ulid) : v.Agree (requireHold id) (requireHold id) := by
  refine .andThen (SqlTransferRepository.get_agree id) fun found => ?_
  exact .andThen (.orRaise _ _) fun hold => .andThen (.ensure _ _) fun _ => .pure rfl

theorem undoReserved_agree (hlegs : v.Legs) {triple triple' : IdempotencyTriple}
    (hk : v.triple triple triple') (id u : Ulid) (req : Option String) (now : Time) :
    v.Agree (undoReserved c triple id u req now) (undoReserved (c.recoded g) triple' id u req now) := by
  refine .andThen (requireHold_agree id) fun hold => ?_
  refine .andThen (SqlAccountRepository.getById_agree _) fun sender => ?_
  refine .andThen (.ensure _ _) fun _ => ?_
  refine .andThen (HoldingService.settle_agree hlegs _ _ _ _ _ _ _ _ _ _ _) fun settlement => ?_
  refine .andThen (SqlScheduledTaskRepository.cancel_agree _ _) fun _ => ?_
  exact .andThen (SqlIdempotencyRepository.complete_agree hk _ _ _ _) fun _ => .pure rfl

theorem undo_agree (hlegs : v.Legs) {id u : Ulid} {key key' : String} {req : Option String}
    (hk : v.triple ⟨u, undoEndpoint id, key⟩ ⟨u, undoEndpoint id, key'⟩) :
    v.Agree (undo c id u key req) (undo (c.recoded g) id u key' req) := by
  refine .andThen now_agree fun t => ?_
  refine .andThen (SqlIdempotencyRepository.reserve_agree hk _ _) fun decision => ?_
  refine .andThen (replayBodyOrRaise_agree _) fun replay => ?_
  cases replay with
  | some body => exact .pure rfl
  | none => exact undoReserved_agree hlegs hk _ _ _ _

theorem settle_agree (hlegs : v.Legs) (id : Ulid) : v.Agree (settle c id) (settle (c.recoded g) id) := by
  refine .andThen (SqlTransferRepository.get_agree id) fun found => ?_
  cases found with
  | none => exact .pure rfl
  | some hold =>
    refine .ite _ (.pure rfl) ?_
    refine .andThen (.orRaise _ _) fun receiver => .andThen (.orRaise _ _) fun actor => ?_
    exact .andThen (HoldingService.settle_agree hlegs _ _ _ _ _ _ _ _ _ _ _) fun _ => .pure rfl

end UndoableTransferService

/-! ### Spot-Me -/

namespace OverdraftService

theorem getPoolForSponsor_agree (u : Ulid) :
    v.Agree (SqlOverdraftRepository.getPoolForSponsor u) (SqlOverdraftRepository.getPoolForSponsor u) :=
  .read fun _ _ _ _ _ => rfl

theorem complete_agree {triple triple' : IdempotencyTriple} (hk : v.triple triple triple') (id : Ulid)
    (body : Body) (now : Time) (status : Nat) :
    v.Agree (complete triple id body now status) (complete triple' id body now status) :=
  SqlIdempotencyRepository.complete_agree hk _ _ _ _

theorem auditEvent_agree (actor : Ulid) (action : String) (id : Ulid) (req : Option String)
    (metadata : Payload) :
    v.Agree (auditEvent c actor action id req metadata)
      (auditEvent (c.recoded g) actor action id req metadata) :=
  .andThen now_agree fun _ => SqlAuditRepository.record_agree _ _ _ _ _ _ _

/-- The view takes the funding of a new pool for the same in both runs. -/
def Fundings (v : View) : Prop :=
  ∀ u pool : Ulid, v.triple ⟨u, "INTERNAL:/overdraft/fund", "pool-fund:" ++ pool.text⟩
    ⟨u, "INTERNAL:/overdraft/fund", "pool-fund:" ++ pool.text⟩

theorem createPoolReserved_agree (hfund : Fundings v) {triple triple' : IdempotencyTriple}
    (hk : v.triple triple triple') (u : Ulid) (amount : Money) (req : Option String) (now : Time) :
    v.Agree (createPoolReserved c triple u amount req now)
      (createPoolReserved (c.recoded g) triple' u amount req now) := by
  refine .andThen (getPoolForSponsor_agree u) fun existing => .andThen (.ensure _ _) fun _ => ?_
  refine .andThen (SqlAccountRepository.getByUserId_agree u) fun found => ?_
  refine .andThen (.orRaise _ _) fun sponsor => ?_
  refine .andThen newUlid_agree fun pool => .andThen newUlid_agree fun account => ?_
  refine .andThen (SqlAccountRepository.createSubaccount_agree _ _ _ _ _ _) fun _ => ?_
  refine .andThen ?_ fun _ => ?_
  · exact View.Agree.insert (fun _ _ _ _ _ => rfl) (fun _ _ _ _ _ _ => rfl) fun _ _ _ _ _ => rfl
  refine .andThen (execute_agree_same (hfund u pool)) fun funding => ?_
  refine .andThen (complete_agree hk _ _ _ _) fun _ => ?_
  exact .andThen (auditEvent_agree _ _ _ _ _) fun _ => .pure rfl

theorem createPool_agree (hfund : Fundings v) {u : Ulid} {amount : Money} {key key' : String}
    {req : Option String} (hk : v.triple ⟨u, POOL_ENDPOINT, key⟩ ⟨u, POOL_ENDPOINT, key'⟩) :
    v.Agree (createPool c u amount key req) (createPool (c.recoded g) u amount key' req) := by
  refine .andThen now_agree fun t => ?_
  refine .andThen (SqlIdempotencyRepository.reserve_agree hk _ _) fun decision => ?_
  refine .andThen (replayBodyOrRaise_agree _) fun replay => ?_
  cases replay with
  | some body => exact .pure rfl
  | none => exact createPoolReserved_agree hfund hk _ _ _ _

theorem fund_agree (u account pool poolAccount : Ulid) (amount : Money) {key key' : String}
    (note : String) (req : Option String) {endpoint : String}
    (hk : v.triple ⟨u, endpoint, key⟩ ⟨u, endpoint, key'⟩) :
    v.Agree (execute c (fundCommand c u account pool poolAccount amount key note req endpoint))
      (execute (c.recoded g)
        (fundCommand (c.recoded g) u account pool poolAccount amount key' note req endpoint)) :=
  execute_agree key' hk

theorem fundPool_agree {u : Ulid} {amount : Money} {key key' : String} {req : Option String}
    (hk : ∀ pool : Ulid, v.triple ⟨u, "POST:/api/v1/overdraft/pools/" ++ pool.text ++ "/fund", key⟩
      ⟨u, "POST:/api/v1/overdraft/pools/" ++ pool.text ++ "/fund", key'⟩) :
    v.Agree (fundPool c u amount key req) (fundPool (c.recoded g) u amount key' req) := by
  refine .andThen (getPoolForSponsor_agree u) fun found => .andThen (.orRaise _ _) fun pool => ?_
  refine .andThen (SqlAccountRepository.getByUserId_agree u) fun account => ?_
  refine .andThen (.orRaise _ _) fun sponsor => ?_
  have hpool := hk pool.id
  generalize "POST:/api/v1/overdraft/pools/" ++ pool.id.text ++ "/fund" = endpoint at hpool ⊢
  refine .andThen (fund_agree _ _ _ _ _ _ _ hpool) fun transfer => ?_
  exact .andThen (SqlAccountRepository.getById_agree _) fun balance => .pure rfl

theorem grantAccessReserved_agree {triple triple' : IdempotencyTriple} (hk : v.triple triple triple')
    (u : Ulid) (phone : String) (maxDraw : Int) (req : Option String) (now : Time) :
    v.Agree (grantAccessReserved c triple u phone maxDraw req now)
      (grantAccessReserved (c.recoded g) triple' u phone maxDraw req now) := by
  refine .andThen (getPoolForSponsor_agree u) fun foundPool => ?_
  refine .andThen (View.Agree.read fun _ _ _ _ _ => rfl) fun foundUser => ?_
  refine .andThen (.orRaise _ _) fun pool => .andThen (.orRaise _ _) fun beneficiary => ?_
  refine .andThen (.ensure _ _) fun _ => .andThen (.ensure _ _) fun _ => ?_
  refine .andThen (View.Agree.read fun _ _ _ _ _ => rfl) fun existing => ?_
  refine .andThen (.ensure _ _) fun _ => .andThen newUlid_agree fun grant => ?_
  refine .andThen ?_ fun _ => ?_
  · exact View.Agree.insert (fun _ _ _ _ _ => rfl) (fun _ _ _ _ _ _ => rfl) fun _ _ _ _ _ => rfl
  refine .andThen (complete_agree hk _ _ _ _) fun _ => ?_
  exact .andThen (auditEvent_agree _ _ _ _ _) fun _ => .pure rfl

theorem grantAccess_agree {u : Ulid} {phone : String} {maxDraw : Int} {key key' : String}
    {req : Option String} (hk : v.triple ⟨u, GRANT_ENDPOINT, key⟩ ⟨u, GRANT_ENDPOINT, key'⟩) :
    v.Agree (grantAccess c u phone maxDraw key req)
      (grantAccess (c.recoded g) u phone maxDraw key' req) := by
  refine .andThen now_agree fun t => ?_
  refine .andThen (SqlIdempotencyRepository.reserve_agree hk _ _) fun decision => ?_
  refine .andThen (replayBodyOrRaise_agree _) fun replay => ?_
  cases replay with
  | some body => exact .pure rfl
  | none => exact grantAccessReserved_agree hk _ _ _ _ _

/-- The triples of a send under two keys: its own, those of its draws, that of its hold. -/
structure SendKeys (v : View) (c : Ctx) (u : Ulid) (key key' : String) : Prop where
  send : v.triple ⟨u, SEND_ENDPOINT, key⟩ ⟨u, SEND_ENDPOINT, key'⟩
  draw : ∀ sponsor : Ulid,
    v.triple ⟨sponsor, "INTERNAL:/overdraft/draw", "spot-draw:" ++ derivedKey c key⟩
      ⟨sponsor, "INTERNAL:/overdraft/draw", "spot-draw:" ++ derivedKey c key'⟩
  hold : v.triple ⟨u, UndoableTransferService.UNDO_HOLD_ENDPOINT, "undo-hold:" ++ derivedKey c key⟩
    ⟨u, UndoableTransferService.UNDO_HOLD_ENDPOINT, "undo-hold:" ++ derivedKey c key'⟩

theorem coverShortfall_agree {u : Ulid} {key key' : String} (hk : SendKeys v c u key key')
    (account : Ulid) (sender : Account) (amount : Money) (grants : List (GrantRow × PoolRow))
    (locked : Ulid → Option Account) (req : Option String) (now : Time) :
    v.Agree (coverShortfall c u account sender amount grants locked key req now)
      (coverShortfall (c.recoded g) u account sender amount grants locked key' req now) := by
  refine .ite _ ?_ (.pure rfl)
  refine .andThen ?_ fun draw => .pure rfl
  refine .andThen (.orRaise _ _) fun selected => ?_
  refine .andThen (execute_agree ("spot-draw:" ++ derivedKey c key') (hk.draw _)) fun draw => ?_
  refine .andThen (.andThen newUlid_agree fun loan => ?_) fun loan => .pure rfl
  refine .andThen ?_ fun _ => .pure rfl
  exact View.Agree.insert (fun _ _ _ _ _ => rfl) (fun _ _ _ _ _ _ => rfl) fun _ _ _ _ _ => rfl

theorem send_agree {u account receiver : Ulid} {amount : Money} {key key' : String}
    {note req : Option String} (hk : SendKeys v c u key key') :
    v.Agree (send c u account receiver amount key note req)
      (send (c.recoded g) u account receiver amount key' note req) := by
  refine .andThen now_agree fun t => ?_
  refine .andThen (SqlIdempotencyRepository.reserve_agree hk.send _ _) fun decision => ?_
  refine .andThen (replayBodyOrRaise_agree _) fun replay => ?_
  cases replay with
  | some body => exact .pure rfl
  | none =>
    refine .andThen (View.Agree.read fun _ _ _ _ _ => rfl) fun grants => ?_
    refine .andThen (SqlAccountRepository.lockForUpdate_agree _) fun locked => ?_
    refine .andThen (.orRaise _ _) fun sender => .andThen (.ensure _ _) fun _ => ?_
    refine .andThen (coverShortfall_agree hk _ _ _ _ _ _ _) fun draw => ?_
    refine .andThen (UndoableTransferService.send_agree hk.hold) fun hold => ?_
    exact .andThen (complete_agree hk.send _ _ _ _) fun _ => .pure rfl

end OverdraftService

end Transfers

end MoneyMovement

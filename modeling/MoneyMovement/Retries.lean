/-
  MoneyMovement/Retries.lean
  ==========================
  **Retrying an acceptance.**

  The key of `MoneyRequestService.accept` is reserved by the transfer it causes,
  after the request's own state was checked.  A retry therefore never reaches
  the stored answer: once a request is accepted it stays accepted, and every
  later `accept` of it stops at that check, whatever its key.
-/
import MoneyMovement.Invariants

namespace MoneyMovement

open Txn

/-! ### Resolved requests stay as they are -/

theorem Step.resolved_kept {c : Ctx} {L : Licence} {k k' : Config} (hs : Step c L k k') {id : Ulid}
    {r : MoneyRequestRow} (hr : k.db.moneyRequests.find? id = some r) (hne : r.status ≠ .pending) :
    k'.db.moneyRequests.find? id = some r := by
  have hother : ∀ {db : Database} {row : MoneyRequestRow} {f : MoneyRequestRow → MoneyRequestRow}
      (hf : ∀ r, (f r).id = r.id), db.moneyRequests.find? id = some r →
      db.moneyRequests.find? row.id = some row → row.status = .pending →
      (db.moneyRequests.modifyAt row.id f hf).find? id = some r := by
    intro db row f hf hr hrow hpending
    rw [Table.find?_modifyAt]
    split
    · rename_i hid
      rw [hid, hrow] at hr
      cases hr
      exact absurd hpending hne
    · exact hr
  cases hs
  case request => exact Table.find?_push_of_some hr
  case decline q f hid hq =>
    dsimp only at hr ⊢
    rw [Table.find?_update, hr, Option.map_some]
    by_cases hqr : q r = true
    · exact absurd (hq r (Table.mem_of_find? hr) hqr).1 hne
    · rw [if_neg hqr]
  case accept hf hpending _ => exact hother (SqlMoneyRequestRepository.id_accepted _ _) hr hf hpending
  case acceptReplayed hf hpending => exact hother (SqlMoneyRequestRepository.id_accepted _ _) hr hf hpending
  all_goals exact hr

theorem Steps.resolved_kept {c : Ctx} {L : Licence} {k k' : Config} (hs : Steps c L k k') {id : Ulid}
    {r : MoneyRequestRow} (hr : k.db.moneyRequests.find? id = some r) (hne : r.status ≠ .pending) :
    k'.db.moneyRequests.find? id = some r := by
  induction hs with
  | refl => exact hr
  | tail _ hs ih => exact hs.resolved_kept ih hne

/-- What a run keeps of an accepted request: its row, and whose account is to pay. -/
theorem serveAll_resolved (d : Deployment) (calls : List Call) {db : Database} {id user : Ulid}
    {r : MoneyRequestRow} (hr : db.moneyRequests.find? id = some r) (hne : r.status ≠ .pending)
    (howner : db.Owner r.payerAccountId user) :
    (serveAll d calls db).moneyRequests.find? id = some r ∧
      (serveAll d calls db).Owner r.payerAccountId user := by
  induction calls generalizing db with
  | nil => exact ⟨hr, howner⟩
  | cons call calls ih =>
    rcases serve_cases d call db with he | hs
    · rw [serveAll, he]
      exact ih hr howner
    · refine ih (hs.resolved_kept hr hne) ?_
      obtain ⟨a, ha, hu⟩ := howner
      obtain ⟨a', ha', -, hu'⟩ := hs.grows.account _ _ ha
      exact ⟨a', ha', hu'.trans hu⟩

/-! ### Accepting -/

namespace MoneyRequestService

variable {c : Ctx} {id user : Ulid} {key : String} {requestId : Option String} {s s' : Session}

theorem settle_ok {record : MoneyRequestRow} {now : Time} {r : MoneyRequestResult}
    (h : settle c record user key requestId now s = .ok r s') :
    r.status = .accepted ∧ ∃ row t, s'.db.moneyRequests.find? record.id =
      some (SqlMoneyRequestRepository.accepted t now row) ∧
      s.db.moneyRequests.find? record.id = some row := by
  obtain ⟨transfer, s₁, h₁, h⟩ := bind_ok.1 h
  obtain ⟨n, s₂, h₂, h⟩ := bind_ok.1 h
  obtain ⟨_, s₃, h₃, h⟩ := bind_ok.1 h
  obtain ⟨hn, rfl⟩ := ensure_ok.1 h₃
  obtain ⟨row, hrow, -, -, e₂⟩ := updateWhere_db h₂ hn
  obtain ⟨_, s₄, h₄, h⟩ := bind_ok.1 h
  obtain ⟨-, e₄⟩ := SqlOutboxPublisher.append_ok h₄
  obtain ⟨_, s₅, h₅, h⟩ := bind_ok.1 h
  obtain ⟨logs, e₅⟩ := SqlAuditRepository.record_ok h₅
  obtain ⟨rfl, rfl⟩ := pure_ok.1 h
  have hsame : s₁.db.moneyRequests = s.db.moneyRequests := by
    rcases execute_ok h₁ with ⟨e₁, -, -⟩ | ⟨p, hp⟩
    · rw [e₁]
    · exact hp.untouched.requests
  refine ⟨rfl, row, transfer.transferId, ?_, by rw [← hsame, hrow]⟩
  rw [e₅, e₄, e₂]
  show (s₁.db.moneyRequests.modifyAt record.id
    (SqlMoneyRequestRepository.accepted transfer.transferId now)
    (SqlMoneyRequestRepository.id_accepted _ _)).find? record.id = _
  rw [Table.find?_modifyAt, if_pos rfl, hrow]
  rfl

/-- A request that was just accepted. -/
theorem accept_ok {r : MoneyRequestResult} (h : accept c id user key requestId s = .ok r s') :
    r.status = .accepted ∧ ∃ row, s'.db.moneyRequests.find? id = some row ∧
      row.status = .accepted ∧ s.db.Owner row.payerAccountId user := by
  obtain ⟨now, s₁, h₁, h⟩ := bind_ok.1 h
  obtain ⟨e₁, -⟩ := now_ok h₁
  obtain ⟨found, s₂, h₂, h⟩ := bind_ok.1 h
  obtain ⟨rfl, rfl⟩ := readDb_ok.1 h₂
  obtain ⟨record, s₃, h₃, h⟩ := bind_ok.1 h
  obtain ⟨hf, rfl⟩ := orRaise_ok.1 h₃
  obtain ⟨payer, s₄, h₄, h⟩ := bind_ok.1 h
  obtain ⟨_, s₅, h₅, h⟩ := bind_ok.1 h
  obtain ⟨howner, rfl⟩ := ensure_ok.1 h₅
  obtain ⟨rfl, howner⟩ := getById_owner h₄ howner
  obtain ⟨_, s₆, h₆, h⟩ := bind_ok.1 h
  obtain ⟨-, rfl⟩ := ensure_ok.1 h₆
  split at h
  · obtain ⟨_, s₇, -, h⟩ := bind_ok.1 h
    exact (raise_ok.1 h).elim
  · obtain ⟨hstatus, row, t, hrow', hrow⟩ := settle_ok h
    have hid : record.id = id := Table.key_of_find? hf
    rw [hid] at hrow hrow'
    obtain rfl : record = row := Option.some.inj (hf.symm.trans hrow)
    exact ⟨hstatus, _, hrow', rfl, e₁ ▸ howner⟩

/-- A resolved request refuses its payer, before any key is looked at. -/
theorem accept_of_resolved {row : MoneyRequestRow}
    (hrow : s.db.moneyRequests.find? id = some row) (hne : row.status ≠ .pending)
    (howner : s.db.Owner row.payerAccountId user) :
    ∃ s', accept c id user key requestId s = .raised (alreadyHandled row.status) s' := by
  obtain ⟨a, ha, hu⟩ := howner
  have h₁ : now c s = .ok (c.oracle.clock s.draws) { s with draws := s.draws + 1 } := rfl
  have h₂ : SqlMoneyRequestRepository.lockForUpdate id { s with draws := s.draws + 1 } =
      .ok (some row) { s with draws := s.draws + 1 } := readDb_ok.2 ⟨hrow, rfl⟩
  have h₃ : SqlAccountRepository.getById row.payerAccountId { s with draws := s.draws + 1 } =
      .ok (some a.toDomain) { s with draws := s.draws + 1 } := by
    refine readDb_ok.2 ⟨?_, rfl⟩
    show (s.db.accounts.find? row.payerAccountId).map AccountRow.toDomain = _
    rw [ha, Option.map_some]
  have hpayer : (some a.toDomain).bind Account.userId = some user := hu
  rw [accept, bind_of_ok h₁, bind_of_ok h₂, bind_of_ok (orRaise_ok.2 ⟨rfl, rfl⟩), bind_of_ok h₃,
    bind_of_ok (ensure_of_pos hpayer _ _), bind_of_raised (ensure_of_neg hne _ _)]
  exact ⟨_, rfl⟩

end MoneyRequestService

/-! ### Retries -/

/-- The payer's command is answered with `r`, in the database it leaves. -/
def Accepts (d : Deployment) (o : Oracle) (db : Database) (user : Ulid) (pin : String) (id : Ulid)
    (key : String) (requestId : Option String) (r : MoneyRequestResult) (db' : Database) : Prop :=
  ∃ s, handle (d.ctx o) (.acceptRequest user pin id key requestId) (begin db) =
    .ok (.ok (.moneyRequest r)) s ∧ s.db = db'

theorem Accepts.accept {d : Deployment} {o : Oracle} {db db' : Database} {user id : Ulid}
    {pin key : String} {requestId : Option String} {r : MoneyRequestResult}
    (h : Accepts d o db user pin id key requestId r db') :
    ∃ s s', SameButCounters (begin db) s ∧ s'.db = db' ∧
      MoneyRequestService.accept (d.ctx o) id user key requestId s = .ok r s' := by
  obtain ⟨s', h, hdb⟩ := h
  obtain ⟨answer, s₁, h₁, h⟩ := bind_ok.1 h
  obtain ⟨hr, rfl⟩ := pure_ok.1 h
  cases answer with
  | error e => cases hr
  | ok r' =>
    cases hr
    obtain ⟨s, hs, hop⟩ := runPinProtected_ok h₁
    exact ⟨s, s₁, hs, hdb, hop⟩

/-- However late, with whatever PIN and key: an accepted request refuses to be accepted
    again, and no answer is replayed. -/
theorem accept_retry_refused (d : Deployment) (now : Time) (calls later : List Call) (o : Oracle)
    (user : Ulid) (pin : String) (id : Ulid) (key : String) (requestId : Option String)
    (r : MoneyRequestResult) (db' : Database)
    (h : Accepts d o (serveAll d calls (migrated now)) user pin id key requestId r db') :
    r.status = .accepted ∧
      (∀ o' requestId', ∃ s, MoneyRequestService.accept (d.ctx o') id user key requestId'
        (begin (serveAll d later db')) =
          .raised (MoneyRequestService.alreadyHandled .accepted) s) ∧
      ∀ o' pin' requestId', ¬∃ r' db'', Accepts d o' (serveAll d later db') user pin' id key
        requestId' r' db'' := by
  obtain ⟨s, s', ⟨users, -, hs⟩, rfl, haccept⟩ := h.accept
  obtain ⟨hstatus, row, hrow, haccepted, howner⟩ := MoneyRequestService.accept_ok haccept
  have hne : row.status ≠ .pending := by
    rw [haccepted]
    decide
  have howner' : s'.db.Owner row.payerAccountId user := by
    have hsteps : Steps (d.ctx o) .all ⟨⟨.none, none, []⟩, s.db⟩ ⟨⟨.none, none, []⟩, s'.db⟩ :=
      MoneyRequestService.accept_steps [] (fun _ _ _ _ _ _ => trivial) (fun _ _ _ _ _ _ _ => trivial)
        haccept
    obtain ⟨a, ha, hu⟩ := howner
    obtain ⟨a', ha', -, hu'⟩ := hsteps.grows.account _ _ ha
    exact ⟨a', ha', hu'.trans hu⟩
  obtain ⟨hlater, hlaterOwner⟩ := serveAll_resolved d later hrow hne howner'
  refine ⟨hstatus, ?_, ?_⟩
  · intro o' requestId'
    rw [← haccepted]
    exact MoneyRequestService.accept_of_resolved hlater hne hlaterOwner
  · rintro o' pin' requestId' ⟨r', db'', hretry⟩
    obtain ⟨t, t', ⟨users', -, ht⟩, -, hop⟩ := hretry.accept
    have hrow' : t.db.moneyRequests.find? id = some row := by
      rw [ht]
      exact hlater
    have hown : t.db.Owner row.payerAccountId user := by
      rw [ht]
      exact hlaterOwner
    obtain ⟨_, hraised⟩ : ∃ s, MoneyRequestService.accept (d.ctx o') id user key requestId' t =
        .raised (MoneyRequestService.alreadyHandled row.status) s :=
      MoneyRequestService.accept_of_resolved hrow' hne hown
    rw [hraised] at hop
    cases hop

namespace Sample

/-- Two users register, and the second asks the first for money. -/
def askedCalls : List Call :=
  [register 1 "01711111111", register 2 "01722222222",
    call 3 (.createRequest (id 2 1) "01711111111" (.fromMinor 5000) none none)]

/-- The first pays. -/
def payment : Outcome AppError Session (Except AppError Reply) :=
  handle (deployment.ctx (oracle 4 start)) (.acceptRequest (id 1 1) "1234" (id 3 1) "key" none)
    (begin (serveAll deployment askedCalls (migrated 0)))

/-- The answer to a payment. -/
def answer? : Outcome AppError Session (Except AppError Reply) → Option MoneyRequestResult
  | .ok (.ok (.moneyRequest r)) _ => some r
  | _ => none

theorem answered {o : Outcome AppError Session (Except AppError Reply)}
    (h : (answer? o).isSome = true) : ∃ r s, o = .ok (.ok (.moneyRequest r)) s := by
  unfold answer? at h
  split at h
  · exact ⟨_, _, rfl⟩
  · cases h

theorem payment_answered : ∃ r s, payment = .ok (.ok (.moneyRequest r)) s :=
  answered (by decide +kernel)

end Sample

/-- The payment succeeds, and the same command with the same key is refused right after. -/
theorem accept_retry_refused_once :
    ∃ r db', Accepts Sample.deployment (Sample.oracle 4 Sample.start)
        (serveAll Sample.deployment Sample.askedCalls (migrated 0)) (Sample.id 1 1) "1234"
        (Sample.id 3 1) "key" none r db' ∧
      ∃ s, MoneyRequestService.accept (Sample.deployment.ctx (Sample.oracle 5 Sample.start))
        (Sample.id 3 1) (Sample.id 1 1) "key" none (begin db') =
          .raised (MoneyRequestService.alreadyHandled .accepted) s := by
  obtain ⟨r, s, hs⟩ := Sample.payment_answered
  exact ⟨r, s.db, ⟨s, hs, rfl⟩, (accept_retry_refused Sample.deployment 0 Sample.askedCalls []
    (Sample.oracle 4 Sample.start) (Sample.id 1 1) "1234" (Sample.id 3 1) "key" none r s.db
    ⟨s, hs, rfl⟩).2.1 (Sample.oracle 5 Sample.start) none⟩

/-- So the retry is not answered with the stored result. -/
theorem accept_retry_not_replayed :
    ∃ r db', Accepts Sample.deployment (Sample.oracle 4 Sample.start)
        (serveAll Sample.deployment Sample.askedCalls (migrated 0)) (Sample.id 1 1) "1234"
        (Sample.id 3 1) "key" none r db' ∧
      ¬Accepts Sample.deployment (Sample.oracle 5 Sample.start) db' (Sample.id 1 1) "1234"
        (Sample.id 3 1) "key" none r db' := by
  obtain ⟨r, s, hs⟩ := Sample.payment_answered
  refine ⟨r, s.db, ⟨s, hs, rfl⟩, ?_⟩
  have hrefused : (Sample.answer? (handle (Sample.deployment.ctx (Sample.oracle 5 Sample.start))
      (.acceptRequest (Sample.id 1 1) "1234" (Sample.id 3 1) "key" none)
      (begin Sample.payment.session.db))).isSome = false := by
    decide +kernel
  rw [hs] at hrefused
  rintro ⟨s', hs', -⟩
  have hdb : (Outcome.ok (Except.ok (Reply.moneyRequest r)) s :
      Outcome AppError Session (Except AppError Reply)).session.db = s.db := rfl
  rw [hdb, hs'] at hrefused
  cases hrefused

end MoneyMovement

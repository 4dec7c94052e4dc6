/-
  MoneyMovement/RequestPaths.lean
  ===============================
  **Every request as steps.**

  Money requests, the identity service and the scheduler's batch, and then
  `handle_steps`: whatever a request commits is a sequence of steps its licence
  allows, from nothing begun to everything finished.
-/
import MoneyMovement.SafePayPaths

namespace MoneyMovement

open Txn

variable {c : Ctx} {L : Licence} {s s' : Session}

/-! ### Writes that no money depends on -/

theorem Steps.users {g : Progress} (db : Database) {users : Table UserRow.id}
    (hu : UsersKept db.users users) : Steps c L ⟨g, db⟩ ⟨g, { db with users := users }⟩ :=
  .single (.quiet users db.sessions db.auditLogs db.outboxEvents (.refl _) hu (.refl _))

theorem Steps.sessions {g : Progress} (db : Database) {sessions : Table SessionRow.id}
    (hs : SessionsKept db.sessions sessions) :
    Steps c L ⟨g, db⟩ ⟨g, { db with sessions := sessions }⟩ :=
  .single (.quiet db.users sessions db.auditLogs db.outboxEvents (.refl _) (.refl _) hs)

/-- An event of another service. -/
theorem SqlOutboxPublisher.append_steps {g : Progress} {e : EventType} {a : Ulid} {t : Time}
    {p : Payload} {tr : Option String} {id : Ulid} (he : e ≠ .transferSucceeded)
    (h : SqlOutboxPublisher.append c e a t p tr s = .ok id s') :
    Steps c L ⟨g, s.db⟩ ⟨g, s'.db⟩ := by
  obtain ⟨hn, hdb⟩ := SqlOutboxPublisher.append_ok h
  rw [hdb]
  refine .single (.quiet s.db.users s.db.sessions s.db.auditLogs _ ?_ (.refl _) (.refl _))
  refine ⟨_, Table.rows_push hn, ?_⟩
  intro x hx
  obtain rfl := List.mem_singleton.1 hx
  exact ⟨⟨rfl, rfl, rfl, rfl⟩, he⟩

theorem SqlAuditRepository.record_steps {g : Progress} {actor : Option Ulid} {action type : String}
    {res : Option Ulid} {req : Option String} {m : Option Payload} {t : Time} {u : Unit}
    (h : SqlAuditRepository.record c actor action type res req m t s = .ok u s') :
    Steps c L ⟨g, s.db⟩ ⟨g, s'.db⟩ := by
  obtain ⟨logs, e⟩ := SqlAuditRepository.record_ok h
  rw [e]
  exact Steps.audit _ logs

/-! ### Money requests -/

theorem MoneyRequestService.create_steps {g : Progress} {u : Ulid} {phone : String} {amount : Money}
    {note req : Option String} {r : MoneyRequestResult} (hl : L.ask)
    (h : MoneyRequestService.create c u phone amount note req s = .ok r s') :
    Steps c L ⟨g, s.db⟩ ⟨g, s'.db⟩ := by
  obtain ⟨now, s₁, h₁, h⟩ := bind_ok.1 h
  have e₁ := (now_ok h₁).1
  obtain ⟨foundRequester, s₂, h₂, h⟩ := bind_ok.1 h
  obtain ⟨rfl, hrequester⟩ := SqlAccountRepository.getByUserId_ok h₂
  obtain ⟨requester, s₃, h₃, h⟩ := bind_ok.1 h
  obtain ⟨hr, rfl⟩ := orRaise_ok.1 h₃
  obtain ⟨foundPayer, s₄, h₄, h⟩ := bind_ok.1 h
  obtain ⟨rfl, hpayer⟩ := SqlAccountRepository.getByPhone_ok h₄
  obtain ⟨payer, s₅, h₅, h⟩ := bind_ok.1 h
  obtain ⟨hp, rfl⟩ := orRaise_ok.1 h₅
  obtain ⟨_, s₆, h₆, h⟩ := bind_ok.1 h
  obtain ⟨-, rfl⟩ := ensure_ok.1 h₆
  obtain ⟨_, s₇, h₇, h⟩ := bind_ok.1 h
  obtain ⟨-, rfl⟩ := ensure_ok.1 h₇
  obtain ⟨_, s₈, h₈, h⟩ := bind_ok.1 h
  obtain ⟨-, rfl⟩ := ensure_ok.1 h₈
  obtain ⟨_, s₉, h₉, h⟩ := bind_ok.1 h
  obtain ⟨-, rfl⟩ := ensure_ok.1 h₉
  obtain ⟨id, s₁₀, h₁₀, h⟩ := bind_ok.1 h
  obtain ⟨reference, s₁₁, h₁₁, h⟩ := bind_ok.1 h
  have e₁₁ := (generateReference_ok h₁₁).trans (newUlid_ok h₁₀)
  obtain ⟨_, s₁₂, h₁₂, h⟩ := bind_ok.1 h
  obtain ⟨_, s₁₃, h₁₃, h₁₂⟩ := bind_ok.1 h₁₂
  obtain ⟨-, rfl⟩ := ensure_ok.1 h₁₃
  obtain ⟨hn, -, e₁₂⟩ := insertInto_ok h₁₂
  rw [e₁₁] at hn e₁₂
  obtain ⟨_, s₁₄, h₁₄, h⟩ := bind_ok.1 h
  obtain ⟨_, s₁₅, h₁₅, h⟩ := bind_ok.1 h
  obtain ⟨-, rfl⟩ := pure_ok.1 h
  have hrow : Steps c L ⟨g, s.db⟩ ⟨g, s₁₂.db⟩ := by
    rw [e₁₂, ← e₁]
    exact .single (.request _ hl hn rfl rfl (hpayer payer hp) ⟨u, hrequester requester hr⟩)
  exact (hrow.trans (SqlOutboxPublisher.append_steps (by decide) h₁₄)).trans
    (SqlAuditRepository.record_steps h₁₅)

theorem getById_owner {id u : Ulid} {o : Option Account}
    (h : SqlAccountRepository.getById id s = .ok o s') (ho : o.bind Account.userId = some u) :
    s = s' ∧ s.db.Owner id u := by
  obtain ⟨rfl, rfl⟩ := readDb_ok.1 h
  obtain ⟨a, ha, hu⟩ := Option.bind_eq_some_iff.1 ho
  obtain ⟨row, hrow, rfl⟩ := Option.map_eq_some_iff.1 ha
  exact ⟨rfl, row, hrow, hu⟩

variable (rs : List IdempotencyRow)

/-- Pay, then latch.  A replayed payment still latches the row. -/
theorem MoneyRequestService.settle_steps {record : MoneyRequestRow} {u : Ulid} {key : String}
    {req : Option String} {now : Time} {r : MoneyRequestResult} (hc : L.Covers c .requestSettlement)
    (hf : s.db.moneyRequests.find? record.id = some record) (hs : record.status = .pending)
    (hl : ∀ t, L.request record (SqlMoneyRequestRepository.accepted t now record))
    (h : MoneyRequestService.settle c record u key req now s = .ok r s') :
    Steps c L ⟨⟨.none, none, rs⟩, s.db⟩ ⟨⟨.none, none, rs⟩, s'.db⟩ := by
  obtain ⟨transfer, s₁, h₁, h⟩ := bind_ok.1 h
  obtain ⟨n, s₂, h₂, h⟩ := bind_ok.1 h
  obtain ⟨_, s₃, h₃, h⟩ := bind_ok.1 h
  obtain ⟨hn, rfl⟩ := ensure_ok.1 h₃
  obtain ⟨row, hrow, -, hadmits, e₂⟩ := updateWhere_db h₂ hn
  obtain ⟨_, s₄, h₄, h⟩ := bind_ok.1 h
  obtain ⟨_, s₅, h₅, h⟩ := bind_ok.1 h
  obtain ⟨-, rfl⟩ := pure_ok.1 h
  rw [Bool.and_eq_true, List.all_eq_true] at hadmits
  have hunique := fun x hx => of_decide_eq_true (hadmits.1 x hx)
  have hlatched : Steps c L ⟨⟨.none, none, rs⟩, s.db⟩ ⟨⟨.none, none, rs⟩, s₂.db⟩ := by
    rw [e₂]
    rcases execute_ok h₁ with ⟨e₁, -, stored, hstored⟩ | ⟨p, hp⟩
    · rw [e₁] at hunique ⊢
      exact .single (.acceptReplayed record u key req now hstored hunique hf hs)
    · have hw : Warrant c s.db p .none (.accept p.row record.id) := .request hp.cmd_eq hf hs
      have hsteps := hp.steps L .none _ rs (hc _ _ _ _ (by rw [hp.cmd_eq]; rfl) hw)
      have hid : transfer.transferId = p.row.id := by
        rw [hp.result]
        rfl
      rw [hid]
      exact hsteps.tail (.accept record now (by rw [hp.untouched.requests, hf]) hs (hl _))
  exact (hlatched.trans (SqlOutboxPublisher.append_steps (by decide) h₄)).trans
    (SqlAuditRepository.record_steps h₅)

theorem MoneyRequestService.accept_steps {id u : Ulid} {key : String} {req : Option String}
    {r : MoneyRequestResult} (hc : L.Covers c .requestSettlement)
    (hl : ∀ x x' : MoneyRequestRow, x.id = id → s.db.Owner x.payerAccountId u → x'.status = .accepted →
      x'.respondedAt = some (c.oracle.clock s.draws) → c.oracle.clock s.draws < x.expiresAt →
      L.request x x')
    (h : MoneyRequestService.accept c id u key req s = .ok r s') :
    Steps c L ⟨⟨.none, none, rs⟩, s.db⟩ ⟨⟨.none, none, rs⟩, s'.db⟩ := by
  obtain ⟨now, s₁, h₁, h⟩ := bind_ok.1 h
  obtain ⟨e₁, hnow⟩ := now_ok h₁
  obtain ⟨found, s₂, h₂, h⟩ := bind_ok.1 h
  obtain ⟨rfl, rfl⟩ := readDb_ok.1 h₂
  obtain ⟨record, s₃, h₃, h⟩ := bind_ok.1 h
  obtain ⟨hf, rfl⟩ := orRaise_ok.1 h₃
  obtain ⟨payer, s₄, h₄, h⟩ := bind_ok.1 h
  obtain ⟨_, s₅, h₅, h⟩ := bind_ok.1 h
  obtain ⟨howner, rfl⟩ := ensure_ok.1 h₅
  obtain ⟨rfl, howner⟩ := getById_owner h₄ howner
  obtain ⟨_, s₆, h₆, h⟩ := bind_ok.1 h
  obtain ⟨hpending, rfl⟩ := ensure_ok.1 h₆
  split at h
  · obtain ⟨_, s₇, -, h⟩ := bind_ok.1 h
    exact (raise_ok.1 h).elim
  · rename_i hexp
    have hid : record.id = id := Table.key_of_find? hf
    rw [← e₁]
    refine MoneyRequestService.settle_steps rs hc (hid ▸ hf) hpending ?_ h
    intro t
    exact hl _ _ hid (e₁ ▸ howner) rfl (congrArg some hnow) (hnow ▸ Nat.lt_of_not_le hexp)

theorem MoneyRequestService.announce_steps {g : Progress} {role : Role} {id u : Ulid}
    {req : Option String} {now : Time} {v : Unit}
    (h : announce c role id u req now s = .ok v s') : Steps c L ⟨g, s.db⟩ ⟨g, s'.db⟩ := by
  cases role with
  | payer =>
    obtain ⟨_, s₁, h₁, h⟩ := bind_ok.1 h
    obtain ⟨-, rfl⟩ := pure_ok.1 h
    exact SqlOutboxPublisher.append_steps (by decide) h₁
  | requester =>
    obtain ⟨-, rfl⟩ := pure_ok.1 h
    exact .refl

theorem MoneyRequestService.terminate_steps {g : Progress} {role : Role} {id u : Ulid}
    {req : Option String} {r : MoneyRequestResult}
    (hl : ∀ x x' : MoneyRequestRow, x.id = id → s.db.Owner (role.accountOf x) u →
      x'.status = role.outcome → L.request x x')
    (h : terminate c role id u req s = .ok r s') : Steps c L ⟨g, s.db⟩ ⟨g, s'.db⟩ := by
  obtain ⟨now, s₁, h₁, h⟩ := bind_ok.1 h
  have e₁ := (now_ok h₁).1
  obtain ⟨found, s₂, h₂, h⟩ := bind_ok.1 h
  obtain ⟨rfl, rfl⟩ := readDb_ok.1 h₂
  obtain ⟨record, s₃, h₃, h⟩ := bind_ok.1 h
  obtain ⟨hf, rfl⟩ := orRaise_ok.1 h₃
  obtain ⟨account, s₄, h₄, h⟩ := bind_ok.1 h
  obtain ⟨_, s₅, h₅, h⟩ := bind_ok.1 h
  obtain ⟨howner, rfl⟩ := ensure_ok.1 h₅
  obtain ⟨rfl, howner⟩ := getById_owner h₄ howner
  obtain ⟨n, s₆, h₆, h⟩ := bind_ok.1 h
  obtain ⟨_, s₇, h₇, h⟩ := bind_ok.1 h
  obtain ⟨hn, rfl⟩ := ensure_ok.1 h₇
  obtain ⟨row, hrow, hpending, -, e₆⟩ := updateWhere_db h₆ hn
  obtain ⟨_, s₈, h₈, h⟩ := bind_ok.1 h
  obtain ⟨_, s₉, h₉, h⟩ := bind_ok.1 h
  obtain ⟨-, rfl⟩ := pure_ok.1 h
  obtain rfl : record = row := Option.some.inj (hf.symm.trans hrow)
  have hlatched : Steps c L ⟨g, s.db⟩ ⟨g, s₆.db⟩ := by
    rw [e₆, ← e₁]
    refine .single (.decline _ _ _ ?_)
    intro x hx hid
    rw [decide_eq_true_eq] at hid
    have hxr : x = record := Table.eq_of_key hx (Table.mem_of_find? hf)
      (hid.trans (Table.key_of_find? hf).symm)
    subst hxr
    refine ⟨by simpa using hpending, ?_, ?_, rfl, ⟨rfl, rfl, rfl, rfl⟩, hl _ _ hid (e₁ ▸ howner) rfl⟩
    · change role.outcome ≠ .pending
      cases role <;> decide
    · change role.outcome ≠ .accepted
      cases role <;> decide
  exact (hlatched.trans (MoneyRequestService.announce_steps h₈)).trans
    (SqlAuditRepository.record_steps h₉)

theorem MoneyRequestService.expireDue_steps {g : Progress} {n : Nat}
    (hl : ∀ x x' : MoneyRequestRow, x'.status = .expired → x.expiresAt ≤ c.oracle.clock s.draws →
      L.request x x')
    (h : MoneyRequestService.expireDue c s = .ok n s') :
    Steps c L ⟨g, s.db⟩ ⟨g, s'.db⟩ ∧ s'.db.safepayEscrows = s.db.safepayEscrows ∧
      s'.db.scheduledTasks = s.db.scheduledTasks := by
  obtain ⟨now, s₁, h₁, h⟩ := bind_ok.1 h
  obtain ⟨e₁, hnow⟩ := now_ok h₁
  obtain ⟨k, s₂, h₂, h⟩ := bind_ok.1 h
  obtain ⟨-, rfl⟩ := readDb_ok.1 h₂
  obtain ⟨_, s₃, h₃, h⟩ := bind_ok.1 h
  obtain ⟨-, rfl⟩ := pure_ok.1 h
  rw [writeDb_ok h₃, e₁]
  refine ⟨.single (.decline _ _ _ ?_), rfl, rfl⟩
  intro x _ hdue
  unfold SqlMoneyRequestRepository.isDue at hdue
  rw [decide_eq_true_eq] at hdue
  exact ⟨hdue.1, nofun, nofun, rfl, ⟨rfl, rfl, rfl, rfl⟩, hl _ _ rfl (hnow ▸ hdue.2)⟩

/-! ### Identity -/

/-- Two sessions whose databases differ in their users at most. -/
def SameButUsers (s s' : Session) : Prop :=
  ∃ users, UsersKept s.db.users users ∧ s'.db = { s.db with users := users }

instance : Std.Refl SameButUsers := ⟨fun s => ⟨s.db.users, .refl _, rfl⟩⟩

/-- The users are the same, too, with the same phone numbers. -/
def SameButCounters (s s' : Session) : Prop :=
  ∃ users, SameNumbers s.db.users users ∧ s'.db = { s.db with users := users }

instance : Std.Refl SameButCounters := ⟨fun s => ⟨s.db.users, .refl _, rfl⟩⟩

instance : IsTrans Session SameButCounters := ⟨by
  rintro s s₁ s₂ ⟨users, hu, h⟩ ⟨users', hu', h'⟩
  rw [h] at hu'
  exact ⟨users', hu.trans hu', by rw [h', h]⟩⟩

theorem SqlUserRepository.modifyUser_always (id : Ulid) (f : UserRow → UserRow)
    (hf : ∀ u, (f u).id = u.id) (hphone : ∀ u, (f u).phone = u.phone) :
    Always SameButCounters (modifyUser c id f hf) :=
  Always.modify fun _ =>
    ⟨_, .modifyAt id (fun u => { f u with updatedAt := c.oracle.dbNow }) hf hphone, rfl⟩

/-- A PIN check, passed or not, touches only the user's own counters. -/
theorem AuthService.verifyPin_always (u : Ulid) (pin : String) :
    Always SameButCounters (verifyPin c u pin) := by
  have hnow : Always SameButCounters (now c) := fun s => ⟨s.db.users, .refl _, rfl⟩
  refine hnow.bind fun t => (Always.query _).bind fun found => (Always.orRaise _ _).bind fun user =>
    (Always.ensure _ _).bind fun _ => ?_
  split
  · unfold resetFailures
    split
    · exact Always.pure _
    · exact SqlUserRepository.modifyUser_always _ _ _ fun _ => rfl
  · refine (SqlUserRepository.modifyUser_always _ _ _ ?_).bind fun _ => ?_
    · exact fun _ => rfl
    · split <;> exact Always.raise _

/-- An operation behind the PIN check was refused, or it ran. -/
theorem runPinProtected_cases {α : Type} {u : Ulid} {pin : String} {op : Tx α}
    {r : Except AppError α} (h : runPinProtected c u pin op s = .ok r s') :
    (∃ e, r = .error e ∧ SameButCounters s s') ∨
      ∃ s₁ a, r = .ok a ∧ SameButCounters s s₁ ∧ op s₁ = .ok a s' := by
  obtain ⟨checked, s₁, h₁, h⟩ := bind_ok.1 h
  have hpin : SameButCounters s s₁ := by
    have hv := AuthService.verifyPin_always (c := c) u pin s
    rcases attempt_ok.1 h₁ with ⟨_, h₁, -⟩ | ⟨_, h₁, -⟩ <;> rw [h₁] at hv <;> exact hv
  cases checked with
  | ok _ =>
    obtain ⟨a, s₂, h₂, h⟩ := bind_ok.1 h
    obtain ⟨rfl, rfl⟩ := pure_ok.1 h
    exact .inr ⟨s₁, a, rfl, hpin, h₂⟩
  | error e =>
    dsimp only at h
    split at h
    · obtain ⟨rfl, rfl⟩ := pure_ok.1 h
      exact .inl ⟨e, rfl, hpin⟩
    · exact (raise_ok.1 h).elim

/-- What an accepted `PIN` leaves to the operation. -/
theorem runPinProtected_ok {α : Type} {u : Ulid} {pin : String} {op : Tx α} {a : α}
    (h : runPinProtected c u pin op s = .ok (.ok a) s') :
    ∃ s₁, SameButCounters s s₁ ∧ op s₁ = .ok a s' := by
  rcases runPinProtected_cases h with ⟨e, he, -⟩ | ⟨s₁, a', ha, hpin, hop⟩
  · cases he
  · cases ha
    exact ⟨s₁, hpin, hop⟩

/-- A refused PIN leaves its counters behind, and nothing else. -/
theorem runPinProtected_error {α : Type} {u : Ulid} {pin : String} {op : Tx α} {e : AppError}
    (h : runPinProtected c u pin op s = .ok (.error e) s') : SameButCounters s s' := by
  rcases runPinProtected_cases h with ⟨_, -, hpin⟩ | ⟨s₁, a, ha, -⟩
  · exact hpin
  · cases ha

theorem SameButCounters.steps (h : SameButCounters s s') : Steps c L ⟨.idle, s.db⟩ ⟨.idle, s'.db⟩ := by
  obtain ⟨users, hu, he⟩ := h
  rw [he]
  exact Steps.users s.db hu.usersKept

theorem runPinProtected_steps {α : Type} {u : Ulid} {pin : String} {op : Tx α}
    {r : Except AppError α}
    (hop : ∀ users s₁ a, s₁.db = { s.db with users := users } → op s₁ = .ok a s' →
      Steps c L ⟨.idle, s₁.db⟩ ⟨.idle, s'.db⟩)
    (h : runPinProtected c u pin op s = .ok r s') : Steps c L ⟨.idle, s.db⟩ ⟨.idle, s'.db⟩ := by
  rcases runPinProtected_cases h with ⟨e, -, hpin⟩ | ⟨s₁, a, -, hpin, hrun⟩
  · exact hpin.steps
  · have hsteps : Steps c L ⟨.idle, s.db⟩ ⟨.idle, s₁.db⟩ := hpin.steps
    obtain ⟨users, -, he⟩ := hpin
    exact hsteps.trans (hop users s₁ a he hrun)

theorem AuthService.issueSession_ok {u : Ulid} {now : Time} {client : ClientContext}
    {r : Ulid × AuthTokens} (h : issueSession c u now client s = .ok r s') :
    ∃ sessions, SessionsKept s.db.sessions sessions ∧ s'.db = { s.db with sessions := sessions } := by
  obtain ⟨id, s₁, h₁, h⟩ := bind_ok.1 h
  obtain ⟨raw, s₂, h₂, h⟩ := bind_ok.1 h
  obtain ⟨_, s₃, h₃, h⟩ := bind_ok.1 h
  obtain ⟨-, rfl⟩ := pure_ok.1 h
  obtain ⟨_, s₄, h₄, h₃⟩ := bind_ok.1 h₃
  obtain ⟨-, rfl⟩ := ensure_ok.1 h₄
  obtain ⟨hn, -, e⟩ := insertInto_ok h₃
  rw [(tokenUrlsafe_ok h₂).trans (newUlid_ok h₁)] at hn e
  exact ⟨_, .push hn, e⟩

theorem AuthService.issueSession_steps {g : Progress} {u : Ulid} {now : Time}
    {client : ClientContext} {r : Ulid × AuthTokens}
    (h : issueSession c u now client s = .ok r s') : Steps c L ⟨g, s.db⟩ ⟨g, s'.db⟩ := by
  obtain ⟨sessions, hs, e⟩ := AuthService.issueSession_ok h
  rw [e]
  exact Steps.sessions _ hs

theorem AuthService.createUser_ok {row : UserRow} {v : Unit} (h : createUser row s = .ok v s') :
    ∃ users, UsersKept s.db.users users ∧ s'.db = { s.db with users := users } := by
  obtain ⟨created, s₁, h₁, h⟩ := bind_ok.1 h
  rcases attempt_ok.1 h₁ with ⟨_, hc, rfl⟩ | ⟨e, -, rfl⟩
  · obtain ⟨-, rfl⟩ := pure_ok.1 h
    obtain ⟨_, s₂, h₂, hc⟩ := bind_ok.1 hc
    obtain ⟨-, rfl⟩ := ensure_ok.1 h₂
    obtain ⟨hn, hadmits, e⟩ := insertInto_ok hc
    have hphones := List.all_eq_true.1 (Bool.and_eq_true_iff.1 hadmits).1
    exact ⟨_, .push hn fun u hu => of_decide_eq_true (hphones u hu), e⟩
  · dsimp only at h
    split at h <;> exact (raise_ok.1 h).elim

/-- The account, then its opening grant. -/
theorem OpenAccountUseCase.execute_steps {u id : Ulid} {opening : Money} {number : String}
    {now : Time} {req : Option String} (hc : L.Covers c .signupGrant)
    (h : OpenAccountUseCase.execute c u opening number now req s = .ok id s') :
    Steps c L ⟨.idle, s.db⟩ ⟨.idle, s'.db⟩ := by
  obtain ⟨accountId, s₁, h₁, h⟩ := bind_ok.1 h
  have e₁ := newUlid_ok h₁
  obtain ⟨_, s₂, h₂, h⟩ := bind_ok.1 h
  obtain ⟨_, s₃, h₃, h⟩ := bind_ok.1 h
  obtain ⟨-, rfl⟩ := pure_ok.1 h
  obtain ⟨hn, hunique, hex, e₂⟩ := SqlAccountRepository.createSubaccount_ok h₂
  have hopen : Steps c L ⟨.idle, s.db⟩ ⟨.idle, s₂.db⟩ := by
    rw [e₂, e₁] at *
    exact .single (.openAccount _ u hn rfl rfl rfl rfl (fun x hx => hunique x hx u rfl) rfl
      (hex u rfl))
  refine hopen.trans ?_
  unfold fund at h₃
  split at h₃
  · obtain ⟨_, s₄, h₄, h₃⟩ := bind_ok.1 h₃
    obtain ⟨-, rfl⟩ := pure_ok.1 h₃
    rcases execute_ok h₄ with ⟨e₄, -, -⟩ | ⟨p, hp⟩
    · rw [e₄]
    · have hown : s₂.db.OwnedBy accountId u := by
        rw [e₂]
        exact ⟨_, Table.find?_push_self hn, rfl, rfl⟩
      exact hp.steps L .none .none [] (hc _ _ _ _ (by rw [hp.cmd_eq]; rfl) (.grant hp.cmd_eq hown))
  · obtain ⟨-, rfl⟩ := pure_ok.1 h₃
    exact .refl

theorem AuthService.register_steps {phone name password pin : String} {req : Option String}
    {client : ClientContext} {r : RegisteredUser} (hc : L.Covers c .signupGrant)
    (h : register c phone name password pin req client s = .ok r s') :
    Steps c L ⟨.idle, s.db⟩ ⟨.idle, s'.db⟩ := by
  obtain ⟨now, s₁, h₁, h⟩ := bind_ok.1 h
  obtain ⟨userId, s₂, h₂, h⟩ := bind_ok.1 h
  obtain ⟨passwordHash, s₃, h₃, h⟩ := bind_ok.1 h
  obtain ⟨pinHash, s₄, h₄, h⟩ := bind_ok.1 h
  have e₄ := (((hashPassword_ok h₄).trans (hashPassword_ok h₃)).trans (newUlid_ok h₂)).trans
    (now_ok h₁).1
  obtain ⟨_, s₅, h₅, h⟩ := bind_ok.1 h
  obtain ⟨users, hu, e₅⟩ := AuthService.createUser_ok h₅
  obtain ⟨accountId, s₆, h₆, h⟩ := bind_ok.1 h
  obtain ⟨issued, s₇, h₇, h⟩ := bind_ok.1 h
  obtain ⟨-, rfl⟩ := pure_ok.1 h
  rw [e₄] at hu e₅
  have husers : Steps c L ⟨.idle, s.db⟩ ⟨.idle, s₅.db⟩ := e₅ ▸ Steps.users s.db hu
  exact (husers.trans (OpenAccountUseCase.execute_steps hc h₆)).trans
    (AuthService.issueSession_steps h₇)

theorem AuthService.login_steps {g : Progress} {phone password : String} {client : ClientContext}
    {r : Ulid × AuthTokens} (h : login c phone password client s = .ok r s') :
    Steps c L ⟨g, s.db⟩ ⟨g, s'.db⟩ := by
  obtain ⟨now, s₁, h₁, h⟩ := bind_ok.1 h
  have e₁ := (now_ok h₁).1
  obtain ⟨found, s₂, h₂, h⟩ := bind_ok.1 h
  obtain ⟨rfl, rfl⟩ := readDb_ok.1 h₂
  cases hu : List.find? (fun u : UserRow => decide (u.phone = phone)) s₁.db.users.rows with
  | none =>
    rw [hu] at h
    obtain ⟨_, s₃, -, h⟩ := bind_ok.1 h
    exact (raise_ok.1 h).elim
  | some user =>
    rw [hu] at h
    obtain ⟨_, s₃, h₃, h⟩ := bind_ok.1 h
    obtain ⟨-, rfl⟩ := ensure_ok.1 h₃
    obtain ⟨_, s₄, h₄, h⟩ := bind_ok.1 h
    obtain ⟨-, rfl⟩ := ensure_ok.1 h₄
    obtain ⟨_, s₅, h₅, h⟩ := bind_ok.1 h
    obtain ⟨issued, s₆, h₆, h⟩ := bind_ok.1 h
    obtain ⟨-, rfl⟩ := pure_ok.1 h
    refine Relation.ReflTransGen.trans ?_ (AuthService.issueSession_steps h₆)
    unfold rehash at h₅
    split at h₅
    · obtain ⟨_, s₇, h₇, h₅⟩ := bind_ok.1 h₅
      unfold SqlUserRepository.updatePasswordHash SqlUserRepository.modifyUser at h₅
      rw [writeDb_ok h₅, hashPassword_ok h₇, e₁]
      exact Steps.users _ (SameNumbers.usersKept (.modifyAt _ _ _ fun _ => rfl))
    · obtain ⟨-, rfl⟩ := pure_ok.1 h₅
      rw [e₁]

theorem AuthService.refresh_steps {g : Progress} {token : String} {client : ClientContext}
    {r : AuthTokens} (h : refresh c token client s = .ok r s') :
    Steps c L ⟨g, s.db⟩ ⟨g, s'.db⟩ := by
  obtain ⟨now, s₁, h₁, h⟩ := bind_ok.1 h
  have e₁ := (now_ok h₁).1
  obtain ⟨found, s₂, h₂, h⟩ := bind_ok.1 h
  obtain ⟨hf, rfl⟩ := readDb_ok.1 h₂
  cases found with
  | none => exact (raise_ok.1 h).elim
  | some record =>
    dsimp only at h
    split at h
    · obtain ⟨_, s₃, -, h⟩ := bind_ok.1 h
      exact (raise_ok.1 h).elim
    · obtain ⟨_, s₃, h₃, h⟩ := bind_ok.1 h
      obtain ⟨-, rfl⟩ := ensure_ok.1 h₃
      obtain ⟨issued, s₄, h₄, h⟩ := bind_ok.1 h
      obtain ⟨_, s₅, h₅, h⟩ := bind_ok.1 h
      obtain ⟨-, rfl⟩ := pure_ok.1 h
      obtain ⟨n, s₆, h₆, h₅⟩ := bind_ok.1 h₅
      obtain ⟨-, rfl⟩ := pure_ok.1 h₅
      rw [← e₁]
      refine (AuthService.issueSession_steps h₄).trans ?_
      rcases updateWhere_ok h₆ with ⟨-, rfl, -⟩ | ⟨_, -, -, -, -, rfl⟩
      · exact .refl
      · exact Steps.sessions _ (.update _ _ _ fun _ => ⟨rfl, rfl, fun _ => rfl⟩)

theorem AuthService.logout_steps {g : Progress} {token : String} {v : Unit}
    (h : logout c token s = .ok v s') : Steps c L ⟨g, s.db⟩ ⟨g, s'.db⟩ := by
  obtain ⟨now, s₁, h₁, h⟩ := bind_ok.1 h
  have e₁ := (now_ok h₁).1
  obtain ⟨found, s₂, h₂, h⟩ := bind_ok.1 h
  obtain ⟨hf, rfl⟩ := readDb_ok.1 h₂
  rw [← e₁]
  cases found with
  | none =>
    obtain ⟨-, rfl⟩ := pure_ok.1 h
    exact .refl
  | some record =>
    obtain ⟨n, s₃, h₃, h⟩ := bind_ok.1 h
    obtain ⟨-, rfl⟩ := pure_ok.1 h
    rcases updateWhere_ok h₃ with ⟨-, rfl, -⟩ | ⟨_, -, -, -, -, rfl⟩
    · exact .refl
    · exact Steps.sessions _ (.update _ _ _ fun _ => ⟨rfl, rfl, fun _ => rfl⟩)

/-! ### The scheduler's batch -/

theorem OnlyReleases.of_eq {db db' : Database} (h : db'.safepayEscrows = db.safepayEscrows) :
    OnlyReleases db db' := by
  intro id e he _
  exact h ▸ he

theorem OnlyReleases.trans {db₁ db₂ db₃ : Database} (h : OnlyReleases db₁ db₂)
    (k : OnlyReleases db₂ db₃) : OnlyReleases db₁ db₃ := by
  intro id e he hs
  exact h id e (k id e he hs) hs

namespace Scheduler

/-- What the licence must allow a batch claimed in `db₀`. -/
structure Allows (c : Ctx) (L : Licence) (db₀ : Database) (tasks : List TaskRow) : Prop where
  settle : L.Covers c .undoSettle
  release : L.Covers c .escrowRelease
  escrow : ∀ task ∈ tasks, task.taskType = .escrowAutoRelease → ∀ x,
    db₀.safepayEscrows.find? task.resourceId = some x → x.status = .delivered →
      L.escrow task.resourceId .released
  expire : ∀ (x x' : MoneyRequestRow) (i : Nat), x'.status = .expired →
    x.expiresAt ≤ c.oracle.clock i → L.request x x'

/-- The rest of a batch claimed in `db₀`, with the database its earlier tasks left. -/
structure Batch (c : Ctx) (db₀ : Database) (tasks : List TaskRow) (db : Database) : Prop where
  nodup : (tasks.map TaskRow.id).Nodup
  rows : ∀ task ∈ tasks, ∀ t ∈ db.scheduledTasks.rows, t.id = task.id →
    t.taskType = task.taskType ∧ t.resourceId = task.resourceId ∧ t.dueAt ≤ c.oracle.dbNow
  escrows : OnlyReleases db₀ db

theorem handle_steps {db₀ : Database} {task : TaskRow} {tasks : List TaskRow} {v : Unit}
    (ha : Allows c L db₀ (task :: tasks)) (he : OnlyReleases db₀ s.db)
    (h : Scheduler.handle c task s = .ok v s') :
    Steps c L ⟨.idle, s.db⟩ ⟨.idle, s'.db⟩ ∧ TasksKept s.db s'.db ∧ OnlyReleases s.db s'.db ∧
      ∀ t : TaskRow, t.taskType = task.taskType → t.resourceId = task.resourceId → t.Retired s'.db := by
  unfold Scheduler.handle at h
  cases htype : task.taskType <;> simp only [htype] at h
  case undoSettle =>
    obtain ⟨_, s₁, h₁, h⟩ := bind_ok.1 h
    obtain ⟨-, rfl⟩ := pure_ok.1 h
    obtain ⟨hsteps, hes, hts, hover⟩ := UndoableTransferService.settle_steps [] ha.settle h₁
    refine ⟨hsteps, .of_eq hts, .of_eq hes, ?_⟩
    rintro ⟨_, _, _⟩ rfl rfl
    exact hover
  case escrowAutoRelease =>
    obtain ⟨_, s₁, h₁, h⟩ := bind_ok.1 h
    obtain ⟨-, rfl⟩ := pure_ok.1 h
    obtain ⟨hsteps, hts, hes, hover⟩ := SafePayService.autoRelease_steps [] ha.release (by
      intro x hx hst
      exact ha.escrow task List.mem_cons_self htype x (he _ _ hx (by rw [hst]; decide)) hst) h₁
    refine ⟨hsteps, hts, hes, ?_⟩
    rintro ⟨_, _, _⟩ rfl rfl
    exact hover
  case moneyRequestExpiry =>
    obtain ⟨_, s₁, h₁, h⟩ := bind_ok.1 h
    obtain ⟨-, rfl⟩ := pure_ok.1 h
    obtain ⟨hsteps, hes, hts⟩ := MoneyRequestService.expireDue_steps
      (fun x x' hst hdue => ha.expire x x' _ hst hdue) h₁
    refine ⟨hsteps, .of_eq hts, .of_eq hes, ?_⟩
    rintro ⟨_, _, _⟩ rfl rfl
    exact trivial
  case linkExpiry =>
    obtain ⟨-, rfl⟩ := pure_ok.1 h
    refine ⟨.refl, .of_eq rfl, .of_eq rfl, ?_⟩
    rintro ⟨_, _, _⟩ rfl rfl
    exact trivial

/-- One task, done or failed, leaves the rest of the batch as it was claimed. -/
theorem runTask_steps {db₀ : Database} {task : TaskRow} {tasks : List TaskRow} {n : Nat}
    (ha : Allows c L db₀ (task :: tasks)) (hb : Batch c db₀ (task :: tasks) s.db)
    (h : runTask c task s = .ok n s') :
    Steps c L ⟨.idle, s.db⟩ ⟨.idle, s'.db⟩ ∧ Batch c db₀ tasks s'.db := by
  have hnodup := List.nodup_cons.1 hb.nodup
  obtain ⟨outcome, s₁, h₁, h⟩ := bind_ok.1 h
  rcases savepoint_ok.1 h₁ with ⟨_, hp, rfl⟩ | ⟨e, s₂, -, rfl, rfl⟩
  · obtain ⟨-, rfl⟩ := pure_ok.1 h
    obtain ⟨_, s₂, h₂, h₃⟩ := bind_ok.1 hp
    obtain ⟨hsteps, hkept, honly, hover⟩ := handle_steps ha hb.escrows h₂
    obtain ⟨hkept', hes⟩ := SqlScheduledTaskRepository.complete_ok h₃
    refine ⟨hsteps.trans (SqlScheduledTaskRepository.complete_steps ?_ h₃), hnodup.2, ?_, ?_⟩
    · intro t ht hid
      obtain ⟨t₀, ht₀, hsame⟩ := hkept t ht
      obtain ⟨htype, hres, -⟩ := hb.rows task List.mem_cons_self t₀ ht₀ (hsame.id.trans hid)
      exact hover t (hsame.type.symm.trans htype) (hsame.resource.symm.trans hres)
    · intro x hx t ht hid
      obtain ⟨t₀, ht₀, hsame⟩ := (hkept.trans hkept') t ht
      rw [← hsame.type, ← hsame.resource, ← hsame.due]
      exact hb.rows x (List.mem_cons_of_mem _ hx) t₀ ht₀ (hsame.id.trans hid)
    · exact (hb.escrows.trans honly).trans (.of_eq hes)
  · obtain ⟨_, s₃, h₃, h⟩ := bind_ok.1 h
    obtain ⟨-, rfl⟩ := pure_ok.1 h
    -- the savepoint undid the handler's writes: only the failure is recorded
    obtain ⟨hother, hes⟩ := SqlScheduledTaskRepository.recordFailure_ok h₃
    have hfailed : Steps c L ⟨.idle, (rollbackTo s s₂).db⟩ ⟨.idle, s₃.db⟩ :=
      SqlScheduledTaskRepository.recordFailure_steps
        (fun t ht hid => (hb.rows task List.mem_cons_self t ht hid).2.2) h₃
    refine ⟨hfailed, hnodup.2, ?_, ?_⟩
    · intro x hx t ht hid
      have hne : t.id ≠ task.id := by
        intro heq
        exact hnodup.1 (List.mem_map.2 ⟨x, hx, hid.symm.trans heq⟩)
      exact hb.rows x (List.mem_cons_of_mem _ hx) t (hother t ht hne) hid
    · exact hb.escrows.trans (.of_eq hes)

theorem runTasks_steps {db₀ : Database} {tasks : List TaskRow} {n : Nat}
    (ha : Allows c L db₀ tasks) (hb : Batch c db₀ tasks s.db) (h : runTasks c tasks s = .ok n s') :
    Steps c L ⟨.idle, s.db⟩ ⟨.idle, s'.db⟩ := by
  induction tasks generalizing s n with
  | nil =>
    obtain ⟨-, rfl⟩ := pure_ok.1 h
    exact .refl
  | cons task tasks ih =>
    obtain ⟨k, s₁, h₁, h⟩ := bind_ok.1 h
    obtain ⟨m, s₂, h₂, h⟩ := bind_ok.1 h
    obtain ⟨-, rfl⟩ := pure_ok.1 h
    obtain ⟨hsteps, hrest⟩ := runTask_steps ha hb h₁
    have ha' : Allows c L db₀ tasks :=
      ⟨ha.settle, ha.release, fun t ht => ha.escrow t (List.mem_cons_of_mem _ ht), ha.expire⟩
    exact hsteps.trans (ih ha' hrest h₂)

/-- The claimed tasks are rows of the queue, due, and pairwise different. -/
theorem claimDue_ok {tasks : List TaskRow} {k : Nat}
    (h : SqlScheduledTaskRepository.claimDue c k s = .ok tasks s') :
    s = s' ∧ Batch c s.db tasks s.db ∧
      ∀ t ∈ tasks, t ∈ s.db.scheduledTasks.rows ∧ t.dueAt ≤ c.oracle.dbNow := by
  obtain ⟨rfl, rfl⟩ := readDb_ok.1 h
  generalize hq : s.db.scheduledTasks.rows.filter _ = due
  have hmem : ∀ t ∈ due, t ∈ s.db.scheduledTasks.rows ∧ t.dueAt ≤ c.oracle.dbNow := by
    intro t ht
    rw [← hq, List.mem_filter, Bool.and_eq_true, decide_eq_true_eq] at ht
    exact ⟨ht.1, ht.2.1.2⟩
  generalize htake : List.take k _ = claimed
  have hclaimed : ∀ t ∈ claimed, t ∈ s.db.scheduledTasks.rows ∧ t.dueAt ≤ c.oracle.dbNow := by
    intro t ht
    rw [← htake] at ht
    exact hmem t ((List.mem_insertionSort _).1 (List.mem_of_mem_take ht))
  refine ⟨rfl, ⟨?_, ?_, fun _ _ he _ => he⟩, hclaimed⟩
  · rw [← htake]
    refine List.Nodup.sublist ((List.take_sublist _ _).map _) ?_
    refine ((List.perm_insertionSort _ _).map _).nodup_iff.2 ?_
    rw [← hq]
    exact s.db.scheduledTasks.nodup.sublist (List.filter_sublist.map _)
  · intro task htask t ht hid
    obtain ⟨hrow, hdue⟩ := hclaimed task htask
    rw [Table.eq_of_key ht hrow hid]
    exact ⟨rfl, rfl, hdue⟩

end Scheduler

/-! ### Every request -/

theorem createTransferOp_answered {u : Ulid} {phone : String} {amount : Money} {note : Option String}
    {key : String} {req : Option String} {b : Body} (hdraw : L.Covers c .overdraftDraw)
    (hhold : L.Covers c .undoHold) (ha : ∀ row, Answerable c row → L.answer row)
    (htask : ∀ db t, t.taskType = .undoSettle → L.task db t)
    (h : createTransferOp c u phone amount note key req s = .ok b s') :
    ∃ sender recipient, SqlAccountRepository.ofUser s.db u = some sender ∧
      SqlAccountRepository.ofPhone s.db phone = some recipient ∧
      CommandAnswered c L ⟨u, OverdraftService.SEND_ENDPOINT, key⟩
        (OverdraftService.sendFingerprint c sender.id recipient.id amount note) s s' := by
  obtain ⟨foundSender, s₁, h₁, h⟩ := bind_ok.1 h
  obtain ⟨rfl, rfl⟩ := readDb_ok.1 h₁
  obtain ⟨sender, s₂, h₂, h⟩ := bind_ok.1 h
  obtain ⟨hs, rfl⟩ := orRaise_ok.1 h₂
  obtain ⟨sender, hsender, rfl⟩ := Option.map_eq_some_iff.1 hs
  obtain ⟨foundRecipient, s₃, h₃, h⟩ := bind_ok.1 h
  obtain ⟨rfl, rfl⟩ := readDb_ok.1 h₃
  obtain ⟨recipient, s₄, h₄, h⟩ := bind_ok.1 h
  obtain ⟨hr, rfl⟩ := orRaise_ok.1 h₄
  obtain ⟨recipient, hrecipient, rfl⟩ := Option.map_eq_some_iff.1 hr
  obtain ⟨_, s₅, h₅, h⟩ := bind_ok.1 h
  obtain ⟨-, rfl⟩ := ensure_ok.1 h₅
  obtain ⟨user, -, hown⟩ := ofPhone_ownedBy hrecipient
  exact ⟨sender, recipient, hsender, hrecipient,
    OverdraftService.send_answered hdraw hhold htask ha (ofUser_ownedBy hsender) hown h⟩

theorem createSafepayOp_answered {u : Ulid} {phone : String} {amount : Money}
    {description : Option String} {key : String} {req : Option String} {b : Body}
    (hhold : L.Covers c .escrowHold) (ha : ∀ row, Answerable c row → L.answer row)
    (h : createSafepayOp c u phone amount description key req s = .ok b s') :
    ∃ seller, SqlUserRepository.byPhone s.db phone = some seller ∧
      CommandAnswered c L ⟨u, SafePayService.CREATE_ENDPOINT, key⟩
        (fingerprintRequest c (SafePayService.createPayload seller.id amount description)) s s' := by
  obtain ⟨foundBuyer, s₁, h₁, h⟩ := bind_ok.1 h
  obtain ⟨rfl, hbuyer⟩ := SqlAccountRepository.getByUserId_ok h₁
  obtain ⟨foundSellerUser, s₂, h₂, h⟩ := bind_ok.1 h
  obtain ⟨rfl, rfl⟩ := readDb_ok.1 h₂
  obtain ⟨foundSeller, s₃, h₃, h⟩ := bind_ok.1 h
  obtain ⟨rfl, rfl⟩ := readDb_ok.1 h₃
  obtain ⟨buyer, s₄, h₄, h⟩ := bind_ok.1 h
  obtain ⟨hb, rfl⟩ := orRaise_ok.1 h₄
  obtain ⟨seller, s₅, h₅, h⟩ := bind_ok.1 h
  obtain ⟨hs, rfl⟩ := orRaise_ok.1 h₅
  obtain ⟨sellerUser, s₆, h₆, h⟩ := bind_ok.1 h
  obtain ⟨huser, rfl⟩ := orRaise_ok.1 h₆
  obtain ⟨_, s₇, h₇, h⟩ := bind_ok.1 h
  obtain ⟨-, rfl⟩ := ensure_ok.1 h₇
  obtain ⟨row, hrow, rfl⟩ := Option.map_eq_some_iff.1 hs
  obtain ⟨user, hphone, hown⟩ := ofPhone_ownedBy hrow
  obtain rfl := Option.some.inj (hphone.symm.trans huser)
  exact ⟨user, huser, SafePayService.create_answered hhold ha (hbuyer buyer hb) hown h⟩

/-- Whatever a request commits is a sequence of steps that its licence allows. -/
theorem handle_steps {req : Request} {db : Database} {r : Except AppError Reply}
    (h : handle c req (begin db) = .ok r s) : Steps c (licence c db req) ⟨.idle, db⟩ ⟨.idle, s.db⟩ := by
  have hanswer : ∀ row, Answerable c row → (licence c db req).answer row := fun _ hrow => hrow
  cases req <;> rw [handle] at h <;> obtain ⟨_, s₁, h₁, h⟩ := bind_ok.1 h <;>
    obtain ⟨-, rfl⟩ := pure_ok.1 h
  case register =>
    exact AuthService.register_steps (licence_covers rfl) h₁
  case login =>
    exact AuthService.login_steps h₁
  case refresh =>
    exact AuthService.refresh_steps h₁
  case logout =>
    exact AuthService.logout_steps h₁
  case createTransfer =>
    refine runPinProtected_steps ?_ h₁
    intro _ _ _ _ hop
    obtain ⟨_, _, -, -, ha⟩ := createTransferOp_answered (licence_covers rfl) (licence_covers rfl)
      hanswer (fun _ _ ht => ht) hop
    exact ha.steps
  case undoTransfer =>
    exact (UndoableTransferService.undo_answered (licence_covers rfl) hanswer h₁).steps
  case createPool =>
    refine runPinProtected_steps ?_ h₁
    intro _ _ _ _ hop
    exact (OverdraftService.createPool_answered (licence_covers rfl) hanswer hop).steps
  case fundPool =>
    refine runPinProtected_steps ?_ h₁
    intro _ _ _ _ hop
    exact OverdraftService.fundPool_steps (licence_covers rfl) hop
  case createGrant =>
    refine runPinProtected_steps ?_ h₁
    intro _ _ _ _ hop
    exact (OverdraftService.grantAccess_answered hanswer hop).steps
  case createSafepay =>
    refine runPinProtected_steps ?_ h₁
    intro _ _ _ _ hop
    obtain ⟨_, -, ha⟩ := createSafepayOp_answered (licence_covers rfl) hanswer hop
    exact ha.steps
  case shipSafepay =>
    refine (SafePayService.markShipped_answered hanswer ?_ h₁).steps
    intro x hx hseller hst
    exact ⟨rfl, rfl, x, hx, hseller, hst⟩
  case releaseSafepayCode =>
    refine (SafePayService.releaseWithCode_answered (licence_covers rfl) hanswer ?_ h₁).steps
    intro x hx hseller haccepts hlocked hverify
    exact ⟨rfl, rfl, x, hx, hseller, haccepts, hlocked, hverify⟩
  case confirmSafepayReceived =>
    refine (SafePayService.confirmReceived_answered (licence_covers rfl) hanswer ?_ h₁).steps
    intro x hx hbuyer haccepts
    exact ⟨rfl, rfl, x, hx, hbuyer, haccepts⟩
  case disputeSafepay =>
    refine (SafePayService.dispute_answered hanswer ?_ h₁).steps
    intro x hx hbuyer hst
    exact ⟨rfl, rfl, x, hx, hbuyer, hst⟩
  case courierWebhook =>
    obtain ⟨_, s₂, h₂, h₁⟩ := bind_ok.1 h₁
    obtain ⟨-, rfl⟩ := ensure_ok.1 h₂
    refine Exists.elim (SafePayService.courierDelivered_answered (licence_covers rfl) hanswer ?_ h₁)
      fun _ ha => ha.2.steps
    intro x hfound hst
    obtain ⟨-, hfacts⟩ := SqlSafePayRepository.findByTracking_ok hfound
    obtain ⟨hx, hcourier, htracking⟩ := hfacts x rfl
    refine ⟨⟨.inl rfl, x, hx, hcourier, htracking, hst⟩, ?_, ?_⟩
    · intro hnow
      exact ⟨.inr ⟨rfl, hnow⟩, x, hx, hcourier, htracking, hst⟩
    · intro db' t htype hid hdue hlater hdelivered
      exact ⟨htype, hlater, hdue, ⟨x, hid ▸ hx, hst⟩, hid ▸ hdelivered⟩
  case resolveSafepay =>
    refine (SafePayService.resolveDispute_answered (licence_covers rfl) (licence_covers rfl) hanswer ?_ h₁).steps
    intro x hx hst
    exact ⟨fun hd => ⟨rfl, .inl ⟨hd, rfl⟩, x, hx, hst⟩, fun hd => ⟨rfl, .inr ⟨hd, rfl⟩, x, hx, hst⟩⟩
  case createRequest =>
    exact MoneyRequestService.create_steps trivial h₁
  case acceptRequest =>
    refine runPinProtected_steps ?_ h₁
    intro users s₂ _ hs₂ hop
    refine MoneyRequestService.accept_steps [] (licence_covers rfl) ?_ hop
    intro x x' hid howner hst hat hlt
    rw [hs₂] at howner
    exact ⟨hid, howner, hst, s₂.draws, hat, hlt⟩
  case rejectRequest =>
    refine MoneyRequestService.terminate_steps ?_ h₁
    intro x x' hid howner hst
    exact ⟨hid, howner, hst⟩
  case cancelRequest =>
    refine MoneyRequestService.terminate_steps ?_ h₁
    intro x x' hid howner hst
    exact ⟨hid, howner, hst⟩
  case expireDue =>
    refine (MoneyRequestService.expireDue_steps ?_ h₁).1
    intro x x' hst hdue
    exact ⟨hst, _, hdue⟩
  case runDueTasks =>
    obtain ⟨tasks, s₂, h₂, h₁⟩ := bind_ok.1 h₁
    obtain ⟨rfl, hbatch, hdue⟩ := Scheduler.claimDue_ok h₂
    refine Scheduler.runTasks_steps ⟨licence_covers rfl, licence_covers rfl, ?_, ?_⟩ hbatch h₁
    · intro task htask htype x hx hst
      obtain ⟨hrow, hle⟩ := hdue task htask
      exact ⟨rfl, x, hx, hst, task, hrow, htype, rfl, hle⟩
    · intro x x' i hst hexp
      exact ⟨hst, i, hexp⟩

end MoneyMovement

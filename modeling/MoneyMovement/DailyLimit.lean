/-
  MoneyMovement/DailyLimit.lean
  =============================
  **The daily limit over whole histories.**

  The use case sums what the account has sent since midnight of the instant it
  read, under the account's lock, before it posts.  A later reading of the clock
  can only lie in the window, a settled hold stays in the sum and a refunded one
  leaves it, and the repayments that share the sum only make the check stricter:
  no day's total is ever above the limit.
-/
import MoneyMovement.Invariants

namespace MoneyMovement

open Txn

/-! ### What counts against a day -/

/-- The kinds whose commands leave `enforce_limits` at its default. -/
def TransferKind.enforcesLimits : TransferKind → Bool
  | .p2pSend | .requestSettlement | .undoHold | .escrowHold | .overdraftFund => true
  | _ => false

/-- A limit is checked for exactly the postings of these kinds. -/
theorem Warrant.enforceLimits_eq {c : Ctx} {db : Database} {p : Posting} {d d' : Duty}
    (hw : Warrant c db p d d') : p.cmd.enforceLimits = p.cmd.kind.enforcesLimits := by
  cases hw with
  | grant hc => rw [hc]; rfl
  | fund hc => rw [hc]; rfl
  | undoHold hc => rw [hc]; rfl
  | escrowHold hc => rw [hc]; rfl
  | draw hc => rw [hc]; rfl
  | request hc => rw [hc]; rfl
  | @undoLeg _ toStatus _ _ _ _ hc =>
    rw [hc]
    cases toStatus <;> rfl
  | @escrowLeg _ _ toStatus _ _ _ _ hc =>
    rw [hc]
    cases toStatus <;> rfl

/-- The transfer is one the account sent on the day, under limits, and not refunded. -/
def TransferRow.SentOn (accountId : Ulid) (day : Nat) (t : TransferRow) : Prop :=
  t.senderAccountId = accountId ∧ t.kind.enforcesLimits = true ∧ t.status ≠ .refunded ∧
    t.createdAt / Time.dayUs = day

instance (accountId : Ulid) (day : Nat) (t : TransferRow) : Decidable (t.SentOn accountId day) :=
  inferInstanceAs (Decidable (_ ∧ _))

/-- What the account has sent on the day. -/
def Database.sentOn (db : Database) (accountId : Ulid) (day : Nat) : Int :=
  db.transfers.sum fun t => if t.SentOn accountId day then t.amountMinor else 0

/-- No day's total and no single transfer is above its limit. -/
structure WithinLimits (cfg : Settings) (db : Database) : Prop where
  daily : ∀ accountId day, db.sentOn accountId day ≤ cfg.dailyTransferLimitMinor
  single : ∀ t ∈ db.transfers.rows, t.kind.enforcesLimits = true →
    t.amountMinor ≤ cfg.maxTransferAmountMinor

theorem countsAsSent_of_statusOk {t : TransferRow} (h : t.StatusOk) (hs : t.status ≠ .refunded) :
    SqlTransferRepository.countsAsSent t.status = true := by
  have hstatus : t.status = .succeeded ∨ t.status = .pendingUndo ∨ t.status = .held := by
    unfold TransferRow.StatusOk at h
    split at h <;> tauto
  rcases hstatus with hs | hs | hs <;> rw [hs] <;> rfl

theorem startOfDay_le {t now : Time} (h : t / Time.dayUs = now / Time.dayUs) :
    Time.startOfDay now ≤ t := by
  rw [Time.startOfDay, ← h]
  exact Nat.div_mul_le_self t Time.dayUs

section Steps

variable {c : Ctx} {db : Database} {duty : Duty} {p : Posting}

/-- The use case's window holds the whole day of the instant it read. -/
theorem sentOn_le_sentSince (hmoves : ∀ t ∈ db.transfers.rows, 0 < t.amountMinor)
    (hstatus : ∀ t ∈ db.transfers.rows, t.StatusOk) (accountId : Ulid) (now : Time) :
    db.sentOn accountId (now / Time.dayUs) ≤
      SqlTransferRepository.sentSince db accountId (Time.startOfDay now) := by
  refine List.sum_le_sum ?_
  intro t ht
  have hpos := hmoves t ht
  by_cases hsent : t.SentOn accountId (now / Time.dayUs)
  · rw [if_pos hsent]
    obtain ⟨hsender, -, hrefunded, hday⟩ := hsent
    have hcounts := countsAsSent_of_statusOk (hstatus t ht) hrefunded
    rw [if_pos ⟨hsender, hcounts, startOfDay_le hday⟩]
  · rw [if_neg hsent]
    split <;> omega

theorem sentOn_post (hv : p.Valid c db) (accountId : Ulid) (day : Nat) :
    (p.apply db).sentOn accountId day =
      db.sentOn accountId day + if p.row.SentOn accountId day then p.cmd.amount.minor else 0 :=
  Table.sum_push hv.transfer_fresh _

/-- A posting outside the limits leaves every day's total as it was. -/
theorem WithinLimits.post_unlimited {cfg : Settings} (h : WithinLimits cfg db) (hv : p.Valid c db)
    (hkind : p.cmd.kind.enforcesLimits = false) : WithinLimits cfg (p.apply db) := by
  constructor
  · intro accountId day
    have hnot : ¬p.row.SentOn accountId day := by
      rintro ⟨-, henforced, -⟩
      exact Bool.false_ne_true (hkind.symm.trans henforced)
    rw [sentOn_post hv, if_neg hnot, Int.add_zero]
    exact h.daily accountId day
  · intro t ht henforced
    rcases (Table.mem_push hv.transfer_fresh).1 ht with ht | rfl
    · exact h.single t ht henforced
    · exact absurd (hkind.symm.trans henforced) Bool.false_ne_true

/-- A posting the limits were checked for. -/
theorem WithinLimits.post_limited (h : WithinLimits c.settings db) (hv : p.Valid c db)
    (hmoves : ∀ t ∈ db.transfers.rows, 0 < t.amountMinor)
    (hstatus : ∀ t ∈ db.transfers.rows, t.StatusOk) (henforced : p.cmd.enforceLimits = true) :
    WithinLimits c.settings (p.apply db) := by
  obtain ⟨hsingle, hdaily⟩ := hv.within_limits henforced
  constructor
  · intro accountId day
    rw [sentOn_post hv]
    split
    · rename_i hsent
      obtain ⟨hsender, -, -, hday⟩ := hsent
      have hid : p.sender.id = accountId := hv.sender_id.trans hsender
      have hle := sentOn_le_sentSince hmoves hstatus accountId p.now
      rw [hid] at hdaily
      have hnow : p.now / Time.dayUs = day := hday
      rw [hnow] at hle
      omega
    · rw [Int.add_zero]
      exact h.daily accountId day
  · intro t ht _
    rcases (Table.mem_push hv.transfer_fresh).1 ht with ht | rfl
    · exact h.single t ht ‹_›
    · exact hsingle

/-- A hold that settles stays in its day's total, one that is refunded leaves it. -/
theorem WithinLimits.latch {cfg : Settings} (h : WithinLimits cfg db)
    (hmoves : ∀ t ∈ db.transfers.rows, 0 < t.amountMinor) {hold : TransferRow}
    {toStatus : TransferStatus} {now : Time} (hf : db.transfers.find? hold.id = some hold)
    (hs : hold.status = .pendingUndo ∨ hold.status = .held) :
    WithinLimits cfg { db with
      transfers := db.transfers.modifyAt hold.id (TransferRow.latched toStatus now)
        (TransferRow.id_latched toStatus now) } := by
  have hmem := Table.mem_of_find? hf
  have hpos := hmoves hold hmem
  constructor
  · intro accountId day
    have hle := h.daily accountId day
    have hnot : hold.status ≠ .refunded := by
      rcases hs with hs | hs <;> rw [hs] <;> decide
    unfold Database.sentOn at hle ⊢
    rw [Table.sum_modifyAt hf]
    by_cases hlatched : (hold.latched toStatus now).SentOn accountId day
    · have hsent : hold.SentOn accountId day :=
        ⟨hlatched.1, hlatched.2.1, hnot, hlatched.2.2.2⟩
      rw [if_pos hlatched, if_pos hsent]
      show _ + (hold.amountMinor - hold.amountMinor) ≤ _
      omega
    · rw [if_neg hlatched]
      split <;> omega
  · intro t ht henforced
    dsimp only at ht
    rcases Table.mem_of_mem_modifyAt hf ht with ⟨ht, -⟩ | rfl
    · exact h.single t ht henforced
    · exact h.single hold hmem henforced

end Steps

theorem WithinLimits.step {c : Ctx} {L : Licence} {k k' : Config} (hs : Step c L k k')
    (hL : L.Sound c) (hinv : Invariant c.settings c.crypto k) (h : WithinLimits c.settings k.db) :
    WithinLimits c.settings k'.db := by
  have hmoves : ∀ t ∈ k.db.transfers.rows, 0 < t.amountMinor := fun t ht => (hinv.books.moves t ht).1
  have hstatus := hinv.routes.status
  cases hs
  case post p hv hl =>
    have henforce := (hL.post _ _ _ _ hl).enforceLimits_eq
    cases hkind : p.cmd.kind.enforcesLimits with
    | true => exact h.post_limited hv hmoves hstatus (henforce.trans hkind)
    | false => exact h.post_unlimited hv hkind
  case repay p loan pool hv hr =>
    refine h.post_unlimited hv ?_
    rw [hr.kind]
    rfl
  case latch hf hs _ => exact h.latch hmoves hf hs
  all_goals exact ⟨h.daily, h.single⟩

theorem migrated_withinLimits (cfg : Settings) (now : Time) : WithinLimits cfg (migrated now) where
  daily _ _ := Int.natCast_nonneg _
  single _ h := by cases h

theorem Reachable.withinLimits {d : Deployment} {db : Database} (h : Reachable d db) :
    WithinLimits d.settings db := by
  induction h with
  | init now => exact migrated_withinLimits d.settings now
  | step call hdb ih =>
    rename_i db
    have hsound := licence_sound (d.ctx call.oracle) db call.request
    rcases serve_cases d call db with he | hs
    · rw [he]
      exact ih
    · exact Invariant.steps_induction (P := fun k => WithinLimits d.settings k.db) hs hsound hdb.inv ih
        fun _ _ hinv hstep h => h.step hstep hsound hinv

/-- In every reachable state, whatever the clock readings, no account has sent more on one UTC
    day than the daily limit, refunds apart, nor more than the single limit at once. -/
theorem daily_limit_holds (d : Deployment) (now : Time) (calls : List Call) :
    let db := serveAll d calls (migrated now)
    (∀ accountId day, db.sentOn accountId day ≤ d.settings.dailyTransferLimitMinor) ∧
      ∀ t ∈ db.transfers.rows, t.kind.enforcesLimits = true →
        t.amountMinor ≤ d.settings.maxTransferAmountMinor := by
  have hreach : Reachable d (serveAll d calls (migrated now)) := (Reachable.init now).serveAll calls
  have hlimits := hreach.withinLimits
  exact ⟨hlimits.daily, hlimits.single⟩

end MoneyMovement

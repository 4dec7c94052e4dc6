/-
  MoneyMovement/Holds.lean
  ========================
  **Every hold is paid out exactly once.**

  A hold has three records in three modules: the status of its transfer row, the
  leg that pays it out, and for Safe-Pay the status of the escrow row.  They are
  written one after the other.  `Latches` says how the three agree, with the
  duty standing for the write that is still to come; `Custody` says that the two
  holding accounts hold exactly what is not yet paid out.

  Neither is visible in the ledger: paying a hold twice, or never, leaves the
  books balanced.
-/
import MoneyMovement.Routes

namespace MoneyMovement

open DoubleEntry

/-- The transfers that settle a hold. -/
def childrenOf (transfers : Table TransferRow.id) (h : Ulid) : List TransferRow :=
  entriesOf TransferRow.parentTransferId transfers.rows (some h)

/-- The leg moves the hold's amount to whom its outcome names. -/
structure Pays (hold leg : TransferRow) : Prop where
  amount : leg.amountMinor = hold.amountMinor
  beneficiary : PaidTo hold hold.status leg.receiverAccountId

/-- Pending without a leg, about to be paid, or paid by one leg. -/
def HoldOk (d : Duty) (transfers : Table TransferRow.id) (hold : TransferRow) : Prop :=
  (PendingIn hold.status hold.kind ∧ childrenOf transfers hold.id = []) ∨
    (∃ s, d = .pay hold.id s hold.status) ∨
    ∃ leg, childrenOf transfers hold.id = [leg] ∧ Pays hold leg

/-- The escrow's status follows its hold's, or is about to. -/
def EscrowOk (d : Duty) (e : EscrowRow) (hold : TransferRow) : Prop :=
  (e.status.isOpen = true ∧ hold.status = .held) ∨
    (e.status = .released ∧ hold.status = .succeeded) ∨
    (e.status = .refunded ∧ hold.status = .refunded) ∨
    (e.status.isOpen = true ∧ d = .pay hold.id .held hold.status) ∨
    (e.status.isOpen = true ∧ ∃ leg, d = .closeEscrow leg ∧
      leg.parentTransferId = some hold.id ∧ (hold.status = .succeeded ∨ hold.status = .refunded) ∧
      leg.kind = escrowLegKind hold.status)

structure Latches (d : Duty) (transfers : Table TransferRow.id) (escrows : Table EscrowRow.id) :
    Prop where
  holds : ∀ t ∈ transfers.rows, t.kind = .undoHold ∨ t.kind = .escrowHold → HoldOk d transfers t
  follows : ∀ e ∈ escrows.rows, ∀ hold, transfers.find? e.holdTransferId = some hold →
    EscrowOk d e hold
  unique : ∀ e ∈ escrows.rows, ∀ e' ∈ escrows.rows, e.holdTransferId = e'.holdTransferId → e = e'
  covered : ∀ t ∈ transfers.rows, t.kind = .escrowHold →
    (∃ e ∈ escrows.rows, e.holdTransferId = t.id) ∨ d = .openEscrow t
  due : ∀ h s s', d = .pay h s s' → childrenOf transfers h = []

/-! ### Children -/

section Children

variable {cfg : Settings} {d : Duty} {db : Database}

theorem childrenOf_push_of_ne {transfers : Table TransferRow.id} {row : TransferRow} {h : Ulid}
    (hf : transfers.find? row.id = none) (hne : row.parentTransferId ≠ some h) :
    childrenOf (transfers.push row) h = childrenOf transfers h := by
  unfold childrenOf
  rw [Table.rows_push hf]
  exact entriesOf_append_of_ne (by simpa using hne)

theorem childrenOf_push_self {transfers : Table TransferRow.id} {row : TransferRow} {h : Ulid}
    (hf : transfers.find? row.id = none) (hp : row.parentTransferId = some h) :
    childrenOf (transfers.push row) h = childrenOf transfers h ++ [row] := by
  unfold childrenOf
  rw [Table.rows_push hf, entriesOf_append]
  congr 1
  exact entriesOf_of_forall (by simpa using hp)

/-- A latch does not change whose child a transfer is. -/
theorem childrenOf_latch (transfers : Table TransferRow.id) (id h : Ulid) (toStatus : TransferStatus)
    (now : Time) :
    childrenOf (transfers.modifyAt id (TransferRow.latched toStatus now)
        (TransferRow.id_latched toStatus now)) h =
      (childrenOf transfers h).map fun t => if t.id = id then t.latched toStatus now else t := by
  unfold childrenOf entriesOf
  rw [Table.modifyAt, Table.rows_update, List.filter_map]
  simp only [decide_eq_true_eq]
  congr 1
  apply List.filter_congr
  intro t _
  by_cases hk : t.id = id <;> simp [hk, TransferRow.latched]

/-- The hold a leg names is there. -/
theorem Routes.parent_found (hr : Routes cfg d db) {t : TransferRow} (ht : t ∈ db.transfers.rows)
    {h : Ulid} (hp : t.parentTransferId = some h) : ∃ hold, db.transfers.find? h = some hold := by
  have hleg := hr.legs t ht
  rw [hp] at hleg
  have hroute := hr.routed t ht
  unfold Routed at hroute
  cases hk : t.kind <;> rw [hk] at hleg <;> try cases hleg
  all_goals
    simp only [hk] at hroute
    obtain ⟨-, -, h', hold, hp', hf, -⟩ := hroute
    obtain rfl := Option.some.inj (hp.symm.trans hp')
    exact ⟨hold, hf⟩

theorem Routes.childrenOf_fresh (hr : Routes cfg d db) {id : Ulid}
    (hf : db.transfers.find? id = none) : childrenOf db.transfers id = [] := by
  refine entriesOf_eq_nil ?_
  intro t ht hp
  obtain ⟨hold, hh⟩ := hr.parent_found ht hp
  rw [hf] at hh
  cases hh

end Children

/-! ### Duties do not matter where there is none -/

/-- The duties that are about a hold. -/
def Duty.concernsHolds : Duty → Bool
  | .pay .. | .closeEscrow _ | .openEscrow _ => true
  | _ => false

theorem HoldOk.of_none {transfers : Table TransferRow.id} {hold : TransferRow}
    (h : HoldOk .none transfers hold) (d : Duty) : HoldOk d transfers hold := by
  rcases h with h | ⟨s, hs⟩ | h
  · exact .inl h
  · cases hs
  · exact .inr (.inr h)

theorem EscrowOk.of_none {e : EscrowRow} {hold : TransferRow} (h : EscrowOk .none e hold) (d : Duty) :
    EscrowOk d e hold := by
  rcases h with h | h | h | ⟨-, hs⟩ | ⟨-, leg, hs, -⟩
  · exact .inl h
  · exact .inr (.inl h)
  · exact .inr (.inr (.inl h))
  · cases hs
  · cases hs

theorem HoldOk.push {d : Duty} {transfers : Table TransferRow.id} {hold row : TransferRow}
    (h : HoldOk d transfers hold) (hf : transfers.find? row.id = none)
    (hne : row.parentTransferId ≠ some hold.id) : HoldOk d (transfers.push row) hold := by
  unfold HoldOk
  rw [childrenOf_push_of_ne hf hne]
  exact h

namespace Latches

variable {cfg : Settings} {c : Ctx} {db : Database} {d d' : Duty} {p : Posting}

theorem migrated_latches (now : Time) :
    Latches .none (migrated now).transfers (migrated now).safepayEscrows where
  holds t ht := by cases ht
  follows e he := by cases he
  unique e he := by cases he
  covered t ht := by cases ht
  due _ _ _ hd := by cases hd

/-- A duty of the lending or the request code is no concern of the holds. -/
theorem discharge (h : Latches d db.transfers db.safepayEscrows) (hd : d.concernsHolds = false) :
    Latches .none db.transfers db.safepayEscrows := by
  refine ⟨?_, ?_, h.unique, ?_, fun _ _ _ hx => by cases hx⟩
  · intro t ht hk
    rcases h.holds t ht hk with hp | ⟨s, rfl⟩ | hp
    · exact .inl hp
    · cases hd
    · exact .inr (.inr hp)
  · intro e he hold hf
    rcases h.follows e he hold hf with hp | hp | hp | ⟨-, rfl⟩ | ⟨-, leg, rfl, -⟩
    · exact .inl hp
    · exact .inr (.inl hp)
    · exact .inr (.inr (.inl hp))
    · cases hd
    · cases hd
  · intro t ht hk
    rcases h.covered t ht hk with he | rfl
    · exact .inl he
    · cases hd

/-- A movement that settles nothing.  It may be a hold itself. -/
theorem post_plain (h : Latches d db.transfers db.safepayEscrows) (hr : Routes cfg d db)
    (hv : p.Valid c db) (hparent : p.cmd.parentTransferId = none) (hd : d' = d ∨ d = .none)
    (hpay : d' = d ∨ ∀ h s s', d' ≠ .pay h s s')
    (hnew : p.row.kind = .undoHold ∨ p.row.kind = .escrowHold → PendingIn p.row.status p.row.kind)
    (hopen : p.row.kind = .escrowHold → d' = .openEscrow p.row) :
    Latches d' (p.apply db).transfers (p.apply db).safepayEscrows := by
  have hrows : ∀ t ∈ (p.apply db).transfers.rows, t ∈ db.transfers.rows ∨ t = p.row :=
    fun t ht => (Table.mem_push hv.transfer_fresh).1 ht
  have hne : ∀ h, p.row.parentTransferId ≠ some h := by
    intro h heq
    rw [show p.row.parentTransferId = none from hparent] at heq
    cases heq
  refine ⟨?_, ?_, h.unique, ?_, ?_⟩
  · intro t ht hk
    rcases hrows t ht with ht | rfl
    · refine HoldOk.push ?_ hv.transfer_fresh (hne _)
      rcases hd with rfl | rfl
      · exact h.holds t ht hk
      · exact (h.holds t ht hk).of_none d'
    · refine .inl ⟨hnew hk, ?_⟩
      show childrenOf (db.transfers.push p.row) p.transferId = []
      rw [childrenOf_push_of_ne hv.transfer_fresh (hne _), hr.childrenOf_fresh hv.transfer_fresh]
  · intro e he hold hf
    obtain ⟨x, hx, -⟩ := hr.escrows e he
    obtain rfl := Option.some.inj (hf.symm.trans (Table.find?_push_of_some hx))
    rcases hd with rfl | rfl
    · exact h.follows e he hold hx
    · exact (h.follows e he hold hx).of_none d'
  · intro t ht hk
    rcases hrows t ht with ht | rfl
    · rcases h.covered t ht hk with he | hx
      · exact .inl he
      · rcases hd with rfl | rfl
        · exact .inr hx
        · cases hx
    · exact .inr (hopen hk)
  · intro h' s s' hd'
    rcases hpay with rfl | hpay
    · show childrenOf (db.transfers.push p.row) h' = []
      rw [childrenOf_push_of_ne hv.transfer_fresh (hne _)]
      exact h.due h' s s' hd'
    · exact absurd hd' (hpay h' s s')

/-- The leg of the hold in duty. -/
theorem post_leg {hold : TransferRow} {fromStatus toStatus : TransferStatus}
    (h : Latches (.pay hold.id fromStatus toStatus) db.transfers db.safepayEscrows)
    (hr : Routes cfg (.pay hold.id fromStatus toStatus) db) (hv : p.Valid c db)
    (hf : db.transfers.find? hold.id = some hold) (hparent : p.cmd.parentTransferId = some hold.id)
    (hleg : p.row.kind.isSettlementLeg = true)
    (hamount : p.cmd.amount.minor = hold.amountMinor)
    (hto : PaidTo hold toStatus p.cmd.receiverAccountId)
    (hd : fromStatus = .pendingUndo ∧ d' = .none ∨
      fromStatus = .held ∧ d' = .closeEscrow p.row ∧ p.row.kind = escrowLegKind toStatus) :
    Latches d' (p.apply db).transfers (p.apply db).safepayEscrows := by
  have hrows : ∀ t ∈ (p.apply db).transfers.rows, t ∈ db.transfers.rows ∨ t = p.row :=
    fun t ht => (Table.mem_push hv.transfer_fresh).1 ht
  obtain ⟨rfl, hpending⟩ := hr.pay hf
  have hnothold : ¬(p.row.kind = .undoHold ∨ p.row.kind = .escrowHold) := by
    rintro (hk | hk) <;> rw [hk] at hleg <;> cases hleg
  -- the hold in duty has a settled status and no leg yet
  have hmem := Table.mem_of_find? hf
  have hsettled : ¬PendingIn hold.status hold.kind := by
    rintro (⟨hs, -⟩ | ⟨hs, -⟩) <;> rcases hto.settles with ht | ht <;> rw [hs] at ht <;> cases ht
  have hkind : hold.kind = .undoHold ∨ hold.kind = .escrowHold := by
    rcases hpending with ⟨-, hk⟩ | ⟨-, hk⟩
    · exact .inl hk
    · exact .inr hk
  have hne : ∀ x, x ≠ hold.id → p.row.parentTransferId ≠ some x := by
    intro x hx heq
    exact hx (Option.some.inj (heq.symm.trans hparent))
  refine ⟨?_, ?_, h.unique, ?_, ?_⟩
  · intro t ht hk
    rcases hrows t ht with ht | rfl
    · by_cases hid : t.id = hold.id
      · obtain rfl := Table.eq_of_key ht hmem hid
        refine .inr (.inr ⟨p.row, ?_, hamount, hto⟩)
        show childrenOf (db.transfers.push p.row) t.id = [p.row]
        rw [childrenOf_push_self hv.transfer_fresh hparent, h.due t.id _ _ rfl]
        rfl
      · have hother : HoldOk d' db.transfers t := by
          rcases h.holds t ht hk with hp | ⟨s, hs⟩ | hp
          · exact .inl hp
          · injection hs with h₁
            exact absurd h₁.symm hid
          · exact .inr (.inr hp)
        exact hother.push hv.transfer_fresh (hne _ hid)
    · exact absurd hk hnothold
  · intro e he x hx
    obtain ⟨x', hx', hkx, -⟩ := hr.escrows e he
    obtain rfl := Option.some.inj (hx.symm.trans (Table.find?_push_of_some hx'))
    rcases h.follows e he x hx' with hp | hp | hp | ⟨hp, hs⟩ | ⟨-, leg, hs, -⟩
    · exact .inl hp
    · exact .inr (.inl hp)
    · exact .inr (.inr (.inl hp))
    · -- the escrow of the hold in duty: only its row is left to write
      have hid : hold.id = x.id ∧ fromStatus = .held ∧ hold.status = x.status := by
        injection hs with h₁ h₂ h₃
        exact ⟨h₁, h₂, h₃⟩
      obtain rfl := Table.eq_of_key hmem (Table.mem_of_find? hx') hid.1
      rcases hd with ⟨hu, -⟩ | ⟨-, rfl, hk⟩
      · rw [hid.2.1] at hu
        cases hu
      · exact .inr (.inr (.inr (.inr ⟨hp, p.row, rfl, hparent, hto.settles, hk⟩)))
    · cases hs
  · intro t ht hk
    rcases hrows t ht with ht | rfl
    · rcases h.covered t ht hk with he | hx
      · exact .inl he
      · cases hx
    · exact absurd (.inr hk) hnothold
  · intro h' s s' hd'
    rcases hd with ⟨-, rfl⟩ | ⟨-, rfl, -⟩ <;> cases hd'

/-- A pending hold is latched, and its payout falls due. -/
theorem latch {hold : TransferRow} {toStatus : TransferStatus} {now : Time}
    (h : Latches .none db.transfers db.safepayEscrows) (hr : Routes cfg .none db)
    (hf : db.transfers.find? hold.id = some hold)
    (hs : hold.status = .pendingUndo ∨ hold.status = .held) :
    Latches (.pay hold.id hold.status toStatus)
      (db.transfers.modifyAt hold.id (TransferRow.latched toStatus now)
        (TransferRow.id_latched toStatus now)) db.safepayEscrows := by
  have hmem := Table.mem_of_find? hf
  have hpending := (hr.status hold hmem).pendingIn hs
  have hkind : hold.kind = .undoHold ∨ hold.kind = .escrowHold := by
    rcases hpending with ⟨-, hk⟩ | ⟨-, hk⟩
    · exact .inl hk
    · exact .inr hk
  have hnone : childrenOf db.transfers hold.id = [] := by
    rcases h.holds hold hmem hkind with ⟨-, hc⟩ | ⟨s, hd⟩ | ⟨leg, -, -, hpaid⟩
    · exact hc
    · cases hd
    · rcases hs with hs | hs <;> rcases hpaid.settles with ht | ht <;> rw [hs] at ht <;> cases ht
  refine ⟨?_, ?_, h.unique, ?_, ?_⟩
  · intro t ht hk
    rcases Table.mem_of_mem_modifyAt hf ht with ⟨ht, -⟩ | rfl
    · unfold HoldOk
      rw [childrenOf_latch]
      rcases h.holds t ht hk with ⟨hp, hc⟩ | ⟨s, hd⟩ | ⟨leg, hc, hpays⟩
      · exact .inl ⟨hp, by rw [hc]; rfl⟩
      · cases hd
      · -- a latched leg would still pay the same amount to the same account
        refine .inr (.inr ⟨if leg.id = hold.id then leg.latched toStatus now else leg, ?_, ?_⟩)
        · rw [hc]
          rfl
        · split
          · exact ⟨hpays.amount, hpays.beneficiary⟩
          · exact hpays
    · exact .inr (.inl ⟨hold.status, rfl⟩)
  · intro e he x hx
    rw [Table.find?_modifyAt] at hx
    by_cases hid : e.holdTransferId = hold.id
    · rw [if_pos hid, hf] at hx
      obtain rfl := Option.some.inj hx
      rcases h.follows e he hold (hid ▸ hf) with ⟨ho, hheld⟩ | ⟨-, hp⟩ | ⟨-, hp⟩ | ⟨-, hd⟩ | ⟨-, leg, hd, -⟩
      · refine .inr (.inr (.inr (.inl ⟨ho, ?_⟩)))
        rw [hheld]
        rfl
      · rcases hs with hs | hs <;> rw [hp] at hs <;> cases hs
      · rcases hs with hs | hs <;> rw [hp] at hs <;> cases hs
      · cases hd
      · cases hd
    · rw [if_neg hid] at hx
      exact (h.follows e he x hx).of_none _
  · intro t ht hk
    rcases Table.mem_of_mem_modifyAt hf ht with ⟨ht, -⟩ | rfl
    · rcases h.covered t ht hk with he | hd
      · exact .inl he
      · cases hd
    · rcases h.covered hold hmem hk with he | hd
      · exact .inl he
      · cases hd
  · intro h' s s' hd
    injection hd with h₁
    rw [childrenOf_latch, ← h₁, hnone]
    rfl

/-- The escrow of a hold that was just made. -/
theorem openEscrow {t : TransferRow} {e : EscrowRow}
    (h : Latches (.openEscrow t) db.transfers db.safepayEscrows)
    (hr : Routes cfg (.openEscrow t) db) (hf : db.safepayEscrows.find? e.id = none)
    (hhold : e.holdTransferId = t.id)
    (hunique : ∀ x ∈ db.safepayEscrows.rows, x.holdTransferId ≠ e.holdTransferId)
    (hs : e.status = .awaitingShipment) :
    Latches .none db.transfers (db.safepayEscrows.push e) := by
  obtain ⟨ht, -, hheld⟩ := hr.duty
  refine ⟨?_, ?_, ?_, ?_, fun _ _ _ hd => by cases hd⟩
  · intro x hx hk
    rcases h.holds x hx hk with hp | ⟨s, hd⟩ | hp
    · exact .inl hp
    · cases hd
    · exact .inr (.inr hp)
  · intro x hx hold hf'
    rcases (Table.mem_push hf).1 hx with hx | rfl
    · rcases h.follows x hx hold hf' with hp | hp | hp | ⟨-, hd⟩ | ⟨-, leg, hd, -⟩
      · exact .inl hp
      · exact .inr (.inl hp)
      · exact .inr (.inr (.inl hp))
      · cases hd
      · cases hd
    · rw [hhold] at hf'
      obtain rfl := Option.some.inj (ht.symm.trans hf')
      exact .inl ⟨by rw [hs]; rfl, hheld⟩
  · intro x hx y hy heq
    rcases (Table.mem_push hf).1 hx with hx' | rfl <;> rcases (Table.mem_push hf).1 hy with hy' | rfl
    · exact h.unique x hx' y hy' heq
    · exact absurd heq (hunique x hx')
    · exact absurd heq.symm (hunique y hy')
    · rfl
  · intro x hx hk
    left
    rcases h.covered x hx hk with ⟨y, hy, hid⟩ | hd
    · exact ⟨y, Table.mem_push_of_mem hy, hid⟩
    · injection hd with h₁
      exact ⟨e, (Table.mem_push hf).2 (.inr rfl), by rw [hhold, h₁]⟩

/-- One escrow row changes: what it has to agree with afterwards. -/
theorem modify_escrow {e : EscrowRow} {f : EscrowRow → EscrowRow} {hid : ∀ x, (f x).id = x.id}
    (h : Latches d db.transfers db.safepayEscrows) (hf : db.safepayEscrows.find? e.id = some e)
    (hd : e.SameDeal (f e)) (hdue : ∀ h s s', d' = .pay h s s' → d = .pay h s s')
    (hholds : ∀ t, HoldOk d db.transfers t → HoldOk d' db.transfers t)
    (hself : ∀ hold, db.transfers.find? e.holdTransferId = some hold → EscrowOk d e hold →
      EscrowOk d' (f e) hold)
    (hothers : ∀ x ∈ db.safepayEscrows.rows, x.holdTransferId ≠ e.holdTransferId →
      ∀ hold, db.transfers.find? x.holdTransferId = some hold → EscrowOk d x hold →
        EscrowOk d' x hold)
    (hopen : ∀ t, d = .openEscrow t → d' = .openEscrow t) :
    Latches d' db.transfers (db.safepayEscrows.modifyAt e.id f hid) := by
  have he := Table.mem_of_find? hf
  have hne : ∀ x ∈ db.safepayEscrows.rows, x.id ≠ e.id → x.holdTransferId ≠ e.holdTransferId := by
    intro x hx hxe heq
    exact hxe (by rw [h.unique x hx e he heq])
  refine ⟨fun t ht hk => hholds t (h.holds t ht hk), ?_, ?_, ?_, ?_⟩
  · intro x hx hold hfound
    rcases Table.mem_of_mem_modifyAt hf hx with ⟨hx, hxe⟩ | rfl
    · exact hothers x hx (hne x hx hxe) hold hfound (h.follows x hx hold hfound)
    · rw [hd.hold] at hfound
      exact hself hold hfound (h.follows e he hold hfound)
  · intro x hx y hy heq
    rcases Table.mem_of_mem_modifyAt hf hx with ⟨hx, hxe⟩ | rfl <;>
      rcases Table.mem_of_mem_modifyAt hf hy with ⟨hy, hye⟩ | rfl
    · exact h.unique x hx y hy heq
    · exact absurd (heq.trans hd.hold) (hne x hx hxe)
    · exact absurd (heq.symm.trans hd.hold) (hne y hy hye)
    · rfl
  · intro t ht hk
    rcases h.covered t ht hk with ⟨x, hx, hxt⟩ | hx
    · left
      by_cases hxe : x.id = e.id
      · obtain rfl := Table.eq_of_key hx he hxe
        exact ⟨f x, Table.mem_modifyAt_self hf, hd.hold.trans hxt⟩
      · exact ⟨x, Table.mem_modifyAt_of_ne hx hxe, hxt⟩
    · exact .inr (hopen t hx)
  · intro h' s s' hd'
    exact h.due h' s s' (hdue h' s s' hd')

/-- An open escrow stays open. -/
theorem escrow {e : EscrowRow} {f : EscrowRow → EscrowRow} (hid : ∀ x, (f x).id = x.id)
    (h : Latches d db.transfers db.safepayEscrows) (hf : db.safepayEscrows.find? e.id = some e)
    (ho : e.status.isOpen = true) (ho' : (f e).status.isOpen = true) (hd : e.SameDeal (f e)) :
    Latches d db.transfers (db.safepayEscrows.modifyAt e.id f hid) := by
  refine h.modify_escrow hf hd (fun _ _ _ hx => hx) (fun _ hx => hx) ?_ (fun _ _ _ _ _ hx => hx)
    fun _ hx => hx
  rintro hold - (⟨-, hp⟩ | ⟨hp, -⟩ | ⟨hp, -⟩ | ⟨-, hp⟩ | ⟨-, hp⟩)
  · exact .inl ⟨ho', hp⟩
  · rw [hp] at ho
    cases ho
  · rw [hp] at ho
    cases ho
  · exact .inr (.inr (.inr (.inl ⟨ho', hp⟩)))
  · exact .inr (.inr (.inr (.inr ⟨ho', hp⟩)))

/-- The last of the three writes: the escrow row says what the hold and its leg say. -/
theorem closeEscrow {t : TransferRow} {e : EscrowRow} {f : EscrowRow → EscrowRow}
    (hid : ∀ x, (f x).id = x.id) (h : Latches (.closeEscrow t) db.transfers db.safepayEscrows)
    (hr : Routes cfg (.closeEscrow t) db) (hf : db.safepayEscrows.find? e.id = some e)
    (ho : e.status.isOpen = true) (hhold : t.parentTransferId = some e.holdTransferId)
    (hd : e.SameDeal (f e))
    (hs : (f e).status = .released ∧ t.kind = .escrowRelease ∨
      (f e).status = .refunded ∧ t.kind = .escrowRefund) :
    Latches .none db.transfers (db.safepayEscrows.modifyAt e.id f hid) := by
  have hchild : t ∈ childrenOf db.transfers e.holdTransferId :=
    mem_entriesOf.2 ⟨Table.mem_of_find? hr.duty.1, hhold⟩
  refine h.modify_escrow hf hd (fun _ _ _ hx => by cases hx) ?_ ?_ ?_ (fun _ hx => by cases hx)
  · rintro x (hp | ⟨s, hp⟩ | hp)
    · exact .inl hp
    · cases hp
    · exact .inr (.inr hp)
  · intro hold hfound hp
    have hid' : hold.id = e.holdTransferId := Table.key_of_find? hfound
    rcases hp with ⟨-, hheld⟩ | ⟨hp, -⟩ | ⟨hp, -⟩ | ⟨-, hp⟩ | ⟨-, leg, hp, -, hset, hk⟩
    · -- a held hold has no leg
      obtain ⟨x, hx, hkx, -⟩ := hr.escrows e (Table.mem_of_find? hf)
      obtain rfl := Option.some.inj (hfound.symm.trans hx)
      rcases h.holds hold (Table.mem_of_find? hfound) (.inr hkx) with
        ⟨-, hc⟩ | ⟨s, hp⟩ | ⟨leg, -, -, hpaid⟩
      · rw [← hid', hc] at hchild
        cases hchild
      · cases hp
      · rcases hpaid.settles with hx | hx <;> rw [hheld] at hx <;> cases hx
    · rw [hp] at ho
      cases ho
    · rw [hp] at ho
      cases ho
    · cases hp
    · injection hp with hp
      subst hp
      rcases hset with hset | hset <;> rw [hset] at hk <;> rcases hs with ⟨hs, hk'⟩ | ⟨hs, hk'⟩ <;>
        rw [hk] at hk'
      · exact .inr (.inl ⟨hs, hset⟩)
      · cases hk'
      · cases hk'
      · exact .inr (.inr (.inl ⟨hs, hset⟩))
  · rintro x - hne hold hfound (hp | hp | hp | ⟨-, hp⟩ | ⟨-, leg, hp, hparent, -⟩)
    · exact .inl hp
    · exact .inr (.inl hp)
    · exact .inr (.inr (.inl hp))
    · cases hp
    · injection hp with hp
      subst hp
      have hid' : hold.id = x.holdTransferId := Table.key_of_find? hfound
      have := Option.some.inj (hhold.symm.trans hparent)
      exact absurd (this.trans hid').symm hne

/-- A movement under a warrant. -/
theorem post (h : Latches d db.transfers db.safepayEscrows) (hr : Routes c.settings d db)
    (hv : p.Valid c db) (hw : Warrant c db p d d') :
    Latches d' (p.apply db).transfers (p.apply db).safepayEscrows := by
  have hrow : p.row.kind = p.cmd.kind ∧ p.row.status = p.cmd.initialStatus := ⟨rfl, rfl⟩
  cases hw with
  | grant hc _ =>
    refine h.post_plain hr hv (by rw [hc]; rfl) (.inl rfl) (.inl rfl) ?_ ?_ <;>
      simp [hrow, hc, OpenAccountUseCase.grantCommand]
  | fund hc _ _ _ =>
    refine h.post_plain hr hv (by rw [hc]; rfl) (.inl rfl) (.inl rfl) ?_ ?_ <;>
      simp [hrow, hc, OverdraftService.fundCommand]
  | undoHold hc _ _ =>
    refine h.post_plain hr hv (by rw [hc]; rfl) (.inl rfl) (.inl rfl) ?_ ?_ <;>
      simp [hrow, hc, HoldingService.holdCommand, PendingIn]
  | escrowHold hc _ _ =>
    refine h.post_plain hr hv (by rw [hc]; rfl) (.inr rfl) (.inr (by simp)) ?_ (fun _ => rfl)
    simp [hrow, hc, SafePayService.holdCommand, HoldingService.holdCommand, PendingIn]
  | draw hc _ _ _ _ _ _ _ =>
    refine h.post_plain hr hv (by rw [hc]; rfl) (.inr rfl) (.inr (by simp)) ?_ ?_ <;>
      simp [hrow, hc, OverdraftService.drawCommand]
  | request hc _ _ =>
    refine h.post_plain hr hv (by rw [hc]; rfl) (.inr rfl) (.inr (by simp)) ?_ ?_ <;>
      simp [hrow, hc, MoneyRequestService.payCommand]
  | undoLeg hc hf hp =>
    refine h.post_leg hr hv hf (by rw [hc]; rfl) ?_ (by rw [hc]; rfl) (by rw [hc]; exact hp)
      (.inl ⟨rfl, rfl⟩)
    rw [hrow.1, hc]
    rcases hp.settles with rfl | rfl <;> rfl
  | escrowLeg hc hf hp he hh =>
    obtain ⟨x, hx, -, hamount⟩ := hr.escrows _ (Table.mem_of_find? he)
    rw [hh] at hx
    obtain rfl := Option.some.inj (hf.symm.trans hx)
    refine h.post_leg hr hv hf (by rw [hc]; rfl) ?_ (by rw [hc]; exact hamount.symm)
      (by rw [hc]; exact hp) (.inr ⟨rfl, rfl, by rw [hrow.1, hc]; rfl⟩)
    rw [hrow.1, hc]
    rcases hp.settles with rfl | rfl <;> rfl

theorem step {L : Licence} {k k' : Config} (hs : Step c L k k') (hL : L.Sound c)
    (hstray : k.progress.repaying = none → ¬Stray k.db k.progress.duty)
    (hr : Routes c.settings k.progress.duty k.db)
    (h : Latches k.progress.duty k.db.transfers k.db.safepayEscrows) :
    Latches k'.progress.duty k'.db.transfers k'.db.safepayEscrows := by
  cases hs
  case post hv hl => exact h.post hr hv (hL.post _ _ _ _ hl)
  case repay p loan pool hv hrep =>
    have hk : p.row.kind = .overdraftRepay := hrep.kind
    have hparent : p.cmd.parentTransferId = none := by
      have hleg := hv.leg_iff_parent
      rw [hrep.kind] at hleg
      cases hp : p.cmd.parentTransferId with
      | none => rfl
      | some x =>
        rw [hp] at hleg
        cases hleg
    refine h.post_plain hr hv hparent (.inl rfl) (.inl rfl) ?_ ?_ <;> simp [hk]
  case latch hf hst _ => exact h.latch hr hf hst
  case openEscrow hf hhold hunique _ hst _ => exact h.openEscrow hr hf hhold hunique hst
  case escrow hid hf ho ho' hd _ => exact h.escrow hid hf ho ho' hd
  case closeEscrow hid hf ho hhold hd hst _ => exact h.closeEscrow hid hr hf ho hhold hd hst
  case lend => exact h.discharge rfl
  case accept => exact h.discharge rfl
  case stray hs _ _ _ => exact absurd hs (hstray rfl)
  all_goals exact h

end Latches

/-! ### What the holding accounts hold -/

/-- What the pending-settlement account holds for a hold that is already latched. -/
def pendingOwed (transfers : Table TransferRow.id) : Duty → Int
  | .pay h .pendingUndo _ => ((transfers.find? h).map TransferRow.amountMinor).getD 0
  | _ => 0

/-- By how much the escrow account is ahead of the escrow rows. -/
def escrowOwed : Duty → Int
  | .openEscrow hold => hold.amountMinor
  | .closeEscrow leg => -leg.amountMinor
  | _ => 0

def TransferRow.pendingAmount (t : TransferRow) : Int :=
  if t.status = .pendingUndo then t.amountMinor else 0

def EscrowRow.openAmount (e : EscrowRow) : Int :=
  if e.status.isOpen then e.amountMinor else 0

structure Custody (d : Duty) (accounts : Table AccountRow.id) (transfers : Table TransferRow.id)
    (escrows : Table EscrowRow.id) : Prop where
  pending : balanceOf accounts PENDING_SETTLEMENT_ACCOUNT_ID =
    transfers.sum TransferRow.pendingAmount + pendingOwed transfers d
  escrowed : balanceOf accounts ESCROW_ACCOUNT_ID = escrows.sum EscrowRow.openAmount + escrowOwed d

namespace Custody

variable {cfg : Settings} {c : Ctx} {db : Database} {d d' : Duty} {p : Posting}

theorem migrated_custody (now : Time) :
    Custody .none (migrated now).accounts (migrated now).transfers (migrated now).safepayEscrows :=
  ⟨rfl, rfl⟩

theorem pendingOwed_push (hd : DutyOk db d) (row : TransferRow) :
    pendingOwed (db.transfers.push row) d = pendingOwed db.transfers d := by
  cases d with
  | pay h fromStatus toStatus =>
    obtain ⟨hold, hf, -⟩ := hd
    cases fromStatus <;> first | rfl | skip
    simp only [pendingOwed, Table.find?_push_of_some hf, hf]
  | _ => rfl

/-- A movement shifts the holding accounts by what its kind says. -/
theorem post (h : Custody d db.accounts db.transfers db.safepayEscrows) (hch : Chart db)
    (hv : p.Valid c db) (hrouted : Routed cfg db p.row)
    (hp : (if p.cmd.kind.receiverType = .pendingSettlement then p.cmd.amount.minor else 0) -
        (if p.cmd.kind.senderType = .pendingSettlement then p.cmd.amount.minor else 0) =
      p.row.pendingAmount + pendingOwed (db.transfers.push p.row) d' - pendingOwed db.transfers d)
    (he : (if p.cmd.kind.receiverType = .escrow then p.cmd.amount.minor else 0) -
        (if p.cmd.kind.senderType = .escrow then p.cmd.amount.minor else 0) =
      escrowOwed d' - escrowOwed d) :
    Custody d' (p.apply db).accounts (p.apply db).transfers (p.apply db).safepayEscrows := by
  have hs := hrouted.sender_hasType hch
  have hr := hrouted.receiver_hasType hch
  change db.HasType p.cmd.senderAccountId p.cmd.kind.senderType at hs
  change db.HasType p.cmd.receiverAccountId p.cmd.kind.receiverType at hr
  have hpending := h.pending
  have hescrowed := h.escrowed
  constructor
  · show balanceOf (p.accountsAfter db.accounts) _ =
      (db.transfers.push p.row).sum _ + pendingOwed (db.transfers.push p.row) d'
    rw [hv.balanceOf_accountsAfter, Table.sum_push hv.transfer_fresh]
    simp only [hch.system_eq_iff .pending hs, hch.system_eq_iff .pending hr]
    omega
  · show balanceOf (p.accountsAfter db.accounts) _ = db.safepayEscrows.sum _ + escrowOwed d'
    rw [hv.balanceOf_accountsAfter]
    simp only [hch.system_eq_iff .escrow hs, hch.system_eq_iff .escrow hr]
    omega

/-- The amount of an escrow's leg is the escrow's. -/
theorem leg_amount {t : TransferRow} {e : EscrowRow} (hr : Routes cfg (.closeEscrow t) db)
    (he : e ∈ db.safepayEscrows.rows) (hhold : t.parentTransferId = some e.holdTransferId) :
    t.amountMinor = e.amountMinor := by
  obtain ⟨hf, hk⟩ := hr.duty
  have hroute : PaidOutOf db ESCROW_ACCOUNT_ID .escrowHold t := by
    have := hr.routed t (Table.mem_of_find? hf)
    unfold Routed at this
    rcases hk with hk | hk <;> simpa only [hk] using this
  obtain ⟨-, -, x, hold, hp, hfound, -, hamount⟩ := hroute
  obtain rfl := Option.some.inj (hhold.symm.trans hp)
  obtain ⟨hold', hfound', -, hamount'⟩ := hr.escrows e he
  obtain rfl := Option.some.inj (hfound.symm.trans hfound')
  exact hamount.symm.trans hamount'

theorem post_warrant (h : Custody d db.accounts db.transfers db.safepayEscrows) (hch : Chart db)
    (hr : Routes c.settings d db) (hv : p.Valid c db) (hw : Warrant c db p d d') :
    Custody d' (p.apply db).accounts (p.apply db).transfers (p.apply db).safepayEscrows := by
  have hrow : p.row.kind = p.cmd.kind ∧ p.row.status = p.cmd.initialStatus ∧
    p.row.amountMinor = p.cmd.amount.minor := ⟨rfl, rfl, rfl⟩
  have hrouted := hw.routed hv hch hr
  have howed := pendingOwed_push hr.duty p.row
  cases hw with
  | grant hc _ =>
    have hk : p.cmd.kind = .signupGrant := congrArg TransferCommand.kind hc
    have hst : p.cmd.initialStatus = .succeeded := congrArg TransferCommand.initialStatus hc
    refine h.post hch hv hrouted ?_ ?_ <;>
      simp [howed, hrow, hk, hst, TransferRow.pendingAmount, TransferKind.receiverType,
        TransferKind.senderType]
  | fund hc _ _ _ =>
    have hk : p.cmd.kind = .overdraftFund := congrArg TransferCommand.kind hc
    have hst : p.cmd.initialStatus = .succeeded := congrArg TransferCommand.initialStatus hc
    refine h.post hch hv hrouted ?_ ?_ <;>
      simp [howed, hrow, hk, hst, TransferRow.pendingAmount, TransferKind.receiverType,
        TransferKind.senderType]
  | undoHold hc _ _ =>
    have hk : p.cmd.kind = .undoHold := congrArg TransferCommand.kind hc
    have hst : p.cmd.initialStatus = .pendingUndo := congrArg TransferCommand.initialStatus hc
    refine h.post hch hv hrouted ?_ ?_ <;>
      simp [howed, hrow, hk, hst, TransferRow.pendingAmount, TransferKind.receiverType,
        TransferKind.senderType]
  | escrowHold hc _ _ =>
    have hk : p.cmd.kind = .escrowHold := congrArg TransferCommand.kind hc
    have hst : p.cmd.initialStatus = .held := congrArg TransferCommand.initialStatus hc
    refine h.post hch hv hrouted ?_ ?_ <;>
      simp [pendingOwed, escrowOwed, hrow, hk, hst, TransferRow.pendingAmount,
        TransferKind.receiverType, TransferKind.senderType]
  | draw hc _ _ _ _ _ _ _ =>
    have hk : p.cmd.kind = .overdraftDraw := congrArg TransferCommand.kind hc
    have hst : p.cmd.initialStatus = .succeeded := congrArg TransferCommand.initialStatus hc
    refine h.post hch hv hrouted ?_ ?_ <;>
      simp [pendingOwed, escrowOwed, hrow, hk, hst, TransferRow.pendingAmount,
        TransferKind.receiverType, TransferKind.senderType]
  | request hc _ _ =>
    have hk : p.cmd.kind = .requestSettlement := congrArg TransferCommand.kind hc
    have hst : p.cmd.initialStatus = .succeeded := congrArg TransferCommand.initialStatus hc
    refine h.post hch hv hrouted ?_ ?_ <;>
      simp [pendingOwed, escrowOwed, hrow, hk, hst, TransferRow.pendingAmount,
        TransferKind.receiverType, TransferKind.senderType]
  | undoLeg hc hf hp =>
    have hk : p.cmd.kind = undoLegKind _ := congrArg TransferCommand.kind hc
    have hst : p.cmd.initialStatus = .succeeded := congrArg TransferCommand.initialStatus hc
    have ha : p.cmd.amount.minor = _ := congrArg (fun cmd => cmd.amount.minor) hc
    refine h.post hch hv hrouted ?_ ?_ <;> rcases hp.settles with rfl | rfl <;>
      simp [pendingOwed, escrowOwed, hf, hrow, hk, hst, ha, undoLegKind, TransferRow.pendingAmount,
        TransferKind.receiverType, TransferKind.senderType, HoldingService.legCommand, Money.fromMinor]
  | escrowLeg hc hf hp he hh =>
    have hk : p.cmd.kind = escrowLegKind _ := congrArg TransferCommand.kind hc
    have hst : p.cmd.initialStatus = .succeeded := congrArg TransferCommand.initialStatus hc
    refine h.post hch hv hrouted ?_ ?_ <;> rcases hp.settles with rfl | rfl <;>
      simp [pendingOwed, escrowOwed, hrow, hk, hst, escrowLegKind, TransferRow.pendingAmount,
        TransferKind.receiverType, TransferKind.senderType]

/-- The money of a latched hold stays where it is until its leg is posted. -/
theorem latch {hold : TransferRow} {toStatus : TransferStatus} {now : Time}
    (h : Custody .none db.accounts db.transfers db.safepayEscrows)
    (hf : db.transfers.find? hold.id = some hold)
    (hto : toStatus = .succeeded ∨ toStatus = .refunded) :
    Custody (.pay hold.id hold.status toStatus) db.accounts
      (db.transfers.modifyAt hold.id (TransferRow.latched toStatus now)
        (TransferRow.id_latched toStatus now)) db.safepayEscrows := by
  refine ⟨?_, h.escrowed⟩
  have hnew : (hold.latched toStatus now).pendingAmount = 0 := by
    rcases hto with rfl | rfl <;> rfl
  have howed : pendingOwed (db.transfers.modifyAt hold.id (TransferRow.latched toStatus now)
      (TransferRow.id_latched toStatus now)) (.pay hold.id hold.status toStatus) =
      hold.pendingAmount := by
    have hfound : (db.transfers.modifyAt hold.id (TransferRow.latched toStatus now)
        (TransferRow.id_latched toStatus now)).find? hold.id = some (hold.latched toStatus now) := by
      rw [Table.find?_modifyAt, if_pos rfl, hf]
      rfl
    unfold TransferRow.pendingAmount
    cases hold.status <;> simp [pendingOwed, hfound, TransferRow.latched]
  have hpending := h.pending
  rw [Table.sum_modifyAt hf, hnew, howed, hpending]
  simp only [pendingOwed]
  omega

theorem openEscrow {t : TransferRow} {e : EscrowRow}
    (h : Custody (.openEscrow t) db.accounts db.transfers db.safepayEscrows)
    (hf : db.safepayEscrows.find? e.id = none) (hs : e.status = .awaitingShipment)
    (ha : e.amountMinor = t.amountMinor) :
    Custody .none db.accounts db.transfers (db.safepayEscrows.push e) := by
  refine ⟨h.pending, ?_⟩
  have hopen : e.openAmount = t.amountMinor := by
    unfold EscrowRow.openAmount
    rw [hs, ha]
    rfl
  have hescrowed := h.escrowed
  rw [Table.sum_push hf, hopen, hescrowed]
  simp only [escrowOwed]
  omega

theorem escrow {e : EscrowRow} {f : EscrowRow → EscrowRow} (hid : ∀ x, (f x).id = x.id)
    (h : Custody d db.accounts db.transfers db.safepayEscrows)
    (hf : db.safepayEscrows.find? e.id = some e) (ho : e.status.isOpen = true)
    (ho' : (f e).status.isOpen = true) (hd : e.SameDeal (f e)) :
    Custody d db.accounts db.transfers (db.safepayEscrows.modifyAt e.id f hid) := by
  refine ⟨h.pending, ?_⟩
  have hopen : (f e).openAmount = e.openAmount := by
    unfold EscrowRow.openAmount
    rw [ho, ho', hd.amount]
  have hescrowed := h.escrowed
  rw [Table.sum_modifyAt hf, hopen]
  omega

theorem closeEscrow {t : TransferRow} {e : EscrowRow} {f : EscrowRow → EscrowRow}
    (hid : ∀ x, (f x).id = x.id)
    (h : Custody (.closeEscrow t) db.accounts db.transfers db.safepayEscrows)
    (hf : db.safepayEscrows.find? e.id = some e) (ho : e.status.isOpen = true)
    (ho' : (f e).status.isOpen = false) (ha : t.amountMinor = e.amountMinor) :
    Custody .none db.accounts db.transfers (db.safepayEscrows.modifyAt e.id f hid) := by
  refine ⟨h.pending, ?_⟩
  have hopen : e.openAmount = t.amountMinor ∧ (f e).openAmount = 0 := by
    unfold EscrowRow.openAmount
    rw [ho, ho', ha]
    exact ⟨rfl, rfl⟩
  have hescrowed := h.escrowed
  rw [Table.sum_modifyAt hf, hopen.1, hopen.2, hescrowed]
  simp only [escrowOwed]
  omega

theorem step {L : Licence} {k k' : Config} (hs : Step c L k k') (hL : L.Sound c)
    (hstray : k.progress.repaying = none → ¬Stray k.db k.progress.duty) (hch : Chart k.db)
    (hr : Routes c.settings k.progress.duty k.db)
    (h : Custody k.progress.duty k.db.accounts k.db.transfers k.db.safepayEscrows) :
    Custody k'.progress.duty k'.db.accounts k'.db.transfers k'.db.safepayEscrows := by
  cases hs
  case post hv hl => exact h.post_warrant hch hr hv (hL.post _ _ _ _ hl)
  case repay p loan pool hv hrep =>
    have hrow : p.row.kind = p.cmd.kind ∧ p.row.status = p.cmd.initialStatus := ⟨rfl, rfl⟩
    have hroute : Routed c.settings _ p.row := hrep.routed hch hv
    refine h.post hch hv hroute ?_ ?_ <;>
      simp [pendingOwed_push hr.duty, hrow, hrep.kind, hrep.status, TransferRow.pendingAmount,
        TransferKind.receiverType, TransferKind.senderType]
  case latch hf _ hto => exact h.latch hf hto
  case openEscrow hf _ _ ha hst _ => exact h.openEscrow hf hst ha
  case escrow hid hf ho ho' hd _ => exact h.escrow hid hf ho ho' hd
  case closeEscrow hid hf ho hhold hd hst _ =>
    refine h.closeEscrow hid hf ho ?_ (leg_amount hr (Table.mem_of_find? hf) hhold)
    rcases hst with ⟨hst, -⟩ | ⟨hst, -⟩ <;> rw [hst] <;> rfl
  case openAccount =>
    refine ⟨?_, ?_⟩
    · exact (balanceOf_push _ hch.pending.isSome).trans h.pending
    · exact (balanceOf_push _ hch.escrow.isSome).trans h.escrowed
  case openPool =>
    refine ⟨?_, ?_⟩
    · exact (balanceOf_push _ hch.pending.isSome).trans h.pending
    · exact (balanceOf_push _ hch.escrow.isSome).trans h.escrowed
  case closeAccount =>
    refine ⟨?_, ?_⟩
    · exact (balanceOf_restated _ _ _ _ _).trans h.pending
    · exact (balanceOf_restated _ _ _ _ _).trans h.escrowed
  case lend => exact ⟨h.pending, h.escrowed⟩
  case accept => exact ⟨h.pending, h.escrowed⟩
  case stray hs _ _ _ => exact absurd hs (hstray rfl)
  all_goals exact h

end Custody

end MoneyMovement

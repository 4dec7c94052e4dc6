/-
  MoneyMovement/CourierSignature.lean
  ===================================
  **What a courier's signature binds.**

  The webhook route signs `courier|eventId|trackingNumber|DELIVERED|flag`.  The
  fields are free text and may hold the bar themselves, so the text alone does not
  say where one field ends.  A signature is good for one event only when the
  signed text can be cut at two bars, into fields the route admits, in one way.
-/
import MoneyMovement.Requests

namespace MoneyMovement

open Txn

/-! ### Cutting a text at two places -/

section Cutting

variable {α : Type} {sep : α} {t x y z x' y' z' : List α} {i k : Nat}

/-- The text with its fields joined by a separator. -/
def join (sep : α) (x y z : List α) : List α := x ++ sep :: (y ++ sep :: z)

/-- The text up to `i`, between `i` and `k`, and after `k`. -/
def cut (i k : Nat) (t : List α) : List α × List α × List α :=
  (t.take i, (t.drop (i + 1)).take (k - (i + 1)), t.drop (k + 1))

theorem join_cut (hi : t[i]? = some sep) (hk : t[k]? = some sep) (hlt : i < k) :
    join sep (cut i k t).1 (cut i k t).2.1 (cut i k t).2.2 = t := by
  have htail : (t.drop (i + 1))[k - (i + 1)]? = some sep := by
    rw [List.getElem?_drop, Nat.add_sub_of_le hlt, hk]
  have hdrop : ∀ {u : List α} {n : Nat}, u[n]? = some sep → u.take n ++ sep :: u.drop (n + 1) = u := by
    intro u n hn
    obtain ⟨hlen, rfl⟩ := List.getElem?_eq_some_iff.1 hn
    rw [← List.drop_eq_getElem_cons hlen, List.take_append_drop]
  have hrest : t.drop (k + 1) = (t.drop (i + 1)).drop (k - (i + 1) + 1) := by
    rw [List.drop_drop]
    congr 1
    omega
  unfold join cut
  dsimp only
  rw [hrest, hdrop htail, hdrop hi]

theorem getElem?_join : (join sep x y z)[x.length]? = some sep ∧
    (join sep x y z)[x.length + 1 + y.length]? = some sep := by
  constructor
  · simp [join]
  · rw [join, List.getElem?_append_right (by omega)]
    have hindex : x.length + 1 + y.length - x.length = y.length + 1 := by omega
    rw [hindex]
    simp

theorem cut_join : cut x.length (x.length + 1 + y.length) (join sep x y z) = (x, y, z) := by
  have hdrop : (join sep x y z).drop (x.length + 1) = y ++ sep :: z := by
    simp [join]
  have hrest : (join sep x y z).drop (x.length + 1 + y.length + 1) = z := by
    rw [Nat.add_assoc (x.length + 1), ← List.drop_drop, hdrop]
    simp
  have hlen : x.length + 1 + y.length - (x.length + 1) = y.length := by omega
  unfold cut
  rw [hdrop, hrest, hlen]
  simp [join]

theorem join_inj_of_length (h : join sep x y z = join sep x' y' z') (hx : x.length = x'.length)
    (hy : y.length = y'.length) : x = x' ∧ y = y' ∧ z = z' := by
  obtain ⟨hfirst, htail⟩ := List.append_inj h hx
  obtain ⟨hsecond, hrest⟩ := List.append_inj (List.tail_eq_of_cons_eq htail) hy
  exact ⟨hfirst, hsecond, List.tail_eq_of_cons_eq hrest⟩

end Cutting

/-! ### The requests the route admits -/

/-- The characters `str_strip_whitespace` strips: Unicode's `White_Space`. -/
def isWhiteSpace (ch : Char) : Bool :=
  let n := ch.toNat
  (9 ≤ n && n ≤ 13) || n == 0x20 || n == 0x85 || n == 0xA0 || n == 0x1680 ||
    (0x2000 ≤ n && n ≤ 0x200A) || n == 0x2028 || n == 0x2029 || n == 0x202F || n == 0x205F ||
    n == 0x3000

/-- Neither end of the text would be stripped. -/
def Stripped (text : List Char) : Prop :=
  (∀ ch ∈ text.head?, isWhiteSpace ch = false) ∧ ∀ ch ∈ text.getLast?, isWhiteSpace ch = false

instance (text : List Char) : Decidable (Stripped text) :=
  @instDecidableAnd _ _ (Option.decidableForallMem _) (Option.decidableForallMem _)

/-- `CourierDeliveryWebhook`, with the courier of the path. -/
structure CourierDeliveryWebhook where
  courier : String
  eventId : String
  trackingNumber : String
  releaseImmediately : Bool
  deriving DecidableEq

/-- A path segment, and the field constraints of the model. -/
structure Admits (courier eventId trackingNumber : List Char) : Prop where
  segment : courier ≠ [] ∧ '/' ∉ courier
  eventId_length : 8 ≤ eventId.length ∧ eventId.length ≤ 128
  eventId_stripped : Stripped eventId
  tracking_length : 4 ≤ trackingNumber.length ∧ trackingNumber.length ≤ 64
  tracking_stripped : Stripped trackingNumber

namespace CourierDeliveryWebhook

def Admitted (r : CourierDeliveryWebhook) : Prop :=
  Admits r.courier.toList r.eventId.toList r.trackingNumber.toList

/-- What the courier signs for the request. -/
def signed (r : CourierDeliveryWebhook) : String :=
  courierSigned r.courier r.eventId r.trackingNumber r.releaseImmediately

/-- The signature the route expects for the request. -/
def signature (c : Ctx) (r : CourierDeliveryWebhook) : String :=
  c.crypto.hmacHex (c.settings.jwtSecret ++ ":courier") r.signed

/-- The free text of the request: its fields up to the status. -/
def fields (r : CourierDeliveryWebhook) : List Char :=
  join '|' r.courier.toList r.eventId.toList r.trackingNumber.toList

/-- The status and the flag that close the signed text. -/
def closing (releaseImmediately : Bool) : List Char :=
  ("|DELIVERED|" ++ if releaseImmediately then "true" else "false").toList

variable {r r' : CourierDeliveryWebhook}

theorem toList_signed (r : CourierDeliveryWebhook) :
    r.signed.toList = r.fields ++ closing r.releaseImmediately := by
  simp [signed, courierSigned, fields, join, closing]

theorem signed_eq_iff :
    r.signed = r'.signed ↔ r.fields = r'.fields ∧ r.releaseImmediately = r'.releaseImmediately := by
  rw [← String.toList_inj, toList_signed, toList_signed]
  constructor
  · intro h
    have hlast := congrArg (fun t => t.reverse[2]?) h
    have hflag : r.releaseImmediately = r'.releaseImmediately := by
      -- The third character from the end tells `true` from `false`.
      cases hr : r.releaseImmediately <;> cases hr' : r'.releaseImmediately <;>
        simp [closing, hr, hr'] at hlast ⊢
    rw [hflag] at h
    exact ⟨List.append_cancel_right h, hflag⟩
  · rintro ⟨hf, hflag⟩
    rw [hf, hflag]

/-! ### One reading -/

/-- Two bars of the text, at `i` and at `k`, between which the route admits the fields. -/
structure Reads (text : List Char) (i k : Nat) : Prop where
  first : text[i]? = some '|'
  second : text[k]? = some '|'
  lt : i < k
  admits : Admits (cut i k text).1 (cut i k text).2.1 (cut i k text).2.2

/-- No other two bars of the request's text delimit fields the route admits. -/
def ReadsOneWay (r : CourierDeliveryWebhook) : Prop :=
  ∀ i k, Reads r.fields i k →
    i = r.courier.toList.length ∧ k = r.courier.toList.length + 1 + r.eventId.toList.length

theorem Admitted.reads (h : r.Admitted) :
    Reads r.fields r.courier.toList.length (r.courier.toList.length + 1 + r.eventId.toList.length) := by
  refine ⟨getElem?_join.1, getElem?_join.2, by omega, ?_⟩
  rw [fields, cut_join]
  exact h

/-- The request another reading of the text stands for. -/
def reading (i k : Nat) (r : CourierDeliveryWebhook) : CourierDeliveryWebhook where
  courier := .ofList (cut i k r.fields).1
  eventId := .ofList (cut i k r.fields).2.1
  trackingNumber := .ofList (cut i k r.fields).2.2
  releaseImmediately := r.releaseImmediately

theorem Reads.admitted {i k : Nat} (h : Reads r.fields i k) : (reading i k r).Admitted := by
  unfold Admitted reading
  simp only [String.toList_ofList]
  exact h.admits

theorem Reads.signed_reading {i k : Nat} (h : Reads r.fields i k) :
    (reading i k r).signed = r.signed := by
  refine signed_eq_iff.2 ⟨?_, rfl⟩
  rw [fields, reading]
  simp only [String.toList_ofList]
  exact join_cut h.first h.second h.lt

theorem ReadsOneWay.eq (h : r.ReadsOneWay) (hr' : r'.Admitted) (hsigned : r.signed = r'.signed) :
    r = r' := by
  obtain ⟨hfields, hflag⟩ := signed_eq_iff.1 hsigned
  have hreads := hr'.reads
  rw [← hfields] at hreads
  obtain ⟨hcourier, hevent⟩ := h _ _ hreads
  obtain ⟨h₁, h₂, h₃⟩ := join_inj_of_length hfields hcourier.symm (by omega)
  cases r
  cases r'
  simp only [CourierDeliveryWebhook.mk.injEq]
  exact ⟨String.toList_inj.1 h₁, String.toList_inj.1 h₂, String.toList_inj.1 h₃, hflag⟩

/-- Fields without a bar read one way. -/
theorem readsOneWay_of_no_bar (hc : '|' ∉ r.courier.toList) (he : '|' ∉ r.eventId.toList)
    (ht : '|' ∉ r.trackingNumber.toList) : r.ReadsOneWay := by
  have hbars : ∀ n, r.fields[n]? = some '|' → n = r.courier.toList.length ∨
      n = r.courier.toList.length + 1 + r.eventId.toList.length := by
    intro n hn
    rw [fields, join, List.getElem?_append] at hn
    split at hn
    · exact absurd (List.mem_of_getElem? hn) hc
    · rw [List.getElem?_cons] at hn
      split at hn
      · exact .inl (by omega)
      · rw [List.getElem?_append] at hn
        split at hn
        · exact absurd (List.mem_of_getElem? hn) he
        · rw [List.getElem?_cons] at hn
          split at hn
          · exact .inr (by omega)
          · exact absurd (List.mem_of_getElem? hn) ht
  intro i k h
  have hi := hbars i h.first
  have hk := hbars k h.second
  have hlt := h.lt
  omega

/-- The signature of the request is good for no other request the route admits: none has the
    same signed bytes, and none gets past the route with it. -/
def SignatureBinds (c : Ctx) (r : CourierDeliveryWebhook) : Prop :=
  (∀ r' : CourierDeliveryWebhook, r'.Admitted → r.signed = r'.signed → r = r') ∧
  ∀ (r' : CourierDeliveryWebhook), r'.Admitted → r ≠ r' → ∀ s,
    courierWebhookOp c r'.courier r'.eventId r'.trackingNumber r'.releaseImmediately
        (some (r.signature c)) s =
      .raised ⟨.authorization, "Invalid courier webhook signature.", []⟩ s

end CourierDeliveryWebhook

open CourierDeliveryWebhook

/-- With a collision-free HMAC, the signature of a request binds its event exactly when the
    request's text reads one way. -/
theorem courier_signature_binds_iff (d : Deployment) (o : Oracle)
    (hmac : ∀ secret, Function.Injective (d.crypto.hmacHex secret))
    (r : CourierDeliveryWebhook) : SignatureBinds (d.ctx o) r ↔ ReadsOneWay r := by
  constructor
  · intro h i k hreads
    have heq := h.1 (reading i k r) hreads.admitted hreads.signed_reading.symm
    obtain ⟨hi, -⟩ := List.getElem?_eq_some_iff.1 hreads.first
    obtain ⟨hk, -⟩ := List.getElem?_eq_some_iff.1 hreads.second
    have hlt := hreads.lt
    have hcourier : r.courier.toList = (cut i k r.fields).1 := by
      conv_lhs => rw [heq, reading, String.toList_ofList]
    have hevent : r.eventId.toList = (cut i k r.fields).2.1 := by
      conv_lhs => rw [heq, reading, String.toList_ofList]
    rw [hcourier, hevent]
    simp only [cut, List.length_take, List.length_drop]
    omega
  · intro h
    refine ⟨fun r' hr' hsigned => h.eq hr' hsigned, ?_⟩
    intro r' hr' hne s
    have hsignature : ¬some (r.signature (d.ctx o)) = some (r'.signature (d.ctx o)) := by
      intro heq
      exact hne (h.eq hr' (hmac _ (Option.some.inj heq)))
    exact bind_of_raised (ensure_of_neg hsignature _ s) _

namespace Sample

/-- The event of a parcel without bars in its fields. -/
def parcel : CourierDeliveryWebhook := ⟨"redx", "evt-0001", "RDX-9000", true⟩

def barred : CourierDeliveryWebhook := ⟨"redx", "evt-0001", "LOT7|RDX-9000", true⟩

/-- The same signed text, cut at another bar. -/
def recut : CourierDeliveryWebhook := ⟨"redx", "evt-0001|LOT7", "RDX-9000", true⟩

theorem hmacHex_injective (secret : String) : Function.Injective (deployment.crypto.hmacHex secret) := by
  show Function.Injective (courierHmac secret)
  unfold courierHmac
  split
  · exact digestOf_injective (by decide +kernel) (by decide +kernel)
  · exact digestOf_injective nofun nofun

end Sample

theorem parcel_signature_binds :
    SignatureBinds (Sample.deployment.ctx (Sample.oracle 1 Sample.start)) Sample.parcel :=
  (courier_signature_binds_iff Sample.deployment _ Sample.hmacHex_injective Sample.parcel).2
    (readsOneWay_of_no_bar (by decide) (by decide) (by decide))

/-- Two admitted events for different parcels have one signed text, and so one signature. -/
theorem one_signature_for_two_parcels :
    Sample.barred.Admitted ∧ Sample.recut.Admitted ∧ Sample.barred.eventId ≠ Sample.recut.eventId ∧
      Sample.barred.trackingNumber ≠ Sample.recut.trackingNumber ∧
      Sample.barred.signed = Sample.recut.signed ∧
      ¬SignatureBinds (Sample.deployment.ctx (Sample.oracle 1 Sample.start)) Sample.barred := by
  have hadmitted : Sample.recut.Admitted := by constructor <;> decide
  have hsigned : Sample.barred.signed = Sample.recut.signed := by decide +kernel
  refine ⟨by constructor <;> decide, hadmitted, by decide, by decide, hsigned, ?_⟩
  intro h
  have hne : Sample.barred ≠ Sample.recut := by decide
  exact hne (h.1 Sample.recut hadmitted hsigned)

end MoneyMovement

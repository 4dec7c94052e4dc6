/-
  MoneyMovement/Identifiers.lean
  ==============================
  **The text of an identifier sorts as the identifier does** — `kernel/ids.py`.

  Primary keys, lock order, cursors and statements compare identifiers as
  strings, and the model compares their `rank`.  `Ulid.text_lt_iff` says that the
  two orders are one.  `_encode` and `new_ulid` are translated here as they are
  written, with the digit loop, the random bytes and the range check, and
  `newUlid_ok` shows that what they return is the text of a `Ulid`.
-/
import Mathlib.Data.List.Induction
import MoneyMovement.Records

namespace MoneyMovement

/-! ### Ranks -/

theorem Ulid.rank_lt_of_ms {u v : Ulid} (h : u.ms < v.ms) : u.rank < v.rank := by
  have hms : u.ms.val + 1 ≤ v.ms.val := h
  have hrand := u.rand.isLt
  have hmul : (u.ms.val + 1) * 2 ^ 80 ≤ v.ms.val * 2 ^ 80 := Nat.mul_le_mul_right _ hms
  unfold Ulid.rank
  omega

theorem Ulid.rank_lt_of_rand {u v : Ulid} (hms : u.ms = v.ms) (h : u.rand < v.rand) :
    u.rank < v.rank := by
  have hrand : u.rand.val < v.rand.val := h
  unfold Ulid.rank
  rw [hms]
  omega

theorem Ulid.rank_injective {u v : Ulid} (h : u.rank = v.rank) : u = v := by
  have hu := u.rand.isLt
  have hv := v.rand.isLt
  unfold Ulid.rank at h
  have hms : u.ms.val = v.ms.val := by omega
  have hrand : u.rand.val = v.rand.val := by omega
  cases u
  cases v
  simp_all [Fin.ext_iff]

theorem Ulid.rank_lt_iff {u v : Ulid} :
    u.rank < v.rank ↔ u.ms < v.ms ∨ u.ms = v.ms ∧ u.rand < v.rand := by
  constructor
  · intro h
    rcases lt_trichotomy u.ms v.ms with hms | hms | hms
    · exact .inl hms
    · refine .inr ⟨hms, ?_⟩
      unfold rank at h
      rw [hms] at h
      exact Fin.lt_def.2 (by omega)
    · exact absurd (rank_lt_of_ms hms) (Nat.lt_asymm h)
  · rintro (hms | ⟨hms, hrand⟩)
    · exact rank_lt_of_ms hms
    · exact rank_lt_of_rand hms hrand

/-! ### Texts -/

theorem crockford_ascending : crockford.Ascending := by
  decide

theorem Ulid.ms_lt_base (u : Ulid) : u.ms.val < crockford.base ^ 10 :=
  Nat.lt_of_lt_of_le u.ms.isLt (by decide)

theorem Ulid.rand_lt_base (u : Ulid) : u.rand.val < crockford.base ^ 16 :=
  Nat.lt_of_lt_of_le u.rand.isLt (by decide)

theorem Ulid.text_lt_of_rank {u v : Ulid} (h : u.rank < v.rank) : u.text < v.text := by
  rw [String.lt_iff, text, text, String.toList_ofList, String.toList_ofList, chars, chars]
  rcases rank_lt_iff.1 h with hms | ⟨hms, hrand⟩
  · have hlt := crockford_ascending.encode_lt hms v.ms_lt_base
    exact Alphabet.append_lt_append (by simp) hlt _ _
  · have hlt := crockford_ascending.encode_lt hrand v.rand_lt_base
    rw [hms]
    exact List.append_left_lt hlt

/-- `ORDER BY id` on the texts is the order of the ranks. -/
theorem Ulid.text_lt_iff {u v : Ulid} : u.text < v.text ↔ u.rank < v.rank := by
  constructor
  · intro h
    rcases Nat.lt_trichotomy u.rank v.rank with hlt | heq | hgt
    · exact hlt
    · rw [rank_injective heq] at h
      exact absurd h (String.lt_irrefl _)
    · exact absurd (text_lt_of_rank hgt) (String.lt_asymm h)
  · exact text_lt_of_rank

namespace Ids

/-! ### `_encode` -/

/-- The loop of `_encode`: each round takes the last digit off and appends its character. -/
def encodeLoop : (length : Nat) → (value : Int) → (chars : List Char) → List Char
  | 0, _, chars => chars
  | length + 1, value, chars =>
    encodeLoop length (value / 32) (chars ++ [crockford.digit (value % 32).toNat])

/-- `_encode`: the characters of the loop, reversed. -/
def encode (value : Int) (length : Nat) : String :=
  String.ofList (encodeLoop length value []).reverse

/-- The loop writes the numeral from its last digit to its first. -/
theorem encodeLoop_eq (length value : Nat) (chars : List Char) :
    encodeLoop length value chars = chars ++ (crockford.encode length value).reverse := by
  induction length generalizing value chars with
  | zero => simp [encodeLoop, Alphabet.encode]
  | succ length ih =>
    have hdiv : (value : Int) / 32 = ((value / 32 : Nat) : Int) := by omega
    have hmod : ((value : Int) % 32).toNat = value % 32 := by omega
    rw [encodeLoop, hdiv, hmod, ih, Alphabet.encode]
    simp [show crockford.base = 32 from rfl]

theorem encode_eq (value length : Nat) :
    encode value length = String.ofList (crockford.encode length value) := by
  rw [encode, encodeLoop_eq, List.nil_append, List.reverse_reverse]

theorem length_encodeLoop (length : Nat) (value : Int) (chars : List Char) :
    (encodeLoop length value chars).length = chars.length + length := by
  induction length generalizing value chars with
  | zero => rfl
  | succ length ih =>
    rw [encodeLoop, ih, List.length_append, List.length_singleton]
    omega

theorem length_encode (value : Int) (length : Nat) : (encode value length).length = length := by
  rw [encode, String.length_ofList, List.length_reverse, length_encodeLoop, List.length_nil,
    Nat.zero_add]

theorem encode_lt {length : Nat} {v w : Int} (hv : 0 ≤ v) (h : v < w) (hw : w < 32 ^ length) :
    encode v length < encode w length := by
  lift v to Nat using hv
  lift w to Nat using Int.le_trans (Int.natCast_nonneg v) (Int.le_of_lt h)
  have hlt : v < w := by omega
  have hw : w < crockford.base ^ length := by exact_mod_cast hw
  rw [encode_eq, encode_eq, String.lt_iff, String.toList_ofList, String.toList_ofList]
  exact crockford_ascending.encode_lt hlt hw

section Order

variable {length : Nat} {v w : Int} (hv : 0 ≤ v) (hv' : v < 32 ^ length) (hw : 0 ≤ w)
  (hw' : w < 32 ^ length)
include hv hv' hw hw'

theorem encode_lt_iff : encode v length < encode w length ↔ v < w := by
  constructor
  · intro h
    rcases lt_trichotomy v w with hlt | heq | hgt
    · exact hlt
    · rw [heq] at h
      exact absurd h (String.lt_irrefl _)
    · exact absurd (encode_lt hw hgt hv') (String.lt_asymm h)
  · intro h
    exact encode_lt hv h hw'

theorem encode_injective (h : encode v length = encode w length) : v = w := by
  rcases lt_trichotomy v w with hlt | heq | hgt
  · exact absurd (h ▸ encode_lt hv hlt hw') (String.lt_irrefl _)
  · exact heq
  · exact absurd (h ▸ encode_lt hw hgt hv') (String.lt_irrefl _)

end Order

theorem mem_crockford_of_mem_encode {length : Nat} {v : Int} (hv : 0 ≤ v) {c : Char}
    (h : c ∈ (encode v length).toList) : c ∈ crockford.digits := by
  lift v to Nat using hv
  rw [encode_eq, String.toList_ofList] at h
  exact crockford.mem_digits_of_mem_encode h

/-! ### `new_ulid` -/

/-- `int.from_bytes(data, "big")`. -/
def fromBytes (data : List UInt8) : Nat := data.foldl (fun n byte => n * 256 + byte.toNat) 0

/-- `new_ulid`, at the time it is given or reads, on the bytes `os.urandom` gives it. -/
def newUlid (ms : Int) (randomness : Vector UInt8 10) : Except String String :=
  if 0 ≤ ms ∧ ms < 2 ^ 48 then
    .ok (encode ms 10 ++ encode (fromBytes randomness.toList) 16)
  else .error "timestamp out of ULID range"

theorem fromBytes_concat (data : List UInt8) (byte : UInt8) :
    fromBytes (data ++ [byte]) = fromBytes data * 256 + byte.toNat := by
  simp [fromBytes]

theorem fromBytes_lt (data : List UInt8) : fromBytes data < 256 ^ data.length := by
  induction data using List.reverseRecOn with
  | nil => decide
  | append_singleton data byte ih =>
    have hbyte := byte.toNat_lt
    rw [fromBytes_concat, List.length_append, List.length_singleton, Nat.pow_succ]
    omega

/-- Byte strings of one length are told apart by their numbers. -/
theorem fromBytes_injective {data data' : List UInt8} (hlen : data.length = data'.length)
    (h : fromBytes data = fromBytes data') : data = data' := by
  induction data using List.reverseRecOn generalizing data' with
  | nil => exact (List.length_eq_zero_iff.1 hlen.symm).symm
  | append_singleton data byte ih =>
    rcases List.eq_nil_or_concat data' with rfl | ⟨data', byte', rfl⟩
    · simp at hlen
    · have hbyte := byte.toNat_lt
      have hbyte' := byte'.toNat_lt
      rw [fromBytes_concat, List.concat_eq_append, fromBytes_concat] at h
      have hlast : byte.toNat = byte'.toNat := by omega
      have hinit : fromBytes data = fromBytes data' := by omega
      rw [ih (by simpa using hlen) hinit, UInt8.toNat_inj.1 hlast, List.concat_eq_append]

/-- What `new_ulid` returns is the text of the time and the random number. -/
theorem newUlid_ok {ms : Int} {randomness : Vector UInt8 10} {id : String}
    (h : newUlid ms randomness = .ok id) :
    ∃ u : Ulid, (u.ms.val : Int) = ms ∧ u.rand.val = fromBytes randomness.toList ∧ id = u.text := by
  unfold newUlid at h
  split at h
  · rename_i hms
    obtain ⟨hpos, hlt⟩ := hms
    lift ms to Nat using hpos
    have hrand : fromBytes randomness.toList < 2 ^ 80 := by
      have := fromBytes_lt randomness.toList
      rw [Vector.length_toList] at this
      exact this
    refine ⟨⟨⟨ms, by exact_mod_cast hlt⟩, ⟨_, hrand⟩⟩, rfl, rfl, ?_⟩
    rw [← Except.ok.inj h, encode_eq, encode_eq, ← String.ofList_append]
    rfl
  · cases h

theorem exists_newUlid {ms : Int} (hpos : 0 ≤ ms) (hlt : ms < 2 ^ 48)
    (randomness : Vector UInt8 10) : ∃ id, newUlid ms randomness = .ok id :=
  ⟨_, if_pos ⟨hpos, hlt⟩⟩

/-- Two generated identifiers compare as their times do, and at one time as their random
    numbers do. -/
theorem newUlid_lt_iff {ms ms' : Int} {randomness randomness' : Vector UInt8 10} {id id' : String}
    (h : newUlid ms randomness = .ok id) (h' : newUlid ms' randomness' = .ok id') :
    id < id' ↔ ms < ms' ∨
      ms = ms' ∧ fromBytes randomness.toList < fromBytes randomness'.toList := by
  obtain ⟨u, hms, hrand, rfl⟩ := newUlid_ok h
  obtain ⟨v, hms', hrand', rfl⟩ := newUlid_ok h'
  rw [Ulid.text_lt_iff, Ulid.rank_lt_iff, ← hms, ← hms', ← hrand, ← hrand', Fin.lt_def, Fin.lt_def,
    Fin.ext_iff]
  omega

theorem newUlid_injective {ms ms' : Int} {randomness randomness' : Vector UInt8 10} {id : String}
    (h : newUlid ms randomness = .ok id) (h' : newUlid ms' randomness' = .ok id) :
    ms = ms' ∧ randomness = randomness' := by
  obtain ⟨u, hms, hrand, rfl⟩ := newUlid_ok h
  obtain ⟨v, hms', hrand', htext⟩ := newUlid_ok h'
  obtain rfl := Ulid.text_injective htext
  have hbytes := fromBytes_injective (by simp) (hrand.symm.trans hrand')
  exact ⟨hms.symm.trans hms', Vector.toList_inj.1 hbytes⟩

/-- The accounts with fixed identifiers. -/
def systemAccountIds : List Ulid :=
  [SYSTEM_ISSUANCE_ACCOUNT_ID, ESCROW_ACCOUNT_ID, PENDING_SETTLEMENT_ACCOUNT_ID]

theorem systemAccountIds_lt {ms : Int} {randomness : Vector UInt8 10} {id : String} (hpos : 0 < ms)
    (h : newUlid ms randomness = .ok id) : ∀ a ∈ systemAccountIds, a.text < id := by
  obtain ⟨u, hms, -, rfl⟩ := newUlid_ok h
  intro a ha
  refine Ulid.text_lt_of_rank (Ulid.rank_lt_of_ms ?_)
  have hzero : a.ms.val = 0 := by
    rcases List.mem_cons.1 ha with rfl | ha
    · rfl
    · rcases List.mem_cons.1 ha with rfl | ha
      · rfl
      · rw [List.mem_singleton.1 ha]
        rfl
  rw [Fin.lt_def, hzero]
  omega

/-- `_encode` keeps the order of the numbers it writes and tells them apart, at every width;
    identifiers sort by time and then by their random bits, no two are alike, and none of a
    positive time sorts before a system account. -/
theorem ulid_encoding_is_faithful :
    (∀ (length : Nat) (v w : Int), 0 ≤ v → v < 32 ^ length → 0 ≤ w → w < 32 ^ length →
      (encode v length).length = length ∧
        (∀ c ∈ (encode v length).toList, c ∈ crockford.digits) ∧
        (encode v length < encode w length ↔ v < w) ∧
        (encode v length = encode w length → v = w)) ∧
    (∀ ms randomness, 0 ≤ ms → ms < 2 ^ 48 →
      ∃ id, newUlid ms randomness = .ok id ∧ id.length = 26) ∧
    (∀ ms ms' randomness randomness' id id', newUlid ms randomness = .ok id →
      newUlid ms' randomness' = .ok id' →
        (ms < ms' → id < id') ∧
        (ms = ms' →
          (id < id' ↔ fromBytes randomness.toList < fromBytes randomness'.toList)) ∧
        (id = id' → ms = ms' ∧ randomness = randomness')) ∧
    ∀ ms randomness id, 0 < ms → newUlid ms randomness = .ok id →
      ∀ a ∈ systemAccountIds, a.text < id ∧ a.text ≠ id := by
  refine ⟨fun length v w hv hv' hw hw' => ?_, fun ms randomness hpos hlt => ?_, ?_, ?_⟩
  · exact ⟨length_encode v length, fun c hc => mem_crockford_of_mem_encode hv hc,
      encode_lt_iff hv hv' hw hw', encode_injective hv hv' hw hw'⟩
  · obtain ⟨id, hid⟩ := exists_newUlid hpos hlt randomness
    obtain ⟨u, -, -, rfl⟩ := newUlid_ok hid
    exact ⟨u.text, hid, by rw [Ulid.text, String.length_ofList, Ulid.length_chars]⟩
  · intro ms ms' randomness randomness' id id' h h'
    have hlt := newUlid_lt_iff h h'
    refine ⟨fun hms => hlt.2 (.inl hms), fun hms => ?_, ?_⟩
    · rw [hlt]
      omega
    · rintro rfl
      exact newUlid_injective h h'
  · intro ms randomness id hpos h a ha
    have hlt := systemAccountIds_lt hpos h a ha
    refine ⟨hlt, ?_⟩
    rintro rfl
    exact String.lt_irrefl _ hlt

example : systemAccountIds.map Ulid.text =
    ["00000000000000000000000000", "00000000000000000000000001",
      "00000000000000000000000002"] := by
  decide +kernel

end Ids

end MoneyMovement

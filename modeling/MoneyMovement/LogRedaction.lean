/-
  MoneyMovement/LogRedaction.lean
  ===============================
  **What the log filter leaves in a record** — `platform_/observability/logging.py`.

  `RequestContextFilter.filter` attaches the request id, replaces every field with
  a sensitive name, and walks the containers among the others with `_redact`,
  which replaces what is stored under a sensitive key.  `_redact` gives up below
  its seventh level and returns what it finds there as it is, secrets included.

  `Redacted v w` says that `w` is `v` with everything under a sensitive key
  replaced and nothing else changed.  `redaction_complete_iff` says for which
  records the filter achieves it: those with no dictionary, seven or more
  containers down, that has something left to redact.
-/
import MoneyMovement.KeyedTable
import MoneyMovement.TextPattern

namespace MoneyMovement

/-! ### Sensitive names -/

/-- What a lower-case letter of a pattern matches under `re.IGNORECASE`: its two cases, and
    the characters that Unicode folds to it. -/
def ignoringCase (letter c : Char) : Bool :=
  c.toLower == letter ||
    (letter == 'i' && (c == '\u0130' || c == '\u0131')) ||
    (letter == 's' && c == '\u017f') ||
    (letter == 'k' && c == '\u212a')

/-- The letters one after the other. -/
def literally : List Char → TextPattern
  | [] => .chars (fun _ => false) 0 0
  | letter :: letters => .seq (.chars (ignoringCase letter) 1 1) (literally letters)

/-- `_SENSITIVE_KEYS`, one pattern for each alternative. -/
def SENSITIVE_KEYS : List TextPattern :=
  [literally "password".toList, literally "passwd".toList, literally "pin".toList,
    literally "secret".toList, literally "token".toList, literally "authorization".toList,
    literally "cookie".toList,
    .seq (literally "api".toList)
      (.seq (.optional (.chars (fun c => c == '_' || c == '-') 1 1)) (literally "key".toList))]

/-- `_SENSITIVE_KEYS.search(name)` found something. -/
def isSensitive (name : String) : Bool := SENSITIVE_KEYS.any fun p => p.found name.toList

example : isSensitive "X-Api_Key" = true ∧ isSensitive "amountMinor" = false := by
  decide +kernel

/-! ### Values -/

/-- What a record can carry: containers, texts, and objects the filter does not look into. -/
inductive LogValue (κ ω : Type) where
  | null
  | text (s : String)
  | object (o : ω)
  | dict (entries : List (κ × LogValue κ ω))
  | list (items : List (LogValue κ ω))
  | tuple (items : List (LogValue κ ω))

namespace LogValue

variable {κ ω : Type}

/-- `_REDACTED`. -/
def REDACTED : LogValue κ ω := .text "***redacted***"

mutual

/-- `_redact`. -/
def redact (str : κ → String) (depth : Nat) (value : LogValue κ ω) : LogValue κ ω :=
  if 6 < depth then value
  else
    match value with
    | .dict entries => .dict (redactEntries str (depth + 1) entries)
    | .list items => .list (redactItems str (depth + 1) items)
    | .tuple items => .list (redactItems str (depth + 1) items)
    | .null => .null
    | .text s => .text s
    | .object o => .object o

/-- The entries of a dictionary, its values at `depth`. -/
def redactEntries (str : κ → String) (depth : Nat) :
    List (κ × LogValue κ ω) → List (κ × LogValue κ ω)
  | [] => []
  | (key, value) :: entries =>
    (key, if isSensitive (str key) then REDACTED else redact str depth value) ::
      redactEntries str depth entries

/-- The items of a list or a tuple, at `depth`. -/
def redactItems (str : κ → String) (depth : Nat) : List (LogValue κ ω) → List (LogValue κ ω)
  | [] => []
  | item :: items => redact str depth item :: redactItems str depth items

end

/-! ### Complete redaction -/

mutual

/-- The second value is the first with what is under a sensitive key replaced, and nothing
    else, up to tuples that have become lists. -/
def Redacted (str : κ → String) : LogValue κ ω → LogValue κ ω → Prop
  | .dict entries, .dict entries' => RedactedEntries str entries entries'
  | .list items, .list items' => RedactedItems str items items'
  | .tuple items, .list items' => RedactedItems str items items'
  | .tuple items, .tuple items' => RedactedItems str items items'
  | .null, .null => True
  | .text s, .text s' => s = s'
  | .object o, .object o' => o = o'
  | _, _ => False

def RedactedEntries (str : κ → String) :
    List (κ × LogValue κ ω) → List (κ × LogValue κ ω) → Prop
  | [], [] => True
  | (key, value) :: entries, (key', value') :: entries' =>
    key' = key ∧
      (if isSensitive (str key) then value' = REDACTED else Redacted str value value') ∧
      RedactedEntries str entries entries'
  | _, _ => False

def RedactedItems (str : κ → String) : List (LogValue κ ω) → List (LogValue κ ω) → Prop
  | [], [] => True
  | item :: items, item' :: items' => Redacted str item item' ∧ RedactedItems str items items'
  | _, _ => False

end

/-- `Inside str n v w`: `w` sits in `v`, inside `n` containers, below no sensitive key. -/
inductive Inside (str : κ → String) : Nat → LogValue κ ω → LogValue κ ω → Prop where
  | here (v : LogValue κ ω) : Inside str 0 v v
  | dict {n : Nat} {entries : List (κ × LogValue κ ω)} {key : κ} {v w : LogValue κ ω}
      (hmem : (key, v) ∈ entries) (hkey : isSensitive (str key) = false) (h : Inside str n v w) :
      Inside str (n + 1) (.dict entries) w
  | list {n : Nat} {items : List (LogValue κ ω)} {v w : LogValue κ ω} (hmem : v ∈ items)
      (h : Inside str n v w) : Inside str (n + 1) (.list items) w
  | tuple {n : Nat} {items : List (LogValue κ ω)} {v w : LogValue κ ω} (hmem : v ∈ items)
      (h : Inside str n v w) : Inside str (n + 1) (.tuple items) w

/-- From `n` containers down, no dictionary has anything to redact. -/
def ClearBelow (str : κ → String) (n : Nat) (v : LogValue κ ω) : Prop :=
  ∀ m entries, n ≤ m → Inside str m v (.dict entries) →
    ∀ e ∈ entries, isSensitive (str e.1) = true → e.2 = REDACTED

section Clear

variable {str : κ → String} {n : Nat}

theorem clearBelow_null : ClearBelow str n (.null : LogValue κ ω) := by
  intro m entries _ h
  cases h

theorem clearBelow_text (s : String) : ClearBelow str n (.text s : LogValue κ ω) := by
  intro m entries _ h
  cases h

theorem clearBelow_object (o : ω) : ClearBelow str n (.object o : LogValue κ ω) := by
  intro m entries _ h
  cases h

theorem clearBelow_list {items : List (LogValue κ ω)} :
    ClearBelow str n (.list items) ↔ ∀ v ∈ items, ClearBelow str (n - 1) v := by
  constructor
  · intro h v hv m entries hm hin
    exact h (m + 1) entries (by omega) (.list hv hin)
  · intro h m entries hm hin
    cases hin with
    | list hv hin => exact h _ hv _ entries (by omega) hin

theorem clearBelow_tuple {items : List (LogValue κ ω)} :
    ClearBelow str n (.tuple items) ↔ ∀ v ∈ items, ClearBelow str (n - 1) v := by
  constructor
  · intro h v hv m entries hm hin
    exact h (m + 1) entries (by omega) (.tuple hv hin)
  · intro h m entries hm hin
    cases hin with
    | tuple hv hin => exact h _ hv _ entries (by omega) hin

/-- A dictionary is clear when it has nothing to redact itself, should it lie that deep, and
    its values are clear. -/
theorem clearBelow_dict {entries : List (κ × LogValue κ ω)} :
    ClearBelow str n (.dict entries) ↔
      (n = 0 → ∀ e ∈ entries, isSensitive (str e.1) = true → e.2 = REDACTED) ∧
        ∀ e ∈ entries, isSensitive (str e.1) = false → ClearBelow str (n - 1) e.2 := by
  constructor
  · intro h
    refine ⟨fun hn => h 0 entries (by omega) (.here _), ?_⟩
    intro e he hkey m inner hm hin
    exact h (m + 1) inner (by omega) (.dict he hkey hin)
  · rintro ⟨htop, hbelow⟩ m inner hm hin
    cases hin with
    | here => exact htop (by omega)
    | dict he hkey hin => exact hbelow _ he hkey _ inner (by omega) hin

end Clear

/-! ### What `_redact` achieves -/

section Redaction

variable (str : κ → String)

mutual

/-- A value is its own redaction when it has nothing to redact. -/
theorem redacted_self : ∀ v : LogValue κ ω, Redacted str v v ↔ ClearBelow str 0 v
  | .null => by simp [Redacted, clearBelow_null]
  | .text s => by simp [Redacted, clearBelow_text]
  | .object o => by simp [Redacted, clearBelow_object]
  | .dict entries => by
    rw [Redacted, redactedEntries_self entries, clearBelow_dict]
    simp
  | .list items => by rw [Redacted, redactedItems_self items, clearBelow_list]
  | .tuple items => by rw [Redacted, redactedItems_self items, clearBelow_tuple]

theorem redactedEntries_self : ∀ entries : List (κ × LogValue κ ω),
    RedactedEntries str entries entries ↔
      (∀ e ∈ entries, isSensitive (str e.1) = true → e.2 = REDACTED) ∧
        ∀ e ∈ entries, isSensitive (str e.1) = false → ClearBelow str 0 e.2
  | [] => by simp [RedactedEntries]
  | (key, value) :: entries => by
    rw [RedactedEntries, redactedEntries_self entries]
    cases hkey : isSensitive (str key) with
    | true => simp [hkey, and_assoc]
    | false =>
      have hvalue := redacted_self value
      simp only [List.forall_mem_cons, hkey]
      grind

theorem redactedItems_self : ∀ items : List (LogValue κ ω),
    RedactedItems str items items ↔ ∀ v ∈ items, ClearBelow str (0 - 1) v
  | [] => by simp [RedactedItems]
  | item :: items => by
    rw [RedactedItems, redacted_self item, redactedItems_self items, List.forall_mem_cons]

end

theorem redact_of_deep {depth : Nat} (hdepth : 6 < depth) (v : LogValue κ ω) :
    redact str depth v = v := by
  rw [redact.eq_def, if_pos hdepth]

theorem redacted_of_deep {depth : Nat} (hdepth : 6 < depth) (v : LogValue κ ω) :
    Redacted str v (redact str depth v) ↔ ClearBelow str (7 - depth) v := by
  have hzero : 7 - depth = 0 := by omega
  rw [redact_of_deep str hdepth, hzero]
  exact redacted_self str v

mutual

/-- `_redact` at `depth` is complete on the values that are clear from its cut-off down. -/
theorem redacted_redact : ∀ (v : LogValue κ ω) (depth : Nat),
    Redacted str v (redact str depth v) ↔ ClearBelow str (7 - depth) v
  | .null, depth => by
    rw [redact.eq_def]
    split <;> simp [Redacted, clearBelow_null]
  | .text s, depth => by
    rw [redact.eq_def]
    split <;> simp [Redacted, clearBelow_text]
  | .object o, depth => by
    rw [redact.eq_def]
    split <;> simp [Redacted, clearBelow_object]
  | .dict entries, depth => by
    by_cases hdepth : 6 < depth
    · exact redacted_of_deep str hdepth _
    · have hne : 7 - depth ≠ 0 := by omega
      rw [redact.eq_def, if_neg hdepth, Redacted, redactedEntries_redact entries (depth + 1),
        clearBelow_dict, Nat.sub_sub]
      simp only [hne, false_implies, true_and]
  | .list items, depth => by
    by_cases hdepth : 6 < depth
    · exact redacted_of_deep str hdepth _
    · rw [redact.eq_def, if_neg hdepth, Redacted, redactedItems_redact items (depth + 1),
        clearBelow_list, Nat.sub_sub]
  | .tuple items, depth => by
    by_cases hdepth : 6 < depth
    · exact redacted_of_deep str hdepth _
    · rw [redact.eq_def, if_neg hdepth, Redacted, redactedItems_redact items (depth + 1),
        clearBelow_tuple, Nat.sub_sub]

theorem redactedEntries_redact : ∀ (entries : List (κ × LogValue κ ω)) (depth : Nat),
    RedactedEntries str entries (redactEntries str depth entries) ↔
      ∀ e ∈ entries, isSensitive (str e.1) = false → ClearBelow str (7 - depth) e.2
  | [], depth => by simp [RedactedEntries, redactEntries]
  | (key, value) :: entries, depth => by
    rw [redactEntries, RedactedEntries, redactedEntries_redact entries depth, List.forall_mem_cons]
    cases hkey : isSensitive (str key) with
    | true => simp
    | false => simp [redacted_redact value depth]

theorem redactedItems_redact : ∀ (items : List (LogValue κ ω)) (depth : Nat),
    RedactedItems str items (redactItems str depth items) ↔
      ∀ v ∈ items, ClearBelow str (7 - depth) v
  | [], depth => by simp [RedactedItems, redactItems]
  | item :: items, depth => by
    rw [redactItems, RedactedItems, redacted_redact item depth, redactedItems_redact items depth,
      List.forall_mem_cons]

end

end Redaction

end LogValue

/-! ### Records -/

/-- `record.__dict__`: the fields of a record by name. -/
abbrev LogRecord (κ ω : Type) := Table (Prod.fst : String × LogValue κ ω → String)

/-- `_RESERVED_RECORD_ATTRS`. -/
def RESERVED_RECORD_ATTRS : List String :=
  ["args", "asctime", "created", "exc_info", "exc_text", "filename",
    "funcName", "levelname", "levelno", "lineno", "module", "msecs",
    "msg", "message", "name", "pathname", "process", "processName",
    "relativeCreated", "stack_info", "taskName", "thread", "threadName"]

namespace LogRecord

open LogValue

variable {κ ω : Type}

/-- `record.__dict__[name] = value`. -/
def assign (record : LogRecord κ ω) (name : String) (value : LogValue κ ω) : LogRecord κ ω :=
  if (record.find? name).isSome then
    record.modifyAt name (fun field => (field.1, value)) fun _ => rfl
  else record.push (name, value)

/-- `record.request_id = current_request_id()`. -/
def attach (record : LogRecord κ ω) (requestId : Option String) : LogRecord κ ω :=
  record.assign "request_id" (match requestId with
    | some id => .text id
    | none => .null)

/-- One round of the loop of `filter`. -/
def filterField (str : κ → String) (record : LogRecord κ ω) (field : String × LogValue κ ω) :
    LogRecord κ ω :=
  if field.1 ∈ RESERVED_RECORD_ATTRS then record
  else if isSensitive field.1 then record.assign field.1 REDACTED
  else
    match field.2 with
    | .dict _ | .list _ | .tuple _ => record.assign field.1 (redact str 0 field.2)
    | .null | .text _ | .object _ => record

/-- `RequestContextFilter.filter`. -/
def filter (str : κ → String) (requestId : Option String) (record : LogRecord κ ω) :
    LogRecord κ ω :=
  (record.attach requestId).rows.foldl (filterField str) (record.attach requestId)

/-- Complete redaction of a record: no field comes or goes, the reserved ones stay, what has
    a sensitive name is replaced, and the rest is redacted through and through. -/
structure RedactedFrom (str : κ → String) (before after : LogRecord κ ω) : Prop where
  names : ∀ name, (after.find? name).isSome = (before.find? name).isSome
  reserved : ∀ name ∈ RESERVED_RECORD_ATTRS, after.find? name = before.find? name
  sensitive : ∀ name ∉ RESERVED_RECORD_ATTRS, isSensitive name = true →
    ∀ field, after.find? name = some field → field.2 = REDACTED
  kept : ∀ name ∉ RESERVED_RECORD_ATTRS, isSensitive name = false →
    ∀ field field', before.find? name = some field → after.find? name = some field' →
      Redacted str field.2 field'.2

section Loop

variable {str : κ → String} {record : LogRecord κ ω} {field : String × LogValue κ ω}

/-- What the loop makes of a field. -/
def outcome (str : κ → String) (field : String × LogValue κ ω) : LogValue κ ω :=
  if field.1 ∈ RESERVED_RECORD_ATTRS then field.2
  else if isSensitive field.1 then REDACTED
  else redact str 0 field.2

theorem find?_assign (hf : record.find? field.1 = some field) (value : LogValue κ ω)
    (name : String) : (record.assign field.1 value).find? name =
      if name = field.1 then some (field.1, value) else record.find? name := by
  rw [assign, hf, Option.isSome_some, if_pos rfl, Table.find?_modifyAt]
  split
  · rw [hf]
    rfl
  · rfl

theorem find?_filterField (hf : record.find? field.1 = some field) (name : String) :
    (filterField str record field).find? name =
      if name = field.1 then some (field.1, outcome str field) else record.find? name := by
  have hsame : record.find? name =
      if name = field.1 then some (field.1, field.2) else record.find? name := by
    split
    · rename_i hname
      rw [hname, hf]
    · rfl
  unfold filterField outcome
  split
  · exact hsame
  · split
    · exact find?_assign hf _ name
    · split
      · exact find?_assign hf _ name
      · exact find?_assign hf _ name
      · exact find?_assign hf _ name
      all_goals
        rename_i hleaf
        rw [redact.eq_def, hleaf]
        rw [hleaf] at hsame
        exact hsame

variable (str) in
/-- The loop treats every field once, on the value it started with. -/
theorem find?_foldl (fields : List (String × LogValue κ ω)) (hnodup : (fields.map Prod.fst).Nodup)
    (hfields : ∀ field ∈ fields, record.find? field.1 = some field) (name : String) :
    (fields.foldl (filterField str) record).find? name =
      match fields.find? fun field => decide (field.1 = name) with
      | some field => some (field.1, outcome str field)
      | none => record.find? name := by
  induction fields generalizing record with
  | nil => rfl
  | cons field fields ih =>
    obtain ⟨hfresh, hnodup⟩ := List.nodup_cons.1 hnodup
    have hfield := hfields field List.mem_cons_self
    have hrest : ∀ other ∈ fields, (filterField str record field).find? other.1 = some other := by
      intro other hother
      have hne : other.1 ≠ field.1 := fun he => hfresh (he ▸ List.mem_map_of_mem hother)
      rw [find?_filterField hfield, if_neg hne]
      exact hfields other (List.mem_cons_of_mem _ hother)
    rw [List.foldl_cons, ih hnodup hrest, find?_filterField hfield, List.find?_cons]
    by_cases hname : field.1 = name
    · have hnone : fields.find? (fun other => decide (other.1 = name)) = none := by
        rw [List.find?_eq_none]
        intro other hother hsame
        have hsame := of_decide_eq_true hsame
        exact hfresh (hname.trans hsame.symm ▸ List.mem_map_of_mem hother)
      rw [hnone, if_pos hname.symm]
      simp [hname]
    · simp [hname, Ne.symm hname]

variable (str record) in
theorem find?_filter (requestId : Option String) (name : String) :
    (record.filter str requestId).find? name =
      ((record.attach requestId).find? name).map fun field => (field.1, outcome str field) := by
  have hloop := find?_foldl str _ (record.attach requestId).nodup
    (fun field hfield => Table.find?_of_mem hfield) name
  change _ = (match (record.attach requestId).find? name with
    | some field => some (field.1, outcome str field)
    | none => (record.attach requestId).find? name) at hloop
  rw [filter, hloop]
  cases (record.attach requestId).find? name <;> rfl

end Loop

/-- The filter redacts a record completely exactly when no dictionary in it, seven or more
    containers down, has anything left to redact. -/
theorem redaction_complete_iff (str : κ → String) (requestId : Option String)
    (record : LogRecord κ ω) :
    RedactedFrom str (record.attach requestId) (record.filter str requestId) ↔
      ∀ field ∈ (record.attach requestId).rows, field.1 ∉ RESERVED_RECORD_ATTRS →
        isSensitive field.1 = false → ClearBelow str 7 field.2 := by
  have hrest : ∀ field : String × LogValue κ ω, field.1 ∉ RESERVED_RECORD_ATTRS →
      isSensitive field.1 = false → outcome str field = redact str 0 field.2 := by
    intro field hres hsens
    rw [outcome, if_neg hres, hsens, if_neg Bool.false_ne_true]
  constructor
  · intro h field hfield hres hsens
    have hbefore := Table.find?_of_mem hfield
    have hafter := find?_filter str record requestId field.1
    rw [hbefore] at hafter
    have hkept : Redacted str field.2 (outcome str field) :=
      h.kept field.1 hres hsens field _ hbefore hafter
    rw [hrest field hres hsens] at hkept
    exact (redacted_redact str field.2 0).1 hkept
  · intro h
    refine ⟨fun name => ?_, fun name hname => ?_, fun name hname hsens field hf => ?_,
      fun name hname hsens field field' hf hf' => ?_⟩
    · rw [find?_filter, Option.isSome_map]
    · rw [find?_filter]
      cases hf : (record.attach requestId).find? name with
      | none => rfl
      | some field =>
        rw [← Table.key_of_find? hf] at hname
        rw [Option.map_some, outcome, if_pos hname]
    · rw [find?_filter] at hf
      obtain ⟨field₀, hf₀, rfl⟩ := Option.map_eq_some_iff.1 hf
      rw [← Table.key_of_find? hf₀] at hname hsens
      show outcome str field₀ = REDACTED
      rw [outcome, if_neg hname, if_pos hsens]
    · rw [find?_filter, hf] at hf'
      obtain rfl := Option.some.inj hf'
      rw [← Table.key_of_find? hf] at hname hsens
      show Redacted str field.2 (outcome str field)
      rw [hrest field hname hsens]
      exact (redacted_redact str field.2 0).2 (h field (Table.mem_of_find? hf) hname hsens)

/-! ### A secret below the cut-off -/

namespace Sample

/-- A password eight levels down: a dictionary inside seven lists. -/
def nested : LogValue String Unit :=
  .list [.list [.list [.list [.list [.list [.list [.dict [("password", .text "hunter2")]]]]]]]]

def leaking : LogRecord String Unit := Table.empty.push ("request", nested)

end Sample

/-- The filter returns the password as it came. -/
theorem nested_password_survives :
    (Sample.leaking.filter id none).find? "request" = some ("request", Sample.nested) ∧
      ¬RedactedFrom id (Sample.leaking.attach none) (Sample.leaking.filter id none) := by
  have hreserved : "request" ∉ RESERVED_RECORD_ATTRS := by decide
  have hname : isSensitive "request" = false := by decide +kernel
  have hkey : isSensitive "password" = true := by decide +kernel
  have hbefore : (Sample.leaking.attach none).find? "request" = some ("request", Sample.nested) := rfl
  have hafter : (Sample.leaking.filter id none).find? "request" =
      some ("request", Sample.nested) := by
    rw [find?_filter, hbefore, Option.map_some, outcome, if_neg hreserved, hname,
      if_neg Bool.false_ne_true]
    rfl
  refine ⟨hafter, fun h => ?_⟩
  have hkept : Redacted id Sample.nested Sample.nested :=
    h.kept "request" hreserved hname _ _ hbefore hafter
  have hinside : Inside id 7 Sample.nested (.dict [("password", .text "hunter2")]) := by
    repeat refine .list List.mem_cons_self ?_
    exact .here _
  have hclear := (redacted_self id _).1 hkept 7 _ (Nat.zero_le 7) hinside
  have hword := hclear ("password", .text "hunter2") List.mem_cons_self hkey
  injection hword with hword
  exact absurd hword (by decide)

end LogRecord

end MoneyMovement

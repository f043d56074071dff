import OhMySubagents.Cursors.Timestamps
import OhMySubagents.Errors
import OhMySubagents.Json.LoadsDumps
import OhMySubagents.Text.Base64
import OhMySubagents.Utf8.Decoding

open Json

namespace OhMySubagents.Cursors

/-- The interpreter that a decoder runs on: how deep its `json.loads` may nest, and its `datetime.fromisoformat`, which
    reads every `isoformat`. -/
structure Interpreter where
  nesting : Nat
  fromisoformat : CodePoints → Option Timestamp
  nesting_pos : 1 ≤ nesting
  fromisoformat_isoformat : ∀ value : Timestamp, fromisoformat (value.isoformat.map Char.toNat) = some value

/-- An exception: `JSONDecodeError`, `UnicodeDecodeError` and `binascii.Error` are value errors. -/
inductive Raised
  | key_error
  | type_error
  | value_error
  | recursion_error
  | overflow_error
  | database_error
  | operation (error : RuntimeOperationError)
  deriving DecidableEq

/-- `try` with an `except` clause that raises an operation error for the exceptions of its list. -/
def rescue {α : Type} (caught : List Raised) (error : RuntimeOperationError) : Except Raised α → Except Raised α
  | .ok value => .ok value
  | .error raised => .error (if raised ∈ caught then .operation error else raised)

/-- The value of a key in a dictionary that was made of pairs: the last one that was given. -/
def lookup (pairs : List (LoadedKey × Loaded)) (key : String) : Option Loaded :=
  (pairs.reverse.find? fun pair => pair.1 == .text (points_of key)).map Prod.snd

/-- The dictionary behind a subscript; a text is no subscript of anything else. -/
def subscripted (payload : Loaded) : Except Raised (List (LoadedKey × Loaded)) :=
  match payload with
  | .object pairs => .ok pairs
  | _ => .error .type_error

/-- `payload[key]`. -/
def item (pairs : List (LoadedKey × Loaded)) (key : String) : Except Raised Loaded :=
  match lookup pairs key with
  | some value => .ok value
  | none => .error .key_error

/-- `payload.get(key)`. -/
def get (pairs : List (LoadedKey × Loaded)) (key : String) : Loaded := (lookup pairs key).getD .null

/-- Whether a value equals a text. -/
def is_text (value : Loaded) (text : String) : Bool :=
  match value with
  | .string points => points == points_of text
  | _ => false

/-- Whether a value equals the number one or two; `True` equals one. -/
def is_version (value : Loaded) (version : Nat) : Bool :=
  match value with
  | .int value => value == version
  | .bool value => value.toNat == version
  | .float (some value) => value.rounds_to version
  | _ => false

/-- A value that is a text and not empty. -/
def nonempty_text (value : Loaded) : Option CodePoints :=
  match value with
  | .string points => if points.isEmpty then none else some points
  | _ => none

/-- A value that is an `int`, of which `bool` is a subclass. -/
def as_int (value : Loaded) : Option Int :=
  match value with
  | .int value => some value
  | .bool value => some value.toNat
  | _ => none

instance : DecidablePred IsFlat := fun value =>
  match value with
  | .string _ => isTrue trivial
  | .int value => inferInstanceAs (Decidable (value.natAbs < 10 ^ int_max_str_digits))
  | .null | .bool _ | .array _ | .object _ => isFalse id

/-- `json.dumps` of a flat object without blanks; a number of too many digits is a value error. -/
def json_dumps (members : List (String × JsonData)) : Except Raised (List Char) :=
  if ∀ member ∈ members, IsFlat member.2 then .ok (JsonData.ensure_ascii (JsonData.dumps (.object members)))
  else .error .value_error

/-- The UTF-8 bytes of an ASCII text. -/
def ascii_bytes (text : List Char) : List UInt8 := text.map fun c => UInt8.ofNat c.toNat

def encode_cursor (pre : String) (members : List (String × JsonData)) : Except Raised CodePoints := do
  let payload ← json_dumps members
  return points_of pre ++ Base64.urlsafe_b64encode (ascii_bytes payload)

/-- The text that a cursor holds behind its prefix; `none` is a value error of Base64 or of UTF-8. -/
def payload_text (pre : String) (cursor : CodePoints) : Option (List Char) := do
  let token := cursor.drop (points_of pre).length
  Utf8.decode_strict (← Base64.urlsafe_b64decode (token ++ Base64.padding token))

def json_loads (interpreter : Interpreter) (text : List Char) : Except Raised Loaded :=
  match loads float_constant interpreter.nesting text with
  | .ok value => .ok value
  | .error .recursion_error => .error .recursion_error
  | .error _ => .error .value_error

def read_payload (interpreter : Interpreter) (pre : String) (cursor : CodePoints) : Except Raised Loaded :=
  match payload_text pre cursor with
  | none => .error .value_error
  | some text => json_loads interpreter text

/-- `datetime.fromisoformat`. -/
def read_datetime (interpreter : Interpreter) (value : Loaded) : Except Raised Timestamp :=
  match value with
  | .string points =>
    match interpreter.fromisoformat points with
    | some value => .ok value
    | none => .error .value_error
  | _ => .error .type_error

/-- The front of every decoder: the prefix, and what is read of the payload within `try`. -/
def open_cursor {α : Type} (interpreter : Interpreter) (pre : String) (caught : List Raised)
    (refusal : RuntimeOperationError) (read : Loaded → Except Raised α) (cursor : CodePoints) : Except Raised α :=
  if points_of pre <+: cursor then rescue caught refusal (read_payload interpreter pre cursor >>= read)
  else .error (.operation refusal)

/-- That the text of a cursor nests no deeper than `json.loads` may. -/
def Shallow (interpreter : Interpreter) (pre : String) (cursor : CodePoints) : Prop :=
  points_of pre <+: cursor → ∀ text, payload_text pre cursor = some text →
    loads float_constant interpreter.nesting text ≠ .error .recursion_error

section Lookup

theorem points_of_inj {s t : String} (h : points_of s = points_of t) : s = t :=
  String.toList_inj.mp (List.map_injective_iff.mpr (fun _ _ hcd => Char.toNat_inj.mp hcd) h)

theorem lookup_loaded_pairs (members : List (String × JsonData)) (key : String) :
    lookup (loaded_pairs members) key =
      (members.reverse.find? fun member => member.1 == key).map fun member => loaded_flat member.2 := by
  rw [lookup, loaded_pairs, ← List.map_reverse, List.find?_map, Option.map_map]
  congr 2
  funext member
  rw [Function.comp_apply, Bool.eq_iff_iff, beq_iff_eq, beq_iff_eq, LoadedKey.text.injEq]
  exact ⟨points_of_inj, congrArg points_of⟩

theorem is_text_points (s t : String) : is_text (.string (points_of s)) t = decide (s = t) := by
  rw [is_text, Bool.eq_iff_iff, beq_iff_eq, decide_eq_true_iff]
  exact ⟨points_of_inj, congrArg points_of⟩

theorem nonempty_text_eq_some {value : Loaded} {points : CodePoints} (h : nonempty_text value = some points) :
    points ≠ [] := by
  unfold nonempty_text at h
  split at h
  · next points =>
    split at h
    · cases h
    · next hempty =>
      cases h
      rintro rfl
      exact hempty rfl
  · cases h

end Lookup

section Encoding

variable {interpreter : Interpreter} {pre : String} {members : List (String × JsonData)} {cursor : CodePoints}

theorem payload_text_encode (pre : String) {text : List Char} (h : ∀ c ∈ text, c.toNat < 0x80) :
    payload_text pre (points_of pre ++ Base64.urlsafe_b64encode (ascii_bytes text)) = some text := by
  rw [payload_text, List.drop_left]
  exact Option.bind_eq_some_iff.mpr ⟨_, Base64.urlsafe_b64decode_encode _, Utf8.decode_strict_ascii h⟩

theorem encode_cursor_eq_ok (h : encode_cursor pre members = .ok cursor) :
    (∀ member ∈ members, IsFlat member.2) ∧ points_of pre <+: cursor ∧
      payload_text pre cursor = some (JsonData.ensure_ascii (JsonData.dumps (.object members))) := by
  obtain ⟨payload, hpayload, h⟩ := bind_eq_ok_iff.mp h
  cases h
  unfold json_dumps at hpayload
  split at hpayload
  · next hflat =>
    cases hpayload
    exact ⟨hflat, List.prefix_append _ _, payload_text_encode pre (ensure_ascii_lt _)⟩
  · cases hpayload

theorem encode_cursor_ok (pre : String) (h : ∀ member ∈ members, IsFlat member.2) :
    ∃ cursor, encode_cursor pre members = .ok cursor := by
  rw [encode_cursor, json_dumps, if_pos h]
  exact ⟨_, rfl⟩

/-- A cursor that was encoded is opened to the pairs that were written. -/
theorem read_payload_encode (interpreter : Interpreter) (h : encode_cursor pre members = .ok cursor)
    (hne : members ≠ []) :
    read_payload interpreter pre cursor = .ok (.object (loaded_pairs members)) := by
  obtain ⟨hflat, -, htext⟩ := encode_cursor_eq_ok h
  rw [read_payload, htext]
  dsimp only
  rw [json_loads, loads_dumps_flat float_constant interpreter.nesting hflat hne interpreter.nesting_pos]

theorem open_cursor_encode {α : Type} {caught : List Raised} {refusal : RuntimeOperationError}
    {read : Loaded → Except Raised α} {value : α} (h : encode_cursor pre members = .ok cursor) (hne : members ≠ [])
    (hread : read (.object (loaded_pairs members)) = .ok value) :
    open_cursor interpreter pre caught refusal read cursor = .ok value := by
  rw [open_cursor, if_pos (encode_cursor_eq_ok h).2.1, read_payload_encode interpreter h hne]
  simp only [bind, Except.bind, hread, rescue]

end Encoding

section Opening

variable {α : Type} {interpreter : Interpreter} {pre : String} {caught : List Raised}
  {refusal : RuntimeOperationError} {read : Loaded → Except Raised α} {cursor : CodePoints}

theorem read_payload_recursion (hpre : points_of pre <+: cursor) :
    read_payload interpreter pre cursor = .error .recursion_error ↔ ¬Shallow interpreter pre cursor := by
  unfold read_payload Shallow
  cases htext : payload_text pre cursor with
  | none => simp
  | some text =>
    simp only [Option.some.injEq, forall_eq', hpre, forall_true_left, ne_eq, not_not]
    unfold json_loads
    split
    · next hloads => simp [hloads]
    · next hloads => simp [hloads]
    · next failure hfailure hloads =>
      simp only [hloads, Except.error.injEq, reduceCtorEq, false_iff]
      exact hfailure

theorem read_payload_raised {raised : Raised} (h : read_payload interpreter pre cursor = .error raised) :
    raised = .value_error ∨ raised = .recursion_error := by
  unfold read_payload at h
  split at h
  · exact .inl (Except.error.inj h).symm
  · unfold json_loads at h
    split at h
    · cases h
    · exact .inr (Except.error.inj h).symm
    · exact .inl (Except.error.inj h).symm

theorem open_cursor_eq_ok_iff {value : α} : open_cursor interpreter pre caught refusal read cursor = .ok value ↔
    points_of pre <+: cursor ∧
      ∃ payload, read_payload interpreter pre cursor = .ok payload ∧ read payload = .ok value := by
  unfold open_cursor
  split
  · next hpre =>
    rw [← bind_eq_ok_iff]
    cases read_payload interpreter pre cursor >>= read with
    | error raised => simp [rescue]
    | ok value => simp [rescue, hpre]
  · next hpre => simp [hpre]

/-- What escapes when a cursor is opened is a recursion error: nothing else that is raised goes uncaught. -/
theorem open_cursor_cases (hvalue : .value_error ∈ caught) (hrecursion : .recursion_error ∉ caught)
    (hread : ∀ payload raised, read payload = .error raised → raised ∈ caught) :
    (open_cursor interpreter pre caught refusal read cursor = .error .recursion_error ∧
        ¬Shallow interpreter pre cursor) ∨
      Shallow interpreter pre cursor ∧ (open_cursor interpreter pre caught refusal read cursor =
          .error (.operation refusal) ∨
        ∃ payload value, read_payload interpreter pre cursor = .ok payload ∧ read payload = .ok value ∧
          open_cursor interpreter pre caught refusal read cursor = .ok value) := by
  unfold open_cursor
  split
  · next hpre =>
    cases hpayload : read_payload interpreter pre cursor with
    | error raised =>
      simp only [bind, Except.bind, rescue]
      obtain rfl | rfl := read_payload_raised hpayload
      · refine .inr ⟨?_, .inl (by rw [if_pos hvalue])⟩
        rw [← not_not (a := Shallow _ _ _), ← read_payload_recursion hpre, hpayload]
        nofun
      · exact .inl ⟨by rw [if_neg hrecursion], (read_payload_recursion hpre).mp hpayload⟩
    | ok payload =>
      have hshallow : Shallow interpreter pre cursor := by
        rw [← not_not (a := Shallow _ _ _), ← read_payload_recursion hpre, hpayload]
        nofun
      refine .inr ⟨hshallow, ?_⟩
      simp only [bind, Except.bind]
      cases hvalue : read payload with
      | error raised => exact .inl (by simp only [rescue, if_pos (hread payload raised hvalue)])
      | ok value => exact .inr ⟨payload, value, rfl, hvalue, rfl⟩
  · next hpre => exact .inr ⟨fun h => absurd h hpre, .inl rfl⟩

end Opening

end OhMySubagents.Cursors

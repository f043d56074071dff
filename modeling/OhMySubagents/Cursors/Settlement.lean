import OhMySubagents.Cursors.Codecs

open Json

namespace OhMySubagents.Cursors

/-- A codec of cursors: what its cursors are bound to, the positions that they are made of, what decoding gives back
    for a position that can be written, and the errors that refuse a cursor. -/
structure Codec where
  Binding : Type
  Position : Type
  Decoded : Type
  encode : Binding → Position → Except Raised CodePoints
  decode : Binding → CodePoints → Except Raised Decoded
  held : Position → Option Decoded
  documented : Decoded → Prop
  refusals : List RuntimeOperationError

/-- A position of the documented shape, or an error that refuses the cursor. -/
def Settled {α : Type} (documented : α → Prop) (refusals : List RuntimeOperationError) : Except Raised α → Prop
  | .ok decoded => documented decoded
  | .error (.operation error) => error ∈ refusals
  | .error _ => False

namespace Codec

def Settles (codec : Codec) (binding : codec.Binding) (cursor : CodePoints) : Prop :=
  Settled codec.documented codec.refusals (codec.decode binding cursor)

def Refuses (codec : Codec) (binding : codec.Binding) (cursor : CodePoints) : Prop :=
  ∃ error ∈ codec.refusals, codec.decode binding cursor = .error (.operation error)

/-- What can be written is read back under its own binding, and refused under any other. -/
structure Faithful (codec : Codec) : Prop where
  encodes : ∀ binding position decoded, codec.held position = some decoded →
    ∃ cursor, codec.encode binding position = .ok cursor
  reads_back : ∀ binding position decoded cursor, codec.held position = some decoded → codec.documented decoded →
    codec.encode binding position = .ok cursor → codec.decode binding cursor = .ok decoded
  bound : ∀ binding other position cursor, codec.encode binding position = .ok cursor → other ≠ binding →
    codec.Refuses other cursor

end Codec

/-- A number that `json.dumps` writes. -/
@[irreducible] def writable_int (value : Int) : Option Int :=
  if value.natAbs < 10 ^ int_max_str_digits then some value else none

section Surfaces

variable (interpreter : Interpreter)

def workflow_search : Codec where
  Binding := String
  Position := String
  Decoded := Option CodePoints
  encode normalized_query workflow_id := encode_workflow_search_cursor workflow_id normalized_query
  decode normalized_query cursor := decode_workflow_search_cursor interpreter (some cursor) normalized_query
  held workflow_id := some (some (points_of workflow_id))
  documented decoded := ∃ workflow_id, decoded = some workflow_id ∧ workflow_id ≠ []
  refusals := [workflow_cursor_error, workflow_search_cursor_error]

def workflow_revisions : Codec where
  Binding := String
  Position := Int
  Decoded := Option Int
  encode workflow_id revision_no := encode_workflow_revision_cursor revision_no workflow_id
  decode workflow_id cursor := decode_workflow_revision_cursor interpreter (some cursor) workflow_id
  held revision_no := (writable_int revision_no).map some
  documented decoded := ∃ revision_no, decoded = some revision_no ∧ 1 ≤ revision_no
  refusals := [workflow_cursor_error, workflow_revision_cursor_error]

def task_search : Codec where
  Binding := String × String
  Position := Timestamp × String
  Decoded := Option (Timestamp × CodePoints)
  encode binding position := encode_task_cursor position.1 position.2 binding.1 binding.2
  decode binding cursor := decode_task_cursor interpreter (some cursor) binding.1 binding.2
  held position := some (some (position.1, points_of position.2))
  documented decoded := ∃ created_at task_id, decoded = some (created_at, task_id) ∧ task_id ≠ []
  refusals := [task_cursor_error]

def command_history : Codec where
  Binding := String
  Position := String
  Decoded := Option CodePoints
  encode task_id run_id := encode_product_list_cursor run_id task_id
  decode task_id cursor := decode_product_list_cursor interpreter (some cursor) task_id
  held run_id := some (some (points_of run_id))
  documented decoded := ∃ run_id, decoded = some run_id ∧ run_id ≠ []
  refusals := [invalid_command_history_request]

/-- Output cursors are bound to nothing. -/
def command_output : Codec where
  Binding := Unit
  Position := Int × SanitizerState
  Decoded := Int × SanitizerState
  encode _ position := encode_output_cursor position.1 position.2
  decode _ cursor := decode_output_cursor interpreter (some cursor)
  held position := (writable_int position.1).map fun offset => (offset, position.2)
  documented decoded := 0 ≤ decoded.1
  refusals := [output_cursor_error]

def trace : Codec where
  Binding := TraceQuery
  Position := TracePosition String
  Decoded := Option (TracePosition CodePoints)
  encode := encode_trace_cursor
  decode query cursor := decode_trace_cursor interpreter (some cursor) query
  held position := position.occurred_at.as_utc.map fun occurred_at =>
    some ⟨occurred_at, position.kind, points_of position.entry_id⟩
  documented decoded := ∃ position, decoded = some position ∧ position.occurred_at.tzinfo = some Timestamp.utc ∧
    position.entry_id ≠ []
  refusals := [trace_cursor_error]

end Surfaces

inductive Surface
  | workflow_search
  | workflow_revisions
  | task_search
  | command_history
  | command_output
  | trace
  deriving DecidableEq, Repr

def codec (interpreter : Interpreter) : Surface → Codec
  | .workflow_search => workflow_search interpreter
  | .workflow_revisions => workflow_revisions interpreter
  | .task_search => task_search interpreter
  | .command_history => command_history interpreter
  | .command_output => command_output interpreter
  | .trace => trace interpreter

section Caught

variable {α β : Type} {caught : List Raised}

/-- That whatever is raised is one of some exceptions. -/
def Raises (caught : List Raised) (result : Except Raised α) : Prop :=
  ∀ raised, result = .error raised → raised ∈ caught

theorem Raises.ok (value : α) : Raises caught (.ok value) := by
  intro raised h
  cases h

theorem Raises.bind {result : Except Raised α} {next : α → Except Raised β} (h : Raises caught result)
    (hnext : ∀ value, Raises caught (next value)) : Raises caught (result >>= next) := by
  intro raised hraised
  cases result with
  | error first =>
    cases hraised
    exact h raised rfl
  | ok value => exact hnext value raised hraised

end Caught

section Stages

variable {α β : Type} {interpreter : Interpreter} {pre : String} {caught : List Raised}
  {refusal : RuntimeOperationError} {refusals : List RuntimeOperationError} {read : Loaded → Except Raised α}
  {post : α → Except Raised β} {documented : β → Prop} {cursor : CodePoints}

/-- A decoder settles when the payload is not too deep and what was read of it is settled. -/
theorem settled_open_cursor (hvalue : .value_error ∈ caught) (hrecursion : .recursion_error ∉ caught)
    (hread : ∀ payload, Raises caught (read payload)) (hrefusal : refusal ∈ refusals) :
    Settled documented refusals (open_cursor interpreter pre caught refusal read cursor >>= post) ↔
      Shallow interpreter pre cursor ∧ ∀ entry, open_cursor interpreter pre caught refusal read cursor = .ok entry →
        Settled documented refusals (post entry) := by
  rcases @open_cursor_cases α interpreter pre caught refusal read cursor hvalue hrecursion hread with
    ⟨hopen, hdeep⟩ | ⟨hshallow, hopen | ⟨payload, value, hpayload, hread, hopen⟩⟩
  · rw [hopen]
    exact ⟨False.elim, fun h => hdeep h.1⟩
  · rw [hopen]
    exact ⟨fun _ => ⟨hshallow, nofun⟩, fun _ => hrefusal⟩
  · rw [hopen]
    refine ⟨fun h => ⟨hshallow, fun entry hentry => ?_⟩, fun h => h.2 value rfl⟩
    cases hentry
    exact h

theorem settled_refusal {error : RuntimeOperationError} (h : error ∈ refusals) :
    Settled documented refusals (.error (.operation error)) := h

theorem settled_map {γ : Type} {f : α → γ} {documented : γ → Prop} {result : Except Raised α} :
    Settled documented refusals (f <$> result) ↔ Settled (fun value => documented (f value)) refusals result := by
  rcases result with raised | value
  · cases raised <;> exact Iff.rfl
  · exact Iff.rfl

end Stages

end OhMySubagents.Cursors

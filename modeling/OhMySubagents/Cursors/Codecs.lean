import OhMySubagents.Cursors.Payloads

open Json

namespace OhMySubagents.Cursors

section WorkflowCatalog

def workflow_cursor_error : RuntimeOperationError :=
  invalid_request_shape_error "The Workflow cursor is no longer usable."

def workflow_search_cursor_error : RuntimeOperationError :=
  invalid_request_shape_error "The Workflow search cursor is no longer usable."

def workflow_revision_cursor_error : RuntimeOperationError :=
  invalid_request_shape_error "The Workflow revision cursor is no longer usable."

def WORKFLOW_SEARCH_CURSOR_PREFIX : String := "workflow-search."

def WORKFLOW_REVISION_CURSOR_PREFIX : String := "workflow-revisions."

def decode_catalog_cursor (interpreter : Interpreter) (cursor : CodePoints) (pre : String) :
    Except Raised (List (LoadedKey × Loaded)) := do
  match ← open_cursor interpreter pre [.type_error, .value_error] workflow_cursor_error .ok cursor with
  | .object pairs => .ok pairs
  | _ => .error (.operation workflow_cursor_error)

def workflow_search_payload (workflow_id normalized_query : String) : List (String × JsonData) :=
  [("q", .string normalized_query), ("version", .int 1), ("workflow_id", .string workflow_id)]

def encode_workflow_search_cursor (workflow_id normalized_query : String) : Except Raised CodePoints :=
  encode_cursor WORKFLOW_SEARCH_CURSOR_PREFIX (workflow_search_payload workflow_id normalized_query)

def read_workflow_search (pairs : List (LoadedKey × Loaded)) (normalized_query : String) : Except Raised CodePoints :=
  if is_version (get pairs "version") 1 && is_text (get pairs "q") normalized_query then
    match nonempty_text (get pairs "workflow_id") with
    | some workflow_id => .ok workflow_id
    | none => .error (.operation workflow_search_cursor_error)
  else .error (.operation workflow_search_cursor_error)

def decode_workflow_search_cursor (interpreter : Interpreter) (cursor : Option CodePoints) (normalized_query : String) :
    Except Raised (Option CodePoints) :=
  match cursor with
  | none => .ok none
  | some cursor => do
    let pairs ← decode_catalog_cursor interpreter cursor WORKFLOW_SEARCH_CURSOR_PREFIX
    some <$> read_workflow_search pairs normalized_query

def workflow_revision_payload (revision_no : Int) (workflow_id : String) : List (String × JsonData) :=
  [("revision_no", .int revision_no), ("version", .int 1), ("workflow_id", .string workflow_id)]

def encode_workflow_revision_cursor (revision_no : Int) (workflow_id : String) : Except Raised CodePoints :=
  encode_cursor WORKFLOW_REVISION_CURSOR_PREFIX (workflow_revision_payload revision_no workflow_id)

def read_workflow_revision (pairs : List (LoadedKey × Loaded)) (workflow_id : String) : Except Raised Int :=
  if is_version (get pairs "version") 1 && is_text (get pairs "workflow_id") workflow_id then
    match as_int (get pairs "revision_no") with
    | some revision_no =>
      if revision_no < 1 then .error (.operation workflow_revision_cursor_error) else .ok revision_no
    | none => .error (.operation workflow_revision_cursor_error)
  else .error (.operation workflow_revision_cursor_error)

def decode_workflow_revision_cursor (interpreter : Interpreter) (cursor : Option CodePoints) (workflow_id : String) :
    Except Raised (Option Int) :=
  match cursor with
  | none => .ok none
  | some cursor => do
    let pairs ← decode_catalog_cursor interpreter cursor WORKFLOW_REVISION_CURSOR_PREFIX
    some <$> read_workflow_revision pairs workflow_id

end WorkflowCatalog

section TaskSearch

def invalid_request (summary : String) : RuntimeOperationError := { code := .invalid_request_shape, summary }

def task_cursor_error : RuntimeOperationError := invalid_request "The run-search cursor is no longer usable."

def TASK_CURSOR_PREFIX : String := "task-search."

def task_payload (created_at : Timestamp) (task_id normalized_q status : String) : List (String × JsonData) :=
  [("created_at", .string (String.ofList created_at.isoformat)), ("q", .string normalized_q),
    ("status", .string status), ("task_id", .string task_id), ("version", .int 2)]

def encode_task_cursor (created_at : Timestamp) (task_id normalized_q status : String) : Except Raised CodePoints :=
  encode_cursor TASK_CURSOR_PREFIX (task_payload created_at task_id normalized_q status)

/-- The `try` block of a task cursor: its payload, the time of its Task and the id. -/
def read_task_entry (interpreter : Interpreter) (payload : Loaded) :
    Except Raised (List (LoadedKey × Loaded) × Timestamp × Loaded) := do
  let pairs ← subscripted payload
  let created_at ← read_datetime interpreter (← item pairs "created_at")
  let task_id ← item pairs "task_id"
  return (pairs, created_at, task_id)

def check_task_entry (entry : List (LoadedKey × Loaded) × Timestamp × Loaded) (normalized_q status : String) :
    Except Raised (Timestamp × CodePoints) :=
  if is_version (get entry.1 "version") 2 && is_text (get entry.1 "q") normalized_q &&
      is_text (get entry.1 "status") status then
    match nonempty_text entry.2.2 with
    | some task_id => .ok (entry.2.1, task_id)
    | none => .error (.operation task_cursor_error)
  else .error (.operation task_cursor_error)

def decode_task_cursor (interpreter : Interpreter) (cursor : Option CodePoints) (normalized_q status : String) :
    Except Raised (Option (Timestamp × CodePoints)) :=
  match cursor with
  | none => .ok none
  | some cursor => do
    let entry ← open_cursor interpreter TASK_CURSOR_PREFIX [.key_error, .type_error, .value_error] task_cursor_error
      (read_task_entry interpreter) cursor
    some <$> check_task_entry entry normalized_q status

end TaskSearch

section CommandRuns

def invalid_output_request (summary : String) : RuntimeOperationError := { code := .invalid_request_shape, summary }

def output_cursor_error : RuntimeOperationError := invalid_output_request "The output cursor is no longer usable."

def invalid_command_history_request : RuntimeOperationError :=
  { code := .invalid_request_shape, summary := "The command-history cursor is no longer usable." }

def OUTPUT_CURSOR_PREFIX : String := "output."

def PRODUCT_LIST_CURSOR_PREFIX : String := "command-history."

def product_list_payload (run_id task_id : String) : List (String × JsonData) :=
  [("run_id", .string run_id), ("task_id", .string task_id), ("version", .int 1)]

def encode_product_list_cursor (run_id task_id : String) : Except Raised CodePoints :=
  encode_cursor PRODUCT_LIST_CURSOR_PREFIX (product_list_payload run_id task_id)

/-- The `try` block of a history cursor: its payload and the id of its run. -/
def read_product_list_entry (payload : Loaded) : Except Raised (List (LoadedKey × Loaded) × Loaded) := do
  let pairs ← subscripted payload
  let run_id ← item pairs "run_id"
  return (pairs, run_id)

def check_product_list_entry (entry : List (LoadedKey × Loaded) × Loaded) (task_id : String) :
    Except Raised CodePoints :=
  if is_version (get entry.1 "version") 1 && is_text (get entry.1 "task_id") task_id then
    match nonempty_text entry.2 with
    | some run_id => .ok run_id
    | none => .error (.operation invalid_command_history_request)
  else .error (.operation invalid_command_history_request)

def decode_product_list_cursor (interpreter : Interpreter) (cursor : Option CodePoints) (task_id : String) :
    Except Raised (Option CodePoints) :=
  match cursor with
  | none => .ok none
  | some cursor => do
    let entry ← open_cursor interpreter PRODUCT_LIST_CURSOR_PREFIX [.key_error, .type_error, .value_error]
      invalid_command_history_request read_product_list_entry cursor
    some <$> check_product_list_entry entry task_id

/-- What the sanitizer of the output was in the middle of. -/
inductive SanitizerState
  | normal
  | escape
  | escape_intermediate
  | csi
  | osc
  | control_string
  | osc_escape
  | control_string_escape
  deriving DecidableEq, Repr

namespace SanitizerState

def text : SanitizerState → String
  | normal => "normal"
  | escape => "escape"
  | escape_intermediate => "escape_intermediate"
  | csi => "csi"
  | osc => "osc"
  | control_string => "control_string"
  | osc_escape => "osc_escape"
  | control_string_escape => "control_string_escape"

def allowed_states : List SanitizerState :=
  [normal, escape, escape_intermediate, csi, osc, control_string, osc_escape, control_string_escape]

end SanitizerState

def output_payload (offset : Int) (sanitizer_state : SanitizerState) : List (String × JsonData) :=
  [("offset", .int offset), ("sanitizer_state", .string sanitizer_state.text), ("version", .int 2)]

def encode_output_cursor (offset : Int) (sanitizer_state : SanitizerState) : Except Raised CodePoints :=
  encode_cursor OUTPUT_CURSOR_PREFIX (output_payload offset sanitizer_state)

/-- The `try` block of an output cursor: its payload, the offset and the state of the sanitizer. -/
def read_output_entry (payload : Loaded) : Except Raised (List (LoadedKey × Loaded) × Loaded × Loaded) := do
  let pairs ← subscripted payload
  let offset ← item pairs "offset"
  let sanitizer_state ← item pairs "sanitizer_state"
  return (pairs, offset, sanitizer_state)

def check_output_entry (entry : List (LoadedKey × Loaded) × Loaded × Loaded) : Except Raised (Int × SanitizerState) :=
  if is_version (get entry.1 "version") 2 then
    match as_int entry.2.1, SanitizerState.allowed_states.find? fun state => is_text entry.2.2 state.text with
    | some offset, some sanitizer_state =>
      if offset < 0 then .error (.operation output_cursor_error) else .ok (offset, sanitizer_state)
    | _, _ => .error (.operation output_cursor_error)
  else .error (.operation output_cursor_error)

def decode_output_cursor (interpreter : Interpreter) (cursor : Option CodePoints) :
    Except Raised (Int × SanitizerState) :=
  match cursor with
  | none => .ok (0, .normal)
  | some cursor => do
    let entry ← open_cursor interpreter OUTPUT_CURSOR_PREFIX [.key_error, .type_error, .value_error] output_cursor_error
      read_output_entry cursor
    check_output_entry entry

end CommandRuns

section Trace

inductive TraceSort
  | occurred_at_desc
  | occurred_at_asc
  deriving DecidableEq, Repr

def TraceSort.text : TraceSort → String
  | occurred_at_desc => "occurred_at_desc"
  | occurred_at_asc => "occurred_at_asc"

inductive TraceKind
  | dispatch
  | checkpoint
  | boundary
  deriving DecidableEq, Repr

def TraceKind.text : TraceKind → String
  | dispatch => "dispatch"
  | checkpoint => "checkpoint"
  | boundary => "boundary"

/-- `_TracePosition`, with an id as it is written or as it is read. -/
structure TracePosition (Text : Type) where
  occurred_at : Timestamp
  kind : TraceKind
  entry_id : Text
  deriving DecidableEq

/-- What a page of the trace is of. -/
structure TraceQuery where
  task_id : String
  normalized_q : String
  sort : TraceSort
  deriving DecidableEq

def trace_cursor_error : RuntimeOperationError := invalid_request_shape_error "trace cursor is no longer usable"

def TRACE_CURSOR_PREFIX : String := "support-trace."

def trace_payload (query : TraceQuery) (position : TracePosition String) (occurred_at : Timestamp) :
    List (String × JsonData) :=
  [("entry_id", .string position.entry_id), ("kind", .string position.kind.text),
    ("occurred_at", .string (String.ofList occurred_at.isoformat)), ("q", .string query.normalized_q),
    ("sort", .string query.sort.text), ("task_id", .string query.task_id), ("version", .int 1)]

def encode_trace_cursor (query : TraceQuery) (position : TracePosition String) : Except Raised CodePoints :=
  match position.occurred_at.as_utc with
  | none => .error .overflow_error
  | some occurred_at => encode_cursor TRACE_CURSOR_PREFIX (trace_payload query position occurred_at)

/-- What a trace cursor holds, before it is checked. -/
structure TraceEntry where
  payload : List (LoadedKey × Loaded)
  occurred_at : Timestamp
  kind : Loaded
  entry_id : Loaded

/-- The `try` block of a trace cursor. -/
def read_trace_entry (interpreter : Interpreter) (payload : Loaded) : Except Raised TraceEntry := do
  let pairs ← subscripted payload
  let occurred_at ← read_datetime interpreter (← item pairs "occurred_at")
  let kind ← item pairs "kind"
  let entry_id ← item pairs "entry_id"
  return ⟨pairs, occurred_at, kind, entry_id⟩

namespace TraceEntry

def is_bound (entry : TraceEntry) (query : TraceQuery) : Bool :=
  is_version (get entry.payload "version") 1 && is_text (get entry.payload "task_id") query.task_id &&
    is_text (get entry.payload "q") query.normalized_q && is_text (get entry.payload "sort") query.sort.text

/-- The kind in the set of kinds: a list and a dictionary have no hash to look for. -/
def read_kind (entry : TraceEntry) : Except Raised (Option TraceKind) :=
  match entry.kind with
  | .array _ | .object _ => .error .type_error
  | kind => .ok ([TraceKind.dispatch, .checkpoint, .boundary].find? fun known => is_text kind known.text)

def check (entry : TraceEntry) (query : TraceQuery) : Except Raised (TracePosition CodePoints) :=
  if entry.is_bound query then do
    match ← entry.read_kind, nonempty_text entry.entry_id with
    | some kind, some entry_id =>
      match entry.occurred_at.as_utc with
      | some occurred_at => .ok ⟨occurred_at, kind, entry_id⟩
      | none => .error .overflow_error
    | _, _ => .error (.operation trace_cursor_error)
  else .error (.operation trace_cursor_error)

end TraceEntry

def decode_trace_cursor (interpreter : Interpreter) (cursor : Option CodePoints) (query : TraceQuery) :
    Except Raised (Option (TracePosition CodePoints)) :=
  match cursor with
  | none => .ok none
  | some cursor => do
    let entry ← open_cursor interpreter TRACE_CURSOR_PREFIX [.key_error, .type_error, .value_error] trace_cursor_error
      (read_trace_entry interpreter) cursor
    some <$> entry.check query

end Trace

end OhMySubagents.Cursors

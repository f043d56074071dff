import OhMySubagents.Relational.Table
import OhMySubagents.Workflows.Operations

open Relational JsonData

namespace OhMySubagents.WorkflowAuthoring

open Workflows

inductive WorkflowProvenance
  | starter_seed
  | user
  deriving DecidableEq, Repr

/-- A row of `workflow_revisions`. -/
structure WorkflowRevisionRow where
  workflow_revision_id : String
  workflow_key : String
  revision_no : Nat
  content_hash : String
  content_json : JsonData
  provenance : WorkflowProvenance
  source_path : Option String
  deriving DecidableEq

/-- A row of `workflow_drafts`. -/
structure WorkflowDraftRow where
  workflow_key : String
  base_revision_no : Option Nat
  content_hash : String
  content_json : JsonData
  etag : String
  next_member_sequence : Nat
  deriving DecidableEq

/-- A row of `workflow_undo_receipts`. -/
structure WorkflowUndoReceiptRow where
  draft_id : String
  expected_etag : String
  previous_content_hash : String
  previous_content_json : JsonData
  consumed : Bool
  deriving DecidableEq

/-- The authored Workflows of one database. `definitions` has the `current_revision_no` of every owner, and
    `revisions` are in the order of their insertion. -/
structure WorkflowRegistry where
  definitions : Table String (Option Nat) := ∅
  revisions : List WorkflowRevisionRow := []
  drafts : Table String WorkflowDraftRow := ∅
  undo_receipts : Table String WorkflowUndoReceiptRow := ∅

structure WorkflowDraftReadback where
  draft_id : String
  workflow_id : String
  base_revision_no : Option Nat
  etag : String
  workflow : NormalizedWorkflow

structure PublishedWorkflowRevision where
  workflow_id : String
  revision_no : Nat
  content_hash : String
  workflow : NormalizedWorkflow

/-- What a request fails with, with the values that its message names. -/
inductive WorkflowServiceError
  | active_draft_conflict (workflow_id : String)
  | published_conflict (workflow_id : String)
  | draft_not_found (draft_id : String)
  | workflow_not_found (workflow_id : String)
  | revision_not_found (workflow_id : String) (revision_no : Nat)
  | precondition_required (workflow_id : String)
  | stale_draft (current : WorkflowDraftReadback)
  | undo_receipt
  | invalid_body (source : String)
  | wrong_identity (source workflow_id : String)
  | edit (error : WorkflowEditError)
  | starter_stem (stem workflow_id : String)
  | starter_provider
  | missing_provenance (workflow_id : String)
  | revision_allocation (workflow_id : String)
  /-- The database refused a row whose key or unique value is taken. -/
  | integrity
  /-- A number that does not fit the integer column. -/
  | overflow

abbrev Served (α : Type) := Except WorkflowServiceError α

/-- What `secrets.token_urlsafe` gives to one request. -/
structure DrawnTokens where
  draft_id : String
  etag : String
  receipt_id : String
  deriving DecidableEq

def new_workflow_draft_etag (drawn : DrawnTokens) : String := "\"wd-" ++ drawn.etag ++ "\""

def new_workflow_draft_id (drawn : DrawnTokens) : String := "workflow-draft." ++ drawn.draft_id

def new_workflow_undo_receipt_id (drawn : DrawnTokens) : String := "workflow-undo." ++ drawn.receipt_id

def require_column (backend : Dialect) (value : Nat) : Served Unit :=
  if value ≤ backend.integer_column_max then .ok () else .error .overflow

def validate_persisted_workflow_identity (workflow_id expected_workflow_id source : String) : Served Unit :=
  if workflow_id = expected_workflow_id then .ok () else .error (.wrong_identity source expected_workflow_id)

def read_persisted_workflow (payload : JsonData) (expected_workflow_id source : String) :
    Served NormalizedWorkflow := do
  match NormalizedWorkflow.model_validate payload with
  | none => .error (.invalid_body source)
  | some workflow => do
    validate_persisted_workflow_identity workflow.id.val expected_workflow_id source
    return workflow

def WorkflowDraftRow.workflow (row : WorkflowDraftRow) : Served NormalizedWorkflow :=
  read_persisted_workflow row.content_json row.workflow_key "Workflow draft"

def map_workflow_draft_readback (draft_id : String) (row : WorkflowDraftRow) : Served WorkflowDraftReadback := do
  let workflow ← row.workflow
  return {
    draft_id, workflow_id := row.workflow_key, base_revision_no := row.base_revision_no, etag := row.etag, workflow }

/-- `raise WorkflowStaleDraftError(map_workflow_draft_readback(row))`. -/
def stale_draft {α : Type} (draft_id : String) (row : WorkflowDraftRow) : Served α := do
  let current ← map_workflow_draft_readback draft_id row
  .error (.stale_draft current)

namespace WorkflowRegistry

variable (registry : WorkflowRegistry)

/-- What follows an update or a deletion by ETag that found no row. -/
def lost_draft {α : Type} (draft_id : String) : Served α :=
  match registry.drafts.get? draft_id with
  | none => .error (.draft_not_found draft_id)
  | some current => stale_draft draft_id current

def _draft_row (draft_id : String) : Served (Option WorkflowDraftRow) :=
  match registry.drafts.get? draft_id with
  | none => .ok none
  | some row => do
    let _ ← row.workflow
    return some row

def _current_draft_row (draft_id expected_etag : String) : Served WorkflowDraftRow := do
  match ← registry._draft_row draft_id with
  | none => .error (.draft_not_found draft_id)
  | some row => if row.etag ≠ expected_etag then stale_draft draft_id row else return row

def _active_draft_row (workflow_id : String) : Served (Option (String × WorkflowDraftRow)) :=
  match (registry.drafts.select fun _ row => row.workflow_key = workflow_id).head? with
  | none => .ok none
  | some (draft_id, row) => do
    let _ ← row.workflow
    return some (draft_id, row)

def read_workflow_draft (draft_id : String) : Served WorkflowDraftReadback :=
  match registry.drafts.get? draft_id with
  | none => .error (.draft_not_found draft_id)
  | some row => map_workflow_draft_readback draft_id row

/-- The deletion of a draft, with the undo receipts that go with it. -/
def delete_draft (draft_id : String) : WorkflowRegistry :=
  { registry with
    drafts := registry.drafts.delete draft_id
    undo_receipts := (registry.undo_receipts.select fun _ receipt => receipt.draft_id = draft_id).foldl
      (fun receipts receipt => receipts.delete receipt.1) registry.undo_receipts }

def _has_published_revisions (workflow_id : String) : Bool :=
  registry.revisions.any fun revision => revision.workflow_key = workflow_id

def revision? (workflow_id : String) (revision_no : Nat) : Option WorkflowRevisionRow :=
  registry.revisions.find? fun revision => revision.workflow_key = workflow_id ∧ revision.revision_no = revision_no

def read_published_workflow_revision (workflow_id : String) (revision_no : Nat) : Served PublishedWorkflowRevision :=
  match registry.revision? workflow_id revision_no with
  | none => .error (.revision_not_found workflow_id revision_no)
  | some row => do
    let workflow ← read_persisted_workflow row.content_json row.workflow_key "published Workflow"
    return {
      workflow_id := row.workflow_key, revision_no := row.revision_no, content_hash := row.content_hash, workflow }

/-- `current_revision_no` of a Workflow. -/
def current_revision_no (workflow_id : String) : Option Nat := (registry.definitions.get? workflow_id).join

end WorkflowRegistry

open Workflows

def _MAX_COLLISION_RETRIES : Nat := 8

/-- `f"workflow-revision.{workflow_id}.{revision_no:03d}"`. -/
def _workflow_revision_id (workflow_id : String) (revision_no : Nat) : String :=
  "workflow-revision." ++ workflow_id ++ "." ++ String.ofList ((toString revision_no).toList.leftpad 3 '0')

/-- Whether a unique key of `workflow_revisions` keeps two rows apart. -/
def WorkflowRevisionRow.conflicts (row other : WorkflowRevisionRow) : Bool :=
  row.workflow_revision_id = other.workflow_revision_id ||
    (row.workflow_key = other.workflow_key &&
      (row.revision_no = other.revision_no ||
        (row.content_hash = other.content_hash && row.provenance = other.provenance)))

namespace WorkflowRegistry

variable (registry : WorkflowRegistry)

/-- The owner's `current_revision_no`, and the registry in which the owner has a row. -/
def acquire_workflow_owner (workflow_id : String) : Option Nat × WorkflowRegistry :=
  match registry.definitions.get? workflow_id with
  | some current_revision_no => (current_revision_no, registry)
  | none => (none, { registry with definitions := registry.definitions.set workflow_id none })

def _should_select_revision (workflow_id : String) (current_revision_no : Option Nat) (requested : Bool)
    (current_provenance_guard : Option WorkflowProvenance) : Served Bool :=
  match requested, current_provenance_guard with
  | false, _ => .ok false
  | true, none => .ok true
  | true, some provenance =>
    match current_revision_no with
    | none => .ok (!registry._has_published_revisions workflow_id)
    | some revision_no =>
      match registry.revision? workflow_id revision_no with
      | none => .error (.missing_provenance workflow_id)
      | some current => .ok (current.provenance = provenance)

def _matching_revision (workflow_id content_hash : String) (provenance : WorkflowProvenance) :
    Option WorkflowRevisionRow :=
  registry.revisions.find? fun revision =>
    revision.workflow_key = workflow_id ∧ revision.content_hash = content_hash ∧ revision.provenance = provenance

def _next_revision_no (workflow_id : String) : Nat :=
  ((registry.revisions.filter fun revision => revision.workflow_key = workflow_id).map (·.revision_no)).foldl max 0 + 1

/-- `none` for an `IntegrityError`. -/
def insert_revision (row : WorkflowRevisionRow) : Option WorkflowRegistry :=
  if registry.revisions.any row.conflicts then none else some { registry with revisions := registry.revisions ++ [row] }

def _set_current (workflow_id : String) (revision_no : Nat) : WorkflowRegistry :=
  match registry.definitions.get? workflow_id with
  | none => registry
  | some _ => { registry with definitions := registry.definitions.set workflow_id (some revision_no) }

/-- The attempts to insert an immutable revision: the number of the revision that the content then has. -/
def allocate_revision (workflow : NormalizedWorkflow) (content_hash : String) (provenance : WorkflowProvenance)
    (source_path : Option String) : Nat → Served (Nat × WorkflowRegistry)
  | 0 => .error (.revision_allocation workflow.id.val)
  | attempts + 1 =>
    let revision_no := registry._next_revision_no workflow.id.val
    match registry.insert_revision {
        workflow_revision_id := _workflow_revision_id workflow.id.val revision_no
        workflow_key := workflow.id.val
        revision_no, content_hash, content_json := workflow.dump, provenance, source_path } with
    | some inserted => .ok (revision_no, inserted)
    | none =>
      match registry._matching_revision workflow.id.val content_hash provenance with
      | some matching => .ok (matching.revision_no, registry)
      | none => allocate_revision workflow content_hash provenance source_path attempts

/-- The number of the revision with the content, which is stored unless there is one already. -/
def matching_or_allocated (workflow : NormalizedWorkflow) (content_hash : String) (provenance : WorkflowProvenance)
    (source_path : Option String) : Served (Nat × WorkflowRegistry) :=
  match registry._matching_revision workflow.id.val content_hash provenance with
  | some matching => .ok (matching.revision_no, registry)
  | none => registry.allocate_revision workflow content_hash provenance source_path _MAX_COLLISION_RETRIES

def publish_workflow_revision (sha256 : String → BitVec 256) (workflow : NormalizedWorkflow)
    (provenance : WorkflowProvenance) (should_update_current : Bool) (source_path : Option String)
    (current_provenance_guard : Option WorkflowProvenance) : Served (PublishedWorkflowRevision × WorkflowRegistry) := do
  let (current_revision_no, owned) := registry.acquire_workflow_owner workflow.id.val
  let should_select_revision ← owned._should_select_revision workflow.id.val current_revision_no should_update_current
    current_provenance_guard
  let (revision_no, stored) ← owned.matching_or_allocated workflow (canonical_workflow_hash sha256 workflow) provenance
    source_path
  let selected := if should_select_revision then stored._set_current workflow.id.val revision_no else stored
  let published ← selected.read_published_workflow_revision workflow.id.val revision_no
  return (published, selected)

end WorkflowRegistry

/-- A packaged Workflow and the stem of its file's name. -/
structure StarterWorkflow where
  stem : String
  workflow : NormalizedWorkflow

def StarterWorkflow.source_path (starter : StarterWorkflow) : String :=
  "seed://starter-workflows/" ++ starter.stem ++ ".yaml"

mutual

/-- Whether `_verify_provider_neutral_seed` finds a `provider`. -/
def names_provider : JsonData → Bool
  | .object members => member_names_provider members
  | .array items => item_names_provider items
  | _ => false

def member_names_provider : List (String × JsonData) → Bool
  | [] => false
  | (key, child) :: members => key = "provider" || names_provider child || member_names_provider members

def item_names_provider : List JsonData → Bool
  | [] => false
  | child :: items => names_provider child || item_names_provider items

end

namespace WorkflowRegistry

/-- The publication of one packaged Workflow. -/
def seed_starter_workflow (registry : WorkflowRegistry) (sha256 : String → BitVec 256) (starter : StarterWorkflow) :
    Served (PublishedWorkflowRevision × WorkflowRegistry) :=
  if starter.stem ≠ starter.workflow.id.val then
    .error (.starter_stem starter.stem starter.workflow.id.val)
  else if names_provider starter.workflow.dump then .error .starter_provider
  else registry.publish_workflow_revision sha256 starter.workflow .starter_seed true (some starter.source_path)
    (some .starter_seed)

def seed_starter_workflows (registry : WorkflowRegistry) (sha256 : String → BitVec 256) :
    List StarterWorkflow → Served (List PublishedWorkflowRevision × WorkflowRegistry)
  | [] => .ok ([], registry)
  | starter :: starters => do
    let (published, seeded) ← registry.seed_starter_workflow sha256 starter
    let (results, last) ← seeded.seed_starter_workflows sha256 starters
    return (published :: results, last)

end WorkflowRegistry

end OhMySubagents.WorkflowAuthoring

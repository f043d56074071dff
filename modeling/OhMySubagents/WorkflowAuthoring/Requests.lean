import OhMySubagents.WorkflowAuthoring.Publication
import OhMySubagents.Relational.Runs

open Relational JsonData

namespace OhMySubagents.WorkflowAuthoring

open Workflows

/-- Whether a unique value of `workflow_drafts` keeps two rows apart. -/
def WorkflowDraftRow.conflicts (row other : WorkflowDraftRow) : Bool :=
  row.workflow_key = other.workflow_key || row.etag = other.etag

def WorkflowUndoReceiptRow.conflicts (receipt other : WorkflowUndoReceiptRow) : Bool :=
  receipt.expected_etag = other.expected_etag

structure WorkflowDraftOpenResult where
  draft : WorkflowDraftReadback
  is_created : Bool

structure WorkflowDraftImportResult where
  draft : WorkflowDraftReadback
  is_created : Bool
  undo_receipt : Option String

structure WorkflowDraftMutationResult where
  draft : WorkflowDraftReadback
  undo_receipt : String

section Rows

variable (sha256 : String → BitVec 256) (drawn : DrawnTokens)

def new_draft_row (workflow : NormalizedWorkflow) (base_revision_no : Option Nat) : WorkflowDraftRow where
  workflow_key := workflow.id.val
  base_revision_no := base_revision_no
  content_hash := canonical_workflow_hash sha256 workflow
  content_json := workflow.dump
  etag := new_workflow_draft_etag drawn
  next_member_sequence := next_workflow_member_sequence workflow

/-- A draft's row with other content. -/
def WorkflowDraftRow.replaced (row : WorkflowDraftRow) (workflow : NormalizedWorkflow) (next_member_sequence : Nat) :
    WorkflowDraftRow :=
  { row with
    content_hash := canonical_workflow_hash sha256 workflow
    content_json := workflow.dump
    etag := new_workflow_draft_etag drawn
    next_member_sequence }

/-- The receipt by which the replaced content comes back. -/
def WorkflowDraftRow.undo_receipt (row : WorkflowDraftRow) (draft_id : String) : WorkflowUndoReceiptRow where
  draft_id := draft_id
  expected_etag := new_workflow_draft_etag drawn
  previous_content_hash := row.content_hash
  previous_content_json := row.content_json
  consumed := false

/-- A draft's row with the content of a receipt; its member sequence stays. -/
def WorkflowDraftRow.restored (row : WorkflowDraftRow) (receipt : WorkflowUndoReceiptRow) : WorkflowDraftRow :=
  { row with
    content_json := receipt.previous_content_json
    content_hash := receipt.previous_content_hash
    etag := new_workflow_draft_etag drawn }

def WorkflowUndoReceiptRow.used (receipt : WorkflowUndoReceiptRow) : WorkflowUndoReceiptRow :=
  { receipt with consumed := true }

end Rows

namespace WorkflowRegistry

variable (registry : WorkflowRegistry) (backend : Dialect) (sha256 : String → BitVec 256) (drawn : DrawnTokens)

/-- An update of one draft's row under the unique ETag; `none` in the result when no row has the ETag. -/
def update_draft (draft_id expected_etag : String) (change : WorkflowDraftRow → WorkflowDraftRow) :
    Served (Option WorkflowRegistry) :=
  match registry.drafts.updateWhere draft_id (·.etag = expected_etag) change with
  | none => .ok none
  | some drafts =>
    if registry.drafts.any fun other row => other ≠ draft_id && (drafts.get? draft_id).any fun changed =>
        changed.etag = row.etag then
      .error .integrity
    else .ok (some { registry with drafts })

def add_undo_receipt (receipt : WorkflowUndoReceiptRow) : Served WorkflowRegistry :=
  match registry.undo_receipts.insertUnique WorkflowUndoReceiptRow.conflicts (new_workflow_undo_receipt_id drawn)
    receipt with
  | none => .error .integrity
  | some undo_receipts => .ok { registry with undo_receipts }

/-- The identifier of the undo receipt, and the registry with the new content. -/
def _replace_draft_content (draft_id : String) (row : WorkflowDraftRow) (workflow : NormalizedWorkflow)
    (next_member_sequence : Option Nat) : Served (String × WorkflowRegistry) := do
  validate_persisted_workflow_identity workflow.id.val row.workflow_key "replacement Workflow draft"
  let _ ← row.workflow
  let sequence := max row.next_member_sequence
    (next_member_sequence.getD (next_workflow_member_sequence workflow))
  require_column backend sequence
  match ← registry.update_draft draft_id row.etag (·.replaced sha256 drawn workflow sequence) with
  | none => registry.lost_draft draft_id
  | some changed => do
    let receipted ← changed.add_undo_receipt drawn (row.undo_receipt drawn draft_id)
    return (new_workflow_undo_receipt_id drawn, receipted)

def _insert_workflow_draft (workflow : NormalizedWorkflow) (base_revision_no : Option Nat) :
    Served (WorkflowDraftReadback × WorkflowRegistry) := do
  let row := new_draft_row sha256 drawn workflow base_revision_no
  require_column backend row.next_member_sequence
  match registry.drafts.insertUnique WorkflowDraftRow.conflicts (new_workflow_draft_id drawn) row with
  | none =>
    if registry.drafts.any fun _ other => other.workflow_key = workflow.id.val then
      .error (.active_draft_conflict workflow.id.val)
    else .error .integrity
  | some drafts => do
    let draft ← map_workflow_draft_readback (new_workflow_draft_id drawn) row
    return (draft, { registry with drafts })

def _create_workflow_draft (workflow : NormalizedWorkflow) : Served (WorkflowDraftReadback × WorkflowRegistry) := do
  match ← registry._active_draft_row workflow.id.val with
  | some _ => .error (.active_draft_conflict workflow.id.val)
  | none =>
    let (current_revision_no, owned) := registry.acquire_workflow_owner workflow.id.val
    owned._insert_workflow_draft backend sha256 drawn workflow current_revision_no

def _create_new_workflow_draft (workflow : NormalizedWorkflow) : Served (WorkflowDraftReadback × WorkflowRegistry) := do
  match ← registry._active_draft_row workflow.id.val with
  | some _ => .error (.active_draft_conflict workflow.id.val)
  | none =>
    let (current_revision_no, owned) := registry.acquire_workflow_owner workflow.id.val
    if current_revision_no.isSome then .error (.published_conflict workflow.id.val)
    else owned._insert_workflow_draft backend sha256 drawn workflow none

def _open_existing_workflow_draft (workflow_id : String) : Served (WorkflowDraftOpenResult × WorkflowRegistry) := do
  match ← registry._active_draft_row workflow_id with
  | some (draft_id, row) => do
    let draft ← map_workflow_draft_readback draft_id row
    return ({ draft, is_created := false }, registry)
  | none =>
    match registry.acquire_workflow_owner workflow_id with
    | (none, _) => .error (.workflow_not_found workflow_id)
    | (some current_revision_no, owned) => do
      let published ← owned.read_published_workflow_revision workflow_id current_revision_no
      let (draft, inserted) ← owned._insert_workflow_draft backend sha256 drawn published.workflow
        (some published.revision_no)
      return ({ draft, is_created := true }, inserted)

/-- `open_workflow_draft` of a create request. -/
def create_workflow_draft (workflow_id : Contracts.Identifier) (description : NonblankText 1024)
    (note : Option (BoundedText 8192)) (lead : Option NewMember) :
    Served (WorkflowDraftOpenResult × WorkflowRegistry) := do
  let workflow ← (build_new_workflow workflow_id description note lead).mapError .edit
  let (draft, created) ← registry._create_new_workflow_draft backend sha256 drawn workflow
  return ({ draft, is_created := true }, created)

def import_workflow_draft (workflow : NormalizedWorkflow) (expected_etag : Option String) :
    Served (WorkflowDraftImportResult × WorkflowRegistry) := do
  match ← registry._active_draft_row workflow.id.val with
  | none => do
    let (draft, created) ← registry._create_workflow_draft backend sha256 drawn workflow
    return ({ draft, is_created := true, undo_receipt := none }, created)
  | some (draft_id, existing) =>
    match expected_etag with
    | none => .error (.precondition_required workflow.id.val)
    | some expected_etag =>
      if existing.etag ≠ expected_etag then stale_draft draft_id existing
      else if existing.content_hash = canonical_workflow_hash sha256 workflow then do
        let draft ← map_workflow_draft_readback draft_id existing
        return ({ draft, is_created := false, undo_receipt := none }, registry)
      else do
        let (receipt, replaced) ← registry._replace_draft_content backend sha256 drawn draft_id existing workflow none
        let draft ← replaced.read_workflow_draft draft_id
        return ({ draft, is_created := false, undo_receipt := some receipt }, replaced)

def edit_workflow_draft (draft_id expected_etag : String) (operation : DraftOperation) :
    Served (WorkflowDraftMutationResult × WorkflowRegistry) := do
  let row ← registry._current_draft_row draft_id expected_etag
  let current_workflow ← row.workflow
  let (updated_workflow, next_member_sequence) ←
    (edit_normalized_workflow allocate_member_id row.next_member_sequence current_workflow operation).mapError .edit
  let (undo_receipt, replaced) ← registry._replace_draft_content backend sha256 drawn draft_id row updated_workflow
    (some next_member_sequence)
  let draft ← replaced.read_workflow_draft draft_id
  return ({ draft, undo_receipt }, replaced)

def undo_workflow_draft (draft_id expected_etag receipt_id : String) :
    Served (WorkflowDraftReadback × WorkflowRegistry) := do
  let row ← registry._current_draft_row draft_id expected_etag
  match registry.undo_receipts.get? receipt_id with
  | none => .error .undo_receipt
  | some receipt =>
    if receipt.draft_id ≠ draft_id ∨ receipt.consumed then .error .undo_receipt
    else if receipt.expected_etag ≠ row.etag then stale_draft draft_id row
    else do
      let _ ← read_persisted_workflow receipt.previous_content_json row.workflow_key "Workflow undo receipt"
      match registry.undo_receipts.updateWhere receipt_id (!·.consumed) (·.used) with
      | none => .error .undo_receipt
      | some undo_receipts =>
        match ← { registry with undo_receipts }.update_draft draft_id expected_etag (·.restored drawn receipt) with
        | none => registry.lost_draft draft_id
        | some changed => do
          let draft ← changed.read_workflow_draft draft_id
          return (draft, changed)

/-- The deletion by ETag finds the row that was just read with it. -/
def discard_workflow_draft (draft_id expected_etag : String) : Served (Unit × WorkflowRegistry) := do
  let _ ← registry._current_draft_row draft_id expected_etag
  return ((), registry.delete_draft draft_id)

def remove_workflow (workflow_id : String) : Served (Unit × WorkflowRegistry) := do
  let draft ← registry._active_draft_row workflow_id
  let (current_revision_no, owned) := registry.acquire_workflow_owner workflow_id
  if draft.isNone && current_revision_no.isNone then .error (.workflow_not_found workflow_id)
  else
    let discarded := draft.elim owned fun active => owned.delete_draft active.1
    if current_revision_no.isSome then
      return ((), { discarded with definitions := discarded.definitions.set workflow_id none })
    else if !owned._has_published_revisions workflow_id then
      return ((), { discarded with definitions := discarded.definitions.delete workflow_id })
    else return ((), discarded)

def publish_workflow_draft (draft_id expected_etag : String) :
    Served (PublishedWorkflowRevision × WorkflowRegistry) := do
  let row ← registry._current_draft_row draft_id expected_etag
  let persisted ← row.workflow
  let workflow ← (normalize_workflow_object persisted.dump).mapError (.edit ∘ .input)
  (registry.delete_draft draft_id).publish_workflow_revision sha256 workflow .user true none none

end WorkflowRegistry

inductive WorkflowRequest
  | open_draft (workflow_id : String)
  | create_draft (workflow_id : Contracts.Identifier) (description : NonblankText 1024)
      (note : Option (BoundedText 8192)) (lead : Option NewMember)
  | import_draft (workflow : NormalizedWorkflow) (expected_etag : Option String)
  | edit_draft (draft_id expected_etag : String) (operation : DraftOperation)
  | undo_draft (draft_id expected_etag receipt_id : String)
  | discard_draft (draft_id expected_etag : String)
  | publish_draft (draft_id expected_etag : String)
  | remove_workflow (workflow_id : String)
  | seed_starters (starters : List StarterWorkflow)

inductive WorkflowReply
  | opened (result : WorkflowDraftOpenResult)
  | imported (result : WorkflowDraftImportResult)
  | edited (result : WorkflowDraftMutationResult)
  | undone (draft : WorkflowDraftReadback)
  | discarded
  | published (revision : PublishedWorkflowRevision)
  | removed
  | seeded (revisions : List PublishedWorkflowRevision)

/-- The operation that a request stands for. -/
def WorkflowRequest.operation (backend : Dialect) (sha256 : String → BitVec 256) (drawn : DrawnTokens)
    (registry : WorkflowRegistry) :
    WorkflowRequest → Served (WorkflowReply × WorkflowRegistry)
  | open_draft workflow_id =>
    (registry._open_existing_workflow_draft backend sha256 drawn workflow_id).map (Prod.map .opened id)
  | create_draft workflow_id description note lead =>
    (registry.create_workflow_draft backend sha256 drawn workflow_id description note lead).map (Prod.map .opened id)
  | import_draft workflow expected_etag =>
    (registry.import_workflow_draft backend sha256 drawn workflow expected_etag).map (Prod.map .imported id)
  | edit_draft draft_id expected_etag operation =>
    (registry.edit_workflow_draft backend sha256 drawn draft_id expected_etag operation).map (Prod.map .edited id)
  | undo_draft draft_id expected_etag receipt_id =>
    (registry.undo_workflow_draft drawn draft_id expected_etag receipt_id).map (Prod.map .undone id)
  | discard_draft draft_id expected_etag =>
    (registry.discard_workflow_draft draft_id expected_etag).map (Prod.map (fun _ => .discarded) id)
  | publish_draft draft_id expected_etag =>
    (registry.publish_workflow_draft sha256 draft_id expected_etag).map (Prod.map .published id)
  | remove_workflow workflow_id =>
    (registry.remove_workflow workflow_id).map (Prod.map (fun _ => .removed) id)
  | seed_starters starters => (registry.seed_starter_workflows sha256 starters).map (Prod.map .seeded id)

/-- Run and commit one database write, rolling it back on failure. -/
def write_session_operation {α : Type} (operation : WorkflowRegistry → Served (α × WorkflowRegistry))
    (registry : WorkflowRegistry) : Served α × WorkflowRegistry :=
  match operation registry with
  | .ok (result, committed) => (.ok result, committed)
  | .error error => (.error error, registry)

/-- The registry, and every token that a request has drawn. -/
structure WorkflowStore where
  registry : WorkflowRegistry
  drawn : List DrawnTokens

structure WorkflowTransaction where
  request : WorkflowRequest
  drawn : DrawnTokens

namespace WorkflowTransaction

/-- Tokens are not drawn twice. -/
def Fresh (transaction : WorkflowTransaction) (store : WorkflowStore) : Prop :=
  ∀ earlier ∈ store.drawn, transaction.drawn.draft_id ≠ earlier.draft_id ∧ transaction.drawn.etag ≠ earlier.etag ∧
    transaction.drawn.receipt_id ≠ earlier.receipt_id

instance (transaction : WorkflowTransaction) (store : WorkflowStore) : Decidable (transaction.Fresh store) :=
  inferInstanceAs (Decidable (∀ earlier ∈ store.drawn, _))

def serve (backend : Dialect) (sha256 : String → BitVec 256) (transaction : WorkflowTransaction)
    (store : WorkflowStore) :
    Served WorkflowReply × WorkflowStore :=
  let (reply, registry) := write_session_operation
    (fun registry => transaction.request.operation backend sha256 transaction.drawn registry) store.registry
  (reply, { registry, drawn := transaction.drawn :: store.drawn })

end WorkflowTransaction

/-- The requests of any clients and any number of bootstraps, one transaction after the other. -/
def workflow_authoring (backend : Dialect) (sha256 : String → BitVec 256) :
    Transactional WorkflowStore WorkflowTransaction where
  start store := store = { registry := {}, drawn := [] }
  reads _ := []
  commit transaction store store' := transaction.Fresh store ∧ store' = (transaction.serve backend sha256 store).2

/-- The store that requests leave one after the other, when each draws new tokens. -/
def WorkflowStore.served (backend : Dialect) (sha256 : String → BitVec 256) (store : WorkflowStore)
    (transactions : List WorkflowTransaction) :
    Option WorkflowStore :=
  transactions.foldlM (fun store transaction =>
    if transaction.Fresh store then some (transaction.serve backend sha256 store).2 else none) store

theorem WorkflowStore.served_reachable {backend : Dialect} {sha256 : String → BitVec 256} {store after : WorkflowStore}
    {transactions : List WorkflowTransaction} (hstore : (workflow_authoring backend sha256).Reachable store)
    (h : store.served backend sha256 transactions = some after) :
    (workflow_authoring backend sha256).Reachable after := by
  induction transactions generalizing store with
  | nil =>
    obtain rfl := Option.some.inj h
    exact hstore
  | cons transaction transactions ih =>
    obtain ⟨next, hnext, h⟩ := Option.bind_eq_some_iff.mp h
    dsimp only at hnext
    split at hnext
    · next hfresh =>
      obtain rfl := Option.some.inj hnext
      exact ih (hstore.step rfl ⟨hfresh, rfl⟩) h
    · cases hnext

theorem WorkflowStore.served_commit {backend : Dialect} {sha256 : String → BitVec 256} {store after : WorkflowStore}
    {transaction : WorkflowTransaction} (h : store.served backend sha256 [transaction] = some after) :
    (workflow_authoring backend sha256).commit transaction store after := by
  obtain ⟨next, hnext, h⟩ := Option.bind_eq_some_iff.mp h
  obtain rfl := Option.some.inj h
  dsimp only at hnext
  split at hnext
  · next hfresh => exact ⟨hfresh, (Option.some.inj hnext).symm⟩
  · cases hnext

theorem reply_eq_ok {α : Type} {served : Served (α × WorkflowRegistry)} {f : α → WorkflowReply} {reply : WorkflowReply}
    {registry' : WorkflowRegistry} (h : served.map (Prod.map f id) = .ok (reply, registry')) :
    ∃ result, served = .ok (result, registry') ∧ reply = f result := by
  cases served with
  | error error => cases h
  | ok served =>
    obtain ⟨result, registry⟩ := served
    cases h
    exact ⟨result, rfl, rfl⟩

/-- A request that is accepted commits what its operation did; any other changes nothing. -/
theorem WorkflowTransaction.serve_eq (backend : Dialect) (sha256 : String → BitVec 256)
    (transaction : WorkflowTransaction) (store : WorkflowStore) :
    (∃ reply registry', transaction.request.operation backend sha256 transaction.drawn store.registry =
      .ok (reply, registry') ∧
        transaction.serve backend sha256 store =
          (.ok reply, { registry := registry', drawn := transaction.drawn :: store.drawn })) ∨
      ∃ error, transaction.serve backend sha256 store =
        (.error error, { store with drawn := transaction.drawn :: store.drawn }) := by
  cases hoperation : transaction.request.operation backend sha256 transaction.drawn store.registry with
  | ok served =>
    obtain ⟨reply, registry'⟩ := served
    refine .inl ⟨reply, registry', rfl, ?_⟩
    simp only [serve, write_session_operation, hoperation]
  | error error =>
    refine .inr ⟨error, ?_⟩
    simp only [serve, write_session_operation, hoperation]

theorem WorkflowTransaction.serve_eq_ok {backend : Dialect} {sha256 : String → BitVec 256}
    {transaction : WorkflowTransaction}
    {store after : WorkflowStore} {reply : WorkflowReply}
    (h : transaction.serve backend sha256 store = (.ok reply, after)) :
    transaction.request.operation backend sha256 transaction.drawn store.registry = .ok (reply, after.registry) := by
  rcases transaction.serve_eq backend sha256 store with ⟨reply', registry', hoperation, hserve⟩ | ⟨error, hserve⟩
  · rw [hserve] at h
    cases h
    exact hoperation
  · rw [hserve] at h
    cases h

end OhMySubagents.WorkflowAuthoring

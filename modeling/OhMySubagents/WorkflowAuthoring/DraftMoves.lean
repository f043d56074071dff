import OhMySubagents.WorkflowAuthoring.History
import OhMySubagents.Workflows.Normalization

open Relational JsonData

namespace OhMySubagents.WorkflowAuthoring

open Workflows WorkflowRegistry

variable {backend : Dialect} {sha256 : String → BitVec 256} {drawn : DrawnTokens}
  {registry registry' : WorkflowRegistry}

theorem new_workflow_draft_etag_eq {drawn' : DrawnTokens}
    (h : new_workflow_draft_etag drawn = new_workflow_draft_etag drawn') : drawn.etag = drawn'.etag := by
  unfold new_workflow_draft_etag at h
  exact (String.append_right_inj _).mp ((String.append_left_inj _).mp h)

theorem new_workflow_undo_receipt_id_eq {drawn' : DrawnTokens}
    (h : new_workflow_undo_receipt_id drawn = new_workflow_undo_receipt_id drawn') :
    drawn.receipt_id = drawn'.receipt_id :=
  (String.append_right_inj _).mp h

/-- What one request does to the drafts and their receipts. -/
inductive DraftMove (sha256 : String → BitVec 256) (drawn : DrawnTokens) (registry registry' : WorkflowRegistry) : Prop
  | kept (drafts : registry'.drafts = registry.drafts)
      (undo_receipts : registry'.undo_receipts = registry.undo_receipts)
  | inserted (workflow : NormalizedWorkflow) (base_revision_no : Option Nat)
      (free : ∀ draft_id row, registry.drafts.get? draft_id = some row → row.workflow_key ≠ workflow.id.val)
      (drafts : registry'.drafts =
        registry.drafts.set (new_workflow_draft_id drawn) (new_draft_row sha256 drawn workflow base_revision_no))
      (undo_receipts : registry'.undo_receipts = registry.undo_receipts)
  | replaced (draft_id : String) (row : WorkflowDraftRow) (workflow : NormalizedWorkflow) (sequence : Nat)
      (found : registry.drafts.get? draft_id = some row)
      (drafts : registry'.drafts = registry.drafts.set draft_id (row.replaced sha256 drawn workflow sequence))
      (undo_receipts : registry'.undo_receipts =
        registry.undo_receipts.set (new_workflow_undo_receipt_id drawn) (row.undo_receipt drawn draft_id))
  | restored (draft_id receipt_id : String) (row : WorkflowDraftRow) (receipt : WorkflowUndoReceiptRow)
      (found : registry.drafts.get? draft_id = some row)
      (unused : registry.undo_receipts.get? receipt_id = some receipt)
      (drafts : registry'.drafts = registry.drafts.set draft_id (row.restored drawn receipt))
      (undo_receipts : registry'.undo_receipts = registry.undo_receipts.set receipt_id receipt.used)
  | deleted (draft_id : String) (drafts : registry'.drafts = (registry.delete_draft draft_id).drafts)
      (undo_receipts : registry'.undo_receipts = (registry.delete_draft draft_id).undo_receipts)

private theorem inserted_draft_move {workflow : NormalizedWorkflow} {base_revision_no : Option Nat}
    (h : Inserted backend sha256 drawn registry registry' workflow base_revision_no) :
    DraftMove sha256 drawn registry registry' := by
  rw [h.result]
  exact .inserted workflow base_revision_no h.free rfl acquire_workflow_owner_undo_receipts

private theorem replaced_draft_move {draft_id : String} {row : WorkflowDraftRow} {workflow : NormalizedWorkflow}
    {sequence : Nat} (hrow : registry.drafts.get? draft_id = some row)
    (h : Replaced backend sha256 drawn registry registry' draft_id row workflow sequence) :
    DraftMove sha256 drawn registry registry' := by
  rw [h.result]
  exact .replaced draft_id row workflow sequence hrow rfl rfl

theorem seeds_keep_drafts {starters : List StarterWorkflow} {revisions : List PublishedWorkflowRevision}
    (h : registry.seed_starter_workflows sha256 starters = .ok (revisions, registry')) :
    registry'.drafts = registry.drafts ∧ registry'.undo_receipts = registry.undo_receipts := by
  induction starters generalizing registry revisions with
  | nil =>
    cases h
    exact ⟨rfl, rfl⟩
  | cons starter starters ih =>
    obtain ⟨⟨published, seeded⟩, hpublished, h⟩ := bind_eq_ok_iff.mp h
    obtain ⟨⟨results, last⟩, hresults, h⟩ := bind_eq_ok_iff.mp h
    cases h
    obtain ⟨selected, -, -, publication⟩ := seed_starter_workflow_eq_ok hpublished
    obtain ⟨hdrafts, hreceipts⟩ := ih hresults
    exact ⟨hdrafts.trans publication.drafts, hreceipts.trans publication.undo_receipts⟩

theorem operation_draft_move {request : WorkflowRequest} {reply : WorkflowReply}
    (h : request.operation backend sha256 drawn registry = .ok (reply, registry')) :
    DraftMove sha256 drawn registry registry' := by
  cases request with
  | open_draft workflow_id =>
    obtain ⟨result, hresult, -⟩ := reply_eq_ok h
    rcases open_existing_workflow_draft_eq_ok hresult with ⟨-, rfl⟩ | ⟨workflow, base, -, hinserted⟩
    · exact .kept rfl rfl
    · exact inserted_draft_move hinserted
  | create_draft id description note lead =>
    obtain ⟨result, hresult, -⟩ := reply_eq_ok h
    obtain ⟨workflow, -, -, hinserted⟩ := create_workflow_draft_eq_ok hresult
    exact inserted_draft_move hinserted
  | import_draft workflow etag =>
    obtain ⟨result, hresult, -⟩ := reply_eq_ok h
    rcases import_workflow_draft_eq_ok hresult with
      ⟨-, -, base, hinserted⟩ | ⟨draft_id, row, -, hrow, -, -, ⟨-, -, rfl⟩ | ⟨-, -, -, hreplaced⟩⟩
    · exact inserted_draft_move hinserted
    · exact .kept rfl rfl
    · exact replaced_draft_move hrow hreplaced
  | edit_draft draft_id etag operation =>
    obtain ⟨result, hresult, -⟩ := reply_eq_ok h
    obtain ⟨row, current, updated, next, hrow, -, -, -, -, -, hreplaced⟩ := edit_workflow_draft_eq_ok hresult
    exact replaced_draft_move hrow hreplaced
  | undo_draft draft_id etag receipt_id =>
    obtain ⟨result, hresult, -⟩ := reply_eq_ok h
    obtain ⟨row, receipt, hrow, -, hreceipt, -, -, -, rfl⟩ := undo_workflow_draft_eq_ok hresult
    exact .restored draft_id receipt_id row receipt hrow hreceipt rfl rfl
  | discard_draft draft_id etag =>
    obtain ⟨result, hresult, -⟩ := reply_eq_ok h
    obtain ⟨row, -, -, rfl⟩ := discard_workflow_draft_eq_ok hresult
    exact .deleted draft_id rfl rfl
  | publish_draft draft_id etag =>
    obtain ⟨result, hresult, -⟩ := reply_eq_ok h
    obtain ⟨row, persisted, workflow, -, -, -, -, hpublished⟩ := publish_workflow_draft_eq_ok hresult
    obtain ⟨selected, -, -, publication⟩ := publish_workflow_revision_eq_ok hpublished
    exact .deleted draft_id publication.drafts publication.undo_receipts
  | remove_workflow workflow_id =>
    obtain ⟨result, hresult, -⟩ := reply_eq_ok h
    obtain ⟨⟨draft_id, row, -, -, hdrafts, hreceipts⟩ | ⟨hdrafts, hreceipts, -⟩, -, -⟩ := remove_workflow_eq_ok hresult
    · exact .deleted draft_id hdrafts hreceipts
    · exact .kept hdrafts hreceipts
  | seed_starters starters =>
    obtain ⟨revisions, hrevisions, -⟩ := reply_eq_ok h
    obtain ⟨hdrafts, hreceipts⟩ := seeds_keep_drafts hrevisions
    exact .kept hdrafts hreceipts

namespace DraftMove

/-- A draft's row stays as it is, or has the new ETag. -/
theorem row_kept_or_new (h : DraftMove sha256 drawn registry registry') {draft_id : String} {row : WorkflowDraftRow}
    (hrow : registry'.drafts.get? draft_id = some row) :
    registry.drafts.get? draft_id = some row ∨ row.etag = new_workflow_draft_etag drawn := by
  have hset : ∀ {other : String} {changed : WorkflowDraftRow}, changed.etag = new_workflow_draft_etag drawn →
      (registry.drafts.set other changed).get? draft_id = some row →
      registry.drafts.get? draft_id = some row ∨ row.etag = new_workflow_draft_etag drawn := by
    intro other changed hetag hget
    rw [Table.get?_set] at hget
    split at hget
    · obtain rfl := Option.some.inj hget
      exact .inr hetag
    · exact .inl hget
  cases h with
  | kept drafts undo_receipts => exact .inl (drafts ▸ hrow)
  | inserted workflow base_revision_no free drafts undo_receipts => exact hset rfl (drafts ▸ hrow)
  | replaced other found_row workflow sequence found drafts undo_receipts => exact hset rfl (drafts ▸ hrow)
  | restored other receipt_id found_row receipt found unused drafts undo_receipts => exact hset rfl (drafts ▸ hrow)
  | deleted other drafts undo_receipts =>
    rw [drafts, delete_draft, Table.get?_delete] at hrow
    split at hrow
    · cases hrow
    · exact .inl hrow

theorem get?_delete_all {receipts : Table String WorkflowUndoReceiptRow}
    {dropped : List (String × WorkflowUndoReceiptRow)} {receipt_id : String} {receipt : WorkflowUndoReceiptRow}
    (h : (dropped.foldl (fun receipts receipt => receipts.delete receipt.1) receipts).get? receipt_id = some receipt) :
    receipts.get? receipt_id = some receipt := by
  induction dropped generalizing receipts with
  | nil => exact h
  | cons first dropped ih =>
    have hdeleted := ih h
    rw [Table.get?_delete] at hdeleted
    split at hdeleted
    · cases hdeleted
    · exact hdeleted

/-- A receipt stays as it is but for its use, or has the new identifier. -/
theorem receipt_kept_or_new (h : DraftMove sha256 drawn registry registry') {receipt_id : String}
    {receipt : WorkflowUndoReceiptRow} (hreceipt : registry'.undo_receipts.get? receipt_id = some receipt) :
    (∃ earlier, registry.undo_receipts.get? receipt_id = some earlier ∧ (receipt = earlier ∨ receipt = earlier.used)) ∨
      receipt_id = new_workflow_undo_receipt_id drawn := by
  cases h with
  | kept drafts undo_receipts => exact .inl ⟨receipt, undo_receipts ▸ hreceipt, .inl rfl⟩
  | inserted workflow base_revision_no free drafts undo_receipts =>
    exact .inl ⟨receipt, undo_receipts ▸ hreceipt, .inl rfl⟩
  | replaced draft_id row workflow sequence found drafts undo_receipts =>
    rw [undo_receipts, Table.get?_set] at hreceipt
    split at hreceipt
    · next hid => exact .inr hid
    · exact .inl ⟨receipt, hreceipt, .inl rfl⟩
  | restored draft_id other row used found unused drafts undo_receipts =>
    rw [undo_receipts, Table.get?_set] at hreceipt
    split at hreceipt
    · next hid =>
      obtain rfl := Option.some.inj hreceipt
      exact .inl ⟨used, hid ▸ unused, .inr rfl⟩
    · exact .inl ⟨receipt, hreceipt, .inl rfl⟩
  | deleted draft_id drafts undo_receipts =>
    rw [undo_receipts, delete_draft] at hreceipt
    exact .inl ⟨receipt, get?_delete_all hreceipt, .inl rfl⟩

/-- No request gives a Workflow a second draft. -/
theorem one_draft (h : DraftMove sha256 drawn registry registry')
    (hone : ∀ draft_id draft_id' row row', registry.drafts.get? draft_id = some row →
      registry.drafts.get? draft_id' = some row' → row.workflow_key = row'.workflow_key → draft_id = draft_id') :
    ∀ draft_id draft_id' row row', registry'.drafts.get? draft_id = some row →
      registry'.drafts.get? draft_id' = some row' → row.workflow_key = row'.workflow_key → draft_id = draft_id' := by
  have hset : ∀ {other : String} {old changed : WorkflowDraftRow}, registry.drafts.get? other = some old →
      registry'.drafts = registry.drafts.set other changed → changed.workflow_key = old.workflow_key →
      ∀ draft_id draft_id' row row', registry'.drafts.get? draft_id = some row →
        registry'.drafts.get? draft_id' = some row' → row.workflow_key = row'.workflow_key → draft_id = draft_id' := by
    intro other old changed hold hdrafts hkey draft_id draft_id' row row' hrow hrow' hsame
    -- under the changed row's identifier stood a row of the same Workflow
    have hback : ∀ {id row}, registry'.drafts.get? id = some row →
        ∃ earlier, registry.drafts.get? id = some earlier ∧ earlier.workflow_key = row.workflow_key := by
      intro id row hget
      rw [hdrafts, Table.get?_set] at hget
      split at hget
      · next hid =>
        obtain rfl := Option.some.inj hget
        exact ⟨old, hid ▸ hold, hkey.symm⟩
      · exact ⟨row, hget, rfl⟩
    obtain ⟨earlier, hearlier, hk⟩ := hback hrow
    obtain ⟨earlier', hearlier', hk'⟩ := hback hrow'
    exact hone _ _ _ _ hearlier hearlier' (hk.trans (hsame.trans hk'.symm))
  cases h with
  | kept drafts undo_receipts =>
    rw [drafts]
    exact hone
  | inserted workflow base_revision_no free drafts undo_receipts =>
    intro draft_id draft_id' row row' hrow hrow' hsame
    rw [drafts, Table.get?_set] at hrow hrow'
    split at hrow
    · next hid =>
      obtain rfl := Option.some.inj hrow
      split at hrow'
      · next hid' => rw [hid, hid']
      · exact absurd hsame.symm (free _ _ hrow')
    · split at hrow'
      · obtain rfl := Option.some.inj hrow'
        exact absurd hsame (free _ _ hrow)
      · exact hone _ _ _ _ hrow hrow' hsame
  | replaced other old workflow sequence found drafts undo_receipts => exact hset found drafts rfl
  | restored other receipt_id old receipt found unused drafts undo_receipts => exact hset found drafts rfl
  | deleted other drafts undo_receipts =>
    intro draft_id draft_id' row row' hrow hrow' hsame
    rw [drafts, delete_draft, Table.get?_delete] at hrow hrow'
    split at hrow
    · cases hrow
    split at hrow'
    · cases hrow'
    exact hone _ _ _ _ hrow hrow' hsame

end DraftMove

end OhMySubagents.WorkflowAuthoring

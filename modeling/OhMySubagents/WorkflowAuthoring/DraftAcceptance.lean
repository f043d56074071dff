import OhMySubagents.WorkflowAuthoring.DraftNumbers

open Relational JsonData

namespace OhMySubagents.WorkflowAuthoring

open Workflows WorkflowRegistry

variable {backend : Dialect} {sha256 : String → BitVec 256} {drawn : DrawnTokens} {registry owned : WorkflowRegistry}
  {workflow : NormalizedWorkflow} {workflow_id : String}

/-- A request is accepted when every number of a Workflow leaves room for a next one, and overflows the column
    otherwise. -/
def AcceptedWithRoom {α : Type} (backend : Dialect) (workflow : NormalizedWorkflow) (served : Served α) : Prop :=
  (NumbersBelow backend.integer_column_max workflow.lead → ∃ result, served = .ok result) ∧
    (¬NumbersBelow backend.integer_column_max workflow.lead → served = .error .overflow)

theorem AcceptedWithRoom.map {α β : Type} {served : Served α} (h : AcceptedWithRoom backend workflow served)
    (f : α → β) :
    AcceptedWithRoom backend workflow (served.map f) := by
  refine ⟨fun hroom => ?_, fun hfull => ?_⟩
  · obtain ⟨result, hresult⟩ := h.1 hroom
    exact ⟨f result, by rw [hresult]; rfl⟩
  · rw [h.2 hfull]
    rfl

theorem AcceptedWithRoom.bind {α β : Type} {served : Served α} {next : α → Served β}
    (h : AcceptedWithRoom backend workflow served)
    (hnext : ∀ result, served = .ok result → ∃ last, next result = .ok last) :
    AcceptedWithRoom backend workflow (served >>= next) := by
  refine ⟨fun hroom => ?_, fun hfull => ?_⟩
  · obtain ⟨result, hresult⟩ := h.1 hroom
    obtain ⟨last, hlast⟩ := hnext result hresult
    exact ⟨last, bind_eq_ok_iff.mpr ⟨result, hresult, hlast⟩⟩
  · rw [h.2 hfull]
    rfl

/-- The column of the next number after those of a Workflow. -/
theorem accepted_with_room_of_column {α : Type} {next : Unit → Served α} {sequence : Nat}
    (hsequence : sequence ≤ backend.integer_column_max ↔ NumbersBelow backend.integer_column_max workflow.lead)
    (hnext : ∃ result, next () = .ok result) :
    AcceptedWithRoom backend workflow (require_column backend sequence >>= next) := by
  refine ⟨fun hroom => ?_, fun hfull => ?_⟩
  · rw [require_column_eq_ok.mpr (hsequence.mpr hroom)]
    exact hnext
  · rw [require_column, if_neg (mt hsequence.mp hfull)]
    rfl

theorem next_fits_iff : next_workflow_member_sequence workflow ≤ backend.integer_column_max ↔
    NumbersBelow backend.integer_column_max workflow.lead :=
  next_workflow_member_sequence_le_iff (by cases backend <;> decide)

/-- Newly drawn tokens that nothing stored has. -/
structure FreshTokens (drawn : DrawnTokens) (registry : WorkflowRegistry) : Prop where
  draft_id : registry.drafts.get? (new_workflow_draft_id drawn) = none
  etag : ∀ draft_id row, registry.drafts.get? draft_id = some row → row.etag ≠ new_workflow_draft_etag drawn
  receipt_id : registry.undo_receipts.get? (new_workflow_undo_receipt_id drawn) = none
  expected_etag : ∀ receipt_id receipt, registry.undo_receipts.get? receipt_id = some receipt →
    receipt.expected_etag ≠ new_workflow_draft_etag drawn

theorem fresh_tokens {store : WorkflowStore} {transaction : WorkflowTransaction}
    (h : (workflow_authoring backend sha256).Reachable store) (hfresh : transaction.Fresh store) :
    FreshTokens transaction.drawn store.registry := by
  have hnumbers := number_invariant h
  refine ⟨Option.eq_none_iff_forall_ne_some.mpr fun row hrow => ?_, fun draft_id row hrow hetag => ?_,
    Option.eq_none_iff_forall_ne_some.mpr fun receipt hreceipt => ?_, fun receipt_id receipt hreceipt hetag => ?_⟩
  · obtain ⟨earlier, hearlier, hid⟩ := (hnumbers.drafts _ row hrow).drawn
    exact (hfresh earlier hearlier).1 (new_workflow_draft_id_eq hid)
  · obtain ⟨earlier, hearlier, hold⟩ := (draft_invariant h).drawn_etag draft_id row hrow
    exact (hfresh earlier hearlier).2.1 (new_workflow_draft_etag_eq (hetag.symm.trans hold))
  · obtain ⟨earlier, hearlier, hid, -⟩ := (hnumbers.receipts _ receipt hreceipt).issued
    exact (hfresh earlier hearlier).2.2 (new_workflow_undo_receipt_id_eq hid)
  · obtain ⟨earlier, hearlier, -, hold⟩ := (hnumbers.receipts receipt_id receipt hreceipt).issued
    exact (hfresh earlier hearlier).2.1 (new_workflow_draft_etag_eq (hetag.symm.trans hold))

theorem map_workflow_draft_readback_eq_ok {draft_id : String} {row : WorkflowDraftRow}
    (h : row.workflow = .ok workflow) : ∃ draft, map_workflow_draft_readback draft_id row = .ok draft :=
  ⟨_, bind_eq_ok_iff.mpr ⟨workflow, h, rfl⟩⟩

/-- The insertion of a Workflow that has no draft fails on its numbers only. -/
theorem insert_workflow_draft_accepted (hfresh : FreshTokens drawn registry) (howned : owned.drafts = registry.drafts)
    (hfree : ∀ draft_id row, registry.drafts.get? draft_id = some row → row.workflow_key ≠ workflow.id.val)
    (base_revision_no : Option Nat) :
    AcceptedWithRoom backend workflow (owned._insert_workflow_draft backend sha256 drawn workflow
      base_revision_no) := by
  have hread : (new_draft_row sha256 drawn workflow base_revision_no).workflow = .ok workflow :=
    read_persisted_workflow_eq_ok.mpr ⟨NormalizedWorkflow.model_validate_dump workflow, rfl⟩
  obtain ⟨draft, hdraft⟩ := @map_workflow_draft_readback_eq_ok workflow (new_workflow_draft_id drawn) _ hread
  have hany : registry.drafts.any (fun _ row => WorkflowDraftRow.conflicts
      (new_draft_row sha256 drawn workflow base_revision_no) row) = false := by
    refine Table.any_eq_false_iff.mpr fun draft_id row hrow => ?_
    have hkey := hfree draft_id row hrow
    have hetag := hfresh.etag draft_id row hrow
    simp [WorkflowDraftRow.conflicts, new_draft_row, Ne.symm hkey, Ne.symm hetag]
  have hinsert := Table.insertUnique_eq_some.mpr ⟨hany, hfresh.draft_id, rfl⟩
  unfold _insert_workflow_draft
  refine accepted_with_room_of_column next_fits_iff ?_
  rw [howned, hinsert]
  exact ⟨_, bind_eq_ok_iff.mpr ⟨draft, hdraft, rfl⟩⟩

/-- Every draft's content reads back. -/
def DraftsRead (registry : WorkflowRegistry) : Prop :=
  ∀ draft_id row, registry.drafts.get? draft_id = some row → ∃ content, row.workflow = .ok content

theorem active_draft_row_free (hfree : ∀ draft_id row, registry.drafts.get? draft_id = some row →
    row.workflow_key ≠ workflow_id) : registry._active_draft_row workflow_id = .ok none := by
  have hnone : registry.drafts.select (fun _ row => row.workflow_key = workflow_id) = [] := by
    refine List.eq_nil_iff_forall_not_mem.mpr fun ⟨draft_id, row⟩ hmem => ?_
    obtain ⟨hrow, hkey⟩ := Table.mem_select_iff.mp hmem
    exact hfree draft_id row hrow (of_decide_eq_true hkey)
  rw [_active_draft_row, hnone]
  rfl

/-- The active draft of a Workflow is found. -/
theorem active_draft_row_found {draft_id : String} {row : WorkflowDraftRow} (hread : DraftsRead registry)
    (hone : ∀ draft_id draft_id' row row', registry.drafts.get? draft_id = some row →
      registry.drafts.get? draft_id' = some row' → row.workflow_key = row'.workflow_key → draft_id = draft_id')
    (hrow : registry.drafts.get? draft_id = some row) :
    registry._active_draft_row row.workflow_key = .ok (some (draft_id, row)) := by
  have hmem : (draft_id, row) ∈ registry.drafts.select fun _ other => other.workflow_key = row.workflow_key :=
    Table.mem_select_iff.mpr ⟨hrow, decide_eq_true rfl⟩
  unfold _active_draft_row
  cases hhead : (registry.drafts.select fun _ other => other.workflow_key = row.workflow_key).head? with
  | none =>
    rw [List.head?_eq_none_iff.mp hhead] at hmem
    cases hmem
  | some found =>
    obtain ⟨other, found⟩ := found
    obtain ⟨hfound, hkey⟩ := Table.mem_select_iff.mp (List.mem_of_head? hhead)
    obtain rfl := hone _ _ _ _ hfound hrow (of_decide_eq_true hkey)
    obtain rfl := Option.some.inj (hrow.symm.trans hfound)
    obtain ⟨content, hcontent⟩ := hread _ _ hfound
    exact bind_eq_ok_iff.mpr ⟨content, hcontent, rfl⟩

/-- The replacement of a draft's content fails on its numbers only. -/
theorem replace_draft_content_accepted {draft_id : String} {row : WorkflowDraftRow}
    (hfresh : FreshTokens drawn registry) (hread : DraftsRead registry)
    (hfits : row.next_member_sequence ≤ backend.integer_column_max)
    (hrow : registry.drafts.get? draft_id = some row) (hidentity : workflow.id.val = row.workflow_key) :
    AcceptedWithRoom backend workflow (registry._replace_draft_content backend sha256 drawn draft_id row
      workflow none) := by
  obtain ⟨content, hcontent⟩ := hread draft_id row hrow
  have hvalid : validate_persisted_workflow_identity workflow.id.val row.workflow_key "replacement Workflow draft" =
      .ok () := if_pos hidentity
  have hupdate : ∀ sequence, registry.update_draft draft_id row.etag (·.replaced sha256 drawn workflow sequence) =
      .ok (some { registry with
        drafts := registry.drafts.set draft_id (row.replaced sha256 drawn workflow sequence) }) := by
    intro sequence
    have hany : registry.drafts.any (fun other found => other ≠ draft_id &&
        ((registry.drafts.set draft_id (row.replaced sha256 drawn workflow sequence)).get? draft_id).any fun changed =>
          changed.etag = found.etag) = false := by
      refine Table.any_eq_false_iff.mpr fun other found hfound => ?_
      have hetag := hfresh.etag other found hfound
      simp [WorkflowDraftRow.replaced, Ne.symm hetag]
    unfold update_draft
    rw [Table.updateWhere_eq_some.mpr ⟨row, hrow, decide_eq_true rfl, rfl⟩]
    dsimp only
    rw [hany]
    rfl
  have hreceipt : ∀ changed : WorkflowRegistry, changed.undo_receipts = registry.undo_receipts →
      ∃ receipted, changed.add_undo_receipt drawn (row.undo_receipt drawn draft_id) = .ok receipted := by
    intro changed hsame
    have hany : registry.undo_receipts.any (fun _ receipt => WorkflowUndoReceiptRow.conflicts
        (row.undo_receipt drawn draft_id) receipt) = false :=
      Table.any_eq_false_iff.mpr fun receipt_id receipt hreceipt =>
        decide_eq_false (Ne.symm (hfresh.expected_etag receipt_id receipt hreceipt))
    rw [add_undo_receipt, hsame, Table.insertUnique_eq_some.mpr ⟨hany, hfresh.receipt_id, rfl⟩]
    exact ⟨_, rfl⟩
  unfold _replace_draft_content
  rw [hvalid, hcontent]
  refine accepted_with_room_of_column (max_le_iff.trans ((and_iff_right hfits).trans next_fits_iff)) ?_
  obtain ⟨receipted, hreceipted⟩ := hreceipt { registry with
    drafts := registry.drafts.set draft_id (row.replaced sha256 drawn workflow _) } rfl
  exact ⟨_, bind_eq_ok_iff.mpr ⟨_, hupdate _, bind_eq_ok_iff.mpr ⟨receipted, hreceipted, rfl⟩⟩⟩

theorem serve_fst {transaction : WorkflowTransaction} {store : WorkflowStore} :
    (transaction.serve backend sha256 store).1 =
      (transaction.request.operation backend sha256 transaction.drawn store.registry).map Prod.fst := by
  cases hoperation : transaction.request.operation backend sha256 transaction.drawn store.registry with
  | ok served =>
    obtain ⟨reply, registry'⟩ := served
    simp only [WorkflowTransaction.serve, write_session_operation, hoperation]
    rfl
  | error error =>
    simp only [WorkflowTransaction.serve, write_session_operation, hoperation]
    rfl

private theorem ok_bind {α β : Type} {result : α} {next : α → Served β} :
    (Except.ok result >>= next) = next result := rfl

theorem import_accepted_free (hfresh : FreshTokens drawn registry)
    (hfree : ∀ draft_id row, registry.drafts.get? draft_id = some row → row.workflow_key ≠ workflow.id.val)
    (etag : Option String) : AcceptedWithRoom backend workflow
    (registry.import_workflow_draft backend sha256 drawn workflow etag) := by
  have hcreated : AcceptedWithRoom backend workflow
    (registry._create_workflow_draft backend sha256 drawn workflow) := by
    unfold _create_workflow_draft
    rw [active_draft_row_free hfree, ok_bind]
    exact insert_workflow_draft_accepted hfresh acquire_workflow_owner_drafts hfree _
  unfold import_workflow_draft
  rw [active_draft_row_free hfree, ok_bind]
  exact hcreated.bind fun _ _ => ⟨_, rfl⟩

section Active

variable {draft_id : String} {row : WorkflowDraftRow} (hread : DraftsRead registry)
  (hone : ∀ draft_id draft_id' row row', registry.drafts.get? draft_id = some row →
    registry.drafts.get? draft_id' = some row' → row.workflow_key = row'.workflow_key → draft_id = draft_id')
  (hrow : registry.drafts.get? draft_id = some row)

include hread hone hrow

theorem import_accepted_changed (hfresh : FreshTokens drawn registry)
    (hfits : row.next_member_sequence ≤ backend.integer_column_max) (hkey : row.workflow_key = workflow.id.val)
    (hchanged : row.content_hash ≠ canonical_workflow_hash sha256 workflow) :
    AcceptedWithRoom backend workflow (registry.import_workflow_draft backend sha256 drawn workflow
      (some row.etag)) := by
  unfold import_workflow_draft
  rw [← hkey, active_draft_row_found hread hone hrow, ok_bind]
  dsimp only
  rw [if_neg (not_not.mpr rfl), if_neg hchanged]
  refine (replace_draft_content_accepted hfresh hread hfits hrow hkey.symm).bind fun replaced hreplaced => ?_
  obtain ⟨receipt, changed⟩ := replaced
  obtain ⟨-, hstep⟩ := replace_draft_content_eq_ok hrow hreplaced
  have hcontent : (row.replaced sha256 drawn workflow (max row.next_member_sequence
      (next_workflow_member_sequence workflow))).workflow = .ok workflow :=
    read_persisted_workflow_eq_ok.mpr ⟨NormalizedWorkflow.model_validate_dump workflow, hkey.symm⟩
  obtain ⟨draft, hdraft⟩ := @map_workflow_draft_readback_eq_ok workflow draft_id _ hcontent
  refine ⟨_, bind_eq_ok_iff.mpr ⟨draft, ?_, rfl⟩⟩
  rw [hstep.result, read_workflow_draft, Table.get?_set_self]
  exact hdraft

theorem import_accepted_same (hkey : row.workflow_key = workflow.id.val)
    (hsame : row.content_hash = canonical_workflow_hash sha256 workflow) :
    ∃ result, registry.import_workflow_draft backend sha256 drawn workflow (some row.etag) = .ok result := by
  obtain ⟨content, hcontent⟩ := hread draft_id row hrow
  obtain ⟨draft, hdraft⟩ := @map_workflow_draft_readback_eq_ok content draft_id _ hcontent
  unfold import_workflow_draft
  rw [← hkey, active_draft_row_found hread hone hrow, ok_bind]
  dsimp only
  rw [if_neg (not_not.mpr rfl), if_pos hsame]
  exact ⟨_, bind_eq_ok_iff.mpr ⟨draft, hdraft, rfl⟩⟩

theorem open_accepted_active :
    ∃ result, registry._open_existing_workflow_draft backend sha256 drawn row.workflow_key = .ok result := by
  obtain ⟨content, hcontent⟩ := hread draft_id row hrow
  obtain ⟨draft, hdraft⟩ := @map_workflow_draft_readback_eq_ok content draft_id _ hcontent
  unfold _open_existing_workflow_draft
  rw [active_draft_row_found hread hone hrow, ok_bind]
  exact ⟨_, bind_eq_ok_iff.mpr ⟨draft, hdraft, rfl⟩⟩

end Active

theorem open_accepted_published (hfresh : FreshTokens drawn registry) {revision_no : Nat}
    {published : PublishedWorkflowRevision}
    (hfree : ∀ draft_id row, registry.drafts.get? draft_id = some row → row.workflow_key ≠ workflow_id)
    (hcurrent : registry.current_revision_no workflow_id = some revision_no)
    (hpublished : registry.read_published_workflow_revision workflow_id revision_no = .ok published)
    (hid : published.workflow.id.val = workflow_id) :
    AcceptedWithRoom backend published.workflow
      (registry._open_existing_workflow_draft backend sha256 drawn workflow_id) := by
  unfold _open_existing_workflow_draft
  rw [active_draft_row_free hfree, ok_bind]
  have hfst := @acquire_workflow_owner_fst registry workflow_id
  rw [hcurrent] at hfst
  have hread : (registry.acquire_workflow_owner workflow_id).2.read_published_workflow_revision workflow_id
    revision_no = .ok published := by
    rw [← hpublished, read_published_workflow_revision, read_published_workflow_revision, revision?, revision?,
      acquire_workflow_owner_revisions]
  have hdrafts : (registry.acquire_workflow_owner workflow_id).2.drafts = registry.drafts :=
    acquire_workflow_owner_drafts
  generalize registry.acquire_workflow_owner workflow_id = acquired at hfst hread hdrafts ⊢
  obtain ⟨current, owned⟩ := acquired
  obtain rfl : current = some revision_no := hfst
  dsimp only
  rw [hread, ok_bind]
  exact (insert_workflow_draft_accepted hfresh hdrafts (hid ▸ hfree) _).bind fun _ _ => ⟨_, rfl⟩

theorem create_accepted (hfresh : FreshTokens drawn registry) {id : Contracts.Identifier}
    {description : NonblankText 1024} {note : Option (BoundedText 8192)} {lead : Option NewMember}
    (hbuild : build_new_workflow id description note lead = .ok workflow)
    (hfree : ∀ draft_id row, registry.drafts.get? draft_id = some row → row.workflow_key ≠ workflow.id.val)
    (hcurrent : registry.current_revision_no workflow.id.val = none) :
    AcceptedWithRoom backend workflow (registry.create_workflow_draft backend sha256 drawn id description
      note lead) := by
  have hcreated : AcceptedWithRoom backend workflow
    (registry._create_new_workflow_draft backend sha256 drawn workflow) := by
    unfold _create_new_workflow_draft
    rw [active_draft_row_free hfree, ok_bind]
    have hfst := @acquire_workflow_owner_fst registry workflow.id.val
    rw [hcurrent] at hfst
    dsimp only
    rw [hfst]
    exact insert_workflow_draft_accepted hfresh acquire_workflow_owner_drafts hfree _
  unfold create_workflow_draft
  rw [hbuild]
  exact hcreated.bind fun _ _ => ⟨_, rfl⟩

section Revisions

private theorem revision_ids {store : WorkflowStore} (h : (workflow_authoring backend sha256).Reachable store) :
    ∀ row ∈ store.registry.revisions, ∃ content : NormalizedWorkflow,
      row.content_json = content.dump ∧ content.id.val = row.workflow_key := by
  refine h.invariant (P := fun store => ∀ row ∈ store.registry.revisions, ∃ content : NormalizedWorkflow,
    row.content_json = content.dump ∧ content.id.val = row.workflow_key) ?_ ?_
  · rintro store rfl row hrow
    cases hrow
  · intro transaction store after hold hcommit
    have hmoves := commit_moves hcommit
    generalize after.registry = registry at hmoves
    induction hmoves with
    | refl => exact hold
    | tail _ move ih =>
      cases move with
      | kept revisions current => rwa [revisions]
      | removed workflow_id revisions current => rwa [revisions]
      | published publication =>
        rcases publication.revisions with hsame | ⟨row, happended, -, hkey, -, -, -, hcontent⟩
        · rwa [hsame]
        · intro stored hstored
          rw [happended, List.mem_append, List.mem_singleton] at hstored
          rcases hstored with hstored | rfl
          · exact ih stored hstored
          · exact ⟨_, hcontent, hkey.symm⟩

/-- The current revision of a Workflow reads back. -/
theorem current_revision_reads {store : WorkflowStore} (h : (workflow_authoring backend sha256).Reachable store)
    {revision_no : Nat} (hcurrent : store.registry.current_revision_no workflow_id = some revision_no) :
    ∃ published, store.registry.read_published_workflow_revision workflow_id revision_no = .ok published ∧
      published.workflow.id.val = workflow_id := by
  obtain ⟨row, hmem, hnumber⟩ := (history_invariant h).current workflow_id revision_no hcurrent
  obtain ⟨hstored, hkey⟩ := List.mem_filter.mp hmem
  unfold read_published_workflow_revision revision?
  cases hfind : store.registry.revisions.find? (fun revision =>
      revision.workflow_key = workflow_id ∧ revision.revision_no = revision_no) with
  | none => exact absurd (decide_eq_true ⟨of_decide_eq_true hkey, hnumber⟩) (List.find?_eq_none.mp hfind row hstored)
  | some found =>
    obtain ⟨content, hcontent, hid⟩ := revision_ids h found (List.mem_of_find?_eq_some hfind)
    have hfound := List.find?_some hfind
    simp only [decide_eq_true_eq] at hfound
    have hread : read_persisted_workflow found.content_json found.workflow_key "published Workflow" = .ok content :=
      read_persisted_workflow_eq_ok.mpr ⟨by rw [hcontent, NormalizedWorkflow.model_validate_dump], hid⟩
    exact ⟨_, bind_eq_ok_iff.mpr ⟨content, hread, rfl⟩, hid.trans hfound.1⟩

end Revisions

variable {store after later : WorkflowStore} {transaction : WorkflowTransaction}

/-- A transaction adds Members to a draft under identifiers that it allocates. -/
def Allocates (backend : Dialect) (sha256 : String → BitVec 256) (transaction : WorkflowTransaction)
    (store after : WorkflowStore) (draft_id : String) (allocated : List String) : Prop :=
  ∃ etag parent_member_id member result row,
    transaction.request = .edit_draft draft_id etag (.add_member parent_member_id member) ∧
    transaction.serve backend sha256 store = (.ok (.edited result), after) ∧
    store.registry.drafts.get? draft_id = some row ∧
    allocated = (DraftOperation.add_member parent_member_id member).allocated allocate_member_id
      row.next_member_sequence

/-- The numbers of the Members of drafts in one reachable state, for every transaction that may come next: opening or
    importing a Workflow is accepted exactly when the column has room for the number after those of its Members. -/
structure DraftNumbers (backend : Dialect) (sha256 : String → BitVec 256) (store : WorkflowStore) : Prop where
  stored : ∀ draft_id row, store.registry.drafts.get? draft_id = some row →
    row.next_member_sequence ≤ backend.integer_column_max ∧
      ∃ content, row.workflow = .ok content ∧ NumbersBelow row.next_member_sequence content.lead
  added : ∀ (transaction : WorkflowTransaction) after draft_id allocated,
    Allocates backend sha256 transaction store after draft_id allocated →
    ∃ row current changed updated, store.registry.drafts.get? draft_id = some row ∧ row.workflow = .ok current ∧
      after.registry.drafts.get? draft_id = some changed ∧ changed.workflow = .ok updated ∧
      (updated.lead.all_fields.map (·.id.val)).Perm (current.lead.all_fields.map (·.id.val) ++ allocated) ∧
      (current.lead.all_fields.map (·.id.val) ++ allocated).Nodup
  never_again : ∀ (transaction : WorkflowTransaction) after draft_id allocated,
    (workflow_authoring backend sha256).commit transaction store after →
    Allocates backend sha256 transaction store after draft_id allocated →
    ∀ later, (workflow_authoring backend sha256).Path after later →
    ∀ (again : WorkflowTransaction) last allocated', Allocates backend sha256 again later last draft_id allocated' →
      allocated.Disjoint allocated'
  opened : ∀ (transaction : WorkflowTransaction) workflow_id, transaction.Fresh store →
    transaction.request = .open_draft workflow_id →
    (∀ draft_id row, store.registry.drafts.get? draft_id = some row → row.workflow_key = workflow_id →
        ∃ reply, (transaction.serve backend sha256 store).1 = .ok reply) ∧
      ((∀ draft_id row, store.registry.drafts.get? draft_id = some row → row.workflow_key ≠ workflow_id) →
        ∀ revision_no, store.registry.current_revision_no workflow_id = some revision_no →
        ∃ published, store.registry.read_published_workflow_revision workflow_id revision_no = .ok published ∧
          AcceptedWithRoom backend published.workflow (transaction.serve backend sha256 store).1)
  created : ∀ (transaction : WorkflowTransaction) id description note lead workflow, transaction.Fresh store →
    transaction.request = .create_draft id description note lead →
    build_new_workflow id description note lead = .ok workflow →
    (∀ draft_id row, store.registry.drafts.get? draft_id = some row → row.workflow_key ≠ workflow.id.val) →
    store.registry.current_revision_no workflow.id.val = none →
    AcceptedWithRoom backend workflow (transaction.serve backend sha256 store).1
  imported : ∀ (transaction : WorkflowTransaction) workflow etag, transaction.Fresh store →
    transaction.request = .import_draft workflow etag →
    ((∀ draft_id row, store.registry.drafts.get? draft_id = some row → row.workflow_key ≠ workflow.id.val) →
        AcceptedWithRoom backend workflow (transaction.serve backend sha256 store).1) ∧
      ∀ draft_id row, store.registry.drafts.get? draft_id = some row → row.workflow_key = workflow.id.val →
        etag = some row.etag →
        (row.content_hash = canonical_workflow_hash sha256 workflow →
            ∃ reply, (transaction.serve backend sha256 store).1 = .ok reply) ∧
          (row.content_hash ≠ canonical_workflow_hash sha256 workflow →
            AcceptedWithRoom backend workflow (transaction.serve backend sha256 store).1)

/-- An addition to a draft, its row and the numbers that it draws. -/
private theorem allocates_eq {draft_id : String} {allocated : List String}
    (h : Allocates backend sha256 transaction store after draft_id allocated) :
    ∃ row changed current updated operation next, store.registry.drafts.get? draft_id = some row ∧
      row.workflow = .ok current ∧ after.registry.drafts.get? draft_id = some changed ∧ changed.workflow = .ok updated ∧
      (∃ parent_member_id member, operation = DraftOperation.add_member parent_member_id member) ∧
      edit_normalized_workflow allocate_member_id row.next_member_sequence current operation = .ok (updated, next) ∧
      allocated = operation.allocated allocate_member_id row.next_member_sequence ∧
      next ≤ changed.next_member_sequence := by
  obtain ⟨etag, parent_member_id, member, result, row, hrequest, hserve, hrow, hallocated⟩ := h
  have hoperation := WorkflowTransaction.serve_eq_ok hserve
  rw [hrequest] at hoperation
  obtain ⟨edited, hedited, -⟩ := reply_eq_ok hoperation
  obtain ⟨row', current, updated, next, hrow', -, hcurrent, hedit, -, -, hreplaced⟩ := edit_workflow_draft_eq_ok hedited
  obtain rfl := Option.some.inj (hrow.symm.trans hrow')
  refine ⟨row, row.replaced sha256 transaction.drawn updated (max row.next_member_sequence next), current,
    updated, _, next,
    hrow, hcurrent, ?_, ?_, ⟨parent_member_id, member, rfl⟩, hedit, hallocated,
      le_max_right row.next_member_sequence next⟩
  · rw [hreplaced.result, Table.get?_set_self]
  · exact read_persisted_workflow_eq_ok.mpr ⟨NormalizedWorkflow.model_validate_dump updated, hreplaced.identity⟩

private theorem allocated_never_again {draft_id : String} {allocated allocated' : List String}
    (h : (workflow_authoring backend sha256).Reachable store)
    (hcommit : (workflow_authoring backend sha256).commit transaction store after)
    (hallocates : Allocates backend sha256 transaction store after draft_id allocated)
    (hpath : (workflow_authoring backend sha256).Path after later) {again : WorkflowTransaction} {last : WorkflowStore}
    (hagain : Allocates backend sha256 again later last draft_id allocated') : allocated.Disjoint allocated' := by
  obtain ⟨row, changed, current, updated, operation, next, hrow, -, hchanged, -, -, hedit, rfl, hnext⟩ :=
    allocates_eq hallocates
  obtain ⟨row', _, _, _, operation', _, hrow', -, -, -, -, -, rfl, -⟩ := allocates_eq hagain
  obtain ⟨earlier, hearlier, rfl⟩ := ((number_invariant h).drafts draft_id row hrow).drawn
  have hdrawn : earlier ∈ after.drawn := by
    rw [(commit_number_move hcommit).1]
    exact List.mem_cons_of_mem _ hearlier
  obtain ⟨middle, hmiddle, hle⟩ := path_sequence hpath hdrawn hrow'
  obtain rfl := Option.some.inj (hchanged.symm.trans hmiddle)
  obtain rfl := edited_next hedit
  rw [allocated_eq, allocated_eq]
  intro id hid hid'
  obtain ⟨number, hnumber, rfl⟩ := List.mem_map.mp hid
  obtain ⟨number', hnumber', heq⟩ := List.mem_map.mp hid'
  obtain rfl := allocate_member_id_injective heq
  -- the later numbers start where the earlier ones have ended
  have hlast := (List.mem_range'_1.mp hnumber).2
  have hfirst := (List.mem_range'_1.mp hnumber').1
  omega

theorem draft_member_numbers (h : (workflow_authoring backend sha256).Reachable store) :
    DraftNumbers backend sha256 store := by
  have hnumbers := number_invariant h
  have hone := (draft_invariant h).one_draft
  have hread : DraftsRead store.registry := fun draft_id row hrow => by
    obtain ⟨content, hcontent, -⟩ := (hnumbers.drafts draft_id row hrow).content.read
    exact ⟨content, hcontent⟩
  refine ⟨fun draft_id row hrow => ?_, fun transaction after draft_id allocated hallocates => ?_,
    fun transaction after draft_id allocated hcommit hallocates later hpath again last allocated' hagain =>
      allocated_never_again h hcommit hallocates hpath hagain,
    fun transaction workflow_id hfresh hrequest => ?_, fun transaction id description note lead workflow hfresh hrequest
      hbuild hfree hcurrent => ?_, fun transaction workflow etag hfresh hrequest => ?_⟩
  · obtain ⟨-, hfits, hcontent⟩ := hnumbers.drafts draft_id row hrow
    obtain ⟨content, hcontent, -, hbelow⟩ := hcontent.read
    exact ⟨hfits, content, hcontent, hbelow⟩
  · obtain ⟨row, changed, current, updated, operation, next, hrow, hcurrent, hchanged, hupdated,
      ⟨parent_member_id, member, rfl⟩, hedit, rfl, -⟩ := allocates_eq hallocates
    exact ⟨row, current, changed, updated, hrow, hcurrent, hchanged, hupdated, added_ids_perm hedit,
      added_ids_fresh hedit⟩
  · rw [serve_fst, hrequest]
    refine ⟨fun draft_id row hrow hkey => ?_, fun hfree revision_no hcurrent => ?_⟩
    · obtain ⟨result, hresult⟩ := @open_accepted_active backend sha256 transaction.drawn _ _ _ hread hone hrow
      subst hkey
      exact ⟨_, by rw [WorkflowRequest.operation, hresult]; rfl⟩
    · obtain ⟨published, hpublished, hid⟩ := current_revision_reads h hcurrent
      refine ⟨published, hpublished, AcceptedWithRoom.map (AcceptedWithRoom.map ?_ _) _⟩
      exact open_accepted_published (fresh_tokens h hfresh) hfree hcurrent hpublished hid
  · rw [serve_fst, hrequest]
    exact ((create_accepted (fresh_tokens h hfresh) hbuild hfree hcurrent).map _).map _
  · rw [serve_fst, hrequest]
    refine ⟨fun hfree => ((import_accepted_free (fresh_tokens h hfresh) hfree etag).map _).map _,
      fun draft_id row hrow hkey hetag => ?_⟩
    subst hetag
    refine ⟨fun hsame => ?_, fun hchanged => ?_⟩
    · obtain ⟨result, hresult⟩ := @import_accepted_same backend sha256 transaction.drawn _ _ _ _ hread hone
        hrow hkey hsame
      exact ⟨_, by rw [WorkflowRequest.operation, hresult]; rfl⟩
    · exact ((import_accepted_changed hread hone hrow (fresh_tokens h hfresh)
        (hnumbers.drafts draft_id row hrow).fits hkey hchanged).map _).map _

/-- After the addition of a second Member the team's draft goes on with number three. -/
theorem draft_member_numbers_team :
    ∃ store, (store.registry.drafts.get? "workflow-draft.a").map (·.next_member_sequence) = some 3 ∧
      DraftNumbers .sqlite team_sha256 store := by
  have hrun : (WorkflowStore.served .sqlite team_sha256 { registry := {}, drawn := [] } [team_creation, team_edit]).any
      (fun store => (store.registry.drafts.get? "workflow-draft.a").map (·.next_member_sequence) = some 3) = true := by
    decide +kernel
  obtain ⟨store, hstore, hnumber⟩ := (Option.any_eq_true _ _).mp hrun
  exact ⟨store, of_decide_eq_true hnumber, draft_member_numbers
    (WorkflowStore.served_reachable ⟨[], .start rfl⟩ hstore)⟩

/-- The identifier with the last number that the column stores. -/
def last_member_id : Dialect → Contracts.Identifier
  | .sqlite => ⟨"member-9223372036854775807", by decide⟩
  | .postgresql => ⟨"member-2147483647", by decide⟩

def last_number_team (backend : Dialect) : NormalizedWorkflow where
  id := ⟨"team", team_identifier⟩
  description := ⟨"Does the work.", work_description⟩
  note := none
  lead := .mk {
    id := last_member_id backend, title := none, description := none, instruction := none
    provider := none, capabilities := none } none
  child_limit := rfl

/-- The import of an accepted Workflow overflows the column of the next member sequence. -/
def ImportOverflows (backend : Dialect) (workflow : NormalizedWorkflow) : Prop :=
  (normalize_workflow_object workflow.dump).toOption.map (·.dump) = some workflow.dump ∧
    ∃ (store : WorkflowStore) (transaction : WorkflowTransaction),
      (workflow_authoring backend team_sha256).Reachable store ∧ transaction.Fresh store ∧
      transaction.request = .import_draft workflow none ∧
      (∀ draft_id row, store.registry.drafts.get? draft_id = some row → row.workflow_key ≠ workflow.id.val) ∧
      (transaction.serve backend team_sha256 store).1 = .error .overflow

private theorem import_overflows {backend : Dialect} {workflow : NormalizedWorkflow}
    (hnormal : (normalize_workflow_object workflow.dump).toOption.map (·.dump) = some workflow.dump)
    (hserved : (WorkflowTransaction.serve backend team_sha256
      { request := .import_draft workflow none, drawn := ⟨"a", "a", "a"⟩ }
      { registry := {}, drawn := [] }).1 = .error .overflow) : ImportOverflows backend workflow := by
  refine ⟨hnormal, { registry := {}, drawn := [] },
    { request := .import_draft workflow none, drawn := ⟨"a", "a", "a"⟩ },
    ⟨[], .start rfl⟩, fun _ hmem => absurd hmem List.not_mem_nil, rfl, fun draft_id row hrow => ?_, hserved⟩
  rw [Table.get?_empty] at hrow
  cases hrow

theorem last_number_import_overflows : ImportOverflows .sqlite (last_number_team .sqlite) ∧
    ImportOverflows .postgresql (last_number_team .postgresql) :=
  ⟨import_overflows (by decide +kernel) rfl, import_overflows (by decide +kernel) rfl⟩

end OhMySubagents.WorkflowAuthoring

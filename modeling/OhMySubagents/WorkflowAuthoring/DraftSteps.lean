import OhMySubagents.WorkflowAuthoring.PublicationSteps

open Relational JsonData

namespace OhMySubagents.WorkflowAuthoring

open Workflows

variable {backend : Dialect} {sha256 : String → BitVec 256} {drawn : DrawnTokens}

theorem read_persisted_workflow_eq_ok {payload : JsonData} {expected_workflow_id source : String}
    {workflow : NormalizedWorkflow} :
    read_persisted_workflow payload expected_workflow_id source = .ok workflow ↔
      NormalizedWorkflow.model_validate payload = some workflow ∧ workflow.id.val = expected_workflow_id := by
  unfold read_persisted_workflow validate_persisted_workflow_identity
  cases NormalizedWorkflow.model_validate payload with
  | none => simp
  | some read =>
    dsimp only
    split
    · next h => simpa [bind, Except.bind, pure, Except.pure] using fun heq : read = workflow => heq ▸ h
    · next h =>
      simp only [bind, Except.bind, reduceCtorEq, Option.some.injEq, false_iff, not_and]
      rintro rfl
      exact h

theorem stale_draft_ne_ok {α : Type} {draft_id : String} {row : WorkflowDraftRow} {result : α} :
    stale_draft draft_id row ≠ .ok result := by
  intro h
  obtain ⟨current, -, h⟩ := bind_eq_ok_iff.mp h
  cases h

namespace WorkflowRegistry

variable {registry registry' : WorkflowRegistry} {draft_id expected_etag receipt_id workflow_id : String}
  {row : WorkflowDraftRow} {workflow : NormalizedWorkflow}

theorem current_draft_row_eq_ok (h : registry._current_draft_row draft_id expected_etag = .ok row) :
    registry.drafts.get? draft_id = some row ∧ row.etag = expected_etag := by
  unfold _current_draft_row at h
  obtain ⟨found, hfound, h⟩ := bind_eq_ok_iff.mp h
  unfold _draft_row at hfound
  cases hrow : registry.drafts.get? draft_id with
  | none =>
    rw [hrow] at hfound
    cases hfound
    cases h
  | some stored =>
    rw [hrow] at hfound
    obtain ⟨content, -, hfound⟩ := bind_eq_ok_iff.mp hfound
    cases hfound
    dsimp only at h
    split at h
    · exact absurd h stale_draft_ne_ok
    · next hetag =>
      cases h
      exact ⟨rfl, not_not.mp hetag⟩

theorem active_draft_row_eq_some (h : registry._active_draft_row workflow_id = .ok (some (draft_id, row))) :
    registry.drafts.get? draft_id = some row ∧ row.workflow_key = workflow_id := by
  unfold _active_draft_row at h
  split at h
  · cases h
  · next hsome =>
    obtain ⟨content, -, h⟩ := bind_eq_ok_iff.mp h
    cases h
    obtain ⟨hrow, hkey⟩ := Table.mem_select_iff.mp (List.mem_of_head? hsome)
    exact ⟨hrow, of_decide_eq_true hkey⟩

/-- What the insertion of a draft does to a registry. -/
structure Inserted (backend : Dialect) (sha256 : String → BitVec 256) (drawn : DrawnTokens)
    (registry registry' : WorkflowRegistry) (workflow : NormalizedWorkflow) (base_revision_no : Option Nat) : Prop where
  free : ∀ draft_id row, registry.drafts.get? draft_id = some row → row.workflow_key ≠ workflow.id.val
  fresh : registry.drafts.get? (new_workflow_draft_id drawn) = none
  fits : next_workflow_member_sequence workflow ≤ backend.integer_column_max
  result : registry' = { (registry.acquire_workflow_owner workflow.id.val).2 with
    drafts := registry.drafts.set (new_workflow_draft_id drawn) (new_draft_row sha256 drawn workflow base_revision_no) }

theorem require_column_eq_ok {value : Nat} {u : Unit} :
    require_column backend value = .ok u ↔ value ≤ backend.integer_column_max := by
  unfold require_column
  split <;> simp_all

theorem insert_workflow_draft_eq_ok {base_revision_no : Option Nat} {draft : WorkflowDraftReadback}
    (h : (registry.acquire_workflow_owner workflow.id.val).2._insert_workflow_draft backend sha256 drawn workflow
      base_revision_no = .ok (draft, registry')) :
    Inserted backend sha256 drawn registry registry' workflow base_revision_no ∧
      map_workflow_draft_readback (new_workflow_draft_id drawn) (new_draft_row sha256 drawn workflow base_revision_no) =
        .ok draft := by
  unfold _insert_workflow_draft at h
  obtain ⟨u, hfits, h⟩ := bind_eq_ok_iff.mp h
  split at h
  · split at h <;> cases h
  · next drafts hinsert =>
    obtain ⟨read, hread, h⟩ := bind_eq_ok_iff.mp h
    cases h
    obtain ⟨hany, hfresh, rfl⟩ := Table.insertUnique_eq_some.mp hinsert
    rw [acquire_workflow_owner_drafts] at hany hfresh
    refine ⟨⟨fun draft_id row hrow hkey => ?_, hfresh, require_column_eq_ok.mp hfits, ?_⟩, hread⟩
    · have hconflict := Table.any_eq_false_iff.mp hany draft_id row hrow
      simp [WorkflowDraftRow.conflicts, new_draft_row, hkey] at hconflict
    · rw [acquire_workflow_owner_drafts]

/-- What an accepted replacement of a draft's content does to a registry. -/
structure Replaced (backend : Dialect) (sha256 : String → BitVec 256) (drawn : DrawnTokens)
    (registry registry' : WorkflowRegistry)
    (draft_id : String) (row : WorkflowDraftRow) (workflow : NormalizedWorkflow) (sequence : Nat) : Prop where
  identity : workflow.id.val = row.workflow_key
  fresh : registry.undo_receipts.get? (new_workflow_undo_receipt_id drawn) = none
  fits : sequence ≤ backend.integer_column_max
  result : registry' = { registry with
    drafts := registry.drafts.set draft_id (row.replaced sha256 drawn workflow sequence)
    undo_receipts := registry.undo_receipts.set (new_workflow_undo_receipt_id drawn) (row.undo_receipt drawn draft_id) }

private theorem update_draft_eq_ok {change : WorkflowDraftRow → WorkflowDraftRow} {changed : Option WorkflowRegistry}
    (h : registry.update_draft draft_id expected_etag change = .ok changed)
    (hrow : registry.drafts.get? draft_id = some row) (hetag : row.etag = expected_etag) :
    changed = some { registry with drafts := registry.drafts.set draft_id (change row) } := by
  unfold update_draft at h
  rw [Table.updateWhere_eq_some.mpr ⟨row, hrow, decide_eq_true hetag, rfl⟩] at h
  dsimp only at h
  split at h <;> cases h
  rfl

theorem replace_draft_content_eq_ok {next_member_sequence : Option Nat} {receipt : String}
    (hrow : registry.drafts.get? draft_id = some row)
    (h : registry._replace_draft_content backend sha256 drawn draft_id row workflow next_member_sequence =
      .ok (receipt, registry')) :
    receipt = new_workflow_undo_receipt_id drawn ∧
      Replaced backend sha256 drawn registry registry' draft_id row workflow (max row.next_member_sequence
        (next_member_sequence.getD (next_workflow_member_sequence workflow))) := by
  unfold _replace_draft_content at h
  obtain ⟨u, hidentity, h⟩ := bind_eq_ok_iff.mp h
  obtain ⟨content, -, h⟩ := bind_eq_ok_iff.mp h
  obtain ⟨u', hfits, h⟩ := bind_eq_ok_iff.mp h
  obtain ⟨changed, hchanged, h⟩ := bind_eq_ok_iff.mp h
  obtain rfl := update_draft_eq_ok hchanged hrow rfl
  obtain ⟨receipted, hreceipted, h⟩ := bind_eq_ok_iff.mp h
  cases h
  unfold validate_persisted_workflow_identity at hidentity
  split at hidentity
  · next hid =>
    unfold add_undo_receipt at hreceipted
    split at hreceipted
    · cases hreceipted
    · next receipts hinsert =>
      cases hreceipted
      obtain ⟨-, hfresh, rfl⟩ := Table.insertUnique_eq_some.mp hinsert
      exact ⟨rfl, hid, hfresh, require_column_eq_ok.mp hfits, rfl⟩
  · cases hidentity

theorem read_workflow_draft_draft_id {draft : WorkflowDraftReadback}
    (h : registry.read_workflow_draft draft_id = .ok draft) : draft.draft_id = draft_id := by
  unfold read_workflow_draft at h
  split at h
  · cases h
  · obtain ⟨content, -, h⟩ := bind_eq_ok_iff.mp h
    cases h
    rfl

theorem open_existing_workflow_draft_eq_ok {result : WorkflowDraftOpenResult}
    (h : registry._open_existing_workflow_draft backend sha256 drawn workflow_id = .ok (result, registry')) :
    (result.is_created = false ∧ registry' = registry) ∨
      ∃ workflow base_revision_no, result.is_created = true ∧
        Inserted backend sha256 drawn registry registry' workflow base_revision_no := by
  unfold _open_existing_workflow_draft at h
  obtain ⟨active, hactive, h⟩ := bind_eq_ok_iff.mp h
  cases active with
  | some active =>
    obtain ⟨read, -, h⟩ := bind_eq_ok_iff.mp h
    cases h
    exact .inl ⟨rfl, rfl⟩
  | none =>
    generalize howned : registry.acquire_workflow_owner workflow_id = acquired at h
    obtain ⟨current, owned⟩ := acquired
    obtain rfl : (registry.acquire_workflow_owner workflow_id).2 = owned := by rw [howned]
    cases current with
    | none => cases h
    | some current_revision_no =>
      obtain ⟨published, hpublished, h⟩ := bind_eq_ok_iff.mp h
      obtain ⟨⟨draft, inserted⟩, hinserted, h⟩ := bind_eq_ok_iff.mp h
      cases h
      have hkey : published.workflow.id.val = workflow_id := by
        unfold read_published_workflow_revision at hpublished
        split at hpublished
        · cases hpublished
        · next row hrow =>
          obtain ⟨content, hcontent, hpublished⟩ := bind_eq_ok_iff.mp hpublished
          cases hpublished
          have hfound := List.find?_some hrow
          simp only [decide_eq_true_eq] at hfound
          exact (read_persisted_workflow_eq_ok.mp hcontent).2.trans hfound.1
      rw [← hkey] at hinserted
      exact .inr ⟨_, _, rfl, (insert_workflow_draft_eq_ok hinserted).1⟩

theorem create_workflow_draft_eq_ok {id : Contracts.Identifier} {description : NonblankText 1024}
    {note : Option (BoundedText 8192)} {lead : Option NewMember} {result : WorkflowDraftOpenResult}
    (h : registry.create_workflow_draft backend sha256 drawn id description note lead = .ok (result, registry')) :
    ∃ workflow, build_new_workflow id description note lead = .ok workflow ∧ result.is_created = true ∧
      Inserted backend sha256 drawn registry registry' workflow none := by
  unfold create_workflow_draft at h
  obtain ⟨workflow, hworkflow, h⟩ := bind_eq_ok_iff.mp h
  obtain ⟨⟨draft, created⟩, hcreated, h⟩ := bind_eq_ok_iff.mp h
  cases h
  refine ⟨workflow, ?_, rfl, ?_⟩
  · cases hbuild : build_new_workflow id description note lead with
    | ok built =>
      rw [hbuild] at hworkflow
      cases hworkflow
      rfl
    | error error =>
      rw [hbuild] at hworkflow
      cases hworkflow
  · unfold _create_new_workflow_draft at hcreated
    obtain ⟨active, -, hcreated⟩ := bind_eq_ok_iff.mp hcreated
    cases active with
    | some active => cases hcreated
    | none =>
      dsimp only at hcreated
      split at hcreated
      · cases hcreated
      · exact (insert_workflow_draft_eq_ok hcreated).1

/-- An import creates a draft, leaves the one that has the content already as it is, or replaces its content. -/
theorem import_workflow_draft_eq_ok {etag : Option String} {result : WorkflowDraftImportResult}
    (h : registry.import_workflow_draft backend sha256 drawn workflow etag = .ok (result, registry')) :
    (result.is_created = true ∧ result.undo_receipt = none ∧
        ∃ base_revision_no, Inserted backend sha256 drawn registry registry' workflow base_revision_no) ∨
      ∃ draft_id row, result.is_created = false ∧ registry.drafts.get? draft_id = some row ∧
        row.workflow_key = workflow.id.val ∧ etag = some row.etag ∧
        ((row.content_hash = canonical_workflow_hash sha256 workflow ∧ result.undo_receipt = none ∧
          registry' = registry) ∨ row.content_hash ≠ canonical_workflow_hash sha256 workflow ∧
          result.undo_receipt = some (new_workflow_undo_receipt_id drawn) ∧ result.draft.draft_id = draft_id ∧
          Replaced backend sha256 drawn registry registry' draft_id row workflow
            (max row.next_member_sequence (next_workflow_member_sequence workflow))) := by
  unfold import_workflow_draft at h
  obtain ⟨active, hactive, h⟩ := bind_eq_ok_iff.mp h
  match active with
  | none =>
    obtain ⟨⟨draft, created⟩, hcreated, h⟩ := bind_eq_ok_iff.mp h
    cases h
    unfold _create_workflow_draft at hcreated
    obtain ⟨active', hactive', hcreated⟩ := bind_eq_ok_iff.mp hcreated
    obtain rfl := Except.ok.inj (hactive.symm.trans hactive')
    exact .inl ⟨rfl, rfl, _, (insert_workflow_draft_eq_ok hcreated).1⟩
  | some (draft_id, existing) =>
    obtain ⟨hrow, hkey⟩ := active_draft_row_eq_some hactive
    dsimp only at h
    split at h
    · cases h
    · next expected =>
      split at h
      · exact absurd h stale_draft_ne_ok
      next hetag =>
      obtain rfl := not_not.mp hetag
      split at h
      · next hsame =>
        obtain ⟨draft, -, h⟩ := bind_eq_ok_iff.mp h
        cases h
        exact .inr ⟨draft_id, existing, rfl, hrow, hkey, rfl, .inl ⟨hsame, rfl, rfl⟩⟩
      · next hchanged =>
        obtain ⟨⟨receipt, replaced⟩, hreplaced, h⟩ := bind_eq_ok_iff.mp h
        obtain ⟨draft, hdraft, h⟩ := bind_eq_ok_iff.mp h
        cases h
        obtain ⟨rfl, hstep⟩ := replace_draft_content_eq_ok hrow hreplaced
        exact .inr ⟨draft_id, existing, rfl, hrow, hkey, rfl,
          .inr ⟨hchanged, rfl, read_workflow_draft_draft_id hdraft, hstep⟩⟩

/-- An edit changes the content that has the expected ETag. -/
theorem edit_workflow_draft_eq_ok {operation : DraftOperation} {result : WorkflowDraftMutationResult}
    (h : registry.edit_workflow_draft backend sha256 drawn draft_id expected_etag operation = .ok (result, registry')) :
    ∃ row current updated next_member_sequence, registry.drafts.get? draft_id = some row ∧ row.etag = expected_etag ∧
      row.workflow = .ok current ∧
      edit_normalized_workflow allocate_member_id row.next_member_sequence current operation =
        .ok (updated, next_member_sequence) ∧
      result.undo_receipt = new_workflow_undo_receipt_id drawn ∧ result.draft.draft_id = draft_id ∧
      Replaced backend sha256 drawn registry registry' draft_id row updated
        (max row.next_member_sequence next_member_sequence) := by
  unfold edit_workflow_draft at h
  obtain ⟨row, hrow, h⟩ := bind_eq_ok_iff.mp h
  obtain ⟨hrow, hetag⟩ := current_draft_row_eq_ok hrow
  obtain ⟨current, hcurrent, h⟩ := bind_eq_ok_iff.mp h
  obtain ⟨⟨updated, next_member_sequence⟩, hupdated, h⟩ := bind_eq_ok_iff.mp h
  obtain ⟨⟨receipt, replaced⟩, hreplaced, h⟩ := bind_eq_ok_iff.mp h
  obtain ⟨draft, hdraft, h⟩ := bind_eq_ok_iff.mp h
  cases h
  obtain ⟨rfl, hstep⟩ := replace_draft_content_eq_ok hrow hreplaced
  refine ⟨row, current, updated, next_member_sequence, hrow, hetag, hcurrent, ?_, rfl,
    read_workflow_draft_draft_id hdraft, hstep⟩
  cases hedit : edit_normalized_workflow allocate_member_id row.next_member_sequence current operation with
  | ok edited =>
    rw [hedit] at hupdated
    cases hupdated
    rfl
  | error error =>
    rw [hedit] at hupdated
    cases hupdated

/-- An undo uses an unused receipt whose ETag the draft still has. -/
theorem undo_workflow_draft_eq_ok {draft : WorkflowDraftReadback}
    (h : registry.undo_workflow_draft drawn draft_id expected_etag receipt_id = .ok (draft, registry')) :
    ∃ row receipt, registry.drafts.get? draft_id = some row ∧ row.etag = expected_etag ∧
      registry.undo_receipts.get? receipt_id = some receipt ∧ receipt.draft_id = draft_id ∧ receipt.consumed = false ∧
      receipt.expected_etag = expected_etag ∧
      registry' = { registry with
        undo_receipts := registry.undo_receipts.set receipt_id receipt.used
        drafts := registry.drafts.set draft_id (row.restored drawn receipt) } := by
  unfold undo_workflow_draft at h
  obtain ⟨row, hrow, h⟩ := bind_eq_ok_iff.mp h
  obtain ⟨hrow, hetag⟩ := current_draft_row_eq_ok hrow
  split at h
  · cases h
  next receipt hreceipt =>
  split at h
  · cases h
  next hunused =>
  rw [not_or, not_not, Bool.not_eq_true] at hunused
  split at h
  · exact absurd h stale_draft_ne_ok
  next hexpected =>
  obtain ⟨content, -, h⟩ := bind_eq_ok_iff.mp h
  rw [Table.updateWhere_eq_some.mpr ⟨receipt, hreceipt, by rw [hunused.2]; rfl, rfl⟩] at h
  obtain ⟨changed, hchanged, h⟩ := bind_eq_ok_iff.mp h
  obtain rfl := update_draft_eq_ok hchanged hrow hetag
  obtain ⟨read, -, h⟩ := bind_eq_ok_iff.mp h
  cases h
  exact ⟨row, receipt, hrow, hetag, hreceipt, hunused.1, hunused.2, (not_not.mp hexpected).trans hetag, rfl⟩

theorem discard_workflow_draft_eq_ok {u : Unit}
    (h : registry.discard_workflow_draft draft_id expected_etag = .ok (u, registry')) :
    ∃ row, registry.drafts.get? draft_id = some row ∧ row.etag = expected_etag ∧
      registry' = registry.delete_draft draft_id := by
  unfold discard_workflow_draft at h
  obtain ⟨row, hrow, h⟩ := bind_eq_ok_iff.mp h
  obtain ⟨hrow, hetag⟩ := current_draft_row_eq_ok hrow
  cases h
  exact ⟨row, hrow, hetag, rfl⟩

/-- A publication takes the content that has the expected ETag, normalizes it again and ends the draft. -/
theorem publish_workflow_draft_eq_ok {published : PublishedWorkflowRevision}
    (h : registry.publish_workflow_draft sha256 draft_id expected_etag = .ok (published, registry')) :
    ∃ row persisted workflow, registry.drafts.get? draft_id = some row ∧ row.etag = expected_etag ∧
      row.workflow = .ok persisted ∧ normalize_workflow_object persisted.dump = .ok workflow ∧
      (registry.delete_draft draft_id).publish_workflow_revision sha256 workflow .user true none none =
        .ok (published, registry') := by
  unfold publish_workflow_draft at h
  obtain ⟨row, hrow, h⟩ := bind_eq_ok_iff.mp h
  obtain ⟨hrow, hetag⟩ := current_draft_row_eq_ok hrow
  obtain ⟨persisted, hpersisted, h⟩ := bind_eq_ok_iff.mp h
  obtain ⟨workflow, hworkflow, h⟩ := bind_eq_ok_iff.mp h
  refine ⟨row, persisted, workflow, hrow, hetag, hpersisted, ?_, h⟩
  cases hnormal : normalize_workflow_object persisted.dump with
  | ok normal =>
    rw [hnormal] at hworkflow
    cases hworkflow
    rfl
  | error error =>
    rw [hnormal] at hworkflow
    cases hworkflow

/-- A removal ends the active draft, and the selection of a current revision. -/
theorem remove_workflow_eq_ok {u : Unit} (h : registry.remove_workflow workflow_id = .ok (u, registry')) :
    ((∃ draft_id row, registry.drafts.get? draft_id = some row ∧ row.workflow_key = workflow_id ∧
        registry'.drafts = (registry.delete_draft draft_id).drafts ∧
        registry'.undo_receipts = (registry.delete_draft draft_id).undo_receipts) ∨
      (registry'.drafts = registry.drafts ∧ registry'.undo_receipts = registry.undo_receipts ∧
        (registry.current_revision_no workflow_id).isSome)) ∧
      registry'.revisions = registry.revisions ∧
      ∀ key, registry'.current_revision_no key =
        if key = workflow_id then none else registry.current_revision_no key := by
  unfold remove_workflow at h
  obtain ⟨draft, hdraft, h⟩ := bind_eq_ok_iff.mp h
  generalize howned : registry.acquire_workflow_owner workflow_id = acquired at h
  obtain ⟨current, owned⟩ := acquired
  obtain rfl : registry.current_revision_no workflow_id = current := by rw [← acquire_workflow_owner_fst, howned]
  obtain rfl : (registry.acquire_workflow_owner workflow_id).2 = owned := by rw [howned]
  dsimp only at h
  split at h
  · cases h
  next hfound =>
  -- what is left is the owner's row, with or without its drafts
  generalize hdiscarded : draft.elim (registry.acquire_workflow_owner workflow_id).2
    (fun active => (registry.acquire_workflow_owner workflow_id).2.delete_draft active.1) = discarded at h
  have hdefinitions : discarded.definitions = (registry.acquire_workflow_owner workflow_id).2.definitions := by
    rw [← hdiscarded]
    cases draft <;> rfl
  have hrevisions : discarded.revisions = registry.revisions := by
    rw [← hdiscarded]
    cases draft <;> exact acquire_workflow_owner_revisions
  have hdrafts : (∃ draft_id row, registry.drafts.get? draft_id = some row ∧ row.workflow_key = workflow_id ∧
        discarded.drafts = (registry.delete_draft draft_id).drafts ∧
        discarded.undo_receipts = (registry.delete_draft draft_id).undo_receipts) ∨
      (discarded.drafts = registry.drafts ∧ discarded.undo_receipts = registry.undo_receipts ∧
        (registry.current_revision_no workflow_id).isSome) := by
    match draft with
    | none =>
      refine .inr ⟨?_, ?_, ?_⟩
      · rw [← hdiscarded, Option.elim_none, acquire_workflow_owner_drafts]
      · rw [← hdiscarded, Option.elim_none, acquire_workflow_owner_undo_receipts]
      · exact Option.isSome_iff_ne_none.mpr (by simpa using hfound)
    | some (draft_id, row) =>
      obtain ⟨hrow, hkey⟩ := active_draft_row_eq_some hdraft
      refine .inl ⟨draft_id, row, hrow, hkey, ?_, ?_⟩
      · rw [← hdiscarded, Option.elim_some, delete_draft, delete_draft, acquire_workflow_owner_drafts]
      · rw [← hdiscarded, Option.elim_some, delete_draft, delete_draft, acquire_workflow_owner_undo_receipts]
  have hcurrent : ∀ key, (discarded.definitions.get? key).join = registry.current_revision_no key := by
    intro key
    rw [hdefinitions]
    exact acquire_workflow_owner_current key
  split at h
  · cases h
    refine ⟨hdrafts, hrevisions, fun key => ?_⟩
    rw [← hcurrent, current_revision_no, Table.get?_set]
    split <;> rfl
  · next hnone =>
    have hfree : registry.current_revision_no workflow_id = none := by simpa using hnone
    split at h
    · cases h
      refine ⟨hdrafts, hrevisions, fun key => ?_⟩
      rw [← hcurrent, current_revision_no, Table.get?_delete]
      split <;> rfl
    · cases h
      refine ⟨hdrafts, hrevisions, fun key => ?_⟩
      rw [← hcurrent, current_revision_no]
      split
      · next hkey => rw [hkey, hcurrent, hfree]
      · rfl

end WorkflowRegistry

end OhMySubagents.WorkflowAuthoring

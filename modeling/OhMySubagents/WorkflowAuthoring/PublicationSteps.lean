import OhMySubagents.WorkflowAuthoring.Requests

open Relational JsonData

namespace OhMySubagents.WorkflowAuthoring

open Workflows

namespace WorkflowRegistry

variable {registry registry' : WorkflowRegistry} {workflow_id : String}

@[simp]
theorem acquire_workflow_owner_fst :
    (registry.acquire_workflow_owner workflow_id).1 = registry.current_revision_no workflow_id := by
  unfold acquire_workflow_owner current_revision_no
  split
  · next h => rw [h, Option.join_some]
  · next h => rw [h, Option.join_none]

@[simp]
theorem acquire_workflow_owner_revisions :
    (registry.acquire_workflow_owner workflow_id).2.revisions = registry.revisions := by
  unfold acquire_workflow_owner
  split <;> rfl

@[simp]
theorem acquire_workflow_owner_drafts :
    (registry.acquire_workflow_owner workflow_id).2.drafts = registry.drafts := by
  unfold acquire_workflow_owner
  split <;> rfl

@[simp]
theorem acquire_workflow_owner_undo_receipts :
    (registry.acquire_workflow_owner workflow_id).2.undo_receipts = registry.undo_receipts := by
  unfold acquire_workflow_owner
  split <;> rfl

/-- The owner's new row has no current revision. -/
@[simp]
theorem acquire_workflow_owner_current (key : String) :
    (registry.acquire_workflow_owner workflow_id).2.current_revision_no key = registry.current_revision_no key := by
  unfold acquire_workflow_owner current_revision_no
  split
  · rfl
  · next h =>
    dsimp only
    rw [Table.get?_set]
    split
    · next hkey => rw [hkey, h, Option.join_none, Option.join_some]
    · rfl

theorem acquire_workflow_owner_isSome :
    ((registry.acquire_workflow_owner workflow_id).2.definitions.get? workflow_id).isSome := by
  unfold acquire_workflow_owner
  split
  · next h => rw [h, Option.isSome_some]
  · rw [Table.get?_set_self, Option.isSome_some]

/-- What one publication does to a registry. -/
structure Publication (registry registry' : WorkflowRegistry) (workflow : NormalizedWorkflow) (content_hash : String)
    (provenance : WorkflowProvenance) (revision_no : Nat) (selected : Bool) : Prop where
  drafts : registry'.drafts = registry.drafts
  undo_receipts : registry'.undo_receipts = registry.undo_receipts
  published : ∃ row ∈ registry'.revisions, row.workflow_key = workflow.id.val ∧ row.content_hash = content_hash ∧
    row.provenance = provenance ∧ row.revision_no = revision_no
  revisions : registry'.revisions = registry.revisions ∨
    ∃ row, registry'.revisions = registry.revisions ++ [row] ∧ registry.revisions.any row.conflicts = false ∧
      row.workflow_key = workflow.id.val ∧ row.content_hash = content_hash ∧ row.provenance = provenance ∧
      row.revision_no = registry._next_revision_no workflow.id.val ∧ row.content_json = workflow.dump
  current : ∀ key, registry'.current_revision_no key =
    if selected ∧ key = workflow.id.val then some revision_no else registry.current_revision_no key

variable {workflow : NormalizedWorkflow} {content_hash : String} {provenance : WorkflowProvenance}
  {source_path : Option String} {revision_no : Nat}

private theorem matching_revision_published {matching : WorkflowRevisionRow}
    (h : registry._matching_revision workflow_id content_hash provenance = some matching) :
    matching ∈ registry.revisions ∧ matching.workflow_key = workflow_id ∧ matching.content_hash = content_hash ∧
      matching.provenance = provenance :=
  ⟨List.mem_of_find?_eq_some h, by simpa using List.find?_some h⟩

private theorem publication_of_matching {matching : WorkflowRevisionRow}
    (h : registry._matching_revision workflow.id.val content_hash provenance = some matching) :
    Publication registry registry workflow content_hash provenance matching.revision_no false := by
  obtain ⟨hmem, hkey, hhash, hprovenance⟩ := matching_revision_published h
  exact ⟨rfl, rfl, ⟨matching, hmem, hkey, hhash, hprovenance, rfl⟩, .inl rfl, fun key => by simp⟩

theorem allocate_revision_eq_ok {attempts : Nat}
    (h : registry.allocate_revision workflow content_hash provenance source_path attempts =
      .ok (revision_no, registry')) :
    Publication registry registry' workflow content_hash provenance revision_no false ∧
      registry'.definitions = registry.definitions := by
  induction attempts with
  | zero => cases h
  | succ attempts ih =>
    simp only [allocate_revision] at h
    split at h
    · next inserted hinsert =>
      cases h
      unfold insert_revision at hinsert
      split at hinsert
      · cases hinsert
      · next hfree =>
        obtain rfl := Option.some.inj hinsert
        refine ⟨⟨rfl, rfl, ?_, ?_, fun key => by simp [current_revision_no]⟩, rfl⟩
        · exact ⟨_, List.mem_append_right _ (List.mem_singleton.mpr rfl), rfl, rfl, rfl, rfl⟩
        · exact .inr ⟨_, rfl, Bool.eq_false_iff.mpr hfree, rfl, rfl, rfl, rfl, rfl⟩
    · split at h
      · next matching hmatching =>
        cases h
        exact ⟨publication_of_matching hmatching, rfl⟩
      · exact ih h

theorem matching_or_allocated_eq_ok
    (h : registry.matching_or_allocated workflow content_hash provenance source_path = .ok (revision_no, registry')) :
    Publication registry registry' workflow content_hash provenance revision_no false ∧
      registry'.definitions = registry.definitions := by
  unfold matching_or_allocated at h
  split at h
  · next matching hmatching =>
    cases h
    exact ⟨publication_of_matching hmatching, rfl⟩
  · exact allocate_revision_eq_ok h

/-- Selecting a published revision as the current one changes nothing else. -/
private theorem Publication.set_current (h : Publication registry registry' workflow content_hash provenance
    revision_no false) (howner : (registry'.definitions.get? workflow.id.val).isSome) :
    Publication registry (registry'._set_current workflow.id.val revision_no) workflow content_hash
      provenance revision_no
      true := by
  unfold _set_current
  obtain ⟨current, hcurrent⟩ := Option.isSome_iff_exists.mp howner
  rw [hcurrent]
  refine ⟨h.drafts, h.undo_receipts, h.published, h.revisions, fun key => ?_⟩
  have hkept := h.current key
  simp only [Bool.false_eq_true, false_and, if_false, true_and, current_revision_no] at hkept ⊢
  rw [Table.get?_set]
  split
  · rw [Option.join_some]
  · exact hkept

private theorem Publication.of_owner
    (h : Publication (registry.acquire_workflow_owner workflow_id).2 registry' workflow content_hash
      provenance revision_no
      selected) : Publication registry registry' workflow content_hash provenance revision_no selected := by
  refine ⟨?_, ?_, h.published, ?_, fun key => ?_⟩
  · rw [h.drafts, acquire_workflow_owner_drafts]
  · rw [h.undo_receipts, acquire_workflow_owner_undo_receipts]
  · have hrevisions := h.revisions
    simpa only [acquire_workflow_owner_revisions, _next_revision_no] using hrevisions
  · rw [h.current, acquire_workflow_owner_current]

theorem should_select_acquired {current : Option Nat} {requested : Bool} {guard : Option WorkflowProvenance}
    {key : String} :
    (registry.acquire_workflow_owner workflow_id).2._should_select_revision key current requested guard =
      registry._should_select_revision key current requested guard := by
  simp only [_should_select_revision, _has_published_revisions, revision?, acquire_workflow_owner_revisions]

/-- A publication stores one revision at most and selects it when it should. -/
theorem publish_workflow_revision_eq_ok {sha256 : String → BitVec 256} {should_update_current : Bool}
    {guard : Option WorkflowProvenance} {published : PublishedWorkflowRevision}
    (h : registry.publish_workflow_revision sha256 workflow provenance should_update_current source_path guard =
      .ok (published, registry')) :
    ∃ selected, registry._should_select_revision workflow.id.val (registry.current_revision_no workflow.id.val)
        should_update_current guard = .ok selected ∧ published.workflow_id = workflow.id.val ∧
      Publication registry registry' workflow (canonical_workflow_hash sha256 workflow) provenance published.revision_no
        selected := by
  unfold publish_workflow_revision at h
  generalize howned : registry.acquire_workflow_owner workflow.id.val = acquired at h
  obtain ⟨current, owned⟩ := acquired
  obtain rfl : registry.current_revision_no workflow.id.val = current := by
    rw [← acquire_workflow_owner_fst, howned]
  obtain rfl : (registry.acquire_workflow_owner workflow.id.val).2 = owned := by rw [howned]
  obtain ⟨selected, hselected, h⟩ := bind_eq_ok_iff.mp h
  rw [should_select_acquired] at hselected
  obtain ⟨⟨revision_no, stored⟩, hstored, h⟩ := bind_eq_ok_iff.mp h
  obtain ⟨hpublication, hdefinitions⟩ := matching_or_allocated_eq_ok hstored
  obtain ⟨read, hread, h⟩ := bind_eq_ok_iff.mp h
  cases h
  have hnumber : published.workflow_id = workflow.id.val ∧ published.revision_no = revision_no := by
    unfold read_published_workflow_revision at hread
    split at hread
    · cases hread
    · next row hrow =>
      obtain ⟨content, -, hread⟩ := bind_eq_ok_iff.mp hread
      cases hread
      simpa using List.find?_some hrow
  obtain ⟨hid, rfl⟩ := hnumber
  refine ⟨selected, hselected, hid, ?_⟩
  cases selected with
  | false => exact hpublication.of_owner
  | true =>
    refine (hpublication.set_current ?_).of_owner
    rw [hdefinitions]
    exact acquire_workflow_owner_isSome

end WorkflowRegistry

end OhMySubagents.WorkflowAuthoring

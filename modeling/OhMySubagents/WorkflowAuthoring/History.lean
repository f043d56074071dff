import Mathlib.Data.List.Infix
import OhMySubagents.WorkflowAuthoring.DraftSteps

open Relational JsonData

namespace OhMySubagents.WorkflowAuthoring

open Workflows

/-- The stored revisions of one Workflow, in the order of their insertion. -/
def WorkflowRegistry.history (registry : WorkflowRegistry) (workflow_id : String) : List WorkflowRevisionRow :=
  registry.revisions.filter fun row => row.workflow_key = workflow_id

namespace WorkflowRegistry

variable {backend : Dialect} {sha256 : String → BitVec 256} {registry registry' : WorkflowRegistry}
  {workflow_id : String}

/-- What a publication history looks like at any time. -/
structure HistoryInvariant (registry : WorkflowRegistry) : Prop where
  numbers : ∀ workflow_id, (registry.history workflow_id).map (·.revision_no) =
    List.range' 1 (registry.history workflow_id).length
  distinct : ∀ workflow_id, (registry.history workflow_id).Pairwise fun row later =>
    ¬(later.content_hash = row.content_hash ∧ later.provenance = row.provenance)
  current : ∀ workflow_id revision_no, registry.current_revision_no workflow_id = some revision_no →
    ∃ row ∈ registry.history workflow_id, row.revision_no = revision_no

/-- One change of the revisions and of the selected ones. -/
inductive HistoryMove (sha256 : String → BitVec 256) (registry registry' : WorkflowRegistry) : Prop
  | kept (revisions : registry'.revisions = registry.revisions)
      (current : ∀ key, registry'.current_revision_no key = registry.current_revision_no key)
  | removed (workflow_id : String) (revisions : registry'.revisions = registry.revisions)
      (current : ∀ key, registry'.current_revision_no key =
        if key = workflow_id then none else registry.current_revision_no key)
  | published {workflow : NormalizedWorkflow} {provenance : WorkflowProvenance} {revision_no : Nat} {selected : Bool}
      (publication : Publication registry registry' workflow (canonical_workflow_hash sha256 workflow) provenance
        revision_no selected)

abbrev HistoryMoves (sha256 : String → BitVec 256) : WorkflowRegistry → WorkflowRegistry → Prop :=
  Relation.ReflTransGen (HistoryMove sha256)

private theorem foldl_max_range' (n : Nat) : (List.range' 1 n).foldl max 0 = n := by
  induction n with
  | zero => rfl
  | succ n ih =>
    rw [List.range'_1_concat, List.foldl_append, ih, List.foldl_cons, List.foldl_nil]
    omega

theorem HistoryInvariant.next_revision_no (h : HistoryInvariant registry) (workflow_id : String) :
    registry._next_revision_no workflow_id = (registry.history workflow_id).length + 1 := by
  unfold _next_revision_no
  have hnumbers := h.numbers workflow_id
  unfold history at hnumbers ⊢
  rw [hnumbers, foldl_max_range']

theorem HistoryMove.revisions_extended (h : HistoryMove sha256 registry registry') :
    registry.revisions <+: registry'.revisions := by
  cases h with
  | kept revisions current => exact revisions ▸ List.prefix_rfl
  | removed workflow_id revisions current => exact revisions ▸ List.prefix_rfl
  | published publication =>
    rcases publication.revisions with hsame | ⟨row, happended, -⟩
    · exact hsame ▸ List.prefix_rfl
    · exact happended ▸ List.prefix_append _ _

theorem history_extended (h : registry.revisions <+: registry'.revisions) (workflow_id : String) :
    registry.history workflow_id <+: registry'.history workflow_id := h.filter _

theorem history_mem_of_publication {workflow : NormalizedWorkflow} {content_hash : String}
    {provenance : WorkflowProvenance} {revision_no : Nat} {selected : Bool}
    (h : Publication registry registry' workflow content_hash provenance revision_no selected) :
    ∃ row ∈ registry'.history workflow.id.val, row.content_hash = content_hash ∧ row.provenance = provenance ∧
      row.revision_no = revision_no := by
  obtain ⟨row, hmem, hkey, hhash, hprovenance, hnumber⟩ := h.published
  exact ⟨row, List.mem_filter.mpr ⟨hmem, decide_eq_true hkey⟩, hhash, hprovenance, hnumber⟩

/-- The same revisions with selections among those that there were. -/
private theorem HistoryInvariant.of_revisions (h : HistoryInvariant registry)
    (hrevisions : registry'.revisions = registry.revisions)
    (hcurrent : ∀ key revision_no, registry'.current_revision_no key = some revision_no →
      ∃ row ∈ registry.history key, row.revision_no = revision_no) : HistoryInvariant registry' := by
  have hhistory : ∀ key, registry'.history key = registry.history key := fun key => by
    unfold history
    rw [hrevisions]
  refine ⟨fun key => ?_, fun key => ?_, fun key revision_no hsome => ?_⟩
  · rw [hhistory]
    exact h.numbers key
  · rw [hhistory]
    exact h.distinct key
  · rw [hhistory]
    exact hcurrent key revision_no hsome

theorem HistoryMove.invariant (h : HistoryMove sha256 registry registry') (hinv : HistoryInvariant registry) :
    HistoryInvariant registry' := by
  cases h with
  | kept revisions current =>
    exact hinv.of_revisions revisions fun key revision_no hsome => hinv.current key revision_no (current key ▸ hsome)
  | removed workflow_id revisions current =>
    refine hinv.of_revisions revisions fun key revision_no hsome => ?_
    rw [current] at hsome
    split at hsome
    · cases hsome
    · exact hinv.current key revision_no hsome
  | @published workflow provenance number selected publication =>
    have hcurrent : ∀ key revision_no, registry'.current_revision_no key = some revision_no →
        ∃ row ∈ registry'.history key, row.revision_no = revision_no := by
      intro key revision_no hsome
      rw [publication.current] at hsome
      split at hsome
      · next hselected =>
        obtain ⟨-, rfl⟩ := hselected
        cases hsome
        obtain ⟨row, hmem, -, -, hnumber⟩ := history_mem_of_publication publication
        exact ⟨row, hmem, hnumber⟩
      · obtain ⟨row, hmem, hnumber⟩ := hinv.current key revision_no hsome
        exact ⟨row, (history_extended (HistoryMove.published publication).revisions_extended key).subset hmem, hnumber⟩
    rcases publication.revisions with hsame | ⟨row, happended, hfree, hkey, hhash, hprovenance, hnumber, -⟩
    · refine hinv.of_revisions hsame fun key revision_no hsome => ?_
      have hmem := hcurrent key revision_no hsome
      unfold history at hmem ⊢
      rwa [hsame] at hmem
    · have hhistory : ∀ key, registry'.history key =
          registry.history key ++ if row.workflow_key = key then [row] else [] := by
        intro key
        unfold history
        rw [happended, List.filter_append]
        congr 1
        by_cases hrow : row.workflow_key = key <;> simp [hrow]
      refine ⟨fun key => ?_, fun key => ?_, hcurrent⟩
      · rw [hhistory]
        split
        · next hrow =>
          rw [List.map_append, List.length_append, hinv.numbers, List.map_singleton, List.length_singleton,
            List.range'_1_concat, hnumber, ← hkey, hrow, hinv.next_revision_no, Nat.add_comm 1]
        · rw [List.append_nil]
          exact hinv.numbers key
      · rw [hhistory]
        split
        · next hrow =>
          refine List.pairwise_append.mpr ⟨hinv.distinct key, List.pairwise_singleton _ _, ?_⟩
          rintro earlier hearlier later hlater ⟨hsamehash, hsameprovenance⟩
          obtain rfl := List.mem_singleton.mp hlater
          -- the unique key of content and provenance was free
          obtain ⟨hmem, hearlierkey⟩ := List.mem_filter.mp hearlier
          have hconflict := List.any_eq_false.mp hfree earlier hmem
          simp [WorkflowRevisionRow.conflicts, of_decide_eq_true hearlierkey, hrow, hsamehash, hsameprovenance]
            at hconflict
        · rw [List.append_nil]
          exact hinv.distinct key

theorem HistoryMoves.invariant (h : HistoryMoves sha256 registry registry') (hinv : HistoryInvariant registry) :
    HistoryInvariant registry' := by
  induction h with
  | refl => exact hinv
  | tail _ move ih => exact move.invariant ih

theorem HistoryMoves.revisions_extended (h : HistoryMoves sha256 registry registry') :
    registry.revisions <+: registry'.revisions := by
  induction h with
  | refl => exact List.prefix_rfl
  | tail _ move ih => exact ih.trans move.revisions_extended

/-- In one history, a number names one revision. -/
theorem HistoryInvariant.eq_of_number (h : HistoryInvariant registry) {row row' : WorkflowRevisionRow}
    (hrow : row ∈ registry.history workflow_id) (hrow' : row' ∈ registry.history workflow_id)
    (heq : row.revision_no = row'.revision_no) : row = row' := by
  have hnodup : ((registry.history workflow_id).map (·.revision_no)).Nodup := by
    rw [h.numbers]
    exact List.nodup_range'
  exact List.inj_on_of_nodup_map hnodup hrow hrow' heq

/-- In one history, content and provenance name one revision. -/
theorem HistoryInvariant.eq_of_content (h : HistoryInvariant registry) {row row' : WorkflowRevisionRow}
    (hrow : row ∈ registry.history workflow_id) (hrow' : row' ∈ registry.history workflow_id)
    (hhash : row.content_hash = row'.content_hash) (hprovenance : row.provenance = row'.provenance) : row = row' := by
  by_contra hne
  have hsymmetric : Std.Symm fun row later : WorkflowRevisionRow =>
      ¬(later.content_hash = row.content_hash ∧ later.provenance = row.provenance) :=
    ⟨fun _ _ hapart hsame => hapart ⟨hsame.1.symm, hsame.2.symm⟩⟩
  exact (h.distinct workflow_id).forall hrow hrow' hne ⟨hhash.symm, hprovenance.symm⟩

theorem seed_starter_workflow_eq_ok {starter : StarterWorkflow}
    {published : PublishedWorkflowRevision}
    (h : registry.seed_starter_workflow sha256 starter = .ok (published, registry')) :
    ∃ selected, registry._should_select_revision starter.workflow.id.val
        (registry.current_revision_no starter.workflow.id.val) true (some .starter_seed) = .ok selected ∧
      published.workflow_id = starter.workflow.id.val ∧
      Publication registry registry' starter.workflow (canonical_workflow_hash sha256 starter.workflow) .starter_seed
        published.revision_no selected := by
  unfold seed_starter_workflow at h
  split at h
  · cases h
  split at h
  · cases h
  exact publish_workflow_revision_eq_ok h

theorem seed_starter_workflows_moves {starters : List StarterWorkflow}
    {revisions : List PublishedWorkflowRevision}
    (h : registry.seed_starter_workflows sha256 starters = .ok (revisions, registry')) :
    HistoryMoves sha256 registry registry' := by
  induction starters generalizing registry revisions with
  | nil =>
    cases h
    exact .refl
  | cons starter starters ih =>
    obtain ⟨⟨published, seeded⟩, hpublished, h⟩ := bind_eq_ok_iff.mp h
    obtain ⟨⟨results, last⟩, hresults, h⟩ := bind_eq_ok_iff.mp h
    cases h
    obtain ⟨selected, -, -, publication⟩ := seed_starter_workflow_eq_ok hpublished
    exact .head (.published publication) (ih hresults)

private theorem Inserted.move {drawn : DrawnTokens} {workflow : NormalizedWorkflow}
    {base_revision_no : Option Nat} (h : Inserted backend sha256 drawn registry registry' workflow base_revision_no) :
    HistoryMove sha256 registry registry' := by
  rw [h.result]
  exact .kept acquire_workflow_owner_revisions acquire_workflow_owner_current

private theorem Replaced.move {drawn : DrawnTokens} {draft_id : String}
    {row : WorkflowDraftRow} {workflow : NormalizedWorkflow} {sequence : Nat}
    (h : Replaced backend sha256 drawn registry registry' draft_id row workflow sequence) :
    HistoryMove sha256 registry registry' := by
  rw [h.result]
  exact .kept rfl fun _ => rfl

/-- What an accepted request does to the history. -/
theorem operation_moves {drawn : DrawnTokens} {request : WorkflowRequest}
    {reply : WorkflowReply} (h : request.operation backend sha256 drawn registry = .ok (reply, registry')) :
    HistoryMoves sha256 registry registry' := by
  cases request with
  | open_draft workflow_id =>
    obtain ⟨result, hresult, -⟩ := reply_eq_ok h
    rcases open_existing_workflow_draft_eq_ok hresult with ⟨-, rfl⟩ | ⟨workflow, base, -, hinserted⟩
    · exact .refl
    · exact .single hinserted.move
  | create_draft id description note lead =>
    obtain ⟨result, hresult, -⟩ := reply_eq_ok h
    obtain ⟨workflow, -, -, hinserted⟩ := create_workflow_draft_eq_ok hresult
    exact .single hinserted.move
  | import_draft workflow etag =>
    obtain ⟨result, hresult, -⟩ := reply_eq_ok h
    rcases import_workflow_draft_eq_ok hresult with
      ⟨-, -, base, hinserted⟩ | ⟨draft_id, row, -, -, -, -, ⟨-, -, rfl⟩ | ⟨-, -, -, hreplaced⟩⟩
    · exact .single hinserted.move
    · exact .refl
    · exact .single hreplaced.move
  | edit_draft draft_id etag operation =>
    obtain ⟨result, hresult, -⟩ := reply_eq_ok h
    obtain ⟨row, current, updated, next, -, -, -, -, -, -, hreplaced⟩ := edit_workflow_draft_eq_ok hresult
    exact .single hreplaced.move
  | undo_draft draft_id etag receipt_id =>
    obtain ⟨result, hresult, -⟩ := reply_eq_ok h
    obtain ⟨row, receipt, -, -, -, -, -, -, rfl⟩ := undo_workflow_draft_eq_ok hresult
    exact .single (.kept rfl fun _ => rfl)
  | discard_draft draft_id etag =>
    obtain ⟨result, hresult, -⟩ := reply_eq_ok h
    obtain ⟨row, -, -, rfl⟩ := discard_workflow_draft_eq_ok hresult
    exact .single (.kept rfl fun _ => rfl)
  | publish_draft draft_id etag =>
    obtain ⟨result, hresult, -⟩ := reply_eq_ok h
    obtain ⟨row, persisted, workflow, -, -, -, -, hpublished⟩ := publish_workflow_draft_eq_ok hresult
    obtain ⟨selected, -, -, publication⟩ := publish_workflow_revision_eq_ok hpublished
    have hdeleted : HistoryMove sha256 registry (registry.delete_draft draft_id) := .kept rfl fun _ => rfl
    exact .head hdeleted (.single (.published publication))
  | remove_workflow workflow_id =>
    obtain ⟨result, hresult, -⟩ := reply_eq_ok h
    obtain ⟨-, hrevisions, hcurrent⟩ := remove_workflow_eq_ok hresult
    exact .single (.removed workflow_id hrevisions hcurrent)
  | seed_starters starters =>
    obtain ⟨revisions, hrevisions, -⟩ := reply_eq_ok h
    exact seed_starter_workflows_moves hrevisions

/-- What is selected for a Workflow, if anything, is a revision that a user published. -/
structure UserChosen (registry : WorkflowRegistry) (workflow_id : String) : Prop where
  published : registry.history workflow_id ≠ []
  current : ∀ row ∈ registry.history workflow_id, registry.current_revision_no workflow_id = some row.revision_no →
    row.provenance = .user

/-- Neither a later revision nor an unchanged or empty selection takes the choice back. -/
private theorem UserChosen.of_current (h : UserChosen registry workflow_id) (hinv' : HistoryInvariant registry')
    (hfront : registry.revisions <+: registry'.revisions)
    (hcurrent : registry'.current_revision_no workflow_id = registry.current_revision_no workflow_id ∨
      registry'.current_revision_no workflow_id = none) (hinv : HistoryInvariant registry) :
    UserChosen registry' workflow_id := by
  have hhistory := history_extended hfront workflow_id
  refine ⟨fun hnil => h.published (List.prefix_nil.mp (hnil ▸ hhistory)), fun row hrow hsome => ?_⟩
  rcases hcurrent with hsame | hnone
  · rw [hsame] at hsome
    obtain ⟨old, hold, hnumber⟩ := hinv.current workflow_id _ hsome
    obtain rfl := hinv'.eq_of_number (hhistory.subset hold) hrow hnumber
    exact h.current old hold hsome
  · rw [hnone] at hsome
    cases hsome

/-- A packaged publication leaves the user's choice alone. -/
theorem UserChosen.should_select {starter_id : String} {selected : Bool} (h : UserChosen registry workflow_id)
    (hselect : registry._should_select_revision starter_id (registry.current_revision_no starter_id) true
      (some .starter_seed) = .ok selected) : ¬(selected = true ∧ workflow_id = starter_id) := by
  rintro ⟨rfl, rfl⟩
  simp only [_should_select_revision] at hselect
  split at hselect
  · obtain ⟨row, hrow⟩ := List.exists_mem_of_ne_nil _ h.published
    obtain ⟨hmem, hkey⟩ := List.mem_filter.mp hrow
    have hany : registry._has_published_revisions workflow_id = true := List.any_eq_true.mpr ⟨row, hmem, hkey⟩
    rw [hany] at hselect
    cases hselect
  · next number hcurrent =>
    split at hselect
    · cases hselect
    · next row hrow =>
      have hfound := List.find?_some hrow
      simp only [decide_eq_true_eq] at hfound
      have huser := h.current row
        (List.mem_filter.mpr ⟨List.mem_of_find?_eq_some hrow, decide_eq_true hfound.1⟩) (by rw [hcurrent, hfound.2])
      rw [huser] at hselect
      cases hselect

/-- No packaged Workflow changes what a user chose. -/
theorem UserChosen.seeded {starters : List StarterWorkflow}
    {revisions : List PublishedWorkflowRevision} (h : UserChosen registry workflow_id)
    (hinv : HistoryInvariant registry)
    (hseed : registry.seed_starter_workflows sha256 starters = .ok (revisions, registry')) :
    registry'.current_revision_no workflow_id = registry.current_revision_no workflow_id := by
  induction starters generalizing registry revisions with
  | nil =>
    cases hseed
    rfl
  | cons starter starters ih =>
    obtain ⟨⟨published, seeded⟩, hpublished, hseed⟩ := bind_eq_ok_iff.mp hseed
    obtain ⟨⟨results, last⟩, hresults, hseed⟩ := bind_eq_ok_iff.mp hseed
    cases hseed
    obtain ⟨selected, hselect, -, publication⟩ := seed_starter_workflow_eq_ok hpublished
    have hkept : seeded.current_revision_no workflow_id = registry.current_revision_no workflow_id := by
      rw [publication.current, if_neg (h.should_select hselect)]
    have hmove : HistoryMove sha256 registry seeded := .published publication
    have hinv' := hmove.invariant hinv
    rw [ih (h.of_current hinv' hmove.revisions_extended (.inl hkept) hinv) hinv' hresults, hkept]

/-- Publishing as a user makes the choice. -/
theorem UserChosen.of_publication {draft_id etag : String}
    {published : PublishedWorkflowRevision} (hinv : HistoryInvariant registry)
    (h : registry.publish_workflow_draft sha256 draft_id etag = .ok (published, registry')) :
    UserChosen registry' published.workflow_id := by
  obtain ⟨row, persisted, workflow, -, -, -, -, hpublished⟩ := publish_workflow_draft_eq_ok h
  obtain ⟨selected, hselect, hid, publication⟩ := publish_workflow_revision_eq_ok hpublished
  cases hselect
  have hdeleted : HistoryMove sha256 registry (registry.delete_draft draft_id) := .kept rfl fun _ => rfl
  have hinv' : HistoryInvariant registry' := (HistoryMove.published publication).invariant (hdeleted.invariant hinv)
  obtain ⟨stored, hstored, -, hprovenance, hnumber⟩ := history_mem_of_publication publication
  rw [hid]
  refine ⟨List.ne_nil_of_mem hstored, fun other hother hsome => ?_⟩
  rw [publication.current, if_pos ⟨rfl, rfl⟩] at hsome
  rw [hinv'.eq_of_number hother hstored ((Option.some.inj hsome).symm.trans hnumber.symm), hprovenance]

/-- A removal of a Workflow with a history leaves nothing selected, which is the user's choice too. -/
theorem UserChosen.of_removal {u : Unit} (hpublished : registry.history workflow_id ≠ [])
    (h : registry.remove_workflow workflow_id = .ok (u, registry')) : UserChosen registry' workflow_id := by
  obtain ⟨-, hrevisions, hcurrent⟩ := remove_workflow_eq_ok h
  refine ⟨?_, fun row _ hsome => ?_⟩
  · unfold history
    rw [hrevisions]
    exact hpublished
  · rw [hcurrent, if_pos rfl] at hsome
    cases hsome

/-- Once a user has chosen, no request of any kind leaves the choice to a packaged Workflow. -/
theorem UserChosen.operation {drawn : DrawnTokens} {request : WorkflowRequest}
    {reply : WorkflowReply} (h : UserChosen registry workflow_id) (hinv : HistoryInvariant registry)
    (hoperation : request.operation backend sha256 drawn registry = .ok (reply, registry')) :
    UserChosen registry' workflow_id := by
  have hmoves := operation_moves hoperation
  have hinv' := hmoves.invariant hinv
  have hfront := hmoves.revisions_extended
  have hkept : registry'.current_revision_no workflow_id = registry.current_revision_no workflow_id ∨
      registry'.current_revision_no workflow_id = none → UserChosen registry' workflow_id :=
    fun hcurrent => h.of_current hinv' hfront hcurrent hinv
  cases request with
  | open_draft key =>
    obtain ⟨result, hresult, -⟩ := reply_eq_ok hoperation
    rcases open_existing_workflow_draft_eq_ok hresult with ⟨-, rfl⟩ | ⟨workflow, base, -, hinserted⟩
    · exact h
    · exact hkept (.inl (hinserted.result ▸ acquire_workflow_owner_current _))
  | create_draft id description note lead =>
    obtain ⟨result, hresult, -⟩ := reply_eq_ok hoperation
    obtain ⟨workflow, -, -, hinserted⟩ := create_workflow_draft_eq_ok hresult
    exact hkept (.inl (hinserted.result ▸ acquire_workflow_owner_current _))
  | import_draft workflow etag =>
    obtain ⟨result, hresult, -⟩ := reply_eq_ok hoperation
    rcases import_workflow_draft_eq_ok hresult with
      ⟨-, -, base, hinserted⟩ | ⟨draft_id, row, -, -, -, -, ⟨-, -, rfl⟩ | ⟨-, -, -, hreplaced⟩⟩
    · exact hkept (.inl (hinserted.result ▸ acquire_workflow_owner_current _))
    · exact h
    · exact hkept (.inl (hreplaced.result ▸ rfl))
  | edit_draft draft_id etag operation =>
    obtain ⟨result, hresult, -⟩ := reply_eq_ok hoperation
    obtain ⟨row, current, updated, next, -, -, -, -, -, -, hreplaced⟩ := edit_workflow_draft_eq_ok hresult
    exact hkept (.inl (hreplaced.result ▸ rfl))
  | undo_draft draft_id etag receipt_id =>
    obtain ⟨result, hresult, -⟩ := reply_eq_ok hoperation
    obtain ⟨row, receipt, -, -, -, -, -, -, rfl⟩ := undo_workflow_draft_eq_ok hresult
    exact hkept (.inl rfl)
  | discard_draft draft_id etag =>
    obtain ⟨result, hresult, -⟩ := reply_eq_ok hoperation
    obtain ⟨row, -, -, rfl⟩ := discard_workflow_draft_eq_ok hresult
    exact hkept (.inl rfl)
  | publish_draft draft_id etag =>
    obtain ⟨published, hresult, -⟩ := reply_eq_ok hoperation
    by_cases hid : workflow_id = published.workflow_id
    · rw [hid]
      exact .of_publication hinv hresult
    · obtain ⟨row, persisted, workflow, -, -, -, -, hpublished⟩ := publish_workflow_draft_eq_ok hresult
      obtain ⟨selected, -, hpublished_id, publication⟩ := publish_workflow_revision_eq_ok hpublished
      refine hkept (.inl ?_)
      rw [publication.current, if_neg fun hselected => hid (hselected.2.trans hpublished_id.symm)]
      rfl
  | remove_workflow key =>
    obtain ⟨result, hresult, -⟩ := reply_eq_ok hoperation
    obtain ⟨-, -, hcurrent⟩ := remove_workflow_eq_ok hresult
    refine hkept ?_
    rw [hcurrent]
    split
    · exact .inr rfl
    · exact .inl rfl
  | seed_starters starters =>
    obtain ⟨revisions, hrevisions, -⟩ := reply_eq_ok hoperation
    exact hkept (.inl (h.seeded hinv hrevisions))

end WorkflowRegistry

end OhMySubagents.WorkflowAuthoring

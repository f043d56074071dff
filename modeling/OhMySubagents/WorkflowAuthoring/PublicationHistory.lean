import OhMySubagents.WorkflowAuthoring.History

open Relational JsonData

namespace OhMySubagents.WorkflowAuthoring

open Workflows WorkflowRegistry

variable {backend : Dialect} {sha256 : String → BitVec 256} {store after : WorkflowStore}
  {before registry registry' : WorkflowRegistry}

/-- A publication has returned the one revision of its content and provenance, the stored one if there was one. -/
def PublishedAs (sha256 : String → BitVec 256) (before after : WorkflowRegistry) (workflow : NormalizedWorkflow)
    (provenance : WorkflowProvenance) (revision : PublishedWorkflowRevision) : Prop :=
  revision.workflow_id = workflow.id.val ∧
    ∃ row ∈ after.history workflow.id.val, row.content_hash = canonical_workflow_hash sha256 workflow ∧
      row.provenance = provenance ∧ row.revision_no = revision.revision_no ∧
      ∀ earlier ∈ before.history workflow.id.val, earlier.content_hash = row.content_hash →
        earlier.provenance = row.provenance → earlier = row

private theorem published_as_of_publication {workflow : NormalizedWorkflow} {provenance : WorkflowProvenance}
    {revision : PublishedWorkflowRevision} {selected : Bool} {after : WorkflowRegistry} (hinv : HistoryInvariant before)
    (hearlier : HistoryMoves sha256 before registry) (hid : revision.workflow_id = workflow.id.val)
    (publication : Publication registry registry' workflow (canonical_workflow_hash sha256 workflow) provenance
      revision.revision_no selected) (hlater : HistoryMoves sha256 registry' after) :
    PublishedAs sha256 before after workflow provenance revision := by
  obtain ⟨row, hmem, hkey, hhash, hprovenance, hnumber⟩ := publication.published
  have hmoves : HistoryMoves sha256 before after := hearlier.trans (.head (.published publication) hlater)
  have hrow : row ∈ after.history workflow.id.val :=
    (history_extended hlater.revisions_extended _).subset (List.mem_filter.mpr ⟨hmem, decide_eq_true hkey⟩)
  refine ⟨hid, row, hrow, hhash, hprovenance, hnumber, fun earlier hold hsamehash hsameprovenance => ?_⟩
  have hold' := (history_extended hmoves.revisions_extended _).subset hold
  exact (hmoves.invariant hinv).eq_of_content hold' hrow hsamehash hsameprovenance

private theorem seeds_published_as {starters : List StarterWorkflow} {revisions : List PublishedWorkflowRevision}
    (hinv : HistoryInvariant before) (hearlier : HistoryMoves sha256 before registry)
    (h : registry.seed_starter_workflows sha256 starters = .ok (revisions, registry')) :
    List.Forall₂ (fun starter revision =>
      PublishedAs sha256 before registry' starter.workflow .starter_seed revision) starters revisions := by
  induction starters generalizing registry revisions with
  | nil =>
    cases h
    exact .nil
  | cons starter starters ih =>
    obtain ⟨⟨published, seeded⟩, hpublished, h⟩ := bind_eq_ok_iff.mp h
    obtain ⟨⟨results, last⟩, hresults, h⟩ := bind_eq_ok_iff.mp h
    cases h
    obtain ⟨selected, -, hid, publication⟩ := seed_starter_workflow_eq_ok hpublished
    exact .cons (published_as_of_publication hinv hearlier hid publication (seed_starter_workflows_moves hresults))
      (ih (hearlier.tail (.published publication)) hresults)

/-- The history of every Workflow only grows, by numbered revisions that stay as they are, and what a user has
    selected or removed no packaged Workflow selects again. -/
structure PublicationHistory (backend : Dialect) (sha256 : String → BitVec 256) (store : WorkflowStore) : Prop where
  numbers : ∀ workflow_id, (store.registry.history workflow_id).map (·.revision_no) =
    List.range' 1 (store.registry.history workflow_id).length
  immutable : ∀ later, (workflow_authoring backend sha256).Path store later →
    store.registry.revisions <+: later.registry.revisions
  unique : ∀ workflow_id, (store.registry.history workflow_id).Pairwise fun row later =>
    ¬(later.content_hash = row.content_hash ∧ later.provenance = row.provenance)
  current : ∀ workflow_id revision_no, store.registry.current_revision_no workflow_id = some revision_no →
    ∃ row ∈ store.registry.history workflow_id, row.revision_no = revision_no
  user_published : ∀ (transaction : WorkflowTransaction) after draft_id etag revision,
    transaction.request = .publish_draft draft_id etag →
    transaction.serve backend sha256 store = (.ok (.published revision), after) →
    ∃ row persisted workflow, store.registry.drafts.get? draft_id = some row ∧ row.workflow = .ok persisted ∧
      normalize_workflow_object persisted.dump = .ok workflow ∧
      PublishedAs sha256 store.registry after.registry workflow .user revision
  starters_published : ∀ (transaction : WorkflowTransaction) after starters revisions,
    transaction.request = .seed_starters starters →
    transaction.serve backend sha256 store = (.ok (.seeded revisions), after) →
    List.Forall₂ (fun starter revision =>
      PublishedAs sha256 store.registry after.registry starter.workflow .starter_seed revision) starters revisions
  user_choice : ∀ (transaction : WorkflowTransaction) after workflow_id,
    (workflow_authoring backend sha256).commit transaction store after →
    ((∃ draft_id etag revision, transaction.request = .publish_draft draft_id etag ∧
        transaction.serve backend sha256 store = (.ok (.published revision), after) ∧
          revision.workflow_id = workflow_id) ∨
      (transaction.request = .remove_workflow workflow_id ∧
        transaction.serve backend sha256 store = (.ok .removed, after) ∧ store.registry.history workflow_id ≠ [])) →
    ∀ later, (workflow_authoring backend sha256).Path after later →
    ∀ (seeding : WorkflowTransaction) starters seeded, seeding.request = .seed_starters starters →
      (workflow_authoring backend sha256).commit seeding later seeded →
      seeded.registry.current_revision_no workflow_id = later.registry.current_revision_no workflow_id

theorem commit_moves {transaction : WorkflowTransaction}
    (h : (workflow_authoring backend sha256).commit transaction store after) :
    HistoryMoves sha256 store.registry after.registry := by
  obtain ⟨-, rfl⟩ := h
  rcases transaction.serve_eq backend sha256 store with ⟨reply, registry', hoperation, hserve⟩ | ⟨error, hserve⟩
  · rw [hserve]
    exact operation_moves hoperation
  · rw [hserve]

theorem history_invariant (h : (workflow_authoring backend sha256).Reachable store) :
    HistoryInvariant store.registry := by
  refine h.invariant (P := fun store => HistoryInvariant store.registry) ?_ ?_
  · rintro store rfl
    exact ⟨fun _ => rfl, fun _ => .nil, fun _ _ hsome => by cases hsome⟩
  · intro transaction store after hinv hcommit
    exact (commit_moves hcommit).invariant hinv

private theorem user_chosen_path {workflow_id : String} {later : WorkflowStore}
    (h : (workflow_authoring backend sha256).Path store later) (hchosen : UserChosen store.registry workflow_id) :
    UserChosen later.registry workflow_id := by
  refine h.keep (P := fun store => UserChosen store.registry workflow_id) hchosen fun store after hstep hchosen => ?_
  obtain ⟨hreachable, transaction, -, rfl⟩ := hstep
  rcases transaction.serve_eq backend sha256 store with ⟨reply, registry', hoperation, hserve⟩ | ⟨error, hserve⟩
  · rw [hserve]
    exact hchosen.operation (history_invariant hreachable) hoperation
  · rw [hserve]
    exact hchosen

def team_workflow : NormalizedWorkflow where
  id := ⟨"team", team_identifier⟩
  description := ⟨"Does the work.", work_description⟩
  note := none
  lead := .mk {
    id := ⟨"member-1", first_member_identifier⟩, title := none, description := none, instruction := none,
      provider := none
    capabilities := none } none
  child_limit := rfl

/-- The digests of the two texts that are hashed for the team, with one Member and with two. -/
def team_sha256 (text : String) : BitVec 256 :=
  if text = canonical_workflow_text team_workflow then
    0xb36a29344b3858244562a236006de573cf5ef2a09cf140f9321549ee8333b3f7#256
  else 0xf0600b27c3bd454f36e436871a21f122cc9237e0bc6a14a58132fdc163522b7f#256

def team_creation : WorkflowTransaction where
  request := .create_draft team_workflow.id team_workflow.description none none
  drawn := ⟨"a", "a", "a"⟩

def team_removal : WorkflowTransaction where
  request := .remove_workflow "team"
  drawn := ⟨"b", "b", "b"⟩

def team_seeding : WorkflowTransaction where
  request := .seed_starters [⟨"team", team_workflow⟩]
  drawn := ⟨"c", "c", "c"⟩

/-- A Workflow that was removed before anything of it was published comes back with a packaged one of its name. -/
theorem removed_team_seeded :
    ∃ store after seeded, (workflow_authoring .sqlite team_sha256).Reachable store ∧
      (workflow_authoring .sqlite team_sha256).commit team_removal store after ∧
      team_removal.serve .sqlite team_sha256 store = (.ok .removed, after) ∧
      after.registry.current_revision_no "team" = none ∧
      (workflow_authoring .sqlite team_sha256).commit team_seeding after seeded ∧
      seeded.registry.current_revision_no "team" = some 1 := by
  have hrun : (WorkflowStore.served .sqlite team_sha256 { registry := {}, drawn := [] } [team_creation]).any
    (fun store =>
      store.registry.definitions.get? "team" = some none ∧
      (store.served .sqlite team_sha256 [team_removal]).any fun after => after.registry.definitions.get? "team" = none ∧
      (after.served .sqlite team_sha256 [team_seeding]).any fun seeded =>
        seeded.registry.current_revision_no "team" = some 1) = true := by decide +kernel
  obtain ⟨store, hstore, hrun⟩ := (Option.any_eq_true _ _).mp hrun
  obtain ⟨howner, hrun⟩ := of_decide_eq_true hrun
  obtain ⟨after, hafter, hrun⟩ := (Option.any_eq_true _ _).mp hrun
  obtain ⟨hremoved, hrun⟩ := of_decide_eq_true hrun
  obtain ⟨seeded, hseeded, hcurrent⟩ := (Option.any_eq_true _ _).mp hrun
  have hcommit := WorkflowStore.served_commit hafter
  refine ⟨store, after, seeded, WorkflowStore.served_reachable ⟨[], .start rfl⟩ hstore, hcommit, ?_, ?_,
    WorkflowStore.served_commit hseeded, of_decide_eq_true hcurrent⟩
  · obtain ⟨-, rfl⟩ := hcommit
    rcases team_removal.serve_eq .sqlite team_sha256 store with ⟨reply, registry', hoperation, hserve⟩ | ⟨error, hserve⟩
    · obtain ⟨u, -, rfl⟩ := reply_eq_ok hoperation
      rw [hserve]
    · rw [hserve, howner] at hremoved
      cases hremoved
  · rw [current_revision_no, hremoved, Option.join_none]

theorem publication_history_kept (h : (workflow_authoring backend sha256).Reachable store) :
    PublicationHistory backend sha256 store := by
  have hinv := history_invariant h
  refine ⟨hinv.numbers, fun later hpath => ?_, hinv.distinct, hinv.current, ?_, ?_, ?_⟩
  · refine hpath.rel (R := fun store later => store.registry.revisions <+: later.registry.revisions)
      (fun _ => List.prefix_rfl) (fun _ _ _ => List.IsPrefix.trans) ?_
    rintro store later ⟨-, transaction, hcommit⟩
    exact (commit_moves hcommit).revisions_extended
  · intro transaction after draft_id etag revision hrequest hserve
    have hoperation := WorkflowTransaction.serve_eq_ok hserve
    rw [hrequest] at hoperation
    obtain ⟨published, hpublished, hreply⟩ := reply_eq_ok hoperation
    cases hreply
    obtain ⟨row, persisted, workflow, hrow, -, hpersisted, hworkflow, hpublished⟩ :=
      publish_workflow_draft_eq_ok hpublished
    obtain ⟨selected, -, hid, publication⟩ := publish_workflow_revision_eq_ok hpublished
    have hdeleted : HistoryMove sha256 store.registry (store.registry.delete_draft draft_id) := .kept rfl fun _ => rfl
    exact ⟨row, persisted, workflow, hrow, hpersisted, hworkflow,
      published_as_of_publication hinv (.single hdeleted) hid publication .refl⟩
  · intro transaction after starters revisions hrequest hserve
    have hoperation := WorkflowTransaction.serve_eq_ok hserve
    rw [hrequest] at hoperation
    obtain ⟨results, hresults, hreply⟩ := reply_eq_ok hoperation
    cases hreply
    exact seeds_published_as hinv .refl hresults
  · intro transaction after workflow_id hcommit hchoice later hpath seeding starters seeded hrequest hseeded
    have hchosen : UserChosen after.registry workflow_id := by
      rcases hchoice with ⟨draft_id, etag, revision, hpublish, hserve, rfl⟩ | ⟨hremove, hserve, hpublished⟩
      · have hoperation := WorkflowTransaction.serve_eq_ok hserve
        rw [hpublish] at hoperation
        obtain ⟨published, hpublished, hreply⟩ := reply_eq_ok hoperation
        cases hreply
        exact .of_publication hinv hpublished
      · have hoperation := WorkflowTransaction.serve_eq_ok hserve
        rw [hremove] at hoperation
        obtain ⟨u, hremoved, -⟩ := reply_eq_ok hoperation
        exact .of_removal hpublished hremoved
    have hlater := user_chosen_path hpath hchosen
    have hinv' : HistoryInvariant later.registry := by
      have hafter := (commit_moves hcommit).invariant hinv
      refine hpath.keep (P := fun store => HistoryInvariant store.registry) hafter fun store after hstep hinv => ?_
      obtain ⟨-, transaction, hcommit⟩ := hstep
      exact (commit_moves hcommit).invariant hinv
    obtain ⟨-, rfl⟩ := hseeded
    rcases seeding.serve_eq backend sha256 later with ⟨reply, registry', hoperation, hserve⟩ | ⟨error, hserve⟩
    · rw [hserve]
      rw [hrequest] at hoperation
      obtain ⟨revisions, hrevisions, -⟩ := reply_eq_ok hoperation
      exact hlater.seeded hinv' hrevisions
    · rw [hserve]

/-- A packaged team; the user publishes the same content, then the team with a second Member, then the first content
    again, and removes the team. It is seeded again before and after that. -/
def team_requests : List WorkflowTransaction :=
  [team_seeding,
    ⟨.open_draft "team", ⟨"d", "d", "d"⟩⟩, ⟨.publish_draft "workflow-draft.d" "\"wd-d\"", ⟨"e", "e", "e"⟩⟩,
    ⟨.open_draft "team", ⟨"f", "f", "f"⟩⟩,
    ⟨.edit_draft "workflow-draft.f" "\"wd-f\"" (.add_member ⟨"member-1", first_member_identifier⟩ (.mk {} none)),
      ⟨"g", "g", "g"⟩⟩,
    ⟨.publish_draft "workflow-draft.f" "\"wd-g\"", ⟨"h", "h", "h"⟩⟩,
    ⟨.import_draft team_workflow none, ⟨"i", "i", "i"⟩⟩,
      ⟨.publish_draft "workflow-draft.i" "\"wd-i\"", ⟨"j", "j", "j"⟩⟩,
    ⟨.seed_starters [⟨"team", team_workflow⟩], ⟨"k", "k", "k"⟩⟩, team_removal,
    ⟨.seed_starters [⟨"team", team_workflow⟩], ⟨"l", "l", "l"⟩⟩]

/-- The team keeps its three revisions, and stays removed. -/
theorem publication_history_team_kept :
    ∃ store, ((store.registry.history "team").map (·.revision_no) = [1, 2, 3] ∧
      store.registry.definitions.get? "team" = some none) ∧ PublicationHistory .sqlite team_sha256 store := by
  have hrun : (WorkflowStore.served .sqlite team_sha256 { registry := {}, drawn := [] } team_requests).any (fun store =>
      (store.registry.history "team").map (·.revision_no) = [1, 2, 3] ∧
        store.registry.definitions.get? "team" = some none) = true := by decide +kernel
  obtain ⟨store, hstore, hremoved⟩ := (Option.any_eq_true _ _).mp hrun
  exact ⟨store, of_decide_eq_true hremoved,
    publication_history_kept (WorkflowStore.served_reachable ⟨[], .start rfl⟩ hstore)⟩

end OhMySubagents.WorkflowAuthoring

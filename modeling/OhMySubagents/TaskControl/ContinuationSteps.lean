import OhMySubagents.Dispatch.ContinuationOpenings
import OhMySubagents.Lanes.Participation
import OhMySubagents.TaskControl.Continuation

open Relational

namespace OhMySubagents

/-- What a plan may hold for one lane. -/
inductive ResumeSource (db : TaskDb) (task : PausedTaskSnapshot) : OperatorContinueSource → Prop
  | human_request {request_id request} (row : db.human_requests.get? request_id = some request)
      (terminal : request.is_terminal_unconsumed = true) :
      ResumeSource db task
        ⟨human_request_continuation_basis request_id request .human_result, claim_human_request_continuation⟩
  | command_run {run_id run} (row : db.command_runs.get? run_id = some run)
      (terminal : run.is_terminal_unconsumed = true) :
      ResumeSource db task ⟨command_run_continuation_basis run_id run .command_result, claim_command_run_continuation⟩
  | delegation_wave {wave_id wave} (row : db.delegation_waves.get? wave_id = some wave)
      (settled : wave.is_settled_unconsumed = true) :
      ResumeSource db task ⟨delegation_wave_continuation_basis wave_id wave, claim_delegation_wave_continuation⟩
  | replan_transition {transition_id transition} (row : db.replan_transitions.get? transition_id = some transition)
      (can_continue : transition.can_continue = true)
      (current : transition.successor_team_revision_id = db.task.current_team_revision_id) :
      ResumeSource db task ⟨replan_continuation_basis transition_id transition, claim_replan_continuation⟩
  | tail {dispatch_id tail closed_reason} (row : db.dispatches.get? dispatch_id = some tail)
      (closed : tail.paused_tail_reason = some closed_reason)
      (last : db.dispatches.any (fun _ successor => successor.predecessor_dispatch_id == some dispatch_id) = false) :
      ResumeSource db task ⟨operator_continue_basis task dispatch_id tail closed_reason, claim_operator_continue_tail⟩

variable {stale db db' : TaskDb} {task : PausedTaskSnapshot} {plan : PausedTaskContinuationPlan}
  {source : OperatorContinueSource} {sources : List OperatorContinueSource}

theorem read_continue_sources_mem {claim : OrdinarySourceClaim} {readers : List OrdinarySourceReader}
    (h : read_continue_sources db claim readers = .ok sources) (hmem : source ∈ sources) :
    ∃ read_source ∈ readers, read_source db = .ok (some source.basis) ∧ source.claim = claim := by
  induction readers generalizing sources with
  | nil =>
    cases h
    cases hmem
  | cons read_source rest ih =>
    simp only [read_continue_sources, bind_eq_ok_iff] at h
    obtain ⟨basis, hread, others, hrest, h⟩ := h
    cases h
    rcases List.mem_append.mp hmem with hmem | hmem
    · cases basis with
      | none => cases hmem
      | some basis =>
        obtain rfl := List.mem_singleton.mp hmem
        exact ⟨read_source, List.mem_cons_self, hread, rfl⟩
    · obtain ⟨reader, hreader, hbasis⟩ := ih hrest hmem
      exact ⟨reader, List.mem_cons_of_mem _ hreader, hbasis⟩

/-- Every source of a plan is one of the five kinds, in the state that its claim expects. -/
theorem read_operator_continue_sources_success (h : read_operator_continue_sources db task = .ok sources)
    (hmem : source ∈ sources) : ResumeSource db task source := by
  unfold read_operator_continue_sources at h
  simp only [bind_eq_ok_iff] at h
  obtain ⟨human_requests, hhuman, command_runs, hcommands, waves, hwaves, replans, hreplans, h⟩ := h
  cases h
  simp only [List.mem_append] at hmem
  obtain ⟨basis, claim⟩ := source
  rcases hmem with (((hmem | hmem) | hmem) | hmem) | hmem
  · obtain ⟨_, hreader, hbasis, rfl⟩ := read_continue_sources_mem hhuman hmem
    obtain ⟨row, -, rfl⟩ := List.mem_map.mp hreader
    obtain ⟨request, hrow, hstatus, hnone, rfl⟩ := read_human_request_continuation_basis_success hbasis
    exact .human_request hrow (HumanRequest.is_terminal_unconsumed_iff.mpr ⟨hstatus, hnone⟩)
  · obtain ⟨_, hreader, hbasis, rfl⟩ := read_continue_sources_mem hcommands hmem
    obtain ⟨row, -, rfl⟩ := List.mem_map.mp hreader
    obtain ⟨run, hrow, hstate, hnone, rfl⟩ := read_command_run_continuation_basis_success hbasis
    exact .command_run hrow (CommandRun.is_terminal_unconsumed_iff.mpr ⟨hstate, hnone⟩)
  · obtain ⟨_, hreader, hbasis, rfl⟩ := read_continue_sources_mem hwaves hmem
    obtain ⟨row, -, rfl⟩ := List.mem_map.mp hreader
    obtain ⟨wave, hrow, hstatus, hnone, rfl⟩ := read_delegation_wave_continuation_basis_success hbasis
    exact .delegation_wave hrow (DelegationWave.is_settled_unconsumed_iff.mpr ⟨hstatus, hnone⟩)
  · obtain ⟨_, hreader, hbasis, rfl⟩ := read_continue_sources_mem hreplans hmem
    obtain ⟨row, hselected, rfl⟩ := List.mem_map.mp hreader
    obtain ⟨hget, hfilter⟩ := Table.mem_select_iff.mp hselected
    obtain ⟨transition, hrow, hcontinue, rfl⟩ := read_replan_continuation_basis_success hbasis
    obtain rfl : row.2 = transition := Option.some.inj (hget.symm.trans hrow)
    simp only [Bool.and_eq_true, beq_iff_eq] at hfilter
    exact .replan_transition hrow hcontinue hfilter.2
  · obtain ⟨row, hselected, hsource⟩ := List.mem_filterMap.mp hmem
    obtain ⟨hget, hlast⟩ := Table.mem_select_iff.mp hselected
    obtain ⟨closed_reason, hclosed, heq⟩ := Option.map_eq_some_iff.mp hsource
    cases heq
    exact .tail hget hclosed (by simpa using hlast)

theorem DispatchTurn.paused_tail_reason_eq_some {dispatch : DispatchTurn} {reason : DispatchClosedReason}
    (h : dispatch.paused_tail_reason = some reason) :
    dispatch.status = .closed reason ∧ (reason = .paused ∨ reason = .control_failed) := by
  unfold DispatchTurn.paused_tail_reason at h
  split at h
  · next hstatus => cases h; exact ⟨hstatus, .inl rfl⟩
  · next hstatus => cases h; exact ⟨hstatus, .inr rfl⟩
  · cases h

variable {snapshot : OrdinaryDispatchSnapshot} {prepared : PreparedDispatchRequest} {claimed : TaskDb}

/-- Every source claims its own row, or nothing when it is the tail of its lane. -/
theorem ResumeSource.source_claimed (hsource : ResumeSource stale task source)
    (h : source.claim db snapshot prepared = some claimed) :
    SourceClaimed db snapshot prepared.dispatch_id claimed := by
  cases hsource with
  | human_request => exact claim_human_request_continuation_success h
  | command_run => exact claim_command_run_continuation_success h
  | delegation_wave => exact claim_delegation_wave_continuation_success h
  | replan_transition => exact claim_replan_continuation_success h
  | tail =>
    obtain ⟨rfl, -⟩ := @claim_operator_continue_tail_success db _ snapshot prepared h
    exact .tail

theorem ResumeSource.opened_reason (hsource : ResumeSource stale task source) :
    source.basis.opened_reason ≠ .watchdog_recovery := by
  cases hsource <;> simp [human_request_continuation_basis, command_run_continuation_basis,
    delegation_wave_continuation_basis, replan_continuation_basis, operator_continue_basis]

/-- Claiming a source and staging its Dispatch is one step of the lanes. -/
theorem ResumeSource.step (hsource : ResumeSource stale task source) (hbasis : snapshot.basis = source.basis)
    (hinv : db.lanes.Invariant) (running : db.task.status = .running) {tail : DispatchTurn} {assignment : Assignment}
    (ready : LaneReady db snapshot tail assignment) (hclaim : source.claim db snapshot prepared = some claimed)
    (hstage : stage_starting_dispatch claimed snapshot.starting_basis prepared = .ok db') :
    Lanes.Step db.lanes db'.lanes := by
  have hopened : snapshot.basis.opened_reason ≠ .watchdog_recovery := by
    rw [hbasis]
    exact hsource.opened_reason
  cases hsource with
  | human_request row terminal =>
    obtain ⟨x, claims⟩ := claim_human_request_continuation_claims hbasis hclaim
    exact stage_successor_step hinv.pointers running ready claims hopened hstage
  | command_run row terminal =>
    obtain ⟨x, claims⟩ := claim_command_run_continuation_claims (CommandRun.is_terminal_unconsumed_iff.mp terminal).1
      hbasis hclaim
    exact stage_successor_step hinv.pointers running ready claims hopened hstage
  | delegation_wave row settled =>
    obtain ⟨x, claims⟩ := claim_delegation_wave_continuation_claims hbasis hclaim
    exact stage_successor_step hinv.pointers running ready claims hopened hstage
  | replan_transition row can_continue current =>
    obtain ⟨x, claims⟩ := claim_replan_continuation_claims hinv.lineage hbasis ready hclaim
    exact stage_successor_step hinv.pointers running ready claims hopened hstage
  | tail row closed last =>
    obtain ⟨rfl, -⟩ := @claim_operator_continue_tail_success db _ snapshot prepared hclaim
    refine stage_tail_step hinv.pointers running ready ?_ hopened hstage
    rw [hbasis]
    obtain ⟨-, rfl | rfl⟩ := DispatchTurn.paused_tail_reason_eq_some closed <;> rfl

/-- Opening one lane leaves every other lane ready. -/
theorem DispatchOpened.ready {other : OrdinaryDispatchSnapshot} {attempt : Attempt} {tail : DispatchTurn}
    {assignment : Assignment} (h : DispatchOpened db claimed db' snapshot prepared attempt)
    (ready : LaneReady db other tail assignment) : LaneReady db' other tail assignment := by
  have hclaims := h.claims.frame
  have hrows := h.rows
  rw [hclaims] at hrows
  obtain ⟨h1, h2, h3, h4, h5, h6, h7, h8, h9, h10⟩ := ready
  refine ⟨?_, h2, h3, h4, ?_, ?_, ?_, h8, h9, h10⟩
  · have hne : other.basis.source_dispatch_id ≠ prepared.dispatch_id := by
      rintro heq
      rw [heq, h.fresh] at h1
      cases h1
    rw [hrows]
    exact (Table.get?_set_ne _ hne _).trans h1
  · rw [hrows]
    exact h5
  · rw [hrows]
    exact h6
  · rw [hrows]
    exact h7

/-- One prepared lane of a plan. -/
structure PreparedFrom (stale : TaskDb) (plan : PausedTaskContinuationPlan) (source : OperatorContinueSource)
    (item : PreparedPausedContinuation) : Prop where
  source_mem : source ∈ plan.sources
  read : read_ordinary_dispatch_snapshot stale source.basis .paused (some plan.task.control_revision) =
    .ok (some item.snapshot)
  claim : item.claim = source.claim
  steering : item.prepared.steering = item.snapshot.steering

theorem prepare_paused_continuations_success {drawn : DrawnContinuations} {items : List PreparedPausedContinuation}
    (h : prepare_paused_continuations stale plan drawn = .ok items) {item : PreparedPausedContinuation}
    (hitem : item ∈ items) : ∃ source, PreparedFrom stale plan source item := by
  unfold prepare_paused_continuations at h
  rw [bind_eq_ok_iff] at h
  obtain ⟨candidates, hcandidates, hprepared⟩ := h
  obtain ⟨candidate, hcandidate, hprepare⟩ := mapM_ok_mem hprepared hitem
  obtain ⟨source, hsource, hread⟩ := mapM_ok_mem hcandidates hcandidate
  unfold prepare_paused_continuation at hprepare
  simp only [bind_eq_ok_iff, require_some_eq_ok_iff] at hprepare
  obtain ⟨request, -, hprepare⟩ := hprepare
  cases hprepare
  unfold read_paused_continuation at hread
  simp only [bind_eq_ok_iff, require_some_eq_ok_iff] at hread
  obtain ⟨_, hread, snapshot, rfl, hread'⟩ := hread
  cases hread'
  exact ⟨source, hsource, hread, rfl, rfl⟩

end OhMySubagents

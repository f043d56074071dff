import OhMySubagents.Lanes.Continuable
import OhMySubagents.System.ClosedDispatches
import OhMySubagents.System.SteeredPrompts
import OhMySubagents.System.TaskControl

open Relational

namespace OhMySubagents

/-- A Dispatch stays as it is, or it is live and does not stop without a consequence. -/
def DispatchTurn.Proceeds (dispatch dispatch' : DispatchTurn) : Prop :=
  dispatch' = dispatch ∨
    dispatch.is_live = true ∧ ∀ reason, dispatch'.status = .closed reason → reason.is_halt = false

/-- The Dispatches after a transaction that stops none of them without a consequence. -/
abbrev ProceedingRows (db : TaskDb) (dispatches : Table DispatchId DispatchTurn) : Prop :=
  Alters (fun (_ : DispatchId) dispatch => dispatch.is_live = true) (fun _ => DispatchTurn.Proceeds) db.dispatches
    dispatches

variable {controller : Controller} {db db' : TaskDb} {t : Transaction}

private theorem proceeding_same : ProceedingRows db db.dispatches := .refl (fun _ _ => .inl rfl) _

private theorem DispatchTurn.Proceeds.close {dispatch : DispatchTurn} (hlive : dispatch.is_live = true)
    {reason : DispatchClosedReason} (hreason : reason.is_halt = false) : dispatch.Proceeds (dispatch.close reason) :=
  .inr ⟨hlive, fun _ hclosed => by cases hclosed; exact hreason⟩

private theorem DispatchTurn.Proceeds.live {dispatch dispatch' : DispatchTurn} (hlive : dispatch.is_live = true)
    (hlive' : dispatch'.is_live = true) : dispatch.Proceeds dispatch' := by
  refine .inr ⟨hlive, fun reason hclosed => ?_⟩
  unfold DispatchTurn.is_live at hlive'
  rw [hclosed] at hlive'
  cases hlive'

private theorem StartsGeneration.is_live {signal : DispatchStartDue} {candidate : ProviderStartCandidate}
    {dispatch : DispatchTurn} (h : StartsGeneration db signal candidate dispatch) : dispatch.is_live = true := by
  obtain ⟨kind, hstatus⟩ := DispatchTurn.starting_of_next h.due
  simp [DispatchTurn.is_live, hstatus]

private theorem CheckpointCommitted.proceeding {authority : NodeOperationAuthority} {checkpoint_id : CheckpointId}
    {drawn : Option DrawnSemanticRetry} {outcome : Option BoundaryOutcome} {wave_id : Option WaveId}
    (hauth : AuthorityHolds db authority)
    (h : CheckpointCommitted db authority checkpoint_id drawn outcome wave_id db') :
    ProceedingRows db db'.dispatches := by
  have row : db.dispatches.get? authority.dispatch_id = some authority.dispatch := hauth.lane.dispatch_row
  have hclosed : ProceedingRows db (db.dispatches.set authority.dispatch_id (authority.dispatch.close .boundary)) :=
    .set (fun _ _ => .inl rfl) row (.close hauth.lane.live rfl)
  cases h with
  | progress => exact proceeding_same
  | child => exact hclosed
  | root => exact hclosed
  | @retry draw retried _ _ _ _ _ _ hretried staged =>
    obtain ⟨attempt, -, -, hinsert, rfl⟩ := stage_starting_dispatch_eq_ok.mp staged
    have hfresh := hinsert.fresh
    rw [hretried] at hfresh ⊢
    change (db.dispatches.set authority.dispatch_id (authority.dispatch.close .boundary)).get? _ = none at hfresh
    rw [Table.get?_set] at hfresh
    split at hfresh
    · cases hfresh
    · exact .set_add (fun _ _ => .inl rfl) row (.close hauth.lane.live rfl) hfresh rfl

private theorem DelegationCommitted.proceeding {authority : NodeOperationAuthority} {request : DelegateRequest}
    {wave_id : WaveId} {wait_id : WaitId} {rev : TeamRevision} {members : List PreparedWaveMember}
    {rows consumed dispatched : TaskDb} (hauth : AuthorityHolds db authority)
    (h : DelegationCommitted db authority request wave_id wait_id rev members rows consumed dispatched db') :
    ProceedingRows db db'.dispatches := by
  have htables := h.tables hauth
  have row : db.dispatches.get? authority.dispatch_id = some authority.dispatch := hauth.lane.dispatch_row
  refine .intro (fun d dispatch hrow => ?_) fun d dispatch hfresh hrow => ?_
  · by_cases hd : d = authority.dispatch_id
    · subst hd
      obtain rfl := Option.some.inj (row.symm.trans hrow)
      exact ⟨_, (htables.dispatches _ _).mpr (.inr (.inl ⟨rfl, rfl⟩)), .close hauth.lane.live rfl⟩
    · exact ⟨_, (htables.dispatches _ _).mpr (.inl ⟨hd, hrow⟩), .inl rfl⟩
  · rcases (htables.dispatches _ _).mp hrow with ⟨-, hold⟩ | ⟨rfl, -⟩ | ⟨member, hmember, hd, rfl⟩
    · rw [hfresh] at hold
      cases hold
    · rw [row] at hfresh
      cases hfresh
    · rfl

private theorem NodeOperationCommitted.proceeding {authority : NodeOperationAuthority} {operation : NodeOperation}
    (hauth : AuthorityHolds db authority) (h : NodeOperationCommitted db authority operation db') :
    ProceedingRows db db'.dispatches := by
  have row : db.dispatches.get? authority.dispatch_id = some authority.dispatch := hauth.lane.dispatch_row
  have hclosed : ∀ reason : DispatchClosedReason, reason.is_halt = false →
      ProceedingRows db (db.dispatches.set authority.dispatch_id (authority.dispatch.close reason)) :=
    fun reason hreason => .set (fun _ _ => .inl rfl) row (.close hauth.lane.live hreason)
  cases h with
  | get_current_context => exact proceeding_same
  | set_work_plan committed =>
    rcases set_assignment_work_plan_success committed with rfl | ⟨_, _, -, rfl⟩ <;> exact proceeding_same
  | checkpoint committed => exact committed.proceeding hauth
  | delegate committed => exact committed.proceeding hauth
  | replan committed =>
    rw [committed.result]
    exact hclosed .structural_replan rfl
  | open_human_request committed =>
    obtain ⟨-, -, -, rfl⟩ := open_human_request_success hauth committed
    exact hclosed .human_request_wait rfl
  | start_command_run committed =>
    obtain ⟨-, -, -, rfl⟩ := start_command_run_success hauth committed
    exact hclosed .command_run_wait rfl

/-- While a Task runs on, no Dispatch stops without a consequence. -/
theorem Committed.proceeding (h : Committed controller db t db') (hbefore : db.task.status = .running)
    (hafter : db'.task.status = .running) : ProceedingRows db db'.dispatches := by
  cases h with
  | unchanged => exact proceeding_same
  | admitted dispatch_id auth =>
    exact .set (fun _ _ => .inl rfl) auth.lane.dispatch_row (.live auth.lane.live auth.lane.live)
  | operated _ auth _ committed => exact committed.proceeding auth
  | wave_settled settled =>
    obtain ⟨_, _, _, _, -, -, -, -, -, -, -, -, -, -, -, rfl⟩ := settle_delegation_wave_success settled
    exact proceeding_same
  | opened read opened =>
    rw [opened.opened.dispatches]
    exact .add (fun _ _ => .inl rfl) opened.opened.fresh rfl
  | barrier moved => cases moved <;> exact proceeding_same
  | provider_start _ read recorded =>
    cases recorded with
    | accepted generation => exact .set (fun _ _ => .inl rfl) generation.row (.live generation.is_live rfl)
    | rotated generation => exact .set (fun _ _ => .inl rfl) generation.row (.live generation.is_live rfl)
    | paused paused =>
      rw [paused.paused.task] at hafter
      cases hafter
  | paused paused =>
    rw [paused.task] at hafter
    cases hafter
  | retired paused => cases paused.symm.trans hbefore
  | replaced _ _ replaced =>
    rw [replaced.result]
    exact .set_add (fun _ _ => .inl rfl) replaced.lane.dispatch_row (.close replaced.lane.live rfl) replaced.fresh rfl
  | human_resolved resolved =>
    rw [resolved.result]
    exact proceeding_same
  | launch_claimed => exact proceeding_same
  | marked_running => exact proceeding_same
  | cancellation_requested => exact proceeding_same
  | command_ended ended => cases ended.terminated <;> exact proceeding_same
  | continued _ continued => cases continued.paused.symm.trans hbefore
  | cancelled cancelled =>
    rw [cancelled.task] at hafter
    cases hafter
  | steered => exact proceeding_same

/-! # Every free lane of a running Task can go on -/

private theorem ProceedingRows.unhalted (h : ProceedingRows db db'.dispatches) : db.lanes.Unhalted db'.lanes := by
  intro d q' reason hq' hreason hhalt
  obtain ⟨dispatch', hrow', rfl⟩ := Table.view_eq_some.mp hq'
  have hclosed : dispatch'.status = .closed reason := DispatchStatus.closed_reason_eq_some.mp hreason
  cases hrow : db.dispatches.get? d with
  | none =>
    have hlive := h.added hrow hrow'
    simp [DispatchTurn.is_live, hclosed] at hlive
  | some dispatch =>
    obtain rfl | ⟨-, hproceeds⟩ := h.kept hrow hrow'
    · exact ⟨_, Table.view_eq_some.mpr ⟨_, hrow, rfl⟩, hreason⟩
    · cases (hproceeds reason hclosed).symm.trans hhalt

/-- A resume leaves no lane free. -/
private theorem TaskContinued.continuable {stale : TaskDb} {plan : PausedTaskContinuationPlan}
    {drawn : DrawnContinuations}
    {items : List PreparedPausedContinuation} (h : TaskContinued stale db plan drawn items db') (hsound : Sound db) :
    db'.lanes.Continuable := by
  intro _ a r hr hidle
  obtain ⟨attempt', hrow', rfl⟩ := Table.view_eq_some.mp hr
  obtain ⟨before, hbefore, hopens⟩ := h.opened.attempts.backward hrow'
  have hrunning : before.status = .running := by
    obtain rfl | ⟨-, d, rfl⟩ := hopens
    · exact hidle.running
    · exact hidle.running
  obtain ⟨attempt, hrow, hreset⟩ := Option.map_eq_some_iff.mp ((Table.get?_mapRows ..).symm.trans hbefore)
  have hstatus : attempt.status = .running := by
    rw [← hreset] at hrunning
    unfold Attempt.reset_watchdog at hrunning
    split at hrunning <;> exact hrunning
  obtain ⟨last, hlast, -, -, -, hparks⟩ := h.lane_resumed hsound hrow hstatus
  obtain rfl := Option.some.inj (hlast.symm.trans hrow')
  exact absurd hidle.no_wait (hparks hidle.no_dispatch)

/-- Only a resume makes a Task run that did not. -/
private theorem Committed.resumed (h : Committed controller db t db') (hbefore : db.task.status ≠ .running)
    (hafter : db'.task.status = .running) : ∃ stale plan drawn items, TaskContinued stale db plan drawn items db' := by
  cases h with
  | continued _ continued => exact ⟨_, _, _, _, continued⟩
  | admitted _ auth => exact absurd auth.lane.running hbefore
  | operated _ auth => exact absurd auth.lane.running hbefore
  | wave_settled settled =>
    obtain ⟨_, _, _, _, -, -, -, -, -, -, -, -, -, -, -, rfl⟩ := settle_delegation_wave_success settled
    exact absurd hafter hbefore
  | opened _ opened => exact absurd opened.running hbefore
  | barrier moved => exact absurd (moved.task ▸ hafter) hbefore
  | provider_start _ _ recorded =>
    cases recorded with
    | accepted generation => exact absurd generation.running hbefore
    | rotated generation => exact absurd generation.running hbefore
    | paused paused => exact absurd paused.paused.running hbefore
  | paused paused => exact absurd paused.running hbefore
  | retired => cases hafter
  | replaced _ _ replaced => exact absurd replaced.lane.running hbefore
  | human_resolved resolved =>
    rw [resolved.result] at hafter
    exact absurd hafter hbefore
  | command_ended ended => exact absurd (ended.terminated.task ▸ hafter) hbefore
  | cancelled cancelled =>
    rw [cancelled.task] at hafter
    cases hafter
  | unchanged | launch_claimed | marked_running | cancellation_requested | steered => exact absurd hafter hbefore

theorem Committed.continuable (hsound : Sound db) (h : Committed controller db t db')
    (hbefore : db.task.status = .running → db.lanes.Continuable) (hafter : db'.task.status = .running) :
    db'.lanes.Continuable := by
  by_cases hrunning : db.task.status = .running
  · exact (hbefore hrunning).steps hsound.lanes (h.steps hsound) (h.proceeding hrunning hafter).unhalted
  · obtain ⟨stale, plan, drawn, items, continued⟩ := h.resumed hrunning hafter
    exact continued.continuable hsound

/-- The resolved sources of a running Task are enough for its free lanes. -/
theorem Controller.continuable (h : controller.runtime.Reachable db) (hrunning : db.task.status = .running) :
    db.lanes.Continuable := by
  refine Controller.invariant (P := fun db => db.task.status = .running → db.lanes.Continuable) h ?_
    (fun _ _ _ hsound hcommitted hP => hcommitted.continuable hsound hP) hrunning
  intro input drawn db hstart _ _ a r hr hidle
  obtain ⟨-, request, basis, -, -, -, hdb⟩ := start_task_rows hstart
  obtain ⟨attempt, hrow, rfl⟩ := Table.view_eq_some.mp hr
  rw [hdb] at hrow
  dsimp only at hrow
  rw [Table.get?_set] at hrow
  split at hrow
  · cases hrow
    cases hidle.no_dispatch
  · cases hrow

/-- In every reachable state the members of a Wave belong to open children. -/
theorem Controller.enlisted (h : controller.runtime.Reachable db) : db.lanes.Enlisted := by
  refine Controller.invariant (P := fun db => db.lanes.Enlisted) h ?_
    fun _ _ _ hsound hcommitted hP => hP.steps hsound.lanes (hcommitted.steps hsound)
  intro input drawn db hstart
  obtain ⟨-, request, basis, -, -, -, hdb⟩ := start_task_rows hstart
  have hmembers : ∀ k, db.lanes.wave_members k = none := fun k => by
    rw [hdb]
    rfl
  refine ⟨fun k m hm => ?_, fun k m _ _ hm => ?_, fun k m _ _ hm => ?_⟩ <;>
  · rw [hmembers] at hm
    cases hm

/-! # Replans that go on -/

/-- Exactly a transition that opened its successor names it. -/
def ReplanTransition.NamesSuccessor (transition : ReplanTransition) : Prop :=
  transition.successor_state = .opened ↔ transition.successor_dispatch_id.isSome

/-- What one transaction does to a transition, its successor stays named. -/
abbrev TransitionRows (db db' : TaskDb) : Prop :=
  Alters (fun (_ : TransitionId) transition => transition.NamesSuccessor)
    (fun _ transition transition' => transition.NamesSuccessor → transition'.NamesSuccessor) db.replan_transitions
    db'.replan_transitions

private theorem transitions_same (h : db'.replan_transitions = db.replan_transitions) : TransitionRows db db' := by
  unfold TransitionRows
  rw [h]
  exact .refl (fun _ _ => id) _

private theorem SourceClaimed.transitions {claimed : TaskDb} {snapshot : OrdinaryDispatchSnapshot}
    {dispatch_id : DispatchId} (h : SourceClaimed db snapshot dispatch_id claimed) : TransitionRows db claimed := by
  cases h with
  | replan_transition row => exact .set (fun _ _ => id) row fun _ => ⟨fun _ => rfl, fun _ => rfl⟩
  | human_request => exact transitions_same rfl
  | command_run => exact transitions_same rfl
  | delegation_wave => exact transitions_same rfl
  | tail => exact transitions_same rfl

private theorem DispatchOpened.transitions {claimed : TaskDb} {snapshot : OrdinaryDispatchSnapshot}
    {prepared : PreparedDispatchRequest} {attempt : Attempt}
    (h : DispatchOpened db claimed db' snapshot prepared attempt) : TransitionRows db db' := by
  unfold TransitionRows
  rw [h.rows]
  exact h.claims.transitions

private theorem ContinuationsOpened.transitions {items : List PreparedPausedContinuation}
    (h : ContinuationsOpened items db db') : TransitionRows db db' := by
  induction h with
  | nil => exact transitions_same rfl
  | cons opened _ _ ih =>
    exact opened.transitions.trans (fun _ _ _ hnew hkeep => hkeep hnew) (fun _ _ _ _ hkeep hkeep' => hkeep' ∘ hkeep) ih

private theorem BarrierMoved.transitions {transition_id : TransitionId} (h : BarrierMoved db transition_id db') :
    TransitionRows db db' := by
  cases h with
  | unchanged => exact transitions_same rfl
  | projected row _ _ unfollowed =>
    exact .set (fun _ _ => id) row fun _ => by simp [ReplanTransition.NamesSuccessor, unfollowed]
  | repair_required row _ unfollowed =>
    exact .set (fun _ _ => id) row fun _ => by simp [ReplanTransition.NamesSuccessor, unfollowed]
  | opening_failed row can_continue =>
    obtain ⟨-, -, unfollowed⟩ := ReplanTransition.can_continue_iff.mp can_continue
    exact .set (fun _ _ => id) row fun _ => by simp [ReplanTransition.NamesSuccessor, unfollowed]

private theorem CheckpointCommitted.transitions {authority : NodeOperationAuthority} {checkpoint_id : CheckpointId}
    {drawn : Option DrawnSemanticRetry} {outcome : Option BoundaryOutcome} {wave_id : Option WaveId}
    (h : CheckpointCommitted db authority checkpoint_id drawn outcome wave_id db') :
    db'.replan_transitions = db.replan_transitions := by
  cases h with
  | progress => rfl
  | child => rfl
  | root => rfl
  | retry _ _ _ _ _ hretried staged =>
    obtain ⟨_, -, -, -, rfl⟩ := stage_starting_dispatch_eq_ok.mp staged
    rw [hretried]
    rfl

private theorem NodeOperationCommitted.transitions {authority : NodeOperationAuthority} {operation : NodeOperation}
    (hauth : AuthorityHolds db authority) (h : NodeOperationCommitted db authority operation db') :
    TransitionRows db db' := by
  cases h with
  | get_current_context => exact transitions_same rfl
  | set_work_plan committed =>
    rcases set_assignment_work_plan_success committed with rfl | ⟨_, _, -, rfl⟩ <;> exact transitions_same rfl
  | checkpoint committed => exact transitions_same committed.transitions
  | delegate committed => exact transitions_same (by rw [(committed.tables hauth).frame])
  | replan committed =>
    unfold TransitionRows
    rw [committed.result]
    exact .add (fun _ _ => id) committed.fresh (by simp [ReplanTransition.NamesSuccessor, new_replan_transition])
  | open_human_request committed =>
    obtain ⟨-, -, -, rfl⟩ := open_human_request_success hauth committed
    exact transitions_same rfl
  | start_command_run committed =>
    obtain ⟨-, -, -, rfl⟩ := start_command_run_success hauth committed
    exact transitions_same rfl

private theorem TaskCancelled.transitions {closed unwaited : TaskDb} (h : TaskCancelled db closed unwaited db') :
    TransitionRows db db' := by
  have hclosed : unwaited.replan_transitions = db.replan_transitions := by
    rw [h.dropped.frame]
    change closed.replan_transitions = _
    rw [h.halted.frame]
  unfold TransitionRows
  rw [h.rows, ← hclosed]
  refine .mapRows fun transition_id transition _ hnames => ?_
  split
  · next hcancellable =>
    obtain ⟨-, -, -, hnone⟩ := ReplanTransition.is_cancellable_iff.mp hcancellable
    simp [ReplanTransition.NamesSuccessor, ReplanTransition.cancel, hnone]
  · exact hnames

/-- Every transaction keeps the successors of the transitions named. -/
theorem Committed.transitions (h : Committed controller db t db') : TransitionRows db db' := by
  cases h with
  | unchanged => exact transitions_same rfl
  | admitted => exact transitions_same rfl
  | operated _ auth _ committed => exact committed.transitions auth
  | wave_settled settled =>
    obtain ⟨_, _, _, _, -, -, -, -, -, -, -, -, -, -, -, rfl⟩ := settle_delegation_wave_success settled
    exact transitions_same rfl
  | opened _ opened => exact opened.opened.transitions
  | barrier moved => exact moved.transitions
  | provider_start _ _ recorded =>
    cases recorded with
    | accepted => exact transitions_same rfl
    | rotated => exact transitions_same rfl
    | paused paused => exact transitions_same (by rw [paused.paused.halted.frame]; rfl)
  | paused paused => exact transitions_same (by rw [paused.halted.frame])
  | retired => exact transitions_same rfl
  | replaced _ _ replaced => exact transitions_same (by rw [replaced.result])
  | human_resolved resolved => exact transitions_same (by rw [resolved.result]; rfl)
  | launch_claimed => exact transitions_same rfl
  | marked_running => exact transitions_same rfl
  | cancellation_requested => exact transitions_same rfl
  | command_ended ended => cases ended.terminated <;> exact transitions_same rfl
  | continued _ continued => exact continued.opened.transitions
  | cancelled cancelled => exact cancelled.transitions
  | steered => exact transitions_same rfl

theorem Controller.transitions (h : controller.runtime.Reachable db) {transition_id : TransitionId}
    {transition : ReplanTransition} (hrow : db.replan_transitions.get? transition_id = some transition) :
    transition.NamesSuccessor := by
  refine Controller.invariant (P := fun db => ∀ transition_id transition,
    db.replan_transitions.get? transition_id = some transition → transition.NamesSuccessor) h
    (fun input drawn db hstart transition_id transition hrow => ?_)
    (fun t db db' _ hcommitted hP transition_id transition' hrow' => ?_) transition_id transition hrow
  · obtain ⟨-, request, basis, -, -, -, hdb⟩ := start_task_rows hstart
    rw [hdb] at hrow
    cases hrow
  · cases hrow : db.replan_transitions.get? transition_id with
    | none => exact hcommitted.transitions.added hrow hrow'
    | some before => exact hcommitted.transitions.kept hrow hrow' (hP transition_id before hrow)

/-! # What a cancellation leaves behind -/

/-- Only a settled Wave has a successor. -/
def DelegationWave.OpensSettled (wave : DelegationWave) : Prop :=
  wave.successor_dispatch_id.isSome = true → wave.status = .settled

/-- What one transaction does to a Wave, its successor is one of a settled Wave. -/
abbrev SuccessorWaveRows (db db' : TaskDb) : Prop :=
  Alters (fun (_ : WaveId) wave => wave.OpensSettled)
    (fun _ wave wave' => wave.OpensSettled → wave'.OpensSettled) db.delegation_waves db'.delegation_waves

private theorem successor_waves_same (h : db'.delegation_waves = db.delegation_waves) : SuccessorWaveRows db db' := by
  unfold SuccessorWaveRows
  rw [h]
  exact .refl (fun _ _ => id) _

private theorem DelegationWave.OpensSettled.of_none {wave : DelegationWave} (h : wave.successor_dispatch_id = none) :
    wave.OpensSettled := by
  intro hsome
  rw [h] at hsome
  cases hsome

private theorem SourceClaimed.successor_waves {claimed : TaskDb} {snapshot : OrdinaryDispatchSnapshot}
    {dispatch_id : DispatchId} (h : SourceClaimed db snapshot dispatch_id claimed) : SuccessorWaveRows db claimed := by
  cases h with
  | delegation_wave row settled => exact .set (fun _ _ => id) row fun _ _ => settled
  | replan_transition => exact successor_waves_same rfl
  | human_request => exact successor_waves_same rfl
  | command_run => exact successor_waves_same rfl
  | tail => exact successor_waves_same rfl

private theorem DispatchOpened.successor_waves {claimed : TaskDb} {snapshot : OrdinaryDispatchSnapshot}
    {prepared : PreparedDispatchRequest} {attempt : Attempt}
    (h : DispatchOpened db claimed db' snapshot prepared attempt) : SuccessorWaveRows db db' := by
  unfold SuccessorWaveRows
  rw [h.rows]
  exact h.claims.successor_waves

private theorem ContinuationsOpened.successor_waves {items : List PreparedPausedContinuation}
    (h : ContinuationsOpened items db db') : SuccessorWaveRows db db' := by
  induction h with
  | nil => exact successor_waves_same rfl
  | cons opened _ _ ih =>
    exact opened.successor_waves.trans (fun _ _ _ hnew hkeep => hkeep hnew)
      (fun _ _ _ _ hkeep hkeep' => hkeep' ∘ hkeep) ih

private theorem CheckpointCommitted.delegation_waves {authority : NodeOperationAuthority} {checkpoint_id : CheckpointId}
    {drawn : Option DrawnSemanticRetry} {outcome : Option BoundaryOutcome} {wave_id : Option WaveId}
    (h : CheckpointCommitted db authority checkpoint_id drawn outcome wave_id db') :
    db'.delegation_waves = db.delegation_waves := by
  cases h with
  | progress => rfl
  | child => rfl
  | root => rfl
  | retry _ _ _ _ _ hretried staged =>
    obtain ⟨_, -, -, -, rfl⟩ := stage_starting_dispatch_eq_ok.mp staged
    rw [hretried]
    rfl

private theorem NodeOperationCommitted.successor_waves {authority : NodeOperationAuthority} {operation : NodeOperation}
    (hauth : AuthorityHolds db authority) (h : NodeOperationCommitted db authority operation db') :
    SuccessorWaveRows db db' := by
  cases h with
  | get_current_context => exact successor_waves_same rfl
  | set_work_plan committed =>
    rcases set_assignment_work_plan_success committed with rfl | ⟨_, _, -, rfl⟩ <;> exact successor_waves_same rfl
  | checkpoint committed => exact successor_waves_same committed.delegation_waves
  | delegate committed =>
    have htables := committed.tables hauth
    unfold SuccessorWaveRows
    rw [htables.frame]
    exact .add (fun _ _ => id) htables.free_wave (.of_none rfl)
  | replan committed => exact successor_waves_same (by rw [committed.result])
  | open_human_request committed =>
    obtain ⟨-, -, -, rfl⟩ := open_human_request_success hauth committed
    exact successor_waves_same rfl
  | start_command_run committed =>
    obtain ⟨-, -, -, rfl⟩ := start_command_run_success hauth committed
    exact successor_waves_same rfl

private theorem DelegationWave.OpensSettled.of_gives_up {wave wave' : DelegationWave} (h : wave.OpensSettled)
    (hgives : wave.GivesUp wave') : wave'.OpensSettled := by
  obtain rfl | ⟨hcancellable, rfl⟩ := hgives
  · exact h
  · exact .of_none (DelegationWave.is_cancellable_iff.mp hcancellable).2

private theorem TaskCancelled.successor_waves {closed unwaited : TaskDb} (h : TaskCancelled db closed unwaited db') :
    SuccessorWaveRows db db' := by
  have hclosed : closed.delegation_waves = db.delegation_waves := by rw [h.halted.frame]
  have hdropped : SuccessorWaveRows db unwaited := by
    unfold SuccessorWaveRows
    rw [← hclosed]
    exact .of_evolves h.dropped.waves fun _ _ _ _ hgives hsettled => hsettled.of_gives_up hgives
  have hrows : SuccessorWaveRows unwaited db' := by
    unfold SuccessorWaveRows
    rw [h.rows]
    refine .mapRows fun _ wave _ hsettled => ?_
    split
    · next hcancellable => exact hsettled.of_gives_up (.inr ⟨hcancellable, rfl⟩)
    · exact hsettled
  exact hdropped.trans (fun _ _ _ hnew hkeep => hkeep hnew) (fun _ _ _ _ hkeep hkeep' => hkeep' ∘ hkeep) hrows

/-- Every transaction opens successors of settled Waves only. -/
theorem Committed.successor_waves (h : Committed controller db t db') : SuccessorWaveRows db db' := by
  cases h with
  | unchanged => exact successor_waves_same rfl
  | admitted => exact successor_waves_same rfl
  | operated _ auth _ committed => exact committed.successor_waves auth
  | wave_settled settled =>
    obtain ⟨_, _, _, _, -, row, -, unfollowed, -, -, -, -, -, -, -, rfl⟩ := settle_delegation_wave_success settled
    exact .set (fun _ _ => id) row fun _ => .of_none unfollowed
  | opened _ opened => exact opened.opened.successor_waves
  | barrier moved => cases moved <;> exact successor_waves_same rfl
  | provider_start _ _ recorded =>
    cases recorded with
    | accepted => exact successor_waves_same rfl
    | rotated => exact successor_waves_same rfl
    | paused paused => exact successor_waves_same (by rw [paused.paused.halted.frame]; rfl)
  | paused paused => exact successor_waves_same (by rw [paused.halted.frame])
  | retired => exact successor_waves_same rfl
  | replaced _ _ replaced => exact successor_waves_same (by rw [replaced.result])
  | human_resolved resolved => exact successor_waves_same (by rw [resolved.result]; rfl)
  | launch_claimed => exact successor_waves_same rfl
  | marked_running => exact successor_waves_same rfl
  | cancellation_requested => exact successor_waves_same rfl
  | command_ended ended => cases ended.terminated <;> exact successor_waves_same rfl
  | continued _ continued => exact continued.opened.successor_waves
  | cancelled cancelled => exact cancelled.successor_waves
  | steered => exact successor_waves_same rfl

/-- In every reachable state, a Wave that has a successor is settled. -/
theorem Controller.successor_waves (h : controller.runtime.Reachable db) {wave_id : WaveId} {wave : DelegationWave}
    (hrow : db.delegation_waves.get? wave_id = some wave) : wave.OpensSettled := by
  refine Controller.invariant (P := fun db => ∀ wave_id wave,
    db.delegation_waves.get? wave_id = some wave → wave.OpensSettled) h
    (fun input drawn db hstart wave_id wave hrow => ?_)
    (fun t db db' _ hcommitted hP wave_id wave' hrow' => ?_) wave_id wave hrow
  · obtain ⟨-, request, basis, -, -, -, hdb⟩ := start_task_rows hstart
    rw [hdb] at hrow
    cases hrow
  · cases hrow : db.delegation_waves.get? wave_id with
    | none => exact hcommitted.successor_waves.added hrow hrow'
    | some before => exact hcommitted.successor_waves.kept hrow hrow' (hP wave_id before hrow)

/-- A cancellation gives up everything that a Task may still do, in its one transaction, and for all time. -/
structure CancellationComplete (controller : Controller) (db db' : TaskDb) : Prop where
  cancelled : db'.task = db.task.cancel
  dispatches : ∀ d dispatch, db'.dispatches.get? d = some dispatch → dispatch.is_live = false
  attempts : ∀ a attempt, db'.attempts.get? a = some attempt → attempt.status.is_active = false
  waits : ∀ w, db'.attempt_waits.get? w = none
  requests : ∀ request_id request, db'.human_requests.get? request_id = some request → request.status ≠ .open
  waves : ∀ w wave, db'.delegation_waves.get? w = some wave →
    wave.status ≠ .open ∧ (wave.status = .settled → wave.successor_dispatch_id.isSome)
  members : ∀ k member, db'.delegation_wave_members.get? k = some member → member.status ≠ .pending
  runs : ∀ run_id run, db.command_runs.get? run_id = some run → run.state.is_terminal = false →
    ∃ run', db'.command_runs.get? run_id = some run' ∧ run'.state = .cancellation_requested
  transitions : ∀ id transition, db'.replan_transitions.get? id = some transition →
    transition.successor_state.is_ended = true
  final : ∀ db'', controller.runtime.Path db' db'' → db''.task.status = .cancelled ∧
    ∀ d, (db''.dispatches.get? d).isSome = (db'.dispatches.get? d).isSome

/-- Every transition that has not ended leads to the Team revision that is current now. -/
def ReplansCurrent (db : TaskDb) : Prop :=
  ∀ id transition, db.replan_transitions.get? id = some transition → transition.successor_state.is_ended = false →
    transition.successor_team_revision_id = db.task.current_team_revision_id

theorem ReplanTransition.NamesSuccessor.unfollowed {transition : ReplanTransition} (h : transition.NamesSuccessor)
    (hended : transition.successor_state.is_ended = false) : transition.successor_dispatch_id = none := by
  rw [← Option.not_isSome_iff_eq_none]
  intro hsome
  rw [h.mpr hsome] at hended
  cases hended

namespace TaskCancelled

variable {closed unwaited : TaskDb}

theorem replan_transitions (h : TaskCancelled db closed unwaited db') :
    db'.replan_transitions = db.replan_transitions.mapRows fun _ transition =>
      if transition.is_cancellable db.task.current_team_revision_id then transition.cancel else transition := by
  have htask : unwaited.task.current_team_revision_id = db.task.current_team_revision_id := by
    rw [h.dropped.frame]
    change closed.task.current_team_revision_id = _
    rw [h.halted.frame]
    rfl
  have hclosed : unwaited.replan_transitions = db.replan_transitions := by
    rw [h.dropped.frame]
    change closed.replan_transitions = _
    rw [h.halted.frame]
  rw [h.rows, ← htask, ← hclosed]
  rfl

/-- Exactly the transitions into the current Team revision are given up. -/
theorem transitions_ended_iff (h : TaskCancelled db closed unwaited db') (hreachable : controller.runtime.Reachable db) :
    (∀ id transition, db'.replan_transitions.get? id = some transition → transition.successor_state.is_ended = true) ↔
      ReplansCurrent db := by
  have hget : ∀ id, db'.replan_transitions.get? id = (db.replan_transitions.get? id).map fun transition =>
      if transition.is_cancellable db.task.current_team_revision_id then transition.cancel else transition := by
    intro id
    rw [h.replan_transitions]
    exact Table.get?_mapRows ..
  constructor
  · intro hended id transition hrow hunended
    by_contra hne
    have hkept : transition.is_cancellable db.task.current_team_revision_id = false := by
      rw [Bool.eq_false_iff]
      exact fun hcancellable => hne (ReplanTransition.is_cancellable_iff.mp hcancellable).1
    have hlast := hended id transition (by rw [hget, hrow, Option.map_some, hkept]; rfl)
    rw [hunended] at hlast
    cases hlast
  · intro hcurrent id transition' hrow'
    rw [hget] at hrow'
    obtain ⟨transition, hrow, rfl⟩ := Option.map_eq_some_iff.mp hrow'
    split
    · rfl
    · next hkept =>
      rw [← Bool.not_eq_false]
      intro hunended
      have hnone := (Controller.transitions hreachable hrow).unfollowed hunended
      refine hkept (ReplanTransition.is_cancellable_iff.mpr ⟨hcurrent id transition hrow hunended, ?_, ?_, hnone⟩)
      · rintro hstate
        rw [hstate] at hunended
        cases hunended
      · rintro hstate
        rw [hstate] at hunended
        cases hunended

/-- Every active Attempt is cancelled, and every pending Wave member. -/
theorem attempt_ended {a : AttemptId} {attempt' : Attempt} (h : TaskCancelled db closed unwaited db')
    (hrow' : db'.attempts.get? a = some attempt') : attempt'.status.is_active = false := by
  rw [h.rows] at hrow'
  obtain ⟨attempt, -, rfl⟩ := Option.map_eq_some_iff.mp ((Table.get?_mapRows ..).symm.trans hrow')
  unfold Attempt.cancel
  split
  · rfl
  · next hended => exact Bool.eq_false_iff.mpr hended

theorem member_ended {k : WaveId × Nat} {member' : DelegationWaveMember} (h : TaskCancelled db closed unwaited db')
    (hrow' : db'.delegation_wave_members.get? k = some member') : member'.status ≠ .pending := by
  rw [h.rows] at hrow'
  obtain ⟨member, -, rfl⟩ := Option.map_eq_some_iff.mp ((Table.get?_mapRows ..).symm.trans hrow')
  unfold DelegationWaveMember.cancel
  split
  · rintro ⟨⟩
  · next hended => exact hended

/-- A command that had not ended is asked to stop. -/
theorem run_asked {run_id : RunId} {run : CommandRun} (h : TaskCancelled db closed unwaited db')
    (hrest : AtRest db') (hrow : db.command_runs.get? run_id = some run) (hlive : run.state.is_terminal = false) :
    ∃ run', db'.command_runs.get? run_id = some run' ∧ run'.state = .cancellation_requested := by
  obtain ⟨run', hrow', hgives⟩ := h.run hrow
  refine ⟨run', hrow', ?_⟩
  obtain rfl | ⟨-, requested_at, rfl⟩ := hgives
  · exact (hrest.runs run_id run' hrow').resolve_left (Bool.eq_false_iff.mp hlive)
  · rfl

end TaskCancelled

/-- A cancellation is complete exactly when no replan of another lane has advanced the Team past a transition that has
    not ended: `_cancel_pending_replan_transition` looks for the current Team revision only. -/
theorem cancellation_complete_iff {snapshot : ControlSnapshot} {actor : CancellationActor} {cancelled_at : Instant}
    (hreachable : controller.runtime.Reachable db) (h : cancel_task db snapshot actor cancelled_at = .ok db') :
    CancellationComplete controller db db' ↔ ReplansCurrent db := by
  have hsound := Controller.sound hreachable
  have hcommit : (Transaction.cancel_task snapshot actor cancelled_at).commit controller db = some db' :=
    toOption_eq_some_iff.mpr h
  have hreachable' : controller.runtime.Reachable db' := hreachable.step rfl hcommit
  obtain ⟨closed, unwaited, hcancelled, -⟩ := cancel_task_success hsound.lanes h
  have hended := hcancelled.ended
  have hrest := (Controller.waits_owned hreachable').at_rest (Controller.sound hreachable') hended
  refine ⟨fun hcomplete => (hcancelled.transitions_ended_iff hreachable).mp hcomplete.transitions, fun hcurrent => ?_⟩
  exact {
    cancelled := hcancelled.task
    dispatches := hrest.nothing_live.dispatches
    attempts := fun _ _ => hcancelled.attempt_ended
    waits := hrest.nothing_live.waits
    requests := hrest.requests
    waves := fun w wave hrow => by
      have hsettled := Controller.successor_waves hreachable' hrow
      rcases hrest.nothing_live.waves w wave hrow with hstatus | hsome
      · simp [hstatus]
      · simp [hsettled hsome, hsome]
    members := fun _ _ => hcancelled.member_ended
    runs := fun _ _ => hcancelled.run_asked hrest
    transitions := (hcancelled.transitions_ended_iff hreachable).mpr hcurrent
    final := fun db'' hpath => by
      have hsettled := Controller.path_settled hended hpath
      refine ⟨by rw [Controller.path_task hended hpath, hcancelled.task]; rfl, fun d => ?_⟩
      have hlanes : (db''.lanes.dispatches d).isSome = (db'.lanes.dispatches d).isSome := by rw [hsettled.dispatches]
      simpa only [TaskDb.lanes_dispatches, Table.view, Option.isSome_map] using hlanes }

instance (db : TaskDb) : Decidable (ReplansCurrent db) :=
  decidable_of_iff ((db.replan_transitions.any fun _ transition => !transition.successor_state.is_ended &&
    transition.successor_team_revision_id != db.task.current_team_revision_id) = false) <| by
  simp [Table.any_eq_false_iff, ReplansCurrent]

/-- The first manager grows its own branch. -/
def first_manager_grows : Move := .replan 2 (.add_child (.mk ⟨6, 6, 6⟩ two_managers.plain [])) 2 1

/-- The second manager grows its own branch after that. -/
def second_manager_grows : Move := .replan 3 (.add_child (.mk ⟨7, 7, 7⟩ two_managers.plain [])) 3 2

/-- One manager waits for a human, and the other one for its successor after a replan. -/
theorem cancellation_complete_asked_and_grown : ∃ db db', db.human_requests.get? 1 = some
      { asked_question with assignment_id := 3, attempt_id := 3, source_dispatch_id := 3 } ∧
    (∃ transition, db.replan_transitions.get? 1 = some transition ∧ transition.successor_state = .blocked) ∧
    CancellationComplete plain_controller db db' := by
  obtain ⟨db, hreachable, hcancels⟩ := reachable_of_replay (managers_at_work ++ [.ask 3 1, first_manager_grows])
    (P := fun db => db.human_requests.get? 1 ==
        some { asked_question with assignment_id := 3, attempt_id := 3, source_dispatch_id := 3 } &&
      (db.replan_transitions.get? 1).any (·.successor_state == .blocked) && decide (ReplansCurrent db) &&
      (cancel_task db ⟨2, 0⟩ ⟨none, .control_api⟩ 3).toOption.isSome) (by decide +kernel)
  simp only [Bool.and_eq_true, beq_iff_eq, Option.any_eq_true, decide_eq_true_eq, Option.isSome_iff_exists] at hcancels
  obtain ⟨⟨⟨hasked, hblocked⟩, hcurrent⟩, db', hcancel⟩ := hcancels
  exact ⟨db, db', hasked, hblocked,
    (cancellation_complete_iff hreachable (toOption_eq_some_iff.mp hcancel)).mpr hcurrent⟩

/-- After the replan of the other manager, the cancellation passes over the transition of the first one. -/
theorem cancellation_leaves_replan : ∃ db db', plain_controller.runtime.Reachable db ∧ db.task.status = .running ∧
    cancel_task db ⟨3, 0⟩ ⟨none, .control_api⟩ 3 = .ok db' ∧
    (∃ transition, db'.replan_transitions.get? 1 = some transition ∧ transition.successor_state = .blocked) ∧
    ¬ CancellationComplete plain_controller db db' := by
  obtain ⟨db, hreachable, hcancels⟩ := reachable_of_replay
    (managers_at_work ++ [first_manager_grows, second_manager_grows])
    (P := fun db => db.task.status == .running &&
      (cancel_task db ⟨3, 0⟩ ⟨none, .control_api⟩ 3).toOption.any fun db' =>
        (db'.replan_transitions.get? 1).any (·.successor_state == .blocked)) (by decide +kernel)
  simp only [Bool.and_eq_true, beq_iff_eq, Option.any_eq_true] at hcancels
  obtain ⟨hrunning, db', hcancel, transition, hrow, hblocked⟩ := hcancels
  refine ⟨db, db', hreachable, hrunning, toOption_eq_some_iff.mp hcancel, ⟨transition, hrow, hblocked⟩,
    fun hcomplete => ?_⟩
  have hended := hcomplete.transitions 1 transition hrow
  rw [hblocked] at hended
  cases hended

end OhMySubagents

import OhMySubagents.CommandRun.ProcessOwner
import OhMySubagents.HumanRequest.Service
import OhMySubagents.Launch.Bootstrap
import OhMySubagents.NodeOperations.Executor
import OhMySubagents.Product.MemberSteering
import OhMySubagents.Providers.Starter
import OhMySubagents.Relational.Runs
import OhMySubagents.TaskControl.CancelledTask
import OhMySubagents.TaskControl.ContinuedTask
import OhMySubagents.Watchdog.Recovery
import OhMySubagents.Control.Transitions
import OhMySubagents.Dispatch.ContinuationOpenings

open Relational

namespace OhMySubagents

/-- What every transaction of one controller shares. -/
structure Controller where
  settings : RuntimeSettings
  steer_ids : SteerActionIds
  is_retired_provider : String → Bool
  schema_validator : SchemaValidator

/-- One database transaction of the runtime, with everything that it is told, draws or read before. -/
inductive Transaction
  | admit_node_operation (scope : NodeOperationScope) (operation : NodeOperation) (is_capability_allowed : Bool)
      (occurred_at : Instant)
  | commit_node_operation (scope : NodeOperationScope) (operation : NodeOperation) (is_capability_allowed : Bool)
  | settle_delegation_wave (wave_id : WaveId)
  | open_delegation_wave_successor (stale : TaskDb) (wave_id : WaveId) (drawn : Option DrawnDispatchRequest)
  | open_human_request_successor (stale : TaskDb) (request_id : RequestId) (drawn : Option DrawnDispatchRequest)
  | open_command_run_successor (stale : TaskDb) (run_id : RunId) (drawn : Option DrawnDispatchRequest)
  | ensure_replan_manifest_current (stale projected : TaskDb) (transition_id : TransitionId) (written : Bool)
  | open_replan_successor (stale : TaskDb) (transition_id : TransitionId) (drawn : Option DrawnDispatchRequest)
  | open_root_dispatch (stale : TaskDb) (drawn : Option DrawnDispatchRequest)
  | start_due_dispatch (stale : TaskDb) (signal : DispatchStartDue) (handling : ProviderStartHandling)
      (observed_at recorded_at : Instant)
  | recover_stale_dispatch (stale reread : TaskDb) (signal : WatchdogDue) (observed_at committed_at : Instant)
      (preparation : WatchdogPreparation)
  | resolve_human_request (request_id : RequestId) (item_responses : List (String × HumanRequestItemAnswer))
      (actor_ref : Option String) (resolved_by_surface : HumanRequestResolutionSurface) (resolved_at : Instant)
  | expire_human_request (signal : HumanRequestDue) (now : Instant)
  | claim_command_run_launch (run_id : RunId) (owner_ref : String) (claimed_at : Instant)
  | mark_command_run_running (claim : CommandRunLaunchClaim) (owner_ref : String) (pid : Nat) (started_at : Instant)
      (due_at : Option Instant)
  | cancel_command_run (run_id : RunId) (requested_at : Instant)
  | end_command_run (ending : CommandRunEnding) (now : Instant)
  | pause_task (snapshot : ControlSnapshot)
  | pause_task_for_unavailable_workspace
  | pause_task_using_retired_provider
  | continue_task (checked stale : TaskDb) (snapshot : ControlSnapshot) (workspace_available : Bool)
      (drawn : DrawnContinuations) (drawn_root : Option DrawnDispatchRequest)
  | cancel_task (snapshot : ControlSnapshot) (actor : CancellationActor) (cancelled_at : Instant)
  | steer_product_task_member (stale counted : TaskDb) (member_id : MemberId) (request : MemberSteerRequest)
      (outcome : Option ProviderSteerOutcome) (occurred_at : Instant)

namespace Transaction

/-- The rows that a transaction uses although they were read before it began. -/
def reads : Transaction → List TaskDb
  | open_delegation_wave_successor stale _ _ | open_human_request_successor stale _ _
  | open_command_run_successor stale _ _ | open_replan_successor stale _ _ | open_root_dispatch stale _
  | start_due_dispatch stale _ _ _ _ => [stale]
  | ensure_replan_manifest_current stale projected _ _ => [stale, projected]
  | recover_stale_dispatch stale reread _ _ _ _ => [stale, reread]
  | continue_task checked stale _ _ _ _ => [checked, stale]
  | commit_node_operation _ operation _ => operation.reads
  | steer_product_task_member stale counted _ _ _ _ => [stale, counted]
  | _ => []

/-- The rows that a transaction commits; empty when it is rolled back. -/
def commit (controller : Controller) (db : TaskDb) : Transaction → Option TaskDb
  | admit_node_operation scope operation is_capability_allowed occurred_at =>
    (OhMySubagents.admit_node_operation db scope operation is_capability_allowed occurred_at).toOption
  | commit_node_operation scope operation is_capability_allowed =>
    (OhMySubagents.commit_node_operation db scope operation is_capability_allowed).toOption
  | settle_delegation_wave wave_id => (OhMySubagents.settle_delegation_wave db wave_id).toOption.map Prod.snd
  | open_delegation_wave_successor stale wave_id drawn =>
    (OhMySubagents.open_delegation_wave_successor stale db wave_id drawn).toOption.map Prod.snd
  | open_human_request_successor stale request_id drawn =>
    (OhMySubagents.open_human_request_successor stale db request_id drawn).toOption.map Prod.snd
  | open_command_run_successor stale run_id drawn =>
    (OhMySubagents.open_command_run_successor stale db run_id drawn).toOption.map Prod.snd
  | ensure_replan_manifest_current stale projected transition_id written =>
    some (OhMySubagents.ensure_replan_manifest_current stale projected db transition_id written).2
  | open_replan_successor stale transition_id drawn =>
    (OhMySubagents.open_replan_successor stale db transition_id drawn).toOption.map Prod.snd
  | open_root_dispatch stale drawn => (OhMySubagents.open_root_dispatch stale db drawn).toOption.map Prod.snd
  | start_due_dispatch stale signal handling observed_at recorded_at =>
    OhMySubagents.start_due_dispatch controller.settings stale db signal handling observed_at recorded_at
  | recover_stale_dispatch stale reread signal observed_at committed_at preparation =>
    (OhMySubagents.recover_stale_dispatch controller.settings stale reread db signal observed_at committed_at
      preparation).toOption.map Prod.snd
  | resolve_human_request request_id item_responses actor_ref resolved_by_surface resolved_at =>
    (OhMySubagents.resolve_human_request controller.schema_validator db request_id item_responses actor_ref
      resolved_by_surface resolved_at).toOption
  | expire_human_request signal now => (OhMySubagents.expire_human_request db signal now).toOption.map Prod.snd
  | claim_command_run_launch run_id owner_ref claimed_at =>
    (OhMySubagents.claim_command_run_launch db run_id owner_ref claimed_at).map Prod.snd
  | mark_command_run_running claim owner_ref pid started_at due_at =>
    OhMySubagents.mark_command_run_running db claim owner_ref pid started_at due_at
  | cancel_command_run run_id requested_at =>
    (OhMySubagents.cancel_command_run db run_id requested_at).toOption.map Prod.snd
  | end_command_run ending now => (OhMySubagents.end_command_run db ending now).toOption.map Prod.snd
  | pause_task snapshot => (OhMySubagents.pause_task db snapshot).toOption
  | pause_task_for_unavailable_workspace => (OhMySubagents.pause_task_for_unavailable_workspace db).toOption
  | pause_task_using_retired_provider =>
    OhMySubagents.pause_task_using_retired_provider db controller.is_retired_provider
  | continue_task checked stale snapshot workspace_available drawn drawn_root =>
    (OhMySubagents.continue_task checked stale db snapshot workspace_available drawn drawn_root).toOption
  | cancel_task snapshot actor cancelled_at => (OhMySubagents.cancel_task db snapshot actor cancelled_at).toOption
  | steer_product_task_member stale counted member_id request outcome occurred_at =>
    (OhMySubagents.steer_product_task_member controller.steer_ids stale counted db member_id request outcome
      occurred_at).toOption.map Prod.snd

end Transaction

/-- The runtime of one Task: its admission, then any order of its transactions. A signal that is lost, delayed
    or handled twice is a transaction that comes never, late or twice. -/
def Controller.runtime (controller : Controller) : Transactional TaskDb Transaction where
  start db := ∃ input drawn, start_task input drawn = .ok db
  reads := Transaction.reads
  commit t db db' := t.commit controller db = some db'

/-- What holds of the rows after the admission of a Task and after every transaction. -/
structure Sound (db : TaskDb) : Prop where
  lanes : db.lanes.Invariant
  result : db.lanes.Result
  started : db.task_start_source.successor_dispatch_id.isSome

/-- Everything that one committed transaction can do to the rows. -/
inductive Committed (controller : Controller) (db : TaskDb) : Transaction → TaskDb → Prop
  | unchanged {t} : Committed controller db t db
  | admitted {scope operation allowed occurred_at authority} (dispatch_id : authority.dispatch_id = scope.dispatch_id)
      (auth : AuthorityHolds db authority) :
      Committed controller db (.admit_node_operation scope operation allowed occurred_at)
        { db with
          dispatches := db.dispatches.set authority.dispatch_id (authority.dispatch.refresh_activity occurred_at) }
  | operated {scope operation allowed authority db'} (dispatch_id : authority.dispatch_id = scope.dispatch_id)
      (auth : AuthorityHolds db authority)
      (unowned : operation.is_read = false → dispatch_already_owns_source db authority = false)
      (committed : NodeOperationCommitted db authority operation db') :
      Committed controller db (.commit_node_operation scope operation allowed) db'
  | wave_settled {wave_id db'} (settled : settle_delegation_wave db wave_id = .ok (true, db')) :
      Committed controller db (.settle_delegation_wave wave_id) db'
  | opened {t stale snapshot prepared claimed attempt db'} (read : stale ∈ t.reads)
      (opened : ContinuationOpened stale db snapshot prepared claimed attempt db') : Committed controller db t db'
  | barrier {t transition_id db'} (moved : BarrierMoved db transition_id db') : Committed controller db t db'
  | provider_start {stale signal handling observed_at recorded_at candidate db'} (due : signal.due_at ≤ observed_at)
      (read : read_provider_start_candidate stale signal = some candidate)
      (recorded : ProviderStartRecorded controller.settings db signal candidate recorded_at db') :
      Committed controller db (.start_due_dispatch stale signal handling observed_at recorded_at) db'
  | paused {t reason db'} (paused : TaskPaused db db' reason) : Committed controller db t db'
  | retired (paused : db.task.status = .paused) :
      Committed controller db .pause_task_using_retired_provider
        { db with task := db.task.pause .provider_retired }
  | replaced {stale reread signal observed_at committed_at request snapshot source assignment attempt db'}
      (read : read_watchdog_recovery_snapshot stale signal observed_at
        controller.settings.watchdog_inactivity_timeout_seconds = some snapshot)
      (limit : snapshot.watchdog_replacement_count < controller.settings.watchdog_same_attempt_replacement_limit)
      (replaced : WatchdogReplaced db snapshot (prepare_dispatch_request request snapshot.dispatch.steering)
        committed_at source assignment attempt db') :
      Committed controller db (.recover_stale_dispatch stale reread signal observed_at committed_at (.drawn request))
        db'
  | human_resolved {t request_id status resolution request wait_id attempt db'}
      (resolved : HumanRequestResolved db request_id status resolution request wait_id attempt db')
      (outcome : status = .resolved ∨ status = .timed_out ∧
        ∃ due_at, request.due_at = some due_at ∧ due_at ≤ resolution.resolved_at) : Committed controller db t db'
  | launch_claimed {run_id owner_ref claimed_at run} (row : db.command_runs.get? run_id = some run)
      (pending : run.state = .pending_start) (unowned : run.ownership_revision = 0) :
      Committed controller db (.claim_command_run_launch run_id owner_ref claimed_at)
        { db with command_runs := db.command_runs.set run_id (run.claim_launch owner_ref claimed_at) }
  | marked_running {claim owner_ref pid started_at due_at run} (row : db.command_runs.get? claim.run_id = some run)
      (pending : run.state = .pending_start) (owned : run.ownership_revision = claim.ownership_revision) :
      Committed controller db (.mark_command_run_running claim owner_ref pid started_at due_at)
        { db with
          command_runs := db.command_runs.set claim.run_id (run.mark_running owner_ref pid started_at due_at) }
  | cancellation_requested {run_id requested_at run} (row : db.command_runs.get? run_id = some run)
      (live : run.state = .pending_start ∨ run.state = .running)
      (waiting : current_command_wait_exists db run_id run false = true) :
      Committed controller db (.cancel_command_run run_id requested_at)
        { db with command_runs := db.command_runs.set run_id (run.request_cancellation requested_at) }
  | command_ended {ending now request run output db'}
      (ended : CommandRunEnded db ending.run_id run request output db') :
      Committed controller db (.end_command_run ending now) db'
  | continued {checked stale snapshot workspace_available drawn drawn_root plan items db'}
      (resumable : require_resumable checked snapshot workspace_available = .ok ())
      (continued : TaskContinued stale db plan drawn items db') :
      Committed controller db (.continue_task checked stale snapshot workspace_available drawn drawn_root) db'
  | cancelled {snapshot actor cancelled_at closed unwaited db'} (cancelled : TaskCancelled db closed unwaited db')
      (steps : Lanes.Steps db.lanes db'.lanes) :
      Committed controller db (.cancel_task snapshot actor cancelled_at) db'
  | steered {stale counted member_id request occurred_at source}
      (read : read_requested_steer controller.steer_ids stale counted member_id request = .ok (some source))
      (fresh : ∀ event ∈ db.member_steered_events, event.event_id ≠ controller.steer_ids.event_id request.action_id) :
      Committed controller db (.steer_product_task_member stale counted member_id request (some .delivered) occurred_at)
        { db with
          member_steered_events := db.member_steered_events ++
            [source.event request (controller.steer_ids.event_id request.action_id) occurred_at] }

variable {controller : Controller} {db db' : TaskDb} {t : Transaction}

private theorem Committed.of_handled {stale : TaskDb} (hread : stale ∈ t.reads) (h : ContinuationHandled stale db db') :
    Committed controller db t db' := by
  cases h with
  | skipped => exact .unchanged
  | paused hpaused => exact .paused hpaused
  | opened hopened => exact .opened hread hopened

theorem toOption_snd_eq_some {α : Type} {x : Result (α × TaskDb)} (h : x.toOption.map Prod.snd = some db') :
    ∃ a, x = .ok (a, db') := by
  obtain ⟨⟨a, _⟩, hx, rfl⟩ := Option.map_eq_some_iff.mp h
  exact ⟨a, toOption_eq_some_iff.mp hx⟩

private theorem recover_stale_dispatch_committed {stale reread : TaskDb} {signal : WatchdogDue}
    {observed_at committed_at : Instant} {preparation : WatchdogPreparation} {outcome : OrdinaryOpeningOutcome}
    (h : recover_stale_dispatch controller.settings stale reread db signal observed_at committed_at preparation =
      .ok (outcome, db')) :
    Committed controller db (.recover_stale_dispatch stale reread signal observed_at committed_at preparation) db' := by
  rcases recover_stale_dispatch_cases h with ⟨rfl, -⟩ | ⟨snapshot, -, -, hpaused, -⟩ | ⟨hpaused, -⟩ |
    ⟨snapshot, request, hread, hlimit, rfl, hcommit, -⟩
  · exact .unchanged
  · exact .paused (pause_watchdog_snapshot_success hpaused)
  · exact .paused (pause_failed_watchdog_signal_success hpaused)
  · obtain ⟨source, assignment, attempt, hreplaced⟩ := commit_watchdog_replacement_success hcommit
    exact .replaced hread hlimit hreplaced

/-- A transaction that commits does one of these things. -/
theorem commit_success (hsound : Sound db) (h : t.commit controller db = some db') : Committed controller db t db' := by
  cases t with
  | admit_node_operation scope operation allowed occurred_at =>
    obtain ⟨authority, hid, hauth, rfl⟩ := admit_node_operation_success (toOption_eq_some_iff.mp h)
    exact .admitted hid hauth
  | commit_node_operation scope operation allowed =>
    obtain ⟨authority, hid, hauth, hunowned, hcommitted⟩ := commit_node_operation_success (toOption_eq_some_iff.mp h)
    exact .operated hid hauth hunowned hcommitted
  | settle_delegation_wave wave_id =>
    obtain ⟨settled, h⟩ := toOption_snd_eq_some h
    cases settled with
    | true => exact .wave_settled h
    | false =>
      obtain rfl := settle_delegation_wave_skipped h
      exact .unchanged
  | open_delegation_wave_successor stale wave_id drawn =>
    obtain ⟨outcome, h⟩ := toOption_snd_eq_some h
    exact .of_handled (by simp [Transaction.reads]) (open_delegation_wave_successor_handled hsound.lanes h)
  | open_human_request_successor stale request_id drawn =>
    obtain ⟨outcome, h⟩ := toOption_snd_eq_some h
    exact .of_handled (by simp [Transaction.reads]) (open_human_request_successor_handled hsound.lanes h)
  | open_command_run_successor stale run_id drawn =>
    obtain ⟨outcome, h⟩ := toOption_snd_eq_some h
    exact .of_handled (by simp [Transaction.reads]) (open_command_run_successor_handled hsound.lanes h)
  | ensure_replan_manifest_current stale projected transition_id written =>
    cases h
    exact .barrier (ensure_replan_manifest_current_moved rfl)
  | open_replan_successor stale transition_id drawn =>
    obtain ⟨outcome, h⟩ := toOption_snd_eq_some h
    rcases open_replan_successor_handled hsound.lanes h with hmoved | ⟨_, _, _, _, hopened⟩
    · exact .barrier hmoved
    · exact .opened (by simp [Transaction.reads]) hopened
  | open_root_dispatch stale drawn =>
    obtain ⟨outcome, h⟩ := toOption_snd_eq_some h
    obtain rfl := open_root_dispatch_consumed hsound.started h
    exact .unchanged
  | start_due_dispatch stale signal handling observed_at recorded_at =>
    obtain ⟨hdue, candidate, hread, hrecorded⟩ := start_due_dispatch_success h
    exact .provider_start hdue hread hrecorded
  | recover_stale_dispatch stale reread signal observed_at committed_at preparation =>
    obtain ⟨outcome, h⟩ := toOption_snd_eq_some h
    exact recover_stale_dispatch_committed h
  | resolve_human_request request_id item_responses actor_ref resolved_by_surface resolved_at =>
    obtain ⟨request, wait_id, attempt, -, hresolved⟩ := resolve_human_request_success (toOption_eq_some_iff.mp h)
    exact .human_resolved hresolved (.inl rfl)
  | expire_human_request signal now =>
    obtain ⟨won, h⟩ := toOption_snd_eq_some h
    cases won with
    | true =>
      obtain ⟨hnow, request, wait_id, attempt, hdue, hresolved⟩ := expire_human_request_success h
      exact .human_resolved hresolved (.inr ⟨rfl, signal.due_at, hdue, hnow⟩)
    | false =>
      obtain rfl := expire_human_request_lost h
      exact .unchanged
  | claim_command_run_launch run_id owner_ref claimed_at =>
    obtain ⟨⟨claim, _⟩, hclaim, rfl⟩ := Option.map_eq_some_iff.mp h
    obtain ⟨run, hrow, hpending, hunowned, -, -, rfl⟩ := claim_command_run_launch_success hclaim
    exact .launch_claimed hrow hpending hunowned
  | mark_command_run_running claim owner_ref pid started_at due_at =>
    obtain ⟨run, hrow, hpending, howned, rfl⟩ := mark_command_run_running_success h
    exact .marked_running hrow hpending howned
  | cancel_command_run run_id requested_at =>
    obtain ⟨changed, h⟩ := toOption_snd_eq_some h
    rcases request_command_run_cancellation_success h with ⟨-, rfl, -⟩ | ⟨run, -, hrow, hlive, hwaiting, rfl⟩
    · exact .unchanged
    · exact .cancellation_requested hrow hlive hwaiting
  | end_command_run ending now =>
    obtain ⟨won, h⟩ := toOption_snd_eq_some h
    cases won with
    | true =>
      obtain ⟨request, run, output, hended⟩ := end_command_run_success h
      exact .command_ended hended
    | false =>
      obtain rfl := end_command_run_lost h
      exact .unchanged
  | pause_task snapshot => exact .paused (pause_task_success (toOption_eq_some_iff.mp h))
  | pause_task_for_unavailable_workspace =>
    rcases pause_task_for_unavailable_workspace_success (toOption_eq_some_iff.mp h) with rfl | hpaused
    · exact .unchanged
    · exact .paused hpaused
  | pause_task_using_retired_provider =>
    rcases pause_task_using_retired_provider_success hsound.lanes h with hpaused | ⟨hpaused, rfl⟩
    · exact .paused hpaused
    · exact .retired hpaused
  | continue_task checked stale snapshot workspace_available drawn drawn_root =>
    have h := toOption_eq_some_iff.mp h
    unfold continue_task at h
    rw [bind_eq_ok_iff] at h
    obtain ⟨_, hresumable, hcontinue⟩ := h
    obtain ⟨plan, items, -, hcontinued⟩ := continue_paused_task_success hsound.lanes hsound.started hcontinue
    exact .continued hresumable hcontinued
  | cancel_task snapshot actor cancelled_at =>
    obtain ⟨closed, unwaited, hcancelled, hsteps⟩ := cancel_task_success hsound.lanes (toOption_eq_some_iff.mp h)
    exact .cancelled hcancelled hsteps
  | steer_product_task_member stale counted member_id request outcome occurred_at =>
    obtain ⟨receipt, h⟩ := toOption_snd_eq_some h
    obtain rfl | ⟨source, hread, rfl, hfresh, rfl⟩ := steer_product_task_member_success h
    · exact .unchanged
    · exact .steered hread hfresh

theorem BarrierMoved.lanes {transition_id : TransitionId} (h : BarrierMoved db transition_id db') :
    db'.lanes = db.lanes := by
  cases h with
  | unchanged => rfl
  | projected row manifest blocked unfollowed =>
    exact lanes_transition_same row (by simp [ReplanTransition.lane, SuccessorState.phase, SourcePhase.of, blocked])
  | @repair_required transition row live unfollowed =>
    refine lanes_transition_same row ?_
    have hphase : transition.successor_state.phase = .resolved := by
      cases hstate : transition.successor_state <;> simp_all [SuccessorState.is_ended, SuccessorState.phase]
    simp only [ReplanTransition.lane, hphase]
    rfl
  | opening_failed row can_continue =>
    obtain ⟨-, hopen, -⟩ := ReplanTransition.can_continue_iff.mp can_continue
    refine lanes_transition_same row ?_
    simp only [ReplanTransition.lane, SuccessorState.phase_of_can_open hopen]
    rfl

/-- Every committed transaction moves the lanes by whole steps. -/
theorem Committed.steps (hsound : Sound db) (h : Committed controller db t db') : Lanes.Steps db.lanes db'.lanes := by
  cases h with
  | unchanged => exact .refl
  | @admitted _ _ _ occurred_at authority _ auth =>
    have row : db.dispatches.get? authority.dispatch_id = some authority.dispatch := auth.lane.dispatch_row
    rw [@lanes_live_dispatch db _ _ (authority.dispatch.refresh_activity occurred_at) row rfl]
  | operated _ auth _ committed => exact committed.steps hsound.lanes auth
  | wave_settled settled => exact .single (settle_delegation_wave_step settled)
  | opened _ opened => exact .single opened.step
  | barrier moved => rw [moved.lanes]
  | provider_start _ _ recorded => exact recorded.steps hsound.lanes
  | paused paused => exact paused.steps hsound.lanes
  | retired paused =>
    rw [show ({ db with task := db.task.pause .provider_retired } : TaskDb).lanes = db.lanes by
      apply Lanes.ext <;> first | rfl | exact paused.symm]
  | replaced read _ replaced =>
    obtain ⟨_, _, _, _, -, -, -, rfl⟩ := read_watchdog_recovery_snapshot_success read
    exact .single (replaced.step rfl)
  | @human_resolved _ request_id _ _ request wait_id _ _ resolved outcome =>
    have hwait : db.lanes.waits wait_id = some (request.wait request_id) :=
      Table.view_eq_some.mpr ⟨_, resolved.waits.wait_row, rfl⟩
    refine .single (resolved.step ?_ hsound.lanes (hsound.result.active_of_wait hwait))
    rcases outcome with rfl | ⟨rfl, -⟩ <;> rfl
  | launch_claimed row => rw [lanes_live_command_run row (CommandRun.claim_launch_lane ..)]
  | marked_running row pending => rw [lanes_live_command_run row (CommandRun.mark_running_lane pending ..)]
  | cancellation_requested row live => rw [lanes_live_command_run row (CommandRun.request_cancellation_lane live ..)]
  | command_ended ended => exact .single (ended.step hsound.lanes hsound.result)
  | continued _ continued => exact continued.steps
  | cancelled _ steps => exact steps
  | steered => exact .refl

end OhMySubagents

import OhMySubagents.Json.Codec

open JsonData

namespace OhMySubagents

namespace TaskEvents

inductive DispatchOpenedReason
  | root
  | delegation
  | delegation_wave
  | human_result
  | command_result
  | watchdog_recovery
  | semantic_retry
  | operator_continue
  | structural_replan
  deriving DecidableEq, Repr

inductive ProviderStartState
  | retry_scheduled
  | accepted
  deriving DecidableEq, Repr

inductive ProviderStartRetryKind
  | initial
  | definite_failure
  | uncertain_acceptance
  deriving DecidableEq, Repr

inductive WorkPlanStepStatusValue
  | pending
  | in_progress
  | completed
  deriving DecidableEq, Repr

inductive ProviderKind
  | codex
  | claude
  | openclaw
  deriving DecidableEq, Repr

inductive ProviderSelectionBasis
  | explicit
  | default
  deriving DecidableEq, Repr

inductive CheckpointOutcome
  | green
  | retry
  | blocked
  deriving DecidableEq, Repr

/-- `resulting_task_status` of an accepted boundary. -/
inductive ResultingTaskStatus
  | running
  | completed
  deriving DecidableEq, Repr

/-- `operation` of an adopted revision. -/
inductive StructuralOperation
  | add_child
  | update_child
  | remove_child
  deriving DecidableEq, Repr

inductive HumanRequestKind
  | direction
  | approval
  | input
  | review
  deriving DecidableEq, Repr

/-- The values of `HumanRequestStatus` that end a request. -/
inductive HumanRequestTerminalStatus
  | resolved
  | timed_out
  | cancelled
  deriving DecidableEq, Repr

inductive HumanRequestResolutionKind
  | answered
  | timed_out
  | cancelled
  deriving DecidableEq, Repr

inductive HumanRequestResolutionSurface
  | control_api
  | control_ui
  | operator
  | controller
  deriving DecidableEq, Repr

/-- The values of `CommandRunState` in which a run makes progress. -/
inductive CommandRunProgressState
  | running
  | cancellation_requested
  deriving DecidableEq, Repr

/-- The values of `CommandRunState` that end a run. -/
inductive CommandRunTerminalState
  | succeeded
  | failed
  | timed_out
  | cancelled
  | abandoned
  deriving DecidableEq, Repr

inductive PauseReason
  | paused_by_operator
  | runtime_recovery_exhausted
  | runtime_transition_failed
  | provider_retired
  | workspace_unavailable
  deriving DecidableEq, Repr

inductive TaskEventSource
  | controller
  | control_api
  | operator
  | node
  deriving DecidableEq, Repr

inductive TaskEventType
  | task_started
  | dispatch_opened
  | dispatch_start_updated
  | work_plan_set
  | work_plan_cleared
  | checkpoint_recorded
  | boundary_accepted
  | structural_revision_adopted
  | human_request_opened
  | human_request_resolved
  | human_request_timed_out
  | human_request_cancelled
  | command_run_opened
  | command_run_started
  | command_run_progressed
  | command_run_cancel_requested
  | command_run_succeeded
  | command_run_failed
  | command_run_timed_out
  | command_run_cancelled
  | command_run_abandoned
  | task_paused
  | task_resumed
  | task_cancelled
  | member_steered
  deriving DecidableEq, Repr

namespace DispatchOpenedReason

def text : DispatchOpenedReason → String
  | root => "root"
  | delegation => "delegation"
  | delegation_wave => "delegation_wave"
  | human_result => "human_result"
  | command_result => "command_result"
  | watchdog_recovery => "watchdog_recovery"
  | semantic_retry => "semantic_retry"
  | operator_continue => "operator_continue"
  | structural_replan => "structural_replan"

def codec : Codec DispatchOpenedReason :=
  .enum text [root, delegation, delegation_wave, human_result, command_result, watchdog_recovery, semantic_retry,
    operator_continue, structural_replan] fun b => by cases b <;> decide

end DispatchOpenedReason

namespace ProviderStartState

def text : ProviderStartState → String
  | retry_scheduled => "retry_scheduled"
  | accepted => "accepted"

def codec : Codec ProviderStartState :=
  .enum text [retry_scheduled, accepted] fun b => by cases b <;> decide

end ProviderStartState

namespace ProviderStartRetryKind

def text : ProviderStartRetryKind → String
  | initial => "initial"
  | definite_failure => "definite_failure"
  | uncertain_acceptance => "uncertain_acceptance"

def codec : Codec ProviderStartRetryKind :=
  .enum text [initial, definite_failure, uncertain_acceptance] fun b => by cases b <;> decide

end ProviderStartRetryKind

namespace WorkPlanStepStatusValue

def text : WorkPlanStepStatusValue → String
  | pending => "pending"
  | in_progress => "in_progress"
  | completed => "completed"

def codec : Codec WorkPlanStepStatusValue :=
  .enum text [pending, in_progress, completed] fun b => by cases b <;> decide

end WorkPlanStepStatusValue

namespace ProviderKind

def text : ProviderKind → String
  | codex => "codex"
  | claude => "claude"
  | openclaw => "openclaw"

def codec : Codec ProviderKind :=
  .enum text [codex, claude, openclaw] fun b => by cases b <;> decide

end ProviderKind

namespace ProviderSelectionBasis

def text : ProviderSelectionBasis → String
  | explicit => "explicit"
  | default => "default"

def codec : Codec ProviderSelectionBasis :=
  .enum text [explicit, default] fun b => by cases b <;> decide

end ProviderSelectionBasis

namespace CheckpointOutcome

def text : CheckpointOutcome → String
  | green => "green"
  | retry => "retry"
  | blocked => "blocked"

def codec : Codec CheckpointOutcome :=
  .enum text [green, retry, blocked] fun b => by cases b <;> decide

end CheckpointOutcome

namespace ResultingTaskStatus

def text : ResultingTaskStatus → String
  | running => "running"
  | completed => "completed"

def codec : Codec ResultingTaskStatus :=
  .enum text [running, completed] fun b => by cases b <;> decide

end ResultingTaskStatus

namespace StructuralOperation

def text : StructuralOperation → String
  | add_child => "add_child"
  | update_child => "update_child"
  | remove_child => "remove_child"

def codec : Codec StructuralOperation :=
  .enum text [add_child, update_child, remove_child] fun b => by cases b <;> decide

end StructuralOperation

namespace HumanRequestKind

def text : HumanRequestKind → String
  | direction => "direction"
  | approval => "approval"
  | input => "input"
  | review => "review"

def codec : Codec HumanRequestKind :=
  .enum text [direction, approval, input, review] fun b => by cases b <;> decide

end HumanRequestKind

namespace HumanRequestTerminalStatus

def text : HumanRequestTerminalStatus → String
  | resolved => "resolved"
  | timed_out => "timed_out"
  | cancelled => "cancelled"

def codec : Codec HumanRequestTerminalStatus :=
  .enum text [resolved, timed_out, cancelled] fun b => by cases b <;> decide

end HumanRequestTerminalStatus

namespace HumanRequestResolutionKind

def text : HumanRequestResolutionKind → String
  | answered => "answered"
  | timed_out => "timed_out"
  | cancelled => "cancelled"

def codec : Codec HumanRequestResolutionKind :=
  .enum text [answered, timed_out, cancelled] fun b => by cases b <;> decide

end HumanRequestResolutionKind

namespace HumanRequestResolutionSurface

def text : HumanRequestResolutionSurface → String
  | control_api => "control_api"
  | control_ui => "control_ui"
  | operator => "operator"
  | controller => "controller"

def codec : Codec HumanRequestResolutionSurface :=
  .enum text [control_api, control_ui, operator, controller] fun b => by cases b <;> decide

end HumanRequestResolutionSurface

namespace CommandRunProgressState

def text : CommandRunProgressState → String
  | running => "running"
  | cancellation_requested => "cancellation_requested"

def codec : Codec CommandRunProgressState :=
  .enum text [running, cancellation_requested] fun b => by cases b <;> decide

end CommandRunProgressState

namespace CommandRunTerminalState

def text : CommandRunTerminalState → String
  | succeeded => "succeeded"
  | failed => "failed"
  | timed_out => "timed_out"
  | cancelled => "cancelled"
  | abandoned => "abandoned"

def codec : Codec CommandRunTerminalState :=
  .enum text [succeeded, failed, timed_out, cancelled, abandoned] fun b => by cases b <;> decide

end CommandRunTerminalState

namespace PauseReason

def text : PauseReason → String
  | paused_by_operator => "paused_by_operator"
  | runtime_recovery_exhausted => "runtime_recovery_exhausted"
  | runtime_transition_failed => "runtime_transition_failed"
  | provider_retired => "provider_retired"
  | workspace_unavailable => "workspace_unavailable"

def codec : Codec PauseReason :=
  .enum text [paused_by_operator, runtime_recovery_exhausted, runtime_transition_failed, provider_retired,
    workspace_unavailable] fun b => by cases b <;> decide

end PauseReason

namespace TaskEventSource

def text : TaskEventSource → String
  | controller => "controller"
  | control_api => "control_api"
  | operator => "operator"
  | node => "node"

def codec : Codec TaskEventSource :=
  .enum text [controller, control_api, operator, node] fun b => by cases b <;> decide

end TaskEventSource

namespace TaskEventType

def text : TaskEventType → String
  | task_started => "task_started"
  | dispatch_opened => "dispatch_opened"
  | dispatch_start_updated => "dispatch_start_updated"
  | work_plan_set => "work_plan_set"
  | work_plan_cleared => "work_plan_cleared"
  | checkpoint_recorded => "checkpoint_recorded"
  | boundary_accepted => "boundary_accepted"
  | structural_revision_adopted => "structural_revision_adopted"
  | human_request_opened => "human_request_opened"
  | human_request_resolved => "human_request_resolved"
  | human_request_timed_out => "human_request_timed_out"
  | human_request_cancelled => "human_request_cancelled"
  | command_run_opened => "command_run_opened"
  | command_run_started => "command_run_started"
  | command_run_progressed => "command_run_progressed"
  | command_run_cancel_requested => "command_run_cancel_requested"
  | command_run_succeeded => "command_run_succeeded"
  | command_run_failed => "command_run_failed"
  | command_run_timed_out => "command_run_timed_out"
  | command_run_cancelled => "command_run_cancelled"
  | command_run_abandoned => "command_run_abandoned"
  | task_paused => "task_paused"
  | task_resumed => "task_resumed"
  | task_cancelled => "task_cancelled"
  | member_steered => "member_steered"

def codec : Codec TaskEventType :=
  .enum text [task_started, dispatch_opened, dispatch_start_updated, work_plan_set, work_plan_cleared,
    checkpoint_recorded, boundary_accepted, structural_revision_adopted, human_request_opened,
    human_request_resolved, human_request_timed_out, human_request_cancelled, command_run_opened,
    command_run_started, command_run_progressed, command_run_cancel_requested, command_run_succeeded,
    command_run_failed, command_run_timed_out, command_run_cancelled, command_run_abandoned, task_paused,
    task_resumed, task_cancelled, member_steered] fun b => by cases b <;> decide

end TaskEventType

end TaskEvents

end OhMySubagents

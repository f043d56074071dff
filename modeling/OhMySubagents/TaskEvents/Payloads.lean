import OhMySubagents.TaskEvents.Datetimes
import OhMySubagents.TaskEvents.Vocabulary
import OhMySubagents.Text.ExactText
import OhMySubagents.Workspace.FileReference

open JsonData

namespace OhMySubagents

open Contracts (ConstrainedText)

namespace TaskEvents

abbrev Identifier := ConstrainedText 255

abbrev Ref := ConstrainedText 2048

abbrev Summary := ConstrainedText 4096

abbrev StepText := ConstrainedText 512

/-- `Field(ge=1)`. -/
abbrev Positive := {n : Nat // 1 ≤ n}

/-- The message of a Member steer, normalized and of bounded length. -/
abbrev SteerMessage :=
  {message : {s : String // normalize_exact_text s.toList none true = some s.toList} //
    1 ≤ message.val.length ∧ message.val.length ≤ 4096}

def Identifier.codec : Codec Identifier := ConstrainedText.codec 255

theorem Identifier.ne_null : ∀ text : Identifier, Identifier.codec.encode text ≠ .null := ConstrainedText.ne_null

def Ref.codec : Codec Ref := ConstrainedText.codec 2048

def Summary.codec : Codec Summary := ConstrainedText.codec 4096

def StepText.codec : Codec StepText := ConstrainedText.codec 512

def Positive.codec : Codec Positive := Codec.nat.check _

theorem Positive.ne_null (n : Positive) : codec.encode n ≠ .null := nofun

def SteerMessage.codec : Codec SteerMessage :=
  (Codec.normalized (normalize_exact_text · none true) normalize_exact_text_idem).check _

structure TaskStartedEventPayload where
  workflow_key : Identifier
  workflow_revision_no : Positive
  manifest_ref : Ref

def TaskStartedEventPayload.codec : Codec TaskStartedEventPayload :=
  (((Fields.required "workflow_key" Identifier.codec).and <|
    (Fields.required "workflow_revision_no" Positive.codec).and <|
    Fields.required "manifest_ref" Ref.codec).via
      (fun p => (p.workflow_key, p.workflow_revision_no, p.manifest_ref))
      (fun (workflow_key, workflow_revision_no, manifest_ref) =>
        some ⟨workflow_key, workflow_revision_no, manifest_ref⟩)
      fun _ => rfl).object

structure DispatchOpenedEventPayload where
  dispatch_id : Identifier
  predecessor_dispatch_id : Option Identifier
  assignment_id : Identifier
  attempt_id : Identifier
  member_id : Identifier
  opened_reason : DispatchOpenedReason
  requested_provider : ProviderKind
  resolved_provider : ProviderKind
  selection_basis : ProviderSelectionBasis

def DispatchOpenedEventPayload.codec : Codec DispatchOpenedEventPayload :=
  (((Fields.required "dispatch_id" Identifier.codec).and <|
    (Fields.nullable "predecessor_dispatch_id" Identifier.codec Identifier.ne_null).and <|
    (Fields.required "assignment_id" Identifier.codec).and <|
    (Fields.required "attempt_id" Identifier.codec).and <|
    (Fields.required "member_id" Identifier.codec).and <|
    (Fields.defaulted "status" (.literal "starting") ()).and <|
    (Fields.required "opened_reason" DispatchOpenedReason.codec).and <|
    (Fields.required "requested_provider" ProviderKind.codec).and <|
    (Fields.required "resolved_provider" ProviderKind.codec).and <|
    Fields.required "selection_basis" ProviderSelectionBasis.codec).via
      (fun p => (p.dispatch_id, p.predecessor_dispatch_id, p.assignment_id, p.attempt_id, p.member_id, (),
        p.opened_reason, p.requested_provider, p.resolved_provider, p.selection_basis))
      (fun (dispatch_id, predecessor_dispatch_id, assignment_id, attempt_id, member_id, _, opened_reason,
          requested_provider, resolved_provider, selection_basis) =>
        some ⟨dispatch_id, predecessor_dispatch_id, assignment_id, attempt_id, member_id, opened_reason,
          requested_provider, resolved_provider, selection_basis⟩)
      fun _ => rfl).object

structure DispatchStartUpdatedEventPayload where
  dispatch_id : Identifier
  state : ProviderStartState
  attempt_count : Positive
  provider_start_revision : Nat
  next_attempt_at : Option Datetime
  retry_kind : Option ProviderStartRetryKind
  last_error_code : Option Identifier
  validate_state : next_attempt_at.isSome = (state == .retry_scheduled) ∧
    retry_kind.isSome = (state == .retry_scheduled) ∧ last_error_code.isSome = (state == .retry_scheduled)

def DispatchStartUpdatedEventPayload.codec : Codec DispatchStartUpdatedEventPayload :=
  (((Fields.required "dispatch_id" Identifier.codec).and <|
    (Fields.required "state" ProviderStartState.codec).and <|
    (Fields.required "attempt_count" Positive.codec).and <|
    (Fields.required "provider_start_revision" .nat).and <|
    (Fields.nullable "next_attempt_at" Datetime.codec Datetime.ne_null).and <|
    (Fields.nullable "retry_kind" ProviderStartRetryKind.codec Codec.enum_ne_null).and <|
    Fields.nullable "last_error_code" Identifier.codec Identifier.ne_null).via
      (fun p => (p.dispatch_id, p.state, p.attempt_count, p.provider_start_revision, p.next_attempt_at, p.retry_kind,
        p.last_error_code))
      (fun (dispatch_id, state, attempt_count, provider_start_revision, next_attempt_at, retry_kind,
          last_error_code) =>
        if h : next_attempt_at.isSome = (state == .retry_scheduled) ∧
            retry_kind.isSome = (state == .retry_scheduled) ∧ last_error_code.isSome = (state == .retry_scheduled) then
          some ⟨dispatch_id, state, attempt_count, provider_start_revision, next_attempt_at, retry_kind,
            last_error_code, h⟩
        else none)
      fun p => dif_pos p.validate_state).object

structure TaskEventWorkPlanStep where
  step : StepText
  status : WorkPlanStepStatusValue

def TaskEventWorkPlanStep.codec : Codec TaskEventWorkPlanStep :=
  (((Fields.required "step" StepText.codec).and <|
    Fields.required "status" WorkPlanStepStatusValue.codec).via
      (fun p => (p.step, p.status))
      (fun (step, status) => some ⟨step, status⟩)
      fun _ => rfl).object

structure WorkPlanSetEventPayload where
  assignment_id : Identifier
  revision : Positive
  explanation : Option Summary
  steps : {steps : List TaskEventWorkPlanStep // 1 ≤ steps.length ∧ steps.length ≤ 9}
  authored_by_dispatch_id : Identifier
  updated_at : Datetime

def WorkPlanSetEventPayload.codec : Codec WorkPlanSetEventPayload :=
  (((Fields.required "assignment_id" Identifier.codec).and <|
    (Fields.required "revision" Positive.codec).and <|
    (Fields.nullable "explanation" Summary.codec ConstrainedText.ne_null).and <|
    (Fields.required "steps" (TaskEventWorkPlanStep.codec.list.check _)).and <|
    (Fields.required "authored_by_dispatch_id" Identifier.codec).and <|
    Fields.required "updated_at" Datetime.codec).via
      (fun p => (p.assignment_id, p.revision, p.explanation, p.steps, p.authored_by_dispatch_id, p.updated_at))
      (fun (assignment_id, revision, explanation, steps, authored_by_dispatch_id, updated_at) =>
        some ⟨assignment_id, revision, explanation, steps, authored_by_dispatch_id, updated_at⟩)
      fun _ => rfl).object

structure WorkPlanClearedEventPayload where
  assignment_id : Identifier
  revision : Positive
  explanation : Option Summary
  authored_by_dispatch_id : Identifier
  updated_at : Datetime

def WorkPlanClearedEventPayload.codec : Codec WorkPlanClearedEventPayload :=
  (((Fields.required "assignment_id" Identifier.codec).and <|
    (Fields.required "revision" Positive.codec).and <|
    (Fields.nullable "explanation" Summary.codec ConstrainedText.ne_null).and <|
    (Fields.required "authored_by_dispatch_id" Identifier.codec).and <|
    Fields.required "updated_at" Datetime.codec).via
      (fun p => (p.assignment_id, p.revision, p.explanation, p.authored_by_dispatch_id, p.updated_at))
      (fun (assignment_id, revision, explanation, authored_by_dispatch_id, updated_at) =>
        some ⟨assignment_id, revision, explanation, authored_by_dispatch_id, updated_at⟩)
      fun _ => rfl).object

structure CheckpointRecordedEventPayload where
  checkpoint_id : Identifier
  assignment_id : Identifier
  attempt_id : Identifier
  outcome : Option CheckpointOutcome
  summary : Summary
  details : Option String
  files : {files : List FileReference // files.length ≤ 32}
  authored_by_dispatch_id : Identifier

def CheckpointRecordedEventPayload.codec : Codec CheckpointRecordedEventPayload :=
  (((Fields.required "checkpoint_id" Identifier.codec).and <|
    (Fields.required "assignment_id" Identifier.codec).and <|
    (Fields.required "attempt_id" Identifier.codec).and <|
    (Fields.nullable "outcome" CheckpointOutcome.codec Codec.enum_ne_null).and <|
    (Fields.required "summary" Summary.codec).and <|
    (Fields.nullable "details" .string Codec.string_ne_null).and <|
    (Fields.defaulted "files" (FileReference.codec.list.check _) ⟨[], by decide⟩).and <|
    Fields.required "authored_by_dispatch_id" Identifier.codec).via
      (fun p => (p.checkpoint_id, p.assignment_id, p.attempt_id, p.outcome, p.summary, p.details, p.files,
        p.authored_by_dispatch_id))
      (fun (checkpoint_id, assignment_id, attempt_id, outcome, summary, details, files, authored_by_dispatch_id) =>
        some ⟨checkpoint_id, assignment_id, attempt_id, outcome, summary, details, files, authored_by_dispatch_id⟩)
      fun _ => rfl).object

structure BoundaryAcceptedEventPayload where
  source_dispatch_id : Identifier
  assignment_id : Identifier
  attempt_id : Identifier
  outcome : CheckpointOutcome
  checkpoint_id : Identifier
  resulting_task_status : ResultingTaskStatus

def BoundaryAcceptedEventPayload.codec : Codec BoundaryAcceptedEventPayload :=
  (((Fields.required "source_dispatch_id" Identifier.codec).and <|
    (Fields.required "assignment_id" Identifier.codec).and <|
    (Fields.required "attempt_id" Identifier.codec).and <|
    (Fields.required "outcome" CheckpointOutcome.codec).and <|
    (Fields.required "checkpoint_id" Identifier.codec).and <|
    Fields.required "resulting_task_status" ResultingTaskStatus.codec).via
      (fun p => (p.source_dispatch_id, p.assignment_id, p.attempt_id, p.outcome, p.checkpoint_id,
        p.resulting_task_status))
      (fun (source_dispatch_id, assignment_id, attempt_id, outcome, checkpoint_id, resulting_task_status) =>
        some ⟨source_dispatch_id, assignment_id, attempt_id, outcome, checkpoint_id, resulting_task_status⟩)
      fun _ => rfl).object

structure StructuralRevisionAdoptedEventPayload where
  source_team_revision_id : Identifier
  adopted_team_revision_id : Identifier
  operation : StructuralOperation
  target_member_id : Identifier
  cause : Summary
  adopted_by_dispatch_id : Identifier

def StructuralRevisionAdoptedEventPayload.codec : Codec StructuralRevisionAdoptedEventPayload :=
  (((Fields.required "source_team_revision_id" Identifier.codec).and <|
    (Fields.required "adopted_team_revision_id" Identifier.codec).and <|
    (Fields.required "operation" StructuralOperation.codec).and <|
    (Fields.required "target_member_id" Identifier.codec).and <|
    (Fields.required "cause" Summary.codec).and <|
    Fields.required "adopted_by_dispatch_id" Identifier.codec).via
      (fun p => (p.source_team_revision_id, p.adopted_team_revision_id, p.operation, p.target_member_id, p.cause,
        p.adopted_by_dispatch_id))
      (fun (source_team_revision_id, adopted_team_revision_id, operation, target_member_id, cause,
          adopted_by_dispatch_id) =>
        some ⟨source_team_revision_id, adopted_team_revision_id, operation, target_member_id, cause,
          adopted_by_dispatch_id⟩)
      fun _ => rfl).object

structure MemberSteeredEventPayload where
  action_id : Identifier
  assignment_id : Identifier
  source_dispatch_id : Identifier
  message : SteerMessage

def MemberSteeredEventPayload.codec : Codec MemberSteeredEventPayload :=
  (((Fields.required "action_id" Identifier.codec).and <|
    (Fields.required "assignment_id" Identifier.codec).and <|
    (Fields.required "source_dispatch_id" Identifier.codec).and <|
    Fields.required "message" SteerMessage.codec).via
      (fun p => (p.action_id, p.assignment_id, p.source_dispatch_id, p.message))
      (fun (action_id, assignment_id, source_dispatch_id, message) =>
        some ⟨action_id, assignment_id, source_dispatch_id, message⟩)
      fun _ => rfl).object

structure HumanRequestOpenedEventPayload where
  request_id : Identifier
  kind : HumanRequestKind
  summary : Summary
  source_dispatch_id : Identifier
  due_at : Option Datetime
  opened_at : Datetime

def HumanRequestOpenedEventPayload.codec : Codec HumanRequestOpenedEventPayload :=
  (((Fields.required "request_id" Identifier.codec).and <|
    (Fields.required "kind" HumanRequestKind.codec).and <|
    (Fields.required "summary" Summary.codec).and <|
    (Fields.required "source_dispatch_id" Identifier.codec).and <|
    (Fields.nullable "due_at" Datetime.codec Datetime.ne_null).and <|
    Fields.required "opened_at" Datetime.codec).via
      (fun p => (p.request_id, p.kind, p.summary, p.source_dispatch_id, p.due_at, p.opened_at))
      (fun (request_id, kind, summary, source_dispatch_id, due_at, opened_at) =>
        some ⟨request_id, kind, summary, source_dispatch_id, due_at, opened_at⟩)
      fun _ => rfl).object

structure HumanRequestTerminalEventPayload where
  request_id : Identifier
  kind : HumanRequestKind
  summary : Summary
  source_dispatch_id : Identifier
  due_at : Option Datetime
  status : HumanRequestTerminalStatus
  resolution_kind : HumanRequestResolutionKind
  resolution_summary : Summary
  resolved_at : Datetime
  resolved_by_surface : HumanRequestResolutionSurface
  resolved_by_actor_ref : Option Identifier

def HumanRequestTerminalEventPayload.codec : Codec HumanRequestTerminalEventPayload :=
  (((Fields.required "request_id" Identifier.codec).and <|
    (Fields.required "kind" HumanRequestKind.codec).and <|
    (Fields.required "summary" Summary.codec).and <|
    (Fields.required "source_dispatch_id" Identifier.codec).and <|
    (Fields.nullable "due_at" Datetime.codec Datetime.ne_null).and <|
    (Fields.required "status" HumanRequestTerminalStatus.codec).and <|
    (Fields.required "resolution_kind" HumanRequestResolutionKind.codec).and <|
    (Fields.required "resolution_summary" Summary.codec).and <|
    (Fields.required "resolved_at" Datetime.codec).and <|
    (Fields.required "resolved_by_surface" HumanRequestResolutionSurface.codec).and <|
    Fields.nullable "resolved_by_actor_ref" Identifier.codec Identifier.ne_null).via
      (fun p => (p.request_id, p.kind, p.summary, p.source_dispatch_id, p.due_at, p.status, p.resolution_kind,
        p.resolution_summary, p.resolved_at, p.resolved_by_surface, p.resolved_by_actor_ref))
      (fun (request_id, kind, summary, source_dispatch_id, due_at, status, resolution_kind, resolution_summary,
          resolved_at, resolved_by_surface, resolved_by_actor_ref) =>
        some ⟨request_id, kind, summary, source_dispatch_id, due_at, status, resolution_kind, resolution_summary,
          resolved_at, resolved_by_surface, resolved_by_actor_ref⟩)
      fun _ => rfl).object

structure CommandRunOpenedEventPayload where
  run_id : Identifier
  source_dispatch_id : Identifier
  command : Summary
  description : Summary
  workdir : Option Ref
  created_at : Datetime
  timeout_seconds : Option Positive
  output_path : Ref

def CommandRunOpenedEventPayload.codec : Codec CommandRunOpenedEventPayload :=
  (((Fields.required "run_id" Identifier.codec).and <|
    (Fields.required "source_dispatch_id" Identifier.codec).and <|
    (Fields.required "state" (.literal "pending_start")).and <|
    (Fields.required "command" Summary.codec).and <|
    (Fields.required "description" Summary.codec).and <|
    (Fields.nullable "workdir" Ref.codec ConstrainedText.ne_null).and <|
    (Fields.required "created_at" Datetime.codec).and <|
    (Fields.nullable "timeout_seconds" Positive.codec Positive.ne_null).and <|
    (Fields.defaulted "ownership_revision" (Codec.nat.check (· = 0)) ⟨0, rfl⟩).and <|
    Fields.required "output_path" Ref.codec).via
      (fun p => (p.run_id, p.source_dispatch_id, (), p.command, p.description, p.workdir, p.created_at,
        p.timeout_seconds, ⟨0, rfl⟩, p.output_path))
      (fun (run_id, source_dispatch_id, _, command, description, workdir, created_at, timeout_seconds, _,
          output_path) =>
        some ⟨run_id, source_dispatch_id, command, description, workdir, created_at, timeout_seconds, output_path⟩)
      fun _ => rfl).object

structure CommandRunStartedEventPayload where
  run_id : Identifier
  source_dispatch_id : Identifier
  command : Summary
  description : Summary
  workdir : Option Ref
  started_at : Datetime
  due_at : Option Datetime
  ownership_revision : Positive
  output_path : Ref

def CommandRunStartedEventPayload.codec : Codec CommandRunStartedEventPayload :=
  (((Fields.required "run_id" Identifier.codec).and <|
    (Fields.required "source_dispatch_id" Identifier.codec).and <|
    (Fields.required "state" (.literal "running")).and <|
    (Fields.required "command" Summary.codec).and <|
    (Fields.required "description" Summary.codec).and <|
    (Fields.nullable "workdir" Ref.codec ConstrainedText.ne_null).and <|
    (Fields.required "started_at" Datetime.codec).and <|
    (Fields.nullable "due_at" Datetime.codec Datetime.ne_null).and <|
    (Fields.required "ownership_revision" Positive.codec).and <|
    Fields.required "output_path" Ref.codec).via
      (fun p => (p.run_id, p.source_dispatch_id, (), p.command, p.description, p.workdir, p.started_at, p.due_at,
        p.ownership_revision, p.output_path))
      (fun (run_id, source_dispatch_id, _, command, description, workdir, started_at, due_at, ownership_revision,
          output_path) =>
        some ⟨run_id, source_dispatch_id, command, description, workdir, started_at, due_at, ownership_revision,
          output_path⟩)
      fun _ => rfl).object

structure CommandRunProgressedEventPayload where
  run_id : Identifier
  source_dispatch_id : Identifier
  state : CommandRunProgressState
  summary : Summary
  occurred_at : Datetime
  ownership_revision : Positive
  output_path : Ref

def CommandRunProgressedEventPayload.codec : Codec CommandRunProgressedEventPayload :=
  (((Fields.required "run_id" Identifier.codec).and <|
    (Fields.required "source_dispatch_id" Identifier.codec).and <|
    (Fields.required "state" CommandRunProgressState.codec).and <|
    (Fields.required "summary" Summary.codec).and <|
    (Fields.required "occurred_at" Datetime.codec).and <|
    (Fields.required "ownership_revision" Positive.codec).and <|
    Fields.required "output_path" Ref.codec).via
      (fun p => (p.run_id, p.source_dispatch_id, p.state, p.summary, p.occurred_at, p.ownership_revision,
        p.output_path))
      (fun (run_id, source_dispatch_id, state, summary, occurred_at, ownership_revision, output_path) =>
        some ⟨run_id, source_dispatch_id, state, summary, occurred_at, ownership_revision, output_path⟩)
      fun _ => rfl).object

structure CommandRunCancelRequestedEventPayload where
  run_id : Identifier
  source_dispatch_id : Identifier
  requested_at : Datetime
  ownership_revision : Nat

def CommandRunCancelRequestedEventPayload.codec : Codec CommandRunCancelRequestedEventPayload :=
  (((Fields.required "run_id" Identifier.codec).and <|
    (Fields.required "source_dispatch_id" Identifier.codec).and <|
    (Fields.required "state" (.literal "cancellation_requested")).and <|
    (Fields.required "requested_at" Datetime.codec).and <|
    Fields.required "ownership_revision" .nat).via
      (fun p => (p.run_id, p.source_dispatch_id, (), p.requested_at, p.ownership_revision))
      (fun (run_id, source_dispatch_id, _, requested_at, ownership_revision) =>
        some ⟨run_id, source_dispatch_id, requested_at, ownership_revision⟩)
      fun _ => rfl).object

structure CommandRunTerminalEventPayload where
  run_id : Identifier
  source_dispatch_id : Identifier
  state : CommandRunTerminalState
  summary : Summary
  started_at : Option Datetime
  ended_at : Datetime
  exit_code : Option Int
  failure_code : Option Identifier
  ownership_revision : Nat
  output_path : Ref
  output_observed_bytes : Nat
  output_written_bytes : Nat
  output_complete : Bool
  validate_output_counts : output_written_bytes ≤ output_observed_bytes ∧
    (output_complete = true → output_written_bytes = output_observed_bytes)

def CommandRunTerminalEventPayload.codec : Codec CommandRunTerminalEventPayload :=
  (((Fields.required "run_id" Identifier.codec).and <|
    (Fields.required "source_dispatch_id" Identifier.codec).and <|
    (Fields.required "state" CommandRunTerminalState.codec).and <|
    (Fields.required "summary" Summary.codec).and <|
    (Fields.nullable "started_at" Datetime.codec Datetime.ne_null).and <|
    (Fields.required "ended_at" Datetime.codec).and <|
    (Fields.nullable "exit_code" .int Codec.int_ne_null).and <|
    (Fields.nullable "failure_code" Identifier.codec Identifier.ne_null).and <|
    (Fields.required "ownership_revision" .nat).and <|
    (Fields.required "output_path" Ref.codec).and <|
    (Fields.required "output_observed_bytes" .nat).and <|
    (Fields.required "output_written_bytes" .nat).and <|
    Fields.required "output_complete" .bool).via
      (fun p => (p.run_id, p.source_dispatch_id, p.state, p.summary, p.started_at, p.ended_at, p.exit_code,
        p.failure_code, p.ownership_revision, p.output_path, p.output_observed_bytes, p.output_written_bytes,
        p.output_complete))
      (fun (run_id, source_dispatch_id, state, summary, started_at, ended_at, exit_code, failure_code,
          ownership_revision, output_path, output_observed_bytes, output_written_bytes, output_complete) =>
        if h : output_written_bytes ≤ output_observed_bytes ∧
            (output_complete = true → output_written_bytes = output_observed_bytes) then
          some ⟨run_id, source_dispatch_id, state, summary, started_at, ended_at, exit_code, failure_code,
            ownership_revision, output_path, output_observed_bytes, output_written_bytes, output_complete, h⟩
        else none)
      fun p => dif_pos p.validate_output_counts).object

structure TaskPausedEventPayload where
  pause_reason : PauseReason
  control_revision : Positive
  actor_ref : Option Identifier
  summary : Summary

def TaskPausedEventPayload.codec : Codec TaskPausedEventPayload :=
  (((Fields.required "pause_reason" PauseReason.codec).and <|
    (Fields.required "control_revision" Positive.codec).and <|
    (Fields.nullable "actor_ref" Identifier.codec Identifier.ne_null).and <|
    Fields.required "summary" Summary.codec).via
      (fun p => (p.pause_reason, p.control_revision, p.actor_ref, p.summary))
      (fun (pause_reason, control_revision, actor_ref, summary) =>
        some ⟨pause_reason, control_revision, actor_ref, summary⟩)
      fun _ => rfl).object

/-- `TaskResumedEventPayload` and `TaskCancelledEventPayload`, which have the same fields. -/
structure TaskControlEventPayload where
  control_revision : Positive
  actor_ref : Option Identifier
  summary : Summary

def TaskControlEventPayload.codec : Codec TaskControlEventPayload :=
  (((Fields.required "control_revision" Positive.codec).and <|
    (Fields.nullable "actor_ref" Identifier.codec Identifier.ne_null).and <|
    Fields.required "summary" Summary.codec).via
      (fun p => (p.control_revision, p.actor_ref, p.summary))
      (fun (control_revision, actor_ref, summary) => some ⟨control_revision, actor_ref, summary⟩)
      fun _ => rfl).object

end TaskEvents

end OhMySubagents

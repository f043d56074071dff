import OhMySubagents.Relational.Table
import OhMySubagents.Relational.Alteration
import OhMySubagents.Relational.Forest
import OhMySubagents.Rows
import OhMySubagents.TaskDb
import OhMySubagents.Team.Currentness
import OhMySubagents.Errors
import OhMySubagents.Replan.Planning
import OhMySubagents.Replan.Planning.Branches
import OhMySubagents.Replan.Planning.Mutation
import OhMySubagents.Replan.Planning.Validation
import OhMySubagents.Replan.Planning.Result
import OhMySubagents.Replan.Context
import OhMySubagents.Replan.Staging
import OhMySubagents.Replan.Successor
import OhMySubagents.Team.Materialization
import OhMySubagents.Dispatch.Currentness
import OhMySubagents.Dispatch.Authority
import OhMySubagents.Team.History
import OhMySubagents.Lanes.State
import OhMySubagents.Lanes.Step
import OhMySubagents.Lanes.Pointers
import OhMySubagents.Lanes.Lineage
import OhMySubagents.Lanes.Waiting
import OhMySubagents.Lanes.Quiescence
import OhMySubagents.Lanes.Later
import OhMySubagents.Lanes.Participation
import OhMySubagents.Lanes.Abstraction
import OhMySubagents.Dispatch.Opening
import OhMySubagents.Dispatch.OrdinaryContinuation
import OhMySubagents.Control.Transitions
import OhMySubagents.Dispatch.Successor
import OhMySubagents.Delegation.Continuation
import OhMySubagents.HumanRequest.Continuation
import OhMySubagents.CommandRun.Continuation
import OhMySubagents.Replan.Continuation
import OhMySubagents.Replan.Persistence
import OhMySubagents.NodeOperations.ExternalWaits
import OhMySubagents.Checkpoint.Transitions
import OhMySubagents.Delegation.Settlement
import OhMySubagents.Checkpoint.Persistence
import OhMySubagents.Checkpoint.Steps
import OhMySubagents.Lanes.Enrollment
import OhMySubagents.Delegation.Preparation
import OhMySubagents.Delegation.Staging
import OhMySubagents.Delegation.Steps
import OhMySubagents.WorkPlan.Operations
import OhMySubagents.Relational.Ordered
import OhMySubagents.WorkPlan.StepRows
import OhMySubagents.System.WorkPlanMoves
import OhMySubagents.System.WorkPlanSets
import OhMySubagents.System.WorkPlans
import OhMySubagents.NodeOperations.Executor
import OhMySubagents.Dispatch.ProviderStart
import OhMySubagents.Providers.Starter
import OhMySubagents.Watchdog.Pause
import OhMySubagents.Watchdog.Recovery
import OhMySubagents.HumanRequest.Service
import OhMySubagents.CommandRun.Transitions
import OhMySubagents.CommandRun.ProcessOwner
import OhMySubagents.Lanes.Result
import OhMySubagents.TaskControl.Cancellation
import OhMySubagents.TaskControl.CancellationRows
import OhMySubagents.TaskControl.CancelledTask
import OhMySubagents.Launch.Continuation
import OhMySubagents.Launch.Bootstrap
import OhMySubagents.TaskControl.Continuation
import OhMySubagents.Dispatch.ContinuationOpenings
import OhMySubagents.TaskControl.ContinuationSteps
import OhMySubagents.TaskControl.ContinuedTask
import OhMySubagents.Product.MemberSteering
import OhMySubagents.Relational.Runs
import OhMySubagents.System.Committed
import OhMySubagents.System.Reachable
import OhMySubagents.System.LaneExclusivity
import OhMySubagents.System.Completion
import OhMySubagents.System.ResultCheckpoints
import OhMySubagents.Product.TaskProjection
import OhMySubagents.Text.Like
import OhMySubagents.Product.TaskSearch
import OhMySubagents.HumanRequest.Answers
import OhMySubagents.CommandRun.ProductOutput
import OhMySubagents.Dispatch.PromptCurrentness
import OhMySubagents.System.DispatchRows
import OhMySubagents.System.CurrentPrompts
import OhMySubagents.System.ProviderStarts
import OhMySubagents.System.CommandRuns
import OhMySubagents.System.HumanRequests
import OhMySubagents.System.QuietBranches
import OhMySubagents.Lanes.Tails
import OhMySubagents.WorkflowStudio.Tree
import OhMySubagents.WorkflowStudio.EditOperations
import OhMySubagents.WorkflowStudio.DraftRuntime
import OhMySubagents.WorkflowStudio.Session
import OhMySubagents.WorkflowStudio.Coherence
import OhMySubagents.WorkflowStudio.FlushTermination
import OhMySubagents.WorkflowStudio.Flushing
import OhMySubagents.WorkflowStudio.Autosave
import OhMySubagents.RunLive.History
import OhMySubagents.RunLive.Session
import OhMySubagents.RunLive.Alignment
import OhMySubagents.RunLive.Preservation
import OhMySubagents.RunLive.Convergence
import OhMySubagents.Filesystem.Tree
import OhMySubagents.Filesystem.Links
import OhMySubagents.Claude.ExecutionAccess
import OhMySubagents.Claude.WorkspaceWrites
import OhMySubagents.Cursors.Timestamps
import OhMySubagents.Cursors.Payloads
import OhMySubagents.Cursors.Codecs
import OhMySubagents.Cursors.Settlement
import OhMySubagents.Cursors.PageCursors
import OhMySubagents.DatabaseReset.TaskRootCleanup
import OhMySubagents.DatabaseReset.Reset
import OhMySubagents.System.Successors
import OhMySubagents.System.ClosedDispatches
import OhMySubagents.System.SteeredPrompts
import OhMySubagents.System.BudgetMoves
import OhMySubagents.System.Budgets
import OhMySubagents.PostCommit.Deadlines
import OhMySubagents.PostCommit.DeadlineRuns
import OhMySubagents.Utf8.Decoding
import OhMySubagents.CommandRun.OutputPages
import OhMySubagents.CommandRun.OutputReading
import OhMySubagents.Json.Serialization
import OhMySubagents.Operator.Contracts
import OhMySubagents.Operator.Persistence
import OhMySubagents.Operator.History
import OhMySubagents.Operator.Transactions
import OhMySubagents.Operator.Repair
import OhMySubagents.Text.ExactText
import OhMySubagents.Text.Lines
import OhMySubagents.Text.ShellWords
import OhMySubagents.Providers.SecretEnvironment
import OhMySubagents.Providers.SecretRoundTrip
import OhMySubagents.Operator.Service
import OhMySubagents.Operator.Conversations
import OhMySubagents.Operator.Protocol
import OhMySubagents.Operator.AbandonedTurns
import OhMySubagents.Replan.Planning.Effects
import OhMySubagents.Replan.Planning.Requests
import OhMySubagents.Replan.Outcome
import OhMySubagents.Replan.Preservation
import OhMySubagents.Json.Data
import OhMySubagents.Json.Codec
import OhMySubagents.Json.Dumps
import OhMySubagents.Json.Loads
import OhMySubagents.Json.SortKeys
import OhMySubagents.Replan.Replay.Calls
import OhMySubagents.Replan.Replay.Readbacks
import OhMySubagents.Replan.Replay.Redelivery
import OhMySubagents.Text.Base64
import OhMySubagents.Workspace.FileReference
import OhMySubagents.TaskEvents.Datetimes
import OhMySubagents.TaskEvents.Vocabulary
import OhMySubagents.TaskEvents.Payloads
import OhMySubagents.TaskEvents.Record
import OhMySubagents.TaskEvents.Stream
import OhMySubagents.TaskEvents.Chronology
import OhMySubagents.Workflows.Contracts
import OhMySubagents.Workflows.Ingest
import OhMySubagents.Workflows.Operations
import OhMySubagents.WorkflowAuthoring.Publication
import OhMySubagents.WorkflowAuthoring.Requests
import OhMySubagents.WorkflowAuthoring.PublicationSteps
import OhMySubagents.WorkflowAuthoring.DraftSteps
import OhMySubagents.WorkflowAuthoring.History
import OhMySubagents.WorkflowAuthoring.PublicationHistory
import OhMySubagents.Workflows.Normalization
import OhMySubagents.WorkflowAuthoring.DraftMoves
import OhMySubagents.WorkflowAuthoring.DraftProtocol
import OhMySubagents.WorkflowAuthoring.DraftNumbers
import OhMySubagents.WorkflowAuthoring.DraftAcceptance
import OhMySubagents.Workflows.Readback
import OhMySubagents.Workflows.NormalForm
import OhMySubagents.Workflows.Reading
import OhMySubagents.Workflows.MemberTrees
import OhMySubagents.Workflows.EditedTrees
import OhMySubagents.Workflows.Validation
import OhMySubagents.Workflows.Edits
import OhMySubagents.Workflows.NewMembers
import OhMySubagents.Workflows.AcceptedEdits
import OhMySubagents.Workflows.DraftNormalForm
import OhMySubagents.Workflows.Renormalization
import OhMySubagents.Workflows.Canonical
import OhMySubagents.Workflows.Removal
import OhMySubagents.Workflows.CanonicalIdentity
import OhMySubagents.Workflows.MemberNumbers
import OhMySubagents.System.TaskControl
import OhMySubagents.System.WatchdogBudgets
import OhMySubagents.Lanes.Continuable
import OhMySubagents.PostCommit.StartupScan
import OhMySubagents.System.StartupAudit

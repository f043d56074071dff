import OhMySubagents.System.ResultCheckpoints

open Relational

namespace OhMySubagents

inductive TaskProductStatus
  | starting | working | waiting_for_you | paused | completed | blocked | cancelled
  deriving DecidableEq, Repr

def HumanRequest.is_open (request : HumanRequest) : Bool := request.status == .open

def DispatchTurn.is_starting (dispatch : DispatchTurn) : Bool :=
  match dispatch.status with
  | .starting _ _ => true
  | .open | .closed _ => false

/-- The status that the search query computes of a Task row and its correlated subqueries. -/
def task_product_status_expression (db : TaskDb) : TaskProductStatus :=
  if db.task.status.text = "completed" then
    if db.task.terminal_outcome = some .blocked then .blocked else .completed
  else if db.task.status.text = "paused" then .paused
  else if db.task.status.text = "cancelled" then .cancelled
  else if db.task.status.text = "pending" then .starting
  else if db.human_requests.any fun _ request => request.is_open then .waiting_for_you
  else if db.dispatches.any fun _ dispatch => dispatch.is_starting then .starting
  else .working

/-- The attention count that the search query computes. -/
def task_attention_count_expression (db : TaskDb) : Nat :=
  (db.human_requests.select fun _ request => request.is_open).length +
    if db.task.terminal_outcome = some .blocked then 1 else 0

/-- What `read_runtime_task` reads of a Task, as far as its view depends on it. -/
structure ControllerTaskState where
  status : TaskStatus
  terminal_outcome : Option TerminalOutcome
  result : Option TerminalOutcome
  pause_reason : Option PauseReason

/-- The outcome of the Checkpoint that the result boundary of the Task accepted. -/
def read_task_result (db : TaskDb) : Result (Option TerminalOutcome) :=
  match db.task.result_boundary_id.bind db.accepted_boundaries.get? with
  | none => .ok none
  | some boundary =>
    if (db.attempt_checkpoints.get? boundary.checkpoint_id).any fun checkpoint =>
        checkpoint.assignment_id == boundary.assignment_id && checkpoint.attempt_id == boundary.attempt_id then
      match boundary.outcome.terminal with
      | some outcome => .ok (some outcome)
      | none => .error (illegal_state_error "Task Result selected a non-result boundary")
    else .ok none

def read_runtime_task (db : TaskDb) : Result ControllerTaskState := do
  let result ← read_task_result db
  return {
    status := db.task.status
    terminal_outcome := db.task.terminal_outcome
    result
    pause_reason := db.task.pause_reason }

/-- The status of the Task view. -/
def read_product_task_status (db : TaskDb) (task : ControllerTaskState) : TaskProductStatus :=
  match task.status with
  | .completed => if task.terminal_outcome = some .blocked then .blocked else .completed
  | .paused => .paused
  | .cancelled => .cancelled
  | .running =>
    if db.human_requests.any fun _ request => request.is_open then .waiting_for_you
    else if db.dispatches.any fun _ dispatch => dispatch.is_starting then .starting
    else .working

inductive HumanRequestProductStatus
  | open | answered | expired | cancelled
  deriving DecidableEq, Repr

def product_request_status : HumanRequestStatus → HumanRequestProductStatus
  | .open => .open
  | .resolved => .answered
  | .timed_out => .expired
  | .cancelled => .cancelled

structure HumanRequestView where
  id : RequestId
  status : HumanRequestProductStatus
  deriving DecidableEq, Repr

/-- Every open request of the Task, and some of the others. -/
def list_product_human_requests (db : TaskDb) (terminal_limit : Nat) : List HumanRequestView :=
  let open_rows := db.human_requests.select fun _ request => request.is_open
  let terminal_rows := db.human_requests.select fun _ request => !request.is_open
  (open_rows ++ terminal_rows.take terminal_limit).map fun row => ⟨row.1, product_request_status row.2.status⟩

inductive TaskAttentionKind
  | human_request | blocked_result | workspace_unavailable
  deriving DecidableEq, Repr

structure TaskAttention where
  kind : TaskAttentionKind
  title : String
  request_id : Option RequestId
  deriving DecidableEq, Repr

def build_task_attention (task : ControllerTaskState) (is_workspace_available : Bool)
    (human_requests : List HumanRequestView) (result : Option TerminalOutcome) : List TaskAttention :=
  (if task.status = .paused ∧ (is_workspace_available = false ∨ task.pause_reason = some .workspace_unavailable) then
    [⟨.workspace_unavailable,
      if is_workspace_available then "Workspace available again" else "Workspace unavailable", none⟩]
  else []) ++
    ((human_requests.filter fun request => request.status == .open).map fun request =>
      ⟨.human_request, "Needs your attention", some request.id⟩) ++
    if result = some .blocked then [⟨.blocked_result, "The run is blocked", none⟩] else []

/-- The status and the attention of the Task view. -/
def read_product_task (db : TaskDb) (is_workspace_available : Bool) :
    Result (TaskProductStatus × List TaskAttention) := do
  let task ← read_runtime_task db
  let human_requests := list_product_human_requests db 20
  return (read_product_task_status db task,
    build_task_attention task is_workspace_available human_requests task.result)

section Views

variable {controller : Controller} {db : TaskDb} {task : ControllerTaskState}

theorem product_status_agrees (hstatus : task.status = db.task.status)
    (houtcome : task.terminal_outcome = db.task.terminal_outcome) :
    task_product_status_expression db = read_product_task_status db task := by
  unfold task_product_status_expression read_product_task_status
  rw [hstatus, houtcome]
  cases db.task.status <;> rfl

/-- The open requests are all listed, and no other one counts as open. -/
theorem open_views (db : TaskDb) (terminal_limit : Nat) :
    ((list_product_human_requests db terminal_limit).filter fun request => request.status == .open).length =
      (db.human_requests.select fun _ request => request.is_open).length := by
  have hstatus : ∀ request : HumanRequest,
      (product_request_status request.status == .open) = request.is_open := by
    intro request
    unfold HumanRequest.is_open
    cases request.status <;> rfl
  have hopen : ∀ row ∈ db.human_requests.select fun _ request => request.is_open, row.2.is_open = true :=
    fun row hrow => (Table.mem_select_iff.mp hrow).2
  have hterminal : ∀ row ∈ (db.human_requests.select fun _ request => !request.is_open).take terminal_limit,
      ¬row.2.is_open = true := by
    intro row hrow
    have h := (Table.mem_select_iff.mp (List.mem_of_mem_take hrow)).2
    simpa using h
  unfold list_product_human_requests
  dsimp only
  rw [List.filter_map, List.length_map]
  simp only [Function.comp_def, hstatus]
  rw [List.filter_append, List.filter_eq_self.mpr hopen, List.filter_eq_nil_iff.mpr hterminal, List.append_nil]

/-- The result that is read is the outcome of the Task. -/
theorem read_task_result_eq (h : controller.runtime.Reachable db) :
    read_task_result db = .ok db.task.terminal_outcome := by
  unfold read_task_result
  cases hresult : db.task.result_boundary_id with
  | none =>
    have houtcome : db.task.terminal_outcome = none := by
      by_contra hsome
      have := Controller.outcome_result h hsome
      rw [hresult] at this
      cases this
    rw [houtcome]
    rfl
  | some d =>
    obtain ⟨boundary, outcome, hrow, houtcome, hboundary⟩ := Controller.result_outcome h d hresult
    obtain ⟨checkpoint, hcheckpoint, hassignment, hattempt⟩ := Controller.boundary_checkpoints h d boundary hrow
    rw [Option.bind_some, hrow]
    dsimp only
    rw [hcheckpoint, Option.any_some, hassignment, hattempt, beq_self_eq_true, beq_self_eq_true,
      Bool.and_self, if_pos rfl, houtcome, hboundary]
    cases outcome <;> rfl

/-- The attention of a Task whose workspace is available. -/
theorem attention_length (task : ControllerTaskState) (requests : List HumanRequestView)
    (result : Option TerminalOutcome) :
    (build_task_attention task true requests result).length =
      (if task.status = .paused ∧ task.pause_reason = some .workspace_unavailable then 1 else 0) +
        (requests.filter fun request => request.status == .open).length +
          if result = some .blocked then 1 else 0 := by
  unfold build_task_attention
  rw [List.length_append, List.length_append, List.length_map]
  congr 1
  · congr 1
    by_cases hpaused : task.status = .paused ∧ task.pause_reason = some .workspace_unavailable
    · rw [if_pos ⟨hpaused.1, Or.inr hpaused.2⟩, if_pos hpaused]
      rfl
    · rw [if_neg fun h => hpaused ⟨h.1, h.2.resolve_left Bool.noConfusion⟩, if_neg hpaused]
      rfl
  · split <;> rfl

/-- The search agrees with the view on the status of every Task; on the attention, unless the Task is paused for a
    workspace that is available again. -/
theorem search_summary_agrees (h : controller.runtime.Reachable db) :
    ∃ status attention, read_product_task db true = .ok (status, attention) ∧
      task_product_status_expression db = status ∧
      (task_attention_count_expression db = attention.length ↔
        ¬(db.task.status = .paused ∧ db.task.pause_reason = some .workspace_unavailable)) := by
  have hread : read_product_task db true = .ok
      (read_product_task_status db
        ⟨db.task.status, db.task.terminal_outcome, db.task.terminal_outcome, db.task.pause_reason⟩,
      build_task_attention
        ⟨db.task.status, db.task.terminal_outcome, db.task.terminal_outcome, db.task.pause_reason⟩ true
        (list_product_human_requests db 20) db.task.terminal_outcome) := by
    unfold read_product_task read_runtime_task
    rw [read_task_result_eq h]
    rfl
  refine ⟨_, _, hread, product_status_agrees rfl rfl, ?_⟩
  unfold task_attention_count_expression
  rw [attention_length, open_views]
  dsimp only
  split <;> split <;> simp_all

theorem replay_managers_asking :
    (replay_two_managers (managers_at_work ++ [.ask 2 1, .retry 3 2 6, .accept_start 6 0 0, .ask 6 8])).isSome =
    true := by
  decide +kernel

theorem replay_lead_blocked : (replay_two_managers lead_blocked).isSome = true := by decide +kernel

/-- Two Members wait for a human, one of them in its second Attempt, and both sides count two items; a blocked result is
    one item on both. -/
theorem search_summary_agrees_managers_asking :
    (task_product_status_expression (replayed _ replay_managers_asking) = .waiting_for_you ∧
      task_attention_count_expression (replayed _ replay_managers_asking) = 2 ∧
      ∃ status attention, read_product_task (replayed _ replay_managers_asking) true = .ok (status, attention) ∧
        status = .waiting_for_you ∧ attention.length = 2) ∧
    task_attention_count_expression (replayed _ replay_lead_blocked) = 1 ∧
      ∃ status attention, read_product_task (replayed _ replay_lead_blocked) true = .ok (status, attention) ∧
        status = .blocked ∧ attention.length = 1 := by
  have hasking : task_product_status_expression (replayed _ replay_managers_asking) = .waiting_for_you ∧
      task_attention_count_expression (replayed _ replay_managers_asking) = 2 ∧
      (replayed _ replay_managers_asking).task.status = .running := by
    decide +kernel
  have hblocked : task_product_status_expression (replayed _ replay_lead_blocked) = .blocked ∧
      task_attention_count_expression (replayed _ replay_lead_blocked) = 1 ∧
      (replayed _ replay_lead_blocked).task.status = .completed := by
    decide +kernel
  refine ⟨⟨hasking.1, hasking.2.1, ?_⟩, hblocked.2.1, ?_⟩
  · obtain ⟨status, attention, hread, hstatus, hcount⟩ :=
      search_summary_agrees (replayed_reachable replay_managers_asking)
    refine ⟨status, attention, hread, hstatus.symm.trans hasking.1, ?_⟩
    rw [← hcount.mpr (by simp [hasking.2.2]), hasking.2.1]
  · obtain ⟨status, attention, hread, hstatus, hcount⟩ := search_summary_agrees (replayed_reachable replay_lead_blocked)
    refine ⟨status, attention, hread, hstatus.symm.trans hblocked.1, ?_⟩
    rw [← hcount.mpr (by simp [hblocked.2.2]), hblocked.2.1]

/-- The workspace of the Task is found unavailable. -/
def Move.lose_workspace : Move where
  transaction _ := .pause_task_for_unavailable_workspace

/-- A Task that was paused for its workspace lists one item when the workspace is back, and the search counts none. -/
theorem search_misses_workspace :
    ¬∀ (controller : Controller) (db : TaskDb), controller.runtime.Reachable db →
      ∃ status attention, read_product_task db true = .ok (status, attention) ∧
        task_product_status_expression db = status ∧ task_attention_count_expression db = attention.length := by
  intro hagree
  obtain ⟨db, hreachable, hpaused⟩ := reachable_of_replay [.lose_workspace]
    (P := fun db => match read_product_task db true with
      | .ok (_, attention) => attention.length == 1 && task_attention_count_expression db == 0
      | .error _ => false) (by decide +kernel)
  obtain ⟨status, attention, hread, -, hcount⟩ := hagree _ db hreachable
  rw [hread, Bool.and_eq_true, beq_iff_eq, beq_iff_eq, ← hcount] at hpaused
  exact absurd (hpaused.2.symm.trans hpaused.1) (by decide)

end Views

end OhMySubagents

import OhMySubagents.Dispatch.Authority
import OhMySubagents.Dispatch.Opening

open Relational

namespace OhMySubagents

/-- `PUBLIC_MAX_WAVE_MEMBERS`. -/
def PUBLIC_MAX_WAVE_MEMBERS : Nat := 8

/-- One to eight unique direct children; their prompts and files are not kept. -/
structure DelegateRequest where
  child_ids : List MemberId
  nonempty : child_ids ≠ []
  at_most : child_ids.length ≤ 8
  unique : child_ids.Nodup

def delegation_conflict (summary : String) : RuntimeOperationError := conflict_error summary

/-- `AssignmentBudgetSnapshot`. -/
structure AssignmentBudgetSnapshot where
  child_assignment_limit : Nat
  child_assignments_remaining : Nat
  retry_limit : Nat
  retries_remaining : Nat
  deriving DecidableEq, Repr

def snapshot_assignment_budget (child_assignment_limit retry_limit : Nat) : AssignmentBudgetSnapshot where
  child_assignment_limit := child_assignment_limit
  child_assignments_remaining := child_assignment_limit
  retry_limit := retry_limit
  retries_remaining := retry_limit

def Task.assignment_budget (task : Task) : AssignmentBudgetSnapshot :=
  snapshot_assignment_budget task.max_child_assignments_per_assignment task.max_retries_per_assignment

/-- The current Team revision that still selects the exact parent. -/
def read_delegation_context (db : TaskDb) (authority : NodeOperationAuthority) : Result TeamRevision := do
  let changed := delegation_conflict "another transition changed exact delegation authority"
  let rev ← require_some (db.team_revisions.get? db.task.current_team_revision_id) changed
  require (rev.selects authority.selection && db.task.status == .running &&
    exact_node_operation_authority_exists db authority) changed
  return rev

def require_wave_size (task : Task) (member_count : Nat) : Result Unit :=
  let limit := min task.max_wave_members PUBLIC_MAX_WAVE_MEMBERS
  require (member_count ≤ limit)
    (budget_exhausted_error
      s!"delegate requested {member_count} members but this Task allows at most {limit}")

/-- A direct child that the current Team selects, with an own configuration row. -/
def read_direct_target (db : TaskDb) (rev : TeamRevision) (authority : NodeOperationAuthority) (child_id : MemberId) :
    Option TeamRevisionMember :=
  (rev.select child_id).filter fun selection => selection.parent_member_id == some authority.member_id &&
    (db.member_configurations.get? selection.member_configuration_id).any
      fun configuration => configuration.member_id == selection.member_id

def illegal_target_relation_error (missing : List MemberId) : RuntimeOperationError :=
  { code := .illegal_target_relation
    summary := "delegate may target only current direct children; unknown or indirect: " ++
      ", ".intercalate (missing.map toString) }

def read_direct_targets (db : TaskDb) (rev : TeamRevision) (authority : NodeOperationAuthority)
    (child_ids : List MemberId) : Result (List TeamRevisionMember) := do
  let missing := child_ids.filter fun child_id => (read_direct_target db rev authority child_id).isNone
  require missing.isEmpty (illegal_target_relation_error missing)
  return child_ids.filterMap (read_direct_target db rev authority)

/-- What the preparation of one child draws by itself. -/
structure DrawnWaveMember where
  assignment_id : AssignmentId
  attempt_id : AttemptId
  request : DrawnDispatchRequest
  deriving DecidableEq, Repr

structure PreparedWaveMember where
  target : TeamRevisionMember
  assignment_id : AssignmentId
  attempt_id : AttemptId
  dispatch : PreparedDispatchRequest
  deriving DecidableEq, Repr

/-- Whether a Member still has an open Assignment. -/
def member_is_busy (db : TaskDb) (member_id : MemberId) : Bool :=
  db.assignments.any fun _ assignment => assignment.member_id == member_id && assignment.terminal_outcome.isNone

def require_available_child (db : TaskDb) (target : TeamRevisionMember) : Result Unit :=
  require (!member_is_busy db target.member_id)
    (illegal_state_error s!"direct child '{target.member_id}' already has active work")

/-- `drawn` is empty for a child whose files, provider or prompt cannot be prepared. A new Assignment
    has no steers yet. -/
def prepare_wave_member (db : TaskDb) (drawn : MemberId → Option DrawnWaveMember) (target : TeamRevisionMember) :
    Result PreparedWaveMember := do
  require_available_child db target
  let drawn ← require_some (drawn target.member_id)
    (illegal_state_error s!"could not prepare delegated child '{target.member_id}'")
  return {
    target := target
    assignment_id := drawn.assignment_id
    attempt_id := drawn.attempt_id
    dispatch := prepare_dispatch_request drawn.request [] }

theorem read_delegation_context_success {db : TaskDb} {authority : NodeOperationAuthority} {rev : TeamRevision}
    (h : read_delegation_context db authority = .ok rev) :
    db.team_revisions.get? db.task.current_team_revision_id = some rev := by
  unfold read_delegation_context at h
  simp only [bind_eq_ok_iff, require_some_eq_ok_iff] at h
  obtain ⟨rev', hrev, _, -, h⟩ := h
  cases h
  exact hrev

theorem read_direct_target_eq_some {db : TaskDb} {rev : TeamRevision} {authority : NodeOperationAuthority}
    {child_id : MemberId} {target : TeamRevisionMember}
    (h : read_direct_target db rev authority child_id = some target) :
    target.member_id = child_id ∧ rev.select child_id = some target ∧
      target.parent_member_id = some authority.member_id := by
  unfold read_direct_target at h
  rw [Option.filter_eq_some_iff, Bool.and_eq_true, beq_iff_eq] at h
  exact ⟨TeamRevision.select_member_id h.1, h.1, h.2.1⟩

private theorem filterMap_map_of_some {α β γ : Type} {f : α → Option β} {g : β → γ} {l : List α} {p : α → γ}
    (hsome : ∀ a ∈ l, (f a).isSome) (h : ∀ a b, f a = some b → g b = p a) : (l.filterMap f).map g = l.map p := by
  induction l with
  | nil => rfl
  | cons a l ih =>
    obtain ⟨b, hb⟩ := Option.isSome_iff_exists.mp (hsome a List.mem_cons_self)
    rw [List.filterMap_cons_some hb, List.map_cons, List.map_cons, h a b hb,
      ih fun a' ha' => hsome a' (List.mem_cons_of_mem a ha')]

/-- The targets are the named children, in order, each directly below the parent. -/
theorem read_direct_targets_success {db : TaskDb} {rev : TeamRevision} {authority : NodeOperationAuthority}
    {child_ids : List MemberId} {targets : List TeamRevisionMember}
    (h : read_direct_targets db rev authority child_ids = .ok targets) :
    targets.map TeamRevisionMember.member_id = child_ids ∧
      ∀ target ∈ targets, rev.select target.member_id = some target ∧
        target.parent_member_id = some authority.member_id := by
  unfold read_direct_targets at h
  simp only [bind_eq_ok_iff, require_eq_ok_iff, List.isEmpty_iff, List.filter_eq_nil_iff, Option.isNone_iff_eq_none,
    Option.ne_none_iff_isSome] at h
  obtain ⟨_, hall, h⟩ := h
  cases h
  refine ⟨?_, fun target htarget => ?_⟩
  · rw [filterMap_map_of_some (p := id) hall fun a b hab => (read_direct_target_eq_some hab).1, List.map_id]
  · obtain ⟨child_id, -, hchild⟩ := List.mem_filterMap.mp htarget
    obtain ⟨hid, hselect, hparent⟩ := read_direct_target_eq_some hchild
    exact ⟨hid ▸ hselect, hparent⟩

/-- A prepared child has no open Assignment. -/
theorem prepare_wave_member_success {db : TaskDb} {drawn : MemberId → Option DrawnWaveMember}
    {target : TeamRevisionMember} {member : PreparedWaveMember} (h : prepare_wave_member db drawn target = .ok member) :
    member.target = target ∧ member.dispatch.steering = [] ∧
      ∀ i assignment, db.assignments.get? i = some assignment → assignment.terminal_outcome = none →
        assignment.member_id ≠ target.member_id := by
  unfold prepare_wave_member require_available_child member_is_busy at h
  simp only [bind_eq_ok_iff, require_eq_ok_iff, require_some_eq_ok_iff, Bool.not_eq_true', Table.any_eq_false_iff] at h
  obtain ⟨_, hfree, draw, -, h⟩ := h
  cases h
  refine ⟨rfl, rfl, fun i assignment hassignment hopen hmember => ?_⟩
  simpa [hopen, hmember] using hfree i assignment hassignment

end OhMySubagents

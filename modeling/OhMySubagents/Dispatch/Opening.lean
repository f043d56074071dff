import OhMySubagents.Dispatch.Currentness
import OhMySubagents.Team.Currentness

open Relational

namespace OhMySubagents

/-- Everything a starting Dispatch copies from the lane and the Team it opens in. -/
structure StartingDispatchBasis where
  assignment_id : AssignmentId
  team_revision_id : RevisionId
  selection : MemberSelection
  attempt_id : AttemptId
  opened_reason : DispatchOpenedReason
  predecessor_dispatch_id : Option DispatchId
  deriving DecidableEq, Repr

/-- What a preparation draws by itself: a fresh identity and the clock's instant. -/
structure DrawnDispatchRequest where
  dispatch_id : DispatchId
  due_at : Instant
  deriving DecidableEq, Repr

/-- The part of a prepared request that the rows keep. -/
structure PreparedDispatchRequest where
  dispatch_id : DispatchId
  due_at : Instant
  steering : List PromptSteer
  deriving DecidableEq, Repr

def prepare_dispatch_request (drawn : DrawnDispatchRequest) (steering : List PromptSteer) :
    PreparedDispatchRequest where
  dispatch_id := drawn.dispatch_id
  due_at := drawn.due_at
  steering := steering

def StartingDispatchBasis.identity (basis : StartingDispatchBasis) (prepared : PreparedDispatchRequest) :
    AttemptDispatchIdentity where
  assignment_id := basis.assignment_id
  attempt_id := basis.attempt_id
  dispatch_id := prepared.dispatch_id

def build_starting_dispatch_model (basis : StartingDispatchBasis) (prepared : PreparedDispatchRequest) :
    DispatchTurn where
  assignment_id := basis.assignment_id
  attempt_id := basis.attempt_id
  team_revision_id := basis.team_revision_id
  member_id := basis.selection.member_id
  member_configuration_id := basis.selection.member_configuration_id
  member_branch_basis_id := basis.selection.member_branch_basis_id
  predecessor_dispatch_id := basis.predecessor_dispatch_id
  status := .starting prepared.due_at .initial
  opened_reason := basis.opened_reason
  request_steering := prepared.steering
  provider_start_revision := 0
  provider_start_attempt_count := 0
  adapter_started_at := none
  last_node_activity_at := none
  node_activity_revision := 0

/-- `INSERT INTO dispatch_turns`, with its unique indexes: no two Dispatches follow one predecessor, an
    Attempt has one first Dispatch, and an Attempt has one live Dispatch. -/
def insert_dispatch_turn (db : TaskDb) (dispatch_id : DispatchId) (dispatch : DispatchTurn) : Result TaskDb := do
  require (!db.dispatches.any fun _ other => match dispatch.predecessor_dispatch_id with
    | some predecessor => other.predecessor_dispatch_id == some predecessor
    | none => other.predecessor_dispatch_id.isNone && other.attempt_id == dispatch.attempt_id) integrity_error
  require (!db.dispatches.any fun _ other => other.is_live && other.attempt_id == dispatch.attempt_id)
    integrity_error
  let dispatches ← require_some (db.dispatches.insertNew dispatch_id dispatch) integrity_error
  return { db with dispatches := dispatches }

/-- `AttemptDispatchConflictError`: another transition owns the Attempt's current lane. -/
def attempt_dispatch_conflict (attempt_id : AttemptId) (dispatch_id : DispatchId) : RuntimeOperationError :=
  internal_error s!"Attempt {attempt_id} no longer accepts Dispatch {dispatch_id}"

def stage_starting_dispatch (db : TaskDb) (basis : StartingDispatchBasis) (prepared : PreparedDispatchRequest) :
    Result TaskDb := do
  let selected ← require_some
    (select_starting_dispatch_for_attempt db (basis.identity prepared) basis.predecessor_dispatch_id)
    (attempt_dispatch_conflict basis.attempt_id prepared.dispatch_id)
  insert_dispatch_turn selected prepared.dispatch_id (build_starting_dispatch_model basis prepared)

@[simp] theorem build_starting_dispatch_model_selection (basis : StartingDispatchBasis)
    (prepared : PreparedDispatchRequest) :
    (build_starting_dispatch_model basis prepared).selection = basis.selection := rfl

/-- What the unique indexes admit. -/
structure DispatchInsertable (db : TaskDb) (dispatch_id : DispatchId) (dispatch : DispatchTurn) : Prop where
  fresh : db.dispatches.get? dispatch_id = none
  follows_alone : ∀ d other, db.dispatches.get? d = some other → dispatch.predecessor_dispatch_id.isSome →
    other.predecessor_dispatch_id ≠ dispatch.predecessor_dispatch_id
  first : ∀ d other, db.dispatches.get? d = some other → dispatch.predecessor_dispatch_id = none →
    other.predecessor_dispatch_id = none → other.attempt_id ≠ dispatch.attempt_id
  live : ∀ d other, db.dispatches.get? d = some other → other.is_live = true →
    other.attempt_id ≠ dispatch.attempt_id

theorem insert_dispatch_turn_eq_ok {db db' : TaskDb} {dispatch_id : DispatchId} {dispatch : DispatchTurn} :
    insert_dispatch_turn db dispatch_id dispatch = .ok db' ↔ DispatchInsertable db dispatch_id dispatch ∧
      db' = { db with dispatches := db.dispatches.set dispatch_id dispatch } := by
  unfold insert_dispatch_turn
  simp only [bind_eq_ok_iff, require_eq_ok_iff, require_some_eq_ok_iff, Table.insertNew_eq_some,
    Bool.not_eq_true', Table.any_eq_false_iff]
  constructor
  · rintro ⟨_, hpredecessor, _, hlive, _, ⟨hfresh, rfl⟩, h⟩
    cases h
    refine ⟨⟨hfresh, ?_, ?_, ?_⟩, rfl⟩
    · intro d other hother hsome heq
      obtain ⟨p, hp⟩ := Option.isSome_iff_exists.mp hsome
      simpa [hp, heq] using hpredecessor d other hother
    · intro d other hother hnone hfirst heq
      simpa [hnone, hfirst, heq] using hpredecessor d other hother
    · intro d other hother hl heq
      simpa [hl, heq] using hlive d other hother
  · rintro ⟨h, rfl⟩
    refine ⟨(), fun d other hother => ?_, (), fun d other hother => ?_, _, ⟨h.fresh, rfl⟩, rfl⟩
    · cases hp : dispatch.predecessor_dispatch_id with
      | some p => simpa [hp] using h.follows_alone d other hother (by simp [hp])
      | none =>
        have hfirst := h.first d other hother hp
        cases hother' : other.predecessor_dispatch_id with
        | some _ => simp
        | none => simpa using hfirst hother'
    · have hlive := h.live d other hother
      cases hl : other.is_live with
      | false => simp
      | true => simpa using hlive hl

/-- A staged Dispatch occupies its lane: the pointer moves onto it and its row is starting. -/
theorem stage_starting_dispatch_eq_ok {db db' : TaskDb} {basis : StartingDispatchBasis}
    {prepared : PreparedDispatchRequest} :
    stage_starting_dispatch db basis prepared = .ok db' ↔
      ∃ attempt, db.attempts.get? basis.attempt_id = some attempt ∧
        attempt.accepts basis.assignment_id basis.predecessor_dispatch_id = true ∧
        DispatchInsertable db prepared.dispatch_id (build_starting_dispatch_model basis prepared) ∧
        db' = { db with
          attempts := db.attempts.set basis.attempt_id
            { attempt with current_dispatch_id := some prepared.dispatch_id }
          dispatches := db.dispatches.set prepared.dispatch_id
            (build_starting_dispatch_model basis prepared) } := by
  unfold stage_starting_dispatch
  simp only [bind_eq_ok_iff, require_some_eq_ok_iff, select_starting_dispatch_for_attempt_eq_some,
    insert_dispatch_turn_eq_ok, StartingDispatchBasis.identity]
  constructor
  · rintro ⟨_, ⟨attempt, hattempt, haccepts, rfl⟩, ⟨hfresh, hfollows, hfirst, hlive⟩, rfl⟩
    exact ⟨attempt, hattempt, haccepts, ⟨hfresh, hfollows, hfirst, hlive⟩, rfl⟩
  · rintro ⟨attempt, hattempt, haccepts, ⟨hfresh, hfollows, hfirst, hlive⟩, rfl⟩
    exact ⟨_, ⟨attempt, hattempt, haccepts, rfl⟩, ⟨hfresh, hfollows, hfirst, hlive⟩, rfl⟩

end OhMySubagents

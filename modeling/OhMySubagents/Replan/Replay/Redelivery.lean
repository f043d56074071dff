import OhMySubagents.Replan.Preservation
import OhMySubagents.Replan.Replay.Readbacks
import OhMySubagents.System.ProviderStarts

open Relational JsonData

namespace OhMySubagents

open Contracts

/-- The columns of a replan transition that only a redelivery reads, next to those of its barrier. -/
structure ReplanReadback where
  operation : ReplanOperation
  normalized_request_json : JsonData
  committed_result_json : JsonData

structure ReplanDb where
  rows : TaskDb
  readbacks : Table TransitionId ReplanReadback

/-- A call as it is delivered: the name of its operation and the dump of its validated request. -/
structure NodeOperationCall where
  operation_name : String
  request : JsonData
  deriving DecidableEq

/-- What the caller sees of itself after a replan. -/
structure FreshMemberView where
  direct_team : List DirectTeamMemberRead
  effective_capabilities : EffectiveCapabilitiesRead
  available_actions : List Contracts.Identifier
  unique : available_actions.Nodup

/-- How a replan call is delivered. -/
def Contracts.ReplanCall.delivered (names : MemberNames) (call : ReplanCall) : NodeOperationCall where
  operation_name := call.operation.text
  request := call.dump names

/-- `none` when a Member's identifier is not one of the contracts. -/
def replan_success (names : MemberNames) (operation : ReplanOperation) (mutation : ReplanMutation)
    (view : FreshMemberView) : Option ReplanSuccess := do
  let created_ids ← mutation.created_ids.mapM fun id => Contracts.Identifier.validate (names.name id)
  let updated_ids ← mutation.updated_ids.mapM fun id => Contracts.Identifier.validate (names.name id)
  let removed_ids ← mutation.removed_ids.mapM fun id => Contracts.Identifier.validate (names.name id)
  return {
    operation, created_ids, updated_ids, removed_ids
    direct_team := view.direct_team
    behavior := expected_behavior view.direct_team
    effective_capabilities := view.effective_capabilities
    available_actions := view.available_actions
    fresh_member_view := ⟨rfl, view.unique⟩ }

/-- Everything that one replan is told and draws. -/
structure ReplanDelivery where
  scope : NodeOperationScope
  call : ReplanCall
  draw : List Nat → DrawnIdentity
  resolution_failure : PlannedMember → Option String
  drawn : DrawnReplan
  is_capability_allowed : Bool
  view : ReplanMutation → FreshMemberView

def ReplanDelivery.operation (delivery : ReplanDelivery) : NodeOperation :=
  .replan (delivery.call.planned delivery.draw) delivery.resolution_failure delivery.drawn

/-- The operation transaction of a replan, with the readback of its transition and the result of the call. -/
def commit_replan (names : MemberNames) (db : ReplanDb) (delivery : ReplanDelivery) :
    Result (ReplanDb × ReplanSuccess) := do
  let rows ← commit_node_operation db.rows delivery.scope delivery.operation delivery.is_capability_allowed
  let authority ← read_node_operation_authority db.rows delivery.scope
  let context ← read_replan_context db.rows authority
  let mutation ← build_replan_mutation context.members context.team_revision.root_member_id
    authority.assignment.member_id (delivery.call.planned delivery.draw) delivery.drawn.refresh
  let result ← require_some (replan_success names delivery.call.operation mutation (delivery.view mutation))
    (internal_error "ValidationError")
  let readback : ReplanReadback :=
    { operation := delivery.call.operation
      normalized_request_json := delivery.call.dump names
      committed_result_json := ReplanSuccess.codec.encode result }
  return ({ rows, readbacks := db.readbacks.set delivery.drawn.transition_id readback }, result)

def REPLAN_OPERATION_NAMES : List String := ["add_child", "update_child", "remove_child"]

/-- The transition of a redelivered call: of the Dispatch, the operation and the provider-start generation. -/
def select_replan_transition (db : ReplanDb) (dispatch_id : DispatchId) (provider_start_revision : Nat)
    (operation_name : String) : Option ReplanReadback := do
  let (transition_id, _) ← (db.rows.replan_transitions.select fun transition_id transition =>
    transition.source_dispatch_id == dispatch_id &&
      (db.readbacks.get? transition_id).any (fun readback => readback.operation.text == operation_name) &&
      (db.rows.dispatches.get? transition.source_dispatch_id).any fun dispatch =>
        dispatch.provider_start_revision == provider_start_revision).head?
  db.readbacks.get? transition_id

/-- Return an exact committed replan readback for duplicate transport delivery. -/
def read_committed_replan_replay (db : ReplanDb) (scope : NodeOperationScope) (call : NodeOperationCall) :
    Result (Option ReplanSuccess) :=
  if call.operation_name ∉ REPLAN_OPERATION_NAMES then .ok none
  else
    match scope.provider_start_revision with
    | none => .ok none
    | some provider_start_revision =>
      match select_replan_transition db scope.dispatch_id provider_start_revision call.operation_name with
      | none => .ok none
      | some transition =>
        if transition.normalized_request_json ≠ call.request then .ok none
        else (require_some (ReplanSuccess.codec.decode transition.committed_result_json)
          (internal_error "ValidationError")).map some

/-- The admission transaction of one call: an answer from a committed replan, or the recorded activity. -/
def execute_admission (db : ReplanDb) (scope : NodeOperationScope) (call : NodeOperationCall)
    (operation : NodeOperation) (is_capability_allowed : Bool) (occurred_at : Instant) :
    Result (ReplanDb × Option ReplanSuccess) := do
  match ← read_committed_replan_replay db scope call with
  | some replay => return (db, some replay)
  | none =>
    let rows ← admit_node_operation db.rows scope operation is_capability_allowed occurred_at
    return ({ db with rows }, none)

/-- A transaction of the runtime; only replans write readbacks. -/
inductive ReplanTransaction
  | replan (delivery : ReplanDelivery)
  | other (t : Transaction) (stale : List ReplanDb)

def Transaction.is_replan : Transaction → Bool
  | .commit_node_operation _ (.replan _ _ _) _ => true
  | _ => false

/-- The runtime of one Task together with the readbacks of its replans. -/
def Controller.replans (controller : Controller) (names : MemberNames) : Transactional ReplanDb ReplanTransaction where
  start db := controller.runtime.start db.rows ∧ db.readbacks = ∅
  reads
    | .replan _ => []
    | .other _ stale => stale
  commit
    | .replan delivery, db, db' => ∃ result, commit_replan names db delivery = .ok (db', result)
    | .other t stale, db, db' => t.is_replan = false ∧ t.reads = stale.map ReplanDb.rows ∧
        t.commit controller db.rows = some db'.rows ∧ db'.readbacks = db.readbacks

section Redelivery

variable {controller : Controller} {names : MemberNames} {db db' later : ReplanDb} {delivery : ReplanDelivery}
  {result : ReplanSuccess}

theorem commit_replan_success (h : commit_replan names db delivery = .ok (db', result)) :
    commit_node_operation db.rows delivery.scope delivery.operation delivery.is_capability_allowed = .ok db'.rows ∧
      db'.readbacks = db.readbacks.set delivery.drawn.transition_id
        ⟨delivery.call.operation, delivery.call.dump names, ReplanSuccess.codec.encode result⟩ := by
  unfold commit_replan at h
  simp only [bind_eq_ok_iff] at h
  obtain ⟨rows, hrows, _, -, _, -, _, -, _, -, h⟩ := h
  cases h
  exact ⟨hrows, rfl⟩

/-- The rows of a run are a run of the runtime. -/
theorem Controller.replans_run {states : List ReplanDb} (h : (controller.replans names).Run states) :
    controller.runtime.Run (states.map ReplanDb.rows) := by
  induction h with
  | start start => exact .start start.1
  | @step db history t db' run reads commit ih =>
    cases t with
    | replan delivery =>
      obtain ⟨result, hcommit⟩ := commit
      have hrows : controller.runtime.commit
          (.commit_node_operation delivery.scope delivery.operation delivery.is_capability_allowed) db.rows db'.rows :=
        toOption_eq_some_iff.mpr (commit_replan_success hcommit).1
      exact ih.step (by simp [runtime, Transaction.reads, NodeOperation.reads, ReplanDelivery.operation]) hrows
    | other t stale =>
      obtain ⟨-, hreads, hcommit, -⟩ := commit
      refine ih.step (fun rows hrows => ?_) hcommit
      rw [show controller.runtime.reads t = t.reads from rfl, hreads] at hrows
      obtain ⟨old, hold, rfl⟩ := List.mem_map.mp hrows
      exact List.mem_map_of_mem (reads old hold)

theorem Controller.replans_reachable (h : (controller.replans names).Reachable db) :
    controller.runtime.Reachable db.rows := by
  obtain ⟨history, hrun⟩ := h
  exact ⟨_, replans_run hrun⟩

theorem Controller.replans_step (h : (controller.replans names).Step db db') :
    controller.runtime.Step db.rows db'.rows := by
  obtain ⟨hreachable, t, hcommit⟩ := h
  refine ⟨replans_reachable hreachable, ?_⟩
  cases t with
  | replan delivery =>
    obtain ⟨result, hcommit⟩ := hcommit
    exact ⟨.commit_node_operation delivery.scope delivery.operation delivery.is_capability_allowed,
      toOption_eq_some_iff.mpr (commit_replan_success hcommit).1⟩
  | other t stale => exact ⟨t, hcommit.2.2.1⟩

theorem Controller.replans_path (h : (controller.replans names).Path db db') :
    controller.runtime.Path db.rows db'.rows := by
  induction h with
  | refl => exact .refl
  | tail _ step ih => exact ih.tail (replans_step step)

/-- A replay without a replan moves the rows and no readback. -/
theorem Controller.replans_replay {moves : List Move} {rows : TaskDb} (h : (controller.replans names).Reachable db)
    (hother : ∀ move ∈ moves, ∀ rows, (move.transaction rows).is_replan = false)
    (hreplay : controller.replay db.rows moves = some rows) :
    (controller.replans names).Reachable { db with rows } ∧ (controller.replans names).Path db { db with rows } := by
  induction moves generalizing db with
  | nil =>
    cases hreplay
    exact ⟨h, .refl⟩
  | cons move moves ih =>
    unfold replay at hreplay
    rw [List.foldlM_cons, Option.bind_eq_bind, Option.bind_eq_some_iff] at hreplay
    obtain ⟨next, hnext, hrest⟩ := hreplay
    obtain ⟨history, hrun⟩ := h
    -- whatever the move reads it reads from the newest rows
    have hstale : ((move.transaction db.rows).reads.map fun _ => db).map ReplanDb.rows =
        (move.transaction db.rows).reads := by
      rw [List.map_map]
      exact (List.map_congr_left fun stale hstale => (move.alone db.rows stale hstale).symm).trans (List.map_id _)
    have hcommit : (controller.replans names).commit
        (.other (move.transaction db.rows) ((move.transaction db.rows).reads.map fun _ => db)) db
        { db with rows := next } := ⟨hother move List.mem_cons_self db.rows, hstale.symm, hnext, rfl⟩
    have hnextRun := hrun.step (fun stale hread => by
      obtain ⟨_, -, rfl⟩ := List.mem_map.mp hread
      exact List.mem_cons_self) hcommit
    obtain ⟨hlater, hpath⟩ := ih ⟨_, hnextRun⟩
      (fun later hmem => hother later (List.mem_cons_of_mem _ hmem)) hrest
    exact ⟨hlater, .head ⟨⟨history, hrun⟩, _, hcommit⟩ hpath⟩

/-- What a committed replan leaves for its redeliveries. -/
structure ReplanReadable (names : MemberNames) (delivery : ReplanDelivery) (result : ReplanSuccess) (db : ReplanDb) :
    Prop where
  transition : ∃ transition, db.rows.replan_transitions.get? delivery.drawn.transition_id = some transition ∧
    transition.source_dispatch_id = delivery.scope.dispatch_id
  readback : db.readbacks.get? delivery.drawn.transition_id =
    some ⟨delivery.call.operation, delivery.call.dump names, ReplanSuccess.codec.encode result⟩
  dispatch : ∃ dispatch, db.rows.dispatches.get? delivery.scope.dispatch_id = some dispatch ∧
    dispatch.status = .closed .structural_replan ∧
    delivery.scope.provider_start_revision.all (fun revision => dispatch.provider_start_revision == revision) = true

private theorem read_node_operation_authority_generation {rows : TaskDb} {scope : NodeOperationScope}
    {authority : NodeOperationAuthority} (h : read_node_operation_authority rows scope = .ok authority) :
    scope.provider_start_revision.all (fun revision => authority.dispatch.provider_start_revision == revision) =
      true := by
  unfold read_node_operation_authority read_current_dispatch at h
  simp only [bind_eq_ok_iff, require_some_eq_ok_iff, require_eq_ok_iff] at h
  obtain ⟨dispatch, ⟨_, -, _, hgeneration, _, -, _, -, _, -, hd⟩, _, -, _, -, h⟩ := h
  cases hd
  cases h
  exact hgeneration

/-- A replan that commits is readable from then on. -/
theorem ReplanReadable.committed (h : commit_replan names db delivery = .ok (db', result)) :
    ReplanReadable names delivery result db' := by
  obtain ⟨-, hreadbacks⟩ := commit_replan_success h
  unfold commit_replan at h
  simp only [bind_eq_ok_iff] at h
  obtain ⟨rows, hrows, authority, hread, _, -, _, -, _, -, h⟩ := h
  cases h
  obtain ⟨authority', hid, hauth, -, hcommitted⟩ := commit_node_operation_success hrows
  obtain ⟨hid', hauth'⟩ := read_node_operation_authority_success hread
  have hgeneration := read_node_operation_authority_generation hread
  have hdispatch : authority.dispatch = authority'.dispatch := by
    have hrow := hauth.lane.dispatch_row
    have hrow' := hauth'.lane.dispatch_row
    rw [show authority.identity.dispatch_id = authority'.identity.dispatch_id from hid'.trans hid.symm] at hrow'
    exact Option.some.inj (hrow'.symm.trans hrow)
  unfold ReplanDelivery.operation at hcommitted
  cases hcommitted with
  | replan hreplan =>
    refine ⟨⟨new_replan_transition authority' db.rows.task.current_team_revision_id delivery.drawn.successor_team_id,
      ?_, hid⟩, ?_, authority'.dispatch.close .structural_replan, ?_, rfl, ?_⟩
    · rw [hreplan.result]
      exact Table.get?_set_self _ _ _
    · rw [hreadbacks, Table.get?_set_self]
    · rw [hreplan.result, ← hid]
      exact Table.get?_set_self _ _ _
    · rw [hdispatch] at hgeneration
      exact hgeneration

/-- It stays readable, whatever commits. -/
theorem ReplanReadable.step (h : ReplanReadable names delivery result db)
    (hstep : (controller.replans names).Step db db') : ReplanReadable names delivery result db' := by
  have hrows := Controller.replans_step hstep
  obtain ⟨transition, htransition, hsource⟩ := h.transition
  obtain ⟨dispatch, hdispatch, hclosed, hgeneration⟩ := h.dispatch
  have hlane : db.rows.lanes.sources (.replan_transition delivery.drawn.transition_id) = some transition.lane :=
    Table.view_eq_some.mpr ⟨transition, htransition, rfl⟩
  obtain ⟨x, hx, hlater⟩ := (Controller.path_later hrows.1 (.single hrows)).sources _ _ hlane
  obtain ⟨transition', htransition', rfl⟩ := Table.view_eq_some.mp hx
  obtain ⟨dispatch', hdispatch', hstart⟩ := Controller.path_starts (.single hrows) hdispatch
  obtain rfl := hstart.closed _ hclosed
  refine ⟨⟨transition', htransition', ?_⟩, ?_, dispatch', hdispatch', hclosed, hgeneration⟩
  · have hsame := congrArg LaneSource.source_dispatch_id hlater.same
    exact (Option.some.inj hsame).trans hsource
  · obtain ⟨-, t, hcommit⟩ := hstep
    cases t with
    | other t stale =>
      rw [hcommit.2.2.2]
      exact h.readback
    | replan later =>
      -- the identifier of a later transition is drawn afresh
      obtain ⟨result', hcommit⟩ := hcommit
      obtain ⟨hoperation, hreadbacks⟩ := commit_replan_success hcommit
      obtain ⟨authority, -, -, -, hcommitted⟩ := commit_node_operation_success hoperation
      unfold ReplanDelivery.operation at hcommitted
      cases hcommitted with
      | replan hreplan =>
        rw [hreadbacks, Table.get?_set_ne]
        · exact h.readback
        · intro heq
          rw [heq, hreplan.fresh] at htransition
          cases htransition

/-- Whatever a redelivery finds for this Dispatch is this replan, under its operation and generation. -/
theorem ReplanReadable.select_some (h : ReplanReadable names delivery result db) (hsound : Sound db.rows)
    {generation : Nat} {name : String} {found : ReplanReadback}
    (hfound : select_replan_transition db delivery.scope.dispatch_id generation name = some found) :
    found = ⟨delivery.call.operation, delivery.call.dump names, ReplanSuccess.codec.encode result⟩ ∧
      delivery.call.operation.text = name ∧
      ∃ dispatch, db.rows.dispatches.get? delivery.scope.dispatch_id = some dispatch ∧
        dispatch.provider_start_revision = generation := by
  unfold select_replan_transition at hfound
  simp only [Option.bind_eq_bind, Option.bind_eq_some_iff] at hfound
  obtain ⟨⟨t, transition⟩, hhead, hreadback⟩ := hfound
  obtain ⟨hrow, hmatches⟩ := Table.mem_select_iff.mp (List.mem_of_head? hhead)
  simp only [Bool.and_eq_true, beq_iff_eq, Option.any_eq_true] at hmatches
  obtain ⟨⟨hsource, readback, hread, hname⟩, dispatch, hdispatch, hgeneration⟩ := hmatches
  obtain ⟨transition', htransition', hsource'⟩ := h.transition
  -- one transition at most belongs to a Dispatch
  have hsame : SourceId.replan_transition t = .replan_transition delivery.drawn.transition_id :=
    hsound.lanes.lineage.source_unique _ transition.lane _ transition'.lane delivery.scope.dispatch_id
      (Table.view_eq_some.mpr ⟨transition, hrow, rfl⟩) (Table.view_eq_some.mpr ⟨transition', htransition', rfl⟩)
      (congrArg some hsource) (congrArg some hsource')
  obtain rfl := SourceId.replan_transition.inj hsame
  obtain rfl := Option.some.inj (hreadback.symm.trans h.readback)
  obtain rfl := Option.some.inj (hread.symm.trans h.readback)
  rw [hsource] at hdispatch
  exact ⟨rfl, hname, dispatch, hdispatch, hgeneration⟩

/-- A redelivery under the same operation and generation finds this replan. -/
theorem ReplanReadable.select (h : ReplanReadable names delivery result db) (hsound : Sound db.rows) {generation : Nat}
    (hgeneration : delivery.scope.provider_start_revision = some generation) :
    select_replan_transition db delivery.scope.dispatch_id generation delivery.call.operation.text =
      some ⟨delivery.call.operation, delivery.call.dump names, ReplanSuccess.codec.encode result⟩ := by
  cases hfound : select_replan_transition db delivery.scope.dispatch_id generation delivery.call.operation.text with
  | some found => rw [(h.select_some hsound hfound).1]
  | none =>
    exfalso
    obtain ⟨transition, htransition, hsource⟩ := h.transition
    obtain ⟨dispatch, hdispatch, -, hall⟩ := h.dispatch
    rw [hgeneration, Option.all_some, beq_iff_eq] at hall
    have hmem : (delivery.drawn.transition_id, transition) ∈ db.rows.replan_transitions.select
        fun transition_id transition => transition.source_dispatch_id == delivery.scope.dispatch_id &&
          (db.readbacks.get? transition_id).any
            (fun readback => readback.operation.text == delivery.call.operation.text) &&
          (db.rows.dispatches.get? transition.source_dispatch_id).any fun dispatch =>
            dispatch.provider_start_revision == generation :=
      Table.mem_select_iff.mpr ⟨htransition, by simp [hsource, h.readback, hdispatch, hall]⟩
    have hhead := List.head?_eq_some_head (List.ne_nil_of_mem hmem)
    generalize List.head _ (List.ne_nil_of_mem hmem) = e at hhead
    obtain ⟨t, row⟩ := e
    obtain ⟨-, hmatches⟩ := Table.mem_select_iff.mp (List.mem_of_head? hhead)
    simp only [Bool.and_eq_true, Option.any_eq_true] at hmatches
    obtain ⟨⟨-, readback, hread, -⟩, -⟩ := hmatches
    unfold select_replan_transition at hfound
    rw [hhead, Option.bind_eq_bind, Option.bind_some] at hfound
    exact absurd (hread.symm.trans hfound) nofun

/-- Redelivering the committed call answers it from its readback. -/
theorem ReplanReadable.answered (h : ReplanReadable names delivery result db) (hsound : Sound db.rows)
    {generation : Nat} (hgeneration : delivery.scope.provider_start_revision = some generation) :
    read_committed_replan_replay db delivery.scope (delivery.call.delivered names) = .ok (some result) := by
  have hname : delivery.call.operation.text ∈ REPLAN_OPERATION_NAMES := by
    generalize delivery.call.operation = operation
    cases operation <;> decide
  unfold read_committed_replan_replay
  simp only [ReplanCall.delivered, not_not.mpr hname, if_false, hgeneration, h.select hsound hgeneration, ne_eq,
    not_true_eq_false]
  rw [ReplanSuccess.codec.decode_encode]
  rfl

/-- A call for this Dispatch finds nothing, unless it is the committed call under the Dispatch's generation. -/
theorem ReplanReadable.answers (h : ReplanReadable names delivery result db) (hsound : Sound db.rows)
    {scope : NodeOperationScope} {call : NodeOperationCall} (hscope : scope.dispatch_id = delivery.scope.dispatch_id) :
    read_committed_replan_replay db scope call = .ok none ∨
      call = delivery.call.delivered names ∧ ∃ generation dispatch, scope.provider_start_revision = some generation ∧
        db.rows.dispatches.get? delivery.scope.dispatch_id = some dispatch ∧
        dispatch.provider_start_revision = generation := by
  unfold read_committed_replan_replay
  split
  · exact .inl rfl
  split
  · exact .inl rfl
  next generation hgeneration =>
    split
    · exact .inl rfl
    next found hfound =>
      rw [hscope] at hfound
      obtain ⟨hreadback, hname, dispatch, hdispatch, hsame⟩ := h.select_some hsound hfound
      split
      · exact .inl rfl
      next hrequest =>
        rw [hreadback] at hrequest
        have hrequest : delivery.call.dump names = call.request := not_not.mp hrequest
        refine .inr ⟨?_, generation, dispatch, hgeneration, hdispatch, hsame⟩
        rw [ReplanCall.delivered, hname, hrequest]

/-- No other call gets past the admission: the Dispatch is closed. -/
theorem ReplanReadable.not_admitted (h : ReplanReadable names delivery result db) {scope : NodeOperationScope}
    (hscope : scope.dispatch_id = delivery.scope.dispatch_id) (operation : NodeOperation) (allowed : Bool)
    (occurred_at : Instant) :
    ∃ error, admit_node_operation db.rows scope operation allowed occurred_at = .error error := by
  cases hadmit : admit_node_operation db.rows scope operation allowed occurred_at with
  | error error => exact ⟨error, rfl⟩
  | ok rows =>
    obtain ⟨authority, hid, hauth, -⟩ := admit_node_operation_success hadmit
    obtain ⟨dispatch, hdispatch, hclosed, -⟩ := h.dispatch
    have hrow := hauth.lane.dispatch_row
    rw [show authority.identity.dispatch_id = delivery.scope.dispatch_id from hid.trans hscope] at hrow
    obtain rfl := Option.some.inj (hrow.symm.trans hdispatch)
    have hlive := hauth.lane.live
    simp [DispatchTurn.is_live, hclosed] at hlive

/-- A delivered call names one replan call only. -/
theorem Contracts.ReplanCall.delivered_injective (names : MemberNames) :
    Function.Injective (ReplanCall.delivered names) := by
  intro call call' h
  obtain ⟨hname, hrequest⟩ := NodeOperationCall.mk.inj h
  refine ReplanCall.dump_injective ?_ hrequest
  cases hcall : call.operation <;> cases hcall' : call'.operation <;> rw [hcall, hcall'] at hname <;>
    first | rfl | exact absurd hname (by decide)

/-- What a committed replan answers to redelivered calls in some later state. -/
structure ReplayIdempotent (names : MemberNames) (delivery : ReplanDelivery) (result : ReplanSuccess)
    (later : ReplanDb) : Prop where
  /-- The committed call under its own generation gets the committed result and changes nothing. -/
  answered : delivery.scope.provider_start_revision ≠ none → ∀ operation allowed occurred_at,
    execute_admission later delivery.scope (delivery.call.delivered names) operation allowed occurred_at =
      .ok (later, some result)
  /-- Every other call for the Dispatch, and the call under another generation, is rejected and finds no answer. -/
  rejected : ∀ scope call operation allowed occurred_at, scope.dispatch_id = delivery.scope.dispatch_id →
    (call = delivery.call.delivered names → delivery.scope.provider_start_revision ≠ none ∧
      scope.provider_start_revision ≠ delivery.scope.provider_start_revision) →
    read_committed_replan_replay later scope call = .ok none ∧
      ∃ error, execute_admission later scope call operation allowed occurred_at = .error error
  /-- Another replan call is delivered differently. -/
  distinct : ∀ call, call.delivered names = delivery.call.delivered names → call = delivery.call

/-- A replan is replayed for its exact call and for no other, in every later state of its Task. -/
theorem replan_replay_idempotent (h : (controller.replans names).Reachable db)
    (hcommit : commit_replan names db delivery = .ok (db', result))
    (hpath : (controller.replans names).Path db' later) : ReplayIdempotent names delivery result later := by
  have hreachable : (controller.replans names).Reachable db' :=
    h.step (t := .replan delivery) rfl ⟨result, hcommit⟩
  have hreadable : ReplanReadable names delivery result later :=
    hpath.keep (.committed hcommit) fun _ _ hstep hreadable => hreadable.step hstep
  have hsound : Sound later.rows :=
    Controller.path_sound (Controller.sound (Controller.replans_reachable hreachable)) (Controller.replans_path hpath)
  refine ⟨fun hbound operation allowed occurred_at => ?_, fun scope call operation allowed occurred_at hscope hne => ?_,
    fun call hsame => Contracts.ReplanCall.delivered_injective names hsame⟩
  · obtain ⟨generation, hgeneration⟩ := Option.ne_none_iff_exists'.mp hbound
    unfold execute_admission
    rw [hreadable.answered hsound hgeneration]
    rfl
  · have hnone : read_committed_replan_replay later scope call = .ok none := by
      rcases hreadable.answers hsound hscope with hnone | ⟨hcall, generation, dispatch, hgeneration, hdispatch, hsame⟩
      · exact hnone
      · exfalso
        obtain ⟨hbound, hother⟩ := hne hcall
        obtain ⟨own, hown⟩ := Option.ne_none_iff_exists'.mp hbound
        obtain ⟨dispatch', hdispatch', -, hall⟩ := hreadable.dispatch
        obtain rfl := Option.some.inj (hdispatch.symm.trans hdispatch')
        rw [hown, Option.all_some, beq_iff_eq] at hall
        exact hother (by rw [hgeneration, hown, ← hsame, hall])
    refine ⟨hnone, ?_⟩
    obtain ⟨error, hrejected⟩ := hreadable.not_admitted hscope operation allowed occurred_at
    unfold execute_admission
    rw [hnone]
    exact ⟨error, by simp [bind, Except.bind, hrejected]⟩

end Redelivery

/-- The rows of a replay without a replan, before anything was replanned. -/
theorem replay_two_managers_replans {names : MemberNames} {moves : List Move} {rows : TaskDb}
    (hother : ∀ move ∈ moves, ∀ rows, (move.transaction rows).is_replan = false)
    (h : replay_two_managers moves = some rows) : (plain_controller.replans names).Reachable ⟨rows, ∅⟩ := by
  obtain ⟨start, hstart, hmoves⟩ := Option.bind_eq_some_iff.mp h
  have hfirst : (plain_controller.replans names).Reachable ⟨start, ∅⟩ :=
    ⟨[], .start ⟨⟨two_managers, some ⟨1, 0⟩, toOption_eq_some_iff.mp hstart⟩, rfl⟩⟩
  exact (Controller.replans_replay hfirst hother hmoves).1

/-- Member `n` is named by `n + 1` letters. -/
def unary_names : MemberNames where
  name n := String.ofList (List.replicate (n + 1) 'm')
  injective n m h := by simpa using congrArg String.length h

/-- A text of the Team read. -/
def team_text (s : String) (h : strip_whitespace s = s ∧ 1 ≤ s.length ∧ s.length ≤ 255 := by decide) :
    TeamReadIdentifier := ⟨s, h⟩

/-- What the caller of `reviewer_added` sees: the Member that it added, and one thing that it may do. -/
def reviewer_view : FreshMemberView where
  direct_team := [{
    id := team_text "mmmmmmm"
    title := some "Reviewer"
    description := none
    instruction := none
    provider := ⟨team_text "codex", some (team_text "gpt-5"), none, none,
      some ⟨team_text "read_only", team_text "deny"⟩⟩
    capabilities := ⟨[.review], .allow⟩
    participation := .required
    availability := .available }]
  effective_capabilities := ⟨[.review], .allow⟩
  available_actions := [⟨"delegate", by decide⟩]
  unique := List.nodup_singleton _

/-- The lead of `two_managers` adds a Member that may ask for reviews and run commands. -/
def reviewer_added : ReplanDelivery where
  scope := ⟨1, some 0⟩
  call := .add_child (.mk
    { title := some (some "Reviewer")
      description := none
      instruction := some none
      provider := none
      capabilities := some (some ⟨some [.review], some ()⟩) } [])
  draw := fun _ => ⟨6, 6, 6⟩
  resolution_failure := fun _ => none
  drawn := ⟨retitled_draws, 2, 1⟩
  is_capability_allowed := true
  view := fun _ => reviewer_view

/-- Then its manifest is written, and its successor opens and starts. -/
def reviewer_followed : List Move := [.project_manifest 1, .open_replan_successor 1 2, .accept_start 2 0 0]

theorem replay_lead_started : (replay_two_managers [.accept_start 1 0 0]).isSome = true := by decide +kernel

/-- The Member is added, and the call is still answered when the successor of its Dispatch runs. -/
theorem replan_replay_idempotent_reviewer_added :
    ∃ db' result later,
      commit_replan unary_names ⟨replayed _ replay_lead_started, ∅⟩ reviewer_added = .ok (db', result) ∧
        result.created_ids.map (·.1) = ["mmmmmmm"] ∧ (later.rows.dispatches.get? 2).any (·.is_live) = true ∧
        ReplayIdempotent unary_names reviewer_added result later := by
  have hrun : (commit_replan unary_names ⟨replayed _ replay_lead_started, ∅⟩ reviewer_added).toOption.any
    (fun committed =>
      committed.2.created_ids.map (·.1) = ["mmmmmmm"] ∧
        (plain_controller.replay committed.1.rows reviewer_followed).any fun rows =>
          (rows.dispatches.get? 2).any (·.is_live)) = true := by
    decide +kernel
  obtain ⟨⟨db', result⟩, hcommit, hrun⟩ := (Option.any_eq_true _ _).mp hrun
  obtain ⟨hcreated, hrun⟩ := of_decide_eq_true hrun
  obtain ⟨rows, hreplay, hopened⟩ := (Option.any_eq_true _ _).mp hrun
  rw [toOption_eq_some_iff] at hcommit
  have hstart : (plain_controller.replans unary_names).Reachable ⟨replayed _ replay_lead_started, ∅⟩ := by
    refine replay_two_managers_replans (fun move hmem rows => ?_) (Option.some_get replay_lead_started).symm
    obtain rfl := List.mem_singleton.mp hmem
    rfl
  have hlater := Controller.replans_replay (hstart.step (t := .replan reviewer_added) rfl ⟨result, hcommit⟩)
    (fun move hmem rows => ?_) hreplay
  · exact ⟨db', result, { db' with rows }, hcommit, hcreated, hopened,
      replan_replay_idempotent hstart hcommit hlater.2⟩
  · simp only [reviewer_followed, List.mem_cons, List.not_mem_nil, or_false] at hmem
    rcases hmem with rfl | rfl | rfl <;> rfl

end OhMySubagents

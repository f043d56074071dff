import OhMySubagents.System.WorkPlanMoves
import OhMySubagents.WorkPlan.StepRows

open Relational

namespace OhMySubagents

/-- A `set_work_plan` call on its way: it has read its authority, and then the rows that it is going to replace. -/
inductive SetSession
  | observed (authority : NodeOperationAuthority) (request : SetWorkPlanRequest)
  | pending (authority : NodeOperationAuthority) (request : SetWorkPlanRequest)
      (existing_plan : Option AssignmentWorkPlanRow)

/-- The rows of a Task, the rows of its work plans and the calls that set them. -/
structure WorkPlanStore where
  db : TaskDb
  tables : WorkPlanTables
  sessions : Table Nat SetSession

inductive WorkPlanTransaction
  | runtime (t : Transaction) (stale : List WorkPlanStore)
  | observe (session : Nat) (scope : NodeOperationScope) (arguments : SetWorkPlanRequest) (is_capability_allowed : Bool)
  | read (session : Nat)
  | write (session : Nat)

/-- What comes before the handler of `set_work_plan`. -/
def admit_set_work_plan (unicode : UnicodeText) (db : TaskDb) (scope : NodeOperationScope)
    (arguments : SetWorkPlanRequest) (is_capability_allowed : Bool) :
    Option (NodeOperationAuthority × SetWorkPlanRequest) := do
  let request ← arguments.model_validate unicode
  let authority ← (read_node_operation_authority db scope).toOption
  (do
    authorize (.set_work_plan request) authority is_capability_allowed
    claim_unchanged_node_operation_state db authority (.set_work_plan request)
    require_state_legal_node_operation db authority (.set_work_plan request)).toOption
  return (authority, request)

namespace WorkPlanStore

variable (store : WorkPlanStore)

/-- The current plan is read: an identical one ends the call, without a change. -/
def read (session : Nat) (authority : NodeOperationAuthority) (request : SetWorkPlanRequest) :
    Option (Result Bool) × WorkPlanStore :=
  match store.tables.read_assignment_work_plan authority.assignment_id with
  | none => (some (.error (internal_error "ValidationError")), { store with sessions := store.sessions.delete session })
  | some current =>
    if request.matches current then (some (.ok false), { store with sessions := store.sessions.delete session })
    else (none, { store with
      sessions := store.sessions.set session
        (.pending authority request (store.tables.plans.get? authority.assignment_id)) })

/-- The revision is advanced under the observed one, and the rows are replaced. -/
def write_rows (authority : NodeOperationAuthority) (request : SetWorkPlanRequest)
    (existing_plan : Option AssignmentWorkPlanRow) : Result (TaskDb × WorkPlanTables) := do
  let advanced ← advance_work_plan_revision store.db authority
  let tables ← require_some (store.tables._replace_work_plan_rows authority.assignment_id existing_plan request
    (authority.work_plan_revision + 1)) integrity_error
  return (replace_work_plan_rows advanced authority request, tables)

/-- The write of one call, which commits or is rolled back. -/
def write (session : Nat) (authority : NodeOperationAuthority) (request : SetWorkPlanRequest)
    (existing_plan : Option AssignmentWorkPlanRow) : Result Bool × WorkPlanStore :=
  match store.write_rows authority request existing_plan with
  | .ok (db, tables) => (.ok true, { db, tables, sessions := store.sessions.delete session })
  | .error error => (.error error, { store with sessions := store.sessions.delete session })

end WorkPlanStore

/-- The runtime of one Task, in which any number of calls set the work plan of an Assignment, their reads and writes in
    any order. -/
def Controller.work_plans (controller : Controller) (unicode : UnicodeText) :
    Transactional WorkPlanStore WorkPlanTransaction where
  start store := (∃ input drawn, start_task input drawn = .ok store.db) ∧ store.tables = { plans := ∅, steps := ∅ } ∧
    store.sessions = ∅
  reads
    | .runtime _ stale => stale
    | _ => []
  commit
    | .runtime t stale, store, store' => t.sets_work_plan = false ∧ stale.map (·.db) = t.reads ∧
      ∃ db', t.commit controller store.db = some db' ∧ store' = { store with db := db' }
    | .observe session scope arguments allowed, store, store' => store.sessions.get? session = none ∧
      ∃ authority request, admit_set_work_plan unicode store.db scope arguments allowed = some (authority, request) ∧
        store' = { store with sessions := store.sessions.set session (.observed authority request) }
    | .read session, store, store' => ∃ authority request,
      store.sessions.get? session = some (.observed authority request) ∧
        store' = (store.read session authority request).2
    | .write session, store, store' => ∃ authority request existing_plan,
      store.sessions.get? session = some (.pending authority request existing_plan) ∧
        store' = (store.write session authority request existing_plan).2

/-- The plan revision of an Assignment. -/
def TaskDb.work_plan_revision (db : TaskDb) (assignment_id : AssignmentId) : Option Nat :=
  (db.assignments.get? assignment_id).map (·.work_plan_revision)

/-- What a call on its way has seen: a plan revision, and while it is the current one the current rows. -/
def SetSession.Observes (unicode : UnicodeText) (store : WorkPlanStore) : SetSession → Prop
  | observed authority request => request.Normalized unicode ∧
    ∃ revision, store.db.work_plan_revision authority.assignment_id = some revision ∧
      authority.work_plan_revision ≤ revision
  | pending authority request existing_plan => request.Normalized unicode ∧
    ∃ revision, store.db.work_plan_revision authority.assignment_id = some revision ∧
      authority.work_plan_revision ≤ revision ∧
      (authority.work_plan_revision = revision → existing_plan = store.tables.plans.get? authority.assignment_id)

structure WorkPlanInvariant (unicode : UnicodeText) (store : WorkPlanStore) : Prop where
  sound : Sound store.db
  represents : store.tables.Represents store.db.assignment_work_plans
  current : ∀ assignment_id plan, store.db.assignment_work_plans.get? assignment_id = some plan →
    store.db.work_plan_revision assignment_id = some plan.revision ∧ in_progress_steps plan.steps ≤ 1
  sessions : ∀ session call, store.sessions.get? session = some call → call.Observes unicode store

section Invariant

variable {controller : Controller} {unicode : UnicodeText} {store store' later : WorkPlanStore} {session : Nat}
  {authority : NodeOperationAuthority} {request : SetWorkPlanRequest} {existing_plan : Option AssignmentWorkPlanRow}

theorem TaskDb.work_plan_revision_eq_some {db : TaskDb} {assignment_id : AssignmentId} {revision : Nat} :
    db.work_plan_revision assignment_id = some revision ↔
      ∃ assignment, db.assignments.get? assignment_id = some assignment ∧ assignment.work_plan_revision = revision :=
  Option.map_eq_some_iff

def work_plan_changed_error : RuntimeOperationError :=
  stale_assignment_error "the assignment work plan changed concurrently"

/-- The rows after an accepted write. -/
def TaskDb.with_work_plan (db : TaskDb) (assignment_id : AssignmentId) (assignment : Assignment)
    (request : SetWorkPlanRequest) : TaskDb :=
  { db with
    assignments := db.assignments.set assignment_id
      { assignment with work_plan_revision := assignment.work_plan_revision + 1 }
    assignment_work_plans :=
      request.replaced db.assignment_work_plans assignment_id (assignment.work_plan_revision + 1) }

private theorem replaced_other_plan {tables tables' : WorkPlanTables} {assignment_id other : AssignmentId}
    {revision : Nat} (h : tables._replace_work_plan_rows assignment_id existing_plan request revision = some tables')
    (hother : other ≠ assignment_id) : tables'.plans.get? other = tables.plans.get? other := by
  unfold WorkPlanTables._replace_work_plan_rows at h
  split at h
  · obtain rfl := Option.some.inj h
    dsimp only
    split
    · rw [Table.get?_delete, if_neg hother]
    · rfl
  · obtain ⟨plans, hplans, h⟩ := Option.bind_eq_some_iff.mp h
    split at h
    · cases h
    obtain ⟨steps, -, h⟩ := Option.bind_eq_some_iff.mp h
    obtain rfl := Option.some.inj h
    unfold WorkPlanTables.write_plan at hplans
    split at hplans
    · obtain ⟨-, rfl⟩ := Table.insertNew_eq_some.mp hplans
      exact Table.get?_set_ne _ hother _
    · obtain ⟨_, -, -, rfl⟩ := Table.updateWhere_eq_some.mp hplans
      exact Table.get?_set_ne _ hother _

/-- A write goes through exactly when the observed revision and authority are still the current ones. -/
theorem write_rows_eq (h : WorkPlanInvariant unicode store)
    (hcall : (SetSession.pending authority request existing_plan).Observes unicode store) :
    ∃ assignment, store.db.assignments.get? authority.assignment_id = some assignment ∧
      ((assignment.work_plan_revision = authority.work_plan_revision ∧
          exact_node_operation_authority_exists store.db authority = true ∧
          ∃ tables', store.write_rows authority request existing_plan =
              .ok (store.db.with_work_plan authority.assignment_id assignment request, tables') ∧
            tables'.Represents (request.replaced store.db.assignment_work_plans authority.assignment_id
              (assignment.work_plan_revision + 1)) ∧
            ∀ other, other ≠ authority.assignment_id → tables'.plans.get? other = store.tables.plans.get? other) ∨
        (¬(assignment.work_plan_revision = authority.work_plan_revision ∧
            exact_node_operation_authority_exists store.db authority = true) ∧
          store.write_rows authority request existing_plan = .error work_plan_changed_error)) := by
  obtain ⟨hrequest, revision, hrevision, -, hexisting⟩ := hcall
  obtain ⟨assignment, hrow, rfl⟩ := TaskDb.work_plan_revision_eq_some.mp hrevision
  refine ⟨assignment, hrow, ?_⟩
  by_cases hcurrent : assignment.work_plan_revision = authority.work_plan_revision ∧
    exact_node_operation_authority_exists store.db authority = true
  · obtain ⟨hsame, hauthority⟩ := hcurrent
    obtain ⟨tables', hreplaced, hrepresents⟩ := @replace_work_plan_rows_represents store.tables authority.assignment_id
      (authority.work_plan_revision + 1) _ _ _ h.represents hrequest (Nat.succ_pos _)
    refine .inl ⟨hsame, hauthority, tables', ?_, hsame ▸ hrepresents, fun other => replaced_other_plan hreplaced⟩
    have hguard : (assignment.work_plan_revision == authority.work_plan_revision &&
        exact_node_operation_authority_exists store.db authority) = true := by
      rw [Bool.and_eq_true, beq_iff_eq]
      exact ⟨hsame, hauthority⟩
    have hadvanced : advance_work_plan_revision store.db authority = .ok { store.db with
        assignments := store.db.assignments.set authority.assignment_id
          { assignment with work_plan_revision := authority.work_plan_revision + 1 } } := by
      unfold advance_work_plan_revision
      rw [Table.updateWhere_eq_some.mpr ⟨assignment, hrow, hguard, rfl⟩]
      rfl
    refine bind_eq_ok_iff.mpr ⟨_, hadvanced, bind_eq_ok_iff.mpr ⟨tables', ?_, ?_⟩⟩
    · rw [hexisting hsame.symm]
      exact require_some_eq_ok_iff.mpr hreplaced
    · rw [TaskDb.with_work_plan, hsame]
      rfl
  · refine .inr ⟨hcurrent, ?_⟩
    have hguard : (assignment.work_plan_revision == authority.work_plan_revision &&
        exact_node_operation_authority_exists store.db authority) = false := by
      rw [← Bool.not_eq_true, Bool.and_eq_true, beq_iff_eq]
      exact hcurrent
    have hrefused : store.db.assignments.updateWhere authority.assignment_id
        (fun assignment => assignment.work_plan_revision == authority.work_plan_revision &&
          exact_node_operation_authority_exists store.db authority)
        (fun assignment => { assignment with work_plan_revision := authority.work_plan_revision + 1 }) = none := by
      refine Option.eq_none_iff_forall_ne_some.mpr fun assignments hupdated => ?_
      obtain ⟨found, hfound, hmatches, -⟩ := Table.updateWhere_eq_some.mp hupdated
      obtain rfl := Option.some.inj (hrow.symm.trans hfound)
      rw [hguard] at hmatches
      cases hmatches
    unfold WorkPlanStore.write_rows advance_work_plan_revision
    rw [hrefused]
    rfl

/-- An admission has no plan yet. -/
theorem start_task_plans {input : RuntimeBootstrapInput} {drawn : Option DrawnDispatchRequest} {db : TaskDb}
    (h : start_task input drawn = .ok db) : db.assignment_work_plans = ∅ := by
  obtain ⟨-, _, _, -, -, -, hrows⟩ := start_task_rows h
  rw [hrows]
  rfl

theorem SamePlans.work_plan_revision {db db' : TaskDb} {assignment_id : AssignmentId} {revision : Nat}
    (h : SamePlans db db') (hrevision : db.work_plan_revision assignment_id = some revision) :
    db'.work_plan_revision assignment_id = some revision := by
  obtain ⟨assignment, hrow, rfl⟩ := TaskDb.work_plan_revision_eq_some.mp hrevision
  obtain ⟨assignment', hrow', hsame⟩ := h.revisions assignment_id assignment hrow
  exact TaskDb.work_plan_revision_eq_some.mpr ⟨assignment', hrow', hsame⟩

section Written

variable {db : TaskDb} {assignment_id other : AssignmentId} {assignment : Assignment}

theorem with_work_plan_revision : (db.with_work_plan assignment_id assignment request).work_plan_revision other =
    if other = assignment_id then some (assignment.work_plan_revision + 1) else db.work_plan_revision other := by
  unfold TaskDb.work_plan_revision TaskDb.with_work_plan
  rw [Table.get?_set]
  split <;> rfl

theorem with_work_plan_sound (hrow : db.assignments.get? assignment_id = some assignment) (h : Sound db) :
    Sound (db.with_work_plan assignment_id assignment request) := by
  have hlanes : (db.with_work_plan assignment_id assignment request).lanes = db.lanes := by
    apply Lanes.ext <;> first | rfl | skip
    exact Table.view_set_same hrow rfl
  refine ⟨?_, ?_, h.started⟩
  · rw [hlanes]
    exact h.lanes
  · rw [hlanes]
    exact h.result

theorem replaced_get? {plans : Table AssignmentId AssignmentWorkPlan} {revision : Nat} :
    (request.replaced plans assignment_id revision).get? other =
      if other = assignment_id then
        if request.steps.isEmpty then none
        else some { revision, explanation := request.explanation, steps := request.steps }
      else plans.get? other := by
  unfold SetWorkPlanRequest.replaced
  split
  · rw [Table.get?_delete]
  · rw [Table.get?_set]

end Written

/-- What one transaction does to the plans: nothing, but for the calls that come and go, or one write. -/
inductive WorkPlanMove (unicode : UnicodeText) (store store' : WorkPlanStore) : Prop
  | kept (plans : SamePlans store.db store'.db) (sound : Sound store'.db) (tables : store'.tables = store.tables)
      (sessions : ∀ session call, store'.sessions.get? session = some call →
        store.sessions.get? session = some call ∨ call.Observes unicode store)
  | written (authority : NodeOperationAuthority) (request : SetWorkPlanRequest) (assignment : Assignment)
      (normalized : request.Normalized unicode)
      (row : store.db.assignments.get? authority.assignment_id = some assignment)
      (revision : assignment.work_plan_revision = authority.work_plan_revision)
      (db : store'.db = store.db.with_work_plan authority.assignment_id assignment request)
      (represents : store'.tables.Represents store'.db.assignment_work_plans)
      (others : ∀ other, other ≠ authority.assignment_id →
        store'.tables.plans.get? other = store.tables.plans.get? other)
      (sessions : ∀ session call, store'.sessions.get? session = some call → store.sessions.get? session = some call)

private theorem session_left {call : SetSession} {other : Nat}
    (h : (store.sessions.delete session).get? other = some call) : store.sessions.get? other = some call := by
  rw [Table.get?_delete] at h
  split at h
  · cases h
  · exact h

/-- An admitted call has a normalized request and the current revision. -/
theorem admit_set_work_plan_eq_some {scope : NodeOperationScope} {arguments : SetWorkPlanRequest} {allowed : Bool}
    (h : admit_set_work_plan unicode store.db scope arguments allowed = some (authority, request)) :
    arguments.model_validate unicode = some request ∧
      store.db.work_plan_revision authority.assignment_id = some authority.work_plan_revision := by
  unfold admit_set_work_plan at h
  obtain ⟨normalized, hnormalized, h⟩ := Option.bind_eq_some_iff.mp h
  obtain ⟨read, hread, h⟩ := Option.bind_eq_some_iff.mp h
  obtain ⟨_, -, h⟩ := Option.bind_eq_some_iff.mp h
  obtain ⟨rfl, rfl⟩ := Prod.mk.inj (Option.some.inj h)
  obtain ⟨-, hauth⟩ := read_node_operation_authority_success (toOption_eq_some_iff.mp hread)
  exact ⟨hnormalized, TaskDb.work_plan_revision_eq_some.mpr ⟨_, hauth.assignment_row, hauth.work_plan.symm⟩⟩

theorem read_move (h : WorkPlanInvariant unicode store)
    (hsession : store.sessions.get? session = some (.observed authority request)) :
    WorkPlanMove unicode store (store.read session authority request).2 := by
  unfold WorkPlanStore.read
  split
  · exact .kept (.refl _) h.sound rfl fun _ _ hcall => .inl (session_left hcall)
  split
  · exact .kept (.refl _) h.sound rfl fun _ _ hcall => .inl (session_left hcall)
  · refine .kept (.refl _) h.sound rfl fun other call hcall => ?_
    dsimp only at hcall
    rw [Table.get?_set] at hcall
    split at hcall
    · obtain rfl := Option.some.inj hcall
      obtain ⟨hrequest, revision, hrevision, hle⟩ := h.sessions session _ hsession
      exact .inr ⟨hrequest, revision, hrevision, hle, fun _ => rfl⟩
    · exact .inl hcall

theorem write_move (h : WorkPlanInvariant unicode store)
    (hsession : store.sessions.get? session = some (.pending authority request existing_plan)) :
    WorkPlanMove unicode store (store.write session authority request existing_plan).2 := by
  have hcall := h.sessions session _ hsession
  obtain ⟨assignment, hrow, ⟨hrevision, -, tables', hwritten, hrepresents, hothers⟩ | ⟨-, hrefused⟩⟩ :=
    write_rows_eq h hcall
  · rw [WorkPlanStore.write, hwritten]
    exact .written authority request assignment hcall.1 hrow hrevision rfl hrepresents hothers
      fun _ _ hcall => session_left hcall
  · rw [WorkPlanStore.write, hrefused]
    exact .kept (.refl _) h.sound rfl fun _ _ hcall => .inl (session_left hcall)

theorem work_plan_move {transaction : WorkPlanTransaction} (h : WorkPlanInvariant unicode store)
    (hcommit : (controller.work_plans unicode).commit transaction store store') :
    WorkPlanMove unicode store store' := by
  cases transaction with
  | runtime t stale =>
    obtain ⟨hother, -, db', hdb, rfl⟩ := hcommit
    have hcommitted := commit_success h.sound hdb
    exact .kept (hcommitted.plans hother) (hcommitted.sound h.sound) rfl fun _ _ hcall => .inl hcall
  | observe session scope arguments allowed =>
    obtain ⟨-, authority, request, hadmitted, rfl⟩ := hcommit
    refine .kept (.refl _) h.sound rfl fun other call hcall => ?_
    dsimp only at hcall
    rw [Table.get?_set] at hcall
    split at hcall
    · obtain rfl := Option.some.inj hcall
      obtain ⟨hrequest, hrevision⟩ := admit_set_work_plan_eq_some hadmitted
      exact .inr ⟨SetWorkPlanRequest.normalized_of_model_validate hrequest, _, hrevision, Nat.le_refl _⟩
    · exact .inl hcall
  | read session =>
    obtain ⟨authority, request, hsession, rfl⟩ := hcommit
    exact read_move h hsession
  | write session =>
    obtain ⟨authority, request, existing_plan, hsession, rfl⟩ := hcommit
    exact write_move h hsession

private theorem SetSession.Observes.kept {call : SetSession} (h : call.Observes unicode store)
    (hplans : SamePlans store.db store'.db) (htables : store'.tables = store.tables) :
    call.Observes unicode store' := by
  cases call with
  | observed authority request =>
    obtain ⟨hrequest, revision, hrevision, hle⟩ := h
    exact ⟨hrequest, revision, hplans.work_plan_revision hrevision, hle⟩
  | pending authority request existing_plan =>
    obtain ⟨hrequest, revision, hrevision, hle, hexisting⟩ := h
    exact ⟨hrequest, revision, hplans.work_plan_revision hrevision, hle, htables ▸ hexisting⟩

/-- Whoever has seen the revision before a write has not seen the one after it. -/
private theorem SetSession.Observes.written {call : SetSession} {assignment_id : AssignmentId} {assignment : Assignment}
    (h : call.Observes unicode store) (hrow : store.db.assignments.get? assignment_id = some assignment)
    (hdb : store'.db = store.db.with_work_plan assignment_id assignment request)
    (hothers : ∀ other, other ≠ assignment_id → store'.tables.plans.get? other = store.tables.plans.get? other) :
    call.Observes unicode store' := by
  have hcurrent : store.db.work_plan_revision assignment_id = some assignment.work_plan_revision :=
    TaskDb.work_plan_revision_eq_some.mpr ⟨assignment, hrow, rfl⟩
  cases call with
  | observed authority own =>
    obtain ⟨hrequest, revision, hrevision, hle⟩ := h
    by_cases hmine : authority.assignment_id = assignment_id
    · obtain rfl := Option.some.inj (hcurrent.symm.trans (hmine ▸ hrevision))
      refine ⟨hrequest, _, by rw [hdb, with_work_plan_revision, if_pos hmine], hle.trans (Nat.le_succ _)⟩
    · exact ⟨hrequest, revision, by rw [hdb, with_work_plan_revision, if_neg hmine, hrevision], hle⟩
  | pending authority own existing_plan =>
    obtain ⟨hrequest, revision, hrevision, hle, hexisting⟩ := h
    by_cases hmine : authority.assignment_id = assignment_id
    · obtain rfl := Option.some.inj (hcurrent.symm.trans (hmine ▸ hrevision))
      refine ⟨hrequest, _, by rw [hdb, with_work_plan_revision, if_pos hmine], hle.trans (Nat.le_succ _), fun hsame => ?_⟩
      exact absurd hsame (Nat.ne_of_lt (Nat.lt_succ_of_le hle))
    · refine ⟨hrequest, revision, by rw [hdb, with_work_plan_revision, if_neg hmine, hrevision], hle, fun hsame => ?_⟩
      rw [hothers _ hmine]
      exact hexisting hsame

theorem WorkPlanMove.invariant (hmove : WorkPlanMove unicode store store') (h : WorkPlanInvariant unicode store) :
    WorkPlanInvariant unicode store' := by
  cases hmove with
  | kept plans sound tables sessions =>
    refine ⟨sound, ?_, fun assignment_id plan hplan => ?_, fun session call hcall => ?_⟩
    · rw [tables, plans.plans]
      exact h.represents
    · obtain ⟨hrevision, hprogress⟩ := h.current assignment_id plan (plans.plans ▸ hplan)
      exact ⟨plans.work_plan_revision hrevision, hprogress⟩
    · rcases sessions session call hcall with hold | hnew
      · exact (h.sessions session call hold).kept plans tables
      · exact hnew.kept plans tables
  | written authority request assignment normalized row revision db represents others sessions =>
    refine ⟨?_, represents, fun assignment_id plan hplan => ?_, fun session call hcall => ?_⟩
    · rw [db]
      exact with_work_plan_sound row h.sound
    · rw [db, TaskDb.with_work_plan, replaced_get?] at hplan
      rw [db, with_work_plan_revision]
      split at hplan
      · next hmine =>
        split at hplan
        · cases hplan
        · obtain rfl := Option.some.inj hplan
          exact ⟨if_pos hmine, normalized.one_in_progress⟩
      · next hother =>
        rw [if_neg hother]
        exact h.current assignment_id plan hplan
    · exact (h.sessions session call (sessions session call hcall)).written row db others

theorem work_plan_invariant (h : (controller.work_plans unicode).Reachable store) :
    WorkPlanInvariant unicode store := by
  refine h.invariant (P := WorkPlanInvariant unicode) ?_ fun transaction store store' hold hcommit =>
    (work_plan_move hold hcommit).invariant hold
  rintro store ⟨⟨input, drawn, hstart⟩, htables, hsessions⟩
  have hsound : Sound store.db := Controller.sound (Controller.start_reachable hstart : controller.runtime.Reachable _)
  have hnone : ∀ assignment_id, store.db.assignment_work_plans.get? assignment_id = none := fun assignment_id => by
    rw [start_task_plans hstart, Table.get?_empty]
  refine ⟨hsound, ?_, fun assignment_id plan hplan => ?_, fun session call hcall => ?_⟩
  · rw [htables]
    refine ⟨fun id row hrow => ?_, fun id _ row _ hrow => ?_, fun assignment_id => ?_⟩
    · rw [Table.get?_empty] at hrow
      cases hrow
    · rw [Table.get?_empty] at hrow
      cases hrow
    · rw [hnone, WorkPlanTables.read_assignment_work_plan, Table.get?_empty]
  · rw [hnone] at hplan
    cases hplan
  · rw [hsessions, Table.get?_empty] at hcall
    cases hcall

end Invariant

end OhMySubagents

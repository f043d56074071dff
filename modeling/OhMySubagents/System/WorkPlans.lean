import OhMySubagents.System.WorkPlanSets

open Relational

namespace OhMySubagents

variable {controller : Controller} {unicode : UnicodeText} {store store' later : WorkPlanStore} {session : Nat}
  {authority : NodeOperationAuthority} {request : SetWorkPlanRequest} {existing_plan : Option AssignmentWorkPlanRow}

/-- The plan that a request sets; an empty one clears it. -/
def SetWorkPlanRequest.plan (request : SetWorkPlanRequest) (revision : Nat) : Option AssignmentWorkPlan :=
  if request.steps.isEmpty then none
  else some { revision, explanation := request.explanation, steps := request.steps }

/-- The rows are those of another store; the calls on their way may differ. -/
def WorkPlanStore.SameRows (store store' : WorkPlanStore) : Prop :=
  store'.db = store.db ∧ store'.tables = store.tables

/-- The work plans in one reachable state, for every transaction that may come next. -/
structure WorkPlanProtocol (controller : Controller) (unicode : UnicodeText) (store : WorkPlanStore) : Prop where
  stored : ∀ assignment_id, ∃ plan, store.tables.read_assignment_work_plan assignment_id = some plan ∧
    ∀ current ∈ plan, in_progress_steps current.steps ≤ 1 ∧
      store.db.work_plan_revision assignment_id = some current.revision
  admitted : ∀ session scope arguments allowed store',
    (controller.work_plans unicode).commit (.observe session scope arguments allowed) store store' →
    store.SameRows store' ∧ ∃ authority request, arguments.model_validate unicode = some request ∧
      store'.sessions.get? session = some (.observed authority request) ∧
      store.db.work_plan_revision authority.assignment_id = some authority.work_plan_revision
  read : ∀ session authority request, store.sessions.get? session = some (.observed authority request) →
    store.SameRows (store.read session authority request).2 ∧
      ∃ current, store.tables.read_assignment_work_plan authority.assignment_id = some current ∧
        (store.read session authority request).1 = (if request.matches current then some (.ok false) else none) ∧
        (request.matches current = true → (current.map (·.steps)).getD [] = request.steps)
  written : ∀ session authority request existing_plan,
    store.sessions.get? session = some (.pending authority request existing_plan) →
    ∃ revision, store.db.work_plan_revision authority.assignment_id = some revision ∧
      if revision = authority.work_plan_revision ∧ exact_node_operation_authority_exists store.db authority = true then
        (store.write session authority request existing_plan).1 = .ok true ∧
          (store.write session authority request existing_plan).2.db.work_plan_revision authority.assignment_id =
            some (revision + 1) ∧
          (store.write session authority request existing_plan).2.tables.read_assignment_work_plan
            authority.assignment_id = some (request.plan (revision + 1)) ∧
          ∀ other, other ≠ authority.assignment_id →
            (store.write session authority request existing_plan).2.tables.read_assignment_work_plan other =
              store.tables.read_assignment_work_plan other
      else (store.write session authority request existing_plan).1 = .error work_plan_changed_error ∧
        store.SameRows (store.write session authority request existing_plan).2
  raced : ∀ session authority request existing_plan session' authority' request' existing_plan',
    store.sessions.get? session = some (.pending authority request existing_plan) →
    store.sessions.get? session' = some (.pending authority' request' existing_plan') →
    authority'.assignment_id = authority.assignment_id → authority'.work_plan_revision = authority.work_plan_revision →
    (store.db.work_plan_revision authority.assignment_id = some authority.work_plan_revision →
        exact_node_operation_authority_exists store.db authority = true →
        (store.write session authority request existing_plan).1 = .ok true) ∧
      ((store.write session authority request existing_plan).1 = .ok true →
        ∀ later, (controller.work_plans unicode).Path (store.write session authority request existing_plan).2 later →
        later.sessions.get? session' = some (.pending authority' request' existing_plan') →
        (later.write session' authority' request' existing_plan').1 = .error work_plan_changed_error ∧
          later.SameRows (later.write session' authority' request' existing_plan').2)
  advances : ∀ transaction store', (controller.work_plans unicode).commit transaction store store' →
    ∀ assignment_id revision, store.db.work_plan_revision assignment_id = some revision →
      (store'.db.work_plan_revision assignment_id = some revision ∧
        store'.tables.read_assignment_work_plan assignment_id = store.tables.read_assignment_work_plan assignment_id) ∨
      store'.db.work_plan_revision assignment_id = some (revision + 1)
  never_repeats : ∀ later, (controller.work_plans unicode).Path store later →
    ∀ assignment_id revision, store.db.work_plan_revision assignment_id = some revision →
      ∃ revision', later.db.work_plan_revision assignment_id = some revision' ∧ revision ≤ revision' ∧
        (revision' = revision → later.tables.read_assignment_work_plan assignment_id =
          store.tables.read_assignment_work_plan assignment_id)

theorem WorkPlanMove.advances (hmove : WorkPlanMove unicode store store') (h : WorkPlanInvariant unicode store)
    {assignment_id : AssignmentId} {revision : Nat}
    (hrevision : store.db.work_plan_revision assignment_id = some revision) :
    (store'.db.work_plan_revision assignment_id = some revision ∧
        store'.tables.read_assignment_work_plan assignment_id = store.tables.read_assignment_work_plan assignment_id) ∨
      store'.db.work_plan_revision assignment_id = some (revision + 1) := by
  cases hmove with
  | kept plans sound tables sessions => exact .inl ⟨plans.work_plan_revision hrevision, by rw [tables]⟩
  | written authority request assignment normalized row current db represents others sessions =>
    rw [db, with_work_plan_revision]
    by_cases hmine : assignment_id = authority.assignment_id
    · refine .inr ((if_pos hmine).trans ?_)
      subst hmine
      obtain ⟨found, hfound, rfl⟩ := TaskDb.work_plan_revision_eq_some.mp hrevision
      rw [Option.some.inj (row.symm.trans hfound)]
    · refine .inl ⟨(if_neg hmine).trans hrevision, ?_⟩
      rw [represents.read, h.represents.read, db, TaskDb.with_work_plan, replaced_get?, if_neg hmine]

/-- The revisions only rise, and while one stays so does the plan. -/
theorem path_never_repeats (h : (controller.work_plans unicode).Path store later) {assignment_id : AssignmentId}
    {revision : Nat} (hrevision : store.db.work_plan_revision assignment_id = some revision) :
    ∃ revision', later.db.work_plan_revision assignment_id = some revision' ∧ revision ≤ revision' ∧
      (revision' = revision → later.tables.read_assignment_work_plan assignment_id =
        store.tables.read_assignment_work_plan assignment_id) := by
  induction h with
  | refl => exact ⟨revision, hrevision, Nat.le_refl _, fun _ => rfl⟩
  | tail _ hstep ih =>
    obtain ⟨hreachable, transaction, hcommit⟩ := hstep
    obtain ⟨middle, hmiddle, hle, hsame⟩ := ih
    have hinv := work_plan_invariant hreachable
    rcases (work_plan_move hinv hcommit).advances hinv hmiddle with ⟨hkept, hread⟩ | hnext
    · exact ⟨middle, hkept, hle, fun heq => hread.trans (hsame heq)⟩
    · refine ⟨middle + 1, hnext, hle.trans (Nat.le_succ _), fun heq => ?_⟩
      omega

theorem path_work_plan_invariant (hpath : (controller.work_plans unicode).Path store later)
    (h : WorkPlanInvariant unicode store) : WorkPlanInvariant unicode later := by
  refine hpath.keep (P := WorkPlanInvariant unicode) h ?_
  rintro store store' ⟨-, transaction, hcommit⟩ hold
  exact (work_plan_move hold hcommit).invariant hold

private theorem written_outcome (h : WorkPlanInvariant unicode store)
    (hsession : store.sessions.get? session = some (.pending authority request existing_plan)) :
    ∃ revision, store.db.work_plan_revision authority.assignment_id = some revision ∧
      if revision = authority.work_plan_revision ∧ exact_node_operation_authority_exists store.db authority = true then
        (store.write session authority request existing_plan).1 = .ok true ∧
          (store.write session authority request existing_plan).2.db.work_plan_revision authority.assignment_id =
            some (revision + 1) ∧
          (store.write session authority request existing_plan).2.tables.read_assignment_work_plan
            authority.assignment_id = some (request.plan (revision + 1)) ∧
          ∀ other, other ≠ authority.assignment_id →
            (store.write session authority request existing_plan).2.tables.read_assignment_work_plan other =
              store.tables.read_assignment_work_plan other
      else (store.write session authority request existing_plan).1 = .error work_plan_changed_error ∧
        store.SameRows (store.write session authority request existing_plan).2 := by
  obtain ⟨assignment, hrow, houtcome⟩ := write_rows_eq h (h.sessions session _ hsession)
  refine ⟨assignment.work_plan_revision, TaskDb.work_plan_revision_eq_some.mpr ⟨assignment, hrow, rfl⟩, ?_⟩
  rcases houtcome with ⟨hrevision, hauthority, tables', hwritten, hrepresents, -⟩ | ⟨hstale, hrefused⟩
  · rw [if_pos ⟨hrevision, hauthority⟩, WorkPlanStore.write, hwritten]
    refine ⟨rfl, (with_work_plan_revision).trans (if_pos rfl), ?_, fun other hother => ?_⟩
    · rw [hrepresents.read, replaced_get?, if_pos rfl]
      rfl
    · rw [hrepresents.read, replaced_get?, if_neg hother, h.represents.read]
  · rw [if_neg hstale, WorkPlanStore.write, hrefused]
    exact ⟨rfl, rfl, rfl⟩

/-- A set that matches the current plan asks for the steps that are stored. -/
theorem SetWorkPlanRequest.matches_steps {current : Option AssignmentWorkPlan} (h : request.matches current = true) :
    (current.map (·.steps)).getD [] = request.steps := by
  cases current with
  | none => exact (List.isEmpty_iff.mp h).symm
  | some plan =>
    unfold SetWorkPlanRequest.matches at h
    rw [Bool.and_eq_true, beq_iff_eq, beq_iff_eq] at h
    exact h.2

private theorem read_outcome (h : WorkPlanInvariant unicode store) :
    store.SameRows (store.read session authority request).2 ∧
      ∃ current, store.tables.read_assignment_work_plan authority.assignment_id = some current ∧
        (store.read session authority request).1 = (if request.matches current then some (.ok false) else none) ∧
        (request.matches current = true → (current.map (·.steps)).getD [] = request.steps) := by
  have hread := h.represents.read authority.assignment_id
  unfold WorkPlanStore.read
  rw [hread]
  dsimp only
  split
  · next hmatches =>
    exact ⟨⟨rfl, rfl⟩, _, rfl, (if_pos hmatches).symm, SetWorkPlanRequest.matches_steps⟩
  · next hmatches =>
    exact ⟨⟨rfl, rfl⟩, _, rfl, (if_neg hmatches).symm, SetWorkPlanRequest.matches_steps⟩

theorem work_plan_protocol (h : (controller.work_plans unicode).Reachable store) :
    WorkPlanProtocol controller unicode store := by
  have hinv := work_plan_invariant h
  refine ⟨fun assignment_id => ?_, ?_, fun session authority request _ => read_outcome hinv,
    fun session authority request existing_plan => written_outcome hinv, ?_,
    fun transaction store' hcommit assignment_id revision => (work_plan_move hinv hcommit).advances hinv,
    fun later hpath assignment_id revision => path_never_repeats hpath⟩
  · refine ⟨_, hinv.represents.read assignment_id, fun current hcurrent => ?_⟩
    obtain ⟨hrevision, hprogress⟩ := hinv.current assignment_id current hcurrent
    exact ⟨hprogress, hrevision⟩
  · rintro session scope arguments allowed store' ⟨-, authority, request, hadmitted, rfl⟩
    obtain ⟨hrequest, hrevision⟩ := admit_set_work_plan_eq_some hadmitted
    exact ⟨⟨rfl, rfl⟩, authority, request, hrequest, Table.get?_set_self _ _ _, hrevision⟩
  · intro session authority request existing_plan session' authority' request' existing_plan' hsession
      hsession' hassignment
      hrevision
    obtain ⟨revision, hcurrent, houtcome⟩ := written_outcome hinv hsession
    refine ⟨fun hobserved hauthority => ?_, fun hwon later hpath hlater => ?_⟩
    · rw [if_pos ⟨Option.some.inj (hcurrent.symm.trans hobserved), hauthority⟩] at houtcome
      exact houtcome.1
    split at houtcome
    · next haccepted =>
      -- the revision has passed the observed one, and it does not come back
      obtain ⟨revision', hlast, hle, -⟩ := path_never_repeats hpath houtcome.2.1
      have hlast_inv := path_work_plan_invariant hpath ((write_move hinv hsession).invariant hinv)
      obtain ⟨current, hcurrent', houtcome'⟩ := written_outcome hlast_inv hlater
      rw [hassignment] at hcurrent'
      obtain rfl := Option.some.inj (hlast.symm.trans hcurrent')
      rwa [if_neg] at houtcome'
      rintro ⟨hsame, -⟩
      have hobserved := haccepted.1
      omega
    · rw [houtcome.1] at hwon
      cases hwon

/-- One transaction of a replay of calls. -/
inductive SetMove
  | runtime (move : Move)
  | observe (session : Nat) (scope : NodeOperationScope) (arguments : SetWorkPlanRequest)
  | read (session : Nat)
  | write (session : Nat)

def WorkPlanStore.move (controller : Controller) (unicode : UnicodeText) (store : WorkPlanStore) :
    SetMove → Option WorkPlanStore
  | .runtime move =>
    if (move.transaction store.db).sets_work_plan then none
    else ((move.transaction store.db).commit controller store.db).map fun db => { store with db }
  | .observe session scope arguments =>
    if (store.sessions.get? session).isSome then none
    else (admit_set_work_plan unicode store.db scope arguments true).map fun (authority, request) =>
      { store with sessions := store.sessions.set session (.observed authority request) }
  | .read session =>
    match store.sessions.get? session with
    | some (.observed authority request) => some (store.read session authority request).2
    | _ => none
  | .write session =>
    match store.sessions.get? session with
    | some (.pending authority request existing_plan) =>
      some (store.write session authority request existing_plan).2
    | _ => none

theorem WorkPlanStore.move_reachable {move : SetMove} (hstore : (controller.work_plans unicode).Reachable store)
    (h : store.move controller unicode move = some store') : (controller.work_plans unicode).Reachable store' := by
  cases move with
  | runtime move =>
    rw [WorkPlanStore.move] at h
    split at h
    · cases h
    next hother =>
    obtain ⟨db, hdb, rfl⟩ := Option.map_eq_some_iff.mp h
    obtain ⟨history, hrun⟩ := hstore
    -- whatever the move reads it reads from the newest rows
    have hstale : ((move.transaction store.db).reads.map fun _ => store).map (·.db) =
      (move.transaction store.db).reads := by
      rw [List.map_map]
      exact (List.map_congr_left fun stale hstale => (move.alone store.db stale hstale).symm).trans (List.map_id _)
    have hcommit : (controller.work_plans unicode).commit
        (.runtime (move.transaction store.db) ((move.transaction store.db).reads.map fun _ => store)) store
        { store with db } := ⟨Bool.not_eq_true _ ▸ hother, hstale, db, hdb, rfl⟩
    refine ⟨_, .step hrun (fun stale hread => ?_) hcommit⟩
    obtain ⟨_, -, rfl⟩ := List.mem_map.mp hread
    exact List.mem_cons_self
  | observe session scope arguments =>
    rw [WorkPlanStore.move] at h
    split at h
    · cases h
    next hfree =>
    obtain ⟨⟨authority, request⟩, hadmitted, rfl⟩ := Option.map_eq_some_iff.mp h
    exact hstore.step (t := .observe session scope arguments true) rfl
      ⟨Option.not_isSome_iff_eq_none.mp hfree, authority, request, hadmitted, rfl⟩
  | read session =>
    rw [WorkPlanStore.move] at h
    split at h
    · next authority request hsession =>
      obtain rfl := Option.some.inj h
      exact hstore.step (t := .read session) rfl ⟨authority, request, hsession, rfl⟩
    · cases h
  | write session =>
    rw [WorkPlanStore.move] at h
    split at h
    · next authority request existing_plan hsession =>
      obtain rfl := Option.some.inj h
      exact hstore.step (t := .write session) rfl ⟨authority, request, existing_plan, hsession, rfl⟩
    · cases h

/-- The store of `two_managers` after its admission and some moves. -/
def replay_work_plans (unicode : UnicodeText) (moves : List SetMove) : Option WorkPlanStore :=
  (start_task two_managers (some ⟨1, 0⟩)).toOption.bind fun db =>
    moves.foldlM (fun store move => store.move plain_controller unicode move)
      { db, tables := { plans := ∅, steps := ∅ }, sessions := ∅ }

theorem replay_work_plans_reachable {moves : List SetMove} (h : replay_work_plans unicode moves = some store) :
    (plain_controller.work_plans unicode).Reachable store := by
  obtain ⟨db, hstart, hmoves⟩ := Option.bind_eq_some_iff.mp h
  have hstarted : (plain_controller.work_plans unicode).Reachable
      { db, tables := { plans := ∅, steps := ∅ }, sessions := ∅ } :=
    ⟨[], .start ⟨⟨two_managers, some ⟨1, 0⟩, toOption_eq_some_iff.mp hstart⟩, rfl, rfl⟩⟩
  generalize ({ db, tables := { plans := ∅, steps := ∅ }, sessions := ∅ } : WorkPlanStore) = first at hstarted hmoves
  clear h hstart
  induction moves generalizing first with
  | nil =>
    obtain rfl := Option.some.inj hmoves
    exact hstarted
  | cons move moves ih =>
    rw [List.foldlM_cons] at hmoves
    obtain ⟨next, hnext, hrest⟩ := Option.bind_eq_some_iff.mp hmoves
    exact ih next (WorkPlanStore.move_reachable hstarted hnext) hrest

def plain_unicode : UnicodeText where
  casefold := id
  isalnum := Char.isAlphanum

/-- Two calls of the lead observe one revision; the first one has written. -/
def racing_sets : List SetMove :=
  [.runtime (.accept_start 1 0 0), .observe 1 ⟨1, none⟩ ⟨none, [⟨" build ", .in_progress⟩]⟩,
    .observe 2 ⟨1, none⟩ ⟨none, [⟨"test", .pending⟩]⟩, .read 1, .read 2, .write 1]

/-- The race leaves the first call's normalized plan, and the second call before its write. -/
theorem work_plan_protocol_raced :
    ∃ store, (store.tables.read_assignment_work_plan 1 = some (some ⟨1, none, [⟨"build", .in_progress⟩]⟩) ∧
      (store.sessions.get? 2).isSome = true) ∧ WorkPlanProtocol plain_controller plain_unicode store := by
  have hrun : (replay_work_plans plain_unicode racing_sets).any (fun store =>
      store.tables.read_assignment_work_plan 1 = some (some ⟨1, none, [⟨"build", .in_progress⟩]⟩) ∧
        (store.sessions.get? 2).isSome = true) = true := by decide +kernel
  obtain ⟨store, hstore, hraced⟩ := (Option.any_eq_true _ _).mp hrun
  exact ⟨store, of_decide_eq_true hraced, work_plan_protocol (replay_work_plans_reachable hstore)⟩

end OhMySubagents

import OhMySubagents.Relational.Ordered
import OhMySubagents.WorkPlan.Operations

open Relational
open OhMySubagents.Contracts (ConstrainedText)

namespace OhMySubagents

/-- The parts of a `work_plan_step_id`. -/
structure WorkPlanStepId where
  assignment_id : AssignmentId
  revision : Nat
  order_index : Nat
  deriving DecidableEq, Repr

/-- A row of `assignment_work_plan_steps`. -/
structure AssignmentWorkPlanStepRow where
  assignment_id : AssignmentId
  order_index : Nat
  step : WorkPlanStep
  deriving DecidableEq, Repr

/-- Whether a unique index keeps two steps apart: one row for each place, and one step in progress. -/
def AssignmentWorkPlanStepRow.conflicts (row other : AssignmentWorkPlanStepRow) : Bool :=
  row.assignment_id = other.assignment_id &&
    (row.order_index = other.order_index || (row.step.status = .in_progress && other.step.status = .in_progress))

/-- A row of `assignment_work_plans`. -/
structure AssignmentWorkPlanRow where
  revision : Nat
  explanation : Option String
  deriving DecidableEq, Repr

structure WorkPlanTables where
  plans : Table AssignmentId AssignmentWorkPlanRow
  steps : Table WorkPlanStepId AssignmentWorkPlanStepRow

def WorkPlanStepRead.model_validate (step : WorkPlanStep) : Option WorkPlanStep :=
  (ConstrainedText.validate _WORK_PLAN_STEP_MAX_LENGTH step.step).map fun text => { step with step := text.val }

def WorkPlanRead.validate_explanation : Option String → Option (Option String)
  | none => some none
  | some explanation =>
    (ConstrainedText.validate _WORK_PLAN_EXPLANATION_MAX_LENGTH explanation).map fun text => some text.val

namespace WorkPlanTables

variable (tables : WorkPlanTables)

def read_steps (assignment_id : AssignmentId) : List (WorkPlanStepId × AssignmentWorkPlanStepRow) :=
  tables.steps.selectOrdered (fun _ row => row.assignment_id = assignment_id) fun _ row => row.order_index

/-- Empty when a row does not validate; otherwise the plan, if there is one. -/
def read_assignment_work_plan (assignment_id : AssignmentId) : Option (Option AssignmentWorkPlan) :=
  match tables.plans.get? assignment_id with
  | none => some none
  | some plan => do
    let steps ← ((tables.read_steps assignment_id).map fun row => row.2.step).mapM WorkPlanStepRead.model_validate
    let explanation ← WorkPlanRead.validate_explanation plan.explanation
    if 1 ≤ plan.revision ∧ 1 ≤ steps.length ∧ steps.length ≤ 9 then
      some (some { revision := plan.revision, explanation, steps })
    else none

/-- The rows of the steps of one request, with their identifiers. -/
def step_rows (assignment_id : AssignmentId) (revision : Nat) (steps : List WorkPlanStep) :
    List (WorkPlanStepId × AssignmentWorkPlanStepRow) :=
  steps.zipIdx.map fun (step, order_index) =>
    (⟨assignment_id, revision, order_index⟩, ⟨assignment_id, order_index, step⟩)

/-- `session.add` of a new row, or the change of the one that the session has read. -/
def write_plan (assignment_id : AssignmentId) (existing_plan : Option AssignmentWorkPlanRow)
    (plan : AssignmentWorkPlanRow) : Option (Table AssignmentId AssignmentWorkPlanRow) :=
  match existing_plan with
  | none => tables.plans.insertNew assignment_id plan
  | some _ => tables.plans.updateWhere assignment_id (fun _ => true) fun _ => plan

/-- The rows after a replacement; empty when the database refuses a row. The plan's row is the one that the session has
    read before. -/
def _replace_work_plan_rows (assignment_id : AssignmentId) (existing_plan : Option AssignmentWorkPlanRow)
    (request : SetWorkPlanRequest) (revision : Nat) : Option WorkPlanTables :=
  let steps := tables.steps.deleteWhere fun _ row => row.assignment_id = assignment_id
  if request.steps.isEmpty then
    some { plans := if existing_plan.isSome then tables.plans.delete assignment_id else tables.plans, steps }
  else do
    let plans ← tables.write_plan assignment_id existing_plan { revision, explanation := request.explanation }
    if 9 < request.steps.length then none
    else do
      let steps ← (step_rows assignment_id revision request.steps).foldlM
        (fun steps row => steps.insertUnique AssignmentWorkPlanStepRow.conflicts row.1 row.2) steps
      some { plans, steps }

/-- The rows that stand for the plans of all Assignments: what is read of them is the plan of each. -/
structure Represents (plans : Table AssignmentId AssignmentWorkPlan) : Prop where
  keyed : ∀ id row, tables.steps.get? id = some row → row.assignment_id = id.assignment_id
  apart : ∀ id id' row row', tables.steps.get? id = some row → tables.steps.get? id' = some row' →
    row.assignment_id = row'.assignment_id → row.order_index = row'.order_index → id = id'
  read : ∀ assignment_id, tables.read_assignment_work_plan assignment_id = some (plans.get? assignment_id)

end WorkPlanTables

section Replacement

open WorkPlanTables

variable {tables : WorkPlanTables} {assignment_id : AssignmentId} {revision : Nat} {unicode : UnicodeText}
  {request : SetWorkPlanRequest} {plans : Table AssignmentId AssignmentWorkPlan}

theorem mem_step_rows {steps : List WorkPlanStep} {id : WorkPlanStepId} {row : AssignmentWorkPlanStepRow} :
    (id, row) ∈ step_rows assignment_id revision steps ↔
      row.assignment_id = assignment_id ∧ id = ⟨assignment_id, revision, row.order_index⟩ ∧
        steps[row.order_index]? = some row.step := by
  rw [step_rows, List.mem_map]
  constructor
  · rintro ⟨⟨step, order_index⟩, hmem, heq⟩
    obtain ⟨rfl, rfl⟩ := Prod.mk.inj heq
    exact ⟨rfl, rfl, List.mem_zipIdx_iff_getElem?.mp hmem⟩
  · rintro ⟨rfl, rfl, hstep⟩
    exact ⟨(row.step, row.order_index), List.mem_zipIdx_iff_getElem?.mpr hstep, rfl⟩

theorem step_rows_pairwise (steps : List WorkPlanStep) :
    (step_rows assignment_id revision steps).Pairwise fun row later => row.2.order_index < later.2.order_index := by
  refine List.pairwise_map.mpr (List.pairwise_iff_getElem.mpr fun i j hi hj hlt => ?_)
  simpa using hlt

theorem step_rows_steps (steps : List WorkPlanStep) :
    (step_rows assignment_id revision steps).map (fun row => row.2.step) = steps := by
  rw [step_rows, List.map_map]
  exact List.zipIdx_map_fst 0 steps

private theorem pairwise_of_countP {steps : List WorkPlanStep} (h : in_progress_steps steps ≤ 1) :
    steps.Pairwise fun step later => ¬(later.status = .in_progress ∧ step.status = .in_progress) := by
  unfold in_progress_steps at h
  induction steps with
  | nil => exact .nil
  | cons step steps ih =>
    rw [List.countP_cons] at h
    refine List.pairwise_cons.mpr ⟨fun later hlater => ?_, ih (by omega)⟩
    rintro ⟨hnext, hfirst⟩
    have hpos : 0 < steps.countP fun step => step.status = .in_progress :=
      List.countP_pos_iff.mpr ⟨later, hlater, decide_eq_true hnext⟩
    rw [if_pos (decide_eq_true hfirst)] at h
    omega

/-- No two steps of a normalized request are kept apart by an index. -/
theorem step_rows_apart {steps : List WorkPlanStep} (h : in_progress_steps steps ≤ 1) :
    (step_rows assignment_id revision steps).Pairwise fun row later =>
      AssignmentWorkPlanStepRow.conflicts later.2 row.2 = false := by
  have hprogress := pairwise_of_countP h
  rw [← @step_rows_steps assignment_id revision steps, List.pairwise_map] at hprogress
  refine ((step_rows_pairwise steps).and hprogress).imp fun {row later} hrow => ?_
  have horder : later.2.order_index ≠ row.2.order_index := Nat.ne_of_gt hrow.1
  simp only [AssignmentWorkPlanStepRow.conflicts, horder, decide_false, Bool.false_or, Bool.and_eq_false_imp]
  intro _
  simpa using hrow.2

/-- The step rows after a replacement are the old ones of the other Assignments and the new ones. -/
theorem replaced_step_rows (h : tables.Represents plans) (hrequest : request.Normalized unicode) :
    ∃ steps', (step_rows assignment_id revision request.steps).foldlM
        (fun steps row => steps.insertUnique AssignmentWorkPlanStepRow.conflicts row.1 row.2)
        (tables.steps.deleteWhere fun _ row => row.assignment_id = assignment_id) = some steps' ∧
      ∀ id row, steps'.get? id = some row ↔
        (tables.steps.get? id = some row ∧ row.assignment_id ≠ assignment_id) ∨
          (id, row) ∈ step_rows assignment_id revision request.steps := by
  have hdeleted : ∀ {id row}, (tables.steps.deleteWhere fun _ row => row.assignment_id = assignment_id).get? id =
      some row ↔ tables.steps.get? id = some row ∧ row.assignment_id ≠ assignment_id := by
    intro id row
    rw [Table.get?_deleteWhere_eq_some, decide_eq_false_iff_not]
  have hfresh : ∀ row ∈ step_rows assignment_id revision request.steps,
      (tables.steps.deleteWhere fun _ row => row.assignment_id = assignment_id).get? row.1 = none := by
    rintro ⟨id, row⟩ hrow
    obtain ⟨-, rfl, -⟩ := mem_step_rows.mp hrow
    refine Option.eq_none_iff_forall_ne_some.mpr fun stored hstored => ?_
    obtain ⟨hstored, hother⟩ := hdeleted.mp hstored
    exact hother (h.keyed _ stored hstored)
  have hkeys : ((step_rows assignment_id revision request.steps).map Prod.fst).Nodup := by
    refine List.pairwise_map.mpr (List.Pairwise.imp_of_mem ?_ (step_rows_pairwise request.steps))
    rintro ⟨id, row⟩ ⟨id', later⟩ hrow hlater hlt heq
    obtain ⟨-, rfl, -⟩ := mem_step_rows.mp hrow
    obtain ⟨-, rfl, -⟩ := mem_step_rows.mp hlater
    exact absurd (congrArg WorkPlanStepId.order_index heq) (Nat.ne_of_lt hlt)
  have hfree : ∀ row ∈ step_rows assignment_id revision request.steps, ∀ id stored,
      (tables.steps.deleteWhere fun _ row => row.assignment_id = assignment_id).get? id = some stored →
        AssignmentWorkPlanStepRow.conflicts row.2 stored = false := by
    rintro ⟨_, row⟩ hrow id stored hstored
    obtain ⟨rfl, -, -⟩ := mem_step_rows.mp hrow
    rw [AssignmentWorkPlanStepRow.conflicts, decide_eq_false (Ne.symm (hdeleted.mp hstored).2), Bool.false_and]
  obtain ⟨steps', hsteps⟩ := Table.exists_foldlM_insertUnique hfresh hkeys hfree
    (step_rows_apart hrequest.one_in_progress)
  obtain ⟨hget, -, -⟩ := Table.insertAll_eq_some (Table.foldlM_insertUnique hsteps)
  exact ⟨steps', hsteps, fun id row => by rw [hget, hdeleted]⟩

private theorem read_other {tables' : WorkPlanTables} (h : tables.Represents plans) {other : AssignmentId}
    (hplan : tables'.plans.get? other = tables.plans.get? other)
    (hsteps : ∀ id row, row.assignment_id = other →
      (tables'.steps.get? id = some row ↔ tables.steps.get? id = some row)) :
    tables'.read_assignment_work_plan other = some (plans.get? other) := by
  rw [← h.read other]
  have hread : tables.read_steps other = tables'.read_steps other := by
    refine Table.selectOrdered_congr (fun id id' row row' hrow hmine hrow' hmine' horder => ?_) fun id row => ?_
    · exact h.apart id id' row row' hrow hrow' ((of_decide_eq_true hmine).trans (of_decide_eq_true hmine').symm) horder
    · exact and_congr_left fun hmine => (hsteps id row (of_decide_eq_true hmine)).symm
  rw [read_assignment_work_plan, read_assignment_work_plan, hplan, hread]

private theorem read_steps_of_normalized (hrequest : request.Normalized unicode) :
    request.steps.mapM WorkPlanStepRead.model_validate = some request.steps := by
  refine mapM_eq_some.mpr (List.forall₂_same.mpr fun step hstep => ?_)
  obtain ⟨text, htext⟩ := SetWorkPlanRequest.meaningful_text_constrained (hrequest.texts step hstep)
  rw [WorkPlanStepRead.model_validate, ← htext, ConstrainedText.validate_val, Option.map_some]
  exact congrArg some (by cases step; cases htext; rfl)

private theorem read_explanation_of_normalized (hrequest : request.Normalized unicode) :
    WorkPlanRead.validate_explanation request.explanation = some request.explanation := by
  cases hexplanation : request.explanation with
  | none => rfl
  | some explanation =>
    obtain ⟨text, htext⟩ := SetWorkPlanRequest.meaningful_text_constrained
      (hrequest.explanation explanation hexplanation)
    rw [WorkPlanRead.validate_explanation, ← htext, ConstrainedText.validate_val, Option.map_some]

/-- The plans of all Assignments after a replacement of one. -/
def SetWorkPlanRequest.replaced (request : SetWorkPlanRequest) (plans : Table AssignmentId AssignmentWorkPlan)
    (assignment_id : AssignmentId) (revision : Nat) : Table AssignmentId AssignmentWorkPlan :=
  if request.steps.isEmpty then plans.delete assignment_id
  else plans.set assignment_id { revision, explanation := request.explanation, steps := request.steps }

private theorem cleared_represents (h : tables.Represents plans) :
    ({ plans := if (tables.plans.get? assignment_id).isSome then tables.plans.delete assignment_id else tables.plans
       steps := tables.steps.deleteWhere fun _ row => row.assignment_id = assignment_id } : WorkPlanTables).Represents
      (plans.delete assignment_id) := by
  have hold : ∀ {id row}, (tables.steps.deleteWhere fun _ row => row.assignment_id = assignment_id).get? id = some row ↔
      tables.steps.get? id = some row ∧ row.assignment_id ≠ assignment_id := by
    intro id row
    rw [Table.get?_deleteWhere_eq_some, decide_eq_false_iff_not]
  have hplan : ∀ other, (if (tables.plans.get? assignment_id).isSome then tables.plans.delete assignment_id
      else tables.plans).get? other = if other = assignment_id then none else tables.plans.get? other := by
    intro other
    split
    · rw [Table.get?_delete]
    · next hnone =>
      split
      · next hother =>
        rw [hother]
        exact Option.not_isSome_iff_eq_none.mp hnone
      · rfl
  refine ⟨fun id row hrow => h.keyed id row (hold.mp hrow).1,
    fun id id' row row' hrow hrow' => h.apart id id' row row' (hold.mp hrow).1 (hold.mp hrow').1, fun other => ?_⟩
  rw [Table.get?_delete]
  by_cases hother : other = assignment_id
  · rw [if_pos hother, read_assignment_work_plan, hplan, if_pos hother]
  · rw [if_neg hother]
    refine read_other h ((hplan other).trans (if_neg hother)) fun id row hmine => hold.trans (and_iff_left ?_)
    rwa [hmine]

/-- **Replacement.** The rows of a normalized request go in without a conflict, read back as the request, in its order,
    and leave the plans of the other Assignments. -/
theorem replace_work_plan_rows_represents (h : tables.Represents plans) (hrequest : request.Normalized unicode)
    (hrevision : 1 ≤ revision) :
    ∃ tables', tables._replace_work_plan_rows assignment_id (tables.plans.get? assignment_id) request revision =
        some tables' ∧ tables'.Represents (request.replaced plans assignment_id revision) := by
  unfold _replace_work_plan_rows SetWorkPlanRequest.replaced
  split
  · exact ⟨_, rfl, cleared_represents h⟩
  next hsteps =>
  have hpos : 1 ≤ request.steps.length :=
    List.length_pos_iff.mpr fun hnil => hsteps (List.isEmpty_iff.mpr hnil)
  obtain ⟨steps', hinserted, hget⟩ := @replaced_step_rows tables assignment_id revision _ _ _ h hrequest
  -- the plan's row goes in where there was none, and is changed where there was one
  have hplans : tables.write_plan assignment_id (tables.plans.get? assignment_id)
      { revision, explanation := request.explanation } =
      some (tables.plans.set assignment_id { revision, explanation := request.explanation }) := by
    unfold write_plan
    cases hplan : tables.plans.get? assignment_id with
    | none => exact Table.insertNew_eq_some.mpr ⟨hplan, rfl⟩
    | some plan => exact Table.updateWhere_eq_some.mpr ⟨plan, hplan, rfl, rfl⟩
  refine ⟨{ plans := tables.plans.set assignment_id { revision, explanation := request.explanation }, steps := steps' },
    ?_, ?_⟩
  · refine Option.bind_eq_some_iff.mpr ⟨_, hplans, ?_⟩
    rw [if_neg (Nat.not_lt.mpr hrequest.at_most_nine)]
    exact Option.bind_eq_some_iff.mpr ⟨steps', hinserted, rfl⟩
  refine ⟨fun id row hrow => ?_, fun id id' row row' hrow hrow' howner horder => ?_, fun other => ?_⟩
  · rcases (hget id row).mp hrow with ⟨hold, -⟩ | hnew
    · exact h.keyed id row hold
    · obtain ⟨hmine, rfl, -⟩ := mem_step_rows.mp hnew
      exact hmine
  · rcases (hget id row).mp hrow with ⟨hold, hother⟩ | hnew <;>
      rcases (hget id' row').mp hrow' with ⟨hold', hother'⟩ | hnew'
    · exact h.apart id id' row row' hold hold' howner horder
    · exact absurd (howner.trans (mem_step_rows.mp hnew').1) hother
    · exact absurd (howner.symm.trans (mem_step_rows.mp hnew).1) hother'
    · rw [(mem_step_rows.mp hnew).2.1, (mem_step_rows.mp hnew').2.1, horder]
  · rw [Table.get?_set]
    split
    · next hother =>
      subst hother
      have hread : (WorkPlanTables.mk (tables.plans.set other { revision, explanation := request.explanation })
          steps').read_steps other = step_rows other revision request.steps := by
        refine Table.selectOrdered_eq (fun id row => ?_) (step_rows_pairwise request.steps)
        rw [hget, decide_eq_true_iff]
        constructor
        · exact fun hnew => ⟨.inr hnew, (mem_step_rows.mp hnew).1⟩
        · rintro ⟨⟨-, hnot⟩ | hnew, hmine⟩
          · exact absurd hmine hnot
          · exact hnew
      rw [read_assignment_work_plan, Table.get?_set_self, hread, step_rows_steps]
      refine Option.bind_eq_some_iff.mpr ⟨_, read_steps_of_normalized hrequest,
        Option.bind_eq_some_iff.mpr ⟨_, read_explanation_of_normalized hrequest, ?_⟩⟩
      exact if_pos ⟨hrevision, hpos, hrequest.at_most_nine⟩
    · next hother =>
      refine read_other h (Table.get?_set_ne _ hother _) fun id row hmine => (hget id row).trans ?_
      constructor
      · rintro (⟨hold, -⟩ | hnew)
        · exact hold
        · exact absurd (hmine.symm.trans (mem_step_rows.mp hnew).1) hother
      · exact fun hold => .inl ⟨hold, hmine ▸ hother⟩

end Replacement

end OhMySubagents

import OhMySubagents.Dispatch.Authority
import OhMySubagents.Lanes.Abstraction
import OhMySubagents.Text.ExactText

open Relational

namespace OhMySubagents

section

structure SetWorkPlanRequest where
  explanation : Option String
  steps : List WorkPlanStep
  deriving DecidableEq, Repr

def SetWorkPlanRequest.matches (request : SetWorkPlanRequest) : Option AssignmentWorkPlan → Bool
  | none => request.steps.isEmpty
  | some current => current.explanation == request.explanation && current.steps == request.steps

def advance_work_plan_revision (db : TaskDb) (authority : NodeOperationAuthority) : Result TaskDb := do
  let assignments ← require_some
    (db.assignments.updateWhere authority.assignment_id
      (fun assignment => assignment.work_plan_revision == authority.work_plan_revision &&
        exact_node_operation_authority_exists db authority)
      fun assignment => { assignment with work_plan_revision := authority.work_plan_revision + 1 })
    (stale_assignment_error "the assignment work plan changed concurrently")
  return { db with assignments := assignments }

/-- An empty plan is no row at all. -/
def replace_work_plan_rows (db : TaskDb) (authority : NodeOperationAuthority) (request : SetWorkPlanRequest) :
    TaskDb :=
  { db with
    assignment_work_plans :=
      if request.steps.isEmpty then db.assignment_work_plans.delete authority.assignment_id
      else db.assignment_work_plans.set authority.assignment_id
        { revision := authority.work_plan_revision + 1
          explanation := request.explanation
          steps := request.steps } }

/-- Replace or clear the advisory plan of the current Assignment; an equal plan is left alone. -/
def set_assignment_work_plan (db : TaskDb) (authority : NodeOperationAuthority) (request : SetWorkPlanRequest) :
    Result TaskDb :=
  if request.matches (db.assignment_work_plans.get? authority.assignment_id) then .ok db
  else do
    let db ← advance_work_plan_revision db authority
    return replace_work_plan_rows db authority request

variable {db db' : TaskDb} {authority : NodeOperationAuthority} {request : SetWorkPlanRequest}

/-- A changed plan advances the plan revision of its Assignment by one, and nothing else of that row. -/
theorem set_assignment_work_plan_success (h : set_assignment_work_plan db authority request = .ok db') :
    db' = db ∨ ∃ assignment plans, db.assignments.get? authority.assignment_id = some assignment ∧
      db' = { db with
        assignments := db.assignments.set authority.assignment_id
          { assignment with work_plan_revision := assignment.work_plan_revision + 1 }
        assignment_work_plans := plans } := by
  unfold set_assignment_work_plan at h
  split at h
  · cases h
    exact .inl rfl
  · unfold advance_work_plan_revision at h
    simp only [bind_eq_ok_iff, require_some_eq_ok_iff, Table.updateWhere_eq_some, Bool.and_eq_true, beq_iff_eq] at h
    obtain ⟨_, ⟨_, ⟨assignment, hrow, ⟨hrevision, -⟩, rfl⟩, hadvanced⟩, h⟩ := h
    cases hadvanced
    cases h
    rw [← hrevision]
    exact .inr ⟨assignment, _, hrow, rfl⟩

/-- Plans are advisory: the lanes do not see them. -/
theorem set_assignment_work_plan_lanes (h : set_assignment_work_plan db authority request = .ok db') :
    db'.lanes = db.lanes := by
  rcases set_assignment_work_plan_success h with rfl | ⟨assignment, plans, hrow, rfl⟩
  · rfl
  · apply Lanes.ext <;> first | rfl | skip
    exact Table.view_set_same hrow rfl

end

open OhMySubagents.Contracts (ConstrainedText)

def _WORK_PLAN_STEP_MAX_LENGTH : Nat := 512

def _WORK_PLAN_EXPLANATION_MAX_LENGTH : Nat := 1024

def _VAGUE_TEXT_FINGERPRINTS : List String := ["", "todo", "tbd"]

/-- `str.casefold` and `str.isalnum`. -/
structure UnicodeText where
  casefold : String → String
  isalnum : Char → Bool

variable (unicode : UnicodeText)

def _text_fingerprint (value : String) : String :=
    String.ofList ((unicode.casefold value).toList.filter unicode.isalnum)

/-- A stripped text that is not too long and not vague. -/
def meaningful_text (max_length : Nat) (value : String) : Option String := do
  let text ← ConstrainedText.validate max_length value
  if _text_fingerprint unicode text.val ∈ _VAGUE_TEXT_FINGERPRINTS then none else some text.val

/-- The validators of one `SetWorkPlanStep`. -/
def WorkPlanStep.model_validate (step : WorkPlanStep) : Option WorkPlanStep := do
  let text ← meaningful_text unicode _WORK_PLAN_STEP_MAX_LENGTH step.step
  some { step with step := text }

def meaningful_explanation : Option String → Option (Option String)
  | none => some none
  | some explanation => (meaningful_text unicode _WORK_PLAN_EXPLANATION_MAX_LENGTH explanation).map some

/-- The number of steps that are in progress. -/
def in_progress_steps (steps : List WorkPlanStep) : Nat := steps.countP fun step => step.status = .in_progress

namespace SetWorkPlanRequest

/-- The normalized request of given arguments; empty when a validator rejects them. -/
def model_validate (arguments : SetWorkPlanRequest) : Option SetWorkPlanRequest := do
  let explanation ← meaningful_explanation unicode arguments.explanation
  let steps ← arguments.steps.mapM (WorkPlanStep.model_validate unicode)
  if 9 < steps.length then none
  else if ¬(steps.map fun step => unicode.casefold step.step).Nodup then none
  else if 1 < in_progress_steps steps then none
  else some { explanation, steps }

/-- What the validators accept: the texts are as they store them, and the steps are at most nine distinct ones of which
    at most one is in progress. -/
structure Normalized (request : SetWorkPlanRequest) : Prop where
  explanation : ∀ explanation ∈ request.explanation,
    meaningful_text unicode _WORK_PLAN_EXPLANATION_MAX_LENGTH explanation = some explanation
  texts : ∀ step ∈ request.steps, meaningful_text unicode _WORK_PLAN_STEP_MAX_LENGTH step.step = some step.step
  at_most_nine : request.steps.length ≤ 9
  distinct : (request.steps.map fun step => unicode.casefold step.step).Nodup
  one_in_progress : in_progress_steps request.steps ≤ 1

variable {unicode} {request arguments : SetWorkPlanRequest}

theorem meaningful_text_idem {max_length : Nat} {value text : String}
    (h : meaningful_text unicode max_length value = some text) :
    meaningful_text unicode max_length text = some text := by
  unfold meaningful_text at h ⊢
  obtain ⟨stripped, -, h⟩ := Option.bind_eq_some_iff.mp h
  split at h
  · cases h
  · next hmeaningful =>
    obtain rfl := Option.some.inj h
    exact Option.bind_eq_some_iff.mpr ⟨stripped, ConstrainedText.validate_val stripped, if_neg hmeaningful⟩

theorem meaningful_text_constrained {max_length : Nat} {text : String}
    (h : meaningful_text unicode max_length text = some text) :
    ∃ stripped : ConstrainedText max_length, stripped.val = text := by
  unfold meaningful_text at h
  obtain ⟨stripped, -, h⟩ := Option.bind_eq_some_iff.mp h
  split at h
  · cases h
  · exact ⟨stripped, Option.some.inj h⟩

theorem model_validate_step_eq_some {step normalized : WorkPlanStep} :
    step.model_validate unicode = some normalized ↔
      meaningful_text unicode _WORK_PLAN_STEP_MAX_LENGTH step.step = some normalized.step ∧
        normalized.status = step.status := by
  unfold WorkPlanStep.model_validate
  constructor
  · intro h
    obtain ⟨text, htext, h⟩ := Option.bind_eq_some_iff.mp h
    obtain rfl := Option.some.inj h
    exact ⟨htext, rfl⟩
  · rintro ⟨htext, hstatus⟩
    refine Option.bind_eq_some_iff.mpr ⟨normalized.step, htext, ?_⟩
    cases normalized
    cases hstatus
    rfl

private theorem normalized_texts {given steps : List WorkPlanStep}
    (h : List.Forall₂ (fun step normalized => step.model_validate unicode = some normalized) given steps) :
    ∀ step ∈ steps, meaningful_text unicode _WORK_PLAN_STEP_MAX_LENGTH step.step = some step.step := by
  induction h with
  | nil => exact List.forall_mem_nil _
  | cons hfirst _ ih =>
    exact List.forall_mem_cons.mpr ⟨meaningful_text_idem (model_validate_step_eq_some.mp hfirst).1, ih⟩

/-- The validators store normalized requests only. -/
theorem normalized_of_model_validate (h : arguments.model_validate unicode = some request) :
    request.Normalized unicode := by
  unfold model_validate at h
  obtain ⟨explanation, hexplanation, h⟩ := Option.bind_eq_some_iff.mp h
  obtain ⟨steps, hsteps, h⟩ := Option.bind_eq_some_iff.mp h
  split at h
  · cases h
  next hnine =>
  split at h
  · cases h
  next hdistinct =>
  split at h
  · cases h
  next hprogress =>
  obtain rfl := Option.some.inj h
  refine ⟨fun text htext => ?_, fun step hstep => ?_, Nat.not_lt.mp hnine, not_not.mp hdistinct,
    Nat.not_lt.mp hprogress⟩
  · obtain rfl : explanation = some text := htext
    cases hgiven : arguments.explanation with
    | none =>
      rw [hgiven] at hexplanation
      cases hexplanation
    | some given =>
      rw [hgiven, meaningful_explanation] at hexplanation
      obtain ⟨stored, hstored, heq⟩ := Option.map_eq_some_iff.mp hexplanation
      obtain rfl := Option.some.inj heq
      exact meaningful_text_idem hstored
  · exact normalized_texts (mapM_eq_some.mp hsteps) step hstep

/-- A normalized request passes the validators as it is. -/
theorem Normalized.model_validate (h : request.Normalized unicode) : request.model_validate unicode = some request := by
  have hexplanation : meaningful_explanation unicode request.explanation = some request.explanation := by
    cases hgiven : request.explanation with
    | none => rfl
    | some text => rw [meaningful_explanation, h.explanation text hgiven]; rfl
  have hsteps : request.steps.mapM (WorkPlanStep.model_validate unicode) = some request.steps :=
    mapM_eq_some.mpr (List.forall₂_same.mpr fun step hstep => model_validate_step_eq_some.mpr ⟨h.texts step hstep, rfl⟩)
  unfold SetWorkPlanRequest.model_validate
  rw [hexplanation, hsteps]
  refine (if_neg (Nat.not_lt.mpr h.at_most_nine)).trans ((if_neg (not_not.mpr h.distinct)).trans ?_)
  exact if_neg (Nat.not_lt.mpr h.one_in_progress)

end SetWorkPlanRequest

end OhMySubagents

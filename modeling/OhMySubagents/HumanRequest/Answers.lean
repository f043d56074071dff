import OhMySubagents.HumanRequest.Contracts
import OhMySubagents.System.HumanRequests

open Relational

namespace OhMySubagents

/-! # Responses -/

/-- What the runtime reads back of an item. -/
def request_item_row (item : Contracts.HumanRequestItem) : HumanRequestItem where
  id := item.id
  response_schema := item.response_schema.map fun schema => (Contracts.JsonValue.object schema).text
  options := item.options.map fun options => options.map Contracts.HumanRequestOption.id
  allow_other := item.allow_other
  allow_skip := item.allow_skip

def item_answer_row : Contracts.HumanRequestItemAnswer → HumanRequestItemAnswer
  | .value content => .value content.text
  | .option option_id => .option option_id
  | .other text => .other text
  | .skipped => .skipped

/-- That a response is of a kind that its item allows, and fits its options or its schema. -/
def Fits (validator : SchemaValidator) (item : HumanRequestItem) : HumanRequestItemAnswer → Prop
  | .skipped => item.allow_skip = true
  | .other _ => item.options.isSome = true ∧ item.allow_other = true
  | .option option_id => ∃ options, item.options = some options ∧ option_id ∈ options
  | .value value => item.options = none ∧ ∃ schema, item.response_schema = some schema ∧ validator schema value = .valid

/-- That the schema of an item cannot be executed on the value that it is answered with. -/
def Stumbles (validator : SchemaValidator) (item : HumanRequestItem) (response : HumanRequestItemAnswer) : Prop :=
  ∃ schema value, item.options = none ∧ item.response_schema = some schema ∧ response = .value value ∧
    validator schema value = .raised

theorem Fits.not_stumbles {validator : SchemaValidator} {item : HumanRequestItem} {response : HumanRequestItemAnswer}
    (h : Fits validator item response) : ¬Stumbles validator item response := by
  rintro ⟨schema, value, -, hschema, rfl, hraised⟩
  obtain ⟨-, other, hother, hvalid⟩ := h
  obtain rfl := Option.some.inj (hschema.symm.trans hother)
  rw [hvalid] at hraised
  cases hraised

/-- An error that the runtime raises on purpose. -/
def IsOperationError (error : RuntimeOperationError) : Prop := error.code ≠ .internal_error

section Response

variable {validator : SchemaValidator} {item : HumanRequestItem} {response : HumanRequestItemAnswer}

/-- How the check of responses ends: they all fit, the schema of one cannot be executed, or one is refused. -/
inductive Checked (fits stumbles : Prop) : Result Unit → Prop
  | accepted (h : fits) : Checked fits stumbles (.ok ())
  | escaped {error : RuntimeOperationError} (h : stumbles) (hnot : ¬fits) (herror : ¬IsOperationError error) :
      Checked fits stumbles (.error error)
  | refused {error : RuntimeOperationError} (h : ¬stumbles) (hnot : ¬fits) (herror : IsOperationError error) :
      Checked fits stumbles (.error error)

/-- A check that goes on with others once it accepts. -/
theorem Checked.bind {fits stumbles fits' stumbles' : Prop} {first : Result Unit} {rest : Unit → Result Unit}
    (h : Checked fits stumbles first) (hnot : fits → ¬stumbles) (h' : Checked fits' stumbles' (rest ())) :
    Checked (fits ∧ fits') (stumbles ∨ fits ∧ stumbles') (first >>= rest) := by
  cases h with
  | accepted hfit =>
    change Checked _ _ (rest ())
    generalize rest () = last at h'
    cases h' with
    | accepted hrest => exact .accepted ⟨hfit, hrest⟩
    | escaped hstumbles hrest herror => exact .escaped (.inr ⟨hfit, hstumbles⟩) (fun hall => hrest hall.2) herror
    | refused hstumbles hrest herror =>
      exact .refused (fun h => h.elim (hnot hfit) fun h => hstumbles h.2) (fun hall => hrest hall.2) herror
  | escaped hstumbles hfit herror => exact .escaped (.inl hstumbles) (fun hall => hfit hall.1) herror
  | refused hstumbles hfit herror =>
    exact .refused (fun h => h.elim hstumbles fun h => hfit h.1) (fun hall => hfit hall.1) herror

theorem checked_require {fits stumbles : Prop} {condition : Bool} {error : RuntimeOperationError}
    (hfits : condition = true ↔ fits) (hstumbles : ¬stumbles) (herror : IsOperationError error) :
    Checked fits stumbles (require condition error) := by
  unfold require
  split
  · next h => exact .accepted (hfits.mp h)
  · next h => exact .refused hstumbles (fun hfit => h (hfits.mpr hfit)) herror

theorem not_stumbles (h : ∀ value, response ≠ .value value) : ¬Stumbles validator item response := by
  rintro ⟨_, value, -, -, rfl, -⟩
  exact h value rfl

/-- Both errors of a request are raised on purpose. -/
theorem is_operation_error_shape (summary : String) : IsOperationError (invalid_request_shape_error summary) := nofun

theorem is_operation_error_state (summary : String) : IsOperationError (illegal_state_error summary) := nofun

private theorem value_fits_iff {schema value : String} (hoptions : item.options = none)
    (hschema : item.response_schema = some schema) :
    Fits validator item (.value value) ↔ validator schema value = .valid := by
  refine ⟨?_, fun h => ⟨hoptions, schema, hschema, h⟩⟩
  rintro ⟨-, other, hother, h⟩
  obtain rfl := Option.some.inj (hschema.symm.trans hother)
  exact h

private theorem value_stumbles_iff {schema value : String} (hoptions : item.options = none)
    (hschema : item.response_schema = some schema) :
    Stumbles validator item (.value value) ↔ validator schema value = .raised := by
  refine ⟨?_, fun h => ⟨schema, value, hoptions, hschema, rfl, h⟩⟩
  rintro ⟨other, _, -, hother, heq, h⟩
  obtain rfl := Option.some.inj (hschema.symm.trans hother)
  cases heq
  exact h

theorem validate_value_response_checked {value : String} (hoptions : item.options = none) :
    Checked (Fits validator item (.value value)) (Stumbles validator item (.value value))
      (validate_value_response validator item (.value value)) := by
  unfold validate_value_response
  cases hschema : item.response_schema with
  | none =>
    refine .refused ?_ ?_ (is_operation_error_state _)
    · rintro ⟨_, _, -, hsome, -⟩
      rw [hschema] at hsome
      cases hsome
    · rintro ⟨-, _, hsome, -⟩
      rw [hschema] at hsome
      cases hsome
  | some schema =>
    change Checked _ _ (validate_schema_response validator item schema value)
    rw [value_fits_iff hoptions hschema, value_stumbles_iff hoptions hschema, validate_schema_response]
    cases hverdict : validator schema value with
    | valid => exact .accepted rfl
    | invalid_schema => exact .refused nofun nofun (is_operation_error_state _)
    | mismatch => exact .refused nofun nofun (is_operation_error_shape _)
    | raised => exact .escaped rfl nofun fun h => h rfl

theorem validate_answered_item_response_checked : Checked (Fits validator item response)
    (Stumbles validator item response) (validate_answered_item_response validator item response) := by
  unfold validate_answered_item_response
  cases response with
  | skipped =>
    rw [if_pos rfl]
    exact checked_require Iff.rfl (not_stumbles nofun) (is_operation_error_shape _)
  | other text =>
    rw [if_neg nofun]
    cases hoptions : item.options with
    | none => exact .refused (not_stumbles nofun) (fun h => by cases hoptions ▸ h.1) (is_operation_error_shape _)
    | some options =>
      exact checked_require ⟨fun h => ⟨by rw [hoptions]; rfl, h⟩, fun h => h.2⟩ (not_stumbles nofun)
        (is_operation_error_shape _)
  | option option_id =>
    rw [if_neg nofun]
    cases hoptions : item.options with
    | none =>
      refine .refused (not_stumbles nofun) ?_ (is_operation_error_shape _)
      rintro ⟨options, hsome, -⟩
      rw [hoptions] at hsome
      cases hsome
    | some options =>
      refine checked_require ?_ (not_stumbles nofun) (is_operation_error_shape _)
      rw [List.contains_iff_mem]
      refine ⟨fun h => ⟨options, hoptions, h⟩, ?_⟩
      rintro ⟨other, hsome, h⟩
      obtain rfl := Option.some.inj (hoptions.symm.trans hsome)
      exact h
  | value value =>
    rw [if_neg nofun]
    cases hoptions : item.options with
    | some options =>
      refine .refused ?_ ?_ (is_operation_error_shape _)
      · rintro ⟨_, _, hnone, -⟩
        rw [hoptions] at hnone
        cases hnone
      · rintro ⟨hnone, -⟩
        rw [hoptions] at hnone
        cases hnone
    | none => exact validate_value_response_checked hoptions

end Response

section Responses

variable {validator : SchemaValidator} {source : HumanRequest} {items : List HumanRequestItem}
  {item_responses : List (String × HumanRequestItemAnswer)}

/-- The item that a response answers. -/
def answered_item (items : List HumanRequestItem) (response : String × HumanRequestItemAnswer) :
    Option HumanRequestItem := items.find? fun item => item.id == response.1

def ResponseFits (validator : SchemaValidator) (items : List HumanRequestItem)
    (response : String × HumanRequestItemAnswer) : Prop :=
  ∃ item, answered_item items response = some item ∧ Fits validator item response.2

/-- That some response cannot be checked, and all before it fit. -/
def ReachesStumble (validator : SchemaValidator) (items : List HumanRequestItem)
    (item_responses : List (String × HumanRequestItemAnswer)) : Prop :=
  ∃ before response after, item_responses = before ++ response :: after ∧
    (∀ earlier ∈ before, ResponseFits validator items earlier) ∧
    ∃ item, answered_item items response = some item ∧ Stumbles validator item response.2

theorem reaches_stumble_cons {response : String × HumanRequestItemAnswer} {item : HumanRequestItem}
    (hitem : answered_item items response = some item) : ReachesStumble validator items (response :: item_responses) ↔
      Stumbles validator item response.2 ∨
        Fits validator item response.2 ∧ ReachesStumble validator items item_responses := by
  constructor
  · rintro ⟨before, reached, after, hsplit, hbefore, hstumbles⟩
    cases before with
    | nil =>
      cases hsplit
      obtain ⟨other, hother, hstumbles⟩ := hstumbles
      obtain rfl := Option.some.inj (hitem.symm.trans hother)
      exact .inl hstumbles
    | cons first before =>
      cases hsplit
      obtain ⟨⟨other, hother, hfits⟩, hbefore⟩ := List.forall_mem_cons.mp hbefore
      obtain rfl := Option.some.inj (hitem.symm.trans hother)
      exact .inr ⟨hfits, before, reached, after, rfl, hbefore, hstumbles⟩
  · rintro (hstumbles | ⟨hfits, before, reached, after, rfl, hbefore, hstumbles⟩)
    · exact ⟨[], response, item_responses, rfl, List.forall_mem_nil _, item, hitem, hstumbles⟩
    · have hall := List.forall_mem_cons.mpr ⟨⟨item, hitem, hfits⟩, hbefore⟩
      exact ⟨response :: before, reached, after, rfl, hall, hstumbles⟩

private theorem forM_responses_cons {response : String × HumanRequestItemAnswer} {item : HumanRequestItem}
    (hfind : (items.find? fun item => item.id == response.1) = some item) :
    ((response :: item_responses).forM fun response => do
      let item ← require_some (items.find? fun item => item.id == response.1) (internal_error "KeyError")
      validate_answered_item_response validator item response.2) =
      (validate_answered_item_response validator item response.2 >>= fun _ => item_responses.forM fun response => do
        let item ← require_some (items.find? fun item => item.id == response.1) (internal_error "KeyError")
        validate_answered_item_response validator item response.2) := by
  rw [List.forM_eq_forM, List.forM_cons, hfind]
  rfl

/-- The loop over responses that all answer an item. -/
theorem check_responses (h : ∀ response ∈ item_responses, (answered_item items response).isSome = true) :
    Checked (∀ response ∈ item_responses, ResponseFits validator items response)
      (ReachesStumble validator items item_responses)
      (item_responses.forM fun response => do
        let item ← require_some (items.find? fun item => item.id == response.1) (internal_error "KeyError")
        validate_answered_item_response validator item response.2) := by
  induction item_responses with
  | nil => exact .accepted (List.forall_mem_nil _)
  | cons response item_responses ih =>
    obtain ⟨hfirst, hrest⟩ := List.forall_mem_cons.mp h
    obtain ⟨item, hitem⟩ := Option.isSome_iff_exists.mp hfirst
    have hfits : ResponseFits validator items response ↔ Fits validator item response.2 := by
      refine ⟨?_, fun hfits => ⟨item, hitem, hfits⟩⟩
      rintro ⟨other, hother, hfits⟩
      obtain rfl := Option.some.inj (hitem.symm.trans hother)
      exact hfits
    have hfind : (items.find? fun item => item.id == response.1) = some item := hitem
    rw [forM_responses_cons hfind, reaches_stumble_cons hitem, List.forall_mem_cons, hfits]
    exact validate_answered_item_response_checked.bind Fits.not_stumbles (ih hrest)

/-- The responses name exactly the items. -/
def NamesItems (items : List HumanRequestItem) (item_responses : List (String × HumanRequestItemAnswer)) : Prop :=
  ∀ item_id, item_id ∈ item_responses.map Prod.fst ↔ item_id ∈ items.map HumanRequestItem.id

theorem answers_every_item_iff : answers_every_item items item_responses = true ↔ NamesItems items item_responses := by
  unfold answers_every_item NamesItems
  simp only [Bool.and_eq_true, List.all_eq_true, List.any_eq_true, beq_iff_eq, List.mem_map]
  constructor
  · rintro ⟨hresponses, hitems⟩ item_id
    refine ⟨?_, ?_⟩
    · rintro ⟨response, hresponse, rfl⟩
      exact hresponses response hresponse
    · rintro ⟨item, hitem, rfl⟩
      exact hitems item hitem
  · exact fun h => ⟨fun response hresponse => (h _).mp ⟨response, hresponse, rfl⟩,
      fun item hitem => (h _).mpr ⟨item, hitem, rfl⟩⟩

theorem answered_item_of_names {response : String × HumanRequestItemAnswer} (h : NamesItems items item_responses)
    (hresponse : response ∈ item_responses) : (answered_item items response).isSome = true := by
  obtain ⟨item, hitem, hid⟩ := List.mem_map.mp ((h response.1).mp (List.mem_map_of_mem hresponse))
  exact List.find?_isSome.mpr ⟨item, hitem, beq_iff_eq.mpr hid⟩

/-- Responses that answer the items: each names an item of its own, and fits it. -/
structure Answers (validator : SchemaValidator) (items : List HumanRequestItem)
    (item_responses : List (String × HumanRequestItemAnswer)) : Prop where
  names : NamesItems items item_responses
  fits : ∀ response ∈ item_responses, ResponseFits validator items response

/-- Responses that the schema of an item cannot be executed on. -/
structure Escapes (validator : SchemaValidator) (items : List HumanRequestItem)
    (item_responses : List (String × HumanRequestItemAnswer)) : Prop where
  names : NamesItems items item_responses
  reaches : ReachesStumble validator items item_responses

theorem Answers.not_escapes (h : Answers validator items item_responses) : ¬Escapes validator items item_responses := by
  rintro ⟨-, before, response, after, rfl, -, item, hitem, hstumbles⟩
  obtain ⟨other, hother, hfits⟩ := h.fits response (by simp)
  obtain rfl := Option.some.inj (hitem.symm.trans hother)
  exact hfits.not_stumbles hstumbles

theorem validate_answered_item_responses_checked (validator : SchemaValidator) (source : HumanRequest)
    (item_responses : List (String × HumanRequestItemAnswer)) :
    Checked (Answers validator source.items item_responses) (Escapes validator source.items item_responses)
      (validate_answered_item_responses validator source item_responses) := by
  unfold validate_answered_item_responses
  by_cases hnames : NamesItems source.items item_responses
  · rw [answers_every_item_iff.mpr hnames]
    have hchecked := @check_responses validator source.items item_responses fun _ => answered_item_of_names hnames
    have hfits : Answers validator source.items item_responses ↔
        ∀ response ∈ item_responses, ResponseFits validator source.items response :=
      ⟨Answers.fits, fun h => ⟨hnames, h⟩⟩
    have hescapes : Escapes validator source.items item_responses ↔
        ReachesStumble validator source.items item_responses := ⟨Escapes.reaches, fun h => ⟨hnames, h⟩⟩
    rw [hfits, hescapes]
    exact hchecked
  · have hfalse : answers_every_item source.items item_responses = false :=
      Bool.eq_false_iff.mpr fun h => hnames (answers_every_item_iff.mp h)
    rw [hfalse]
    exact .refused (fun h => hnames h.names) (fun h => hnames h.names) (is_operation_error_shape _)

end Responses

/-! # Resolution -/

section Resolution

variable {db : TaskDb} {request_id : RequestId} {request : HumanRequest} {validator : SchemaValidator}
  {item_responses : List (String × HumanRequestItemAnswer)} {actor_ref : Option String}
  {resolved_by_surface : HumanRequestResolutionSurface} {resolved_at : Instant}

/-- The wait of an open request is its exact one, and its Attempt is parked on it. -/
theorem OpenRequestsWait.waits_for (h : OpenRequestsWait db) (hsound : Sound db)
    (hrow : db.human_requests.get? request_id = some request) (hopen : request.status = .open) :
    db.attempt_waits.select (fun _ other => other == request.wait request_id) ≠ [] ∧
      ∀ wait_id, db.attempt_waits.get? wait_id = some (request.wait request_id) →
        ∃ attempt, WaitsFor db wait_id (request.wait request_id) attempt := by
  obtain ⟨-, hactive⟩ := h request_id request hrow hopen
  have hpointers := hsound.lanes.pointers
  constructor
  · obtain ⟨wait_id, wait, hwait, hsource⟩ := h.wait_row hsound hrow hopen
    obtain ⟨x, hx, -, hattempt, hassignment, hdispatch⟩ := hsound.lanes.waiting.wait_source wait_id wait hactive
      (Table.view_eq_some.mpr ⟨wait, hwait, rfl⟩)
    rw [hsource] at hx
    have hlane : db.lanes.sources (.human_request request_id) = some request.lane :=
      Table.view_eq_some.mpr ⟨request, hrow, rfl⟩
    obtain rfl : x = request.lane := Option.some.inj (hx.symm.trans hlane)
    have hexact : wait = request.wait request_id := by
      obtain ⟨assignment_id, attempt_id, source_dispatch_id, source⟩ := wait
      cases hsource
      cases hattempt
      cases hassignment
      cases hdispatch
      rfl
    have hmem : (wait_id, wait) ∈ db.attempt_waits.select fun _ other => other == request.wait request_id :=
      Table.mem_select_iff.mpr ⟨hwait, beq_iff_eq.mpr hexact⟩
    exact List.ne_nil_of_mem hmem
  · intro wait_id hwait
    obtain ⟨lane, hlane, hcurrent, hassignment⟩ := hpointers.wait_row wait_id _ (Table.view_eq_some.mpr ⟨_, hwait, rfl⟩)
    obtain ⟨attempt, hattempt, rfl⟩ := Table.view_eq_some.mp hlane
    obtain ⟨hrunning, -⟩ := hpointers.wait_pointer _ _ wait_id hlane hcurrent
    refine ⟨attempt, hwait, hattempt, hassignment.symm, hrunning, ?_, hcurrent⟩
    cases hdispatch : attempt.current_dispatch_id with
    | none => rfl
    | some d =>
      obtain ⟨-, -, hnone, -⟩ := hpointers.dispatch_pointer _ _ d hlane hdispatch
      rw [hcurrent] at hnone
      cases hnone

/-- The wait of an open request can be consumed. -/
theorem OpenRequestsWait.consume (h : OpenRequestsWait db) (hsound : Sound db)
    (hrow : db.human_requests.get? request_id = some request) (hopen : request.status = .open)
    (human_requests : Table RequestId HumanRequest) :
    ∃ db', consume_exact_human_wait { db with human_requests } request_id request = some db' := by
  obtain ⟨hselect, hwaits⟩ := h.waits_for hsound hrow hopen
  obtain ⟨row, hhead⟩ := Option.ne_none_iff_exists'.mp (mt List.head?_eq_none_iff.mp hselect)
  obtain ⟨wait_id, wait⟩ := row
  obtain ⟨hget, hexact⟩ := Table.mem_select_iff.mp (List.mem_of_mem_head? (Option.mem_def.mpr hhead))
  obtain rfl := beq_iff_eq.mp hexact
  obtain ⟨attempt, hfor⟩ := hwaits wait_id hget
  have hdeleted : delete_attempt_wait { db with human_requests } (request.wait request_id) =
      some (wait_id, { db with human_requests, attempt_waits := db.attempt_waits.delete wait_id }) := by
    rw [delete_attempt_wait, hhead]
    rfl
  unfold consume_exact_human_wait
  rw [hdeleted]
  exact ⟨_, clear_current_attempt_wait_eq_some.mpr ⟨attempt, hfor.attempt_row, hfor.attempt_assignment, hfor.running,
    hfor.no_dispatch, hfor.waiting, rfl⟩⟩

/-- A resolution that expects no other deadline wins over an open request. -/
theorem OpenRequestsWait.persist (h : OpenRequestsWait db) (hsound : Sound db)
    (hrow : db.human_requests.get? request_id = some request) (hopen : request.status = .open)
    {expected_due_at : Option Instant} (hdue : ∀ due_at, expected_due_at = some due_at → request.due_at = some due_at)
    (status : HumanRequestStatus) (resolution : HumanRequestResolution) : ∃ db',
    persist_human_request_resolution db request_id request status resolution expected_due_at = .ok (true, db') := by
  obtain ⟨db', hconsumed⟩ := h.consume hsound hrow hopen
    (db.human_requests.set request_id (request.resolve status resolution))
  refine ⟨db', ?_⟩
  unfold persist_human_request_resolution
  split
  · next hnone =>
    refine absurd (Table.updateWhere_eq_some.mpr ⟨request, hrow, ?_, rfl⟩)
      (Option.eq_none_iff_forall_ne_some.mp hnone _)
    rw [hopen, beq_self_eq_true, Bool.true_and]
    cases expected_due_at with
    | none => rfl
    | some due_at => exact beq_iff_eq.mpr (hdue due_at rfl)
  · next human_requests hupdate =>
    obtain ⟨other, hother, -, rfl⟩ := Table.updateWhere_eq_some.mp hupdate
    obtain rfl := Option.some.inj (hrow.symm.trans hother)
    rw [hconsumed]
    rfl

theorem persist_human_request_resolution_terminal (hrow : db.human_requests.get? request_id = some request)
    (hclosed : request.status ≠ .open) (status : HumanRequestStatus) (resolution : HumanRequestResolution) :
    persist_human_request_resolution db request_id request status resolution none = .ok (false, db) := by
  unfold persist_human_request_resolution
  split
  · rfl
  · next human_requests hupdate =>
    obtain ⟨other, hother, hfilter, -⟩ := Table.updateWhere_eq_some.mp hupdate
    obtain rfl := Option.some.inj (hrow.symm.trans hother)
    rw [Bool.and_eq_true, beq_iff_eq] at hfilter
    exact absurd hfilter.1 hclosed

/-- Answers that the check accepts settle an open request. -/
theorem OpenRequestsWait.resolve (h : OpenRequestsWait db) (hsound : Sound db)
    (hrow : db.human_requests.get? request_id = some request) (hopen : request.status = .open)
    (hvalid : validate_answered_item_responses validator request item_responses = .ok ()) :
    ∃ db', resolve_human_request validator db request_id item_responses actor_ref resolved_by_surface resolved_at =
      .ok db' := by
  have hdue : ∀ due_at, (none : Option Instant) = some due_at → request.due_at = some due_at := nofun
  obtain ⟨db', hpersist⟩ := h.persist hsound hrow hopen hdue .resolved
    { item_responses := some item_responses
      summary := "Human answered the controller-owned request."
      resolved_at := resolved_at
      resolved_by_actor_ref := actor_ref
      resolved_by_surface := resolved_by_surface }
  refine ⟨db', ?_⟩
  unfold resolve_human_request
  simp only [bind_eq_ok_iff, require_some_eq_ok_iff, require_eq_ok_iff]
  exact ⟨request, hrow, (), hvalid, (true, db'), hpersist, (), rfl, rfl⟩

/-- The deadline of an open request settles it once it has passed. -/
theorem OpenRequestsWait.expire (h : OpenRequestsWait db) (hsound : Sound db)
    (hrow : db.human_requests.get? request_id = some request) (hopen : request.status = .open) {due_at now : Instant}
    (hdue : request.due_at = some due_at) (helapsed : due_at ≤ now) :
    ∃ db', expire_human_request db ⟨request_id, due_at⟩ now = .ok (true, db') := by
  obtain ⟨db', hpersist⟩ := h.persist hsound hrow hopen (fun _ => id) .timed_out (timeout_resolution now)
  refine ⟨db', ?_⟩
  unfold expire_human_request
  have hfilter : (db.human_requests.get? request_id).filter (fun source =>
      source.status == .open && source.due_at == some due_at && due_at ≤ now) = some request := by
    rw [hrow]
    exact Option.filter_some_pos (by simp [hopen, hdue, helapsed])
  rw [hfilter]
  exact hpersist

/-- A request that is terminal is not answered again. -/
theorem resolve_human_request_terminal (hrow : db.human_requests.get? request_id = some request)
    (hclosed : request.status ≠ .open)
    (hvalid : validate_answered_item_responses validator request item_responses = .ok ()) :
    resolve_human_request validator db request_id item_responses actor_ref resolved_by_surface resolved_at =
      .error (conflict_error s!"human request '{request_id}' is already terminal") := by
  unfold resolve_human_request
  rw [hrow]
  change (validate_answered_item_responses validator request item_responses >>= fun _ => _) = _
  rw [hvalid]
  change (persist_human_request_resolution db request_id request .resolved _ none >>= fun _ => _) = _
  rw [persist_human_request_resolution_terminal hrow hclosed]
  rfl

theorem resolve_human_request_refused {error : RuntimeOperationError}
    (hrow : db.human_requests.get? request_id = some request)
    (hinvalid : validate_answered_item_responses validator request item_responses = .error error) :
    resolve_human_request validator db request_id item_responses actor_ref resolved_by_surface resolved_at =
      .error error := by
  unfold resolve_human_request
  rw [hrow]
  change (validate_answered_item_responses validator request item_responses >>= fun _ => _) = _
  rw [hinvalid]
  rfl

/-- What settles an open request: each way to settle it commits, and frees its lane. -/
structure Settleable (db : TaskDb) (request_id : RequestId) (request : HumanRequest) : Prop where
  answered : ∀ validator item_responses actor_ref resolved_by_surface resolved_at,
    validate_answered_item_responses validator request item_responses = .ok () →
    ∃ db' resolution wait_id attempt, resolve_human_request validator db request_id item_responses actor_ref
        resolved_by_surface resolved_at = .ok db' ∧ resolution.item_responses = some item_responses ∧
      HumanRequestResolved db request_id .resolved resolution request wait_id attempt db'
  timed_out : ∀ due_at now, request.due_at = some due_at → due_at ≤ now →
    ∃ db' wait_id attempt, expire_human_request db ⟨request_id, due_at⟩ now = .ok (true, db') ∧
      HumanRequestResolved db request_id .timed_out (timeout_resolution now) request wait_id attempt db'

/-- In every reachable state an open request can be settled by any answers that fit and, once it is due, by its
    deadline: no other transaction can have taken its wait or its lane away. -/
theorem open_request_settleable {controller : Controller} (hreachable : controller.runtime.Reachable db)
    (hrow : db.human_requests.get? request_id = some request) (hopen : request.status = .open) :
    Settleable db request_id request where
  answered validator item_responses actor_ref resolved_by_surface resolved_at hvalid := by
    obtain ⟨db', hresolved⟩ := (Controller.open_requests_wait hreachable).resolve (Controller.sound hreachable) hrow
      hopen hvalid
    obtain ⟨other, wait_id, attempt, -, hsettled⟩ := resolve_human_request_success hresolved
    obtain rfl := Option.some.inj (hrow.symm.trans hsettled.row)
    exact ⟨db', _, wait_id, attempt, hresolved, rfl, hsettled⟩
  timed_out due_at now hdue helapsed := by
    obtain ⟨db', hexpired⟩ := (Controller.open_requests_wait hreachable).expire (Controller.sound hreachable) hrow
      hopen hdue helapsed
    obtain ⟨-, other, wait_id, attempt, -, hsettled⟩ := expire_human_request_success hexpired
    obtain rfl := Option.some.inj (hrow.symm.trans hsettled.row)
    exact ⟨db', wait_id, attempt, hexpired, hsettled⟩

theorem open_request_settleable_asked : ∃ db, plain_controller.runtime.Reachable db ∧
    Settleable db 1 asked_question := by
  obtain ⟨db, hreachable, hrow⟩ := reachable_of_replay question_asked
    (P := fun db => db.human_requests.get? 1 == some asked_question) (by decide +kernel)
  exact ⟨db, hreachable, open_request_settleable hreachable (beq_iff_eq.mp hrow) rfl⟩

/-- The calls and the signals that are made to settle one request. -/
def Transaction.Settles (request_id : RequestId) : Transaction → Prop
  | .resolve_human_request id _ _ _ _ => id = request_id
  | .expire_human_request signal _ => signal.request_id = request_id
  | _ => False

/-- The wait of a request is gone, and its Attempt points at none. -/
def ConsumesWait (db db' : TaskDb) (request_id : RequestId) (request : HumanRequest) : Prop :=
  ∃ wait_id attempt attempt', WaitsFor db wait_id (request.wait request_id) attempt ∧
    db'.attempt_waits.get? wait_id = none ∧ db'.attempts.get? request.attempt_id = some attempt' ∧
    attempt'.current_wait_id = none

/-- How one commit decides a request: it finds the request open and consumes its wait, and its outcome stays. -/
structure HumanRequestDecision (controller : Controller) (db db' : TaskDb) (request_id : RequestId)
    (request request' : HumanRequest) : Prop where
  was_open : request.status = .open
  won : HumanRequest.Won db db' request_id request request'
  consumes : ConsumesWait db db' request_id request
  kept : ∀ later, controller.runtime.Path db' later → ∃ request'', later.human_requests.get? request_id = some request'' ∧
    request''.status = request'.status ∧ request''.resolution = request'.resolution

/-- Each request of a Task is decided at most once. -/
structure RequestsDecidedOnce (controller : Controller) (db : TaskDb) : Prop where
  decided : ∀ request_id request (t : Transaction) db' request', db.human_requests.get? request_id = some request →
    t.commit controller db = some db' → db'.human_requests.get? request_id = some request' →
    request'.status ≠ request.status ∨ request'.resolution ≠ request.resolution →
    HumanRequestDecision controller db db' request_id request request'
  final : ∀ request_id request, db.human_requests.get? request_id = some request → request.status ≠ .open →
    ∀ later, controller.runtime.Path db later → ∃ request', later.human_requests.get? request_id = some request' ∧
      request'.status = request.status ∧ request'.resolution = request.resolution
  /-- A call or a signal that does not decide its request changes nothing. -/
  loses : ∀ request_id (t : Transaction) db', t.Settles request_id → t.commit controller db = some db' → db' = db ∨
    ∃ request request', db.human_requests.get? request_id = some request ∧
      db'.human_requests.get? request_id = some request' ∧
      HumanRequestDecision controller db db' request_id request request'

theorem Sound.no_wait_pointer {a : AttemptId} {attempt : Attempt} (hsound : Sound db)
    (hwaits : ∀ wait_id, db.attempt_waits.get? wait_id = none) (hrow : db.attempts.get? a = some attempt) :
    attempt.current_wait_id = none := by
  cases hcurrent : attempt.current_wait_id with
  | none => rfl
  | some wait_id =>
    obtain ⟨-, wait, hwait, -⟩ :=
      hsound.lanes.pointers.wait_pointer a _ wait_id (Table.view_eq_some.mpr ⟨attempt, hrow, rfl⟩) hcurrent
    obtain ⟨row, hget, -⟩ := Table.view_eq_some.mp hwait
    rw [hwaits] at hget
    cases hget

theorem HumanRequestResolved.consumes {db' : TaskDb} {status : HumanRequestStatus} {resolution : HumanRequestResolution}
    {wait_id : WaitId} {attempt : Attempt}
    (h : HumanRequestResolved db request_id status resolution request wait_id attempt db') :
    ConsumesWait db db' request_id request := by
  refine ⟨wait_id, attempt, { attempt with current_wait_id := none }, h.waits, ?_, ?_, rfl⟩
  · rw [h.result]
    exact (Table.get?_delete ..).trans (if_pos rfl)
  · rw [h.result]
    exact Table.get?_set_self ..

theorem HumanRequest.Won.consumes {controller : Controller} {db' : TaskDb} {t : Transaction} {request' : HumanRequest}
    (hreachable : controller.runtime.Reachable db) (hcommitted : Committed controller db t db')
    (hrow : db.human_requests.get? request_id = some request) (hopen : request.status = .open)
    (h : HumanRequest.Won db db' request_id request request') : ConsumesWait db db' request_id request := by
  have hsound := Controller.sound hreachable
  cases h with
  | answered resolved => exact resolved.consumes
  | timed_out resolved => exact resolved.consumes
  | cancelled _ _ no_wait =>
    obtain ⟨hselect, hwaits⟩ := (Controller.open_requests_wait hreachable).waits_for hsound hrow hopen
    obtain ⟨⟨wait_id, wait⟩, hmem⟩ := List.exists_mem_of_ne_nil _ hselect
    obtain ⟨hget, hexact⟩ := Table.mem_select_iff.mp hmem
    obtain rfl := beq_iff_eq.mp hexact
    obtain ⟨attempt, hfor⟩ := hwaits wait_id hget
    obtain ⟨lane, hlane, -⟩ := ((hcommitted.steps hsound).later hsound.lanes).attempts request.attempt_id attempt.lane
      (Table.view_eq_some.mpr ⟨attempt, hfor.attempt_row, rfl⟩)
    obtain ⟨attempt', hrow', -⟩ := Table.view_eq_some.mp hlane
    exact ⟨wait_id, attempt, attempt', hfor, no_wait wait_id, hrow',
      (hcommitted.sound hsound).no_wait_pointer no_wait hrow'⟩

/-- A commit that changes the outcome of a request decides it. -/
theorem Controller.request_decision {controller : Controller} {db' : TaskDb} {t : Transaction} {request' : HumanRequest}
    (hreachable : controller.runtime.Reachable db) (hcommit : t.commit controller db = some db')
    (hrow : db.human_requests.get? request_id = some request)
    (hrow' : db'.human_requests.get? request_id = some request')
    (hchanged : request'.status ≠ request.status ∨ request'.resolution ≠ request.resolution) :
    HumanRequestDecision controller db db' request_id request request' := by
  have hsound := Controller.sound hreachable
  have hcommitted := commit_success hsound hcommit
  have hmoved := hcommitted.human_requests.kept hrow hrow'
  have hopen : request.status = .open := by
    by_contra hclosed
    obtain ⟨hstatus, hresolution⟩ := hmoved.later.settled hclosed
    exact hchanged.elim (· hstatus) (· hresolution)
  have hsettled : request'.status ≠ .open := by
    intro hopen'
    obtain rfl := hmoved.of_open hopen'
    exact hchanged.elim (· rfl) (· rfl)
  have hwon := hmoved.won (hcommitted.sound hsound)
    (Controller.open_requests_wait hreachable request_id request hrow hopen).2 hopen hsettled
  refine ⟨hopen, hwon, hwon.consumes hreachable hcommitted hrow hopen, fun later hpath => ?_⟩
  obtain ⟨request'', hlater, hkept⟩ := Controller.human_requests_later hpath request_id request' hrow'
  exact ⟨request'', hlater, hkept.settled hsettled⟩

/-- A call or a signal either resolves its request or leaves every row alone. -/
theorem Transaction.Settles.resolves {controller : Controller} {db' : TaskDb} {t : Transaction}
    (ht : t.Settles request_id) (h : t.commit controller db = some db') : db' = db ∨
      ∃ status resolution request wait_id attempt, status ≠ .open ∧
        HumanRequestResolved db request_id status resolution request wait_id attempt db' := by
  cases t with
  | resolve_human_request id item_responses actor_ref resolved_by_surface resolved_at =>
    cases ht
    obtain ⟨request, wait_id, attempt, -, hresolved⟩ := resolve_human_request_success (toOption_eq_some_iff.mp h)
    exact .inr ⟨.resolved, _, request, wait_id, attempt, nofun, hresolved⟩
  | expire_human_request signal now =>
    cases ht
    obtain ⟨won, h⟩ := toOption_snd_eq_some h
    cases won with
    | true =>
      obtain ⟨-, request, wait_id, attempt, -, hresolved⟩ := expire_human_request_success h
      exact .inr ⟨.timed_out, _, request, wait_id, attempt, nofun, hresolved⟩
    | false => exact .inl (expire_human_request_lost h)
  | _ => cases ht

/-- Whatever the order of answers, deadlines, cancellations and all other transactions, each request is decided by at
    most one of them, which consumes its wait; every other call or signal for it changes nothing. -/
theorem requests_decided_once {controller : Controller} (hreachable : controller.runtime.Reachable db) :
    RequestsDecidedOnce controller db where
  decided _ _ _ _ _ hrow hcommit hrow' hchanged := Controller.request_decision hreachable hcommit hrow hrow' hchanged
  final request_id request hrow hclosed later hpath := by
    obtain ⟨request', hrow', hlater⟩ := Controller.human_requests_later hpath request_id request hrow
    exact ⟨request', hrow', hlater.settled hclosed⟩
  loses request_id t db' ht hcommit := by
    refine (ht.resolves hcommit).imp_right ?_
    rintro ⟨status, resolution, request, wait_id, attempt, hstatus, hresolved⟩
    have hrow' : db'.human_requests.get? request_id = some (request.resolve status resolution) := by
      rw [hresolved.result]
      exact Table.get?_set_self ..
    refine ⟨request, _, hresolved.row, hrow', Controller.request_decision hreachable hcommit hresolved.row hrow' (.inl ?_)⟩
    rw [hresolved.was_open]
    exact hstatus

/-- The question is not answered by a wrong option nor ended by an early deadline, then it is skipped. -/
theorem requests_decided_once_asked : ∃ db db' request', db.human_requests.get? 1 = some asked_question ∧
    (Transaction.resolve_human_request 1 [("choice", .option "c")] none .control_api 3).commit plain_controller db =
      none ∧
    (Transaction.expire_human_request ⟨1, 5⟩ 4).commit plain_controller db = some db ∧
    ((Move.skip 1).transaction db).commit plain_controller db = some db' ∧
    db'.human_requests.get? 1 = some request' ∧ request'.status = .resolved ∧
    RequestsDecidedOnce plain_controller db := by
  obtain ⟨db, hreachable, hmoves⟩ := reachable_of_replay question_asked
    (P := fun db => db.human_requests.get? 1 == some asked_question &&
      ((Transaction.resolve_human_request 1 [("choice", .option "c")] none .control_api 3).commit plain_controller
        db).isNone &&
      (((Move.skip 1).transaction db).commit plain_controller db).any fun db' =>
        (db'.human_requests.get? 1).any (·.status == .resolved)) (by decide +kernel)
  simp only [Bool.and_eq_true, beq_iff_eq, Option.isNone_iff_eq_none, Option.any_eq_true] at hmoves
  obtain ⟨⟨hrow, hwrong⟩, db', hskip, request', hrow', hresolved⟩ := hmoves
  have hearly : (Transaction.expire_human_request ⟨1, 5⟩ 4).commit plain_controller db = some db := by
    simp [Transaction.commit, expire_human_request, hrow, asked_question]
    exact .inl rfl
  exact ⟨db, db', request', hrow, hwrong, hearly, hskip, hrow', hresolved, requests_decided_once hreachable⟩

end Resolution

namespace Contracts

/-- The answers of a body, as the runtime reads them. -/
def HumanRequestResolveRequest.rows (body : HumanRequestResolveRequest) :
    List (String × OhMySubagents.HumanRequestItemAnswer) :=
  body.item_responses.map fun response => (response.1, item_answer_row response.2)

/-- `resolve_human_request` of one body: the stored items are validated again, and the answers are stored as JSON. -/
def resolve_human_request (library : SchemaLibrary) (db : TaskDb) (request_id : RequestId)
    (request_items_json : List HumanRequestItem) (body : HumanRequestResolveRequest) (actor_ref : Option String)
    (resolved_by_surface : HumanRequestResolutionSurface) (resolved_at : Instant) : Result (TaskDb × JsonObject) := do
  let _ ← require_some (db.human_requests.get? request_id)
    (conflict_error s!"human request '{request_id}' is not current")
  let _ ← require_some (request_items_json.mapM (HumanRequestItem.model_validate library))
    (internal_error "ValidationError")
  let resolved ← OhMySubagents.resolve_human_request library.validate db request_id body.rows actor_ref
    resolved_by_surface resolved_at
  return (resolved, serialize_human_request_item_answers body.item_responses)

/-- That a request was accepted by its opening operation, and is stored with its items. -/
structure OpenedHumanRequest (library : SchemaLibrary) (db : TaskDb) (request_id : RequestId)
    (request_items_json : List HumanRequestItem) (request : HumanRequest) : Prop where
  row : db.human_requests.get? request_id = some request
  items : request.items = request_items_json.map request_item_row
  accepted : ∃ arguments, validate_request_items library arguments = some request_items_json

/-- A resolution is decided by its body: it commits for an open request and answers that fit, else it is refused; and
    what it stores is read back. -/
structure Decides (library : SchemaLibrary) (request_id : RequestId) (request : HumanRequest)
    (body : HumanRequestResolveRequest) (result : Result (TaskDb × JsonObject)) : Prop where
  refuses : ∀ error, result = .error error → IsOperationError error
  commits : (∃ committed, result = .ok committed) ↔
    request.status = .open ∧ Answers library.validate request.items body.rows
  stores : ∀ db' item_responses_json, result = .ok (db', item_responses_json) →
    (∃ resolution, db'.human_requests.get? request_id = some (request.resolve .resolved resolution) ∧
      resolution.item_responses = some body.rows) ∧
    validated_item_responses item_responses_json = some body.item_responses

section Decisions

variable {controller : Controller} {library : SchemaLibrary} {db : TaskDb} {request_id : RequestId}
  {request_items_json : List HumanRequestItem} {request : HumanRequest} {body : HumanRequestResolveRequest}
  {actor_ref : Option String} {resolved_by_surface : HumanRequestResolutionSurface} {resolved_at : Instant}

/-- The stored items stand in no answer's way. -/
theorem OpenedHumanRequest.resolve_eq (h : OpenedHumanRequest library db request_id request_items_json request) :
    resolve_human_request library db request_id request_items_json body actor_ref resolved_by_surface resolved_at =
      (OhMySubagents.resolve_human_request library.validate db request_id body.rows actor_ref resolved_by_surface
        resolved_at).map fun resolved => (resolved, serialize_human_request_item_answers body.item_responses) := by
  obtain ⟨arguments, haccepted⟩ := h.accepted
  unfold resolve_human_request
  rw [h.row, stored_items_valid haccepted]
  change (OhMySubagents.resolve_human_request library.validate db request_id body.rows actor_ref resolved_by_surface
    resolved_at >>= fun resolved => pure (resolved, _)) = _
  cases OhMySubagents.resolve_human_request library.validate db request_id body.rows actor_ref resolved_by_surface
    resolved_at <;> rfl

theorem Decides.of_error {error : RuntimeOperationError} (herror : IsOperationError error)
    (h : ¬(request.status = .open ∧ Answers library.validate request.items body.rows)) :
    Decides library request_id request body (.error error) := by
  refine ⟨fun other heq => ?_, iff_of_false ?_ h, fun db' item_responses_json heq => ?_⟩
  · cases heq
    exact herror
  · rintro ⟨committed, heq⟩
    cases heq
  · cases heq

theorem Decides.of_ok {db' : TaskDb} (hopen : request.status = .open)
    (hanswers : Answers library.validate request.items body.rows)
    (hrow : ∃ resolution, db'.human_requests.get? request_id = some (request.resolve .resolved resolution) ∧
      resolution.item_responses = some body.rows) (hbody : body.Accepted) :
    Decides library request_id request body (.ok (db', serialize_human_request_item_answers body.item_responses)) := by
  refine ⟨fun error heq => ?_, iff_of_true ⟨_, rfl⟩ ⟨hopen, hanswers⟩, fun other item_responses_json heq => ?_⟩
  · cases heq
  · cases heq
    exact ⟨hrow, validated_item_responses_serialize hbody⟩

/-- A resolution that commits stores its answers with the request. -/
theorem resolved_row {db' : TaskDb} {validator : SchemaValidator}
    {item_responses : List (String × OhMySubagents.HumanRequestItemAnswer)}
    (hrow : db.human_requests.get? request_id = some request)
    (h : OhMySubagents.resolve_human_request validator db request_id item_responses actor_ref resolved_by_surface
      resolved_at = .ok db') : ∃ resolution, db'.human_requests.get? request_id =
        some (request.resolve .resolved resolution) ∧ resolution.item_responses = some item_responses := by
  obtain ⟨other, wait_id, attempt, -, hresolved⟩ := resolve_human_request_success h
  obtain rfl := Option.some.inj (hrow.symm.trans hresolved.row)
  have hget := Table.get?_set_self db.human_requests request_id
  rw [hresolved.result]
  exact ⟨_, hget _, rfl⟩

/-- An answer that is reached and cannot be checked raises what nothing catches. -/
theorem OpenedHumanRequest.raises (h : OpenedHumanRequest library db request_id request_items_json request)
    (hescapes : Escapes library.validate request.items body.rows) : ∃ error,
    resolve_human_request library db request_id request_items_json body actor_ref resolved_by_surface resolved_at =
      .error error ∧ ¬IsOperationError error := by
  have hchecked := validate_answered_item_responses_checked library.validate request body.rows
  rw [h.resolve_eq]
  generalize hvalid : validate_answered_item_responses library.validate request body.rows = verdict at hchecked
  cases hchecked with
  | accepted hanswers => exact absurd hescapes hanswers.not_escapes
  | @escaped error _ _ herror =>
    rw [resolve_human_request_refused h.row hvalid]
    exact ⟨error, rfl, herror⟩
  | refused hnot => exact absurd hescapes hnot

/-- In every reachable state and for every accepted body, the resolution of an opened request is decided by the body
    exactly when no answer is reached whose schema cannot be executed on it. -/
theorem resolve_human_request_decides (hreachable : controller.runtime.Reachable db)
    (hopened : OpenedHumanRequest library db request_id request_items_json request) (hbody : body.Accepted)
    (actor_ref : Option String) (resolved_by_surface : HumanRequestResolutionSurface) (resolved_at : Instant) :
    Decides library request_id request body (resolve_human_request library db request_id request_items_json body
      actor_ref resolved_by_surface resolved_at) ↔ ¬Escapes library.validate request.items body.rows := by
  by_cases hescapes : Escapes library.validate request.items body.rows
  · obtain ⟨error, hraised, herror⟩ := hopened.raises hescapes
    rw [hraised]
    exact iff_of_false (fun h => herror (h.refuses error rfl)) fun h => h hescapes
  have hwaits := Controller.open_requests_wait hreachable
  have hsound := Controller.sound hreachable
  refine iff_of_true ?_ hescapes
  rw [hopened.resolve_eq]
  have hchecked := validate_answered_item_responses_checked library.validate request body.rows
  generalize hvalid : validate_answered_item_responses library.validate request body.rows = verdict at hchecked
  cases hchecked with
  | accepted hanswers =>
    by_cases hopen : request.status = .open
    · obtain ⟨db', hresolved⟩ := hwaits.resolve hsound hopened.row hopen hvalid
      rw [hresolved]
      exact .of_ok hopen hanswers (resolved_row hopened.row hresolved) hbody
    · rw [resolve_human_request_terminal hopened.row hopen hvalid]
      exact .of_error nofun fun h => hopen h.1
  | escaped hreached => exact absurd hreached hescapes
  | refused _ hnot herror =>
    rw [resolve_human_request_refused hopened.row hvalid]
    exact .of_error herror fun h => hnot h.2

/-- A library that raises where it cannot resolve a reference. -/
def reference_library : SchemaLibrary where
  validate schema _ := if schema = "\x7b\"$ref\":\"#/missing\"\x7d" then .raised else .valid
  check_schema _ := true

/-- What is stored of some items, when they are accepted. -/
def accepted_items (arguments : List HumanRequestItem) : List HumanRequestItem :=
  (validate_request_items reference_library arguments).getD []

/-- The root of a Task asks the items. -/
def items_asked (arguments : List HumanRequestItem) : List Move :=
  [.accept_start 1 0 0,
    .operate 1 (.open_human_request ⟨(accepted_items arguments).map request_item_row, none⟩ (.ok ()) 1 1)]

def asked_request (arguments : List HumanRequestItem) : HumanRequest where
  assignment_id := 1
  attempt_id := 1
  source_dispatch_id := 1
  items := (accepted_items arguments).map request_item_row
  due_at := none
  status := .open
  resolution := none
  successor_dispatch_id := none

/-- Items that are accepted and asked are opened. -/
theorem opened_of_replay (arguments : List HumanRequestItem)
    (haccepted : (validate_request_items reference_library arguments).isSome = true)
    (hreplay : (replay_two_managers (items_asked arguments)).any
      (fun db => db.human_requests.get? 1 = some (asked_request arguments)) = true) :
    ∃ db, plain_controller.runtime.Reachable db ∧
      OpenedHumanRequest reference_library db 1 (accepted_items arguments) (asked_request arguments) := by
  obtain ⟨db, hreachable, hrow⟩ := reachable_of_replay (items_asked arguments) hreplay
  obtain ⟨items, hitems⟩ := Option.isSome_iff_exists.mp haccepted
  have hstored : accepted_items arguments = items := by rw [accepted_items, hitems, Option.getD_some]
  exact ⟨db, hreachable, of_decide_eq_true hrow, rfl, arguments, hstored ▸ hitems⟩

/-- A choice between two options, and a value of a schema. -/
def choice_and_size : List HumanRequestItem :=
  [{ id := "choice"
     prompt := "Which one?"
     response_schema := none
     options := some [⟨"a", "First", none⟩, ⟨"b", "Second", some "The other one."⟩]
     allow_other := true
     allow_skip := false },
   { id := "size"
     prompt := "How many?"
     response_schema := some [("type", .string "integer")]
     options := none
     allow_other := false
     allow_skip := true }]

def choice_and_size_answer : Option HumanRequestResolveRequest :=
  HumanRequestResolveRequest.model_validate
    [("choice", .object [("kind", .string "option"), ("option_id", .string "b")]),
      ("size", .object [("kind", .string "value"), ("value", .int 3)])]

/-- The answers of both items commit. -/
theorem resolve_human_request_decides_choice_and_size : ∃ db body committed, plain_controller.runtime.Reachable db ∧
    body.rows = [("choice", .option "b"), ("size", .value "3")] ∧
    resolve_human_request reference_library db 1 (accepted_items choice_and_size) body none .control_api 0 =
      .ok committed ∧
    (Decides reference_library 1 (asked_request choice_and_size) body
      (resolve_human_request reference_library db 1 (accepted_items choice_and_size) body none .control_api 0) ↔
        ¬Escapes reference_library.validate (asked_request choice_and_size).items body.rows) := by
  obtain ⟨db, hreachable, hopened⟩ := opened_of_replay choice_and_size (by decide +kernel)
    (by decide +kernel)
  have hanswer : choice_and_size_answer.map HumanRequestResolveRequest.rows =
      some [("choice", .option "b"), ("size", .value "3")] := by
    decide +kernel
  obtain ⟨body, hbody, hrows⟩ := Option.map_eq_some_iff.mp hanswer
  have hdecides := resolve_human_request_decides hreachable hopened (resolve_request_accepted hbody) none .control_api 0
  have hvalid : validate_answered_item_responses reference_library.validate (asked_request choice_and_size)
      [("choice", .option "b"), ("size", .value "3")] = .ok () := by
    decide +kernel
  have hchecked := validate_answered_item_responses_checked reference_library.validate (asked_request choice_and_size)
    body.rows
  rw [hrows, hvalid] at hchecked
  obtain ⟨hanswers⟩ := hchecked
  rw [← hrows] at hanswers
  obtain ⟨committed, hcommitted⟩ := (hdecides.mpr hanswers.not_escapes).commits.mpr ⟨rfl, hanswers⟩
  exact ⟨db, body, committed, hreachable, hrows, hcommitted, hdecides⟩

/-- An item whose schema refers to nothing. -/
def missing_reference : List HumanRequestItem :=
  [{ id := "choice"
     prompt := "Which one?"
     response_schema := some [("$ref", .string "#/missing")]
     options := none
     allow_other := false
     allow_skip := false }]

/-- An answer with a value, as it is submitted. -/
def null_answer : Option HumanRequestResolveRequest :=
  HumanRequestResolveRequest.model_validate [("choice", .object [("kind", .string "value"), ("value", .null)])]

/-- The answer of the only item reaches a schema that cannot be executed. -/
theorem missing_reference_escapes :
    Escapes reference_library.validate (asked_request missing_reference).items [("choice", .value "null")] := by
  have hitems : (asked_request missing_reference).items =
      [⟨"choice", some "\x7b\"$ref\":\"#/missing\"\x7d", none, false, false⟩] := by decide +kernel
  rw [hitems]
  refine ⟨fun item_id => Iff.rfl, [], _, [], rfl, List.forall_mem_nil _, _, rfl, ?_⟩
  exact ⟨_, _, rfl, rfl, rfl, by decide +kernel⟩

/-- The opening accepts a schema that no answer can be validated against. -/
theorem resolve_human_request_escapes : ¬∀ (controller : Controller) (library : SchemaLibrary) (db : TaskDb)
    (request_id : RequestId) (request_items_json : List HumanRequestItem) (request : HumanRequest)
    (body : HumanRequestResolveRequest), controller.runtime.Reachable db →
    OpenedHumanRequest library db request_id request_items_json request → body.Accepted →
    Decides library request_id request body
      (resolve_human_request library db request_id request_items_json body none .control_api 0) := by
  intro hclaim
  obtain ⟨db, hreachable, hopened⟩ := opened_of_replay missing_reference (by decide +kernel)
    (by decide +kernel)
  have hanswer : null_answer.map HumanRequestResolveRequest.rows = some [("choice", .value "null")] := by
    decide +kernel
  obtain ⟨body, hbody, hrows⟩ := Option.map_eq_some_iff.mp hanswer
  have hdecides := hclaim _ _ db 1 _ _ body hreachable hopened (resolve_request_accepted hbody)
  obtain ⟨error, hraised, herror⟩ := hopened.raises (hrows ▸ missing_reference_escapes)
  exact herror (hdecides.refuses error hraised)

end Decisions

end Contracts

end OhMySubagents

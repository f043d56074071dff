import OhMySubagents.Cursors.Settlement

open Json

namespace OhMySubagents.Cursors

section Caught

variable {α β : Type} {interpreter : Interpreter} {payload value : Loaded} {pairs : List (LoadedKey × Loaded)}
  {key : String} {caught : List Raised}

theorem raises_subscripted : Raises [.key_error, .type_error, .value_error] (subscripted payload) := by
  intro raised h
  unfold subscripted at h
  split at h
  · cases h
  · cases h
    decide

theorem raises_item : Raises [.key_error, .type_error, .value_error] (item pairs key) := by
  intro raised h
  unfold item at h
  split at h
  · cases h
  · cases h
    decide

theorem raises_read_datetime : Raises [.key_error, .type_error, .value_error] (read_datetime interpreter value) := by
  intro raised h
  unfold read_datetime at h
  split at h
  · split at h
    · cases h
    · cases h
      decide
  · cases h
    decide

end Caught

section Written

variable {members : List (String × JsonData)}

theorem get_loaded_pairs (members : List (String × JsonData)) (key : String) : get (loaded_pairs members) key =
    ((members.reverse.find? fun member => member.1 == key).map fun member => loaded_flat member.2).getD .null := by
  rw [get, lookup_loaded_pairs]

theorem item_loaded_pairs {key : String} {value : Loaded}
    (h : ((members.reverse.find? fun member => member.1 == key).map fun member => loaded_flat member.2) = some value) :
    item (loaded_pairs members) key = .ok value := by
  rw [item, lookup_loaded_pairs, h]

theorem read_datetime_isoformat (interpreter : Interpreter) (value : Timestamp) :
    read_datetime interpreter (.string (points_of (String.ofList value.isoformat))) = .ok value := by
  rw [read_datetime, points_of, String.toList_ofList, interpreter.fromisoformat_isoformat]

theorem is_flat_digit {value : Int} (h : value.natAbs < 10) : IsFlat (.int value) :=
  Nat.lt_of_lt_of_le h (Nat.le_self_pow (by decide) 10)

theorem writable_int_eq_some {value written : Int} (h : writable_int value = some written) :
    written = value ∧ IsFlat (.int value) := by
  unfold writable_int at h
  split at h
  · next hshort => exact ⟨(Option.some.inj h).symm, hshort⟩
  · cases h

end Written

section WorkflowCatalog

variable {interpreter : Interpreter} {cursor : CodePoints} {workflow_id normalized_query : String} {revision_no : Int}

private theorem settled_catalog {β : Type} {pre : String} {refusal : RuntimeOperationError}
    {post : List (LoadedKey × Loaded) → Except Raised β} {documented : β → Prop}
    (hpost : ∀ pairs, Settled documented [workflow_cursor_error, refusal] (post pairs)) :
    Settled documented [workflow_cursor_error, refusal] (decode_catalog_cursor interpreter cursor pre >>= post) ↔
      Shallow interpreter pre cursor := by
  have hfirst : workflow_cursor_error ∈ [workflow_cursor_error, refusal] := List.mem_cons_self
  unfold decode_catalog_cursor
  rw [bind_assoc, settled_open_cursor (by decide) (by decide) (fun payload => .ok payload) hfirst]
  refine and_iff_left_of_imp fun _ entry _ => ?_
  split
  · exact hpost _
  · exact hfirst

theorem workflow_search_settles : (workflow_search interpreter).Settles normalized_query cursor ↔
    Shallow interpreter WORKFLOW_SEARCH_CURSOR_PREFIX cursor := by
  refine settled_catalog fun pairs => settled_map.mpr ?_
  unfold read_workflow_search
  split
  · split
    · next workflow_id hid => exact ⟨workflow_id, rfl, nonempty_text_eq_some hid⟩
    · exact settled_refusal (by decide)
  · exact settled_refusal (by decide)

theorem workflow_revisions_settles : (workflow_revisions interpreter).Settles workflow_id cursor ↔
    Shallow interpreter WORKFLOW_REVISION_CURSOR_PREFIX cursor := by
  refine settled_catalog fun pairs => settled_map.mpr ?_
  unfold read_workflow_revision
  split
  · split
    · next revision_no _ =>
      split
      · exact settled_refusal (by decide)
      · next hlow => exact ⟨revision_no, rfl, Int.not_lt.mp hlow⟩
    · exact settled_refusal (by decide)
  · exact settled_refusal (by decide)

private theorem decode_catalog_encode {pre : String} {members : List (String × JsonData)}
    (h : encode_cursor pre members = .ok cursor) (hne : members ≠ []) :
    decode_catalog_cursor interpreter cursor pre = .ok (loaded_pairs members) := by
  rw [decode_catalog_cursor, open_cursor_encode h hne rfl]
  rfl

theorem decode_workflow_search_encode (h : encode_workflow_search_cursor workflow_id normalized_query = .ok cursor)
    (other : String) : decode_workflow_search_cursor interpreter (some cursor) other =
      if normalized_query = other ∧ points_of workflow_id ≠ [] then .ok (some (points_of workflow_id))
      else .error (.operation workflow_search_cursor_error) := by
  have hversion : get (loaded_pairs (workflow_search_payload workflow_id normalized_query)) "version" = .int 1 :=
    get_loaded_pairs _ _
  have hq : get (loaded_pairs (workflow_search_payload workflow_id normalized_query)) "q" =
      .string (points_of normalized_query) := get_loaded_pairs _ _
  have hid : get (loaded_pairs (workflow_search_payload workflow_id normalized_query)) "workflow_id" =
      .string (points_of workflow_id) := get_loaded_pairs _ _
  rw [decode_workflow_search_cursor, decode_catalog_encode h (List.cons_ne_nil _ _)]
  simp only [bind, Except.bind]
  rw [read_workflow_search, hversion, hq, hid, is_text_points, nonempty_text]
  by_cases hsame : normalized_query = other <;> by_cases hempty : points_of workflow_id = [] <;>
    simp [hsame, hempty, is_version]

theorem decode_workflow_revision_encode (h : encode_workflow_revision_cursor revision_no workflow_id = .ok cursor)
    (other : String) : decode_workflow_revision_cursor interpreter (some cursor) other =
      if workflow_id = other ∧ 1 ≤ revision_no then .ok (some revision_no)
      else .error (.operation workflow_revision_cursor_error) := by
  have hversion : get (loaded_pairs (workflow_revision_payload revision_no workflow_id)) "version" = .int 1 :=
    get_loaded_pairs _ _
  have hid : get (loaded_pairs (workflow_revision_payload revision_no workflow_id)) "workflow_id" =
      .string (points_of workflow_id) := get_loaded_pairs _ _
  have hnumber : get (loaded_pairs (workflow_revision_payload revision_no workflow_id)) "revision_no" =
      .int revision_no := get_loaded_pairs _ _
  rw [decode_workflow_revision_cursor, decode_catalog_encode h (List.cons_ne_nil _ _)]
  simp only [bind, Except.bind]
  rw [read_workflow_revision, hversion, hid, hnumber, is_text_points]
  by_cases hsame : workflow_id = other <;> by_cases hlow : revision_no < 1 <;>
    simp [hsame, hlow, is_version, as_int]

theorem workflow_search_faithful (interpreter : Interpreter) : (workflow_search interpreter).Faithful := by
  refine ⟨fun normalized_query workflow_id _ _ => encode_cursor_ok _ ?_, ?_, ?_⟩
  · simp only [workflow_search_payload, List.forall_mem_cons]
    exact ⟨trivial, is_flat_digit (by decide), trivial, nofun⟩
  · rintro normalized_query workflow_id decoded cursor ⟨⟩ ⟨_, ⟨⟩, hid⟩ hencode
    exact (decode_workflow_search_encode hencode _).trans (if_pos ⟨rfl, hid⟩)
  · intro normalized_query other workflow_id cursor hencode hother
    refine ⟨_, List.mem_cons_of_mem _ List.mem_cons_self, (decode_workflow_search_encode hencode other).trans ?_⟩
    exact if_neg fun h => hother h.1.symm

theorem workflow_revisions_faithful (interpreter : Interpreter) : (workflow_revisions interpreter).Faithful := by
  refine ⟨?_, ?_, ?_⟩
  · intro workflow_id revision_no decoded hheld
    change (writable_int revision_no).map some = some decoded at hheld
    obtain ⟨written, hwritten, -⟩ := Option.map_eq_some_iff.mp hheld
    refine encode_cursor_ok _ ?_
    simp only [workflow_revision_payload, List.forall_mem_cons]
    exact ⟨(writable_int_eq_some hwritten).2, is_flat_digit (by decide), trivial, nofun⟩
  · rintro workflow_id revision_no decoded cursor hheld ⟨_, rfl, hlow⟩ hencode
    change (writable_int revision_no).map some = _ at hheld
    obtain ⟨written, hwritten, hdecoded⟩ := Option.map_eq_some_iff.mp hheld
    obtain rfl := Option.some.inj hdecoded
    obtain ⟨rfl, -⟩ := writable_int_eq_some hwritten
    exact (decode_workflow_revision_encode hencode _).trans (if_pos ⟨rfl, hlow⟩)
  · intro workflow_id other revision_no cursor hencode hother
    refine ⟨_, List.mem_cons_of_mem _ List.mem_cons_self, (decode_workflow_revision_encode hencode other).trans ?_⟩
    exact if_neg fun h => hother h.1.symm

end WorkflowCatalog

section TaskSearch

variable {interpreter : Interpreter} {cursor : CodePoints} {created_at : Timestamp}
  {task_id normalized_q status : String}

theorem task_search_settles {binding : String × String} : (task_search interpreter).Settles binding cursor ↔
    Shallow interpreter TASK_CURSOR_PREFIX cursor := by
  have hread : ∀ payload, Raises [.key_error, .type_error, .value_error] (read_task_entry interpreter payload) :=
    fun payload => raises_subscripted.bind fun pairs => raises_item.bind fun value => raises_read_datetime.bind fun _ =>
      raises_item.bind fun _ => .ok _
  refine (settled_open_cursor (by decide) (by decide) hread List.mem_cons_self).trans
    (and_iff_left_of_imp fun _ entry _ => settled_map.mpr ?_)
  unfold check_task_entry
  split
  · split
    · next task_id hid => exact ⟨_, task_id, rfl, nonempty_text_eq_some hid⟩
    · exact settled_refusal List.mem_cons_self
  · exact settled_refusal List.mem_cons_self

theorem decode_task_encode (h : encode_task_cursor created_at task_id normalized_q status = .ok cursor)
    (other_q other_status : String) : decode_task_cursor interpreter (some cursor) other_q other_status =
      if (normalized_q = other_q ∧ status = other_status) ∧ points_of task_id ≠ [] then
        .ok (some (created_at, points_of task_id))
      else .error (.operation task_cursor_error) := by
  have hcreated : item (loaded_pairs (task_payload created_at task_id normalized_q status)) "created_at" =
      .ok (.string (points_of (String.ofList created_at.isoformat))) := item_loaded_pairs rfl
  have hid : item (loaded_pairs (task_payload created_at task_id normalized_q status)) "task_id" =
      .ok (.string (points_of task_id)) := item_loaded_pairs rfl
  have hversion : get (loaded_pairs (task_payload created_at task_id normalized_q status)) "version" = .int 2 :=
    get_loaded_pairs _ _
  have hq : get (loaded_pairs (task_payload created_at task_id normalized_q status)) "q" =
      .string (points_of normalized_q) := get_loaded_pairs _ _
  have hstatus : get (loaded_pairs (task_payload created_at task_id normalized_q status)) "status" =
      .string (points_of status) := get_loaded_pairs _ _
  have hread : read_task_entry interpreter
      (.object (loaded_pairs (task_payload created_at task_id normalized_q status))) =
      .ok (loaded_pairs (task_payload created_at task_id normalized_q status), created_at,
        .string (points_of task_id)) := by
    simp only [read_task_entry, subscripted, bind, Except.bind, hcreated, read_datetime_isoformat, hid]
    rfl
  rw [decode_task_cursor, open_cursor_encode h (List.cons_ne_nil _ _) hread]
  simp only [bind, Except.bind]
  rw [check_task_entry, hversion, hq, hstatus, is_text_points, is_text_points, nonempty_text]
  by_cases hsame : normalized_q = other_q <;> by_cases hsame' : status = other_status <;>
    by_cases hempty : points_of task_id = [] <;> simp [hsame, hsame', hempty, is_version]

theorem task_search_faithful (interpreter : Interpreter) : (task_search interpreter).Faithful := by
  refine ⟨fun binding position _ _ => encode_cursor_ok _ ?_, ?_, ?_⟩
  · simp only [task_payload, List.forall_mem_cons]
    exact ⟨trivial, trivial, trivial, trivial, is_flat_digit (by decide), nofun⟩
  · rintro binding position decoded cursor ⟨⟩ ⟨_, _, ⟨⟩, hid⟩ hencode
    exact (decode_task_encode hencode _ _).trans (if_pos ⟨⟨rfl, rfl⟩, hid⟩)
  · intro binding other position cursor hencode hother
    refine ⟨_, List.mem_cons_self, (decode_task_encode hencode _ _).trans (if_neg fun h => ?_)⟩
    exact hother (Prod.ext h.1.1.symm h.1.2.symm)

end TaskSearch

section CommandRuns

variable {interpreter : Interpreter} {cursor : CodePoints} {task_id run_id : String} {offset : Int}
  {sanitizer_state : SanitizerState}

theorem command_history_settles : (command_history interpreter).Settles task_id cursor ↔
    Shallow interpreter PRODUCT_LIST_CURSOR_PREFIX cursor := by
  have hread : ∀ payload, Raises [.key_error, .type_error, .value_error] (read_product_list_entry payload) :=
    fun payload => raises_subscripted.bind fun pairs => raises_item.bind fun _ => .ok _
  refine (settled_open_cursor (by decide) (by decide) hread List.mem_cons_self).trans
    (and_iff_left_of_imp fun _ entry _ => settled_map.mpr ?_)
  unfold check_product_list_entry
  split
  · split
    · next run_id hid => exact ⟨run_id, rfl, nonempty_text_eq_some hid⟩
    · exact settled_refusal List.mem_cons_self
  · exact settled_refusal List.mem_cons_self

theorem command_output_settles {binding : Unit} : (command_output interpreter).Settles binding cursor ↔
    Shallow interpreter OUTPUT_CURSOR_PREFIX cursor := by
  have hread : ∀ payload, Raises [.key_error, .type_error, .value_error] (read_output_entry payload) :=
    fun payload => raises_subscripted.bind fun pairs => raises_item.bind fun _ => raises_item.bind fun _ => .ok _
  refine (settled_open_cursor (by decide) (by decide) hread List.mem_cons_self).trans
    (and_iff_left_of_imp fun _ entry _ => ?_)
  unfold check_output_entry
  split
  · split
    · split
      · exact settled_refusal List.mem_cons_self
      · next hlow => exact Int.not_lt.mp hlow
    · exact settled_refusal List.mem_cons_self
  · exact settled_refusal List.mem_cons_self

theorem decode_product_list_encode (h : encode_product_list_cursor run_id task_id = .ok cursor) (other : String) :
    decode_product_list_cursor interpreter (some cursor) other =
      if task_id = other ∧ points_of run_id ≠ [] then .ok (some (points_of run_id))
      else .error (.operation invalid_command_history_request) := by
  have hid : item (loaded_pairs (product_list_payload run_id task_id)) "run_id" = .ok (.string (points_of run_id)) :=
    item_loaded_pairs rfl
  have hversion : get (loaded_pairs (product_list_payload run_id task_id)) "version" = .int 1 := get_loaded_pairs _ _
  have htask : get (loaded_pairs (product_list_payload run_id task_id)) "task_id" = .string (points_of task_id) :=
    get_loaded_pairs _ _
  have hread : read_product_list_entry (.object (loaded_pairs (product_list_payload run_id task_id))) =
      .ok (loaded_pairs (product_list_payload run_id task_id), .string (points_of run_id)) := by
    simp only [read_product_list_entry, subscripted, bind, Except.bind, hid]
    rfl
  rw [decode_product_list_cursor, open_cursor_encode h (List.cons_ne_nil _ _) hread]
  simp only [bind, Except.bind]
  rw [check_product_list_entry, hversion, htask, is_text_points, nonempty_text]
  by_cases hsame : task_id = other <;> by_cases hempty : points_of run_id = [] <;> simp [hsame, hempty, is_version]

private theorem find_allowed_state (state : SanitizerState) :
    (SanitizerState.allowed_states.find? fun known => decide (state.text = known.text)) = some state := by
  cases state <;> rfl

theorem decode_output_encode (h : encode_output_cursor offset sanitizer_state = .ok cursor) :
    decode_output_cursor interpreter (some cursor) =
      if 0 ≤ offset then .ok (offset, sanitizer_state) else .error (.operation output_cursor_error) := by
  have hoffset : item (loaded_pairs (output_payload offset sanitizer_state)) "offset" = .ok (.int offset) :=
    item_loaded_pairs rfl
  have hstate : item (loaded_pairs (output_payload offset sanitizer_state)) "sanitizer_state" =
      .ok (.string (points_of sanitizer_state.text)) := item_loaded_pairs rfl
  have hversion : get (loaded_pairs (output_payload offset sanitizer_state)) "version" = .int 2 := get_loaded_pairs _ _
  have hread : read_output_entry (.object (loaded_pairs (output_payload offset sanitizer_state))) =
      .ok (loaded_pairs (output_payload offset sanitizer_state), .int offset,
        .string (points_of sanitizer_state.text)) := by
    simp only [read_output_entry, subscripted, bind, Except.bind, hoffset, hstate]
    rfl
  rw [decode_output_cursor, open_cursor_encode h (List.cons_ne_nil _ _) hread]
  simp only [bind, Except.bind]
  rw [check_output_entry, hversion]
  simp only [is_text_points, find_allowed_state, as_int]
  by_cases hlow : offset < 0 <;> simp [hlow, is_version]

theorem command_history_faithful (interpreter : Interpreter) : (command_history interpreter).Faithful := by
  refine ⟨fun task_id run_id _ _ => encode_cursor_ok _ ?_, ?_, ?_⟩
  · simp only [product_list_payload, List.forall_mem_cons]
    exact ⟨trivial, trivial, is_flat_digit (by decide), nofun⟩
  · rintro task_id run_id decoded cursor ⟨⟩ ⟨_, ⟨⟩, hid⟩ hencode
    exact (decode_product_list_encode hencode _).trans (if_pos ⟨rfl, hid⟩)
  · intro task_id other run_id cursor hencode hother
    refine ⟨_, List.mem_cons_self, (decode_product_list_encode hencode other).trans ?_⟩
    exact if_neg fun h => hother h.1.symm

theorem command_output_faithful (interpreter : Interpreter) : (command_output interpreter).Faithful := by
  refine ⟨?_, ?_, fun binding other _ _ _ hother => absurd rfl hother⟩
  · intro binding position decoded hheld
    change (writable_int position.1).map (fun offset => (offset, position.2)) = some decoded at hheld
    obtain ⟨written, hwritten, -⟩ := Option.map_eq_some_iff.mp hheld
    refine encode_cursor_ok _ ?_
    simp only [output_payload, List.forall_mem_cons]
    exact ⟨(writable_int_eq_some hwritten).2, trivial, is_flat_digit (by decide), nofun⟩
  · rintro binding position decoded cursor hheld hlow hencode
    change (writable_int position.1).map (fun offset => (offset, position.2)) = some decoded at hheld
    obtain ⟨written, hwritten, rfl⟩ := Option.map_eq_some_iff.mp hheld
    obtain ⟨rfl, -⟩ := writable_int_eq_some hwritten
    exact (decode_output_encode hencode).trans (if_pos hlow)

end CommandRuns

section Trace

variable {interpreter : Interpreter} {cursor : CodePoints} {query : TraceQuery} {entry : TraceEntry}
  {position : TracePosition String}

/-- What the check of an entry takes for granted where the entry is bound to the query: that its kind is neither a list
    nor a dictionary, and that the time of a whole position is in range in UTC. -/
structure TraceEntry.Sound (entry : TraceEntry) (query : TraceQuery) : Prop where
  hashable : entry.is_bound query → (∀ items, entry.kind ≠ .array items) ∧ ∀ pairs, entry.kind ≠ .object pairs
  in_range : entry.is_bound query → ∀ kind : TraceKind, entry.kind = .string (points_of kind.text) →
    nonempty_text entry.entry_id ≠ none → entry.occurred_at.as_utc ≠ none

/-- That a trace cursor holds no entry that its check stumbles over. -/
def TraceSound (interpreter : Interpreter) (query : TraceQuery) (cursor : CodePoints) : Prop :=
  points_of TRACE_CURSOR_PREFIX <+: cursor → ∀ payload entry,
    read_payload interpreter TRACE_CURSOR_PREFIX cursor = .ok payload →
      read_trace_entry interpreter payload = .ok entry → entry.Sound query

private theorem find_kind (value : Loaded) (kind : TraceKind) :
    ([TraceKind.dispatch, .checkpoint, .boundary].find? fun known => is_text value known.text) = some kind ↔
      value = .string (points_of kind.text) := by
  constructor
  · intro h
    have hfound := List.find?_some h
    cases value with
    | string points => exact congrArg Loaded.string (beq_iff_eq.mp hfound)
    | _ => cases hfound
  · rintro rfl
    simp only [is_text_points]
    cases kind <;> rfl

/-- A kind with a hash is looked for in the set. -/
theorem TraceEntry.read_kind_eq_ok (harray : ∀ items, entry.kind ≠ .array items)
    (hobject : ∀ pairs, entry.kind ≠ .object pairs) : entry.read_kind =
      .ok ([TraceKind.dispatch, .checkpoint, .boundary].find? fun known => is_text entry.kind known.text) := by
  unfold TraceEntry.read_kind
  split
  · next items heq => exact absurd heq (harray items)
  · next pairs heq => exact absurd heq (hobject pairs)
  · rfl

theorem TraceEntry.check_settled : Settled (fun position : TracePosition CodePoints =>
    (trace interpreter).documented (some position)) [trace_cursor_error] (entry.check query) ↔ entry.Sound query := by
  have hrefusal : ∀ {α : Type} {documented : α → Prop}, Settled documented [trace_cursor_error]
      (.error (.operation trace_cursor_error)) := List.mem_cons_self
  unfold TraceEntry.check
  by_cases hbound : entry.is_bound query = true
  · rw [if_pos hbound]
    by_cases hhash : (∀ items, entry.kind ≠ .array items) ∧ ∀ pairs, entry.kind ≠ .object pairs
    · rw [read_kind_eq_ok hhash.1 hhash.2]
      simp only [bind, Except.bind]
      split
      · next kind entry_id hkind hid =>
        rw [find_kind] at hkind
        split
        · next occurred_at hutc =>
          refine ⟨fun _ => ⟨fun _ => hhash, fun _ _ _ _ h => ?_⟩, fun _ => ?_⟩
          · rw [hutc] at h
            cases h
          · exact ⟨_, rfl, Timestamp.as_utc_tzinfo hutc, nonempty_text_eq_some hid⟩
        · next hutc =>
          refine ⟨False.elim, fun h => h.in_range hbound kind hkind ?_ hutc⟩
          rw [hid]
          nofun
      · next hother =>
        refine ⟨fun _ => ⟨fun _ => hhash, fun _ kind hkind hid => ?_⟩, fun _ => hrefusal⟩
        obtain ⟨entry_id, hid⟩ := Option.ne_none_iff_exists'.mp hid
        exact absurd hid (hother kind entry_id ((find_kind _ _).mpr hkind))
    · refine ⟨fun h => ?_, fun h => absurd (h.hashable hbound) hhash⟩
      have hraised : entry.read_kind = .error .type_error := by
        unfold TraceEntry.read_kind
        split
        · rfl
        · rfl
        · next harray hobject => exact absurd ⟨harray, hobject⟩ hhash
      rw [hraised] at h
      exact h.elim
  · rw [if_neg hbound]
    exact ⟨fun _ => ⟨fun h => absurd h hbound, fun h => absurd h hbound⟩, fun _ => hrefusal⟩

theorem trace_settles : (trace interpreter).Settles query cursor ↔
    Shallow interpreter TRACE_CURSOR_PREFIX cursor ∧ TraceSound interpreter query cursor := by
  have hread : ∀ payload, Raises [.key_error, .type_error, .value_error] (read_trace_entry interpreter payload) :=
    fun payload => raises_subscripted.bind fun pairs => raises_item.bind fun value => raises_read_datetime.bind fun _ =>
      raises_item.bind fun _ => raises_item.bind fun _ => .ok _
  refine (settled_open_cursor (by decide) (by decide) hread List.mem_cons_self).trans (and_congr_right fun _ => ?_)
  constructor
  · intro h hpre payload entry hpayload hentry
    have hopen := h entry (open_cursor_eq_ok_iff.mpr ⟨hpre, payload, hpayload, hentry⟩)
    exact TraceEntry.check_settled.mp (settled_map.mp hopen)
  · intro h entry hopen
    obtain ⟨hpre, payload, hpayload, hentry⟩ := open_cursor_eq_ok_iff.mp hopen
    exact settled_map.mpr (TraceEntry.check_settled.mpr (h hpre payload entry hpayload hentry))

theorem decode_trace_encode {occurred_at : Timestamp} (hutc : position.occurred_at.as_utc = some occurred_at)
    (h : encode_trace_cursor query position = .ok cursor) (other : TraceQuery) :
    decode_trace_cursor interpreter (some cursor) other =
      if query = other ∧ points_of position.entry_id ≠ [] then
        .ok (some ⟨occurred_at, position.kind, points_of position.entry_id⟩)
      else .error (.operation trace_cursor_error) := by
  rw [encode_trace_cursor, hutc] at h
  have hid : item (loaded_pairs (trace_payload query position occurred_at)) "entry_id" =
      .ok (.string (points_of position.entry_id)) := item_loaded_pairs rfl
  have hkind : item (loaded_pairs (trace_payload query position occurred_at)) "kind" =
      .ok (.string (points_of position.kind.text)) := item_loaded_pairs rfl
  have htime : item (loaded_pairs (trace_payload query position occurred_at)) "occurred_at" =
      .ok (.string (points_of (String.ofList occurred_at.isoformat))) := item_loaded_pairs rfl
  have hversion : get (loaded_pairs (trace_payload query position occurred_at)) "version" = .int 1 :=
    get_loaded_pairs _ _
  have htask : get (loaded_pairs (trace_payload query position occurred_at)) "task_id" =
      .string (points_of query.task_id) := get_loaded_pairs _ _
  have hq : get (loaded_pairs (trace_payload query position occurred_at)) "q" =
      .string (points_of query.normalized_q) := get_loaded_pairs _ _
  have hsort : get (loaded_pairs (trace_payload query position occurred_at)) "sort" =
      .string (points_of query.sort.text) := get_loaded_pairs _ _
  have hread : read_trace_entry interpreter (.object (loaded_pairs (trace_payload query position occurred_at))) =
      .ok ⟨loaded_pairs (trace_payload query position occurred_at), occurred_at, .string (points_of position.kind.text),
        .string (points_of position.entry_id)⟩ := by
    simp only [read_trace_entry, subscripted, bind, Except.bind, htime, read_datetime_isoformat, hkind, hid]
    rfl
  have hagain : occurred_at.as_utc = some occurred_at := by
    have hzone := Timestamp.as_utc_tzinfo hutc
    obtain ⟨naive, tzinfo⟩ := occurred_at
    cases hzone
    exact Timestamp.as_utc_utc naive
  have htexts : query.sort.text = other.sort.text ↔ query.sort = other.sort := by
    cases query.sort <;> cases other.sort <;> decide
  rw [decode_trace_cursor, open_cursor_encode h (List.cons_ne_nil _ _) hread]
  simp only [bind, Except.bind]
  rw [TraceEntry.check, TraceEntry.is_bound]
  dsimp only
  rw [hversion, htask, hq, hsort, is_text_points, is_text_points, is_text_points]
  by_cases hsame : query = other
  · subst hsame
    simp only [decide_true, Bool.and_true, is_version]
    rw [if_pos (by decide), TraceEntry.read_kind_eq_ok (fun _ h => by cases h) (fun _ h => by cases h),
      (find_kind _ _).mpr rfl, nonempty_text]
    simp only [bind, Except.bind, hagain]
    by_cases hempty : points_of position.entry_id = [] <;> simp [hempty]
  · rw [if_neg, if_neg fun h => hsame h.1]
    · rfl
    · simp only [Bool.and_eq_true, decide_eq_true_eq, htexts]
      rintro ⟨⟨⟨-, htask⟩, hq⟩, hsort⟩
      apply hsame
      obtain ⟨_, _, _⟩ := query
      obtain ⟨_, _, _⟩ := other
      cases htask
      cases hq
      cases hsort
      rfl

theorem trace_faithful (interpreter : Interpreter) : (trace interpreter).Faithful := by
  refine ⟨?_, ?_, ?_⟩
  · intro (query : TraceQuery) (position : TracePosition String) decoded hheld
    obtain ⟨occurred_at, hutc, -⟩ := Option.map_eq_some_iff.mp hheld
    obtain ⟨cursor, hcursor⟩ : ∃ cursor, encode_cursor TRACE_CURSOR_PREFIX (trace_payload query position occurred_at) =
        .ok cursor := by
      refine encode_cursor_ok _ ?_
      simp only [trace_payload, List.forall_mem_cons]
      exact ⟨trivial, trivial, trivial, trivial, trivial, trivial, is_flat_digit (by decide), nofun⟩
    refine ⟨cursor, ?_⟩
    change encode_trace_cursor query position = _
    rw [encode_trace_cursor, hutc]
    exact hcursor
  · rintro query position decoded cursor hheld ⟨_, rfl, -, hid⟩ hencode
    obtain ⟨occurred_at, hutc, hdecoded⟩ := Option.map_eq_some_iff.mp hheld
    obtain rfl := Option.some.inj hdecoded
    exact (decode_trace_encode hutc hencode query).trans (if_pos ⟨rfl, hid⟩)
  · intro (query : TraceQuery) (other : TraceQuery) (position : TracePosition String) cursor hencode hother
    change encode_trace_cursor query position = _ at hencode
    cases hutc : position.occurred_at.as_utc with
    | none =>
      rw [encode_trace_cursor, hutc] at hencode
      cases hencode
    | some occurred_at =>
      refine ⟨_, List.mem_cons_self, (decode_trace_encode hutc hencode other).trans ?_⟩
      exact if_neg fun h => hother h.1.symm

end Trace

/-- That a surface's decoder is given nothing that escapes it: the text of the cursor is not too deep, and a trace
    cursor holds no entry that its check stumbles over. -/
def Readable (interpreter : Interpreter) :
    (surface : Surface) → (codec interpreter surface).Binding → CodePoints → Prop
  | .workflow_search, _, cursor => Shallow interpreter WORKFLOW_SEARCH_CURSOR_PREFIX cursor
  | .workflow_revisions, _, cursor => Shallow interpreter WORKFLOW_REVISION_CURSOR_PREFIX cursor
  | .task_search, _, cursor => Shallow interpreter TASK_CURSOR_PREFIX cursor
  | .command_history, _, cursor => Shallow interpreter PRODUCT_LIST_CURSOR_PREFIX cursor
  | .command_output, _, cursor => Shallow interpreter OUTPUT_CURSOR_PREFIX cursor
  | .trace, query, cursor => Shallow interpreter TRACE_CURSOR_PREFIX cursor ∧ TraceSound interpreter query cursor

/-- Every codec reads its own cursors back and refuses those of another binding; any other text is read as a position or
    refused exactly when it is readable. -/
theorem page_cursors (interpreter : Interpreter) (surface : Surface) : (codec interpreter surface).Faithful ∧
    ∀ binding cursor, (codec interpreter surface).Settles binding cursor ↔
      Readable interpreter surface binding cursor := by
  cases surface with
  | workflow_search => exact ⟨workflow_search_faithful interpreter, fun _ _ => workflow_search_settles⟩
  | workflow_revisions => exact ⟨workflow_revisions_faithful interpreter, fun _ _ => workflow_revisions_settles⟩
  | task_search => exact ⟨task_search_faithful interpreter, fun _ _ => task_search_settles⟩
  | command_history => exact ⟨command_history_faithful interpreter, fun _ _ => command_history_settles⟩
  | command_output => exact ⟨command_output_faithful interpreter, fun _ _ => command_output_settles⟩
  | trace => exact ⟨trace_faithful interpreter, fun _ _ => trace_settles⟩

section Escapes

variable {interpreter : Interpreter} {cursor : CodePoints}

/-- An interpreter that nests ten thousand levels, as the supported ones do about, and reads the times that
    `isoformat` writes. -/
def standard_interpreter : Interpreter where
  nesting := 10000
  fromisoformat points := Timestamp.read_isoformat (points.map Char.ofNat)
  nesting_pos := by decide
  fromisoformat_isoformat value := by
    have hchars : (value.isoformat.map Char.toNat).map Char.ofNat = value.isoformat := by
      rw [List.map_map]
      exact (List.map_congr_left fun c _ => Char.ofNat_toNat c).trans (List.map_id _)
    rw [hchars, Timestamp.read_isoformat_isoformat]

def newest_first : TraceQuery := ⟨"task-1", "", .occurred_at_desc⟩

/-- A cursor with arrays that nest one level too deep. -/
def deep_cursor (pre : String) : CodePoints :=
  points_of pre ++ Base64.urlsafe_b64encode (ascii_bytes (List.replicate 10001 '['))

/-- A trace cursor of the newest page, with some kind and time. -/
def trace_cursor (kind occurred_at : String) : CodePoints :=
  let text := "\x7b\x22entry_id\x22:\x22e\x22,\x22kind\x22:" ++ kind ++ ",\x22occurred_at\x22:\x22" ++ occurred_at ++
    "\x22,\x22q\x22:\x22\x22,\x22sort\x22:\x22occurred_at_desc\x22,\x22task_id\x22:\x22task-1\x22,\x22version\x22:1\x7d"
  points_of TRACE_CURSOR_PREFIX ++ Base64.urlsafe_b64encode (ascii_bytes text.toList)

private theorem deep_cursor_not_shallow (pre : String) : ¬Shallow standard_interpreter pre (deep_cursor pre) := by
  refine fun h => h (List.prefix_append _ _) _ (payload_text_encode pre fun c hc => ?_) (loads_nested _ 10000)
  rw [List.eq_of_mem_replicate hc]
  decide

private theorem not_settles_of_deep (hdeep : ¬Shallow interpreter WORKFLOW_SEARCH_CURSOR_PREFIX cursor) :
    ¬∀ surface binding cursor, (codec interpreter surface).Settles binding cursor := by
  intro h
  have hsettles : ∀ query, (workflow_search interpreter).Settles query cursor :=
    fun query => h .workflow_search query cursor
  exact hdeep (workflow_search_settles.mp (hsettles ""))

/-- Arrays that nest too deep, a list as the kind of an entry, and a time before the first year in UTC all escape. -/
theorem cursor_errors_escape :
    decode_workflow_search_cursor standard_interpreter (some (deep_cursor WORKFLOW_SEARCH_CURSOR_PREFIX)) "" =
        .error .recursion_error ∧
      decode_trace_cursor standard_interpreter (some (trace_cursor "[]" "2024-01-01T00:00:00")) newest_first =
        .error .type_error ∧
      decode_trace_cursor standard_interpreter (some (trace_cursor "\x22boundary\x22" "0001-01-01T00:00:00+00:01"))
        newest_first = .error .overflow_error ∧
      ¬∀ surface binding cursor, (codec standard_interpreter surface).Settles binding cursor := by
  have hdeep := deep_cursor_not_shallow WORKFLOW_SEARCH_CURSOR_PREFIX
  have hpre : points_of WORKFLOW_SEARCH_CURSOR_PREFIX <+: deep_cursor WORKFLOW_SEARCH_CURSOR_PREFIX :=
    List.prefix_append _ _
  refine ⟨?_, by decide +kernel, by decide +kernel, not_settles_of_deep hdeep⟩
  rw [decode_workflow_search_cursor, decode_catalog_cursor, open_cursor, if_pos hpre,
    (read_payload_recursion hpre).mpr hdeep]
  rfl

end Escapes

end OhMySubagents.Cursors

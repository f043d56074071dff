import OhMySubagents.Workflows.MemberTrees

open JsonData

namespace OhMySubagents.Workflows

open OhMySubagents.Workflows.NormalizedMember

section Shape

mutual

/-- The number of lists and mappings in a payload. -/
def collections : JsonData → Nat
  | .object members => 1 + collections_in_members members
  | .array items => 1 + collections_in_items items
  | _ => 0

def collections_in_members : List (String × JsonData) → Nat
  | [] => 0
  | (_, child) :: members => collections child + collections_in_members members

def collections_in_items : List JsonData → Nat
  | [] => 0
  | child :: items => collections child + collections_in_items items

end

mutual

/-- How deep lists and mappings of a payload are nested. -/
def nesting : JsonData → Nat
  | .object members => 1 + nesting_in_members members
  | .array items => 1 + nesting_in_items items
  | _ => 0

def nesting_in_members : List (String × JsonData) → Nat
  | [] => 0
  | (_, child) :: members => max (nesting child) (nesting_in_members members)

def nesting_in_items : List JsonData → Nat
  | [] => 0
  | child :: items => max (nesting child) (nesting_in_items items)

end

def is_xml_text (s : String) : Bool := s.toList.all is_xml_character

mutual

/-- Whether every key and every text of a payload has legal characters only. -/
def has_xml_texts : JsonData → Bool
  | .object members => members_have_xml_texts members
  | .array items => items_have_xml_texts items
  | .string value => is_xml_text value
  | _ => true

def members_have_xml_texts : List (String × JsonData) → Bool
  | [] => true
  | (key, child) :: members => is_xml_text key && has_xml_texts child && members_have_xml_texts members

def items_have_xml_texts : List JsonData → Bool
  | [] => true
  | child :: items => has_xml_texts child && items_have_xml_texts items

end

theorem validate_text_eq_ok {value : String} {path : List PathPart} :
    _validate_text value path = .ok () ↔ is_xml_text value = true := by
  unfold _validate_text is_xml_text
  split
  · next hnone =>
    rw [List.find?_eq_none] at hnone
    simpa using hnone
  · next c hsome =>
    simp only [reduceCtorEq, false_iff, Bool.not_eq_true, List.all_eq_false]
    exact ⟨c, List.mem_of_find?_eq_some hsome, by simpa using List.find?_some hsome⟩

variable {path : List PathPart} {depth index nodes total : Nat}

theorem check_collection_nodes_eq_ok :
    check_collection_nodes path nodes = .ok total ↔ total = nodes ∧ nodes ≤ MAX_COLLECTION_NODES := by
  unfold check_collection_nodes
  split
  · next h => simp only [reduceCtorEq, false_iff, not_and, Nat.not_le]; exact fun _ => h
  · next h => simp only [Except.ok.injEq, eq_comm, Nat.not_lt.mp h, and_true]

theorem check_collection_depth_eq_ok :
    check_collection_depth path depth = .ok () ↔ depth ≤ MAX_COLLECTION_DEPTH := by
  unfold check_collection_depth
  split <;> simp_all

/-- What the shape check demands of data that stands at a depth, behind a number of lists and mappings. -/
def Shaped (data : JsonData) : Prop :=
  ∀ path depth nodes total, visit_json path depth nodes data = .ok total ↔
    total = nodes + collections data ∧ total ≤ MAX_COLLECTION_NODES ∧
      (nesting data = 0 ∨ depth + nesting data ≤ MAX_COLLECTION_DEPTH + 1) ∧ has_xml_texts data = true

private theorem shaped_scalar {data : JsonData} (hvisit : ∀ path depth nodes, visit_json path depth nodes data =
      check_collection_nodes path nodes) (hcollections : collections data = 0) (hnesting : nesting data = 0)
    (htexts : has_xml_texts data = true) : Shaped data := by
  intro path depth nodes total
  rw [hvisit, check_collection_nodes_eq_ok, hcollections, hnesting, htexts, Nat.add_zero]
  constructor
  · rintro ⟨rfl, h⟩
    exact ⟨rfl, h, .inl rfl, rfl⟩
  · rintro ⟨rfl, h, -, -⟩
    exact ⟨rfl, h⟩

private theorem visit_collection {rest : Except WorkflowInputError Nat} {inner deep : Nat} {texts : Bool} {empty : Prop}
    (hrest : ∀ total, rest = .ok total ↔ total = nodes + 1 + inner ∧ (empty ∨ total ≤ MAX_COLLECTION_NODES) ∧
      (deep = 0 ∨ depth + 1 + deep ≤ MAX_COLLECTION_DEPTH + 1) ∧ texts = true) :
    (do
      check_collection_depth path depth
      let collection_nodes ← rest
      check_collection_nodes path collection_nodes) = .ok total ↔
    total = nodes + (1 + inner) ∧ total ≤ MAX_COLLECTION_NODES ∧
      (1 + deep = 0 ∨ depth + (1 + deep) ≤ MAX_COLLECTION_DEPTH + 1) ∧ texts = true := by
  rw [bind_eq_ok_iff]
  constructor
  · rintro ⟨u, hdepth, h⟩
    obtain ⟨middle, hmiddle, h⟩ := bind_eq_ok_iff.mp h
    have hdepth := check_collection_depth_eq_ok.mp hdepth
    obtain ⟨rfl, hnodes⟩ := check_collection_nodes_eq_ok.mp h
    obtain ⟨rfl, -, hdeep, htexts⟩ := (hrest _).mp hmiddle
    exact ⟨by omega, hnodes, .inr (by omega), htexts⟩
  · rintro ⟨rfl, hnodes, hdeep, htexts⟩
    have hrest' := (hrest (nodes + 1 + inner)).mpr ⟨rfl, .inr (by omega), by omega, htexts⟩
    refine ⟨(), check_collection_depth_eq_ok.mpr (by omega), bind_eq_ok_iff.mpr ⟨_, hrest', ?_⟩⟩
    exact check_collection_nodes_eq_ok.mpr ⟨by omega, by omega⟩

private theorem shaped_all : (∀ data, Shaped data) ∧
    (∀ items : List JsonData, ∀ path depth index nodes total,
      visit_json_items path depth index nodes items = .ok total ↔
        total = nodes + collections_in_items items ∧ (items = [] ∨ total ≤ MAX_COLLECTION_NODES) ∧
          (nesting_in_items items = 0 ∨ depth + 1 + nesting_in_items items ≤ MAX_COLLECTION_DEPTH + 1) ∧
          items_have_xml_texts items = true) ∧
    ∀ members : List (String × JsonData), ∀ path depth nodes total,
      visit_json_members path depth nodes members = .ok total ↔
        total = nodes + collections_in_members members ∧ (members = [] ∨ total ≤ MAX_COLLECTION_NODES) ∧
          (nesting_in_members members = 0 ∨ depth + 1 + nesting_in_members members ≤ MAX_COLLECTION_DEPTH + 1) ∧
          members_have_xml_texts members = true := by
  refine data_induction ?_ ?_ ?_ ?_ ?_ ?_ ?_ ?_ ?_ ?_
  · exact shaped_scalar (fun _ _ _ => rfl) rfl rfl rfl
  · exact fun value => shaped_scalar (fun _ _ _ => rfl) rfl rfl rfl
  · exact fun value => shaped_scalar (fun _ _ _ => rfl) rfl rfl rfl
  · intro value path depth nodes total
    rw [visit_json, bind_eq_ok_iff]
    simp only [collections, nesting, has_xml_texts, Nat.add_zero, true_or, true_and]
    constructor
    · rintro ⟨u, htext, h⟩
      obtain ⟨rfl, hnodes⟩ := check_collection_nodes_eq_ok.mp h
      exact ⟨rfl, hnodes, validate_text_eq_ok.mp htext⟩
    · rintro ⟨rfl, hnodes, htext⟩
      exact ⟨(), validate_text_eq_ok.mpr htext, check_collection_nodes_eq_ok.mpr ⟨rfl, hnodes⟩⟩
  · intro items ih path depth nodes total
    rw [visit_json]
    exact visit_collection fun total => ih path depth 0 (nodes + 1) total
  · intro members ih path depth nodes total
    rw [visit_json]
    exact visit_collection fun total => ih path depth (nodes + 1) total
  · intro path depth index nodes total
    rw [visit_json_items, Except.ok.injEq]
    simp [collections_in_items, nesting_in_items, items_have_xml_texts, eq_comm]
  · intro item items hitem hitems path depth index nodes total
    rw [visit_json_items, bind_eq_ok_iff, collections_in_items, nesting_in_items, items_have_xml_texts,
      Bool.and_eq_true]
    constructor
    · rintro ⟨middle, hmiddle, h⟩
      obtain ⟨rfl, hnodes, hdeep, htexts⟩ := (hitem _ _ _ _).mp hmiddle
      obtain ⟨rfl, hnodes', hdeep', htexts'⟩ := (hitems _ _ _ _ _).mp h
      refine ⟨by omega, .inr ?_, by omega, htexts, htexts'⟩
      rcases hnodes' with rfl | hnodes'
      · exact hnodes
      · exact hnodes'
    · rintro ⟨rfl, hnodes, hdeep, htexts, htexts'⟩
      have hnodes := hnodes.resolve_left (List.cons_ne_nil _ _)
      exact ⟨_, (hitem _ _ _ _).mpr ⟨rfl, by omega, by omega, htexts⟩,
        (hitems _ _ _ _ _).mpr ⟨by omega, .inr hnodes, by omega, htexts'⟩⟩
  · intro path depth nodes total
    rw [visit_json_members, Except.ok.injEq]
    simp [collections_in_members, nesting_in_members, members_have_xml_texts, eq_comm]
  · intro key value members hvalue hmembers path depth nodes total
    rw [visit_json_members, bind_eq_ok_iff, collections_in_members, nesting_in_members, members_have_xml_texts,
      Bool.and_eq_true, Bool.and_eq_true]
    constructor
    · rintro ⟨u, hkey, h⟩
      obtain ⟨middle, hmiddle, h⟩ := bind_eq_ok_iff.mp h
      obtain ⟨rfl, hnodes, hdeep, htexts⟩ := (hvalue _ _ _ _).mp hmiddle
      obtain ⟨rfl, hnodes', hdeep', htexts'⟩ := (hmembers _ _ _ _).mp h
      refine ⟨by omega, .inr ?_, by omega, ⟨validate_text_eq_ok.mp hkey, htexts⟩, htexts'⟩
      rcases hnodes' with rfl | hnodes'
      · exact hnodes
      · exact hnodes'
    · rintro ⟨rfl, hnodes, hdeep, ⟨hkey, htexts⟩, htexts'⟩
      have hnodes := hnodes.resolve_left (List.cons_ne_nil _ _)
      exact ⟨(), validate_text_eq_ok.mpr hkey, bind_eq_ok_iff.mpr ⟨_,
        (hvalue _ _ _ _).mpr ⟨rfl, by omega, by omega, htexts⟩,
        (hmembers _ _ _ _).mpr ⟨by omega, .inr hnodes, by omega, htexts'⟩⟩⟩

/-- The shape check accepts exactly what is small and flat enough and has legal characters only. -/
theorem validate_json_shape_eq_ok {payload : JsonData} :
    _validate_json_shape payload = .ok () ↔ collections payload ≤ MAX_COLLECTION_NODES ∧
      nesting payload ≤ MAX_COLLECTION_DEPTH ∧ has_xml_texts payload = true := by
  unfold _validate_json_shape
  rw [bind_eq_ok_iff]
  constructor
  · rintro ⟨total, htotal, -⟩
    obtain ⟨rfl, hnodes, hdeep, htexts⟩ := (shaped_all.1 payload _ _ _ _).mp htotal
    exact ⟨by omega, by omega, htexts⟩
  · rintro ⟨hnodes, hdeep, htexts⟩
    exact ⟨_, (shaped_all.1 payload _ _ _ _).mpr ⟨rfl, by omega, by omega, htexts⟩, rfl⟩

end Shape

namespace NormalizedMember

/-- The identifiers of all Members of a tree, a Member before its children. -/
def ids (member : NormalizedMember) : List Contracts.Identifier := member.all_fields.map (·.id)

mutual

def member_depth : NormalizedMember → Nat
  | mk _ none => 1
  | mk _ (some children) => 1 + depth_of_children children

def depth_of_children : List NormalizedMember → Nat
  | [] => 0
  | child :: children => max (member_depth child) (depth_of_children children)

end

end NormalizedMember

section Semantics

def has_unique_kinds (fields : MemberFields) : Prop :=
  ∀ capabilities ∈ fields.capabilities, ∀ kinds ∈ capabilities.human_request, kinds.val.Nodup

/-- What Members add to those that were visited before. -/
structure Visited (depth : Nat) (seen_ids seen_ids' : List Contracts.Identifier) (all : List MemberFields)
    (deep : Nat) :
    Prop where
  seen : seen_ids' = (all.map (·.id)).reverse ++ seen_ids
  count : all = [] ∨ seen_ids'.length ≤ MAX_MEMBERS
  depth : deep = 0 ∨ depth + deep ≤ MAX_MEMBER_DEPTH + 1
  distinct : (all.map (·.id)).Nodup
  fresh : ∀ id ∈ all.map (·.id), id ∉ seen_ids
  kinds : ∀ fields ∈ all, has_unique_kinds fields

variable {path : List PathPart} {depth : Nat} {seen_ids seen_ids' seen_ids'' : List Contracts.Identifier}
  {fields : MemberFields} {all all' : List MemberFields} {deep deep' : Nat}

theorem check_member_eq_ok : check_member path depth seen_ids fields = .ok seen_ids' ↔
    Visited depth seen_ids seen_ids' [fields] 1 := by
  unfold check_member
  have hkinds : ((fields.capabilities.bind (·.human_request)).any fun kinds => !decide kinds.val.Nodup) = true ↔
      ¬has_unique_kinds fields := by
    unfold has_unique_kinds
    cases fields.capabilities with
    | none => simp
    | some capabilities =>
      cases h : capabilities.human_request with
      | none => simp [h]
      | some kinds =>
        rw [Option.bind_some, h, Option.any_some, Bool.not_eq_true', decide_eq_false_iff_not]
        simp only [Option.mem_def, Option.some.injEq, forall_eq', h]
  split
  · next h =>
    refine ⟨nofun, fun hvisited => ?_⟩
    have hcount := hvisited.count.resolve_left (List.cons_ne_nil _ _)
    rw [hvisited.seen] at hcount
    simp at hcount
    omega
  split
  · next h => exact ⟨nofun, fun hvisited => by have := hvisited.depth; omega⟩
  split
  · next h => exact ⟨nofun, fun hvisited => absurd h (hvisited.fresh _ (by simp))⟩
  split
  · next h => exact ⟨nofun, fun hvisited => absurd (hvisited.kinds _ List.mem_cons_self) (hkinds.mp h)⟩
  · next hcount hdepth hfresh h =>
    constructor
    · intro heq
      obtain rfl := Except.ok.inj heq
      refine ⟨rfl, .inr ?_, .inr (by omega), List.nodup_singleton _, by simpa using hfresh, ?_⟩
      · rw [List.length_cons]
        omega
      · simpa using not_not.mp (mt hkinds.mpr h)
    · intro hvisited
      rw [hvisited.seen]
      rfl

theorem Visited.append (h : Visited depth seen_ids seen_ids' all deep)
    (h' : Visited depth seen_ids' seen_ids'' all' deep') :
    Visited depth seen_ids seen_ids'' (all ++ all') (max deep deep') where
  seen := by
    rw [h'.seen, h.seen, List.map_append, List.reverse_append, List.append_assoc]
  count := by
    rcases h'.count with rfl | hcount
    · rcases h.count with rfl | hcount
      · exact .inl rfl
      · rw [h'.seen]
        exact .inr hcount
    · exact .inr hcount
  depth := by
    have hdepth := h.depth
    have hdepth' := h'.depth
    omega
  distinct := by
    rw [List.map_append]
    refine List.Nodup.append h.distinct h'.distinct fun id hid hid' => ?_
    refine h'.fresh id hid' ?_
    rw [h.seen]
    exact List.mem_append_left _ (List.mem_reverse.mpr hid)
  fresh := by
    rw [List.map_append, List.forall_mem_append]
    refine ⟨h.fresh, fun id hid hseen => h'.fresh id hid ?_⟩
    rw [h.seen]
    exact List.mem_append_right _ hseen
  kinds := List.forall_mem_append.mpr ⟨h.kinds, h'.kinds⟩

/-- Members that were visited one after the other were visited each in turn. -/
theorem Visited.of_append (h : Visited depth seen_ids seen_ids'' (all ++ all') (max deep deep')) :
    Visited depth seen_ids ((all.map (·.id)).reverse ++ seen_ids) all deep ∧
      Visited depth ((all.map (·.id)).reverse ++ seen_ids) seen_ids'' all' deep' := by
  have hseen := h.seen
  rw [List.map_append, List.reverse_append, List.append_assoc] at hseen
  have hcount : all ++ all' = [] ∨ seen_ids''.length ≤ MAX_MEMBERS := h.count
  have hdistinct := h.distinct
  rw [List.map_append, List.nodup_append'] at hdistinct
  have hfresh := h.fresh
  rw [List.map_append, List.forall_mem_append] at hfresh
  have hdepth := h.depth
  obtain ⟨hkinds, hkinds'⟩ := List.forall_mem_append.mp h.kinds
  refine ⟨⟨rfl, ?_, by omega, hdistinct.1, hfresh.1, hkinds⟩, ⟨hseen, ?_, by omega, hdistinct.2.1, ?_, hkinds'⟩⟩
  · rcases hcount with hnil | hcount
    · exact .inl (List.append_eq_nil_iff.mp hnil).1
    · rw [hseen, List.length_append] at hcount
      exact .inr (by omega)
  · rcases hcount with hnil | hcount
    · exact .inl (List.append_eq_nil_iff.mp hnil).2
    · exact .inr hcount
  · intro id hid hmem
    rcases List.mem_append.mp hmem with hmem | hmem
    · exact hdistinct.2.2 (List.mem_reverse.mp hmem) hid
    · exact hfresh.2 id hid hmem

theorem visited_nil : Visited depth seen_ids seen_ids' [] 0 ↔ seen_ids' = seen_ids :=
  ⟨fun h => h.seen, fun h => ⟨h, .inl rfl, .inl rfl, List.nodup_nil, List.forall_mem_nil _, List.forall_mem_nil _⟩⟩

/-- One level down the depth is one more. -/
theorem visited_succ : Visited (depth + 1) seen_ids seen_ids' all deep ↔
    Visited depth seen_ids seen_ids' all (if deep = 0 then 0 else 1 + deep) := by
  constructor
  · rintro ⟨hseen, hcount, hdepth, hdistinct, hfresh, hkinds⟩
    refine ⟨hseen, hcount, ?_, hdistinct, hfresh, hkinds⟩
    split <;> omega
  · rintro ⟨hseen, hcount, hdepth, hdistinct, hfresh, hkinds⟩
    refine ⟨hseen, hcount, ?_, hdistinct, hfresh, hkinds⟩
    split at hdepth <;> omega

private theorem visited_all :
    (∀ (member : NormalizedMember) path depth seen_ids seen_ids',
      visit_member path depth seen_ids member = .ok seen_ids' ↔
        Visited depth seen_ids seen_ids' member.all_fields member.member_depth) ∧
      ∀ (children : List NormalizedMember) path depth index seen_ids seen_ids',
        visit_children path depth index seen_ids children = .ok seen_ids' ↔
          Visited (depth + 1) seen_ids seen_ids' (all_fields_of children) (depth_of_children children) := by
  refine forest_induction ?_ ?_ ?_ ?_
  · intro fields path depth seen_ids seen_ids'
    rw [visit_member, check_member_eq_ok, all_fields, member_depth]
  · intro fields children ih path depth seen_ids seen_ids'
    have hdeep : member_depth (mk fields (some children)) =
        max 1 (if depth_of_children children = 0 then 0 else 1 + depth_of_children children) := by
      rw [member_depth]
      split <;> omega
    rw [visit_member, bind_eq_ok_iff, hdeep, all_fields, ← List.singleton_append]
    constructor
    · rintro ⟨middle, hmiddle, h⟩
      exact (check_member_eq_ok.mp hmiddle).append (visited_succ.mp ((ih _ _ _ _ _).mp h))
    · intro h
      obtain ⟨hfirst, hrest⟩ := h.of_append
      exact ⟨_, check_member_eq_ok.mpr hfirst, (ih _ _ _ _ _).mpr (visited_succ.mpr hrest)⟩
  · intro path depth index seen_ids seen_ids'
    rw [visit_children, Except.ok.injEq, all_fields_of, depth_of_children, visited_nil, eq_comm]
  · intro child children hchild hchildren path depth index seen_ids seen_ids'
    rw [visit_children, bind_eq_ok_iff, all_fields_of, depth_of_children]
    constructor
    · rintro ⟨middle, hmiddle, h⟩
      exact ((hchild _ _ _ _).mp hmiddle).append ((hchildren _ _ _ _ _).mp h)
    · intro h
      obtain ⟨hfirst, hrest⟩ := h.of_append
      exact ⟨_, (hchild _ _ _ _).mpr hfirst, (hchildren _ _ _ _ _).mpr hrest⟩

/-- What `_validate_workflow_semantics` demands of a Workflow. -/
structure SemanticRules (workflow : NormalizedWorkflow) : Prop where
  member_count : workflow.lead.all_fields.length ≤ MAX_MEMBERS
  member_depth : workflow.lead.member_depth ≤ MAX_MEMBER_DEPTH
  member_ids : workflow.lead.ids.Nodup
  capabilities : ∀ fields ∈ workflow.lead.all_fields, has_unique_kinds fields

theorem validate_workflow_semantics_eq_ok {workflow : NormalizedWorkflow} :
    _validate_workflow_semantics workflow = .ok () ↔ SemanticRules workflow := by
  have hnonempty : workflow.lead.all_fields ≠ [] := by
    rw [all_fields_eq]
    exact List.cons_ne_nil _ _
  unfold _validate_workflow_semantics
  rw [bind_eq_ok_iff]
  constructor
  · rintro ⟨seen, hseen, -⟩
    have hvisited := (visited_all.1 _ _ _ _ _).mp hseen
    have hcount := hvisited.count.resolve_left hnonempty
    have hdepth := hvisited.depth
    rw [hvisited.seen] at hcount
    exact ⟨by simpa using hcount, by omega, hvisited.distinct, hvisited.kinds⟩
  · rintro ⟨hcount, hdepth, hids, hkinds⟩
    exact ⟨_, (visited_all.1 _ _ _ _ _).mpr ⟨rfl, .inr (by simpa using hcount), by omega, hids,
      fun id _ => List.not_mem_nil, hkinds⟩, rfl⟩

end Semantics

section Sources

/-- An error that has something else to say than that a provider is retired. -/
def HasOtherSource (error : WorkflowInputError) : Prop := ∃ issue ∈ error.issues, issue.source ≠ "provider.retired"

theorem workflow_input_error_other {source : String} {path : List PathPart} {message : String}
    (h : source ≠ "provider.retired") : HasOtherSource (workflow_input_error source path message) :=
  ⟨_, List.mem_cons_self, h⟩

/-- A check that never fails because of a retired provider. -/
def OtherFailures {α : Type} (checked : Except WorkflowInputError α) : Prop :=
  ∀ error, checked = .error error → HasOtherSource error

theorem OtherFailures.bind {α β : Type} {checked : Except WorkflowInputError α} {next : α → Except WorkflowInputError β}
    (h : OtherFailures checked) (hnext : ∀ a, OtherFailures (next a)) : OtherFailures (checked >>= next) := by
  intro error herror
  cases checked with
  | error first =>
    cases herror
    exact h _ rfl
  | ok a => exact hnext a error herror

private theorem other_failures_ok {α : Type} {a : α} : OtherFailures (.ok a) := nofun

private theorem validate_text_failures {value : String} {path : List PathPart} :
    OtherFailures (_validate_text value path) := by
  unfold _validate_text
  intro error herror
  split at herror
  · cases herror
  · cases herror
    exact workflow_input_error_other (by decide)

private theorem check_nodes_failures {path : List PathPart} {nodes : Nat} :
    OtherFailures (check_collection_nodes path nodes) := by
  unfold check_collection_nodes
  intro error herror
  split at herror
  · cases herror
    exact workflow_input_error_other (by decide)
  · cases herror

private theorem check_depth_failures {path : List PathPart} {depth : Nat} :
    OtherFailures (check_collection_depth path depth) := by
  unfold check_collection_depth
  intro error herror
  split at herror
  · cases herror
    exact workflow_input_error_other (by decide)
  · cases herror

private theorem visit_json_failures :
    (∀ data path depth nodes, OtherFailures (visit_json path depth nodes data)) ∧
      (∀ items path depth index nodes, OtherFailures (visit_json_items path depth index nodes items)) ∧
      ∀ members path depth nodes, OtherFailures (visit_json_members path depth nodes members) := by
  refine data_induction ?_ ?_ ?_ ?_ ?_ ?_ ?_ ?_ ?_ ?_
  · exact fun path depth nodes => check_nodes_failures
  · exact fun value path depth nodes => check_nodes_failures
  · exact fun value path depth nodes => check_nodes_failures
  · intro value path depth nodes
    rw [visit_json]
    exact validate_text_failures.bind fun _ => check_nodes_failures
  · intro items ih path depth nodes
    rw [visit_json]
    exact check_depth_failures.bind fun _ => (ih _ _ _ _).bind fun _ => check_nodes_failures
  · intro members ih path depth nodes
    rw [visit_json]
    exact check_depth_failures.bind fun _ => (ih _ _ _).bind fun _ => check_nodes_failures
  · intro path depth index nodes
    rw [visit_json_items]
    exact other_failures_ok
  · intro item items hitem hitems path depth index nodes
    rw [visit_json_items]
    exact (hitem _ _ _).bind fun _ => hitems _ _ _ _
  · intro path depth nodes
    rw [visit_json_members]
    exact other_failures_ok
  · intro key value members hvalue hmembers path depth nodes
    rw [visit_json_members]
    exact validate_text_failures.bind fun _ => (hvalue _ _ _).bind fun _ => hmembers _ _ _

theorem validate_json_shape_failures {payload : JsonData} : OtherFailures (_validate_json_shape payload) :=
  (visit_json_failures.1 payload _ _ _).bind fun _ => other_failures_ok

private theorem check_member_failures {path : List PathPart} {depth : Nat} {seen_ids : List Contracts.Identifier}
    {fields : MemberFields} : OtherFailures (check_member path depth seen_ids fields) := by
  unfold check_member
  intro error herror
  repeat' split at herror
  all_goals cases herror
  all_goals exact workflow_input_error_other (by decide)

private theorem visit_member_failures :
    (∀ member path depth seen_ids, OtherFailures (visit_member path depth seen_ids member)) ∧
      ∀ children path depth index seen_ids, OtherFailures (visit_children path depth index seen_ids children) := by
  refine forest_induction ?_ ?_ ?_ ?_
  · intro fields path depth seen_ids
    rw [visit_member]
    exact check_member_failures
  · intro fields children ih path depth seen_ids
    rw [visit_member]
    exact check_member_failures.bind fun _ => ih _ _ _ _
  · intro path depth index seen_ids
    rw [visit_children]
    exact other_failures_ok
  · intro child children hchild hchildren path depth index seen_ids
    rw [visit_children]
    exact (hchild _ _ _).bind fun _ => hchildren _ _ _ _

theorem validate_workflow_semantics_failures {workflow : NormalizedWorkflow} :
    OtherFailures (_validate_workflow_semantics workflow) :=
  (visit_member_failures.1 _ _ _ _).bind fun _ => other_failures_ok

/-- Whether a Member selects the retired provider. -/
def is_retired (fields : MemberFields) : Bool := fields.provider.any fun selection => selection.kind = .openclaw

private theorem retired_provider_issue_eq_nil {path : List PathPart} {fields : MemberFields} :
    retired_provider_issue path fields = [] ↔ is_retired fields = false := by
  unfold retired_provider_issue is_retired
  split <;> simp_all

private theorem collect_issues_eq_nil :
    (∀ member path, _collect_retired_provider_issues path member = [] ↔
        ∀ fields ∈ member.all_fields, is_retired fields = false) ∧
      ∀ children path index, collect_children_issues path index children = [] ↔
        ∀ fields ∈ all_fields_of children, is_retired fields = false := by
  refine forest_induction ?_ ?_ ?_ ?_
  · intro fields path
    rw [_collect_retired_provider_issues, all_fields, retired_provider_issue_eq_nil, List.forall_mem_singleton]
  · intro fields children ih path
    rw [_collect_retired_provider_issues, all_fields, List.append_eq_nil_iff, retired_provider_issue_eq_nil, ih,
      List.forall_mem_cons]
  · intro path index
    rw [collect_children_issues, all_fields_of]
    exact ⟨fun _ => List.forall_mem_nil _, fun _ => rfl⟩
  · intro child children hchild hchildren path index
    rw [collect_children_issues, all_fields_of, List.append_eq_nil_iff, hchild, hchildren, List.forall_mem_append]

/-- There is an issue for every Member that selects the retired provider, and no other. -/
theorem retired_provider_issues_eq_nil {workflow : NormalizedWorkflow} :
    retired_provider_issues workflow = [] ↔ ∀ fields ∈ workflow.lead.all_fields, is_retired fields = false :=
  collect_issues_eq_nil.1 _ _

theorem require_active_providers_eq_ok {workflow : NormalizedWorkflow} :
    require_active_providers workflow = .ok () ↔ ∀ fields ∈ workflow.lead.all_fields, is_retired fields = false := by
  unfold require_active_providers
  rw [← retired_provider_issues_eq_nil]
  split <;> simp_all

end Sources

section Normalization

variable {payload : List (String × JsonData)} {workflow : NormalizedWorkflow}

theorem normalize_workflow_object_eq_ok : normalize_workflow_object (.object payload) = .ok workflow ↔
    _validate_json_shape (.object payload) = .ok () ∧
      NormalizedWorkflow.model_validate (.object (_normalize_workflow_mapping payload)) = some workflow ∧
      SemanticRules workflow ∧ ∀ fields ∈ workflow.lead.all_fields, is_retired fields = false := by
  unfold normalize_workflow_object
  rw [bind_eq_ok_iff]
  constructor
  · rintro ⟨u, hshape, h⟩
    dsimp only at h
    split at h
    · cases h
    · next validated hvalidated =>
      obtain ⟨u', hsemantics, h⟩ := bind_eq_ok_iff.mp h
      obtain ⟨u'', hactive, h⟩ := bind_eq_ok_iff.mp h
      cases h
      exact ⟨hshape, hvalidated, validate_workflow_semantics_eq_ok.mp hsemantics,
        require_active_providers_eq_ok.mp hactive⟩
  · rintro ⟨hshape, hvalidated, hsemantics, hactive⟩
    refine ⟨(), hshape, ?_⟩
    dsimp only
    rw [hvalidated]
    exact bind_eq_ok_iff.mpr ⟨(), validate_workflow_semantics_eq_ok.mpr hsemantics,
      bind_eq_ok_iff.mpr ⟨(), require_active_providers_eq_ok.mpr hactive, rfl⟩⟩

/-- A payload is refused for retired providers alone when nothing else is wrong with it. -/
theorem normalize_workflow_object_eq_retired {error : WorkflowInputError}
    (h : normalize_workflow_object (.object payload) = .error error) (hother : ¬HasOtherSource error) :
    ∃ validated, _validate_json_shape (.object payload) = .ok () ∧
      NormalizedWorkflow.model_validate (.object (_normalize_workflow_mapping payload)) = some validated ∧
      SemanticRules validated ∧ ¬∀ fields ∈ validated.lead.all_fields, is_retired fields = false := by
  unfold normalize_workflow_object at h
  cases hshape : _validate_json_shape (.object payload) with
  | error first =>
    rw [hshape] at h
    cases h
    exact absurd (validate_json_shape_failures _ hshape) hother
  | ok u =>
    rw [hshape] at h
    dsimp only [bind, Except.bind] at h
    split at h
    · cases h
      exact absurd (workflow_input_error_other (by decide)) hother
    · next validated hvalidated =>
      refine ⟨validated, rfl, hvalidated, ?_, fun hactive => ?_⟩
      · cases hsemantics : _validate_workflow_semantics validated with
        | error first =>
          rw [hsemantics] at h
          cases h
          exact absurd (validate_workflow_semantics_failures _ hsemantics) hother
        | ok u' => exact validate_workflow_semantics_eq_ok.mp hsemantics
      · rw [require_active_providers_eq_ok.mpr hactive] at h
        cases hsemantics : _validate_workflow_semantics validated with
        | error first =>
          rw [hsemantics] at h
          cases h
          exact absurd (validate_workflow_semantics_failures _ hsemantics) hother
        | ok u' =>
          rw [hsemantics] at h
          cases h

/-- An edited payload is accepted in normal form, or as it is written when some Member selects the retired provider. -/
theorem normalize_edited_workflow_eq_ok (h : _normalize_edited_workflow (.object payload) = .ok workflow) :
    ∃ validated, _validate_json_shape (.object payload) = .ok () ∧
      NormalizedWorkflow.model_validate (.object (_normalize_workflow_mapping payload)) = some validated ∧
      SemanticRules validated ∧
      (((∀ fields ∈ validated.lead.all_fields, is_retired fields = false) ∧ workflow = validated) ∨
        ((¬∀ fields ∈ validated.lead.all_fields, is_retired fields = false) ∧
          NormalizedWorkflow.model_validate (.object payload) = some workflow)) := by
  unfold _normalize_edited_workflow at h
  split at h
  · next normal hnormal =>
    cases h
    obtain ⟨hshape, hvalidated, hsemantics, hactive⟩ := normalize_workflow_object_eq_ok.mp hnormal
    exact ⟨_, hshape, hvalidated, hsemantics, .inl ⟨hactive, rfl⟩⟩
  · next error herror =>
    split at h
    · cases h
    · next hretired =>
      have hother : ¬HasOtherSource error := by
        rintro ⟨issue, hissue, hsource⟩
        refine hretired ?_
        rw [Bool.or_eq_true]
        exact .inr (List.any_eq_true.mpr ⟨issue, hissue, decide_eq_true hsource⟩)
      obtain ⟨validated, hshape, hvalidated, hsemantics, hactive⟩ := normalize_workflow_object_eq_retired herror hother
      split at h
      · next read hread =>
        cases h
        exact ⟨validated, hshape, hvalidated, hsemantics, .inr ⟨hactive, hread⟩⟩
      · cases h

end Normalization

end OhMySubagents.Workflows

import Mathlib.Algebra.Group.Nat.Defs
import OhMySubagents.HumanRequest.Service
import OhMySubagents.Json.Loads
import OhMySubagents.Text.ExactText

namespace OhMySubagents.Contracts

/-- A JSON value that a model holds. A float stands as the text of its finite decimal. -/
inductive JsonValue
  | null
  | bool (value : Bool)
  | int (value : Int)
  | float (text : String)
  | string (value : String)
  | array (items : List JsonValue)
  | object (members : List (String × JsonValue))

abbrev JsonObject := List (String × JsonValue)

namespace JsonValue

mutual

/-- `json.dumps(ensure_ascii=False)` without blanks. -/
def dumps : JsonValue → List Char
  | null => ['n', 'u', 'l', 'l']
  | bool true => ['t', 'r', 'u', 'e']
  | bool false => ['f', 'a', 'l', 's', 'e']
  | int value => (toString value).toList
  | float text => text.toList
  | string value => Json.dumps_string value
  | array items => '[' :: (dumps_items items ++ [']'])
  | object members => '\x7b' :: (dumps_members members ++ ['\x7d'])

def dumps_items : List JsonValue → List Char
  | [] => []
  | [item] => dumps item
  | item :: items => dumps item ++ ',' :: dumps_items items

def dumps_members : JsonObject → List Char
  | [] => []
  | [(key, value)] => Json.dumps_string key ++ ':' :: dumps value
  | (key, value) :: members => Json.dumps_string key ++ ':' :: (dumps value ++ ',' :: dumps_members members)

end

/-- A number of too many digits is not written. -/
@[irreducible] def is_writable_int (value : Int) : Bool := value.natAbs < 10 ^ Json.int_max_str_digits

mutual

def is_writable : JsonValue → Bool
  | int value => is_writable_int value
  | array items => are_writable items
  | object members => members_are_writable members
  | null | bool _ | float _ | string _ => true

def are_writable : List JsonValue → Bool
  | [] => true
  | item :: items => is_writable item && are_writable items

def members_are_writable : JsonObject → Bool
  | [] => true
  | (_, value) :: members => is_writable value && members_are_writable members

end

end JsonValue

def _STRUCTURED_VALUE_MAX_BYTES : Nat := 65536

def _STRUCTURED_VALUE_MAX_DEPTH : Nat := 16

def _STRUCTURED_VALUE_MAX_COLLECTION_NODES : Nat := 1024

def _ALLOWED_SCHEMA_FORMATS : List String := ["date", "date-time", "email", "time", "uri", "uuid"]

def check_collection_limit (collection_nodes : Nat) : Option Nat :=
  if _STRUCTURED_VALUE_MAX_COLLECTION_NODES < collection_nodes then none else some collection_nodes

mutual

/-- `visit` of `_validate_bounded_json_value`: the collections that were seen, or `none` for an exceeded limit. -/
def visit_value (depth collection_nodes : Nat) : JsonValue → Option Nat
  | .object members =>
    if _STRUCTURED_VALUE_MAX_DEPTH < depth then none
    else (visit_members depth (collection_nodes + 1) members).bind check_collection_limit
  | .array items =>
    if _STRUCTURED_VALUE_MAX_DEPTH < depth then none
    else (visit_items depth (collection_nodes + 1) items).bind check_collection_limit
  | .null | .bool _ | .int _ | .float _ | .string _ =>
    if _STRUCTURED_VALUE_MAX_DEPTH < depth then none else check_collection_limit collection_nodes

def visit_items (depth collection_nodes : Nat) : List JsonValue → Option Nat
  | [] => some collection_nodes
  | item :: items => (visit_value (depth + 1) collection_nodes item).bind fun nodes => visit_items depth nodes items

def visit_members (depth collection_nodes : Nat) : JsonObject → Option Nat
  | [] => some collection_nodes
  | (_, value) :: members =>
    (visit_value (depth + 1) collection_nodes value).bind fun nodes => visit_members depth nodes members

end

/-- Whether `_validate_bounded_json_value` accepts. -/
def is_bounded_json_value (value : JsonValue) : Bool :=
  value.is_writable && utf8_bytes value.dumps ≤ _STRUCTURED_VALUE_MAX_BYTES && (visit_value 1 0 value).isSome

/-- What one mapping of a schema may not hold: a remote reference, a dynamic one, or another format. -/
def is_local_schema (schema : JsonObject) : Bool :=
  (match schema.lookup "$ref" with
    | some (.string reference) => reference.startsWith "#"
    | _ => true) &&
  (match schema.lookup "$dynamicRef" with
    | none | some .null => true
    | some _ => false) &&
  match schema.lookup "format" with
    | some (.string format_name) => _ALLOWED_SCHEMA_FORMATS.contains format_name
    | _ => true

mutual

/-- `visit` of `_validate_bounded_response_schema`. -/
def visit_schema : JsonValue → Bool
  | .object members => is_local_schema members && visit_schema_members members
  | .array items => visit_schema_items items
  | .null | .bool _ | .int _ | .float _ | .string _ => true

def visit_schema_items : List JsonValue → Bool
  | [] => true
  | item :: items => visit_schema item && visit_schema_items items

def visit_schema_members : JsonObject → Bool
  | [] => true
  | (_, value) :: members => visit_schema value && visit_schema_members members

end

/-- Whether `_validate_bounded_response_schema` accepts. -/
def is_bounded_response_schema (schema : JsonObject) : Bool :=
  is_bounded_json_value (.object schema) && visit_schema (.object schema)

section Texts

/-- `RuntimeSchemaText`. -/
def runtime_schema_text (value : String) : Option String :=
  if 1 ≤ (strip_whitespace value).length then some (strip_whitespace value) else none

/-- `_normalize_required_text`. -/
def normalize_required_text (value : String) (max_characters : Nat) : Option String :=
  (normalize_exact_text value.toList none true).bind fun normalized =>
    if max_characters < normalized.length then none else some (String.ofList normalized)

def normalize_description (value : Option String) (max_characters : Nat) : Option (Option String) :=
  (normalize_optional_text (value.map String.toList) max_characters).map (Option.map String.ofList)

def normalize_other_text (value : String) : Option String :=
  (normalize_exact_text value.toList none true).map String.ofList

variable {value normalized : String} {max_characters : Nat}

theorem runtime_schema_text_idem (h : runtime_schema_text value = some normalized) :
    runtime_schema_text normalized = some normalized := by
  unfold runtime_schema_text at h
  split at h
  · next hlength =>
    obtain rfl := Option.some.inj h
    rw [runtime_schema_text, strip_whitespace_idem, if_pos hlength]
  · cases h

theorem normalize_required_text_idem (h : normalize_required_text value max_characters = some normalized) :
    normalize_required_text normalized max_characters = some normalized := by
  obtain ⟨text, htext, hshort⟩ := Option.bind_eq_some_iff.mp h
  split at hshort
  · cases hshort
  · next hlength =>
    obtain rfl := Option.some.inj hshort
    rw [normalize_required_text, String.toList_ofList, normalize_exact_text_idem htext, Option.bind_some,
      if_neg hlength]

theorem normalize_other_text_idem (h : normalize_other_text value = some normalized) :
    normalize_other_text normalized = some normalized := by
  obtain ⟨text, htext, rfl⟩ := Option.map_eq_some_iff.mp h
  rw [normalize_other_text, String.toList_ofList, normalize_exact_text_idem htext]
  rfl

theorem normalize_description_idem {description found : Option String}
    (h : normalize_description description max_characters = some found) :
    normalize_description found max_characters = some found := by
  obtain ⟨text, htext, rfl⟩ := Option.map_eq_some_iff.mp h
  cases text with
  | none => rfl
  | some text =>
    cases description with
    | none => cases htext
    | some description =>
      rw [normalize_description, Option.map_some, Option.map_some, String.toList_ofList,
        normalize_optional_text_idem htext]
      rfl

end Texts

/-! # Requests -/

/-- What the JSON-schema library does: the verdict of a schema on a value, and the check of a schema alone. Both take
    JSON texts. -/
structure SchemaLibrary where
  validate : SchemaValidator
  check_schema : String → Bool

structure HumanRequestOption where
  id : String
  title : String
  description : Option String

structure HumanRequestItem where
  id : String
  prompt : String
  response_schema : Option JsonObject
  options : Option (List HumanRequestOption)
  allow_other : Bool
  allow_skip : Bool

def JsonValue.text (value : JsonValue) : String := String.ofList value.dumps

def HumanRequestOption.model_validate (arguments : HumanRequestOption) : Option HumanRequestOption := do
  let id ← runtime_schema_text arguments.id
  let title ← normalize_required_text arguments.title 255
  let description ← normalize_description arguments.description 1024
  return { id, title, description }

def validate_options (options : Option (List HumanRequestOption)) : Option (Option (List HumanRequestOption)) :=
  match options with
  | none => some none
  | some options => (options.mapM HumanRequestOption.model_validate).bind fun options =>
    if 2 ≤ options.length ∧ options.length ≤ 3 then some (some options) else none

namespace HumanRequestItem

variable (library : SchemaLibrary)

/-- Whether `validate_response_contract` accepts. -/
def validate_response_contract (item : HumanRequestItem) : Bool :=
  (item.response_schema.isNone != item.options.isNone) &&
    (match item.options with
      | some options => decide (options.map HumanRequestOption.id).Nodup
      | none => !item.allow_other) &&
    item.response_schema.all fun schema =>
      is_bounded_response_schema schema && library.check_schema (JsonValue.object schema).text

def model_validate (arguments : HumanRequestItem) : Option HumanRequestItem := do
  let id ← runtime_schema_text arguments.id
  let prompt ← normalize_required_text arguments.prompt 4096
  let options ← validate_options arguments.options
  let item : HumanRequestItem := { arguments with id, prompt, options }
  if item.validate_response_contract library then some item else none

end HumanRequestItem

/-- The items of a `HumanRequestOpenRequest`. -/
def validate_request_items (library : SchemaLibrary) (arguments : List HumanRequestItem) :
    Option (List HumanRequestItem) :=
  (arguments.mapM (HumanRequestItem.model_validate library)).bind fun items =>
    if (1 ≤ items.length ∧ items.length ≤ 3) ∧ (items.map HumanRequestItem.id).Nodup then some items else none

section Items

variable {library : SchemaLibrary}

theorem HumanRequestOption.model_validate_idem {arguments option : HumanRequestOption}
    (h : arguments.model_validate = some option) : option.model_validate = some option := by
  unfold HumanRequestOption.model_validate at h ⊢
  obtain ⟨id, hid, h⟩ := Option.bind_eq_some_iff.mp h
  obtain ⟨title, htitle, h⟩ := Option.bind_eq_some_iff.mp h
  obtain ⟨description, hdescription, h⟩ := Option.bind_eq_some_iff.mp h
  cases h
  refine Option.bind_eq_some_iff.mpr ⟨_, runtime_schema_text_idem hid, ?_⟩
  refine Option.bind_eq_some_iff.mpr ⟨_, normalize_required_text_idem htitle, ?_⟩
  exact Option.bind_eq_some_iff.mpr ⟨_, normalize_description_idem hdescription, rfl⟩

/-- What `mapM` made of a list is left as it is by a function that leaves what it makes as it is. -/
theorem mapM_idem {α : Type} {f : α → Option α} (hf : ∀ a b, f a = some b → f b = some b) {items found : List α}
    (h : items.mapM f = some found) : found.mapM f = some found := by
  refine mapM_eq_some.mpr (List.forall₂_same.mpr fun b hb => ?_)
  obtain ⟨a, -, hab⟩ := mem_of_mapM_eq_some h hb
  exact hf a b hab

theorem validate_options_idem {arguments options : Option (List HumanRequestOption)}
    (h : validate_options arguments = some options) : validate_options options = some options := by
  cases arguments with
  | none =>
    cases h
    rfl
  | some arguments =>
    obtain ⟨found, hfound, h⟩ := Option.bind_eq_some_iff.mp h
    split at h
    · next hlength =>
      cases h
      rw [validate_options, mapM_idem (fun _ _ => HumanRequestOption.model_validate_idem) hfound, Option.bind_some,
        if_pos hlength]
    · cases h

theorem HumanRequestItem.model_validate_idem {arguments item : HumanRequestItem}
    (h : arguments.model_validate library = some item) : item.model_validate library = some item := by
  unfold HumanRequestItem.model_validate at h ⊢
  obtain ⟨id, hid, h⟩ := Option.bind_eq_some_iff.mp h
  obtain ⟨prompt, hprompt, h⟩ := Option.bind_eq_some_iff.mp h
  obtain ⟨options, hoptions, h⟩ := Option.bind_eq_some_iff.mp h
  dsimp only at h
  split at h
  · next hcontract =>
    cases h
    refine Option.bind_eq_some_iff.mpr ⟨_, runtime_schema_text_idem hid, ?_⟩
    refine Option.bind_eq_some_iff.mpr ⟨_, normalize_required_text_idem hprompt, ?_⟩
    exact Option.bind_eq_some_iff.mpr ⟨_, validate_options_idem hoptions, if_pos hcontract⟩
  · cases h

/-- The items of an accepted request are accepted as they are stored. -/
theorem stored_items_valid {arguments items : List HumanRequestItem}
    (h : validate_request_items library arguments = some items) :
    items.mapM (HumanRequestItem.model_validate library) = some items := by
  obtain ⟨found, hfound, h⟩ := Option.bind_eq_some_iff.mp h
  split at h
  · cases h
    exact mapM_idem (fun _ _ => HumanRequestItem.model_validate_idem) hfound
  · cases h

end Items

/-! # Answers -/

inductive HumanRequestItemAnswer
  | value (value : JsonValue)
  | option (option_id : String)
  | other (text : String)
  | skipped

namespace HumanRequestItemAnswer

def model_dump : HumanRequestItemAnswer → JsonValue
  | value content => .object [("kind", .string "value"), ("value", content)]
  | option option_id => .object [("kind", .string "option"), ("option_id", .string option_id)]
  | other text => .object [("kind", .string "other"), ("text", .string text)]
  | skipped => .object [("kind", .string "skipped")]

/-- An answer of the tagged form of its kind, without further keys. -/
def model_validate : JsonValue → Option HumanRequestItemAnswer
  | .object members =>
    match members.lookup "kind" with
    | some (.string "value") =>
      if members.all fun member => ["kind", "value"].contains member.1 then (members.lookup "value").map value else none
    | some (.string "option") =>
      match members.lookup "option_id" with
      | some (.string option_id) =>
        if members.all fun member => ["kind", "option_id"].contains member.1 then
          (runtime_schema_text option_id).map option
        else none
      | _ => none
    | some (.string "other") =>
      match members.lookup "text" with
      | some (.string text) =>
        if members.all fun member => ["kind", "text"].contains member.1 then (normalize_other_text text).map other
        else none
      | _ => none
    | some (.string "skipped") => if members.all fun member => member.1 == "kind" then some skipped else none
    | _ => none
  | .null | .bool _ | .int _ | .float _ | .string _ | .array _ => none

end HumanRequestItemAnswer

structure HumanRequestResolveRequest where
  item_responses : List (String × HumanRequestItemAnswer)

/-- `dictionary[key] = value`. -/
def set_item {α : Type} (dictionary : List (String × α)) (key : String) (value : α) : List (String × α) :=
  if dictionary.any fun pair => pair.1 == key then
    dictionary.map fun pair => if pair.1 == key then (key, value) else pair
  else dictionary ++ [(key, value)]

def serialize_human_request_item_answers (item_responses : List (String × HumanRequestItemAnswer)) : JsonObject :=
  item_responses.map fun response => (response.1, response.2.model_dump)

/-- One entry of the submitted responses. -/
def validate_item_response (entry : String × JsonValue) : Option (String × HumanRequestItemAnswer) := do
  let item_id ← runtime_schema_text entry.1
  let answer ← HumanRequestItemAnswer.model_validate entry.2
  return (item_id, answer)

def HumanRequestResolveRequest.model_validate (item_responses : JsonObject) : Option HumanRequestResolveRequest := do
  let entries ← item_responses.mapM validate_item_response
  let item_responses := entries.foldl (fun dictionary entry => set_item dictionary entry.1 entry.2) []
  if (1 ≤ item_responses.length ∧ item_responses.length ≤ 3) ∧
      is_bounded_json_value (.object (serialize_human_request_item_answers item_responses)) then
    some { item_responses }
  else none

/-- `_validated_item_responses` of what a request has stored. -/
def validated_item_responses (value : JsonObject) : Option (List (String × HumanRequestItemAnswer)) :=
  (HumanRequestResolveRequest.model_validate value).map HumanRequestResolveRequest.item_responses

section Answers

private theorem validate_option_dump (option_id : String) :
    HumanRequestItemAnswer.model_validate (HumanRequestItemAnswer.option option_id).model_dump =
      (runtime_schema_text option_id).map .option := by
  simp [HumanRequestItemAnswer.model_validate, HumanRequestItemAnswer.model_dump, List.lookup_cons]

private theorem validate_other_dump (text : String) :
    HumanRequestItemAnswer.model_validate (HumanRequestItemAnswer.other text).model_dump =
      (normalize_other_text text).map .other := by
  simp [HumanRequestItemAnswer.model_validate, HumanRequestItemAnswer.model_dump, List.lookup_cons]

theorem HumanRequestItemAnswer.model_validate_idem {data : JsonValue} {answer : HumanRequestItemAnswer}
    (h : HumanRequestItemAnswer.model_validate data = some answer) :
    HumanRequestItemAnswer.model_validate answer.model_dump = some answer := by
  unfold HumanRequestItemAnswer.model_validate at h
  split at h
  · split at h
    · split at h
      · obtain ⟨content, -, rfl⟩ := Option.map_eq_some_iff.mp h
        rfl
      · cases h
    · split at h
      · split at h
        · obtain ⟨option_id, hid, rfl⟩ := Option.map_eq_some_iff.mp h
          rw [validate_option_dump, runtime_schema_text_idem hid]
          rfl
        · cases h
      · cases h
    · split at h
      · split at h
        · obtain ⟨text, htext, rfl⟩ := Option.map_eq_some_iff.mp h
          rw [validate_other_dump, normalize_other_text_idem htext]
          rfl
        · cases h
      · cases h
    · split at h
      · cases h
        rfl
      · cases h
    · cases h
  all_goals cases h

/-- An entry that validation leaves as it is. -/
def IsStored (response : String × HumanRequestItemAnswer) : Prop :=
  validate_item_response (response.1, response.2.model_dump) = some response

theorem validate_item_response_stored {entry : String × JsonValue} {response : String × HumanRequestItemAnswer}
    (h : validate_item_response entry = some response) : IsStored response := by
  unfold IsStored validate_item_response at *
  obtain ⟨item_id, hid, h⟩ := Option.bind_eq_some_iff.mp h
  obtain ⟨answer, hanswer, h⟩ := Option.bind_eq_some_iff.mp h
  cases h
  refine Option.bind_eq_some_iff.mpr ⟨_, runtime_schema_text_idem hid, ?_⟩
  exact Option.bind_eq_some_iff.mpr ⟨_, HumanRequestItemAnswer.model_validate_idem hanswer, rfl⟩

variable {α : Type} {dictionary : List (String × α)} {key : String} {value : α}

theorem set_item_fresh (h : key ∉ dictionary.map Prod.fst) :
    set_item dictionary key value = dictionary ++ [(key, value)] := by
  refine if_neg fun hany => ?_
  obtain ⟨pair, hmem, hkey⟩ := List.any_eq_true.mp hany
  exact h (List.mem_map.mpr ⟨pair, hmem, beq_iff_eq.mp hkey⟩)

theorem set_item_keys (h : (dictionary.map Prod.fst).Nodup) : ((set_item dictionary key value).map Prod.fst).Nodup := by
  by_cases hmem : key ∈ dictionary.map Prod.fst
  · have hany : (dictionary.any fun pair => pair.1 == key) = true := by
      obtain ⟨pair, hpair, rfl⟩ := List.mem_map.mp hmem
      exact List.any_eq_true.mpr ⟨pair, hpair, beq_self_eq_true _⟩
    have hkeys : (dictionary.map fun pair => if pair.1 == key then (key, value) else pair).map Prod.fst =
        dictionary.map Prod.fst := by
      rw [List.map_map]
      refine List.map_congr_left fun pair _ => ?_
      by_cases hkey : pair.1 = key
      · simp [hkey]
      · simp [hkey]
    rw [set_item, if_pos hany, hkeys]
    exact h
  · rw [set_item_fresh hmem, List.map_append]
    exact List.nodup_append.mpr ⟨h, List.nodup_singleton _, fun other hother first hfirst heq => by
      rw [List.map_singleton, List.mem_singleton] at hfirst
      rw [heq, hfirst] at hother
      exact hmem hother⟩

theorem mem_set_item {pair : String × α} (h : pair ∈ set_item dictionary key value) :
    pair ∈ dictionary ∨ pair = (key, value) := by
  unfold set_item at h
  split at h
  · obtain ⟨other, hother, rfl⟩ := List.mem_map.mp h
    split
    · exact .inr rfl
    · exact .inl hother
  · rcases List.mem_append.mp h with h | h
    · exact .inl h
    · exact .inr (List.mem_singleton.mp h)

/-- A dictionary that is made of entries has each key once, and no other entry. -/
theorem foldl_set_item (entries : List (String × α)) (h : (dictionary.map Prod.fst).Nodup) :
    ((entries.foldl (fun dictionary entry => set_item dictionary entry.1 entry.2) dictionary).map Prod.fst).Nodup ∧
      ∀ pair ∈ entries.foldl (fun dictionary entry => set_item dictionary entry.1 entry.2) dictionary,
        pair ∈ dictionary ∨ pair ∈ entries := by
  induction entries generalizing dictionary with
  | nil => exact ⟨h, fun _ => .inl⟩
  | cons entry entries ih =>
    obtain ⟨hkeys, hmem⟩ := ih (set_item_keys h)
    refine ⟨hkeys, fun pair hpair => ?_⟩
    rcases hmem pair hpair with hold | hnew
    · rcases mem_set_item hold with hold | rfl
      · exact .inl hold
      · exact .inr List.mem_cons_self
    · exact .inr (List.mem_cons_of_mem _ hnew)

/-- Entries with different keys are the dictionary that is made of them. -/
theorem foldl_set_item_nodup {entries : List (String × α)} (h : ((dictionary ++ entries).map Prod.fst).Nodup) :
    entries.foldl (fun dictionary entry => set_item dictionary entry.1 entry.2) dictionary = dictionary ++ entries := by
  induction entries generalizing dictionary with
  | nil => exact (List.append_nil _).symm
  | cons entry entries ih =>
    have hfresh : entry.1 ∉ dictionary.map Prod.fst := by
      rw [List.map_append, List.map_cons] at h
      exact fun hmem => (List.nodup_append.mp h).2.2 _ hmem _ List.mem_cons_self rfl
    rw [List.foldl_cons, set_item_fresh hfresh, ih (by rwa [List.append_assoc]), List.append_assoc]
    rfl

/-- An accepted body holds each item once, in a form that validation leaves as it is, and is bounded. -/
structure HumanRequestResolveRequest.Accepted (request : HumanRequestResolveRequest) : Prop where
  keys : (request.item_responses.map Prod.fst).Nodup
  stored : ∀ response ∈ request.item_responses, IsStored response
  bounded : (1 ≤ request.item_responses.length ∧ request.item_responses.length ≤ 3) ∧
    is_bounded_json_value (.object (serialize_human_request_item_answers request.item_responses)) = true

theorem resolve_request_accepted {data : JsonObject} {request : HumanRequestResolveRequest}
    (h : HumanRequestResolveRequest.model_validate data = some request) : request.Accepted := by
  obtain ⟨entries, hentries, h⟩ := Option.bind_eq_some_iff.mp h
  dsimp only at h
  split at h
  · next hbounded =>
    cases h
    obtain ⟨hkeys, hmem⟩ := @foldl_set_item _ [] entries List.nodup_nil
    refine ⟨hkeys, fun response hresponse => ?_, hbounded⟩
    have hentry := (hmem response hresponse).resolve_left List.not_mem_nil
    obtain ⟨entry, -, hvalid⟩ := mem_of_mapM_eq_some hentries hentry
    exact validate_item_response_stored hvalid
  · cases h

/-- What an accepted body has stored is read back. -/
theorem validated_item_responses_serialize {request : HumanRequestResolveRequest} (h : request.Accepted) :
    validated_item_responses (serialize_human_request_item_answers request.item_responses) =
      some request.item_responses := by
  have hentries : (serialize_human_request_item_answers request.item_responses).mapM validate_item_response =
      some request.item_responses := by
    refine mapM_eq_some.mpr (List.forall₂_map_left_iff.mpr (List.forall₂_same.mpr fun response hresponse => ?_))
    exact h.stored response hresponse
  have hfold : request.item_responses.foldl (fun dictionary entry => set_item dictionary entry.1 entry.2) [] =
      request.item_responses := foldl_set_item_nodup h.keys
  refine Option.map_eq_some_iff.mpr ⟨request, Option.bind_eq_some_iff.mpr ⟨_, hentries, ?_⟩, rfl⟩
  dsimp only
  rw [hfold, if_pos h.bounded]

end Answers

end OhMySubagents.Contracts

import OhMySubagents.Json.Codec
import OhMySubagents.Workflows.Normalization

open JsonData

namespace OhMySubagents.Workflows

open Contracts

/-- How a reader takes what a mapping has at a key. -/
abbrev Look := String → Option JsonData → Option JsonData

/-- A mapping as it is. -/
def as_written : Look := fun _ value => value

/-- A Member's mapping after its normalization. -/
def as_normalized : Look := fun key value =>
  if key ∈ _OPTIONAL_MEMBER_PROSE then (value.map _normalize_value).filter fun value => !is_blank value
  else value.map _normalize_value

def has_member_keys (members : List (String × JsonData)) : Prop :=
  ∀ member ∈ members, member.1 = "children" ∨ member.1 ∈ MemberFields.members.keys

instance (members : List (String × JsonData)) : Decidable (has_member_keys members) :=
  inferInstanceAs (Decidable (∀ member ∈ members, _))

section Reader

variable (look : Look)

/-- What a mapping says of the Member itself. -/
def read_fields (members : List (String × JsonData)) : Option MemberFields :=
  if has_member_keys members then MemberFields.members.decode fun key => look key (members.lookup key) else none

mutual

/-- The Member tree that a payload is read as. -/
def read_member : JsonData → Option NormalizedMember
  | .object members => (read_fields look members).bind fun fields => (read_children_field members).map (.mk fields)
  | _ => none

def read_children_field : List (String × JsonData) → Option (Option (List NormalizedMember))
  | [] => some none
  | (key, value) :: members =>
    if key = "children" then (read_children value).map some else read_children_field members

def read_children : JsonData → Option (List NormalizedMember)
  | .array items => read_members items
  | _ => none

def read_members : List JsonData → Option (List NormalizedMember)
  | [] => some []
  | item :: items => (read_member item).bind fun member => (read_members items).map (member :: ·)

end

end Reader

/-- A Member's own fields are read from their own keys. -/
theorem local_members : MemberFields.members.Local :=
  .via (.and Fields.local_required (.and Fields.local_optional (.and Fields.local_optional
    (.and Fields.local_optional (.and Fields.local_settable Fields.local_settable)))))

section AsWritten

mutual

/-- `model_validate` reads a payload as it is written. -/
theorem model_validate_eq_read (payload : JsonData) :
    NormalizedMember.model_validate payload = read_member as_written payload := by
  match payload with
  | .object members =>
    rw [NormalizedMember.model_validate, read_member, read_fields, validate_children_field_eq_read members]
    split
    · next h => rw [if_pos (show has_member_keys members from h)]; rfl
    · next h => rw [if_neg (show ¬has_member_keys members from h)]; rfl
  | .null | .bool _ | .int _ | .string _ | .array _ => rfl

theorem validate_children_field_eq_read (members : List (String × JsonData)) :
    NormalizedMember.validate_children_field members = read_children_field as_written members := by
  match members with
  | [] => rfl
  | (key, value) :: members =>
    rw [NormalizedMember.validate_children_field, read_children_field, validate_children_eq_read value,
      validate_children_field_eq_read members]

theorem validate_children_eq_read (payload : JsonData) :
    NormalizedMember.validate_children payload = read_children as_written payload := by
  match payload with
  | .array items =>
    rw [NormalizedMember.validate_children, read_children, validate_members_eq_read items]
  | .null | .bool _ | .int _ | .string _ | .object _ => rfl

theorem validate_members_eq_read (items : List JsonData) :
    NormalizedMember.validate_members items = read_members as_written items := by
  match items with
  | [] => rfl
  | item :: items =>
    rw [NormalizedMember.validate_members, read_members, model_validate_eq_read item, validate_members_eq_read items]

end

end AsWritten

section AsNormalized

variable {members : List (String × JsonData)} {key : String}

theorem mem_omit_blank_optional {member : String × JsonData} (h : member ∈ _omit_blank_optional members key) :
    member ∈ members := by
  unfold _omit_blank_optional at h
  split at h
  · exact List.mem_of_mem_filter h
  · exact h

theorem mem_of_omitted {member : String × JsonData} (h : member ∈ members)
    (hkey : member.1 ≠ key) : member ∈ _omit_blank_optional members key := by
  unfold _omit_blank_optional
  split
  · exact List.mem_filter.mpr ⟨h, decide_eq_true hkey⟩
  · exact h

/-- Omitting blank prose changes nothing about which other keys there are. -/
theorem has_member_keys_omit (hkey : key ∈ MemberFields.members.keys) :
    has_member_keys (_omit_blank_optional members key) ↔ has_member_keys members := by
  constructor
  · intro h member hmember
    by_cases heq : member.1 = key
    · exact .inr (heq ▸ hkey)
    · exact h member (mem_of_omitted hmember heq)
  · exact fun h member hmember => h member (mem_omit_blank_optional hmember)

theorem read_children_field_omit {look : Look} (hkey : key ≠ "children") :
    read_children_field look (_omit_blank_optional members key) = read_children_field look members := by
  have hfilter : read_children_field look (members.filter fun member => member.1 ≠ key) =
      read_children_field look members := by
    induction members with
    | nil => rfl
    | cons member members ih =>
      obtain ⟨name, value⟩ := member
      rw [List.filter_cons]
      split
      · rw [read_children_field, read_children_field, ih]
      · next hdropped =>
        have hname : name = key := by simpa using hdropped
        rw [read_children_field, if_neg (by rw [hname]; exact hkey), ih]
  unfold _omit_blank_optional
  split
  · exact hfilter
  · rfl

theorem lookup_normalize_children_field (hkey : key ≠ "children") :
    (normalize_children_field members).lookup key = members.lookup key := by
  induction members with
  | nil => rfl
  | cons member members ih =>
    obtain ⟨name, value⟩ := member
    rw [normalize_children_field, lookup_cons, lookup_cons, ih]
    by_cases hname : key = name
    · rw [if_pos hname, if_pos hname, if_neg (by rw [← hname]; exact hkey)]
    · rw [if_neg hname, if_neg hname]

theorem has_member_keys_children_field :
    has_member_keys (normalize_children_field (normalize_members members)) ↔ has_member_keys members := by
  unfold has_member_keys
  induction members with
  | nil => rfl
  | cons member members ih =>
    obtain ⟨name, value⟩ := member
    rw [normalize_members, normalize_children_field, List.forall_mem_cons, List.forall_mem_cons, ih]

/-- The members of a Member's mapping after its normalization. -/
def normalized_member_payload (members : List (String × JsonData)) : List (String × JsonData) :=
  _OPTIONAL_MEMBER_PROSE.foldl _omit_blank_optional (normalize_children_field (normalize_members members))

theorem lookup_normalized_member_payload (hkey : key ≠ "children") :
    (normalized_member_payload members).lookup key = as_normalized key (members.lookup key) := by
  change (_omit_blank_optional (_omit_blank_optional (_omit_blank_optional
    (normalize_children_field (normalize_members members)) "title") "description") "instruction").lookup key = _
  have hplain : (normalize_children_field (normalize_members members)).lookup key =
      (members.lookup key).map _normalize_value := by
    rw [lookup_normalize_children_field hkey, lookup_normalize_members]
  unfold as_normalized _OPTIONAL_MEMBER_PROSE
  by_cases htitle : key = "title"
  · subst htitle
    rw [lookup_omit_blank_optional_ne (by decide), lookup_omit_blank_optional_ne (by decide),
      lookup_omit_blank_optional_self, hplain, if_pos (by decide)]
  by_cases hdescription : key = "description"
  · subst hdescription
    rw [lookup_omit_blank_optional_ne (by decide), lookup_omit_blank_optional_self,
      lookup_omit_blank_optional_ne (by decide), hplain, if_pos (by decide)]
  by_cases hinstruction : key = "instruction"
  · subst hinstruction
    rw [lookup_omit_blank_optional_self, lookup_omit_blank_optional_ne (by decide),
      lookup_omit_blank_optional_ne (by decide), hplain, if_pos (by decide)]
  · rw [lookup_omit_blank_optional_ne hinstruction, lookup_omit_blank_optional_ne hdescription,
      lookup_omit_blank_optional_ne htitle, hplain, if_neg (by simp [htitle, hdescription, hinstruction])]

theorem read_fields_normalized :
    read_fields as_written (normalized_member_payload members) = read_fields as_normalized members := by
  have hkeys : has_member_keys (normalized_member_payload members) ↔ has_member_keys members := by
    unfold normalized_member_payload
    simp only [_OPTIONAL_MEMBER_PROSE, List.foldl_cons, List.foldl_nil]
    rw [has_member_keys_omit (by decide), has_member_keys_omit (by decide), has_member_keys_omit (by decide),
      has_member_keys_children_field]
  unfold read_fields
  rw [if_congr hkeys rfl rfl]
  split
  · refine local_members _ _ fun k hk => ?_
    rw [as_written, lookup_normalized_member_payload (by rintro rfl; revert hk; decide)]
  · rfl

mutual

/-- What validation reads from a normalized Member mapping, told from the mapping before. -/
theorem read_normalized_member (payload : JsonData) :
    read_member as_written (_normalize_member_mapping (_normalize_value payload)) =
      read_member as_normalized payload := by
  match payload with
  | .object members =>
    change read_member as_written (.object (normalized_member_payload members)) = _
    rw [read_member, read_member, read_fields_normalized, ← read_normalized_children_field members]
    unfold normalized_member_payload _OPTIONAL_MEMBER_PROSE
    rw [List.foldl_cons, List.foldl_cons, List.foldl_cons, List.foldl_nil, read_children_field_omit (by decide),
      read_children_field_omit (by decide), read_children_field_omit (by decide)]
  | .null | .bool _ | .int _ | .string _ | .array _ => rfl

theorem read_normalized_children_field (members : List (String × JsonData)) :
    read_children_field as_written (normalize_children_field (normalize_members members)) =
      read_children_field as_normalized members := by
  match members with
  | [] => rfl
  | (key, value) :: members =>
    rw [normalize_members, normalize_children_field, read_children_field, read_children_field,
      read_normalized_children_field members]
    split
    · rw [read_normalized_children value]
    · rfl

theorem read_normalized_children (payload : JsonData) :
    read_children as_written (normalize_children (_normalize_value payload)) = read_children as_normalized payload := by
  match payload with
  | .array items =>
    rw [_normalize_value, normalize_children, read_children, read_children, read_normalized_members items]
  | .null | .bool _ | .int _ | .string _ | .object _ => rfl

theorem read_normalized_members (items : List JsonData) :
    read_members as_written (normalize_child_mappings (normalize_items items)) = read_members as_normalized items := by
  match items with
  | [] => rfl
  | item :: items =>
    rw [normalize_items, normalize_child_mappings, read_members, read_members, read_normalized_member item,
      read_normalized_members items]

end

end AsNormalized

end OhMySubagents.Workflows

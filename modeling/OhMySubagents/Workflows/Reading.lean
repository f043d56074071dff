import OhMySubagents.Workflows.NormalForm

open JsonData

namespace OhMySubagents.Workflows

open Contracts

section Values

/-- Data that text normalization leaves alone. -/
def Plain (value : JsonData) : Prop := _normalize_value value = value

instance (value : JsonData) : Decidable (Plain value) := inferInstanceAs (Decidable (_normalize_value value = value))

theorem normalize_members_append (members members' : List (String × JsonData)) :
    normalize_members (members ++ members') = normalize_members members ++ normalize_members members' := by
  induction members with
  | nil => rfl
  | cons member members ih =>
    obtain ⟨key, value⟩ := member
    rw [List.cons_append, normalize_members, normalize_members, ih, List.cons_append]

theorem normalize_items_map {α : Type} {f : α → JsonData} (h : ∀ a, Plain (f a)) (items : List α) :
    normalize_items (items.map f) = items.map f := by
  induction items with
  | nil => rfl
  | cons item items ih => rw [List.map_cons, normalize_items, ih, h item]

theorem normalize_new_field {α : Type} {key : String} {encode : α → JsonData} {f : α → α}
    (h : ∀ a, _normalize_value (encode a) = encode (f a)) (value : Option α) :
    normalize_members (new_field key encode value) = new_field key encode (value.map f) := by
  cases value with
  | none => rfl
  | some value => exact congrArg (fun v => [(key, v)]) (h value)

theorem normalize_plain_field {α : Type} {key : String} {encode : α → JsonData} (h : ∀ a, Plain (encode a))
    (value : Option α) : normalize_members (new_field key encode value) = new_field key encode value := by
  rw [normalize_new_field (f := id) h value, Option.map_id_fun, id]

theorem plain_kind (kind : StoredProviderKind) : Plain (StoredProviderKind.codec.encode kind) := by
  cases kind <;> decide +kernel

theorem plain_effort (effort : ProviderEffort) : Plain (ProviderEffort.codec.encode effort) := by
  cases effort <;> decide +kernel

theorem plain_extension_mode (mode : ManagedExtensionMode) : Plain (ManagedExtensionMode.codec.encode mode) := by
  cases mode <;> decide +kernel

theorem plain_request_kind (kind : HumanRequestKind) : Plain (HumanRequestKind.codec.encode kind) := by
  cases kind <;> decide +kernel

theorem plain_sandbox (sandbox : ProviderSandbox) : Plain (ProviderSandbox.codec.encode sandbox) := by
  have hmode : Plain (SandboxMode.codec.encode sandbox.mode) := by
    cases sandbox.mode <;> decide +kernel
  have hnetwork : Plain (Access.codec.encode sandbox.network) := by
    cases sandbox.network <;> decide +kernel
  have hmembers : normalize_members [("mode", SandboxMode.codec.encode sandbox.mode),
      ("network", Access.codec.encode sandbox.network)] = [("mode", SandboxMode.codec.encode sandbox.mode),
      ("network", Access.codec.encode sandbox.network)] := by
    rw [normalize_members, normalize_members, normalize_members, hmode, hnetwork]
  exact congrArg JsonData.object hmembers

theorem plain_capabilities (capabilities : MemberCapabilities) :
    Plain (MemberCapabilities.codec.encode capabilities) := by
  have hkinds : ∀ kinds : {kinds : List HumanRequestKind // 1 ≤ kinds.length ∧ kinds.length ≤ 4},
      Plain ((HumanRequestKind.codec.list.check _).encode kinds) := fun kinds =>
    congrArg JsonData.array (normalize_items_map plain_request_kind kinds.val)
  have hmembers := normalize_members_append
    (new_field "human_request" (HumanRequestKind.codec.list.check _).encode capabilities.human_request)
    (new_field "command_run" (Codec.literal "allow").encode capabilities.command_run)
  have hgrant : ∀ u, Plain ((Codec.literal "allow").encode u) := by
    rintro ⟨⟩
    decide +kernel
  rw [normalize_plain_field hkinds, normalize_plain_field hgrant] at hmembers
  exact congrArg JsonData.object hmembers

theorem normalize_selection (selection : StoredProviderSelection) :
    _normalize_value (StoredProviderSelection.codec.encode selection) =
      StoredProviderSelection.codec.encode selection.normalized := by
  have hmembers : normalize_members ([("kind", StoredProviderKind.codec.encode selection.kind)] ++
      (new_field "model" (NonblankText.codec 255).encode selection.model ++
      (new_field "effort" ProviderEffort.codec.encode selection.effort ++
      (new_field "sandbox" ProviderSandbox.codec.encode selection.sandbox ++
      new_field "extension_mode" ManagedExtensionMode.codec.encode selection.extension_mode)))) =
    [("kind", StoredProviderKind.codec.encode selection.kind)] ++
      (new_field "model" (NonblankText.codec 255).encode (selection.model.map NonblankText.normalized) ++
      (new_field "effort" ProviderEffort.codec.encode selection.effort ++
      (new_field "sandbox" ProviderSandbox.codec.encode selection.sandbox ++
      new_field "extension_mode" ManagedExtensionMode.codec.encode selection.extension_mode))) := by
    rw [normalize_members_append, normalize_members_append, normalize_members_append, normalize_members_append,
      normalize_new_field (f := NonblankText.normalized) fun _ => rfl, normalize_plain_field plain_effort,
      normalize_plain_field plain_sandbox, normalize_plain_field plain_extension_mode]
    rw [normalize_members, plain_kind, normalize_members]
  exact congrArg JsonData.object hmembers

end Values

/-- A reader takes the dump of a Member for the Member with its fields changed. -/
structure Reads (look : Look) (change : MemberFields → MemberFields) : Prop where
  fields : ∀ fields, MemberFields.members.decode
    (fun key => look key ((MemberFields.members.encode fields).lookup key)) = some (change fields)
  id : ∀ fields, (change fields).id = fields.id
  is_retired : ∀ fields, (change fields).provider.any (·.kind = .openclaw) = fields.provider.any (·.kind = .openclaw)

theorem reads_as_written : Reads as_written fun fields => fields where
  fields fields := MemberFields.members.decode_encode fields _ fun _ _ => rfl
  id _ := rfl
  is_retired _ := rfl

section Lookups

variable {fields : MemberFields} {key : String}

theorem members_encode_eq : MemberFields.members.encode fields = [("id", .string fields.id.val)] ++
    (new_field "title" (fun text => .string text.val) fields.title ++
    (new_field "description" (fun text => .string text.val) fields.description ++
    (new_field "instruction" (fun text => .string text.val) fields.instruction ++
    (new_field "provider" StoredProviderSelection.codec.encode fields.provider ++
    new_field "capabilities" MemberCapabilities.codec.encode fields.capabilities)))) := rfl

theorem lookup_new_field {α : Type} {name : String} {encode : α → JsonData} {value : Option α} :
    (new_field name encode value).lookup key = if key = name then value.map encode else none := by
  cases value with
  | none => simp [new_field]
  | some value =>
    rw [new_field, Option.toList_some, List.map_singleton, lookup_cons]
    rfl

/-- What the dump of a Member's own fields has at a key. -/
theorem lookup_members_encode : (MemberFields.members.encode fields).lookup key =
    if key = "id" then some (.string fields.id.val)
    else if key = "title" then fields.title.map fun text => .string text.val
    else if key = "description" then fields.description.map fun text => .string text.val
    else if key = "instruction" then fields.instruction.map fun text => .string text.val
    else if key = "provider" then fields.provider.map StoredProviderSelection.codec.encode
    else if key = "capabilities" then fields.capabilities.map MemberCapabilities.codec.encode
    else none := by
  rw [members_encode_eq, List.lookup_append, List.lookup_append, List.lookup_append, List.lookup_append,
    List.lookup_append, lookup_new_field, lookup_new_field, lookup_new_field, lookup_new_field, lookup_new_field,
    lookup_cons, List.lookup_nil]
  by_cases hid : key = "id"
  · rw [if_pos hid, if_pos hid, Option.some_or]
  rw [if_neg hid, if_neg hid, Option.none_or]
  by_cases htitle : key = "title"
  · subst htitle
    simp
  rw [if_neg htitle, if_neg htitle, Option.none_or]
  by_cases hdescription : key = "description"
  · subst hdescription
    simp
  rw [if_neg hdescription, if_neg hdescription, Option.none_or]
  by_cases hinstruction : key = "instruction"
  · subst hinstruction
    simp
  rw [if_neg hinstruction, if_neg hinstruction, Option.none_or]
  by_cases hprovider : key = "provider"
  · subst hprovider
    simp
  rw [if_neg hprovider, if_neg hprovider, Option.none_or]

end Lookups

theorem as_normalized_prose {key : String} {n : Nat} (hkey : key ∈ _OPTIONAL_MEMBER_PROSE)
    (text : Option (BoundedText n)) :
    as_normalized key (text.map fun text => .string text.val) =
      (normalized_prose text).map fun text => .string text.val := by
  rw [as_normalized, if_pos hkey]
  cases text with
  | none => rfl
  | some text =>
    change (some (JsonData.string (normalize_text text.val))).filter _ = _
    unfold normalized_prose
    rw [Option.map_some, Option.filter_some, Option.filter_some]
    change (if !is_blank_text (normalize_text text.val) then _ else _) =
      Option.map _ (if !is_blank_text (normalize_text text.val) then _ else _)
    split <;> rfl

theorem reads_as_normalized : Reads as_normalized MemberFields.normalized where
  fields fields := by
    refine MemberFields.members.decode_encode _ _ fun key hkey => ?_
    rw [lookup_members_encode, lookup_members_encode]
    by_cases hid : key = "id"
    · subst hid
      exact congrArg some (normalize_identifier fields.id)
    rw [if_neg hid, if_neg hid]
    by_cases htitle : key = "title"
    · subst htitle
      exact as_normalized_prose (by decide) fields.title
    rw [if_neg htitle, if_neg htitle]
    by_cases hdescription : key = "description"
    · subst hdescription
      exact as_normalized_prose (by decide) fields.description
    rw [if_neg hdescription, if_neg hdescription]
    by_cases hinstruction : key = "instruction"
    · subst hinstruction
      exact as_normalized_prose (by decide) fields.instruction
    rw [if_neg hinstruction, if_neg hinstruction]
    have hplain : key ∉ _OPTIONAL_MEMBER_PROSE := by simp [_OPTIONAL_MEMBER_PROSE, htitle, hdescription, hinstruction]
    rw [as_normalized, if_neg hplain]
    by_cases hprovider : key = "provider"
    · rw [if_pos hprovider, if_pos hprovider, MemberFields.normalized, Option.map_map, Option.map_map]
      exact congrArg (fun f => fields.provider.map f) (funext normalize_selection)
    rw [if_neg hprovider, if_neg hprovider]
    by_cases hcapabilities : key = "capabilities"
    · rw [if_pos hcapabilities, if_pos hcapabilities, Option.map_map]
      exact congrArg (fun f => fields.capabilities.map f) (funext plain_capabilities)
    · rw [if_neg hcapabilities, if_neg hcapabilities, Option.map_none]
  id _ := rfl
  is_retired fields := by
    rw [MemberFields.normalized, Option.any_map]
    rfl

/-- The members of a Member's dump. -/
def NormalizedMember.payload : NormalizedMember → List (String × JsonData)
  | mk fields none => MemberFields.members.encode fields
  | mk fields (some children) => MemberFields.members.encode fields ++ [("children", .array (dump_members children))]

theorem NormalizedMember.dump_eq (member : NormalizedMember) : member.dump = .object member.payload := by
  obtain ⟨fields, _ | children⟩ := member <;> rfl

theorem has_member_keys_encode (fields : MemberFields) (children : List (String × JsonData))
    (h : ∀ member ∈ children, member.1 = "children") :
    has_member_keys (MemberFields.members.encode fields ++ children) := by
  intro member hmember
  rcases List.mem_append.mp hmember with hmember | hmember
  · exact .inr (MemberFields.members.encode_keys fields member hmember)
  · exact .inl (h member hmember)

theorem lookup_children_encode (fields : MemberFields) (children : List (String × JsonData)) :
    (MemberFields.members.encode fields ++ children).lookup "children" = children.lookup "children" := by
  rw [List.lookup_append, Fields.lookup_eq_none (MemberFields.members.encode_keys fields) (by decide), Option.none_or]

theorem lookup_encode_append (fields : MemberFields) (children : List (String × JsonData))
    (h : ∀ member ∈ children, member.1 = "children") {key : String} (hkey : key ∈ MemberFields.members.keys) :
    (MemberFields.members.encode fields ++ children).lookup key = (MemberFields.members.encode fields).lookup key := by
  have hnone : children.lookup key = none := by
    have hkeys : ∀ member ∈ children, member.1 ∈ ["children"] := fun member hmember => by
      rw [h member hmember]
      exact List.mem_cons_self
    refine Fields.lookup_eq_none hkeys ?_
    rw [List.mem_singleton]
    rintro rfl
    revert hkey
    decide
  rw [List.lookup_append, hnone, Option.or_none]

/-- The `children` of a mapping are what it has at that key. -/
theorem read_children_field_eq {look : Look} (members : List (String × JsonData)) :
    read_children_field look members = (members.lookup "children").elim (some none) fun value =>
      (read_children look value).map some := by
  induction members with
  | nil => rfl
  | cons member members ih =>
    obtain ⟨key, value⟩ := member
    rw [read_children_field, lookup_cons, ih]
    by_cases hkey : key = "children"
    · rw [if_pos hkey, if_pos hkey.symm]
      rfl
    · rw [if_neg hkey, if_neg fun heq => hkey heq.symm]

section ReadDumps

variable {look : Look} {change : MemberFields → MemberFields}

theorem Reads.read_fields (h : Reads look change) (fields : MemberFields) (children : List (String × JsonData))
    (hchildren : ∀ member ∈ children, member.1 = "children") :
    read_fields look (MemberFields.members.encode fields ++ children) = some (change fields) := by
  rw [Workflows.read_fields, if_pos (has_member_keys_encode fields children hchildren), ← h.fields fields]
  exact local_members _ _ fun key hkey => by rw [lookup_encode_append fields children hchildren hkey]

mutual

/-- A reader takes the dump of a tree for the tree with the fields of every Member changed. -/
theorem Reads.read_dump (h : Reads look change) (member : NormalizedMember) :
    read_member look member.dump = some (member.map_fields change) := by
  match member with
  | .mk fields none =>
    have hfields := h.read_fields fields [] nofun
    rw [List.append_nil] at hfields
    have hchildren : read_children_field look (MemberFields.members.encode fields) = some none := by
      rw [read_children_field_eq, Fields.lookup_eq_none (MemberFields.members.encode_keys fields) (by decide)]
      rfl
    rw [NormalizedMember.dump, read_member, hfields, hchildren]
    rfl
  | .mk fields (some children) =>
    rw [NormalizedMember.dump, read_member, h.read_fields fields _ (by simp), read_children_field_eq,
      lookup_children_encode]
    change ((some (change fields)).bind fun fields => ((read_members look (NormalizedMember.dump_members children)).map
      some).map (NormalizedMember.mk fields)) = _
    rw [h.read_dump_members children]
    rfl

theorem Reads.read_dump_members (h : Reads look change) (members : List NormalizedMember) :
    read_members look (NormalizedMember.dump_members members) =
      some (NormalizedMember.map_fields_all change members) := by
  match members with
  | [] => rfl
  | child :: children =>
    rw [NormalizedMember.dump_members, read_members, h.read_dump child, h.read_dump_members children]
    rfl

end

end ReadDumps

/-- A Member's dump is validated as the Member. -/
theorem NormalizedMember.model_validate_dump (member : NormalizedMember) :
    model_validate member.dump = some member := by
  rw [model_validate_eq_read, reads_as_written.read_dump, map_fields_id]

end OhMySubagents.Workflows

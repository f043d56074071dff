import OhMySubagents.Workflows.Edits

open JsonData

namespace OhMySubagents.Workflows

open OhMySubagents.Workflows.NormalizedMember

/-- Induction over an authored tree and over its lists of children at once. -/
theorem NewMember.forest_induction {P : NewMember → Prop} {Q : List NewMember → Prop}
    (leaf : ∀ fields, P (mk fields none)) (node : ∀ fields children, Q children → P (mk fields (some children)))
    (nil : Q []) (cons : ∀ child children, P child → Q children → Q (child :: children)) :
    (∀ member, P member) ∧ ∀ children, Q children := by
  have hmember : ∀ member, P member := fun member =>
    @NewMember.rec P (fun children => ∀ fields, P (mk fields children)) Q (fun fields children ih => ih fields)
      leaf (fun children ih fields => node fields children ih) nil (fun child children => cons child children) member
  refine ⟨hmember, fun children => ?_⟩
  induction children with
  | nil => exact nil
  | cons child children ih => exact cons child children (hmember child) ih

section Allocated

variable {σ : Type} (allocate_id : σ → String × σ)

mutual

/-- The Members of an authored tree with the identifiers that they are given, a Member before its children. -/
def drawn_members (drawn : σ) : NewMember → List (String × NewMemberFields)
  | .mk fields none => [((allocate_id drawn).1, fields)]
  | .mk fields (some children) => ((allocate_id drawn).1, fields) :: drawn_children (allocate_id drawn).2 children

def drawn_children (drawn : σ) : List NewMember → List (String × NewMemberFields)
  | [] => []
  | child :: children =>
    drawn_members drawn child ++ drawn_children (_new_member_payload allocate_id drawn child).2 children

end

end Allocated

/-- The members of a new Member's mapping but for its `children`. -/
def new_member_mapping (drawn : String × NewMemberFields) : List (String × JsonData) :=
  ("id", .string drawn.1) :: drawn.2.dump

section Lookups

variable {drawn : String × NewMemberFields} {key : String}

theorem lookup_new_member_mapping : (new_member_mapping drawn).lookup key =
    if key = "id" then some (.string drawn.1)
    else if key = "title" then drawn.2.title.map .string
    else if key = "description" then drawn.2.description.map .string
    else if key = "instruction" then drawn.2.instruction.map .string
    else if key = "provider" then drawn.2.provider.map ProviderSelection.codec.encode
    else if key = "capabilities" then drawn.2.capabilities.map MemberCapabilities.codec.encode
    else none := by
  rw [new_member_mapping, NewMemberFields.dump, lookup_cons, List.lookup_append, List.lookup_append, List.lookup_append,
    List.lookup_append, lookup_new_field, lookup_new_field, lookup_new_field, lookup_new_field, lookup_new_field]
  by_cases hid : key = "id"
  · rw [if_pos hid, if_pos hid]
  rw [if_neg hid, if_neg hid]
  by_cases htitle : key = "title"
  · subst htitle
    simp
  rw [if_neg htitle, if_neg htitle, Option.none_or]
  by_cases hdescription : key = "description"
  · subst hdescription
    simp
  rw [if_neg hdescription, if_neg hdescription, Option.none_or]
  by_cases hinstruction : key = "instruction"
  · subst hinstruction
    simp
  rw [if_neg hinstruction, if_neg hinstruction, Option.none_or]
  by_cases hprovider : key = "provider"
  · subst hprovider
    simp
  rw [if_neg hprovider, if_neg hprovider, Option.none_or]

theorem lookup_mapping_append {children : List (String × JsonData)} (h : ∀ member ∈ children, member.1 = "children")
    (hkey : key ≠ "children") :
    (new_member_mapping drawn ++ children).lookup key = (new_member_mapping drawn).lookup key := by
  have hnone : children.lookup key = none := by
    have hkeys : ∀ member ∈ children, member.1 ∈ ["children"] := fun member hmember => by
      rw [h member hmember]
      exact List.mem_cons_self
    refine Fields.lookup_eq_none hkeys ?_
    rwa [List.mem_singleton]
  rw [List.lookup_append, hnone, Option.or_none]

theorem lookup_children_mapping {children : List (String × JsonData)} :
    (new_member_mapping drawn ++ children).lookup "children" = children.lookup "children" := by
  rw [List.lookup_append, lookup_new_member_mapping]
  rfl

end Lookups

/-- What a reader takes the mapping of one new Member for. -/
def ReadsNew (look : Look) (drawn : String × NewMemberFields) (fields : MemberFields) : Prop :=
  MemberFields.members.decode (fun key => look key ((new_member_mapping drawn).lookup key)) = some fields

section Reading

variable {σ : Type} {allocate_id : σ → String × σ} {look : Look}

private theorem reads_new_of_fields {drawn : String × NewMemberFields} {children : List (String × JsonData)}
    (hchildren : ∀ member ∈ children, member.1 = "children") {fields : MemberFields}
    (h : read_fields look (new_member_mapping drawn ++ children) = some fields) : ReadsNew look drawn fields := by
  refine (local_members _ _ fun key hkey => ?_).trans (read_fields_eq_some h)
  rw [lookup_mapping_append hchildren]
  rintro rfl
  revert hkey
  decide

private theorem read_new_all :
    (∀ member (drawn : σ) new, read_member look (_new_member_payload allocate_id drawn member).1 = some new →
        List.Forall₂ (ReadsNew look) (drawn_members allocate_id drawn member) new.all_fields) ∧
      ∀ children (drawn : σ) news, read_members look (new_children_payload allocate_id drawn children).1 = some news →
        List.Forall₂ (ReadsNew look) (drawn_children allocate_id drawn children) (all_fields_of news) := by
  refine NewMember.forest_induction ?_ ?_ ?_ ?_
  · intro fields drawn new h
    rw [_new_member_payload] at h
    change read_member look (.object (new_member_mapping ((allocate_id drawn).1, fields))) = _ at h
    rw [← List.append_nil (new_member_mapping _), read_member] at h
    obtain ⟨own, hown, h⟩ := Option.bind_eq_some_iff.mp h
    obtain ⟨children, hchildren, rfl⟩ := Option.map_eq_some_iff.mp h
    rw [read_children_field_eq, lookup_children_mapping] at hchildren
    obtain rfl := Option.some.inj hchildren
    rw [drawn_members, all_fields]
    exact .cons (reads_new_of_fields (List.forall_mem_nil _) hown) .nil
  · intro fields children ih drawn new h
    rw [_new_member_payload] at h
    change read_member look (.object (new_member_mapping ((allocate_id drawn).1, fields) ++
      [("children", .array (new_children_payload allocate_id (allocate_id drawn).2 children).1)])) = _ at h
    rw [read_member] at h
    obtain ⟨own, hown, h⟩ := Option.bind_eq_some_iff.mp h
    obtain ⟨below, hbelow, rfl⟩ := Option.map_eq_some_iff.mp h
    rw [read_children_field_eq, lookup_children_mapping] at hbelow
    obtain ⟨news, hnews, rfl⟩ := Option.map_eq_some_iff.mp hbelow
    rw [drawn_members, all_fields]
    exact .cons (reads_new_of_fields (by simp) hown) (ih _ news hnews)
  · intro drawn news h
    rw [new_children_payload, read_members] at h
    obtain rfl := Option.some.inj h
    rw [drawn_children, all_fields_of]
    exact .nil
  · intro child children hchild hchildren drawn news h
    rw [new_children_payload] at h
    change read_members look ((_new_member_payload allocate_id drawn child).1 ::
      (new_children_payload allocate_id (_new_member_payload allocate_id drawn child).2 children).1) = _ at h
    rw [read_members] at h
    obtain ⟨first, hfirst, h⟩ := Option.bind_eq_some_iff.mp h
    obtain ⟨rest, hrest, rfl⟩ := Option.map_eq_some_iff.mp h
    rw [drawn_children, all_fields_of]
    exact List.rel_append (hchild _ first hfirst) (hchildren _ rest hrest)

/-- A new Member's payload is read Member by Member, in the order in which identifiers were drawn. -/
theorem read_new_member {member : NewMember} {drawn : σ} {new : NormalizedMember}
    (h : read_member look (_new_member_payload allocate_id drawn member).1 = some new) :
    List.Forall₂ (ReadsNew look) (drawn_members allocate_id drawn member) new.all_fields :=
  read_new_all.1 member drawn new h

/-- A Member's provider is retired as it was before a reader took it. -/
theorem Reads.is_retired_decode {f : MemberFields → MemberFields} (h : Reads look f)
    (provider : Option StoredProviderSelection) {provider' : Option StoredProviderSelection}
    (id : Contracts.Identifier) {lookup : String → Option JsonData}
    (hlookup : lookup "provider" = look "provider" (provider.map StoredProviderSelection.codec.encode))
    (hdecode : (Fields.settable "provider" StoredProviderSelection.codec).decode lookup = some provider') :
    provider'.any (·.kind = .openclaw) = provider.any (·.kind = .openclaw) := by
  -- read the same selection in a Member that has nothing else
  have hfields := h.fields ⟨id, none, none, none, provider, none⟩
  obtain ⟨-, -, -, -, hprovider, -⟩ := members_decode_eq_some hfields
  have hsame := @Fields.local_settable _ "provider" StoredProviderSelection.codec lookup
    (fun key => look key ((MemberFields.members.encode ⟨id, none, none, none, provider, none⟩).lookup key))
    fun key hkey => by
      rw [List.mem_singleton.mp hkey, hlookup, lookup_members_encode]
      rfl
  rw [hsame, hprovider] at hdecode
  rw [← Option.some.inj hdecode, h.is_retired]

/-- A Member's identifier is read as it was before a reader took it. -/
theorem Reads.id_decode {f : MemberFields → MemberFields} (h : Reads look f) (id : Contracts.Identifier)
    {id' : Contracts.Identifier} {value : Option JsonData} (hvalue : value = look "id" (some (.string id.val)))
    (hdecode : value.bind Contracts.Identifier.codec.decode = some id') : id' = id := by
  have hfields := (members_decode_eq_some (h.fields ⟨id, none, none, none, none, none⟩)).1
  rw [lookup_members_encode, if_pos rfl, ← hvalue, hdecode, h.id] at hfields
  exact Option.some.inj hfields

/-- A new Member has the identifier that was drawn for it. -/
theorem ReadsNew.id_written {drawn : String × NewMemberFields} {fields : MemberFields}
    (h : ReadsNew as_written drawn fields) : fields.id.val = drawn.1 := by
  have hid := (members_decode_eq_some h).1
  rw [lookup_new_member_mapping, if_pos rfl] at hid
  exact (JsonData.string.inj (string_check_decode.mp hid)).symm

theorem ReadsNew.id_normalized {drawn : String × NewMemberFields} {fields : MemberFields}
    (h : ReadsNew as_normalized drawn fields) : fields.id.val = drawn.1 := by
  have hid := (members_decode_eq_some h).1
  rw [lookup_new_member_mapping, if_pos rfl] at hid
  have hnormal : normalize_text drawn.1 = fields.id.val := JsonData.string.inj (string_check_decode.mp hid)
  -- an identifier has no newlines, so that none was normalized
  have hplain : normalize_newlines drawn.1.toList = drawn.1.toList := by
    refine normalize_newlines_eq_self_of_no_newline fun hmem => ?_
    have hmem' : '\n' ∈ fields.id.val.toList := by
      rw [← hnormal, normalize_text, String.toList_ofList]
      exact hmem
    exact absurd (identifier_characters fields.id _ hmem') (by decide)
  rw [← hnormal, normalize_text, hplain, String.ofList_toList]

/-- No new Member selects the retired provider. -/
theorem ReadsNew.is_retired {f : MemberFields → MemberFields} (h : Reads look f) {drawn : String × NewMemberFields}
    {fields : MemberFields} (hnew : ReadsNew look drawn fields) : fields.provider.any (·.kind = .openclaw) = false := by
  obtain ⟨-, -, -, -, hprovider, -⟩ := members_decode_eq_some hnew
  have hlookup : (new_member_mapping drawn).lookup "provider" =
      (drawn.2.provider.map Subtype.val).map StoredProviderSelection.codec.encode := by
    rw [lookup_new_member_mapping, Option.map_map]
    rfl
  rw [h.is_retired_decode (drawn.2.provider.map Subtype.val) fields.id (by rw [hlookup]) hprovider]
  cases drawn.2.provider with
  | none => rfl
  | some selection => exact decide_eq_false selection.property

end Reading

end OhMySubagents.Workflows

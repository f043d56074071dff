import OhMySubagents.Workflows.DraftNormalForm

open JsonData

namespace OhMySubagents.Workflows

open OhMySubagents.Workflows.NormalizedMember Contracts

section DumpShape

/-- Bounds and texts of the dump of a Member's own fields. -/
private theorem new_field_shape {α : Type} {key : String} {encode : α → JsonData} {value : Option α} {count deep : Nat}
    (hcount : ∀ a, collections (encode a) ≤ count) (hdeep : ∀ a, nesting (encode a) ≤ deep) :
    collections_in_members (new_field key encode value) ≤ count ∧
      nesting_in_members (new_field key encode value) ≤ deep := by
  cases value with
  | none => exact ⟨Nat.zero_le _, Nat.zero_le _⟩
  | some a =>
    change collections (encode a) + 0 ≤ count ∧ max (nesting (encode a)) 0 ≤ deep
    have h1 := hcount a
    have h2 := hdeep a
    omega

theorem collections_in_members_append (members members' : List (String × JsonData)) :
    collections_in_members (members ++ members') =
      collections_in_members members + collections_in_members members' := by
  induction members with
  | nil => exact (Nat.zero_add _).symm
  | cons member members ih =>
    rw [List.cons_append, collections_in_members, collections_in_members, ih, Nat.add_assoc]

theorem nesting_in_members_append (members members' : List (String × JsonData)) :
    nesting_in_members (members ++ members') = max (nesting_in_members members) (nesting_in_members members') := by
  induction members with
  | nil => exact (Nat.zero_max _).symm
  | cons member members ih =>
    rw [List.cons_append, nesting_in_members, nesting_in_members, ih, Nat.max_assoc]

theorem members_have_xml_texts_append (members members' : List (String × JsonData)) :
    members_have_xml_texts (members ++ members') =
      (members_have_xml_texts members && members_have_xml_texts members') := by
  induction members with
  | nil => exact (Bool.true_and _).symm
  | cons member members ih =>
    rw [List.cons_append, members_have_xml_texts, members_have_xml_texts, ih, ← Bool.and_assoc]

theorem collections_string (value : String) : collections (.string value) = 0 := rfl

theorem nesting_string (value : String) : nesting (.string value) = 0 := rfl

private theorem sandbox_shape (sandbox : ProviderSandbox) :
    collections (ProviderSandbox.codec.encode sandbox) ≤ 1 ∧ nesting (ProviderSandbox.codec.encode sandbox) ≤ 1 :=
  ⟨Nat.le_refl 1, Nat.le_refl 1⟩

private theorem selection_shape (selection : StoredProviderSelection) :
    collections (StoredProviderSelection.codec.encode selection) ≤ 2 ∧
      nesting (StoredProviderSelection.codec.encode selection) ≤ 2 := by
  obtain ⟨h1, h1'⟩ := @new_field_shape _ "model" (NonblankText.codec 255).encode selection.model 0 0
    (fun _ => Nat.le_refl 0) fun _ => Nat.le_refl 0
  obtain ⟨h2, h2'⟩ := @new_field_shape _ "effort" ProviderEffort.codec.encode selection.effort 0 0
    (fun _ => Nat.le_refl 0) fun _ => Nat.le_refl 0
  obtain ⟨h3, h3'⟩ := @new_field_shape _ "sandbox" ProviderSandbox.codec.encode selection.sandbox 1 1
    (fun sandbox => (sandbox_shape sandbox).1) fun sandbox => (sandbox_shape sandbox).2
  obtain ⟨h4, h4'⟩ := @new_field_shape _ "extension_mode" ManagedExtensionMode.codec.encode selection.extension_mode 0 0
    (fun _ => Nat.le_refl 0) fun _ => Nat.le_refl 0
  change 1 + collections_in_members (("kind", .string selection.kind.text) ::
      (new_field "model" (NonblankText.codec 255).encode selection.model ++
      (new_field "effort" ProviderEffort.codec.encode selection.effort ++
      (new_field "sandbox" ProviderSandbox.codec.encode selection.sandbox ++
      new_field "extension_mode" ManagedExtensionMode.codec.encode selection.extension_mode)))) ≤ 2 ∧
    1 + nesting_in_members (("kind", .string selection.kind.text) ::
      (new_field "model" (NonblankText.codec 255).encode selection.model ++
      (new_field "effort" ProviderEffort.codec.encode selection.effort ++
      (new_field "sandbox" ProviderSandbox.codec.encode selection.sandbox ++
      new_field "extension_mode" ManagedExtensionMode.codec.encode selection.extension_mode)))) ≤ 2
  rw [collections_in_members, nesting_in_members, collections_string, nesting_string, collections_in_members_append,
    collections_in_members_append, collections_in_members_append, nesting_in_members_append, nesting_in_members_append,
    nesting_in_members_append]
  omega

private theorem capabilities_shape (capabilities : MemberCapabilities) :
    collections (MemberCapabilities.codec.encode capabilities) ≤ 2 ∧
      nesting (MemberCapabilities.codec.encode capabilities) ≤ 2 := by
  have hkinds : ∀ kinds : List HumanRequestKind,
      collections_in_items (kinds.map HumanRequestKind.codec.encode) = 0 ∧
        nesting_in_items (kinds.map HumanRequestKind.codec.encode) = 0 := by
    intro kinds
    induction kinds with
    | nil => exact ⟨rfl, rfl⟩
    | cons kind kinds ih =>
      rw [List.map_cons, collections_in_items, nesting_in_items, ih.1, ih.2]
      exact ⟨rfl, rfl⟩
  obtain ⟨h1, h1'⟩ := @new_field_shape _ "human_request" (HumanRequestKind.codec.list.check fun kinds =>
    1 ≤ kinds.length ∧ kinds.length ≤ 4).encode capabilities.human_request 1 1
    (fun kinds => by
      change 1 + collections_in_items (kinds.val.map _) ≤ 1
      rw [(hkinds kinds.val).1])
    fun kinds => by
      change 1 + nesting_in_items (kinds.val.map _) ≤ 1
      rw [(hkinds kinds.val).2]
  obtain ⟨h2, h2'⟩ := @new_field_shape _ "command_run" (Codec.literal "allow").encode capabilities.command_run 0 0
    (fun _ => Nat.le_refl 0) fun _ => Nat.le_refl 0
  change 1 + collections_in_members (new_field "human_request" (HumanRequestKind.codec.list.check fun kinds =>
      1 ≤ kinds.length ∧ kinds.length ≤ 4).encode capabilities.human_request ++
      new_field "command_run" (Codec.literal "allow").encode capabilities.command_run) ≤ 2 ∧
    1 + nesting_in_members (new_field "human_request" (HumanRequestKind.codec.list.check fun kinds =>
      1 ≤ kinds.length ∧ kinds.length ≤ 4).encode capabilities.human_request ++
      new_field "command_run" (Codec.literal "allow").encode capabilities.command_run) ≤ 2
  rw [collections_in_members_append, nesting_in_members_append]
  omega

private theorem fields_shape (fields : MemberFields) :
    collections_in_members (MemberFields.members.encode fields) ≤ 4 ∧
      nesting_in_members (MemberFields.members.encode fields) ≤ 2 := by
  have htext : ∀ {key : String} {text : Option (BoundedText 16384)},
      collections_in_members (new_field key (fun text => .string text.val) text) ≤ 0 ∧
        nesting_in_members (new_field key (fun text => .string text.val) text) ≤ 0 :=
    new_field_shape (fun _ => Nat.le_refl 0) fun _ => Nat.le_refl 0
  obtain ⟨h1, h1'⟩ := @htext "title" fields.title
  obtain ⟨h2, h2'⟩ := @htext "description" fields.description
  obtain ⟨h3, h3'⟩ := @htext "instruction" fields.instruction
  obtain ⟨h4, h4'⟩ := @new_field_shape _ "provider" StoredProviderSelection.codec.encode fields.provider 2 2
    (fun selection => (selection_shape selection).1) fun selection => (selection_shape selection).2
  obtain ⟨h5, h5'⟩ := @new_field_shape _ "capabilities" MemberCapabilities.codec.encode fields.capabilities 2 2
    (fun capabilities => (capabilities_shape capabilities).1) fun capabilities => (capabilities_shape capabilities).2
  rw [members_encode_eq, List.singleton_append, collections_in_members, nesting_in_members, collections_string,
    nesting_string, collections_in_members_append, collections_in_members_append, collections_in_members_append,
    collections_in_members_append, nesting_in_members_append, nesting_in_members_append, nesting_in_members_append,
    nesting_in_members_append]
  omega

private theorem dump_shape :
    (∀ member : NormalizedMember, collections member.dump ≤ 6 * member.all_fields.length ∧
        nesting member.dump ≤ 2 * member.member_depth + 1) ∧
      ∀ children, collections_in_items (dump_members children) ≤ 6 * (all_fields_of children).length ∧
        nesting_in_items (dump_members children) ≤ 2 * depth_of_children children + 1 := by
  refine forest_induction (fun fields => ?_) (fun fields children ih => ?_) ?_ fun child children hchild hchildren => ?_
  · obtain ⟨h1, h2⟩ := fields_shape fields
    rw [dump, collections, nesting, all_fields, member_depth, List.length_singleton]
    omega
  · obtain ⟨h1, h2⟩ := fields_shape fields
    rw [dump, collections, nesting, all_fields, member_depth, List.length_cons, collections_in_members_append,
      nesting_in_members_append, collections_in_members, nesting_in_members, collections, nesting,
        collections_in_members, nesting_in_members]
    omega
  · rw [dump_members, collections_in_items, nesting_in_items]
    omega
  · rw [dump_members, collections_in_items, nesting_in_items, all_fields_of, depth_of_children, List.length_append]
    omega

end DumpShape

section DumpTexts

/-- The texts of a Member have legal characters only. -/
def MemberFields.HasXmlTexts (fields : MemberFields) : Prop :=
  members_have_xml_texts (MemberFields.members.encode fields) = true

theorem is_xml_text_normalize_text {text : String} (h : is_xml_text text = true) :
    is_xml_text (normalize_text text) = true := by
  rw [is_xml_text, List.all_eq_true] at h ⊢
  intro c hc
  rw [normalize_text, String.toList_ofList] at hc
  rcases (mem_normalize_newlines hc).2 with hmem | rfl
  · exact h c hmem
  · decide

private theorem new_field_xml {α : Type} {key : String} {encode : α → JsonData} {value : Option α}
    (hkey : is_xml_text key = true) (h : ∀ a ∈ value, has_xml_texts (encode a) = true) :
    members_have_xml_texts (new_field key encode value) = true := by
  cases value with
  | none => rfl
  | some a =>
    change (is_xml_text key && has_xml_texts (encode a) && true) = true
    rw [hkey, h a rfl]
    rfl

private theorem identifier_xml (id : Identifier) : is_xml_text id.val = true := by
  rw [is_xml_text, List.all_eq_true]
  intro c hc
  have hcharacter := identifier_characters id c hc
  simp only [is_identifier_character, is_lower, Char.isDigit, Bool.or_eq_true, Bool.and_eq_true, decide_eq_true_eq,
    beq_iff_eq] at hcharacter
  have hrange : 0x20 ≤ c.toNat ∧ c.toNat ≤ 0xD7FF := by
    rcases hcharacter with ((⟨hlow, hhigh⟩ | ⟨hlow, hhigh⟩) | rfl) | rfl
    · have h1 : 'a'.toNat ≤ c.toNat := hlow
      have h2 : c.toNat ≤ 'z'.toNat := hhigh
      have h3 : 'a'.toNat = 97 := rfl
      have h4 : 'z'.toNat = 122 := rfl
      omega
    · have h1 : '0'.toNat ≤ c.toNat := hlow
      have h2 : c.toNat ≤ '9'.toNat := hhigh
      have h3 : '0'.toNat = 48 := rfl
      have h4 : '9'.toNat = 57 := rfl
      omega
    · decide
    · decide
  unfold is_xml_character
  simp [hrange]

private theorem kind_xml (kind : StoredProviderKind) : is_xml_text kind.text = true := by
  cases kind <;> decide +kernel

private theorem effort_xml (effort : ProviderEffort) : is_xml_text effort.text = true := by
  cases effort <;> decide +kernel

private theorem mode_xml (mode : ManagedExtensionMode) : is_xml_text mode.text = true := by
  cases mode <;> decide +kernel

private theorem request_kind_xml (kind : HumanRequestKind) : is_xml_text kind.text = true := by
  cases kind <;> decide +kernel

private theorem sandbox_xml (sandbox : ProviderSandbox) :
    has_xml_texts (ProviderSandbox.codec.encode sandbox) = true := by
  obtain ⟨mode, network, portable⟩ := sandbox
  change (is_xml_text "mode" && is_xml_text mode.text && (is_xml_text "network" && is_xml_text network.text && true)) =
    true
  cases mode <;> cases network <;> decide +kernel

private theorem capabilities_xml (capabilities : MemberCapabilities) :
    has_xml_texts (MemberCapabilities.codec.encode capabilities) = true := by
  have hkinds : ∀ kinds : List HumanRequestKind,
    items_have_xml_texts (kinds.map HumanRequestKind.codec.encode) = true := by
    intro kinds
    induction kinds with
    | nil => rfl
    | cons kind kinds ih =>
      rw [List.map_cons, items_have_xml_texts, ih, Bool.and_true]
      exact request_kind_xml kind
  change members_have_xml_texts (new_field "human_request" (HumanRequestKind.codec.list.check fun kinds =>
      1 ≤ kinds.length ∧ kinds.length ≤ 4).encode capabilities.human_request ++
      new_field "command_run" (Codec.literal "allow").encode capabilities.command_run) = true
  rw [members_have_xml_texts_append, Bool.and_eq_true]
  exact ⟨new_field_xml (by decide) fun kinds _ => hkinds kinds.val,
    new_field_xml (by decide) fun u _ => by cases u; decide +kernel⟩

private theorem selection_xml {selection : StoredProviderSelection}
    (h : ∀ model ∈ selection.model, is_xml_text model.val = true) :
    has_xml_texts (StoredProviderSelection.codec.encode selection) = true := by
  change members_have_xml_texts ([("kind", .string selection.kind.text)] ++
      (new_field "model" (NonblankText.codec 255).encode selection.model ++
      (new_field "effort" ProviderEffort.codec.encode selection.effort ++
      (new_field "sandbox" ProviderSandbox.codec.encode selection.sandbox ++
      new_field "extension_mode" ManagedExtensionMode.codec.encode selection.extension_mode)))) = true
  rw [members_have_xml_texts_append, members_have_xml_texts_append, members_have_xml_texts_append,
    members_have_xml_texts_append, Bool.and_eq_true, Bool.and_eq_true, Bool.and_eq_true, Bool.and_eq_true]
  refine ⟨?_, new_field_xml (by decide) h, new_field_xml (by decide) fun effort _ => effort_xml effort,
    new_field_xml (by decide) fun sandbox _ => sandbox_xml sandbox,
    new_field_xml (by decide) fun mode _ => mode_xml mode⟩
  change (is_xml_text "kind" && is_xml_text selection.kind.text && true) = true
  rw [kind_xml]
  decide

theorem MemberFields.has_xml_texts_of {fields : MemberFields}
    (htitle : ∀ text ∈ fields.title, is_xml_text text.val = true)
    (hdescription : ∀ text ∈ fields.description, is_xml_text text.val = true)
    (hinstruction : ∀ text ∈ fields.instruction, is_xml_text text.val = true)
    (hmodel : ∀ selection ∈ fields.provider, ∀ model ∈ selection.model, is_xml_text model.val = true) :
    fields.HasXmlTexts := by
  rw [MemberFields.HasXmlTexts, members_encode_eq, members_have_xml_texts_append, members_have_xml_texts_append,
    members_have_xml_texts_append, members_have_xml_texts_append, members_have_xml_texts_append, Bool.and_eq_true,
    Bool.and_eq_true, Bool.and_eq_true, Bool.and_eq_true, Bool.and_eq_true]
  refine ⟨?_, new_field_xml (by decide) htitle, new_field_xml (by decide) hdescription,
    new_field_xml (by decide) hinstruction,
    new_field_xml (by decide) fun selection hselection => selection_xml (hmodel selection hselection),
    new_field_xml (by decide) fun capabilities _ => capabilities_xml capabilities⟩
  change (is_xml_text "id" && is_xml_text fields.id.val && true) = true
  rw [identifier_xml]
  decide

private theorem xml_normalize_all :
    (∀ data, has_xml_texts data = true → has_xml_texts (_normalize_value data) = true) ∧
      (∀ items, items_have_xml_texts items = true → items_have_xml_texts (normalize_items items) = true) ∧
      ∀ members, members_have_xml_texts members = true → members_have_xml_texts (normalize_members members) = true := by
  refine data_induction id (fun _ => id) (fun _ => id) ?_ ?_ ?_ id ?_ id ?_
  · exact fun value h => is_xml_text_normalize_text h
  · exact fun items ih h => ih h
  · exact fun members ih h => ih h
  · intro item items hitem hitems h
    rw [items_have_xml_texts, Bool.and_eq_true] at h
    rw [normalize_items, items_have_xml_texts, hitem h.1, hitems h.2]
    rfl
  · intro key value members hvalue hmembers h
    rw [members_have_xml_texts, Bool.and_eq_true, Bool.and_eq_true] at h
    rw [normalize_members, members_have_xml_texts, h.1.1, hvalue h.1.2, hmembers h.2]
    rfl

theorem has_xml_texts_normalize_value {data : JsonData} (h : has_xml_texts data = true) :
    has_xml_texts (_normalize_value data) = true :=
  xml_normalize_all.1 data h

/-- A way to look at a mapping that brings no illegal characters. -/
def XmlLook (look : Look) : Prop :=
  ∀ key value, (∀ data ∈ value, has_xml_texts data = true) → ∀ data ∈ look key value, has_xml_texts data = true

theorem xml_as_written : XmlLook as_written := fun _ _ h => h

theorem xml_as_normalized : XmlLook as_normalized := by
  intro key value h data hdata
  have hnormal : ∀ data ∈ value.map _normalize_value, has_xml_texts data = true := by
    intro data hdata
    obtain ⟨written, hwritten, rfl⟩ := Option.map_eq_some_iff.mp hdata
    exact has_xml_texts_normalize_value (h written hwritten)
  unfold as_normalized at hdata
  split at hdata
  · exact hnormal data (Option.filter_eq_some_iff.mp hdata).1
  · exact hnormal data hdata

section ReadFields

variable {lookup : String → Option JsonData}

private theorem xml_of_prose {key : String} {text : Option (BoundedText 16384)}
    (hlookup : ∀ key, ∀ data ∈ lookup key, has_xml_texts data = true)
    (h : (prose_field key).decode lookup = some text) :
    ∀ s ∈ text, is_xml_text s.val = true := by
  rcases optional_text_decode.mp h with ⟨rfl, -⟩ | ⟨s, rfl, hvalue⟩
  · exact nofun
  · intro s' hs'
    obtain rfl := Option.some.inj hs'
    exact hlookup key _ hvalue

private theorem xml_of_model {provider : Option StoredProviderSelection}
    (hlookup : ∀ key, ∀ data ∈ lookup key, has_xml_texts data = true)
    (h : (Fields.settable "provider" StoredProviderSelection.codec).decode lookup = some provider) :
    ∀ selection ∈ provider, ∀ model ∈ selection.model, is_xml_text model.val = true := by
  intro selection hselection model hmodel
  rcases settable_decode_eq_some h with ⟨rfl, -⟩ | ⟨read, data, rfl, hdata, hdecode⟩
  · cases hselection
  · obtain rfl := Option.some.inj hselection
    have hxml := hlookup _ data hdata
    obtain ⟨own, rfl, hown⟩ := selection_decode_eq_some hdecode
    rcases settable_decode_eq_some hown with ⟨hnone, -⟩ | ⟨text, data, hsome, hdata, hdecode⟩
    · rw [hnone] at hmodel
      cases hmodel
    · obtain rfl := Option.some.inj (hmodel.symm.trans hsome)
      rw [string_check_decode.mp hdecode] at hdata
      exact xml_texts_of_lookup hxml hdata

end ReadFields

/-- What is read from a mapping with legal texts has legal texts. -/
theorem xml_of_read {look : Look} (hlook : XmlLook look) {members : List (String × JsonData)} {fields : MemberFields}
    (htexts : members_have_xml_texts members = true) (h : read_fields look members = some fields) :
    fields.HasXmlTexts := by
  have hlookup : ∀ key, ∀ data ∈ look key (members.lookup key), has_xml_texts data = true := fun key =>
    hlook key _ fun data hdata => xml_texts_of_lookup htexts hdata
  obtain ⟨-, htitle, hdescription, hinstruction, hprovider, -⟩ := members_decode_eq_some (read_fields_eq_some h)
  exact MemberFields.has_xml_texts_of (xml_of_prose hlookup htitle) (xml_of_prose hlookup hdescription)
    (xml_of_prose hlookup hinstruction) (xml_of_model hlookup hprovider)

private theorem dump_xml :
    (∀ member : NormalizedMember, (∀ fields ∈ member.all_fields, fields.HasXmlTexts) →
      has_xml_texts member.dump = true) ∧ ∀ children, (∀ fields ∈ all_fields_of children, fields.HasXmlTexts) →
        items_have_xml_texts (dump_members children) = true := by
  refine forest_induction (fun fields h => ?_) (fun fields children ih h => ?_) (fun _ => ?_)
    fun child children hchild hchildren h => ?_
  · rw [dump, has_xml_texts]
    rw [all_fields] at h
    exact h fields (List.mem_singleton_self _)
  · rw [all_fields, List.forall_mem_cons] at h
    have hown : members_have_xml_texts (MemberFields.members.encode fields) = true := h.1
    rw [dump, has_xml_texts, members_have_xml_texts_append, hown, members_have_xml_texts, has_xml_texts, ih h.2]
    decide
  · rw [dump_members, items_have_xml_texts]
  · rw [all_fields_of, List.forall_mem_append] at h
    rw [dump_members, items_have_xml_texts, hchild h.1, hchildren h.2]
    rfl

end DumpTexts

section Dumps

variable {workflow : NormalizedWorkflow}

/-- The texts that a Workflow was given are legal. -/
structure NormalizedWorkflow.HasXmlTexts (workflow : NormalizedWorkflow) : Prop where
  description : is_xml_text workflow.description.val = true
  note : ∀ note ∈ workflow.note, is_xml_text note.val = true
  members : ∀ fields ∈ workflow.lead.all_fields, fields.HasXmlTexts

/-- The dump of a small Workflow with legal texts passes the shape check. -/
theorem validate_dump_shape (hcount : workflow.lead.all_fields.length ≤ MAX_MEMBERS)
    (hdepth : workflow.lead.member_depth ≤ MAX_MEMBER_DEPTH) (hxml : workflow.HasXmlTexts) :
    _validate_json_shape workflow.dump = .ok () := by
  obtain ⟨h1, h2⟩ := dump_shape.1 workflow.lead
  obtain ⟨h3, h4⟩ := @new_field_shape _ "note" (fun text : BoundedText 8192 => .string text.val) workflow.note 0 0
    (fun _ => Nat.le_refl 0) fun _ => Nat.le_refl 0
  have h5 : MAX_MEMBERS = 256 := rfl
  have h6 : MAX_MEMBER_DEPTH = 12 := rfl
  rw [validate_json_shape_eq_ok, NormalizedWorkflow.dump, NormalizedWorkflow.payload_eq]
  simp only [collections, nesting, has_xml_texts, collections_in_members_append, nesting_in_members_append,
    members_have_xml_texts_append, collections_in_members, nesting_in_members, members_have_xml_texts]
  refine ⟨?_, ?_, ?_⟩
  · rw [MAX_COLLECTION_NODES]
    omega
  · rw [MAX_COLLECTION_DEPTH]
    omega
  · rw [hxml.description, dump_xml.1 _ hxml.members, identifier_xml, new_field_xml (by decide) hxml.note]
    decide

theorem NormalizedWorkflow.model_validate_dump (workflow : NormalizedWorkflow) :
    model_validate workflow.dump = some workflow := by
  have hkeys : ∀ member ∈ workflow.payload, member.1 = "lead" ∨ member.1 ∈ members.keys := by
    intro member hmember
    rcases List.mem_append.mp hmember with hmember | hmember
    · exact .inr (members.encode_keys _ member hmember)
    · rw [List.mem_singleton.mp hmember]
      exact .inl rfl
  have hdecode : members.decode (fun key => workflow.payload.lookup key) =
      some ((), workflow.id, workflow.description, workflow.note) := by
    refine members.decode_encode _ _ fun key hkey => ?_
    have hne : key ≠ "lead" := by
      rintro rfl
      revert hkey
      decide
    have hnone : [("lead", workflow.lead.dump)].lookup key = none := by
      rw [lookup_cons, if_neg hne]
      rfl
    rw [NormalizedWorkflow.payload, NormalizedWorkflow.payload_with_lead, List.lookup_append, hnone, Option.or_none]
  have hlead : (workflow.payload.lookup "lead").bind NormalizedMember.model_validate = some workflow.lead := by
    rw [(lookup_payload_with_lead workflow.lead.dump).2.2.2]
    exact workflow.lead.model_validate_dump
  exact Option.bind_eq_some_iff.mpr ⟨(), if_pos hkeys, Option.bind_eq_some_iff.mpr ⟨_, hdecode,
    Option.bind_eq_some_iff.mpr ⟨_, hlead, dif_pos workflow.child_limit⟩⟩⟩

mutual

/-- The texts that stand as values in a payload. -/
def strings : JsonData → List String
  | .object members => strings_of_members members
  | .array items => strings_of_items items
  | .string value => [value]
  | _ => []

def strings_of_members : List (String × JsonData) → List String
  | [] => []
  | (_, child) :: members => strings child ++ strings_of_members members

def strings_of_items : List JsonData → List String
  | [] => []
  | child :: items => strings child ++ strings_of_items items

end

private theorem plain_strings :
    (∀ data, Plain data → ∀ text ∈ strings data, '\r' ∉ text.toList) ∧
      (∀ items, normalize_items items = items → ∀ text ∈ strings_of_items items, '\r' ∉ text.toList) ∧
      ∀ members, normalize_members members = members → ∀ text ∈ strings_of_members members, '\r' ∉ text.toList := by
  refine data_induction ?_ ?_ ?_ ?_ ?_ ?_ ?_ ?_ ?_ ?_
  · exact fun _ => List.forall_mem_nil _
  · exact fun _ _ => List.forall_mem_nil _
  · exact fun _ _ => List.forall_mem_nil _
  · intro value h
    rw [strings, List.forall_mem_singleton]
    exact normalize_text_eq_self_iff.mp (JsonData.string.inj h)
  · exact fun items ih h => ih (JsonData.array.inj h)
  · exact fun members ih h => ih (JsonData.object.inj h)
  · intro _
    rw [strings_of_items]
    exact List.forall_mem_nil _
  · intro item items hitem hitems h
    rw [normalize_items] at h
    obtain ⟨h1, h2⟩ := List.cons.inj h
    rw [strings_of_items, List.forall_mem_append]
    exact ⟨hitem h1, hitems h2⟩
  · intro _
    rw [strings_of_members]
    exact List.forall_mem_nil _
  · intro key value members hvalue hmembers h
    rw [normalize_members] at h
    obtain ⟨h1, h2⟩ := List.cons.inj h
    rw [strings_of_members, List.forall_mem_append]
    exact ⟨hvalue (Prod.mk.inj h1).2, hmembers h2⟩

private theorem normalize_field_of {α : Type} {key : String} {encode : α → JsonData} {value : Option α}
    (h : ∀ a ∈ value, Plain (encode a)) : normalize_members (new_field key encode value) =
    new_field key encode value := by
  cases value with
  | none => rfl
  | some a => exact congrArg (fun v => [(key, v)]) (h a rfl)

private theorem plain_fields {fields : MemberFields} (h : fields.InNormalForm) :
    normalize_members (MemberFields.members.encode fields) = MemberFields.members.encode fields := by
  have hprose : ∀ {n : Nat} {key : String} {text : Option (BoundedText n)}, PlainProse (text.map Subtype.val) →
      normalize_members (new_field key (fun text => .string text.val) text) =
        new_field key (fun text => .string text.val) text := by
    intro n key text hplain
    refine normalize_field_of fun s hs => ?_
    have hlines := (hplain s.val (Option.mem_map_of_mem _ hs)).1
    exact congrArg JsonData.string (normalize_text_eq_self_iff.mpr hlines)
  have hprovider : ∀ selection ∈ fields.provider, Plain (StoredProviderSelection.codec.encode selection) := by
    intro selection hselection
    have hsame := selection_normalized_eq_self_iff.mpr h.model
    rw [Option.mem_def.mp hselection] at hsame
    rw [Plain, normalize_selection, Option.some.inj hsame]
  rw [members_encode_eq, normalize_members_append, normalize_members_append, normalize_members_append,
    normalize_members_append, normalize_members_append, hprose h.title, hprose h.description, hprose h.instruction,
    normalize_field_of hprovider, normalize_plain_field plain_capabilities]
  rw [normalize_members, normalize_identifier, normalize_members]

private theorem omit_eq_self {payload : List (String × JsonData)} {key : String}
    (h : ∀ value, payload.lookup key = some value → is_blank value = false) :
    _omit_blank_optional payload key = payload := by
  unfold _omit_blank_optional
  rw [if_neg]
  intro hblank
  obtain ⟨value, hvalue, hblank⟩ := (Option.any_eq_true _ _).mp hblank
  rw [h value hvalue] at hblank
  cases hblank

private theorem normalize_children_field_append {own rest : List (String × JsonData)}
    (h : ∀ member ∈ own, member.1 ≠ "children") :
    normalize_children_field (own ++ rest) = own ++ normalize_children_field rest := by
  induction own with
  | nil => rfl
  | cons member own ih =>
    rw [List.forall_mem_cons] at h
    rw [List.cons_append, normalize_children_field, if_neg h.1, ih h.2, List.cons_append]

private theorem encode_ne_children (fields : MemberFields) :
    ∀ member ∈ MemberFields.members.encode fields, member.1 ≠ "children" := by
  intro member hmember heq
  have hkey := MemberFields.members.encode_keys fields member hmember
  rw [heq] at hkey
  revert hkey
  decide

private theorem omit_prose {fields : MemberFields} (h : fields.InNormalForm) (children : List (String × JsonData))
    (hchildren : ∀ member ∈ children, member.1 = "children") :
    _OPTIONAL_MEMBER_PROSE.foldl _omit_blank_optional (MemberFields.members.encode fields ++ children) =
      MemberFields.members.encode fields ++ children := by
  have hprose : ∀ {key : String} {text : Option (BoundedText 16384)}, key ∈ MemberFields.members.keys →
      PlainProse (text.map Subtype.val) →
      (MemberFields.members.encode fields).lookup key = text.map (fun text => .string text.val) →
      _omit_blank_optional (MemberFields.members.encode fields ++ children) key =
        MemberFields.members.encode fields ++ children := by
    intro key text hkey hplain hlookup
    refine omit_eq_self fun value hvalue => ?_
    rw [lookup_encode_append fields children hchildren hkey, hlookup] at hvalue
    obtain ⟨s, hs, rfl⟩ := Option.map_eq_some_iff.mp hvalue
    rw [is_blank_string]
    exact (hplain s.val (Option.mem_map_of_mem _ hs)).2
  rw [_OPTIONAL_MEMBER_PROSE, List.foldl_cons, List.foldl_cons, List.foldl_cons, List.foldl_nil,
    hprose (by decide) h.title lookup_members_encode, hprose (by decide) h.description lookup_members_encode,
    hprose (by decide) h.instruction lookup_members_encode]

private theorem dump_normal :
    (∀ member : NormalizedMember, (∀ fields ∈ member.all_fields, fields.InNormalForm) →
        Plain member.dump ∧ _normalize_member_mapping member.dump = member.dump) ∧
      ∀ children, (∀ fields ∈ all_fields_of children, fields.InNormalForm) →
        normalize_items (dump_members children) = dump_members children ∧
          normalize_child_mappings (dump_members children) = dump_members children := by
  refine forest_induction (fun fields h => ?_) (fun fields children ih h => ?_) (fun _ => ⟨rfl, rfl⟩)
    fun child children hchild hchildren h => ?_
  · rw [all_fields, List.forall_mem_singleton] at h
    rw [dump]
    refine ⟨congrArg JsonData.object (plain_fields h), ?_⟩
    have hown := @normalize_children_field_append _ [] (encode_ne_children fields)
    rw [List.append_nil, normalize_children_field, List.append_nil] at hown
    have homit := omit_prose h [] (List.forall_mem_nil _)
    rw [List.append_nil] at homit
    rw [_normalize_member_mapping, hown, homit]
  · rw [all_fields, List.forall_mem_cons] at h
    obtain ⟨hitems, hmappings⟩ := ih h.2
    rw [dump]
    constructor
    · refine congrArg JsonData.object ?_
      rw [normalize_members_append, plain_fields h.1, normalize_members, _normalize_value, hitems, normalize_members]
    · rw [_normalize_member_mapping, normalize_children_field_append (encode_ne_children fields),
        normalize_children_field, if_pos rfl, normalize_children, hmappings, normalize_children_field,
        omit_prose h.1 _ (by simp)]
  · rw [all_fields_of, List.forall_mem_append] at h
    obtain ⟨h1, h2⟩ := hchild h.1
    obtain ⟨h3, h4⟩ := hchildren h.2
    rw [dump_members, normalize_items, normalize_child_mappings, h1, h2, h3, h4]
    exact ⟨rfl, rfl⟩

theorem plain_payload (h : workflow.InNormalForm) : normalize_members workflow.payload = workflow.payload := by
  have hnote : ∀ note ∈ workflow.note, Plain (.string note.val) := fun note hmem =>
    congrArg JsonData.string (normalize_text_eq_self_iff.mpr (h.note note.val (Option.mem_map_of_mem _ hmem)).1)
  have hdescription : _normalize_value (.string workflow.description.val) = .string workflow.description.val :=
    congrArg JsonData.string (normalize_text_eq_self_iff.mpr h.description)
  have hlead : _normalize_value workflow.lead.dump = workflow.lead.dump := (dump_normal.1 workflow.lead h.members).1
  have hkind : _normalize_value (.string "workflow") = .string "workflow" := by decide +kernel
  rw [NormalizedWorkflow.payload, NormalizedWorkflow.payload_eq, normalize_members_append, normalize_members_append,
    normalize_field_of hnote]
  simp only [normalize_members, normalize_identifier, hdescription, hlead, hkind]

/-- Text normalization changes nothing in the dump of a Workflow in normal form. -/
theorem normalize_payload_eq_self (h : workflow.InNormalForm) :
    _normalize_workflow_mapping workflow.payload = workflow.payload := by
  obtain ⟨-, -, hnote, -⟩ := @lookup_payload_with_lead workflow workflow.lead.dump
  have homit : _omit_blank_optional workflow.payload "note" = workflow.payload := by
    refine omit_eq_self fun value hvalue => ?_
    rw [NormalizedWorkflow.payload, hnote] at hvalue
    obtain ⟨text, htext, rfl⟩ := Option.map_eq_some_iff.mp hvalue
    rw [is_blank_string]
    exact (h.note text htext).2
  rw [_normalize_workflow_mapping, plain_payload h, homit]
  refine (List.map_congr_left fun member hmember => ?_).trans (List.map_id' _)
  split
  · next hlead =>
    rcases List.mem_append.mp hmember with hmember | hmember
    · have hkey := NormalizedWorkflow.members.encode_keys _ member hmember
      rw [hlead] at hkey
      exact absurd hkey (by decide)
    · rw [List.mem_singleton.mp hmember, (dump_normal.1 workflow.lead h.members).2]
  · rfl

end Dumps

section Renormalized

variable {workflow : NormalizedWorkflow}

/-- The normal form of a Workflow: its lines end with a line feed alone, no optional prose is there but blank, and text
    normalization changes nothing. -/
structure NormalForm (workflow : NormalizedWorkflow) : Prop where
  newlines : ∀ text ∈ strings workflow.dump, '\r' ∉ text.toList
  note : ∀ note ∈ workflow.note, is_blank_text note.val = false
  prose : ∀ fields ∈ workflow.lead.all_fields, ∀ text, text ∈ fields.title ∨ text ∈ fields.description ∨
    text ∈ fields.instruction → is_blank_text text.val = false
  fixed : _normalize_workflow_mapping workflow.payload = workflow.payload

theorem normal_form_iff : NormalForm workflow ↔ workflow.InNormalForm := by
  constructor
  · intro h
    have hread := @reads_workflow_as_normalized workflow.payload workflow
      (by rw [h.fixed]; exact workflow.model_validate_dump) ⟨workflow.id, (lookup_payload_with_lead _).1⟩
    obtain ⟨-, hdescription, hnote, hlead⟩ := @lookup_payload_with_lead workflow workflow.lead.dump
    refine ⟨?_, ?_, ?_⟩
    · exact normalize_text_eq_self_iff.mp (hread.description _ hdescription).symm
    · rw [hread.note _ hnote]
      exact plain_prose_filter _
    · have hsame := hread.lead
      rw [hlead, Option.bind_some, WorkflowReader.as_normalized.reads.read_dump] at hsame
      have hfields := congrArg all_fields (Option.some.inj hsame)
      rw [all_fields_map_fields] at hfields
      intro fields hmem
      refine MemberFields.normalized_eq_self_iff.mp ?_
      exact List.map_eq_map_iff.mp (hfields.trans (List.map_id' _).symm) fields hmem
  · intro h
    refine ⟨?_, fun note hnote => (h.note note.val (Option.mem_map_of_mem _ hnote)).2, ?_, normalize_payload_eq_self h⟩
    · exact plain_strings.1 workflow.dump (congrArg JsonData.object (plain_payload h))
    · intro fields hmem text htext
      obtain ⟨h1, h2, h3, -⟩ := h.members fields hmem
      rcases htext with htext | htext | htext
      · exact (h1 text.val (Option.mem_map_of_mem _ htext)).2
      · exact (h2 text.val (Option.mem_map_of_mem _ htext)).2
      · exact (h3 text.val (Option.mem_map_of_mem _ htext)).2

theorem xml_of_written {payload : List (String × JsonData)} (htexts : members_have_xml_texts payload = true)
    (h : NormalizedWorkflow.model_validate (.object payload) = some workflow) : workflow.HasXmlTexts := by
  obtain ⟨-, hdescription, hnote, hlead⟩ := validated_fields h
  refine ⟨xml_texts_of_lookup htexts hdescription, fun note hmem => ?_, ?_⟩
  · rcases hnote with ⟨hnone, -⟩ | ⟨text, hsome, hlookup⟩
    · rw [hnone] at hmem
      cases hmem
    · obtain rfl := Option.some.inj (hmem.symm.trans hsome)
      exact xml_texts_of_lookup htexts hlookup
  · obtain ⟨lead, hlookup, hread⟩ := Option.bind_eq_some_iff.mp hlead
    exact read_member_all (fun members fields => xml_of_read xml_as_written) (xml_texts_of_lookup htexts hlookup) hread

theorem xml_of_normalized {payload : List (String × JsonData)} (htexts : members_have_xml_texts payload = true)
    (h : NormalizedWorkflow.model_validate (.object (_normalize_workflow_mapping payload)) = some workflow) :
    workflow.HasXmlTexts := by
  have hvalue : ∀ {key value}, (payload.lookup key).map _normalize_value = some value → has_xml_texts value = true := by
    intro key value hvalue
    obtain ⟨written, hlookup, rfl⟩ := Option.map_eq_some_iff.mp hvalue
    exact has_xml_texts_normalize_value (xml_texts_of_lookup htexts hlookup)
  obtain ⟨-, hdescription, hnote, hlead⟩ := validated_fields h
  rw [lookup_normalize_workflow_mapping, if_neg (by decide), if_neg (by decide)] at hdescription
  rw [lookup_normalize_workflow_mapping, if_neg (by decide), if_pos rfl] at hnote
  rw [lookup_normalize_workflow_mapping, if_pos rfl] at hlead
  refine ⟨hvalue hdescription, fun note hmem => ?_, ?_⟩
  · rcases hnote with ⟨hnone, -⟩ | ⟨text, hsome, hlookup⟩
    · rw [hnone] at hmem
      cases hmem
    · obtain rfl := Option.some.inj (hmem.symm.trans hsome)
      exact hvalue (Option.filter_eq_some_iff.mp hlookup).1
  · obtain ⟨mapping, hmapping, hread⟩ := Option.bind_eq_some_iff.mp hlead
    obtain ⟨value, hnormal, rfl⟩ := Option.map_eq_some_iff.mp hmapping
    obtain ⟨lead, hlookup, rfl⟩ := Option.map_eq_some_iff.mp hnormal
    rw [read_normalized_member] at hread
    exact read_member_all (fun members fields => xml_of_read xml_as_normalized)
      (xml_texts_of_lookup htexts hlookup) hread

/-- What a payload is accepted as is accepted again, as it is. -/
theorem normalize_workflow_object_dump {payload : JsonData} (h : normalize_workflow_object payload = .ok workflow) :
    normalize_workflow_object workflow.dump = .ok workflow := by
  have hobject : ∃ members, payload = .object members := by
    obtain ⟨u, -, hobject⟩ := bind_eq_ok_iff.mp h
    match payload with
    | .object members => exact ⟨members, rfl⟩
    | .null | .bool _ | .int _ | .string _ | .array _ => cases hobject
  obtain ⟨members, rfl⟩ := hobject
  obtain ⟨hshape, hvalidated, hsemantics, hactive⟩ := normalize_workflow_object_eq_ok.mp h
  have hnormal := in_normal_form_of_validated hshape hvalidated
  obtain ⟨-, -, htexts⟩ := validate_json_shape_eq_ok.mp hshape
  rw [has_xml_texts] at htexts
  have hxml := xml_of_normalized htexts hvalidated
  rw [NormalizedWorkflow.dump, normalize_workflow_object_eq_ok, normalize_payload_eq_self hnormal]
  exact ⟨validate_dump_shape hsemantics.member_count hsemantics.member_depth hxml, workflow.model_validate_dump,
    hsemantics, hactive⟩

/-- Edits keep the normal form of a draft exactly when their texts are in normal form or no Member is left that selects
    the retired provider; what a payload is accepted as is accepted again under the same hash. -/
theorem stored_draft_normal_form {σ : Type} {allocate_id : σ → String × σ} {drawn next : σ}
    (sha256 : String → BitVec 256)
    {edited : NormalizedWorkflow} {operation : DraftOperation} (hworkflow : NormalForm workflow)
    (h : edit_normalized_workflow allocate_id drawn workflow operation = .ok (edited, next)) :
    (NormalForm edited ↔ operation.InNormalForm ∨ LeavesActive workflow operation) ∧
      ∀ {payload normal}, normalize_workflow_object payload = .ok normal →
        ∃ again, normalize_workflow_object normal.dump = .ok again ∧ again = normal ∧
          canonical_workflow_hash sha256 again = canonical_workflow_hash sha256 normal := by
  refine ⟨?_, fun haccepted => ⟨_, normalize_workflow_object_dump haccepted, rfl, rfl⟩⟩
  rw [normal_form_iff] at hworkflow ⊢
  exact edited_in_normal_form_iff hworkflow h

/-- A Workflow whose lead still selects the retired provider. -/
def retired_workflow : NormalizedWorkflow where
  id := ⟨"team", team_identifier⟩
  description := ⟨"Does the work.", work_description⟩
  note := none
  lead := .mk {
    id := ⟨"member-1", first_member_identifier⟩, title := none, description := none, instruction := none
    provider := some ⟨.openclaw, none, none, none, none, by decide⟩, capabilities := none } none
  child_limit := rfl

/-- An edit that writes a note with a line ending of its own. -/
def noted (note : String) : DraftOperation := .update_workflow ⟨none, some (some note), rfl⟩

private theorem retired_workflow_normal : NormalForm retired_workflow := by
  have hnone : PlainProse none := by rintro text ⟨⟩
  refine normal_form_iff.mpr ⟨by decide +kernel, hnone, ?_⟩
  rintro fields hfields
  obtain rfl := List.mem_singleton.mp hfields
  refine ⟨hnone, hnone, hnone, ?_⟩
  rintro selection hselection model hmodel
  obtain rfl := Option.some.inj hselection
  cases hmodel

private theorem noted_accepted {note : String} (h : (edit_normalized_workflow allocate_member_id 2 retired_workflow
      (noted note)).toOption.any (fun result => decide (result.1.note.map Subtype.val = some note)) = true) :
    ∃ edited next, edit_normalized_workflow allocate_member_id 2 retired_workflow (noted note) = .ok (edited, next) ∧
      edited.note.map Subtype.val = some note := by
  obtain ⟨⟨edited, next⟩, hedit, hnote⟩ := (Option.any_eq_true _ _).mp h
  refine ⟨edited, next, ?_, of_decide_eq_true hnote⟩
  cases hresult : edit_normalized_workflow allocate_member_id 2 retired_workflow (noted note) with
  | ok result =>
    rw [hresult] at hedit
    exact congrArg Except.ok (Option.some.inj hedit)
  | error error =>
    rw [hresult] at hedit
    cases hedit

theorem stored_draft_normal_form_noted :
    ∃ edited next, edit_normalized_workflow allocate_member_id 2 retired_workflow (noted "One.") = .ok (edited, next) ∧
      NormalForm edited := by
  obtain ⟨edited, next, hedit, -⟩ := @noted_accepted "One." (by decide +kernel)
  refine ⟨edited, next, hedit, ?_⟩
  refine (stored_draft_normal_form (fun _ => 0) retired_workflow_normal hedit).1.mpr (.inl ⟨nofun, ?_⟩)
  intro text htext s hs
  obtain rfl := Option.some.inj htext
  obtain rfl := Option.some.inj hs
  exact ⟨by decide +kernel, by decide +kernel⟩

/-- The text of a patch stays as it was written when the lead selects the retired provider. -/
theorem unnormalized_note_stored :
    ¬∀ (workflow edited : NormalizedWorkflow) (operation : DraftOperation) (drawn next : Nat), NormalForm workflow →
      edit_normalized_workflow allocate_member_id drawn workflow operation = .ok (edited, next) →
        NormalForm edited := by
  intro h
  obtain ⟨edited, next, hedit, hnote⟩ := @noted_accepted "One.\r\nTwo." (by decide +kernel)
  have hnormal := normal_form_iff.mp (h _ _ _ _ _ retired_workflow_normal hedit)
  exact (hnormal.note _ hnote).1 (by decide +kernel)

end Renormalized

end OhMySubagents.Workflows

import OhMySubagents.Workflows.EditedTrees

open JsonData

namespace OhMySubagents.Workflows

open OhMySubagents.Workflows.NormalizedMember

section Patches

variable {payload patch : List (String × JsonData)} {key name : String}

theorem lookup_set_item {value : JsonData} :
    (set_item payload name value).lookup key = if key = name then some value else payload.lookup key := by
  unfold set_item
  split
  · next hpresent =>
    have hmap : ∀ members : List (String × JsonData), (members.map fun member =>
        if member.1 = name then (name, value) else member).lookup key =
          if key = name then (members.lookup key).map fun _ => value else members.lookup key := by
      intro members
      induction members with
      | nil => simp
      | cons member members ih =>
        rw [List.map_cons, lookup_cons, lookup_cons, ih]
        grind
    rw [hmap]
    split
    · next hkey =>
      obtain ⟨member, hmember, hname⟩ := List.any_eq_true.mp hpresent
      have hsome : payload.lookup key ≠ none := by
        intro hnone
        rw [List.lookup_eq_none_iff] at hnone
        have hne := hnone member hmember
        rw [hkey, of_decide_eq_true hname, bne_self_eq_false] at hne
        cases hne
      obtain ⟨found, hfound⟩ := Option.ne_none_iff_exists'.mp hsome
      rw [hfound, Option.map_some]
    · rfl
  · next habsent =>
    rw [List.lookup_append, lookup_cons, List.lookup_nil]
    by_cases hkey : key = name
    · have hnone : payload.lookup key = none := by
        rw [List.lookup_eq_none_iff]
        intro member hmember
        refine bne_iff_ne.mpr fun heq => habsent (List.any_eq_true.mpr ⟨member, hmember, ?_⟩)
        exact decide_eq_true (heq.symm.trans hkey)
      rw [hnone, if_pos hkey, Option.none_or]
    · rw [if_neg hkey, if_neg hkey, Option.or_none]

/-- What a patch leaves at a key where there was a value. -/
def patched (patch : List (String × JsonData)) (key : String) (value : Option JsonData) : Option JsonData :=
  patch.foldl (fun value item =>
    if key = item.1 then (if item.2 = .null then none else some item.2) else value) value

theorem lookup_apply_patch : (_apply_patch payload patch).lookup key = patched patch key (payload.lookup key) := by
  unfold _apply_patch patched
  induction patch generalizing payload with
  | nil => rfl
  | cons item patch ih =>
    rw [List.foldl_cons, List.foldl_cons, ih]
    congr 1
    split
    · by_cases hkey : key = item.1
      · rw [hkey, lookup_filter_self, if_pos rfl]
      · rw [lookup_filter_ne hkey, if_neg hkey]
    · exact lookup_set_item

theorem patched_append {patch' : List (String × JsonData)} {value : Option JsonData} :
    patched (patch ++ patch') key value = patched patch' key (patched patch key value) :=
  List.foldl_append

/-- One member of a patch takes the value at its key away, or puts its own there. -/
theorem patched_patch_field {α : Type} {encode : α → JsonData} (hnull : ∀ a, encode a ≠ .null)
    {set : Option (Option α)} {value : Option JsonData} :
    patched (patch_field name encode set) key value =
      if key = name then set.elim value fun set => set.map encode else value := by
  match set with
  | none => exact (ite_self value).symm
  | some none =>
    change (if key = name then (if JsonData.null = .null then none else some JsonData.null) else value) = _
    rw [if_pos (rfl : JsonData.null = .null)]
    rfl
  | some (some a) =>
    change (if key = name then (if encode a = .null then none else some (encode a)) else value) = _
    rw [if_neg (hnull a)]
    rfl

end Patches

theorem selection_ne_null (selection : ProviderSelection) : ProviderSelection.codec.encode selection ≠ .null :=
  JsonData.noConfusion

theorem capabilities_ne_null (capabilities : MemberCapabilities) :
    MemberCapabilities.codec.encode capabilities ≠ .null :=
  JsonData.noConfusion

theorem string_ne_null (s : String) : JsonData.string s ≠ .null := JsonData.noConfusion

theorem MemberPatch.patched_dump {patch : MemberPatch} {key : String} {value : Option JsonData} :
    patched patch.dump key value =
      if key = "title" then patch.title.elim value fun set => set.map .string
      else if key = "description" then patch.description.elim value fun set => set.map .string
      else if key = "instruction" then patch.instruction.elim value fun set => set.map .string
      else if key = "provider" then patch.provider.elim value fun set => set.map ProviderSelection.codec.encode
      else if key = "capabilities" then patch.capabilities.elim value fun set => set.map MemberCapabilities.codec.encode
      else value := by
  rw [MemberPatch.dump, patched_append, patched_append, patched_append, patched_append,
    patched_patch_field capabilities_ne_null, patched_patch_field selection_ne_null,
    patched_patch_field string_ne_null, patched_patch_field string_ne_null, patched_patch_field string_ne_null]
  by_cases htitle : key = "title"
  · subst htitle
    simp
  rw [if_neg htitle, if_neg htitle]
  by_cases hdescription : key = "description"
  · subst hdescription
    simp
  rw [if_neg hdescription, if_neg hdescription]
  by_cases hinstruction : key = "instruction"
  · subst hinstruction
    simp
  rw [if_neg hinstruction, if_neg hinstruction]
  by_cases hprovider : key = "provider"
  · subst hprovider
    simp
  rw [if_neg hprovider, if_neg hprovider]

theorem WorkflowPatch.patched_dump {patch : WorkflowPatch} {key : String} {value : Option JsonData} :
    patched patch.dump key value =
      if key = "description" then patch.description.elim value fun set => set.map .string
      else if key = "note" then patch.note.elim value fun set => set.map .string
      else value := by
  rw [WorkflowPatch.dump, patched_append, patched_patch_field string_ne_null, patched_patch_field string_ne_null]
  by_cases hdescription : key = "description"
  · subst hdescription
    simp
  rw [if_neg hdescription, if_neg hdescription]

section Readers

variable {look : Look} {f : MemberFields → MemberFields} {member_id : String}

theorem read_members_append {items items' : List JsonData} : read_members look (items ++ items') =
    (read_members look items).bind fun members => (read_members look items').map (members ++ ·) := by
  induction items with
  | nil => simp [read_members]
  | cons item items ih =>
    rw [List.cons_append, read_members, read_members, ih]
    cases read_member look item with
    | none => rfl
    | some member =>
      cases read_members look items with
      | none => rfl
      | some members => cases read_members look items' <;> rfl

/-- The dump of a Member with one more child is read as the Member with it. -/
theorem Reads.read_append_child (h : Reads look f) (parent : NormalizedMember) (new : JsonData) :
    read_member look (.object (append_child new parent.payload)) = (read_member look new).map fun child =>
      .mk (f parent.fields) (some (map_fields_all f (parent.children.getD []) ++ [child])) := by
  have hread : ∀ fields items, read_member look
      (.object (MemberFields.members.encode fields ++ [("children", .array items)])) =
        (read_members look items).map fun children => .mk (f fields) (some children) := by
    intro fields items
    rw [read_member, h.read_fields fields _ (by simp), read_children_field_eq, lookup_children_encode]
    change ((read_members look items).map some).map _ = _
    rw [Option.map_map]
    rfl
  have hone : read_members look [new] = (read_member look new).map fun child => [child] := by
    rw [read_members, read_members]
    cases read_member look new <;> rfl
  obtain ⟨fields, _ | children⟩ := parent
  · have happend : append_child new (NormalizedMember.mk fields none).payload =
        MemberFields.members.encode fields ++ [("children", .array [new])] := by
      have hnone : (NormalizedMember.mk fields none).payload.lookup "children" = none :=
        Fields.lookup_eq_none (MemberFields.members.encode_keys fields) (by decide)
      rw [append_child, hnone]
      rfl
    rw [happend, hread, hone, Option.map_map]
    rfl
  · have happend : append_child new (NormalizedMember.mk fields (some children)).payload =
        MemberFields.members.encode fields ++ [("children", .array (dump_members children ++ [new]))] := by
      have hchildren : (NormalizedMember.mk fields (some children)).payload.lookup "children" =
          some (.array (dump_members children)) := lookup_children_encode _ _
      have hpresent : ((NormalizedMember.mk fields (some children)).payload.any fun member =>
          decide (member.1 = "children")) = true :=
        List.any_eq_true.mpr ⟨("children", JsonData.array (dump_members children)),
          List.mem_append_right _ (List.mem_singleton_self _), decide_eq_true rfl⟩
      rw [append_child, hchildren]
      dsimp only
      rw [set_item, if_pos hpresent, payload, List.map_append]
      congr 1
      · refine (List.map_congr_left fun member hmember => ?_).trans (List.map_id' _)
        rw [if_neg]
        intro hkey
        have hmem := MemberFields.members.encode_keys fields member hmember
        rw [hkey] at hmem
        revert hmem
        decide
    rw [happend, hread, read_members_append, h.read_dump_members children, hone, Option.bind_some, Option.map_map,
      Option.map_map]
    rfl

theorem read_fields_eq_some {members : List (String × JsonData)} {fields : MemberFields}
    (h : read_fields look members = some fields) :
    MemberFields.members.decode (fun key => look key (members.lookup key)) = some fields := by
  unfold read_fields at h
  split at h
  · exact h
  · cases h

/-- A patched Member keeps its children, and says of itself what its mapping says after the patch. -/
theorem Reads.read_patched (h : Reads look f) {found new : NormalizedMember} {patch : MemberPatch}
    (hread : read_member look (.object (_apply_patch found.payload patch.dump)) = some new) :
    new.children = found.children.map (map_fields_all f) ∧
      MemberFields.members.decode (fun key =>
        look key (patched patch.dump key ((MemberFields.members.encode found.fields).lookup key))) = some
          new.fields := by
  rw [read_member] at hread
  obtain ⟨fields, hfields, hread⟩ := Option.bind_eq_some_iff.mp hread
  obtain ⟨children, hchildren, rfl⟩ := Option.map_eq_some_iff.mp hread
  have hfound := h.read_dump found
  rw [dump_eq, read_member] at hfound
  obtain ⟨fields', -, hfound⟩ := Option.bind_eq_some_iff.mp hfound
  obtain ⟨children', hchildren', hfound⟩ := Option.map_eq_some_iff.mp hfound
  constructor
  · have hsame : read_children_field look (_apply_patch found.payload patch.dump) =
        read_children_field look found.payload := by
      rw [read_children_field_eq, read_children_field_eq, lookup_apply_patch, MemberPatch.patched_dump]
      rfl
    rw [hsame, hchildren'] at hchildren
    obtain rfl := Option.some.inj hchildren
    have hkept := congrArg NormalizedMember.children hfound
    match found with
    | .mk own none => exact hkept
    | .mk own (some below) => exact hkept
  · refine (Eq.trans ?_ (read_fields_eq_some hfields) : _ = some fields)
    refine local_members _ _ fun key hkey => ?_
    rw [lookup_apply_patch]
    have hpayload : found.payload.lookup key = (MemberFields.members.encode found.fields).lookup key := by
      match found with
      | .mk own none => rfl
      | .mk own (some below) => exact lookup_encode_append own _ (by simp) hkey
    rw [hpayload]

end Readers

section Decoding

variable {lookup : String → Option JsonData} {fields : MemberFields}

private theorem prose_ne_null : ∀ text, (BoundedText.codec 16384).encode text ≠ .null :=
  Codec.check_ne_null Codec.string_ne_null

/-- How one text of a Member is validated. -/
def prose_field (key : String) : Fields (Option (BoundedText 16384)) :=
  Fields.optional key (BoundedText.codec 16384) prose_ne_null

/-- A Member's own fields are validated one by one. -/
theorem members_decode_eq_some (h : MemberFields.members.decode lookup = some fields) :
    (lookup "id").bind Contracts.Identifier.codec.decode = some fields.id ∧
      (prose_field "title").decode lookup = some fields.title ∧
      (prose_field "description").decode lookup = some fields.description ∧
      (prose_field "instruction").decode lookup = some fields.instruction ∧
      (Fields.settable "provider" StoredProviderSelection.codec).decode lookup = some fields.provider ∧
      (Fields.settable "capabilities" MemberCapabilities.codec).decode lookup = some fields.capabilities := by
  obtain ⟨⟨id, title, description, instruction, provider, capabilities⟩, hdecode, hfields⟩ :=
    Option.bind_eq_some_iff.mp h
  obtain rfl := Option.some.inj hfields
  obtain ⟨hid, hdecode⟩ := Fields.decode_and.mp hdecode
  obtain ⟨htitle, hdecode⟩ := Fields.decode_and.mp hdecode
  obtain ⟨hdescription, hdecode⟩ := Fields.decode_and.mp hdecode
  obtain ⟨hinstruction, hdecode⟩ := Fields.decode_and.mp hdecode
  obtain ⟨hprovider, hcapabilities⟩ := Fields.decode_and.mp hdecode
  exact ⟨hid, htitle, hdescription, hinstruction, hprovider, hcapabilities⟩

theorem string_check_decode {p : String → Prop} [DecidablePred p] {value : JsonData} {text : {s // p s}} :
    (Codec.string.check p).decode value = some text ↔ value = .string text.val := by
  constructor
  · intro h
    obtain ⟨s, hs, hcheck⟩ := Option.bind_eq_some_iff.mp h
    have hvalue : value = .string s := by
      cases value <;> cases hs
      rfl
    split at hcheck
    · obtain rfl := Option.some.inj hcheck
      exact hvalue
    · cases hcheck
  · rintro rfl
    exact (Codec.string.check p).decode_encode text

/-- Optional prose is absent, or a text. -/
theorem optional_text_decode {p : String → Prop} [DecidablePred p] {key : String} {text : Option {s // p s}} :
    (Fields.optional key (Codec.string.check p) (Codec.check_ne_null Codec.string_ne_null)).decode lookup = some text ↔
      (text = none ∧ (lookup key = none ∨ lookup key = some .null)) ∨
        ∃ s, text = some s ∧ lookup key = some (.string s.val) := by
  change (lookup key).elim (some none) ((Codec.string.check p).nullable _).decode = some text ↔ _
  cases hvalue : lookup key with
  | none => simp [eq_comm]
  | some value =>
    rw [Option.elim_some]
    by_cases hnull : value = .null
    · subst hnull
      change some none = some text ↔ _
      simp [eq_comm]
    · have hread : ((Codec.string.check p).nullable (Codec.check_ne_null Codec.string_ne_null)).decode value =
          ((Codec.string.check p).decode value).map some := by
        cases value <;> first | rfl | exact absurd rfl hnull
      rw [hread]
      simp only [Option.map_eq_some_iff, string_check_decode, Option.some.injEq, reduceCtorEq, false_or, hnull,
        and_false]
      exact ⟨fun ⟨s, hs, heq⟩ => ⟨s, heq.symm, hs⟩, fun ⟨s, heq, hs⟩ => ⟨s, hs, heq.symm⟩⟩

theorem settable_decode_eq_some {α : Type} {key : String} {c : Codec α} {value : Option α}
    (h : (Fields.settable key c).decode lookup = some value) :
    (value = none ∧ lookup key = none) ∨ ∃ a data, value = some a ∧ lookup key = some data ∧
    c.decode data = some a := by
  change (lookup key).elim (some none) (fun v => (c.decode v).map some) = some value at h
  cases hdata : lookup key with
  | none =>
    rw [hdata] at h
    exact .inl ⟨(Option.some.inj h).symm, rfl⟩
  | some data =>
    rw [hdata, Option.elim_some] at h
    obtain ⟨a, ha, rfl⟩ := Option.map_eq_some_iff.mp h
    exact .inr ⟨a, data, rfl, rfl, ha⟩

/-- A provider selection is an object with its kind and, when there is one, its model. -/
theorem selection_decode_eq_some {data : JsonData} {selection : StoredProviderSelection}
    (h : StoredProviderSelection.codec.decode data = some selection) :
    ∃ members, data = .object members ∧
      (Fields.settable "model" (NonblankText.codec 255)).decode (fun key => members.lookup key) =
        some selection.model := by
  match data with
  | .object members =>
    change (if ∀ member ∈ members, _ then _ else none) = some selection at h
    split at h
    · obtain ⟨⟨kind, model, effort, sandbox, mode⟩, hdecode, hselection⟩ := Option.bind_eq_some_iff.mp h
      obtain ⟨-, hdecode⟩ := Fields.decode_and.mp hdecode
      obtain ⟨hmodel, -⟩ := Fields.decode_and.mp hdecode
      dsimp only at hselection
      split at hselection
      · obtain rfl := Option.some.inj hselection
        exact ⟨members, rfl, hmodel⟩
      · cases hselection
    · cases h
  | .null | .bool _ | .int _ | .string _ | .array _ => cases h

end Decoding

end OhMySubagents.Workflows

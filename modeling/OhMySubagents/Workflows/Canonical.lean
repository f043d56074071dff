import OhMySubagents.Json.Dumps
import OhMySubagents.Json.SortKeys
import OhMySubagents.Workflows.Renormalization

open JsonData

namespace OhMySubagents.Workflows

open Contracts OhMySubagents.Workflows.NormalizedMember

section SortFree

theorem sort_free_sandbox : ProviderSandbox.codec.SortFree :=
  Fields.SortFree.object (.via (.and (.required .enum) (.required .enum)))

theorem sort_free_selection : StoredProviderSelection.codec.SortFree :=
  Fields.SortFree.object (.via (.and (.required .enum) (.and (.settable (.check .of_string)) (.and (.settable .enum)
    (.and (.settable sort_free_sandbox) (.settable .enum))))))

theorem sort_free_capabilities : MemberCapabilities.codec.SortFree :=
  Fields.SortFree.object (.via (.and (.settable (.check (.list .enum))) (.settable .enum)))

theorem sort_free_members : MemberFields.members.SortFree :=
  .via (.and (.required (.check .of_string)) (.and (.optional (.check .of_string)) (.and (.optional (.check .of_string))
    (.and (.optional (.check .of_string)) (.and (.settable sort_free_selection) (.settable sort_free_capabilities))))))

theorem sort_free_workflow : NormalizedWorkflow.members.SortFree :=
  .and (.required .enum) (.and (.required (.check .of_string)) (.and (.required (.check .of_string))
    (.optional (.check .of_string))))

end SortFree

section Validation

theorem validate_children_field_eq (members : List (String × JsonData)) :
    validate_children_field members = (members.lookup "children").elim (some none) fun value =>
      (validate_children value).map some := by
  rw [validate_children_field_eq_read, read_children_field_eq]
  cases members.lookup "children" with
  | none => rfl
  | some value => exact congrArg (Option.map some) (validate_children_eq_read value).symm

private theorem validate_sorted :
    (∀ data, model_validate (sort_keys data) = model_validate data ∧
        validate_children (sort_keys data) = validate_children data) ∧
      (∀ items, validate_members (sort_items items) = validate_members items) ∧
      ∀ (members : List (String × JsonData)) key value, members.lookup key = some value →
        validate_children (sort_keys value) = validate_children value := by
  refine data_induction ⟨rfl, rfl⟩ (fun _ => ⟨rfl, rfl⟩) (fun _ => ⟨rfl, rfl⟩) (fun _ => ⟨rfl, rfl⟩) ?_ ?_ rfl ?_ ?_ ?_
  · intro items ih
    exact ⟨rfl, ih⟩
  · intro members ih
    refine ⟨?_, rfl⟩
    have hfields : MemberFields.members.decode (fun key => (sort_members members).lookup key) =
        MemberFields.members.decode fun key => members.lookup key := by
      rw [← sort_free_members fun key => members.lookup key]
      exact congrArg _ (funext fun key => lookup_sort_members)
    have hchildren : validate_children_field (sort_members members) = validate_children_field members := by
      rw [validate_children_field_eq, validate_children_field_eq, lookup_sort_members]
      cases hvalue : members.lookup "children" with
      | none => rfl
      | some value => exact congrArg (Option.map some) (ih _ _ hvalue)
    rw [sort_keys, model_validate, model_validate, hfields, hchildren]
    exact if_congr (keys_sorted (p := fun key => key = "children" ∨ key ∈ MemberFields.members.keys)) rfl rfl
  · intro item items hitem hitems
    rw [sort_items, validate_members, validate_members, hitem.1, hitems]
  · intro key value h
    cases h
  · intro name child members hchild hmembers key value h
    rw [lookup_cons] at h
    split at h
    · obtain rfl := Option.some.inj h
      exact hchild.2
    · exact hmembers key value h

/-- The order of members is all one to the validation of a Workflow. -/
theorem model_validate_sort_keys (data : JsonData) :
    NormalizedWorkflow.model_validate (sort_keys data) = NormalizedWorkflow.model_validate data := by
  cases data with
  | object members =>
    have hfields : NormalizedWorkflow.members.decode (fun key => (sort_members members).lookup key) =
        NormalizedWorkflow.members.decode fun key => members.lookup key := by
      rw [← sort_free_workflow fun key => members.lookup key]
      exact congrArg _ (funext fun key => lookup_sort_members)
    have hlead : ((sort_members members).lookup "lead").bind model_validate =
        (members.lookup "lead").bind model_validate := by
      rw [lookup_sort_members]
      cases members.lookup "lead" with
      | none => rfl
      | some value => exact (validate_sorted.1 value).1
    have hkeys : (∀ member ∈ sort_members members, member.1 = "lead" ∨ member.1 ∈ NormalizedWorkflow.members.keys) ↔
        ∀ member ∈ members, member.1 = "lead" ∨ member.1 ∈ NormalizedWorkflow.members.keys :=
      keys_sorted (p := fun key => key = "lead" ∨ key ∈ NormalizedWorkflow.members.keys)
    rw [sort_keys, NormalizedWorkflow.model_validate, NormalizedWorkflow.model_validate, hfields, hlead]
    exact congrArg (Option.bind · _) (if_congr hkeys rfl rfl)
  | _ => rfl

end Validation

/-- No two Workflows share their canonical text. -/
theorem canonical_workflow_text_injective {workflow workflow' : NormalizedWorkflow}
    (h : canonical_workflow_text workflow = canonical_workflow_text workflow') : workflow = workflow' := by
  have hsorted := dumps_injective (String.ofList_injective h)
  have hvalidated := congrArg NormalizedWorkflow.model_validate hsorted
  rw [model_validate_sort_keys, model_validate_sort_keys, NormalizedWorkflow.model_validate_dump,
    NormalizedWorkflow.model_validate_dump] at hvalidated
  exact Option.some.inj hvalidated

end OhMySubagents.Workflows

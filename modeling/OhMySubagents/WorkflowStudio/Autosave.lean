import OhMySubagents.WorkflowStudio.Flushing

open Relational

namespace OhMySubagents.WorkflowStudio

variable {server : DraftServer} {session : StudioSession}

/-- No edit of the user is lost, and the requests are sent in turn. -/
structure EditsKept (server : DraftServer) (session : StudioSession) : Prop where
  shown : ∀ x last value, session.last_values x = some last →
    session.runtime.snapshot.working_workflow.read x = some value → value = last ∨ server.form x last value
  untouched : ∀ x, session.last_values x = none → session.runtime.snapshot.working_workflow.read x =
    session.runtime.snapshot.accepted_draft.workflow.read x
  settled : ∀ x last value, session.last_values x = some last →
    session.runtime.snapshot.working_workflow.read x = some value → ¬ session.runtime.snapshot.dirty.has x →
      LastSet x last (accepted_operations session.runtime.exchanges)
  in_turn : SentInTurn session.loaded session.runtime.exchanges

theorem Coherent.edits_kept (h : Coherent server session) : EditsKept server session where
  shown x last value hlast hvalue := by
    by_cases hdirty : session.runtime.snapshot.dirty.has x
    · exact .inl (Option.some.inj ((h.edited x value hdirty hvalue).symm.trans hlast))
    · exact .inr (h.saved x last value hdirty hlast hvalue).1
  untouched x hlast := by
    by_cases hdirty : session.runtime.snapshot.dirty.has x
    · have hsame := read_isSome_congr h.members x
      cases hvalue : session.runtime.snapshot.working_workflow.read x with
      | none =>
        rw [hvalue] at hsame
        exact (Option.isNone_iff_eq_none.mp (by simpa using hsame.symm)).symm
      | some value =>
        have hedited := h.edited x value hdirty hvalue
        rw [hlast] at hedited
        cases hedited
    · exact h.clean x hdirty
  settled x last value hlast hvalue hclean := (h.saved x last value hclean hlast hvalue).2
  in_turn := h.sent_in_turn

/-- Whatever else the user, the timer and the server do, no edit is lost unless one raises. -/
theorem DraftServer.edits_kept (h : server.lossless_studio.Reachable session) : EditsKept server session :=
  (server.coherent h).edits_kept

/-- The Studio in which every edit of a Member names a Member of the tree and leaves it a dirty field, or raises without
    a loss. -/
def DraftServer.effective_studio (server : DraftServer) : Transactional StudioSession StudioTurn :=
  server.studio.restrict fun turn session => Effective session turn.action

/-- Autosave loses no edit, and every flush ends as long as no edit leaves a dirty Member without a field to send. -/
theorem autosave_keeps_edits (h : server.effective_studio.Reachable session) :
    EditsKept server session ∧ FlushEnds server session := by
  have hready : Ready server session := by
    refine h.invariant ?_ (fun _ _ _ hready hcommit => hready.step hcommit.1 hcommit.2)
    rintro _ ⟨draft, now, rfl⟩
    exact .load draft now
  exact ⟨hready.coherent.edits_kept, hready.flush_ends⟩

/-! ### A server that stores what it is sent -/

/-- A server that stores every value as it is. -/
def storing_server : DraftServer where
  accepts draft operation draft' :=
    (∀ member_id, draft'.workflow.has_member member_id = draft.workflow.has_member member_id) ∧
      (∀ x value value', operation.sets x value → draft'.workflow.read x = some value' → value = value') ∧
      ∀ x value value', (∀ v, ¬ operation.sets x v) → draft.workflow.read x = some value →
        draft'.workflow.read x = some value' → value = value'
  form _ value value' := value = value'
  form_refl _ _ := rfl
  form_trans h h' := h.trans h'
  members h := h.1
  patched h _ _ _ hsets hread := h.2.1 _ _ _ hsets hread
  kept h _ _ _ hunset hread hread' := h.2.2 _ _ _ hunset hread hread'

/-- A draft of a Workflow whose only Member is its lead. -/
def plain_draft (id : String) : WorkflowDraftReadback := ⟨"draft", "1", ⟨"workflow", "Plans and builds.", none, { id }⟩⟩

/-- The Studio of a plain draft after one edit of its lead. -/
def lead_edited (id : String) (patch : MemberEdit) : StudioSession :=
  let loaded := StudioSession.load (plain_draft id) 0
  loaded.edited (patch.values id) (loaded.runtime.edit_member id patch)

/-- The same, and the start of a flush. -/
def flushed (patch : MemberEdit) : StudioSession :=
  { lead_edited "lead" patch with runtime := (lead_edited "lead" patch).runtime.flush_edits }

theorem autosave_keeps_edits_title : EditsKept storing_server (flushed { title := some (some "Lead") }) ∧
    FlushEnds storing_server (flushed { title := some (some "Lead") }) := by
  refine autosave_keeps_edits ?_
  have hload : storing_server.effective_studio.Reachable (.load (plain_draft "lead") 0) := ⟨[], .start ⟨_, _, rfl⟩⟩
  have hedit : storing_server.effective_studio.Reachable (lead_edited "lead" { title := some (some "Lead") }) :=
    hload.step (t := ⟨0, .edit_member "lead" { title := some (some "Lead") }⟩) rfl
      ⟨fun _ => ⟨rfl, .inl (by decide)⟩, trivial, rfl⟩
  exact hedit.step (t := ⟨0, .flush_edits⟩) rfl ⟨trivial, trivial, rfl⟩

private theorem lead_edited_reachable (id : String) (patch : MemberEdit) :
    storing_server.studio.Reachable (lead_edited id patch) := by
  have hload : storing_server.studio.Reachable (.load (plain_draft id) 0) := ⟨[], .start ⟨_, _, rfl⟩⟩
  exact hload.step (t := ⟨0, .edit_member id patch⟩) rfl ⟨trivial, rfl⟩

private theorem flush_goes_on (hends : FlushEnds storing_server (flushed {})) : False := by
  let round : StudioSession := { flushed {} with runtime :=
    { (flushed {}).runtime with checking := 0, jobs := [.flush] } }
  have hcheck : Quiet storing_server (flushed {}) round := ⟨⟨0, .check⟩, trivial, trivial, rfl⟩
  have hrun : Quiet storing_server round (flushed {}) := ⟨⟨0, .run⟩, trivial, trivial, rfl⟩
  have hcycle : ∀ session, Acc (fun session' session => Quiet storing_server session session') session →
      session ≠ flushed {} ∧ session ≠ round := by
    intro session hacc
    induction hacc with
    | intro session _ ih =>
      refine ⟨?_, ?_⟩
      · rintro rfl
        exact (ih round hcheck).2 rfl
      · rintro rfl
        exact (ih _ hrun).1 rfl
  exact (hcycle _ hends.finite).1 rfl

/-- After an edit that changes nothing, a flush tests its condition and sends nothing, for ever. The title that is given
    to a Member whose identifier is an inherited key is lost. -/
theorem flush_of_empty_edit_goes_on :
    (storing_server.studio.Reachable (flushed {}) ∧ ¬ FlushEnds storing_server (flushed {})) ∧
      storing_server.studio.Reachable (lead_edited "constructor" { title := some (some "Lead") }) ∧
      ¬ EditsKept storing_server (lead_edited "constructor" { title := some (some "Lead") }) := by
  refine ⟨⟨(lead_edited_reachable "lead" {}).step (t := ⟨0, .flush_edits⟩) rfl ⟨trivial, rfl⟩, fun hends => ?_⟩,
    lead_edited_reachable _ _, fun hkept => ?_⟩
  · exact flush_goes_on hends
  · rcases hkept.shown (.member "constructor" .title) (some "Lead") none rfl rfl with h | h <;> cases h

end OhMySubagents.WorkflowStudio

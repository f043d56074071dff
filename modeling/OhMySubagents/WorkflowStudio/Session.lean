import OhMySubagents.WorkflowStudio.DraftRuntime
import OhMySubagents.Relational.Runs

open Relational

namespace OhMySubagents.WorkflowStudio

/-- What the Console relies on in the server that keeps its drafts. An accepted operation sets the fields that it
    names to a form of the values it carries, and leaves the other fields and the Members as they were. -/
structure DraftServer where
  accepts : WorkflowDraftReadback → DraftOperation → WorkflowDraftReadback → Prop
  form : EditableField → Option String → Option String → Prop
  form_refl : ∀ x value, form x value value
  form_trans : ∀ {x value value' value''}, form x value value' → form x value' value'' → form x value value''
  members : ∀ {draft operation draft'}, accepts draft operation draft' → ∀ member_id,
    draft'.workflow.has_member member_id = draft.workflow.has_member member_id
  patched : ∀ {draft operation draft'}, accepts draft operation draft' → ∀ {x value value'}, operation.sets x value →
    draft'.workflow.read x = some value' → form x value value'
  kept : ∀ {draft operation draft'}, accepts draft operation draft' → ∀ {x value value'},
    (∀ v, ¬ operation.sets x v) → draft.workflow.read x = some value → draft'.workflow.read x = some value' →
      form x value value'

/-- The draft runtime, with the draft that was loaded and the last value that the user gave each field. -/
structure StudioSession where
  loaded : WorkflowDraftReadback
  runtime : WorkflowDraftRuntime
  last_values : EditableField → Option (Option String)

inductive StudioAction
  | edit_workflow (patch : WorkflowEdit)
  | edit_member (member_id : String) (patch : MemberEdit)
  | fire | flush_edits | retry_save | check | run
  | accept (draft : WorkflowDraftReadback)
  | refuse (failure : DraftFailure)

/-- One turn of the event loop, at a time of the clock. -/
structure StudioTurn where
  at_time : Nat
  action : StudioAction

/-- The values that an edit gives to the fields of a Workflow. -/
def WorkflowEdit.values (patch : WorkflowEdit) : EditableField → Option (Option String)
  | .workflow field => patch.get field
  | .member _ _ => none

def MemberEdit.values (patch : MemberEdit) (member_id : String) : EditableField → Option (Option String)
  | .workflow _ => none
  | .member member_id' field => if member_id' = member_id then patch.get field else none

namespace StudioSession

def load (draft : WorkflowDraftReadback) (now : Nat) : StudioSession where
  loaded := draft
  runtime := ⟨now, draft_state draft, {}, [], none, 0, []⟩
  last_values := fun _ => none

/-- Records the values of an edit that the Studio takes. -/
def edited (session : StudioSession) (values : EditableField → Option (Option String))
    (runtime : WorkflowDraftRuntime) : StudioSession :=
  { session with
    runtime
    last_values := fun x =>
      if session.runtime.snapshot.can_accept_local_edit then (values x).or (session.last_values x)
      else session.last_values x }

def take (session : StudioSession) : StudioAction → Option StudioSession
  | .edit_workflow patch => some (session.edited patch.values (session.runtime.edit_workflow patch))
  | .edit_member member_id patch =>
    some (session.edited (patch.values member_id) (session.runtime.edit_member member_id patch))
  | .fire => session.runtime.fire.map fun runtime => { session with runtime }
  | .flush_edits => some { session with runtime := session.runtime.flush_edits }
  | .retry_save => session.runtime.retry_save.map fun runtime => { session with runtime }
  | .check => session.runtime.check.map fun runtime => { session with runtime }
  | .run => session.runtime.run.map fun runtime => { session with runtime }
  | .accept draft => (session.runtime.accept draft).map fun runtime => { session with runtime }
  | .refuse failure => (session.runtime.refuse failure).map fun runtime => { session with runtime }

def advance (session : StudioSession) (now : Nat) : StudioSession :=
  { session with runtime := { session.runtime with now } }

def step (session : StudioSession) (turn : StudioTurn) : Option StudioSession :=
  if turn.at_time < session.runtime.now then none else (session.advance turn.at_time).take turn.action

/-- An accepted draft is what the server makes of the request that waits. -/
def answered (session : StudioSession) (server : DraftServer) : StudioAction → Prop
  | .accept draft => ∃ edit rest, session.runtime.sending = some ⟨edit, rest⟩ ∧
    server.accepts session.runtime.snapshot.accepted_draft edit.operation draft
  | _ => True

end StudioSession

/-- The sessions of the Studio with a server, from the moment a draft was loaded. -/
def DraftServer.studio (server : DraftServer) : Transactional StudioSession StudioTurn where
  start session := ∃ draft now, session = .load draft now
  reads _ := []
  commit turn session session' := session.answered server turn.action ∧ session.step turn = some session'

/-! ### The requests of a session -/

/-- The draft that the server accepted last. -/
def latest_draft (loaded : WorkflowDraftReadback) : List Exchange → WorkflowDraftReadback
  | [] => loaded
  | .accepted draft :: _ => draft
  | _ :: exchanges => latest_draft loaded exchanges

def is_waiting : List Exchange → Prop
  | .sent _ _ :: _ => True
  | _ => False

/-- Every request was sent when no other waited for its answer, and carried the ETag of the draft that the server
    had accepted last. -/
def SentInTurn (loaded : WorkflowDraftReadback) : List Exchange → Prop
  | [] => True
  | .sent etag _ :: exchanges =>
    etag = (latest_draft loaded exchanges).etag ∧ ¬ is_waiting exchanges ∧ SentInTurn loaded exchanges
  | _ :: exchanges => is_waiting exchanges ∧ SentInTurn loaded exchanges

/-- The operations that the server accepted, newest first. -/
def accepted_operations : List Exchange → List DraftOperation
  | .accepted _ :: .sent _ operation :: exchanges => operation :: accepted_operations exchanges
  | _ :: exchanges => accepted_operations exchanges
  | [] => []

/-- The last of some operations to set a field sets it to a value. -/
def LastSet (x : EditableField) (value : Option String) : List DraftOperation → Prop
  | [] => False
  | operation :: earlier => operation.sets x value ∨ (∀ v, ¬ operation.sets x v) ∧ LastSet x value earlier

def WorkflowDraftRuntime.pending (runtime : WorkflowDraftRuntime) : List BuiltDraftEdit :=
  match runtime.sending with
  | none => []
  | some ⟨edit, rest⟩ => edit :: rest

/-! ### The invariant of the draft -/

/-- How the working Workflow, the dirty fields and the requests of the running operation hang together. -/
structure Coherent (server : DraftServer) (session : StudioSession) : Prop where
  members : ∀ member_id, session.runtime.snapshot.working_workflow.has_member member_id =
    session.runtime.snapshot.accepted_draft.workflow.has_member member_id
  clean : ∀ x, ¬ session.runtime.snapshot.dirty.has x →
    session.runtime.snapshot.working_workflow.read x = session.runtime.snapshot.accepted_draft.workflow.read x
  edited : ∀ x value, session.runtime.snapshot.dirty.has x →
    session.runtime.snapshot.working_workflow.read x = some value → session.last_values x = some value
  saved : ∀ x last value, ¬ session.runtime.snapshot.dirty.has x → session.last_values x = some last →
    session.runtime.snapshot.working_workflow.read x = some value →
      server.form x last value ∧ LastSet x last (accepted_operations session.runtime.exchanges)
  nodup : session.runtime.snapshot.dirty.member_ids.Nodup
  listed : ∀ member_id ∉ session.runtime.snapshot.dirty.member_ids,
    session.runtime.snapshot.dirty.member_fields member_id = []
  pending_dirty : ∀ edit ∈ session.runtime.pending, ∀ x value, edit.sent.carries x value →
    session.runtime.snapshot.dirty.has x
  pending_operation : ∀ edit ∈ session.runtime.pending, ∀ x value,
    edit.operation.sets x value ↔ edit.sent.carries x value
  pending_present : ∀ edit ∈ session.runtime.pending,
    edit.sent.present session.runtime.snapshot.working_workflow
  pending_groups : (session.runtime.pending.map fun edit => edit.sent.group).Nodup
  waiting : ∀ sending, session.runtime.sending = some sending → ∃ etag exchanges,
    session.runtime.exchanges = .sent etag sending.edit.operation :: exchanges
  idle : session.runtime.sending = none → ¬ is_waiting session.runtime.exchanges
  latest : latest_draft session.loaded session.runtime.exchanges = session.runtime.snapshot.accepted_draft
  sent_in_turn : SentInTurn session.loaded session.runtime.exchanges

variable {server : DraftServer} {session session' : StudioSession} {workflow workflow' : NormalizedWorkflow}
  {dirty dirty' : StudioDirtyState}

/-- Two Workflows with the same fields have the same Members. -/
theorem has_member_congr {member_id : String}
    (h : ∀ x, (workflow'.read x).isSome = (workflow.read x).isSome) :
    workflow'.has_member member_id = workflow.has_member member_id := by
  rw [← read_isSome_member .title, ← read_isSome_member .title]
  exact h _

theorem read_isSome_congr (h : ∀ member_id, workflow'.has_member member_id = workflow.has_member member_id)
    (x : EditableField) : (workflow'.read x).isSome = (workflow.read x).isSome := by
  cases x with
  | workflow => rfl
  | member member_id field => rw [read_isSome_member, read_isSome_member, h]

theorem SentDraftEdit.present_congr {sent : SentDraftEdit} (h : sent.present workflow)
    (hmembers : ∀ member_id, workflow'.has_member member_id = workflow.has_member member_id) :
    sent.present workflow' := by
  cases sent with
  | workflow => trivial
  | member member_id => exact (hmembers member_id).trans h

theorem build_draft_edit_batch_present {edit : BuiltDraftEdit} (h : edit ∈ build_draft_edit_batch workflow dirty) :
    edit.sent.present workflow := by
  rcases mem_build_draft_edit_batch.mp h with ⟨-, rfl⟩ | ⟨member_id, -, hbuilt⟩
  · trivial
  · obtain ⟨member, hmember, -, rfl⟩ := build_member_edit_success hbuilt
    obtain rfl := find_member_id _ _ hmember
    exact Option.isSome_iff_exists.mpr ⟨member, hmember⟩

theorem Coherent.load (draft : WorkflowDraftReadback) (now : Nat) :
    Coherent server (.load draft now) where
  members _ := rfl
  clean _ _ := rfl
  edited x _ h := by cases x <;> simp [StudioSession.load, draft_state, empty_dirty, StudioDirtyState.has] at h
  saved _ _ _ _ h := by cases h
  nodup := List.nodup_nil
  listed _ _ := rfl
  pending_dirty := by simp [StudioSession.load, WorkflowDraftRuntime.pending]
  pending_operation := by simp [StudioSession.load, WorkflowDraftRuntime.pending]
  pending_present := by simp [StudioSession.load, WorkflowDraftRuntime.pending]
  pending_groups := List.nodup_nil
  waiting _ h := by cases h
  idle _ h := h
  latest := rfl
  sent_in_turn := trivial

end OhMySubagents.WorkflowStudio

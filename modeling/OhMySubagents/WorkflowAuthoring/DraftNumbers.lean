import OhMySubagents.WorkflowAuthoring.DraftProtocol
import OhMySubagents.Workflows.MemberNumbers

open Relational JsonData

namespace OhMySubagents.WorkflowAuthoring

open Workflows WorkflowRegistry

variable {backend : Dialect} {sha256 : String → BitVec 256} {drawn : DrawnTokens}
  {registry registry' : WorkflowRegistry}

/-- Stored content of a Workflow whose Members' numbers are below a bound. -/
def NumberedContent (bound : Nat) (workflow_id : String) (content_json : JsonData) : Prop :=
  ∃ content : NormalizedWorkflow, content_json = content.dump ∧ content.id.val = workflow_id ∧
    NumbersBelow bound content.lead

theorem NumberedContent.mono {bound bound' : Nat} {workflow_id : String} {content_json : JsonData}
    (h : NumberedContent bound workflow_id content_json) (hle : bound ≤ bound') :
    NumberedContent bound' workflow_id content_json := by
  obtain ⟨content, hcontent, hid, hbelow⟩ := h
  exact ⟨content, hcontent, hid, hbelow.mono hle⟩

theorem NumberedContent.read {row : WorkflowDraftRow}
    (h : NumberedContent row.next_member_sequence row.workflow_key row.content_json) :
    ∃ content, row.workflow = .ok content ∧ row.content_json = content.dump ∧
      NumbersBelow row.next_member_sequence content.lead := by
  obtain ⟨content, hcontent, hid, hbelow⟩ := h
  refine ⟨content, read_persisted_workflow_eq_ok.mpr ⟨?_, hid⟩, hcontent, hbelow⟩
  rw [hcontent, NormalizedWorkflow.model_validate_dump]

/-- What one request does to the member sequences and to the contents that they number. -/
inductive NumberMove (backend : Dialect) (sha256 : String → BitVec 256) (drawn : DrawnTokens)
    (registry registry' : WorkflowRegistry) : Prop
  | kept (drafts : registry'.drafts = registry.drafts)
      (undo_receipts : registry'.undo_receipts = registry.undo_receipts)
  | inserted (workflow : NormalizedWorkflow) (base_revision_no : Option Nat)
      (fits : next_workflow_member_sequence workflow ≤ backend.integer_column_max)
      (drafts : registry'.drafts =
        registry.drafts.set (new_workflow_draft_id drawn) (new_draft_row sha256 drawn workflow base_revision_no))
      (undo_receipts : registry'.undo_receipts = registry.undo_receipts)
  | replaced (draft_id : String) (row : WorkflowDraftRow) (workflow : NormalizedWorkflow) (sequence : Nat)
      (found : registry.drafts.get? draft_id = some row) (identity : workflow.id.val = row.workflow_key)
      (grows : row.next_member_sequence ≤ sequence) (fits : sequence ≤ backend.integer_column_max)
      (numbered : NumberedContent row.next_member_sequence row.workflow_key row.content_json →
        NumbersBelow sequence workflow.lead)
      (drafts : registry'.drafts = registry.drafts.set draft_id (row.replaced sha256 drawn workflow sequence))
      (undo_receipts : registry'.undo_receipts =
        registry.undo_receipts.set (new_workflow_undo_receipt_id drawn) (row.undo_receipt drawn draft_id))
  | restored (receipt_id : String) (row : WorkflowDraftRow) (receipt : WorkflowUndoReceiptRow)
      (found : registry.drafts.get? receipt.draft_id = some row)
      (unused : registry.undo_receipts.get? receipt_id = some receipt)
      (drafts : registry'.drafts = registry.drafts.set receipt.draft_id (row.restored drawn receipt))
      (undo_receipts : registry'.undo_receipts = registry.undo_receipts.set receipt_id receipt.used)
  | deleted (draft_id : String) (drafts : registry'.drafts = (registry.delete_draft draft_id).drafts)
      (undo_receipts : registry'.undo_receipts = (registry.delete_draft draft_id).undo_receipts)

private theorem inserted_number_move {workflow : NormalizedWorkflow} {base_revision_no : Option Nat}
    (h : Inserted backend sha256 drawn registry registry' workflow base_revision_no) :
    NumberMove backend sha256 drawn registry registry' := by
  have hfits := h.fits
  rw [h.result]
  exact .inserted workflow base_revision_no hfits rfl acquire_workflow_owner_undo_receipts

private theorem replaced_number_move {draft_id : String} {row : WorkflowDraftRow} {workflow : NormalizedWorkflow}
    {next_member_sequence : Nat} (hrow : registry.drafts.get? draft_id = some row)
    (h : Replaced backend sha256 drawn registry registry' draft_id row workflow
      (max row.next_member_sequence next_member_sequence))
    (hnumbered : NumberedContent row.next_member_sequence row.workflow_key row.content_json →
      NumbersBelow next_member_sequence workflow.lead) : NumberMove backend sha256 drawn registry registry' := by
  have hidentity := h.identity
  have hfits := h.fits
  rw [h.result]
  exact .replaced draft_id row workflow _ hrow hidentity (le_max_left _ _) hfits
    (fun hcontent => (hnumbered hcontent).mono (le_max_right _ _)) rfl rfl

/-- An edit numbers its Members after those of the content that it reads. -/
private theorem edited_numbered {row : WorkflowDraftRow} {current updated : NormalizedWorkflow}
    {operation : DraftOperation} {next : Nat} (hcurrent : row.workflow = .ok current)
    (hedit : edit_normalized_workflow allocate_member_id row.next_member_sequence current operation = .ok
      (updated, next)) (h : NumberedContent row.next_member_sequence row.workflow_key row.content_json) :
    NumbersBelow next updated.lead := by
  obtain ⟨content, hcontent, -, hbelow⟩ := h.read
  obtain rfl := Except.ok.inj (hcurrent.symm.trans hcontent)
  exact edited_numbers_below hbelow hedit

theorem operation_number_move {request : WorkflowRequest} {reply : WorkflowReply}
    (h : request.operation backend sha256 drawn registry = .ok (reply, registry')) :
    NumberMove backend sha256 drawn registry registry' := by
  cases request with
  | open_draft workflow_id =>
    obtain ⟨result, hresult, -⟩ := reply_eq_ok h
    rcases open_existing_workflow_draft_eq_ok hresult with ⟨-, rfl⟩ | ⟨workflow, base, -, hinserted⟩
    · exact .kept rfl rfl
    · exact inserted_number_move hinserted
  | create_draft id description note lead =>
    obtain ⟨result, hresult, -⟩ := reply_eq_ok h
    obtain ⟨workflow, -, -, hinserted⟩ := create_workflow_draft_eq_ok hresult
    exact inserted_number_move hinserted
  | import_draft workflow etag =>
    obtain ⟨result, hresult, -⟩ := reply_eq_ok h
    rcases import_workflow_draft_eq_ok hresult with
      ⟨-, -, base, hinserted⟩ | ⟨draft_id, row, -, hrow, -, -, ⟨-, -, rfl⟩ | ⟨-, -, -, hreplaced⟩⟩
    · exact inserted_number_move hinserted
    · exact .kept rfl rfl
    · exact replaced_number_move hrow hreplaced fun _ => numbers_below_next workflow
  | edit_draft draft_id etag operation =>
    obtain ⟨result, hresult, -⟩ := reply_eq_ok h
    obtain ⟨row, current, updated, next, hrow, -, hcurrent, hedit, -, -, hreplaced⟩ := edit_workflow_draft_eq_ok hresult
    exact replaced_number_move hrow hreplaced (edited_numbered hcurrent hedit)
  | undo_draft draft_id etag receipt_id =>
    obtain ⟨result, hresult, -⟩ := reply_eq_ok h
    obtain ⟨row, receipt, hrow, -, hreceipt, rfl, -, -, rfl⟩ := undo_workflow_draft_eq_ok hresult
    exact .restored receipt_id row receipt hrow hreceipt rfl rfl
  | discard_draft draft_id etag =>
    obtain ⟨result, hresult, -⟩ := reply_eq_ok h
    obtain ⟨row, -, -, rfl⟩ := discard_workflow_draft_eq_ok hresult
    exact .deleted draft_id rfl rfl
  | publish_draft draft_id etag =>
    obtain ⟨result, hresult, -⟩ := reply_eq_ok h
    obtain ⟨row, persisted, workflow, -, -, -, -, hpublished⟩ := publish_workflow_draft_eq_ok hresult
    obtain ⟨selected, -, -, publication⟩ := publish_workflow_revision_eq_ok hpublished
    exact .deleted draft_id publication.drafts publication.undo_receipts
  | remove_workflow workflow_id =>
    obtain ⟨result, hresult, -⟩ := reply_eq_ok h
    obtain ⟨⟨draft_id, row, -, -, hdrafts, hreceipts⟩ | ⟨hdrafts, hreceipts, -⟩, -, -⟩ := remove_workflow_eq_ok hresult
    · exact .deleted draft_id hdrafts hreceipts
    · exact .kept hdrafts hreceipts
  | seed_starters starters =>
    obtain ⟨revisions, hrevisions, -⟩ := reply_eq_ok h
    obtain ⟨hdrafts, hreceipts⟩ := seeds_keep_drafts hrevisions
    exact .kept hdrafts hreceipts

variable {store after later : WorkflowStore} {transaction : WorkflowTransaction}

theorem commit_number_move (h : (workflow_authoring backend sha256).commit transaction store after) :
    after.drawn = transaction.drawn :: store.drawn ∧
      NumberMove backend sha256 transaction.drawn store.registry after.registry := by
  obtain ⟨-, rfl⟩ := h
  rcases transaction.serve_eq backend sha256 store with ⟨reply, registry', hoperation, hserve⟩ | ⟨error, hserve⟩
  · rw [hserve]
    exact ⟨rfl, operation_number_move hoperation⟩
  · rw [hserve]
    exact ⟨rfl, .kept rfl rfl⟩

theorem new_workflow_draft_id_eq {drawn' : DrawnTokens}
    (h : new_workflow_draft_id drawn = new_workflow_draft_id drawn') :
    drawn.draft_id = drawn'.draft_id :=
  (String.append_right_inj _).mp h

/-- The member sequence of a draft fits its column and is beyond the numbers of the draft's content. -/
structure NumberedDraft (backend : Dialect) (store : WorkflowStore) (draft_id : String)
    (row : WorkflowDraftRow) : Prop where
  drawn : ∃ earlier ∈ store.drawn, draft_id = new_workflow_draft_id earlier
  fits : row.next_member_sequence ≤ backend.integer_column_max
  content : NumberedContent row.next_member_sequence row.workflow_key row.content_json

/-- The content that a receipt brings back is numbered below the member sequence of its draft. -/
structure NumberedReceipt (store : WorkflowStore) (receipt_id : String) (receipt : WorkflowUndoReceiptRow) : Prop where
  drawn : ∃ earlier ∈ store.drawn, receipt.draft_id = new_workflow_draft_id earlier
  issued : ∃ earlier ∈ store.drawn, receipt_id = new_workflow_undo_receipt_id earlier ∧
    receipt.expected_etag = new_workflow_draft_etag earlier
  content : ∀ row, store.registry.drafts.get? receipt.draft_id = some row →
    NumberedContent row.next_member_sequence row.workflow_key receipt.previous_content_json

structure NumberInvariant (backend : Dialect) (store : WorkflowStore) : Prop where
  drafts : ∀ draft_id row, store.registry.drafts.get? draft_id = some row → NumberedDraft backend store draft_id row
  receipts : ∀ receipt_id receipt, store.registry.undo_receipts.get? receipt_id = some receipt →
    NumberedReceipt store receipt_id receipt

private theorem drawn_before {p : DrawnTokens → Prop} (hdrawn : after.drawn = transaction.drawn :: store.drawn)
    (h : ∃ earlier ∈ store.drawn, p earlier) : ∃ earlier ∈ after.drawn, p earlier := by
  obtain ⟨earlier, hmem, hp⟩ := h
  exact ⟨earlier, hdrawn ▸ List.mem_cons_of_mem _ hmem, hp⟩

private theorem drawn_now {p : DrawnTokens → Prop} (hdrawn : after.drawn = transaction.drawn :: store.drawn)
    (h : p transaction.drawn) : ∃ earlier ∈ after.drawn, p earlier :=
  ⟨transaction.drawn, hdrawn ▸ List.mem_cons_self, h⟩

private theorem NumberedDraft.committed (hdrawn : after.drawn = transaction.drawn :: store.drawn) {draft_id : String}
    {row : WorkflowDraftRow} (h : NumberedDraft backend store draft_id row) :
    NumberedDraft backend after draft_id row :=
  ⟨drawn_before hdrawn h.drawn, h.fits, h.content⟩

/-- A commit that changes one draft's row, and whose receipts are old ones or are numbered, keeps the numbers. -/
private theorem NumberInvariant.of_set (h : NumberInvariant backend store)
    (hdrawn : after.drawn = transaction.drawn :: store.drawn) {changed_id : String} {row changed : WorkflowDraftRow}
    (hrow : store.registry.drafts.get? changed_id = some row)
    (hdrafts : after.registry.drafts = store.registry.drafts.set changed_id changed)
    (hkey : changed.workflow_key = row.workflow_key) (hgrows : row.next_member_sequence ≤ changed.next_member_sequence)
    (hfits : changed.next_member_sequence ≤ backend.integer_column_max)
    (hcontent : NumberedContent changed.next_member_sequence changed.workflow_key changed.content_json)
    (hreceipts : ∀ receipt_id receipt, after.registry.undo_receipts.get? receipt_id = some receipt →
      (∃ earlier, store.registry.undo_receipts.get? receipt_id = some earlier ∧
          (receipt = earlier ∨ receipt = earlier.used)) ∨
        (receipt_id = new_workflow_undo_receipt_id transaction.drawn ∧
          receipt = row.undo_receipt transaction.drawn changed_id)) : NumberInvariant backend after := by
  refine ⟨fun draft_id draft hdraft => ?_, fun receipt_id receipt hreceipt => ?_⟩
  · rw [hdrafts, Table.get?_set] at hdraft
    split at hdraft
    · next hid =>
      obtain rfl := Option.some.inj hdraft
      exact ⟨drawn_before hdrawn (hid ▸ (h.drafts changed_id row hrow).drawn), hfits, hcontent⟩
    · exact (h.drafts draft_id draft hdraft).committed hdrawn
  · -- the draft of a receipt is the changed one, or it is as it was
    have hnumbered : ∀ {draft_id content_json}, (∀ draft, store.registry.drafts.get? draft_id = some draft →
        NumberedContent draft.next_member_sequence draft.workflow_key content_json) →
        ∀ draft, after.registry.drafts.get? draft_id = some draft →
          NumberedContent draft.next_member_sequence draft.workflow_key content_json := by
      intro draft_id content_json hold draft hdraft
      rw [hdrafts, Table.get?_set] at hdraft
      split at hdraft
      · next hid =>
        obtain rfl := Option.some.inj hdraft
        rw [hkey]
        exact (hold row (hid ▸ hrow)).mono hgrows
      · exact hold draft hdraft
    rcases hreceipts receipt_id receipt hreceipt with ⟨earlier, hearlier, hsame⟩ | ⟨rfl, rfl⟩
    · obtain ⟨howner, hissued, hbefore⟩ := h.receipts receipt_id earlier hearlier
      rcases hsame with rfl | rfl <;>
        exact ⟨drawn_before hdrawn howner, drawn_before hdrawn hissued, hnumbered hbefore⟩
    · refine ⟨drawn_before hdrawn (h.drafts changed_id row hrow).drawn, drawn_now hdrawn ⟨rfl, rfl⟩, hnumbered ?_⟩
      intro draft hdraft
      obtain rfl := Option.some.inj (hrow.symm.trans hdraft)
      exact (h.drafts changed_id row hrow).content

private theorem number_invariant_step (h : NumberInvariant backend store)
    (hcommit : (workflow_authoring backend sha256).commit transaction store after) : NumberInvariant backend after := by
  obtain ⟨hdrawn, hmove⟩ := commit_number_move hcommit
  have hsame : (∀ draft_id row, after.registry.drafts.get? draft_id = some row →
      store.registry.drafts.get? draft_id = some row) →
      (∀ receipt_id receipt, after.registry.undo_receipts.get? receipt_id = some receipt →
        store.registry.undo_receipts.get? receipt_id = some receipt) → NumberInvariant backend after := by
    intro hdrafts hreceipts
    refine ⟨fun draft_id row hrow => (h.drafts draft_id row (hdrafts draft_id row hrow)).committed hdrawn,
      fun receipt_id receipt hreceipt => ?_⟩
    obtain ⟨howner, hissued, hcontent⟩ := h.receipts receipt_id receipt (hreceipts receipt_id receipt hreceipt)
    exact ⟨drawn_before hdrawn howner, drawn_before hdrawn hissued, fun row hrow => hcontent row (hdrafts _ row hrow)⟩
  cases hmove with
  | kept drafts undo_receipts =>
    rw [drafts, undo_receipts] at hsame
    exact hsame (fun _ _ => id) fun _ _ => id
  | deleted draft_id drafts undo_receipts =>
    refine hsame (fun other row hrow => ?_) fun receipt_id receipt hreceipt => ?_
    · rw [drafts, delete_draft, Table.get?_delete] at hrow
      split at hrow
      · cases hrow
      · exact hrow
    · rw [undo_receipts, delete_draft] at hreceipt
      exact DraftMove.get?_delete_all hreceipt
  | inserted workflow base_revision_no fits drafts undo_receipts =>
    refine ⟨fun draft_id row hrow => ?_, fun receipt_id receipt hreceipt => ?_⟩
    · rw [drafts, Table.get?_set] at hrow
      split at hrow
      · next hid =>
        obtain rfl := Option.some.inj hrow
        exact ⟨drawn_now hdrawn hid, fits, workflow, rfl, rfl, numbers_below_next workflow⟩
      · exact (h.drafts draft_id row hrow).committed hdrawn
    · rw [undo_receipts] at hreceipt
      obtain ⟨⟨earlier, hearlier, howner⟩, hissued, hcontent⟩ := h.receipts receipt_id receipt hreceipt
      refine ⟨drawn_before hdrawn ⟨earlier, hearlier, howner⟩, drawn_before hdrawn hissued, fun row hrow => ?_⟩
      rw [drafts, Table.get?_set, if_neg] at hrow
      · exact hcontent row hrow
      · rw [howner]
        exact fun hid => (hcommit.1 earlier hearlier).1 (new_workflow_draft_id_eq hid).symm
  | replaced draft_id row workflow sequence found identity grows fits numbered drafts undo_receipts =>
    refine h.of_set hdrawn found drafts rfl grows fits
      ⟨workflow, rfl, identity, numbered (h.drafts draft_id row found).content⟩ fun receipt_id receipt hreceipt => ?_
    rw [undo_receipts, Table.get?_set] at hreceipt
    split at hreceipt
    · next hid => exact .inr ⟨hid, (Option.some.inj hreceipt).symm⟩
    · exact .inl ⟨receipt, hreceipt, .inl rfl⟩
  | restored receipt_id row receipt found unused drafts undo_receipts =>
    refine h.of_set hdrawn found drafts rfl (Nat.le_refl _) (h.drafts _ row found).fits
      ((h.receipts receipt_id receipt unused).content row found) fun other used hused => ?_
    rw [undo_receipts, Table.get?_set] at hused
    split at hused
    · next hid =>
      obtain rfl := Option.some.inj hused
      exact .inl ⟨receipt, hid ▸ unused, .inr rfl⟩
    · exact .inl ⟨used, hused, .inl rfl⟩

theorem number_invariant (h : (workflow_authoring backend sha256).Reachable store) : NumberInvariant backend store := by
  refine h.invariant (P := NumberInvariant backend) ?_ fun transaction store after hold hcommit =>
    number_invariant_step hold hcommit
  rintro store rfl
  refine ⟨fun _ _ hrow => ?_, fun _ _ hrow => ?_⟩
  · rw [Table.get?_empty] at hrow
    cases hrow
  · rw [Table.get?_empty] at hrow
    cases hrow

/-- A draft of a run had a member sequence at most as large at any earlier time after its creation. -/
theorem path_sequence {earlier : DrawnTokens} {row' : WorkflowDraftRow}
    (h : (workflow_authoring backend sha256).Path store later) (hdrawn : earlier ∈ store.drawn)
    (hrow : later.registry.drafts.get? (new_workflow_draft_id earlier) = some row') :
    ∃ row, store.registry.drafts.get? (new_workflow_draft_id earlier) = some row ∧
      row.next_member_sequence ≤ row'.next_member_sequence := by
  induction h generalizing row' with
  | refl => exact ⟨row', hrow, Nat.le_refl _⟩
  | @tail middle later hpath hstep ih =>
    obtain ⟨-, transaction, hcommit⟩ := hstep
    obtain ⟨-, hmove⟩ := commit_number_move hcommit
    have hset : ∀ {changed_id : String} {row changed : WorkflowDraftRow} {drafts : Table String WorkflowDraftRow},
        drafts.get? changed_id = some row → (drafts.set changed_id changed).get?
          (new_workflow_draft_id earlier) = some row' → row.next_member_sequence ≤ changed.next_member_sequence →
        ∃ row, drafts.get? (new_workflow_draft_id earlier) = some row ∧
          row.next_member_sequence ≤ row'.next_member_sequence := by
      intro changed_id row changed drafts hfound hget hgrows
      rw [Table.get?_set] at hget
      split at hget
      · next hid =>
        obtain rfl := Option.some.inj hget
        exact ⟨row, hid ▸ hfound, hgrows⟩
      · exact ⟨row', hget, Nat.le_refl _⟩
    have hbefore : ∃ row, middle.registry.drafts.get? (new_workflow_draft_id earlier) = some row ∧
        row.next_member_sequence ≤ row'.next_member_sequence := by
      cases hmove with
      | kept drafts undo_receipts => exact ⟨row', drafts ▸ hrow, Nat.le_refl _⟩
      | deleted draft_id drafts undo_receipts =>
        rw [drafts, delete_draft, Table.get?_delete] at hrow
        split at hrow
        · cases hrow
        · exact ⟨row', hrow, Nat.le_refl _⟩
      | inserted workflow base_revision_no fits drafts undo_receipts =>
        rw [drafts, Table.get?_set, if_neg] at hrow
        · exact ⟨row', hrow, Nat.le_refl _⟩
        · exact fun hid => (hcommit.1 earlier (path_drawn hpath hdrawn)).1 (new_workflow_draft_id_eq hid).symm
      | replaced draft_id row workflow sequence found identity grows fits numbered drafts undo_receipts =>
        exact hset found (drafts ▸ hrow) grows
      | restored receipt_id row receipt found unused drafts undo_receipts =>
        rw [drafts] at hrow
        exact hset found hrow (Nat.le_refl row.next_member_sequence)
    obtain ⟨middle, hmiddle, hle⟩ := hbefore
    obtain ⟨row, hfound, hle'⟩ := ih hmiddle
    exact ⟨row, hfound, hle'.trans hle⟩

end OhMySubagents.WorkflowAuthoring

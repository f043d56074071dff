import OhMySubagents.WorkflowAuthoring.DraftMoves
import OhMySubagents.WorkflowAuthoring.PublicationHistory

open Relational JsonData

namespace OhMySubagents.WorkflowAuthoring

open Workflows WorkflowRegistry

variable {backend : Dialect} {sha256 : String → BitVec 256} {store after later : WorkflowStore}
  {transaction : WorkflowTransaction}

/-- What holds of the drafts, of the tokens drawn for them and of the stored revisions at any time. -/
structure DraftInvariant (sha256 : String → BitVec 256) (store : WorkflowStore) : Prop where
  one_draft : ∀ draft_id draft_id' row row', store.registry.drafts.get? draft_id = some row →
    store.registry.drafts.get? draft_id' = some row' → row.workflow_key = row'.workflow_key → draft_id = draft_id'
  drawn_etag : ∀ draft_id row, store.registry.drafts.get? draft_id = some row →
    ∃ earlier ∈ store.drawn, row.etag = new_workflow_draft_etag earlier
  revisions : ∀ row ∈ store.registry.revisions, ∃ content : NormalizedWorkflow,
    row.content_json = content.dump ∧ row.content_hash = canonical_workflow_hash sha256 content

theorem commit_draft_move (h : (workflow_authoring backend sha256).commit transaction store after) :
    after.drawn = transaction.drawn :: store.drawn ∧
      DraftMove sha256 transaction.drawn store.registry after.registry := by
  obtain ⟨-, rfl⟩ := h
  rcases transaction.serve_eq backend sha256 store with ⟨reply, registry', hoperation, hserve⟩ | ⟨error, hserve⟩
  · rw [hserve]
    exact ⟨rfl, operation_draft_move hoperation⟩
  · rw [hserve]
    exact ⟨rfl, .kept rfl rfl⟩

private theorem moves_keep_contents {registry registry' : WorkflowRegistry} (h : HistoryMoves sha256 registry registry')
    (hrevisions : ∀ row ∈ registry.revisions, ∃ content : NormalizedWorkflow,
      row.content_json = content.dump ∧ row.content_hash = canonical_workflow_hash sha256 content) :
    ∀ row ∈ registry'.revisions, ∃ content : NormalizedWorkflow,
      row.content_json = content.dump ∧ row.content_hash = canonical_workflow_hash sha256 content := by
  induction h with
  | refl => exact hrevisions
  | tail _ move ih =>
    cases move with
    | kept revisions current => rwa [revisions]
    | removed workflow_id revisions current => rwa [revisions]
    | published publication =>
      rcases publication.revisions with hsame | ⟨row, happended, -, -, hhash, -, -, hcontent⟩
      · rwa [hsame]
      · intro stored hstored
        rw [happended, List.mem_append, List.mem_singleton] at hstored
        rcases hstored with hstored | rfl
        · exact ih stored hstored
        · exact ⟨_, hcontent, hhash⟩

theorem draft_invariant (h : (workflow_authoring backend sha256).Reachable store) : DraftInvariant sha256 store := by
  refine h.invariant (P := DraftInvariant sha256) ?_ ?_
  · rintro store rfl
    refine ⟨fun _ _ _ _ hrow => ?_, fun _ _ hrow => ?_, fun _ hrow => by cases hrow⟩
    · rw [Table.get?_empty] at hrow
      cases hrow
    · rw [Table.get?_empty] at hrow
      cases hrow
  · intro transaction store after hinv hcommit
    obtain ⟨hdrawn, hmove⟩ := commit_draft_move hcommit
    refine ⟨hmove.one_draft hinv.one_draft, fun draft_id row hrow => ?_,
      moves_keep_contents (commit_moves hcommit) hinv.revisions⟩
    rw [hdrawn]
    rcases hmove.row_kept_or_new hrow with hold | hnew
    · obtain ⟨earlier, hmem, hetag⟩ := hinv.drawn_etag draft_id row hold
      exact ⟨earlier, List.mem_cons_of_mem _ hmem, hetag⟩
    · exact ⟨transaction.drawn, List.mem_cons_self, hnew⟩

theorem path_drawn (h : (workflow_authoring backend sha256).Path store later) : store.drawn ⊆ later.drawn := by
  refine h.rel (R := fun store later => store.drawn ⊆ later.drawn) (fun _ => List.Subset.refl _)
    (fun _ _ _ => List.Subset.trans) ?_
  rintro store later ⟨-, transaction, hcommit⟩
  rw [(commit_draft_move hcommit).1]
  exact List.subset_cons_of_subset _ (List.Subset.refl _)

/-- A row whose ETag was drawn already has not changed since. -/
private theorem path_row_old {drawn : DrawnTokens} {draft_id : String} {row : WorkflowDraftRow}
    (h : (workflow_authoring backend sha256).Path store later) (hdrawn : drawn ∈ store.drawn)
    (hetag : row.etag = new_workflow_draft_etag drawn) (hrow : later.registry.drafts.get? draft_id = some row) :
    store.registry.drafts.get? draft_id = some row := by
  induction h with
  | refl => exact hrow
  | tail hpath hstep ih =>
    obtain ⟨-, transaction, hcommit⟩ := hstep
    obtain ⟨-, hmove⟩ := commit_draft_move hcommit
    rcases hmove.row_kept_or_new hrow with hold | hnew
    · exact ih hold
    · exact absurd (new_workflow_draft_etag_eq (hnew.symm.trans hetag))
        (hcommit.1 drawn (path_drawn hpath hdrawn)).2.1

/-- A receipt whose identifier was drawn already has at most been used since. -/
private theorem path_receipt_old {drawn : DrawnTokens} {receipt : WorkflowUndoReceiptRow}
    (h : (workflow_authoring backend sha256).Path store later) (hdrawn : drawn ∈ store.drawn)
    (hreceipt : later.registry.undo_receipts.get? (new_workflow_undo_receipt_id drawn) = some receipt) :
    ∃ earlier, store.registry.undo_receipts.get? (new_workflow_undo_receipt_id drawn) = some earlier ∧
      (receipt = earlier ∨ receipt = earlier.used) := by
  induction h generalizing receipt with
  | refl => exact ⟨receipt, hreceipt, .inl rfl⟩
  | tail hpath hstep ih =>
    obtain ⟨-, transaction, hcommit⟩ := hstep
    obtain ⟨-, hmove⟩ := commit_draft_move hcommit
    rcases hmove.receipt_kept_or_new hreceipt with ⟨middle, hmiddle, hsame⟩ | hnew
    · obtain ⟨earlier, hearlier, hsame'⟩ := ih hmiddle
      refine ⟨earlier, hearlier, ?_⟩
      rcases hsame with rfl | rfl
      · exact hsame'
      · rcases hsame' with rfl | rfl
        · exact .inr rfl
        · exact .inr rfl
    · exact absurd (new_workflow_undo_receipt_id_eq hnew.symm) (hcommit.1 drawn (path_drawn hpath hdrawn)).2.2

/-- No draft of the run so far has had an ETag. -/
def FreshEtag (backend : Dialect) (sha256 : String → BitVec 256) (store : WorkflowStore) (etag : String) : Prop :=
  ∀ earlier, (workflow_authoring backend sha256).Path earlier store → ∀ draft_id row,
    earlier.registry.drafts.get? draft_id = some row → row.etag ≠ etag

/-- An accepted mutation: the draft had the ETag that the caller names, has other content under an ETag that is new,
    and no other draft has changed. -/
def Mutated (backend : Dialect) (sha256 : String → BitVec 256) (store after : WorkflowStore) (draft_id etag : String)
    (row changed : WorkflowDraftRow) : Prop :=
  store.registry.drafts.get? draft_id = some row ∧ row.etag = etag ∧
    after.registry.drafts.get? draft_id = some changed ∧ FreshEtag backend sha256 store changed.etag ∧
    ∀ other, other ≠ draft_id → after.registry.drafts.get? other = store.registry.drafts.get? other

/-- A transaction's reply gives out an undo receipt for a draft. -/
def Receipted (backend : Dialect) (sha256 : String → BitVec 256) (transaction : WorkflowTransaction)
    (store after : WorkflowStore) (draft_id receipt_id : String) : Prop :=
  (∃ result, transaction.serve backend sha256 store = (.ok (.edited result), after) ∧ result.draft.draft_id = draft_id ∧
      result.undo_receipt = receipt_id) ∨
    ∃ result, transaction.serve backend sha256 store = (.ok (.imported result), after) ∧
      result.draft.draft_id = draft_id ∧ result.undo_receipt = some receipt_id

/-- A transaction's undo with a receipt is accepted. -/
def Undone (backend : Dialect) (sha256 : String → BitVec 256) (transaction : WorkflowTransaction)
    (store after : WorkflowStore) (draft_id receipt_id : String) : Prop :=
  ∃ etag draft, transaction.request = .undo_draft draft_id etag receipt_id ∧
    transaction.serve backend sha256 store = (.ok (.undone draft), after)

/-- The draft protocol in one reachable state, for every transaction that may come next. -/
structure DraftProtocol (backend : Dialect) (sha256 : String → BitVec 256) (store : WorkflowStore) : Prop where
  one_draft : ∀ draft_id draft_id' row row', store.registry.drafts.get? draft_id = some row →
    store.registry.drafts.get? draft_id' = some row' → row.workflow_key = row'.workflow_key → draft_id = draft_id'
  failed : ∀ (transaction : WorkflowTransaction) error after,
    transaction.serve backend sha256 store = (.error error, after) → after.registry = store.registry
  edited : ∀ (transaction : WorkflowTransaction) after draft_id etag operation result, transaction.Fresh store →
    transaction.request = .edit_draft draft_id etag operation →
    transaction.serve backend sha256 store = (.ok (.edited result), after) →
    ∃ row changed current updated next_member_sequence, Mutated backend sha256 store after draft_id etag row changed ∧
      row.workflow = .ok current ∧
      edit_normalized_workflow allocate_member_id row.next_member_sequence current operation =
        .ok (updated, next_member_sequence) ∧
      changed.content_json = updated.dump ∧ changed.content_hash = canonical_workflow_hash sha256 updated
  imported : ∀ (transaction : WorkflowTransaction) after workflow etag result, transaction.Fresh store →
    transaction.request = .import_draft workflow etag →
    transaction.serve backend sha256 store = (.ok (.imported result), after) →
    (result.is_created = true ∧ ∀ draft_id row, store.registry.drafts.get? draft_id = some row →
        row.workflow_key ≠ workflow.id.val) ∨
      ∃ draft_id row, row.workflow_key = workflow.id.val ∧ etag = some row.etag ∧
        ((store.registry.drafts.get? draft_id = some row ∧
            row.content_hash = canonical_workflow_hash sha256 workflow ∧ after.registry = store.registry) ∨
          ∃ changed, Mutated backend sha256 store after draft_id row.etag row changed ∧
            changed.content_json = workflow.dump ∧ changed.content_hash = canonical_workflow_hash sha256 workflow)
  undone : ∀ (transaction : WorkflowTransaction) after draft_id etag receipt_id draft, transaction.Fresh store →
    transaction.request = .undo_draft draft_id etag receipt_id →
    transaction.serve backend sha256 store = (.ok (.undone draft), after) →
    ∃ row changed, Mutated backend sha256 store after draft_id etag row changed
  receipts : ∀ (transaction : WorkflowTransaction) after draft_id receipt_id,
    (workflow_authoring backend sha256).commit transaction store after →
    Receipted backend sha256 transaction store after draft_id receipt_id →
    ∀ later, (workflow_authoring backend sha256).Path after later →
    ∀ (undo : WorkflowTransaction) restored draft_id',
      (workflow_authoring backend sha256).commit undo later restored →
        Undone backend sha256 undo later restored draft_id' receipt_id → draft_id' = draft_id ∧
      (∀ between, (workflow_authoring backend sha256).Path after between →
        (workflow_authoring backend sha256).Path between later →
        between.registry.drafts.get? draft_id = after.registry.drafts.get? draft_id) ∧
      (∃ row back, store.registry.drafts.get? draft_id = some row ∧
        restored.registry.drafts.get? draft_id = some back ∧ back.content_json = row.content_json ∧
        back.content_hash = row.content_hash) ∧
      ∀ final, (workflow_authoring backend sha256).Path restored final →
        ∀ (again : WorkflowTransaction) last draft_id'', ¬Undone backend sha256 again final last draft_id'' receipt_id
  discarded : ∀ (transaction : WorkflowTransaction) after draft_id etag,
    transaction.request = .discard_draft draft_id etag →
    transaction.serve backend sha256 store = (.ok .discarded, after) →
    ∃ row, store.registry.drafts.get? draft_id = some row ∧ row.etag = etag ∧
      after.registry.drafts.get? draft_id = none
  published : ∀ (transaction : WorkflowTransaction) after draft_id etag revision,
    transaction.request = .publish_draft draft_id etag →
    transaction.serve backend sha256 store = (.ok (.published revision), after) →
    ∃ row persisted workflow stored content, store.registry.drafts.get? draft_id = some row ∧ row.etag = etag ∧
      row.workflow = .ok persisted ∧ normalize_workflow_object persisted.dump = .ok workflow ∧
      after.registry.drafts.get? draft_id = none ∧ stored ∈ after.registry.history row.workflow_key ∧
      stored.provenance = .user ∧ stored.revision_no = revision.revision_no ∧ stored.content_json = content.dump ∧
      canonical_workflow_hash sha256 content = canonical_workflow_hash sha256 workflow ∧
      (stored ∉ store.registry.history row.workflow_key → content = workflow)

theorem path_reachable (hreachable : (workflow_authoring backend sha256).Reachable store)
    (h : (workflow_authoring backend sha256).Path later store) :
    (workflow_authoring backend sha256).Reachable later := by
  rcases Relation.ReflTransGen.cases_head h with rfl | ⟨next, hstep, -⟩
  · exact hreachable
  · exact hstep.1

/-- A newly drawn ETag was on no draft before. -/
private theorem fresh_etag (hreachable : (workflow_authoring backend sha256).Reachable store)
    (hfresh : transaction.Fresh store) :
    FreshEtag backend sha256 store (new_workflow_draft_etag transaction.drawn) := by
  intro earlier hpath draft_id row hrow hetag
  obtain ⟨drawn, hdrawn, hold⟩ := (draft_invariant (path_reachable hreachable hpath)).drawn_etag draft_id row hrow
  exact (hfresh drawn (path_drawn hpath hdrawn)).2.1 (new_workflow_draft_etag_eq (hetag.symm.trans hold))

/-- A changed row under a newly drawn ETag is a mutation. -/
private theorem mutated_of_set {draft_id etag : String} {row changed : WorkflowDraftRow}
    (hreachable : (workflow_authoring backend sha256).Reachable store) (hfresh : transaction.Fresh store)
    (hrow : store.registry.drafts.get? draft_id = some row) (hetag : row.etag = etag)
    (hnew : changed.etag = new_workflow_draft_etag transaction.drawn)
    (hdrafts : after.registry.drafts = store.registry.drafts.set draft_id changed) :
    Mutated backend sha256 store after draft_id etag row changed := by
  refine ⟨hrow, hetag, ?_, hnew ▸ fresh_etag hreachable hfresh, fun other hne => ?_⟩
  · rw [hdrafts, Table.get?_set_self]
  · rw [hdrafts, Table.get?_set_ne _ hne]

private theorem edited_mutates (hreachable : (workflow_authoring backend sha256).Reachable store)
    {draft_id etag : String}
    {operation : DraftOperation} {result : WorkflowDraftMutationResult} (hfresh : transaction.Fresh store)
    (hrequest : transaction.request = .edit_draft draft_id etag operation)
    (hserve : transaction.serve backend sha256 store = (.ok (.edited result), after)) :
    ∃ row changed current updated next_member_sequence, Mutated backend sha256 store after draft_id etag row changed ∧
      row.workflow = .ok current ∧
      edit_normalized_workflow allocate_member_id row.next_member_sequence current operation =
        .ok (updated, next_member_sequence) ∧
      changed.content_json = updated.dump ∧ changed.content_hash = canonical_workflow_hash sha256 updated := by
  have hoperation := WorkflowTransaction.serve_eq_ok hserve
  rw [hrequest] at hoperation
  obtain ⟨edited, hedited, -⟩ := reply_eq_ok hoperation
  obtain ⟨row, current, updated, next, hrow, hetag, hcurrent, hupdated, -, -, hreplaced⟩ :=
    edit_workflow_draft_eq_ok hedited
  refine ⟨row, row.replaced sha256 transaction.drawn updated (max row.next_member_sequence next), current, updated,
    next, mutated_of_set hreachable hfresh hrow hetag rfl ?_, hcurrent, hupdated, rfl, rfl⟩
  rw [hreplaced.result]

private theorem imported_mutates (hreachable : (workflow_authoring backend sha256).Reachable store)
    {workflow : NormalizedWorkflow} {etag : Option String} {result : WorkflowDraftImportResult}
    (hfresh : transaction.Fresh store) (hrequest : transaction.request = .import_draft workflow etag)
    (hserve : transaction.serve backend sha256 store = (.ok (.imported result), after)) :
    (result.is_created = true ∧ ∀ draft_id row, store.registry.drafts.get? draft_id = some row →
        row.workflow_key ≠ workflow.id.val) ∨
      ∃ draft_id row, row.workflow_key = workflow.id.val ∧ etag = some row.etag ∧
        ((store.registry.drafts.get? draft_id = some row ∧
            row.content_hash = canonical_workflow_hash sha256 workflow ∧ after.registry = store.registry) ∨
          ∃ changed, Mutated backend sha256 store after draft_id row.etag row changed ∧
            changed.content_json = workflow.dump ∧ changed.content_hash = canonical_workflow_hash sha256 workflow) := by
  have hoperation := WorkflowTransaction.serve_eq_ok hserve
  rw [hrequest] at hoperation
  obtain ⟨imported, himported, hreply⟩ := reply_eq_ok hoperation
  cases hreply
  rcases import_workflow_draft_eq_ok himported with
    ⟨hcreated, -, base, hinserted⟩ | ⟨draft_id, row, -, hrow, hkey, hetag, ⟨hsame, -, hkept⟩ | ⟨-, -, -, hreplaced⟩⟩
  · exact .inl ⟨hcreated, hinserted.free⟩
  · exact .inr ⟨draft_id, row, hkey, hetag, .inl ⟨hrow, hsame, hkept⟩⟩
  · refine .inr ⟨draft_id, row, hkey, hetag, .inr ⟨row.replaced sha256 transaction.drawn workflow
      (max row.next_member_sequence (next_workflow_member_sequence workflow)),
      mutated_of_set hreachable hfresh hrow rfl rfl ?_, rfl, rfl⟩⟩
    rw [hreplaced.result]

/-- What a transaction that gives out a receipt has done. -/
private theorem receipted_eq {draft_id receipt_id : String}
    (h : Receipted backend sha256 transaction store after draft_id receipt_id) :
    receipt_id = new_workflow_undo_receipt_id transaction.drawn ∧
      ∃ row workflow sequence, store.registry.drafts.get? draft_id = some row ∧
        Replaced backend sha256 transaction.drawn store.registry after.registry draft_id row workflow sequence := by
  rcases h with ⟨result, hserve, hdraft, hreceipt⟩ | ⟨result, hserve, hdraft, hreceipt⟩
  · have hoperation := WorkflowTransaction.serve_eq_ok hserve
    cases hrequest : transaction.request <;> rw [hrequest] at hoperation <;>
      obtain ⟨edited, hedited, hreply⟩ := reply_eq_ok hoperation <;> cases hreply
    obtain ⟨row, current, updated, next, hrow, -, -, -, hid, hdraft', hreplaced⟩ := edit_workflow_draft_eq_ok hedited
    obtain rfl := hdraft'.symm.trans hdraft
    exact ⟨hreceipt.symm.trans hid, row, _, _, hrow, hreplaced⟩
  · have hoperation := WorkflowTransaction.serve_eq_ok hserve
    cases hrequest : transaction.request <;> rw [hrequest] at hoperation <;>
      obtain ⟨imported, himported, hreply⟩ := reply_eq_ok hoperation <;> cases hreply
    rcases import_workflow_draft_eq_ok himported with
      ⟨-, hnone, -⟩ | ⟨found, row, -, hrow, -, -, ⟨-, hnone, -⟩ | ⟨-, hid, hdraft', hreplaced⟩⟩
    · rw [hnone] at hreceipt
      cases hreceipt
    · rw [hnone] at hreceipt
      cases hreceipt
    · obtain rfl := hdraft'.symm.trans hdraft
      exact ⟨Option.some.inj (hreceipt.symm.trans hid), row, _, _, hrow, hreplaced⟩

private theorem undone_eq {draft_id receipt_id : String}
    (h : Undone backend sha256 transaction store after draft_id receipt_id) :
    ∃ row receipt, store.registry.drafts.get? draft_id = some row ∧
      store.registry.undo_receipts.get? receipt_id = some receipt ∧ receipt.draft_id = draft_id ∧
      receipt.consumed = false ∧ receipt.expected_etag = row.etag ∧
      after.registry.drafts.get? draft_id = some (row.restored transaction.drawn receipt) ∧
      after.registry.undo_receipts.get? receipt_id = some receipt.used := by
  obtain ⟨etag, draft, hrequest, hserve⟩ := h
  have hoperation := WorkflowTransaction.serve_eq_ok hserve
  rw [hrequest] at hoperation
  obtain ⟨undone, hundone, -⟩ := reply_eq_ok hoperation
  obtain ⟨row, receipt, hrow, hetag, hreceipt, hdraft, hunused, hexpected, hresult⟩ := undo_workflow_draft_eq_ok hundone
  refine ⟨row, receipt, hrow, hreceipt, hdraft, hunused, hexpected.trans hetag.symm, ?_, ?_⟩
  · rw [hresult, Table.get?_set_self]
  · rw [hresult, Table.get?_set_self]

/-- A receipt undoes its own mutation, while that is the draft's last one, and only once. -/
private theorem receipt_undoes {draft_id receipt_id : String}
    (hcommit : (workflow_authoring backend sha256).commit transaction store after)
    (hreceipted : Receipted backend sha256 transaction store after draft_id receipt_id)
    (hpath : (workflow_authoring backend sha256).Path after later) {undo : WorkflowTransaction}
    {restored : WorkflowStore}
    {draft_id' : String} (hundo : (workflow_authoring backend sha256).commit undo later restored)
    (hundone : Undone backend sha256 undo later restored draft_id' receipt_id) :
    draft_id' = draft_id ∧
      (∀ between, (workflow_authoring backend sha256).Path after between →
        (workflow_authoring backend sha256).Path between later →
        between.registry.drafts.get? draft_id = after.registry.drafts.get? draft_id) ∧
      (∃ row back, store.registry.drafts.get? draft_id = some row ∧
        restored.registry.drafts.get? draft_id = some back ∧ back.content_json = row.content_json ∧
        back.content_hash = row.content_hash) ∧
      ∀ final, (workflow_authoring backend sha256).Path restored final →
        ∀ (again : WorkflowTransaction) last draft_id'',
          ¬Undone backend sha256 again final last draft_id'' receipt_id := by
  obtain ⟨rfl, row, workflow, sequence, hrow, hreplaced⟩ := receipted_eq hreceipted
  obtain ⟨current, receipt, hcurrent, hreceipt, rfl, hunused, hexpected, hback, hused⟩ := undone_eq hundone
  have hdrawn : transaction.drawn ∈ after.drawn := by
    rw [(commit_draft_move hcommit).1]
    exact List.mem_cons_self
  -- the receipt is the one that the mutation gave out
  obtain ⟨issued, hissued, hsame⟩ := path_receipt_old hpath hdrawn hreceipt
  rw [hreplaced.result, Table.get?_set_self] at hissued
  obtain rfl := Option.some.inj hissued
  have hfields : receipt.draft_id = draft_id ∧ receipt.expected_etag = new_workflow_draft_etag transaction.drawn ∧
      receipt.previous_content_json = row.content_json ∧ receipt.previous_content_hash = row.content_hash := by
    rcases hsame with rfl | rfl <;> exact ⟨rfl, rfl, rfl, rfl⟩
  obtain ⟨rfl, hetag, hcontent, hhash⟩ := hfields
  refine ⟨rfl, fun between hbetween hrest => ?_, ⟨row, _, hrow, hback, hcontent, hhash⟩, ?_⟩
  · have hsince := path_row_old hrest (path_drawn hbetween hdrawn) (hexpected.symm.trans hetag) hcurrent
    rw [hsince, path_row_old hbetween hdrawn (hexpected.symm.trans hetag) hsince]
  · intro final hfinal again last draft_id'' hagain
    obtain ⟨_, receipt', -, hreceipt', -, hunused', -, -, -⟩ := undone_eq hagain
    have hdrawn' : transaction.drawn ∈ restored.drawn := by
      rw [(commit_draft_move hundo).1]
      exact List.mem_cons_of_mem _ (path_drawn hpath hdrawn)
    obtain ⟨earlier, hearlier, hsame'⟩ := path_receipt_old hfinal hdrawn' hreceipt'
    obtain rfl := Option.some.inj (hused.symm.trans hearlier)
    rcases hsame' with rfl | rfl <;> cases hunused'

private theorem published_content (hreachable : (workflow_authoring backend sha256).Reachable store)
    {draft_id etag : String}
    {revision : PublishedWorkflowRevision} (hrequest : transaction.request = .publish_draft draft_id etag)
    (hserve : transaction.serve backend sha256 store = (.ok (.published revision), after)) :
    ∃ row persisted workflow stored content, store.registry.drafts.get? draft_id = some row ∧ row.etag = etag ∧
      row.workflow = .ok persisted ∧ normalize_workflow_object persisted.dump = .ok workflow ∧
      after.registry.drafts.get? draft_id = none ∧ stored ∈ after.registry.history row.workflow_key ∧
      stored.provenance = .user ∧ stored.revision_no = revision.revision_no ∧ stored.content_json = content.dump ∧
      canonical_workflow_hash sha256 content = canonical_workflow_hash sha256 workflow ∧
      (stored ∉ store.registry.history row.workflow_key → content = workflow) := by
  have hoperation := WorkflowTransaction.serve_eq_ok hserve
  rw [hrequest] at hoperation
  obtain ⟨published, hpublished, hreply⟩ := reply_eq_ok hoperation
  cases hreply
  obtain ⟨row, persisted, workflow, hrow, hetag, hpersisted, hworkflow, hpublished⟩ :=
    publish_workflow_draft_eq_ok hpublished
  obtain ⟨selected, -, -, publication⟩ := publish_workflow_revision_eq_ok hpublished
  have hkey : workflow.id.val = row.workflow_key := by
    rw [normalize_workflow_object_id hworkflow]
    exact (read_persisted_workflow_eq_ok.mp hpersisted).2
  have hgone : after.registry.drafts.get? draft_id = none := by
    rw [publication.drafts, delete_draft, Table.get?_delete, if_pos rfl]
  obtain ⟨stored, hstored, hhash, hprovenance, hnumber⟩ := history_mem_of_publication publication
  rw [hkey] at hstored
  rcases publication.revisions with hsame | ⟨added, happended, -, hadded_key, hadded_hash, -, -, hadded⟩
  · have hold : stored ∈ store.registry.history row.workflow_key := by
      unfold history at hstored ⊢
      rwa [hsame] at hstored
    obtain ⟨content, hcontent, hcontent_hash⟩ := (draft_invariant hreachable).revisions stored
      (List.mem_filter.mp hold).1
    exact ⟨row, persisted, workflow, stored, content, hrow, hetag, hpersisted, hworkflow, hgone, hstored, hprovenance,
      hnumber, hcontent, hcontent_hash.symm.trans hhash, fun hnew => absurd hold hnew⟩
  · by_cases hold : stored ∈ store.registry.history row.workflow_key
    · obtain ⟨content, hcontent, hcontent_hash⟩ := (draft_invariant hreachable).revisions stored
        (List.mem_filter.mp hold).1
      exact ⟨row, persisted, workflow, stored, content, hrow, hetag, hpersisted, hworkflow, hgone, hstored, hprovenance,
        hnumber, hcontent, hcontent_hash.symm.trans hhash, fun hnew => absurd hold hnew⟩
    · obtain ⟨hmem, hstored_key⟩ := List.mem_filter.mp hstored
      rw [happended, List.mem_append, List.mem_singleton] at hmem
      rcases hmem with hmem | rfl
      · exact absurd (List.mem_filter.mpr ⟨hmem, hstored_key⟩) hold
      · exact ⟨row, persisted, workflow, stored, workflow, hrow, hetag, hpersisted, hworkflow, hgone, hstored,
          hprovenance, hnumber, hadded, rfl, fun _ => rfl⟩

def team_reimport : WorkflowTransaction where
  request := .import_draft team_workflow (some "\"wd-a\"")
  drawn := ⟨"b", "b", "b"⟩

/-- An import of the content that the draft has is accepted and leaves the draft its ETag. -/
theorem reimported_team_keeps_etag :
    ∃ store after result, (workflow_authoring .sqlite team_sha256).Reachable store ∧
      (workflow_authoring .sqlite team_sha256).commit team_reimport store after ∧
      team_reimport.serve .sqlite team_sha256 store = (.ok (.imported result), after) ∧
      (store.registry.drafts.get? "workflow-draft.a").map (·.etag) = some "\"wd-a\"" ∧
      (after.registry.drafts.get? "workflow-draft.a").map (·.etag) = some "\"wd-a\"" := by
  have hrun : (WorkflowStore.served .sqlite team_sha256 { registry := {}, drawn := [] } [team_creation]).any
    (fun store =>
      team_reimport.Fresh store ∧ (store.registry.drafts.get? "workflow-draft.a").map (·.etag) = some "\"wd-a\"" ∧
      ((team_reimport.serve .sqlite team_sha256 store).2.registry.drafts.get? "workflow-draft.a").map (·.etag) =
        some "\"wd-a\"" ∧
      (team_reimport.serve .sqlite team_sha256 store).1.toOption.isSome) = true := by decide +kernel
  obtain ⟨store, hstore, hrun⟩ := (Option.any_eq_true _ _).mp hrun
  obtain ⟨hfresh, hbefore, hafter, haccepted⟩ := of_decide_eq_true hrun
  rcases team_reimport.serve_eq .sqlite team_sha256 store with ⟨reply, registry', hoperation, hserve⟩ | ⟨error, hserve⟩
  · obtain ⟨result, -, rfl⟩ := reply_eq_ok hoperation
    exact ⟨store, _, result, WorkflowStore.served_reachable ⟨[], .start rfl⟩ hstore, ⟨hfresh, rfl⟩,
      Prod.ext (by rw [hserve]) rfl, hbefore, hafter⟩
  · rw [hserve] at haccepted
    cases haccepted

theorem workflow_draft_protocol (h : (workflow_authoring backend sha256).Reachable store) :
    DraftProtocol backend sha256 store := by
  refine ⟨(draft_invariant h).one_draft, ?_, ?_, ?_, ?_, ?_, ?_, ?_⟩
  · intro transaction error after hserve
    rcases transaction.serve_eq backend sha256 store with ⟨reply, registry', -, hok⟩ | ⟨error', herror⟩
    · rw [hok] at hserve
      cases hserve
    · rw [herror] at hserve
      cases hserve
      rfl
  · intro transaction after draft_id etag operation result hfresh hrequest hserve
    exact edited_mutates h hfresh hrequest hserve
  · intro transaction after workflow etag result hfresh hrequest hserve
    exact imported_mutates h hfresh hrequest hserve
  · intro transaction after draft_id etag receipt_id draft hfresh hrequest hserve
    have hoperation := WorkflowTransaction.serve_eq_ok hserve
    rw [hrequest] at hoperation
    obtain ⟨undone, hundone, -⟩ := reply_eq_ok hoperation
    obtain ⟨row, receipt, hrow, hetag, -, -, -, -, hresult⟩ := undo_workflow_draft_eq_ok hundone
    refine ⟨row, row.restored transaction.drawn receipt, mutated_of_set h hfresh hrow hetag rfl ?_⟩
    rw [hresult]
  · intro transaction after draft_id receipt_id hcommit hreceipted later hpath undo restored draft_id' hundo hundone
    exact receipt_undoes hcommit hreceipted hpath hundo hundone
  · intro transaction after draft_id etag hrequest hserve
    have hoperation := WorkflowTransaction.serve_eq_ok hserve
    rw [hrequest] at hoperation
    obtain ⟨u, hdiscarded, -⟩ := reply_eq_ok hoperation
    obtain ⟨row, hrow, hetag, hresult⟩ := discard_workflow_draft_eq_ok hdiscarded
    refine ⟨row, hrow, hetag, ?_⟩
    rw [hresult, delete_draft, Table.get?_delete, if_pos rfl]
  · intro transaction after draft_id etag revision hrequest hserve
    exact published_content h hrequest hserve

def team_edit : WorkflowTransaction where
  request := .edit_draft "workflow-draft.a" "\"wd-a\"" (.add_member ⟨"member-1", first_member_identifier⟩ (.mk {} none))
  drawn := ⟨"b", "b", "b"⟩

/-- After an edit the team has a draft with a new ETag and a receipt for it. -/
theorem workflow_draft_protocol_team :
    ∃ store, ((store.registry.drafts.get? "workflow-draft.a").map (·.etag) = some "\"wd-b\"" ∧
      (store.registry.undo_receipts.get? "workflow-undo.b").map (·.expected_etag) = some "\"wd-b\"") ∧
      DraftProtocol .sqlite team_sha256 store := by
  have hrun : (WorkflowStore.served .sqlite team_sha256 { registry := {}, drawn := [] } [team_creation, team_edit]).any
      (fun store => (store.registry.drafts.get? "workflow-draft.a").map (·.etag) = some "\"wd-b\"" ∧
        (store.registry.undo_receipts.get? "workflow-undo.b").map (·.expected_etag) = some "\"wd-b\"") = true := by
    decide +kernel
  obtain ⟨store, hstore, hedited⟩ := (Option.any_eq_true _ _).mp hrun
  exact ⟨store, of_decide_eq_true hedited,
    workflow_draft_protocol (WorkflowStore.served_reachable ⟨[], .start rfl⟩ hstore)⟩

end OhMySubagents.WorkflowAuthoring

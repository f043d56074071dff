import OhMySubagents.TaskEvents.Stream

open Relational JsonData

namespace OhMySubagents

open Contracts (strip_whitespace)

namespace TaskEvents

/-- The events of one Task, newest first, as a chain. -/
def Chained : List TaskEventRow → Prop
  | [] => True
  | row :: older =>
    row.event_seq = older.length + 1 ∧ row.prev_event_hash = older.head?.map TaskEventRow.event_hash ∧ Chained older

/-- A head that agrees with the events of its Task. -/
structure StreamOf (rows : List TaskEventRow) (head : StreamHead) : Prop where
  chain : Chained rows
  allocator_revision : head.allocator_revision = rows.length
  last_event_seq : head.last_event_seq = rows.length
  last_event_hash : head.last_event_hash = rows.head?.map TaskEventRow.event_hash

/-- A row that was added for some record. -/
def Recorded (sha256 : String → BitVec 256) (row : TaskEventRow) : Prop :=
  ∃ record, task_event_row sha256 record = some row

/-- The committed rows of every Task are a stream. -/
structure ChronologyDb.Sound (sha256 : String → BitVec 256) (db : ChronologyDb) : Prop where
  named : ∀ task_id head, db.heads task_id = some head → strip_whitespace task_id = task_id
  streams : ∀ task_id head, db.heads task_id = some head → StreamOf (events_of db.events task_id) head
  headless : ∀ task_id, db.heads task_id = none → events_of db.events task_id = []
  recorded : ∀ row ∈ db.events, Recorded sha256 row

/-- The stream of one Task in the middle of an append. -/
structure Appending (tx : EventTransaction) (committed : ChronologyDb) (request : AppendRequest)
    (allocation : TaskEventAllocation) (rows : List TaskEventRow) (before : StreamHead) : Prop where
  stream : StreamOf rows before
  head : tx.heads request.task_id = some { before with allocator_revision := before.allocator_revision + 1 }
  allocation : allocation = ⟨before.allocator_revision + 1, before.last_event_seq, before.last_event_hash⟩
  others : ∀ task_id head, task_id ≠ request.task_id → tx.heads task_id = some head →
    StreamOf (events_of (tx.visible_events committed) task_id) head

/-- What holds of the Tasks that a transaction wrote to, at each stage of its append. -/
def EventTransaction.StageSound (tx : EventTransaction) (committed : ChronologyDb) : Prop :=
  match tx.stage with
  | .idle => ∀ task_id head, tx.heads task_id = some head →
      StreamOf (events_of (tx.visible_events committed) task_id) head
  | .allocated request allocation | .checked request allocation => ∃ before,
      Appending tx committed request allocation (events_of (tx.visible_events committed) request.task_id) before
  | .inserted request allocation event_hash => ∃ row older before,
      events_of (tx.visible_events committed) request.task_id = row :: older ∧
        Appending tx committed request allocation older before ∧ row.event_seq = allocation.event_seq ∧
        row.prev_event_hash = allocation.previous_event_hash ∧ row.event_hash = event_hash
  | .failed => True

structure EventTransaction.Sound (sha256 : String → BitVec 256) (committed : ChronologyDb) (tx : EventTransaction) :
    Prop where
  named : ∀ task_id head, tx.heads task_id = some head → strip_whitespace task_id = task_id
  untouched : ∀ task_id, tx.heads task_id = none → events_of tx.events task_id = []
  recorded : ∀ row ∈ tx.events, Recorded sha256 row
  stage : tx.StageSound committed

structure ChronologyState.Sound (sha256 : String → BitVec 256) (state : ChronologyState) : Prop where
  committed : state.committed.Sound sha256
  sessions : ∀ session tx, state.sessions.get? session = some tx → tx.Sound sha256 state.committed
  exclusive : ∀ session other tx tx', session ≠ other → state.sessions.get? session = some tx →
    state.sessions.get? other = some tx' → ∀ task_id, tx.heads task_id = none ∨ tx'.heads task_id = none

section

variable {sha256 : String → BitVec 256} {committed committed' : ChronologyDb} {tx tx' : EventTransaction}
  {state state' : ChronologyState} {request : AppendRequest} {allocation : TaskEventAllocation} {task_id : String}

theorem events_of_append (events events' : List TaskEventRow) (task_id : String) :
    events_of (events ++ events') task_id = events_of events task_id ++ events_of events' task_id :=
  List.filter_append ..

/-- A transaction sees the stream of a Task whose head it does not hold as it is committed. -/
theorem EventTransaction.Sound.visible_of_untouched (h : tx.Sound sha256 committed) (hhead : tx.heads task_id = none) :
    events_of (tx.visible_events committed) task_id = events_of committed.events task_id := by
  rw [EventTransaction.visible_events, events_of_append, h.untouched task_id hhead, List.nil_append]

/-- Every stream that an idle transaction sees is sound. -/
theorem EventTransaction.Sound.visible_stream (h : tx.Sound sha256 committed) (hcommitted : committed.Sound sha256)
    (hidle : tx.stage = .idle) {head : StreamHead} (hhead : tx.head committed task_id = some head) :
    StreamOf (events_of (tx.visible_events committed) task_id) head := by
  have hstage := h.stage
  rw [EventTransaction.StageSound, hidle] at hstage
  unfold EventTransaction.head at hhead
  cases hown : tx.heads task_id with
  | some own =>
    rw [hown, Option.some_or] at hhead
    exact hstage task_id head (hown.trans hhead)
  | none =>
    rw [hown, Option.none_or] at hhead
    rw [h.visible_of_untouched hown]
    exact hcommitted.streams task_id head hhead

/-- A transaction depends on the committed rows of the Tasks that it holds only. -/
theorem EventTransaction.Sound.congr (h : tx.Sound sha256 committed)
    (hsame : ∀ task_id, tx.heads task_id ≠ none →
      events_of committed'.events task_id = events_of committed.events task_id) :
    tx.Sound sha256 committed' := by
  have hvisible : ∀ task_id, tx.heads task_id ≠ none →
      events_of (tx.visible_events committed') task_id = events_of (tx.visible_events committed) task_id := by
    intro task_id hheld
    rw [EventTransaction.visible_events, EventTransaction.visible_events, events_of_append, events_of_append,
      hsame task_id hheld]
  refine ⟨h.named, h.untouched, h.recorded, ?_⟩
  have happending : ∀ {request allocation rows before}, Appending tx committed request allocation rows before →
      Appending tx committed' request allocation rows before := by
    intro request allocation rows before happending
    refine ⟨happending.stream, happending.head, happending.allocation, fun task_id head hne hhead => ?_⟩
    rw [hvisible task_id (by simp [hhead])]
    exact happending.others task_id head hne hhead
  have hstage := h.stage
  unfold EventTransaction.StageSound at hstage ⊢
  cases htx : tx.stage with
  | idle =>
    rw [htx] at hstage
    intro task_id head hhead
    rw [hvisible task_id (by simp [hhead])]
    exact hstage task_id head hhead
  | allocated request allocation | checked request allocation =>
    rw [htx] at hstage
    obtain ⟨before, hstage⟩ := hstage
    refine ⟨before, ?_⟩
    rw [hvisible request.task_id (by simp [hstage.head])]
    exact happending hstage
  | inserted request allocation event_hash =>
    rw [htx] at hstage
    obtain ⟨row, older, before, hrows, hstage, hrow⟩ := hstage
    refine ⟨row, older, before, ?_, happending hstage, hrow⟩
    rw [hvisible request.task_id (by simp [hstage.head])]
    exact hrows
  | failed => trivial

theorem EventTransaction.Sound.fail (h : tx.Sound sha256 committed) : tx.fail.Sound sha256 committed :=
  ⟨h.named, h.untouched, h.recorded, trivial⟩

/-- The row of a request carries its Task, its number and the hash before it. -/
theorem AppendRequest.row_success {row : TaskEventRow} (h : request.row sha256 allocation = some row)
    (hname : strip_whitespace request.task_id = request.task_id)
    (hprevious : ∀ event_hash ∈ allocation.previous_event_hash, ∃ ref : Ref, ref.val = event_hash) :
    row.task_id = request.task_id ∧ row.event_seq = allocation.event_seq ∧
      row.prev_event_hash = allocation.previous_event_hash ∧ Recorded sha256 row := by
  obtain ⟨record, hrecord, hrow⟩ := Option.bind_eq_some_iff.mp h
  obtain ⟨htask, hseq, hprev⟩ := build_task_event_record_success hrecord
  obtain ⟨hrow_task, hrow_seq, hrow_prev⟩ := task_event_row_success hrow
  refine ⟨?_, hrow_seq.trans hseq, ?_, record, hrow⟩
  · unfold TaskIdentifier.validate at htask
    split at htask
    · rw [hrow_task, ← Option.some.inj htask]
      exact hname
    · cases htask
  · cases hallocated : allocation.previous_event_hash with
    | none =>
      rw [hallocated] at hprev
      rw [hrow_prev, ← Option.some.inj hprev]
      rfl
    | some event_hash =>
      obtain ⟨ref, rfl⟩ := hprevious event_hash hallocated
      rw [hallocated] at hprev
      rw [hrow_prev, ← Option.some.inj ((validate_optional_val (some ref)).symm.trans hprev)]
      rfl

theorem Recorded.ref {row : TaskEventRow} (h : Recorded sha256 row) : ∃ ref : Ref, ref.val = row.event_hash := by
  obtain ⟨record, hrow⟩ := h
  unfold task_event_row at hrow
  simp only [Option.bind_eq_bind, Option.bind_eq_some_iff, Option.pure_def, Option.some.injEq] at hrow
  obtain ⟨_, -, _, hhash, rfl⟩ := hrow
  exact compute_task_event_hash_ref hhash

namespace EventTransaction.Sound

theorem create_stream (h : tx.Sound sha256 committed) (hcommitted : committed.Sound sha256)
    (hidle : tx.stage = .idle) (task_id : TaskIdentifier) :
    (tx.create_stream committed task_id).Sound sha256 committed := by
  unfold EventTransaction.create_stream
  split
  · exact h.fail
  next hnone =>
    obtain ⟨hown, hmissing⟩ := Option.or_eq_none_iff.mp hnone
    refine ⟨fun task head hhead => ?_, fun task hhead => ?_, h.recorded, ?_⟩
    · simp only [put_head] at hhead
      split at hhead
      · next heq => rw [heq, task_id.property.1]
      · exact h.named task head hhead
    · simp only [put_head] at hhead
      split at hhead
      · cases hhead
      · exact h.untouched task hhead
    · have hstage := h.stage
      simp only [StageSound, hidle, put_head] at hstage ⊢
      intro task head hhead
      split at hhead
      · next heq =>
        cases hhead
        have hempty : events_of (tx.visible_events committed) task = [] := by
          rw [heq, h.visible_of_untouched hown, hcommitted.headless _ hmissing]
        change StreamOf (events_of (tx.visible_events committed) task) _
        rw [hempty]
        exact ⟨trivial, rfl, rfl, rfl⟩
      · exact hstage task head hhead

theorem allocate (h : tx.Sound sha256 committed) (hcommitted : committed.Sound sha256) (hidle : tx.stage = .idle)
    (request : AppendRequest) : (tx.allocate committed request).Sound sha256 committed := by
  unfold EventTransaction.allocate
  split
  · exact h.fail
  split
  · exact h.fail
  next head hhead =>
    have hstream := h.visible_stream hcommitted hidle hhead
    have hname : strip_whitespace request.task_id = request.task_id := by
      unfold EventTransaction.head at hhead
      rcases Option.or_eq_some_iff.mp hhead with hown | ⟨-, hrow⟩
      · exact h.named _ head hown
      · exact hcommitted.named _ head hrow
    refine ⟨fun task head hhead => ?_, fun task hhead => ?_, h.recorded, head, hstream, by simp [put_head], rfl,
      fun task other hne hother => ?_⟩
    · simp only [put_head] at hhead
      split at hhead
      · next heq => rw [heq, hname]
      · exact h.named task head hhead
    · simp only [put_head] at hhead
      split at hhead
      · cases hhead
      · exact h.untouched task hhead
    · have hstage := h.stage
      rw [StageSound, hidle] at hstage
      simp only [put_head, if_neg hne] at hother
      exact hstage task other hother

theorem check (h : tx.Sound sha256 committed) (hstage : tx.stage = .allocated request allocation) :
    (tx.check committed request allocation).Sound sha256 committed := by
  unfold EventTransaction.check
  split
  · exact h.fail
  · have hsound := h.stage
    rw [StageSound, hstage] at hsound
    obtain ⟨before, hsound⟩ := hsound
    exact ⟨h.named, h.untouched, h.recorded, before, hsound.stream, hsound.head, hsound.allocation, hsound.others⟩

theorem insert (h : tx.Sound sha256 committed) (hcommitted : committed.Sound sha256)
    (hstage : tx.stage = .checked request allocation) :
    (tx.insert committed sha256 request allocation).Sound sha256 committed := by
  unfold EventTransaction.insert
  split
  · exact h.fail
  next row hrow =>
    split
    · exact h.fail
    have hsound := h.stage
    rw [StageSound, hstage] at hsound
    obtain ⟨before, hsound⟩ := hsound
    have hrecorded : ∀ row ∈ tx.visible_events committed, Recorded sha256 row := by
      intro row hmem
      rcases List.mem_append.mp hmem with hmem | hmem
      · exact h.recorded row hmem
      · exact hcommitted.recorded row hmem
    obtain ⟨htask, hseq, hprevious, hnew⟩ := AppendRequest.row_success hrow (h.named _ _ hsound.head) (by
      intro event_hash hhash
      rw [hsound.allocation, Option.mem_def, hsound.stream.last_event_hash, Option.map_eq_some_iff] at hhash
      obtain ⟨last, hlast, rfl⟩ := hhash
      exact (hrecorded last (List.mem_of_mem_filter (List.mem_of_head? hlast))).ref)
    refine ⟨h.named, fun task hhead => ?_, fun other hmem => ?_, row, _, before, ?_, ⟨hsound.stream, hsound.head,
      hsound.allocation, fun task head hne hhead => ?_⟩, hseq, hprevious, rfl⟩
    · have hne : task ≠ request.task_id := fun heq => by
        rw [heq, hsound.head] at hhead
        cases hhead
      rw [events_of, List.filter_cons_of_neg (by simpa [htask] using hne.symm)]
      exact h.untouched task hhead
    · rcases List.mem_cons.mp hmem with rfl | hmem
      · exact hnew
      · exact h.recorded other hmem
    · exact List.filter_cons_of_pos (by simp [htask])
    · have hskip : events_of (row :: tx.visible_events committed) task = events_of (tx.visible_events committed) task :=
        List.filter_cons_of_neg (by simpa [htask] using hne.symm)
      change StreamOf (events_of (row :: tx.visible_events committed) task) head
      rw [hskip]
      exact hsound.others task head hne hhead

theorem advance {event_hash : String} (h : tx.Sound sha256 committed)
    (hstage : tx.stage = .inserted request allocation event_hash) :
    (tx.advance committed request allocation event_hash).Sound sha256 committed := by
  unfold EventTransaction.advance
  split
  · exact h.fail
  next head hhead =>
    split
    · have hsound := h.stage
      rw [StageSound, hstage] at hsound
      obtain ⟨row, older, before, hrows, hsound, hseq, hprevious, rfl⟩ := hsound
      rw [EventTransaction.head, hsound.head, Option.some_or] at hhead
      cases hhead
      refine ⟨fun task head hhead => ?_, fun task hhead => ?_, h.recorded, fun task head hhead => ?_⟩
      · simp only [put_head] at hhead
        split at hhead
        · next heq => rw [heq, h.named _ _ hsound.head]
        · exact h.named task head hhead
      · simp only [put_head] at hhead
        split at hhead
        · cases hhead
        · exact h.untouched task hhead
      · simp only [put_head] at hhead
        split at hhead
        · next heq =>
          cases hhead
          rw [heq]
          change StreamOf (events_of (tx.visible_events committed) request.task_id) _
          rw [hrows]
          have hlength := hsound.stream.allocator_revision
          have hallocated : allocation.event_seq = before.allocator_revision + 1 := by rw [hsound.allocation]
          have hlast : allocation.previous_event_hash = before.last_event_hash := by rw [hsound.allocation]
          refine ⟨⟨?_, ?_, hsound.stream.chain⟩, ?_, ?_, rfl⟩
          · rw [hseq, hallocated, hlength]
          · rw [hprevious, hlast, hsound.stream.last_event_hash]
          · rw [hlength, List.length_cons]
          · rw [hallocated, hlength, List.length_cons]
        · next hne => exact hsound.others task head hne hhead
    · exact h.fail

theorem execute {statement : EventStatement} (h : tx.Sound sha256 committed) (hcommitted : committed.Sound sha256)
    (hexecute : tx.execute committed sha256 statement = some tx') : tx'.Sound sha256 committed := by
  unfold EventTransaction.execute at hexecute
  split at hexecute
  · next hidle =>
    obtain rfl := Option.some.inj hexecute
    exact h.create_stream hcommitted hidle _
  · next hidle =>
    obtain rfl := Option.some.inj hexecute
    exact h.allocate hcommitted hidle _
  · next hstage =>
    obtain rfl := Option.some.inj hexecute
    exact h.check hstage
  · next hstage =>
    obtain rfl := Option.some.inj hexecute
    exact h.insert hcommitted hstage
  · next hstage =>
    obtain rfl := Option.some.inj hexecute
    exact h.advance hstage
  · cases hexecute

end EventTransaction.Sound

/-- The statements that take the head of a Task. -/
def EventStatement.Takes (task_id : String) : EventStatement → Prop
  | .create_stream created => created.val = task_id
  | .allocate request => request.task_id = task_id
  | .check | .insert | .advance => False

/-- A statement leaves the heads that the transaction does not hold, apart from the one that it takes. -/
theorem EventTransaction.Sound.execute_heads {statement : EventStatement} (h : tx.Sound sha256 committed)
    (hexecute : tx.execute committed sha256 statement = some tx') (hhead : tx'.heads task_id ≠ none) :
    tx.heads task_id ≠ none ∨ statement.Takes task_id := by
  unfold EventTransaction.execute at hexecute
  split at hexecute
  · next created hidle =>
    obtain rfl := Option.some.inj hexecute
    unfold EventTransaction.create_stream at hhead
    split at hhead
    · exact .inl hhead
    · simp only [put_head] at hhead
      split at hhead
      · next heq => exact .inr heq.symm
      · exact .inl hhead
  · next request hidle =>
    obtain rfl := Option.some.inj hexecute
    unfold EventTransaction.allocate at hhead
    split at hhead
    · exact .inl hhead
    split at hhead
    · exact .inl hhead
    · simp only [put_head] at hhead
      split at hhead
      · next heq => exact .inr heq.symm
      · exact .inl hhead
  · next hstage =>
    obtain rfl := Option.some.inj hexecute
    unfold EventTransaction.check at hhead
    split at hhead <;> exact .inl hhead
  · next hstage =>
    obtain rfl := Option.some.inj hexecute
    unfold EventTransaction.insert at hhead
    split at hhead
    · exact .inl hhead
    split at hhead <;> exact .inl hhead
  · next request allocation event_hash hstage =>
    obtain rfl := Option.some.inj hexecute
    have hsound := h.stage
    rw [StageSound, hstage] at hsound
    obtain ⟨row, older, before, -, hsound, -⟩ := hsound
    unfold EventTransaction.advance at hhead
    split at hhead
    · exact .inl hhead
    split at hhead
    · simp only [put_head] at hhead
      split at hhead
      · next heq =>
        rw [heq, hsound.head]
        exact .inl nofun
      · exact .inl hhead
    · exact .inl hhead
  · cases hexecute

/-- What a transaction that is not in the middle of an append commits is sound. -/
theorem EventTransaction.Sound.merge (h : tx.Sound sha256 committed) (hcommitted : committed.Sound sha256)
    (hidle : tx.stage = .idle) : (tx.merge committed).Sound sha256 := by
  refine ⟨fun task_id head hhead => ?_, fun task_id head hhead => h.visible_stream hcommitted hidle hhead,
    fun task_id hhead => ?_, fun row hrow => ?_⟩
  · rcases Option.or_eq_some_iff.mp hhead with hown | ⟨-, hrow⟩
    · exact h.named _ head hown
    · exact hcommitted.named _ head hrow
  · obtain ⟨hown, hmissing⟩ := Option.or_eq_none_iff.mp hhead
    exact (h.visible_of_untouched hown).trans (hcommitted.headless _ hmissing)
  · rcases List.mem_append.mp hrow with hrow | hrow
    · exact h.recorded row hrow
    · exact hcommitted.recorded row hrow

/-- A statement that need not wait takes no head that another session holds. -/
theorem ChronologyState.not_waits {session other : SessionId} {statement : EventStatement}
    (hwait : state.waits sha256 session tx statement = false) (htakes : statement.Takes task_id)
    (hne : other ≠ session) (hother : state.sessions.get? other = some tx') : tx'.heads task_id = none := by
  have hfree : ∀ taken, state.other_session session (fun tx => (tx.heads taken).isSome) = false →
      tx'.heads taken = none := by
    intro taken hnone
    have hrow := Table.any_eq_false_iff.mp hnone other tx' hother
    simpa [hne] using hrow
  cases statement with
  | create_stream created =>
    obtain rfl : created.val = task_id := htakes
    exact hfree _ hwait
  | allocate request =>
    obtain rfl : request.task_id = task_id := htakes
    exact hfree _ hwait
  | check | insert | advance => cases htakes

/-- Every action keeps the chronology sound. -/
theorem ChronologyState.Sound.act {action : ChronologyAction} (h : state.Sound sha256)
    (hact : state.act sha256 action = some state') : state'.Sound sha256 := by
  cases action with
  | begin session =>
    simp only [ChronologyState.act] at hact
    split at hact
    · cases hact
    next hfresh =>
      obtain rfl := Option.some.inj hact
      refine ⟨h.committed, fun other tx hget => ?_, fun other third tx tx' hne hget hget' task_id => ?_⟩
      · rw [Table.get?_set] at hget
        split at hget
        · obtain rfl := Option.some.inj hget
          exact ⟨nofun, fun _ _ => rfl, nofun, nofun⟩
        · exact h.sessions other tx hget
      · rw [Table.get?_set] at hget hget'
        split at hget
        · obtain rfl := Option.some.inj hget
          exact .inl rfl
        split at hget'
        · obtain rfl := Option.some.inj hget'
          exact .inr rfl
        · exact h.exclusive other third tx tx' hne hget hget' task_id
  | execute session statement =>
    simp only [ChronologyState.act, Option.bind_eq_bind, Option.bind_eq_some_iff] at hact
    obtain ⟨tx, htx, hact⟩ := hact
    split at hact
    · cases hact
    next hwait =>
      obtain ⟨next, hexecute, hact⟩ := Option.bind_eq_some_iff.mp hact
      obtain rfl := Option.some.inj hact
      rw [Bool.not_eq_true] at hwait
      have hsound := h.sessions session tx htx
      -- the session holds what it held, and what nobody else does
      have hown : ∀ other tx', other ≠ session → state.sessions.get? other = some tx' → ∀ task_id,
          next.heads task_id = none ∨ tx'.heads task_id = none := by
        intro other tx' hne hother task_id
        by_cases hhead : next.heads task_id = none
        · exact .inl hhead
        rcases hsound.execute_heads hexecute hhead with hheld | htakes
        · exact .inr ((h.exclusive session other tx tx' hne.symm htx hother task_id).resolve_left hheld)
        · exact .inr (ChronologyState.not_waits hwait htakes hne hother)
      refine ⟨h.committed, fun other tx' hget => ?_, fun other third tx' tx'' hne hget hget' task_id => ?_⟩
      · rw [Table.get?_set] at hget
        split at hget
        · obtain rfl := Option.some.inj hget
          exact hsound.execute h.committed hexecute
        · exact h.sessions other tx' hget
      · rw [Table.get?_set] at hget hget'
        split at hget
        · next heq =>
          obtain rfl := Option.some.inj hget
          rw [if_neg fun hthird => hne (heq.trans hthird.symm)] at hget'
          exact hown third tx'' (fun hthird => hne (heq.trans hthird.symm)) hget' task_id
        split at hget'
        · next hother heq =>
          obtain rfl := Option.some.inj hget'
          exact (hown other tx' hother hget task_id).symm
        · exact h.exclusive other third tx' tx'' hne hget hget' task_id
  | commit session =>
    simp only [ChronologyState.act, Option.bind_eq_bind, Option.bind_eq_some_iff] at hact
    obtain ⟨tx, htx, hact⟩ := hact
    split at hact
    · next hidle =>
      obtain rfl := Option.some.inj hact
      have hsound := h.sessions session tx htx
      refine ⟨hsound.merge h.committed hidle, fun other tx' hget => ?_, fun other third tx' tx'' hne hget hget' => ?_⟩
      · rw [Table.get?_delete] at hget
        split at hget
        · cases hget
        next hother =>
          refine (h.sessions other tx' hget).congr fun task_id hheld => ?_
          exact hsound.visible_of_untouched
            ((h.exclusive session other tx tx' (Ne.symm hother) htx hget task_id).resolve_right hheld)
      · rw [Table.get?_delete] at hget hget'
        split at hget
        · cases hget
        split at hget'
        · cases hget'
        · exact h.exclusive other third tx' tx'' hne hget hget'
    · cases hact
  | rollback session =>
    simp only [ChronologyState.act, Option.bind_eq_bind, Option.bind_eq_some_iff] at hact
    obtain ⟨tx, htx, hact⟩ := hact
    obtain rfl := Option.some.inj hact
    refine ⟨h.committed, fun other tx' hget => ?_, fun other third tx' tx'' hne hget hget' => ?_⟩
    · rw [Table.get?_delete] at hget
      split at hget
      · cases hget
      · exact h.sessions other tx' hget
    · rw [Table.get?_delete] at hget hget'
      split at hget
      · cases hget
      split at hget'
      · cases hget'
      · exact h.exclusive other third tx' tx'' hne hget hget'

theorem chronology_sound (h : (chronology sha256).Reachable state) : state.Sound sha256 := by
  refine h.invariant (P := ChronologyState.Sound sha256) (fun state hstart => ?_)
    fun action state state' hold hcommit => hold.act hcommit
  obtain rfl : state = _ := hstart
  exact ⟨⟨nofun, nofun, fun _ _ => rfl, nofun⟩, fun _ _ hget => by simp at hget, fun _ _ _ _ _ hget => by simp at hget⟩

/-- What some actions lead to is reachable. -/
theorem ChronologyState.acts_reachable {actions : List ChronologyAction} (h : (chronology sha256).Reachable state)
    (hacts : actions.foldlM (ChronologyState.act sha256) state = some state') :
    (chronology sha256).Reachable state' := by
  induction actions generalizing state with
  | nil =>
    cases hacts
    exact h
  | cons action actions ih =>
    rw [List.foldlM_cons, Option.bind_eq_bind, Option.bind_eq_some_iff] at hacts
    obtain ⟨next, hnext, hrest⟩ := hacts
    exact ih (h.step (t := action) rfl hnext) hrest

end

section

variable {rows : List TaskEventRow} {row before : TaskEventRow} {head : StreamHead}

theorem Chained.numbers (h : Chained rows) : (rows.map TaskEventRow.event_seq).reverse = List.range' 1 rows.length := by
  induction rows with
  | nil => rfl
  | cons row older ih =>
    obtain ⟨hseq, -, holder⟩ := h
    rw [List.map_cons, List.reverse_cons, ih holder, List.length_cons, List.range'_1_concat, hseq, Nat.add_comm 1]

theorem Chained.seq_le (h : Chained rows) (hrow : row ∈ rows) : 1 ≤ row.event_seq ∧ row.event_seq ≤ rows.length := by
  have hnumber : row.event_seq ∈ List.range' 1 rows.length := by
    rw [← h.numbers, List.mem_reverse]
    exact List.mem_map_of_mem hrow
  rw [List.mem_range'_1] at hnumber
  omega

/-- The event with the highest number is the newest. -/
theorem Chained.head_of_seq (h : Chained rows) (hrow : row ∈ rows) (hlast : row.event_seq = rows.length) :
    rows.head? = some row := by
  cases rows with
  | nil => cases hrow
  | cons newest older =>
    obtain ⟨-, -, holder⟩ := h
    rcases List.mem_cons.mp hrow with rfl | hrow
    · rfl
    · have hle := (holder.seq_le hrow).2
      rw [List.length_cons] at hlast
      omega

theorem Chained.previous (h : Chained rows) (hrow : row ∈ rows) :
    (row.event_seq = 1 → row.prev_event_hash = none) ∧
      ∀ before ∈ rows, before.event_seq + 1 = row.event_seq → row.prev_event_hash = some before.event_hash := by
  induction rows with
  | nil => cases hrow
  | cons newest older ih =>
    obtain ⟨hseq, hprevious, holder⟩ := h
    rcases List.mem_cons.mp hrow with rfl | hold
    · refine ⟨fun hfirst => ?_, fun before hbefore hnext => ?_⟩
      · rw [hprevious, List.eq_nil_of_length_eq_zero (by omega : older.length = 0)]
        rfl
      · rcases List.mem_cons.mp hbefore with rfl | hbefore
        · omega
        · rw [hprevious, holder.head_of_seq hbefore (by omega)]
          rfl
    · obtain ⟨hfirst, hprior⟩ := ih holder hold
      refine ⟨hfirst, fun before hbefore hnext => ?_⟩
      rcases List.mem_cons.mp hbefore with rfl | hbefore
      · have hle := (holder.seq_le hold).2
        omega
      · exact hprior before hbefore hnext

end

/-- The events of one Task as a gap-free hash chain that its head ends. -/
structure HashChain (rows : List TaskEventRow) (head : StreamHead) : Prop where
  /-- Oldest first, the events are numbered from one on, without gap or repeat. -/
  numbered : (rows.map TaskEventRow.event_seq).reverse = List.range' 1 head.last_event_seq
  first : ∀ row ∈ rows, row.event_seq = 1 → row.prev_event_hash = none
  linked : ∀ row ∈ rows, ∀ before ∈ rows, before.event_seq + 1 = row.event_seq →
    row.prev_event_hash = some before.event_hash
  last : head.last_event_hash = rows.head?.map TaskEventRow.event_hash

/-- What the committed chronology shows. -/
structure ChronologyChained (sha256 : String → BitVec 256) (db : ChronologyDb) : Prop where
  streams : ∀ task_id head, db.heads task_id = some head → HashChain (events_of db.events task_id) head
  owned : ∀ row ∈ db.events, ∃ head, db.heads row.task_id = some head
  /-- A stored event, with its time loaded as the same instant, rebuilds to a record with the stored hash. -/
  rehashed : ∀ row ∈ db.events, ∀ occurred_at : Datetime, occurred_at.as_utc = some row.occurred_at →
    ∃ record, task_event_record_from_model row occurred_at = some record ∧
      compute_task_event_hash sha256 record = some row.event_hash

/-- **The chronology is a gap-free hash chain that survives storage**, however appends of concurrent transactions
    interleave and whichever of them roll back. -/
theorem task_event_chronology_chained {sha256 : String → BitVec 256} {state : ChronologyState}
    (h : (chronology sha256).Reachable state) : ChronologyChained sha256 state.committed := by
  have hsound := (chronology_sound h).committed
  refine ⟨fun task_id head hhead => ?_, fun row hrow => ?_, fun row hrow occurred_at hinstant => ?_⟩
  · have hstream := hsound.streams task_id head hhead
    exact ⟨by rw [hstream.last_event_seq, hstream.chain.numbers], fun row hrow => (hstream.chain.previous hrow).1,
      fun row hrow => (hstream.chain.previous hrow).2, hstream.last_event_hash⟩
  · refine Option.ne_none_iff_exists'.mp fun hnone => ?_
    have hmem : row ∈ events_of state.committed.events row.task_id := List.mem_filter.mpr ⟨hrow, by simp⟩
    rw [hsound.headless _ hnone] at hmem
    cases hmem
  · obtain ⟨record, hrecord⟩ := hsound.recorded row hrow
    exact task_event_row_rehash hrecord hinstant

/-- What a session does that appends one event. -/
def append_actions (session : SessionId) (request : AppendRequest) : List ChronologyAction :=
  [.begin session, .execute session (.allocate request), .execute session .check, .execute session .insert,
    .execute session .advance, .commit session]

/-- The only session waits for nobody. -/
theorem ChronologyState.execute_alone {sha256 : String → BitVec 256} {committed : ChronologyDb} {session : SessionId}
    {tx next : EventTransaction} {statement : EventStatement}
    (hexecute : tx.execute committed sha256 statement = some next) :
    ChronologyState.act sha256 ⟨committed, Table.set ∅ session tx⟩ (.execute session statement) =
      some ⟨committed, Table.set ∅ session next⟩ := by
  have hnobody : ∀ p : EventTransaction → Bool,
      ChronologyState.other_session ⟨committed, Table.set ∅ session tx⟩ session p = false := by
    refine fun p => Table.any_eq_false_iff.mpr fun other tx' hother => ?_
    rw [Table.get?_set] at hother
    split at hother
    · next heq => simp [heq]
    · cases hother
  have hwaits : ChronologyState.waits sha256 ⟨committed, Table.set ∅ session tx⟩ session tx statement = false := by
    cases statement with
    | create_stream task_id | allocate request => exact hnobody _
    | insert =>
      simp only [ChronologyState.waits]
      split <;> simp [hnobody]
    | check | advance => rfl
  simp [ChronologyState.act, hwaits, hexecute]

/-- A session alone commits a valid event that continues the stream. -/
theorem ChronologyState.append_alone (sha256 : String → BitVec 256) (committed : ChronologyDb) (session : SessionId)
    (request : AppendRequest) (head : StreamHead) {row : TaskEventRow}
    (hhead : committed.heads request.task_id = some head) (hrevision : head.allocator_revision = head.last_event_seq)
    (hlatest : latest_task_event_head committed.events request.task_id = (head.last_event_seq, head.last_event_hash))
    (hvalid : (request.record (request.event_id_or "task-event.validation") 1 none).isSome)
    (hrow : request.row sha256 ⟨head.last_event_seq + 1, head.last_event_seq, head.last_event_hash⟩ = some row)
    (hfresh : committed.events.any row.conflicts = false) :
    ∃ heads, (append_actions session request).foldlM (ChronologyState.act sha256) ⟨committed, ∅⟩ =
        some ⟨⟨heads, row :: committed.events⟩, ∅⟩ ∧
      heads request.task_id = some ⟨head.last_event_seq + 1, head.last_event_seq + 1, some row.event_hash⟩ := by
  obtain ⟨record, hrecord⟩ := Option.isSome_iff_exists.mp hvalid
  let opened : EventTransaction := ⟨fun _ => none, [], .idle⟩
  let held := { opened.put_head request.task_id { head with allocator_revision := head.last_event_seq + 1 } with
    stage := .allocated request ⟨head.last_event_seq + 1, head.last_event_seq, head.last_event_hash⟩ }
  have hallocate : opened.execute committed sha256 (.allocate request) = some held := by
    simp [EventTransaction.execute, EventTransaction.allocate, EventTransaction.head, hrecord, hhead, hrevision, opened,
      held]
  let checked := { held with
    stage := .checked request ⟨head.last_event_seq + 1, head.last_event_seq, head.last_event_hash⟩ }
  have hcheck : held.execute committed sha256 .check = some checked := by
    simp [EventTransaction.execute, EventTransaction.check, EventTransaction.visible_events, EventTransaction.put_head,
      hlatest, opened, held, checked]
  let inserted := { checked with
    events := [row]
    stage := .inserted request ⟨head.last_event_seq + 1, head.last_event_seq, head.last_event_hash⟩ row.event_hash }
  have hinsert : checked.execute committed sha256 .insert = some inserted := by
    have hvisible : (checked.visible_events committed).any row.conflicts = false := hfresh
    change some (checked.insert committed sha256 request _) = _
    simp only [EventTransaction.insert, hrow, hvisible, Bool.false_eq_true, if_false]
    rfl
  let advanced := { inserted.put_head request.task_id
      ⟨head.last_event_seq + 1, head.last_event_seq + 1, some row.event_hash⟩ with stage := .idle }
  have hadvance : inserted.execute committed sha256 .advance = some advanced := by
    simp [EventTransaction.execute, EventTransaction.advance, EventTransaction.head, EventTransaction.put_head, opened,
      held, checked, inserted, advanced]
  have hbegin : ChronologyState.act sha256 ⟨committed, ∅⟩ (.begin session) =
      some ⟨committed, Table.set ∅ session opened⟩ := by
    simp [ChronologyState.act, opened]
  have hcommit : ChronologyState.act sha256 ⟨committed, Table.set ∅ session advanced⟩ (.commit session) =
      some ⟨advanced.merge committed, ∅⟩ := by
    simp [ChronologyState.act, Table.delete_set_empty, advanced]
  refine ⟨(advanced.merge committed).heads, ?_, ?_⟩
  · simp only [append_actions, List.foldlM_cons, List.foldlM_nil, hbegin, ChronologyState.execute_alone hallocate,
      ChronologyState.execute_alone hcheck, ChronologyState.execute_alone hinsert,
      ChronologyState.execute_alone hadvance, hcommit, Option.bind_eq_bind, Option.bind_some]
    rfl
  · simp [EventTransaction.merge, EventTransaction.head, EventTransaction.put_head, advanced]

/-- The row of a valid request, from the digest of the text of its record. -/
theorem AppendRequest.row_of_digest {sha256 : String → BitVec 256} {request : AppendRequest}
    {allocation : TaskEventAllocation} {event_id : String} {digest : BitVec 256}
    (h : (request.record (request.event_id_or (task_event_id request.task_id allocation.event_seq)) allocation.event_seq
      allocation.previous_event_hash).any (fun record => record.event_id.val = event_id ∧
        record.occurred_at.as_utc.any fun time => sha256 (record.encoded time.isoformat) = digest)) :
    ∃ row, request.row sha256 allocation = some row ∧ row.event_id = event_id ∧ row.event_hash = hash_text digest := by
  obtain ⟨record, hrecord, hfacts⟩ := (Option.any_eq_true _ _).mp h
  obtain ⟨hid, hany⟩ := of_decide_eq_true hfacts
  obtain ⟨time, htime, hdigest⟩ := (Option.any_eq_true _ _).mp hany
  have hhash : compute_task_event_hash sha256 record = some (hash_text digest) := by
    rw [compute_task_event_hash, htime, Option.map_some, of_decide_eq_true hdigest]
  simp [AppendRequest.row, hrecord, task_event_row, htime, hhash, hid]

/-- The resumption of a Task, at half past midnight two hours ahead of UTC. -/
def task_t1_resumed : AppendRequest where
  task_id := "t1"
  event_type := "task_resumed"
  event_source := "operator"
  event_id := none
  occurred_at := ⟨⟨⟨2024, 3, 1, by decide⟩, ⟨0, 30, 0, 0, by decide⟩⟩, some ⟨120, by decide⟩⟩
  team_revision_id := none
  dispatch_id := none
  attempt_id := none
  member_id := none
  actor_ref := some "operator"
  payload := .object [("control_revision", .int 2), ("actor_ref", .string "operator"), ("summary", .string "go on")]

/-- The pause before it, at a quarter past nine in the evening, in UTC. -/
def task_t1_paused : AppendRequest where
  task_id := "t1"
  event_type := "task_paused"
  event_source := "control_api"
  event_id := none
  occurred_at := ⟨⟨⟨2024, 2, 29, by decide⟩, ⟨21, 15, 0, 0, by decide⟩⟩, none⟩
  team_revision_id := none
  dispatch_id := none
  attempt_id := none
  member_id := none
  actor_ref := none
  payload := .object [("pause_reason", .string "paused_by_operator"), ("control_revision", .int 1),
    ("actor_ref", .null), ("summary", .string "Task paused.")]

def task_t1_paused_digest : BitVec 256 := 0xabe3ffa4edb5cc5865f786564e33c14f27f62eaa90e781a3768ecb9b9386adcf#256

def task_t1_resumed_digest : BitVec 256 := 0x5b06b37ec9032c65458fb6e5ae685f3f92f9541fdd8a1eadc68cae079550bf5f#256

/-- The digests of the two texts that the events of `t1` are hashed from. A text begins with the actor of its event,
    and the pause has none. -/
def task_t1_sha256 (text : String) : BitVec 256 :=
  if text.toList[13]? = some 'n' then task_t1_paused_digest else task_t1_resumed_digest

/-- One session creates the stream, and the next one rolls back the event that it adds. -/
def task_t1_opened : List ChronologyAction :=
  [.begin 1, .execute 1 (.create_stream ⟨"t1", by decide +kernel⟩), .commit 1, .begin 2,
    .execute 2 (.allocate task_t1_paused), .execute 2 .check, .execute 2 .insert, .rollback 2]

theorem task_t1_opened_run :
    ∃ heads, task_t1_opened.foldlM (ChronologyState.act task_t1_sha256) ⟨⟨fun _ => none, []⟩, ∅⟩ =
        some ⟨⟨heads, []⟩, ∅⟩ ∧
      heads "t1" = some ⟨0, 0, none⟩ := by
  have hrun : (task_t1_opened.foldlM (ChronologyState.act task_t1_sha256) ⟨⟨fun _ => none, []⟩, ∅⟩).any (fun state =>
      state.committed.events.isEmpty ∧ state.sessions.entries.isEmpty ∧
      state.committed.heads "t1" = some ⟨0, 0, none⟩) = true := by
    decide +kernel
  obtain ⟨⟨⟨heads, events⟩, sessions⟩, hstate, hrows⟩ := (Option.any_eq_true _ _).mp hrun
  obtain ⟨hevents, hsessions, hheads⟩ := of_decide_eq_true hrows
  obtain rfl : events = [] := List.isEmpty_iff.mp hevents
  obtain rfl : sessions = ∅ := AList.ext (List.isEmpty_iff.mp hsessions)
  exact ⟨heads, hstate, hheads⟩

theorem task_t1_paused_valid :
    (task_t1_paused.record (task_t1_paused.event_id_or "task-event.validation") 1 none).isSome := by
  decide +kernel

theorem task_t1_resumed_valid :
    (task_t1_resumed.record (task_t1_resumed.event_id_or "task-event.validation") 1 none).isSome := by
  decide +kernel

theorem task_t1_paused_row :
    ∃ row, task_t1_paused.row task_t1_sha256 ⟨1, 0, none⟩ = some row ∧ row.event_id = "task-event.t1.00000001" ∧
      row.event_hash = hash_text task_t1_paused_digest := by
  apply AppendRequest.row_of_digest
  simp only [task_t1_sha256, TaskEventRecord.encoded, String.toList_ofList]
  decide +kernel

theorem task_t1_resumed_row :
    ∃ row, task_t1_resumed.row task_t1_sha256 ⟨2, 1, some (hash_text task_t1_paused_digest)⟩ = some row ∧
      row.event_id = "task-event.t1.00000002" ∧ row.event_hash = hash_text task_t1_resumed_digest := by
  have hprevious : validate_optional 2048 (some (hash_text task_t1_paused_digest)) =
      some (some ⟨hash_text task_t1_paused_digest, hash_text_valid _⟩) :=
    validate_optional_val (some ⟨hash_text task_t1_paused_digest, hash_text_valid _⟩)
  apply AppendRequest.row_of_digest
  simp only [AppendRequest.record, build_task_event_record, hprevious, task_t1_sha256, TaskEventRecord.encoded,
    String.toList_ofList]
  decide +kernel

/-- Two events are committed, and the second one continues the first. -/
theorem task_event_chronology_t1_chained :
    ∃ state : ChronologyState,
      state.committed.events.map (fun row => (row.event_seq, row.prev_event_hash)) =
        [(2, some (hash_text task_t1_paused_digest)), (1, none)] ∧
      ChronologyChained task_t1_sha256 state.committed := by
  obtain ⟨heads, hopened, hhead⟩ := task_t1_opened_run
  obtain ⟨paused, hpaused, hpaused_id, hpaused_hash⟩ := task_t1_paused_row
  obtain ⟨hpaused_task, hpaused_seq, hpaused_prev, -⟩ := AppendRequest.row_success hpaused (by decide +kernel) nofun
  obtain ⟨heads', hfirst, hhead'⟩ := ChronologyState.append_alone task_t1_sha256 ⟨heads, []⟩ 3 task_t1_paused
    ⟨0, 0, none⟩ hhead rfl rfl task_t1_paused_valid hpaused rfl
  rw [hpaused_hash] at hhead'
  obtain ⟨resumed, hresumed, hresumed_id, -⟩ := task_t1_resumed_row
  obtain ⟨-, hresumed_seq, hresumed_prev, -⟩ := AppendRequest.row_success hresumed (by decide +kernel) fun _ hhash =>
    Option.mem_some.mp hhash ▸ ⟨⟨_, hash_text_valid _⟩, rfl⟩
  have hlatest : latest_task_event_head [paused] "t1" = (1, some (hash_text task_t1_paused_digest)) := by
    have htask : paused.task_id = "t1" := hpaused_task
    simp [latest_task_event_head, events_of, htask, hpaused_seq, hpaused_hash]
  have hfresh : [paused].any resumed.conflicts = false := by
    simp [TaskEventRow.conflicts, hpaused_id, hresumed_id, hpaused_seq, hresumed_seq]
  obtain ⟨heads'', hsecond, -⟩ := ChronologyState.append_alone task_t1_sha256 ⟨heads', [paused]⟩ 4 task_t1_resumed
    ⟨1, 1, some (hash_text task_t1_paused_digest)⟩ hhead' rfl hlatest task_t1_resumed_valid hresumed hfresh
  refine ⟨⟨⟨heads'', [resumed, paused]⟩, ∅⟩, ?_, task_event_chronology_chained ?_⟩
  · simp [hresumed_seq, hresumed_prev, hpaused_seq, hpaused_prev]
  · have hstart := ChronologyState.acts_reachable ⟨[], .start rfl⟩ hopened
    exact ChronologyState.acts_reachable (ChronologyState.acts_reachable hstart hfirst) hsecond

end TaskEvents

end OhMySubagents

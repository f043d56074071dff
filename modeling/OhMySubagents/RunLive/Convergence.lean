import OhMySubagents.RunLive.Preservation

open Relational

namespace OhMySubagents.RunLive

variable {history : TaskHistory} {observed observed' : Observed} {session session' : RunLiveSession}
  {synchronized_to : Option Nat} {call : Call} {i n events : Nat}

/-! ### Calls that go on -/

theorem Consistent.initialize_live (h : Consistent history ⟨session, synchronized_to⟩) (hpos : 0 < n)
    (hn : n ≤ session.events) (hearly : session.is_live_initialized = false) :
    Consistent history ⟨session.initialize_live i (history.list_recent_task_activities n), none⟩ := by
  obtain ⟨start, hspan, hwhole⟩ := history.list_recent_task_activities_span n
  have h_early := h.early hearly
  have hstream : session.stream = none := h_early.stream
  have hreplaced := Consistent.replace _ none h.orderly hspan
    (history.list_recent_task_activities_nonempty hpos) hn hwhole
    (fun position hposition => by (rw [hstream] at hposition; cases hposition))
    (fun call hcall position hposition => by
      have hcall := h_early.calls call hcall
      unfold Call.read_position at hposition
      split at hposition
      · cases hcall
      · cases hposition)
    (fun events hevents => by (cases hevents))
  simp only [RunLiveSession.initialize_live, hearly, Bool.false_eq_true, if_false]
  exact hreplaced.set_call (Admitted.synchronize hreplaced rfl)

theorem Consistent.reset_cursor (h : Consistent history ⟨session, synchronized_to⟩) (hpos : 0 < n)
    (hn : n ≤ session.events) (hlive : session.is_live_initialized = true) (hcall : session.calls[i]? = some call)
    (hposition : call.read_position = none)
    (hreaches : ReachesReaders history session i (history.list_recent_task_activities n).activities) :
    Consistent history ⟨session.reset_cursor i (history.list_recent_task_activities n), none⟩ := by
  obtain ⟨start, hspan, hwhole⟩ := history.list_recent_task_activities_span n
  have hreplaced := h.replace_reaching _ none hlive hspan
    (history.list_recent_task_activities_nonempty hpos) hn hwhole hcall hposition hreaches
    (fun events hevents => by (cases hevents))
  refine hreplaced.set_call ?_
  split
  · exact Admitted.loading hreplaced hlive
  · exact Admitted.backfill hreplaced hlive

/-- A call that goes on after its Task read, in a run of timely actions. -/
theorem Consistent.resume (h : Consistent history observed) (htimely : Timely history observed.session (.resume i))
    (hstep : observed.session.resume i = some session') :
    Consistent history ⟨session', observed.note history (.resume i)⟩ := by
  obtain ⟨session, synchronized_to⟩ := observed
  unfold RunLiveSession.resume at hstep
  have hstart : ∀ task, Awaited.Sound history session.events (some (some task)) →
      session.initialize_live i task = session' →
      Consistent history ⟨session', if session.is_live_initialized then synchronized_to else none⟩ := by
    rintro task htask rfl
    obtain ⟨n, hpos, hn, rfl⟩ := htask task rfl
    by_cases hlive : session.is_live_initialized = true
    · rw [if_pos hlive, RunLiveSession.initialize_live, if_pos hlive]
      exact h.end_call
    · rw [if_neg hlive]
      exact h.initialize_live hpos hn (by simpa using hlive)
  split at hstep
  next hcall =>
    simp only [Observed.note, hcall]
    exact Option.some.inj hstep ▸ h.end_call
  next hcall =>
    simp only [Observed.note, hcall]
    exact Option.some.inj hstep ▸ h.end_call
  next task hcall =>
    simp only [Observed.note, hcall]
    exact hstart task (h.orderly.calls _ (List.mem_of_getElem? hcall)) (Option.some.inj hstep)
  next task hcall =>
    simp only [Observed.note, hcall]
    exact hstart task (h.orderly.calls _ (List.mem_of_getElem? hcall)) (Option.some.inj hstep)
  next hcall =>
    simp only [Observed.note, hcall]
    exact Option.some.inj hstep ▸ h.fail_call (h.live (List.mem_of_getElem? hcall) id)
  next hcall =>
    simp only [Observed.note, hcall]
    exact Option.some.inj hstep ▸ h.fail_call (h.live (List.mem_of_getElem? hcall) id)
  next hcall =>
    simp only [Observed.note, hcall]
    exact Option.some.inj hstep ▸ h.fail_call (h.live (List.mem_of_getElem? hcall) id)
  next hcall =>
    simp only [Observed.note, hcall]
    exact Option.some.inj hstep ▸ h.end_call
  next hcall =>
    simp only [Observed.note, hcall]
    exact Option.some.inj hstep ▸ Consistent.open_stream h.end_call (h.live (List.mem_of_getElem? hcall) id)
  next task hcall =>
    simp only [Observed.note, hcall]
    have hmem := List.mem_of_getElem? hcall
    obtain ⟨n, hpos, hn, rfl⟩ := h.orderly.calls _ hmem task rfl
    exact Option.some.inj hstep ▸ h.reset_cursor hpos hn (h.live hmem id) hcall rfl (htimely _ hcall)
  next => cases hstep

/-! ### Pages -/

/-- What a page of a backfill brings follows what the call has read. -/
theorem Consistent.backfill_page (h : Consistent history ⟨session, synchronized_to⟩) {page_cursor : Option Nat}
    {asked : Nat} {changed allow_reset : Bool}
    (hcall : session.calls[i]? = some (.synchronizing (.backfill page_cursor asked changed allow_reset)))
    (hasked : asked ≤ events) (hevents : events ≤ session.events) :
    Consistent history ⟨session.backfill_page i (history.list_task_activities page_cursor events) changed allow_reset,
      if (history.list_task_activities page_cursor events).next_cursor.isNone then
        some (max events (synchronized_to.getD 0)) else synchronized_to⟩ := by
  have hmem := List.mem_of_getElem? hcall
  have hlive := h.live hmem id
  obtain ⟨after, up_to, haligned⟩ := h.aligned hlive
  obtain ⟨last, hspan, hnext, hlast⟩ := history.list_task_activities_span page_cursor events
  have hmeets := haligned.calls _ hmem _ rfl
  have hmerged := haligned.span.merge hmeets hspan
  generalize history.list_task_activities page_cursor events = page at hspan hnext hlast hmerged ⊢
  have hle : last ≤ events := by
    rcases hnext with ⟨-, rfl⟩ | ⟨-, -, hle⟩
    · exact le_rfl
    · exact hle
  have hextended := haligned.merge hmerged (le_max_left _ _)
  have horderly := h.orderly.merge hspan (hle.trans hevents) hmerged.sorted
  -- any cursor from the last item to the end of the page is met by the longer list
  have hreader : ∀ cursor, page_cursor.getD 0 ≤ cursor → cursor ≤ last →
      (∀ y, history.is_activity y → cursor < y → last < y) →
      Meets history after (max up_to last) cursor := fun cursor hle hlast hgap =>
    ⟨fun x hx hlt => by omega, fun x hx hold => (hmeets.older x hx hold).trans hle⟩
  unfold RunLiveSession.backfill_page
  rcases hnext with ⟨hnext, rfl⟩ | ⟨hnext, hafter, -⟩
  · simp only [hnext, Option.isNone_none, if_true]
    have hread : Consistent history ⟨{ session with
        activities := merge_activities session.activities page.items
        cursor := page.items.getLast?.or session.cursor }, some (max last (synchronized_to.getD 0))⟩ := by
      refine ⟨{ horderly with }, fun hinit => ?_, fun _ => ⟨after, max up_to last, { hextended with
        cursor := ?_, synchronized_to := fun events hevents' => ?_ }⟩⟩
      · exact (Bool.eq_false_iff.mp hinit hlive).elim
      · cases hget : page.items.getLast? with
        | none => exact hextended.cursor
        | some item =>
          obtain ⟨hafter, hle', hgap⟩ := hlast item hget
          exact ⟨item, rfl, hle'.trans hevents, hreader item hafter.le hle' hgap⟩
      · obtain rfl := Option.some.inj hevents'
        cases hold : synchronized_to with
        | none =>
          simp only [Option.getD_none, Nat.max_zero]
          exact ⟨hevents, fun x _ hlt => by omega⟩
        | some old =>
          obtain ⟨hevents_old, hread⟩ := haligned.synchronized_to old hold
          simp only [Option.getD_some]
          refine ⟨max_le hevents hevents_old, fun x hx hlt => ?_⟩
          have hx := hread x hx (by omega)
          omega
    exact Consistent.synchronized hread hlive
  · simp only [hnext, Option.isNone_some, Bool.false_eq_true, if_false]
    have hpaged : Consistent history ⟨{ session with
        activities := merge_activities session.activities page.items, cursor := some last }, synchronized_to⟩ := by
      refine ⟨{ horderly with }, fun hinit => ?_, fun _ => ⟨after, max up_to last, { hextended with
        cursor := ⟨last, rfl, hle.trans hevents, hreader last hafter.le le_rfl fun _ _ hlt => hlt⟩ }⟩⟩
      exact (Bool.eq_false_iff.mp hinit hlive).elim
    exact hpaged.set_call (Admitted.backfill hpaged hlive)

/-- A page of a full load joins what the call has collected; the last one replaces the list. -/
theorem Consistent.loading_page (h : Consistent history ⟨session, synchronized_to⟩) {page_cursor : Option Nat}
    {asked : Nat} {collected : List Nat} {is_reset changed : Bool}
    (hcall : session.calls[i]? = some (.synchronizing (.loading page_cursor asked collected is_reset)))
    (hasked : asked ≤ events) (hevents : events ≤ session.events)
    (hreaches : (history.list_task_activities page_cursor events).next_cursor = none →
      ReachesReaders history session i
        (merge_activities collected (history.list_task_activities page_cursor events).items)) :
    Consistent history ⟨session.loading_page i (history.list_task_activities page_cursor events) collected is_reset
      changed, if (history.list_task_activities page_cursor events).next_cursor.isNone then some events
        else synchronized_to⟩ := by
  have hmem := List.mem_of_getElem? hcall
  have hlive := h.live hmem id
  obtain ⟨hpos, -, hcursor, hcollected⟩ := h.orderly.calls _ hmem
  obtain ⟨last, hspan, hnext, -⟩ := history.list_task_activities_span page_cursor events
  generalize history.list_task_activities page_cursor events = page at hspan hnext hreaches ⊢
  unfold RunLiveSession.loading_page
  rcases hnext with ⟨hnext, rfl⟩ | ⟨hnext, hafter, hle⟩
  · simp only [hnext, Option.isNone_none, if_true]
    have hloaded := hcollected.append hspan (Nat.zero_le _) (hcursor.trans hasked)
    have hfirst : 1 ∈ merge_activities collected page.items :=
      (hloaded.mem 1).mpr ⟨history.started, Nat.one_pos, hpos.trans_le hasked⟩
    have hreplaced := h.replace_reaching false (some last) hlive hloaded
      (List.ne_nil_of_mem hfirst) hevents (fun _ => rfl) hcall rfl (hreaches hnext)
      (fun events hevents => (Option.some.inj hevents).ge)
    split
    · exact hreplaced.set_call (Admitted.backfill hreplaced hlive)
    · exact Consistent.synchronized hreplaced hlive
  · simp only [hnext, Option.isNone_some, Bool.false_eq_true, if_false]
    exact h.set_call (Admitted.of_live hlive ⟨h.orderly.events, le_rfl, hle.trans hevents,
      hcollected.append hspan (Nat.zero_le _) hafter.le⟩ rfl)

/-- A page of a timely run. -/
theorem Consistent.page {changed : Bool} (h : Consistent history observed)
    (htimely : Timely history observed.session (.page i events changed))
    (hstep : observed.session.page history i events changed = some session') :
    Consistent history ⟨session', observed.note history (.page i events changed)⟩ := by
  obtain ⟨session, synchronized_to⟩ := observed
  unfold RunLiveSession.page at hstep
  split at hstep
  next page_cursor asked changed' allow_reset hcall =>
    obtain ⟨⟨hasked, hevents⟩, hstep⟩ := Option.ite_none_right_eq_some.mp hstep
    simp only [Observed.note, hcall]
    exact Option.some.inj hstep ▸ h.backfill_page hcall hasked hevents
  next page_cursor asked collected is_reset hcall =>
    obtain ⟨⟨hasked, hevents⟩, hstep⟩ := Option.ite_none_right_eq_some.mp hstep
    simp only [Observed.note, hcall]
    exact Option.some.inj hstep ▸ h.loading_page hcall hasked hevents
      (htimely page_cursor asked collected is_reset hcall)
  next => cases hstep

theorem Consistent.page_fails {is_cursor_reset : Bool} (h : Consistent history ⟨session, synchronized_to⟩)
    (hstep : session.page_fails i is_cursor_reset = some session') :
    Consistent history ⟨session', synchronized_to⟩ := by
  unfold RunLiveSession.page_fails at hstep
  split at hstep
  next hcall =>
    have hlive := h.live (List.mem_of_getElem? hcall) id
    split at hstep
    · exact Option.some.inj hstep ▸
        Consistent.read_task (h.set_call (Admitted.of_live hlive Awaited.sound_none rfl))
    · exact Option.some.inj hstep ▸ h.fail_call hlive
  next hcall => exact Option.some.inj hstep ▸ h.fail_call (h.live (List.mem_of_getElem? hcall) id)
  next => cases hstep

/-! ### The stream -/

/-- A frame of the stream follows what the stream has read. -/
theorem Consistent.stream_frame (h : Consistent history ⟨session, synchronized_to⟩) {position : Nat}
    (hstream : session.stream = some position) (hevent : position + 1 ≤ session.events) :
    Consistent history ⟨{ session with
      stream := some (position + 1)
      cursor := some (position + 1)
      activities :=
        if history.is_activity (position + 1) then merge_activities session.activities [position + 1]
        else session.activities }, synchronized_to.map fun events => max events (position + 1)⟩ := by
  have hlive := h.live_of_stream hstream
  have hframe : (if history.is_activity (position + 1) then merge_activities session.activities [position + 1]
      else session.activities) = merge_activities session.activities
        (if history.is_activity (position + 1) then [position + 1] else []) := by
    split <;> rfl
  obtain ⟨after, up_to, haligned⟩ := h.aligned hlive
  obtain ⟨-, hmeets⟩ := haligned.stream position hstream
  have hmerged := haligned.span.merge hmeets history.span_next
  have hextended := haligned.merge hmerged (le_max_left _ _)
  have horderly := h.orderly.merge history.span_next hevent hmerged.sorted
  have hreader : Meets history after (max up_to (position + 1)) (position + 1) :=
    ⟨fun x _ hlt => by omega, fun x hx hle => (hmeets.older x hx hle).trans (Nat.le_succ _)⟩
  rw [hframe]
  refine ⟨{ horderly with }, fun hinit => ?_, fun _ => ⟨after, max up_to (position + 1), { hextended with
    cursor := ⟨position + 1, rfl, hevent, hreader⟩
    stream := fun _ hposition => Option.some.inj hposition ▸ ⟨hevent, hreader⟩
    synchronized_to := fun events hevents' => ?_ }⟩⟩
  · exact (Bool.eq_false_iff.mp hinit hlive).elim
  · obtain ⟨old, hold, rfl⟩ := Option.map_eq_some_iff.mp hevents'
    obtain ⟨hevents_old, hread⟩ := haligned.synchronized_to old hold
    refine ⟨max_le hevents_old hevent, fun x hx hlt => ?_⟩
    have hx := hread x hx (by omega)
    omega

theorem Consistent.stream_event (h : Consistent history observed)
    (hstep : observed.session.stream_event history = some session') :
    Consistent history ⟨session', observed.note history .stream_event⟩ := by
  obtain ⟨session, synchronized_to⟩ := observed
  unfold RunLiveSession.stream_event at hstep
  split at hstep
  next => cases hstep
  next position hstream =>
    have hstream : session.stream = some position := hstream
    obtain ⟨hevent, hstep⟩ := Option.ite_none_left_eq_some.mp hstep
    have hreceived := h.stream_frame hstream (Nat.lt_of_not_le hevent)
    simp only [Observed.note, hstream, Option.getD_some]
    obtain rfl := Option.some.inj hstep
    exact Consistent.read_task
      (hreceived.add_call (Admitted.of_live (h.live_of_stream hstream) Awaited.sound_none rfl))

/-! ### Runs -/

theorem Consistent.event (h : Consistent history ⟨session, synchronized_to⟩) :
    Consistent history ⟨{ session with events := session.events + 1 }, synchronized_to⟩ := by
  refine ⟨{ h.orderly with
    events := Nat.succ_pos _
    canonical := fun x hx => ?_
    calls := fun call hcall => Call.Sound.mono (h.orderly.calls call hcall) (Nat.le_succ _) },
    fun hinit => { h.early hinit with }, fun hinit => ?_⟩
  · obtain ⟨hactivity, hpos, hle⟩ := h.orderly.canonical x hx
    exact ⟨hactivity, hpos, Nat.le_succ_of_le hle⟩
  · obtain ⟨after, up_to, haligned⟩ := h.aligned hinit
    obtain ⟨cursor, hcursor, hle, hmeets⟩ := haligned.cursor
    exact ⟨after, up_to, { haligned with
      cursor := ⟨cursor, hcursor, Nat.le_succ_of_le hle, hmeets⟩
      stream := fun position hstream => (haligned.stream position hstream).imp_left Nat.le_succ_of_le
      synchronized_to := fun events hevents => (haligned.synchronized_to events hevents).imp_left Nat.le_succ_of_le }⟩

/-- A timely action keeps a session consistent. -/
theorem Consistent.step {action : LiveAction} (h : Consistent history observed)
    (htimely : Timely history observed.session action) (hstep : observed.session.step history action = some session') :
    Consistent history ⟨session', observed.note history action⟩ := by
  cases action with
  | event => exact Option.some.inj hstep ▸ Consistent.event h
  | task_read events =>
    simp only [RunLiveSession.step] at hstep
    split at hstep
    next => cases hstep
    next asked hasked =>
      obtain ⟨⟨hle, hevents⟩, hstep⟩ := Option.ite_none_right_eq_some.mp hstep
      exact Option.some.inj hstep ▸ Consistent.drain_task_reads (h.merge_task hevents htimely) fun task htask =>
        ⟨events, (h.orderly.asked asked hasked).trans_le hle, hevents, (Option.some.inj htask).symm⟩
  | task_read_fails =>
    obtain ⟨-, hstep⟩ := Option.ite_none_right_eq_some.mp hstep
    exact Option.some.inj hstep ▸ Consistent.drain_task_reads h fun task htask => by cases htask
  | replace_task events =>
    obtain ⟨hevents, hstep⟩ := Option.ite_none_right_eq_some.mp hstep
    exact Option.some.inj hstep ▸ Consistent.merge_task h hevents htimely
  | resume i => exact h.resume htimely hstep
  | page i events changed => exact h.page htimely hstep
  | page_fails i is_cursor_reset => exact Consistent.page_fails h hstep
  | stream_opens =>
    obtain ⟨hstream, hstep⟩ := Option.ite_none_right_eq_some.mp hstep
    obtain ⟨position, hposition⟩ := Option.isSome_iff_exists.mp hstream
    exact Option.some.inj hstep ▸ Consistent.set_timers h (Consistent.live_of_stream h hposition) _ false false
  | stream_event => exact h.stream_event hstep
  | stream_fails =>
    obtain ⟨hstream, hstep⟩ := Option.ite_none_right_eq_some.mp hstep
    obtain ⟨position, hposition⟩ := Option.isSome_iff_exists.mp hstream
    exact Option.some.inj hstep ▸ Consistent.schedule_recovery h (Consistent.live_of_stream h hposition)
  | command_history_fails =>
    obtain ⟨hlive, hstep⟩ := Option.ite_none_right_eq_some.mp hstep
    exact Option.some.inj hstep ▸ Consistent.schedule_recovery h hlive
  | reconnect =>
    obtain ⟨htimer, hstep⟩ := Option.ite_none_right_eq_some.mp hstep
    have hlive := h.live_of_not_early fun hearly => (Bool.eq_false_iff.mp hearly.reconnect_timer htimer).elim
    have hrung := Consistent.set_timers h hlive false observed.session.delayed_notice_timer
      observed.session.live_delayed
    exact Option.some.inj hstep ▸ Consistent.add_call hrung (Admitted.of_live hlive trivial rfl)
  | begin_recovery i =>
    obtain ⟨hcall, hstep⟩ := Option.ite_none_right_eq_some.mp hstep
    have hlive := h.live (List.mem_of_getElem? hcall) id
    exact Option.some.inj hstep ▸ Consistent.set_call h (Admitted.synchronize h hlive)
  | recovery_fails i =>
    obtain ⟨hcall, hstep⟩ := Option.ite_none_right_eq_some.mp hstep
    exact Option.some.inj hstep ▸ Consistent.fail_call h (h.live (List.mem_of_getElem? hcall) id)
  | notice_delay =>
    obtain ⟨htimer, hstep⟩ := Option.ite_none_right_eq_some.mp hstep
    have hlive := h.live_of_not_early fun hearly => (Bool.eq_false_iff.mp hearly.delayed_notice_timer htimer).elim
    exact Option.some.inj hstep ▸ Consistent.set_timers h hlive _ false true
  | retry_live =>
    obtain ⟨hdelayed, hstep⟩ := Option.ite_none_right_eq_some.mp hstep
    have hlive := h.live_of_not_early fun hearly => (Bool.eq_false_iff.mp hearly.live_delayed hdelayed).elim
    exact Option.some.inj hstep ▸ Consistent.schedule_recovery h hlive
  | refresh =>
    exact Option.some.inj hstep ▸ Consistent.read_task (Consistent.add_call h
      ⟨Awaited.sound_none, fun _ => trivial, fun _ _ _ _ hposition => by (cases hposition)⟩)

theorem Consistent.start (hpos : 0 < events) : Consistent history ⟨.start events, none⟩ where
  orderly := {
    events := hpos
    sorted := List.Pairwise.nil
    canonical := fun _ hx => (List.not_mem_nil hx).elim
    asked := fun asked hasked => Option.some.inj hasked ▸ hpos
    calls := fun call hcall => List.mem_singleton.mp hcall ▸ Awaited.sound_none }
  early _ := ⟨rfl, rfl, rfl, rfl, fun call hcall => List.mem_singleton.mp hcall ▸ trivial, rfl⟩
  aligned hinit := by cases hinit

/-- What the Console shows of the Activity of a Run: its items in the order of their events and without a duplicate,
    all of the canonical Activity, or its recent end, once the history has been read. -/
structure Converges (history : TaskHistory) (observed : Observed) : Prop where
  nodup : observed.session.activities.Nodup
  ordered : observed.session.activities.Pairwise (· < ·)
  canonical : ∀ x ∈ observed.session.activities, x ∈ history.canonical observed.session.events
  converged : observed.synchronized_to = some observed.session.events →
    if observed.session.activity_history_truncated then
      observed.session.activities <:+ history.canonical observed.session.events ∧ observed.session.activities ≠ []
    else observed.session.activities = history.canonical observed.session.events

theorem Consistent.converges (h : Consistent history observed) : Converges history observed where
  nodup := h.orderly.sorted.imp fun hlt => Nat.ne_of_lt hlt
  ordered := h.orderly.sorted
  canonical x hx := by
    obtain ⟨hactivity, hpos, hle⟩ := h.orderly.canonical x hx
    exact (history.span_between.mem x).mpr ⟨hactivity, hpos, hle⟩
  converged hsynchronized := by
    have hlive := h.live_of_not_early fun hearly => by
      rw [hearly.synchronized_to] at hsynchronized
      cases hsynchronized
    obtain ⟨after, up_to, haligned⟩ := h.aligned hlive
    have hread := (haligned.synchronized_to _ hsynchronized).2
    have hspan : Span history observed.session.activities after observed.session.events := by
      refine ⟨h.orderly.sorted, fun x => ?_⟩
      rw [haligned.span.mem]
      constructor
      · rintro ⟨hactivity, hafter, hle⟩
        have hevents := h.orderly.canonical x ((haligned.span.mem x).mpr ⟨hactivity, hafter, hle⟩)
        exact ⟨hactivity, hafter, hevents.2.2⟩
      · rintro ⟨hactivity, hafter, hle⟩
        refine ⟨hactivity, hafter, ?_⟩
        by_contra hlt
        have hnewer := hread x hactivity (by omega)
        omega
    split
    · obtain ⟨item, hitem⟩ := List.exists_mem_of_ne_nil _ haligned.nonempty
      obtain ⟨-, hafter, hle⟩ := (hspan.mem item).mp hitem
      rw [history.canonical_append (show after ≤ observed.session.events by omega), hspan.eq history.span_between]
      exact ⟨List.suffix_append _ _, hspan.eq history.span_between ▸ haligned.nonempty⟩
    · rename_i htruncated
      have hwhole : Span history observed.session.activities 0 observed.session.events := by
        refine ⟨h.orderly.sorted, fun x => ?_⟩
        rw [hspan.mem]
        refine ⟨fun ⟨hactivity, hafter, hle⟩ => ⟨hactivity, Nat.zero_lt_of_lt hafter, hle⟩, ?_⟩
        rintro ⟨hactivity, hpos, hle⟩
        rcases haligned.whole (by simpa using htruncated) x hactivity with hafter | rfl
        · exact ⟨hactivity, hafter, hle⟩
        · omega
      exact hwhole.eq history.span_between

/-! ### Replayed runs -/

/-- The state after some actions that all meet a condition. -/
def Observed.replay (history : TaskHistory) (condition : LiveAction → Observed → Prop)
    [∀ action observed, Decidable (condition action observed)] : List LiveAction → Observed → Option Observed
  | [], observed => some observed
  | action :: actions, observed =>
    if condition action observed then
      match observed.session.step history action with
      | none => none
      | some session => Observed.replay history condition actions ⟨session, observed.note history action⟩
    else none

theorem TaskHistory.reachable_of_replay {condition : LiveAction → Observed → Prop}
    [∀ action observed, Decidable (condition action observed)] {actions : List LiveAction}
    (h : (history.live.restrict condition).Reachable observed)
    (hreplay : observed.replay history condition actions = some observed') :
    (history.live.restrict condition).Reachable observed' := by
  induction actions generalizing observed with
  | nil =>
    obtain rfl := Option.some.inj hreplay
    exact h
  | cons action actions ih =>
    simp only [Observed.replay] at hreplay
    split at hreplay
    next hcondition =>
      split at hreplay
      next => cases hreplay
      next session hstep => exact ih (h.step (t := action) rfl ⟨hcondition, session, hstep, rfl⟩) hreplay
    next => cases hreplay

/-- A Task whose events are all Activity. -/
def all_activity : TaskHistory where
  is_activity _ := true
  started := rfl
  recent_limit := 20
  page_limit := 200
  recent_limit_pos := by decide
  page_limit_pos := by decide

/-- In a run whose actions are all timely, what a Run shows converges to the canonical Activity of its Task. -/
theorem run_live_converges (history : TaskHistory) {observed : Observed}
    (h : (history.live.restrict fun action observed => Timely history observed.session action).Reachable observed) :
    Converges history observed := by
  refine Consistent.converges (h.invariant (P := Consistent history) ?_ ?_)
  · rintro observed ⟨events, hpos, rfl⟩
    exact Consistent.start hpos
  · rintro action observed observed' hconsistent ⟨htimely, session, hstep, rfl⟩
    exact hconsistent.step htimely hstep

/-- A Task whose every third event is no Activity, read in short pages. -/
def paged_activity : TaskHistory where
  is_activity event := event % 3 != 0
  started := rfl
  recent_limit := 3
  page_limit := 2
  recent_limit_pos := by decide
  page_limit_pos := by decide

/-- A session loads the full history, follows the stream, merges a Task read ahead of it, and after a break resets
    its cursor and loads the history again. -/
def reconnected : List LiveAction :=
  [.task_read 5, .resume 0, .event, .event, .page 0 7 false, .page 0 7 false, .page 0 7 true, .task_read 7, .resume 0,
    .stream_opens, .event, .event, .stream_event, .event, .task_read 10, .resume 0, .stream_event, .task_read 10,
    .resume 0, .stream_event, .stream_fails, .event, .task_read 11, .resume 0, .reconnect, .begin_recovery 0,
    .page_fails 0 true, .task_read 11, .resume 0, .page 0 11 false, .page 0 11 false, .page 0 11 false,
    .page 0 11 true, .page 0 11 false, .stream_opens]

theorem run_live_converges_reconnected :
    ∃ observed, (observed.session.activities = [1, 2, 4, 5, 7, 8, 10, 11] ∧ observed.session.stream = some 11 ∧
      observed.synchronized_to = some 11) ∧ Converges paged_activity observed := by
  have hreplay : ((Observed.replay paged_activity
      (fun action observed => Timely paged_activity observed.session action) reconnected ⟨.start 5, none⟩).any
        fun observed => observed.session.activities = [1, 2, 4, 5, 7, 8, 10, 11] ∧ observed.session.stream = some 11 ∧
          observed.synchronized_to = some 11) = true := by
    decide +kernel
  obtain ⟨observed, hreplay, hread⟩ := (Option.any_eq_true _ _).mp hreplay
  have hstart : (paged_activity.live.restrict fun action observed =>
      Timely paged_activity observed.session action).Reachable ⟨.start 5, none⟩ := ⟨[], .start ⟨5, by decide, rfl⟩⟩
  exact ⟨observed, of_decide_eq_true hread,
    run_live_converges paged_activity (paged_activity.reachable_of_replay hstart hreplay)⟩

/-- The Activity of a Task read overtakes the frames of the stream: five events that the stream has still to bring
    are older than the twenty that the Task read brings, and come after them. -/
theorem task_read_overtakes_stream :
    ∃ observed, all_activity.live.Reachable observed ∧ ¬ Converges all_activity observed := by
  have hreplay : ((Observed.replay all_activity (fun _ _ => True) ([.task_read 1, .resume 0, .page 0 1 false] ++
      List.replicate 25 .event ++ [.stream_event, .task_read 26, .stream_event]) ⟨.start 1, none⟩).any fun observed =>
      !decide (observed.session.activities.Pairwise (· < ·))) = true := by
    decide +kernel
  obtain ⟨observed, hreplay, hunordered⟩ := (Option.any_eq_true _ _).mp hreplay
  have hstart : (all_activity.live.restrict fun _ _ => True).Reachable ⟨.start 1, none⟩ :=
    ⟨[], .start ⟨1, Nat.one_pos, rfl⟩⟩
  exact ⟨observed, (all_activity.reachable_of_replay hstart hreplay).of_restrict,
    fun h => by simp [h.ordered] at hunordered⟩

end OhMySubagents.RunLive

import OhMySubagents.RunLive.Alignment

open Relational

namespace OhMySubagents.RunLive

section

variable {history : TaskHistory} {session session' : RunLiveSession} {synchronized_to : Option Nat} {call : Call}
  {i : Nat} {result : Option TaskView} {after up_to : Nat}

/-! ### Calls -/

theorem mem_or_other {α : Type} {l : List α} {i : Nat} {a b : α} (hi : l[i]? = some b) (h : a ∈ l) :
    a = b ∨ a ∈ l.eraseIdx i := by
  obtain ⟨j, hj⟩ := List.mem_iff_getElem?.mp h
  rcases eq_or_ne j i with rfl | hne
  · exact .inl (Option.some.inj (hj.symm.trans hi))
  · exact .inr (List.mem_eraseIdx_iff_getElem?.mpr ⟨j, hne, hj⟩)

theorem Call.settle_sound {events : Nat} (h : call.Sound history events)
    (hresult : ∀ task, result = some task → ∃ n, 0 < n ∧ n ≤ events ∧ task = history.list_recent_task_activities n) :
    (call.settle result).Sound history events := by
  have hsettled : Awaited.Sound history events (some result) := fun task htask => hresult task (Option.some.inj htask)
  unfold Call.settle
  split <;> first | exact hsettled | exact h

theorem Call.settle_read_position : (call.settle result).read_position = call.read_position := by
  unfold Call.settle
  split <;> rfl

theorem Call.settle_early (h : call.IsEarly) : (call.settle result).IsEarly := by
  unfold Call.settle
  split <;> trivial

theorem Call.Sound.mono {events events' : Nat} (h : call.Sound history events) (hle : events ≤ events') :
    call.Sound history events' := by
  have hawaited : ∀ result, Awaited.Sound history events result → Awaited.Sound history events' result :=
    fun result h task htask => by
      obtain ⟨n, hpos, hn, htask⟩ := h task htask
      exact ⟨n, hpos, hn.trans hle, htask⟩
  cases call with
  | starting result => exact hawaited _ h
  | refreshing result => exact hawaited _ h
  | refetching result => exact hawaited _ h
  | recovering => trivial
  | synchronizing synchronization =>
    cases synchronization with
    | backfill => exact ⟨h.1, h.2.1.trans hle, h.2.2.trans hle⟩
    | resetting result => exact hawaited _ h
    | loading => exact ⟨h.1, h.2.1.trans hle, h.2.2⟩
    | confirming result => exact hawaited _ h

theorem Call.Sound.read_position_le {events position : Nat} (h : call.Sound history events)
    (hposition : call.read_position = some position) : position ≤ events := by
  unfold Call.read_position at hposition
  split at hposition
  · exact Option.some.inj hposition ▸ h.2.2
  · cases hposition

theorem Awaited.sound_none {events : Nat} : Awaited.Sound history events none := fun _ h => by cases h

/-! ### Parts of an action -/

theorem Consistent.read_task (h : Consistent history ⟨session, synchronized_to⟩) :
    Consistent history ⟨session.read_task, synchronized_to⟩ := by
  unfold RunLiveSession.read_task
  split
  · exact ⟨{ h.orderly with }, fun hinit => { h.early hinit with }, fun hinit => by
      obtain ⟨after, up_to, haligned⟩ := h.aligned hinit
      exact ⟨after, up_to, { haligned with }⟩⟩
  · refine ⟨{ h.orderly with asked := fun asked hasked => ?_ }, fun hinit => { h.early hinit with }, fun hinit => ?_⟩
    · cases hasked
      exact h.orderly.events
    · obtain ⟨after, up_to, haligned⟩ := h.aligned hinit
      exact ⟨after, up_to, { haligned with }⟩

theorem Consistent.drain_task_reads (h : Consistent history ⟨session, synchronized_to⟩)
    (hresult : ∀ task, result = some task → ∃ n, 0 < n ∧ n ≤ session.events ∧
      task = history.list_recent_task_activities n) :
    Consistent history ⟨session.drain_task_reads result, synchronized_to⟩ := by
  unfold RunLiveSession.drain_task_reads
  split
  · refine ⟨{ h.orderly with asked := fun asked hasked => ?_ }, fun hinit => { h.early hinit with }, fun hinit => ?_⟩
    · cases hasked
      exact h.orderly.events
    · obtain ⟨after, up_to, haligned⟩ := h.aligned hinit
      exact ⟨after, up_to, { haligned with }⟩
  · refine ⟨{ h.orderly with asked := fun _ hasked => by (cases hasked), calls := fun call hcall => ?_ },
      fun hinit => { h.early hinit with calls := fun call hcall => ?_ }, fun hinit => ?_⟩
    · obtain ⟨old, hold, rfl⟩ := List.mem_map.mp hcall
      exact Call.settle_sound (h.orderly.calls old hold) hresult
    · obtain ⟨old, hold, rfl⟩ := List.mem_map.mp hcall
      exact Call.settle_early ((h.early hinit).calls old hold)
    · obtain ⟨after, up_to, haligned⟩ := h.aligned hinit
      refine ⟨after, up_to, { haligned with calls := fun call hcall position hposition => ?_ }⟩
      obtain ⟨old, hold, rfl⟩ := List.mem_map.mp hcall
      exact haligned.calls old hold position (Call.settle_read_position ▸ hposition)

/-- What a new call of a session must satisfy. -/
structure Admitted (history : TaskHistory) (observed : Observed) (call : Call) : Prop where
  sound : call.Sound history observed.session.events
  early : observed.session.is_live_initialized = false → call.IsEarly
  position : ∀ after up_to, Aligned history observed after up_to → ∀ position, call.read_position = some position →
    Meets history after up_to position

/-- A call of a live session that reads no pages is admitted. -/
theorem Admitted.of_live (hlive : session.is_live_initialized = true) (hsound : call.Sound history session.events)
    (hposition : call.read_position = none) : Admitted history ⟨session, synchronized_to⟩ call :=
  ⟨hsound, fun hinit => (Bool.eq_false_iff.mp hinit hlive).elim, fun _ _ _ position hread => by
    rw [hposition] at hread
    cases hread⟩

theorem Consistent.set_call (h : Consistent history ⟨session, synchronized_to⟩)
    (hcall : Admitted history ⟨session, synchronized_to⟩ call) :
    Consistent history ⟨{ session with calls := session.calls.set i call }, synchronized_to⟩ := by
  refine ⟨{ h.orderly with calls := fun other hother => ?_ },
    fun hinit => { h.early hinit with calls := fun other hother => ?_ }, fun hinit => ?_⟩
  · rcases List.mem_or_eq_of_mem_set hother with hother | rfl
    · exact h.orderly.calls other hother
    · exact hcall.sound
  · rcases List.mem_or_eq_of_mem_set hother with hother | rfl
    · exact (h.early hinit).calls other hother
    · exact hcall.early hinit
  · obtain ⟨after, up_to, haligned⟩ := h.aligned hinit
    refine ⟨after, up_to, { haligned with calls := fun other hother position hposition => ?_ }⟩
    rcases List.mem_or_eq_of_mem_set hother with hother | rfl
    · exact haligned.calls other hother position hposition
    · exact hcall.position after up_to haligned position hposition

theorem Consistent.add_call (h : Consistent history ⟨session, synchronized_to⟩)
    (hcall : Admitted history ⟨session, synchronized_to⟩ call) :
    Consistent history ⟨{ session with calls := session.calls ++ [call] }, synchronized_to⟩ := by
  refine ⟨{ h.orderly with calls := fun other hother => ?_ },
    fun hinit => { h.early hinit with calls := fun other hother => ?_ }, fun hinit => ?_⟩
  · rcases List.mem_append.mp hother with hother | hother
    · exact h.orderly.calls other hother
    · exact List.mem_singleton.mp hother ▸ hcall.sound
  · rcases List.mem_append.mp hother with hother | hother
    · exact (h.early hinit).calls other hother
    · exact List.mem_singleton.mp hother ▸ hcall.early hinit
  · obtain ⟨after, up_to, haligned⟩ := h.aligned hinit
    refine ⟨after, up_to, { haligned with calls := fun other hother position hposition => ?_ }⟩
    rcases List.mem_append.mp hother with hother | hother
    · exact haligned.calls other hother position hposition
    · rw [List.mem_singleton.mp hother] at hposition
      exact hcall.position after up_to haligned position hposition

theorem Consistent.end_call (h : Consistent history ⟨session, synchronized_to⟩) :
    Consistent history ⟨{ session with calls := session.calls.eraseIdx i }, synchronized_to⟩ := by
  refine ⟨{ h.orderly with calls := fun other hother => ?_ },
    fun hinit => { h.early hinit with calls := fun other hother => ?_ }, fun hinit => ?_⟩
  · exact h.orderly.calls other (List.mem_of_mem_eraseIdx hother)
  · exact (h.early hinit).calls other (List.mem_of_mem_eraseIdx hother)
  · obtain ⟨after, up_to, haligned⟩ := h.aligned hinit
    refine ⟨after, up_to, { haligned with calls := fun other hother => ?_ }⟩
    exact haligned.calls other (List.mem_of_mem_eraseIdx hother)

/-- Whatever is not one of the first calls belongs to a live session. -/
theorem Consistent.live (h : Consistent history ⟨session, synchronized_to⟩) (hcall : call ∈ session.calls)
    (hlate : ¬ call.IsEarly) : session.is_live_initialized = true := by
  by_contra hinit
  exact hlate ((h.early (Bool.eq_false_iff.mpr hinit)).calls call hcall)

theorem Consistent.live_of_not_early (h : Consistent history ⟨session, synchronized_to⟩)
    (hlate : ¬ Early ⟨session, synchronized_to⟩) : session.is_live_initialized = true := by
  by_contra hinit
  exact hlate (h.early (Bool.eq_false_iff.mpr hinit))

theorem Consistent.live_of_stream (h : Consistent history ⟨session, synchronized_to⟩) {position : Nat}
    (hstream : session.stream = some position) : session.is_live_initialized = true :=
  h.live_of_not_early fun hearly => by
    have hnone : session.stream = none := hearly.stream
    rw [hstream] at hnone
    cases hnone

/-- The timers of a live session say nothing about its list. -/
theorem Consistent.set_timers (h : Consistent history ⟨session, synchronized_to⟩)
    (hlive : session.is_live_initialized = true) (reconnect_timer delayed_notice_timer live_delayed : Bool) :
    Consistent history ⟨{ session with reconnect_timer, delayed_notice_timer, live_delayed }, synchronized_to⟩ := by
  refine ⟨{ h.orderly with }, fun hinit => (Bool.eq_false_iff.mp hinit hlive).elim, fun hinit => ?_⟩
  obtain ⟨after, up_to, haligned⟩ := h.aligned hinit
  exact ⟨after, up_to, { haligned with }⟩

theorem Consistent.schedule_recovery (h : Consistent history ⟨session, synchronized_to⟩)
    (hlive : session.is_live_initialized = true) :
    Consistent history ⟨session.schedule_recovery, synchronized_to⟩ := by
  refine ⟨{ h.orderly with }, fun hinit => ?_, fun hinit => ?_⟩
  · exact (Bool.eq_false_iff.mp hinit hlive).elim
  · obtain ⟨after, up_to, haligned⟩ := h.aligned hinit
    exact ⟨after, up_to, { haligned with stream := fun position hposition => by (cases hposition) }⟩

theorem Consistent.fail_call (h : Consistent history ⟨session, synchronized_to⟩)
    (hlive : session.is_live_initialized = true) : Consistent history ⟨session.fail_call i, synchronized_to⟩ :=
  Consistent.schedule_recovery h.end_call hlive

theorem Consistent.open_stream (h : Consistent history ⟨session, synchronized_to⟩)
    (hlive : session.is_live_initialized = true) : Consistent history ⟨session.open_stream, synchronized_to⟩ := by
  refine ⟨{ h.orderly with }, fun hinit => ?_, fun hinit => ?_⟩
  · exact (Bool.eq_false_iff.mp hinit hlive).elim
  · obtain ⟨after, up_to, haligned⟩ := h.aligned hinit
    refine ⟨after, up_to, { haligned with stream := fun position hposition => ?_ }⟩
    obtain ⟨cursor, hcursor, hle, hmeets⟩ := haligned.cursor
    have hcursor : session.cursor = some cursor := hcursor
    simp only [RunLiveSession.open_stream, hcursor, Option.getD_some, Option.some.injEq] at hposition
    exact hposition ▸ ⟨hle, hmeets⟩

theorem Consistent.synchronized (h : Consistent history ⟨session, synchronized_to⟩)
    (hlive : session.is_live_initialized = true) {changed : Bool} :
    Consistent history ⟨session.synchronized i changed, synchronized_to⟩ := by
  unfold RunLiveSession.synchronized
  split
  · exact Consistent.read_task (h.set_call (Admitted.of_live hlive Awaited.sound_none rfl))
  · exact Consistent.open_stream h.end_call hlive

end

variable {history : TaskHistory} {session session' : RunLiveSession} {synchronized_to : Option Nat}
  {call : Call} {items : List Nat} {i n start after up_to position later : Nat}

theorem TaskHistory.list_recent_task_activities_nonempty (hpos : 0 < n) :
    (history.list_recent_task_activities n).activities ≠ [] := by
  have hmem : 1 ∈ history.canonical n :=
    (history.span_between.mem 1).mpr ⟨history.started, Nat.one_pos, hpos⟩
  have hlength := List.length_pos_of_mem hmem
  have hlimit := history.recent_limit_pos
  intro hnil
  have hzero := congrArg List.length hnil
  simp only [TaskHistory.list_recent_task_activities, List.length_drop, List.length_nil] at hzero
  omega

/-- The cursor of a list is met by it. -/
theorem Span.meets_last (h : Span history items after up_to) {last : Nat} (hlast : items.getLast? = some last) :
    after < last ∧ last ≤ up_to ∧ Meets history after up_to last := by
  obtain ⟨-, hafter, hup_to⟩ := (h.mem last).mp (List.mem_of_getLast? hlast)
  exact ⟨hafter, hup_to, fun _ _ hlt => by omega, fun _ _ hle => by omega⟩

/-! ### Merging a Task read -/

/-- What a Task read brings in order leaves no gap in the list of a live session. -/
theorem Aligned.merge_task (h : Aligned history ⟨session, synchronized_to⟩ after up_to)
    (hlive : session.is_live_initialized = true) (hn : n ≤ session.events)
    (horder : InOrder history session (history.list_recent_task_activities n).activities) :
    Span history (merge_activities session.activities (history.list_recent_task_activities n).activities) after
      (max up_to n) := by
  obtain ⟨start, hspan, -⟩ := history.list_recent_task_activities_span n
  obtain ⟨cursor, hcursor, -, hmeets⟩ := h.cursor
  have hcursor : session.cursor = some cursor := hcursor
  obtain ⟨shown, hshown⟩ := List.exists_mem_of_ne_nil _ h.nonempty
  have hbefore := (h.span.mem shown).mp hshown
  have hnew : ∀ x ∈ (history.list_recent_task_activities n).activities, x ∉ session.activities → up_to < x := by
    intro x hx hxnew
    by_contra hle
    have hlt := horder.newer x hx hxnew shown hshown
    exact hxnew ((h.span.mem x).mpr ⟨((hspan.mem x).mp hx).1, by omega, by omega⟩)
  refine ⟨merge_activities_sorted h.span.sorted hspan.sorted horder.newer, fun x => ?_⟩
  rw [mem_merge_activities]
  constructor
  · rintro (hx | hx)
    · obtain ⟨hactivity, hafter, hle⟩ := (h.span.mem x).mp hx
      exact ⟨hactivity, hafter, by omega⟩
    · obtain ⟨hactivity, -, hle⟩ := (hspan.mem x).mp hx
      refine ⟨hactivity, ?_, by omega⟩
      by_cases hold : x ∈ session.activities
      · exact ((h.span.mem x).mp hold).2.1
      · have hlt := hnew x hx hold
        omega
  · rintro ⟨hactivity, hafter, hle⟩
    by_contra hmissing
    have hlt : up_to < x := by
      by_contra hle
      exact hmissing (.inl ((h.span.mem x).mpr ⟨hactivity, hafter, by omega⟩))
    have hold : x ≤ start := by
      by_contra hlt
      exact hmissing (.inr ((hspan.mem x).mpr ⟨hactivity, by omega, by omega⟩))
    -- what is left out follows the cursor, so the items of the Task read would have to be older
    have hfirst := (horder.reaches hlive x hactivity (by omega) (mem_merge_activities.not.mpr hmissing)).2
      (by simpa [hcursor] using hmeets.newer x hactivity hlt)
    obtain ⟨item, hitem⟩ := List.exists_mem_of_ne_nil _
      (history.list_recent_task_activities_nonempty (show 0 < n by omega))
    have holder := hfirst item (mem_merge_activities.mpr (.inr hitem))
    have hafter := ((hspan.mem item).mp hitem).2.1
    omega

/-- A list that gets longer in order stays orderly. -/
theorem Orderly.merge (h : Orderly history ⟨session, synchronized_to⟩) (hspan : Span history items start n)
    (hn : n ≤ session.events) (hsorted : (merge_activities session.activities items).Pairwise (· < ·)) :
    Orderly history ⟨{ session with activities := merge_activities session.activities items }, synchronized_to⟩ := by
  refine { h with sorted := hsorted, canonical := fun x hx => ?_ }
  rcases mem_merge_activities.mp hx with hx | hx
  · exact h.canonical x hx
  · obtain ⟨hactivity, hlt, hle⟩ := (hspan.mem x).mp hx
    exact ⟨hactivity, Nat.zero_lt_of_lt hlt, hle.trans hn⟩

/-- A live list that gets longer at its end stays aligned. -/
theorem Aligned.merge (h : Aligned history ⟨session, synchronized_to⟩ after up_to)
    (hspan : Span history (merge_activities session.activities items) after later) (hle : up_to ≤ later) :
    Aligned history ⟨{ session with activities := merge_activities session.activities items }, synchronized_to⟩ after
      later := by
  obtain ⟨item, hitem⟩ := List.exists_mem_of_ne_nil _ h.nonempty
  exact h.extend hspan (List.ne_nil_of_mem (mem_merge_activities.mpr (.inl hitem))) hle

theorem Consistent.merge_task (h : Consistent history ⟨session, synchronized_to⟩) (hn : n ≤ session.events)
    (horder : InOrder history session (history.list_recent_task_activities n).activities) :
    Consistent history ⟨{ session with
      activities := merge_activities session.activities (history.list_recent_task_activities n).activities },
      synchronized_to⟩ := by
  obtain ⟨start, hspan, -⟩ := history.list_recent_task_activities_span n
  refine ⟨h.orderly.merge hspan hn (merge_activities_sorted h.orderly.sorted hspan.sorted horder.newer),
    fun hinit => { h.early hinit with }, fun hinit => ?_⟩
  obtain ⟨after, up_to, haligned⟩ := h.aligned hinit
  exact ⟨after, max up_to n, haligned.merge (haligned.merge_task hinit hn horder) (le_max_left _ _)⟩

/-! ### A list that replaces the shown one -/

theorem Consistent.replace (truncated : Bool) (synchronized_to' : Option Nat)
    (h : Orderly history ⟨session, synchronized_to⟩) (hspan : Span history items start n)
    (hne : items ≠ []) (hn : n ≤ session.events) (hwhole : truncated = false → start = 0)
    (hstream : ∀ position, session.stream = some position → position ≤ session.events ∧ Meets history start n position)
    (hcalls : ∀ call ∈ session.calls, ∀ position, call.read_position = some position → Meets history start n position)
    (hsynchronized : ∀ events, synchronized_to' = some events → events ≤ n) :
    Consistent history ⟨{ session with
      activities := items, cursor := items.getLast?, activity_history_truncated := truncated
      is_live_initialized := true }, synchronized_to'⟩ := by
  refine ⟨{ h with sorted := hspan.sorted, canonical := fun x hx => ?_ }, fun hinit => by (cases hinit), fun _ =>
    ⟨start, n, hspan, hne, fun htruncated x _ => ?_, ?_, hstream, hcalls, fun events hevents => ?_⟩⟩
  · obtain ⟨hactivity, hlt, hle⟩ := (hspan.mem x).mp hx
    exact ⟨hactivity, Nat.zero_lt_of_lt hlt, hle.trans hn⟩
  · rw [hwhole htruncated]
    exact (Nat.eq_zero_or_pos x).symm
  · obtain ⟨-, hle, hmeets⟩ := hspan.meets_last (List.getLast?_eq_some_getLast hne)
    exact ⟨_, List.getLast?_eq_some_getLast hne, hle.trans hn, hmeets⟩
  · have hle := hsynchronized events hevents
    exact ⟨hle.trans hn, fun x _ hlt => by omega⟩

/-- A list that reaches its readers replaces the shown one. -/
theorem Consistent.replace_reaching (truncated : Bool) (synchronized_to' : Option Nat)
    (h : Consistent history ⟨session, synchronized_to⟩)
    (hlive : session.is_live_initialized = true) (hspan : Span history items start n) (hne : items ≠ [])
    (hn : n ≤ session.events) (hwhole : truncated = false → start = 0) (hcall : session.calls[i]? = some call)
    (hposition : call.read_position = none) (hreaches : ReachesReaders history session i items)
    (hsynchronized : ∀ events, synchronized_to' = some events → events ≤ n) :
    Consistent history ⟨{ session with
      activities := items, cursor := items.getLast?, activity_history_truncated := truncated }, synchronized_to'⟩ := by
  obtain ⟨after, up_to, haligned⟩ := h.aligned hlive
  have hevents : ∀ x ∈ items, x ≤ session.events := fun x hx => ((hspan.mem x).mp hx).2.2.trans hn
  have hreplaced := Consistent.replace truncated synchronized_to' h.orderly hspan hne hn hwhole
    (fun position hstream =>
      have hle := (haligned.stream position hstream).1
      ⟨hle, (hreaches.stream position hstream).meets hspan hne hevents hle⟩)
    (fun other hother position hread => by
      rcases mem_or_other hcall hother with rfl | hother'
      · rw [hposition] at hread
        cases hread
      · exact (hreaches.calls other hother' position hread).meets hspan hne hevents
          (Call.Sound.read_position_le (h.orderly.calls other hother) hread))
    hsynchronized
  rwa [← hlive] at hreplaced

/-- The next request of a synchronization follows the cursor of a live session. -/
theorem Admitted.backfill (h : Consistent history ⟨session, synchronized_to⟩)
    (hlive : session.is_live_initialized = true) {changed allow_reset : Bool} :
    Admitted history ⟨session, synchronized_to⟩
      (.synchronizing (.backfill session.cursor session.events changed allow_reset)) := by
  obtain ⟨after, up_to, haligned⟩ := h.aligned hlive
  obtain ⟨cursor, hcursor, hle, -⟩ := haligned.cursor
  have hcursor : session.cursor = some cursor := hcursor
  refine ⟨⟨h.orderly.events, le_rfl, by simpa [hcursor] using hle⟩, fun hinit => ?_,
    fun after up_to haligned position hposition => ?_⟩
  · exact (Bool.eq_false_iff.mp hinit hlive).elim
  · obtain ⟨cursor, hcursor, -, hmeets⟩ := haligned.cursor
    have hcursor : session.cursor = some cursor := hcursor
    simp only [Call.read_position, hcursor, Option.getD_some, Option.some.injEq] at hposition
    exact hposition ▸ hmeets

theorem Admitted.loading (h : Consistent history ⟨session, synchronized_to⟩)
    (hlive : session.is_live_initialized = true) {is_reset : Bool} :
    Admitted history ⟨session, synchronized_to⟩ (.synchronizing (.loading none session.events [] is_reset)) := by
  refine Admitted.of_live hlive ⟨h.orderly.events, le_rfl, Nat.zero_le _, List.Pairwise.nil, fun x => ?_⟩ rfl
  simp only [List.not_mem_nil, Option.getD_none, false_iff]
  omega

theorem Admitted.synchronize (h : Consistent history ⟨session, synchronized_to⟩)
    (hlive : session.is_live_initialized = true) :
    Admitted history ⟨session, synchronized_to⟩ (.synchronizing session.synchronize_activity_history) := by
  unfold RunLiveSession.synchronize_activity_history
  split
  · exact Admitted.loading h hlive
  · exact Admitted.backfill h hlive

end OhMySubagents.RunLive

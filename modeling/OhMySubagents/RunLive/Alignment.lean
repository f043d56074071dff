import OhMySubagents.RunLive.Session

open Relational

namespace OhMySubagents.RunLive

variable {history : TaskHistory} {session : RunLiveSession} {items items' activities : List Nat}
  {after up_to later events position : Nat} {x : Nat}

/-! ### Merging -/

theorem mem_merge_activities : x ∈ merge_activities activities items ↔ x ∈ activities ∨ x ∈ items := by
  unfold merge_activities
  induction items generalizing activities with
  | nil => simp
  | cons head tail ih =>
    rw [List.foldl_cons, ih]
    split
    · rename_i hmem
      rw [List.mem_cons]
      refine ⟨fun h => h.imp_right .inr, ?_⟩
      rintro (h | rfl | h)
      exacts [.inl h, .inl hmem, .inr h]
    · simp only [List.mem_append, List.mem_cons]
      tauto

/-- Merging keeps the order when the items that are new are newer than those that are there. -/
theorem merge_activities_sorted (hactivities : activities.Pairwise (· < ·)) (hitems : items.Pairwise (· < ·))
    (hnewer : ∀ x ∈ items, x ∉ activities → ∀ y ∈ activities, y < x) :
    (merge_activities activities items).Pairwise (· < ·) := by
  unfold merge_activities
  induction items generalizing activities with
  | nil => exact hactivities
  | cons head tail ih =>
    obtain ⟨hhead, htail⟩ := List.pairwise_cons.mp hitems
    rw [List.foldl_cons]
    split
    · exact ih hactivities htail fun x hx => hnewer x (List.mem_cons_of_mem _ hx)
    · rename_i hnew
      have hbefore := hnewer head List.mem_cons_self hnew
      refine ih ?_ htail fun x hx hxnew y hy => ?_
      · exact List.pairwise_append.mpr ⟨hactivities, List.pairwise_singleton _ _,
          fun a ha b hb => List.mem_singleton.mp hb ▸ hbefore a ha⟩
      · rcases List.mem_append.mp hy with hy | hy
        · exact hnewer x (List.mem_cons_of_mem _ hx) (fun hold => hxnew (List.mem_append_left _ hold)) y hy
        · exact List.mem_singleton.mp hy ▸ hhead x hx

/-- A reader that has read up to `position` and a list of the Activity between two events meet: nothing newer than
    the list has been read, and everything older has. -/
structure Meets (history : TaskHistory) (after up_to position : Nat) : Prop where
  newer : ∀ x, history.is_activity x → up_to < x → position < x
  older : ∀ x, history.is_activity x → x ≤ after → x ≤ position

theorem Meets.extend (h : Meets history after up_to position) (hle : up_to ≤ later) :
    Meets history after later position :=
  ⟨fun x hx hlt => h.newer x hx (by omega), h.older⟩

/-- What follows a reader extends the list that it meets. -/
theorem Span.merge (h : Span history activities after up_to) (hmeets : Meets history after up_to position)
    (hitems : Span history items position later) :
    Span history (merge_activities activities items) after (max up_to later) := by
  have hafter : ∀ x ∈ items, after < x := by
    intro x hx
    obtain ⟨hactivity, hlt, -⟩ := (hitems.mem x).mp hx
    by_contra hle
    have hread := hmeets.older x hactivity (by omega)
    omega
  refine ⟨merge_activities_sorted h.sorted hitems.sorted fun x hx hnew y hy => ?_, fun x => ?_⟩
  · obtain ⟨hactivity, hlt, -⟩ := (hitems.mem x).mp hx
    have hup_to : up_to < x := by
      by_contra hle
      exact hnew ((h.mem x).mpr ⟨hactivity, hafter x hx, by omega⟩)
    have hy' := (h.mem y).mp hy
    omega
  · rw [mem_merge_activities, h.mem]
    constructor
    · rintro (⟨hactivity, hlt, hle⟩ | hx)
      · exact ⟨hactivity, hlt, by omega⟩
      · obtain ⟨hactivity, -, hle⟩ := (hitems.mem x).mp hx
        exact ⟨hactivity, hafter x hx, by omega⟩
    · rintro ⟨hactivity, hlt, hle⟩
      by_cases hold : x ≤ up_to
      · exact .inl ⟨hactivity, hlt, hold⟩
      · exact .inr ((hitems.mem x).mpr ⟨hactivity, hmeets.newer x hactivity (by omega), by omega⟩)

/-- Consecutive pages join. -/
theorem Span.append (h : Span history activities after up_to) (hitems : Span history items up_to later)
    (hle : after ≤ up_to) (hle' : up_to ≤ later) : Span history (merge_activities activities items) after later := by
  have hmeets : Meets history after up_to up_to := ⟨fun _ _ hlt => hlt, fun _ _ hle' => hle'.trans hle⟩
  have hmerge := h.merge hmeets hitems
  rwa [max_eq_right hle'] at hmerge

/-! ### The conditions on what is merged and on what replaces the list -/

/-- What a list lacks of the Activity is older than all of it when a reader has read it, and newer otherwise. -/
def Reaches (history : TaskHistory) (events : Nat) (activities : List Nat) (position : Nat) : Prop :=
  ∀ x, history.is_activity x → x ≤ events → x ∉ activities →
    (x ≤ position → ∀ y ∈ activities, x < y) ∧ (position < x → ∀ y ∈ activities, y < x)

instance : Decidable (Reaches history events activities position) :=
  decidable_of_iff (∀ x ∈ List.range (events + 1), history.is_activity x = true → x ∉ activities →
      (x ≤ position → ∀ y ∈ activities, x < y) ∧ (position < x → ∀ y ∈ activities, y < x))
    ⟨fun h x hx hle => h x (List.mem_range.mpr (Nat.lt_succ_of_le hle)) hx,
      fun h x hlt hx => h x hx (Nat.le_of_lt_succ (List.mem_range.mp hlt))⟩

theorem Reaches.meets (h : Reaches history events activities position) (hspan : Span history activities after up_to)
    (hne : activities ≠ []) (hevents : ∀ y ∈ activities, y ≤ events) (hposition : position ≤ events) :
    Meets history after up_to position := by
  obtain ⟨y, hy⟩ := List.exists_mem_of_ne_nil _ hne
  obtain ⟨-, hafter, hup_to⟩ := (hspan.mem y).mp hy
  refine ⟨fun x hx hlt => ?_, fun x hx hle => ?_⟩
  · by_contra hread
    have hold := (h x hx (by omega) fun hmem => by
      have hin := (hspan.mem x).mp hmem
      omega).1 (by omega) y hy
    omega
  · by_contra hnew
    have hy' := hevents y hy
    have hnewer := (h x hx (by omega) fun hmem => by
      have hin := (hspan.mem x).mp hmem
      omega).2 (by omega) y hy
    omega

/-- What a Task read brings does not overtake what is missing: nothing it adds is older than a shown item, and once
    the session is live nothing between the cursor and what it adds is left out. -/
structure InOrder (history : TaskHistory) (session : RunLiveSession) (items : List Nat) : Prop where
  newer : ∀ x ∈ items, x ∉ session.activities → ∀ y ∈ session.activities, y < x
  reaches : session.is_live_initialized → Reaches history session.events
    (merge_activities session.activities items) (session.cursor.getD 0)

instance {session : RunLiveSession} {items : List Nat} : Decidable (InOrder history session items) :=
  decidable_of_iff ((∀ x ∈ items, x ∉ session.activities → ∀ y ∈ session.activities, y < x) ∧
      (session.is_live_initialized = true → Reaches history session.events
        (merge_activities session.activities items) (session.cursor.getD 0)))
    ⟨fun h => ⟨h.1, h.2⟩, fun h => ⟨h.newer, h.reaches⟩⟩

/-- The event up to which a running backfill has read. -/
def Call.read_position : Call → Option Nat
  | .synchronizing (.backfill page_cursor _ _ _) => some (page_cursor.getD 0)
  | _ => none

/-- A list that replaces the shown one reaches as far as the open stream and the other calls have read. -/
structure ReachesReaders (history : TaskHistory) (session : RunLiveSession) (i : Nat) (items : List Nat) : Prop where
  stream : ∀ position, session.stream = some position → Reaches history session.events items position
  calls : ∀ call ∈ session.calls.eraseIdx i, ∀ position, call.read_position = some position →
    Reaches history session.events items position

instance {session : RunLiveSession} {i : Nat} {items : List Nat} :
    Decidable (ReachesReaders history session i items) :=
  decidable_of_iff ((∀ position ∈ session.stream, Reaches history session.events items position) ∧
      ∀ call ∈ session.calls.eraseIdx i, ∀ position ∈ call.read_position,
        Reaches history session.events items position)
    ⟨fun h => ⟨h.1, h.2⟩, fun h => ⟨h.stream, h.calls⟩⟩

/-- What a run of the session must not do for its list to stay in order. -/
def Timely (history : TaskHistory) (session : RunLiveSession) : LiveAction → Prop
  | .task_read events | .replace_task events =>
    InOrder history session (history.list_recent_task_activities events).activities
  | .resume i => ∀ task, session.calls[i]? = some (.synchronizing (.resetting (some (some task)))) →
    ReachesReaders history session i task.activities
  | .page i events _ => ∀ page_cursor asked collected is_reset,
    session.calls[i]? = some (.synchronizing (.loading page_cursor asked collected is_reset)) →
    (history.list_task_activities page_cursor events).next_cursor = none →
    ReachesReaders history session i
      (merge_activities collected (history.list_task_activities page_cursor events).items)
  | _ => True

/-- The Task that a call is about to reset the list to. -/
def Call.reset_task : Call → Option TaskView
  | .synchronizing (.resetting result) => result.join
  | _ => none

/-- What a full load asks a page after, and what it has collected. -/
def Call.loading_after : Call → Option (Option Nat × List Nat)
  | .synchronizing (.loading page_cursor _ collected _) => some (page_cursor, collected)
  | _ => none

theorem forall_reset_task_iff {call : Option Call} {P : TaskView → Prop} :
    (∀ task ∈ call.bind Call.reset_task, P task) ↔
      ∀ task, call = some (.synchronizing (.resetting (some (some task)))) → P task := by
  have hreset : ∀ task, task ∈ call.bind Call.reset_task ↔
      call = some (.synchronizing (.resetting (some (some task)))) := by
    intro task
    rcases call with _ | ⟨-|-|-|-|⟨-|(_|_|_)|-|-⟩⟩ <;> simp [Call.reset_task]
  simp only [hreset]

theorem forall_loading_after_iff {call : Option Call} {P : Option Nat → List Nat → Prop} :
    (∀ after ∈ call.bind Call.loading_after, P after.1 after.2) ↔
      ∀ page_cursor asked collected is_reset,
        call = some (.synchronizing (.loading page_cursor asked collected is_reset)) → P page_cursor collected := by
  have hloading : ∀ page_cursor collected, (page_cursor, collected) ∈ call.bind Call.loading_after ↔
      ∃ asked is_reset, call = some (.synchronizing (.loading page_cursor asked collected is_reset)) := by
    intro page_cursor collected
    rcases call with _ | ⟨-|-|-|-|⟨-|-|-|-⟩⟩ <;> simp [Call.loading_after, eq_comm]
  constructor
  · intro h page_cursor asked collected is_reset hcall
    exact h (page_cursor, collected) ((hloading _ _).mpr ⟨asked, is_reset, hcall⟩)
  · rintro h ⟨page_cursor, collected⟩ hafter
    obtain ⟨asked, is_reset, hcall⟩ := (hloading _ _).mp hafter
    exact h page_cursor asked collected is_reset hcall

instance (session : RunLiveSession) (action : LiveAction) : Decidable (Timely history session action) :=
  match action with
  | .task_read events | .replace_task events =>
    inferInstanceAs (Decidable (InOrder history session (history.list_recent_task_activities events).activities))
  | .resume i =>
    decidable_of_iff (∀ task ∈ session.calls[i]?.bind Call.reset_task,
      ReachesReaders history session i task.activities) forall_reset_task_iff
  | .page i events _ =>
    decidable_of_iff (∀ after ∈ session.calls[i]?.bind Call.loading_after,
      (history.list_task_activities after.1 events).next_cursor = none → ReachesReaders history session i
        (merge_activities after.2 (history.list_task_activities after.1 events).items))
      (forall_loading_after_iff (P := fun page_cursor collected =>
        (history.list_task_activities page_cursor events).next_cursor = none → ReachesReaders history session i
          (merge_activities collected (history.list_task_activities page_cursor events).items)))
  | .event | .task_read_fails | .page_fails _ _ | .stream_opens | .stream_event | .stream_fails
  | .command_history_fails | .reconnect | .begin_recovery _ | .recovery_fails _ | .notice_delay | .retry_live
  | .refresh => isTrue trivial

/-! ### The invariant of a session -/

/-- A result that a call waits for is what the Task read returned when the Task had some events. -/
def Awaited.Sound (history : TaskHistory) (events : Nat) (result : Awaited) : Prop :=
  ∀ task, result = some (some task) → ∃ n, 0 < n ∧ n ≤ events ∧ task = history.list_recent_task_activities n

def Call.Sound (history : TaskHistory) (events : Nat) : Call → Prop
  | .starting result | .refreshing result | .refetching result
  | .synchronizing (.resetting result) | .synchronizing (.confirming result) => Awaited.Sound history events result
  | .recovering => True
  | .synchronizing (.backfill page_cursor asked _ _) => 0 < asked ∧ asked ≤ events ∧ page_cursor.getD 0 ≤ events
  | .synchronizing (.loading page_cursor asked collected _) =>
    0 < asked ∧ asked ≤ events ∧ page_cursor.getD 0 ≤ asked ∧ Span history collected 0 (page_cursor.getD 0)

/-- A call of a session that is not live yet. -/
def Call.IsEarly : Call → Prop
  | .starting _ | .refreshing _ => True
  | _ => False

/-- What every session keeps to. -/
structure Orderly (history : TaskHistory) (observed : Observed) : Prop where
  events : 0 < observed.session.events
  sorted : observed.session.activities.Pairwise (· < ·)
  canonical : ∀ x ∈ observed.session.activities, history.is_activity x ∧ 0 < x ∧ x ≤ observed.session.events
  asked : ∀ asked, observed.session.task_read_in_flight = some asked → 0 < asked
  calls : ∀ call ∈ observed.session.calls, call.Sound history observed.session.events

/-- A session before its first Task read has come. -/
structure Early (observed : Observed) : Prop where
  stream : observed.session.stream = none
  reconnect_timer : observed.session.reconnect_timer = false
  delayed_notice_timer : observed.session.delayed_notice_timer = false
  live_delayed : observed.session.live_delayed = false
  calls : ∀ call ∈ observed.session.calls, call.IsEarly
  synchronized_to : observed.synchronized_to = none

/-- A live session shows the Activity between two events, which every reader meets. -/
structure Aligned (history : TaskHistory) (observed : Observed) (after up_to : Nat) : Prop where
  span : Span history observed.session.activities after up_to
  nonempty : observed.session.activities ≠ []
  whole : observed.session.activity_history_truncated = false → ∀ x, history.is_activity x → after < x ∨ x = 0
  cursor : ∃ cursor, observed.session.cursor = some cursor ∧ cursor ≤ observed.session.events ∧
    Meets history after up_to cursor
  stream : ∀ position, observed.session.stream = some position → position ≤ observed.session.events ∧
    Meets history after up_to position
  calls : ∀ call ∈ observed.session.calls, ∀ position, call.read_position = some position →
    Meets history after up_to position
  synchronized_to : ∀ events, observed.synchronized_to = some events → events ≤ observed.session.events ∧
    ∀ x, history.is_activity x → up_to < x → events < x

/-- A longer list is met by the same readers. -/
theorem Aligned.extend {synchronized_to : Option Nat} (h : Aligned history ⟨session, synchronized_to⟩ after up_to)
    (hspan : Span history items after later) (hne : items ≠ []) (hle : up_to ≤ later) :
    Aligned history ⟨{ session with activities := items }, synchronized_to⟩ after later where
  span := hspan
  nonempty := hne
  whole := h.whole
  cursor := by
    obtain ⟨cursor, hcursor, hevents, hmeets⟩ := h.cursor
    exact ⟨cursor, hcursor, hevents, hmeets.extend hle⟩
  stream position hposition := (h.stream position hposition).imp_right (Meets.extend · hle)
  calls call hcall position hposition := (h.calls call hcall position hposition).extend hle
  synchronized_to events hevents :=
    (h.synchronized_to events hevents).imp_right fun hread x hx hlt => hread x hx (by omega)

/-- The invariant of the sessions whose actions are timely. -/
structure Consistent (history : TaskHistory) (observed : Observed) : Prop where
  orderly : Orderly history observed
  early : observed.session.is_live_initialized = false → Early observed
  aligned : observed.session.is_live_initialized = true → ∃ after up_to, Aligned history observed after up_to

end OhMySubagents.RunLive

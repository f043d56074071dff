import Mathlib.Data.List.Sort
import Mathlib.Data.List.Range

namespace OhMySubagents.RunLive

/-- The events of one Task, numbered from 1, and which of them give an item of its canonical Activity. An Activity
    item has the number of its event. -/
structure TaskHistory where
  is_activity : Nat → Bool
  started : is_activity 1 = true
  recent_limit : Nat
  page_limit : Nat
  recent_limit_pos : 0 < recent_limit
  page_limit_pos : 0 < page_limit

/-- What the Console shows of a Task read. -/
structure TaskView where
  activities : List Nat
  activities_truncated : Bool
deriving DecidableEq, Repr

structure TaskActivityPage where
  items : List Nat
  next_cursor : Option Nat
deriving DecidableEq, Repr

namespace TaskHistory

variable (history : TaskHistory)

/-- The Activity of the events after the one and up to the other. -/
def between (after up_to : Nat) : List Nat :=
  (List.range' (after + 1) (up_to - after)).filter history.is_activity

/-- The canonical Activity of a Task with some events. -/
def canonical (events : Nat) : List Nat := history.between 0 events

/-- The Activity of a Task read: its most recent items. -/
def list_recent_task_activities (events : Nat) : TaskView where
  activities := (history.canonical events).drop ((history.canonical events).length - history.recent_limit)
  activities_truncated := history.recent_limit < (history.canonical events).length

/-- One page of Activity after a cursor. -/
def list_task_activities (cursor : Option Nat) (events : Nat) : TaskActivityPage :=
  let rows := history.between (cursor.getD 0) events
  let items := rows.take history.page_limit
  ⟨items, if history.page_limit < rows.length then items.getLast? else none⟩

end TaskHistory

/-- The Activity between two events, in event order. -/
structure Span (history : TaskHistory) (items : List Nat) (after up_to : Nat) : Prop where
  sorted : items.Pairwise (· < ·)
  mem : ∀ x, x ∈ items ↔ history.is_activity x ∧ after < x ∧ x ≤ up_to

variable {history : TaskHistory} {items items' : List Nat} {after up_to middle events : Nat}

theorem TaskHistory.span_between : Span history (history.between after up_to) after up_to where
  sorted := List.Pairwise.sublist List.filter_sublist List.pairwise_lt_range'
  mem x := by
    simp only [between, List.mem_filter, List.mem_range'_1]
    constructor
    · rintro ⟨hrange, hactivity⟩
      exact ⟨hactivity, by omega, by omega⟩
    · rintro ⟨hactivity, hafter, hup_to⟩
      exact ⟨by omega, hactivity⟩

/-- The Activity of one event. -/
theorem TaskHistory.span_next : Span history (if history.is_activity (after + 1) then [after + 1] else []) after
    (after + 1) where
  sorted := by split <;> simp
  mem x := by
    split
    · rename_i hactivity
      rw [List.mem_singleton]
      refine ⟨?_, fun h => by omega⟩
      rintro rfl
      exact ⟨hactivity, Nat.lt_succ_self _, le_rfl⟩
    · rename_i hactivity
      refine ⟨fun h => by (simp at h), ?_⟩
      rintro ⟨hx, hlt, hle⟩
      obtain rfl : x = after + 1 := by omega
      exact (hactivity hx).elim

theorem Span.eq (h : Span history items after up_to) (h' : Span history items' after up_to) : items = items' :=
  h.sorted.eq_of_mem_iff h'.sorted fun x => (h.mem x).trans (h'.mem x).symm

/-- A list of Activity is cut into two after any item, each the Activity between two events. -/
theorem Span.cut {earlier later : List Nat} {last : Nat} (h : Span history (earlier ++ last :: later) after up_to) :
    Span history (earlier ++ [last]) after last ∧ Span history later last up_to ∧ after < last ∧ last ≤ up_to := by
  obtain ⟨hearlier, hlater, hacross⟩ := List.pairwise_append.mp h.sorted
  obtain ⟨hlast, hlater⟩ := List.pairwise_cons.mp hlater
  have hbefore : ∀ x ∈ earlier, x < last := fun x hx => hacross x hx last List.mem_cons_self
  obtain ⟨-, hafter, hup_to⟩ := (h.mem last).mp (by simp)
  refine ⟨⟨?_, fun x => ?_⟩, ⟨hlater, fun x => ?_⟩, hafter, hup_to⟩
  · exact List.pairwise_append.mpr ⟨hearlier, List.pairwise_singleton _ _,
      fun a ha b hb => List.mem_singleton.mp hb ▸ hbefore a ha⟩
  · constructor
    · intro hx
      obtain ⟨hactivity, hafter, -⟩ := (h.mem x).mp (by
        rcases List.mem_append.mp hx with hx | hx
        · exact List.mem_append_left _ hx
        · simp [List.mem_singleton.mp hx])
      refine ⟨hactivity, hafter, ?_⟩
      rcases List.mem_append.mp hx with hx | hx
      · exact (hbefore x hx).le
      · exact (List.mem_singleton.mp hx).le
    · rintro ⟨hactivity, hafter, hle⟩
      have hmem := (h.mem x).mpr ⟨hactivity, hafter, hle.trans hup_to⟩
      rcases List.mem_append.mp hmem with hx | hx
      · exact List.mem_append_left _ hx
      · rcases List.mem_cons.mp hx with rfl | hx
        · simp
        · have hlt := hlast x hx
          omega
  · constructor
    · intro hx
      obtain ⟨hactivity, -, hle⟩ := (h.mem x).mp (List.mem_append_right _ (List.mem_cons_of_mem _ hx))
      exact ⟨hactivity, hlast x hx, hle⟩
    · rintro ⟨hactivity, hlt, hle⟩
      have hmem := (h.mem x).mpr ⟨hactivity, hafter.trans hlt, hle⟩
      rcases List.mem_append.mp hmem with hx | hx
      · have hlt' := hbefore x hx
        omega
      · rcases List.mem_cons.mp hx with rfl | hx
        · omega
        · exact hx

theorem TaskHistory.canonical_append (h : after ≤ events) :
    history.canonical events = history.canonical after ++ history.between after events := by
  rw [canonical, canonical, between, between, between, ← List.filter_append, Nat.add_comm after 1,
    Nat.sub_zero, Nat.sub_zero, List.range'_append_1, Nat.add_sub_cancel' h]

/-- The first items of some Activity. -/
theorem Span.take (h : Span history items after up_to) {n : Nat} (hpos : 0 < n) :
    (items.length ≤ n ∧ items.take n = items) ∨
      ∃ last, n < items.length ∧ (items.take n).getLast? = some last ∧ Span history (items.take n) after last ∧
        after < last ∧ last ≤ up_to := by
  by_cases hlength : items.length ≤ n
  · exact .inl ⟨hlength, List.take_of_length_le hlength⟩
  · have hne : items.take n ≠ [] := by
      intro hnil
      have hzero := congrArg List.length hnil
      simp at hzero
      rcases hzero with rfl | rfl
      · omega
      · simp at hlength
    have hsplit : items = (items.take n).dropLast ++ (items.take n).getLast hne :: items.drop n := by
      conv_lhs => rw [← List.take_append_drop n items, ← List.dropLast_append_getLast hne]
      simp
    rw [hsplit] at h
    obtain ⟨hfirst, -, hafter, hup_to⟩ := h.cut
    rw [List.dropLast_append_getLast] at hfirst
    exact .inr ⟨_, by omega, List.getLast?_eq_some_getLast hne, hfirst, hafter, hup_to⟩

/-- The most recent items are the Activity since some event, or all of it. -/
theorem TaskHistory.list_recent_task_activities_span (events : Nat) :
    ∃ start, Span history (history.list_recent_task_activities events).activities start events ∧
      ((history.list_recent_task_activities events).activities_truncated = false → start = 0) := by
  have hspan : Span history (history.canonical events) 0 events := history.span_between
  generalize hn : (history.canonical events).length - history.recent_limit = n
  have hrecent : (history.list_recent_task_activities events).activities = (history.canonical events).drop n := by
    rw [list_recent_task_activities, hn]
  rw [hrecent]
  rcases Nat.eq_zero_or_pos n with rfl | hpos
  · exact ⟨0, by simpa using hspan, fun _ => rfl⟩
  · have hlimit := history.recent_limit_pos
    rcases hspan.take hpos with ⟨hlength, -⟩ | ⟨last, -, hlast, -⟩
    · omega
    · have hne : (history.canonical events).take n ≠ [] := by
        intro hnil
        simp [hnil] at hlast
      rw [List.getLast?_eq_some_getLast hne] at hlast
      have hsplit : history.canonical events =
          ((history.canonical events).take n).dropLast ++ last :: (history.canonical events).drop n := by
        conv_lhs => rw [← List.take_append_drop n (history.canonical events), ← List.dropLast_append_getLast hne]
        simp [Option.some.inj hlast]
      rw [hsplit] at hspan
      refine ⟨last, hspan.cut.2.1, fun htruncated => ?_⟩
      simp [list_recent_task_activities] at htruncated
      omega

/-- A page is the Activity after its cursor, up to its next cursor or to the newest event. -/
theorem TaskHistory.list_task_activities_span (cursor : Option Nat) (events : Nat) :
    ∃ last, Span history (history.list_task_activities cursor events).items (cursor.getD 0) last ∧
      ((history.list_task_activities cursor events).next_cursor = none ∧ last = events ∨
        (history.list_task_activities cursor events).next_cursor = some last ∧ cursor.getD 0 < last ∧ last ≤ events) ∧
      ∀ x, (history.list_task_activities cursor events).items.getLast? = some x →
        cursor.getD 0 < x ∧ x ≤ last ∧ ∀ y, history.is_activity y → x < y → last < y := by
  have hspan : Span history (history.between (cursor.getD 0) events) (cursor.getD 0) events := history.span_between
  have hlast : ∀ {items last}, Span history items (cursor.getD 0) last → ∀ x, items.getLast? = some x →
      cursor.getD 0 < x ∧ x ≤ last ∧ ∀ y, history.is_activity y → x < y → last < y := by
    intro items last hitems x hx
    obtain ⟨hne, hget⟩ := List.getLast?_eq_some_iff.mp hx
    obtain ⟨-, hafter, hle⟩ := (hitems.mem x).mp (by simp [hget])
    refine ⟨hafter, hle, fun y hy hlt => ?_⟩
    by_contra hnot
    have hmem := (hitems.mem y).mpr ⟨hy, by omega, by omega⟩
    have hsorted := hitems.sorted
    rw [hget] at hmem hsorted
    rcases List.mem_append.mp hmem with hmem | hmem
    · have hbefore := (List.pairwise_append.mp hsorted).2.2 y hmem x (by simp)
      omega
    · have hsame := List.mem_singleton.mp hmem
      omega
  rcases hspan.take history.page_limit_pos with ⟨hlength, htake⟩ | ⟨last, hlength, hget, hitems, hafter, hle⟩
  · have hpage : history.list_task_activities cursor events = ⟨history.between (cursor.getD 0) events, none⟩ := by
      simp [list_task_activities, htake, Nat.not_lt.mpr hlength]
    rw [hpage]
    exact ⟨events, hspan, .inl ⟨rfl, rfl⟩, hlast hspan⟩
  · have hpage : history.list_task_activities cursor events =
        ⟨(history.between (cursor.getD 0) events).take history.page_limit, some last⟩ := by
      simp [list_task_activities, hlength, hget]
    rw [hpage]
    exact ⟨last, hitems, .inr ⟨rfl, hafter, hle⟩, hlast hitems⟩

end OhMySubagents.RunLive

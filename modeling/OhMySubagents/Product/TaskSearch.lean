import Mathlib.Data.List.Lex
import Mathlib.Data.Prod.Lex
import Mathlib.Data.String.Basic
import OhMySubagents.Cursors.PageCursors
import OhMySubagents.Product.TaskProjection
import OhMySubagents.Relational.Ordered
import OhMySubagents.Text.Like

open Json Relational Text

namespace OhMySubagents

open Cursors

def TaskProductStatus.text : TaskProductStatus → String
  | starting => "starting"
  | working => "working"
  | waiting_for_you => "waiting_for_you"
  | paused => "paused"
  | completed => "completed"
  | blocked => "blocked"
  | cancelled => "cancelled"

/-- A Task with the columns that the search reads beside its runtime rows. `created_at` is in UTC. -/
structure SearchedTask where
  rows : TaskDb
  created_at : NaiveDatetime
  workflow_key : String
  workflow_revision_no : Nat
  workflow_content_hash : String

/-- The Tasks, the prompts of their Assignments and the descriptions of the published Workflow revisions. Every Task is
    named, and its foreign keys lead to its root Assignment and to its Workflow revision. -/
structure TaskSearchDb where
  tasks : Table String SearchedTask
  prompts : Table (String × AssignmentId) String
  descriptions : Table (String × Nat × String) String
  named : ∀ task_id task, tasks.get? task_id = some task → task_id ≠ ""
  rooted : ∀ task_id task, tasks.get? task_id = some task →
    (prompts.get? (task_id, task.rows.task.root_assignment_id)).isSome = true
  pinned : ∀ task_id task, tasks.get? task_id = some task →
    (descriptions.get? (task.workflow_key, task.workflow_revision_no, task.workflow_content_hash)).isSome = true

/-- A row of the search query. -/
structure TaskSearchRow where
  task_id : String
  task : SearchedTask
  prompt : String
  workflow_description : String

namespace TaskSearchRow

def product_status (row : TaskSearchRow) : TaskProductStatus := task_product_status_expression row.task.rows

def attention_count (row : TaskSearchRow) : Nat := task_attention_count_expression row.task.rows

end TaskSearchRow

/-- The joins of the search query. -/
def TaskSearchDb.join (db : TaskSearchDb) (task_id : String) (task : SearchedTask) : Option TaskSearchRow := do
  let prompt ← db.prompts.get? (task_id, task.rows.task.root_assignment_id)
  let workflow_description ←
    db.descriptions.get? (task.workflow_key, task.workflow_revision_no, task.workflow_content_hash)
  return { task_id, task, prompt, workflow_description }

def TaskSearchDb.rows (db : TaskSearchDb) : List TaskSearchRow :=
  (db.tasks.select fun _ _ => true).filterMap fun row => db.join row.1 row.2

/-- How a `DateTime` column is compared. -/
def NaiveDatetime.column (value : NaiveDatetime) : List Nat :=
  [value.date.year, value.date.month, value.date.day, value.time.hour, value.time.minute, value.time.second,
    value.time.microsecond]

/-- The database as the search depends on it: its `LIKE`, its `lower`, and the rows for which it evaluates `LIKE`
    although another condition leaves them out. -/
structure SearchEngine where
  dialect : Dialect
  lower : String → String
  looks_at : TaskSearchRow → Bool

section Statement

-- `str.casefold`
variable (casefold : String → String) (engine : SearchEngine)

def normalize_query (q : Option String) : String := casefold (q.getD "").strip_space

/-- The texts that the query looks into. -/
def TaskSearchRow.searched_texts (row : TaskSearchRow) : List String :=
  [row.task_id, row.task.workflow_key, row.prompt, row.workflow_description].map engine.lower

/-- `LIKE`, which SQLite evaluates without regard to the case of ASCII letters: the texts have none in upper case. -/
def TaskSearchRow.matches_query (row : TaskSearchRow) (normalized_q : String) : Bool :=
  normalized_q.isEmpty ||
    (row.searched_texts engine).any fun text => engine.dialect.is_like (containing normalized_q) text

def TaskSearchRow.matches_status (row : TaskSearchRow) (status : String) : Bool :=
  status == "any" || row.product_status.text == status

def TaskSearchRow.is_behind (row : TaskSearchRow) : Option (NaiveDatetime × String) → Bool
  | none => true
  | some (created_at, task_id) => decide (row.task.created_at.column < created_at.column) ||
      row.task.created_at.column == created_at.column && decide (row.task_id < task_id)

def task_search_statement (db : TaskSearchDb) (normalized_q status : String)
    (position : Option (NaiveDatetime × String)) : List TaskSearchRow :=
  db.rows.filter fun row =>
    row.matches_query engine normalized_q && row.matches_status status && row.is_behind position

/-- Whether the database raises for the pattern of the query: SQLite does so at the first row that it compares. -/
def SearchEngine.refuses (db : TaskSearchDb) (normalized_q status : String)
    (position : Option (NaiveDatetime × String)) : Bool :=
  !normalized_q.isEmpty &&
    (engine.dialect.refuses_parameter (containing normalized_q) ||
      engine.dialect.refuses_pattern (containing normalized_q) &&
        db.rows.any fun row => engine.looks_at row || row.matches_status status && row.is_behind position)

/-- `ORDER BY created_at DESC, task_id DESC`. -/
def TaskSearchRow.key (row : TaskSearchRow) : (List Nat ×ₗ String)ᵒᵈ :=
  OrderDual.toDual (toLex (row.task.created_at.column, row.task_id))

/-- The rows of the query in their order, at most a page and one more. -/
def execute_search (db : TaskSearchDb) (normalized_q status : String) (position : Option (NaiveDatetime × String))
    (limit : Nat) : Except Raised (List TaskSearchRow) :=
  if engine.refuses db normalized_q status position then .error .database_error
  else .ok ((orderBy TaskSearchRow.key (task_search_statement engine db normalized_q status position)).take (limit + 1))

structure TaskSummary where
  id : String
  started_at : NaiveDatetime
  workflow_id : String
  workflow_description : String
  status : TaskProductStatus
  attention_count : Nat
  result_status : Option TaskProductStatus

def _task_summary (row : TaskSearchRow) : TaskSummary where
  id := row.task_id
  started_at := row.task.created_at
  workflow_id := row.task.workflow_key
  workflow_description := row.workflow_description
  status := row.product_status
  attention_count := row.attention_count
  result_status := row.task.rows.task.terminal_outcome.map fun
    | .blocked => .blocked
    | .green => .completed

structure TaskSearchResponse where
  items : List TaskSummary
  next_cursor : Option CodePoints

def supported_statuses : List String :=
  ["any", "starting", "working", "waiting_for_you", "paused", "completed", "blocked", "cancelled"]

def validate_task_search (status : String) (limit : Int) : Except Raised Unit :=
  if status ∉ supported_statuses then .error (.operation (invalid_request "That run status filter is not supported."))
  else if ¬(1 ≤ limit ∧ limit ≤ 100) then
    .error (.operation (invalid_request "Run search limit must be between 1 and 100."))
  else .ok ()

/-- A position as the parameters of the query: its time in UTC, and its id as a text without surrogates. -/
def bind_position (position : Option (Timestamp × CodePoints)) : Except Raised (Option (NaiveDatetime × String)) :=
  match position with
  | none => .ok none
  | some (created_at, task_id) =>
    match created_at.as_utc with
    | none => .error .overflow_error
    | some created_at =>
      if task_id.all fun point => (Char.ofNat point).toNat == point then
        .ok (some (created_at.naive, String.ofList (task_id.map Char.ofNat)))
      else .error .value_error

/-- The cursor of the next page, when the query found more than a page. -/
def next_task_cursor (rows : List TaskSearchRow) (normalized_q status : String) (limit : Nat) :
    Except Raised (Option CodePoints) :=
  if limit < rows.length then
    match (rows.take limit).getLast? with
    | some row =>
      some <$> encode_task_cursor ⟨row.task.created_at, some Timestamp.utc⟩ row.task_id normalized_q status
    | none => .ok none
  else .ok none

def search_product_tasks (interpreter : Interpreter) (db : TaskSearchDb) (q : Option String) (status : String)
    (cursor : Option CodePoints) (limit : Int) : Except Raised TaskSearchResponse := do
  validate_task_search status limit
  let normalized_q := normalize_query casefold q
  let position ← decode_task_cursor interpreter cursor normalized_q status
  let position ← bind_position position
  let rows ← execute_search engine db normalized_q status position limit.toNat
  let next_cursor ← next_task_cursor rows normalized_q status limit.toNat
  return { items := (rows.take limit.toNat).map _task_summary, next_cursor }

/-- The summaries of all pages from a cursor on. -/
inductive SearchPages (interpreter : Interpreter) (db : TaskSearchDb) (q : Option String) (status : String)
    (limit : Int) : Option CodePoints → List TaskSummary → Prop
  | last {cursor : Option CodePoints} {items : List TaskSummary}
      (h : search_product_tasks casefold engine interpreter db q status cursor limit = .ok ⟨items, none⟩) :
      SearchPages interpreter db q status limit cursor items
  | more {cursor : Option CodePoints} {next : CodePoints} {items rest : List TaskSummary}
      (h : search_product_tasks casefold engine interpreter db q status cursor limit = .ok ⟨items, some next⟩)
      (hrest : SearchPages interpreter db q status limit (some next) rest) :
      SearchPages interpreter db q status limit cursor (items ++ rest)

/-- That a Task contains the query as it stands. -/
def TaskSearchRow.Contains (row : TaskSearchRow) (normalized_q : String) : Prop :=
  ∃ text ∈ row.searched_texts engine, normalized_q.toList <:+: text.toList

end Statement

section Rows

variable {db : TaskSearchDb} {task_id : String} {task : SearchedTask} {row other : TaskSearchRow}

theorem join_eq_some (h : db.join task_id task = some row) : row.task_id = task_id ∧ row.task = task := by
  unfold TaskSearchDb.join at h
  obtain ⟨prompt, -, h⟩ := Option.bind_eq_some_iff.mp h
  obtain ⟨description, -, h⟩ := Option.bind_eq_some_iff.mp h
  cases h
  exact ⟨rfl, rfl⟩

theorem mem_rows_iff : row ∈ db.rows ↔
    db.tasks.get? row.task_id = some row.task ∧ db.join row.task_id row.task = some row := by
  refine List.mem_filterMap.trans ⟨?_, fun h => ⟨(row.task_id, row.task), Table.mem_select_iff.mpr ⟨h.1, rfl⟩, h.2⟩⟩
  rintro ⟨⟨task_id, task⟩, htask, hjoin⟩
  obtain ⟨rfl, rfl⟩ := join_eq_some hjoin
  exact ⟨(Table.mem_select_iff.mp htask).1, hjoin⟩

theorem row_named (h : row ∈ db.rows) : row.task_id ≠ "" := db.named _ _ (mem_rows_iff.mp h).1

theorem rows_nodup (db : TaskSearchDb) : (db.rows.map TaskSearchRow.key).Nodup := by
  have hkeys : (db.tasks.select fun _ _ => true).Pairwise fun row other => row.1 ≠ other.1 :=
    List.pairwise_map.mp (db.tasks.select_keys_nodup _)
  refine List.pairwise_map.mpr (List.pairwise_filterMap.mpr (hkeys.imp fun hne row hrow other hother heq => hne ?_))
  rw [← (join_eq_some hrow).1, ← (join_eq_some hother).1]
  exact congrArg (fun key => (ofLex (OrderDual.ofDual key)).2) heq

theorem key_lt_iff : other.key < row.key ↔ row.task.created_at.column < other.task.created_at.column ∨
    row.task.created_at.column = other.task.created_at.column ∧ row.task_id < other.task_id := by
  unfold TaskSearchRow.key
  rw [OrderDual.toDual_lt_toDual, Prod.Lex.toLex_lt_toLex]

theorem is_behind_eq : row.is_behind (some (other.task.created_at, other.task_id)) = decide (other.key < row.key) := by
  rw [Bool.eq_iff_iff, decide_eq_true_iff, key_lt_iff, TaskSearchRow.is_behind, Bool.or_eq_true, Bool.and_eq_true,
    decide_eq_true_iff, decide_eq_true_iff, beq_iff_eq]

end Rows

section Paging

variable {interpreter : Interpreter} {casefold : String → String} {engine : SearchEngine} {db : TaskSearchDb}
  {q : Option String}
  {status : String} {cursor : Option CodePoints} {limit : Int} {before rest : List TaskSearchRow}

/-- The rows of all pages. -/
def task_search_rows (engine : SearchEngine) (db : TaskSearchDb) (normalized_q status : String) :
    List TaskSearchRow := orderBy TaskSearchRow.key (task_search_statement engine db normalized_q status none)

/-- A cursor of the first page, or one that was made of the last row of a page. -/
def Resumes (normalized_q status : String) (before : List TaskSearchRow) : Option CodePoints → Prop
  | none => before = []
  | some cursor => ∃ init row, before = init ++ [row] ∧
    encode_task_cursor ⟨row.task.created_at, some Timestamp.utc⟩ row.task_id normalized_q status = .ok cursor

theorem mem_task_search_rows {normalized_q : String} {row : TaskSearchRow} :
    row ∈ task_search_rows engine db normalized_q status ↔
      row ∈ db.rows ∧ row.matches_query engine normalized_q = true ∧ row.matches_status status = true := by
  rw [task_search_rows, (orderBy_perm _ _).mem_iff, task_search_statement, List.mem_filter, TaskSearchRow.is_behind,
    Bool.and_true, Bool.and_eq_true]

private theorem statement_nodup (normalized_q : String) (position : Option (NaiveDatetime × String)) :
    ((task_search_statement engine db normalized_q status position).map TaskSearchRow.key).Nodup :=
  (rows_nodup db).sublist (List.filter_sublist.map _)

theorem task_search_rows_strict (normalized_q : String) : (task_search_rows engine db normalized_q status).Pairwise
    fun row other => row.key < other.key := orderBy_strict (statement_nodup _ _)

/-- The rows behind a row of the result are the rest of the result. -/
theorem statement_behind {normalized_q : String} {row : TaskSearchRow}
    (h : task_search_rows engine db normalized_q status = before ++ row :: rest) :
    orderBy TaskSearchRow.key
      (task_search_statement engine db normalized_q status (some (row.task.created_at, row.task_id))) = rest := by
  have hfilter : task_search_statement engine db normalized_q status (some (row.task.created_at, row.task_id)) =
      (task_search_statement engine db normalized_q status none).filter fun other => decide (row.key < other.key) := by
    unfold task_search_statement
    rw [List.filter_filter]
    refine List.filter_congr fun other _ => ?_
    rw [is_behind_eq, TaskSearchRow.is_behind, Bool.and_true, Bool.and_comm]
  have hstrict := @task_search_rows_strict engine db status normalized_q
  rw [hfilter, orderBy_filter (statement_nodup _ _)]
  rw [h] at hstrict
  exact (congrArg (List.filter _) h).trans (filter_behind hstrict)

/-- The position that a cursor stands for. -/
def position_of (before : List TaskSearchRow) : Option (NaiveDatetime × String) :=
  before.getLast?.map fun row => (row.task.created_at, row.task_id)

theorem statement_from {normalized_q : String}
    (h : task_search_rows engine db normalized_q status = before ++ rest) :
    orderBy TaskSearchRow.key (task_search_statement engine db normalized_q status (position_of before)) = rest := by
  cases before.eq_nil_or_concat' with
  | inl hnil =>
    subst hnil
    exact h
  | inr hconcat =>
    obtain ⟨init, row, rfl⟩ := hconcat
    rw [position_of, List.getLast?_concat, Option.map_some]
    rw [List.append_assoc, List.singleton_append] at h
    exact statement_behind h

theorem bind_position_utc (created_at : NaiveDatetime) (task_id : CodePoints) :
    bind_position (some (⟨created_at, some Timestamp.utc⟩, task_id)) =
      if task_id.all fun point => (Char.ofNat point).toNat == point then
        .ok (some (created_at, String.ofList (task_id.map Char.ofNat)))
      else .error .value_error := by
  rw [bind_position, Timestamp.as_utc_utc]

theorem bind_position_points (created_at : NaiveDatetime) (task_id : String) :
    bind_position (some (⟨created_at, some Timestamp.utc⟩, points_of task_id)) = .ok (some (created_at, task_id)) := by
  have hall : (points_of task_id).all (fun point => (Char.ofNat point).toNat == point) = true := by
    refine List.all_eq_true.mpr fun point hpoint => ?_
    obtain ⟨c, -, rfl⟩ := List.mem_map.mp hpoint
    rw [Char.ofNat_toNat, beq_self_eq_true]
  have hchars : (points_of task_id).map Char.ofNat = task_id.toList := by
    rw [points_of, List.map_map]
    exact (List.map_congr_left fun c _ => Char.ofNat_toNat c).trans (List.map_id _)
  rw [bind_position_utc, if_pos hall, hchars, String.ofList_toList]

/-- A cursor is read as the position that it was made of. -/
theorem position_read {normalized_q : String} (h : Resumes normalized_q status before cursor)
    (hnamed : ∀ row ∈ before, row.task_id ≠ "") :
    (decode_task_cursor interpreter cursor normalized_q status >>= bind_position) = .ok (position_of before) := by
  cases cursor with
  | none =>
    obtain rfl : before = [] := h
    rfl
  | some cursor =>
    obtain ⟨init, row, rfl, hencode⟩ := h
    have hid : row.task_id ≠ "" := hnamed row (List.mem_append_right _ List.mem_cons_self)
    have hpoints : points_of row.task_id ≠ [] := by
      intro hnil
      exact hid (String.toList_eq_nil_iff.mp (List.map_eq_nil_iff.mp hnil))
    have hdecode : decode_task_cursor interpreter (some cursor) normalized_q status =
        .ok (some (⟨row.task.created_at, some Timestamp.utc⟩, points_of row.task_id)) :=
      (decode_task_encode hencode _ _).trans (if_pos ⟨⟨rfl, rfl⟩, hpoints⟩)
    have hbind : ∀ found, (Except.ok found >>= bind_position) = bind_position found := fun _ => rfl
    rw [hdecode, hbind, position_of, List.getLast?_concat, Option.map_some, bind_position_points]

theorem validate_task_search_ok (hstatus : status ∈ supported_statuses) (hlimit : 1 ≤ limit ∧ limit ≤ 100) :
    validate_task_search status limit = .ok () := by
  rw [validate_task_search, if_neg (not_not_intro hstatus), if_neg (not_not_intro hlimit)]

/-- What the database takes at first it takes for every page. -/
theorem refuses_from {normalized_q : String} {position : Option (NaiveDatetime × String)}
    (h : engine.refuses db normalized_q status none = false) :
    engine.refuses db normalized_q status position = false := by
  unfold SearchEngine.refuses at h ⊢
  rw [Bool.and_eq_false_imp] at h ⊢
  intro hquery
  obtain ⟨hparameter, hpattern⟩ := Bool.or_eq_false_iff.mp (h hquery)
  refine Bool.or_eq_false_iff.mpr ⟨hparameter,
    Bool.and_eq_false_imp.mpr fun hlong => List.any_eq_false.mpr fun row hrow => ?_⟩
  have hnone := List.any_eq_false.mp (Bool.and_eq_false_imp.mp hpattern hlong) row hrow
  intro hasked
  refine hnone ?_
  rcases (Bool.or_eq_true _ _).mp hasked with hlooked | hleft
  · rw [hlooked, Bool.true_or]
  · rw [(Bool.and_eq_true_iff.mp hleft).1, TaskSearchRow.is_behind, Bool.and_true, Bool.or_true]

/-- A page holds the next rows of the result. -/
theorem search_page (hasks : engine.refuses db (normalize_query casefold q) status none = false)
    (hstatus : status ∈ supported_statuses) (hlimit : 1 ≤ limit ∧ limit ≤ 100)
    (h : task_search_rows engine db (normalize_query casefold q) status = before ++ rest)
    (hcursor : Resumes (normalize_query casefold q) status before cursor) :
    search_product_tasks casefold engine interpreter db q status cursor limit =
      (next_task_cursor (rest.take (limit.toNat + 1)) (normalize_query casefold q) status limit.toNat).map
        fun next_cursor => ⟨(rest.take limit.toNat).map _task_summary, next_cursor⟩ := by
  have hnamed : ∀ row ∈ before, row.task_id ≠ "" := fun row hrow =>
    row_named (mem_task_search_rows.mp (h ▸ List.mem_append_left _ hrow)).1
  have hread := @position_read interpreter status cursor before _ hcursor hnamed
  unfold search_product_tasks
  rw [validate_task_search_ok hstatus hlimit]
  change (decode_task_cursor interpreter cursor (normalize_query casefold q) status >>= fun position =>
    bind_position position >>= _) = _
  rw [← bind_assoc, hread]
  change (execute_search engine db _ _ _ _ >>= _) = _
  rw [execute_search, if_neg (by rw [refuses_from hasks]; exact Bool.false_ne_true)]
  change (next_task_cursor _ _ _ _ >>= _) = _
  rw [statement_from h, List.take_take, Nat.min_eq_left (Nat.le_succ _)]
  rfl

/-- All pages from a cursor on hold the rows behind it. -/
theorem search_pages_from (hasks : engine.refuses db (normalize_query casefold q) status none = false)
    (hstatus : status ∈ supported_statuses) (hlimit : 1 ≤ limit ∧ limit ≤ 100)
    (h : task_search_rows engine db (normalize_query casefold q) status = before ++ rest)
    (hcursor : Resumes (normalize_query casefold q) status before cursor) :
    SearchPages casefold engine interpreter db q status limit cursor (rest.map _task_summary) := by
  induction hlength : rest.length using Nat.strongRecOn generalizing before rest cursor with
  | _ length ih =>
    have hpage := @search_page interpreter casefold engine db q status cursor limit before rest hasks hstatus
      hlimit h hcursor
    by_cases hmore : limit.toNat < rest.length
    · obtain ⟨init, row, hconcat⟩ := (List.eq_nil_or_concat' (rest.take limit.toNat)).resolve_left fun hnil => by
        rw [List.take_eq_nil_iff] at hnil
        rcases hnil with hzero | rfl
        · omega
        · exact absurd hmore (Nat.not_lt_zero _)
      obtain ⟨next, hencode⟩ := (task_search_faithful interpreter).encodes (normalize_query casefold q, status)
        (⟨row.task.created_at, some Timestamp.utc⟩, row.task_id) _ rfl
      have hnext : next_task_cursor (rest.take (limit.toNat + 1)) (normalize_query casefold q) status limit.toNat =
          .ok (some next) := by
        rw [next_task_cursor, List.length_take, if_pos (by omega), List.take_take, Nat.min_eq_left (Nat.le_succ _),
          hconcat, List.getLast?_concat]
        exact congrArg (Except.map some) hencode
      have hsplit : task_search_rows engine db (normalize_query casefold q) status =
          (before ++ rest.take limit.toNat) ++ rest.drop limit.toNat := by
        rw [List.append_assoc, List.take_append_drop, h]
      have hresumes : Resumes (normalize_query casefold q) status (before ++ rest.take limit.toNat) (some next) :=
        ⟨before ++ init, row, by rw [hconcat, List.append_assoc], hencode⟩
      rw [hnext] at hpage
      have hrest := SearchPages.more hpage (ih _ (by rw [List.length_drop]; omega) hsplit hresumes rfl)
      rwa [← List.map_append, List.take_append_drop] at hrest
    · have hnext : next_task_cursor (rest.take (limit.toNat + 1)) (normalize_query casefold q) status limit.toNat =
          .ok none := by
        rw [next_task_cursor, List.length_take, if_neg (by omega)]
      rw [hnext, List.take_of_length_le (by omega)] at hpage
      exact .last hpage

theorem search_pages_unique {items others : List TaskSummary}
    (h : SearchPages casefold engine interpreter db q status limit cursor items)
    (hothers : SearchPages casefold engine interpreter db q status limit cursor others) : others = items := by
  induction h generalizing others with
  | last h =>
    cases hothers with
    | last h' =>
      cases h.symm.trans h'
      rfl
    | more h' _ => cases h.symm.trans h'
  | more h _ ih =>
    cases hothers with
    | last h' => cases h.symm.trans h'
    | more h' hrest =>
      cases h.symm.trans h'
      rw [ih hrest]

end Paging

section Matching

variable {engine : SearchEngine} {db : TaskSearchDb} {normalized_q status : String} {row : TaskSearchRow}

/-- The Tasks that the search is to return: those with the status that contain the query. -/
def IsLiteralMatch (engine : SearchEngine) (db : TaskSearchDb) (normalized_q status task_id : String) : Prop :=
  ∃ row ∈ db.rows, row.task_id = task_id ∧ row.matches_status status = true ∧ row.Contains engine normalized_q

/-- That a Task contains the query where the database reads its texts. -/
def TaskSearchRow.ReadsContaining (engine : SearchEngine) (row : TaskSearchRow) (normalized_q : String) : Prop :=
  ∃ text ∈ row.searched_texts engine, normalized_q.toList <:+: engine.dialect.read text.toList

/-- No text that is searched has a NUL, as no text of a PostgreSQL database has. -/
def TaskSearchDb.NulFree (engine : SearchEngine) (db : TaskSearchDb) : Prop :=
  ∀ row ∈ db.rows, ∀ text ∈ row.searched_texts engine, '\x00' ∉ text.toList

theorem matches_iff_reads (h : engine.dialect.Searchable normalized_q) :
    row.matches_query engine normalized_q = true ↔ row.ReadsContaining engine normalized_q := by
  rw [TaskSearchRow.matches_query, Bool.or_eq_true, List.any_eq_true]
  constructor
  · rintro (hempty | ⟨text, htext, hlike⟩)
    · refine ⟨engine.lower row.task_id, List.mem_cons_self, ?_⟩
      rw [String.isEmpty_iff.mp hempty]
      exact List.nil_infix
    · exact ⟨text, htext, (Dialect.is_like_iff h).mp hlike⟩
  · rintro ⟨text, htext, hwithin⟩
    exact .inr ⟨text, htext, (Dialect.is_like_iff h).mpr hwithin⟩

theorem reads_iff_contains (hclean : db.NulFree engine) (hrow : row ∈ db.rows) :
    row.ReadsContaining engine normalized_q ↔ row.Contains engine normalized_q := by
  refine exists_congr fun text => and_congr_right fun htext => ?_
  rw [Dialect.read_eq (hclean row hrow text htext)]

theorem contains_of_reads (h : row.ReadsContaining engine normalized_q) : row.Contains engine normalized_q := by
  obtain ⟨text, htext, hwithin⟩ := h
  exact ⟨text, htext, hwithin.trans (Dialect.read_prefix _).isInfix⟩

theorem asks_of_searchable (h : engine.dialect.Searchable normalized_q) :
    engine.refuses db normalized_q status none = false := by
  rw [SearchEngine.refuses, Dialect.takes_parameter h, h.fits, Bool.false_and, Bool.or_false, Bool.and_false]

private theorem row_unique {other : TaskSearchRow} (hrow : row ∈ db.rows) (hother : other ∈ db.rows)
    (h : row.task_id = other.task_id) : row = other := by
  obtain ⟨htask, hjoin⟩ := mem_rows_iff.mp hrow
  obtain ⟨htask', hjoin'⟩ := mem_rows_iff.mp hother
  rw [← h] at htask' hjoin'
  obtain heq := Option.some.inj (htask.symm.trans htask')
  rw [← heq] at hjoin'
  exact Option.some.inj (hjoin.symm.trans hjoin')

/-- The rows of the result are the literal matches when `LIKE` finds these. -/
theorem literal_rows_iff : (∀ task_id, (∃ item ∈ (task_search_rows engine db normalized_q status).map _task_summary,
      item.id = task_id) ↔ IsLiteralMatch engine db normalized_q status task_id) ↔
    ∀ row ∈ db.rows, row.matches_status status = true →
      (row.matches_query engine normalized_q = true ↔ row.Contains engine normalized_q) := by
  constructor
  · intro h row hrow hstatus
    constructor
    · intro hmatches
      have hfound := mem_task_search_rows.mpr ⟨hrow, hmatches, hstatus⟩
      obtain ⟨other, hother, hid, -, hcontains⟩ := (h row.task_id).mp ⟨_, List.mem_map_of_mem hfound, rfl⟩
      obtain rfl := row_unique hother hrow hid
      exact hcontains
    · intro hcontains
      obtain ⟨item, hitem, hid⟩ := (h row.task_id).mpr ⟨row, hrow, rfl, hstatus, hcontains⟩
      obtain ⟨other, hfound, rfl⟩ := List.mem_map.mp hitem
      obtain ⟨hother, hmatches, -⟩ := mem_task_search_rows.mp hfound
      obtain rfl := row_unique hother hrow hid
      exact hmatches
  · intro h task_id
    constructor
    · rintro ⟨item, hitem, rfl⟩
      obtain ⟨row, hfound, rfl⟩ := List.mem_map.mp hitem
      obtain ⟨hrow, hmatches, hstatus⟩ := mem_task_search_rows.mp hfound
      exact ⟨row, hrow, rfl, hstatus, (h row hrow hstatus).mp hmatches⟩
    · rintro ⟨row, hrow, rfl, hstatus, hcontains⟩
      exact ⟨_, List.mem_map_of_mem (mem_task_search_rows.mpr ⟨hrow, (h row hrow hstatus).mpr hcontains, hstatus⟩), rfl⟩

end Matching

/-- A summary that is listed later is of an older Task, or of one as old with a smaller id. -/
def TaskSummary.precedes (item later : TaskSummary) : Prop :=
  later.started_at.column < item.started_at.column ∨
    later.started_at.column = item.started_at.column ∧ later.id < item.id

section Literally

variable {interpreter : Interpreter} {casefold : String → String} {engine : SearchEngine} {q : Option String}
  {status : String} {limit : Int} {db : TaskSearchDb}

/-- The pages of the search return some Tasks, each once and the newest first. -/
def ReturnsOnce (interpreter : Interpreter) (casefold : String → String) (engine : SearchEngine) (db : TaskSearchDb)
    (q : Option String) (status : String) (limit : Int) (items : List TaskSummary) : Prop :=
  (∀ found, SearchPages casefold engine interpreter db q status limit none found ↔ found = items) ∧
    items.Pairwise TaskSummary.precedes

/-- The pages of the search return the Tasks with the status that contain the query, each once and the newest first. -/
def SearchesLiterally (interpreter : Interpreter) (casefold : String → String) (engine : SearchEngine)
    (db : TaskSearchDb) (q : Option String) (status : String) (limit : Int) : Prop :=
  ∃ items, ReturnsOnce interpreter casefold engine db q status limit items ∧
    ∀ task_id, (∃ item ∈ items, item.id = task_id) ↔
      IsLiteralMatch engine db (normalize_query casefold q) status task_id

/-- Whatever the database is asked for, its rows are returned once and in order. -/
theorem returns_once (hasks : engine.refuses db (normalize_query casefold q) status none = false)
    (hstatus : status ∈ supported_statuses) (hlimit : 1 ≤ limit ∧ limit ≤ 100) :
    ReturnsOnce interpreter casefold engine db q status limit
      ((task_search_rows engine db (normalize_query casefold q) status).map _task_summary) := by
  have hpages : SearchPages casefold engine interpreter db q status limit none _ :=
    search_pages_from hasks hstatus hlimit (List.nil_append _).symm (rfl : Resumes _ _ [] none)
  refine ⟨fun found => ⟨fun h => search_pages_unique hpages h, fun h => h ▸ hpages⟩, ?_⟩
  exact List.pairwise_map.mpr ((task_search_rows_strict _).imp fun hlt => key_lt_iff.mp hlt)

/-- A query that the database refuses has no page. -/
theorem no_pages {found : List TaskSummary}
    (hrefuses : engine.refuses db (normalize_query casefold q) status none = true)
    (hstatus : status ∈ supported_statuses) (hlimit : 1 ≤ limit ∧ limit ≤ 100) :
    ¬SearchPages casefold engine interpreter db q status limit none found := by
  have hraises : search_product_tasks casefold engine interpreter db q status none limit = .error .database_error := by
    unfold search_product_tasks
    rw [validate_task_search_ok hstatus hlimit]
    change (execute_search engine db _ _ none _ >>= _) = _
    rw [execute_search, if_pos hrefuses]
    rfl
  intro h
  cases h with
  | last h => cases hraises.symm.trans h
  | more h _ => cases hraises.symm.trans h

/-- A search is literal exactly when the database answers it and `LIKE` finds the Tasks that contain the query. -/
theorem searches_literally_iff (hstatus : status ∈ supported_statuses) (hlimit : 1 ≤ limit ∧ limit ≤ 100) :
    SearchesLiterally interpreter casefold engine db q status limit ↔
      engine.refuses db (normalize_query casefold q) status none = false ∧
        ∀ row ∈ db.rows, row.matches_status status = true →
          (row.matches_query engine (normalize_query casefold q) = true ↔
            row.Contains engine (normalize_query casefold q)) := by
  constructor
  · rintro ⟨items, hreturns, hexact⟩
    have hpages := (hreturns.1 items).mpr rfl
    have hasks : engine.refuses db (normalize_query casefold q) status none = false := by
      by_contra hrefuses
      exact no_pages (Bool.not_eq_false _ ▸ hrefuses) hstatus hlimit hpages
    obtain rfl := ((returns_once hasks hstatus hlimit).1 items).mp hpages
    exact ⟨hasks, literal_rows_iff.mp hexact⟩
  · rintro ⟨hasks, hrows⟩
    exact ⟨_, returns_once hasks hstatus hlimit, literal_rows_iff.mpr hrows⟩

theorem searches_literally_iff_reads (h : engine.dialect.Searchable (normalize_query casefold q))
    (hstatus : status ∈ supported_statuses) (hlimit : 1 ≤ limit ∧ limit ≤ 100) :
    SearchesLiterally interpreter casefold engine db q status limit ↔
      ∀ row ∈ db.rows, row.matches_status status = true → row.Contains engine (normalize_query casefold q) →
        row.ReadsContaining engine (normalize_query casefold q) := by
  rw [searches_literally_iff hstatus hlimit, and_iff_right (asks_of_searchable h)]
  refine forall₃_congr fun row _ _ => ?_
  rw [matches_iff_reads h]
  exact ⟨fun h => h.mpr, fun h => ⟨contains_of_reads, h⟩⟩

end Literally

section OneTask

variable {status : String}

/-- The only Task of a database, with its root prompt and the description of its Workflow. -/
def TaskSearchDb.single (task_id : String) (task : SearchedTask) (prompt workflow_description : String)
    (h : task_id ≠ "") : TaskSearchDb where
  tasks := Table.set ∅ task_id task
  prompts := Table.set ∅ (task_id, task.rows.task.root_assignment_id) prompt
  descriptions := Table.set ∅ (task.workflow_key, task.workflow_revision_no, task.workflow_content_hash)
    workflow_description
  named other row hrow := by
    rw [Table.get?_set] at hrow
    split at hrow
    · next heq => exact heq ▸ h
    · cases hrow
  rooted other row hrow := by
    rw [Table.get?_set] at hrow
    split at hrow
    · next heq =>
      cases hrow
      rw [Table.get?_set, if_pos (by rw [heq])]
      rfl
    · cases hrow
  pinned other row hrow := by
    rw [Table.get?_set] at hrow
    split at hrow
    · cases hrow
      rw [Table.get?_set, if_pos rfl]
      rfl
    · cases hrow

/-- A Task with its runtime rows, of a Workflow with a key. -/
def task_of (rows : TaskDb) (workflow_key : String) : SearchedTask where
  rows := rows
  created_at := ⟨⟨2026, 1, 1, by decide⟩, ⟨0, 0, 0, 0, by decide⟩⟩
  workflow_key := workflow_key
  workflow_revision_no := 1
  workflow_content_hash := "0"

theorem single_row (task_id : String) (task : SearchedTask) (prompt workflow_description : String) (h : task_id ≠ "") :
    (⟨task_id, task, prompt, workflow_description⟩ : TaskSearchRow) ∈
      (TaskSearchDb.single task_id task prompt workflow_description h).rows := by
  refine mem_rows_iff.mpr ⟨?_, ?_⟩
  · rw [TaskSearchDb.single, Table.get?_set, if_pos rfl]
  · rw [TaskSearchDb.join, TaskSearchDb.single, Table.get?_set, Table.get?_set, if_pos rfl, if_pos rfl]
    rfl

theorem mem_single_rows {task_id : String} {task : SearchedTask} {prompt workflow_description : String}
    {h : task_id ≠ ""} {row : TaskSearchRow}
    (hrow : row ∈ (TaskSearchDb.single task_id task prompt workflow_description h).rows) :
    row = ⟨task_id, task, prompt, workflow_description⟩ := by
  have hfound := single_row task_id task prompt workflow_description h
  obtain ⟨htask, -⟩ := mem_rows_iff.mp hrow
  rw [TaskSearchDb.single, Table.get?_set] at htask
  split at htask
  · next heq => exact row_unique hrow hfound heq
  · cases htask

/-- A run in which a Task gets each status that can be asked for. -/
private def moves_to : String → List Move
  | "working" => [.accept_start 1 0 0]
  | "waiting_for_you" => [.accept_start 1 0 0, .ask 1 1]
  | "paused" => [.lose_workspace]
  | "completed" => members_green ++ [.end_attempt 9 .green 5]
  | "blocked" => lead_blocked
  | "cancelled" => [{ transaction := fun _ => .cancel_task ⟨1, 0⟩ ⟨none, .control_api⟩ 3 }]
  | _ => []

/-- Some run leads to a Task that is listed under a status. -/
theorem exists_task_with (hstatus : status ∈ supported_statuses) : ∃ rows, plain_controller.runtime.Reachable rows ∧
    (status = "any" ∨ (task_product_status_expression rows).text = status) := by
  have hruns : ∀ status ∈ supported_statuses, (replay_two_managers (moves_to status)).any (fun rows =>
      status == "any" || (task_product_status_expression rows).text == status) = true := by decide +kernel
  obtain ⟨rows, hreachable, hfound⟩ := reachable_of_replay (moves_to status) (hruns status hstatus)
  exact ⟨rows, hreachable, by simpa using hfound⟩

/-- That `lower` leaves the letters of a query alone. -/
def KeepsLetters (engine : SearchEngine) (normalized_q : String) : Prop :=
  ∀ text : String, (∀ c ∈ text.toList, c ∈ normalized_q.toList ∨ c = '%' ∨ c = 'x') → engine.lower text = text

/-- The only Task of a database whose texts are of one letter but for the prompt. -/
def letter_run (rows : TaskDb) (prompt : String) : TaskSearchDb :=
  .single "x" (task_of rows "x") prompt "x" (by decide)

section Unsearchable

variable {engine : SearchEngine} {rows : TaskDb} {prompt normalized_q : String} {row : TaskSearchRow} {text : String}

private theorem letter_run_texts (hkeeps : KeepsLetters engine normalized_q)
    (hprompt : ∀ c ∈ prompt.toList, c ∈ normalized_q.toList ∨ c = '%' ∨ c = 'x')
    (hrow : row ∈ (letter_run rows prompt).rows) (htext : text ∈ row.searched_texts engine) :
    text = "x" ∨ text = prompt := by
  rw [mem_single_rows hrow, TaskSearchRow.searched_texts] at htext
  obtain ⟨original, horiginal, rfl⟩ := List.mem_map.mp htext
  have hletters : original = "x" ∨ original = prompt := by
    simp only [task_of, List.mem_cons, List.not_mem_nil, or_false] at horiginal
    rcases horiginal with h | h | h | h
    · exact .inl h
    · exact .inl h
    · exact .inr h
    · exact .inl h
  rcases hletters with rfl | rfl
  · exact .inl (hkeeps "x" (by simp))
  · exact .inr (hkeeps original hprompt)

private theorem letter_run_clean (hkeeps : KeepsLetters engine normalized_q)
    (hprompt : ∀ c ∈ prompt.toList, c ∈ normalized_q.toList ∨ c = '%' ∨ c = 'x') (hclean : '\x00' ∉ prompt.toList) :
    (letter_run rows prompt).NulFree engine := by
  intro row hrow text htext
  rcases letter_run_texts hkeeps hprompt hrow htext with rfl | rfl
  · decide
  · exact hclean

private theorem letter_run_refused (hquery : normalized_q ≠ "")
    (hlisted : status = "any" ∨ (task_product_status_expression rows).text = status)
    (h : engine.dialect.refuses_parameter (containing normalized_q) = true ∨
      engine.dialect.refuses_pattern (containing normalized_q) = true) :
    engine.refuses (letter_run rows prompt) normalized_q status none = true := by
  have hsome : ((letter_run rows prompt).rows.any fun row => engine.looks_at row ||
      row.matches_status status && row.is_behind none) = true := by
    refine List.any_eq_true.mpr ⟨_, single_row "x" (task_of rows "x") prompt "x" (by decide), ?_⟩
    have hstatus : (TaskSearchRow.mk "x" (task_of rows "x") prompt "x").matches_status status = true := by
      rw [TaskSearchRow.matches_status, Bool.or_eq_true, beq_iff_eq, beq_iff_eq]
      exact hlisted
    rw [hstatus, TaskSearchRow.is_behind, Bool.and_true, Bool.or_true]
  rw [SearchEngine.refuses, hsome, Bool.and_true, Bool.and_eq_true, Bool.or_eq_true, Bool.not_eq_true']
  exact ⟨Bool.eq_false_iff.mpr (mt String.isEmpty_iff.mp hquery), h⟩

end Unsearchable

/-- Some database is searched for something else when the query is not searchable. -/
theorem exists_unsearchable {interpreter : Interpreter} {casefold : String → String} {engine : SearchEngine}
    {q : Option String} {limit : Int} (hstatus : status ∈ supported_statuses) (hlimit : 1 ≤ limit ∧ limit ≤ 100)
    (hkeeps : KeepsLetters engine (normalize_query casefold q))
    (hsearchable : ¬engine.dialect.Searchable (normalize_query casefold q)) :
    ∃ db : TaskSearchDb, db.NulFree engine ∧ ¬SearchesLiterally interpreter casefold engine db q status limit := by
  obtain ⟨rows, -, hlisted⟩ := exists_task_with hstatus
  have hletter : ¬(normalize_query casefold q).toList <:+: "x".toList :=
    fun h => hsearchable (Dialect.Searchable.of_letter h)
  have hquery : normalize_query casefold q ≠ "" := fun h => hletter (h ▸ List.nil_infix)
  by_cases hasks : engine.dialect.refuses_parameter (containing (normalize_query casefold q)) = true ∨
      engine.dialect.refuses_pattern (containing (normalize_query casefold q)) = true
  · refine ⟨letter_run rows "", letter_run_clean hkeeps (by simp) (by simp), fun h => ?_⟩
    have hnone := ((searches_literally_iff hstatus hlimit).mp h).1
    rw [letter_run_refused hquery hlisted hasks] at hnone
    cases hnone
  · obtain ⟨hparameter, hpattern⟩ := not_or.mp hasks
    rw [Bool.not_eq_true] at hparameter hpattern
    obtain ⟨prompt, hprompt, hclean, hlike, hother⟩ := Dialect.exists_like
      (fun h => hsearchable ⟨h.1, h.2, hpattern⟩) hparameter
    have hkept : engine.lower prompt = prompt := hkeeps prompt hprompt
    refine ⟨letter_run rows prompt, letter_run_clean hkeeps hprompt hclean, fun h => ?_⟩
    have hrow := single_row "x" (task_of rows "x") prompt "x" (by decide)
    obtain ⟨text, htext, hwithin⟩ := (((searches_literally_iff hstatus hlimit).mp h).2 _ hrow (by
      rw [TaskSearchRow.matches_status, Bool.or_eq_true, beq_iff_eq, beq_iff_eq]
      exact hlisted)).mp (by
        rw [TaskSearchRow.matches_query, Bool.or_eq_true, List.any_eq_true]
        exact .inr ⟨engine.lower prompt, List.mem_map_of_mem (by simp), by rwa [hkept]⟩)
    rcases letter_run_texts hkeeps hprompt hrow htext with rfl | rfl
    · exact hletter hwithin
    · exact hother hwithin

/-- What a query is a search for: the Tasks that contain it, in every database whose texts have no NUL, exactly when the
    database can be asked for it as it stands. -/
structure LiteralSearch (interpreter : Interpreter) (casefold : String → String) (engine : SearchEngine)
    (q : Option String) (status : String) (limit : Int) : Prop where
  everywhere : KeepsLetters engine (normalize_query casefold q) →
    ((∀ db : TaskSearchDb, db.NulFree engine → SearchesLiterally interpreter casefold engine db q status limit) ↔
      engine.dialect.Searchable (normalize_query casefold q))
  /-- A Task is missed when a NUL comes before every place where a text of it has the query. -/
  searchable : engine.dialect.Searchable (normalize_query casefold q) → ∀ db : TaskSearchDb,
    (SearchesLiterally interpreter casefold engine db q status limit ↔
      ∀ row ∈ db.rows, row.matches_status status = true → row.Contains engine (normalize_query casefold q) →
        row.ReadsContaining engine (normalize_query casefold q))
  once : ∀ db : TaskSearchDb, (∃ items, ReturnsOnce interpreter casefold engine db q status limit items) ↔
    engine.refuses db (normalize_query casefold q) status none = false

theorem search_matches_literally (interpreter : Interpreter) (casefold : String → String) (engine : SearchEngine)
    (q : Option String) {status : String} {limit : Int} (hstatus : status ∈ supported_statuses)
    (hlimit : 1 ≤ limit ∧ limit ≤ 100) : LiteralSearch interpreter casefold engine q status limit where
  everywhere := by
    intro hkeeps
    constructor
    · intro h
      by_contra hsearchable
      obtain ⟨db, hclean, hnot⟩ := exists_unsearchable hstatus hlimit hkeeps hsearchable
      exact hnot (h db hclean)
    · intro hsearchable db hclean
      rw [searches_literally_iff_reads hsearchable hstatus hlimit]
      exact fun row hrow _ hcontains => (reads_iff_contains hclean hrow).mpr hcontains
  searchable hsearchable _ := searches_literally_iff_reads hsearchable hstatus hlimit
  once db := by
    refine ⟨fun ⟨items, hreturns⟩ => ?_, fun hasks => ⟨_, returns_once hasks hstatus hlimit⟩⟩
    by_contra hrefuses
    exact no_pages (Bool.not_eq_false _ ▸ hrefuses) hstatus hlimit ((hreturns.1 items).mpr rfl)

/-- SQLite, with its `lower` of ASCII letters. -/
def sqlite_engine : SearchEngine where
  dialect := .sqlite
  lower := String.toLower
  looks_at _ := true

/-- SQLite leaves a case-folded query alone. -/
theorem sqlite_keeps_letters {normalized_q : String} (h : normalized_q.toList.map Char.toLower = normalized_q.toList) :
    KeepsLetters sqlite_engine normalized_q := by
  have hkept : ∀ c ∈ normalized_q.toList, c.toLower = c := List.map_eq_map_iff.mp (h.trans (List.map_id _).symm)
  intro text htext
  refine String.toList_inj.mp ?_
  change (text.map Char.toLower).toList = text.toList
  rw [String.toList_map]
  refine (List.map_congr_left fun c hc => ?_).trans (List.map_id _)
  rcases htext c hc with hc | rfl | rfl
  · exact hkept c hc
  · rfl
  · rfl

/-- A query without wildcards is searched for as it stands in every database, and one of an underscore is not. -/
theorem search_matches_literally_tests :
    (∀ db : TaskSearchDb, db.NulFree sqlite_engine →
      SearchesLiterally standard_interpreter String.toLower sqlite_engine db (some " Tests ") "paused" 50) ∧
    ∃ db : TaskSearchDb, db.NulFree sqlite_engine ∧
      ¬SearchesLiterally standard_interpreter String.toLower sqlite_engine db (some "_") "paused" 50 := by
  have hquery : normalize_query String.toLower (some " Tests ") = "tests" := by decide +kernel
  have hwild : normalize_query String.toLower (some "_") = "_" := by decide +kernel
  have htests : LiteralSearch standard_interpreter String.toLower sqlite_engine (some " Tests ") "paused" 50 :=
    search_matches_literally _ _ _ _ (by decide) (by decide)
  have hone : LiteralSearch standard_interpreter String.toLower sqlite_engine (some "_") "paused" 50 :=
    search_matches_literally _ _ _ _ (by decide) (by decide)
  have htests := htests.everywhere
  have hone := hone.everywhere
  rw [hquery] at htests
  rw [hwild] at hone
  constructor
  · exact (htests (sqlite_keeps_letters (by decide))).mpr ⟨⟨by decide, by decide, nofun⟩, by decide, by decide⟩
  · by_contra hnone
    have hsearchable := (hone (sqlite_keeps_letters (by decide))).mp fun db hclean => by
      by_contra hnot
      exact hnone ⟨db, hclean, hnot⟩
    exact hsearchable.plain.2.1 (by decide)

/-- An underscore is in no text of the Task, and finds it all the same. -/
theorem search_finds_wildcards : ¬∀ (interpreter : Interpreter) (casefold : String → String) (engine : SearchEngine)
    (db : TaskSearchDb) (q : Option String) (status : String) (limit : Int), status ∈ supported_statuses →
    1 ≤ limit ∧ limit ≤ 100 → SearchesLiterally interpreter casefold engine db q status limit := by
  intro h
  have hliteral := h standard_interpreter String.toLower sqlite_engine
    (.single "task-1" (task_of (replayed [] replay_start) "team") "Run the tests" "A team" (by decide)) (some "_") "any"
    50 (by decide) (by decide)
  have hquery : normalize_query String.toLower (some "_") = "_" := by decide +kernel
  have hrow := single_row "task-1" (task_of (replayed [] replay_start) "team") "Run the tests" "A team" (by decide)
  have hcontains := (((searches_literally_iff (by decide) (by decide)).mp hliteral).2 _ hrow rfl).mp (by
    rw [hquery]
    decide +kernel)
  rw [hquery] at hcontains
  revert hcontains
  unfold TaskSearchRow.Contains TaskSearchRow.searched_texts
  decide +kernel

end OneTask

end OhMySubagents

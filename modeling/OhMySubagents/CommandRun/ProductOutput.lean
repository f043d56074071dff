import OhMySubagents.CommandRun.OutputReading
import OhMySubagents.CommandRun.OutputSanitizer
import OhMySubagents.Cursors.PageCursors

open Json

namespace OhMySubagents

open Cursors

def MAX_PRODUCT_OUTPUT_BYTES : Int := 65536

structure CommandRunOutputPage where
  command_id : String
  content : CodePoints
  next_cursor : Option CodePoints
  is_output_complete : Bool
  is_missing : Bool
  is_changed : Bool
  is_bounded : Bool
  deriving DecidableEq

/-- What the read of the log raises. -/
def CommandRunLogError.raised (task_id command_id : String) : CommandRunLogError → Raised
  | .byte_limit_out_of_range => .value_error
  | .unknown_command_run => .operation
    (missing_resource_error ("unknown command run '" ++ command_id ++ "' for task '" ++ task_id ++ "'"))

def next_output_cursor (next_offset : Option Nat) (sanitizer_state : SanitizerState) :
    Except Raised (Option CodePoints) :=
  match next_offset with
  | none => .ok none
  | some offset => some <$> encode_output_cursor offset sanitizer_state

def command_run_output_page (command_id : String) (offset : Int) (output : CommandRunLogReadResponse)
    (content : CodePoints) (next_cursor : Option CodePoints) : CommandRunOutputPage where
  command_id
  content
  next_cursor
  is_output_complete := output.output_complete && output.next_offset.isNone
  is_missing := output.is_missing
  is_changed := output.is_changed
  is_bounded := decide (0 < offset) || output.next_offset.isSome ||
    output.file_size.any fun file_size => output.bytes_read < file_size

/-- A page of the output of a command run, whose log is some file of the workspace. -/
def read_product_command_output (interpreter : Interpreter) (source : Option CommandRunLogSource)
    (file : WorkspaceFile) (task_id command_id : String) (cursor : Option CodePoints) (limit : Int) :
    Except Raised CommandRunOutputPage :=
  if ¬(1 ≤ limit ∧ limit ≤ MAX_PRODUCT_OUTPUT_BYTES) then
    .error (.operation (invalid_output_request "Output limit must be between 1 and 65536 bytes."))
  else do
    let (offset, sanitizer_state) ← decode_output_cursor interpreter cursor
    let output ← (read_command_run_log source file offset.toNat limit.toNat true).mapError
      (CommandRunLogError.raised task_id command_id)
    let (content, next_sanitizer_state) :=
      sanitize_command_output_chunk (output.content.map Char.toNat) sanitizer_state
    let next_cursor ← next_output_cursor output.next_offset next_sanitizer_state
    return command_run_output_page command_id offset output content next_cursor

/-- The pages from a cursor on, each read with a limit of its own. -/
inductive OutputPages (interpreter : Interpreter) (source : Option CommandRunLogSource) (file : WorkspaceFile)
    (task_id command_id : String) (limits : Nat → Int) :
    Nat → Option CodePoints → List CommandRunOutputPage → Prop
  | last {index : Nat} {cursor : Option CodePoints} {page : CommandRunOutputPage}
      (h : read_product_command_output interpreter source file task_id command_id cursor (limits index) = .ok page)
      (hlast : page.next_cursor = none) :
      OutputPages interpreter source file task_id command_id limits index cursor [page]
  | more {index : Nat} {cursor : Option CodePoints} {page : CommandRunOutputPage} {next : CodePoints}
      {pages : List CommandRunOutputPage}
      (h : read_product_command_output interpreter source file task_id command_id cursor (limits index) = .ok page)
      (hnext : page.next_cursor = some next)
      (hpages : OutputPages interpreter source file task_id command_id limits (index + 1) (some next) pages) :
      OutputPages interpreter source file task_id command_id limits index cursor (page :: pages)

/-- A size that the interpreter writes as a decimal. -/
def IsWritableSize (size : Nat) : Prop := size < 10 ^ int_max_str_digits

section Pages

variable {interpreter : Interpreter} {source : CommandRunLogSource} {file : List UInt8} {task_id command_id : String}
  {limits : Nat → Int} {cursor : Option CodePoints} {limit : Int} {offset : Nat} {state : SanitizerState}

/-- The sanitized text behind an offset. -/
def sanitized_from (file : List UInt8) (offset : Nat) (state : SanitizerState) : CodePoints :=
  (sanitize_command_output_chunk ((Utf8.decode (file.drop offset)).map Char.toNat) state).1

/-- Offsets into a file that the interpreter can write are read back. -/
theorem next_output_cursor_read (interpreter : Interpreter) {next : Nat} (hnext : IsWritableSize next)
    (state : SanitizerState) : ∃ cursor, next_output_cursor (some next) state = .ok (some cursor) ∧
      decode_output_cursor interpreter (some cursor) = .ok ((next : Int), state) := by
  have hwritable : writable_int (next : Int) = some (next : Int) := by
    unfold writable_int
    rw [if_pos (by rwa [Int.natAbs_natCast])]
  have hheld : (command_output interpreter).held ((next : Int), state) = some ((next : Int), state) :=
    congrArg (Option.map _) hwritable
  obtain ⟨cursor, hencode⟩ := (command_output_faithful interpreter).encodes () _ _ hheld
  refine ⟨cursor, ?_, (command_output_faithful interpreter).reads_back () _ _ _ hheld (Int.natCast_nonneg next) hencode⟩
  have hwritten : encode_output_cursor (next : Int) state = .ok cursor := hencode
  rw [next_output_cursor, hwritten]
  rfl

/-- A read from inside the file gives the sanitized text of its page, and a cursor behind it when text is left. -/
theorem read_product_command_output_page (hlimit : 1 ≤ limit ∧ limit ≤ MAX_PRODUCT_OUTPUT_BYTES)
    (hsize : IsWritableSize file.length) (hoffset : offset ≤ file.length)
    (hcursor : decode_output_cursor interpreter cursor = .ok ((offset : Int), state)) :
    ∃ page, read_product_command_output interpreter (some source) (.regular file) task_id command_id cursor limit =
        .ok page ∧
      ((page.next_cursor = none ∧ page.content = sanitized_from file offset state) ∨
        ∃ next next_offset next_state, page.next_cursor = some next ∧
          decode_output_cursor interpreter (some next) = .ok (((next_offset : Nat) : Int), next_state) ∧
          offset < next_offset ∧ next_offset ≤ file.length ∧
          sanitized_from file offset state = page.content ++ sanitized_from file next_offset next_state) := by
  have hlimits : 1 ≤ limit.toNat ∧ limit.toNat ≤ MAX_COMMAND_LOG_READ_BYTES := by
    unfold MAX_PRODUCT_OUTPUT_BYTES at hlimit
    unfold MAX_COMMAND_LOG_READ_BYTES
    omega
  have hspec := @command_log_response_spec source file offset limit.toNat hoffset hlimits.1
  have hread : read_product_command_output interpreter (some source) (.regular file) task_id command_id cursor limit =
      (next_output_cursor (command_log_response source file offset limit.toNat true).next_offset
        (sanitize_command_output_chunk
          ((command_log_response source file offset limit.toNat true).content.map Char.toNat) state).2).map
        (command_run_output_page command_id offset (command_log_response source file offset limit.toNat true)
          (sanitize_command_output_chunk
            ((command_log_response source file offset limit.toNat true).content.map Char.toNat) state).1) := by
    unfold read_product_command_output
    rw [if_neg (not_not_intro hlimit), hcursor]
    change ((read_command_run_log (some source) (.regular file) offset limit.toNat true).mapError _ >>= _) = _
    rw [read_command_run_log_page hlimits.1 hlimits.2]
    rfl
  have htext : sanitized_from file offset state = (sanitize_command_output_chunk
      ((command_log_response source file offset limit.toNat true).content.map Char.toNat) state).1 ++
        sanitized_from file (offset + (command_log_response source file offset limit.toNat true).bytes_read)
          (sanitize_command_output_chunk
            ((command_log_response source file offset limit.toNat true).content.map Char.toNat) state).2 := by
    rw [sanitized_from, hspec.text, List.map_append, sanitize_append]
    rfl
  cases hnext : (command_log_response source file offset limit.toNat true).next_offset with
  | none =>
    rw [hnext] at hread
    have hend : file.drop (offset + (command_log_response source file offset limit.toNat true).bytes_read) = [] := by
      have hnone := hspec.next_offset
      rw [hnext] at hnone
      split at hnone
      · cases hnone
      · next hle => exact List.drop_eq_nil_iff.mpr (Nat.le_of_not_lt hle)
    refine ⟨_, hread, .inl ⟨rfl, ?_⟩⟩
    rw [htext, sanitized_from, hend]
    exact (List.append_nil _).symm
  | some next_offset =>
    have hsome := hspec.next_offset
    rw [hnext] at hsome
    split at hsome
    · next hlt =>
      obtain rfl := Option.some.inj hsome
      obtain ⟨next, hencode, hdecode⟩ := next_output_cursor_read interpreter (Nat.lt_trans hlt hsize)
        (sanitize_command_output_chunk
          ((command_log_response source file offset limit.toNat true).content.map Char.toNat) state).2
      rw [hnext, hencode] at hread
      have hpos := hspec.advances (by omega)
      exact ⟨_, hread, .inr ⟨next, _, _, rfl, hdecode, by omega, by omega, htext⟩⟩
    · cases hsome

/-- The pages from a cursor on end, and make up the sanitized text behind it. -/
theorem output_pages_from (hlimits : ∀ k, 1 ≤ limits k ∧ limits k ≤ MAX_PRODUCT_OUTPUT_BYTES)
    (hsize : IsWritableSize file.length) {index : Nat} (hoffset : offset ≤ file.length)
    (hcursor : decode_output_cursor interpreter cursor = .ok ((offset : Int), state)) :
    (∃ pages, OutputPages interpreter (some source) (.regular file) task_id command_id limits index cursor pages) ∧
      ∀ pages, OutputPages interpreter (some source) (.regular file) task_id command_id limits index cursor pages →
        pages.flatMap (·.content) = sanitized_from file offset state := by
  induction hleft : file.length - offset using Nat.strongRecOn generalizing index offset cursor state with
  | _ left ih =>
    obtain ⟨page, hread, hpage⟩ := @read_product_command_output_page interpreter source file task_id command_id cursor
      (limits index) offset state (hlimits index) hsize hoffset hcursor
    rcases hpage with ⟨hlast, htext⟩ | ⟨next, next_offset, next_state, hnext, hdecode, hlt, hle, htext⟩
    · refine ⟨⟨[page], .last hread hlast⟩, fun pages hpages => ?_⟩
      cases hpages with
      | last hother _ =>
        cases hread.symm.trans hother
        rw [List.flatMap_singleton, htext]
      | more hother hnext _ =>
        cases hread.symm.trans hother
        rw [hlast] at hnext
        cases hnext
    · obtain ⟨⟨rest, hrest⟩, hall⟩ := ih (file.length - next_offset) (by omega) hle hdecode rfl
      refine ⟨⟨page :: rest, .more hread hnext hrest⟩, fun pages hpages => ?_⟩
      cases hpages with
      | last hother hlast =>
        cases hread.symm.trans hother
        rw [hlast] at hnext
        cases hnext
      | more hother hnext' hpages =>
        cases hread.symm.trans hother
        obtain rfl := Option.some.inj (hnext.symm.trans hnext')
        rw [List.flatMap_cons, hall _ hpages, htext]

end Pages

/-- What the sanitizer leaves holds no control, and is left as it is; of complete sequences and text it leaves the text
    that may be shown; and the pages of a log make up its sanitized text. -/
theorem sanitized_command_output (content : CodePoints) (state : SanitizerState) {segments : List Segment}
    (hsegments : ∀ segment ∈ segments, segment.WellFormed) (interpreter : Interpreter) (source : CommandRunLogSource)
    {file : List UInt8} (hsize : IsWritableSize file.length) (task_id command_id : String)
    {limits : Nat → Int} (hlimits : ∀ k, 1 ≤ limits k ∧ limits k ≤ MAX_PRODUCT_OUTPUT_BYTES) :
    (∀ character ∈ (sanitize_command_output_chunk content state).1, is_introducer character = false ∧
        is_control character = false ∧ is_bidi_or_spoofing_control character = false) ∧
      (sanitize_command_output_chunk (sanitize_command_output_chunk content state).1 .normal).1 =
        (sanitize_command_output_chunk content state).1 ∧
      (sanitize_command_output_chunk (segments.flatMap Segment.characters) .normal).1 =
        segments.flatMap Segment.shown ∧
      (∃ pages, OutputPages interpreter (some source) (.regular file) task_id command_id limits 0 none pages) ∧
      ∀ pages, OutputPages interpreter (some source) (.regular file) task_id command_id limits 0 none pages →
        pages.flatMap (·.content) =
          (sanitize_command_output_chunk ((Utf8.decode file).map Char.toNat) .normal).1 := by
  have hshown : ∀ character ∈ (sanitize_command_output_chunk content state).1, is_shown character = true :=
    fun _ hmem => sanitized_is_shown hmem
  refine ⟨fun character hmem => ?_, by rw [sanitize_shown hshown], by rw [sanitize_segments hsegments],
    output_pages_from hlimits hsize (Nat.zero_le _) rfl⟩
  have h := hshown character hmem
  rw [is_shown, Bool.and_eq_true, Bool.and_eq_true, Bool.not_eq_true', Bool.not_eq_true', Bool.not_eq_true'] at h
  exact ⟨h.1.1, h.1.2, h.2⟩

/-- A colour, a word and a title. -/
def coloured_word : List Segment :=
  [.csi .seven_bit [0x33, 0x31] [] 0x6D, .text [0x6F, 0x6B, 0x0A], .osc .eight_bit [0x30] .bell]

/-- A coloured word, and a log of one sequence that is read one byte at a time. -/
theorem sanitized_command_output_coloured :
    (sanitize_command_output_chunk (coloured_word.flatMap Segment.characters) .normal).1 = [0x6F, 0x6B, 0x0A] ∧
      ∀ pages, OutputPages standard_interpreter (some ⟨"run.log", .succeeded, 4, true⟩)
          (.regular [0x1B, 0x5B, 0x6D, 0x61]) "task-1" "run-1" (fun _ => 1) 0 none pages →
        pages.flatMap (·.content) = [0x61] := by
  have hword : ∀ segment ∈ coloured_word, segment.WellFormed :=
    List.forall_mem_cons.mpr ⟨⟨by decide, by decide, by decide⟩, List.forall_mem_cons.mpr
      ⟨show ∀ character ∈ [0x6F, 0x6B, 0x0A], is_introducer character = false by decide, List.forall_mem_singleton.mpr
        ⟨⟨by decide, by decide, by decide⟩, by decide⟩⟩⟩
  have hsize : IsWritableSize ([0x1B, 0x5B, 0x6D, 0x61] : List UInt8).length :=
    Nat.lt_of_lt_of_le (show 4 < 10 by decide) (Nat.le_self_pow (by decide) 10)
  obtain ⟨-, -, hshown, -, hpages⟩ := sanitized_command_output [] .normal hword standard_interpreter
    ⟨"run.log", .succeeded, 4, true⟩ hsize "task-1" "run-1" (fun _ => ⟨le_refl 1, by decide⟩)
  exact ⟨hshown, hpages⟩

end OhMySubagents

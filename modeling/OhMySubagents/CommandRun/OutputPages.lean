import OhMySubagents.Lanes.Abstraction
import OhMySubagents.Utf8.Decoding

namespace OhMySubagents

/-- `_MAX_COMMAND_LOG_READ_BYTES`. -/
def MAX_COMMAND_LOG_READ_BYTES : Nat := 1048576

/-- What a log read needs of its command run. -/
structure CommandRunLogSource where
  output_path : String
  state : CommandRunState
  output_written_bytes : Nat
  output_complete : Bool
  deriving DecidableEq, Repr

/-- What the workspace shows under the output path: the bytes of a regular file, nothing, or something unreadable. -/
inductive WorkspaceFile
  | regular (bytes : List UInt8)
  | missing
  | unreadable
  deriving DecidableEq, Repr

structure CommandRunLogReadResponse where
  output_path : String
  content : List Char
  offset : Nat
  bytes_read : Nat
  next_offset : Option Nat
  file_size : Option Nat
  is_missing : Bool
  is_changed : Bool
  output_complete : Bool
  deriving DecidableEq, Repr

/-- `ValueError` of a byte limit out of range, and the error of an unknown run. -/
inductive CommandRunLogError
  | byte_limit_out_of_range
  | unknown_command_run
  deriving DecidableEq, Repr

/-- `WorkspaceFileRead`. -/
structure WorkspaceFileRead where
  payload : List UInt8
  file_size : Nat
  next_offset : Option Nat
  deriving DecidableEq, Repr

/-- Read one bounded current byte range. -/
def read_workspace_regular_file_range (file : List UInt8) (offset byte_limit : Nat) : WorkspaceFileRead :=
  let selected_offset := min offset file.length
  let payload := (file.drop selected_offset).take byte_limit
  let end_offset := selected_offset + payload.length
  { payload := payload
    file_size := file.length
    next_offset := if end_offset < file.length then some end_offset else none }

/-- The loop of `_decode_utf8_page` over what is left of the payload: one more byte at a time until something is
    consumed. The result is the text, what the decoder keeps back, and how many bytes it was given. -/
def widen_page (is_end_of_file : Bool) : List UInt8 → List Char → List UInt8 → Nat → List Char × List UInt8 × Nat
  | [], content, buffered, stop => (content, buffered, stop)
  | byte :: following, content, buffered, stop =>
    if stop - buffered.length ≠ 0 then (content, buffered, stop)
    else
      let (more, buffered) := Utf8.decode_from (is_end_of_file && following.isEmpty) 0 (buffered ++ [byte])
      widen_page is_end_of_file following (content ++ more) buffered (stop + 1)

/-- Decode a page without advancing a generated cursor into a UTF-8 sequence. -/
def decode_utf8_page (payload : List UInt8) (byte_limit : Nat) (is_end_of_file : Bool) : List Char × Nat :=
  let target := min byte_limit payload.length
  if target = 0 then ([], 0)
  else
    let (content, buffered) :=
      Utf8.decode_from (is_end_of_file && target == payload.length) 0 (payload.take target)
    let (content, buffered, stop) := widen_page is_end_of_file (payload.drop target) content buffered target
    if stop - buffered.length = 0 && is_end_of_file then (content ++ Utf8.decode buffered, stop)
    else (content, stop - buffered.length)

def unavailable_command_log_response (source : CommandRunLogSource) (offset : Nat) (is_missing : Bool) :
    CommandRunLogReadResponse where
  output_path := source.output_path
  content := []
  offset := offset
  bytes_read := 0
  next_offset := none
  file_size := none
  is_missing := is_missing
  is_changed := !is_missing
  output_complete := source.output_complete

/-- The response to a read of a regular file. -/
def command_log_response (source : CommandRunLogSource) (file : List UInt8) (offset byte_limit : Nat)
    (should_preserve_utf8_boundaries : Bool) : CommandRunLogReadResponse :=
  let current := read_workspace_regular_file_range file offset
    (if should_preserve_utf8_boundaries then byte_limit + 3 else byte_limit)
  let actual_offset := min offset current.file_size
  let (content, bytes_read, next_offset) :=
    if should_preserve_utf8_boundaries then
      let (content, bytes_read) := decode_utf8_page current.payload byte_limit
        (decide (current.file_size ≤ actual_offset + current.payload.length))
      (content, bytes_read,
        if actual_offset + bytes_read < current.file_size then some (actual_offset + bytes_read) else none)
    else (Utf8.decode current.payload, current.payload.length, current.next_offset)
  { output_path := source.output_path
    content := content
    offset := actual_offset
    bytes_read := bytes_read
    next_offset := next_offset
    file_size := some current.file_size
    is_missing := false
    is_changed := source.state.is_terminal && current.file_size != source.output_written_bytes
    output_complete := source.output_complete }

def read_command_run_log (source : Option CommandRunLogSource) (file : WorkspaceFile) (offset byte_limit : Nat)
    (should_preserve_utf8_boundaries : Bool) : Except CommandRunLogError CommandRunLogReadResponse :=
  if ¬ (1 ≤ byte_limit ∧ byte_limit ≤ MAX_COMMAND_LOG_READ_BYTES) then .error .byte_limit_out_of_range
  else
    match source with
    | none => .error .unknown_command_run
    | some source =>
      match file with
      | .missing => .ok (unavailable_command_log_response source offset true)
      | .unreadable => .ok (unavailable_command_log_response source offset false)
      | .regular bytes => .ok (command_log_response source bytes offset byte_limit should_preserve_utf8_boundaries)

/-- How far a page has been read: what the decoder gave and keeps back stands for the first bytes of the payload,
    whatever comes behind them. Nothing comes behind the end of the file. -/
structure PageRead (payload : List UInt8) (is_end_of_file : Bool) (content : List Char) (buffered : List UInt8)
    (stop : Nat) : Prop where
  stop_le : stop ≤ payload.length
  suffix : buffered <:+ payload.take stop
  short : buffered.length ≤ 3
  ended : is_end_of_file = true → stop = payload.length → buffered = []
  text : ∀ more, (is_end_of_file = true → stop = payload.length → more = []) →
    Utf8.decode (payload.take stop ++ more) = content ++ Utf8.decode (buffered ++ more)

variable {payload buffered : List UInt8} {is_end_of_file : Bool} {content : List Char} {stop byte_limit : Nat}

/-- What one call of the decoder adds. -/
theorem decode_chunk {bytes kept : List UInt8} {text : List Char} {final : Bool}
    (h : Utf8.decode_from final 0 bytes = (text, kept)) (more : List UInt8) (hmore : final = true → more = []) :
    Utf8.decode (bytes ++ more) = text ++ Utf8.decode (kept ++ more) := by
  cases final with
  | true =>
    obtain rfl := hmore rfl
    obtain ⟨-, -, hkept⟩ := Utf8.decode_from_kept (Nat.zero_le _) h
    obtain rfl := hkept rfl
    simp [Utf8.decode, h, Utf8.decode_from]
  | false =>
    unfold Utf8.decode
    rw [Utf8.decode_from_append (Nat.zero_le _) h]

theorem PageRead.first (hstop : stop ≤ payload.length)
    (h : Utf8.decode_from (is_end_of_file && stop == payload.length) 0 (payload.take stop) = (content, buffered)) :
    PageRead payload is_end_of_file content buffered stop := by
  obtain ⟨hsuffix, hshort, hended⟩ := Utf8.decode_from_kept (Nat.zero_le _) h
  refine ⟨hstop, hsuffix, hshort, fun hend hlast => hended (by simp [hend, hlast]), fun more hmore => ?_⟩
  refine decode_chunk h more fun hfinal => ?_
  rw [Bool.and_eq_true, beq_iff_eq] at hfinal
  exact hmore hfinal.1 hfinal.2

/-- One more byte. -/
theorem PageRead.next {byte : UInt8} {following kept : List UInt8} {more_text : List Char}
    (h : PageRead payload is_end_of_file content buffered stop) (hdrop : payload.drop stop = byte :: following)
    (hdecode : Utf8.decode_from (is_end_of_file && following.isEmpty) 0 (buffered ++ [byte]) = (more_text, kept)) :
    PageRead payload is_end_of_file (content ++ more_text) kept (stop + 1) := by
  have hlength : payload.length - stop = following.length + 1 := by
    rw [← List.length_drop, hdrop, List.length_cons]
  have htake : payload.take (stop + 1) = payload.take stop ++ [byte] := by
    rw [List.take_add, hdrop, List.take_succ_cons, List.take_zero]
  have hlast : stop + 1 = payload.length → following = [] := fun heq => List.length_eq_zero_iff.mp (by omega)
  obtain ⟨hsuffix, hshort, hended⟩ := Utf8.decode_from_kept (Nat.zero_le _) hdecode
  refine ⟨by omega, ?_, hshort, fun hend heq => hended (by simp [hend, hlast heq]), fun more hmore => ?_⟩
  · rw [htake]
    obtain ⟨front, hfront⟩ := h.suffix
    exact hsuffix.trans ⟨front, by rw [← hfront, List.append_assoc]⟩
  · rw [htake, List.append_assoc, h.text _ (fun _ heq => by omega), ← List.append_assoc, decode_chunk hdecode more,
      List.append_assoc]
    intro hfinal
    rw [Bool.and_eq_true, List.isEmpty_iff] at hfinal
    refine hmore hfinal.1 ?_
    rw [hfinal.2, List.length_nil] at hlength
    omega

/-- The loop ends with something consumed or with the whole payload read. -/
theorem widen_page_read {following : List UInt8} (h : PageRead payload is_end_of_file content buffered stop)
    (hdrop : payload.drop stop = following) {content' : List Char} {buffered' : List UInt8} {stop' : Nat}
    (hwiden : widen_page is_end_of_file following content buffered stop = (content', buffered', stop')) :
    PageRead payload is_end_of_file content' buffered' stop' ∧ stop ≤ stop' ∧
      (stop' - buffered'.length ≠ 0 ∨ stop' = payload.length) := by
  induction following generalizing content buffered stop with
  | nil =>
    have hlength : payload.length ≤ stop := List.drop_eq_nil_iff.mp hdrop
    cases hwiden
    exact ⟨h, Nat.le_refl _, .inr (Nat.le_antisymm h.stop_le hlength)⟩
  | cons byte following ih =>
    rw [widen_page] at hwiden
    split at hwiden
    · next hconsumed =>
      cases hwiden
      exact ⟨h, Nat.le_refl _, .inl hconsumed⟩
    · have hnext := h.next hdrop rfl
      have hdrop' : payload.drop (stop + 1) = following := by
        rw [← List.drop_drop, hdrop, List.drop_one, List.tail_cons]
      obtain ⟨hread, hle, hdone⟩ := ih hnext hdrop' hwiden
      exact ⟨hread, Nat.le_of_succ_le hle, hdone⟩

/-- A page of a payload that is long enough, or the last one, consumes something, and its text is that of what it
    consumes, wherever the rest of the file goes on. -/
theorem decode_utf8_page_spec (hpayload : payload ≠ []) (hlimit : 1 ≤ byte_limit)
    (hroom : is_end_of_file = true ∨ 4 ≤ payload.length) {consumed : Nat}
    (h : decode_utf8_page payload byte_limit is_end_of_file = (content, consumed)) :
    1 ≤ consumed ∧ consumed ≤ payload.length ∧ ∀ more, (is_end_of_file = true → more = []) →
      Utf8.decode (payload ++ more) = content ++ Utf8.decode (payload.drop consumed ++ more) := by
  have hlength : 0 < payload.length := List.length_pos_iff.mpr hpayload
  unfold decode_utf8_page at h
  dsimp only at h
  rw [if_neg (by omega)] at h
  generalize hdecode : Utf8.decode_from (is_end_of_file && min byte_limit payload.length == payload.length) 0
    (payload.take (min byte_limit payload.length)) = decoded at h
  obtain ⟨first, kept⟩ := decoded
  have hfirst := PageRead.first (Nat.min_le_right byte_limit payload.length) hdecode
  generalize hwiden : widen_page is_end_of_file (payload.drop (min byte_limit payload.length)) first kept
    (min byte_limit payload.length) = widened at h
  obtain ⟨text, buffered, stop⟩ := widened
  obtain ⟨hread, hle, hdone⟩ := widen_page_read hfirst rfl hwiden
  have hstop : 0 < stop := Nat.lt_of_lt_of_le (by omega) hle
  have hconsumed : stop - buffered.length ≠ 0 := by
    rcases hdone with hconsumed | hall
    · exact hconsumed
    · rcases hroom with hend | hroom
      · rw [hread.ended hend hall]
        exact Nat.ne_of_gt hstop
      · have hshort := hread.short
        omega
  rw [if_neg (by simp [hconsumed])] at h
  cases h
  obtain ⟨done, hdone⟩ := hread.suffix
  have hdone_length : done.length = stop - buffered.length := by
    have hlengths := congrArg List.length hdone
    rw [List.length_append, List.length_take, Nat.min_eq_left hread.stop_le] at hlengths
    omega
  refine ⟨Nat.one_le_iff_ne_zero.mpr hconsumed, Nat.le_trans (Nat.sub_le _ _) hread.stop_le, fun more hmore => ?_⟩
  have hsplit : payload = done ++ (buffered ++ payload.drop stop) := by
    rw [← List.append_assoc, hdone, List.take_append_drop]
  have hdrop : payload.drop (stop - buffered.length) = buffered ++ payload.drop stop := by
    rw [← hdone_length]
    conv_lhs => rw [hsplit]
    rw [List.drop_left]
  have htext := hread.text (payload.drop stop ++ more) fun hend hall => by
    rw [hmore hend, hall, List.drop_length, List.append_nil]
  rw [hdrop, List.append_assoc, ← htext, ← List.append_assoc, List.take_append_drop]

end OhMySubagents

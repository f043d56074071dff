import OhMySubagents.Errors
import OhMySubagents.Text.Lines
import OhMySubagents.Text.ShellWords

open Text

namespace OhMySubagents.ProviderEnvironment

def ANTHROPIC_API_KEY : String := "ANTHROPIC_API_KEY"

def PROVIDER_SECRET_ENVIRONMENT_KEYS : List String := [ANTHROPIC_API_KEY]

def _RETIRED_PROVIDER_SECRET_ENVIRONMENT_KEYS : List String :=
  ["OPENCLAW_GATEWAY_PASSWORD", "OPENCLAW_GATEWAY_TOKEN"]

/-- A plain `ValueError`, or the `ProviderEnvironmentError` that the callers report. -/
inductive SecretError
  | value_error (message : String)
  | provider_environment_error (message : String)
  deriving DecidableEq, Repr

def is_upper (c : Char) : Bool := 'A' ≤ c && c ≤ 'Z'

def is_key_character (c : Char) : Bool := is_upper c || c.isDigit || c == '_'

/-- `_ASSIGNMENT_PATTERN.fullmatch`, with the two groups. -/
def match_assignment : List Char → Option (List Char × List Char)
  | [] => none
  | c :: text =>
    if is_upper c then
      match text.dropWhile is_key_character with
      | '=' :: value => if '\n' ∈ value then none else some (c :: text.takeWhile is_key_character, value)
      | _ => none
    else none

def invalid_assignment (key : String) : SecretError :=
  .provider_environment_error ("private provider environment contains an invalid " ++ key ++ " assignment")

/-- The value of a supported assignment, from the words that the shell makes of its line. -/
def read_secret_value (key : String) (words : Option (List (List Char))) : Except SecretError (List Char) :=
  match words with
  | some [word] =>
    if '=' ∈ word then
      let value := (word.dropWhile (· != '=')).tail
      if value.isEmpty then
        .error (.provider_environment_error ("private provider environment contains an empty " ++ key ++ " assignment"))
      else .ok value
    else .error (invalid_assignment key)
  | _ => .error (invalid_assignment key)

/-- What one line adds to the secrets, if it adds anything. -/
def read_environment_line (line : List Char) : Except SecretError (Option (String × List Char)) :=
  let stripped := strip line
  if stripped.isEmpty || stripped.head? == some '#' then .ok none
  else
    match match_assignment stripped with
    | none => .error (.provider_environment_error "private provider environment contains an invalid assignment")
    | some (name, _) =>
      let key := String.ofList name
      if key ∈ _RETIRED_PROVIDER_SECRET_ENVIRONMENT_KEYS then .ok none
      else if key ∉ PROVIDER_SECRET_ENVIRONMENT_KEYS then
        .error (.provider_environment_error ("private provider environment does not support " ++ key))
      else do
        let value ← read_secret_value key (shell_split stripped)
        return some (key, value)

/-- A dictionary of secrets: the last value that was set for a key is its value. -/
abbrev Secrets := List (String × List Char)

def Secrets.set (secrets : Secrets) (assignment : String × List Char) : Secrets :=
  assignment :: secrets.filter (·.1 ≠ assignment.1)

def _parse_provider_secret_environment (text : List Char) : Except SecretError Secrets := do
  let read ← (splitlines text).mapM read_environment_line
  return read.reduceOption.foldl Secrets.set []

def is_assignment_to (keys : List String) (line : List Char) : Bool :=
  (match_assignment (strip line)).any fun assignment => String.ofList assignment.1 ∈ keys

/-- The lines of an environment file, `none` when there is no file, without the assignments to some keys. -/
def _retained_environment_lines (file : Option (List Char)) (remove : List String) :
    Except SecretError (List (List Char)) :=
  match file with
  | none => .ok []
  | some text => do
    let _ ← _parse_provider_secret_environment text
    let retained := ((splitlines text).filter fun line => !is_assignment_to remove line).rdropWhile is_blank
    return if retained.isEmpty then [] else retained ++ [[]]

def _validate_secret_value (value : List Char) (key : String) : Except SecretError (List Char) :=
  if value.isEmpty || strip value != value then
    .error (.provider_environment_error (key ++ " must be non-empty and trimmed"))
  else if '\x00' ∈ value ∨ '\n' ∈ value ∨ '\r' ∈ value then
    .error (.provider_environment_error (key ++ " must fit on one line"))
  else .ok value

def _quote_environment_value (value : List Char) : List Char := '\x22' :: (escape_quoted value ++ ['\x22'])

def unsupported_key (key : String) : SecretError :=
  .value_error ("unsupported provider secret environment key: " ++ key)

/-- Store one provider secret and remove mutually exclusive sources: the text that the file has afterwards. -/
def persist_provider_secret (file : Option (List Char)) (key : String) (value : List Char) (remove : List String) :
    Except SecretError (List Char) :=
  if key ∉ PROVIDER_SECRET_ENVIRONMENT_KEYS then .error (unsupported_key key)
  else do
    let normalized ← _validate_secret_value value key
    let retained ← _retained_environment_lines file (key :: remove)
    return render_lines (retained ++ [key.toList ++ '=' :: _quote_environment_value normalized])

/-- Remove supported provider secrets while preserving comments and other provider secrets. -/
def remove_provider_secrets (file : Option (List Char)) (keys : List String) :
    Except SecretError (Option (List Char)) :=
  match ((keys.filter (· ∉ PROVIDER_SECRET_ENVIRONMENT_KEYS)).mergeSort fun a b => a ≤ b).head? with
  | some key => .error (unsupported_key key)
  | none =>
    match file with
    | none => .ok none
    | some text => do
      let retained ← _retained_environment_lines (some text) keys
      return some (render_lines retained)

/-- The secrets of a file; without a file there are none. -/
def read_provider_secret_environment (file : Option (List Char)) : Except SecretError Secrets :=
  match file with
  | none => .ok []
  | some text => _parse_provider_secret_environment text

end OhMySubagents.ProviderEnvironment

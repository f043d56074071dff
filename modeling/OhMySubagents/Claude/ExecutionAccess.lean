import OhMySubagents.Filesystem.Links

open Filesystem

namespace OhMySubagents.Claude

/-- The components of a path text as the operating system takes them: an empty one counts only at the end, where it asks
    for a directory. -/
def components_of (raw_path : String) : List String :=
  ((raw_path.toList.splitOn '/').map String.ofList).filter (· ≠ "") ++
    if raw_path.toList.getLast? = some '/' then ["."] else []

def PathText.parse (raw_path : String) : PathText where
  absolute := raw_path.toList.head? = some '/'
  components := components_of raw_path

/-- Whether a text starts with exactly two slashes, which is a root of its own for `pathlib`. -/
def has_double_root (raw_path : String) : Bool :=
  match raw_path.toList with
  | '/' :: '/' :: rest => rest.head? != some '/'
  | _ => false

/-- `os.path.abspath` of the supplied path, below the workspace when it is relative. -/
def lexical_path (workspace_root : Path) (raw_path : String) : Path :=
  normalize ((PathText.parse raw_path).start workspace_root) (PathText.parse raw_path).components

/-- What the guard's path library does: how many links `resolve` can follow, and whether `is_symlink` raises the error
    of a path or a name that is too long, as it does before Python 3.14. -/
structure PathLibrary where
  follows : Nat
  raises_too_long : Bool

/-- Whether no part below the cursor is a link or too long to be looked at, and the last one is no file with a second
    hard link. -/
def check_parts (library : PathLibrary) (tree : LinkedTree) (cursor : Path) : List String → Bool
  | [] => true
  | part :: parts =>
    if library.raises_too_long && tree.is_too_long cursor part then false
    else
      match tree.entry (cursor ++ [part]) with
      | some (.link _) => false
      | some (.file links) => !(parts.isEmpty && 1 < links) && check_parts library tree (cursor ++ [part]) parts
      | _ => check_parts library tree (cursor ++ [part]) parts

def _is_workspace_write_path (library : PathLibrary) (tree : LinkedTree) (raw_path : String) (workspace_root : Path) :
    Bool :=
  let lexical_path := lexical_path workspace_root raw_path
  !has_double_root raw_path && workspace_root.isPrefixOf lexical_path &&
    check_parts library tree workspace_root (lexical_path.drop workspace_root.length) &&
    match realpath tree library.follows [] lexical_path with
    | some resolved_path => workspace_root.isPrefixOf resolved_path
    | none => false

def _CLAUDE_WRITE_TOOL_PATH_FIELDS : List (String × String) :=
  [("Edit", "file_path"), ("Write", "file_path"), ("NotebookEdit", "notebook_path")]

/-- What the hook is told of a tool call; a field of the tool input that is no text is `none`. -/
structure HookInput where
  hook_event_name : String
  tool_name : String
  tool_input : List (String × Option String)

inductive HookOutcome
  | no_objection
  | deny (reason : String)
  deriving DecidableEq, Repr

def require_workspace_write_path (library : PathLibrary) (tree : LinkedTree) (workspace_root : Path)
    (hook_input : HookInput) : HookOutcome :=
  if hook_input.hook_event_name ≠ "PreToolUse" then .deny "workspace write guard received a wrong hook event"
  else
    let raw_path := do
      let path_field ← _CLAUDE_WRITE_TOOL_PATH_FIELDS.lookup hook_input.tool_name
      (← hook_input.tool_input.lookup path_field)
    match raw_path with
    | none => .deny "write tool did not provide one valid target path"
    | some raw_path =>
      if raw_path = "" ∨ '\x00' ∈ raw_path.toList then .deny "write tool did not provide one valid target path"
      else if _is_workspace_write_path library tree raw_path workspace_root then .no_objection
      else .deny "write target is outside the assigned workspace"

/-- The call of a write tool with a path. -/
def write_call (tool : String × String) (raw_path : String) : HookInput where
  hook_event_name := "PreToolUse"
  tool_name := tool.1
  tool_input := [(tool.2, some raw_path)]

end OhMySubagents.Claude

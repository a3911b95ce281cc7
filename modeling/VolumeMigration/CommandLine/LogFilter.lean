import VolumeMigration.CommandLine.Options
import VolumeMigration.Report
import VolumeMigration.Text.Classes

/-!
# Log filters

A log filter is a list of directives between commas, of which empty ones do not count. A
directive is a level, or a target, a span in brackets with fields in braces, or both, with
or without an equals sign and a level. What has no equals sign and begins like a name is
always taken, if not for a level then for a target. Blanks around a directive are skipped,
except that a level behind an equals sign must stand without them.
-/

namespace VolumeMigration.CommandLine.LogFilter

/-- Why a text is no filter. -/
inductive Malformation where
  | directive
  | level
  deriving DecidableEq, Repr

namespace Malformation

def message : Malformation → String
  | directive => "invalid filter directive"
  | level =>
    "error parsing level filter: expected one of \"off\", \"error\", \"warn\", \"info\", " ++
      "\"debug\", \"trace\", or a number 0-5"

end Malformation

/-- The names of levels. -/
def levelNames : List String := ["off", "error", "warn", "info", "debug", "trace"]

/-- Whether a text is a level: a name in any case, a number up to five, or nothing. -/
def isLevel (text : String) : Bool :=
  match NodePort.number? (1 <<< 64) text with
  | some n => n ≤ 5
  | none => text.isEmpty || levelNames.contains (text.map Char.toLower)

/-- What is being read of a directive. -/
inductive Phase where
  | start
  /-- A level or a target. -/
  | name
  | span
  /-- A field, and whether anything of it was read. -/
  | field (some : Bool)
  /-- Behind the fields. -/
  | fields
  /-- Behind a span. -/
  | target
  /-- A level, the last character first. -/
  | level (chars : List Char)
  deriving DecidableEq, Repr

/-- Takes one character. -/
def step (phase : Phase) (c : Char) : Except Malformation Phase :=
  match phase with
  | .start =>
    if c == '[' then .ok .span
    else if c == '-' || c == ':' || c == '_' || Text.isAlphanumeric c then .ok .name
    else .error .directive
  | .name => .ok (if c == '=' then .level [] else if c == '[' then .span else .name)
  | .target => if c == '=' then .ok (.level []) else .error .directive
  | .span => .ok (if c == ']' then .target else if c == '\x7b' then .field false else .span)
  | .field any =>
    if c == '\x7d' then if any then .ok .fields else .error .directive else .ok (.field true)
  | .fields => if c == ']' then .ok .target else .error .directive
  | .level chars => .ok (.level (c :: chars))

/-- Reads a directive. -/
def checkDirective (text : String) : Except Malformation Unit := do
  let trimmed := Text.trim text
  match ← trimmed.toList.foldlM step .start with
  | .name | .target => return ()
  | .level chars =>
    if trimmed == text && isLevel (String.ofList chars.reverse) then return ()
    throw .level
  | _ => throw .directive

/-- Reads a filter. -/
def check (text : String) : Except Malformation Unit :=
  (((text.toList.splitOn ',').map String.ofList).filter (!·.isEmpty)).forM checkDirective

/-- Chooses the filter of a run: that of the environment if it is a filter, else the given
one, which then has to be one. -/
def choose (level : String) (environment : Option String) : Except ProgramError String :=
  let own := match environment with
    | some text => if (check text).isOk then some text else none
    | none => none
  match own with
  | some text => .ok text
  | none =>
    match check level with
    | .ok () => .ok level
    | .error e =>
      .error (.configuration ("invalid log level '" ++ level ++ "': " ++ e.message))

end VolumeMigration.CommandLine.LogFilter

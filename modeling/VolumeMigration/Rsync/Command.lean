import VolumeMigration.Report
import VolumeMigration.Shell.Word
import VolumeMigration.Text.Quoted

/-!
# The rsync command line

A transfer runs one rsync command, handed to a shell as a single line. Either side may be
reached over ssh, but not both. `--no-inc-recursive` makes rsync count everything before
it starts, so that its total does not grow while the bar is shown.

`Command.line` fails for three reasons, looked for in this order: both sides over ssh,
the source endpoint, the destination endpoint.
-/

namespace VolumeMigration.Rsync

/-- How a side is reached over ssh. -/
structure Login where
  /-- An empty host is no host. -/
  host : String := ""
  /-- Without a user, or with an empty one, `defaultUser` logs in. -/
  user : String := ""
  deriving DecidableEq, Repr

/-- One side of a transfer. -/
structure Endpoint where
  path : String
  /-- How the side is reached, when it is not local. -/
  login : Option Login := none
  deriving DecidableEq, Repr

/-- One rsync invocation. -/
structure Command where
  source : Endpoint
  destination : Endpoint
  /-- The ssh port; none or zero is ssh's own. -/
  port : Option Nat := none
  /-- The private key that ssh logs in with. -/
  identityFile : Option String := none
  /-- Owner and group are not kept. -/
  noChown : Bool := false
  /-- Files that the source does not have are deleted. -/
  delete : Bool := false
  /-- Data are compressed on the way. -/
  compress : Bool := false
  deriving DecidableEq, Repr

/-- Why a command has no command line. -/
inductive CommandError where
  | bothSidesRemote
  | missingHost
  /-- The word holds a NUL. -/
  | unquotable (word : String)
  deriving DecidableEq, Repr

namespace CommandError

def message : CommandError → String
  | bothSidesRemote => "cannot use ssh on both source and destination"
  | missingHost => "ssh endpoint requires a host"
  | unquotable word => Text.quoted word ++ ": cannot shell-quote string containing nul byte"

/-- The failure as the run reports it. -/
def toMigrationError (e : CommandError) : MigrationError := .command e.message

end CommandError

/-- The user that logs in when none is named. -/
def defaultUser : String := "root"

/-- The words of ssh that every command shares: hosts are as short-lived as the release
that runs them, so their keys are neither checked nor kept. -/
def sshWords : List String :=
  ["ssh", "-o", "StrictHostKeyChecking=no", "-o", "UserKnownHostsFile=/dev/null",
    "-o", "ConnectTimeout=5"]

namespace Endpoint

/-- The operand by which rsync is told a side. -/
def operand (e : Endpoint) : Except CommandError String :=
  match e.login with
  | none => .ok e.path
  | some login =>
    if login.host.isEmpty then .error .missingHost
    else
      let user := if login.user.isEmpty then defaultUser else login.user
      .ok (user ++ "@" ++ login.host ++ ":" ++ e.path)

/-- The operand as it stands on the command line. -/
def word (e : Endpoint) : Except CommandError String := do
  let operand ← e.operand
  match Shell.quote? operand with
  | some quoted => .ok quoted
  | none => .error (.unquotable operand)

end Endpoint

namespace Command

/-- The ssh command that rsync is told to use. -/
def sshCommand (c : Command) : String :=
  let identity := match c.identityFile with
    | some file => ["-i", file]
    | none => []
  let port := match c.port with
    | some (port + 1) => ["-p", toString (port + 1)]
    | _ => []
  " ".intercalate (sshWords ++ identity ++ port)

/-- The options that depend on what is wanted. -/
def flags (c : Command) : List String :=
  (if c.compress then ["-z"] else []) ++
    (if c.noChown then ["--no-o", "--no-g"] else []) ++
    (if c.delete then ["--delete"] else [])

/-- The options, as they stand on the command line. -/
def options (c : Command) : List String :=
  ["-av", "--info=progress2,misc0,flist0", "--no-inc-recursive", "-e",
    "\"" ++ c.sshCommand ++ "\""] ++ c.flags

/-- The command as one shell line. -/
def line (c : Command) : Except CommandError String := do
  if c.source.login.isSome && c.destination.login.isSome then .error .bothSidesRemote
  else
    let source ← c.source.word
    let destination ← c.destination.word
    .ok (" ".intercalate (["rsync"] ++ c.options ++ [source, destination]))

end Command

end VolumeMigration.Rsync

import VolumeMigration.CommandLine.LogFilter
import VolumeMigration.CommandLine.Options
import VolumeMigration.Engine.Migrate

/-!
# The program

From the words of a command line to an exit code. Faults of the command line come first,
then those of the log filter, and only then is there a migration (`Invocation.migrate`),
whose failure is the program's.
-/

namespace VolumeMigration.CommandLine

namespace Invocation

/-- What is reported before anything is done. -/
def starting (i : Invocation) : LogEntry :=
  .info "starting migration"
    [("source", i.request.source.name), ("dest", i.request.destination.name),
      ("strategies", Text.quotedList i.request.strategies)]

/-- Does what a command line asks for. -/
def migrate (i : Invocation) (w : World) (env : Surroundings) (r : Run) :
    Ending (Except MigrationError Unit) × Run :=
  match VolumeMigration.migrate w env i.request (r.log i.starting) with
  | (.value (.ok ()), r) => (.value (.ok ()), r.log (.info "migration completed" []))
  | (ending, r) => (ending, r)

end Invocation

/-- What the program leaves behind at its end. -/
structure Exit where
  code : Nat
  /-- What it wrote to standard output. -/
  output : String := ""
  /-- The errors that it reported. -/
  errors : List String := []
  /-- Everything else that it reported. -/
  logs : List LogEntry := []
  deriving Repr

namespace Program

/-- The variables of the environment that matter. -/
def variableNames : List String :=
  ["PV_MIGRATE_LOG_LEVEL", "PV_MIGRATE_LOG_FORMAT", "PV_MIGRATE_STRATEGIES",
    "PV_MIGRATE_HELM_BINARY", "RUST_LOG", "KUBECONFIG", "HOME"]

/-- The files that the program may look into. -/
def filesOf (surroundings : Surroundings) (env : String → Option String) (words : List String) :
    List String :=
  let given := match Invocation.read env words with
    | .ok i => [i.request.source.kubeconfig, i.request.destination.kubeconfig].filterMap (·)
    | .error _ => []
  given ++ surroundings.listedFiles ++ surroundings.homeFile?.toList

/-- The name and the number of the version. -/
def version : String := "pv-migrate 0.1.0\n"

/-- How the program is called. -/
def usage : String := "Usage: pv-migrate migrate [OPTIONS] <SOURCE> <DEST>\n"

/-- The end of a program that was not called rightly, or only for information. -/
def refuse (e : UsageError) : Exit where
  code := e.exitCode
  output :=
    match e with
    | .displayVersion => version
    | .displayHelp => usage
    | _ => ""

/-- The line by which a failure is reported. -/
def complaint (e : ProgramError) : String := "Error: " ++ e.message

/-- The exit code of a program that breaks down. -/
def breakdownCode : Nat := 101

/-- The end of a program after its migration. One that waits for ever has no end. -/
def finish : Ending (Except MigrationError Unit) → List LogEntry → Option Exit
  | .value (.ok ()), logs => some { code := 0, logs }
  | .value (.error e), logs => some { code := 1, errors := [complaint (.migration e)], logs }
  | .standstill .noDeadline, logs => some { code := breakdownCode, logs }
  | .standstill .endlessWait, _ => none

/-- Runs the program. `env` is its environment. -/
def run (w : World) (surroundings : Surroundings) (env : String → Option String)
    (words : List String) : Option Exit :=
  match Invocation.read env words with
  | .error e => some (refuse e)
  | .ok i =>
    match LogFilter.choose i.logLevel (env "RUST_LOG") with
    | .error e => some { code := 1, errors := [complaint e] }
    | .ok _ =>
      let (ending, r) := i.migrate w surroundings {}
      finish ending r.history.logs

end Program

end VolumeMigration.CommandLine

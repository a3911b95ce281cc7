import VolumeMigration.CommandLine.Usage
import VolumeMigration.Duration
import VolumeMigration.Request
import VolumeMigration.Text.Classes

/-!
# The options of the program

The options of the program and of its one command, `migrate`, and the request that they
amount to. The options about the log may stand before the command and behind it. A node port
is a decimal number of 16 bits, with an optional plus sign, within the range that clusters hand
out.
-/

namespace VolumeMigration.CommandLine

/-- How log entries are shown. -/
inductive LogFormat where
  | text
  | json
  deriving DecidableEq, Repr

namespace LogFormat

def name : LogFormat → String
  | text => "text"
  | json => "json"

def ofName (name : String) : Except UsageError LogFormat :=
  if name = "text" then .ok text else if name = "json" then .ok json else .error .invalidValue

end LogFormat

namespace NodePort

/-- The lowest port that clusters hand out. -/
def lowest : Nat := 30000

/-- The highest port that clusters hand out. -/
def highest : Nat := 32767

/-- A decimal number less than the limit, with an optional plus sign. -/
def number? (limit : Nat) (text : String) : Option Nat :=
  let digits := match text.toList with
    | '+' :: rest => rest
    | cs => cs
  if digits.isEmpty || !digits.all Char.isDigit then none
  else some (digits.foldl (fun n c ↦ n * 10 + (c.toNat - '0'.toNat)) 0) |>.filter (· < limit)

/-- Reads a node port; the failure is the text to show. -/
def ofText (text : String) : Except String Nat :=
  match number? 65536 text with
  | none => .error ("'" ++ text ++ "' is not a port number")
  | some port =>
    if lowest ≤ port ∧ port ≤ highest then .ok port
    else .error ("node port " ++ toString port ++ " is outside the allowed range " ++
      toString lowest ++ "-" ++ toString highest)

end NodePort

/-- A setting and where it comes from. -/
structure Sourced (α : Type) where
  value : α
  origin : Origin := .byDefault
  deriving DecidableEq, Repr

namespace Sourced

/-- The setting of higher origin; of two equal ones the inner. -/
def outweigh {α : Type} (outer inner : Sourced α) : Sourced α :=
  if inner.origin.rank < outer.origin.rank then outer else inner

end Sourced

/-- Settings about the log. -/
structure LogSettings where
  level : Sourced String := { value := "info" }
  format : Sourced LogFormat := { value := .text }
  deriving DecidableEq, Repr

/-- Settings of the migrate command. -/
structure MigrateSettings where
  log : LogSettings := {}
  /-- Names of strategies, as far as any were given. -/
  strategies : List String := []
  request : Request := { source := { name := "" }, destination := { name := "" } }
  deriving DecidableEq, Repr

/-- Options about the log, as part of the settings `α`. -/
def logOptions {α : Type} (change : (LogSettings → LogSettings) → α → α) : List (OptionSpec α) :=
  [{ long := "log-level"
     envName := some "PV_MIGRATE_LOG_LEVEL"
     store := fun origin value s ↦ .ok (change (fun l ↦ { l with level := ⟨value, origin⟩ }) s) },
   { long := "log-format"
     envName := some "PV_MIGRATE_LOG_FORMAT"
     store := fun origin value s ↦ do
       let format ← LogFormat.ofName value
       return change (fun l ↦ { l with format := ⟨format, origin⟩ }) s }]

/-- An option that asks for something else than a run. -/
def asking {α : Type} (long : String) (short : Char) (answer : UsageError) : OptionSpec α where
  long
  short := some short
  arity := .flag
  store _ _ _ := .error answer

/-- The program itself. -/
def program : Command LogSettings where
  options := logOptions (fun f s ↦ f s) ++
    [asking "help" 'h' .displayHelp, asking "version" 'V' .displayVersion]
  subcommands := ["migrate"]

namespace Migrate

/-- An option that changes the request. -/
def option (short : Option Char) (long : String)
    (store : String → Request → Except UsageError Request) (arity : Arity := .single)
    (envName : Option String := none) : OptionSpec MigrateSettings where
  long
  short
  arity
  envName
  store _ value s := do return { s with request := ← store value s.request }

/-- A text of any kind. -/
def anyText (change : String → Request → Request) (value : String) (r : Request) :
    Except UsageError Request :=
  .ok (change value r)

/-- A path, which must not be empty. -/
def path (change : String → Request → Request) (value : String) (r : Request) :
    Except UsageError Request :=
  if value.isEmpty then .error .invalidValue else .ok (change value r)

/-- A truth value, spelt out. -/
def truth (change : Bool → Request → Request) (value : String) (r : Request) :
    Except UsageError Request :=
  if value = "true" then .ok (change true r)
  else if value = "false" then .ok (change false r)
  else .error .invalidValue

/-- A flag. -/
def flag (short : Option Char) (long : String) (change : Request → Request) :
    OptionSpec MigrateSettings :=
  option short long (fun _ r ↦ .ok (change r)) .flag

/-- A duration. -/
def duration (change : Duration → Request → Request) (value : String) (r : Request) :
    Except UsageError Request :=
  match Duration.ofText value with
  | .ok d => .ok (change d r)
  | .error e => .error (.refusedValue e.message)

/-- A name that is not empty; an empty one is none. -/
def nonEmpty (value : String) : Option String := if value.isEmpty then none else some value

def changeSource (f : ClaimRef → ClaimRef) (r : Request) : Request :=
  { r with source := f r.source }

def changeDestination (f : ClaimRef → ClaimRef) (r : Request) : Request :=
  { r with destination := f r.destination }

def changeOverlays (f : ValueOverlays → ValueOverlays) (r : Request) : Request :=
  { r with overlays := f r.overlays }

/-- The strategies of a list between commas. -/
def strategyNames (value : String) : List String :=
  (value.toList.splitOn ',').map fun cs ↦ Text.trim (String.ofList cs)

/-- Reads the kind of key, by its exact name. -/
def keyAlgorithm (value : String) (r : Request) : Except UsageError Request :=
  if value = "ed25519" then .ok { r with algorithm := .ed25519 }
  else if value = "rsa" then .ok { r with algorithm := .rsa }
  else .error .invalidValue

/-- Reads a node port. -/
def nodePort (value : String) (r : Request) : Except UsageError Request :=
  match NodePort.ofText value with
  | .ok port => .ok { r with nodePort := some port }
  | .error reason => .error (.refusedValue reason)

/-- The option that names strategies, which may be given several times. -/
def strategyOption : OptionSpec MigrateSettings where
  long := "strategies"
  short := some 's'
  arity := .repeated
  envName := some "PV_MIGRATE_STRATEGIES"
  store _ value s := .ok { s with strategies := s.strategies ++ strategyNames value }

/-- The options that decide on the source. -/
def sourceOptions : List (OptionSpec MigrateSettings) :=
  [option (some 'k') "source-kubeconfig"
    (path fun v ↦ changeSource fun c ↦ { c with kubeconfig := some v }),
   option (some 'c') "source-context"
    (anyText fun v ↦ changeSource fun c ↦ { c with context := nonEmpty v }),
   option (some 'n') "source-namespace"
    (anyText fun v ↦ changeSource fun c ↦ { c with ns := nonEmpty v }),
   option (some 'p') "source-path" (anyText fun v ↦ changeSource fun c ↦ { c with path := v })]

/-- The options that decide on the destination. -/
def destinationOptions : List (OptionSpec MigrateSettings) :=
  [option (some 'K') "dest-kubeconfig"
    (path fun v ↦ changeDestination fun c ↦ { c with kubeconfig := some v }),
   option (some 'C') "dest-context"
    (anyText fun v ↦ changeDestination fun c ↦ { c with context := nonEmpty v }),
   option (some 'N') "dest-namespace"
    (anyText fun v ↦ changeDestination fun c ↦ { c with ns := nonEmpty v }),
   option (some 'P') "dest-path"
    (anyText fun v ↦ changeDestination fun c ↦ { c with path := v })]

/-- The options that decide on how data are copied. -/
def transferOptions : List (OptionSpec MigrateSettings) :=
  [flag (some 'd') "dest-delete-extraneous-files" fun r ↦ { r with deleteExtraneous := true },
   flag (some 'i') "ignore-mounted" fun r ↦ { r with ignoreMounted := true },
   flag (some 'o') "no-chown" fun r ↦ { r with noChown := true },
   flag (some 'b') "no-progress-bar" fun r ↦ { r with showProgress := false },
   option none "source-mount-read-only" (truth fun v r ↦ { r with sourceReadOnly := v })
    (.attached "true"),
   option none "compress" (truth fun v r ↦ { r with compress := v }) (.attached "true"),
   flag none "skip-cleanup" fun r ↦ { r with skipCleanup := true },
   option (some 'a') "ssh-key-algorithm" keyAlgorithm,
   option (some 'H') "dest-host-override"
    (anyText fun v r ↦ { r with hostOverride := some v }),
   option none "nodeport-port" nodePort,
   option none "lbsvc-timeout" (duration fun d r ↦ { r with serviceTimeout := d })]

/-- The options that decide on helm. -/
def helmOptions : List (OptionSpec MigrateSettings) :=
  [option none "helm-timeout" (duration fun d r ↦ { r with helmTimeout := d }),
   option none "helm-binary" (path fun v r ↦ { r with helmBinary := v }) .single
    (some "PV_MIGRATE_HELM_BINARY"),
   option (some 'f') "helm-values"
    (path fun v ↦ changeOverlays fun o ↦ { o with files := o.files ++ [v] }) .repeated,
   option none "helm-set"
    (anyText fun v ↦ changeOverlays fun o ↦ { o with assignments := o.assignments ++ [v] })
    .repeated,
   option none "helm-set-string"
    (anyText fun v ↦ changeOverlays fun o ↦
      { o with stringAssignments := o.stringAssignments ++ [v] })
    .repeated,
   option none "helm-set-file"
    (anyText fun v ↦ changeOverlays fun o ↦
      { o with fileAssignments := o.fileAssignments ++ [v] })
    .repeated]

/-- The migrate command: two claims and many options. -/
def command : Command MigrateSettings where
  options := sourceOptions ++ destinationOptions ++ transferOptions ++ [strategyOption] ++
    helmOptions ++ logOptions (fun f s ↦ { s with log := f s.log }) ++
    [asking "help" 'h' .displayHelp]
  words :=
    [fun word s ↦ { s with request := changeSource (fun c ↦ { c with name := word }) s.request },
     fun word s ↦
      { s with request := changeDestination (fun c ↦ { c with name := word }) s.request }]

end Migrate

/-! ### The whole command line -/

/-- What a command line asks for. -/
structure Invocation where
  logLevel : String
  logFormat : LogFormat
  request : Request
  deriving DecidableEq, Repr

namespace Invocation

/-- The invocation of the settings at both places. A progress bar would get mixed up with
log entries in JSON, so it is hidden then. -/
def ofSettings (outer : LogSettings) (inner : MigrateSettings) : Invocation :=
  let format := (outer.format.outweigh inner.log.format).value
  let request := inner.request
  { logLevel := (outer.level.outweigh inner.log.level).value
    logFormat := format
    request := { request with
      strategies := if inner.strategies.isEmpty then request.strategies else inner.strategies
      progressOutput := if format = .json then .hidden else .stderr } }

/-- Reads a command line, given the environment. The command's own faults are found before
those of the program's options. -/
def read (env : String → Option String) (words : List String) :
    Except UsageError Invocation := do
  match ← program.readWords { settings := {} } words with
  | .all r =>
    let _ ← program.complete env r false
    throw .missingSubcommand
  | .below outer _ rest =>
    let inner ← match ← Migrate.command.readWords { settings := {} } rest with
      | .all r => pure r
      | .below r _ _ => pure r
    let inner ← Migrate.command.complete env inner false
    let outer ← program.complete env outer true
    return ofSettings outer.settings inner.settings

end Invocation

end VolumeMigration.CommandLine

/-!
# How a command line is read

A command has options, some places for plain words, and perhaps commands below it. Words
are read from left to right (`Command.read`).

* An option of one value takes it after an equals sign, from the rest of a cluster of short
  options, or from the next word, unless that one looks like an option.
* A value in a word of its own is looked at only when the next option or word has been
  recognised. So of two faults the later one may be reported: an unknown option behind a
  value that is wrong.
* Behind `--` every word is plain.
* An option that takes one value, or none, may be given once only.

What is not given is then taken from the environment, and what is required must be there.
-/

namespace VolumeMigration.CommandLine

/-- What is wrong with a command line, or asked of it instead of a run. -/
inductive UsageError where
  | displayHelp
  | displayVersion
  /-- Nothing was asked at all. -/
  | helpOnNothing
  | missingSubcommand
  | missingRequired
  | unknownArgument
  | invalidSubcommand
  | invalidValue
  | argumentConflict
  | tooManyValues
  /-- A value was refused for this reason. -/
  | refusedValue (reason : String)
  deriving DecidableEq, Repr

namespace UsageError

/-- The name of the kind of error. -/
def name : UsageError → String
  | displayHelp => "DisplayHelp"
  | displayVersion => "DisplayVersion"
  | helpOnNothing => "DisplayHelpOnMissingArgumentOrSubcommand"
  | missingSubcommand => "MissingSubcommand"
  | missingRequired => "MissingRequiredArgument"
  | unknownArgument => "UnknownArgument"
  | invalidSubcommand => "InvalidSubcommand"
  | invalidValue => "InvalidValue"
  | argumentConflict => "ArgumentConflict"
  | tooManyValues => "TooManyValues"
  | refusedValue _ => "ValueValidation"

/-- The reason, where one is given. -/
def reason? : UsageError → Option String
  | refusedValue reason => some reason
  | _ => none

/-- The exit code of a program that ends with this. -/
def exitCode : UsageError → Nat
  | displayHelp | displayVersion => 0
  | _ => 2

end UsageError

/-- Where a setting comes from; what comes later in this list outweighs what comes before. -/
inductive Origin where
  | byDefault
  | environment
  | commandLine
  deriving DecidableEq, Repr

namespace Origin

def rank : Origin → Nat
  | byDefault => 0
  | environment => 1
  | commandLine => 2

end Origin

/-- How many values an option takes. -/
inductive Arity where
  /-- None. -/
  | flag
  /-- One. -/
  | single
  /-- One each time it is given. -/
  | repeated
  /-- One behind an equals sign, or none, which stands for this one. -/
  | attached (missing : String)
  deriving DecidableEq, Repr

/-- An option of a command whose settings are kept in `α`. -/
structure OptionSpec (α : Type) where
  long : String
  short : Option Char := none
  arity : Arity := .single
  /-- The environment variable that stands in for it. -/
  envName : Option String := none
  /-- Takes one occurrence of the option, or its variable. -/
  store : Origin → String → α → Except UsageError α

/-- A command. -/
structure Command (α : Type) where
  options : List (OptionSpec α)
  /-- What takes the plain words, in their order; all are required. -/
  words : List (String → α → α) := []
  /-- The commands below this one; if there are any, one of them is required. -/
  subcommands : List String := []

/-- How far a command line has been read. -/
structure Reading (α : Type) where
  settings : α
  /-- Long names of the options that were given. -/
  given : List String := []
  /-- The last option, while its value is not yet looked at. -/
  pending : Option (OptionSpec α × Option String) := none
  /-- How many plain words were taken. -/
  words : Nat := 0

namespace Reading

variable {α : Type}

/-- Whether the next word is the value of an option. -/
def awaits (r : Reading α) : Bool :=
  match r.pending with
  | some (_, none) => true
  | _ => false

/-- Takes an option with its value. -/
def apply (r : Reading α) (o : OptionSpec α) (origin : Origin) (value : String) :
    Except UsageError (Reading α) := do
  if origin == .commandLine && o.arity != .repeated && r.given.contains o.long then
    throw .argumentConflict
  return { r with settings := ← o.store origin value r.settings, given := o.long :: r.given }

/-- Looks at the value that was left for later. -/
def resolve (r : Reading α) : Except UsageError (Reading α) :=
  match r.pending with
  | none => .ok r
  | some (_, none) => .error .invalidValue
  | some (o, some value) => { r with pending := none }.apply o .commandLine value

/-- Takes an option whose value is at hand. -/
def takeNow (r : Reading α) (o : OptionSpec α) (value : String) :
    Except UsageError (Reading α) := do
  (← r.resolve).apply o .commandLine value

/-- Takes an option whose value has yet to come. -/
def takeLater (r : Reading α) (o : OptionSpec α) : Except UsageError (Reading α) := do
  return { ← r.resolve with pending := some (o, none) }

/-- Takes an option that takes values, with what stands behind it in its word. -/
def takeOption (r : Reading α) (o : OptionSpec α) (value : Option String) :
    Except UsageError (Reading α) :=
  match o.arity, value with
  | .attached missing, none => r.takeNow o missing
  | _, some value => r.takeNow o value
  | _, none => r.takeLater o

end Reading

/-- How reading a command line ends. -/
inductive Finished (α : Type) where
  /-- All words were taken. -/
  | all (r : Reading α)
  /-- A command below was named; the other words are its own. -/
  | below (r : Reading α) (name : String) (rest : List String)

namespace Command

variable {α : Type}

/-- The characters of a word behind its first equals sign, and those before it. -/
def splitEquals (cs : List Char) : List Char × Option (List Char) :=
  let name := cs.takeWhile (· != '=')
  match cs.drop name.length with
  | [] => (name, none)
  | _ :: value => (name, some value)

/-- Takes a word that begins by two dashes; `cs` is what follows them. -/
def takeLong (c : Command α) (r : Reading α) (cs : List Char) : Except UsageError (Reading α) :=
  let (name, value) := splitEquals cs
  match c.options.find? (·.long == String.ofList name) with
  | none => .error .unknownArgument
  | some o =>
    if o.arity == .flag then
      if value.isSome then .error .tooManyValues else r.takeNow o "true"
    else r.takeOption o (value.map String.ofList)

/-- Takes the letters of a cluster of short options. -/
def takeShort (c : Command α) (r : Reading α) : List Char → Except UsageError (Reading α)
  | [] => .ok r
  | letter :: rest =>
    match c.options.find? (·.short == some letter) with
    | none => .error .unknownArgument
    | some o =>
      if o.arity == .flag then do takeShort c (← r.takeNow o "true") rest
      else
        match rest with
        | [] => r.takeOption o none
        | '=' :: value => r.takeOption o (some (String.ofList value))
        | value => r.takeOption o (some (String.ofList value))

/-- Takes a plain word. -/
def takeWord (c : Command α) (r : Reading α) (word : String) : Except UsageError (Reading α) :=
  match c.words[r.words]? with
  | some store => do
    let r ← r.resolve
    return { r with settings := store word r.settings, words := r.words + 1 }
  | none => .error (if c.subcommands.isEmpty then .unknownArgument else .invalidSubcommand)

/-- What `help` and the words behind it ask for. -/
def help (c : Command α) : List String → UsageError
  | [] => .displayHelp
  | name :: rest =>
    if (name == "help" || c.subcommands.contains name) && rest.isEmpty then .displayHelp
    else .invalidSubcommand

/-- Reads words behind `--`. -/
def readPlain (c : Command α) (r : Reading α) : List String → Except UsageError (Reading α)
  | [] => .ok r
  | word :: rest => do
    if c.words[r.words]?.isNone && (c.subcommands.contains word || word == "help") &&
        !c.subcommands.isEmpty then
      throw .unknownArgument
    readPlain c (← takeWord c r word) rest

/-- Reads words. -/
def readWords (c : Command α) (r : Reading α) : List String → Except UsageError (Finished α)
  | [] => .ok (.all r)
  | word :: rest =>
    if !r.awaits && c.subcommands.contains word then .ok (.below r word rest)
    else if !r.awaits && !c.subcommands.isEmpty && word == "help" then .error (c.help rest)
    else
      match word.toList with
      | ['-', '-'] => do return .all (← readPlain c r rest)
      | '-' :: '-' :: cs => do readWords c (← takeLong c r cs) rest
      | '-' :: letter :: letters => do readWords c (← takeShort c r (letter :: letters)) rest
      | _ =>
        match r.pending with
        | some (o, none) => readWords c { r with pending := some (o, some word) } rest
        | _ => do readWords c (← takeWord c r word) rest

/-- Takes what was not given from the environment. -/
def fill (env : String → Option String) (r : Reading α) :
    List (OptionSpec α) → Except UsageError (Reading α)
  | [] => .ok r
  | o :: rest =>
    match if r.given.contains o.long then none else o.envName.bind env with
    | none => fill env r rest
    | some value => do fill env (← r.apply o .environment value) rest

/-- Completes a reading: the last value, the environment, and what is required. -/
def complete (c : Command α) (env : String → Option String) (r : Reading α) (below : Bool) :
    Except UsageError (Reading α) := do
  let r ← fill env (← r.resolve) c.options
  if !below && !c.subcommands.isEmpty then
    throw (if r.given.isEmpty then .helpOnNothing else .missingSubcommand)
  if r.words < c.words.length then throw .missingRequired
  return r

end Command

end VolumeMigration.CommandLine

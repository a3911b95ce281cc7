import Mathlib.Tactic.Common
import VolumeMigration.Helm.Call

/-!
# What helm is told

The arguments of a helm command are one list of words, and several of them come from the user: a
namespace, a context, an assignment may look like anything, an option included. Here they are read
as helm reads them, from left to right, where an option that has a value takes the next word
whatever that is (`Helm.arguments?`), and gathered into what the command asks for
(`Helm.Invocation`).

Arguments of any kind and number are read back from their words as long as no positional one begins
with a dash (`Helm.arguments?_words`). The words of both commands are those of such arguments, so
what is read is what was meant (`Helm.arguments_read_back`): the release, where it is, how long to
wait, and the values in the order in which later ones win.
-/

namespace VolumeMigration.Helm

/-! ### Words -/

/-- The options that have a value. -/
inductive Flag where
  | ns
  | timeout
  | kubeconfig
  | context
  | file
  | assignment
  | stringAssignment
  | fileAssignment
  deriving DecidableEq, Repr

namespace Flag

/-- The word that announces the value. -/
def word : Flag → String
  | ns => "--namespace"
  | timeout => "--timeout"
  | kubeconfig => "--kubeconfig"
  | context => "--kube-context"
  | file => "-f"
  | assignment => "--set"
  | stringAssignment => "--set-string"
  | fileAssignment => "--set-file"

def all : List Flag :=
  [ns, timeout, kubeconfig, context, file, assignment, stringAssignment, fileAssignment]

/-- The option that a word announces. -/
def ofWord? (w : String) : Option Flag := all.find? (·.word == w)

end Flag

/-- An argument of a command. -/
inductive Argument where
  | positional (word : String)
  /-- The command is to wait until everything is ready, or gone. -/
  | wait
  | option (flag : Flag) (value : String)
  deriving DecidableEq, Repr

/-- The words of an argument. -/
def Argument.words : Argument → List String
  | positional word => [word]
  | wait => ["--wait"]
  | option flag value => [flag.word, value]

/-- Reads words from left to right. An option without its value and a word that begins with a dash
and is no known option are refused. -/
def arguments? : List String → Option (List Argument)
  | [] => some []
  | word :: words =>
    match Flag.ofWord? word with
    | some flag =>
      match words with
      | value :: rest => (arguments? rest).map (.option flag value :: ·)
      | [] => none
    | none =>
      if word = "--wait" then (arguments? words).map (.wait :: ·)
      else if word.toList.head? = some '-' then none
      else (arguments? words).map (.positional word :: ·)

/-! ### What arguments ask for -/

/-- The words that belong to no option. -/
def positionals (args : List Argument) : List String :=
  args.filterMap fun
    | .positional word => some word
    | _ => none

/-- The values that an option is given. -/
def given (flag : Flag) (args : List Argument) : List String :=
  args.filterMap fun
    | .option other value => if other = flag then some value else none
    | _ => none

/-- The number of whole seconds that a timeout says: its digits, and the unit behind them. -/
def seconds? (word : String) : Option Nat :=
  let digits := word.toList.dropLast
  if word.toList.getLast? = some 's' ∧ digits ≠ [] ∧ digits.all Char.isDigit = true then
    some (Nat.ofDigitChars 10 digits 0)
  else none

/-- What a command of helm asks for. Whatever is said more than once is there more than once. -/
structure Invocation where
  command : String
  positionals : List String
  /-- Whether it is to wait. -/
  waits : Bool
  namespaces : List String
  /-- In seconds. -/
  timeouts : List Nat
  kubeconfigs : List String
  contexts : List String
  values : ValueOverlays
  deriving DecidableEq, Repr

namespace Invocation

/-- What arguments ask for. A timeout that says no number of seconds is refused. -/
def ofArguments? (command : String) (args : List Argument) : Option Invocation :=
  ((given .timeout args).mapM seconds?).map fun timeouts ↦ {
    command
    positionals := Helm.positionals args
    waits := .wait ∈ args
    namespaces := given .ns args
    timeouts
    kubeconfigs := given .kubeconfig args
    contexts := given .context args
    values := {
      files := given .file args
      assignments := given .assignment args
      stringAssignments := given .stringAssignment args
      fileAssignments := given .fileAssignment args } }

/-- Reads a command and its arguments. -/
def ofWords? : List String → Option Invocation
  | [] => none
  | command :: words => (arguments? words).bind (ofArguments? command)

end Invocation

section

variable {flag : Flag} {args others : List Argument}

@[simp] theorem positionals_append :
    positionals (args ++ others) = positionals args ++ positionals others :=
  List.filterMap_append

@[simp] theorem positionals_positional {word : String} :
    positionals (.positional word :: args) = word :: positionals args := rfl

@[simp] theorem positionals_wait : positionals (.wait :: args) = positionals args := rfl

@[simp] theorem positionals_option {value : String} :
    positionals (.option flag value :: args) = positionals args := rfl

@[simp] theorem positionals_options {values : List String} :
    positionals (values.map (.option flag)) = [] := by
  induction values with
  | nil => rfl
  | cons value values ih => rw [List.map_cons, positionals_option, ih]

@[simp] theorem given_append : given flag (args ++ others) = given flag args ++ given flag others :=
  List.filterMap_append

@[simp] theorem given_positional {word : String} :
    given flag (.positional word :: args) = given flag args := rfl

@[simp] theorem given_wait : given flag (.wait :: args) = given flag args := rfl

@[simp] theorem given_option {other : Flag} {value : String} :
    given flag (.option other value :: args) =
      if other = flag then value :: given flag args else given flag args := by
  unfold given
  split <;> simp [*]

@[simp] theorem given_options {other : Flag} {values : List String} :
    given flag (values.map (.option other)) = if other = flag then values else [] := by
  induction values with
  | nil => exact (ite_self []).symm
  | cons value values ih =>
    rw [List.map_cons, given_option, ih]
    split <;> rfl

end

/-! ### Words are read back -/

namespace Flag

theorem ofWord?_word (flag : Flag) : ofWord? flag.word = some flag := by
  cases flag <;> decide

theorem head?_word (flag : Flag) : flag.word.toList.head? = some '-' := by
  cases flag <;> rfl

/-- A word that does not begin with a dash announces nothing. -/
theorem ofWord?_eq_none {word : String} (h : word.toList.head? ≠ some '-') :
    ofWord? word = none := by
  refine List.find?_eq_none.mpr fun flag _ heq ↦ h ?_
  rw [← eq_of_beq heq]
  exact flag.head?_word

end Flag

/-- Arguments are read back from their words, whatever stands in the values. -/
theorem arguments?_words {args : List Argument}
    (h : ∀ word ∈ positionals args, word.toList.head? ≠ some '-') :
    arguments? (args.flatMap Argument.words) = some args := by
  induction args with
  | nil => rfl
  | cons arg args ih =>
    rw [List.flatMap_cons]
    cases arg with
    | positional word =>
      obtain ⟨hdash, hrest⟩ := List.forall_mem_cons.mp h
      have hwait : word ≠ "--wait" := by
        rintro rfl
        exact hdash rfl
      rw [Argument.words, List.singleton_append, arguments?, Flag.ofWord?_eq_none hdash]
      simp only [if_neg hwait, if_neg hdash, ih hrest, Option.map_some]
    | wait =>
      have hno : Flag.ofWord? "--wait" = none := by decide
      rw [Argument.words, List.singleton_append, arguments?, hno]
      simp only [if_true, ih h, Option.map_some]
    | option flag value =>
      -- the value is taken unread, so nothing is asked of it
      rw [Argument.words, List.cons_append, List.singleton_append, arguments?, flag.ofWord?_word]
      simp only [ih h, Option.map_some]

/-- The timeout that is told is at least a second, and else the whole seconds of what was meant. -/
theorem seconds?_timeoutArgument (timeout : Duration) :
    seconds? (timeoutArgument timeout) = some (max 1 timeout.seconds) := by
  have hword : (timeoutArgument timeout).toList =
      Nat.toDigits 10 (max 1 timeout.seconds) ++ ['s'] := by
    rw [timeoutArgument, String.toList_append]
    exact congrArg (· ++ ['s']) Nat.toList_repr
  have hdigits : (Nat.toDigits 10 (max 1 timeout.seconds)).all Char.isDigit = true :=
    List.all_eq_true.mpr fun _ ↦ Nat.isDigit_of_mem_toDigits (by decide) (by decide)
  rw [seconds?, hword, List.getLast?_concat, List.dropLast_concat,
    if_pos ⟨rfl, Nat.toDigits_ne_nil, hdigits⟩, Nat.ofDigitChars_toDigits (by decide) (by decide)]

/-! ### What is meant -/

/-- What a command says about its release. -/
def ReleaseRef.coordinates (release : ReleaseRef) (timeout : Duration) : List Argument :=
  [.option .ns release.ns, .wait, .option .timeout (timeoutArgument timeout)] ++
    release.client.kubeconfig.toList.map (.option .kubeconfig) ++
    release.client.context.toList.map (.option .context)

/-- What a command says about the values of the chart. -/
def layers (valuesFile : String) (overlays : ValueOverlays) : List Argument :=
  (valuesFile :: overlays.files).map (.option .file) ++
    overlays.assignments.map (.option .assignment) ++
    overlays.stringAssignments.map (.option .stringAssignment) ++
    overlays.fileAssignments.map (.option .fileAssignment)

/-- The arguments that install the chart as a release. -/
def ReleaseRef.installing (release : ReleaseRef) (chart valuesFile : String)
    (overlays : ValueOverlays) (timeout : Duration) : List Argument :=
  [.positional release.name, .positional chart] ++ release.coordinates timeout ++
    layers valuesFile overlays

/-- The arguments that uninstall a release. -/
def ReleaseRef.uninstalling (release : ReleaseRef) (timeout : Duration) : List Argument :=
  .positional release.name :: release.coordinates timeout

section

variable {release : ReleaseRef} {chart valuesFile : String} {overlays : ValueOverlays}
  {timeout : Duration}

theorem words_options (flag : Flag) (values : List String) :
    (values.map (.option flag)).flatMap Argument.words = flagged flag.word values := by
  rw [List.flatMap_map]
  rfl

theorem words_coordinates :
    (release.coordinates timeout).flatMap Argument.words = commonArguments release timeout := by
  obtain ⟨⟨kubeconfig, context, _, _, _⟩, ns, name⟩ := release
  cases kubeconfig <;> cases context <;> rfl

theorem words_layers :
    (layers valuesFile overlays).flatMap Argument.words = valueArguments valuesFile overlays := by
  simp only [layers, List.flatMap_append, words_options]
  rfl

theorem installArguments_eq : installArguments release chart valuesFile overlays timeout =
    "install" :: (release.installing chart valuesFile overlays timeout).flatMap Argument.words := by
  rw [ReleaseRef.installing, List.flatMap_append, List.flatMap_append, words_coordinates,
    words_layers]
  rfl

theorem uninstallArguments_eq : uninstallArguments release timeout =
    "uninstall" :: (release.uninstalling timeout).flatMap Argument.words := by
  rw [ReleaseRef.uninstalling, List.flatMap_cons, words_coordinates]
  rfl

@[simp] theorem positionals_coordinates : positionals (release.coordinates timeout) = [] := by
  simp [ReleaseRef.coordinates]

@[simp] theorem positionals_layers : positionals (layers valuesFile overlays) = [] := by
  simp [layers]

end

/-- Both commands are read as what was meant, whatever the values of their options look like:
installing, which takes the values of the user behind those of the strategy, and uninstalling what
is of the same name at the same place. -/
theorem arguments_read_back (release : ReleaseRef)
    (hname : release.name.toList.head? ≠ some '-') :
    (∀ (chart valuesFile : String) (overlays : ValueOverlays) (timeout : Duration),
      chart.toList.head? ≠ some '-' →
        Invocation.ofWords? (installArguments release chart valuesFile overlays timeout) = some {
          command := "install"
          positionals := [release.name, chart]
          waits := true
          namespaces := [release.ns]
          timeouts := [max 1 timeout.seconds]
          kubeconfigs := release.client.kubeconfig.toList
          contexts := release.client.context.toList
          values := { overlays with files := valuesFile :: overlays.files } }) ∧
    ∀ timeout : Duration,
      Invocation.ofWords? (uninstallArguments release timeout) = some {
        command := "uninstall"
        positionals := [release.name]
        waits := true
        namespaces := [release.ns]
        timeouts := [max 1 timeout.seconds]
        kubeconfigs := release.client.kubeconfig.toList
        contexts := release.client.context.toList
        values := {} } := by
  have htimeouts (timeout : Duration) :
      [timeoutArgument timeout].mapM seconds? = some [max 1 timeout.seconds] := by
    simp [seconds?_timeoutArgument]
  refine ⟨fun chart valuesFile overlays timeout hchart ↦ ?_, fun timeout ↦ ?_⟩
  · have hread : arguments? ((release.installing chart valuesFile overlays timeout).flatMap
        Argument.words) = some (release.installing chart valuesFile overlays timeout) :=
      arguments?_words (by simp [ReleaseRef.installing, hname, hchart])
    rw [installArguments_eq, Invocation.ofWords?, hread, Option.bind_some, Invocation.ofArguments?]
    simp [ReleaseRef.installing, ReleaseRef.coordinates, layers, htimeouts]
  · have hread : arguments? ((release.uninstalling timeout).flatMap Argument.words) =
        some (release.uninstalling timeout) :=
      arguments?_words (by simp [ReleaseRef.uninstalling, hname])
    rw [uninstallArguments_eq, Invocation.ofWords?, hread, Option.bind_some,
      Invocation.ofArguments?]
    simp [ReleaseRef.uninstalling, ReleaseRef.coordinates, htimeouts]

/-- A release whose coordinates look like options. -/
def ReleaseRef.lookalike : ReleaseRef where
  client := {
    kubeconfig := some "--kube-context"
    context := some "--wait"
    url := "https://k"
    defaultNamespace := "default" }
  ns := "--set"
  name := "pv-migrate-abcde"

/-- Values that look like options are values all the same. -/
theorem arguments_read_back_lookalike :
    ReleaseRef.lookalike.name.toList.head? ≠ some '-' ∧ "/chart".toList.head? ≠ some '-' ∧
      Invocation.ofWords? (installArguments .lookalike "/chart" "-f"
          { files := ["--timeout", ""], stringAssignments := ["--set-file", "-f"] }
          (.ofMillis 10)) = some {
        command := "install"
        positionals := ["pv-migrate-abcde", "/chart"]
        waits := true
        namespaces := ["--set"]
        timeouts := [1]
        kubeconfigs := ["--kube-context"]
        contexts := ["--wait"]
        values := {
          files := ["-f", "--timeout", ""]
          stringAssignments := ["--set-file", "-f"] } } := by
  have hname : ReleaseRef.lookalike.name.toList.head? ≠ some '-' := by decide
  have hchart : "/chart".toList.head? ≠ some '-' := by decide
  exact ⟨hname, hchart, (arguments_read_back .lookalike hname).1 "/chart" "-f" _ _ hchart⟩

end VolumeMigration.Helm

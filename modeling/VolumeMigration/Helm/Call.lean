import VolumeMigration.Cluster.Client
import VolumeMigration.Helm.Outcome
import VolumeMigration.Request
import VolumeMigration.Tree
import VolumeMigration.Yaml.Document

/-!
# Calls of helm

One call of the helm program: what it is to do with which release, and how long it may take.

Values are layered. Helm lets later ones win, so the file of the strategy comes first and
everything that the user gave comes after it. That file is YAML, under a name of its own, and
nobody but the owner may read it, since it may hold a private key.
-/

namespace VolumeMigration.Helm

/-! ### Arguments -/

/-- A release on a cluster. -/
structure ReleaseRef where
  client : Client
  ns : String
  name : String
  deriving DecidableEq, Repr

/-- A timeout in whole seconds, one at least. -/
def timeoutArgument (timeout : Duration) : String :=
  toString (max 1 timeout.seconds) ++ "s"

/-- A flag before each of several values. -/
def flagged (flag : String) (values : List String) : List String :=
  values.flatMap fun value ↦ [flag, value]

/-- What every command says about the release it is for. -/
def commonArguments (release : ReleaseRef) (timeout : Duration) : List String :=
  ["--namespace", release.ns, "--wait", "--timeout", timeoutArgument timeout] ++
    release.client.helmArguments

/-- The values that a release is installed with. -/
def valueArguments (valuesFile : String) (overlays : ValueOverlays) : List String :=
  flagged "-f" (valuesFile :: overlays.files) ++ flagged "--set" overlays.assignments ++
    flagged "--set-string" overlays.stringAssignments ++
    flagged "--set-file" overlays.fileAssignments

/-- Arguments that install the chart as a release. -/
def installArguments (release : ReleaseRef) (chart valuesFile : String)
    (overlays : ValueOverlays) (timeout : Duration) : List String :=
  ["install", release.name, chart] ++ commonArguments release timeout ++
    valueArguments valuesFile overlays

/-- Arguments that uninstall a release. -/
def uninstallArguments (release : ReleaseRef) (timeout : Duration) : List String :=
  ["uninstall", release.name] ++ commonArguments release timeout

/-! ### Calls -/

/-- What a call is to do with its release. -/
inductive Action where
  /-- Install the chart in a directory, with these values in a file of this path. -/
  | install (chart valuesFile : String) (values : Tree) (overlays : ValueOverlays)
  | uninstall
  deriving Repr

/-- A call of helm. -/
structure Call where
  /-- The program. -/
  binary : String
  release : ReleaseRef
  action : Action
  timeout : Duration
  deriving Repr

namespace Call

/-- The arguments of the program. -/
def arguments (call : Call) : List String :=
  match call.action with
  | .install chart valuesFile _ overlays =>
    installArguments call.release chart valuesFile overlays call.timeout
  | .uninstall => uninstallArguments call.release call.timeout

/-- The values that a release is installed with, below everything that the user gave. -/
def values? (call : Call) : Option Tree :=
  match call.action with
  | .install _ _ values _ => some values
  | .uninstall => none

/-- Whether the call installs a release. -/
def isInstall (call : Call) : Bool := call.values?.isSome

/-- Whether a deadline can be set for the call. -/
def hasDeadline (call : Call) : Bool := isRepresentable (deadline call.timeout)

end Call

end VolumeMigration.Helm

namespace VolumeMigration.Helm.ValuesFile

/-! ### Values files -/

/-- The permissions of a values file: the owner reads and writes. -/
def mode : Nat := 0o600

/-- What the name of a values file begins with. -/
def nameStart (attemptId : String) : String := "pv-migrate-vals-" ++ attemptId ++ "-"

/-- What the name of a values file ends with. -/
def nameEnd : String := ".yaml"

/-- The name of a values file; `unique` tells it from others of the same attempt. -/
def name (attemptId unique : String) : String := nameStart attemptId ++ unique ++ nameEnd

/-- Whether a file name is that of a values file of an attempt. -/
def isName (attemptId file : String) : Bool :=
  (nameStart attemptId).isPrefixOf file && file.endsWith nameEnd

/-- What a values file contains. -/
def contents (values : Tree) : String := Yaml.document values

end VolumeMigration.Helm.ValuesFile

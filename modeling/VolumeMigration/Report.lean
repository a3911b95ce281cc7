/-!
# What is reported

Every failure that a run can report is a `MigrationError`. Two groups matter to the run:
what was wrong before any strategy started, and cancellation, end it at once; whatever a
strategy runs into while it moves data lets the next strategy have its turn
(`MigrationError.isRecoverable`).

While it works, the engine reports log entries: a level, a message that never varies, and
named fields that carry what does. Entries are values; where they are shown is not decided
here.
-/

namespace VolumeMigration

/-! ### Failures -/

/-- The name of an object within a namespace of a cluster. -/
structure NamespacedName where
  ns : String
  name : String
  deriving DecidableEq, Repr

namespace NamespacedName

/-- The usual written form, `namespace/name`. -/
def path (n : NamespacedName) : String := n.ns ++ "/" ++ n.name

end NamespacedName

/-- Why a migration, or one strategy's attempt at it, has failed. -/
inductive MigrationError where
  /-- No usable kubeconfig, or not the requested context. -/
  | kubeconfig (reason : String)
  /-- The claim does not exist. -/
  | claimNotFound (claim : NamespacedName)
  /-- The claim cannot be migrated in its present state. -/
  | claimUnsupported (claim : NamespacedName) (reason : String)
  /-- The claim is mounted, and mounted claims were not allowed. -/
  | claimMounted (name node : String)
  /-- The destination admits no writer. -/
  | claimNotWritable (claim : NamespacedName)
  /-- A strategy of this name does not exist. -/
  | unknownStrategy (name : String)
  /-- The strategy does not suit this migration. -/
  | unaccepted
  /-- Helm could not install a release. -/
  | install (release reason : String)
  /-- Helm could not uninstall a release. -/
  | uninstall (release reason : String)
  /-- The job's pod ended without success, or never came. -/
  | jobFailed (job : NamespacedName)
  /-- The service never published an address. -/
  | loadBalancerTimeout (service : NamespacedName)
  /-- No node can be reached by an address. -/
  | noNodeAddress
  /-- A port-forward could not be opened or broke. -/
  | portForward (reason : String)
  /-- A command could not be written down, or ended without success. -/
  | command (reason : String)
  /-- Every strategy was tried and none succeeded. -/
  | allStrategiesFailed
  /-- A key pair could not be made. -/
  | key (reason : String)
  /-- The run was cancelled. -/
  | cancelled
  /-- A request to the Kubernetes API failed. -/
  | kubernetes (reason : String)
  /-- A watch of cluster objects failed. -/
  | watch (reason : String)
  /-- Waiting for a condition of a cluster object failed. -/
  | wait (reason : String)
  /-- A file or a process could not be used. -/
  | io (reason : String)
  /-- The chart values could not be written. -/
  | yaml (reason : String)
  deriving DecidableEq, Repr

namespace MigrationError

/-- The text by which a failure is reported. -/
def message : MigrationError → String
  | kubeconfig reason => "kubeconfig error: " ++ reason
  | claimNotFound claim => "pvc " ++ claim.path ++ " not found"
  | claimUnsupported claim reason => "pvc " ++ claim.path ++ " is not supported: " ++ reason
  | claimMounted name node =>
    "PVC " ++ name ++ " is mounted to node " ++ node ++ " and ignore-mounted is not requested"
  | claimNotWritable claim => "destination pvc " ++ claim.path ++ " is not writable"
  | unknownStrategy name => "unknown strategy: " ++ name
  | unaccepted => "strategy cannot handle this migration"
  | install release reason => "failed to install helm release " ++ release ++ ": " ++ reason
  | uninstall release reason => "failed to uninstall helm release " ++ release ++ ": " ++ reason
  | jobFailed job => "job " ++ job.path ++ " failed"
  | loadBalancerTimeout service =>
    "timed out waiting for load balancer address of service " ++ service.path
  | noNodeAddress => "no node with an InternalIP or ExternalIP address found"
  | portForward reason => "port-forward error: " ++ reason
  | command reason => "command error: " ++ reason
  | allStrategiesFailed => "all strategies failed"
  | key reason => "ssh key error: " ++ reason
  | cancelled => "migration cancelled"
  | kubernetes reason => "kubernetes api error: " ++ reason
  | watch reason => "watch error: " ++ reason
  | wait reason => "wait error: " ++ reason
  | io reason => "io error: " ++ reason
  | yaml reason => "yaml error: " ++ reason

/-- Whether the next strategy may be tried after this failure. What is wrong with the
request itself stays wrong for every strategy, and a cancelled run is over. -/
def isRecoverable : MigrationError → Bool
  | kubeconfig _ | claimNotFound _ | claimUnsupported _ _ | claimMounted _ _
  | claimNotWritable _ | unknownStrategy _ | allStrategiesFailed | cancelled => false
  | _ => true

end MigrationError

/-- Why the program as a whole ends without success. -/
inductive ProgramError where
  /-- The migration failed. -/
  | migration (cause : MigrationError)
  /-- The program was set up wrongly. -/
  | configuration (reason : String)
  deriving DecidableEq, Repr

namespace ProgramError

/-- The text shown to the user. A failed migration is shown as it is. -/
def message : ProgramError → String
  | migration cause => cause.message
  | configuration reason => "configuration error: " ++ reason

/-- The failure behind this one, if there is one. -/
def source? : ProgramError → Option MigrationError
  | migration cause => some cause
  | configuration _ => none

end ProgramError

/-! ### Log entries -/

/-- How much attention a log entry asks for. -/
inductive LogLevel where
  | debug
  | info
  | warn
  deriving DecidableEq, Repr

/-- One reported event. -/
structure LogEntry where
  level : LogLevel
  message : String
  /-- Named values, in the order in which they were reported. -/
  fields : List (String × String)
  deriving DecidableEq, Repr

namespace LogEntry

/-- An entry for those who follow every step. -/
def debug (message : String) (fields : List (String × String)) : LogEntry :=
  ⟨.debug, message, fields⟩

/-- An entry about ordinary progress. -/
def info (message : String) (fields : List (String × String)) : LogEntry :=
  ⟨.info, message, fields⟩

/-- An entry about something that went wrong without ending the run. -/
def warn (message : String) (fields : List (String × String)) : LogEntry :=
  ⟨.warn, message, fields⟩

end LogEntry

end VolumeMigration

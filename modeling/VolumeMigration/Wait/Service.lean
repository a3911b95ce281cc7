import VolumeMigration.Cluster.Objects
import VolumeMigration.Report
import VolumeMigration.Wait.Watch

/-!
# Waiting for the address of a service

A service is watched until it shows an address (`Service.awaitAddress`) or a node port
(`Service.awaitNodePort`). The first state that shows one decides. A watch that fails before
that is an error of its own; if the deadline passes, or the stream ends, the wait has timed
out. Deleted services show nothing and are not reported.
-/

namespace VolumeMigration

/-- The result of a wait, when it came, and what was reported on the way. -/
structure Waited (α : Type) where
  result : Except MigrationError α
  elapsed : Duration
  logs : List LogEntry
  deriving Repr

namespace Service

/-- What a service that does not show what is waited for gives rise to. -/
def notReady (id : NamespacedName) : LogEntry :=
  .debug "service not ready yet" [("namespace", id.ns), ("service", id.name)]

/-- Waits until `extract` finds something in the service. -/
def await {α : Type} (id : NamespacedName) (timeout : Duration) (extract : Service → Option α)
    (states : Watch (Option Service)) : Waited α :=
  let seen := states.until timeout
  let f (state : Option Service) := state.bind extract
  let logs := ((seen.passed f).filterMap (·)).map fun _ ↦ notReady id
  match seen.find f with
  | .found time value => ⟨.ok value, time, logs⟩
  | .failed time reason => ⟨.error (.watch reason), time, logs⟩
  | .closed time => ⟨.error (.loadBalancerTimeout id), time, logs⟩
  | .never => ⟨.error (.loadBalancerTimeout id), timeout, logs⟩

/-- A wait that reports what it has found. -/
def report {α : Type} (entry : α → LogEntry) (waited : Waited α) : Waited α :=
  match waited.result with
  | .ok value => { waited with logs := waited.logs ++ [entry value] }
  | .error _ => waited

/-- Waits for the address of a load balancer. -/
def awaitAddress (id : NamespacedName) (timeout : Duration) (states : Watch (Option Service)) :
    Waited String :=
  report (fun address ↦ .info "load balancer address acquired"
      [("namespace", id.ns), ("service", id.name), ("address", address)])
    (await id timeout loadBalancerAddress? states)

/-- Waits for a port of the nodes. -/
def awaitNodePort (id : NamespacedName) (timeout : Duration) (states : Watch (Option Service)) :
    Waited Nat :=
  report (fun port ↦ .info "node port acquired"
      [("namespace", id.ns), ("service", id.name), ("port", toString port)])
    (await id timeout sshNodePort? states)

end Service

end VolumeMigration

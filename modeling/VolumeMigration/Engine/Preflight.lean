import VolumeMigration.Engine.Run
import VolumeMigration.Helm.Chart
import VolumeMigration.Kubeconfig.Client
import VolumeMigration.Strategy.Plan

/-!
# Before any strategy

What is wrong with a request is found out before anything is installed: clusters that cannot
be reached, claims that do not exist, that are in use or that cannot be written to. The
checks are made in a fixed order, the source before the destination, and the first one that
fails ends the run.
-/

namespace VolumeMigration

namespace ClassifiedClaim

/-- A claim that is mounted is migrated only on request. That it is, is reported. -/
def checkMounted (c : ClassifiedClaim) (ignoreMounted : Bool) :
    Except MigrationError (List LogEntry) :=
  match c.mountedNode with
  | none => .ok []
  | some node =>
    if ignoreMounted then
      .ok [.info "ignoring mounted pvc" [("pvc", c.id.path), ("node", node)]]
    else .error (.claimMounted c.name node)

/-- A claim that admits a writer. -/
def checkWritable (c : ClassifiedClaim) : Except MigrationError Unit :=
  if c.rwo || c.rwx then .ok () else .error (.claimNotWritable c.id)

end ClassifiedClaim

/-- Looks up a claim and classifies it. -/
def lookUp (w : World) (client : Client) (id : NamespacedName) (r : Run) :
    Except MigrationError ClassifiedClaim × Run :=
  let reply := (w r.history).claim client id
  let r := (r.note (.claimSought client id)).interrupt reply.cancels
  match reply.answer with
  | .error .absent => (.error (.claimNotFound id), r)
  | .error (.failed reason) => (.error (.kubernetes reason), r)
  | .ok claim =>
    let reply := (w r.history).pods client id.ns
    let r := (r.note (.podsSought client id.ns)).interrupt reply.cancels
    match reply.answer with
    | .error reason => (.error (.kubernetes reason), r)
    | .ok pods => (ClassifiedClaim.classify client claim pods, r)

/-- The checks of two classified claims, and what they report. -/
def checkClaims (request : Request) (source destination : ClassifiedClaim) :
    List LogEntry × Except MigrationError Unit :=
  match source.checkMounted request.ignoreMounted with
  | .error e => ([], .error e)
  | .ok logs =>
    match destination.checkMounted request.ignoreMounted with
    | .error e => (logs, .error e)
    | .ok others => (logs ++ others, destination.checkWritable)

/-- A migration that may begin, and where its chart is. -/
structure Prepared where
  migration : Migration
  chart : String
  deriving DecidableEq, Repr

/-- Finds both claims, makes all checks and unpacks the chart. -/
def prepare (w : World) (env : Surroundings) (request : Request) (r : Run) :
    Except MigrationError Prepared × Run :=
  let r := r.note .clientsSought
  match loadClients env request.source request.destination with
  | .error e => (.error e, r)
  | .ok clients =>
    let sourceId : NamespacedName :=
      ⟨request.source.resolveNamespace clients.source, request.source.name⟩
    let destinationId : NamespacedName :=
      ⟨request.destination.resolveNamespace clients.destination, request.destination.name⟩
    let r := r.log (.debug "resolved claims"
      [("source", sourceId.path), ("dest", destinationId.path)])
    match lookUp w clients.source sourceId r with
    | (.error e, r) => (.error e, r)
    | (.ok source, r) =>
      match lookUp w clients.destination destinationId r with
      | (.error e, r) => (.error e, r)
      | (.ok destination, r) =>
        let (logs, checked) := checkClaims request source destination
        let r := r.logAll logs
        match checked with
        | .error e => (.error e, r)
        | .ok () =>
          match (w r.history).unpack Helm.Chart.files with
          | .error reason => (.error (.io reason), r)
          | .ok chart =>
            (.ok ⟨{ source, destination, request }, chart⟩,
              r.log (.debug "chart materialized" [("path", chart)]))

end VolumeMigration

import VolumeMigration.Cluster.Objects
import VolumeMigration.Report
import VolumeMigration.Request
import VolumeMigration.Rsync.Command
import VolumeMigration.Strategy.Values
import VolumeMigration.Text.Ipv6

/-!
# What each strategy installs

For two classified claims and a request: which chart values each strategy hands to helm
and which command copies the data. The source claim is always mounted at `sourceMount`,
read-only unless the request says otherwise, and the destination claim at
`destinationMount` for writing.

* `mount` runs rsync in one pod with both claims (`Migration.mountValues`). One pod must be
  able to mount both (`Migration.sharesNode`), on the node `Migration.pinnedNode` if there
  is one.
* `clusterIp`, `loadBalancer` and `nodePort` run sshd beside the source and rsync beside the
  destination; they differ in the host, and the port, that rsync connects to.
* `viaLocal` runs an sshd on either side and rsync inside the pod of the source, through a
  tunnel that ends at the sshd of the destination.
-/

namespace VolumeMigration

/-- Two classified claims and what is asked for. -/
structure Migration where
  source : ClassifiedClaim
  destination : ClassifiedClaim
  request : Request
  deriving DecidableEq, Repr

/-- Where pods of a migration mount the source claim. -/
def sourceMount : String := "/source"

/-- Where pods of a migration mount the destination claim. -/
def destinationMount : String := "/dest"

/-- A path below a mount point. -/
def dataPath (mountPoint path : String) : String := mountPoint ++ "/" ++ path

/-- The rsync job of a release. -/
def jobName (release : String) : String := release ++ "-rsync"

/-- The sshd service of a release. -/
def sshdServiceName (release : String) : String := release ++ "-sshd"

namespace Request

/-- The command that copies locally between both mount points. -/
def command (r : Request) : Rsync.Command where
  source := { path := dataPath sourceMount r.source.path }
  destination := { path := dataPath destinationMount r.destination.path }
  noChown := r.noChown
  delete := r.deleteExtraneous
  compress := r.compress

/-- The host that rsync is to connect to: that of the request, or else the one found. -/
def remoteHost (r : Request) (discovered : String) : String :=
  match r.hostOverride with
  | some host => if host.isEmpty then discovered else host
  | none => discovered

/-- What is logged when the request decides on the host. -/
def remoteHostLog (r : Request) : List LogEntry :=
  match r.hostOverride with
  | some host =>
    if host.isEmpty then [] else [.info "using destination host override" [("host", host)]]
  | none => []

end Request

/-- The text of a command, its failure as that of a run. -/
def commandLine (c : Rsync.Command) : Except MigrationError String :=
  c.line.mapError Rsync.CommandError.toMigrationError

namespace Migration

/-- Whether both claims are on the same API server. -/
def sameCluster (m : Migration) : Bool := m.source.client.sameCluster m.destination.client

def sourceClaimMount (m : Migration) : ClaimMount :=
  ⟨m.source.name, sourceMount, m.request.sourceReadOnly⟩

def destinationClaimMount (m : Migration) : ClaimMount :=
  ⟨m.destination.name, destinationMount, false⟩

/-! ### One pod with both claims -/

/-- Whether one pod can mount both claims at once. -/
def sharesNode (m : Migration) : Bool :=
  m.sameCluster && m.source.ns == m.destination.ns &&
    (m.source.mountedNode == m.destination.mountedNode || m.source.mountedNode.isNone ||
      m.destination.mountedNode.isNone || m.source.rox || m.source.rwx || m.destination.rwx)

/-- The node that such a pod must run on. A mounted claim that is bound to one node
decides, the source before the destination; then any mounted one. -/
def pinnedNode (m : Migration) : Option String :=
  let bound (c : ClassifiedClaim) := if c.isNodeBound then c.mountedNode else none
  (bound m.source).or <| (bound m.destination).or <|
    m.source.mountedNode.or m.destination.mountedNode

/-- One rsync job with both claims. -/
def mountValues (m : Migration) (command : String) : ChartValues where
  rsync := some {
    ns := m.destination.ns
    command
    mounts := [m.sourceClaimMount, m.destinationClaimMount]
    placement := .onNode m.pinnedNode }

/-! ### sshd beside the source, rsync beside the destination -/

/-- An sshd that serves the source claim. -/
def sourceSshd (m : Migration) (keys : Ssh.KeyPair) (exposure : Exposure) : SshdValues where
  ns := m.source.ns
  publicKey := keys.publicKey
  mounts := [m.sourceClaimMount]
  affinity := m.source.affinity
  exposure := some exposure

/-- An rsync job that fetches into the destination claim from `host`. -/
def destinationRsync (m : Migration) (keys : Ssh.KeyPair) (host : String) (port : Option Nat)
    (command : String) : RsyncValues where
  ns := m.destination.ns
  command
  mounts := [m.destinationClaimMount]
  placement := .byAffinity m.destination.affinity
  login := some { key := .ofKeyPair keys, host, port }

/-- The command that fetches the source from `host`. -/
def fetchCommand (m : Migration) (host : String) (port : Option Nat) : Rsync.Command :=
  let base := m.request.command
  { base with source := { base.source with login := some { host } }, port }

/-- The destination side of every strategy that connects to an sshd: its values for the
host that was found. -/
def fetchingRsync (m : Migration) (keys : Ssh.KeyPair) (discovered : String)
    (port : Option Nat) : Except MigrationError RsyncValues := do
  let host := m.request.remoteHost discovered
  let command ← commandLine (m.fetchCommand host port)
  return m.destinationRsync keys host port command

/-- The name by which the sshd of a release is found inside its cluster. -/
def sshdDnsName (m : Migration) (release : String) : String :=
  Service.dnsName (sshdServiceName release) m.source.ns

/-- Both sides in one release. -/
def clusterIpValues (m : Migration) (keys : Ssh.KeyPair) (release : String) :
    Except MigrationError ChartValues := do
  let rsync ← m.fetchingRsync keys (m.sshdDnsName release) none
  return { sshd := some (m.sourceSshd keys .clusterIp), rsync := some rsync }

/-- The source side behind a load balancer. -/
def loadBalancerSourceValues (m : Migration) (keys : Ssh.KeyPair) : ChartValues where
  sshd := some (m.sourceSshd keys .loadBalancer)

/-- The destination side, given the address of the load balancer. -/
def loadBalancerDestinationValues (m : Migration) (keys : Ssh.KeyPair) (address : String) :
    Except MigrationError ChartValues := do
  return { rsync := some (← m.fetchingRsync keys (Text.Ipv6.bracketed address) none) }

/-- The source side behind a port of the nodes. -/
def nodePortSourceValues (m : Migration) (keys : Ssh.KeyPair) : ChartValues where
  sshd := some (m.sourceSshd keys (.nodePort m.request.nodePort))

/-- The destination side, given the address of a node and the port. -/
def nodePortDestinationValues (m : Migration) (keys : Ssh.KeyPair) (address : String)
    (port : Nat) : Except MigrationError ChartValues := do
  return { rsync := some (← m.fetchingRsync keys (Text.Ipv6.bracketed address) (some port)) }

/-- Inside one cluster nodes reach each other by internal addresses, across clusters only
by external ones. -/
def addressPreference (m : Migration) : AddressKind :=
  if m.sameCluster then .internal else .external

/-! ### Through this machine -/

/-- The port that the tunnel opens in the pod of the source. -/
def tunnelPort : Nat := 50000

/-- The source side: an sshd that can log in to that of the destination. -/
def localSourceValues (m : Migration) (keys : Ssh.KeyPair) : ChartValues where
  sshd := some { m.sourceSshd keys .clusterIp with key := some (.ofKeyPair keys) }

/-- The destination side: an sshd that serves the destination claim. -/
def localDestinationValues (m : Migration) (keys : Ssh.KeyPair) : ChartValues where
  sshd := some {
    ns := m.destination.ns
    publicKey := keys.publicKey
    mounts := [m.destinationClaimMount]
    affinity := m.destination.affinity }

/-- The command that runs in the pod of the source and pushes through the tunnel. -/
def pushCommand (m : Migration) (algorithm : Ssh.Algorithm) : Rsync.Command :=
  let base := m.request.command
  { base with
    destination := { base.destination with login := some { host := "localhost" } }
    identityFile := some algorithm.mountPath
    port := some tunnelPort }

/-- The arguments of the local ssh client: it logs in to the forwarded port of the source
and leads the tunnel to the forwarded port of the destination. -/
def sshArguments (keyFile : String) (sourcePort destinationPort : Nat) (command : String) :
    List String :=
  ["-i", keyFile, "-p", toString sourcePort,
    "-R", toString tunnelPort ++ ":localhost:" ++ toString destinationPort,
    "-o", "StrictHostKeyChecking=no", "-o", "UserKnownHostsFile=/dev/null",
    "root@localhost", command]

end Migration

end VolumeMigration

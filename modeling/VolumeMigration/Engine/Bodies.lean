import VolumeMigration.Engine.Attempt

/-!
# What the strategies do

One body for each strategy (`Strategy.body`). They share a shape: decline what does not suit,
make keys, install the side that is connected to, find out where it is reached, install the
side that connects, wait until the data have been copied.

`mount` and `clusterIp` are the only ones that decline, and they do so before anything else.
-/

namespace VolumeMigration

namespace Body

/-- Declines the migration unless a condition holds. -/
def acceptIf (condition : Bool) : Body Unit :=
  if condition then done () else fail .unaccepted

/-- Installs a release with chart values. -/
def installRelease (release : Helm.ReleaseRef) (values : ChartValues) : Body Unit :=
  errand (.install release values.toTree)

/-- Waits for the rsync job of a release. -/
def awaitJob (release : Helm.ReleaseRef) : Body Unit :=
  errand (.job release.client ⟨release.ns, jobName release.name⟩)

/-- The sshd service of a release. -/
def sshdService (release : Helm.ReleaseRef) : NamespacedName :=
  ⟨release.ns, sshdServiceName release.name⟩

/-- An entry that names a release. -/
def releaseEntry (message : String) (release : Helm.ReleaseRef)
    (others : List (String × String)) : LogEntry :=
  .info message (("release", release.name) :: others)

end Body

namespace Attempt

open Body

/-- One pod mounts both claims. -/
def mountBody (a : Attempt) : Body Unit := do
  let m := a.migration
  acceptIf m.sharesNode
  let command ← ofExcept (commandLine m.request.command)
  log (releaseEntry "installing rsync job mounting both claims" a.soleRelease
    [("node", describeOption Text.quoted m.pinnedNode)])
  installRelease a.soleRelease (m.mountValues command)
  awaitJob a.soleRelease

/-- sshd beside the source, reached by the name of its service inside the cluster. -/
def clusterIpBody (a : Attempt) : Body Unit := do
  let m := a.migration
  acceptIf m.sameCluster
  let keys ← newKeys m.request.algorithm
  report m.request.remoteHostLog (done ())
  let values ← ofExcept (m.clusterIpValues keys a.releaseName)
  log (releaseEntry "installing sshd and rsync over cluster dns" a.soleRelease [])
  installRelease a.soleRelease values
  awaitJob a.soleRelease

/-- sshd beside the source, reached through a load balancer. -/
def loadBalancerBody (a : Attempt) : Body Unit := do
  let m := a.migration
  let keys ← newKeys m.request.algorithm
  log (releaseEntry "installing sshd behind a load balancer" a.sourceRelease [])
  installRelease a.sourceRelease (m.loadBalancerSourceValues keys)
  let address ← errand (.address a.sourceRelease.client (sshdService a.sourceRelease))
  log (releaseEntry "installing rsync job" a.destinationRelease [("address", address)])
  report m.request.remoteHostLog (done ())
  let values ← ofExcept (m.loadBalancerDestinationValues keys address)
  installRelease a.destinationRelease values
  awaitJob a.destinationRelease

/-- The address of a node, if one was found. -/
def nodeAddress (address : Option String) : Body String :=
  match address with
  | some address => done address
  | none => fail .noNodeAddress

/-- sshd beside the source, reached through a port of the nodes. -/
def nodePortBody (a : Attempt) : Body Unit := do
  let m := a.migration
  let keys ← newKeys m.request.algorithm
  log (releaseEntry "installing sshd behind a node port" a.sourceRelease
    [("node_port", describeOption toString (m.request.nodePort.map toString))])
  installRelease a.sourceRelease (m.nodePortSourceValues keys)
  let port ← errand (.nodePort a.sourceRelease.client (sshdService a.sourceRelease))
  let pods ← errand (.sshdPods a.sourceRelease)
  let nodes ← errand (.nodes a.sourceRelease.client)
  let preferred := pods.findSome? fun p : Pod ↦ p.node
  let address ← nodeAddress (pickAddress? nodes preferred m.addressPreference)
  log (releaseEntry "installing rsync job" a.destinationRelease
    [("node_ip", address), ("port", toString port)])
  report m.request.remoteHostLog (done ())
  let values ← ofExcept (m.nodePortDestinationValues keys address port)
  installRelease a.destinationRelease values
  awaitJob a.destinationRelease

/-- Goes on if there is an ssh program. -/
def needSsh (present : Bool) : Body Unit :=
  if present then done ()
  else fail (.command "ssh binary not found on PATH, it is required by the local strategy")

/-- What is reported when both port-forwards stop. -/
def forwardsStopped (f : Forwards) : List LogEntry :=
  [PortForward.stopped f.sourcePod f.sourcePort,
    PortForward.stopped f.destinationPod f.destinationPort]

/-- Logs in to the forwarded port of the source, with a tunnel to that of the destination,
and copies from there. -/
def copyThrough (a : Attempt) (keys : Ssh.KeyPair) (f : Forwards) : Body Unit := do
  let command ← ofExcept (commandLine (a.migration.pushCommand keys.algorithm))
  let file ← ask .keyFile ofExcept
  log (.debug "starting local ssh client"
    [("src_port", toString f.sourcePort), ("dest_port", toString f.destinationPort)])
  errand (.ssh (Migration.sshArguments file f.sourcePort f.destinationPort command))

/-- sshd on either side, bridged by this machine. Whatever comes of the copy, both port-forwards
are stopped behind it. -/
def localBody (a : Attempt) : Body Unit := do
  let m := a.migration
  let present ← ask .hasSsh done
  needSsh present
  let keys ← newKeys m.request.algorithm
  log (.info "installing sshd on both sides"
    [("source", a.sourceRelease.name), ("dest", a.destinationRelease.name)])
  installRelease a.sourceRelease (m.localSourceValues keys)
  installRelease a.destinationRelease (m.localDestinationValues keys)
  let forwards ← errand (.forwards a.sourceRelease a.destinationRelease)
  (a.copyThrough keys forwards).reportAtEnd (forwardsStopped forwards)

end Attempt

/-- What a strategy does. -/
def Strategy.body (s : Strategy) (a : Attempt) : Body Unit :=
  match s with
  | .mount => a.mountBody
  | .clusterIp => a.clusterIpBody
  | .loadBalancer => a.loadBalancerBody
  | .nodePort => a.nodePortBody
  | .viaLocal => a.localBody

end VolumeMigration

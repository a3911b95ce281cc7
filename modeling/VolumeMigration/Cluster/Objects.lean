import VolumeMigration.Tree

/-!
# Objects of a cluster

What matters of pods, nodes and services, read out of the objects of the Kubernetes API.

Of a pod: its name, the node it runs on, the claims it mounts and the phase of its life.

Of nodes: their addresses. A port that a service opens on the nodes is reached by the address of
any of them, and `pickAddress?` chooses one: an address of the preferred node if that node has any,
or else of the first node that has. Within a node the preferred kind of address comes first.

Of a service: how the sshd of a release is reached from outside its pod, be it by the name of the
service inside the cluster, by the address of a load balancer, or by a port that every node opens.
-/

namespace VolumeMigration

/-! ### Pods -/

/-- A pod as the cluster describes it. -/
structure Pod where
  name : Option String := none
  ns : Option String := none
  node : Option String := none
  /-- Names of the claims behind the pod's volumes. -/
  claims : List String := []
  phase : Option String := none
  deriving DecidableEq, Repr

namespace Pod

/-- Reads a pod out of an object of the Kubernetes API. -/
def ofTree (t : Tree) : Pod where
  name := (t.path ["metadata", "name"]).string?
  ns := (t.path ["metadata", "namespace"]).string?
  node := (t.path ["spec", "nodeName"]).string?
  claims := (t.path ["spec", "volumes"]).items.filterMap fun volume ↦
    match volume.get "persistentVolumeClaim" with
    | .null => none
    | claim => some ((claim.get "claimName").string?.getD "")
  phase := (t.path ["status", "phase"]).string?

/-- Whether the pod has run, so that it has a log to follow. -/
def isTailable (p : Pod) : Bool :=
  match p.phase with
  | some phase => phase != "Pending" && phase != "Unknown"
  | none => false

def hasSucceeded (p : Pod) : Bool := p.phase == some "Succeeded"

def hasFailed (p : Pod) : Bool := p.phase == some "Failed"

/-- Whether nothing more will happen to a pod: it has ended, or it is gone. -/
def isFinished : Option Pod → Bool
  | some p => p.hasSucceeded || p.hasFailed
  | none => true

/-- The selector of the sshd pod of a release. -/
def sshdSelector (release : String) : String :=
  "app.kubernetes.io/component=sshd,app.kubernetes.io/instance=" ++ release

/-- The selector of the pods of a job. -/
def jobSelector (job : String) : String := "job-name=" ++ job

end Pod

/-! ### Nodes -/

/-- The kinds of address that can be connected to. -/
inductive AddressKind where
  | internal
  | external
  deriving DecidableEq, Repr

namespace AddressKind

/-- The name by which a node reports an address of this kind. -/
def name : AddressKind → String
  | internal => "InternalIP"
  | external => "ExternalIP"

/-- The kinds in their order when this one is preferred. -/
def order : AddressKind → List AddressKind
  | internal => [internal, external]
  | external => [external, internal]

end AddressKind

/-- An address that a node reports. -/
structure NodeAddress where
  kind : String := ""
  address : String := ""
  deriving DecidableEq, Repr

/-- A node as the cluster describes it. -/
structure Node where
  name : Option String := none
  addresses : List NodeAddress := []
  deriving DecidableEq, Repr

namespace Node

/-- Reads a node out of an object of the Kubernetes API. -/
def ofTree (t : Tree) : Node where
  name := (t.path ["metadata", "name"]).string?
  addresses := (t.path ["status", "addresses"]).items.map fun address ↦
    { kind := (address.get "type").string?.getD ""
      address := (address.get "address").string?.getD "" }

/-- The node's first address of a kind. -/
def addressOfKind? (n : Node) (kind : AddressKind) : Option String :=
  (n.addresses.find? fun a ↦ a.kind == kind.name && !a.address.isEmpty).map (·.address)

/-- The node's address, of the preferred kind if it has one of that kind. -/
def address? (n : Node) (preference : AddressKind) : Option String :=
  preference.order.findSome? n.addressOfKind?

end Node

/-- The address by which the nodes of a cluster are reached. -/
def pickAddress? (nodes : List Node) (preferred : Option String) (preference : AddressKind) :
    Option String :=
  let ofPreferred := match preferred with
    | some name =>
      match nodes.find? fun n : Node ↦ n.name == some name with
      | some node => node.address? preference
      | none => none
    | none => none
  ofPreferred.or (nodes.findSome? fun n : Node ↦ n.address? preference)

/-! ### Services -/

/-- The port sshd listens on inside its pod. -/
def sshPort : Nat := 22

/-- An address that a load balancer has published. -/
structure Ingress where
  hostname : Option String := none
  ip : Option String := none
  deriving DecidableEq, Repr

/-- A port of a service. -/
structure ServicePort where
  name : Option String := none
  port : Int := 0
  /-- The port that every node opens. -/
  nodePort : Option Int := none
  deriving DecidableEq, Repr

/-- A service as the cluster describes it. -/
structure Service where
  kind : Option String := none
  ports : List ServicePort := []
  ingress : List Ingress := []
  deriving DecidableEq, Repr

namespace Service

/-- Reads a service out of an object of the Kubernetes API. -/
def ofTree (t : Tree) : Service where
  kind := (t.path ["spec", "type"]).string?
  ports := (t.path ["spec", "ports"]).items.map fun port ↦
    { name := (port.get "name").string?
      port := (port.get "port").int?.getD 0
      nodePort := (port.get "nodePort").int? }
  ingress := (t.path ["status", "loadBalancer", "ingress"]).items.map fun ingress ↦
    { hostname := (ingress.get "hostname").string?, ip := (ingress.get "ip").string? }

/-- The name by which a service is found inside its cluster. -/
def dnsName (service ns : String) : String := service ++ "." ++ ns

/-- A text that is there and not empty. -/
def nonEmpty? (s : Option String) : Option String := s.filter (!·.isEmpty)

/-- The address of the first ingress: its host name, or else its IP address. -/
def loadBalancerAddress? (s : Service) : Option String :=
  match s.ingress with
  | [] => none
  | first :: _ => (nonEmpty? first.hostname).or (nonEmpty? first.ip)

end Service

namespace ServicePort

/-- Whether every node opens a port for this one. -/
def isOpen (p : ServicePort) : Bool :=
  match p.nodePort with
  | some n => 0 < n
  | none => false

/-- Whether ssh is served here, by the port's name or by its number. -/
def servesSsh (p : ServicePort) : Bool := p.name == some "ssh" || p.port == sshPort

end ServicePort

namespace Service

/-- The port that every node opens for ssh: that of the first open port which serves ssh,
or else of the first open one. A number beyond the range of ports is none. -/
def sshNodePort? (s : Service) : Option Nat :=
  if s.kind == some "NodePort" then
    let ports := s.ports.filter ServicePort.isOpen
    match (ports.find? ServicePort.servesSsh).or ports.head? with
    | some chosen => (chosen.nodePort.map Int.toNat).filter (· < 65536)
    | none => none
  else none

end Service

end VolumeMigration

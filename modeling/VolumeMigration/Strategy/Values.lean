import VolumeMigration.Cluster.Claim
import VolumeMigration.Ssh.KeyPair

/-!
# Chart values

What a strategy tells the chart to install: an sshd that serves a claim, an rsync job, or
both. A key that does not apply is left out, except for the placement of a pod, which is
null where there is none.
-/

namespace VolumeMigration

/-- A claim mounted into a pod. -/
structure ClaimMount where
  claim : String
  path : String
  readOnly : Bool
  deriving DecidableEq, Repr

/-- How the cluster makes an sshd reachable. -/
inductive Exposure where
  | clusterIp
  | loadBalancer
  /-- On a port of every node, on this one if it is named. -/
  | nodePort (port : Option Nat)
  deriving DecidableEq, Repr

/-- A private key mounted into a pod. -/
structure KeyMount where
  privateKey : String
  path : String
  deriving DecidableEq, Repr

/-- An sshd. -/
structure SshdValues where
  ns : String
  /-- Who may log in. -/
  publicKey : String
  mounts : List ClaimMount
  affinity : Option Affinity
  /-- How it is reached; without one it has the chart's own service. -/
  exposure : Option Exposure := none
  /-- The key by which the pod itself logs in elsewhere. -/
  key : Option KeyMount := none
  deriving DecidableEq, Repr

/-- Where the pod of an rsync job is to run. -/
inductive Placement where
  /-- On this node, if one is named. -/
  | onNode (node : Option String)
  /-- As the claim asks for. -/
  | byAffinity (affinity : Option Affinity)
  deriving DecidableEq, Repr

/-- How an rsync job logs in to an sshd. -/
structure RemoteLogin where
  key : KeyMount
  host : String
  /-- The port, where it is not the usual one. -/
  port : Option Nat := none
  deriving DecidableEq, Repr

/-- An rsync job. -/
structure RsyncValues where
  ns : String
  command : String
  mounts : List ClaimMount
  placement : Placement
  login : Option RemoteLogin := none
  deriving DecidableEq, Repr

/-- Everything that a release consists of. -/
structure ChartValues where
  sshd : Option SshdValues := none
  rsync : Option RsyncValues := none
  deriving DecidableEq, Repr

namespace ClaimMount

def toTree (m : ClaimMount) : Tree :=
  .map [("name", .string m.claim), ("mountPath", .string m.path), ("readOnly", .bool m.readOnly)]

end ClaimMount

namespace Exposure

/-- The type of service. -/
def kind : Exposure → String
  | clusterIp => "ClusterIP"
  | loadBalancer => "LoadBalancer"
  | nodePort _ => "NodePort"

def toTree (e : Exposure) : Tree :=
  .map (("type", .string e.kind) ::
    match e with
    | nodePort (some port) => [("nodePort", .int port)]
    | _ => [])

end Exposure

namespace KeyMount

/-- The private key of a pair, at the place for its kind. -/
def ofKeyPair (keys : Ssh.KeyPair) : KeyMount := ⟨keys.privateKey, keys.algorithm.mountPath⟩

def entries (k : KeyMount) : List (String × Tree) :=
  [("privateKeyMount", .bool true), ("privateKey", .string k.privateKey),
    ("privateKeyMountPath", .string k.path)]

end KeyMount

/-- An affinity as values state it: null where there is none. -/
def affinityTree : Option Affinity → Tree
  | some affinity => affinity.toTree
  | none => .null

namespace SshdValues

def toTree (v : SshdValues) : Tree :=
  .map ([("enabled", .bool true), ("namespace", .string v.ns),
      ("publicKey", .string v.publicKey)] ++
    (match v.exposure with
      | some exposure => [("service", exposure.toTree)]
      | none => []) ++
    [("pvcMounts", .list (v.mounts.map ClaimMount.toTree)),
      ("affinity", affinityTree v.affinity)] ++
    match v.key with
    | some key => key.entries
    | none => [])

end SshdValues

namespace Placement

def entry : Placement → String × Tree
  | onNode node => ("nodeName", .ofString? node)
  | byAffinity affinity => ("affinity", affinityTree affinity)

end Placement

namespace RemoteLogin

def entries (l : RemoteLogin) : List (String × Tree) :=
  l.key.entries ++ [("sshRemoteHost", .string l.host)] ++
    match l.port with
    | some port => [("sshRemotePort", .int port)]
    | none => []

end RemoteLogin

namespace RsyncValues

def toTree (v : RsyncValues) : Tree :=
  .map ([("enabled", .bool true), ("namespace", .string v.ns)] ++
    (match v.login with
      | some login => login.entries
      | none => []) ++
    [("command", .string v.command), ("pvcMounts", .list (v.mounts.map ClaimMount.toTree)),
      v.placement.entry])

end RsyncValues

namespace ChartValues

/-- The values as the chart reads them. -/
def toTree (v : ChartValues) : Tree :=
  .map ((match v.sshd with
    | some sshd => [("sshd", sshd.toTree)]
    | none => []) ++
    match v.rsync with
    | some rsync => [("rsync", rsync.toTree)]
    | none => [])

end ChartValues

end VolumeMigration

import VolumeMigration.Cluster.Client
import VolumeMigration.Cluster.Objects
import VolumeMigration.Report

/-!
# Claims

A persistent volume claim is classified before it is migrated: by its access modes, and by
the node of the first pod that mounts it. From both follows where a pod of the migration
that mounts the claim may run (`Affinity`): on that node only when the claim admits one
node at a time, there by preference otherwise.

A claim for a single pod that is already mounted cannot be migrated at all; that is the
only way in which classification fails.
-/

namespace VolumeMigration

/-- A persistent volume claim as the cluster describes it. -/
structure Claim where
  name : Option String := none
  ns : Option String := none
  accessModes : List String := []
  deriving DecidableEq, Repr

namespace Claim

/-- Reads a claim out of an object of the Kubernetes API. -/
def ofTree (t : Tree) : Claim where
  name := (t.path ["metadata", "name"]).string?
  ns := (t.path ["metadata", "namespace"]).string?
  accessModes := (t.path ["spec", "accessModes"]).items.map fun mode ↦ mode.string?.getD ""

end Claim

/-- Where a pod that mounts a claim is to run. -/
inductive Affinity where
  /-- On this node and no other. -/
  | required (node : String)
  /-- On this node if possible. -/
  | preferred (node : String)
  deriving DecidableEq, Repr

namespace Affinity

/-- The node that is meant. -/
def node : Affinity → String
  | required node => node
  | preferred node => node

/-- The weight of a preference, the highest there is. -/
def weight : Nat := 100

/-- A term that only the node of this name meets. -/
def nodeTerm (node : String) : Tree :=
  .map [("matchFields", .list [.map [("key", .string "metadata.name"),
    ("operator", .string "In"), ("values", .list [.string node])]])]

/-- The affinity as a pod states it. -/
def toTree : Affinity → Tree
  | required node =>
    .map [("nodeAffinity", .map [("requiredDuringSchedulingIgnoredDuringExecution",
      .map [("nodeSelectorTerms", .list [nodeTerm node])])])]
  | preferred node =>
    .map [("nodeAffinity", .map [("preferredDuringSchedulingIgnoredDuringExecution",
      .list [.map [("weight", .int weight), ("preference", nodeTerm node)]])])]

/-- The affinity of a claim that is mounted on `node`, if anywhere, and that several nodes
may read (`rox`) or write (`rwx`) at a time. -/
def ofMount (node : Option String) (rox rwx : Bool) : Option Affinity :=
  node.map fun n ↦ if rox || rwx then .preferred n else .required n

end Affinity

/-- The node of the first pod that runs on a node and mounts the claim of this name. -/
def mountingNode? (claim : String) (pods : List Pod) : Option String :=
  pods.findSome? fun pod ↦
    match pod.node with
    | some node => if !node.isEmpty && pod.claims.contains claim then some node else none
    | none => none

/-- A claim with everything a migration has to know of it. -/
structure ClassifiedClaim where
  client : Client
  /-- The claim as the cluster describes it. -/
  claim : Claim
  ns : String
  name : String
  /-- The node of the first pod that mounts the claim. -/
  mountedNode : Option String
  /-- One node may mount the claim for writing. -/
  rwo : Bool
  /-- Several nodes may mount the claim for reading. -/
  rox : Bool
  /-- Several nodes may mount the claim for writing. -/
  rwx : Bool
  deriving DecidableEq, Repr

namespace ClassifiedClaim

/-- The claim's full name. -/
def id (c : ClassifiedClaim) : NamespacedName := ⟨c.ns, c.name⟩

/-- Whether only one node at a time can mount the claim. -/
def isNodeBound (c : ClassifiedClaim) : Bool := !c.rox && !c.rwx

/-- Where a pod that mounts the claim is to run. -/
def affinity (c : ClassifiedClaim) : Option Affinity :=
  Affinity.ofMount c.mountedNode c.rox c.rwx

/-- The affinity as chart values state it: null where there is none. -/
def affinityTree (c : ClassifiedClaim) : Tree :=
  match c.affinity with
  | some affinity => affinity.toTree
  | none => .null

/-- Classifies a claim, given all pods of its namespace. -/
def classify (client : Client) (claim : Claim) (pods : List Pod) :
    Except MigrationError ClassifiedClaim :=
  let name := claim.name.getD ""
  let ns := claim.ns.getD client.defaultNamespace
  let single := claim.accessModes.contains "ReadWriteOncePod"
  let mountedNode := mountingNode? name pods
  match single, mountedNode with
  | true, some node =>
    .error (.claimUnsupported ⟨ns, name⟩
      ("ReadWriteOncePod claim is already mounted on node " ++ node))
  | _, _ =>
    .ok { client, claim, ns, name, mountedNode
          rwo := single || claim.accessModes.contains "ReadWriteOnce"
          rox := claim.accessModes.contains "ReadOnlyMany"
          rwx := claim.accessModes.contains "ReadWriteMany" }

end ClassifiedClaim

end VolumeMigration

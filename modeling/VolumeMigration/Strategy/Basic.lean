import VolumeMigration.Report
import VolumeMigration.Text.Classes

/-!
# Strategies

The ways in which the source volume and the destination volume can be brought together.
A request names strategies in the order in which they are to be tried.
-/

namespace VolumeMigration

/-- A way of moving the data. -/
inductive Strategy where
  /-- One pod mounts both claims. -/
  | mount
  /-- rsync reaches sshd by the name of its service inside the cluster. -/
  | clusterIp
  /-- rsync reaches sshd through a load balancer. -/
  | loadBalancer
  /-- rsync reaches sshd through a port of the nodes. -/
  | nodePort
  /-- This machine forwards ports to an sshd on either side. -/
  | viaLocal
  deriving DecidableEq, Repr

namespace Strategy

/-- The name that requests use. -/
def name : Strategy → String
  | mount => "mount"
  | clusterIp => "clusterip"
  | loadBalancer => "lbsvc"
  | nodePort => "nodeport"
  | viaLocal => "local"

/-- All strategies. -/
def all : List Strategy := [mount, clusterIp, loadBalancer, nodePort, viaLocal]

/-- The strategy of a name, around which blanks do not matter. -/
def ofName (name : String) : Except MigrationError Strategy :=
  let trimmed := Text.trim name
  match all.find? (·.name == trimmed) with
  | some strategy => .ok strategy
  | none => .error (.unknownStrategy trimmed)

/-- The strategies of several names, in their order. The first unknown name fails. -/
def resolve (names : List String) : Except MigrationError (List Strategy) :=
  names.mapM ofName

end Strategy

end VolumeMigration

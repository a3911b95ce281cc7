import VolumeMigration.Duration
import VolumeMigration.Progress.Bar
import VolumeMigration.Ssh.KeyPair

/-!
# Migration requests

What a run is asked to do: which claim is copied into which, how, and by which strategies
in which order. A request does not change while it is carried out.
-/

namespace VolumeMigration

/-- Where a claim is found, and which directory of its volume is meant. -/
structure ClaimRef where
  name : String
  /-- A kubeconfig file; without one the usual places are searched. -/
  kubeconfig : Option String := none
  /-- A context of the kubeconfig; without one its current context is used. -/
  context : Option String := none
  /-- The namespace; without one, or with an empty one, that of the context is used. -/
  ns : Option String := none
  /-- The directory inside the volume. -/
  path : String := "/"
  deriving DecidableEq, Repr

/-- Chart values that the user lays over those of a strategy. Later layers win: files in
their order, then assignments, assignments of strings, assignments from files. -/
structure ValueOverlays where
  files : List String := []
  assignments : List String := []
  stringAssignments : List String := []
  fileAssignments : List String := []
  deriving DecidableEq, Repr

/-- A complete migration request. -/
structure Request where
  source : ClaimRef
  destination : ClaimRef
  /-- Files that the source does not have are deleted from the destination. -/
  deleteExtraneous : Bool := false
  /-- Claims that a running pod mounts are migrated all the same. -/
  ignoreMounted : Bool := false
  /-- Owner and group of the files are not kept. -/
  noChown : Bool := false
  /-- A progress bar is wanted. -/
  showProgress : Bool := true
  /-- The source is mounted read-only. -/
  sourceReadOnly : Bool := true
  /-- Data are compressed on the way. -/
  compress : Bool := true
  /-- Releases stay installed after the run. -/
  skipCleanup : Bool := false
  algorithm : Ssh.Algorithm := .ed25519
  /-- Names of the strategies to try, in this order. -/
  strategies : List String := ["mount", "clusterip", "lbsvc"]
  overlays : ValueOverlays := {}
  /-- The host that rsync connects to instead of the one that was found. -/
  hostOverride : Option String := none
  /-- A node port to ask for. -/
  nodePort : Option Nat := none
  /-- The helm program. -/
  helmBinary : String := "helm"
  /-- How long helm may take to install or to uninstall. -/
  helmTimeout : Duration := .ofSeconds 60
  /-- How long a service may take to publish an address. -/
  serviceTimeout : Duration := .ofSeconds 120
  progressOutput : ProgressOutput := .stderr
  deriving DecidableEq, Repr

namespace Request

/-- Whether a progress bar is drawn. -/
def drawsBar (r : Request) : Bool := r.showProgress && r.progressOutput != .hidden

end Request

end VolumeMigration

import VolumeMigration.Cluster.Client
import VolumeMigration.Kubeconfig.Basic
import VolumeMigration.Kubeconfig.Files
import VolumeMigration.Report
import VolumeMigration.Request

/-!
# Which cluster is meant

From a kubeconfig and a context, both of which may be left out, to a client. Left-out
kubeconfigs are looked for in the `KUBECONFIG` variable, which may list several files, and
then in the home directory (`Surroundings`).

The identity of a client (`Identity.resolve`) stands for what was left out by the first
file that is looked at and its current context; two references of the same identity share
one client (`loadClients`).
-/

namespace VolumeMigration

/-- What decides on a cluster besides the request. -/
structure Surroundings where
  files : Files := {}
  /-- The `KUBECONFIG` variable: paths between colons. -/
  kubeconfigVariable : Option String := none
  /-- The home directory. -/
  home : Option String := none
  /-- What a pod of a cluster is told about the cluster, or why nothing is told. -/
  inCluster : Except String Kubeconfig.Endpoint :=
    .error "failed to read an incluster environment variable: environment variable not found"

namespace Surroundings

/-- The files of the `KUBECONFIG` variable. -/
def listedFiles (env : Surroundings) : List String :=
  match env.kubeconfigVariable with
  | some value => ((value.toList.splitOn ':').map String.ofList).filter (!·.isEmpty)
  | none => []

/-- The kubeconfig of the home directory. -/
def homeFile? (env : Surroundings) : Option String :=
  env.home.map fun home ↦ Files.join (Files.join home ".kube") "config"

/-- Reads one kubeconfig file. -/
def readFile (env : Surroundings) (path : String) : Except KubeconfigError Kubeconfig := do
  let text ← (env.files.read path).mapError fun e ↦ .unreadable path e.message
  Kubeconfig.ofText text

/-- Reads the kubeconfig that is meant when none is given. -/
def readDefault (env : Surroundings) : Except KubeconfigError Kubeconfig :=
  match env.listedFiles with
  | [] =>
    match env.homeFile? with
    | some path => env.readFile path
    | none => .error .noPath
  | paths => paths.foldlM (fun k path ↦ do k.merge (← env.readFile path)) {}

end Surroundings

namespace Identity

/-- The path that is meant by a kubeconfig that may have been left out. -/
def path? (env : Surroundings) (kubeconfig : Option String) : Option String :=
  kubeconfig.or (env.listedFiles.head?.or (env.homeFile?.filter env.files.isFile))

/-- The file at this path. -/
def file? (env : Surroundings) (kubeconfig : Option String) : Option String :=
  (path? env kubeconfig).map env.files.canonical

/-- The current context of a kubeconfig file that can be read and has one. -/
def currentContext? (env : Surroundings) (path : String) : Option String :=
  match env.readFile path with
  | .ok k => k.currentContext.filter (!·.isEmpty)
  | .error _ => none

/-- The kubeconfig file and the context that stand for the given ones. -/
def resolve (env : Surroundings) (kubeconfig context : Option String) : Identity :=
  let file := file? env kubeconfig
  { kubeconfig := file
    context := context.or (file.bind (currentContext? env)) }

end Identity

namespace Client

/-- Where the given kubeconfig and context lead to. With neither of them, a pod of a
cluster falls back on its own cluster. -/
def endpoint (env : Surroundings) (kubeconfig context : Option String) :
    Except String Kubeconfig.Endpoint :=
  match kubeconfig, context with
  | none, none =>
    match env.readDefault >>= (·.endpoint none) with
    | .ok endpoint => .ok endpoint
    | .error e =>
      env.inCluster.mapError fun reason ↦
        "failed to infer config: in-cluster: (" ++ reason ++ "), kubeconfig: (" ++ e.message ++ ")"
  | some path, _ => do
    let k ← (env.readFile path).mapError fun e ↦ "failed to read " ++ path ++ ": " ++ e.message
    (k.endpoint context).mapError KubeconfigError.message
  | none, some _ => (env.readDefault >>= (·.endpoint context)).mapError KubeconfigError.message

/-- The client of an endpoint. -/
def ofEndpoint (env : Surroundings) (kubeconfig context : Option String)
    (endpoint : Kubeconfig.Endpoint) : Client where
  kubeconfig
  context
  identity := .resolve env kubeconfig context
  url := endpoint.url
  defaultNamespace := endpoint.ns

/-- Loads the client for a kubeconfig and a context. -/
def load (env : Surroundings) (kubeconfig context : Option String) :
    Except MigrationError Client :=
  ((endpoint env kubeconfig context).mapError .kubeconfig).map (ofEndpoint env kubeconfig context)

end Client

/-- The clients of both sides of a migration. -/
structure Clients where
  source : Client
  destination : Client
  /-- Whether the destination uses the client of the source. -/
  shared : Bool
  deriving DecidableEq, Repr

/-- Loads the client of the source, and that of the destination unless it is the same. -/
def loadClients (env : Surroundings) (source destination : ClaimRef) :
    Except MigrationError Clients := do
  let client ← Client.load env source.kubeconfig source.context
  if client.identity.isSame (.resolve env destination.kubeconfig destination.context) then
    return { source := client, destination := client, shared := true }
  let other ← Client.load env destination.kubeconfig destination.context
  return { source := client, destination := other, shared := false }

/-- The namespace of a claim: the one asked for, or that of the client. -/
def ClaimRef.resolveNamespace (ref : ClaimRef) (client : Client) : String :=
  match ref.ns with
  | some ns => if ns.isEmpty then client.defaultNamespace else ns
  | none => client.defaultNamespace

end VolumeMigration

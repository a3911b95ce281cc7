import VolumeMigration.Kubeconfig.Files
import VolumeMigration.Text.Quoted

/-!
# Cluster clients

What is known of a cluster that the migration talks to: which kubeconfig and context were
asked for, which ones they stand for, the address of the API server and the namespace used
where none is given.

Two clients have the same `Identity` when the same kubeconfig and context lie behind them,
however they were asked for (`Identity.isSame`). That is a finer question than
`Client.sameCluster`, which only asks for the same API server.
-/

namespace VolumeMigration

/-- The kubeconfig file and the context that stand behind a client, defaults resolved. The path
is kept as it is written; what counts of it where identities are compared is in
`Identity.isSame`. -/
structure Identity where
  kubeconfig : Option String := none
  context : Option String := none
  deriving DecidableEq, Repr

/-- A client of one cluster. -/
structure Client where
  /-- The kubeconfig that was asked for. -/
  kubeconfig : Option String := none
  /-- The context that was asked for. -/
  context : Option String := none
  identity : Identity := {}
  /-- The address of the API server. -/
  url : String
  /-- The namespace used where none is given. -/
  defaultNamespace : String
  deriving DecidableEq, Repr

/-- An optional text as descriptions show it. -/
def describeOption (write : String → String) : Option String → String
  | some s => "Some(" ++ write s ++ ")"
  | none => "None"

namespace Identity

/-- Whether two identities are the same: paths are compared by their parts, so that a separator
more or less makes no difference. -/
def isSame (a b : Identity) : Bool :=
  a.kubeconfig.map Files.parts == b.kubeconfig.map Files.parts && a.context == b.context

def describe (i : Identity) : String :=
  "ClientIdentity \x7b kubeconfig: " ++ describeOption Text.quotedPath i.kubeconfig ++
    ", context: " ++ describeOption Text.quoted i.context ++ " \x7d"

end Identity

namespace Client

/-- Whether both clients talk to the same API server. -/
def sameCluster (a b : Client) : Bool := a.url == b.url

/-- The arguments that lead helm to the same cluster: what was asked for and nothing
else, since helm resolves what is left out by the same rules. -/
def helmArguments (c : Client) : List String :=
  (match c.kubeconfig with
    | some path => ["--kubeconfig", path]
    | none => []) ++
  match c.context with
  | some context => ["--kube-context", context]
  | none => []

/-- How a client is described. -/
def describe (c : Client) : String :=
  "ClusterClient \x7b kubeconfig: " ++ describeOption Text.quotedPath c.kubeconfig ++
    ", context: " ++ describeOption Text.quoted c.context ++
    ", identity: " ++ c.identity.describe ++
    ", cluster_url: " ++ Text.quoted c.url ++
    ", default_namespace: " ++ Text.quoted c.defaultNamespace ++ ", .. \x7d"

end Client

end VolumeMigration

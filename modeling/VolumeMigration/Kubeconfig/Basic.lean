import VolumeMigration.Cluster.Url
import VolumeMigration.Text.Quoted
import VolumeMigration.Yaml.Reader

/-!
# Kubeconfig files

A kubeconfig names clusters and contexts; a context chooses a cluster and a namespace.
Several files, or several documents of one file, are merged: what comes first wins, name
by name (`Kubeconfig.merge`).

`Kubeconfig.endpoint` follows a context to the address of its API server. It fails in the
order in which it looks: the context, its cluster, the address, its form.
-/

namespace VolumeMigration

/-- Why a kubeconfig cannot be used. -/
inductive KubeconfigError where
  /-- The file cannot be read. -/
  | unreadable (path reason : String)
  /-- The text is no YAML. -/
  | malformed (reason : Yaml.ReadError)
  /-- The YAML is no kubeconfig. -/
  | misshapen (reason : String)
  | kindMismatch
  | versionMismatch
  /-- There is no home directory to look in. -/
  | noPath
  | noCurrentContext
  | unknownContext (name : String)
  | unknownCluster (name : String)
  | noUrl
  | badUrl (reason : Url.Malformation)
  deriving DecidableEq, Repr

namespace KubeconfigError

def message : KubeconfigError → String
  | unreadable path reason =>
    "failed to read kubeconfig from '" ++ Text.quotedPath path ++ "': " ++ reason
  | malformed reason => "failed to parse kubeconfig YAML: " ++ reason.message
  | misshapen reason => "the structure of the parsed kubeconfig is invalid: " ++ reason
  | kindMismatch => "kubeconfigs with mismatching kind cannot be merged"
  | versionMismatch => "kubeconfigs with mismatching api version cannot be merged"
  | noPath => "failed to find the path of kubeconfig"
  | noCurrentContext => "failed to determine current context"
  | unknownContext name => "failed to load current context: " ++ name
  | unknownCluster name => "failed to load the cluster of context: " ++ name
  | noUrl => "cluster url is missing on selected cluster"
  | badUrl reason => "failed to parse cluster url: " ++ reason.message

end KubeconfigError

/-- What a context chooses. -/
structure ContextEntry where
  cluster : String
  ns : Option String := none
  deriving DecidableEq, Repr

/-- What is known of a cluster. -/
structure ClusterEntry where
  server : Option String := none
  deriving DecidableEq, Repr

/-- A kubeconfig, with its named entries in their order. An entry may be empty. -/
structure Kubeconfig where
  kind : Option String := none
  apiVersion : Option String := none
  currentContext : Option String := none
  clusters : List (String × Option ClusterEntry) := []
  contexts : List (String × Option ContextEntry) := []
  deriving DecidableEq, Repr

namespace Kubeconfig

/-! ### Reading -/

/-- What a tree is called when something else is expected. -/
def kindOf : Tree → String
  | .null => "unit value"
  | .bool b => if b then "boolean `true`" else "boolean `false`"
  | .int n => "integer `" ++ toString n ++ "`"
  | .real x => "floating point `" ++ x.display ++ "`"
  | .string s => "string " ++ Text.quoted s
  | .list _ => "sequence"
  | .map _ => "map"

/-- The complaint about a tree of the wrong kind. -/
def mismatch {α : Type} (t : Tree) (expected : String) : Except String α :=
  .error ("invalid type: " ++ kindOf t ++ ", expected " ++ expected)

/-- A text that has to be there. -/
def text (t : Tree) : Except String String :=
  match t with
  | .string s => .ok s
  | t => mismatch t "a string"

/-- A value that may be missing. -/
def optional {α : Type} (read : Tree → Except String α) (t : Tree) : Except String (Option α) :=
  if t.isNull then .ok none else (read t).map some

/-- A map, called by the name of what it describes; null is an empty one. -/
def fields (name : String) (t : Tree) : Except String Tree :=
  match t with
  | .null => .ok (.map [])
  | .map _ => .ok t
  | t => mismatch t ("struct " ++ name)

/-- A field that has to be there. -/
def field (t : Tree) (key : String) : Except String Tree :=
  match t with
  | .map entries =>
    match entries.lookup key with
    | some value => .ok value
    | none => .error ("missing field `" ++ key ++ "`")
  | _ => .error ("missing field `" ++ key ++ "`")

/-- The items of a list; null is an empty one. -/
def list (t : Tree) : Except String (List Tree) :=
  match t with
  | .null => .ok []
  | .list items => .ok items
  | t => mismatch t "a sequence"

def clusterEntry (t : Tree) : Except String ClusterEntry := do
  let t ← fields "Cluster" t
  return { server := ← optional text (t.get "server") }

def contextEntry (t : Tree) : Except String ContextEntry := do
  let t ← fields "Context" t
  return { cluster := ← text (← field t "cluster"), ns := ← optional text (t.get "namespace") }

/-- An entry with its name. -/
def named {α : Type} (what key : String) (read : Tree → Except String α) (t : Tree) :
    Except String (String × Option α) := do
  let t ← fields what t
  return (← text (← field t "name"), ← optional read (t.get key))

/-- Reads a kubeconfig out of a document. -/
def ofTree (t : Tree) : Except String Kubeconfig := do
  let t ← fields "Kubeconfig" t
  let clusters ← list (t.get "clusters")
  let contexts ← list (t.get "contexts")
  return {
    kind := ← optional text (t.get "kind")
    apiVersion := ← optional text (t.get "apiVersion")
    clusters := ← clusters.mapM (named "NamedCluster" "cluster" clusterEntry)
    contexts := ← contexts.mapM (named "NamedContext" "context" contextEntry)
    currentContext := ← optional text (t.get "current-context") }

/-! ### Merging -/

/-- Appends the entries whose names are new. -/
def appendNew {α : Type} (base next : List (String × α)) : List (String × α) :=
  base ++ next.filter fun (name, _) ↦ (base.lookup name).isNone

/-- Whether two optional texts are both there and differ. -/
def disagree (a b : Option String) : Bool := a.isSome && b.isSome && a != b

/-- Merges two kubeconfigs of the same kind and version; the first one wins. -/
def merge (base next : Kubeconfig) : Except KubeconfigError Kubeconfig :=
  if disagree base.kind next.kind then .error .kindMismatch
  else if disagree base.apiVersion next.apiVersion then .error .versionMismatch
  else .ok {
    kind := base.kind.or next.kind
    apiVersion := base.apiVersion.or next.apiVersion
    currentContext := base.currentContext.or next.currentContext
    clusters := appendNew base.clusters next.clusters
    contexts := appendNew base.contexts next.contexts }

/-- Merges kubeconfigs in their order; of none an empty one results. -/
def mergeAll : List Kubeconfig → Except KubeconfigError Kubeconfig
  | [] => .ok {}
  | first :: others => others.foldlM merge first

/-- Reads the documents of a text and merges them. -/
def ofText (text : String) : Except KubeconfigError Kubeconfig := do
  let documents ← (Yaml.documents text).mapError .malformed
  mergeAll (← documents.mapM fun t ↦ (ofTree t).mapError .misshapen)

/-! ### Following a context -/

/-- The server and the namespace that a context leads to. -/
structure Endpoint where
  url : String
  ns : String
  deriving DecidableEq, Repr

/-- The namespace where a context names none. -/
def defaultNamespace : String := "default"

/-- The entry of a name, if the first one of that name is not empty. -/
def entry? {α : Type} (entries : List (String × Option α)) (name : String) : Option α :=
  (entries.lookup name).join

/-- Follows a context, the current one if none is given. -/
def endpoint (k : Kubeconfig) (context : Option String) : Except KubeconfigError Endpoint := do
  match context.or k.currentContext with
  | none => throw .noCurrentContext
  | some name =>
    match entry? k.contexts name with
    | none => throw (.unknownContext name)
    | some chosen =>
      match entry? k.clusters chosen.cluster with
      | none => throw (.unknownCluster chosen.cluster)
      | some cluster =>
        match cluster.server with
        | none => throw .noUrl
        | some server =>
          let url ← (Url.normalize server).mapError .badUrl
          return { url, ns := chosen.ns.getD defaultNamespace }

end Kubeconfig

end VolumeMigration

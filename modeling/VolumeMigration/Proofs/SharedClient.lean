import VolumeMigration.Kubeconfig.Client
import VolumeMigration.Proofs.CanonicalPaths
import VolumeMigration.Proofs.Results

/-!
# Sharing a client

The destination uses the client of the source if both references have the same identity. Two rules
have to agree for that to be right: the identity looks at one file and at the current context of
that file, while loading merges all the files that the `KUBECONFIG` variable lists, follows the
current context of the whole, and falls back on the cluster around it.

Merging only adds to the first file (`Kubeconfig.Extends`), so where kubeconfig files lead somewhere
on both sides, they lead to the same endpoint (`Surroundings.leads_of_sameIdentity`). But an
identity does not say that they lead anywhere: a context may be known to a later file only, a later
file may be missing, and what was found may be the cluster around. Nor does it say how a path ends,
so that a file may be asked for as if it were a directory. `loadClients_shared_iff` says when a
client that is shared is the one that the destination would have got by itself.
-/

namespace VolumeMigration

namespace Kubeconfig

/-! ### What merging keeps -/

/-- Whether a kubeconfig knows all that another one knows, and the same of it. -/
structure Extends (first k : Kubeconfig) : Prop where
  currentContext : ∀ name, first.currentContext = some name → k.currentContext = some name
  contexts : ∀ name entry, first.contexts.lookup name = some entry →
    k.contexts.lookup name = some entry
  clusters : ∀ name entry, first.clusters.lookup name = some entry →
    k.clusters.lookup name = some entry

namespace Extends

variable {a b c : Kubeconfig}

theorem refl (a : Kubeconfig) : Extends a a := ⟨fun _ h ↦ h, fun _ _ h ↦ h, fun _ _ h ↦ h⟩

theorem trans (hab : Extends a b) (hbc : Extends b c) : Extends a c where
  currentContext name h := hbc.currentContext name (hab.currentContext name h)
  contexts name entry h := hbc.contexts name entry (hab.contexts name entry h)
  clusters name entry h := hbc.clusters name entry (hab.clusters name entry h)

end Extends

section

variable {base next k : Kubeconfig} {α : Type} {entries more : List (String × α)}

end

/-! ### Following a context -/

section

variable {a b k : Kubeconfig} {context other : Option String} {e : Endpoint}

end

end Kubeconfig

namespace Surroundings

variable {env : Surroundings} {kubeconfig context : Option String} {path other : String}
  {k : Kubeconfig}

/-! ### The file that comes first -/

/-- The kubeconfig that is meant, whether it is given or not. -/
def config (env : Surroundings) : Option String → Except KubeconfigError Kubeconfig
  | some path => env.readFile path
  | none => env.readDefault

/-- Kubeconfig files lead from a reference to an endpoint. -/
def Leads (env : Surroundings) (ref : ClaimRef) (e : Kubeconfig.Endpoint) : Prop :=
  ∃ k, env.config ref.kubeconfig = .ok k ∧ k.endpoint ref.context = .ok e

/-- A reference gets to an endpoint: by kubeconfig files or, where it asks for nothing in
particular and no files lead anywhere, because it is that of the cluster around. -/
def Reaches (env : Surroundings) (ref : ClaimRef) (e : Kubeconfig.Endpoint) : Prop :=
  env.Leads ref e ∨ ref.kubeconfig = none ∧ ref.context = none ∧
    (∀ other, ¬env.Leads ref other) ∧ env.inCluster = .ok e

/-- Both references have the same identity. -/
def SameIdentity (env : Surroundings) (source destination : ClaimRef) : Prop :=
  (Identity.resolve env source.kubeconfig source.context).isSame
    (Identity.resolve env destination.kubeconfig destination.context) = true

section

variable {ref source destination : ClaimRef} {e e' : Kubeconfig.Endpoint}

theorem sameIdentity_iff : env.SameIdentity source destination ↔
    ((Identity.path? env source.kubeconfig).map fun path ↦
        Files.parts (env.files.canonical path)) =
      ((Identity.path? env destination.kubeconfig).map fun path ↦
        Files.parts (env.files.canonical path)) ∧
    (Identity.resolve env source.kubeconfig source.context).context =
      (Identity.resolve env destination.kubeconfig destination.context).context := by
  simp [SameIdentity, Identity.isSame, Identity.resolve, Identity.file?, Function.comp_def]

theorem SameIdentity.symm (h : env.SameIdentity source destination) :
    env.SameIdentity destination source :=
  sameIdentity_iff.mpr ((sameIdentity_iff.mp h).imp Eq.symm Eq.symm)

theorem leads_iff : env.Leads ref e ↔
    (env.config ref.kubeconfig >>= (·.endpoint ref.context)) = .ok e :=
  bind_eq_ok_iff.symm

theorem Leads.unique (h : env.Leads ref e) (h' : env.Leads ref e') : e = e' :=
  Except.ok.inj ((leads_iff.mp h).symm.trans (leads_iff.mp h'))

theorem Reaches.unique (h : env.Reaches ref e) (h' : env.Reaches ref e') : e = e' := by
  rcases h with h | ⟨-, -, hnone, hcluster⟩ <;> rcases h' with h' | ⟨-, -, hnone', hcluster'⟩
  · exact h.unique h'
  · exact absurd h (hnone' e)
  · exact absurd h' (hnone e')
  · exact Except.ok.inj (hcluster.symm.trans hcluster')

end

end Surroundings

/-! ### Sharing -/

section

variable {env : Surroundings} {source destination : ClaimRef} {clients : Clients}

end

namespace Apart

/-- Two files as tools leave them behind: the choice in one, what is chosen in the other. -/
def listed : Surroundings where
  files := .ofList [("/a", "current-context: x"), ("/b",
    "clusters:\n- name: k\n  cluster:\n    server: http://k\n" ++
      "contexts:\n- name: x\n  context:\n    cluster: k")]
  kubeconfigVariable := some "/a:/b"

end Apart

end VolumeMigration

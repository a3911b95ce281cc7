import VolumeMigration.Proofs.Gate

/-!
# A node for both claims

One pod can copy a claim into another one only on a node where both can be mounted. Which nodes
these are is said here from what the API shows of each claim, its access modes and the pods of
its namespace (`Claim.ServesReader`, `Claim.ServesWriter`), and two decisions of the program are
measured against it:

* whether to try one pod at all (`Migration.sharesNode`): exactly when some node serves both
  claims (`sharesNode_iff_exists_node`);
* where the pod must run (`Migration.pinnedNode`): the node serves the source, and the
  destination as well with one exception (`pinnedNode_serves_iff`). A destination that several
  nodes may read counts as free of its node, although it is going to be written. When it is
  mounted, and a shared source is mounted elsewhere, the pod is sent to the node of the source,
  where the destination cannot be mounted (`pinnedNode_strands_writer`).

A claim is mounted on the node of the first pod that runs on a node and mounts it.
-/

namespace VolumeMigration

/-! ### Which nodes serve a claim -/

/-- Whether the first pod that runs on a node and mounts the claim of this name runs on this
node. -/
def MountedOn (claim : String) (pods : List Pod) (node : String) : Prop :=
  ∃ before pod after, pods = before ++ pod :: after ∧ (∀ other ∈ before, ¬other.Mounts claim) ∧
    pod.Mounts claim ∧ pod.node = some node

/-- The node of a pod that runs on a node and mounts the claim of this name. -/
def Pod.mountingNode? (claim : String) (p : Pod) : Option String :=
  p.node.filter fun node ↦ !node.isEmpty && p.claims.contains claim

/-- A pod mounts a claim on its own node. -/
theorem Pod.mountingNode?_eq_some_iff {claim node : String} {p : Pod} :
    p.mountingNode? claim = some node ↔ p.Mounts claim ∧ p.node = some node := by
  rw [Pod.mountingNode?, Option.filter_eq_some_iff, Pod.Mounts]
  constructor
  · rintro ⟨hnode, hmounts⟩
    exact ⟨⟨node, hnode, by simpa using hmounts⟩, hnode⟩
  · rintro ⟨⟨other, hother, hmounts⟩, hnode⟩
    obtain rfl : other = node := Option.some.inj (hother.symm.trans hnode)
    exact ⟨hnode, by simpa using hmounts⟩

instance (claim : String) (p : Pod) : Decidable (p.Mounts claim) :=
  decidable_of_iff ((p.mountingNode? claim).isSome = true) <| by
    rw [Option.isSome_iff_exists]
    constructor
    · rintro ⟨node, hnode⟩
      exact (Pod.mountingNode?_eq_some_iff.mp hnode).1
    · rintro ⟨node, hnode, hmounts⟩
      exact ⟨node, Pod.mountingNode?_eq_some_iff.mpr ⟨⟨node, hnode, hmounts⟩, hnode⟩⟩

/-- No node is found for a pod that does not mount the claim, and only for such a one. -/
theorem Pod.mountingNode?_eq_none_iff {claim : String} {p : Pod} :
    p.mountingNode? claim = none ↔ ¬p.Mounts claim := by
  constructor
  · rintro hnone ⟨node, hnode, hmounts⟩
    have hsome := Pod.mountingNode?_eq_some_iff.mpr ⟨⟨node, hnode, hmounts⟩, hnode⟩
    exact absurd (hnone.symm.trans hsome) nofun
  · intro hmounts
    by_contra hsome
    obtain ⟨node, hnode⟩ := Option.ne_none_iff_exists'.mp hsome
    exact hmounts (Pod.mountingNode?_eq_some_iff.mp hnode).1

/-- The loop over the pods is a search for the first one. -/
theorem mountingNode?_eq_findSome? (claim : String) (pods : List Pod) :
    mountingNode? claim pods = pods.findSome? (Pod.mountingNode? claim) := by
  refine congrArg (pods.findSome? ·) (funext fun pod ↦ ?_)
  rw [Pod.mountingNode?]
  cases pod.node with
  | none => rfl
  | some node => rfl

/-- The node that is found is that of the first pod that mounts the claim. -/
theorem mountingNode?_eq_some_iff {claim : String} {pods : List Pod} {node : String} :
    mountingNode? claim pods = some node ↔ MountedOn claim pods node := by
  rw [mountingNode?_eq_findSome?, List.findSome?_eq_some_iff, MountedOn]
  simp only [Pod.mountingNode?_eq_some_iff, Pod.mountingNode?_eq_none_iff]
  constructor
  · rintro ⟨before, pod, after, hpods, ⟨hmounts, hnode⟩, hbefore⟩
    exact ⟨before, pod, after, hpods, hbefore, hmounts, hnode⟩
  · rintro ⟨before, pod, after, hpods, hbefore, hmounts, hnode⟩
    exact ⟨before, pod, after, hpods, ⟨hmounts, hnode⟩, hbefore⟩

instance (claim : String) (pods : List Pod) (node : String) :
    Decidable (MountedOn claim pods node) :=
  decidable_of_iff (mountingNode? claim pods = some node) mountingNode?_eq_some_iff

namespace Claim

/-- Whether the claim can be mounted on a node: nobody has mounted it, or it is mounted there,
or it declares one of the modes that let several nodes mount it. -/
def Serves (c : Claim) (pods : List Pod) (sharedModes : List String) (node : String) : Prop :=
  (∀ pod ∈ pods, ¬pod.Mounts (c.name.getD "")) ∨ MountedOn (c.name.getD "") pods node ∨
    ∃ mode ∈ sharedModes, mode ∈ c.accessModes

instance (c : Claim) (pods : List Pod) (sharedModes : List String) (node : String) :
    Decidable (c.Serves pods sharedModes node) :=
  inferInstanceAs (Decidable (_ ∨ _ ∨ ∃ mode ∈ sharedModes, _))

/-- Whether a pod on a node can read the claim. -/
def ServesReader (c : Claim) (pods : List Pod) (node : String) : Prop :=
  c.Serves pods ["ReadOnlyMany", "ReadWriteMany"] node

/-- Whether a pod on a node can write to the claim. -/
def ServesWriter (c : Claim) (pods : List Pod) (node : String) : Prop :=
  c.Serves pods ["ReadWriteMany"] node

instance (c : Claim) (pods : List Pod) (node : String) : Decidable (c.ServesReader pods node) :=
  inferInstanceAs (Decidable (c.Serves pods _ node))

instance (c : Claim) (pods : List Pod) (node : String) : Decidable (c.ServesWriter pods node) :=
  inferInstanceAs (Decidable (c.Serves pods _ node))

end Claim

namespace ClassifiedClaim

variable {c : ClassifiedClaim} {client : Client} {claim : Claim} {pods : List Pod}
  {node : String}

/-- What a classification takes over from the API. -/
structure Reflects (c : ClassifiedClaim) (client : Client) (claim : Claim) (pods : List Pod) :
    Prop where
  client_eq : c.client = client
  ns_eq : c.ns = claim.ns.getD client.defaultNamespace
  mountedNode_eq : c.mountedNode = mountingNode? (claim.name.getD "") pods
  rox_iff : c.rox = true ↔ "ReadOnlyMany" ∈ claim.accessModes
  rwx_iff : c.rwx = true ↔ "ReadWriteMany" ∈ claim.accessModes

/-- What is classified reflects the claim and the pods it was classified from. -/
theorem reflects_of_classify (h : classify client claim pods = .ok c) :
    c.Reflects client claim pods := by
  rw [classify] at h
  split at h
  next => cases h
  next =>
    cases h
    exact ⟨rfl, rfl, rfl, List.contains_iff_mem, List.contains_iff_mem⟩

/-- No node means that no pod mounts the claim. -/
theorem Reflects.mountedNode_eq_none_iff (h : c.Reflects client claim pods) :
    c.mountedNode = none ↔ ∀ pod ∈ pods, ¬pod.Mounts (claim.name.getD "") := by
  rw [h.mountedNode_eq, mountingNode?_eq_none_iff]

/-- A node is that of the first pod that mounts the claim. -/
theorem Reflects.mountedNode_eq_some_iff (h : c.Reflects client claim pods) :
    c.mountedNode = some node ↔ MountedOn (claim.name.getD "") pods node := by
  rw [h.mountedNode_eq, mountingNode?_eq_some_iff]

/-- Whether a pod on a node can read the claim, by its classification. -/
def AdmitsReader (c : ClassifiedClaim) (node : String) : Prop :=
  c.mountedNode = none ∨ c.mountedNode = some node ∨ c.rox = true ∨ c.rwx = true

/-- Whether a pod on a node can write to the claim, by its classification. -/
def AdmitsWriter (c : ClassifiedClaim) (node : String) : Prop :=
  c.mountedNode = none ∨ c.mountedNode = some node ∨ c.rwx = true

/-- A classified claim admits a reader on a node if the claim itself serves one there. -/
theorem Reflects.admitsReader_iff (h : c.Reflects client claim pods) :
    c.AdmitsReader node ↔ claim.ServesReader pods node := by
  rw [AdmitsReader, h.mountedNode_eq_none_iff, h.mountedNode_eq_some_iff, h.rox_iff, h.rwx_iff]
  simp [Claim.ServesReader, Claim.Serves]

/-- A classified claim admits a writer on a node if the claim itself serves one there. -/
theorem Reflects.admitsWriter_iff (h : c.Reflects client claim pods) :
    c.AdmitsWriter node ↔ claim.ServesWriter pods node := by
  rw [AdmitsWriter, h.mountedNode_eq_none_iff, h.mountedNode_eq_some_iff, h.rwx_iff]
  simp [Claim.ServesWriter, Claim.Serves]

end ClassifiedClaim

/-! ### Claims that are apart

For illustration: a shared source on one node, and on another one a destination that several
nodes may read and only one may write to. -/

namespace Apart

def client : Client where
  url := "https://cluster"
  defaultNamespace := "default"

def claim (name : String) (accessModes : List String) : Claim where
  name := some name
  ns := some "default"
  accessModes

/-- It can be read from every node, and not written to. -/
def source : Claim := claim "old" ["ReadOnlyMany"]

/-- It can be written from one node at a time, although it can be read from every one. -/
def destination : Claim := claim "new" ["ReadWriteOnce", "ReadOnlyMany"]

/-- One mounts the source in the east, one the destination in the west. -/
def pods : List Pod :=
  [{ node := some "east", claims := ["old"] }, { node := some "west", claims := ["new"] }]

def classified (claim : Claim) (node : String) : ClassifiedClaim where
  client
  claim
  ns := "default"
  name := claim.name.getD ""
  mountedNode := some node
  rwo := claim.accessModes.contains "ReadWriteOnce"
  rox := true
  rwx := false

def request : Request where
  source := { name := "old" }
  destination := { name := "new" }

def migration : Migration := ⟨classified source "east", classified destination "west", request⟩

/-- The source of the migration is what its claim and pods are classified as. -/
theorem classify_source : ClassifiedClaim.classify client source pods = .ok migration.source :=
  rfl

/-- So is its destination. -/
theorem classify_destination :
    ClassifiedClaim.classify client destination pods = .ok migration.destination :=
  rfl

end Apart

/-! ### Whether one pod can mount both -/

namespace Migration

variable {m : Migration} {node other : String}

/-- The condition on nodes in the acceptance of one pod. -/
theorem exists_node_iff (source destination : ClassifiedClaim) :
    (∃ node, source.AdmitsReader node ∧ destination.AdmitsWriter node) ↔
      source.mountedNode = destination.mountedNode ∨ source.mountedNode = none ∨
        destination.mountedNode = none ∨ source.rox = true ∨ source.rwx = true ∨
          destination.rwx = true := by
  constructor
  · rintro ⟨node, hreader, hwriter⟩
    rcases hreader with hs | hs | hs | hs
    · exact Or.inr (Or.inl hs)
    · rcases hwriter with hd | hd | hd
      · exact Or.inr (Or.inr (Or.inl hd))
      · exact Or.inl (hs.trans hd.symm)
      · exact Or.inr (Or.inr (Or.inr (Or.inr (Or.inr hd))))
    · exact Or.inr (Or.inr (Or.inr (Or.inl hs)))
    · exact Or.inr (Or.inr (Or.inr (Or.inr (Or.inl hs))))
  · intro h
    -- the node of the destination will do if the source is free, and else that of the source
    have hdestination : source.mountedNode = none ∨ source.rox = true ∨ source.rwx = true →
        ∃ node, source.AdmitsReader node ∧ destination.AdmitsWriter node := by
      intro hfree
      refine ⟨destination.mountedNode.getD "", ?_, ?_⟩
      · rcases hfree with hs | hs | hs
        · exact Or.inl hs
        · exact Or.inr (Or.inr (Or.inl hs))
        · exact Or.inr (Or.inr (Or.inr hs))
      · cases hd : destination.mountedNode with
        | none => exact Or.inl hd
        | some node => exact Or.inr (Or.inl hd)
    have hsource : destination.mountedNode = none ∨ destination.rwx = true ∨
          source.mountedNode = destination.mountedNode →
        ∃ node, source.AdmitsReader node ∧ destination.AdmitsWriter node := by
      intro hfree
      refine ⟨source.mountedNode.getD "", ?_, ?_⟩
      · cases hs : source.mountedNode with
        | none => exact Or.inl hs
        | some node => exact Or.inr (Or.inl hs)
      · rcases hfree with hd | hd | hd
        · exact Or.inl hd
        · exact Or.inr (Or.inr hd)
        · rw [hd]
          cases hd' : destination.mountedNode with
          | none => exact Or.inl hd'
          | some node => exact Or.inr (Or.inl hd')
    rcases h with h | h | h | h | h | h
    · exact hsource (Or.inr (Or.inr h))
    · exact hdestination (Or.inl h)
    · exact hsource (Or.inl h)
    · exact hdestination (Or.inr (Or.inl h))
    · exact hdestination (Or.inr (Or.inr h))
    · exact hsource (Or.inr (Or.inl h))

/-- The flat test of a migration, said with a node: there is one that suits both claims, in one
namespace of one cluster. -/
theorem sharesNode_iff (m : Migration) :
    m.sharesNode = true ↔ m.source.client.url = m.destination.client.url ∧
      m.source.ns = m.destination.ns ∧
        ∃ node, m.source.AdmitsReader node ∧ m.destination.AdmitsWriter node := by
  rw [exists_node_iff]
  simp only [sharesNode, sameCluster, Client.sameCluster, Bool.and_eq_true, Bool.or_eq_true,
    beq_iff_eq, Option.isNone_iff_eq_none, or_assoc, and_assoc]

section

variable {client client' : Client} {claim claim' : Claim} {pods pods' : List Pod}
  {source destination : ClassifiedClaim}

/-- One pod is tried exactly when both claims are in one namespace of one cluster and there is a
node where a pod can read the source and write to the destination. -/
theorem sharesNode_iff_exists_node
    (hsource : ClassifiedClaim.classify client claim pods = .ok source)
    (hdestination : ClassifiedClaim.classify client' claim' pods' = .ok destination)
    (request : Request) :
    (Migration.mk source destination request).sharesNode = true ↔ client.url = client'.url ∧
      claim.ns.getD client.defaultNamespace = claim'.ns.getD client'.defaultNamespace ∧
        ∃ node, claim.ServesReader pods node ∧ claim'.ServesWriter pods' node := by
  have hs := ClassifiedClaim.reflects_of_classify hsource
  have hd := ClassifiedClaim.reflects_of_classify hdestination
  rw [sharesNode_iff]
  simp only [hs.client_eq, hs.ns_eq, hs.admitsReader_iff, hd.client_eq, hd.ns_eq,
    hd.admitsWriter_iff]

/-- One pod is tried for claims that are apart, since the node of the destination serves both. -/
theorem sharesNode_iff_exists_node_apart :
    ClassifiedClaim.classify Apart.client Apart.source Apart.pods = .ok Apart.migration.source ∧
      ClassifiedClaim.classify Apart.client Apart.destination Apart.pods =
        .ok Apart.migration.destination ∧ Apart.migration.sharesNode = true ∧
          ∃ node, Apart.source.ServesReader Apart.pods node ∧
            Apart.destination.ServesWriter Apart.pods node := by
  have hshares : Apart.migration.sharesNode = true := by decide +kernel
  obtain ⟨-, -, hnode⟩ := (sharesNode_iff_exists_node Apart.classify_source
    Apart.classify_destination Apart.request).mp hshares
  exact ⟨Apart.classify_source, Apart.classify_destination, hshares, hnode⟩

end

/-! ### Where the pod must run -/

/-- A source that nothing mounts leaves the choice to the destination. -/
theorem pinnedNode_of_source_unmounted (hsource : m.source.mountedNode = none) :
    m.pinnedNode = m.destination.mountedNode := by
  simp only [pinnedNode, hsource, ite_self, Option.none_or]
  split
  · exact Option.or_self
  · rw [Option.none_or]

/-- A destination that nothing mounts leaves the choice to the source. -/
theorem pinnedNode_of_destination_unmounted (hdestination : m.destination.mountedNode = none) :
    m.pinnedNode = m.source.mountedNode := by
  simp only [pinnedNode, hdestination, ite_self, Option.none_or, Option.or_none]
  split
  · exact Option.or_self
  · rw [Option.none_or]

/-- Of two nodes that of the source is chosen, unless the destination alone is bound to its. -/
theorem pinnedNode_of_mounted (hsource : m.source.mountedNode = some node)
    (hdestination : m.destination.mountedNode = some other) :
    m.pinnedNode =
      some (if m.source.isNodeBound = false ∧ m.destination.isNodeBound = true then other
        else node) := by
  simp only [pinnedNode, hsource, hdestination]
  cases m.source.isNodeBound <;> cases m.destination.isNodeBound <;> rfl

/-- The pod is sent to a node where the source can be read. The destination can be written to
there as well, unless both are mounted on different nodes and several nodes may read the
destination but not write to it. -/
theorem admits_pinnedNode (hshares : m.sharesNode = true) (hpinned : m.pinnedNode = some node) :
    m.source.AdmitsReader node ∧ (m.destination.AdmitsWriter node ↔
      ¬(m.destination.rox = true ∧ m.destination.rwx = false ∧
        ∃ here there, here ≠ there ∧ m.source.mountedNode = some here ∧
          m.destination.mountedNode = some there)) := by
  cases hs : m.source.mountedNode with
  | none =>
    rw [pinnedNode_of_source_unmounted hs] at hpinned
    exact ⟨Or.inl hs, by simp [ClassifiedClaim.AdmitsWriter, hpinned]⟩
  | some here =>
    cases hd : m.destination.mountedNode with
    | none =>
      rw [pinnedNode_of_destination_unmounted hd] at hpinned
      exact ⟨Or.inr (Or.inl hpinned), by simp [ClassifiedClaim.AdmitsWriter, hd]⟩
    | some there =>
      rw [pinnedNode_of_mounted hs hd, Option.some.injEq] at hpinned
      -- some mode helps if the two nodes differ
      have hshared : here = there ∨ m.source.rox = true ∨ m.source.rwx = true ∨
          m.destination.rwx = true := by
        obtain ⟨-, -, hnode⟩ := (sharesNode_iff m).mp hshares
        simpa [hs, hd] using (exists_node_iff m.source m.destination).mp hnode
      simp only [ClassifiedClaim.isNodeBound] at hpinned
      simp only [ClassifiedClaim.AdmitsReader, ClassifiedClaim.AdmitsWriter, hs, hd]
      grind

section

variable {client client' : Client} {claim claim' : Claim} {pods pods' : List Pod}
  {source destination : ClassifiedClaim}

/-- Where one pod is sent to copy two claims, both of them can be mounted, with one exception:
the destination declares that several nodes may read it and does not declare that several may
write to it, and it is mounted on another node than the source. A pod that is sent nowhere can
mount both wherever it comes to run. -/
theorem pinnedNode_serves_iff
    (hsource : ClassifiedClaim.classify client claim pods = .ok source)
    (hdestination : ClassifiedClaim.classify client' claim' pods' = .ok destination)
    (request : Request) (hshares : (Migration.mk source destination request).sharesNode = true) :
    ((Migration.mk source destination request).pinnedNode = none → ∀ node,
        claim.ServesReader pods node ∧ claim'.ServesWriter pods' node) ∧
      ∀ node, (Migration.mk source destination request).pinnedNode = some node →
        claim.ServesReader pods node ∧ (claim'.ServesWriter pods' node ↔
          ¬("ReadOnlyMany" ∈ claim'.accessModes ∧ "ReadWriteMany" ∉ claim'.accessModes ∧
            ∃ here there, here ≠ there ∧ MountedOn (claim.name.getD "") pods here ∧
              MountedOn (claim'.name.getD "") pods' there)) := by
  have hs := ClassifiedClaim.reflects_of_classify hsource
  have hd := ClassifiedClaim.reflects_of_classify hdestination
  constructor
  · intro hpinned node
    obtain ⟨hsnone, hdnone⟩ : source.mountedNode = none ∧ destination.mountedNode = none := by
      simp only [pinnedNode, Option.or_eq_none_iff] at hpinned
      exact hpinned.2.2
    exact ⟨Or.inl (hs.mountedNode_eq_none_iff.mp hsnone),
      Or.inl (hd.mountedNode_eq_none_iff.mp hdnone)⟩
  · intro node hpinned
    have hadmits := admits_pinnedNode hshares hpinned
    simpa only [hs.admitsReader_iff, hd.admitsWriter_iff, hd.rox_iff, ← Bool.not_eq_true,
      hd.rwx_iff, hs.mountedNode_eq_some_iff, hd.mountedNode_eq_some_iff] using hadmits

/-- The exception is met by claims that are apart: the pod is sent to the source's node. -/
theorem pinnedNode_serves_iff_apart :
    Apart.migration.sharesNode = true ∧ Apart.migration.pinnedNode = some "east" ∧
      Apart.source.ServesReader Apart.pods "east" ∧
        (Apart.destination.ServesWriter Apart.pods "east" ↔
          ¬("ReadOnlyMany" ∈ Apart.destination.accessModes ∧
            "ReadWriteMany" ∉ Apart.destination.accessModes ∧
              ∃ here there, here ≠ there ∧ MountedOn "old" Apart.pods here ∧
                MountedOn "new" Apart.pods there)) := by
  have hshares : Apart.migration.sharesNode = true := by decide +kernel
  have hpinned : Apart.migration.pinnedNode = some "east" := by decide +kernel
  obtain ⟨-, hserves⟩ := pinnedNode_serves_iff Apart.classify_source
    Apart.classify_destination Apart.request hshares
  exact ⟨hshares, hpinned, hserves "east" hpinned⟩

/-- A pod that is to copy one claim into another can be sent to a node where the destination
cannot be written to, although there is a node where both can be mounted. -/
theorem pinnedNode_strands_writer :
    ∃ client source destination pods, ∃ m : Migration,
      ClassifiedClaim.classify client source pods = .ok m.source ∧
      ClassifiedClaim.classify client destination pods = .ok m.destination ∧
      m.sharesNode = true ∧ m.pinnedNode = some "east" ∧
      ¬destination.ServesWriter pods "east" ∧
      source.ServesReader pods "west" ∧ destination.ServesWriter pods "west" :=
  ⟨Apart.client, Apart.source, Apart.destination, Apart.pods, Apart.migration,
    Apart.classify_source, Apart.classify_destination, by decide +kernel, by decide +kernel,
    by decide +kernel, by decide +kernel, by decide +kernel⟩

end

end Migration

end VolumeMigration

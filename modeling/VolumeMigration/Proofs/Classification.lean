import VolumeMigration.Proofs.SharedNode

/-!
# The law of classification

What a classification says of a claim is decided by its access modes and by one node: that of the
first pod that runs on a node and mounts the claim. Pods that do not run yet, and pods that mount
other claims, have no say in it, wherever they stand in the list (`classify_eq_of_addsIdle`). The
node is where pods of the migration are sent that mount the claim, by force if nothing but that
node can mount it and by preference if others can, and a claim for a single pod that has one is
refused.

The affinity is handed on as a tree. What that tree says is read here as a scheduler reads it
(`Tree.AdmitsNode`, `Tree.PrefersNode`), and there is no name in it but that of the node
(`Tree.strings`). Both parts, with what is read of the objects of the API, are in the main
statement (`classify_lawful`).
-/

namespace VolumeMigration

namespace Tree

/-! ### What an affinity says -/

mutual

/-- The strings in a tree, from left to right. -/
def strings : Tree → List String
  | null | bool _ | int _ | real _ => []
  | string s => [s]
  | list items => stringsOfItems items
  | map entries => stringsOfValues entries

def stringsOfItems : List Tree → List String
  | [] => []
  | t :: items => t.strings ++ stringsOfItems items

def stringsOfValues : List (String × Tree) → List String
  | [] => []
  | (_, t) :: entries => t.strings ++ stringsOfValues entries

end

/-- Whether a node meets a term, which is to meet all of its requirements; nothing meets a term
without any. Only requirements on names are read here: one of those listed has to be that of the
node. -/
def MeetsTerm (term : Tree) (node : String) : Prop :=
  (term.get "matchFields").items ≠ [] ∧ ∀ requirement ∈ (term.get "matchFields").items,
    requirement.get "key" = string "metadata.name" ∧ requirement.get "operator" = string "In" ∧
      string node ∈ (requirement.get "values").items

/-- Whether a pod with this affinity may run on a node: one of the terms is met, if there are
any. -/
def AdmitsNode (affinity : Tree) (node : String) : Prop :=
  let required := affinity.path ["nodeAffinity", "requiredDuringSchedulingIgnoredDuringExecution"]
  required.isNull = true ∨ ∃ term ∈ (required.get "nodeSelectorTerms").items, term.MeetsTerm node

/-- Whether a pod with this affinity runs on a node rather than on others. -/
def PrefersNode (affinity : Tree) (node : String) : Prop :=
  ∃ preference ∈ (affinity.path
      ["nodeAffinity", "preferredDuringSchedulingIgnoredDuringExecution"]).items,
    ∃ weight, preference.get "weight" = int weight ∧ 0 < weight ∧
      (preference.get "preference").MeetsTerm node

end Tree

namespace Affinity

variable {node other : String}

theorem meetsTerm_nodeTerm : (nodeTerm node).MeetsTerm other ↔ other = node := by
  have hfields : ((nodeTerm node).get "matchFields").items =
      [.map [("key", .string "metadata.name"), ("operator", .string "In"),
        ("values", .list [.string node])]] := rfl
  rw [Tree.MeetsTerm, hfields]
  constructor
  · rintro ⟨-, hmeets⟩
    obtain ⟨-, -, hvalues⟩ := hmeets _ List.mem_cons_self
    exact Tree.string.inj (List.mem_singleton.mp hvalues)
  · rintro rfl
    refine ⟨List.cons_ne_nil _ _, fun requirement hrequirement ↦ ?_⟩
    rw [List.mem_singleton.mp hrequirement]
    exact ⟨rfl, rfl, List.mem_singleton.mpr rfl⟩

/-- There is one name in the tree. -/
theorem strings_toTree (affinity : Affinity) :
    affinity.toTree.strings = ["metadata.name", "In", affinity.node] := by
  cases affinity <;> rfl

/-- What is required is the node, and nothing is preferred. -/
theorem reads_required (node other : String) :
    ((required node).toTree.AdmitsNode other ↔ other = node) ∧
      ¬(required node).toTree.PrefersNode other := by
  constructor
  · have hterms : (((required node).toTree.path ["nodeAffinity",
        "requiredDuringSchedulingIgnoredDuringExecution"]).get "nodeSelectorTerms").items =
          [nodeTerm node] := rfl
    rw [Tree.AdmitsNode, hterms, ← meetsTerm_nodeTerm]
    constructor
    · rintro (hnull | ⟨term, hterm, hmeets⟩)
      · cases hnull
      · rwa [List.mem_singleton.mp hterm] at hmeets
    · exact fun hmeets ↦ Or.inr ⟨_, List.mem_singleton.mpr rfl, hmeets⟩
  · rintro ⟨preference, hpreference, -⟩
    exact absurd hpreference List.not_mem_nil

/-- What is preferred is the node, and every node is admitted. -/
theorem reads_preferred (node other : String) :
    (preferred node).toTree.AdmitsNode other ∧
      ((preferred node).toTree.PrefersNode other ↔ other = node) := by
  have hpreferences : ((preferred node).toTree.path ["nodeAffinity",
      "preferredDuringSchedulingIgnoredDuringExecution"]).items =
        [.map [("weight", .int weight), ("preference", nodeTerm node)]] := rfl
  refine ⟨Or.inl rfl, ?_⟩
  rw [Tree.PrefersNode, hpreferences, ← meetsTerm_nodeTerm]
  constructor
  · rintro ⟨preference, hpreference, _, -, -, hmeets⟩
    rwa [List.mem_singleton.mp hpreference] at hmeets
  · exact fun hmeets ↦ ⟨_, List.mem_singleton.mpr rfl, weight, rfl, by decide, hmeets⟩

theorem ofMount_eq_required_iff {mounted : Option String} {rox rwx : Bool} :
    ofMount mounted rox rwx = some (.required node) ↔
      mounted = some node ∧ rox = false ∧ rwx = false := by
  cases mounted <;> cases rox <;> cases rwx <;> simp [ofMount]

theorem ofMount_eq_preferred_iff {mounted : Option String} {rox rwx : Bool} :
    ofMount mounted rox rwx = some (.preferred node) ↔
      mounted = some node ∧ (rox = true ∨ rwx = true) := by
  cases mounted <;> cases rox <;> cases rwx <;> simp [ofMount]

end Affinity

/-! ### Pods without a say -/

/-- More pods that do not mount the claim of this name, put in at any places. -/
inductive AddsIdle (claim : String) : List Pod → List Pod → Prop
  | nil : AddsIdle claim [] []
  | keep {pods more : List Pod} (pod : Pod) (h : AddsIdle claim pods more) :
      AddsIdle claim (pod :: pods) (pod :: more)
  | insert {pods more : List Pod} {pod : Pod} (hidle : ¬pod.Mounts claim)
      (h : AddsIdle claim pods more) : AddsIdle claim pods (pod :: more)

theorem mountingNode?_eq_of_addsIdle {claim : String} {pods more : List Pod}
    (h : AddsIdle claim pods more) : mountingNode? claim more = mountingNode? claim pods := by
  rw [mountingNode?_eq_findSome?, mountingNode?_eq_findSome?]
  induction h with
  | nil => rfl
  | keep pod _ ih => rw [List.findSome?_cons, List.findSome?_cons, ih]
  | insert hidle _ ih => rw [List.findSome?_cons, Pod.mountingNode?_eq_none_iff.mpr hidle, ih]

/-! ### What is read of the objects -/

theorem Tree.string?_eq_some_iff {t : Tree} {s : String} : t.string? = some s ↔ t = .string s := by
  cases t <;> simp [Tree.string?]

/-- Whether the object of a pod shows a node, and a volume that refers to the claim of this name. -/
def Tree.ShowsMount (object : Tree) (claim : String) : Prop :=
  (∃ node, object.path ["spec", "nodeName"] = .string node ∧ node ≠ "") ∧
    ∃ volume ∈ (object.path ["spec", "volumes"]).items,
      volume.get "persistentVolumeClaim" ≠ .null ∧
        ((volume.get "persistentVolumeClaim").get "claimName").string?.getD "" = claim

/-- Whether the object of a claim shows an access mode. -/
def Tree.ShowsMode (object : Tree) (mode : String) : Prop :=
  .string mode ∈ (object.path ["spec", "accessModes"]).items

theorem Pod.mounts_ofTree_iff (object : Tree) (claim : String) :
    (Pod.ofTree object).Mounts claim ↔ object.ShowsMount claim := by
  have hclaims : claim ∈ (Pod.ofTree object).claims ↔
      ∃ volume ∈ (object.path ["spec", "volumes"]).items,
        volume.get "persistentVolumeClaim" ≠ .null ∧
          ((volume.get "persistentVolumeClaim").get "claimName").string?.getD "" = claim := by
    rw [Pod.ofTree, List.mem_filterMap]
    refine exists_congr fun volume ↦ and_congr_right fun _ ↦ ?_
    cases volume.get "persistentVolumeClaim" <;> simp
  have hnode (node : String) : (Pod.ofTree object).node = some node ↔
      object.path ["spec", "nodeName"] = .string node := Tree.string?_eq_some_iff
  rw [Pod.Mounts, Tree.ShowsMount, ← hclaims]
  constructor
  · rintro ⟨node, hruns, hne, hmounts⟩
    exact ⟨⟨node, (hnode node).mp hruns, hne⟩, hmounts⟩
  · rintro ⟨⟨node, hruns, hne⟩, hmounts⟩
    exact ⟨node, (hnode node).mpr hruns, hne, hmounts⟩

theorem Claim.mem_accessModes_ofTree_iff {mode : String} (hmode : mode ≠ "") (object : Tree) :
    mode ∈ (Claim.ofTree object).accessModes ↔ object.ShowsMode mode := by
  rw [Claim.ofTree, List.mem_map]
  constructor
  · rintro ⟨item, hitem, hread⟩
    cases hstring : item.string? with
    | none => exact absurd (hread.symm.trans (by rw [hstring]; rfl)) hmode
    | some read =>
      rw [hstring, Option.getD_some] at hread
      rwa [← hread, Tree.ShowsMode, ← Tree.string?_eq_some_iff.mp hstring]
  · exact fun hitem ↦ ⟨.string mode, hitem, rfl⟩

/-! ### The law -/

namespace ClassifiedClaim

variable {client : Client} {claim : Claim} {pods more : List Pod} {c : ClassifiedClaim}
  {node : String} {e : MigrationError}

theorem classify_eq_of_addsIdle (h : AddsIdle (claim.name.getD "") pods more) :
    classify client claim more = classify client claim pods := by
  rw [classify, classify, mountingNode?_eq_of_addsIdle h]

theorem classify_eq_error_iff :
    classify client claim pods = .error e ↔ "ReadWriteOncePod" ∈ claim.accessModes ∧
      ∃ node, MountedOn (claim.name.getD "") pods node ∧
        e = .claimUnsupported (claim.fullName client)
          ("ReadWriteOncePod claim is already mounted on node " ++ node) := by
  simp only [← mountingNode?_eq_some_iff]
  rw [classify]
  split
  next node hsingle hnode =>
    have hmode : "ReadWriteOncePod" ∈ claim.accessModes := List.contains_iff_mem.mp hsingle
    constructor
    · intro h
      exact ⟨hmode, node, hnode, (Except.error.inj h).symm⟩
    · rintro ⟨-, other, hother, rfl⟩
      obtain rfl : node = other := Option.some.inj (hnode.symm.trans hother)
      rfl
  next hother =>
    constructor
    · intro h
      cases h
    · rintro ⟨hmode, node, hnode, -⟩
      exact absurd hnode (hother node (List.contains_iff_mem.mpr hmode))

/-- Where pods that mount a classified claim are sent, by what the API shows of the claim. -/
structure IsPlaced (c : ClassifiedClaim) (claim : Claim) (pods : List Pod) : Prop where
  mountedNode_iff : ∀ node, c.mountedNode = some node ↔ MountedOn (claim.name.getD "") pods node
  required_iff : ∀ node, c.affinity = some (.required node) ↔
    MountedOn (claim.name.getD "") pods node ∧
      "ReadOnlyMany" ∉ claim.accessModes ∧ "ReadWriteMany" ∉ claim.accessModes
  preferred_iff : ∀ node, c.affinity = some (.preferred node) ↔
    MountedOn (claim.name.getD "") pods node ∧
      ("ReadOnlyMany" ∈ claim.accessModes ∨ "ReadWriteMany" ∈ claim.accessModes)
  none_iff : c.affinity = none ↔ ∀ pod ∈ pods, ¬pod.Mounts (claim.name.getD "")
  /-- A required node is the only one that the tree admits. -/
  admitsNode_iff : ∀ node, c.affinity = some (.required node) → ∀ other,
    (c.affinityTree.AdmitsNode other ↔ other = node) ∧ ¬c.affinityTree.PrefersNode other
  /-- A preferred node is the only one that the tree prefers, and none is kept out. -/
  prefersNode_iff : ∀ node, c.affinity = some (.preferred node) → ∀ other,
    c.affinityTree.AdmitsNode other ∧ (c.affinityTree.PrefersNode other ↔ other = node)
  /-- There is no other name in the tree. -/
  strings_eq : ∀ node, c.mountedNode = some node →
    c.affinityTree.strings = ["metadata.name", "In", node]
  eq_null : c.mountedNode = none → c.affinityTree = .null

theorem Reflects.isPlaced (h : c.Reflects client claim pods) : c.IsPlaced claim pods where
  mountedNode_iff _ := h.mountedNode_eq_some_iff
  required_iff node := by
    rw [affinity, Affinity.ofMount_eq_required_iff, h.mountedNode_eq_some_iff, ← h.rox_iff,
      ← h.rwx_iff, Bool.not_eq_true, Bool.not_eq_true]
  preferred_iff node := by
    rw [affinity, Affinity.ofMount_eq_preferred_iff, h.mountedNode_eq_some_iff, h.rox_iff,
      h.rwx_iff]
  none_iff := by
    rw [affinity, Affinity.ofMount, Option.map_eq_none_iff, h.mountedNode_eq_none_iff]
  admitsNode_iff node hnode other := by
    rw [affinityTree, hnode]
    exact Affinity.reads_required node other
  prefersNode_iff node hnode other := by
    rw [affinityTree, hnode]
    exact Affinity.reads_preferred node other
  strings_eq node hnode := by
    rw [affinityTree, affinity, hnode, Affinity.ofMount, Option.map_some]
    dsimp only
    rw [Affinity.strings_toTree]
    split <;> rfl
  eq_null hnode := by
    rw [affinityTree, affinity, hnode]
    rfl

/-- What classifying a claim comes to, by its modes and the pods of its namespace. -/
structure IsLawful (client : Client) (claim : Claim) (pods : List Pod) : Prop where
  node_iff : ∀ node, mountingNode? (claim.name.getD "") pods = some node ↔
    MountedOn (claim.name.getD "") pods node
  no_node_iff : mountingNode? (claim.name.getD "") pods = none ↔
    ∀ pod ∈ pods, ¬pod.Mounts (claim.name.getD "")
  /-- A claim for a single pod is refused if it has one, and no other claim is. -/
  error_iff : ∀ e, classify client claim pods = .error e ↔
    "ReadWriteOncePod" ∈ claim.accessModes ∧ ∃ node, MountedOn (claim.name.getD "") pods node ∧
      e = .claimUnsupported (claim.fullName client)
        ("ReadWriteOncePod claim is already mounted on node " ++ node)
  isPlaced : ∀ c, classify client claim pods = .ok c → c.IsPlaced claim pods
  eq_of_addsIdle : ∀ more, AddsIdle (claim.name.getD "") pods more →
    classify client claim more = classify client claim pods

/-- Claims are classified by the law, and pods and claims are read as their objects show them. -/
theorem classify_lawful :
    (∀ client claim pods, IsLawful client claim pods) ∧
    (∀ object claim, (Pod.ofTree object).Mounts claim ↔ object.ShowsMount claim) ∧
    ∀ object mode, mode ≠ "" →
      (mode ∈ (Claim.ofTree object).accessModes ↔ object.ShowsMode mode) := by
  refine ⟨fun client claim pods ↦ ?_, Pod.mounts_ofTree_iff, fun object mode hmode ↦ ?_⟩
  · exact {
      node_iff := fun _ ↦ mountingNode?_eq_some_iff
      no_node_iff := mountingNode?_eq_none_iff
      error_iff := fun _ ↦ classify_eq_error_iff
      isPlaced := fun _ hc ↦ (reflects_of_classify hc).isPlaced
      eq_of_addsIdle := fun _ hmore ↦ classify_eq_of_addsIdle hmore }
  · exact Claim.mem_accessModes_ofTree_iff hmode object

end ClassifiedClaim

end VolumeMigration

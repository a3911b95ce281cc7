import Mathlib.Data.List.Forall2
import VolumeMigration.Proofs.Classification
import VolumeMigration.Proofs.Sighting

/-!
# The address by which nodes are reached

Three searches lie inside each other when a node is to be reached: for a node, for a kind of
address, and for an address of that kind. What they find together is said here without them.
`IsPicked` says which node is taken: the first one of the preferred name if it reports any address
that can be connected to, or else the first one that does. `Node.Offers` says which of its
addresses: the first one of the preferred kind, or the first of the other kind if it has none of
that. No usable node is skipped (`pickAddress?_exact`).

So the choice of a node comes before that of a kind. Between clusters, where only external
addresses lead anywhere, that is the wrong way round. An external address is taken if the node that
is picked has one, and but for a text that is reported as both kinds only then
(`Migration.picksExternal_iff`); and that node may have none while others do
(`Migration.picks_internal_across_clusters`).
-/

namespace VolumeMigration

/-- The kind that is not this one. -/
def AddressKind.other : AddressKind → AddressKind
  | internal => external
  | external => internal

theorem AddressKind.order_eq (kind : AddressKind) : kind.order = [kind, kind.other] := by
  cases kind <;> rfl

theorem AddressKind.eq_or_eq_other (kind preference : AddressKind) :
    kind = preference ∨ kind = preference.other := by
  cases kind <;> cases preference <;> simp [other]

namespace NodeAddress

/-- Whether this is an address of a kind, and not an empty one. -/
def IsOf (a : NodeAddress) (kind : AddressKind) : Prop := a.kind = kind.name ∧ a.address ≠ ""

instance (a : NodeAddress) (kind : AddressKind) : Decidable (a.IsOf kind) :=
  inferInstanceAs (Decidable (_ ∧ _))

/-- Whether this is an address that can be connected to. -/
def IsUsable (a : NodeAddress) : Prop :=
  (a.kind = "InternalIP" ∨ a.kind = "ExternalIP") ∧ a.address ≠ ""

theorem isUsable_iff {a : NodeAddress} : a.IsUsable ↔ a.IsOf .internal ∨ a.IsOf .external :=
  or_and_right

theorem IsOf.isUsable {a : NodeAddress} {kind : AddressKind} (h : a.IsOf kind) : a.IsUsable := by
  cases kind with
  | internal => exact isUsable_iff.mpr (Or.inl h)
  | external => exact isUsable_iff.mpr (Or.inr h)

end NodeAddress

namespace Node

/-- Whether the node reports an address of a kind. -/
def Reports (n : Node) (kind : AddressKind) : Prop := ∃ a ∈ n.addresses, a.IsOf kind

/-- Whether the node reports any address that can be connected to. -/
def IsReachable (n : Node) : Prop := ∃ a ∈ n.addresses, a.IsUsable

/-- Whether this is the node's first address of a kind. -/
def FirstOf (n : Node) (kind : AddressKind) (address : String) : Prop :=
  ∃ a, IsFirst (fun b ↦ b.IsOf kind) n.addresses a ∧ a.address = address

/-- Whether this is the node's first address of the preferred kind, or the first of the other kind
of a node that has none of that. -/
def Offers (n : Node) (preference : AddressKind) (address : String) : Prop :=
  n.FirstOf preference address ∨ ¬n.Reports preference ∧ n.FirstOf preference.other address

end Node

section

variable (nodes : List Node) (preferred : Option String)

/-- Whether this is the first node of the preferred name. -/
def IsPreferred (node : Node) : Prop :=
  ∃ name, preferred = some name ∧ IsFirst (fun n : Node ↦ n.name = some name) nodes node

/-- Whether this is the node that is to be reached. -/
inductive IsPicked : Node → Prop
  | preferred {node : Node} (hnode : IsPreferred nodes preferred node)
      (hreachable : node.IsReachable) : IsPicked node
  | first {node : Node} (hnone : ∀ other, IsPreferred nodes preferred other → ¬other.IsReachable)
      (hnode : IsFirst Node.IsReachable nodes node) : IsPicked node

end

/-- Whether some node reports this as an address of a kind. -/
def IsListed (nodes : List Node) (kind : AddressKind) (address : String) : Prop :=
  ∃ node ∈ nodes, ∃ a ∈ node.addresses, a.IsOf kind ∧ a.address = address

instance (nodes : List Node) (kind : AddressKind) (address : String) :
    Decidable (IsListed nodes kind address) :=
  inferInstanceAs (Decidable (∃ node ∈ nodes, ∃ a ∈ node.addresses, _ ∧ _))

/-! ### Within a node -/

namespace Node

variable {n : Node} {kind preference : AddressKind} {address : String}

theorem isReachable_iff (n : Node) (preference : AddressKind) :
    n.IsReachable ↔ n.Reports preference ∨ n.Reports preference.other := by
  constructor
  · rintro ⟨a, ha, husable⟩
    obtain ⟨kind, hkind⟩ : ∃ kind, a.IsOf kind :=
      (NodeAddress.isUsable_iff.mp husable).elim (fun h ↦ ⟨_, h⟩) fun h ↦ ⟨_, h⟩
    rcases kind.eq_or_eq_other preference with rfl | rfl
    · exact Or.inl ⟨a, ha, hkind⟩
    · exact Or.inr ⟨a, ha, hkind⟩
  · rintro (⟨a, ha, hkind⟩ | ⟨a, ha, hkind⟩) <;> exact ⟨a, ha, hkind.isUsable⟩

theorem addressOfKind?_eq_some_iff :
    n.addressOfKind? kind = some address ↔ n.FirstOf kind address := by
  have hfirst (a : NodeAddress) : IsFirst (fun b ↦ b.IsOf kind) n.addresses a ↔
      n.addresses.find? (fun b ↦ b.kind == kind.name && !b.address.isEmpty) = some a := by
    rw [find?_eq_some_iff_isFirst]
    simp only [NodeAddress.IsOf, Bool.and_eq_true, beq_iff_eq, Bool.not_eq_true',
      String.isEmpty_eq_false_iff]
  simp only [addressOfKind?, FirstOf, Option.map_eq_some_iff, hfirst]

theorem addressOfKind?_eq_none_iff : n.addressOfKind? kind = none ↔ ¬n.Reports kind := by
  simp [addressOfKind?, Reports, NodeAddress.IsOf]

theorem address?_eq_or : n.address? preference =
    (n.addressOfKind? preference).or (n.addressOfKind? preference.other) := by
  rw [address?, AddressKind.order_eq]
  cases h : n.addressOfKind? preference <;> simp [h]

theorem address?_eq_some_iff :
    n.address? preference = some address ↔ n.Offers preference address := by
  rw [address?_eq_or, Option.or_eq_some_iff, addressOfKind?_eq_none_iff,
    addressOfKind?_eq_some_iff, addressOfKind?_eq_some_iff, Offers]

theorem address?_eq_none_iff : n.address? preference = none ↔ ¬n.IsReachable := by
  rw [address?_eq_or, Option.or_eq_none_iff, addressOfKind?_eq_none_iff,
    addressOfKind?_eq_none_iff, n.isReachable_iff preference, not_or]

theorem FirstOf.exists_mem (h : n.FirstOf kind address) :
    ∃ a ∈ n.addresses, a.IsOf kind ∧ a.address = address := by
  obtain ⟨a, ha, rfl⟩ := h
  exact ⟨a, ha.mem, ha.prop, rfl⟩

theorem Offers.exists_mem (h : n.Offers preference address) :
    ∃ a ∈ n.addresses, a.IsUsable ∧ a.address = address := by
  rcases h with h | ⟨-, h⟩ <;> obtain ⟨a, ha, hkind, rfl⟩ := h.exists_mem <;>
    exact ⟨a, ha, hkind.isUsable, rfl⟩

theorem Offers.isReachable (h : n.Offers preference address) : n.IsReachable := by
  obtain ⟨a, ha, husable, -⟩ := h.exists_mem
  exact ⟨a, ha, husable⟩

end Node

/-! ### Among nodes -/

section

variable {nodes : List Node} {preferred : Option String} {preference : AddressKind}
  {address : String} {node : Node}

theorem isPreferred_iff (node : Node) : IsPreferred nodes preferred node ↔
    (preferred.bind fun name ↦ nodes.find? fun n ↦ n.name == some name) = some node := by
  simp only [IsPreferred, Option.bind_eq_some_iff, find?_eq_some_iff_isFirst, beq_iff_eq]

theorem IsPicked.mem (h : IsPicked nodes preferred node) : node ∈ nodes := by
  rcases h with ⟨⟨name, -, hnode⟩, -⟩ | ⟨-, hnode⟩ <;> exact hnode.mem

theorem pickAddress?_eq_or : pickAddress? nodes preferred preference =
    ((preferred.bind fun name ↦ nodes.find? fun n ↦ n.name == some name).bind
      fun node ↦ node.address? preference).or
        (nodes.findSome? fun node ↦ node.address? preference) := by
  cases preferred with
  | none => rfl
  | some name =>
    rw [pickAddress?, Option.bind_some]
    cases nodes.find? fun n ↦ n.name == some name <;> rfl

theorem findSome?_address?_eq_some_iff :
    (nodes.findSome? fun node ↦ node.address? preference) = some address ↔
      ∃ node, IsFirst Node.IsReachable nodes node ∧ node.Offers preference address := by
  have hreachable (node : Node) : (node.address? preference).isSome = true ↔ node.IsReachable := by
    rw [← not_iff_not, Bool.not_eq_true, Option.isSome_eq_false_iff, Option.isNone_iff_eq_none,
      Node.address?_eq_none_iff]
  simp only [findSome?_eq_some_iff_isFirst, hreachable, Node.address?_eq_some_iff]

/-- The address that is picked is the one that the node that is picked offers. -/
theorem pickAddress?_eq_some_iff : pickAddress? nodes preferred preference = some address ↔
    ∃ node, IsPicked nodes preferred node ∧ node.Offers preference address := by
  rw [pickAddress?_eq_or, Option.or_eq_some_iff, Option.bind_eq_some_iff, Option.bind_eq_none_iff,
    findSome?_address?_eq_some_iff]
  simp only [← isPreferred_iff, Node.address?_eq_some_iff, Node.address?_eq_none_iff]
  constructor
  · rintro (⟨node, hnode, hoffers⟩ | ⟨hnone, node, hnode, hoffers⟩)
    · exact ⟨node, .preferred hnode hoffers.isReachable, hoffers⟩
    · exact ⟨node, .first hnone hnode, hoffers⟩
  · rintro ⟨node, hnode | ⟨hnone, hnode⟩, hoffers⟩
    · exact Or.inl ⟨node, hnode, hoffers⟩
    · exact Or.inr ⟨hnone, node, hnode, hoffers⟩

theorem pickAddress?_eq_none_iff : pickAddress? nodes preferred preference = none ↔
    ∀ node ∈ nodes, ¬node.IsReachable := by
  rw [pickAddress?_eq_or, Option.or_eq_none_iff, Option.bind_eq_none_iff,
    List.findSome?_eq_none_iff]
  simp only [← isPreferred_iff, Node.address?_eq_none_iff]
  constructor
  · exact fun hnone ↦ hnone.2
  · refine fun hnone ↦ ⟨?_, hnone⟩
    rintro node ⟨name, -, hnode⟩
    exact hnone node hnode.mem

end

/-! ### What is read of the objects -/

/-- Whether an entry of a node's object shows this as an address of a kind. -/
def Tree.ShowsAddress (entry : Tree) (kind : AddressKind) (address : String) : Prop :=
  entry.get "type" = .string kind.name ∧ entry.get "address" = .string address ∧ address ≠ ""

/-- A string is read where there is one, and an empty one where there is none. -/
theorem Tree.getD_string?_eq_iff {t : Tree} {s : String} (hs : s ≠ "") :
    t.string?.getD "" = s ↔ t = .string s := by
  cases t <;> simp [Tree.string?, Ne.symm hs]

theorem Node.name_ofTree_iff (object : Tree) (name : String) :
    (ofTree object).name = some name ↔ object.path ["metadata", "name"] = .string name :=
  Tree.string?_eq_some_iff

/-- The addresses are read one by one, in their order. -/
theorem Node.addresses_ofTree (object : Tree) :
    List.Forall₂
      (fun entry a ↦ ∀ kind address, a.IsOf kind ∧ a.address = address ↔
        entry.ShowsAddress kind address)
      (object.path ["status", "addresses"]).items (ofTree object).addresses := by
  rw [ofTree, List.forall₂_map_right_iff, List.forall₂_same]
  intro entry _ kind address
  have hname : kind.name ≠ "" := by cases kind <;> decide
  rw [NodeAddress.IsOf, Tree.ShowsAddress, ← Tree.getD_string?_eq_iff hname, and_assoc]
  refine and_congr_right fun _ ↦ ?_
  constructor
  · rintro ⟨hne, rfl⟩
    exact ⟨(Tree.getD_string?_eq_iff hne).mp rfl, hne⟩
  · rintro ⟨hshown, hne⟩
    have hread := (Tree.getD_string?_eq_iff hne).mpr hshown
    exact ⟨hread ▸ hne, hread⟩

/-! ### No usable node is skipped -/

/-- What is picked from a list of nodes. -/
structure PicksExactly (nodes : List Node) (preferred : Option String)
    (preference : AddressKind) : Prop where
  none_iff : pickAddress? nodes preferred preference = none ↔
    ∀ node ∈ nodes, ∀ a ∈ node.addresses, ¬a.IsUsable
  exists_mem : ∀ address, pickAddress? nodes preferred preference = some address →
    ∃ node ∈ nodes, ∃ a ∈ node.addresses, a.IsUsable ∧ a.address = address
  some_iff : ∀ address, pickAddress? nodes preferred preference = some address ↔
    ∃ node, IsPicked nodes preferred node ∧ node.Offers preference address

/-- There is an address exactly if some node reports one that can be connected to; it is that of
the preferred node if that one can be reached, or else of the first that can, and there of the
preferred kind if possible. Nodes are read as their objects show them. -/
theorem pickAddress?_exact :
    (∀ nodes preferred preference, PicksExactly nodes preferred preference) ∧
    ∀ object : Tree,
      (∀ name, (Node.ofTree object).name = some name ↔
        object.path ["metadata", "name"] = .string name) ∧
      List.Forall₂
        (fun entry a ↦ ∀ kind address, a.IsOf kind ∧ a.address = address ↔
          entry.ShowsAddress kind address)
        (object.path ["status", "addresses"]).items (Node.ofTree object).addresses := by
  refine ⟨fun nodes preferred preference ↦ ?_, fun object ↦ ?_⟩
  · refine ⟨?_, fun address haddress ↦ ?_, fun address ↦ pickAddress?_eq_some_iff⟩
    · simp only [pickAddress?_eq_none_iff, Node.IsReachable, not_exists, not_and]
    · obtain ⟨node, hnode, hoffers⟩ := pickAddress?_eq_some_iff.mp haddress
      exact ⟨node, hnode.mem, hoffers.exists_mem⟩
  · exact ⟨Node.name_ofTree_iff object, Node.addresses_ofTree object⟩

/-! ### Between clusters -/

namespace Migration

/-- Between clusters an address is found if any node has an external one. It is external if the
node that is picked has one, and otherwise that node's first internal one. -/
theorem picksExternal_iff {m : Migration} (hacross : m.sameCluster = false) {nodes : List Node}
    (preferred : Option String) (hlisted : ∃ address, IsListed nodes .external address) :
    ∃ node address, IsPicked nodes preferred node ∧
      pickAddress? nodes preferred m.addressPreference = some address ∧
      (IsListed nodes .external address ↔
        node.Reports .external ∨ ∀ kind, IsListed nodes kind address) ∧
      (¬node.Reports .external → node.FirstOf .internal address) := by
  have hpreference : m.addressPreference = .external := by
    rw [addressPreference, hacross]
    rfl
  rw [hpreference]
  obtain ⟨address, haddress⟩ :
      ∃ address, pickAddress? nodes preferred .external = some address := by
    rw [← Option.ne_none_iff_exists', ne_eq, pickAddress?_eq_none_iff]
    obtain ⟨-, node, hnode, a, ha, hexternal, -⟩ := hlisted
    exact fun hnone ↦ hnone node hnode ⟨a, ha, hexternal.isUsable⟩
  obtain ⟨node, hnode, hoffers⟩ := pickAddress?_eq_some_iff.mp haddress
  refine ⟨node, address, hnode, haddress, ?_⟩
  rcases hoffers with hfirst | ⟨hnone, hfirst⟩ <;>
    obtain ⟨a, ha, hkind, rfl⟩ := hfirst.exists_mem
  · have hreports : node.Reports .external := ⟨a, ha, hkind⟩
    exact ⟨iff_of_true ⟨node, hnode.mem, a, ha, hkind, rfl⟩ (Or.inl hreports),
      fun hnone ↦ absurd hreports hnone⟩
  · have hinternal : IsListed nodes .internal a.address := ⟨node, hnode.mem, a, ha, hkind, rfl⟩
    refine ⟨⟨fun hexternal ↦ Or.inr ?_, ?_⟩, fun _ ↦ hfirst⟩
    · rintro (- | -)
      · exact hinternal
      · exact hexternal
    · rintro (hreports | hboth)
      · exact absurd hreports hnone
      · exact hboth .external

end Migration

namespace Abroad

/-- A migration into another cluster. -/
def migration : Migration :=
  { Apart.migration with
    destination := { Apart.migration.destination with
      client := { Apart.client with url := "https://abroad" } } }

/-- Two nodes of its source, of which only one can be reached from outside. -/
def nodes : List Node :=
  [{ name := some "inner", addresses := [⟨"InternalIP", "10.0.0.1"⟩] },
    { name := some "outer", addresses := [⟨"InternalIP", "10.0.0.2"⟩, ⟨"ExternalIP", "1.0.0.2"⟩] }]

end Abroad

/-- When the sshd runs on the outer node, the address of that node is external. -/
theorem Migration.picksExternal_iff_outer :
    Abroad.migration.sameCluster = false ∧ IsListed Abroad.nodes .external "1.0.0.2" ∧
      ∃ node address, IsPicked Abroad.nodes (some "outer") node ∧
        pickAddress? Abroad.nodes (some "outer") Abroad.migration.addressPreference =
          some address ∧
        (IsListed Abroad.nodes .external address ↔
          node.Reports .external ∨ ∀ kind, IsListed Abroad.nodes kind address) ∧
        (¬node.Reports .external → node.FirstOf .internal address) := by
  have hacross : Abroad.migration.sameCluster = false := by decide
  have hlisted : IsListed Abroad.nodes .external "1.0.0.2" := by decide
  exact ⟨hacross, hlisted, picksExternal_iff hacross (some "outer") ⟨_, hlisted⟩⟩

/-- When it runs on the inner node, that node's internal address is taken, although the port is
open on the outer node as well, and that one can be reached. -/
theorem Migration.picks_internal_across_clusters :
    Abroad.migration.sameCluster = false ∧ IsListed Abroad.nodes .external "1.0.0.2" ∧
      pickAddress? Abroad.nodes (some "inner") Abroad.migration.addressPreference =
        some "10.0.0.1" ∧
      ¬IsListed Abroad.nodes .external "10.0.0.1" := by
  decide

end VolumeMigration

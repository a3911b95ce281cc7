import VolumeMigration.Proofs.Idle

/-!
# The gate before the strategies

Eight checks stand between a request and its first strategy (`Check.all`). Here each of them is
described on its own (`Check.failure`), by what it looks at: the names of the strategies, the
kubeconfigs, and what the API says of either claim at the moment when it is asked
(`Findings.ofRun`). Against that description the program is measured: its result is that of the
first check that fails, nothing has been done to any release by then, and helm is called only if
all of them pass (`migrate_gated`).

Each check is spelled out from the answers alone and not from the classification that the
program derives from them, so that a check that was left out, or made of the wrong side, would
be noticed.
-/

namespace VolumeMigration

/-! ### What is checked of the names -/

namespace Strategy

/-- The failure of a name that no strategy has. -/
def unknown? (name : String) : Option MigrationError :=
  if all.any (·.name == Text.trim name) then none else some (.unknownStrategy (Text.trim name))

theorem unknown?_eq_none_iff {name : String} :
    unknown? name = none ↔ ∃ s : Strategy, s.name = Text.trim name := by
  have hall : ∀ s : Strategy, s ∈ all := by intro s; cases s <;> decide
  rw [unknown?, ite_eq_left_iff]
  constructor
  · intro h
    by_contra hnone
    refine absurd (h ?_) (by simp)
    rw [List.any_eq_true]
    rintro ⟨s, -, hs⟩
    exact hnone ⟨s, by simpa using hs⟩
  · rintro ⟨s, hs⟩ hnone
    exact absurd (List.any_eq_true.mpr ⟨s, hall s, by simpa using hs⟩) hnone

theorem ofName_cases (name : String) :
    (∃ e, unknown? name = some e ∧ ofName name = .error e) ∨
      unknown? name = none ∧ ∃ s, ofName name = .ok s := by
  unfold ofName
  dsimp only
  split
  next s hfind =>
    refine Or.inr ⟨unknown?_eq_none_iff.mpr ⟨s, ?_⟩, s, rfl⟩
    simpa using List.find?_some hfind
  next hfind =>
    refine Or.inl ⟨_, if_neg fun hany ↦ ?_, rfl⟩
    obtain ⟨s, hs, hname⟩ := List.any_eq_true.mp hany
    exact List.find?_eq_none.mp hfind s hs hname

/-- The names of a request are resolved unless one is unknown, and then the first of these. -/
theorem resolve_cases (names : List String) :
    (∃ e, names.findSome? unknown? = some e ∧ resolve names = .error e) ∨
      names.findSome? unknown? = none ∧ ∃ strategies, resolve names = .ok strategies := by
  induction names with
  | nil => exact Or.inr ⟨rfl, [], rfl⟩
  | cons name names ih =>
    rw [List.findSome?_cons, resolve, List.mapM_cons]
    rcases ofName_cases name with ⟨e, hunknown, hname⟩ | ⟨hknown, s, hname⟩
    · rw [hunknown, hname]
      exact Or.inl ⟨e, rfl, rfl⟩
    · rw [hknown, hname]
      rcases ih with ⟨e, hfirst, hresolve⟩ | ⟨hnone, strategies, hresolve⟩
      · refine Or.inl ⟨e, hfirst, ?_⟩
        rw [resolve] at hresolve
        rw [hresolve]
        rfl
      · refine Or.inr ⟨hnone, s :: strategies, ?_⟩
        rw [resolve] at hresolve
        rw [hresolve]
        rfl

end Strategy

/-! ### What is checked of a claim -/

/-- Whether the pod runs on a node and mounts the claim of this name. -/
def Pod.Mounts (claim : String) (p : Pod) : Prop :=
  ∃ node, p.node = some node ∧ node ≠ "" ∧ claim ∈ p.claims

theorem mountingNode?_eq_none_iff {claim : String} {pods : List Pod} :
    mountingNode? claim pods = none ↔ ∀ pod ∈ pods, ¬pod.Mounts claim := by
  rw [mountingNode?, List.findSome?_eq_none_iff]
  refine forall_congr' fun pod ↦ imp_congr_right fun _ ↦ ?_
  cases hnode : pod.node with
  | none => simp [Pod.Mounts, hnode]
  | some node => simp [Pod.Mounts, hnode]

namespace Claim

/-- The name that a claim goes by once it is found. -/
def fullName (c : Claim) (client : Client) : NamespacedName :=
  ⟨c.ns.getD client.defaultNamespace, c.name.getD ""⟩

/-- Whether some node or pod may write to the claim. -/
def AdmitsWriter (c : Claim) : Prop :=
  ∃ mode ∈ c.accessModes, mode ∈ ["ReadWriteOnce", "ReadWriteOncePod", "ReadWriteMany"]

instance (c : Claim) : Decidable c.AdmitsWriter :=
  inferInstanceAs (Decidable (∃ mode ∈ c.accessModes, _))

end Claim

/-- What the API says of a claim and of the pods in its namespace. -/
structure Look where
  client : Client
  id : NamespacedName
  claim : Except LookupFailure Claim
  pods : Except String (List Pod)

namespace Look

/-- What a run gets to see of a claim: the pods are asked for after the claim. -/
def ofRun (w : World) (client : Client) (id : NamespacedName) (r : Run) : Look where
  client
  id
  claim := ((w r.history).claim client id).answer
  pods := ((w ((r.note (.claimSought client id)).interrupt
    ((w r.history).claim client id).cancels).history).pods client id.ns).answer

/-- The failure of the look itself, or of a claim for a single pod that has its pod. -/
def failure : Look → Option MigrationError
  | ⟨_, id, .error .absent, _⟩ => some (.claimNotFound id)
  | ⟨_, _, .error (.failed reason), _⟩ => some (.kubernetes reason)
  | ⟨_, _, .ok _, .error reason⟩ => some (.kubernetes reason)
  | ⟨client, _, .ok claim, .ok pods⟩ =>
    if "ReadWriteOncePod" ∈ claim.accessModes then
      (mountingNode? (claim.name.getD "") pods).map fun node ↦
        .claimUnsupported (claim.fullName client)
          ("ReadWriteOncePod claim is already mounted on node " ++ node)
    else none

/-- The failure of a claim that is mounted, by the node of the first pod that mounts it. -/
def mounted : Look → Option MigrationError
  | ⟨_, _, .ok claim, .ok pods⟩ =>
    (mountingNode? (claim.name.getD "") pods).map (.claimMounted (claim.name.getD ""))
  | _ => none

/-- The failure of a claim that admits no writer. -/
def unwritable : Look → Option MigrationError
  | ⟨client, _, .ok claim, .ok _⟩ =>
    if claim.AdmitsWriter then none else some (.claimNotWritable (claim.fullName client))
  | _ => none

/-- A claim that may take part in a migration. -/
structure Admits (ignoreMounted : Bool) (l : Look) (claim : Claim) : Prop where
  /-- It exists. -/
  found : l.claim = .ok claim
  /-- A claim for a single pod has no pod, come what may. -/
  single : "ReadWriteOncePod" ∈ claim.accessModes →
    ∃ pods, l.pods = .ok pods ∧ ∀ pod ∈ pods, ¬pod.Mounts (claim.name.getD "")
  /-- It is not mounted, unless that is to be ignored. -/
  unmounted : ignoreMounted = false →
    ∃ pods, l.pods = .ok pods ∧ ∀ pod ∈ pods, ¬pod.Mounts (claim.name.getD "")

theorem exists_admits {ignoreMounted : Bool} {l : Look} (hfailure : l.failure = none)
    (hmounted : ignoreMounted = false → l.mounted = none) :
    ∃ claim, l.Admits ignoreMounted claim ∧ (l.unwritable = none → claim.AdmitsWriter) := by
  rcases l with ⟨client, id, (_ | reason) | claim, reason' | pods⟩
  -- in all cases but the last one the look itself has failed
  iterate 5 cases hfailure
  refine ⟨claim, ⟨rfl, fun hsingle ↦ ⟨pods, rfl, ?_⟩, fun hignore ↦ ⟨pods, rfl, ?_⟩⟩, ?_⟩
  · rw [failure, if_pos hsingle, Option.map_eq_none_iff] at hfailure
    exact mountingNode?_eq_none_iff.mp hfailure
  · have hnone := hmounted hignore
    rw [mounted, Option.map_eq_none_iff] at hnone
    exact mountingNode?_eq_none_iff.mp hnone
  · intro hwritable
    rw [unwritable, ite_eq_left_iff] at hwritable
    by_contra hnot
    cases hwritable hnot

end Look

/-! ### How the program checks a claim -/

namespace ClassifiedClaim

/-- Whether a classified claim is what this look amounts to. -/
structure Shows (c : ClassifiedClaim) (l : Look) : Prop where
  mounted : l.mounted = c.mountedNode.map (.claimMounted c.name)
  unwritable : l.unwritable = if c.rwo || c.rwx then none else some (.claimNotWritable c.id)

variable {c : ClassifiedClaim} {l : Look}

theorem classify_cases (client : Client) (id : NamespacedName) (claim : Claim) (pods : List Pod) :
    (∃ e, (Look.mk client id (.ok claim) (.ok pods)).failure = some e ∧
        classify client claim pods = .error e) ∨
      (Look.mk client id (.ok claim) (.ok pods)).failure = none ∧
        ∃ c, classify client claim pods = .ok c ∧ c.Shows ⟨client, id, .ok claim, .ok pods⟩ := by
  have hwriter : claim.AdmitsWriter ↔ ((claim.accessModes.contains "ReadWriteOncePod" ||
      claim.accessModes.contains "ReadWriteOnce") ||
        claim.accessModes.contains "ReadWriteMany") = true := by
    simp [Claim.AdmitsWriter]
    grind
  have hunwritable : (Look.mk client id (.ok claim) (.ok pods)).unwritable =
      if (claim.accessModes.contains "ReadWriteOncePod" ||
        claim.accessModes.contains "ReadWriteOnce") ||
          claim.accessModes.contains "ReadWriteMany" then none
      else some (.claimNotWritable (claim.fullName client)) := by
    rw [Look.unwritable]
    exact if_congr hwriter rfl rfl
  rw [classify]
  split
  next node hsingle hnode =>
    have hsingle : "ReadWriteOncePod" ∈ claim.accessModes := by simpa using hsingle
    rw [Look.failure, if_pos hsingle, hnode]
    exact Or.inl ⟨_, rfl, rfl⟩
  next hother =>
    refine Or.inr ⟨?_, _, rfl, rfl, hunwritable⟩
    rw [Look.failure, ite_eq_right_iff, Option.map_eq_none_iff]
    intro hsingle
    by_contra hnode
    obtain ⟨node, hnode⟩ := Option.ne_none_iff_exists'.mp hnode
    exact hother node (by simpa using hsingle) hnode

theorem Shows.checkMounted_cases (hc : c.Shows l) (ignoreMounted : Bool) :
    (∃ e, (if ignoreMounted then none else l.mounted) = some e ∧
        c.checkMounted ignoreMounted = .error e) ∨
      (if ignoreMounted then none else l.mounted) = none ∧
        ∃ logs, c.checkMounted ignoreMounted = .ok logs := by
  rw [hc.mounted, checkMounted]
  cases c.mountedNode with
  | none => exact Or.inr ⟨by simp, [], rfl⟩
  | some node =>
    cases ignoreMounted with
    | true => exact Or.inr ⟨rfl, _, rfl⟩
    | false => exact Or.inl ⟨_, rfl, rfl⟩

theorem Shows.checkWritable_cases (hc : c.Shows l) :
    (∃ e, l.unwritable = some e ∧ c.checkWritable = .error e) ∨
      l.unwritable = none ∧ c.checkWritable = .ok () := by
  rw [hc.unwritable, checkWritable]
  split
  · exact Or.inr ⟨rfl, rfl⟩
  · exact Or.inl ⟨_, rfl, rfl⟩

end ClassifiedClaim

theorem lookUp_cases (w : World) (client : Client) (id : NamespacedName) (r : Run) :
    (∃ e, (Look.ofRun w client id r).failure = some e ∧ (lookUp w client id r).1 = .error e) ∨
      (Look.ofRun w client id r).failure = none ∧
        ∃ c, (lookUp w client id r).1 = .ok c ∧ c.Shows (Look.ofRun w client id r) := by
  rw [Look.ofRun, lookUp]
  dsimp only
  split
  next hclaim =>
    rw [hclaim]
    exact Or.inl ⟨_, rfl, rfl⟩
  next reason hclaim =>
    rw [hclaim]
    exact Or.inl ⟨_, rfl, rfl⟩
  next claim hclaim =>
    rw [hclaim]
    split
    next reason hpods =>
      rw [hpods]
      exact Or.inl ⟨_, rfl, rfl⟩
    next pods hpods =>
      rw [hpods]
      exact ClassifiedClaim.classify_cases client id claim pods

/-! ### All checks -/

/-- The checks, of which the first that fails decides. -/
inductive Check where
  | strategyNames
  | sourceClient
  | destinationClient
  /-- The source exists and can be classified. -/
  | source
  /-- The destination exists and can be classified. -/
  | destination
  | sourceMounted
  | destinationMounted
  | destinationWritable
  deriving DecidableEq, Repr

/-- The checks in their order. -/
def Check.all : List Check :=
  [strategyNames, sourceClient, destinationClient, source, destination, sourceMounted,
    destinationMounted, destinationWritable]

/-- Everything that the checks of a request look at. -/
structure Findings where
  request : Request
  sourceClient : Except MigrationError Client
  destinationClient : Except MigrationError Client
  /-- A look at the source, for which both clients are needed. -/
  source : Option Look
  /-- A look at the destination, which comes after that at the source. -/
  destination : Option Look

/-- The failure in place of a value. -/
def failure? {α : Type} : Except MigrationError α → Option MigrationError
  | .error e => some e
  | .ok _ => none

/-- What is wrong with a request, according to one of the checks. -/
def Check.failure (f : Findings) : Check → Option MigrationError
  | strategyNames => f.request.strategies.findSome? Strategy.unknown?
  | sourceClient => failure? f.sourceClient
  | destinationClient => failure? f.destinationClient
  | source => f.source.bind Look.failure
  | destination => f.destination.bind Look.failure
  | sourceMounted => if f.request.ignoreMounted then none else f.source.bind Look.mounted
  | destinationMounted =>
    if f.request.ignoreMounted then none else f.destination.bind Look.mounted
  | destinationWritable => f.destination.bind Look.unwritable

namespace Findings

/-- The failure of the first check that fails. -/
def first? (f : Findings) : Option MigrationError := Check.all.findSome? (·.failure f)

/-- What a claim goes by while it is looked for. -/
def idOf (ref : ClaimRef) (client : Client) : NamespacedName :=
  ⟨ref.resolveNamespace client, ref.name⟩

/-- The run when both clients are there. -/
def resolved (request : Request) (source destination : Client) (r : Run) : Run :=
  (r.note .clientsSought).log (.debug "resolved claims"
    [("source", (idOf request.source source).path),
      ("dest", (idOf request.destination destination).path)])

/-- The client of the source, and that of the destination: the same one, if kubeconfig and
context are the same. -/
def clients (env : Surroundings) (request : Request) :
    Except MigrationError Client × Except MigrationError Client :=
  let source := Client.load env request.source.kubeconfig request.source.context
  let destination := Client.load env request.destination.kubeconfig request.destination.context
  (source, source.bind fun client ↦
    if client.identity.isSame
        (.resolve env request.destination.kubeconfig request.destination.context) then .ok client
    else destination)

/-- What there is to find out about a request, from this moment on. -/
def ofRun (w : World) (env : Surroundings) (request : Request) (r : Run) : Findings :=
  match clients env request with
  | (.ok source, .ok destination) =>
    let asking := resolved request source destination r
    let asked := (lookUp w source (idOf request.source source) asking).2
    { request
      sourceClient := .ok source
      destinationClient := .ok destination
      source := some (.ofRun w source (idOf request.source source) asking)
      destination := some (.ofRun w destination (idOf request.destination destination) asked) }
  | (sourceClient, destinationClient) =>
    { request, sourceClient, destinationClient, source := none, destination := none }

variable {env : Surroundings} {request : Request}

theorem loadClients_cases (env : Surroundings) (request : Request) :
    (∃ e other, clients env request = (.error e, other) ∧
        loadClients env request.source request.destination = .error e) ∨
      (∃ source e, clients env request = (.ok source, .error e) ∧
        loadClients env request.source request.destination = .error e) ∨
      ∃ source destination shared, clients env request = (.ok source, .ok destination) ∧
        loadClients env request.source request.destination =
          .ok ⟨source, destination, shared⟩ := by
  rw [clients, loadClients]
  rcases hsource : Client.load env request.source.kubeconfig request.source.context with e | client
  · exact Or.inl ⟨e, _, rfl, rfl⟩
  · by_cases hsame : client.identity.isSame
      (.resolve env request.destination.kubeconfig request.destination.context)
    · refine Or.inr (Or.inr ⟨client, client, true, congrArg (Prod.mk _) (if_pos hsame), ?_⟩)
      show (if _ then _ else _) = _
      rw [if_pos hsame]
      rfl
    · rcases hdestination : Client.load env request.destination.kubeconfig
        request.destination.context with e | other
      · refine Or.inr (Or.inl ⟨client, e, congrArg (Prod.mk _) (if_neg hsame), ?_⟩)
        show (if _ then _ else _) = _
        rw [if_neg hsame]
        rfl
      · refine Or.inr (Or.inr ⟨client, other, false, congrArg (Prod.mk _) (if_neg hsame), ?_⟩)
        show (if _ then _ else _) = _
        rw [if_neg hsame]
        rfl

/-- The failure of the checks that are made of both claims together, if one of them fails. -/
def ofClaims? (ignoreMounted : Bool) (source destination : Look) : Option MigrationError :=
  ((if ignoreMounted then none else source.mounted).or
    (if ignoreMounted then none else destination.mounted)).or destination.unwritable

theorem checkClaims_cases (request : Request) {source destination : ClassifiedClaim}
    {look look' : Look} (hsource : source.Shows look) (hdestination : destination.Shows look') :
    (∃ e, ofClaims? request.ignoreMounted look look' = some e ∧
        (checkClaims request source destination).2 = .error e) ∨
      ofClaims? request.ignoreMounted look look' = none ∧
        (checkClaims request source destination).2 = .ok () := by
  rw [ofClaims?, checkClaims]
  rcases hsource.checkMounted_cases request.ignoreMounted with ⟨e, hlook, hcheck⟩ |
    ⟨hlook, logs, hcheck⟩
  · rw [hlook, hcheck]
    exact Or.inl ⟨e, rfl, rfl⟩
  · rw [hlook, hcheck, Option.none_or]
    rcases hdestination.checkMounted_cases request.ignoreMounted with ⟨e, hlook', hcheck'⟩ |
      ⟨hlook', others, hcheck'⟩
    · rw [hlook', hcheck']
      exact Or.inl ⟨e, rfl, rfl⟩
    · rw [hlook', hcheck', Option.none_or]
      exact hdestination.checkWritable_cases

/-- A request that may be carried out. -/
structure Admitted (f : Findings) : Prop where
  known : ∀ name ∈ f.request.strategies, ∃ s : Strategy, s.name = Text.trim name
  source : ∃ look claim, f.source = some look ∧ look.Admits f.request.ignoreMounted claim
  destination : ∃ look claim, f.destination = some look ∧
    look.Admits f.request.ignoreMounted claim ∧ claim.AdmitsWriter

/-- What is left to be checked once both clients are there. -/
theorem findSome?_tail_eq (source destination : Client) (look look' : Look) :
    Check.all.tail.findSome?
        (·.failure ⟨request, .ok source, .ok destination, some look, some look'⟩) =
      look.failure.or (look'.failure.or (ofClaims? request.ignoreMounted look look')) := by
  simp only [Check.all, List.tail_cons, List.findSome?_cons, List.findSome?_nil, Check.failure,
    failure?, Option.bind_some, ofClaims?]
  cases look.failure with
  | some e => rfl
  | none =>
    cases look'.failure with
    | some e => rfl
    | none =>
      cases (if request.ignoreMounted then none else look.mounted) with
      | some e => rfl
      | none =>
        cases (if request.ignoreMounted then none else look'.mounted) with
        | some e => rfl
        | none =>
          cases look'.unwritable with
          | some e => rfl
          | none => rfl

/-- A request without a failure may be carried out. -/
theorem admitted_of_first? {w : World} {r : Run} (h : (ofRun w env request r).first? = none) :
    (ofRun w env request r).Admitted := by
  have hpass := List.findSome?_eq_none_iff.mp h
  have hnames := hpass .strategyNames (by decide)
  have hsource := hpass .source (by decide)
  have hdestination := hpass .destination (by decide)
  have hsourceMounted := hpass .sourceMounted (by decide)
  have hdestinationMounted := hpass .destinationMounted (by decide)
  have hwritable := hpass .destinationWritable (by decide)
  have hlooks : ∃ source destination, (ofRun w env request r).source = some source ∧
      (ofRun w env request r).destination = some destination := by
    have hsourceClient := hpass .sourceClient (by decide)
    have hdestinationClient := hpass .destinationClient (by decide)
    revert hsourceClient hdestinationClient
    rw [ofRun]
    rcases clients env request with ⟨_ | source, _ | destination⟩
    · exact fun h _ ↦ nomatch h
    · exact fun h _ ↦ nomatch h
    · exact fun _ h ↦ nomatch h
    · exact fun _ _ ↦ ⟨_, _, rfl, rfl⟩
  obtain ⟨source, destination, hs, hd⟩ := hlooks
  -- from here on it does not matter where the findings come from
  generalize ofRun w env request r = f at *
  simp only [Check.failure, hs, hd, Option.bind_some, ite_eq_left_iff, Bool.not_eq_true]
    at hsource hdestination hsourceMounted hdestinationMounted hwritable
  obtain ⟨claim, hadmits, -⟩ := Look.exists_admits hsource hsourceMounted
  obtain ⟨other, hadmits', hwriter⟩ := Look.exists_admits hdestination hdestinationMounted
  refine ⟨fun name hname ↦ ?_, ⟨source, claim, hs, hadmits⟩,
    destination, other, hd, hadmits', hwriter hwritable⟩
  exact Strategy.unknown?_eq_none_iff.mp (List.findSome?_eq_none_iff.mp hnames name hname)

end Findings

/-! ### The gate -/

/-- All checks but the one of the strategies' names, as the program makes them. Unpacking the
chart can still fail after them. -/
theorem prepare_cases (w : World) (env : Surroundings) (request : Request) (r : Run) :
    (∃ e, Check.all.tail.findSome? (·.failure (.ofRun w env request r)) = some e ∧
        (prepare w env request r).1 = .error e) ∨
      Check.all.tail.findSome? (·.failure (.ofRun w env request r)) = none ∧
        ((∃ reason, (prepare w env request r).1 = .error (.io reason)) ∨
          ∃ p, (prepare w env request r).1 = .ok p) := by
  rw [prepare]
  dsimp only
  rcases Findings.loadClients_cases env request with ⟨e, other, hclients, hload⟩ |
    ⟨source, e, hclients, hload⟩ | ⟨source, destination, shared, hclients, hload⟩
  · rw [hload, Findings.ofRun, hclients]
    exact Or.inl ⟨e, rfl, rfl⟩
  · rw [hload, Findings.ofRun, hclients]
    exact Or.inl ⟨e, rfl, rfl⟩
  -- both clients are there, and the source is looked up
  rw [hload, Findings.ofRun, hclients]
  dsimp only
  rw [Findings.findSome?_tail_eq]
  have hsource := lookUp_cases w source (Findings.idOf request.source source)
    (Findings.resolved request source destination r)
  rcases hlook : lookUp w source (Findings.idOf request.source source)
    (Findings.resolved request source destination r) with ⟨result, asked⟩
  rw [hlook] at hsource
  rw [Findings.resolved, Findings.idOf, Findings.idOf] at hlook
  rw [hlook]
  rcases hsource with ⟨e, hfailure, hresult⟩ | ⟨hfailure, c, hresult, hshows⟩
  · cases hresult
    exact Or.inl ⟨e, by rw [hfailure, Option.some_or], rfl⟩
  -- then the destination, in the run that the first look leaves behind
  cases hresult
  rw [hfailure, Option.none_or]
  dsimp only
  have hdestination := lookUp_cases w destination
    (Findings.idOf request.destination destination) asked
  rcases hlook' : lookUp w destination (Findings.idOf request.destination destination) asked
    with ⟨result', s⟩
  rw [hlook'] at hdestination
  rw [Findings.idOf] at hlook'
  rw [hlook']
  rcases hdestination with ⟨e, hfailure', hresult'⟩ | ⟨hfailure', c', hresult', hshows'⟩
  · cases hresult'
    exact Or.inl ⟨e, by rw [hfailure', Option.some_or], rfl⟩
  -- both claims are classified, and what is left is said by their classifications alone
  cases hresult'
  rw [hfailure', Option.none_or]
  dsimp only
  rcases Findings.checkClaims_cases request hshows hshows' with
    ⟨e, hclaims, hcheck⟩ | ⟨hclaims, hcheck⟩
  · rw [hcheck]
    exact Or.inl ⟨e, hclaims, rfl⟩
  · rw [hcheck]
    refine Or.inr ⟨hclaims, ?_⟩
    dsimp only
    split
    · exact Or.inl ⟨_, rfl⟩
    · exact Or.inr ⟨_, rfl⟩

/-- How a whole run relates to the checks of its request. -/
structure Gated (w : World) (f : Findings) (start : Run)
    (out : Ending (Except MigrationError Unit) × Run) : Prop where
  /-- An unknown name is reported before anything is looked at. -/
  unknown : ∀ e, Check.strategyNames.failure f = some e → out = (.value (.error e), start)
  /-- The first check that fails decides. -/
  first : ∀ e, f.first? = some e → out.1 = .value (.error e)
  /-- If any check fails no release is recorded and helm is not called. -/
  untouched : ∀ check e, Check.failure f check = some e → out.2.releases.records = [] ∧
    (∀ entry, .recorded entry ∉ out.2.history) ∧
      ∀ call outcome, .helmCalled call outcome ∉ out.2.history
  /-- If none fails it is up to the strategies, unless the chart cannot be unpacked. -/
  otherwise : f.first? = none → (∃ reason, out.1 = .value (.error (.io reason))) ∨
    ∃ strategies, ∃ p : Prepared, ∃ s, Strategy.resolve f.request.strategies = .ok strategies ∧
      p.migration.request = f.request ∧ out = p.run w strategies s
  /-- Whenever helm is called the request is one that may be carried out. -/
  admitted : ∀ call outcome, .helmCalled call outcome ∈ out.2.history → f.Admitted

theorem Check.mem_all (check : Check) : check ∈ Check.all := by
  cases check <;> decide

theorem Findings.request_ofRun (w : World) (env : Surroundings) (request : Request) (r : Run) :
    (ofRun w env request r).request = request := by
  rw [ofRun]
  split <;> rfl

/-- A run that ends with the failure of its first failing check has done nothing before. -/
theorem Run.Idle.gated {w : World} {f : Findings} {start r : Run} {e : MigrationError}
    (hr : r.Idle) (hfirst : f.first? = some e)
    (hunknown : ∀ e, Check.strategyNames.failure f = some e → r = start) :
    Gated w f start (.value (.error e), r) where
  unknown e' he := by
    rw [Findings.first?, Check.all, List.findSome?_cons, he] at hfirst
    cases hfirst
    rw [hunknown _ he]
  first e' he := by
    rw [hfirst] at he
    cases he
    rfl
  untouched check e' _ := by
    refine ⟨?_, fun entry ↦ hr.not_mem_of_not_isIdle rfl,
      fun call outcome ↦ hr.not_mem_of_not_isIdle rfl⟩
    rw [hr.releases]
  otherwise hnone := by
    rw [hfirst] at hnone
    cases hnone
  admitted call outcome hcall := absurd hcall (hr.not_mem_of_not_isIdle rfl)

/-- A run is gated if it has no failing check. -/
theorem Findings.gated {w : World} {env : Surroundings} {request : Request} {start r : Run}
    {out : Ending (Except MigrationError Unit) × Run}
    (hnone : (ofRun w env request r).first? = none)
    (hout : (∃ reason, out.1 = .value (.error (.io reason))) ∨
      ∃ strategies, ∃ p : Prepared, ∃ s, Strategy.resolve request.strategies = .ok strategies ∧
        p.migration.request = request ∧ out = p.run w strategies s) :
    Gated w (ofRun w env request r) start out where
  unknown e he := by
    have hpass := List.findSome?_eq_none_iff.mp hnone .strategyNames (Check.mem_all _)
    rw [he] at hpass
    cases hpass
  first e he := by
    rw [hnone] at he
    cases he
  untouched check e he := by
    have hpass := List.findSome?_eq_none_iff.mp hnone check (Check.mem_all _)
    rw [he] at hpass
    cases hpass
  otherwise _ := by
    rw [request_ofRun]
    exact hout
  admitted _ _ _ := admitted_of_first? hnone

/-- Every run passes through its checks in their order before it does anything else. -/
theorem migrate_gated (w : World) (env : Surroundings) (request : Request)
    (before : Option Interruption) :
    Gated w (.ofRun w env request (Run.start before)) (Run.start before)
      (migrate w env request (Run.start before)) := by
  have hstart := Run.Idle.start before
  have hidle := hstart.prepare w env request
  have hnames : Check.strategyNames.failure (.ofRun w env request (Run.start before)) =
      request.strategies.findSome? Strategy.unknown? := by
    rw [Check.failure, Findings.request_ofRun]
  rw [migrate]
  rcases Strategy.resolve_cases request.strategies with ⟨e, hunknown, hresolve⟩ |
    ⟨hknown, strategies, hresolve⟩
  · rw [hresolve]
    refine hstart.gated ?_ fun _ _ ↦ rfl
    rw [Findings.first?, Check.all, List.findSome?_cons, hnames, hunknown]
  rw [hresolve]
  dsimp only
  have hfirst : (Findings.ofRun w env request (Run.start before)).first? =
      Check.all.tail.findSome? (·.failure (.ofRun w env request (Run.start before))) := by
    rw [Findings.first?, Check.all, List.findSome?_cons, hnames, hknown, List.tail_cons]
  rcases prepare_cases w env request (Run.start before) with ⟨e, hfailure, hprepare⟩ |
    ⟨hnone, ⟨reason, hprepare⟩ | ⟨p, hprepare⟩⟩
  · split
    next e' s hs =>
      rw [hs] at hprepare hidle
      cases hprepare
      refine hidle.gated (hfirst.trans hfailure) fun e' he' ↦ ?_
      rw [hnames, hknown] at he'
      cases he'
    next p s hs =>
      rw [hs] at hprepare
      cases hprepare
  · split
    next e' s hs =>
      rw [hs] at hprepare
      cases hprepare
      exact Findings.gated (hfirst.trans hnone) (Or.inl ⟨reason, rfl⟩)
    next p s hs =>
      rw [hs] at hprepare
      cases hprepare
  · split
    next e' s hs =>
      rw [hs] at hprepare
      cases hprepare
    next p' s hs =>
      exact Findings.gated (hfirst.trans hnone)
        (Or.inr ⟨strategies, p', s, hresolve, request_of_prepare hs, rfl⟩)

end VolumeMigration

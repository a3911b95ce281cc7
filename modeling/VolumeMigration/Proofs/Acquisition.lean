import VolumeMigration.Proofs.Recoverable
import VolumeMigration.Proofs.Sighting

/-!
# What a wait for a service comes to

A service is watched for an address or for a port, until a deadline. Three things compete: a state
that shows what is waited for, a failure of the watch, and the deadline. `Service.Acquires` says
who wins, by the moments at which states come (`Watch.arrivals`) and at which the watch fails
(`Watch.failure?`), without a search: the first state that shows something, if it comes in time;
the failure, if that does and nothing was shown before; and in every other case the wait has timed
out. What a state shows is said by `Service.Publishes` and `Service.Exposes`.

So states that show nothing do not count, wherever they are put into a watch or taken out of it
(`Watch.AddsIdle`). That rests on the moments alone: a state that is put in takes no time of its
own, and the event behind it comes when it came before.
-/

namespace VolumeMigration

namespace Watch

variable {α β : Type}

/-! ### When things come -/

/-- What came at a moment comes so much later. -/
def later (after : Duration) : Duration × α → Duration × α := Prod.map (after + ·) id

/-- The states of a watch, each with the moment at which it comes. -/
def arrivals : Watch α → List (Duration × α)
  | next after state rest => (after, state) :: rest.arrivals.map (later after)
  | _ => []

/-- When the watch fails, and why, if it does. -/
def failure? : Watch α → Option (Duration × String)
  | failed after reason => some (after, reason)
  | next after _ rest => rest.failure?.map (later after)
  | _ => none

/-- The watch as it is seen from a moment so much earlier. -/
def delay (time : Duration) : Watch α → Watch α
  | silent => silent
  | closed after => closed (time + after)
  | failed after reason => failed (time + after) reason
  | next after state rest => next (time + after) state rest

/-- A watch into which idle states were put. Everything else comes when it came before. -/
inductive AddsIdle (Idle : α → Prop) : Watch α → Watch α → Prop
  | refl (w : Watch α) : AddsIdle Idle w w
  | next {w more : Watch α} (after : Duration) (state : α) (h : AddsIdle Idle w more) :
      AddsIdle Idle (next after state w) (next after state more)
  | idle {w more : Watch α} (after : Duration) {state : α} (hidle : Idle state)
      (h : AddsIdle Idle w more) : AddsIdle Idle (w.delay after) (next after state more)

section

variable {w more : Watch α} {after deadline time : Duration} {state : α}

@[simp] theorem later_mk : later after (time, state) = (after + time, state) := rfl

theorem lt_sub_iff : time < deadline - after ↔ after + time < deadline := by
  simp only [Duration.lt_iff_nanos_lt, Duration.nanos_sub, Duration.nanos_add]
  omega

theorem not_add_lt (h : ¬after < deadline) : ¬after + time < deadline := by
  simp only [Duration.lt_iff_nanos_lt, Duration.nanos_add] at h ⊢
  omega

theorem later_later (a b : Duration) : (later (a + b) : Duration × α → _) = later a ∘ later b := by
  funext ⟨time, state⟩
  simp [Duration.add_assoc]

/-- States come one after the other. -/
theorem pairwise_arrivals (w : Watch α) : w.arrivals.Pairwise fun x y ↦ ¬y.1 < x.1 := by
  induction w with
  | silent | closed | failed => exact List.Pairwise.nil
  | next after state rest ih =>
    refine List.Pairwise.cons ?_ (List.Pairwise.map _ ?_ ih)
    · rintro y hy
      obtain ⟨⟨time, state⟩, -, rfl⟩ := List.mem_map.mp hy
      simp [Duration.lt_iff_nanos_lt]
    · rintro ⟨time, state⟩ ⟨time', state'⟩ h
      simpa [Duration.lt_iff_nanos_lt] using h

/-- No state comes after the failure. -/
theorem not_failure_lt {reason : String} (h : w.failure? = some (time, reason)) :
    ∀ x ∈ w.arrivals, ¬time < x.1 := by
  induction w generalizing time with
  | silent | closed => cases h
  | failed => simp [arrivals]
  | next after state rest ih =>
    obtain ⟨⟨left, reason⟩, hrest, heq⟩ := Option.map_eq_some_iff.mp h
    cases heq
    refine List.forall_mem_cons.mpr ⟨by simp [Duration.lt_iff_nanos_lt], ?_⟩
    intro y hy
    obtain ⟨⟨time, state⟩, hmem, rfl⟩ := List.mem_map.mp hy
    simpa [Duration.lt_iff_nanos_lt] using ih hrest _ hmem

/-! ### What a deadline leaves -/

/-- A watch that is ended at a deadline delivers what comes in time. -/
theorem states_until (deadline : Duration) (w : Watch α) :
    (w.until deadline).states =
      (w.arrivals.filter fun x ↦ x.1 < deadline).map Prod.snd := by
  -- behind a state less time is left, so the deadline is general
  induction w generalizing deadline with
  | silent | closed => rfl
  | failed after reason =>
    rw [«until»]
    split <;> rfl
  | next after state rest ih =>
    rw [«until», arrivals, List.filter_cons, List.filter_map]
    split
    next h =>
      rw [states, ih (deadline - after)]
      simp [h, Function.comp_def, later, lt_sub_iff]
    next h =>
      simp [h, states, Function.comp_def, later, not_add_lt h]

/-- A search before a deadline finds what is made of a state that comes in time. -/
theorem findSome?_until (f : α → Option β) (deadline : Duration) (w : Watch α) :
    (w.until deadline).states.findSome? f =
      w.arrivals.findSome? fun x ↦ if x.1 < deadline then f x.2 else none := by
  simp [states_until, ← List.head?_filterMap, List.filterMap_map, List.filterMap_filter]

/-- It fails if the watch fails in time, and is closed if not. -/
theorem rest_until (deadline : Duration) (w : Watch α) :
    (w.until deadline).rest =
      (w.failure?.filter fun x ↦ x.1 < deadline).elim .closed fun x ↦ .failed x.2 := by
  induction w generalizing deadline with
  | silent | closed => rfl
  | failed after reason =>
    rw [«until», failure?, Option.filter_some]
    split <;> simp_all [rest]
  | next after state rest ih =>
    rw [«until», failure?]
    split
    next h =>
      rw [Watch.rest, ih (deadline - after)]
      rcases rest.failure? with - | ⟨time, reason⟩
      · rfl
      · simp only [Option.map_some, later_mk, Option.filter_some, lt_sub_iff]
        split <;> rfl
    next h =>
      rcases rest.failure? with - | ⟨time, reason⟩
      · rfl
      · simp [Watch.rest, Option.filter_some, not_add_lt h]

theorem rest_until_eq_failed {reason : String} (h : w.failure? = some (time, reason))
    (htime : time < deadline) : (w.until deadline).rest = .failed reason := by
  simp [rest_until, h, Option.filter_some, htime]

theorem rest_until_eq_closed
    (h : ∀ time reason, w.failure? = some (time, reason) → ¬time < deadline) :
    (w.until deadline).rest = .closed := by
  have hnone : w.failure?.filter (fun x ↦ x.1 < deadline) = none :=
    Option.filter_eq_none_iff.mpr fun x hx ↦ by simpa using h x.1 x.2 hx
  rw [rest_until, hnone, Option.elim_none]

/-! ### Idle states -/

theorem arrivals_delay (time : Duration) (w : Watch α) :
    (w.delay time).arrivals = w.arrivals.map (later time) := by
  cases w with
  | silent | closed | failed => rfl
  | next after state rest => simp [delay, arrivals, later_later]

theorem failure?_delay (time : Duration) (w : Watch α) :
    (w.delay time).failure? = w.failure?.map (later time) := by
  cases w with
  | silent | closed | failed => rfl
  | next after state rest => simp [delay, failure?, later_later]

variable {Idle : α → Prop}

theorem failure?_of_addsIdle (h : AddsIdle Idle w more) : more.failure? = w.failure? := by
  induction h with
  | refl => rfl
  | next after state _ ih => rw [failure?, failure?, ih]
  | idle after _ _ ih => rw [failure?, failure?_delay, ih]

/-- The states that are not idle are the same, and come at the same moments. -/
theorem findSome?_of_addsIdle (h : AddsIdle Idle w more) {f : Duration × α → Option β}
    (hf : ∀ time state, Idle state → f (time, state) = none) :
    more.arrivals.findSome? f = w.arrivals.findSome? f := by
  -- behind a state the same moments are counted from another one, so `f` is general
  induction h generalizing f with
  | refl => rfl
  | next after state _ ih =>
    rw [arrivals, arrivals, List.findSome?_cons, List.findSome?_cons, List.findSome?_map,
      List.findSome?_map, ih (f := f ∘ later after) fun time state h ↦ hf _ state h]
  | idle after hidle _ ih =>
    rw [arrivals, arrivals_delay, List.findSome?_cons, hf _ _ hidle, List.findSome?_map,
      List.findSome?_map, ih (f := f ∘ later after) fun time state h ↦ hf _ state h]

end

end Watch

/-! ### What a state shows -/

/-- Whether every node opens this port. -/
def ServicePort.IsOpen (p : ServicePort) : Prop := ∃ port, p.nodePort = some port ∧ 0 < port

/-- Whether this port is named for ssh or has its number. -/
def ServicePort.IsForSsh (p : ServicePort) : Prop := p.name = some "ssh" ∨ p.port = 22

namespace Service

/-- Whether this is the host name of the first ingress, or the IP address of one without a host
name. Neither may be empty. -/
inductive Publishes (s : Service) : String → Prop
  | hostname {first : Ingress} {more : List Ingress} {name : String}
      (hfirst : s.ingress = first :: more) (hname : first.hostname = some name)
      (hne : name ≠ "") : Publishes s name
  | ip {first : Ingress} {more : List Ingress} {address : String}
      (hfirst : s.ingress = first :: more)
      (hnone : ∀ name, first.hostname = some name → name = "")
      (hip : first.ip = some address) (hne : address ≠ "") : Publishes s address

/-- Whether this is the port by which ssh is reached: the first open one for ssh, or the first open
one if none is for ssh. -/
inductive Chooses (s : Service) : ServicePort → Prop
  | forSsh {p : ServicePort} (hp : IsFirst (fun q ↦ q.IsOpen ∧ q.IsForSsh) s.ports p) : Chooses s p
  | other {p : ServicePort} (hnone : ∀ q ∈ s.ports, q.IsOpen → ¬q.IsForSsh)
      (hp : IsFirst ServicePort.IsOpen s.ports p) : Chooses s p

/-- Whether this is what every node opens for ssh. -/
structure Exposes (s : Service) (port : Nat) : Prop where
  /-- Nodes open ports for this kind of service only. -/
  kind : s.kind = some "NodePort"
  /-- A port that is listed is chosen. -/
  chosen : ∃ p, s.Chooses p ∧ p.nodePort = some (port : Int)
  /-- It is a number that a port can have. -/
  bounds : 0 < port ∧ port < 65536

end Service

section

variable {s : Service} {p : ServicePort} {address : String} {port : Nat}

theorem ServicePort.isOpen_iff : p.isOpen = true ↔ p.IsOpen := by
  unfold isOpen IsOpen
  cases p.nodePort <;> simp

theorem ServicePort.servesSsh_iff : p.servesSsh = true ↔ p.IsForSsh := by
  simp [servesSsh, IsForSsh, sshPort]

namespace Service

theorem nonEmpty?_eq_some_iff {text : Option String} :
    nonEmpty? text = some address ↔ text = some address ∧ address ≠ "" := by
  simp [nonEmpty?, Option.filter_eq_some_iff]

theorem nonEmpty?_eq_none_iff {text : Option String} :
    nonEmpty? text = none ↔ ∀ name, text = some name → name = "" := by
  simp [nonEmpty?, Option.filter_eq_none_iff]

theorem loadBalancerAddress?_eq_some_iff :
    s.loadBalancerAddress? = some address ↔ s.Publishes address := by
  unfold loadBalancerAddress?
  constructor
  · intro h
    rcases hingress : s.ingress with - | ⟨first, more⟩ <;> rw [hingress] at h
    · cases h
    · rcases Option.or_eq_some_iff.mp h with hname | ⟨hnone, hip⟩
      · obtain ⟨hname, hne⟩ := nonEmpty?_eq_some_iff.mp hname
        exact Publishes.hostname hingress hname hne
      · obtain ⟨hip, hne⟩ := nonEmpty?_eq_some_iff.mp hip
        exact Publishes.ip hingress (nonEmpty?_eq_none_iff.mp hnone) hip hne
  · rintro (⟨hfirst, hname, hne⟩ | ⟨hfirst, hnone, hip, hne⟩) <;> rw [hfirst]
    · exact Option.or_eq_some_iff.mpr (Or.inl (nonEmpty?_eq_some_iff.mpr ⟨hname, hne⟩))
    · exact Option.or_eq_some_iff.mpr
        (Or.inr ⟨nonEmpty?_eq_none_iff.mpr hnone, nonEmpty?_eq_some_iff.mpr ⟨hip, hne⟩⟩)

/-- The two searches among the open ports. -/
theorem chooses_iff : s.Chooses p ↔
    let ports := s.ports.filter ServicePort.isOpen
    (ports.find? ServicePort.servesSsh).or ports.head? = some p := by
  have hssh : (s.ports.filter ServicePort.isOpen).find? ServicePort.servesSsh = some p ↔
      IsFirst (fun q ↦ q.IsOpen ∧ q.IsForSsh) s.ports p := by
    rw [List.find?_filter, find?_eq_some_iff_isFirst]
    simp only [decide_eq_true_eq, ServicePort.isOpen_iff, ServicePort.servesSsh_iff]
  have hopen : (s.ports.filter ServicePort.isOpen).head? = some p ↔
      IsFirst ServicePort.IsOpen s.ports p := by
    rw [List.head?_filter, find?_eq_some_iff_isFirst]
    simp only [ServicePort.isOpen_iff]
  have hnone : (s.ports.filter ServicePort.isOpen).find? ServicePort.servesSsh = none ↔
      ∀ q ∈ s.ports, q.IsOpen → ¬q.IsForSsh := by
    simp [List.find?_eq_none, ← ServicePort.isOpen_iff, ← ServicePort.servesSsh_iff]
  simp only [Option.or_eq_some_iff, hssh, hopen, hnone]
  constructor
  · rintro (hp | ⟨hnone, hp⟩)
    · exact Or.inl hp
    · exact Or.inr ⟨hnone, hp⟩
  · rintro (hp | ⟨hnone, hp⟩)
    · exact Chooses.forSsh hp
    · exact Chooses.other hnone hp

theorem Chooses.isOpen (h : s.Chooses p) : p.IsOpen := by
  rcases h with hp | ⟨-, hp⟩
  · exact hp.prop.1
  · exact hp.prop

theorem nodePort?_eq_some_iff (hopen : p.IsOpen) :
    (p.nodePort.map Int.toNat).filter (· < 65536) = some port ↔
      p.nodePort = some (port : Int) ∧ 0 < port ∧ port < 65536 := by
  obtain ⟨number, hnumber, hpos⟩ := hopen
  simp only [hnumber, Option.map_some, Option.filter_eq_some_iff, Option.some.injEq,
    decide_eq_true_eq]
  omega

theorem sshNodePort?_eq_some_iff : s.sshNodePort? = some port ↔ s.Exposes port := by
  unfold sshNodePort?
  constructor
  · intro h
    split at h
    next hkind =>
      dsimp only at h
      split at h
      next p hp =>
        have hchosen := chooses_iff.mpr hp
        obtain ⟨hport, hbounds⟩ := (nodePort?_eq_some_iff hchosen.isOpen).mp h
        exact ⟨by simpa using hkind, ⟨p, hchosen, hport⟩, hbounds⟩
      next => cases h
    next => cases h
  · rintro ⟨hkind, ⟨p, hchosen, hport⟩, hbounds⟩
    have hp := chooses_iff.mp hchosen
    dsimp only at hp ⊢
    rw [hp, if_pos (by simpa using hkind)]
    exact (nodePort?_eq_some_iff hchosen.isOpen).mpr ⟨hport, hbounds⟩

end Service

end

/-! ### Who wins -/

namespace Service

variable {α : Type}

/-- Whether there is a service that shows something. -/
def IsReady (Shows : Service → α → Prop) (state : Option Service) : Prop :=
  ∃ s a, state = some s ∧ Shows s a

/-- Whether this is what a wait for something that services show comes to. -/
inductive Acquires (Shows : Service → α → Prop) (id : NamespacedName) (timeout : Duration)
    (w : Watch (Option Service)) : Except MigrationError α → Prop
  /-- The first state that shows anything comes in time. -/
  | found {time : Duration} {s : Service} {a : α}
      (hfirst : IsFirst (fun x ↦ IsReady Shows x.2) w.arrivals (time, some s))
      (hshows : Shows s a) (htime : time < timeout) : Acquires Shows id timeout w (.ok a)
  /-- The watch fails in time, and has shown nothing before. -/
  | failed {time : Duration} {reason : String} (hfailure : w.failure? = some (time, reason))
      (htime : time < timeout) (hnone : ∀ x ∈ w.arrivals, ¬IsReady Shows x.2) :
      Acquires Shows id timeout w (.error (.watch reason))
  /-- Neither happens in time. -/
  | timedOut (hlate : ∀ x ∈ w.arrivals, IsReady Shows x.2 → ¬x.1 < timeout)
      (hfailure : ∀ time reason, w.failure? = some (time, reason) → ¬time < timeout) :
      Acquires Shows id timeout w (.error (.loadBalancerTimeout id))

/-- A wait that takes the first state which shows something, if that comes in time. -/
structure TakesFirst (Shows : Service → α → Prop)
    (wait : NamespacedName → Duration → Watch (Option Service) → Waited α) : Prop where
  /-- Its result is that of the one event which wins. -/
  result_eq_iff : ∀ id timeout w result,
    (wait id timeout w).result = result ↔ Acquires Shows id timeout w result
  /-- States that show nothing make no difference. -/
  result_idle : ∀ id timeout w more, w.AddsIdle (fun state ↦ ¬IsReady Shows state) more →
    (wait id timeout more).result = (wait id timeout w).result

/-- The failure of a wait that has found nothing. -/
def missed (id : NamespacedName) : Watch.Rest → MigrationError
  | .failed reason => .watch reason
  | .closed | .silent => .loadBalancerTimeout id

section

variable {Shows : Service → α → Prop} {extract : Service → Option α} {id : NamespacedName}
  {timeout : Duration} {w : Watch (Option Service)} {a : α}

/-- A wait is a search in what comes before the deadline. -/
theorem result_await : (await id timeout extract w).result =
    match (w.until timeout).states.findSome? (·.bind extract) with
    | some a => .ok a
    | none => .error (missed id (w.until timeout).rest) := by
  have hends : (await id timeout extract w).result =
      (((w.until timeout).find (·.bind extract)).ends).mapError (missed id) := by
    dsimp only [await]
    split <;> rename_i h <;> rw [h] <;> rfl
  rw [hends, Watch.find, Watch.ends_findFrom]
  cases (w.until timeout).states.findSome? (·.bind extract) <;> rfl

variable (hextract : ∀ s a, extract s = some a ↔ Shows s a)

include hextract

theorem bind_eq_some_iff {state : Option Service} :
    state.bind extract = some a ↔ ∃ s, state = some s ∧ Shows s a := by
  simp [Option.bind_eq_some_iff, hextract]

theorem isSome_bind_iff {state : Option Service} :
    (state.bind extract).isSome = true ↔ IsReady Shows state := by
  simp only [Option.isSome_iff_exists, bind_eq_some_iff hextract, IsReady]
  exact exists_comm

theorem found_iff : (w.until timeout).states.findSome? (·.bind extract) = some a ↔
    ∃ time s, IsFirst (fun x ↦ IsReady Shows x.2) w.arrivals (time, some s) ∧
      time < timeout ∧ Shows s a := by
  have hready (x : Duration × Option Service) :
      (if x.1 < timeout then x.2.bind extract else none).isSome = true ↔
        x.1 < timeout ∧ IsReady Shows x.2 := by
    rw [← isSome_bind_iff hextract]
    split <;> simp [*]
  -- what comes before a state in time is in time, so the first one in time is the first of all
  have htime : w.arrivals.Pairwise fun x y ↦ y.1 < timeout → x.1 < timeout :=
    w.pairwise_arrivals.imp Duration.lt_of_not_lt_of_lt
  rw [Watch.findSome?_until, findSome?_eq_some_iff_isFirst]
  simp only [hready, IsFirst.and_iff htime]
  constructor
  · rintro ⟨⟨time, state⟩, ⟨hfirst, hlt⟩, hstate⟩
    rw [if_pos hlt] at hstate
    obtain ⟨s, rfl, hs⟩ := (bind_eq_some_iff hextract).mp hstate
    exact ⟨time, s, hfirst, hlt, hs⟩
  · rintro ⟨time, s, hfirst, hlt, hs⟩
    refine ⟨(time, some s), ⟨hfirst, hlt⟩, ?_⟩
    rw [if_pos hlt]
    exact (bind_eq_some_iff hextract).mpr ⟨s, rfl, hs⟩

theorem notFound_iff : (w.until timeout).states.findSome? (·.bind extract) = none ↔
    ∀ x ∈ w.arrivals, IsReady Shows x.2 → ¬x.1 < timeout := by
  rw [Watch.findSome?_until, List.findSome?_eq_none_iff]
  refine forall₂_congr fun x _ ↦ ?_
  rw [← isSome_bind_iff hextract]
  split <;> simp [*]

/-- One event wins, and the wait comes to its result. -/
theorem acquires_await : Acquires Shows id timeout w (await id timeout extract w).result := by
  rw [result_await]
  split
  next a hfound =>
    obtain ⟨time, s, hfirst, hlt, hs⟩ := (found_iff hextract).mp hfound
    exact Acquires.found hfirst hs hlt
  next hfound =>
    have hlate := (notFound_iff hextract).mp hfound
    by_cases hfails : ∃ time reason, w.failure? = some (time, reason) ∧ time < timeout
    · obtain ⟨time, reason, hfailure, hlt⟩ := hfails
      rw [Watch.rest_until_eq_failed hfailure hlt]
      refine Acquires.failed hfailure hlt fun x hx hready ↦ hlate x hx hready ?_
      exact Duration.lt_of_not_lt_of_lt (Watch.not_failure_lt hfailure x hx) hlt
    · have hfailure (time reason) (h : w.failure? = some (time, reason)) : ¬time < timeout :=
        fun hlt ↦ hfails ⟨time, reason, h, hlt⟩
      rw [Watch.rest_until_eq_closed hfailure]
      exact Acquires.timedOut hlate hfailure

/-- No other event can win. -/
theorem Acquires.result_eq {result : Except MigrationError α}
    (h : Acquires Shows id timeout w result) : (await id timeout extract w).result = result := by
  rw [result_await]
  cases h with
  | found hfirst hshows htime =>
    rw [(found_iff hextract).mpr ⟨_, _, hfirst, htime, hshows⟩]
  | failed hfailure htime hnone =>
    rw [(notFound_iff hextract).mpr fun x hx hready ↦ absurd hready (hnone x hx),
      Watch.rest_until_eq_failed hfailure htime]
    rfl
  | timedOut hlate hfailure =>
    rw [(notFound_iff hextract).mpr hlate, Watch.rest_until_eq_closed hfailure]
    rfl

theorem result_await_of_addsIdle {more : Watch (Option Service)}
    (h : w.AddsIdle (fun state ↦ ¬IsReady Shows state) more) :
    (await id timeout extract more).result = (await id timeout extract w).result := by
  have hstates : (more.until timeout).states.findSome? (·.bind extract) =
      (w.until timeout).states.findSome? (·.bind extract) := by
    simp only [Watch.findSome?_until]
    refine Watch.findSome?_of_addsIdle h fun time state hidle ↦ ?_
    have hnone : state.bind extract = none := by
      simpa [← isSome_bind_iff hextract] using hidle
    simp [hnone]
  have hrest : (more.until timeout).rest = (w.until timeout).rest := by
    rw [Watch.rest_until, Watch.rest_until, Watch.failure?_of_addsIdle h]
  rw [result_await, result_await, hstates, hrest]

theorem takesFirst_report (entry : NamespacedName → α → LogEntry) :
    TakesFirst Shows fun id timeout w ↦ report (entry id) (await id timeout extract w) where
  result_eq_iff id timeout w result := by
    rw [result_report]
    constructor
    · rintro rfl
      exact acquires_await hextract
    · exact Acquires.result_eq hextract
  result_idle id timeout w more h := by
    rw [result_report, result_report]
    exact result_await_of_addsIdle hextract h

end

/-- Both waits take the first state that shows what they wait for: a load balancer that publishes
an address, and a service of which every node opens a port. -/
theorem awaits_takeFirst :
    TakesFirst Publishes awaitAddress ∧ TakesFirst Exposes awaitNodePort :=
  ⟨takesFirst_report (fun _ _ ↦ loadBalancerAddress?_eq_some_iff) _,
    takesFirst_report (fun _ _ ↦ sshNodePort?_eq_some_iff) _⟩

/-- An ingress with an empty host name shows nothing. What comes behind it is taken. -/
theorem awaits_takeFirst_empty_hostname :
    let id : NamespacedName := ⟨"east", "sshd"⟩
    let empty : Service := { ingress := [{ hostname := some "" }] }
    let ready : Service := { ingress := [{ hostname := some "", ip := some "10.0.0.1" }] }
    let w : Watch (Option Service) := .next (.ofSeconds 1) (some ready) .silent
    ¬IsReady Publishes (some empty) ∧
      (awaitAddress id (.ofSeconds 3) (w.delay (.ofSeconds 1))).result = .ok "10.0.0.1" ∧
      (awaitAddress id (.ofSeconds 3) (.next (.ofSeconds 1) (some empty) w)).result =
        .ok "10.0.0.1" := by
  intro id empty ready w
  have hidle : ¬IsReady Publishes (some empty) := by
    rintro ⟨s, address, hs, hshows⟩
    obtain rfl : empty = s := Option.some.inj hs
    have hnone := loadBalancerAddress?_eq_some_iff.mpr hshows
    cases hnone
  have hshows : Publishes ready "10.0.0.1" := .ip rfl (by simp) rfl (by decide)
  have hfirst : IsFirst (fun x ↦ IsReady Publishes x.2) (w.delay (.ofSeconds 1)).arrivals
      (.ofSeconds 2, some ready) := .head ⟨ready, _, rfl, hshows⟩
  have hresult : (awaitAddress id (.ofSeconds 3) (w.delay (.ofSeconds 1))).result =
      .ok "10.0.0.1" :=
    (awaits_takeFirst.1.result_eq_iff _ _ _ _).mpr (.found hfirst hshows (by decide))
  refine ⟨hidle, hresult, ?_⟩
  rw [awaits_takeFirst.1.result_idle id _ _ _ (.idle (.ofSeconds 1) hidle (.refl w)), hresult]

end Service

end VolumeMigration

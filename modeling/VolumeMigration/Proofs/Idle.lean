import VolumeMigration.Proofs.Sound

/-!
# Before the first attempt

As long as no attempt has begun a run is `Idle`: it has looked at the clusters, reported things
and perhaps been cancelled, and nothing else. That is so at its start (`Run.start`) and after
all checks (`Run.Idle.prepare`), however they end. An idle run has nothing in its ledger but
whether it was cancelled, so every migration can take over from it (`Run.Idle.sound`).
-/

namespace VolumeMigration

/-- Whether the event may come before any attempt: a report, a look at the clusters, or a
cancellation. -/
def Event.isIdle (e : Event) : Bool := e.isPlain && !e.isWork || e.isInterruption

namespace Run

/-- A run that has not done anything yet, and may have been cancelled already. -/
def start (before : Option Interruption) : Run := ({} : Run).interrupt before

/-- No attempt has begun. -/
structure Idle (r : Run) : Prop where
  events : ∀ e ∈ r.history, e.isIdle = true
  releases : r.releases = {}

namespace Idle

variable {r : Run}

/-- An event without work keeps a run idle. -/
theorem note (hr : r.Idle) {e : Event} (he : e.isIdle = true) : (r.note e).Idle where
  events := List.forall_mem_cons.2 ⟨he, hr.events⟩
  releases := hr.releases

theorem log (hr : r.Idle) (entry : LogEntry) : (r.log entry).Idle := hr.note rfl

theorem logAll (hr : r.Idle) (entries : List LogEntry) : (r.logAll entries).Idle := by
  induction entries generalizing r with
  | nil => exact hr
  | cons entry entries ih => exact ih (hr.log entry)

/-- So does a cancellation. -/
theorem interrupt (hr : r.Idle) (cause : Option Interruption) : (r.interrupt cause).Idle := by
  rcases r.interrupt_cases cause with h | h | h <;> rw [h]
  · exact hr
  · exact hr.note rfl
  · exact (hr.log signalReceived).note rfl

theorem start (before : Option Interruption) : (Run.start before).Idle :=
  interrupt ⟨by simp, rfl⟩ before

/-! ### The checks -/

/-- A look at a claim and at the pods of its namespace is no work. -/
theorem lookUp (hr : r.Idle) (w : World) (client : Client) (id : NamespacedName) :
    (lookUp w client id r).2.Idle := by
  have hclaim := (hr.note (e := .claimSought client id) rfl).interrupt
    ((w r.history).claim client id).cancels
  unfold VolumeMigration.lookUp
  dsimp only
  split
  · exact hclaim
  · exact hclaim
  · have hpods := fun cancels ↦ (hclaim.note (e := .podsSought client id.ns) rfl).interrupt cancels
    split
    · exact hpods _
    · exact hpods _

/-- The checks leave a run idle, whether they succeed or not. -/
theorem prepare (hr : r.Idle) (w : World) (env : Surroundings) (request : Request) :
    (prepare w env request r).2.Idle := by
  have hclients : (r.note .clientsSought).Idle := hr.note rfl
  unfold VolumeMigration.prepare
  dsimp only
  split
  · exact hclients
  next clients hload =>
    have hsource := (hclients.log (.debug "resolved claims"
      [("source", (NamespacedName.mk (request.source.resolveNamespace clients.source)
          request.source.name).path),
        ("dest", (NamespacedName.mk (request.destination.resolveNamespace clients.destination)
          request.destination.name).path)])).lookUp w clients.source
      ⟨request.source.resolveNamespace clients.source, request.source.name⟩
    split
    next e s hlookup =>
      rw [hlookup] at hsource
      exact hsource
    next source s hlookup =>
      rw [hlookup] at hsource
      have hdestination := hsource.lookUp w clients.destination
        ⟨request.destination.resolveNamespace clients.destination, request.destination.name⟩
      split
      next e t hlookup' =>
        rw [hlookup'] at hdestination
        exact hdestination
      next destination t hlookup' =>
        rw [hlookup'] at hdestination
        have hchecked := hdestination.logAll (checkClaims request source destination).1
        split
        · exact hchecked
        · split
          · exact hchecked
          · exact hchecked.log _

end Idle

end Run

/-- A migration that has passed its checks is the one that was asked for, and the last that was done
before it was to unpack every file of the chart. -/
theorem eq_ok_of_prepare {w : World} {env : Surroundings} {request : Request} {r s : Run}
    {p : Prepared} (h : prepare w env request r = (.ok p, s)) :
    p.migration.request = request ∧
      ∃ before : Run, (w before.history).unpack Helm.Chart.files = .ok p.chart ∧
        s = before.log (.debug "chart materialized" [("path", p.chart)]) := by
  unfold prepare at h
  dsimp only at h
  -- five checks can fail: clients, source, destination, claims, chart
  iterate 4
    split at h
    · cases h
  split at h
  · cases h
  next chart hchart =>
    cases h
    exact ⟨rfl, _, hchart, rfl⟩

theorem request_of_prepare {w : World} {env : Surroundings} {request : Request} {r s : Run}
    {p : Prepared} (h : prepare w env request r = (.ok p, s)) : p.migration.request = request :=
  (eq_ok_of_prepare h).1

/-! ### What an idle run amounts to -/

namespace History

variable {h : History}

/-- What is without work is plain, or a cancellation. -/
theorem isIdle_cases {e : Event} (he : e.isIdle = true) :
    (e.isPlain = true ∧ e.isWork = false) ∨ ∃ cause, e = .interrupted cause := by
  rcases (Bool.or_eq_true _ _).mp he with he | he
  · obtain ⟨hplain, hwork⟩ := (Bool.and_eq_true _ _).mp he
    exact Or.inl ⟨hplain, by simpa using hwork⟩
  · cases e with
    | interrupted cause => exact Or.inr ⟨cause, rfl⟩
    | _ => cases he

/-- Nothing is on the ledger of an idle history but whether it was cancelled. -/
theorem ledger_of_idle (hidle : ∀ e ∈ h, e.isIdle = true) :
    ∃ cancelled, h.ledger = { cancelled := cancelled } := by
  induction h with
  | nil => exact ⟨false, rfl⟩
  | cons e h ih =>
    obtain ⟨he, hh⟩ := List.forall_mem_cons.1 hidle
    obtain ⟨cancelled, hledger⟩ := ih hh
    rw [ledger_cons, hledger]
    rcases isIdle_cases he with ⟨hplain, -⟩ | ⟨cause, rfl⟩
    · exact ⟨cancelled, Ledger.after_of_isPlain _ hplain⟩
    · exact ⟨true, rfl⟩

/-- An idle history breaks no rule, since every rule is about work. -/
theorem lawful_of_idle (p : Prepared) (hidle : ∀ e ∈ h, e.isIdle = true) : h.Lawful p := by
  induction h with
  | nil => trivial
  | cons e h ih =>
    obtain ⟨he, hh⟩ := List.forall_mem_cons.1 hidle
    refine ⟨?_, ih hh⟩
    rcases isIdle_cases he with ⟨hplain, hwork⟩ | ⟨cause, rfl⟩
    · exact .aside hplain hwork
    · exact .interrupted cause

end History

namespace Run.Idle

variable {r : Run}

theorem ledger (hr : r.Idle) : ∃ cancelled, r.ledger = { cancelled := cancelled } :=
  History.ledger_of_idle hr.events

/-- Nothing is recorded, nothing installed and nothing uninstalled in an idle run. -/
theorem not_mem_of_not_isIdle (hr : r.Idle) {e : Event} (he : e.isIdle = false) :
    e ∉ r.history := by
  intro hmem
  rw [hr.events e hmem] at he
  cases he

/-- An idle run is sound for any migration that is prepared in it. -/
theorem sound (hr : r.Idle) (p : Prepared) : r.Sound p where
  lawful := History.lawful_of_idle p hr.events
  registered := by
    obtain ⟨cancelled, hledger⟩ := hr.ledger
    rw [hledger]
    exact hr.releases

end Run.Idle

end VolumeMigration

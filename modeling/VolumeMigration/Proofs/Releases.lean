import VolumeMigration.Proofs.Loop

/-!
# Every release is accounted for

What a run does to releases, from the first installation to the last removal, and what is left
of them when it is over (`Run.Accounted`):

* it uninstalls only what it has begun to install, and addresses helm in both cases alike;
* unless releases are to stay, each installation is followed by an attempt to remove it, also
  one that has failed half-way or was cut short by a cancellation;
* at its end the register holds exactly the releases that no removal has been successful for
  since they were last installed.

That holds for every run (`migrate_accounted`), whatever helm and the clusters answer and
whenever the run is cancelled. The register forgets by name and namespace, so the last point
needs that no two releases of a run share a name (`History.Lawful.release_eq_of_name_eq`).
-/

namespace VolumeMigration

/-- Whether the event begins the installation of a release. -/
def Event.Begins (release : Helm.ReleaseRef) : Event → Prop
  | .recorded entry => entry.release = release
  | _ => False

/-- What a run of this request has done to releases when it ends like this. -/
structure Run.Accounted (request : Request) (ending : Ending (Except MigrationError Unit))
    (r : Run) : Prop where
  /-- Helm uninstalls only what was begun to be installed before, on the same cluster and in the
  same namespace. -/
  uninstalled : ∀ later call outcome earlier,
    r.history = later ++ .helmCalled call outcome :: earlier → call.isInstall = false →
      ∃ entry, .recorded entry ∈ earlier ∧ call.release = entry.release ∧
        call.arguments = Helm.uninstallArguments entry.release request.helmTimeout
  /-- Helm installs only what was recorded before. -/
  installed : ∀ later call outcome earlier,
    r.history = later ++ .helmCalled call outcome :: earlier → call.isInstall = true →
      ∃ entry chart file, .recorded entry ∈ earlier ∧ call.release = entry.release ∧
        call.arguments = Helm.installArguments entry.release chart file request.overlays
          request.helmTimeout
  /-- Each installation of a run that returns is followed by an attempt to remove it. -/
  tried : request.skipCleanup = false → ∀ result, ending = .value result →
    ∀ later e earlier release, r.history = later ++ e :: earlier →
      e.installed? = some release → ∃ u ∈ later, u.uninstalled? = some release
  /-- The register holds the releases without a successful removal since they were last begun to
  be installed. -/
  left : ∀ release, (∃ entry ∈ r.releases.records, entry.release = release) ↔
    r.history.Since (·.Begins release) fun u ↦ u.removed? ≠ some release ∧ ¬u.Begins release
  /-- If every removal is successful, nothing is left. -/
  emptied : request.skipCleanup = false → ∀ result, ending = .value result →
    (∀ e ∈ r.history, ∀ release, e.uninstalled? = some release → e.removed? = some release) →
      r.releases.records = []
  /-- If releases are to stay, none is removed and all are still recorded. -/
  kept : request.skipCleanup = true → (∀ e ∈ r.history, e.uninstalled? = none) ∧
    ∀ entry, .recorded entry ∈ r.history → entry ∈ r.releases.records
  /-- A run returns unless it waits for something that never comes. -/
  stopped : request.helmTimeout.seconds < 1 <<< 63 → ∀ cause, ending = .standstill cause →
    cause = .endlessWait ∧ r.isCancelled = false

namespace Event

/-- What a removal is about. -/
theorem exists_of_uninstalled? {e : Event} {release : Helm.ReleaseRef}
    (h : e.uninstalled? = some release) :
    ∃ call outcome, e = .helmCalled call outcome ∧ call.isInstall = false ∧
      call.release = release := by
  cases e with
  | helmCalled call outcome =>
    simp only [uninstalled?] at h
    split at h
    · cases h
    next hinstall =>
      exact ⟨call, outcome, rfl, Bool.eq_false_iff.mpr hinstall, Option.some.inj h⟩
  | _ => cases h

theorem uninstalled?_of_removed? {e : Event} {release : Helm.ReleaseRef}
    (h : e.removed? = some release) : e.uninstalled? = some release := by
  cases e with
  | helmCalled call outcome =>
    simp only [removed?] at h
    split at h
    next hremoved =>
      have hinstall : call.isInstall = false := by
        simpa using ((Bool.and_eq_true _ _).mp hremoved).1
      simpa [uninstalled?, hinstall] using h
    · cases h
  | _ => cases h

end Event

/-! ### Runs of a migration -/

namespace Run.Sound

variable {p : Prepared} {r : Run}

theorem exists_recorded_of_uninstall (hs : r.Sound p) {later earlier : History} {call : Helm.Call}
    {outcome : Helm.Outcome} (hsplit : r.history = later ++ .helmCalled call outcome :: earlier)
    (hinstall : call.isInstall = false) :
    p.migration.request.skipCleanup = false ∧ ∃ entry, .recorded entry ∈ earlier ∧
      call = Helm.uninstallCall p.migration.request entry.release := by
  cases (hs.lawful_of_eq hsplit).permitted with
  | aside hplain => cases hplain
  | work hplain => cases hplain
  | installed n file values outcome hrecorded hc => cases hinstall
  | uninstalled outcome hrecorded hskip => exact ⟨hskip, _, hrecorded, rfl⟩

theorem exists_recorded_of_install (hs : r.Sound p) {later earlier : History} {call : Helm.Call}
    {outcome : Helm.Outcome} (hsplit : r.history = later ++ .helmCalled call outcome :: earlier)
    (hinstall : call.isInstall = true) :
    ∃ n release file values, .recorded ⟨release, (p.numbered n).id⟩ ∈ earlier ∧
      call = (p.numbered n).installCall release file values := by
  cases (hs.lawful_of_eq hsplit).permitted with
  | aside hplain => cases hplain
  | work hplain => cases hplain
  | installed n file values outcome hrecorded hc => exact ⟨n, _, file, values, hrecorded, rfl⟩
  | uninstalled outcome hrecorded hskip => cases hinstall

/-- Whatever was tried to be removed had been recorded. -/
theorem exists_recorded_of_uninstalled? (hs : r.Sound p) {e : Event} (he : e ∈ r.history)
    {release : Helm.ReleaseRef} (h : e.uninstalled? = some release) :
    p.migration.request.skipCleanup = false ∧
      ∃ entry, .recorded entry ∈ r.history ∧ entry.release = release := by
  obtain ⟨call, outcome, rfl, hinstall, rfl⟩ := Event.exists_of_uninstalled? h
  obtain ⟨later, earlier, hsplit⟩ := List.append_of_mem he
  obtain ⟨hskip, entry, hentry, rfl⟩ := hs.exists_recorded_of_uninstall hsplit hinstall
  exact ⟨hskip, entry, History.mem_of_mem_earlier hsplit hentry, rfl⟩

/-- A release is in the register if it was recorded and no removal of it has been successful
since then. -/
theorem exists_mem_records_iff (hs : r.Sound p) (release : Helm.ReleaseRef) :
    (∃ entry ∈ r.releases.records, entry.release = release) ↔
      r.history.Since (·.Begins release) fun u ↦ u.removed? ≠ some release ∧ ¬u.Begins release := by
  rw [← History.since_iff_latest, hs.registered]
  constructor
  · rintro ⟨entry, hentry, rfl⟩
    obtain ⟨later, e, earlier, hsplit, rfl, hlater⟩ := History.mem_registry_iff.mp hentry
    refine ⟨later, _, earlier, hsplit, rfl, fun u hu hremoved ↦ ?_⟩
    exact hlater u hu entry.release hremoved ⟨rfl, rfl⟩
  · rintro ⟨later, e, earlier, hsplit, hbegins, hlater⟩
    cases e with
    | recorded entry =>
      refine ⟨entry, History.mem_registry_iff.mpr ?_, hbegins⟩
      refine ⟨later, _, earlier, hsplit, rfl, fun u hu other hremoved hname ↦ ?_⟩
      -- a removal of another release of this name would be one of this release
      have hmem : u ∈ r.history := History.mem_of_mem_later hsplit hu
      have hentry : .recorded entry ∈ r.history := History.mem_of_eq_append hsplit
      obtain ⟨-, record, hrecord, rfl⟩ :=
        hs.exists_recorded_of_uninstalled? hmem (Event.uninstalled?_of_removed? hremoved)
      have hsame := hs.lawful.release_eq_of_name_eq hentry hrecord hname.1
      exact hlater u hu (by rw [hremoved, ← hsame, hbegins])
    | _ => cases hbegins

/-- As long as nothing is owed, each installation is followed by an attempt to remove it. -/
theorem exists_uninstalled_of_owed (howed : r.ledger.owed = []) {later earlier : History}
    {e : Event} {release : Helm.ReleaseRef} (hsplit : r.history = later ++ e :: earlier)
    (he : e.installed? = some release) : ∃ u ∈ later, u.uninstalled? = some release := by
  have hnot : ¬History.Since (·.installed? = some release) (·.uninstalled? ≠ some release)
      (later ++ e :: earlier) := by
    rw [← hsplit, ← History.mem_owed_iff]
    show release ∉ r.ledger.owed
    rw [howed]
    exact List.not_mem_nil
  obtain ⟨u, hu, hremoved⟩ := History.exists_later_of_not_since hnot he
  exact ⟨u, hu, not_not.mp hremoved⟩

end Run.Sound

/-! ### Whole runs -/

/-- A sound run that owes nothing when it returns has accounted for its releases. -/
theorem Run.Sound.accounted {p : Prepared} {r : Run} {request : Request}
    {ending : Ending (Except MigrationError Unit)} (hs : r.Sound p)
    (hrequest : p.migration.request = request)
    (hsettled : request.skipCleanup = false → ∀ result, ending = .value result →
      r.ledger.owed = [])
    (hstopped : request.hasDeadline = true → ∀ cause, ending = .standstill cause →
      cause = .endlessWait ∧ r.isCancelled = false) : r.Accounted request ending := by
  subst hrequest
  have htried : p.migration.request.skipCleanup = false → ∀ result, ending = .value result →
      ∀ later e earlier release, r.history = later ++ e :: earlier →
        e.installed? = some release → ∃ u ∈ later, u.uninstalled? = some release :=
    fun hskip result hvalue later e earlier release hsplit he ↦
      exists_uninstalled_of_owed (hsettled hskip result hvalue) hsplit he
  refine ⟨?_, ?_, htried, hs.exists_mem_records_iff, ?_, ?_, ?_⟩
  · intro later call outcome earlier hsplit hinstall
    obtain ⟨-, entry, hentry, rfl⟩ := hs.exists_recorded_of_uninstall hsplit hinstall
    exact ⟨entry, hentry, rfl, rfl⟩
  · intro later call outcome earlier hsplit hinstall
    obtain ⟨n, release, file, values, hentry, rfl⟩ := hs.exists_recorded_of_install hsplit hinstall
    exact ⟨_, p.chart, file, hentry, rfl, rfl⟩
  · intro hskip result hvalue hsuccess
    refine List.eq_nil_iff_forall_not_mem.mpr fun entry hentry ↦ ?_
    obtain ⟨later, e, earlier, hsplit, hbegins, hlater⟩ :=
      (hs.exists_mem_records_iff entry.release).mp ⟨entry, hentry, rfl⟩
    -- a record that is left had a removal after it, and that one was successful
    have hinstalled : e.installed? = some entry.release := by
      cases e with
      | recorded other => exact congrArg some hbegins
      | _ => cases hbegins
    obtain ⟨u, hu, hremoval⟩ := htried hskip result hvalue later e earlier _ hsplit hinstalled
    have hmem : u ∈ r.history := History.mem_of_mem_later hsplit hu
    exact (hlater u hu).1 (hsuccess u hmem _ hremoval)
  · intro hskip
    have hnone : ∀ e ∈ r.history, e.uninstalled? = none := by
      intro e he
      refine Option.eq_none_iff_forall_ne_some.mpr fun release hremoval ↦ ?_
      have hnot := (hs.exists_recorded_of_uninstalled? he hremoval).1
      exact absurd (hnot.symm.trans hskip) Bool.false_ne_true
    refine ⟨hnone, fun entry hentry ↦ ?_⟩
    obtain ⟨later, earlier, hsplit⟩ := List.append_of_mem hentry
    rw [hs.registered]
    refine History.mem_registry_iff.mpr
      ⟨later, _, earlier, hsplit, rfl, fun u hu other hremoved ↦ ?_⟩
    have hmem : u ∈ r.history := History.mem_of_mem_later hsplit hu
    have hremoval := Event.uninstalled?_of_removed? hremoved
    rw [hnone u hmem] at hremoval
    cases hremoval
  · exact fun htimeout ↦ hstopped (Request.hasDeadline_of_lt htimeout)

/-- An idle run that returns has nothing to account for. -/
theorem Run.Idle.accounted {r : Run} (hr : r.Idle) (request : Request)
    (result : Except MigrationError Unit) : r.Accounted request (.value result) := by
  have hevents : ∀ e ∈ r.history, e.installed? = none ∧ e.uninstalled? = none := by
    intro e he
    have hidle := hr.events e he
    cases e with
    | recorded entry => cases hidle
    | helmCalled call outcome => cases hidle
    | _ => exact ⟨rfl, rfl⟩
  refine ⟨?_, ?_, ?_, ?_, ?_, ?_, ?_⟩
  · intro later call outcome earlier hsplit hinstall
    cases hr.events _ (History.mem_of_eq_append hsplit)
  · intro later call outcome earlier hsplit hinstall
    cases hr.events _ (History.mem_of_eq_append hsplit)
  · intro hskip result hvalue later e earlier release hsplit he
    rw [(hevents e (History.mem_of_eq_append hsplit)).1] at he
    cases he
  · intro release
    rw [hr.releases]
    constructor
    · rintro ⟨entry, hentry, -⟩
      cases hentry
    · rintro ⟨later, e, earlier, hsplit, hbegins, -⟩
      cases e with
      | recorded entry => cases hr.events _ (History.mem_of_eq_append hsplit)
      | _ => cases hbegins
  · intro hskip result hvalue hsuccess
    rw [hr.releases]
  · intro hskip
    refine ⟨fun e he ↦ (hevents e he).2, fun entry hentry ↦ ?_⟩
    cases hr.events _ hentry
  · intro htimeout cause hcause
    cases hcause

/-- Every run accounts for its releases: whatever is asked for, whatever helm and the clusters
answer, and whenever it is cancelled. -/
theorem migrate_accounted (w : World) (env : Surroundings) (request : Request)
    (before : Option Interruption) :
    (migrate w env request (Run.start before)).2.Accounted request
      (migrate w env request (Run.start before)).1 := by
  have hstart := Run.Idle.start before
  unfold migrate
  split
  · exact hstart.accounted request _
  next strategies hresolve =>
    have hidle := hstart.prepare w env request
    split
    next e s hprepare =>
      rw [hprepare] at hidle
      exact hidle.accounted request _
    next p s hprepare =>
      rw [hprepare] at hidle
      have hrequest := request_of_prepare hprepare
      have hrun := p.finished w strategies (hidle.between p) hidle.not_observed
      generalize p.run w strategies s = out at hrun ⊢
      cases hrun with
      | returned hs hsettled =>
        refine hs.accounted hrequest (fun hskip _ _ ↦ hsettled (hrequest ▸ hskip)) ?_
        intro hd cause hcause
        cases hcause
      | standstill hs hc hcause =>
        refine hs.accounted hrequest ?_ ?_
        · intro hskip result hvalue
          cases hvalue
        · intro hd cause hstand
          cases hstand
          exact ⟨hcause (hrequest ▸ hd), hc⟩

end VolumeMigration

import VolumeMigration.Proofs.Perseverance

/-!
# Runs without deadlines

When no deadline can be set for the calls of helm, the first call that is to be made is where a
run stands still. By then the release it is about has been recorded, and what would remove it is
a call of helm as well. So helm is never called, and no attempt succeeds: it comes to no
installation at all, or the values of its release cannot be written, or it breaks down.

Such an attempt leaves its release behind (`Attempt.shortOfHelm_perform`). The loop goes on only
after one that has recorded nothing, unless releases are meant to stay, and so it is with the
whole run (`migrate_shortOfHelm`).
-/

namespace VolumeMigration

namespace Run

/-! ### What an attempt adds -/

/-- Helm was not called on the way, and what was recorded on it is of this attempt. -/
structure Grows (attempt : String) (r s : Run) : Prop where
  helmCalls : s.history.helmCalls = r.history.helmCalls
  records : ∃ own : List ReleaseRecord, s.releases.records = r.releases.records ++ own ∧
    ∀ entry ∈ own, entry.attempt = attempt

namespace Grows

variable {attempt : String} {r s : Run}

theorem refl (attempt : String) (r : Run) : Grows attempt r r where
  helmCalls := rfl
  records := ⟨[], (List.append_nil _).symm, nofun⟩

theorem note (h : Grows attempt r s) {e : Event}
    (he : ∀ call outcome, e ≠ .helmCalled call outcome) : Grows attempt r (s.note e) where
  helmCalls := (History.helmCalls_cons_of_not he s.history).trans h.helmCalls
  records := h.records

theorem log (h : Grows attempt r s) (entry : LogEntry) : Grows attempt r (s.log entry) :=
  h.note nofun

theorem logAll (h : Grows attempt r s) (entries : List LogEntry) :
    Grows attempt r (s.logAll entries) := by
  induction entries generalizing s with
  | nil => exact h
  | cons entry entries ih => exact ih (h.log entry)

theorem record (h : Grows attempt r s) (release : Helm.ReleaseRef) :
    Grows attempt r (s.record ⟨release, attempt⟩) where
  helmCalls :=
    (History.helmCalls_cons_of_not (fun _ _ ↦ Event.noConfusion) s.history).trans h.helmCalls
  records := by
    obtain ⟨own, hrecords, hown⟩ := h.records
    refine ⟨own ++ [⟨release, attempt⟩], ?_, ?_⟩
    · rw [releases_record, Registry.records_record, hrecords, List.append_assoc]
    · intro entry hentry
      rcases List.mem_append.mp hentry with hentry | hentry
      · exact hown entry hentry
      · rw [List.mem_singleton.mp hentry]

end Grows

end Run

/-! ### Errands and bodies -/

namespace Attempt

variable (w : World) {a : Attempt} {r : Run}

/-- An installation stands still once its values are written: its release is on record, and helm
was not called. -/
theorem install_of_not_hasDeadline (hd : a.request.hasDeadline = false)
    {release : Helm.ReleaseRef} {file : String}
    (hfile : (w (r.record ⟨release, a.id⟩).history).valuesFile a.id = .ok file) (values : Tree) :
    ∃ entry, a.install w release values r =
      (.standstill .noDeadline, (r.record ⟨release, a.id⟩).log entry) := by
  have hcall := (hasDeadline_installCall a release file values).trans hd
  exact ⟨_, by simp only [install, hfile, callHelm, hcall, Bool.false_eq_true, if_false]; rfl⟩

/-- What an errand comes to without deadlines, if it is the first one: it installs something, and
either it fails before helm would be called, or it stands still. -/
theorem carryOut_of_not_hasDeadline (hd : a.request.hasDeadline = false) {e : Errand}
    (he : e.Proper a []) (r : Run) :
    ∃ release, (∃ reason logs, a.carryOut w e r =
        (.value { result := .error (.io reason), logs }, r.record ⟨release, a.id⟩)) ∨
      ∃ entry, a.carryOut w e r =
        (.standstill .noDeadline, (r.record ⟨release, a.id⟩).log entry) := by
  cases e with
  | install release values =>
    refine ⟨release, ?_⟩
    rcases hfile : (w (r.record ⟨release, a.id⟩).history).valuesFile a.id with reason | file
    · refine Or.inl ⟨reason, [], ?_⟩
      simp only [carryOut, install, hfile]
    · obtain ⟨entry, hinstall⟩ := install_of_not_hasDeadline w hd hfile values
      refine Or.inr ⟨entry, ?_⟩
      simp only [carryOut, hinstall]
  | _ =>
    obtain ⟨other, hother, -⟩ := he
    cases hother

/-- What carries the body of an attempt over its errands when there are no deadlines is that none
of them succeeds. -/
def shortOfHelm (hd : a.request.hasDeadline = false) (r : Run) :
    Body.Care w a (a.terms fun _ ↦ True) where
  Holds before s := before = [] ∧ r.Grows a.id s
  Interrupted s := r.Grows a.id s
  Stands cause s := cause = .noDeadline ∧ r.Grows a.id s ∧
    ∃ entry ∈ s.releases.records, entry.attempt = a.id
  holds_logAll := by
    rintro before s entries ⟨hnone, hs⟩
    exact ⟨hnone, hs.logAll entries⟩
  holds_answer := by
    rintro before s q ⟨hnone, hs⟩
    refine ⟨proper_answer w (fun _ _ ↦ trivial) q s, hnone, ?_⟩
    cases q with
    | hasSsh | keyFile => exact hs
    | keys algorithm => exact hs.note fun _ _ ↦ Event.noConfusion
  holds_carryOut := by
    rintro before s e back t ⟨rfl, hs⟩ hallows hout
    obtain ⟨release, ⟨reason, logs, hcarried⟩ | ⟨entry, hcarried⟩⟩ :=
      carryOut_of_not_hasDeadline w hd hallows s <;> rw [hcarried] at hout <;> cases hout
    have hrecorded := hs.record release
    by_cases hc : (s.record ⟨release, a.id⟩).isCancelled = true
    · exact Or.inl ⟨hc, hrecorded⟩
    · refine Or.inr ⟨Bool.eq_false_iff.mpr hc, fun _ _ ↦ trivial, rfl, ?_⟩
      exact hrecorded.logAll logs
  stands_carryOut := by
    rintro before s e cause t ⟨rfl, hs⟩ hallows hout
    obtain ⟨release, ⟨reason, logs, hcarried⟩ | ⟨entry, hcarried⟩⟩ :=
      carryOut_of_not_hasDeadline w hd hallows s <;> rw [hcarried] at hout <;> cases hout
    refine ⟨rfl, (hs.record release).log entry, ⟨release, a.id⟩, ?_, rfl⟩
    rw [Run.releases_log, Run.releases_record, Registry.records_record]
    exact List.mem_append_right _ (List.mem_singleton_self _)

end Attempt

/-! ### Attempts -/

/-- Cleaning up without deadlines: there is nothing to do, or it is left out, or it breaks down
before anything is removed. -/
theorem cleanUp_of_not_hasDeadline (w : World) {request : Request}
    (hd : request.hasDeadline = false) (attempt : String) (r : Run) :
    (r.releases.ofAttempt attempt = [] ∧ cleanUp w request attempt r = (.value (), r)) ∨
      (request.skipCleanup = true ∧
        ∃ entry, cleanUp w request attempt r = (.value (), r.log entry)) ∨
      (r.releases.ofAttempt attempt ≠ [] ∧
        ∃ entry, cleanUp w request attempt r = (.standstill .noDeadline, r.log entry)) := by
  rcases hown : r.releases.ofAttempt attempt with - | ⟨entry, entries⟩
  · refine Or.inl ⟨rfl, ?_⟩
    simp only [cleanUp, hown]
  · have hne : entry :: entries ≠ [] := List.cons_ne_nil _ _
    by_cases hskip : request.skipCleanup = true
    · exact Or.inr (Or.inl ⟨hskip, _, by simp only [cleanUp, hown, hskip, if_true]; rfl⟩)
    · have hloop : ∃ report, cleanUp w request attempt r =
          uninstallEach w request (entry :: entries) (r.log report) :=
        ⟨_, by simp only [cleanUp, hown, hskip]; rfl⟩
      obtain ⟨report, hloop⟩ := hloop
      exact Or.inr (Or.inr ⟨hne, report,
        hloop.trans (uninstallEach_of_not_hasDeadline w hd hne _)⟩)

namespace Attempt

/-- What an attempt comes to without deadlines. -/
inductive ShortOfHelm (a : Attempt) (r : Run) :
    Ending (Except MigrationError Unit) × Run → Prop
  /-- It fails, and nothing of it is on record. -/
  | spared {e : MigrationError} {s : Run} (hs : r.Grows a.id s)
      (hnone : s.releases.ofAttempt a.id = []) : ShortOfHelm a r (.value (.error e), s)
  /-- It fails, and releases are meant to stay. -/
  | kept {e : MigrationError} {s : Run} (hs : r.Grows a.id s)
      (hskip : a.request.skipCleanup = true) : ShortOfHelm a r (.value (.error e), s)
  /-- It breaks down, and a release of it is on record. -/
  | broken {s : Run} {entry : ReleaseRecord} (hs : r.Grows a.id s)
      (hentry : entry ∈ s.releases.records) (hown : entry.attempt = a.id) :
    ShortOfHelm a r (.standstill .noDeadline, s)

/-- When the body has failed or was interrupted, so has the attempt, if cleaning up comes to its
end. -/
theorem exists_perform_eq {w : World} {a : Attempt} {body : Body Unit} {r s : Run}
    (hexecuted : (∃ e, a.execute w body r = (.result (.error e), s)) ∨
      a.execute w body r = (.interrupted, s)) :
    ∃ e, a.perform w body r = ((cleanUp w a.request a.id s).1.map fun _ ↦ .error e,
      (cleanUp w a.request a.id s).2) := by
  rcases hexecuted with ⟨e, hexecuted⟩ | hexecuted
  · refine ⟨e, ?_⟩
    simp only [perform, hexecuted]
    rcases cleanUp w a.request a.id s with ⟨⟨⟩ | cause, t⟩ <;> rfl
  · refine ⟨.cancelled, ?_⟩
    simp only [perform, hexecuted]
    rcases cleanUp w a.request a.id s with ⟨⟨⟩ | cause, t⟩ <;> rfl

/-- No attempt succeeds without deadlines, since each body has to install something first. -/
theorem shortOfHelm_perform (w : World) {a : Attempt} (hd : a.request.hasDeadline = false)
    (strategy : Strategy) (r : Run) : ShortOfHelm a r (a.perform w (strategy.body a) r) := by
  have hfailed : ∀ {s : Run}, r.Grows a.id s →
      ((∃ e, a.execute w (strategy.body a) r = (.result (.error e), s)) ∨
        a.execute w (strategy.body a) r = (.interrupted, s)) →
      ShortOfHelm a r (a.perform w (strategy.body a) r) := by
    intro s hs hexecuted
    obtain ⟨e, hperform⟩ := exists_perform_eq hexecuted
    rcases cleanUp_of_not_hasDeadline w hd a.id s with
      ⟨hnone, hclean⟩ | ⟨hskip, entry, hclean⟩ | ⟨hsome, entry, hclean⟩ <;> rw [hperform, hclean]
    · exact .spared hs hnone
    · exact .kept (hs.log entry) hskip
    · obtain ⟨own, hown⟩ := List.exists_mem_of_ne_nil _ hsome
      obtain ⟨hmem, hattempt⟩ := Registry.mem_ofAttempt.mp hown
      exact .broken (hs.log entry) hmem hattempt
  by_cases hc : r.isCancelled = true
  · refine hfailed (.refl a.id r) (Or.inr ?_)
    rw [execute, if_pos hc]
  · have hexecute : a.execute w (strategy.body a) r = (strategy.body a).carryOut w a r := by
      rw [execute, if_neg hc]
    have hobeys := strategy.obeys_body a (fun _ _ ↦ trivial) fun _ ↦ trivial
    have hcarried := Body.carryOut_of_obeys (shortOfHelm w hd r) hobeys ⟨rfl, .refl a.id r⟩
    rw [← hexecute] at hcarried
    generalize hout : a.execute w (strategy.body a) r = out at hcarried
    rcases hcarried with ⟨hinstalled, rfl, -⟩ | ⟨-, -, hs⟩ | hs | ⟨rfl, hs, entry, hentry, hown⟩
    · obtain ⟨e, he, -⟩ := hinstalled
      cases he
    · exact hfailed hs (Or.inl ⟨_, hout⟩)
    · exact hfailed hs (Or.inr hout)
    · rw [perform, hout]
      exact .broken hs hentry hown

end Attempt

/-! ### The loop and the whole run -/

theorem History.helmCalls_eq_nil_of_idle {h : History} (hidle : ∀ e ∈ h, e.isIdle = true) :
    h.helmCalls = [] := by
  induction h with
  | nil => rfl
  | cons e h ih =>
    obtain ⟨he, hh⟩ := List.forall_mem_cons.mp hidle
    refine (helmCalls_cons_of_not ?_ h).trans (ih hh)
    rintro call outcome rfl
    cases he

/-- Helm has not been called, and unless releases are to stay there is nothing on record. -/
structure Run.LeavesNothing (request : Request) (r : Run) : Prop where
  helmCalls : r.history.helmCalls = []
  records : request.skipCleanup = false → r.releases.records = []

namespace Run.LeavesNothing

variable {request : Request} {r : Run}

theorem log (h : r.LeavesNothing request) (entry : LogEntry) :
    (r.log entry).LeavesNothing request where
  helmCalls := (r.helmCalls_log entry).trans h.helmCalls
  records := h.records

theorem of_idle (hr : r.Idle) : r.LeavesNothing request where
  helmCalls := History.helmCalls_eq_nil_of_idle hr.events
  records _ := by rw [hr.releases]

/-- The next attempt begins. -/
theorem start (h : r.LeavesNothing request) (w : World) (runner : Runner) (strategy : Strategy) :
    (Round.of w runner strategy r).start.LeavesNothing request where
  helmCalls := by
    refine (Run.helmCalls_log _ _).trans ((Run.helmCalls_interrupt _ _).trans ?_)
    exact (History.helmCalls_cons_of_not (fun _ _ ↦ Event.noConfusion) r.history).trans h.helmCalls
  records hskip := by
    show (((r.note _).interrupt _).log _).releases.records = []
    rw [Run.releases_log, Run.releases_interrupt, Run.releases_note, h.records hskip]

end Run.LeavesNothing

/-- What whatever tries strategies comes to without deadlines: it fails and leaves nothing, or it
breaks down with a release on record that helm was never asked to install. -/
inductive Request.ShortOfHelm (request : Request) : Ending (Except MigrationError Unit) × Run → Prop
  | failed {e : MigrationError} {s : Run} (hs : s.LeavesNothing request) :
    ShortOfHelm request (.value (.error e), s)
  | broken {s : Run} (hcalls : s.history.helmCalls = []) (hrecords : s.releases.records ≠ []) :
    ShortOfHelm request (.standstill .noDeadline, s)

section

variable {w : World} {p : Prepared} {r : Run}

/-- An attempt in a run that leaves nothing. -/
theorem Attempt.ShortOfHelm.request {a : Attempt} {out : Ending (Except MigrationError Unit) × Run}
    (h : a.ShortOfHelm r out) (hr : r.LeavesNothing a.request) : a.request.ShortOfHelm out := by
  cases h with
  | spared hs hnone =>
    refine .failed ⟨hs.helmCalls.trans hr.helmCalls, fun hskip ↦ ?_⟩
    obtain ⟨own, hrecords, hown⟩ := hs.records
    rw [hr.records hskip, List.nil_append] at hrecords
    refine List.eq_nil_iff_forall_not_mem.mpr fun entry hentry ↦ ?_
    have hmem := Registry.mem_ofAttempt.mpr ⟨hentry, hown entry (hrecords ▸ hentry)⟩
    rw [hnone] at hmem
    cases hmem
  | kept hs hskip =>
    refine .failed ⟨hs.helmCalls.trans hr.helmCalls, fun hnot ↦ ?_⟩
    rw [hskip] at hnot
    cases hnot
  | broken hs hentry hown =>
    exact .broken (hs.helmCalls.trans hr.helmCalls) (List.ne_nil_of_mem hentry)

/-- One turn of the loop. -/
theorem Round.shortOfHelm (hd : p.migration.request.hasDeadline = false)
    (hr : r.LeavesNothing p.migration.request) (strategy : Strategy) :
    p.migration.request.ShortOfHelm ((Round.of w (p.attempt w) strategy r).ending,
      (Round.of w (p.attempt w) strategy r).close) := by
  have hround : p.migration.request.ShortOfHelm ((Round.of w (p.attempt w) strategy r).ending,
      (Round.of w (p.attempt w) strategy r).finish) := by
    have hattempt := Attempt.shortOfHelm_perform w
      (a := p.attemptOf (Round.of w (p.attempt w) strategy r).id) hd strategy
      (Round.of w (p.attempt w) strategy r).start
    exact hattempt.request (hr.start w (p.attempt w) strategy)
  generalize Round.of w (p.attempt w) strategy r = x at hround ⊢
  rcases x.close_cases with hclose | ⟨entry, hclose⟩ <;> rw [hclose]
  · exact hround
  · obtain ⟨_, _, _, ending, finish⟩ := x
    cases hround with
    | failed hs => exact .failed (hs.log entry)
    | broken hcalls hrecords =>
      exact .broken ((finish.helmCalls_log entry).trans hcalls) hrecords

theorem Prepared.shortOfHelm_drive (hd : p.migration.request.hasDeadline = false)
    (strategies : List Strategy) (hr : r.LeavesNothing p.migration.request) :
    p.migration.request.ShortOfHelm (drive w (p.attempt w) strategies r) := by
  induction strategies generalizing r with
  | nil => exact .failed hr
  | cons strategy others ih =>
    have hround := Round.shortOfHelm (w := w) hd hr strategy
    rw [drive_cons]
    generalize Round.of w (p.attempt w) strategy r = x at hround ⊢
    split
    · exact hround
    next hnot =>
      obtain ⟨e, hending, -⟩ := Round.isFinal_eq_false_iff.mp (Bool.eq_false_iff.mpr hnot)
      rw [hending] at hround
      cases hround with
      | failed hs => exact ih hs

/-- There is nothing to sweep up, or it is left out. -/
theorem Run.LeavesNothing.sweep {request : Request} (hr : r.LeavesNothing request) (w : World) :
    ∃ s, sweep w request r = (.value (), s) ∧ s.LeavesNothing request := by
  by_cases hskip : request.skipCleanup = true
  · unfold VolumeMigration.sweep
    split
    · exact ⟨_, rfl, hr⟩
    · exact ⟨_, rfl, hr.log _⟩
  · have hempty : r.releases.isEmpty = true := by
      rw [Registry.isEmpty, hr.records (Bool.eq_false_iff.mpr hskip)]
      rfl
    exact ⟨r, by simp only [VolumeMigration.sweep, hempty, if_true], hr⟩

theorem Prepared.shortOfHelm_run (hd : p.migration.request.hasDeadline = false)
    (strategies : List Strategy) (hr : r.LeavesNothing p.migration.request) :
    p.migration.request.ShortOfHelm (p.run w strategies r) := by
  have hloop := p.shortOfHelm_drive (w := w) hd strategies hr
  rw [run]
  generalize drive w (p.attempt w) strategies r = out at hloop ⊢
  cases hloop with
  | broken hcalls hrecords => exact .broken hcalls hrecords
  | failed hs =>
    dsimp only
    split
    · obtain ⟨t, hsweep, ht⟩ := hs.sweep w
      rw [hsweep]
      exact .failed ht
    · exact .failed hs

end

/-- A run without deadlines never calls helm, and never succeeds. It fails before any release is
on record that is not meant to stay, or it breaks down with one on record. -/
theorem migrate_shortOfHelm (w : World) (env : Surroundings) {request : Request}
    (hd : request.hasDeadline = false) {r : Run} (hr : r.Idle) :
    request.ShortOfHelm (migrate w env request r) := by
  unfold migrate
  split
  · exact .failed (.of_idle hr)
  next strategies hresolve =>
    have hidle := hr.prepare w env request
    split
    next e s hprepare =>
      rw [hprepare] at hidle
      exact .failed (.of_idle hidle)
    next p s hprepare =>
      rw [hprepare] at hidle
      obtain rfl := request_of_prepare hprepare
      exact p.shortOfHelm_run hd strategies (.of_idle hidle)

end VolumeMigration

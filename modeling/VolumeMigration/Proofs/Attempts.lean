import VolumeMigration.Proofs.Conduct
import VolumeMigration.Proofs.Removal

/-!
# One attempt

An attempt runs between two states of rest. While it is under way the run `Serves` it: whatever
is owed was recorded by this very attempt, so that its cleaning up will find it. When it is
over the run is `Between` two attempts: nothing is owed any more, unless releases are meant to
stay.

`Attempt.care` is the invariant that carries a body over its errands, and
`attempted_of_serves` is the outcome: an attempt succeeds, fails in a way that leaves the next
strategy its turn, or has observed a cancellation; or it comes to a standstill, and then the
run is not cancelled. The last point rests on the order of things within a body. A deadline
that cannot be set stops the first call of helm, and what could be interrupted comes after an
installation that succeeded.
-/

namespace VolumeMigration

namespace Run

/-- The attempt of this number is under way, the `k`-th of the run. -/
structure Serves (p : Prepared) (n : Fin 0x100000) (k : Nat) (r : Run) : Prop
    extends r.Sound p where
  underWay : r.ledger.underWay = some (p.numbered n).id
  attempts : r.ledger.attempts = k
  /-- Whatever is owed is a record of this attempt. -/
  owed : p.migration.request.skipCleanup = false →
    ∀ release ∈ r.ledger.owed, ⟨release, (p.numbered n).id⟩ ∈ r.releases.records
  /-- Without deadlines nothing is left of earlier attempts. -/
  within : p.migration.request.hasDeadline = true ∨ p.migration.request.skipCleanup = true ∨
    ∀ entry ∈ r.releases.records, entry.attempt = (p.numbered n).id

/-- No attempt is under way, and `k` have been. -/
structure Between (p : Prepared) (k : Nat) (r : Run) : Prop extends r.Sound p where
  attempts : r.ledger.attempts = k
  /-- Every release of an attempt that is over was tried to be removed. -/
  settled : p.migration.request.skipCleanup = false → r.ledger.owed = []
  within : p.migration.request.hasDeadline = true ∨ p.migration.request.skipCleanup = true ∨
    r.releases.records = []

namespace Serves

variable {p : Prepared} {n : Fin 0x100000} {k : Nat} {r : Run}

/-! ### What keeps an attempt under way -/

theorem of_same {s : Run} (hs : r.Serves p n k) (hsound : s.Sound p)
    (hunderWay : s.ledger.underWay = r.ledger.underWay)
    (hattempts : s.ledger.attempts = r.ledger.attempts) (howed : s.ledger.owed = r.ledger.owed)
    (hreleases : s.releases = r.releases) : s.Serves p n k where
  toSound := hsound
  underWay := hunderWay.trans hs.underWay
  attempts := hattempts.trans hs.attempts
  owed := by
    rw [howed, hreleases]
    exact hs.owed
  within := by
    rw [hreleases]
    exact hs.within

theorem logAll (hs : r.Serves p n k) (entries : List LogEntry) :
    (r.logAll entries).Serves p n k := by
  refine hs.of_same (hs.toSound.logAll entries) ?_ ?_ ?_ (r.releases_logAll entries) <;>
    rw [ledger_logAll]

theorem log (hs : r.Serves p n k) (entry : LogEntry) : (r.log entry).Serves p n k :=
  hs.logAll [entry]

theorem interrupt (hs : r.Serves p n k) (cause : Option Interruption) :
    (r.interrupt cause).Serves p n k :=
  hs.of_same (hs.toSound.interrupt cause) (r.underWay_interrupt cause)
    (r.attempts_interrupt cause) (r.owed_interrupt cause) (r.releases_interrupt cause)

/-- A plain event of the attempt's body. -/
theorem note (hs : r.Serves p n k) (hc : r.isCancelled = false) {e : Event}
    (hplain : e.isPlain = true) : (r.note e).Serves p n k := by
  refine hs.of_same (hs.toSound.note hplain (.work hplain hc)) ?_ ?_ ?_ rfl <;>
    rw [ledger_note, Ledger.after_of_isPlain _ hplain]

/-- An installation begins. -/
theorem record (hs : r.Serves p n k) (hc : r.isCancelled = false) {release : Helm.ReleaseRef}
    (hrelease : release ∈ (p.numbered n).releases) :
    (r.record ⟨release, (p.numbered n).id⟩).Serves p n k where
  toSound := hs.toSound.record (.recorded n hrelease hs.underWay hc)
  underWay := hs.underWay
  attempts := hs.attempts
  owed := by
    intro hskip other hother
    rw [releases_record, Registry.records_record]
    rcases List.mem_cons.1 hother with rfl | hother
    · exact List.mem_append_right _ (List.mem_singleton.2 rfl)
    · exact List.mem_append_left _ (hs.owed hskip other hother)
  within := by
    rcases hs.within with h | h | h
    · exact Or.inl h
    · exact Or.inr (Or.inl h)
    · refine Or.inr (Or.inr ?_)
      intro entry hentry
      rw [releases_record, Registry.records_record, List.mem_append, List.mem_singleton] at hentry
      rcases hentry with hentry | rfl
      · exact h entry hentry
      · rfl

/-- Helm is called for an installation that has begun. -/
theorem call (hs : r.Serves p n k) (hc : r.isCancelled = false) {release : Helm.ReleaseRef}
    (hrecorded : ⟨release, (p.numbered n).id⟩ ∈ r.releases.records) (file : String)
    (values : Tree) (outcome : Helm.Outcome) :
    (r.note (.helmCalled ((p.numbered n).installCall release file values) outcome)).Serves
      p n k where
  lawful := ⟨.installed n file values outcome (hs.recorded_of_mem hrecorded) hc, hs.lawful⟩
  registered := hs.registered
  underWay := hs.underWay
  attempts := hs.attempts
  owed := by
    intro hskip other hother
    rcases List.mem_cons.1 hother with rfl | hother
    · exact hrecorded
    · exact hs.owed hskip other hother
  within := hs.within

end Serves

end Run

namespace Attempt

/-! ### Errands -/

theorem hasDeadline_installCall (a : Attempt) (release : Helm.ReleaseRef) (file : String)
    (values : Tree) :
    (a.installCall release file values).hasDeadline = a.request.hasDeadline := rfl

/-- A wait without a limit comes back in success or by mishap, or it is cancelled, or it goes on
for ever. -/
theorem comeBack_cases {e : Errand} {result : Option (Except MigrationError e.Result)}
    (hresult : ∀ x, result = some x → Mishap x) (logs : List LogEntry)
    (cancels : Option Interruption) (r : Run) :
    (∃ back, comeBack result logs cancels r = (.value back, r) ∧
        (cancels = none → Mishap back.result)) ∨
      cancels = none ∧ comeBack result logs cancels r = (.standstill .endlessWait, r) := by
  rcases result with - | x
  · rcases cancels with - | cause
    · exact Or.inr ⟨rfl, rfl⟩
    · exact Or.inl ⟨{ result := .error .cancelled }, rfl, fun h ↦ by cases h⟩
  · exact Or.inl ⟨{ result := x, logs }, rfl, fun _ ↦ hresult x rfl⟩

/-- What an errand that is not an installation does to a run: one event, some reports, and
perhaps a cancellation. It comes back, in time, in success or by mishap; only a wait for a job
or for ssh can go on for ever, unless it is cancelled. -/
theorem carryOut_of_not_isInstall (w : World) (a : Attempt) {e : Errand}
    (he : e.isInstall = false) (r : Run) :
    ∃ event logs cancels, e.event? = some event ∧ event.isPlain = true ∧
      ((∃ back, a.carryOut w e r =
          (.value back, ((r.note event).logAll logs).interrupt cancels) ∧
          (cancels = none → Mishap back.result)) ∨
        cancels = none ∧
          a.carryOut w e r = (.standstill .endlessWait, (r.note event).logAll logs)) := by
  cases e with
  | install release values => cases he
  | address client service =>
    refine ⟨.serviceWatched client service, _, _, rfl, rfl, Or.inl ⟨_, rfl, fun _ ↦ ?_⟩⟩
    exact Service.mishap_awaitAddress service _ _
  | nodePort client service =>
    refine ⟨.serviceWatched client service, _, _, rfl, rfl, Or.inl ⟨_, rfl, fun _ ↦ ?_⟩⟩
    exact Service.mishap_awaitNodePort service _ _
  | sshdPods release =>
    refine ⟨.sshdPodsSought release, [], _, rfl, rfl, Or.inl ⟨_, rfl, fun _ ↦ ?_⟩⟩
    exact Mishap.mapError (fun _ ↦ rfl) _
  | nodes client =>
    refine ⟨.nodesSought client, [], _, rfl, rfl, Or.inl ⟨_, rfl, fun _ ↦ ?_⟩⟩
    exact Mishap.mapError (fun _ ↦ rfl) _
  | forwards source destination =>
    refine ⟨.forwardsStarted source destination, [], _, rfl, rfl, Or.inl ⟨_, rfl, fun _ ↦ ?_⟩⟩
    exact mishap_forwards source destination _
  | job client job =>
    let reply := (w r.history).job client job
    let waited := Job.await job a.sink none reply.answer
    have hresult : ∀ x, waited.result = some x → Mishap x :=
      fun _ ↦ Job.mishap_await job a.sink none reply.answer
    refine ⟨.jobAwaited client job, waited.logs, reply.cancels, rfl, rfl, ?_⟩
    rcases comeBack_cases (e := .job client job) hresult [] reply.cancels
        (((r.note (.jobAwaited client job)).logAll waited.logs).interrupt reply.cancels) with
      hback | ⟨hcancels, hstands⟩
    · exact Or.inl hback
    · refine Or.inr ⟨hcancels, hstands.trans ?_⟩
      rw [hcancels]
      rfl
  | ssh arguments =>
    let reply := (w r.history).ssh arguments
    let call := sshResult a.sink reply.answer
    have hresult : ∀ x, call.1 = some x → Mishap x :=
      fun _ ↦ mishap_sshResult a.sink reply.answer
    refine ⟨.sshRun arguments, call.2.1, reply.cancels, rfl, rfl, ?_⟩
    rcases comeBack_cases (e := .ssh arguments) hresult call.2.2 reply.cancels
        (((r.note (.sshRun arguments)).logAll call.2.1).interrupt reply.cancels) with
      hback | ⟨hcancels, hstands⟩
    · exact Or.inl hback
    · refine Or.inr ⟨hcancels, hstands.trans ?_⟩
      rw [hcancels]
      rfl

variable {p : Prepared} {n : Fin 0x100000} {k : Nat} {r : Run}

/-- An installation is recorded before anything else, and helm is called for it only if a
deadline can be set. -/
theorem install_of_serves (w : World) (hs : r.Serves p n k) (hc : r.isCancelled = false)
    {release : Helm.ReleaseRef} (hrelease : release ∈ (p.numbered n).releases) (values : Tree) :
    (∃ result logs s, (p.numbered n).install w release values r = (.value (result, logs), s) ∧
        s.Serves p n k ∧ Mishap result ∧
        (result = .ok () ∨ s.isCancelled = true → p.migration.request.hasDeadline = true)) ∨
      ∃ s, (p.numbered n).install w release values r = (.standstill .noDeadline, s) ∧
        s.Sound p ∧ s.isCancelled = false ∧ p.migration.request.hasDeadline = false := by
  have hrecorded := hs.record hc hrelease
  have hc' : (r.record ⟨release, (p.numbered n).id⟩).isCancelled = false := hc
  rcases hfile : (w (r.record ⟨release, (p.numbered n).id⟩).history).valuesFile
    (p.numbered n).id with reason | file
  · -- helm has not been called, so the run cannot have been cancelled either
    refine Or.inl ⟨.error (.io reason), [], _, ?_, hrecorded, FailsOnly.error_iff.mpr rfl, ?_⟩
    · simp only [install, hfile]
    · rintro (h | h)
      · cases h
      · rw [hc'] at h
        cases h
  · have hlogged := hrecorded.log (.debug "installing helm release"
      [("release", release.name), ("namespace", release.ns)])
    have hdeadline := hasDeadline_installCall (p.numbered n) release file values
    by_cases hd : p.migration.request.hasDeadline = true
    · have hentry : (⟨release, (p.numbered n).id⟩ : ReleaseRecord) ∈
          (r.record ⟨release, (p.numbered n).id⟩).releases.records := by simp
      have hcalled := fun outcome cancels ↦
        (hlogged.call hc' hentry file values outcome).interrupt cancels
      simp only [install, hfile, callHelm, hdeadline.trans hd, if_true]
      split
      next reason hfailure =>
        refine Or.inl ⟨_, _, _, rfl, hcalled _ _, FailsOnly.error_iff.mpr rfl, fun _ ↦ hd⟩
      next hsuccess =>
        exact Or.inl ⟨_, _, _, rfl, hcalled _ _, FailsOnly.ok (), fun _ ↦ hd⟩
    · have hnot := Bool.eq_false_iff.mpr hd
      refine Or.inr ⟨_, ?_, hlogged.toSound, hc, hnot⟩
      simp only [install, hfile, callHelm, hdeadline.trans hnot, Bool.false_eq_true, if_false]

/-- Any other errand leaves the attempt under way. -/
theorem serves_of_not_isInstall (hs : r.Serves p n k) (hc : r.isCancelled = false) {event : Event}
    (hplain : event.isPlain = true) (logs : List LogEntry) (cancels : Option Interruption) :
    (((r.note event).logAll logs).interrupt cancels).Serves p n k ∧
      (((r.note event).logAll logs).interrupt cancels).isCancelled = cancels.isSome := by
  refine ⟨((hs.note hc hplain).logAll logs).interrupt cancels, ?_⟩
  have hnot : event.isInterruption = false := by
    cases event with
    | interrupted cause => cases hplain
    | _ => rfl
  rw [Run.isCancelled_interrupt, Run.isCancelled_logAll, Run.isCancelled_note, hnot, hc,
    Bool.false_or, Bool.false_or]

/-- The invariant that carries the body of an attempt over its errands: the run serves the
attempt, and whatever has been installed shows that deadlines can be set. -/
def care (w : World) (p : Prepared) (n : Fin 0x100000) (k : Nat) :
    Body.Care w (p.numbered n) ((p.numbered n).terms (·.isRecoverable = true)) where
  Holds before r := r.Serves p n k ∧ r.isCancelled = false ∧
    ((∃ e ∈ before, e.isInstall = true) → p.migration.request.hasDeadline = true)
  Interrupted s := s.Serves p n k ∧ s.isCancelled = true ∧
    p.migration.request.hasDeadline = true
  Stands cause s := s.Sound p ∧ s.isCancelled = false ∧
    (p.migration.request.hasDeadline = true → cause = .endlessWait)
  holds_logAll := by
    rintro before r entries ⟨hs, hc, hd⟩
    exact ⟨hs.logAll entries, (r.isCancelled_logAll entries).trans hc, hd⟩
  holds_answer := by
    rintro before r q ⟨hs, hc, hd⟩
    refine ⟨proper_answer w (fun _ ↦ MigrationError.isRecoverable_of_isMishap) q r, ?_⟩
    cases q with
    | hasSsh | keyFile => exact ⟨hs, hc, hd⟩
    | keys algorithm => exact ⟨hs.note hc rfl, hc, hd⟩
  holds_carryOut := by
    rintro before r e back s ⟨hs, hc, hd⟩ hallows hcarried
    by_cases he : e.isInstall = true
    · obtain ⟨release, values, rfl⟩ := Errand.exists_of_isInstall he
      rcases install_of_serves w hs hc hallows values with
        ⟨result, logs, s', hinstall, hs', hresult, hd'⟩ | ⟨s', hinstall, -⟩ <;>
      rw [carryOut, hinstall] at hcarried <;> cases hcarried
      by_cases hc' : s.isCancelled = true
      · exact Or.inl ⟨hc', hs', hc', hd' (Or.inr hc')⟩
      · have hnot := Bool.eq_false_iff.mpr hc'
        refine Or.inr ⟨hnot, hresult.recoverable, hs'.logAll logs,
          (s.isCancelled_logAll logs).trans hnot, ?_⟩
        rcases result with f | ⟨⟩
        · exact hd
        · exact fun _ ↦ hd' (Or.inl rfl)
    · -- any other errand comes after an installation, which shows that deadlines can be set
      have hnot := Bool.eq_false_iff.mpr he
      have hdeadline := hd (Errand.exists_isInstall_of_proper hnot hallows)
      obtain ⟨event, logs, cancels, -, hplain, ⟨back', h, hback⟩ | ⟨-, h⟩⟩ :=
        carryOut_of_not_isInstall w (p.numbered n) hnot r <;>
      rw [h] at hcarried <;> cases hcarried
      obtain ⟨hs', hc'⟩ := serves_of_not_isInstall hs hc hplain logs cancels
      rcases cancels with - | cause
      · exact Or.inr ⟨hc', (hback rfl).recoverable, hs'.logAll _,
          (Run.isCancelled_logAll _ _).trans hc', fun _ ↦ hdeadline⟩
      · exact Or.inl ⟨hc', hs', hc', hdeadline⟩
  stands_carryOut := by
    rintro before r e cause s ⟨hs, hc, hd⟩ hallows hcarried
    by_cases he : e.isInstall = true
    · obtain ⟨release, values, rfl⟩ := Errand.exists_of_isInstall he
      rcases install_of_serves w hs hc hallows values with
        ⟨result, logs, s', hinstall, -⟩ | ⟨s', hinstall, hs', hc', hnone⟩ <;>
      rw [carryOut, hinstall] at hcarried <;> cases hcarried
      exact ⟨hs', hc', fun hdeadline ↦ absurd (hnone.symm.trans hdeadline) Bool.false_ne_true⟩
    · have hnot := Bool.eq_false_iff.mpr he
      obtain ⟨event, logs, cancels, -, hplain, ⟨back', h, -⟩ | ⟨-, h⟩⟩ :=
        carryOut_of_not_isInstall w (p.numbered n) hnot r <;>
      rw [h] at hcarried <;> cases hcarried
      obtain ⟨hs', hc'⟩ := serves_of_not_isInstall hs hc hplain logs none
      exact ⟨hs'.toSound, hc', fun _ ↦ rfl⟩

end Attempt

/-! ### Cleaning up -/

section Cleaning

variable {p : Prepared} {n : Fin 0x100000} {k : Nat} {r : Run}

theorem Registry.mem_ofAttempt {g : Registry} {attempt : String} {entry : ReleaseRecord} :
    entry ∈ g.ofAttempt attempt ↔ entry ∈ g.records ∧ entry.attempt = attempt := by
  rw [ofAttempt, List.mem_filter, beq_iff_eq]

theorem Registry.ofAttempt_eq_nil_iff {g : Registry} {attempt : String} :
    g.ofAttempt attempt = [] ↔ ∀ entry ∈ g.records, entry.attempt ≠ attempt := by
  simp [ofAttempt]

namespace Run.Serves

/-- An attempt that has recorded nothing owes nothing. -/
theorem between_of_ofAttempt_eq_nil (hs : r.Serves p n k)
    (hentries : r.releases.ofAttempt (p.numbered n).id = []) : r.Between p k := by
  have hnone : ∀ entry ∈ r.releases.records, entry.attempt ≠ (p.numbered n).id :=
    Registry.ofAttempt_eq_nil_iff.mp hentries
  refine ⟨hs.toSound, hs.attempts, ?_, ?_⟩
  · intro hskip
    refine List.eq_nil_iff_forall_not_mem.mpr fun release howed ↦ ?_
    exact hnone _ (hs.owed hskip release howed) rfl
  · rcases hs.within with h | h | h
    · exact Or.inl h
    · exact Or.inr (Or.inl h)
    · refine Or.inr (Or.inr (List.eq_nil_iff_forall_not_mem.mpr fun entry hentry ↦ ?_))
      exact hnone entry hentry (h entry hentry)

/-- An attempt whose releases are to stay owes nothing either. -/
theorem between_of_skipCleanup (hs : r.Serves p n k)
    (hskip : p.migration.request.skipCleanup = true) (report : LogEntry) :
    (r.log report).Between p k := by
  refine ⟨hs.toSound.log report, hs.attempts, ?_, Or.inr (Or.inl hskip)⟩
  intro hnot
  rw [hskip] at hnot
  cases hnot

/-- An attempt whose recorded releases have all been tried to be removed is over. -/
theorem between_tryRemovals (w : World) (hs : r.Serves p n k)
    (hskip : p.migration.request.skipCleanup = false)
    (hd : p.migration.request.hasDeadline = true) (report : LogEntry) :
    (tryRemovals w p.migration.request (r.releases.ofAttempt (p.numbered n).id)
        (r.log report)).Between p k ∧
      (tryRemovals w p.migration.request (r.releases.ofAttempt (p.numbered n).id)
        (r.log report)).ledger.observed = r.ledger.observed := by
  have hrecorded : ∀ entry ∈ r.releases.ofAttempt (p.numbered n).id,
      .recorded entry ∈ (r.log report).history := by
    intro entry hentry
    obtain ⟨hmem, -⟩ := Registry.mem_ofAttempt.mp hentry
    exact List.mem_cons_of_mem _ (hs.recorded_of_mem hmem)
  have hremovals := (r.log report).removals_tryRemovals w p.migration.request
    (r.releases.ofAttempt (p.numbered n).id)
  refine ⟨⟨(hs.toSound.log report).tryRemovals hskip hrecorded w,
    hremovals.attempts.trans hs.attempts, fun _ ↦ ?_, Or.inl hd⟩, hremovals.observed⟩
  -- what is owed is a record of this attempt, and each of these has had its turn
  refine List.eq_nil_iff_forall_not_mem.mpr fun release howed ↦ ?_
  obtain ⟨howed, hleft⟩ := (hremovals.owed release).mp howed
  exact hleft _ (Registry.mem_ofAttempt.mpr ⟨hs.owed hskip release howed, rfl⟩) rfl

end Run.Serves

/-- Cleaning up after an attempt ends it, and it takes no notice of cancellations. It can only
come to a standstill where a deadline cannot be set, and then it has done nothing. -/
theorem cleanUp_of_serves (w : World) (hs : r.Serves p n k) :
    (∃ s, cleanUp w p.migration.request (p.numbered n).id r = (.value (), s) ∧ s.Between p k ∧
        s.ledger.observed = r.ledger.observed) ∨
      ∃ s, cleanUp w p.migration.request (p.numbered n).id r = (.standstill .noDeadline, s) ∧
        s.Sound p ∧ s.isCancelled = r.isCancelled ∧
        p.migration.request.hasDeadline = false ∧ p.migration.request.skipCleanup = false ∧
        r.releases.records ≠ [] := by
  rcases hentries : r.releases.ofAttempt (p.numbered n).id with - | ⟨entry, entries⟩
  · exact Or.inl ⟨r, by simp only [cleanUp, hentries], hs.between_of_ofAttempt_eq_nil hentries, rfl⟩
  by_cases hskip : p.migration.request.skipCleanup = true
  · obtain ⟨report, hkept⟩ : ∃ report, cleanUp w p.migration.request (p.numbered n).id r =
        (.value (), r.log report) :=
      ⟨_, by simp only [cleanUp, hentries, hskip, if_true]; rfl⟩
    exact Or.inl ⟨_, hkept, hs.between_of_skipCleanup hskip report, rfl⟩
  have hnot := Bool.eq_false_iff.mpr hskip
  obtain ⟨report, hloop⟩ : ∃ report, cleanUp w p.migration.request (p.numbered n).id r =
      uninstallEach w p.migration.request (r.releases.ofAttempt (p.numbered n).id)
        (r.log report) :=
    ⟨_, by simp only [cleanUp, hentries, hnot, Bool.false_eq_true, if_false]; rfl⟩
  rw [hloop]
  by_cases hd : p.migration.request.hasDeadline = true
  · obtain ⟨hbetween, hobserved⟩ := hs.between_tryRemovals w hnot hd report
    rw [uninstallEach_of_hasDeadline w hd]
    exact Or.inl ⟨_, rfl, hbetween, hobserved⟩
  · have hnone := Bool.eq_false_iff.mpr hd
    have hsome : r.releases.ofAttempt (p.numbered n).id ≠ [] := by
      rw [hentries]
      exact List.cons_ne_nil entry entries
    rw [uninstallEach_of_not_hasDeadline w hnone hsome]
    refine Or.inr ⟨_, rfl, hs.toSound.log report, r.isCancelled_log report, hnone, hnot, ?_⟩
    intro hempty
    obtain ⟨other, hother⟩ := List.exists_mem_of_ne_nil _ hsome
    obtain ⟨hmem, -⟩ := Registry.mem_ofAttempt.mp hother
    rw [hempty] at hmem
    cases hmem

/-! ### The whole attempt -/

/-- What an attempt comes to, the `k`-th of a run. -/
inductive Attempted (p : Prepared) (k : Nat) :
    Ending (Except MigrationError Unit) × Run → Prop
  | succeeded {s : Run} (hs : s.Between p k) : Attempted p k (.value (.ok ()), s)
  | failed {e : MigrationError} {s : Run} (hs : s.Between p k) (he : e.isRecoverable = true)
      (ho : s.ledger.observed = false) : Attempted p k (.value (.error e), s)
  | cancelled {s : Run} (hs : s.Between p k) (ho : s.ledger.observed = true) :
    Attempted p k (.value (.error .cancelled), s)
  | standstill {cause : Standstill} {s : Run} (hs : s.Sound p) (hc : s.isCancelled = false)
      (hcause : p.migration.request.hasDeadline = true → cause = .endlessWait) :
    Attempted p k (.standstill cause, s)

/-- Cleaning up keeps the result of the body, unless it comes to a standstill. -/
theorem attempted_of_cleanUp (w : World) {result : Except MigrationError Unit}
    (hs : r.Serves p n k)
    (hdone : ∀ s, s.Between p k → s.ledger.observed = r.ledger.observed →
      Attempted p k (.value result, s))
    (hstand : r.isCancelled = true → p.migration.request.hasDeadline = true ∨
      p.migration.request.skipCleanup = true ∨ r.releases.records = []) :
    Attempted p k
      (match cleanUp w p.migration.request (p.numbered n).id r with
      | (.standstill cause, s) => (.standstill cause, s)
      | (.value _, s) => (.value result, s)) := by
  rcases cleanUp_of_serves w hs with ⟨s, h, hs', ho⟩ | ⟨s, h, hs', hc, hd, hskip, hrecords⟩ <;>
    rw [h]
  · exact hdone s hs' ho
  · refine .standstill hs' ?_ fun hdeadline ↦ absurd (hd.symm.trans hdeadline) Bool.false_ne_true
    rw [hc]
    by_contra hcancelled
    rcases hstand (Bool.of_not_eq_false hcancelled) with h | h | h
    · exact absurd (hd.symm.trans h) Bool.false_ne_true
    · exact absurd (hskip.symm.trans h) Bool.false_ne_true
    · exact hrecords h

/-- A run that serves an attempt and is cancelled has observed that; one that is not cancelled
has nothing to observe. -/
theorem Run.Serves.observed_eq (hs : r.Serves p n k) : r.ledger.observed = r.isCancelled := by
  by_cases hc : r.isCancelled = true
  · rw [hc]
    exact History.observed_of_underWay hc (Option.isSome_iff_exists.mpr ⟨_, hs.underWay⟩)
  · have hnot := Bool.eq_false_iff.mpr hc
    rw [hnot]
    by_contra ho
    exact hc (History.isCancelled_of_observed (Bool.of_not_eq_false ho))

/-- An attempt that begins in an orderly run comes to an orderly end. -/
theorem attempted_of_serves (w : World) (hs : r.Serves p n k)
    (hstand : r.isCancelled = true → p.migration.request.hasDeadline = true ∨
      p.migration.request.skipCleanup = true ∨ r.releases.records = []) (strategy : Strategy) :
    Attempted p k (p.attempt w strategy (p.numbered n).id r) := by
  show Attempted p k ((p.numbered n).perform w (strategy.body (p.numbered n)) r)
  rw [Attempt.perform, Attempt.execute]
  by_cases hc : r.isCancelled = true
  · -- the body is not even begun
    simp only [hc, if_true]
    refine attempted_of_cleanUp w hs (fun s hs' ho ↦ .cancelled hs' ?_) hstand
    rw [ho, hs.observed_eq, hc]
  · have hnot := Bool.eq_false_iff.mpr hc
    simp only [hnot, Bool.false_eq_true, if_false]
    have hobeys := strategy.obeys_body (p.numbered n)
      (fun _ ↦ MigrationError.isRecoverable_of_isMishap) fun _ ↦ rfl
    have hbody := Body.carryOut_of_obeys (Attempt.care w p n k) hobeys ⟨hs, hnot, by simp⟩
    generalize (strategy.body (p.numbered n)).carryOut w (p.numbered n) r = out at hbody ⊢
    cases hbody with
    | done hK hout =>
      obtain ⟨hs', hc', -⟩ := hout
      exact attempted_of_cleanUp w hs' (fun s hs'' _ ↦ .succeeded hs'')
        fun hcancelled ↦ absurd (hc'.symm.trans hcancelled) Bool.false_ne_true
    | failed he hout =>
      obtain ⟨hs', hc', -⟩ := hout
      refine attempted_of_cleanUp w hs' (fun s hs'' ho ↦ .failed hs'' he ?_)
        fun hcancelled ↦ absurd (hc'.symm.trans hcancelled) Bool.false_ne_true
      rw [ho, hs'.observed_eq, hc']
    | interrupted hout =>
      obtain ⟨hs', hc', hd⟩ := hout
      refine attempted_of_cleanUp w hs' (fun s hs'' ho ↦ .cancelled hs'' ?_) fun _ ↦ Or.inl hd
      rw [ho, hs'.observed_eq, hc']
    | standstill hout =>
      obtain ⟨hs', hc', hcause⟩ := hout
      exact .standstill hs' hc' hcause

end Cleaning

end VolumeMigration

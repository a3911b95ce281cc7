import VolumeMigration.Proofs.Attempts
import VolumeMigration.Proofs.Idle

/-!
# The loop over the strategies

The loop goes from one state of rest to the next (`Run.Between`), and as long as it goes on no
cancellation has been observed; that one is what ends it. `Prepared.driven` follows it to its
end, `sweep_of_between` adds what a cancelled run does after it, and `Prepared.finished` puts
both together for a whole run.
-/

namespace VolumeMigration

variable {p : Prepared} {k : Nat} {r : Run}

namespace Run

theorem Between.log (hs : r.Between p k) (entry : LogEntry) : (r.log entry).Between p k where
  toSound := hs.toSound.log entry
  attempts := hs.attempts
  settled := hs.settled
  within := hs.within

/-- Every migration can take over from an idle run. -/
theorem Idle.between (hr : r.Idle) (p : Prepared) : r.Between p 0 := by
  obtain ⟨cancelled, hledger⟩ := hr.ledger
  refine ⟨hr.sound p, by rw [hledger], fun _ ↦ by rw [hledger], Or.inr (Or.inr ?_)⟩
  rw [hr.releases]

theorem Idle.not_observed (hr : r.Idle) : r.ledger.observed = false := by
  obtain ⟨cancelled, hledger⟩ := hr.ledger
  rw [hledger]

/-- The next attempt begins. A cancellation that came since the last one meets it. -/
theorem Between.begin_attempt (hs : r.Between p k) (ho : r.ledger.observed = false)
    (strategy : Strategy) (n : Fin 0x100000) (cancels : Option Interruption) (entry : LogEntry) :
    (((r.note (.attemptBegun strategy (p.numbered n).id)).interrupt cancels).log entry).Serves
      p n (k + 1) := by
  have hbegun : (r.note (.attemptBegun strategy (p.numbered n).id)).Serves p n (k + 1) :=
    { lawful := ⟨.attemptBegun strategy n ho, hs.lawful⟩
      registered := hs.registered
      underWay := rfl
      attempts := congrArg (· + 1) hs.attempts
      owed := by
        -- nothing is owed yet
        intro hskip release howed
        have hnone : release ∈ r.ledger.owed := howed
        rw [hs.settled hskip] at hnone
        cases hnone
      within := by
        rcases hs.within with h | h | h
        · exact Or.inl h
        · exact Or.inr (Or.inl h)
        · refine Or.inr (Or.inr ?_)
          rw [releases_note, h]
          simp }
  exact (hbegun.interrupt cancels).log entry

end Run

/-! ### The loop -/

/-- What the loop comes to when it has `n` strategies left and `k` attempts have been. -/
inductive Driven (p : Prepared) (k n : Nat) : Ending (Except MigrationError Unit) × Run → Prop
  | succeeded {j : Nat} {s : Run} (hj : j ≤ k + n) (hs : s.Between p j) :
    Driven p k n (.value (.ok ()), s)
  | cancelled {j : Nat} {s : Run} (hj : j ≤ k + n) (hs : s.Between p j)
      (ho : s.ledger.observed = true) : Driven p k n (.value (.error .cancelled), s)
  | failed {s : Run} (hs : s.Between p (k + n)) (ho : s.ledger.observed = false) :
    Driven p k n (.value (.error .allStrategiesFailed), s)
  | standstill {cause : Standstill} {s : Run} (hs : s.Sound p) (hc : s.isCancelled = false)
      (hcause : p.migration.request.hasDeadline = true → cause = .endlessWait) :
    Driven p k n (.standstill cause, s)

/-- A loop that has had one attempt more and has one strategy less is as far as before. -/
theorem Driven.succ {n : Nat} {out : Ending (Except MigrationError Unit) × Run}
    (h : Driven p (k + 1) n out) : Driven p k (n + 1) out := by
  have hsum : k + 1 + n = k + (n + 1) := by omega
  cases h with
  | succeeded hj hs => exact .succeeded (hsum ▸ hj) hs
  | cancelled hj hs ho => exact .cancelled (hsum ▸ hj) hs ho
  | failed hs ho => exact .failed (hsum ▸ hs) ho
  | standstill hs hc hcause => exact .standstill hs hc hcause

/-- The loop comes to an orderly end. -/
theorem Prepared.driven (w : World) (strategies : List Strategy) (hs : r.Between p k)
    (ho : r.ledger.observed = false) :
    Driven p k strategies.length (drive w (p.attempt w) strategies r) := by
  induction strategies generalizing k r with
  | nil => exact .failed hs ho
  | cons strategy others ih =>
    rw [drive, List.length_cons]
    have hserves := hs.begin_attempt ho strategy (w r.history).attemptNumber.answer
      (w r.history).attemptNumber.cancels (.info "attempting migration" [])
    have hattempt : Attempted p (k + 1) (p.attempt w strategy
        (Attempt.idOfNumber (w r.history).attemptNumber.answer)
        (((r.note (.attemptBegun strategy
          (Attempt.idOfNumber (w r.history).attemptNumber.answer))).interrupt
            (w r.history).attemptNumber.cancels).log (.info "attempting migration" []))) :=
      attempted_of_serves w hserves (fun _ ↦ by simpa using hs.within) strategy
    generalize p.attempt w strategy _ _ = out at hattempt ⊢
    cases hattempt with
    | succeeded hs' => exact .succeeded (by omega) (hs'.log _)
    | cancelled hs' ho' => exact .cancelled (by omega) hs' ho'
    | standstill hs' hc hcause => exact .standstill hs' hc hcause
    | @failed e s hs' he ho' =>
      -- whether it declined or failed, the next strategy has its turn
      have hnext := fun entry ↦ (ih (hs'.log entry) ho').succ
      split
      next h => cases h
      next h => cases h
      next h =>
        cases h
        exact hnext _
      next h =>
        cases h
        rw [if_pos he]
        exact hnext _

/-! ### After the loop -/

/-- What a cancelled run does after the loop: it tries to remove each release that is left
once more, unless releases are to stay. -/
theorem sweep_of_between (w : World) (hs : r.Between p k) :
    ∃ s, sweep w p.migration.request r = (.value (), s) ∧ s.Sound p ∧
      (p.migration.request.skipCleanup = false → s.ledger.owed = []) ∧
      s.history.helmCalls = r.history.helmCalls ++
        if p.migration.request.skipCleanup then []
        else r.releases.records.map fun entry ↦
          Helm.uninstallCall p.migration.request entry.release := by
  rcases hrecords : r.releases.records with - | ⟨entry, entries⟩
  · have hempty : r.releases.isEmpty = true := by rw [Registry.isEmpty, hrecords]; rfl
    refine ⟨r, by simp only [sweep, hempty, if_true], hs.toSound, hs.settled, ?_⟩
    simp
  · have hleft : r.releases.isEmpty = false := by rw [Registry.isEmpty, hrecords]; rfl
    by_cases hskip : p.migration.request.skipCleanup = true
    · have hkept : ∃ report, sweep w p.migration.request r = (.value (), r.log report) :=
        ⟨_, by simp only [sweep, hleft, hskip, Bool.false_eq_true, if_false, if_true]; rfl⟩
      obtain ⟨report, hkept⟩ := hkept
      refine ⟨_, hkept, hs.toSound.log report, hs.settled, ?_⟩
      rw [Run.helmCalls_log, hskip, if_pos rfl, List.append_nil]
    · have hnot := Bool.eq_false_iff.mpr hskip
      have hloop : ∃ report, sweep w p.migration.request r =
          uninstallEach w p.migration.request r.releases.records (r.log report) :=
        ⟨_, by simp only [sweep, hleft, hnot, Bool.false_eq_true, if_false]; rfl⟩
      obtain ⟨report, hloop⟩ := hloop
      -- what is left was installed, so deadlines can be set
      have hd : p.migration.request.hasDeadline = true := by
        rcases hs.within with h | h | h
        · exact h
        · exact absurd h hskip
        · rw [hrecords] at h
          cases h
      rw [uninstallEach_of_hasDeadline w hd] at hloop
      have hremovals := (r.log report).removals_tryRemovals w p.migration.request
        r.releases.records
      have hrecorded : ∀ other ∈ r.releases.records, .recorded other ∈ (r.log report).history :=
        fun other hother ↦ List.mem_cons_of_mem _ (hs.recorded_of_mem hother)
      refine ⟨_, hloop, (hs.toSound.log report).tryRemovals hnot hrecorded w, ?_, ?_⟩
      · intro _
        refine List.eq_nil_iff_forall_not_mem.mpr fun release howed ↦ ?_
        have hbefore := ((hremovals.owed release).mp howed).1
        rw [Run.ledger_log, hs.settled hnot] at hbefore
        cases hbefore
      · rw [hremovals.helmCalls, Run.helmCalls_log, hnot, hrecords]
        rfl

/-- What a whole run comes to. It returns with nothing owed, unless releases are to stay, or it
comes to a standstill without having been cancelled. -/
inductive Finished (p : Prepared) : Ending (Except MigrationError Unit) × Run → Prop
  | returned {result : Except MigrationError Unit} {s : Run} (hs : s.Sound p)
      (hsettled : p.migration.request.skipCleanup = false → s.ledger.owed = []) :
    Finished p (.value result, s)
  | standstill {cause : Standstill} {s : Run} (hs : s.Sound p) (hc : s.isCancelled = false)
      (hcause : p.migration.request.hasDeadline = true → cause = .endlessWait) :
    Finished p (.standstill cause, s)

theorem Prepared.run_of_value (w : World) (strategies : List Strategy)
    {result : Except MigrationError Unit} {s : Run}
    (hdrive : drive w (p.attempt w) strategies r = (.value result, s)) (hs : s.Between p k) :
    Finished p (p.run w strategies r) := by
  rw [run, hdrive]
  dsimp only
  split
  · obtain ⟨t, hsweep, ht, hsettled, -⟩ := sweep_of_between w hs
    rw [hsweep]
    exact .returned ht hsettled
  · exact .returned hs.toSound hs.settled

/-- Every run that has passed its checks comes to an orderly end. -/
theorem Prepared.finished (w : World) (strategies : List Strategy) (hs : r.Between p k)
    (ho : r.ledger.observed = false) : Finished p (p.run w strategies r) := by
  have hloop := p.driven w strategies hs ho
  generalize hdrive : drive w (p.attempt w) strategies r = out at hloop
  cases hloop with
  | succeeded hj hs' => exact run_of_value w strategies hdrive hs'
  | cancelled hj hs' ho' => exact run_of_value w strategies hdrive hs'
  | failed hs' ho' => exact run_of_value w strategies hdrive hs'
  | standstill hs' hc hcause =>
    rw [run, hdrive]
    exact .standstill hs' hc hcause

end VolumeMigration

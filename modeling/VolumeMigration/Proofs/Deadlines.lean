import VolumeMigration.CommandLine.Program
import VolumeMigration.Proofs.HelmTimes
import VolumeMigration.Proofs.MissedDeadlines

/-!
# Deadlines for helm

Helm is told how long it may take, and its process gets a grace of ten seconds beyond that. A
deadline has 64 bits of whole seconds, and so has the time that can be asked for: for a time of
the last ten seconds there is no deadline, and nothing on the way from the words of the command
line to the call keeps such a time out.

Below that limit all is well (`Request.MeetsDeadlines`): every call of helm is made and comes
back, every attempt whose body comes to an end is cleaned up after, and no run breaks down. From
there on nothing is (`Request.MissesDeadlines`): the first installation breaks the run down when
its release is on record already, and so would cleaning up. `helm_deadlines` says that the limit
is exact, and that both sides of it can be reached.
-/

namespace VolumeMigration

/-! ### Calls -/

section

variable (w : World) {request : Request}

/-- The deadline is ten seconds later than what helm is told. -/
theorem Helm.fits_deadline_iff {timeout : Duration} :
    (Helm.deadline timeout).Fits ↔ timeout.seconds < (1 <<< 64) - 10 := by
  have hseconds : (Helm.deadline timeout).seconds = timeout.seconds + 10 := by
    simp only [Helm.deadline, Helm.grace, Duration.seconds, Duration.ofSeconds, Duration.nanos_add,
      Duration.nanosPerSecond]
    omega
  rw [Duration.Fits, hseconds]
  omega

theorem Request.hasDeadline_iff :
    request.hasDeadline = true ↔ (Helm.deadline request.helmTimeout).Fits :=
  decide_eq_true_iff

theorem hasDeadline_of_timeout {call : Helm.Call} (h : call.timeout = request.helmTimeout) :
    call.hasDeadline = request.hasDeadline := by
  rw [Helm.Call.hasDeadline, h]
  rfl

/-- A call that can have a deadline is made, and comes back. -/
theorem callHelm_of_hasDeadline {call : Helm.Call} (hd : call.hasDeadline = true) (r : Run) :
    ∃ outcome s, callHelm w call r = (.value outcome, s) ∧
      s.history.helmCalls = r.history.helmCalls ++ [call] := by
  rw [callHelm, if_pos hd]
  refine ⟨_, _, rfl, ?_⟩
  rw [Run.helmCalls_interrupt]
  exact History.helmCalls_helmCalled call _ r.history

theorem uninstall_of_hasDeadline (hd : request.hasDeadline = true) (release : Helm.ReleaseRef)
    (r : Run) : ∃ result s, uninstall w request release r = (.value result, s) := by
  obtain ⟨outcome, s, hcall, -⟩ := callHelm_of_hasDeadline w
    ((Helm.hasDeadline_uninstallCall request release).trans hd) r
  simp only [uninstall, hcall]
  split
  · exact ⟨_, _, rfl⟩
  · exact ⟨_, _, rfl⟩

theorem Attempt.install_of_hasDeadline {a : Attempt} (hd : a.request.hasDeadline = true)
    (release : Helm.ReleaseRef) (values : Tree) (r : Run) :
    ∃ result s, a.install w release values r = (.value result, s) := by
  have hends := a.installing_install w release values r
  generalize a.install w release values r = out at hends ⊢
  cases hends with
  | unwritten hfile => exact ⟨_, _, rfl⟩
  | standstill entry hnone => exact absurd (hnone.symm.trans hd) Bool.false_ne_true
  | called entry hfile hresult => exact ⟨_, _, rfl⟩

/-- When deadlines can be set, cleaning up is reached and comes to its end, unless the body of the
attempt never does. -/
theorem Attempt.cleansUp_perform {a : Attempt} (hd : a.request.hasDeadline = true)
    (body : Body Unit) (r : Run) :
    (∃ result t, cleanUp w a.request a.id (a.execute w body r).2 = (.value (), t) ∧
        a.perform w body r = (.value result, t)) ∨
      ∃ s, a.perform w body r = (.standstill .endlessWait, s) ∧ s.AwaitsForEver w a.sink := by
  obtain ⟨t, hcleaned⟩ := exists_cleanUp_eq w hd a.id (a.execute w body r).2
  rcases hexecuted : a.execute w body r with ⟨result | - | cause, s⟩ <;>
    rw [hexecuted] at hcleaned <;> simp only [perform, hexecuted]
  · rw [hcleaned]
    exact Or.inl ⟨_, _, rfl, rfl⟩
  · rw [hcleaned]
    exact Or.inl ⟨_, _, rfl, rfl⟩
  · refine Or.inr ⟨s, ?_⟩
    rw [execute] at hexecuted
    split at hexecuted
    · cases hexecuted
    · obtain ⟨rfl, hwaiting⟩ := awaitsForEver_of_body w hd hexecuted
      exact ⟨rfl, hwaiting⟩

/-- When deadlines can be set, no run misses one. -/
theorem migrate_ne_noDeadline (env : Surroundings) (hd : request.hasDeadline = true) {r : Run}
    (hr : r.Idle) : (migrate w env request r).1 ≠ .standstill .noDeadline := by
  unfold migrate
  split
  · simp
  next strategies hresolve =>
    have hidle := hr.prepare w env request
    split
    · simp
    next p s hprepare =>
      rw [hprepare] at hidle
      obtain rfl := request_of_prepare hprepare
      have hfinished := p.finished w strategies (hidle.between p) hidle.not_observed
      generalize p.run w strategies s = out at hfinished ⊢
      rcases hfinished with - | ⟨-, -, hcause⟩
      · simp
      · rw [hcause hd]
        simp

end

/-! ### Both sides of the limit -/

namespace Request

/-- All calls of helm have deadlines, whatever the world answers. -/
structure MeetsDeadlines (request : Request) : Prop where
  /-- The deadline can be represented. -/
  fits : (Helm.deadline request.helmTimeout).Fits
  /-- Every call that helm is to make in that time is made, and comes back. -/
  call : ∀ (w : World) (call : Helm.Call) (r : Run), call.timeout = request.helmTimeout →
    ∃ outcome s, callHelm w call r = (.value outcome, s) ∧
      s.history.helmCalls = r.history.helmCalls ++ [call]
  install : ∀ (w : World) (a : Attempt) (release : Helm.ReleaseRef) (values : Tree) (r : Run),
    a.request = request → ∃ result s, a.install w release values r = (.value result, s)
  uninstall : ∀ (w : World) (release : Helm.ReleaseRef) (r : Run),
    ∃ result s, uninstall w request release r = (.value result, s)
  /-- Every attempt is cleaned up after, unless its body waits for ever. -/
  attempt : ∀ (w : World) (a : Attempt) (body : Body Unit) (r : Run), a.request = request →
    (∃ result t, cleanUp w request a.id (a.execute w body r).2 = (.value (), t) ∧
        a.perform w body r = (.value result, t)) ∨
      ∃ s, a.perform w body r = (.standstill .endlessWait, s) ∧ s.AwaitsForEver w a.sink
  /-- No run breaks down. -/
  run : ∀ (w : World) (env : Surroundings) (r : Run), r.Idle →
    (migrate w env request r).1 ≠ .standstill .noDeadline

/-- No call of helm has a deadline, whatever the world answers. -/
structure MissesDeadlines (request : Request) : Prop where
  /-- The deadline is out of range. -/
  overflows : ¬(Helm.deadline request.helmTimeout).Fits
  /-- No call that helm is to make in that time is made. -/
  call : ∀ (w : World) (call : Helm.Call) (r : Run), call.timeout = request.helmTimeout →
    callHelm w call r = (.standstill .noDeadline, r)
  /-- An installation breaks down when its release is on record and its values are written. -/
  install : ∀ (w : World) (a : Attempt) (release : Helm.ReleaseRef) (values : Tree) (r : Run)
    (file : String), a.request = request →
      (w (r.record ⟨release, a.id⟩).history).valuesFile a.id = .ok file →
        ∃ entry, a.install w release values r =
          (.standstill .noDeadline, (r.record ⟨release, a.id⟩).log entry)
  /-- Nor can the release be removed. -/
  uninstall : ∀ (w : World) (release : Helm.ReleaseRef) (r : Run),
    uninstall w request release r = (.standstill .noDeadline, r)
  /-- No attempt succeeds, and one that breaks down leaves its release behind. -/
  attempt : ∀ (w : World) (a : Attempt) (strategy : Strategy) (r : Run), a.request = request →
    a.ShortOfHelm r (a.perform w (strategy.body a) r)
  /-- No run succeeds, nor does it ever call helm. -/
  run : ∀ (w : World) (env : Surroundings) (r : Run), r.Idle →
    request.ShortOfHelm (migrate w env request r)

variable {request : Request}

theorem meetsDeadlines_iff : request.MeetsDeadlines ↔ request.hasDeadline = true := by
  refine ⟨fun h ↦ hasDeadline_iff.mpr h.fits, fun hd ↦ ?_⟩
  constructor
  case fits => exact hasDeadline_iff.mp hd
  case call =>
    intro w call r htimeout
    exact callHelm_of_hasDeadline w ((hasDeadline_of_timeout htimeout).trans hd) r
  case install =>
    rintro w a release values r rfl
    exact a.install_of_hasDeadline w hd release values r
  case uninstall =>
    intro w release r
    exact uninstall_of_hasDeadline w hd release r
  case attempt =>
    rintro w a body r rfl
    exact a.cleansUp_perform w hd body r
  case run =>
    intro w env r hr
    exact migrate_ne_noDeadline w env hd hr

theorem missesDeadlines_iff : request.MissesDeadlines ↔ request.hasDeadline = false := by
  have hfalse : request.hasDeadline = false ↔ ¬(Helm.deadline request.helmTimeout).Fits := by
    rw [← hasDeadline_iff, Bool.not_eq_true]
  refine ⟨fun h ↦ hfalse.mpr h.overflows, fun hd ↦ ?_⟩
  have hcalled : ∀ (w : World) (call : Helm.Call) (r : Run), call.timeout = request.helmTimeout →
      callHelm w call r = (.standstill .noDeadline, r) := by
    intro w call r htimeout
    have hcall := (hasDeadline_of_timeout htimeout).trans hd
    rw [callHelm, hcall, if_neg Bool.false_ne_true]
  constructor
  case overflows => exact hfalse.mp hd
  case call => exact hcalled
  case install =>
    rintro w a release values r file rfl hfile
    exact a.install_of_not_hasDeadline w hd hfile values
  case uninstall =>
    intro w release r
    simp only [VolumeMigration.uninstall, hcalled w (Helm.uninstallCall request release) r rfl]
  case attempt =>
    rintro w a strategy r rfl
    exact Attempt.shortOfHelm_perform w hd strategy r
  case run =>
    intro w env r hr
    exact migrate_shortOfHelm w env hd hr

end Request

open CommandLine in
/-- The times for helm that command lines can ask for are those whose whole seconds have 64 bits.
The last ten seconds of them leave no room for the grace: no deadline can be represented, so that
a run breaks down at its first installation, which is on record by then and is not cleaned up.
With all others every call comes back, and every attempt whose body ends is cleaned up after. -/
theorem helm_deadlines (request : Request) :
    ((∃ env words i, Invocation.read env words = .ok i ∧
        i.request.helmTimeout = request.helmTimeout) ↔ request.helmTimeout.seconds < 1 <<< 64) ∧
      (request.MeetsDeadlines ↔ request.helmTimeout.seconds < (1 <<< 64) - 10) ∧
      (request.MissesDeadlines ↔ (1 <<< 64) - 10 ≤ request.helmTimeout.seconds) := by
  refine ⟨Invocation.exists_read_iff, ?_, ?_⟩
  · rw [Request.meetsDeadlines_iff, Request.hasDeadline_iff, Helm.fits_deadline_iff]
  · rw [Request.missesDeadlines_iff, ← Bool.not_eq_true, Request.hasDeadline_iff,
      Helm.fits_deadline_iff, Nat.not_lt]

open CommandLine in
/-- The command line takes a time for helm that leaves no room for the grace, and the run that it
asks for breaks down with a release on record, although nothing else would have failed. -/
theorem helm_deadline_overflows :
    ∃ i s, Invocation.read (fun _ ↦ none)
        ["migrate", "-s", "mount", "--helm-timeout", "18446744073709551615s", "old", "new"] =
          .ok i ∧
      ¬(Helm.deadline i.request.helmTimeout).Fits ∧
      i.migrate ({ clusters := [Belated.cluster] } : Rehearsal).world Belated.env {} =
        (.standstill .noDeadline, s) ∧
      s.releases.size = 1 ∧ s.history.helmCalls.length = 0 := by
  refine ⟨_, _, rfl, ?_, Prod.ext ?_ rfl, ?_, ?_⟩ <;> decide +kernel

end VolumeMigration

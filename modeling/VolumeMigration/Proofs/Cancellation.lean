import Mathlib.Tactic.Common
import VolumeMigration.Engine.Rehearsal
import VolumeMigration.Proofs.Releases

/-!
# Cancelled runs

A run can be cancelled at any moment: before it begins, between two attempts, during any errand
of a body, and while releases are removed. Two things are proved of every such run.

* It does no more work (`cancelled_run_heeds`): nothing is installed any more, the attempt that
  meets the cancellation is the last one, it is still cleaned up after, and whatever is left in
  the register when the loop is over gets one more removal each, in order.
* How it ends is settled by where its first cancellation falls (`cancelled_run_result`). As a
  rule that is in success or in `MigrationError.cancelled`. The exception is a cancellation
  during the cleaning up after the last attempt, when that attempt has failed: nobody looks for
  a cancellation after that, and the run ends in `MigrationError.allStrategiesFailed`. That this
  does happen is shown by `cancelled_run_fails`.
-/

namespace VolumeMigration

/-- How a run goes on once it is cancelled: `loop` is the run when the loop over the strategies
is over, `final` the run at its very end. -/
structure Run.Heeds (request : Request) (loop final : Run) : Prop where
  /-- No key is made, nothing is installed, and nothing is waited for or looked at. -/
  noWork : ∀ later cause (earlier : History),
    final.history = later ++ .interrupted cause :: earlier → ∀ e ∈ later, e.isWork = false
  /-- One attempt at most begins, the one that observes the cancellation. -/
  atMostOneAttempt : ∀ later cause (earlier : History),
    final.history = later ++ .interrupted cause :: earlier → later.countP Event.isAttempt ≤ 1
  /-- No attempt begins if one was under way. -/
  noOtherAttempt : ∀ later cause (earlier : History),
    final.history = later ++ .interrupted cause :: earlier →
      earlier.ledger.underWay.isSome = true → later.countP Event.isAttempt = 0
  /-- When the loop is over each installation has been followed by an attempt to remove it. -/
  cleanedUp : request.skipCleanup = false → ∀ later e earlier release,
    loop.history = later ++ e :: earlier → e.installed? = some release →
      ∃ u ∈ later, u.uninstalled? = some release
  /-- After the loop each record that is left gets one more removal, in order. -/
  swept : final.history.helmCalls = loop.history.helmCalls ++
    if request.skipCleanup then []
    else loop.releases.records.map fun entry ↦ Helm.uninstallCall request entry.release

/-! ### A cancellation that comes late -/

namespace Belated

/-- A pod's surroundings, in which it finds its own cluster. -/
def env : Surroundings where
  inCluster := .ok { url := "https://cluster", ns := "default" }

/-- A migration inside that cluster, by the strategies of these names. -/
def request (names : List String) : Request where
  source := { name := "old" }
  destination := { name := "new" }
  strategies := names

/-- A claim that nothing mounts. -/
def claim (name : String) : Claim where
  name := some name
  ns := some "default"
  accessModes := ["ReadWriteOnce"]

/-- The sshd beside the source never shows up, the one beside the destination does. -/
def cluster : StagedCluster where
  url := "https://cluster"
  claims := .ok [claim "old", claim "new"]
  destinationSshdPods := .ok [{ name := some "sshd" }]

/-- The run is cancelled by the port-forward to the destination, when the attempt has failed at
the source already. Its releases are being removed at that time, as these rules have it. -/
def rehearsal (rules : List HelmRule) : Rehearsal where
  clusters := [cluster]
  helmRules := rules
  ssh := some (.ended (.ofCode 0) [] [])
  interruption := some (.forwards, .token)

/-- Helm removes nothing. -/
def refusal : HelmRule where
  installs := false
  ending := ""
  outcome := .ended (.ofCode 1) []

def classified (name : String) : ClassifiedClaim where
  client := { url := "https://cluster", defaultNamespace := "default" }
  claim := claim name
  ns := "default"
  name
  mountedNode := none
  rwo := true
  rox := false
  rwx := false

def prepared (names : List String) : Prepared where
  migration :=
    { source := classified "old", destination := classified "new", request := request names }
  chart := "chart"

/-- The run when its checks are over. -/
def checked (rules : List HelmRule) (names : List String) : Run :=
  (prepare (rehearsal rules).world env (request names) (Run.start none)).2

theorem prepare_eq (rules : List HelmRule) (names : List String) :
    prepare (rehearsal rules).world env (request names) (Run.start none) =
      (.ok (prepared names), checked rules names) :=
  rfl

/-- The loop over some strategies. -/
def loop (rules : List HelmRule) (names : List String) (strategies : List Strategy) :
    Ending (Except MigrationError Unit) × Run :=
  drive (rehearsal rules).world ((prepared names).attempt (rehearsal rules).world) strategies
    (checked rules names)

end Belated

section

variable {w : World} {env : Surroundings} {request : Request} {before : Option Interruption}
  {strategies : List Strategy} {p : Prepared} {r s : Run}
  {ending : Ending (Except MigrationError Unit)}

/-- A migration that has passed its checks is its loop, and what comes after it. -/
theorem migrate_of_prepared (hresolve : Strategy.resolve request.strategies = .ok strategies)
    (hprepare : prepare w env request (Run.start before) = (.ok p, r)) :
    migrate w env request (Run.start before) = p.run w strategies r := by
  simp only [migrate, hresolve, hprepare]

/-- The loop of a migration that has passed its checks comes to an orderly end. -/
theorem driven_of_prepared
    (hprepare : prepare w env request (Run.start before) = (.ok p, r)) (w' : World)
    (strategies : List Strategy) :
    Driven p 0 strategies.length (drive w' (p.attempt w') strategies r) := by
  have hidle := (Run.Idle.start before).prepare w env request
  rw [hprepare] at hidle
  exact p.driven w' strategies (hidle.between p) hidle.not_observed

/-- A cancelled loop comes to an end, and so does the run after it. -/
theorem exists_final_of_cancelled (hrequest : p.migration.request = request)
    (hdriven : Driven p 0 strategies.length (ending, s))
    (hdrive : drive w (p.attempt w) strategies r = (ending, s)) (hc : s.isCancelled = true) :
    ∃ result t, ending = .value result ∧ p.run w strategies r = (.value result, t) ∧
      t.Sound p ∧ s.Sound p ∧ s.Heeds request t := by
  have hfinal : ∀ {result j}, ending = .value result → s.Between p j →
      ∃ result t, ending = .value result ∧ p.run w strategies r = (.value result, t) ∧
        t.Sound p ∧ s.Sound p ∧ s.Heeds request t := by
    intro result j hvalue hs
    subst hrequest hvalue
    obtain ⟨t, hsweep, ht, hsettled, hcalls⟩ := sweep_of_between w hs
    refine ⟨result, t, rfl, ?_, ht, hs.toSound, ?_, ?_, ?_, ?_, hcalls⟩
    · simp only [Prepared.run, hdrive, hc, if_true, hsweep]
    · intro later cause earlier hsplit e he
      exact (ht.lawful_of_eq hsplit).not_isWork_of_mem he
    · intro later cause earlier hsplit
      exact (ht.lawful_of_eq hsplit).countP_isAttempt_le_one
    · intro later cause earlier hsplit hunderWay
      exact (ht.lawful_of_eq hsplit).countP_isAttempt_eq_zero hunderWay
    · intro hskip later e earlier release hsplit he
      exact Run.Sound.exists_uninstalled_of_owed (hs.settled hskip) hsplit he
  cases hdriven with
  | succeeded hj hs => exact hfinal rfl hs
  | cancelled hj hs ho => exact hfinal rfl hs
  | failed hs ho => exact hfinal rfl hs
  | standstill hs hc' hcause =>
    rw [hc] at hc'
    cases hc'

/-! ### No work after a cancellation -/

/-- An attempt that begins in a cancelled run is the same whatever its strategy would do. -/
theorem Attempt.perform_of_isCancelled (w : World) (a : Attempt) (body body' : Body Unit)
    (hc : r.isCancelled = true) : a.perform w body r = a.perform w body' r := by
  rw [perform, perform, execute, execute, if_pos hc, if_pos hc]

/-- A run that is cancelled before its loop over the strategies is over, at whatever moment,
comes to an end and does no more work on the way there. No body is carried out any more, since
an attempt would be the same with any other. -/
theorem cancelled_run_heeds (hresolve : Strategy.resolve request.strategies = .ok strategies)
    (hprepare : prepare w env request (Run.start before) = (.ok p, r))
    (hdrive : drive w (p.attempt w) strategies r = (ending, s)) (hc : s.isCancelled = true) :
    (∃ result t, ending = .value result ∧
      migrate w env request (Run.start before) = (.value result, t) ∧ s.Heeds request t) ∧
    ∀ (a : Attempt) (body body' : Body Unit) (u : Run), u.isCancelled = true →
      a.perform w body u = a.perform w body' u := by
  have hdriven := driven_of_prepared hprepare w strategies
  rw [hdrive] at hdriven
  obtain ⟨result, t, hvalue, hrun, -, -, hheeds⟩ :=
    exists_final_of_cancelled (request_of_prepare hprepare) hdriven hdrive hc
  refine ⟨⟨result, t, hvalue, (migrate_of_prepared hresolve hprepare).trans hrun, hheeds⟩, ?_⟩
  intro a body body' u hu
  exact a.perform_of_isCancelled w body body' hu

/-- A run that is cancelled while helm refuses to remove what the first of two strategies has
left behind: the second one observes it, and the register is gone through once more. -/
theorem cancelled_run_heeds_belated :
    ∃ s t, Belated.loop [Belated.refusal] ["local", "mount"] [.viaLocal, .mount] =
        (.value (.error .cancelled), s) ∧
      migrate (Belated.rehearsal [Belated.refusal]).world Belated.env
        (Belated.request ["local", "mount"]) (Run.start none) = (.value (.error .cancelled), t) ∧
      s.releases.size = 2 ∧ s.Heeds (Belated.request ["local", "mount"]) t := by
  have hdrive : Belated.loop [Belated.refusal] ["local", "mount"] [.viaLocal, .mount] =
      (.value (.error .cancelled), (Belated.loop [Belated.refusal] ["local", "mount"]
        [.viaLocal, .mount]).2) := Prod.ext (by decide +kernel) rfl
  obtain ⟨⟨result, t, hvalue, hmigrate, hheeds⟩, -⟩ :=
    cancelled_run_heeds (by decide +kernel) (Belated.prepare_eq _ _) hdrive (by decide +kernel)
  cases hvalue
  exact ⟨_, t, hdrive, hmigrate, by decide +kernel, hheeds⟩

/-! ### The result of a cancelled run -/

/-- The first cancellation of a run decides how the run ends, success apart: if an attempt was
under way, or another one was still to come, that attempt observes it and the run ends in
`MigrationError.cancelled`. If it falls in the cleaning up after the last attempt, which has
failed, the run ends in `MigrationError.allStrategiesFailed`. It never ends in anything else. -/
theorem cancelled_run_result (hresolve : Strategy.resolve request.strategies = .ok strategies)
    (hprepare : prepare w env request (Run.start before) = (.ok p, r))
    (hdrive : drive w (p.attempt w) strategies r = (ending, s)) {later earlier : History}
    {cause : Interruption} (hsplit : s.history = later ++ .interrupted cause :: earlier)
    (hfirst : earlier.isCancelled = false) :
    ∃ result t, migrate w env request (Run.start before) = (.value result, t) ∧
      (result = .ok () ∨ result = .error .cancelled ∨ result = .error .allStrategiesFailed) ∧
      (result = .error .allStrategiesFailed ↔ result ≠ .ok () ∧
        earlier.ledger.underWay = none ∧ earlier.ledger.attempts = strategies.length) := by
  have hc : s.isCancelled = true :=
    History.isCancelled_of_mem cause (History.mem_of_eq_append hsplit)
  have hdriven := driven_of_prepared hprepare w strategies
  rw [hdrive] at hdriven
  obtain ⟨result, t, rfl, hrun, -, -, -⟩ :=
    exists_final_of_cancelled (request_of_prepare hprepare) hdriven hdrive hc
  refine ⟨result, t, (migrate_of_prepared hresolve hprepare).trans hrun, ?_⟩
  -- the attempts of the whole loop are those before the cancellation and those after it
  have hattempts : s.ledger.attempts =
      later.countP Event.isAttempt + earlier.ledger.attempts := by
    rw [Run.ledger, hsplit, History.attempts_append]
    rfl
  have hobserved : s.ledger.observed = true ↔
      earlier.ledger.underWay.isSome = true ∨ ∃ e ∈ later, e.isAttempt = true := by
    rw [Run.ledger, hsplit]
    exact History.observed_append_iff hfirst
  cases hdriven with
  | succeeded hj hs => exact ⟨Or.inl rfl, by simp⟩
  | @cancelled j _ hj hs ho =>
    refine ⟨Or.inr (Or.inl rfl), by simp, ?_⟩
    rintro ⟨-, hnone, hall⟩
    -- an attempt that observed it can only be one after all of them
    rcases hobserved.mp ho with hunderWay | ⟨e, he, hattempt⟩
    · rw [hnone] at hunderWay
      cases hunderWay
    · have hpos : 0 < later.countP Event.isAttempt := List.countP_pos_iff.mpr ⟨e, he, hattempt⟩
      have hcount := hs.attempts
      omega
  | failed hs ho =>
    refine ⟨Or.inr (Or.inr rfl), fun _ ↦ ⟨by simp, ?_, ?_⟩, fun _ ↦ rfl⟩
    · by_contra hunderWay
      have hobs := hobserved.mpr (Or.inl (Option.isSome_iff_ne_none.mpr hunderWay))
      exact absurd (ho.symm.trans hobs) Bool.false_ne_true
    · have hnone : later.countP Event.isAttempt = 0 := by
        rw [List.countP_eq_zero]
        intro e he hattempt
        have hobs := hobserved.mpr (Or.inr ⟨e, he, hattempt⟩)
        exact absurd (ho.symm.trans hobs) Bool.false_ne_true
      have hcount := hs.attempts
      omega

end

/-- A run that is cancelled while what its only strategy has left behind is removed. -/
theorem cancelled_run_result_belated :
    ∃ s later cause earlier result t,
      Belated.loop [] ["local"] [.viaLocal] = (.value (.error .allStrategiesFailed), s) ∧
      s.history = later ++ .interrupted cause :: earlier ∧
      History.isCancelled earlier = false ∧
      migrate (Belated.rehearsal []).world Belated.env (Belated.request ["local"])
        (Run.start none) = (.value result, t) ∧
      (result = .error .allStrategiesFailed ↔ result ≠ .ok () ∧
        (History.ledger earlier).underWay = none ∧ (History.ledger earlier).attempts = 1) := by
  have hdrive : Belated.loop [] ["local"] [.viaLocal] =
      (.value (.error .allStrategiesFailed), (Belated.loop [] ["local"] [.viaLocal]).2) :=
    Prod.ext (by decide +kernel) rfl
  have hcancelled : (Belated.loop [] ["local"] [.viaLocal]).2.history.isCancelled = true := by
    decide +kernel
  obtain ⟨later, cause, earlier, hsplit, hfirst⟩ := History.exists_first_interruption hcancelled
  obtain ⟨result, t, hmigrate, -, hresult⟩ :=
    cancelled_run_result (by decide +kernel) (Belated.prepare_eq _ _) hdrive hsplit hfirst
  exact ⟨_, later, cause, earlier, result, t, hdrive, hsplit, hfirst, hmigrate, hresult⟩

/-- A run can be cancelled before its loop over the strategies is over and still not end in
success or in `MigrationError.cancelled`. -/
theorem cancelled_run_fails :
    ∃ p r s, Strategy.resolve (Belated.request ["local"]).strategies = .ok [.viaLocal] ∧
      prepare (Belated.rehearsal []).world Belated.env (Belated.request ["local"])
        (Run.start none) = (.ok p, r) ∧
      drive (Belated.rehearsal []).world (p.attempt (Belated.rehearsal []).world) [.viaLocal] r =
        (.value (.error .allStrategiesFailed), s) ∧
      s.isCancelled = true ∧
      (migrate (Belated.rehearsal []).world Belated.env (Belated.request ["local"])
        (Run.start none)).1 = .value (.error .allStrategiesFailed) :=
  ⟨_, _, _, by decide +kernel, Belated.prepare_eq _ _, Prod.ext (by decide +kernel) rfl,
    by decide +kernel, by decide +kernel⟩

end VolumeMigration

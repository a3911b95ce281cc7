import VolumeMigration.Engine.Rehearsal
import VolumeMigration.Proofs.Cancellation
import VolumeMigration.Proofs.Steps

/-!
# No failure ends a run early

A run that has passed its checks and is never cancelled goes on until a strategy has succeeded or
all have had their turn. Nothing that helm, the clusters, the file system, the making of keys or
ssh may answer changes that, since whatever the body of a strategy fails with leaves the next one
its turn (`Attempt.recoverable_body`).

There are two ways not to come to an end. A job is waited for without a limit, and so is ssh, and
either may never end (`Run.AwaitsForEver`). There is no other one, provided that a deadline can be
set for the calls of helm.
-/

namespace VolumeMigration

/-- The attempt of an id. -/
def Prepared.attemptOf (p : Prepared) (id : String) : Attempt where
  migration := p.migration
  chart := p.chart
  id

/-- The body of the round's strategy was carried out, and it has failed in a way that leaves the
next strategy its turn. -/
def Round.HasFailed (w : World) (p : Prepared) (x : Round) : Prop :=
  ∃ e s, (x.strategy.body (p.attemptOf x.id)).carryOut w (p.attemptOf x.id) x.start =
    (.result (.error e), s) ∧ e.isRecoverable = true

/-- The last thing that the run has done is to wait for something that never comes. -/
inductive Run.AwaitsForEver (w : World) (sink : Progress.Sink) : Run → Prop
  | job {r : Run} {client : Client} {job : NamespacedName}
      (hresult : (Job.await job sink none ((w r.history).job client job).answer).result = none) :
    AwaitsForEver w sink ((r.note (.jobAwaited client job)).logAll
      (Job.await job sink none ((w r.history).job client job).answer).logs)
  | ssh {r : Run} {arguments output errors : List String}
      (hanswer : ((w r.history).ssh arguments).answer = .endless output errors) :
    AwaitsForEver w sink ((r.note (.sshRun arguments)).logAll
      (Attempt.sshLogs sink output errors))

/-- How a run ends that has passed its checks and is never cancelled. At the end of the checks it
was in this state. -/
inductive Persevered (w : World) (p : Prepared) (strategies : List Strategy) (r : Run) :
    Ending (Except MigrationError Unit) × Run → Prop
  /-- In success, after the first of the rounds that there might have been. -/
  | succeeded {had : List Round} {s : Run} (hhad : had <+: rounds w (p.attempt w) strategies r)
      (hattempts : s.history.attempts = had.map fun x ↦ (x.strategy, x.id)) :
    Persevered w p strategies r (.value (.ok ()), s)
  /-- In failure, after one attempt with each of the strategies, which has failed. -/
  | failed {s : Run}
      (hstrategies : (rounds w (p.attempt w) strategies r).map (·.strategy) = strategies)
      (hattempts : s.history.attempts =
        (rounds w (p.attempt w) strategies r).map fun x ↦ (x.strategy, x.id))
      (hfailed : ∀ x ∈ rounds w (p.attempt w) strategies r, x.HasFailed w p) :
    Persevered w p strategies r (.value (.error .allStrategiesFailed), s)
  /-- Or it does not end, since a job or ssh does not. -/
  | waiting {had : List Round} {s : Run} (hhad : had <+: rounds w (p.attempt w) strategies r)
      (hattempts : s.history.attempts = had.map fun x ↦ (x.strategy, x.id))
      (hwaiting : s.AwaitsForEver w
        (.new p.migration.request.drawsBar p.migration.request.progressOutput)) :
    Persevered w p strategies r (.standstill .endlessWait, s)

namespace History

theorem attempts_append_of_not_isAttempt {later : History}
    (hlater : ∀ e ∈ later, e.isAttempt = false) (h : History) :
    attempts (later ++ h) = h.attempts := by
  induction later with
  | nil => rfl
  | cons e later ih =>
    obtain ⟨he, hlater⟩ := List.forall_mem_cons.mp hlater
    rw [List.cons_append, ← ih hlater]
    cases e with
    | attemptBegun strategy id => cases he
    | _ => simp [attempts]

end History

namespace Run

variable {Does : Event → Prop} {r s : Run}

/-- No attempt begins on a path on which none may. -/
theorem Path.attempts (h : Path Does r s) (hdoes : ∀ e, Does e → e.isAttempt = false) :
    s.history.attempts = r.history.attempts := by
  obtain ⟨later, hhistory, hlater⟩ := h.exists_later
  rw [hhistory, History.attempts_append_of_not_isAttempt]
  intro e he
  rcases hlater e he with haside | hdone
  · cases e <;> first | rfl | cases haside
  · exact hdoes e hdone

theorem Idle.attempts (hr : r.Idle) : r.history.attempts = [] := by
  have hnone : ∀ e ∈ r.history, e.isAttempt = false := by
    intro e he
    have hidle := hr.events e he
    cases e <;> first | rfl | cases hidle
  have hall := History.attempts_append_of_not_isAttempt hnone []
  rwa [List.append_nil] at hall

end Run

/-! ### Attempts -/

section Attempts

variable (w : World) (a : Attempt) {cause : Standstill} {r s : Run}

/-- When deadlines can be set, releases are removed in time. -/
theorem exists_cleanUp_eq {request : Request} (hd : request.hasDeadline = true) (attempt : String)
    (r : Run) : ∃ s, cleanUp w request attempt r = (.value (), s) := by
  unfold cleanUp
  split
  · exact ⟨_, rfl⟩
  · split
    · exact ⟨_, rfl⟩
    · exact ⟨_, uninstallEach_of_hasDeadline w hd _ _⟩

namespace Attempt

variable {a}

theorem comeBack_eq_standstill {e : Errand} {result : Option (Except MigrationError e.Result)}
    {logs : List LogEntry} {cancels : Option Interruption}
    (hout : comeBack result logs cancels r = (.standstill cause, s)) :
    result = none ∧ cancels = none ∧ cause = .endlessWait ∧ s = r := by
  unfold comeBack at hout
  split at hout <;> cases hout
  exact ⟨rfl, rfl, rfl, rfl⟩

theorem exists_endless_of_sshResult {sink : Progress.Sink} {outcome : SshOutcome}
    (h : (sshResult sink outcome).1 = none) :
    ∃ output errors, outcome = .endless output errors := by
  unfold sshResult at h
  split at h
  · cases h
  · split at h <;> cases h
  · exact ⟨_, _, rfl⟩

/-- When deadlines can be set, an errand comes back unless it waits for ever. -/
theorem awaitsForEver_of_carryOut (hd : a.request.hasDeadline = true) {e : Errand}
    (hout : a.carryOut w e r = (.standstill cause, s)) :
    cause = .endlessWait ∧ s.AwaitsForEver w a.sink := by
  cases e with
  | install release values =>
    have hends := a.installing_install w release values r
    rw [carryOut] at hout
    generalize a.install w release values r = out at hends hout
    rcases hends with hfile | ⟨entry, hnone⟩ | ⟨entry, hfile, hresult⟩
    · cases hout
    · exact absurd (hnone.symm.trans hd) Bool.false_ne_true
    · cases hout
  | job client job =>
    obtain ⟨hresult, hcancels, rfl, rfl⟩ := comeBack_eq_standstill hout
    rw [hcancels]
    exact ⟨rfl, .job hresult⟩
  | ssh arguments =>
    obtain ⟨hresult, hcancels, rfl, rfl⟩ := comeBack_eq_standstill hout
    rw [hcancels]
    obtain ⟨output, errors, hanswer⟩ := exists_endless_of_sshResult hresult
    rw [hanswer]
    exact ⟨rfl, .ssh hanswer⟩
  | _ => cases hout

theorem awaitsForEver_of_body (hd : a.request.hasDeadline = true) {body : Body Unit}
    (hout : body.carryOut w a r = (.standstill cause, s)) :
    cause = .endlessWait ∧ s.AwaitsForEver w a.sink := by
  induction body generalizing r with
  | done _ => cases hout
  | fail e => cases hout
  | report entries next ih => exact ih hout
  | ask q next ih => exact ih _ hout
  | run e next ih =>
    rw [Body.carryOut] at hout
    rcases hcarried : a.carryOut w e r with ⟨back | stopped, t⟩ <;> rw [hcarried] at hout <;>
      dsimp only at hout
    · split at hout
      · cases hout
      · exact ih _ hout
    · cases hout
      exact awaitsForEver_of_carryOut w hd hcarried

/-- What an attempt with a strategy comes to when deadlines can be set. -/
inductive Ended (w : World) (a : Attempt) (strategy : Strategy) (r : Run) :
    Ending (Except MigrationError Unit) × Run → Prop
  | succeeded {s : Run} : Ended w a strategy r (.value (.ok ()), s)
  | failed {e : MigrationError} {s t : Run}
      (hbody : (strategy.body a).carryOut w a r = (.result (.error e), s))
      (he : e.isRecoverable = true) : Ended w a strategy r (.value (.error e), t)
  | cancelled {s : Run} (hc : s.isCancelled = true) :
    Ended w a strategy r (.value (.error .cancelled), s)
  | waiting {s : Run} (hwaiting : s.AwaitsForEver w a.sink) :
    Ended w a strategy r (.standstill .endlessWait, s)

theorem ended_perform (hd : a.request.hasDeadline = true) (strategy : Strategy) (r : Run) :
    Ended w a strategy r (a.perform w (strategy.body a) r) := by
  have hcancelled : ∀ {s t : Run}, s.isCancelled = true →
      cleanUp w a.request a.id s = (.value (), t) → t.isCancelled = true := by
    intro s t hc hcleaned
    have hpath := Run.path_cleanUp w a.request a.id s
    rw [hcleaned] at hpath
    exact hpath.isCancelled hc
  rw [perform, execute]
  by_cases hc : r.isCancelled = true
  · obtain ⟨t, hcleaned⟩ := exists_cleanUp_eq w hd a.id r
    simp only [if_pos hc, hcleaned]
    exact .cancelled (hcancelled hc hcleaned)
  · rw [if_neg hc]
    rcases hbody : (strategy.body a).carryOut w a r with ⟨result | - | stopped, s⟩ <;>
      dsimp only
    · obtain ⟨t, hcleaned⟩ := exists_cleanUp_eq w hd a.id s
      rw [hcleaned]
      rcases result with e | ⟨⟩
      · exact .failed hbody (a.recoverable_body w strategy hbody)
      · exact .succeeded
    · obtain ⟨t, hcleaned⟩ := exists_cleanUp_eq w hd a.id s
      rw [hcleaned]
      exact .cancelled (hcancelled (a.isCancelled_of_interrupted w strategy hbody) hcleaned)
    · obtain ⟨rfl, hwaiting⟩ := awaitsForEver_of_body w hd hbody
      exact .waiting hwaiting

end Attempt

end Attempts

/-! ### The loop and the whole run -/

section Loops

variable {w : World} {p : Prepared} {strategies : List Strategy} {r : Run}

theorem exists_of_mem_rounds {runner : Runner} {x : Round}
    (hx : x ∈ rounds w runner strategies r) : ∃ s, x = Round.of w runner x.strategy s := by
  induction strategies generalizing r with
  | nil => cases hx
  | cons strategy others ih =>
    rcases List.mem_cons.mp hx with rfl | hx
    · exact ⟨r, rfl⟩
    · exact ih hx

theorem Round.ended (hd : p.migration.request.hasDeadline = true) {x : Round}
    (hx : x ∈ rounds w (p.attempt w) strategies r) :
    Attempt.Ended w (p.attemptOf x.id) x.strategy x.start (x.ending, x.finish) := by
  obtain ⟨s, hround⟩ := exists_of_mem_rounds hx
  rw [hround]
  exact Attempt.ended_perform w (a := p.attemptOf _) hd _ _

theorem Round.hasFailed (hd : p.migration.request.hasDeadline = true) {x : Round}
    (hx : x ∈ rounds w (p.attempt w) strategies r) (habsorbed : x.Absorbed) :
    x.HasFailed w p := by
  obtain ⟨e, hending, he⟩ := habsorbed
  have hended := Round.ended hd hx
  rw [hending] at hended
  rcases hended with - | ⟨hbody, -⟩ | -
  · exact ⟨e, _, hbody, he⟩
  · cases he

theorem isPlain_attempt (w : World) (p : Prepared) : (p.attempt w).IsPlain :=
  fun strategy id r ↦
    (Attempt.path_perform w (p.attemptOf id) strategy r).attempts fun _ hdoes ↦ hdoes.1

theorem persevered_drive (hd : p.migration.request.hasDeadline = true)
    (hr : r.history.attempts = [])
    (hc : (drive w (p.attempt w) strategies r).2.isCancelled = false) :
    Persevered w p strategies r (drive w (p.attempt w) strategies r) := by
  obtain ⟨had, hhad⟩ := exists_conducted w (p.attempt w) strategies r
  have hrounds := hhad.isPrefix_rounds
  have hattempts := hhad.attempts (isPlain_attempt w p)
  rw [hr, List.nil_append] at hattempts
  have hconcluded := hhad.concluded
  generalize drive w (p.attempt w) strategies r = out at hc hattempts hconcluded ⊢
  rcases hconcluded with @⟨before, after, last, hall, hbefore, hlast⟩ | hall
  · have hended := Round.ended hd (x := last) (by rw [hall]; simp)
    have hclosed := fun hcancelled ↦
      (Run.path_close (Relation.ReflTransGen.refl : Run.Path (fun _ ↦ True) _ last.finish)
        ).isCancelled hcancelled
    rcases hending : last.ending with (e | ⟨⟩) | cause <;> rw [hending] at hended hlast <;>
      dsimp only at hattempts hc
    · rcases hended with - | ⟨-, he⟩ | hcancelled
      · rw [Ending.isFinal, he] at hlast
        cases hlast
      · rw [hclosed hcancelled] at hc
        cases hc
    · exact .succeeded hrounds hattempts
    · rcases hended with - | - | - | hwaiting
      have hclose : last.close = last.finish := by simp only [Round.close, hending]
      rw [hclose] at hattempts ⊢
      exact .waiting hrounds hattempts hwaiting
  · exact .failed hhad.ordered hattempts fun x hx ↦ Round.hasFailed hd hx (hall x hx)

/-- A run that is not cancelled does nothing after its loop. -/
theorem run_eq_drive (hc : (p.run w strategies r).2.isCancelled = false) :
    p.run w strategies r = drive w (p.attempt w) strategies r := by
  rw [Prepared.run] at hc ⊢
  generalize drive w (p.attempt w) strategies r = out at hc ⊢
  rcases out with ⟨result | cause, s⟩ <;> dsimp only at hc ⊢
  by_cases hcancelled : s.isCancelled = true
  · have hswept := (Run.path_sweep w p.migration.request s).isCancelled hcancelled
    rw [if_pos hcancelled] at hc
    generalize sweep w p.migration.request s = out at hc hswept
    rcases out with ⟨⟨⟩ | cause, t⟩ <;> exact absurd (hc.symm.trans hswept) Bool.false_ne_true
  · rw [if_neg hcancelled]

end Loops

/-- Whatever the body of a strategy fails with leaves the next strategy its turn. So a run that
has passed its checks and is never cancelled ends in success, or in failure after each of its
strategies has had its turn, in their order, and has failed; or it waits for ever, for a job or
for ssh. -/
theorem uncancelled_run_perseveres {w : World} {env : Surroundings} {request : Request}
    {before : Option Interruption} {strategies : List Strategy} {p : Prepared} {r : Run}
    (hresolve : Strategy.resolve request.strategies = .ok strategies)
    (hprepare : prepare w env request (Run.start before) = (.ok p, r))
    (htimeout : request.helmTimeout.seconds < 1 <<< 63)
    (hc : (migrate w env request (Run.start before)).2.isCancelled = false) :
    (∀ (a : Attempt) (strategy : Strategy) (s t : Run) (e : MigrationError),
      (strategy.body a).carryOut w a s = (.result (.error e), t) → e.isRecoverable = true) ∧
    Persevered w p strategies r (migrate w env request (Run.start before)) := by
  refine ⟨fun a strategy s t e hbody ↦ a.recoverable_body w strategy hbody, ?_⟩
  have hidle := (Run.Idle.start before).prepare w env request
  rw [hprepare] at hidle
  have hd : p.migration.request.hasDeadline = true := by
    rw [request_of_prepare hprepare]
    exact Request.hasDeadline_of_lt htimeout
  rw [migrate_of_prepared hresolve hprepare] at hc ⊢
  have hdrive := run_eq_drive hc
  rw [hdrive] at hc ⊢
  exact persevered_drive hd hidle.attempts hc

/-! ### A run that fails -/

namespace Fruitless

/-- Helm installs nothing. -/
def refusal : HelmRule where
  installs := true
  ending := ""
  outcome := .ended (.ofCode 1) []

/-- A migration inside one cluster, where helm installs nothing and nobody cancels. -/
def rehearsal : Rehearsal where
  clusters := [Belated.cluster]
  helmRules := [refusal]
  ssh := some (.ended (.ofCode 0) [] [])

/-- The run when its checks are over. -/
def checked (names : List String) : Run :=
  (prepare rehearsal.world Belated.env (Belated.request names) (Run.start none)).2

theorem prepare_eq (names : List String) :
    prepare rehearsal.world Belated.env (Belated.request names) (Run.start none) =
      (.ok (Belated.prepared names), checked names) :=
  rfl

end Fruitless

/-- Four strategies in an order of their own, all of which fail. -/
theorem uncancelled_run_perseveres_fruitless :
    (∃ s, migrate Fruitless.rehearsal.world Belated.env
        (Belated.request ["local", "mount", "lbsvc", "clusterip"]) (Run.start none) =
          (.value (.error .allStrategiesFailed), s) ∧
        s.history.attempts.map (·.1) = [.viaLocal, .mount, .loadBalancer, .clusterIp]) ∧
      Persevered Fruitless.rehearsal.world
        (Belated.prepared ["local", "mount", "lbsvc", "clusterip"])
        [.viaLocal, .mount, .loadBalancer, .clusterIp]
        (Fruitless.checked ["local", "mount", "lbsvc", "clusterip"])
        (migrate Fruitless.rehearsal.world Belated.env
          (Belated.request ["local", "mount", "lbsvc", "clusterip"]) (Run.start none)) := by
  refine ⟨⟨_, Prod.ext (by decide +kernel) rfl, by decide +kernel⟩, ?_⟩
  exact (uncancelled_run_perseveres (by decide +kernel) (Fruitless.prepare_eq _)
    (by decide +kernel) (by decide +kernel)).2

end VolumeMigration

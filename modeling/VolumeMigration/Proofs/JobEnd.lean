import VolumeMigration.Proofs.Following
import VolumeMigration.Proofs.Sighting
import VolumeMigration.Proofs.TailProtocol
import VolumeMigration.Wait.Job

/-!
# What decides a job

While the end of a job is waited for, its log is opened and read, its lines go to a sink, and the
run may be cancelled. None of that decides anything. `Job.Concludes` says how a wait ends in terms
of the pods and of their states only, and `Job.await_concludes` says that it ends so, whatever the
log, the sink and the run do.

Two things have to be shown for it. Those who read the log must not keep the wait from ending:
the consumer leaves once it has the owner's word (`Progress.Tail.exited_finish`), and the follower
stops by the moment at which the pod has ended (`Follower.finish_follow`). And what they leave
behind must not enter the result.
-/

namespace VolumeMigration

namespace Pod

/-- The pod runs or has run. -/
def HasStarted (p : Pod) : Prop :=
  ∃ phase, p.phase = some phase ∧ phase ≠ "Pending" ∧ phase ≠ "Unknown"

/-- Nothing more will happen to a pod: it has ended, or it is gone. -/
def IsOver (state : Option Pod) : Prop :=
  ∀ p, state = some p → p.phase = some "Succeeded" ∨ p.phase = some "Failed"

theorem isTailable_iff {p : Pod} : p.isTailable = true ↔ p.HasStarted := by
  unfold isTailable HasStarted
  split
  next phase hphase => simp [hphase]
  next hphase => simp [hphase]

theorem isFinished_iff {state : Option Pod} : isFinished state = true ↔ IsOver state := by
  cases state <;> simp [isFinished, IsOver, hasSucceeded, hasFailed]

end Pod

namespace Job

/-! ### Reading the log -/

section

variable (tail : Progress.Tail) (sink : Progress.Sink) (cancelAt : Option Duration)
  (startedAt : Duration) (name : String) (log : Nat → PodLog)

theorem signal_relay (lines : List String) : (relay tail lines).1.signal = tail.signal := by
  induction lines generalizing tail with
  | nil => rfl
  | cons line lines ih =>
    have hsent := tail.signal_send [line]
    exact (ih _).trans ((Progress.Tail.signal_settle _).trans hsent)

theorem signal_feed (follower : Follower) (turns : List Turn) :
    (feed log follower tail turns).1.signal = tail.signal := by
  induction turns generalizing tail with
  | nil => rfl
  | cons turn turns ih => exact (ih _).trans (signal_relay tail _)

/-- Nobody but the owner of the tail ends it. -/
theorem signal_readLog (endsAt : Option Duration) :
    (readLog sink cancelAt startedAt name log endsAt).tail.signal = none := by
  dsimp only [readLog]
  split
  · rw [Progress.Tail.signal_settle]
    exact signal_feed (.new sink) log _ _
  · exact signal_feed (.new sink) log _ _

/-- Those who read are told to stop when the pod has ended, if not before. -/
theorem stopOf_some (endsAt : Duration) (cancel : Option Duration) :
    ∃ stop, stopOf (some endsAt) cancel = some stop ∧ ¬endsAt < stop := by
  cases cancel with
  | none => exact ⟨endsAt, rfl, Nat.lt_irrefl _⟩
  | some cancel =>
    refine ⟨_, rfl, ?_⟩
    split
    next hearlier => exact Nat.lt_asymm hearlier
    next => exact Nat.lt_irrefl _

/-- When the pod has ended nobody opens its log any more. -/
theorem finish_readLog (endsAt : Duration) :
    ∃ left, (readLog sink cancelAt startedAt name log (some endsAt)).finish = some left ∧
      ¬endsAt < left := by
  dsimp only [readLog]
  split
  · exact ⟨0, rfl, Nat.not_lt_zero _⟩
  · obtain ⟨stop, hstop, hstopped⟩ := stopOf_some endsAt (cancelAt.map (· - startedAt))
    have hfollower : (followerOf name log _).stopAt = some stop := hstop
    obtain ⟨left, hleft, hle⟩ := Follower.finish_follow hfollower
    refine ⟨left, hleft, ?_⟩
    rw [Duration.lt_iff_nanos_lt] at hstopped hle ⊢
    omega

end

/-! ### The second part of the wait -/

section

variable (id : NamespacedName) (sink : Progress.Sink) (cancelAt : Option Duration)
  (view : JobView) (startedAt : Duration) (pod : Pod)

/-- What the wait comes to, and when, is known when the end of the pod is known. -/
theorem awaitPod_conclusion :
    ((awaitPod id sink cancelAt view startedAt pod).result,
      (awaitPod id sink cancelAt view startedAt pod).elapsed) =
    match ending id ((view.states (pod.name.getD "")).find ended) with
    | some (time, _, result) => (some result, startedAt + time)
    | none => (none, startedAt) := by
  unfold awaitPod
  dsimp only
  cases ending id ((view.states (pod.name.getD "")).find ended) with
  | none => rfl
  | some known =>
    obtain ⟨time, succeeded, result⟩ := known
    have hexited := Progress.Tail.exited_finish
      (signal_readLog sink cancelAt startedAt (pod.name.getD "") (view.log (pod.name.getD ""))
        (some time)) succeeded
    obtain ⟨left, hleft, hle⟩ := finish_readLog sink cancelAt startedAt (pod.name.getD "")
      (view.log (pod.name.getD "")) time
    have hlater : time.later left = time := if_neg hle
    simp only [hexited, hleft, hlater]

/-- The result of the second part of the wait is that of the pod's last state. -/
theorem result_awaitPod :
    (awaitPod id sink cancelAt view startedAt pod).result =
      (ending id ((view.states (pod.name.getD "")).find ended)).map fun known ↦ known.2.2 := by
  refine (congrArg Prod.fst (awaitPod_conclusion id sink cancelAt view startedAt pod)).trans ?_
  cases ending id ((view.states (pod.name.getD "")).find ended) <;> rfl

/-- What the whole wait comes to, and when. -/
theorem await_conclusion :
    ((await id sink cancelAt view).result, (await id sink cancelAt view).elapsed) =
    match view.pods.find started with
    | .found time pod =>
      match ending id ((view.states (pod.name.getD "")).find ended) with
      | some (later, _, result) => (some result, time + later)
      | none => (none, time)
    | .failed time reason => (some (.error (.watch reason)), time)
    | .closed time => (some (.error (.jobFailed id)), time)
    | .never => (none, 0) := by
  unfold await
  dsimp only
  cases view.pods.find started with
  | found time pod => exact awaitPod_conclusion id sink cancelAt view time pod
  | failed | closed | never => rfl

end

/-! ### What decides -/

/-- The result of a wait whose search for the pod's end has ended like this. -/
def verdict (id : NamespacedName) :
    Except Watch.Rest (Option Pod) → Option (Except MigrationError Unit)
  | .ok last => some (outcome id last)
  | .error .closed => some (outcome id none)
  | .error (.failed reason) => some (.error (.wait reason))
  | .error .silent => none

theorem map_ending (id : NamespacedName) (sighting : Sighting (Option Pod)) :
    (ending id sighting).map (fun known ↦ known.2.2) = verdict id sighting.ends := by
  cases sighting <;> rfl

/-- The pod that a wait follows: the first that is seen to have started. -/
def Follows (view : JobView) (pod : Pod) : Prop :=
  IsFirst (fun seen ↦ ∃ p, seen = some p ∧ p.HasStarted) view.pods.states (some pod)

/-- No pod is ever seen to have started. -/
def NoneStarts (view : JobView) : Prop :=
  ∀ pod, some pod ∈ view.pods.states → ¬pod.HasStarted

/-- How the wait for a pod's end comes to a result, or to none, by the states of that pod. -/
inductive Ends (id : NamespacedName) (states : Watch (Option Pod)) :
    Option (Except MigrationError Unit) → Prop where
  | succeeded {pod : Pod} : IsFirst Pod.IsOver states.states (some pod) →
    pod.phase = some "Succeeded" → Ends id states (some (.ok ()))
  | failed {pod : Pod} : IsFirst Pod.IsOver states.states (some pod) →
    pod.phase = some "Failed" → Ends id states (some (.error (.jobFailed id)))
  | vanished : IsFirst Pod.IsOver states.states none →
    Ends id states (some (.error (.jobFailed id)))
  /-- The watch ends before the pod does. -/
  | lost : (∀ state ∈ states.states, ¬Pod.IsOver state) → states.rest = .closed →
    Ends id states (some (.error (.jobFailed id)))
  | waitFailed {reason : String} : (∀ state ∈ states.states, ¬Pod.IsOver state) →
    states.rest = .failed reason → Ends id states (some (.error (.wait reason)))
  /-- The pod never ends, and the watch does not either. -/
  | goesOn : (∀ state ∈ states.states, ¬Pod.IsOver state) → states.rest = .silent →
    Ends id states none

/-- How a wait for a job comes to a result, or to none, by what is seen of its pods. -/
inductive Concludes (id : NamespacedName) (view : JobView) :
    Option (Except MigrationError Unit) → Prop where
  | followed {pod : Pod} {result : Option (Except MigrationError Unit)} : Follows view pod →
    Ends id (view.states (pod.name.getD "")) result → Concludes id view result
  | neverStarted : NoneStarts view → view.pods.rest = .closed →
    Concludes id view (some (.error (.jobFailed id)))
  | watchFailed {reason : String} : NoneStarts view → view.pods.rest = .failed reason →
    Concludes id view (some (.error (.watch reason)))
  /-- No pod ever starts, and the watch goes on. -/
  | goesOn : NoneStarts view → view.pods.rest = .silent → Concludes id view none

section

variable {id : NamespacedName} {view : JobView} {states : Watch (Option Pod)}

theorem ended_eq_none_iff {state : Option Pod} : ended state = none ↔ ¬Pod.IsOver state := by
  rw [← Pod.isFinished_iff]
  simp [ended]

theorem ended_isSome_iff {state : Option Pod} :
    (ended state).isSome = true ↔ Pod.IsOver state := by
  rw [Option.isSome_iff_ne_none, ne_eq, ended_eq_none_iff, not_not]

theorem ended_eq_some_iff {state last : Option Pod} :
    ended state = some last ↔ state = last ∧ Pod.IsOver state := by
  rw [← Pod.isFinished_iff]
  simp [ended, and_comm]

/-- The search for the end of a pod finds the first state in which it is over. -/
theorem ends_find_ended {last : Option Pod} :
    (states.find ended).ends = .ok last ↔ IsFirst Pod.IsOver states.states last := by
  rw [Watch.ends_find_eq_ok_iff]
  constructor
  · rintro ⟨x, hx, hlast⟩
    obtain ⟨rfl, -⟩ := ended_eq_some_iff.mp hlast
    exact hx.congr fun z ↦ ended_isSome_iff
  · intro h
    exact ⟨last, h.congr fun z ↦ ended_isSome_iff.symm, ended_eq_some_iff.mpr ⟨rfl, h.prop⟩⟩

theorem ends_find_ended_eq_error {rest : Watch.Rest} :
    (states.find ended).ends = .error rest ↔
      (∀ state ∈ states.states, ¬Pod.IsOver state) ∧ states.rest = rest := by
  simp only [Watch.ends_find_eq_error_iff, ended_eq_none_iff]

/-- The verdict is what the states of the pod say. -/
theorem verdict_iff_ends {result : Option (Except MigrationError Unit)} :
    verdict id (states.find ended).ends = result ↔ Ends id states result := by
  constructor
  · rintro rfl
    rcases hends : (states.find ended).ends with rest | last
    · obtain ⟨hnone, hrest⟩ := ends_find_ended_eq_error.mp hends
      cases rest with
      | silent => exact .goesOn hnone hrest
      | closed => exact .lost hnone hrest
      | failed reason => exact .waitFailed hnone hrest
    · have hfirst := ends_find_ended.mp hends
      cases last with
      | none => exact .vanished hfirst
      | some pod =>
        rcases hfirst.prop pod rfl with hphase | hphase
        · simpa [verdict, outcome, Pod.hasSucceeded, hphase] using Ends.succeeded hfirst hphase
        · simpa [verdict, outcome, Pod.hasSucceeded, hphase] using Ends.failed hfirst hphase
  · rintro (⟨hfirst, hphase⟩ | ⟨hfirst, hphase⟩ | hfirst | ⟨hnone, hrest⟩ | ⟨hnone, hrest⟩ |
      ⟨hnone, hrest⟩)
    · rw [ends_find_ended.mpr hfirst]
      simp [verdict, outcome, Pod.hasSucceeded, hphase]
    · rw [ends_find_ended.mpr hfirst]
      simp [verdict, outcome, Pod.hasSucceeded, hphase]
    · rw [ends_find_ended.mpr hfirst]
      rfl
    all_goals
      rw [ends_find_ended_eq_error.mpr ⟨hnone, hrest⟩]
      rfl

/-- The search for a pod finds the one that the wait follows. -/
theorem ends_find_started {pod : Pod} :
    (view.pods.find started).ends = .ok pod ↔ Follows view pod := by
  have hstarted : ∀ {seen : Option Pod} {p : Pod},
      started seen = some p ↔ seen = some p ∧ p.HasStarted := by
    intro seen p
    rw [started, Option.filter_eq_some_iff, Pod.isTailable_iff]
  have hisSome : ∀ seen : Option Pod,
      (started seen).isSome = true ↔ ∃ p, seen = some p ∧ p.HasStarted := by
    intro seen
    simp only [Option.isSome_iff_exists, hstarted]
  rw [Watch.ends_find_eq_ok_iff]
  constructor
  · rintro ⟨seen, hseen, hpod⟩
    obtain ⟨rfl, -⟩ := hstarted.mp hpod
    exact hseen.congr hisSome
  · intro h
    obtain ⟨p, hp, hhas⟩ := h.prop
    obtain rfl := Option.some.inj hp
    exact ⟨some pod, h.congr fun seen ↦ (hisSome seen).symm, hstarted.mpr ⟨rfl, hhas⟩⟩

theorem ends_find_started_eq_error {rest : Watch.Rest} :
    (view.pods.find started).ends = .error rest ↔ NoneStarts view ∧ view.pods.rest = rest := by
  rw [Watch.ends_find_eq_error_iff]
  refine and_congr_left fun _ ↦ ?_
  constructor
  · intro hnone pod hpod hhas
    have hpassed := hnone (some pod) hpod
    simp [started, Pod.isTailable_iff.mpr hhas] at hpassed
  · intro hnone seen hseen
    cases seen with
    | none => rfl
    | some pod =>
      have hnot : ¬pod.isTailable = true := fun h ↦ hnone pod hseen (Pod.isTailable_iff.mp h)
      simp [started, hnot]

theorem result_await (id : NamespacedName) (view : JobView) (sink : Progress.Sink)
    (cancelAt : Option Duration) :
    (await id sink cancelAt view).result =
      match (view.pods.find started).ends with
      | .ok pod => verdict id ((view.states (pod.name.getD "")).find ended).ends
      | .error .closed => some (.error (.jobFailed id))
      | .error (.failed reason) => some (.error (.watch reason))
      | .error .silent => none := by
  unfold await
  dsimp only
  cases view.pods.find started with
  | found time pod => exact (result_awaitPod id sink cancelAt view time pod).trans (map_ending id _)
  | failed | closed | never => rfl

end

/-- What a wait for a job comes to is decided by the pods of the job and by the states of the one
that is followed. Neither the log nor the sink nor a cancellation of the run has a say in it, and
none of them delays it. -/
theorem await_concludes (id : NamespacedName) (view : JobView) (sink : Progress.Sink)
    (cancelAt : Option Duration) :
    (∀ result, (await id sink cancelAt view).result = result ↔ Concludes id view result) ∧
    ∀ (log : String → Nat → PodLog) (sink' : Progress.Sink) (cancelAt' : Option Duration),
      (await id sink' cancelAt' { view with log }).result = (await id sink cancelAt view).result ∧
      (await id sink' cancelAt' { view with log }).elapsed =
        (await id sink cancelAt view).elapsed := by
  refine ⟨fun result ↦ ?_, fun log sink' cancelAt' ↦ ?_⟩
  · rw [result_await]
    constructor
    · rintro rfl
      rcases hends : (view.pods.find started).ends with rest | pod
      · obtain ⟨hnone, hrest⟩ := ends_find_started_eq_error.mp hends
        cases rest with
        | silent => exact .goesOn hnone hrest
        | closed => exact .neverStarted hnone hrest
        | failed reason => exact .watchFailed hnone hrest
      · exact .followed (ends_find_started.mp hends) (verdict_iff_ends.mp rfl)
    · rintro (⟨hfollows, hends⟩ | ⟨hnone, hrest⟩ | ⟨hnone, hrest⟩ | ⟨hnone, hrest⟩)
      · rw [ends_find_started.mpr hfollows]
        exact verdict_iff_ends.mpr hends
      all_goals rw [ends_find_started_eq_error.mpr ⟨hnone, hrest⟩]
  · have hother := await_conclusion id sink' cancelAt' { view with log }
    have hsame := hother.trans (await_conclusion id sink cancelAt view).symm
    exact Prod.mk.inj hsame

end Job

end VolumeMigration

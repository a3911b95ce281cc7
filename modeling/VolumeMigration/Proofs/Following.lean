import Mathlib.Tactic.Common
import VolumeMigration.Wait.Reopening

/-!
# Following a log comes to an end

A follower may be in three places when the stop comes: at an opening, behind an open stream, or in
the pause between two openings. In each of them it leaves at once. So a follower that is told to
stop has an end, whatever the streams do, and the end is not behind the stop
(`Follower.finish_follow`).
-/

namespace VolumeMigration

/-- When an open stream is over, if it ever is. -/
def StreamEnd.time? : StreamEnd → Option Duration
  | stopped time => time
  | finished time _ => some time

namespace Follower

section

variable {f : Follower} {stop : Duration}

theorem stopBefore?_eq_some_iff {time moment : Duration} :
    f.stopBefore? time = some moment ↔ f.stopAt = some moment ∧ moment < time := by
  simp [stopBefore?, Option.filter_eq_some_iff]

theorem stopBefore?_eq_none {time : Duration} (hstop : f.stopAt = some stop)
    (h : f.stopBefore? time = none) : ¬stop < time := by
  simpa [stopBefore?, hstop] using h

/-- An opening that is not behind the stop is over by the stop. -/
theorem time?_openLog (hstop : f.stopAt = some stop) (attempt : Nat) {clock : Duration}
    (hclock : ¬stop < clock) :
    ∃ time, (f.openLog attempt clock).time? = some time ∧ ¬stop < time := by
  unfold openLog
  split
  · exact ⟨clock, rfl, hclock⟩
  split
  · exact ⟨stop, hstop, Nat.lt_irrefl _⟩
  next duration outcome _ =>
    split
    next moment hmoment =>
      have hsame : f.stopAt = some moment := (stopBefore?_eq_some_iff.mp hmoment).1
      obtain rfl : stop = moment := by simpa [hstop] using hsame
      exact ⟨stop, rfl, Nat.lt_irrefl _⟩
    next hmoment =>
      have hlasts : ¬stop < clock + duration := stopBefore?_eq_none hstop hmoment
      split
      · exact ⟨_, rfl, hlasts⟩
      · exact ⟨_, rfl, hlasts⟩

/-- A follower that is told to stop comes to its end by then, from any opening on. -/
theorem finish_followFrom (hstop : f.stopAt = some stop) (left attempt : Nat) {clock : Duration}
    (hclock : ¬stop < clock) (warned : Bool) :
    ∃ time, (f.followFrom attempt clock warned left).finish = some time ∧ ¬stop < time := by
  -- on the number of openings that are left
  induction left generalizing attempt clock warned with
  | zero =>
    obtain ⟨time, htime, hle⟩ := time?_openLog hstop attempt hclock
    refine ⟨time, ?_, hle⟩
    unfold followFrom
    split
    next left hleft => simpa [hleft, StreamEnd.time?] using htime
    next moment outcome hover => simpa [hover, StreamEnd.time?] using htime
  | succ left ih =>
    obtain ⟨time, htime, hle⟩ := time?_openLog hstop attempt hclock
    unfold followFrom
    split
    next left hleft =>
      obtain rfl : left = some time := by simpa [hleft, StreamEnd.time?] using htime
      exact ⟨time, rfl, hle⟩
    next moment outcome hover =>
      obtain rfl : moment = time := by simpa [hover, StreamEnd.time?] using htime
      dsimp only
      split
      next pausing hpausing =>
        have hsame : f.stopAt = some pausing := (stopBefore?_eq_some_iff.mp hpausing).1
        obtain rfl : stop = pausing := by simpa [hstop] using hsame
        refine ⟨moment.later stop, rfl, ?_⟩
        unfold Duration.later
        split
        · exact Nat.lt_irrefl _
        · exact hle
      next hpausing =>
        exact ih (attempt + 1) (stopBefore?_eq_none hstop hpausing) (warned || broke outcome)

/-- A follower that is told to stop comes to its end, and not behind the stop. -/
theorem finish_follow (hstop : f.stopAt = some stop) :
    ∃ time, f.follow.finish = some time ∧ ¬stop < time :=
  finish_followFrom hstop maxReopenings 0 (Nat.not_lt_zero _) false

end

end Follower

end VolumeMigration

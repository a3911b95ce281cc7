import VolumeMigration.Duration
import VolumeMigration.Report

/-!
# Opening a log again

The log of a pod is a stream that may end or break at any time, and is then opened again
after a pause. That goes on until somebody says stop, or until nobody reads the lines any
more, but for `Follower.maxReopenings` times only: after that the log is given up, which
harms nothing but the display of progress.

The first break is worth a warning; the ones after it are expected.

`Follower.follow` gives one `Turn` for every time the log was opened. It ends at once when
the stop comes while a stream is open or during a pause; a stream that has no duration
cannot be interrupted.
-/

namespace VolumeMigration

/-- What one opening of a log leads to. -/
inductive LogStream where
  /-- The stream stays open. -/
  | endless
  /-- The stream ends, or breaks, after this time. -/
  | lasting (duration : Duration) (outcome : Except MigrationError Unit)
  deriving Repr

/-- How an open stream comes to an end. -/
inductive StreamEnd where
  /-- Nobody wants it any more from this moment on; without a moment it stays open. -/
  | stopped (time : Option Duration)
  /-- It has ended or broken by itself. -/
  | finished (time : Duration) (outcome : Except MigrationError Unit)
  deriving Repr

/-- One who follows a log. -/
structure Follower where
  pod : String
  /-- The stream that the n-th opening gives, from 0 on. -/
  stream : Nat → LogStream
  /-- When the follower is told to stop, if ever. -/
  stopAt : Option Duration := none
  /-- Whether the n-th opening is itself the moment of the stop. -/
  stopsIn : Nat → Bool := fun _ ↦ false
  /-- Whether nobody reads the lines any more when the n-th stream ends. -/
  readerGone : Nat → Bool := fun _ ↦ false

/-- One opening of the log: which one it is and when it was, and what was reported after it. -/
structure Turn where
  attempt : Nat
  opened : Duration
  entries : List LogEntry
  deriving DecidableEq, Repr

/-- What a follower did, and when it came to an end, if it did. -/
structure Following where
  turns : List Turn
  finish : Option Duration
  deriving DecidableEq, Repr

namespace Following

/-- How often the log was opened. -/
def opens (f : Following) : Nat := f.turns.length

/-- Everything that was reported. -/
def logs (f : Following) : List LogEntry := f.turns.flatMap Turn.entries

/-- A turn before all others. -/
def cons (turn : Turn) (f : Following) : Following := { f with turns := turn :: f.turns }

end Following

namespace Follower

/-- How often a log is opened again. -/
def maxReopenings : Nat := 30

/-- The pause before a log is opened again. -/
def pause : Duration := .ofSeconds 1

/-- The moment of the stop, if it comes before another moment. -/
def stopBefore? (f : Follower) (time : Duration) : Option Duration :=
  f.stopAt.filter (· < time)

/-- What is reported of a stream that has ended. -/
def report (f : Follower) (attempt : Nat) (warned : Bool) : Except MigrationError Unit → LogEntry
  | .ok _ => .debug "log stream ended" [("pod", f.pod), ("attempt", toString attempt)]
  | .error e =>
    if warned then
      .debug "log stream broke again"
        [("pod", f.pod), ("error", e.message), ("attempt", toString attempt)]
    else .warn "log stream broke, re-opening" [("pod", f.pod), ("error", e.message)]

/-- What is reported when the log is given up. -/
def givingUp (f : Follower) : LogEntry :=
  .warn "giving up on log stream, progress will not be shown" [("pod", f.pod)]

/-- Whether a stream broke. -/
def broke : Except MigrationError Unit → Bool
  | .ok _ => false
  | .error _ => true

/-- Whether the stop comes by the moment at which the log is opened for the n-th time. -/
def isStoppedAt (f : Follower) (attempt : Nat) (clock : Duration) : Bool :=
  f.stopsIn attempt || f.stopAt.any fun time ↦ !decide (clock < time)

/-- Opens the log for the n-th time at a moment, and waits until its stream is over. A stop
at that very moment comes before anything that the stream gives. -/
def openLog (f : Follower) (attempt : Nat) (clock : Duration) : StreamEnd :=
  if f.isStoppedAt attempt clock then .stopped (some clock)
  else
    match f.stream attempt with
    | .endless => .stopped f.stopAt
    | .lasting duration outcome =>
      match f.stopBefore? (clock + duration) with
      | some time => .stopped (some time)
      | none =>
        if f.readerGone attempt then .stopped (some (clock + duration))
        else .finished (clock + duration) outcome

/-- Follows the log from an opening on, with so many more openings to come at most. -/
def followFrom (f : Follower) (attempt : Nat) (clock : Duration) (warned : Bool) :
    Nat → Following
  | 0 =>
    match f.openLog attempt clock with
    | .stopped time => ⟨[⟨attempt, clock, []⟩], time⟩
    | .finished time outcome =>
      ⟨[⟨attempt, clock, [f.report attempt warned outcome, f.givingUp]⟩], some time⟩
  | left + 1 =>
    match f.openLog attempt clock with
    | .stopped time => ⟨[⟨attempt, clock, []⟩], time⟩
    | .finished time outcome =>
      let turn : Turn := ⟨attempt, clock, [f.report attempt warned outcome]⟩
      match f.stopBefore? (time + pause) with
      | some stop => ⟨[turn], some (time.later stop)⟩
      | none =>
        (f.followFrom (attempt + 1) (time + pause) (warned || broke outcome) left).cons turn

/-- Follows the log. -/
def follow (f : Follower) : Following := f.followFrom 0 0 false maxReopenings

end Follower

end VolumeMigration

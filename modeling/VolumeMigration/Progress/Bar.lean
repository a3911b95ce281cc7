import VolumeMigration.Progress.Basic
import VolumeMigration.Report

/-!
# Where progress is shown

A transfer's progress goes to a bar, or only to the log. A bar takes its length from the
latest total and never moves its position back while lines arrive, so a log stream that
is opened again and replays old lines does not rewind what is shown.
-/

namespace VolumeMigration

/-- Where a progress bar is drawn. -/
inductive ProgressOutput where
  | stderr
  | stdout
  /-- Never drawn: progress goes to the log. -/
  | hidden
  deriving DecidableEq, Repr

namespace Progress

/-- A progress bar. -/
structure Bar where
  position : Nat
  length : Nat
  finished : Bool
  deriving DecidableEq, Repr

namespace Bar

/-- A bar on which nothing has moved yet. -/
def new : Bar := ⟨0, 1, false⟩

/-- Takes over the latest total and moves the position forward, never back. -/
def advance (bar : Bar) (progress : Progress) : Bar :=
  let total := max progress.total progress.transferred
  { bar with
    length := if 0 < total then total else bar.length
    position := max bar.position progress.transferred }

/-- Jumps to the end. -/
def finish (bar : Bar) : Bar := { bar with position := bar.length, finished := true }

/-- Stops where it is. -/
def abandon (bar : Bar) : Bar := { bar with finished := true }

end Bar

/-- What observes the lines of a transfer. -/
inductive Sink where
  | bar (b : Bar)
  | logOnly
  deriving DecidableEq, Repr

namespace Sink

/-- A sink for an output: a bar where one is wanted and can be drawn. -/
def new (wanted : Bool) (output : ProgressOutput) : Sink :=
  if wanted && output != .hidden then .bar .new else .logOnly

/-- The bar, if there is one. -/
def bar? : Sink → Option Bar
  | .bar b => some b
  | .logOnly => Option.none

/-- Takes one line of output. A line without progress is logged as it is. -/
def observe (sink : Sink) (line : String) : Sink × List LogEntry :=
  match ofLine? line with
  | Option.none => (sink, [.debug "rsync" [("line", line)]])
  | some progress =>
    match sink with
    | .bar b => (.bar (b.advance progress), [])
    | .logOnly =>
      (.logOnly, [.debug "rsync progress"
        [("transferred", toString progress.transferred), ("total", toString progress.total),
          ("percentage", toString progress.percentage)]])

/-- Takes lines in their order. -/
def observeAll (sink : Sink) : List String → Sink × List LogEntry
  | [] => (sink, [])
  | line :: lines =>
    let (sink, first) := sink.observe line
    let (sink, others) := observeAll sink lines
    (sink, first ++ others)

/-- The transfer has succeeded. -/
def finish : Sink → Sink
  | .bar b => .bar b.finish
  | .logOnly => .logOnly

/-- The transfer has not succeeded, or nobody waits for it any more. -/
def abandon : Sink → Sink
  | .bar b => .bar b.abandon
  | .logOnly => .logOnly

end Sink

end Progress

end VolumeMigration

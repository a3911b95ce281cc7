import VolumeMigration.Progress.Bar

/-!
# Following a transfer's output

A tail connects the producers of output lines (a pod's log, a local program) to a sink.
Lines pass through a channel that holds a bounded number of them; one consumer takes them
out. The owner of the tail ends it, with word of success or failure or by just letting go
of it; the run that owns everything may be cancelled.

The consumer makes one decision at a time (`Tail.decision`). While it follows the transfer,
cancellation comes first, then the owner's signal, then the next line. Behind the signal it
empties the channel line by line before it closes the sink, so no line that was accepted
before the signal is lost, and nothing else counts for it any more. Producers that have all
gone away do not end it. When it ends it stops the producers, but never cancels the run.
-/

namespace VolumeMigration.Progress

/-- How the owner ends a tail. -/
inductive Signal where
  | finished (success : Bool)
  /-- The owner lets go of the tail without a word. -/
  | dropped
  deriving DecidableEq, Repr

/-- Whether the owner speaks of success. -/
def Signal.isSuccess : Signal → Bool
  | finished success => success
  | dropped => false

/-- How far the consumer is. -/
inductive Consumer where
  /-- It waits for what comes next. It may know already that no line will come any more. -/
  | following (linesOver : Bool)
  /-- It has taken the signal and empties the channel. -/
  | draining (success : Bool)
  /-- It has closed the sink. -/
  | leaving
  | gone
  deriving DecidableEq, Repr

/-- What the consumer does next. -/
inductive Decision where
  /-- It waits. -/
  | idle
  /-- It sees that the run is cancelled and abandons the sink. -/
  | giveUp
  /-- It takes the signal. -/
  | heed (success : Bool)
  /-- It takes a line and lets the sink observe it. -/
  | take (line : String)
  /-- It sees that all producers are gone. -/
  | noteEnd
  /-- It closes the sink, behind the signal and all lines. -/
  | close (success : Bool)
  /-- It stops the producers and closes the channel. -/
  | leave
  deriving DecidableEq, Repr

/-- The state of a tail and of the channel that feeds it. -/
structure Tail where
  sink : Sink
  /-- Lines accepted and not yet taken. -/
  queue : List String := []
  /-- Whether there is no producer any more. -/
  producersGone : Bool := false
  /-- The owner's signal, once it is given. -/
  signal : Option Signal := Option.none
  /-- Whether the run was cancelled. -/
  runCancelled : Bool := false
  /-- Whether the producers were told to stop by the tail itself. -/
  producersStopped : Bool := false
  consumer : Consumer := .following false
  deriving DecidableEq, Repr

namespace Tail

/-- Lines that wait in the channel at most. -/
def capacity : Nat := 256

/-- A tail in front of a sink. -/
def new (sink : Sink) : Tail := { sink }

/-- Whether the consumer has ended, which closes the channel. -/
def exited (tail : Tail) : Bool := tail.consumer == .gone

/-- Whether producers are to stop: on the tail's own word or because the run was
cancelled. -/
def stopped (tail : Tail) : Bool := tail.producersStopped || tail.runCancelled

/-! ### What comes from outside -/

/-- Offers lines to the channel without letting the consumer run, and tells how many of
them found room. -/
def send (tail : Tail) (lines : List String) : Tail × Nat :=
  if tail.exited || tail.producersGone then (tail, 0)
  else
    let taken := lines.take (capacity - tail.queue.length)
    ({ tail with queue := tail.queue ++ taken }, taken.length)

/-- The last producer goes away. -/
def closeChannel (tail : Tail) : Tail := { tail with producersGone := true }

/-- The owner ends the tail. A tail ends once. -/
def deliver (tail : Tail) (signal : Signal) : Tail :=
  if tail.signal.isSome then tail else { tail with signal := some signal }

/-- Cancels the run. -/
def cancelRun (tail : Tail) : Tail := { tail with runCancelled := true }

/-! ### What the consumer does -/

/-- The next decision of the consumer. -/
def decision (tail : Tail) : Decision :=
  match tail.consumer with
  | .following linesOver =>
    if tail.stopped then .giveUp
    else
      match tail.signal with
      | some signal => .heed signal.isSuccess
      | Option.none =>
        -- a channel that is over would be ready again and again
        if linesOver then .idle
        else
          match tail.queue with
          | line :: _ => .take line
          | [] => if tail.producersGone then .noteEnd else .idle
  | .draining success =>
    match tail.queue with
    | line :: _ => .take line
    | [] => .close success
  | .leaving => .leave
  | .gone => .idle

/-- What comes of a decision, and the log entries that are made. -/
def carryOut (tail : Tail) : Decision → Tail × List LogEntry
  | .idle => (tail, [])
  | .giveUp => ({ tail with sink := tail.sink.abandon, consumer := .leaving }, [])
  | .heed success => ({ tail with consumer := .draining success }, [])
  | .take line =>
    let (sink, entries) := tail.sink.observe line
    ({ tail with sink, queue := tail.queue.tail }, entries)
  | .noteEnd => ({ tail with consumer := .following true }, [])
  | .close success =>
    let sink := if success then tail.sink.finish else tail.sink.abandon
    ({ tail with sink, consumer := .leaving }, [])
  | .leave => ({ tail with queue := [], producersStopped := true, consumer := .gone }, [])

/-- One decision of the consumer. An idle consumer stays as it is. -/
def step (tail : Tail) : Tail × List LogEntry := tail.carryOut tail.decision

/-- As many decisions of the consumer as `steps` says. -/
def run (tail : Tail) : Nat → Tail × List LogEntry
  | 0 => (tail, [])
  | steps + 1 =>
    let (tail, first) := tail.step
    let (tail, others) := run tail steps
    (tail, first ++ others)

/-- Lets the consumer run until it is idle: one decision for each queued line, and three to
take the signal, to close the sink and to leave. -/
def settle (tail : Tail) : Tail × List LogEntry := tail.run (tail.queue.length + 3)

/-- The owner ends the tail and waits for the consumer to leave. -/
def finish (tail : Tail) (success : Bool) : Tail × List LogEntry :=
  if tail.signal.isSome then (tail, [])
  else
    let (tail, entries) := (tail.deliver (.finished success)).settle
    ({ tail with producersStopped := true }, entries)

end Tail

end VolumeMigration.Progress

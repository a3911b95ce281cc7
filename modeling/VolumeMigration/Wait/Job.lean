import VolumeMigration.Cluster.Objects
import VolumeMigration.Progress.Tail
import VolumeMigration.Wait.Reopening
import VolumeMigration.Wait.Watch

/-!
# Waiting for a job

A job has done its work when its pod has succeeded. The wait has two parts. First the pods
of the job are watched until one has started; that one is followed by name. Then its states
are watched until it has ended or is gone, while its log is read for progress.

The result is decided by the last state alone (`Job.outcome`). The log has no say in it, but
the wait is over only when those who read it are through as well: the consumer of its lines
(`Progress.Tail`) and the one who opens it again and again (`Follower`). The former is sent
the word of success or failure, the latter is told to stop at that moment. A bar jumps to its
end after a success and stays where it is otherwise. If the run is cancelled meanwhile the log
is no longer read, but the wait goes on.
-/

namespace VolumeMigration

/-- What one opening of a pod's log gives. -/
inductive PodLog where
  /-- Nothing more ever comes. -/
  | hanging
  /-- The log ends after this time. -/
  | ended (after : Duration)
  /-- The log cannot be opened, or breaks, after this time. -/
  | broken (after : Duration) (cause : MigrationError)
  /-- A line comes after this time, and then the rest. -/
  | line (after : Duration) (text : String) (rest : PodLog)
  deriving Repr

namespace PodLog

/-- A log that cannot be opened. -/
def failure (cause : MigrationError) : PodLog := .broken 0 cause

/-- These lines at once, and then the end. -/
def lines : List String → PodLog
  | [] => .ended 0
  | text :: texts => .line 0 text (lines texts)

/-- A line before a line feed: a carriage return at its end belongs to the end. -/
def lineBeforeFeed (line : List Char) : String :=
  String.ofList (if line.getLast? = some '\r' then line.dropLast else line)

/-- The lines of a text. A line ends at a line feed, which a carriage return may precede;
what is behind the last end is a line if it is not empty. -/
def linesOfText (text : String) : List String :=
  let parts := text.toList.splitOn '\n'
  let rest := parts.getLast?.getD []
  parts.dropLast.map lineBeforeFeed ++ if rest.isEmpty then [] else [String.ofList rest]

/-- A log of this text. -/
def ofText (text : String) : PodLog := .lines (linesOfText text)

/-- The lines that come within a time; without a limit all of them. -/
def within (limit : Option Duration) : PodLog → List String
  | line after text rest =>
    if limit.any (· < after) then [] else text :: rest.within (limit.map (· - after))
  | hanging | ended _ | broken _ _ => []

/-- How the stream goes on. -/
def stream : PodLog → LogStream
  | hanging => .endless
  | ended after => .lasting after (.ok ())
  | broken after cause => .lasting after (.error cause)
  | line after _ rest =>
    match rest.stream with
    | .endless => .endless
    | .lasting duration outcome => .lasting (after + duration) outcome

end PodLog

/-- What there is to see of a job. -/
structure JobView where
  /-- The pods of the job, as they come. A pod that is gone is no pod. -/
  pods : Watch (Option Pod)
  /-- The states of the pod of a name. -/
  states : String → Watch (Option Pod)
  /-- What the n-th opening of that pod's log gives, from 0 on. -/
  log : String → Nat → PodLog

/-- A wait for a job. -/
structure JobWait where
  /-- The result; a wait that goes on for ever has none. -/
  result : Option (Except MigrationError Unit)
  elapsed : Duration
  /-- How often the log was asked for. -/
  logOpens : Nat
  /-- Where progress was shown, as it was left. -/
  sink : Progress.Sink
  logs : List LogEntry

namespace Job

/-- The result of a job whose pod was last seen like this. -/
def outcome (id : NamespacedName) (last : Option Pod) : Except MigrationError Unit :=
  if last.any Pod.hasSucceeded then .ok () else .error (.jobFailed id)

/-- What is reported of a result. -/
def outcomeLog (id : NamespacedName) : Except MigrationError Unit → List LogEntry
  | .ok _ => [.info "rsync job succeeded" [("namespace", id.ns), ("job", id.name)]]
  | .error _ => []

/-- A pod that has started. -/
def started (pod : Option Pod) : Option Pod := pod.filter Pod.isTailable

/-- A state in which the wait is over. -/
def ended (pod : Option Pod) : Option (Option Pod) :=
  if Pod.isFinished pod then some pod else none

/-- What is reported while the pod has not started. -/
def waitingLogs (passed : List (Option Pod)) : List LogEntry :=
  (passed.filterMap (·)).map fun p : Pod ↦
    .debug "waiting for rsync pod to start" [("pod", p.name.getD "")]

/-- Sends lines through a tail, each of them when the consumer is through with the one
before it. -/
def relay (tail : Progress.Tail) : List String → Progress.Tail × List LogEntry
  | [] => (tail, [])
  | line :: lines =>
    let (tail, first) := (tail.send [line]).1.settle
    let (tail, others) := relay tail lines
    (tail, first ++ others)

/-- The lines that come in one turn. None come if the stop does not let the log be opened. -/
def linesOf (log : Nat → PodLog) (follower : Follower) (turn : Turn) : List String :=
  if follower.isStoppedAt turn.attempt turn.opened then []
  else (log turn.attempt).within (follower.stopAt.map (· - turn.opened))

/-- Sends every turn's lines through a tail, and gathers what is reported in the order in
which it happens. -/
def feed (log : Nat → PodLog) (follower : Follower) (tail : Progress.Tail) :
    List Turn → Progress.Tail × List LogEntry
  | [] => (tail, [])
  | turn :: turns =>
    let (tail, lines) := relay tail (linesOf log follower turn)
    let (tail, others) := feed log follower tail turns
    (tail, lines ++ turn.entries ++ others)

/-- What is known when the second part of the wait is over. -/
def ending (id : NamespacedName) : Sighting (Option Pod) →
    Option (Duration × Bool × Except MigrationError Unit)
  | .found time pod => some (time, pod.any Pod.hasSucceeded, outcome id pod)
  | .failed time reason => some (time, false, .error (.wait reason))
  | .closed time => some (time, false, outcome id none)
  | .never => none

/-- The moment at which those who read a log are told to stop: when the pod has ended, or
earlier if the run is cancelled. -/
def stopOf : Option Duration → Option Duration → Option Duration
  | some endsAt, some cancel => some (if cancel < endsAt then cancel else endsAt)
  | some endsAt, none => some endsAt
  | none, cancel => cancel

/-- One who follows the log of a pod. -/
def followerOf (name : String) (log : Nat → PodLog) (stopAt : Option Duration) : Follower where
  pod := name
  stream n := (log n).stream
  stopAt

/-- What was made of a pod's log until the pod had ended. -/
structure LogReading where
  /-- How often the log was asked for. -/
  opens : Nat
  /-- When the one who opens the log was through, if ever. -/
  finish : Option Duration
  /-- The tail that the lines went through. Its owner has not ended it yet. -/
  tail : Progress.Tail
  logs : List LogEntry

/-- Reads the log of a pod that has started at a moment and ends so much later, if ever. -/
def readLog (sink : Progress.Sink) (cancelAt : Option Duration) (startedAt : Duration)
    (name : String) (log : Nat → PodLog) (endsAt : Option Duration) : LogReading :=
  let cancel := cancelAt.map (· - startedAt)
  let cancelledBefore := cancelAt.any (· < startedAt)
  let follower := followerOf name log (stopOf endsAt cancel)
  let following : Following := if cancelledBefore then ⟨[], some 0⟩ else follower.follow
  let (tail, reported) := feed log follower (.new sink) following.turns
  let cancelled := cancelledBefore || cancel.any fun cancel ↦ endsAt.all (cancel < ·)
  { opens := following.opens, finish := following.finish
    tail := if cancelled then tail.cancelRun.settle.1 else tail, logs := reported }

/-- Waits for the end of a pod that has started at a moment. `cancelAt` is the moment at
which the run is cancelled, if it is. -/
def awaitPod (id : NamespacedName) (sink : Progress.Sink) (cancelAt : Option Duration)
    (view : JobView) (startedAt : Duration) (pod : Pod) : JobWait :=
  let name := pod.name.getD ""
  let begun : LogEntry :=
    .info "rsync pod started" [("job", id.name), ("namespace", id.ns), ("pod", name)]
  match ending id ((view.states name).find ended) with
  | none =>
    let reading := readLog sink cancelAt startedAt name (view.log name) none
    { result := none, elapsed := startedAt, logOpens := reading.opens
      sink := reading.tail.sink, logs := begun :: reading.logs }
  | some (time, succeeded, result) =>
    let reading := readLog sink cancelAt startedAt name (view.log name) (some time)
    let (tail, drained) := reading.tail.finish succeeded
    match tail.exited, reading.finish with
    | true, some left =>
      { result := some result, elapsed := startedAt + time.later left, logOpens := reading.opens
        sink := tail.sink, logs := begun :: reading.logs ++ drained ++ outcomeLog id result }
    -- one of those who read the log never comes to an end
    | _, _ =>
      { result := none, elapsed := startedAt, logOpens := reading.opens, sink := tail.sink
        logs := begun :: reading.logs ++ drained }

/-- Waits for a job. -/
def await (id : NamespacedName) (sink : Progress.Sink) (cancelAt : Option Duration)
    (view : JobView) : JobWait :=
  let waiting := waitingLogs (view.pods.passed started)
  match view.pods.find started with
  | .found time pod =>
    let wait := awaitPod id sink cancelAt view time pod
    { wait with logs := waiting ++ wait.logs }
  | .failed time reason =>
    ⟨some (.error (.watch reason)), time, 0, sink, waiting⟩
  | .closed time => ⟨some (.error (.jobFailed id)), time, 0, sink, waiting⟩
  | .never => ⟨none, 0, 0, sink, waiting⟩

end Job

end VolumeMigration

import VolumeMigration.Engine.World

/-!
# The state of a run

What a run carries along: its history and the register of its releases. Everything that it
reports is an event of its history.

A run can come to a standstill, after which it does nothing more. That is the case when it
waits for something that never comes, and when the deadline of a helm call is beyond what a
clock can represent.
-/

namespace VolumeMigration

/-- The state of a run. -/
structure Run where
  history : History := []
  releases : Registry := {}

namespace Run

/-- Adds an event. -/
def note (r : Run) (e : Event) : Run := { r with history := e :: r.history }

/-- Reports something. -/
def log (r : Run) (entry : LogEntry) : Run := r.note (.log entry)

/-- Reports several things, in this order. -/
def logAll (r : Run) (entries : List LogEntry) : Run := entries.foldl log r

/-- Whether the run was cancelled. -/
def isCancelled (r : Run) : Bool := r.history.isCancelled

/-- What is reported when a signal is received. -/
def signalReceived : LogEntry := .warn "received termination signal, cancelling" []

/-- Takes note of a cancellation, if there was one. Only the first signal is heard. -/
def interrupt (r : Run) : Option Interruption → Run
  | none => r
  | some .token => r.note (.interrupted .token)
  | some .signal =>
    if r.history.isSignalled then r else (r.log signalReceived).note (.interrupted .signal)

/-- Records a release. -/
def record (r : Run) (entry : ReleaseRecord) : Run :=
  { r.note (.recorded entry) with releases := r.releases.record entry }

/-- Forgets a release. -/
def forget (r : Run) (release : Helm.ReleaseRef) : Run :=
  { r with releases := r.releases.remove release.ns release.name }

/-! ### What becomes of the history and of the register -/

@[simp] theorem history_note (r : Run) (e : Event) : (r.note e).history = e :: r.history := rfl

@[simp] theorem releases_note (r : Run) (e : Event) : (r.note e).releases = r.releases := rfl

@[simp] theorem history_log (r : Run) (entry : LogEntry) :
    (r.log entry).history = .log entry :: r.history := rfl

@[simp] theorem releases_log (r : Run) (entry : LogEntry) :
    (r.log entry).releases = r.releases := rfl

@[simp] theorem history_record (r : Run) (entry : ReleaseRecord) :
    (r.record entry).history = .recorded entry :: r.history := rfl

@[simp] theorem releases_record (r : Run) (entry : ReleaseRecord) :
    (r.record entry).releases = r.releases.record entry := rfl

@[simp] theorem history_forget (r : Run) (release : Helm.ReleaseRef) :
    (r.forget release).history = r.history := rfl

@[simp] theorem releases_forget (r : Run) (release : Helm.ReleaseRef) :
    (r.forget release).releases = r.releases.remove release.ns release.name := rfl

@[simp] theorem releases_interrupt (r : Run) (cause : Option Interruption) :
    (r.interrupt cause).releases = r.releases := by
  rcases cause with - | - | - <;> simp only [interrupt]
  · rfl
  · split <;> rfl

end Run

/-- Why a run does nothing more. -/
inductive Standstill where
  /-- What it waits for never comes. -/
  | endlessWait
  /-- The deadline of a helm call cannot be represented. -/
  | noDeadline
  deriving DecidableEq, Repr

/-- What comes of a part of a run. -/
inductive Ending (α : Type) where
  | value (a : α)
  | standstill (cause : Standstill)
  deriving DecidableEq, Repr

/-- The same ending of what is made of a value. -/
def Ending.map {α β : Type} (f : α → β) : Ending α → Ending β
  | value a => value (f a)
  | standstill cause => standstill cause

/-- Calls helm. -/
def callHelm (w : World) (call : Helm.Call) (r : Run) : Ending Helm.Outcome × Run :=
  if call.hasDeadline then
    let reply := (w r.history).helm call
    (.value reply.answer, (r.note (.helmCalled call reply.answer)).interrupt reply.cancels)
  else (.standstill .noDeadline, r)

end VolumeMigration

import VolumeMigration.Duration
import VolumeMigration.ExitStatus
import VolumeMigration.Report
import VolumeMigration.Text.Bytes
import VolumeMigration.Text.Classes

/-!
# How a helm command ends

A helm process that could be started and ended in time is judged by its exit status; what
it wrote to standard error is the reason of its failure. A release that helm does not know
counts as uninstalled, but only by helm's own words for it: any other "not found", such as
that of a context, says nothing about the release.
-/

namespace VolumeMigration.Helm

/-- How a helm process ended. -/
inductive Outcome where
  /-- With this status, after writing these bytes to standard error. -/
  | ended (status : ExitStatus) (stderr : List UInt8)
  /-- It was never started. -/
  | notStarted (reason : String)
  /-- It was still running at the deadline. -/
  | overdue
  deriving DecidableEq, Repr

/-- How much longer than its own timeout a helm process may run. -/
def grace : Duration := .ofSeconds 10

/-- How long a helm process may run. The unknown part comes last, so that the sum of an unknown
timeout and the grace is not counted out when a call is unfolded. -/
def deadline (timeout : Duration) : Duration := grace + timeout

/-- Deadlines are clock values of 64 bits of seconds; one beyond that cannot be set. -/
def isRepresentable (d : Duration) : Bool := d.seconds < 1 <<< 64

/-- A text with its ASCII letters in lower case. -/
def lowerAscii (s : String) : String := s.map Char.toLower

/-- Whether a text occurs within another one. -/
def occursIn (pattern text : List Char) : Bool :=
  match text with
  | [] => pattern.isEmpty
  | c :: rest => pattern.isPrefixOf (c :: rest) || occursIn pattern rest

/-- Whether helm says that it does not know the release. -/
def isMissingRelease (reason : String) : Bool :=
  let text := (lowerAscii reason).toList
  occursIn "release: not found".toList text || occursIn "release not loaded".toList text

/-- Why a process that ended without success failed: what it wrote to standard error, or
else its status. -/
def failureReason (status : ExitStatus) (stderr : List UInt8) : String :=
  let text := Text.trim (Text.Utf8.decodeLossy stderr)
  if text.isEmpty then "helm exited with " ++ status.describe else text

namespace Outcome

/-- The reason for which a command did not succeed, if it did not. -/
def failure? (binary : String) (timeout : Duration) : Outcome → Option String
  | ended status stderr => if status.isSuccess then none else some (failureReason status stderr)
  | notStarted reason => some ("failed to run " ++ binary ++ ": " ++ reason)
  | overdue =>
    some (binary ++ " did not finish within " ++ toString timeout.seconds ++ "s")

/-- Whether the process itself reports that the release is missing. -/
def reportsMissing : Outcome → Bool
  | ended status stderr => !status.isSuccess && isMissingRelease (failureReason status stderr)
  | _ => false

end Outcome

end VolumeMigration.Helm

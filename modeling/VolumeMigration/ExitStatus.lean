/-!
# How a process ended

The status word that the system gives for a child process, and the words for it.
-/

namespace VolumeMigration

/-- How a process ended. -/
inductive ExitStatus where
  /-- By itself, with this code. -/
  | exited (code : Nat)
  /-- By a signal. -/
  | signalled (signal : Nat) (coreDumped : Bool)
  /-- Not at all: it was stopped by a signal. -/
  | stopped (signal : Nat)
  /-- Not at all: it was continued. -/
  | continued
  /-- In no way that the status word can tell. -/
  | unrecognised (word : Nat)
  deriving DecidableEq, Repr

namespace ExitStatus

/-- Reads a status word. The low seven bits hold the signal, with the two extremes for
"none" and "stopped"; bit 7 tells of a core dump and the next byte holds the code. -/
def ofWord (word : Nat) : ExitStatus :=
  let low := word % 128
  let high := word / 256 % 256
  if low = 0 then .exited high
  else if low ≠ 0x7F then .signalled low (word / 128 % 2 == 1)
  else if word % 256 = 0x7F then .stopped high
  else if word = 0xFFFF then .continued
  else .unrecognised word

/-- The status of a process that ended by itself; of the code only the low byte arrives. -/
def ofCode (code : Nat) : ExitStatus := .exited (code % 256)

/-- Whether the process ended well. -/
def isSuccess (s : ExitStatus) : Bool := s == .exited 0

/-- Names of the signals from 1 on. -/
def signalNames : List String :=
  ["SIGHUP", "SIGINT", "SIGQUIT", "SIGILL", "SIGTRAP", "SIGABRT", "SIGBUS", "SIGFPE",
    "SIGKILL", "SIGUSR1", "SIGSEGV", "SIGUSR2", "SIGPIPE", "SIGALRM", "SIGTERM",
    "SIGSTKFLT", "SIGCHLD", "SIGCONT", "SIGSTOP", "SIGTSTP", "SIGTTIN", "SIGTTOU",
    "SIGURG", "SIGXCPU", "SIGXFSZ", "SIGVTALRM", "SIGPROF", "SIGWINCH", "SIGIO",
    "SIGPWR", "SIGSYS"]

/-- A signal's number, and its name if it has one. -/
def signalText (signal : Nat) : String :=
  let name := if signal = 0 then none else signalNames[signal - 1]?
  match name with
  | some name => toString signal ++ " (" ++ name ++ ")"
  | none => toString signal

/-- The words for a status. -/
def describe : ExitStatus → String
  | exited code => "exit status: " ++ toString code
  | signalled signal core =>
    "signal: " ++ signalText signal ++ if core then " (core dumped)" else ""
  | stopped signal => "stopped (not terminated) by signal: " ++ signalText signal
  | continued => "continued (WIFCONTINUED)"
  | unrecognised word =>
    "unrecognised wait status: " ++ toString word ++ " 0x" ++
      String.ofList (Nat.toDigits 16 word)

end ExitStatus

end VolumeMigration

/-!
# Exit statuses

How a process ended: by itself, with a code, or by a signal. That it left a dump of its memory is
not told.
-/

namespace NodeCoverage.Host

/-- How a process ended. -/
inductive ExitStatus where
  | code (n : Nat)
  | signal (n : Nat)
  deriving DecidableEq, Repr

/-- The name of a signal, if it has one of its own. -/
def signalName? : Nat → Option String
  | 0 => none
  | n + 1 =>
    ["HUP", "INT", "QUIT", "ILL", "TRAP", "ABRT", "BUS", "FPE", "KILL", "USR1", "SEGV", "USR2",
      "PIPE", "ALRM", "TERM", "STKFLT", "CHLD", "CONT", "STOP", "TSTP", "TTIN", "TTOU", "URG",
      "XCPU", "XFSZ", "VTALRM", "PROF", "WINCH", "IO", "PWR", "SYS"][n]?

/-- The text of a status. -/
def ExitStatus.message : ExitStatus → String
  | .code n => s!"exit status: {n}"
  | .signal n =>
    match signalName? n with
    | some name => s!"signal: {n} (SIG{name})"
    | none => s!"signal: {n}"

end NodeCoverage.Host

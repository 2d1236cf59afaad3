/-!
# Signals

The numbers and the names of signals. Number zero stands for the end of a shell.
-/

namespace NodeCoverage.Simulator.Shell

namespace Signal

/-- Signals have numbers below this. -/
def bound : Nat := 65

/-- The names of the numbers from zero on, as far as they have names of their own. -/
def commonNames : List String :=
  ["EXIT", "HUP", "INT", "QUIT", "ILL", "TRAP", "ABRT", "BUS", "FPE", "KILL", "USR1", "SEGV",
    "USR2", "PIPE", "ALRM", "TERM", "16", "CHLD", "CONT", "STOP", "TSTP", "TTIN", "TTOU", "URG",
    "XCPU", "XFSZ", "VTALRM", "PROF", "WINCH", "IO", "PWR", "SYS", "32", "33"]

/-- The name of a number. -/
def name (n : Nat) : String :=
  match commonNames[n]? with
  | some name => name
  | none =>
    if n = 34 then "RTMIN"
    else if n < 50 then s!"RTMIN+{n - 34}"
    else if n < 64 then s!"RTMAX-{64 - n}"
    else "RTMAX"

/-- The number of a name in any case, or of digits, from `least` on. -/
def ofText? (least : Nat) (text : String) : Option Nat :=
  if !text.isEmpty && text.toList.all Char.isDigit then text.toNat?.filter (· < bound)
  else (List.range bound).find? fun n => least ≤ n && (name n).toUpper == text.toUpper

/-- What is said about a process that a signal ended. -/
def description : Nat → String
  | 1 => "Hangup"
  | 3 => "Quit"
  | 4 => "Illegal instruction"
  | 5 => "Trace/breakpoint trap"
  | 6 => "Aborted"
  | 7 => "Bus error"
  | 8 => "Floating point exception"
  | 9 => "Killed"
  | 10 => "User defined signal 1"
  | 11 => "Segmentation fault"
  | 12 => "User defined signal 2"
  | 14 => "Alarm clock"
  | 15 => "Terminated"
  | 24 => "CPU time limit exceeded"
  | 25 => "File size limit exceeded"
  | 26 => "Virtual timer expired"
  | 27 => "Profiling timer expired"
  | 29 => "I/O possible"
  | 30 => "Power failure"
  | 31 => "Bad system call"
  | n => s!"Signal {n}"

/-- The interrupt from a keyboard. -/
def interrupt : Nat := 2

/-- Writing where nobody reads. -/
def brokenPipe : Nat := 13

/-- The request to end. -/
def terminate : Nat := 15

/-- The end of a child. -/
def childEnded : Nat := 17

/-- Whether a process goes on with a signal that it does nothing about. -/
def isIgnored (n : Nat) : Bool :=
  n = 0 || [17, 18, 23, 28].contains n

/-- The signal that ends a process whatever it does about it. -/
def kill : Nat := 9

/-- The signal that stops a process whatever it does about it. -/
def stop : Nat := 19

end Signal

end NodeCoverage.Simulator.Shell

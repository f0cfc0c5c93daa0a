import Mend.Text.Decimal

/-!
# Signals

* `Signal.names` : the names of signals, in the order of their numbers;
* `Signal.number?` : the number that a name or numeral stands for;
* `Signal.isHarmless` : the signals that do nothing to a process that has not asked for them;
* `Signal.description` : what is said of a process that a signal has killed.
-/

namespace Mend.Signal

def names : List String :=
  ["HUP", "INT", "QUIT", "ILL", "TRAP", "ABRT", "BUS", "FPE", "KILL", "USR1", "SEGV", "USR2", "PIPE",
   "ALRM", "TERM", "STKFLT", "CHLD", "CONT", "STOP", "TSTP", "TTIN", "TTOU", "URG", "XCPU", "XFSZ",
   "VTALRM", "PROF", "WINCH", "IO", "PWR", "SYS"]

def name? : Nat → Option String
  | 0 => none
  | n + 1 => names[n]?

def maxNumber : Nat := 64

/-- The number that a numeral or a name stands for, in capitals or not. A signal for which scripts know
no name can only be given by its number. -/
def number? (s : String) : Option Nat :=
  match Text.Decimal.digits? s.toList with
  | some n => if n ≤ maxNumber then some n else none
  | none =>
    let name := String.ofList (s.toList.map Char.toUpper)
    if name = "STKFLT" then none else (names.findIdx? (· = name)).map (· + 1)

def isHarmless (n : Nat) : Bool := [0, 17, 18, 23, 28].contains n

/-- What is said of a process that a signal has killed; of some nothing is said. -/
def description : Nat → Option String
  | 1 => some "Hangup"
  | 3 => some "Quit"
  | 4 => some "Illegal instruction"
  | 5 => some "Trace/breakpoint trap"
  | 6 => some "Aborted"
  | 7 => some "Bus error"
  | 8 => some "Floating point exception"
  | 9 => some "Killed"
  | 10 => some "User defined signal 1"
  | 11 => some "Segmentation fault"
  | 12 => some "User defined signal 2"
  | 14 => some "Alarm clock"
  | 15 => some "Terminated"
  | 16 => some "Stack fault"
  | 24 => some "CPU time limit exceeded"
  | 25 => some "File size limit exceeded"
  | 26 => some "Virtual timer expired"
  | 27 => some "Profiling timer expired"
  | 29 => some "I/O possible"
  | 30 => some "Power failure"
  | 31 => some "Bad system call"
  | n => if 34 ≤ n then some ("Real-time signal " ++ Text.Decimal.ofNat (n - 34)) else none

end Mend.Signal

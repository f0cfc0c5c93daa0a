import Mend.Files.Tree
import Mend.Process.Signal

/-!
# Commands and their outcomes

A program is started with arguments and an empty input. It ends with a status, having written some
output, and it may have changed files.

How programs behave is a parameter of all that is done with facts, templates and targets, and every result
about them holds for any behaviour. The one that the command line tool starts with, `Programs.shell`, stands
apart: it is an outer layer, and no other part of the library depends on it.

* `ExitStatus` : how a program ended;
* `Command`, `Outcome` : what is started, and what comes of it;
* `Programs` : the behaviour of all programs, which may differ from start to start;
* `World` : the files, and how many programs have been started.
-/

namespace Mend

/-- How a program ended: with an exit code, or killed by a signal. -/
inductive ExitStatus where
  | exited (code : Nat)
  | killed (signal : Nat)
deriving DecidableEq

namespace ExitStatus

def success (s : ExitStatus) : Bool := s = .exited 0

def code? : ExitStatus → Option Nat
  | .exited n => some n
  | .killed _ => none

def text : ExitStatus → String
  | .exited n => "exit status: " ++ Text.Decimal.ofNat n
  | .killed n =>
    "signal: " ++ Text.Decimal.ofNat n ++
      match Signal.name? n with
      | some name => " (SIG" ++ name ++ ")"
      | none => ""

end ExitStatus

structure Command where
  program : String
  arguments : List String
deriving DecidableEq

/-- The program and the arguments of a command line, which has to name a program. -/
def Command.ofLine? : List String → Option Command
  | [] => none
  | program :: arguments => some ⟨program, arguments⟩

/-- Whether a command holds a character that ends a text for the system. -/
def Command.hasNul (c : Command) : Bool :=
  (c.program :: c.arguments).any (·.toList.contains '\x00')

structure Outcome where
  status : ExitStatus
  output : ByteArray
  complaint : ByteArray

/-- How programs behave: what the start with a given number makes of a command and the files. -/
structure Programs where
  run : Nat → Command → FileTree → Except FileError Outcome × FileTree

/-- The files, and how many programs have been started. -/
structure World where
  files : FileTree
  started : Nat

def World.run (w : World) (programs : Programs) (c : Command) : Except FileError Outcome × World :=
  let (result, files) := programs.run w.started c w.files
  (result, ⟨files, w.started + 1⟩)

end Mend

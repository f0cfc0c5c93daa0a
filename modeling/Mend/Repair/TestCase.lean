import Mend.Text.Blank
import Mend.Text.Decimal
import Mend.Text.Quoted

/-!
# Test cases

A test case runs the built program with one argument and compares its exit code. On the command
line it is written `INPUT=CODE`; the last `=` divides the two, so that an input may hold others.

* `TestCase.parse` : the reader of that form.
-/

namespace Mend

/-- One run of the built program and the exit code it must have. -/
structure TestCase where
  input : String
  expectedExit : Int
deriving DecidableEq

/-- Why a text is no test case. -/
inductive TestCaseError where
  | noSeparator (text : String)
  | badCode (code : String)
deriving DecidableEq

namespace TestCaseError

def message : TestCaseError → String
  | .noSeparator text => "expected INPUT=EXIT_CODE, got " ++ Text.quote text
  | .badCode code => "exit code must be an integer, got " ++ Text.quote code

end TestCaseError

namespace TestCase

/-- The parts before and after the last `=`. -/
def cut? (cs : List Char) : Option (List Char × List Char) :=
  match cs with
  | [] => none
  | c :: cs =>
    match cut? cs with
    | some (before, after) => some (c :: before, after)
    | none => if c = '=' then some ([], cs) else none

/-- The exit code a text stands for: an integer of 32 bits, blanks around it. -/
def code? (cs : List Char) : Option Int :=
  match Text.Decimal.integer? (Text.trimChars cs) with
  | some n => if -2147483648 ≤ n ∧ n ≤ 2147483647 then some n else none
  | none => none

/-- Reads `INPUT=CODE`. -/
def parse (s : String) : Except TestCaseError TestCase :=
  match cut? s.toList with
  | none => .error (.noSeparator s)
  | some (input, code) =>
    match code? code with
    | none => .error (.badCode (String.ofList code))
    | some n => .ok ⟨String.ofList input, n⟩

/-- The test case with its field names, as listings show it. -/
def text (t : TestCase) : String :=
  "TestCase \x7b input: " ++ Text.quote t.input ++ ", expected_exit: " ++
    Text.Decimal.ofInt t.expectedExit ++ " \x7d"

end TestCase

end Mend

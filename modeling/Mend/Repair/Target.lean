import Mend.Facts.Exporter
import Mend.Repair.Error
import Mend.Repair.TestCase

/-!
# The program under repair

How to build it and how to tell whether it works.

* `Locator` : where candidates are tried;
* `Target` : a source file with its build command and its tests;
* `Target.build`, `Target.runTests`, `Target.trial` : one build and the tests behind it;
* `Task` : what reads and changes the world and may fail.
-/

namespace Mend.Repair

/-- A step that reads and changes the world and may fail; what it has changed stays. -/
abbrev Task := ExceptT Error (StateM World)

/-- Where candidates are tried: at one point, or at the start of every statement. -/
inductive Locator where
  | point (c : Coordinate)
  | statements
deriving DecidableEq

/-- A list without the members that equal the one before them. -/
def dropRepeats {α : Type} [DecidableEq α] : List α → List α
  | [] => []
  | [a] => [a]
  | a :: b :: rest => if a = b then dropRepeats (b :: rest) else a :: dropRepeats (b :: rest)

/-- The locations of a locator in a file, in source order. -/
def Locator.locations (l : Locator) (store : Store) (file : Path) : List Location :=
  match l with
  | .point c => [⟨file, c⟩]
  | .statements =>
    dropRepeats ((store.statements file.moduleName).map fun s => ⟨file, s.span.start⟩)

/-- A source file to repair, with its build command and its tests. -/
structure Target where
  file : Path
  isCxx : Bool
  tests : List TestCase
  build : List String
  executable : Path
  locator : Locator

structure TestReport where
  passed : Nat
  failed : Nat
deriving DecidableEq

def TestReport.allPassed (r : TestReport) : Bool := r.failed = 0

/-- What came of a candidate. -/
inductive TrialOutcome where
  | passed
  | buildFailed
  | testsFailed (failed : Nat)
deriving DecidableEq

def TrialOutcome.text : TrialOutcome → String
  | .passed => "passed"
  | .buildFailed => "build failed"
  | .testsFailed n => Text.Decimal.ofNat n ++ " test(s) failed"

namespace Target

def create (files : FileTree) (file executable : Path) (build : List String) (tests : List TestCase)
    (locator : Locator) : Except Error Target :=
  if files.contains file then .ok ⟨file, Mend.isCxx file, tests, build, executable, locator⟩
  else .error (.facts (.fileNotFound file))

/-- The structure of a target, as listings show it. -/
def outline (t : Target) : String :=
  "Target \x7b file: " ++ Text.quote t.file.text ++ ", is_cxx: " ++ (if t.isCxx then "true" else "false")
    ++ ", tests: [" ++ ", ".intercalate (t.tests.map TestCase.text) ++ "], build_command: "
    ++ Text.quoteList t.build ++ ", executable: " ++ Text.quote t.executable.text ++ ", .. \x7d"

def start (programs : Programs) (c : Command) : Task Outcome := do
  let w ← get
  let (result, w) := w.run programs c
  set w
  match result with
  | .ok outcome => return outcome
  | .error e => throw (.file e)

/-- Runs the build command; the result says whether it succeeded. -/
def runBuild (programs : Programs) (t : Target) : Task Bool := do
  match Command.ofLine? t.build with
  | none => throw (.input .emptyBuild)
  | some c => return (← start programs c).status.success

/-- Whether a program that ended in this way passes a test. -/
def passes (case : TestCase) (status : ExitStatus) : Bool :=
  match status.code? with
  | some n => (n : Int) = case.expectedExit
  | none => false

def runCases (programs : Programs) (executable : Path) : List TestCase → Task TestReport
  | [] => return ⟨0, 0⟩
  | case :: rest => do
    let outcome ← start programs ⟨executable.text, [case.input]⟩
    let report ← runCases programs executable rest
    return if passes case outcome.status then { report with passed := report.passed + 1 }
      else { report with failed := report.failed + 1 }

def runTests (programs : Programs) (t : Target) : Task TestReport :=
  runCases programs t.executable t.tests

/-- Builds, then tests if the build succeeded. -/
def trial (programs : Programs) (t : Target) : Task TrialOutcome := do
  if ← t.runBuild programs then
    let report ← t.runTests programs
    return if report.allPassed then .passed else .testsFailed report.failed
  else return .buildFailed

end Target

end Mend.Repair

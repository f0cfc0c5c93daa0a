import Mend.CommandLine.Request
import Mend.Repair.Engine
import Mend.Text.Lines

/-!
# Answering requests

* `Report` : exit code, output and complaint of a run;
* `withEngine` : a step on the engine of a project;
* `Invocation.answer` : what a request does and says;
* `run` : the whole program, on words, surroundings and a world.
-/

namespace Mend.CommandLine

open Repair (Job Engine Target)

/-- What a run leaves behind: its exit code, what it prints, and what it prints as a complaint. -/
structure Report where
  code : Nat
  output : String
  complaint : String
deriving DecidableEq

def Report.success (output : String) : Report := ⟨0, output, ""⟩

def Report.failure (complaint : String) : Report := ⟨1, "", complaint ++ "\n"⟩

/-! ## Texts -/

def versionText : String := "tourniquet 0.1.0\n"

def usageText : String :=
  "Automated program repair for C and C++\n\n" ++
  "Usage: tourniquet [OPTIONS] <COMMAND>\n\n" ++
  "Commands:\n" ++
  "  collect FILE [--cxx]\n" ++
  "  templates\n" ++
  "  view TEMPLATE FILE LINE COL\n" ++
  "  concretize TEMPLATE FILE LINE COL [--limit N]\n" ++
  "  patch TEMPLATE FILE --exe EXE [--line N --col N] [--build CMD] [--test INPUT=CODE]...\n" ++
  "  help [COMMAND]\n\n" ++
  "Options:\n" ++
  "  --root DIR   project root [default: .]\n" ++
  "  --db FILE    fact database\n" ++
  "  -v, --verbose\n" ++
  "  -h, --help\n" ++
  "  -V, --version\n"

/-- The report of a command line that gives no request. -/
def Stop.report : Stop → Report
  | .usage => ⟨2, "", usageText⟩
  | .help => .success usageText
  | .version => .success versionText

def statsLine (file : Path) (s : CollectStats) : String :=
  let n := Text.Decimal.ofNat
  file.text ++ ": " ++ n s.functions ++ " function(s) (" ++ n s.skippedFunctions ++ " skipped), " ++
    n s.globals ++ " global(s), " ++ n s.statements ++ " statement(s), " ++ n s.calls ++
    " call(s), " ++ n s.vars ++ " variable(s)\n"

/-- A template with its name in front, its lines indented. -/
def listed (name view : String) : String :=
  name ++ ":\n" ++ String.join ((Text.lines view).map fun line => "    " ++ line ++ "\n")

/-- Candidates with their numbers, counted from `n + 1`. -/
def numbered (n : Nat) : List String → String
  | [] => ""
  | c :: rest =>
    "// candidate " ++ Text.Decimal.ofNat (n + 1) ++ "\n" ++ c ++ "\n" ++ numbered (n + 1) rest

/-! ## Steps -/

/-- A step on a fresh engine of a project: its store, its exporter and the built-in templates. -/
def withEngine {α : Type} (database : Path) (config : Config) (job : Job α) : Repair.Task α := do
  let w ← get
  match Engine.openAt database config.exporter config.maxCandidates w.files with
  | .error e => throw e
  | .ok (engine, files) =>
    let (engine, registered) := engine.registerBuiltins
    set { w with files }
    match registered with
    | .error e => throw (.registry e)
    | .ok () =>
      let (result, bench) := job.run ⟨engine, { w with files }⟩
      set bench.world
      match result with
      | .ok a => return a
      | .error e => throw e

/-- The result of a step that changes nothing. -/
def ofExcept {α : Type} : Except Repair.Error α → Job α
  | .ok a => return a
  | .error e => throw e

/-- The views of the built-in templates, without facts. -/
def templateList : Except Repair.Error String := do
  let nowhere : Patch.Situation Id := ⟨FactSource.none, ⟨⟨""⟩, ⟨0, 0⟩⟩⟩
  let views ← Patch.builtins.mapM fun (name, t) => do
    let view ← (Id.run (t.view nowhere)).mapError Repair.Error.unresolved
    return listed name view
  return String.join views

/-- The build command of a patch: the one of the command line, cut at blanks, else the one of the
configuration. There has to be one. -/
def buildCommand (config : Config) (build : Option String) : Except Repair.Error (List String) :=
  let command := match build with
    | some line => Text.words line
    | none => config.buildCommand.getD []
  if command.isEmpty then .error (.config "no build command: pass --build or set [build] command")
  else .ok command

def Invocation.answer (programs : Programs) (env : Environment) (i : Invocation) : Repair.Task Report := do
  match Config.load env i.root (← get).files with
  | .error e => throw e
  | .ok config =>
    let database := i.databasePath config env
    match i.request with
    | .collect file cxx =>
      let stats ← withEngine database config
        (Engine.collectInfo programs file (cxx || isCxx file))
      return .success (statsLine file stats)
    | .templates =>
      match templateList with
      | .ok text => return .success text
      | .error e => throw e
    | .view template l =>
      return .success (← withEngine database config do ofExcept ((← get).engine.view template l))
    | .concretize template l limit =>
      let choice ← withEngine database config do ofExcept ((← get).engine.concretize template l)
      let candidates := match limit with
        | some n => choice.stream.take n
        | none => choice.stream.toList
      return .success (numbered 0 candidates)
    | .patch template file executable build tests locator =>
      match buildCommand config build with
      | .error e => throw e
      | .ok command =>
        let found ← withEngine database config do
          let target ← ofExcept
            (Target.create (← get).world.files file executable command tests locator)
          Engine.autoPatch programs template target
        match found with
        | some candidate => return .success (candidate ++ "\n")
        | none => return .failure "no candidate passed the tests"

/-- The whole program: what comes of a command line. -/
def run (programs : Programs) (env : Environment) (words : List String) (w : World) :
    Report × World :=
  match Invocation.parse words with
  | .error stop => (stop.report, w)
  | .ok i =>
    match (i.answer programs env).run w with
    | (.ok report, w) => (report, w)
    | (.error e, w) => (.failure ("error: " ++ e.message), w)

end Mend.CommandLine

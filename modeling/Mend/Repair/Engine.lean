import Mend.Facts.Database
import Mend.Repair.Backup
import Mend.Repair.Target

/-!
# The repair engine

An engine owns a fact store, an exporter and templates. It collects the facts of a source file and
searches the candidates of a template for one with which the program builds and passes its tests.

* `Engine` : the parts; `Bench` : an engine and the world it works in;
* `Job` : a step on a bench that may fail;
* `Engine.collectInfo` : extracts and stores the facts of a file;
* `Engine.transform` : replaces the statement at a location in its file;
* `Engine.trial` : one candidate, with the file put back behind it;
* `Engine.autoPatch` : the search.
-/

namespace Mend.Repair

/-- A fact store with its file, an exporter, templates, and a bound on the candidates of a location. -/
structure Engine where
  store : Store
  database : Option Path
  exporter : Exporter
  templates : Patch.Registry
  maxCandidates : Option Nat

/-- An engine and the world it works in. -/
structure Bench where
  engine : Engine
  world : World

/-- A step on a bench that may fail; what it has changed stays. -/
abbrev Job := ExceptT Error (StateM Bench)

/-- A step on the world as a step on a bench. -/
def Task.onBench {α : Type} (t : Task α) : Job α := do
  let b ← get
  let (result, world) := t.run b.world
  set { b with world }
  match result with
  | .ok a => return a
  | .error e => throw e

namespace Engine

/-- An engine without facts and templates, with its store in memory. -/
def inMemory (exporter : Exporter) (maxCandidates : Option Nat) : Engine :=
  ⟨.empty, none, exporter, .empty, maxCandidates⟩

def openAt (path : Path) (exporter : Exporter) (maxCandidates : Option Nat) (files : FileTree) :
    Except Error (Engine × FileTree) := do
  let (store, files) ← (Store.openFile path files).mapError .facts
  return (⟨store, some path, exporter, .empty, maxCandidates⟩, files)

def registerTemplate (e : Engine) (name : String) (t : Patch.Template) :
    Engine × Except Patch.RegistryError Unit :=
  match e.templates.register name t with
  | .ok templates => ({ e with templates }, .ok ())
  | .error err => (e, .error err)

/-- Registers the built-in templates in order, up to the first one whose name is taken. -/
def registerBuiltins (e : Engine) : Engine × Except Patch.RegistryError Unit :=
  let (templates, result) := Patch.Registry.registerAll Patch.builtins e.templates
  ({ e with templates }, result)

/-- Where a template is resolved: the facts of the store, at a location. -/
def situation (e : Engine) (l : Location) : Patch.Situation Id := ⟨e.store.source, l⟩

def concretize (e : Engine) (name : String) (l : Location) : Except Error Patch.Choice := do
  let t ← (e.templates.get name).mapError .registry
  (Id.run (t.concretize (e.situation l))).mapError .unresolved

/-- A template at a location, with its holes named. -/
def view (e : Engine) (name : String) (l : Location) : Except Error String := do
  let t ← (e.templates.get name).mapError .registry
  (Id.run (t.view (e.situation l))).mapError .unresolved

def replaceInFile (file : Path) (replacement : String) (span : Span) (files : FileTree) :
    Except Error FileTree := do
  let content ← (files.readText file).mapError .file
  let patched ← (Source.splice content replacement span).mapError fun e => .input (.badSpan e)
  (files.write file patched.toUTF8).mapError .file

def transform (store : Store) (l : Location) (replacement : String) (files : FileTree) :
    Except Error FileTree :=
  match store.statementAt l with
  | none => .error (.nothingToPatch l)
  | some s => replaceInFile l.file replacement s.span files

/-- Extracts and stores the facts of a file. -/
def collectInfo (programs : Programs) (p : Path) (cxx : Bool) : Job CollectStats := do
  let b ← get
  match validateSource b.world.files p with
  | .error e => throw (.facts e)
  | .ok () =>
    let (result, world) := b.engine.exporter.extract programs p cxx b.world
    set { b with world }
    match result with
    | .error e => throw (.facts e)
    | .ok facts =>
      match b.engine.store.ingest facts with
      | (.error e, store) =>
        set { b with world, engine := { b.engine with store } : Bench }
        throw (.facts e)
      | (.ok stats, store) =>
        let world ← match b.engine.database with
          | none => pure world
          | some path =>
            match store.saveFile path world.files with
            | .ok files => pure { world with files }
            | .error e => throw (.facts e)
        set { b with world, engine := { b.engine with store } : Bench }
        return stats

/-- Puts a candidate in place, builds and tests. -/
def attempt (programs : Programs) (store : Store) (target : Target) (l : Location) (candidate : String) :
    Task TrialOutcome := do
  let w ← get
  match transform store l candidate w.files with
  | .error e => throw e
  | .ok files =>
    set { w with files }
    target.trial programs

/-- Attempts a candidate, and puts the file back whatever happens. -/
def trial (programs : Programs) (store : Store) (target : Target) (l : Location) (candidate : String) :
    Task TrialOutcome := do
  let w ← get
  match Backup.take target.file w.files with
  | .error e => throw e
  | .ok (backup, files) =>
    set { w with files }
    let result ← (ExceptT.lift (attempt programs store target l candidate).run : Task (Except Error TrialOutcome))
    modify fun w => { w with files := backup.drop w.files }
    match result with
    | .ok outcome => return outcome
    | .error e => throw e

/-- Tries candidates in order, at most `limit` of them, up to the first one that passes. -/
def tryCandidates (programs : Programs) (store : Store) (target : Target) (l : Location) :
    Option Nat → Patch.Candidates → Task (Option String)
  | some 0, _ => return none
  | _, .done => return none
  | limit, .next candidate rest => do
    match ← trial programs store target l candidate with
    | .passed => return some candidate
    | _ => tryCandidates programs store target l (limit.map (· - 1)) (rest ())

/-- Tries a template at locations in order, up to the first candidate that passes. -/
def tryLocations (programs : Programs) (store : Store) (target : Target) (t : Patch.Template)
    (limit : Option Nat) : List Location → Task (Option String)
  | [] => return none
  | l :: rest => do
    if !t.appliesAt l.point then tryLocations programs store target t limit rest
    else
      match Id.run (t.concretize ⟨store.source, l⟩) with
      | .error e => throw (.unresolved e)
      | .ok choice =>
        match ← tryCandidates programs store target l limit choice.stream with
        | some candidate => return some candidate
        | none => tryLocations programs store target t limit rest

/-- Searches for a candidate of a template with which a target builds and passes its tests. -/
def autoPatch (programs : Programs) (name : String) (target : Target) : Job (Option String) := do
  match (← get).engine.templates.get name with
  | .error e => throw (.registry e)
  | .ok t =>
    let _ ← collectInfo programs target.file target.isCxx
    let e := (← get).engine
    let locations := target.locator.locations e.store target.file
    (tryLocations programs e.store target t e.maxCandidates locations).onBench

end Engine

end Mend.Repair

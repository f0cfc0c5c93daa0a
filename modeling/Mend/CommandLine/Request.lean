import Mend.CommandLine.Grammar
import Mend.Config
import Mend.Repair.Target

/-!
# Requests

What the program can be asked for on its command line. Options that concern every command may stand in
front of the command or behind it; behind it they win.

* `Request` : the commands with what belongs to them;
* `Invocation` : a request, the project it concerns and the database it names;
* `Draft` : what a command line has said so far;
* `Invocation.parse` : the invocation of a command line;
* `Invocation.databasePath` : the database an invocation works on.
-/

namespace Mend.CommandLine

/-- What the program is asked to do. -/
inductive Request where
  | collect (file : Path) (cxx : Bool)
  | templates
  | view (template : String) (location : Location)
  | concretize (template : String) (location : Location) (limit : Option Nat)
  | patch (template : String) (file executable : Path) (build : Option String)
      (tests : List TestCase) (locator : Repair.Locator)

/-- A request with the project root it concerns and the database it names. -/
structure Invocation where
  root : Path
  database : Option Path
  request : Request

/-- The database an invocation works on: the one it names, else the one that environment and
configuration lead to. -/
def Invocation.databasePath (i : Invocation) (config : Config) (env : Environment) : Path :=
  i.database.getD (config.databasePath env i.root)

/-! ## Drafts -/

/-- The options that concern every command. -/
structure Common where
  root : Option Path := none
  database : Option Path := none

/-- What has been said about a command. -/
structure Draft where
  common : Common := {}
  template : Option String := none
  file : Option Path := none
  line : Option Nat := none
  column : Option Nat := none
  cxx : Bool := false
  limit : Option Nat := none
  executable : Option Path := none
  build : Option String := none
  tests : List TestCase := []

/-- Sets what has not been set yet. -/
def once {α σ : Type} (get : σ → Option α) (put : α → σ → σ) (read : String → Option α)
    (word : String) (d : σ) : Option σ :=
  match get d with
  | some _ => none
  | none => (read word).map fun a => put a d

/-- A path, which has to be spelled with at least one character. -/
def path? (word : String) : Option Path :=
  if word.isEmpty then none else some ⟨word⟩

/-- A line or a column: a number of 32 bits, with a sign if one is written. -/
def coordinate? (word : String) : Option Nat :=
  match Text.Decimal.integer? word.toList with
  | some (.ofNat n) => if n < 4294967296 then some n else none
  | _ => none

/-- A number of candidates: a number of 64 bits. -/
def limit? (word : String) : Option Nat :=
  (Text.Decimal.natural? word.toList).filter (· < 18446744073709551616)

/-! ## Options -/

/-- The options that concern every command, on a draft that holds them. -/
def commonSwitches {σ : Type} (get : σ → Common) (put : Common → σ → σ) : List (Switch σ) :=
  let setRoot := once (fun d => (get d).root) (fun p d => put { get d with root := some p } d) path?
  let setDatabase :=
    once (fun d => (get d).database) (fun p d => put { get d with database := some p } d) path?
  [⟨"root", none, .value setRoot⟩, ⟨"verbose", some 'v', .flag some⟩,
   ⟨"db", none, .value setDatabase⟩, ⟨"help", some 'h', .stop .help⟩]

def commandNames : List String := ["collect", "templates", "view", "concretize", "patch", "help"]

def outer : Grammar Common where
  switches := commonSwitches id (fun c _ => c) ++ [⟨"version", some 'V', .stop .version⟩]
  arguments := []
  commands := commandNames

namespace Draft

def setTemplate : String → Draft → Option Draft :=
  once (·.template) (fun t d => { d with template := some t }) some

def setFile : String → Draft → Option Draft :=
  once (·.file) (fun p d => { d with file := some p }) path?

def setLine : String → Draft → Option Draft :=
  once (·.line) (fun n d => { d with line := some n }) coordinate?

def setColumn : String → Draft → Option Draft :=
  once (·.column) (fun n d => { d with column := some n }) coordinate?

/-- The option that asks for C++; it stands at most once. -/
def setCxx (d : Draft) : Option Draft :=
  if d.cxx then none else some { d with cxx := true }

def addTest (word : String) (d : Draft) : Option Draft :=
  match TestCase.parse word with
  | .ok t => some { d with tests := d.tests ++ [t] }
  | .error _ => none

def location? (d : Draft) : Option Location := do
  return ⟨← d.file, ⟨← d.line, ← d.column⟩⟩

/-- Where a patch is tried: line and column stand together or not at all. -/
def locator? (d : Draft) : Option Repair.Locator :=
  match d.line, d.column with
  | some line, some column => some (.point ⟨line, column⟩)
  | none, none => some .statements
  | _, _ => none

end Draft

/-- What may stand behind a command. -/
def inner (switches : List (Switch Draft)) (arguments : List (String → Draft → Option Draft)) :
    Grammar Draft where
  switches := switches ++ commonSwitches (·.common) (fun c d => { d with common := c })
  arguments := arguments
  commands := []

/-! ## Commands -/

/-- A command: what may stand behind it, and the request that a complete draft makes. -/
structure Shape where
  grammar : Grammar Draft
  request? : Draft → Option Request

def collectShape : Shape where
  grammar := inner [⟨"cxx", none, .flag Draft.setCxx⟩] [Draft.setFile]
  request? d := do return .collect (← d.file) d.cxx

def templatesShape : Shape where
  grammar := inner [] []
  request? _ := some .templates

def viewShape : Shape where
  grammar := inner [] [Draft.setTemplate, Draft.setFile, Draft.setLine, Draft.setColumn]
  request? d := do return .view (← d.template) (← d.location?)

def concretizeShape : Shape where
  grammar := inner
    [⟨"limit", some 'l', .value (once (·.limit) (fun n d => { d with limit := some n }) limit?)⟩]
    [Draft.setTemplate, Draft.setFile, Draft.setLine, Draft.setColumn]
  request? d := do return .concretize (← d.template) (← d.location?) d.limit

def patchShape : Shape where
  grammar := inner
    [⟨"line", none, .value Draft.setLine⟩, ⟨"col", none, .value Draft.setColumn⟩,
     ⟨"exe", none,
       .value (once (·.executable) (fun p d => { d with executable := some p }) path?)⟩,
     ⟨"build", none, .value (once (·.build) (fun s d => { d with build := some s }) some)⟩,
     ⟨"test", none, .value Draft.addTest⟩]
    [Draft.setTemplate, Draft.setFile]
  request? d := do
    return .patch (← d.template) (← d.file) (← d.executable) d.build d.tests (← d.locator?)

def shape? : String → Option Shape
  | "collect" => some collectShape
  | "templates" => some templatesShape
  | "view" => some viewShape
  | "concretize" => some concretizeShape
  | "patch" => some patchShape
  | _ => none

/-- The words behind `help`: nothing, or the name of one command. -/
def helpStop : List String → Stop
  | [] => .help
  | [name] => if commandNames.contains name then .help else .usage
  | _ => .usage

namespace Invocation

def defaultRoot : Path := ⟨"."⟩

def parse (words : List String) : Except Stop Invocation := do
  match ← outer.read {} words with
  | (_, none) => throw .usage
  | (front, some (name, rest)) =>
    match shape? name with
    | none => throw (helpStop rest)
    | some shape =>
      let (draft, _) ← shape.grammar.read {} rest
      match shape.request? draft with
      | none => throw .usage
      | some request =>
        let back := draft.common
        return ⟨(back.root.or front.root).getD defaultRoot, back.database.or front.database, request⟩

end Invocation

end Mend.CommandLine

import Mend.Facts.Error

/-!
# Exporters

Facts come from outside: from a program that prints them, or from a file next to the source that was
written ahead of time.

* `isCxx` : whether a source file is C++ by its extension;
* `sidecarPath` : where facts exported ahead of time lie;
* `Exporter.extract` : the facts of a source file, under the name of the module that its path gives.
-/

namespace Mend

def cxxExtensions : List String := ["cc", "cpp", "cxx", "c++", "hh", "hpp", "hxx"]

/-- Whether a source file is C++ by its extension, in any case of letters. -/
def isCxx (p : Path) : Bool :=
  match p.extension? with
  | some e => cxxExtensions.contains (String.ofList (e.toList.map Char.toLower))
  | none => false

/-- Where the facts of a source file lie that were exported ahead of time. -/
def sidecarPath (p : Path) : Path := p.extend ".facts.json"

/-- Where facts come from. -/
inductive Exporter where
  | sidecar
  | command (c : Command)
deriving DecidableEq

def validateSource (files : FileTree) (p : Path) : Except FactError Unit :=
  if !files.contains p then .error (.fileNotFound p)
  else if !files.isFile p then .error (.notAFile p)
  else .ok ()

/-- The structure of a command, as listings show it. -/
def Command.outline (c : Command) : String :=
  "CommandExtractor \x7b program: " ++ Text.quote c.program ++ ", args: " ++
    Text.quoteList c.arguments ++ " \x7d"

def FileTree.readText (files : FileTree) (p : Path) : Except FileError String := do
  match Text.Utf8.text? (← files.read p) with
  | some text => .ok text
  | none => .error .notText

/-- An export under the name of the module in the file at `p`. -/
def Export.rebind (e : Export) (p : Path) : Export := { e with moduleName := p.moduleName }

namespace Exporter

def readSidecar (files : FileTree) (p : Path) : Except FactError Export := do
  let sidecar := sidecarPath p
  if !files.isFile sidecar then throw (.exporter (.noSidecar sidecar))
  let text ← (files.readText sidecar).mapError .file
  let e ← (Export.parse (.ofString text)).mapError .decode
  return e.rebind p

def invocation (c : Command) (p : Path) (cxx : Bool) : Command :=
  { c with arguments := c.arguments ++ (if cxx then ["--cxx"] else []) ++ [p.text] }

def readOutcome (program : String) (p : Path) (result : Except FileError Outcome) :
    Except FactError Export := do
  match result with
  | .error e => throw (.exporter (.notStarted program e))
  | .ok outcome =>
    if !outcome.status.success then
      throw (.exporter (.failed program outcome.status (Text.trim (Text.Utf8.lossy outcome.complaint))))
    let e ← (Export.parse (.ofBytes outcome.output)).mapError .decode
    return e.rebind p

/-- The facts of the source file at `p`. -/
def extract (x : Exporter) (programs : Programs) (p : Path) (cxx : Bool) (w : World) :
    Except FactError Export × World :=
  match validateSource w.files p with
  | .error e => (.error e, w)
  | .ok () =>
    match x with
    | .sidecar => (readSidecar w.files p, w)
    | .command c =>
      let (result, w) := w.run programs (invocation c p cxx)
      (readOutcome c.program p result, w)

end Exporter

end Mend

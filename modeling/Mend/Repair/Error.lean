import Mend.Patch.Template
import Mend.Source.Splice

/-!
# What stops a repair

A candidate that does not build or fails its tests is no error; it is only ruled out.

* `InputError` : what the tool itself refuses;
* `Error` : everything that stops a repair, with its message.
-/

namespace Mend.Repair

/-- What the tool refuses before it does anything. -/
inductive InputError where
  | badSpan (e : Source.SpliceError)
  | noFileName (path : Path)
  | emptyBuild
deriving DecidableEq

def InputError.message : InputError → String
  | .badSpan e => e.message
  | .noFileName path => path.text ++ " has no file name"
  | .emptyBuild => "empty build command"

/-- What stops a repair. -/
inductive Error where
  | registry (e : Patch.RegistryError)
  | nothingToPatch (location : Location)
  | unresolved (e : Patch.Unresolved)
  | facts (e : FactError)
  | file (e : FileError)
  | input (e : InputError)
  | config (text : String)
deriving DecidableEq

def Error.message : Error → String
  | .registry e => e.message
  | .nothingToPatch l => "no statement to patch at " ++ l.text
  | .unresolved e => e.message
  | .facts e => e.message
  | .file e => "I/O error: " ++ e.text
  | .input e => "I/O error: " ++ e.message
  | .config text => "config error: " ++ text

end Mend.Repair

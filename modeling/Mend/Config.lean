import Mend.Environment
import Mend.Facts.Exporter
import Mend.Repair.Error
import Mend.Toml.Document

/-!
# Configuration

Settings come from two files in TOML: one of the user, one of the project. A setting of the project
wins over one of the user, and a missing file sets nothing.

* `Config` : the settings; `Config.merge` : one configuration on top of another;
* `Config.ofToml?` : the settings of a document;
* `Config.load` : the settings of a project;
* `Config.databasePath` : where the facts of a project are kept.
-/

namespace Mend

/-- What can be set; every setting may be left open. -/
structure Config where
  exporterCommand : Option (List String) := none
  database : Option Path := none
  buildCommand : Option (List String) := none
  maxCandidates : Option Nat := none
deriving DecidableEq

namespace Config

def projectDirectory : Path := ⟨".tourniquet"⟩

def fileName : Path := ⟨"config.toml"⟩

/-- The settings of `c`, except where `other` has one of its own. -/
def merge (c other : Config) : Config where
  exporterCommand := other.exporterCommand.or c.exporterCommand
  database := other.database.or c.database
  buildCommand := other.buildCommand.or c.buildCommand
  maxCandidates := other.maxCandidates.or c.maxCandidates

/-! ## Settings in a document -/

def text? : Toml.Value → Option String
  | .string s => some s
  | _ => none

def texts? : Toml.Value → Option (List String)
  | .array items => items.mapM text?
  | _ => none

def natural? : Toml.Value → Option Nat
  | .integer (.ofNat n) => some n
  | _ => none

/-- The one setting of a section: open, set, or wrong. A section is a table that holds the setting
under its key, or an array that starts with it. A time in place of a section sets nothing. -/
def setting? {α : Type} (es : Toml.Entries) (name key : String) (read : Toml.Value → Option α) :
    Option (Option α) :=
  match es.get? name with
  | none | some (.time _) | some (.array []) => some none
  | some (.array (v :: _)) => (read v).map some
  | some (.table _ inner) =>
    match Toml.Entries.get? inner key with
    | none => some none
    | some v => (read v).map some
  | some _ => none

/-- The settings of a document; keys that mean nothing here are passed over. -/
def ofToml? (es : Toml.Entries) : Option Config := do
  return {
    exporterCommand := ← setting? es "extractor" "command" texts?
    database := (← setting? es "database" "path" text?).map Path.mk
    buildCommand := ← setting? es "build" "command" texts?
    maxCandidates := ← setting? es "search" "max_candidates" natural? }

/-! ## Files -/

/-- The settings of a file; there are none to load if it is no file. -/
def loadFile (files : FileTree) (p : Path) : Except Repair.Error (Option Config) := do
  if !files.isFile p then return none
  let text ← (files.readText p).mapError .file
  match Toml.Document.ofString? text >>= ofToml? with
  | some c => return some c
  | none => throw (.config (p.text ++ ": TOML parse error"))

/-- Puts the settings of a file on top of others. -/
def mergeFile (files : FileTree) (c : Config) (p : Path) : Except Repair.Error Config := do
  return (← loadFile files p).elim c c.merge

def userPath? (env : Environment) : Option Path := do
  let directory ← env.configHome.or (env.home.map (·.join ⟨".config"⟩))
  return (directory.join ⟨"tourniquet"⟩).join fileName

/-- The configuration file of a project. -/
def projectPath (root : Path) : Path :=
  (root.join projectDirectory).join fileName

/-- The settings for the project at `root`. -/
def load (env : Environment) (root : Path) (files : FileTree) : Except Repair.Error Config := do
  let user ← match userPath? env with
    | some p => mergeFile files {} p
    | none => pure {}
  mergeFile files user (projectPath root)

/-! ## The database -/

/-- A path with the home directory in place of a leading `~`. -/
def expandHome (env : Environment) (p : Path) : Path :=
  match env.home, p.below? "~" with
  | some home, some rest => home.join rest
  | _, _ => p

/-- The database that the environment or the configuration names, in this order. An empty name in the
environment counts for nothing. -/
def namedDatabase? (c : Config) (env : Environment) : Option Path :=
  (env.database.filter fun p => !p.text.isEmpty).or c.database

/-- Where the facts of the project at `root` are kept. -/
def databasePath (c : Config) (env : Environment) (root : Path) : Path :=
  match c.namedDatabase? env with
  | some p => root.join (expandHome env p)
  | none => (root.join projectDirectory).join ⟨"facts.sqlite"⟩

/-- The exporter of a configuration: its command, unless that is open or empty. -/
def exporter (c : Config) : Exporter :=
  match c.exporterCommand.bind Command.ofLine? with
  | some command => .command command
  | none => .sidecar

end Config

end Mend

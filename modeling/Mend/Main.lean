import Mend.CommandLine.Run
import Mend.Process.Shell

/-!
# The program

The working directory and the user's configuration file are read into a file tree, the command line is
answered there, and what has changed below the working directory is written back. Programs that a run
starts are those of `Programs.shell`.

* `Disk.load`, `Disk.store` : between the disk and a file tree;
* `main` : the program.
-/

namespace Mend.Disk

def place (path : String) : Place :=
  (path.splitOn "/").filter fun name => !name.isEmpty

def spelling (p : Place) : String :=
  "/" ++ "/".intercalate p

/-- A tree with a file, and the directories that lead to it. -/
def putBelow (t : FileTree) (p : Place) (entry : Entry) : FileTree :=
  let above := (List.range p.length).foldl (fun t n =>
    if (t.get? (p.take n)).isNone then t.putDirectory (p.take n) else t) t
  above.plant p entry

/-- The working directory with everything below it. -/
def load : IO FileTree := do
  let here ← IO.currentDir
  let root := place here.toString
  let empty : FileTree := ⟨[(nullPlace, .device)], root, by simp⟩
  let mut tree := putBelow empty root .directory
  for path in ← here.walkDir do
    if ← path.isDir then tree := putBelow tree (place path.toString) .directory
    else tree := putBelow tree (place path.toString) (.file (← IO.FS.readBinFile path) false)
  return tree

/-- A tree with one more file of the disk, if it is there. -/
def loadFile (t : FileTree) (p : Path) : IO FileTree := do
  try
    let content ← IO.FS.readBinFile p.text
    match t.resolve p with
    | .ok there => return putBelow t there (.file content false)
    | .error _ => return putBelow t (place p.text) (.file content false)
  catch _ => return t

/-- Writes back what differs below the working directory. -/
def store (old new : FileTree) : IO Unit := do
  let below (p : Place) : Bool := old.workingDirectory.isPrefixOf p
  for (p, entry) in new.entries do
    if below p && !(old.get? p).any entry.same then
      match entry with
      | .directory => IO.FS.createDirAll (spelling p)
      | .file content _ => IO.FS.writeBinFile (spelling p) content
      | .device => pure ()
  for (p, entry) in old.entries do
    if below p && (new.get? p).isNone && !entry.same .directory then IO.FS.removeFile (spelling p)

/-- The variables of the process that matter here, as far as they are set. -/
def environment : IO Environment := do
  let names := ["HOME", "XDG_CONFIG_HOME", "TOURNIQUET_DB", "TOURNIQUET_LOG", "PATH"]
  let found ← names.filterMapM fun name => do
    return (← IO.getEnv name).map fun value => (name, value)
  return ⟨found⟩

end Mend.Disk

/-- Answers the command line and returns the exit code. -/
def main (words : List String) : IO UInt32 := do
  let env ← Mend.Disk.environment
  let disk := (← Mend.Disk.load).withPrograms
  let files ← match Mend.Config.userPath? env with
    | some p => Mend.Disk.loadFile disk p
    | none => pure disk
  let (report, world) := Mend.CommandLine.run (Mend.Programs.shell env) env words ⟨files, 0⟩
  Mend.Disk.store files world.files
  IO.print report.output
  IO.eprint report.complaint
  return report.code.toUInt32

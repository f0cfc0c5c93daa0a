import Mend.Repair.Error

/-!
# Backups of a source file

While a candidate is tried, the source file lies aside under a name of its own, and it is put back
whatever happens.

* `backupPath` : `.<name>.tourniquet-orig` next to the file;
* `Backup.take`, `Backup.restore` : copies aside and back;
* `Backup.drop` : puts the file back if that can be done.
-/

namespace Mend.Repair

/-- A file and the place of its copy. -/
structure Backup where
  file : Path
  copy : Path
deriving DecidableEq

def backupPath (file : Path) : Except InputError Path :=
  match file.fileName? with
  | some name => .ok (file.withFileName ("." ++ name ++ ".tourniquet-orig"))
  | none => .error (.noFileName file)

namespace Backup

def take (file : Path) (files : FileTree) : Except Error (Backup × FileTree) := do
  let copy ← (backupPath file).mapError .input
  let files ← (files.copy file copy).mapError .file
  return (⟨file, copy⟩, files)

/-- Copies a file back and removes the copy. -/
def restore (b : Backup) (files : FileTree) : Except FileError Unit × FileTree :=
  match files.copy b.copy b.file with
  | .error e => (.error e, files)
  | .ok files =>
    match files.delete b.copy with
    | .error e => (.error e, files)
    | .ok files => (.ok (), files)

/-- Puts a file back if that can be done. -/
def drop (b : Backup) (files : FileTree) : FileTree := (b.restore files).2

end Backup

end Mend.Repair

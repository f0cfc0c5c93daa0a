import Mend.Proofs.Files.Tree
import Mend.Repair.Backup

/-!
# What a backup guards

A backup is a copy of a file under a name of its own in the same directory. As long as the copy is there
and a file can be put where the original was, the original comes back, and the copy is gone.

* `backupPath_endsIn` : the name of the copy;
* `Guards b content executable t` : the copy holds the content, and the file can be put back;
* `take_eq`, `take_of_lookup` : what it takes to copy a file aside;
* `take_guards` : a backup that was taken guards what the file held;
* `Guards.putFile` : a guarded file may be written;
* `drop_eq`, `drop_guards` : a guarded file is put back, and its copy is removed.
-/

namespace Mend.Repair

def copyName (name : String) : String := "." ++ name ++ ".tourniquet-orig"

theorem length_copyName (name : String) : (copyName name).length = name.length + 17 := by
  have hdot : ".".length = 1 := rfl
  have hend : ".tourniquet-orig".length = 16 := rfl
  rw [copyName, String.length_append, String.length_append]
  omega

theorem copyName_ne (name : String) : name ≠ copyName name := by
  intro h
  have hlen := congrArg String.length h
  rw [length_copyName] at hlen
  omega

theorem copyName_ne_null (name : String) : copyName name ≠ "null" := by
  intro h
  have hlen := congrArg String.length h
  have hnull : "null".length = 4 := rfl
  rw [length_copyName] at hlen
  omega

theorem copyName_plain (name : String) :
    Path.step? (copyName name).toList = some (.name (copyName name).toList) := by
  have hlen : 2 < (copyName name).toList.length := by
    rw [String.length_toList, length_copyName]
    omega
  rw [Path.step?, if_neg, if_neg]
  · intro h
    rw [h] at hlen
    exact absurd hlen (by decide)
  · rintro (h | h)
    · rw [h] at hlen
      exact absurd hlen (by decide)
    · rw [h] at hlen
      exact absurd hlen (by decide)

/-- The copy of a file lies under the file's name with a dot in front and an ending behind. -/
theorem backupPath_endsIn {file copy : Path} (h : backupPath file = .ok copy) :
    ∃ name, file.fileName? = some name ∧ copy.EndsIn (copyName name) := by
  unfold backupPath at h
  split at h
  · next name hname =>
    cases h
    refine ⟨name, hname, Path.withFileName_endsIn file ?_ (copyName_plain name)⟩
    have hno := Path.not_mem_of_fileName? hname
    simp [hno]
  · cases h

namespace Backup

/-- The file and the copy have names of their own. -/
def Apart (b : Backup) : Prop := ∃ name, b.file.EndsIn name ∧ b.copy.EndsIn (copyName name)

theorem Apart.ne {b : Backup} (h : b.Apart) {t : FileTree} {x y : Place}
    (hx : t.resolve b.file = .ok x) (hy : t.resolve b.copy = .ok y) : x ≠ y := by
  obtain ⟨name, hfile, hcopy⟩ := h
  exact FileTree.ne_of_endsIn (copyName_ne name) hfile hcopy hx hy

/-- The copy holds the content of the file, and a file can be put back where it was. -/
structure Guards (b : Backup) (content : ByteArray) (executable : Bool) (t : FileTree) : Prop where
  copy : t.lookup b.copy = .ok (.file content executable)
  file : t.Restorable b.file

theorem take_ok {file : Path} {t u : FileTree} {b : Backup} (h : take file t = .ok (b, u)) :
    b.file = file ∧ backupPath file = .ok b.copy ∧ t.copy b.file b.copy = .ok u := by
  obtain ⟨copy, hcopy, h⟩ := bind_eq_ok h
  obtain ⟨files, hfiles, h⟩ := bind_eq_ok h
  cases h
  exact ⟨rfl, mapError_eq_ok hcopy, mapError_eq_ok hfiles⟩

/-- The only device has a shorter name than any copy. -/
theorem not_device_of_endsIn {t : FileTree} {copy : Path} {name : String} {aside : Place}
    (hend : copy.EndsIn (copyName name)) (hp : t.resolve copy = .ok aside) : t.get? aside ≠ some .device := by
  intro hdevice
  obtain ⟨above, habove⟩ := FileTree.resolve_endsIn hend hp
  rw [FileTree.eq_nullPlace_of_device hdevice] at habove
  have hlast := congrArg List.getLast? habove
  rw [List.getLast?_append] at hlast
  exact copyName_ne_null name (Option.some.inj hlast).symm

theorem take_eq {file : Path} {t u : FileTree} {b : Backup} (h : take file t = .ok (b, u)) :
    b.Apart ∧ ∃ content executable aside,
      t.lookup b.file = .ok (.file content executable) ∧ t.resolve b.copy = .ok aside ∧ aside ≠ [] ∧
        t.get? aside ≠ some .directory ∧ u = t.putFile aside content executable := by
  obtain ⟨rfl, hcopy, ht⟩ := take_ok h
  obtain ⟨content, executable, place, hlook, hp, hdir, hput⟩ := FileTree.copy_ok ht
  obtain ⟨name, hname, hend⟩ := backupPath_endsIn hcopy
  exact ⟨⟨name, FileTree.endsIn_of_lookup hname hlook, hend⟩, content, executable, place, hlook, hp,
    FileTree.ne_nil_of_endsIn hend hp, hdir, hput (not_device_of_endsIn hend hp)⟩

/-- Nothing but a directory in its place keeps a copy from being taken. -/
theorem take_of_lookup {file copy : Path} {t : FileTree} {content : ByteArray} {executable : Bool} {aside : Place}
    (hfile : t.lookup file = .ok (.file content executable)) (hcopy : backupPath file = .ok copy)
    (hp : t.resolve copy = .ok aside) (hdir : t.get? aside ≠ some .directory) :
    take file t = .ok (⟨file, copy⟩, t.putFile aside content executable) := by
  obtain ⟨name, -, hend⟩ := backupPath_endsIn hcopy
  have hplace : t.Restorable copy := by
    refine ⟨aside, hp, ?_⟩
    cases hget : t.get? aside with
    | none => exact Or.inl rfl
    | some entry =>
      cases entry with
      | file old mode => exact Or.inr ⟨old, mode, rfl⟩
      | directory => exact absurd hget hdir
      | device => exact absurd hget (not_device_of_endsIn hend hp)
  obtain ⟨place, hp', -, hcopied⟩ := FileTree.copy_of_restorable hfile hplace
  obtain rfl : aside = place := Except.ok.inj (hp.symm.trans hp')
  simp only [take, hcopy, hcopied, mapError_ok, bind, Except.bind]
  rfl

/-- A backup that was taken guards what the file held, and leaves the file as it was. -/
theorem take_guards {file : Path} {t u : FileTree} {b : Backup} (h : take file t = .ok (b, u)) :
    b.Apart ∧ ∃ content executable,
      t.lookup b.file = .ok (.file content executable) ∧
        u.lookup b.file = .ok (.file content executable) ∧ b.Guards content executable u := by
  obtain ⟨hapart, content, executable, aside, hlook, hp, hplace, hdir, rfl⟩ := take_eq h
  obtain ⟨source, hsource, -⟩ := (FileTree.lookup_eq_ok_iff t b.file _).mp hlook
  have hkept := FileTree.lookup_putFile_of_ne hsource (hapart.ne hsource hp) hdir content executable
  rw [hlook] at hkept
  exact ⟨hapart, content, executable, hlook, hkept,
    FileTree.lookup_putFile_self hp hplace hdir content executable, FileTree.restorable_of_lookup hkept⟩

theorem Guards.putFile {b : Backup} {content : ByteArray} {executable : Bool} {t : FileTree}
    {place : Place} (hapart : b.Apart) (h : b.Guards content executable t)
    (hp : t.resolve b.file = .ok place) (new : ByteArray) (mode : Bool) :
    b.Guards content executable (t.putFile place new mode) := by
  have hdir := h.file.not_directory hp
  obtain ⟨aside, haside, -⟩ := (FileTree.lookup_eq_ok_iff t b.copy _).mp h.copy
  have hne : aside ≠ place := Ne.symm (hapart.ne hp haside)
  obtain ⟨name, hfile, -⟩ := hapart
  have hplace := FileTree.ne_nil_of_endsIn hfile hp
  refine ⟨?_, FileTree.restorable_of_lookup (FileTree.lookup_putFile_self hp hplace hdir new mode)⟩
  rw [FileTree.lookup_putFile_of_ne haside hne hdir, h.copy]

/-- A guarded file is put back in its place, and its copy is taken out of its own. -/
theorem drop_eq {b : Backup} {content : ByteArray} {executable : Bool} {t : FileTree}
    (hapart : b.Apart) (h : b.Guards content executable t) :
    ∃ place aside, t.resolve b.file = .ok place ∧ t.resolve b.copy = .ok aside ∧ place ≠ aside ∧
      t.get? place ≠ some .directory ∧ t.get? aside = some (.file content executable) ∧
        b.drop t = (t.putFile place content executable).erase aside := by
  obtain ⟨place, hp, hdir, hcopied⟩ := FileTree.copy_of_restorable h.copy h.file
  obtain ⟨aside, haside, hget⟩ := (FileTree.lookup_eq_ok_iff t b.copy _).mp h.copy
  have hne : place ≠ aside := hapart.ne hp haside
  have hstill := FileTree.lookup_putFile_of_ne haside (Ne.symm hne) hdir content executable
  rw [h.copy] at hstill
  obtain ⟨aside', haside', -, hdelete⟩ := FileTree.delete_of_lookup hstill
  have hkeeps := FileTree.keepsDirectories_putFile hdir content executable
  obtain rfl : aside = aside' := Except.ok.inj ((FileTree.resolve_mono hkeeps haside).symm.trans haside')
  refine ⟨place, aside, hp, haside, hne, hdir, hget, ?_⟩
  rw [drop, restore, hcopied]
  simp only [hdelete]

/-- A guarded file is put back, and its copy is removed. -/
theorem drop_guards {b : Backup} {content : ByteArray} {executable : Bool} {t : FileTree}
    (hapart : b.Apart) (h : b.Guards content executable t) :
    (b.drop t).lookup b.file = .ok (.file content executable) ∧
      (b.drop t).lookup b.copy = .error .notFound := by
  obtain ⟨place, aside, hp, haside, hne, hdir, hget, hdrop⟩ := drop_eq hapart h
  obtain ⟨name, hfile, hcopy⟩ := hapart
  have hback := FileTree.lookup_putFile_self hp (FileTree.ne_nil_of_endsIn hfile hp) hdir content executable
  have hkeeps := FileTree.keepsDirectories_putFile hdir content executable
  have hfiles : (t.putFile place content executable).get? aside ≠ some .directory := by
    rw [FileTree.get?_putFile_of_ne t (Ne.symm hne), hget]
    nofun
  rw [hdrop, FileTree.lookup_erase_of_ne (FileTree.resolve_mono hkeeps hp) hne hfiles, hback,
    FileTree.lookup_erase_self (FileTree.resolve_mono hkeeps haside)
      (FileTree.ne_nil_of_endsIn hcopy haside) hfiles]
  exact ⟨rfl, rfl⟩

end Backup

end Mend.Repair

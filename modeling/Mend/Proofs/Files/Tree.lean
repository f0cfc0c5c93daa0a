import Mend.Files.Tree
import Mend.Proofs.Files.Path
import Mend.Proofs.Steps

/-!
# Laws of file trees

A tree is a map from places to entries, and what a path leads to depends on the directories only. So a
file that comes or goes changes what other paths lead to only at its own place.

* `get?_putFile_self`, `get?_putFile_of_ne`, `get?_erase_self`, `get?_erase_of_ne` : the map;
* `KeepsDirectories t u` : every directory of `t` is one of `u`; `resolve_mono` : paths lead where they
  led;
* `resolve_endsIn` : a path that ends in a name leads to a place of that name;
* `lookup_eq_ok_iff` : what a path leads to;
* `copy_ok`, `copy_of_restorable`, `write_of_lookup`, `delete_of_lookup` : the operations on paths;
* `Restorable t p` : a file can be put where `p` leads.
-/

namespace Mend.FileTree

/-! ## The map -/

theorem find?_putEntry_self (place : Place) (entry : Entry) (es : List (Place × Entry)) :
    (putEntry place entry es).find? (fun e => e.1 = place) = some (place, entry) := by
  induction es with
  | nil => simp [putEntry]
  | cons e es ih =>
    rw [putEntry]
    split
    · simp
    · next hne => rw [List.find?_cons_of_neg (by simpa using hne), ih]

theorem find?_putEntry_of_ne {place q : Place} (hne : q ≠ place) (entry : Entry)
    (es : List (Place × Entry)) :
    (putEntry place entry es).find? (fun e => e.1 = q) = es.find? fun e => e.1 = q := by
  induction es with
  | nil => simp [putEntry, Ne.symm hne]
  | cons e es ih =>
    rw [putEntry]
    split
    · next heq =>
      rw [List.find?_cons_of_neg (by simpa using Ne.symm hne),
        List.find?_cons_of_neg (by simpa [heq] using Ne.symm hne)]
    · rw [List.find?_cons, List.find?_cons, ih]

theorem get?_put_self (t : FileTree) {place : Place} (hplace : place ≠ []) (entry : Entry)
    (h : entry = .device → place = nullPlace) : (t.put place entry h).get? place = some entry := by
  rw [get?, if_neg hplace, put, find?_putEntry_self]
  rfl

theorem get?_put_of_ne (t : FileTree) {place q : Place} (hne : q ≠ place) (entry : Entry)
    (h : entry = .device → place = nullPlace) : (t.put place entry h).get? q = t.get? q := by
  rw [get?, get?, put, find?_putEntry_of_ne hne]

theorem get?_putFile_self (t : FileTree) {place : Place} (hplace : place ≠ []) (content : ByteArray)
    (executable : Bool) :
    (t.putFile place content executable).get? place = some (.file content executable) :=
  get?_put_self t hplace _ _

theorem get?_putFile_of_ne (t : FileTree) {place q : Place} (hne : q ≠ place) (content : ByteArray)
    (executable : Bool) : (t.putFile place content executable).get? q = t.get? q :=
  get?_put_of_ne t hne _ _

theorem get?_erase_self (t : FileTree) {place : Place} (hplace : place ≠ []) :
    (t.erase place).get? place = none := by
  rw [get?, if_neg hplace, erase, keep, Option.map_eq_none_iff, List.find?_eq_none]
  intro e he
  simpa using (List.mem_filter.mp he).2

theorem get?_erase_of_ne (t : FileTree) {place q : Place} (hne : q ≠ place) :
    (t.erase place).get? q = t.get? q := by
  rw [get?, get?, erase, keep, List.find?_filter]
  congr 3
  funext e
  by_cases he : e.1 = q
  · simp [he, hne]
  · simp [he]

theorem eq_nullPlace_of_device {t : FileTree} {place : Place} (h : t.get? place = some .device) :
    place = nullPlace := by
  rw [get?] at h
  split at h
  · cases h
  · obtain ⟨e, he, hdevice⟩ := Option.map_eq_some_iff.mp h
    have hmem := List.mem_of_find?_eq_some he
    have heq : e.1 = place := by simpa using List.find?_some he
    rw [← heq]
    exact t.devices e hmem hdevice

/-! ## Following paths -/

/-- The directories of one tree are directories of another, and relative paths start in the same one. -/
structure KeepsDirectories (t u : FileTree) : Prop where
  start : u.workingDirectory = t.workingDirectory
  directory : ∀ p, t.get? p = some .directory → u.get? p = some .directory

theorem inside_eq_ok_iff (t : FileTree) (place here : Place) :
    t.inside place = .ok here ↔ t.get? place = some .directory ∧ here = place := by
  unfold inside
  split
  · next h => simp [h, eq_comm]
  · next e hne h =>
    rw [h]
    exact iff_of_false nofun fun hc => hne (Option.some.inj hc.1)
  · next h => simp [h]

theorem follow_mono {t u : FileTree} (h : KeepsDirectories t u) {place q : Place}
    {pieces : List (List Char)} (hq : t.follow place pieces = .ok q) : u.follow place pieces = .ok q := by
  induction pieces generalizing place with
  | nil => exact hq
  | cons piece rest ih =>
    rw [follow] at hq ⊢
    obtain ⟨here, hin, hstep⟩ := bind_eq_ok hq
    obtain ⟨hdir, rfl⟩ := (inside_eq_ok_iff t place here).mp hin
    rw [(inside_eq_ok_iff u here here).mpr ⟨h.directory here hdir, rfl⟩]
    simp only [bind, Except.bind]
    split at hstep
    · next hidle => rw [if_pos hidle]; exact ih hstep
    · next hidle =>
      rw [if_neg hidle]
      split at hstep
      · next hparent => rw [if_pos hparent]; exact ih hstep
      · next hparent =>
        rw [if_neg hparent]
        split at hstep
        · cases hstep
        · next hlong => rw [if_neg hlong]; exact ih hstep

/-- A path leads where it led as long as no directory is gone. -/
theorem resolve_mono {t u : FileTree} (h : KeepsDirectories t u) {p : Path} {place : Place}
    (hp : t.resolve p = .ok place) : u.resolve p = .ok place := by
  unfold resolve at hp ⊢
  rw [h.start]
  split at hp
  · cases hp
  · next hempty =>
    rw [if_neg hempty]
    split at hp
    · cases hp
    · next hnul =>
      rw [if_neg hnul]
      split at hp
      · cases hp
      · next hlong => rw [if_neg hlong]; exact follow_mono h hp

theorem keepsDirectories_putFile {t : FileTree} {place : Place}
    (h : t.get? place ≠ some .directory) (content : ByteArray) (executable : Bool) :
    KeepsDirectories t (t.putFile place content executable) := by
  refine ⟨rfl, fun p hp => ?_⟩
  have hne : p ≠ place := by
    rintro rfl
    exact h hp
  rw [get?_putFile_of_ne t hne, hp]

theorem keepsDirectories_erase {t : FileTree} {place : Place}
    (h : t.get? place ≠ some .directory) : KeepsDirectories t (t.erase place) := by
  refine ⟨rfl, fun p hp => ?_⟩
  have hne : p ≠ place := by
    rintro rfl
    exact h hp
  rw [get?_erase_of_ne t hne, hp]

theorem follow_append (t : FileTree) (place : Place) (front back : List (List Char)) :
    t.follow place (front ++ back) = (t.follow place front).bind fun q => t.follow q back := by
  induction front generalizing place with
  | nil => rfl
  | cons piece rest ih =>
    rw [List.cons_append, follow, follow]
    cases t.inside place with
    | error e => rfl
    | ok here =>
      simp only [bind, Except.bind]
      split
      · exact ih here
      · split
        · exact ih here.dropLast
        · split
          · rfl
          · exact ih (here ++ [String.ofList piece])

/-- The last step of a path that leads somewhere. -/
theorem resolve_last {t : FileTree} {p : Path} {place : Place} {z : List Char}
    (hp : t.resolve p = .ok place) (hz : p.pieces.getLast? = some z) :
    ∃ above, t.follow above [z] = .ok place := by
  obtain ⟨front, hfront⟩ := List.getLast?_eq_some_iff.mp hz
  unfold resolve at hp
  split at hp
  · cases hp
  · split at hp
    · cases hp
    · split at hp
      · cases hp
      · rw [Path.pieces] at hfront
        rw [hfront, follow_append] at hp
        obtain ⟨above, -, habove⟩ := bind_eq_ok hp
        exact ⟨above, habove⟩

theorem resolve_endsIn {t : FileTree} {p : Path} {name : String} {place : Place} (h : p.EndsIn name)
    (hp : t.resolve p = .ok place) : ∃ above, place = above ++ [name] := by
  obtain ⟨above, habove⟩ := resolve_last hp h.last
  have hplain := h.plain
  rw [follow] at habove
  unfold Path.step? at hplain
  obtain ⟨here, -, hstep⟩ := bind_eq_ok habove
  split at hplain
  · cases hplain
  · next hidle =>
    rw [if_neg hidle] at hstep
    split at hplain
    · cases hplain
    · next hparent =>
      rw [if_neg hparent] at hstep
      split at hstep
      · cases hstep
      · rw [follow, String.ofList_toList] at hstep
        cases hstep
        exact ⟨here, rfl⟩

/-- A path with an idle piece at its end leads to a directory. -/
theorem directory_of_idle_end {t : FileTree} {p : Path} {z : List Char} {place : Place}
    (hz : p.pieces.getLast? = some z) (hidle : Path.isIdle z = true) (hp : t.resolve p = .ok place) :
    t.get? place = some .directory := by
  obtain ⟨above, habove⟩ := resolve_last hp hz
  rw [follow] at habove
  obtain ⟨here, hin, hstep⟩ := bind_eq_ok habove
  obtain ⟨hdir, rfl⟩ := (inside_eq_ok_iff t above here).mp hin
  rw [if_pos (by simpa [Path.isIdle] using hidle), follow] at hstep
  cases hstep
  exact hdir

/-! ## Files -/

theorem lookup_eq_ok_iff (t : FileTree) (p : Path) (entry : Entry) :
    t.lookup p = .ok entry ↔ ∃ place, t.resolve p = .ok place ∧ t.get? place = some entry := by
  unfold lookup
  cases hp : t.resolve p with
  | error e => simp [bind, Except.bind]
  | ok place =>
    simp only [bind, Except.bind, Except.ok.injEq, exists_eq_left']
    split
    · next e he => simp [he]
    · next he => simp [he]

theorem lookup_of_resolve {t : FileTree} {p : Path} {place : Place} (h : t.resolve p = .ok place) :
    t.lookup p = match t.get? place with
      | some entry => .ok entry
      | none => .error .notFound := by
  rw [lookup, h]
  rfl

theorem get?_of_not_contains {t : FileTree} {p : Path} {place : Place} (h : t.contains p = false)
    (hp : t.resolve p = .ok place) : t.get? place = none := by
  rw [contains, lookup_of_resolve hp] at h
  cases hget : t.get? place with
  | none => rfl
  | some entry =>
    rw [hget] at h
    cases h

theorem ne_of_endsIn {t : FileTree} {p q : Path} {m n : String} {x y : Place} (hne : m ≠ n)
    (hm : p.EndsIn m) (hn : q.EndsIn n) (hp : t.resolve p = .ok x) (hq : t.resolve q = .ok y) :
    x ≠ y := by
  obtain ⟨above, rfl⟩ := resolve_endsIn hm hp
  obtain ⟨below, rfl⟩ := resolve_endsIn hn hq
  intro heq
  have hlast := congrArg List.getLast? heq
  rw [List.getLast?_append, List.getLast?_append] at hlast
  exact hne (Option.some.inj hlast)

theorem ne_nil_of_endsIn {t : FileTree} {p : Path} {name : String} {place : Place}
    (h : p.EndsIn name) (hp : t.resolve p = .ok place) : place ≠ [] := by
  obtain ⟨above, rfl⟩ := resolve_endsIn h hp
  simp

theorem lookup_putFile_self {t : FileTree} {p : Path} {place : Place} (hp : t.resolve p = .ok place)
    (hplace : place ≠ []) (hdir : t.get? place ≠ some .directory) (content : ByteArray)
    (executable : Bool) :
    (t.putFile place content executable).lookup p = .ok (.file content executable) := by
  rw [lookup_of_resolve (resolve_mono (keepsDirectories_putFile hdir content executable) hp),
    get?_putFile_self t hplace]

theorem lookup_putFile_of_ne {t : FileTree} {p : Path} {place q : Place} (hp : t.resolve p = .ok q)
    (hne : q ≠ place) (hdir : t.get? place ≠ some .directory) (content : ByteArray)
    (executable : Bool) : (t.putFile place content executable).lookup p = t.lookup p := by
  rw [lookup_of_resolve (resolve_mono (keepsDirectories_putFile hdir content executable) hp),
    lookup_of_resolve hp, get?_putFile_of_ne t hne]

theorem lookup_erase_self {t : FileTree} {p : Path} {place : Place} (hp : t.resolve p = .ok place)
    (hplace : place ≠ []) (hdir : t.get? place ≠ some .directory) :
    (t.erase place).lookup p = .error .notFound := by
  rw [lookup_of_resolve (resolve_mono (keepsDirectories_erase hdir) hp), get?_erase_self t hplace]

theorem lookup_erase_of_ne {t : FileTree} {p : Path} {place q : Place} (hp : t.resolve p = .ok q)
    (hne : q ≠ place) (hdir : t.get? place ≠ some .directory) :
    (t.erase place).lookup p = t.lookup p := by
  rw [lookup_of_resolve (resolve_mono (keepsDirectories_erase hdir) hp), lookup_of_resolve hp,
    get?_erase_of_ne t hne]

theorem endsIn_of_lookup {t : FileTree} {p : Path} {name : String} {content : ByteArray}
    {executable : Bool} (hname : p.fileName? = some name)
    (h : t.lookup p = .ok (.file content executable)) : p.EndsIn name := by
  rcases Path.fileName?_endsIn hname with hend | ⟨z, hz, hidle⟩
  · exact hend
  · obtain ⟨place, hp, hget⟩ := (lookup_eq_ok_iff t p _).mp h
    rw [directory_of_idle_end hz hidle hp] at hget
    cases hget

/-- A path that leads to a file, or to a place where one can be put. -/
def Restorable (t : FileTree) (p : Path) : Prop :=
  ∃ place, t.resolve p = .ok place ∧
    (t.get? place = none ∨ ∃ content executable, t.get? place = some (.file content executable))

theorem Restorable.not_directory {t : FileTree} {p : Path} {place : Place} (h : t.Restorable p)
    (hp : t.resolve p = .ok place) : t.get? place ≠ some .directory := by
  obtain ⟨q, hq, hget⟩ := h
  obtain rfl : q = place := Except.ok.inj (hq.symm.trans hp)
  rcases hget with hget | ⟨content, executable, hget⟩
  · rw [hget]
    nofun
  · rw [hget]
    nofun

theorem restorable_of_lookup {t : FileTree} {p : Path} {content : ByteArray} {executable : Bool}
    (h : t.lookup p = .ok (.file content executable)) : t.Restorable p := by
  obtain ⟨place, hp, hget⟩ := (lookup_eq_ok_iff t p _).mp h
  exact ⟨place, hp, Or.inr ⟨content, executable, hget⟩⟩

/-! ## Operations -/

theorem copy_ok {t u : FileTree} {source target : Path} (h : t.copy source target = .ok u) :
    ∃ content executable place,
      t.lookup source = .ok (.file content executable) ∧ t.resolve target = .ok place ∧
        t.get? place ≠ some .directory ∧
          (t.get? place ≠ some .device → u = t.putFile place content executable) := by
  obtain ⟨entry, hlook, h⟩ := bind_eq_ok h
  cases entry with
  | directory => cases h
  | device => cases h
  | file content executable =>
    obtain ⟨place, hp, h⟩ := bind_eq_ok h
    refine ⟨content, executable, place, hlook, hp, ?_⟩
    split at h
    · cases h
    · next hdevice => exact ⟨by simp [hdevice], fun hno => absurd hdevice hno⟩
    · next hdir _ =>
      cases h
      exact ⟨hdir, fun _ => rfl⟩

theorem copy_of_restorable {t : FileTree} {source target : Path} {content : ByteArray}
    {executable : Bool} (hsource : t.lookup source = .ok (.file content executable))
    (htarget : t.Restorable target) :
    ∃ place, t.resolve target = .ok place ∧ t.get? place ≠ some .directory ∧
      t.copy source target = .ok (t.putFile place content executable) := by
  obtain ⟨place, hp, hget⟩ := id htarget
  refine ⟨place, hp, htarget.not_directory hp, ?_⟩
  unfold copy
  rw [hsource, hp]
  rcases hget with hget | ⟨old, mode, hget⟩
  · simp only [bind, Except.bind, hget]
  · simp only [bind, Except.bind, hget]

theorem write_of_lookup {t : FileTree} {p : Path} {old : ByteArray} {executable : Bool}
    (h : t.lookup p = .ok (.file old executable)) (content : ByteArray) :
    ∃ place, t.resolve p = .ok place ∧ t.get? place = some (.file old executable) ∧
      t.write p content = .ok (t.putFile place content executable) := by
  obtain ⟨place, hp, hget⟩ := (lookup_eq_ok_iff t p _).mp h
  refine ⟨place, hp, hget, ?_⟩
  unfold write
  rw [hp]
  simp only [bind, Except.bind, hget]

theorem delete_ok {t u : FileTree} {p : Path} (h : t.delete p = .ok u) :
    ∃ place content executable, t.resolve p = .ok place ∧
      t.get? place = some (.file content executable) ∧ u = t.erase place := by
  obtain ⟨place, hp, h⟩ := bind_eq_ok h
  split at h
  · next content executable hget =>
    cases h
    exact ⟨place, content, executable, hp, hget, rfl⟩
  · cases h
  · cases h
  · cases h

theorem delete_of_lookup {t : FileTree} {p : Path} {content : ByteArray} {executable : Bool}
    (h : t.lookup p = .ok (.file content executable)) :
    ∃ place, t.resolve p = .ok place ∧ t.get? place = some (.file content executable) ∧
      t.delete p = .ok (t.erase place) := by
  obtain ⟨place, hp, hget⟩ := (lookup_eq_ok_iff t p _).mp h
  refine ⟨place, hp, hget, ?_⟩
  unfold delete
  rw [hp]
  simp only [bind, Except.bind, hget]

end Mend.FileTree

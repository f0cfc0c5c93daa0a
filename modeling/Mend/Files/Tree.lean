import Mend.Files.Error
import Mend.Path
import Mend.Total

/-!
# File trees

The files that programs work on: a finite map from places to entries, and a working directory. A place
is the list of names that leads to it from the root, so that it has one spelling; paths lead to places.
There are no links, and every file can be written.

* `FileTree.get?`, `FileTree.put`, `FileTree.erase` : the map;
* `FileTree.resolve` : the place a path leads to, step by step;
* `FileTree.read`, `FileTree.write`, `FileTree.delete`, `FileTree.copy`, `FileTree.makeDirs` : the
  operations on paths;
* `FileTree.contains`, `FileTree.isFile` : what a path leads to.
-/

namespace Mend

/-- The names that lead from the root to a file or directory. -/
abbrev Place := List String

/-- What a place holds. -/
inductive Entry where
  | file (content : ByteArray) (executable : Bool)
  | directory
  | device

/-- Whether two entries are the same in every byte. -/
def Entry.same : Entry → Entry → Bool
  | .file a x, .file b y => decide (a.toList = b.toList) && x == y
  | .directory, .directory => true
  | .device, .device => true
  | _, _ => false

/-- The place of the one device there is. -/
def nullPlace : Place := ["dev", "null"]

/-- Entries by place, and the directory that relative paths start from. -/
structure FileTree where
  entries : List (Place × Entry)
  workingDirectory : Place
  devices : ∀ e ∈ entries, e.2 = .device → e.1 = nullPlace

namespace FileTree

/-! ## The map -/

/-- What a place holds. The root is always a directory. -/
def get? (t : FileTree) (place : Place) : Option Entry :=
  if place = [] then some .directory else (t.entries.find? fun e => e.1 = place).map (·.2)

/-- Entries with one of them replaced, or added behind the others. -/
def putEntry (place : Place) (entry : Entry) : List (Place × Entry) → List (Place × Entry)
  | [] => [(place, entry)]
  | e :: es => if e.1 = place then (place, entry) :: es else e :: putEntry place entry es

theorem mem_putEntry {place : Place} {entry : Entry} {es : List (Place × Entry)} {e : Place × Entry}
    (h : e ∈ putEntry place entry es) : e = (place, entry) ∨ e ∈ es := by
  induction es with
  | nil => exact Or.inl (List.mem_singleton.mp h)
  | cons d es ih =>
    rw [putEntry] at h
    split at h
    · rcases List.mem_cons.mp h with h | h
      · exact Or.inl h
      · exact Or.inr (List.mem_cons_of_mem _ h)
    · rcases List.mem_cons.mp h with h | h
      · exact Or.inr (h ▸ List.mem_cons_self)
      · exact (ih h).imp_right (List.mem_cons_of_mem _)

/-- The tree with another entry at a place, where a device has to be in its own place. -/
def put (t : FileTree) (place : Place) (entry : Entry) (h : entry = .device → place = nullPlace) :
    FileTree where
  entries := putEntry place entry t.entries
  workingDirectory := t.workingDirectory
  devices e he hd := by
    rcases mem_putEntry he with rfl | he
    · exact h hd
    · exact t.devices e he hd

def putFile (t : FileTree) (place : Place) (content : ByteArray) (executable : Bool) : FileTree :=
  t.put place (.file content executable) nofun

def putDirectory (t : FileTree) (place : Place) : FileTree :=
  t.put place .directory nofun

/-- The tree with a copy of an entry at a place; a device cannot be copied. -/
def plant (t : FileTree) (place : Place) : Entry → FileTree
  | .file content executable => t.putFile place content executable
  | .directory => t.putDirectory place
  | .device => t

/-- The tree with only those entries whose places pass a test. -/
def keep (t : FileTree) (test : Place → Bool) : FileTree where
  entries := t.entries.filter fun e => test e.1
  workingDirectory := t.workingDirectory
  devices e he := t.devices e (List.mem_filter.mp he).1

def erase (t : FileTree) (place : Place) : FileTree :=
  t.keep fun p => p ≠ place

def setMode (mode : Place → Bool → Bool) : Place × Entry → Place × Entry
  | (place, .file content executable) => (place, .file content (mode place executable))
  | (place, .directory) => (place, .directory)
  | (place, .device) => (place, .device)

def setModes (t : FileTree) (mode : Place → Bool → Bool) : FileTree where
  entries := t.entries.map (setMode mode)
  workingDirectory := t.workingDirectory
  devices e he hd := by
    obtain ⟨⟨place, entry⟩, hmem, rfl⟩ := List.mem_map.mp he
    cases entry with
    | file content executable => cases hd
    | directory => cases hd
    | device => exact t.devices _ hmem rfl

/-! ## Paths -/

/-- The place itself, if it is a directory. -/
def inside (t : FileTree) (place : Place) : Except FileError Place :=
  match t.get? place with
  | some .directory => .ok place
  | some _ => .error .notADirectory
  | none => .error .notFound

/-- Whether a name is longer than a directory can hold. -/
def isOverlong (piece : List Char) : Bool :=
  255 < total Char.utf8Size piece

/-- Follows the pieces of a path. Whatever comes behind a place, be it only a separator, asks for a
directory there. -/
def follow (t : FileTree) : Place → List (List Char) → Except FileError Place
  | place, [] => .ok place
  | place, piece :: rest => do
    let here ← t.inside place
    if piece = [] ∨ piece = ['.'] then t.follow here rest
    else if piece = ['.', '.'] then t.follow here.dropLast rest
    else if isOverlong piece then .error .nameTooLong
    else t.follow (here ++ [String.ofList piece]) rest

/-- The place a path leads to; it need not hold anything. -/
def resolve (t : FileTree) (p : Path) : Except FileError Place :=
  if p.text.isEmpty then .error .notFound
  else if p.text.toList.contains '\x00' then .error .nulInName
  else if 4095 < p.text.utf8ByteSize then .error .nameTooLong
  else t.follow (if p.isAbsolute then [] else t.workingDirectory) (p.text.toList.splitOn '/')

def lookup (t : FileTree) (p : Path) : Except FileError Entry := do
  let place ← t.resolve p
  match t.get? place with
  | some entry => .ok entry
  | none => .error .notFound

/-- Whether a path leads to something. -/
def contains (t : FileTree) (p : Path) : Bool :=
  (t.lookup p).isOk

def isFile (t : FileTree) (p : Path) : Bool :=
  match t.lookup p with
  | .ok (.file ..) => true
  | _ => false

def read (t : FileTree) (p : Path) : Except FileError ByteArray := do
  match ← t.lookup p with
  | .file content _ => .ok content
  | .directory => .error .isADirectory
  | .device => .ok .empty

/-- Writes a file, keeping its mode if it is there. -/
def write (t : FileTree) (p : Path) (content : ByteArray) : Except FileError FileTree := do
  let place ← t.resolve p
  match t.get? place with
  | some .directory => .error .isADirectory
  | some .device => .ok t
  | some (.file _ executable) => .ok (t.putFile place content executable)
  | none => .ok (t.putFile place content false)

def delete (t : FileTree) (p : Path) : Except FileError FileTree := do
  let place ← t.resolve p
  match t.get? place with
  | some (.file ..) => .ok (t.erase place)
  | some .directory => .error .isADirectory
  | some .device => .error .permissionDenied
  | none => .error .notFound

def copy (t : FileTree) (source target : Path) : Except FileError FileTree := do
  match ← t.lookup source with
  | .directory | .device => .error .notRegular
  | .file content executable =>
    let place ← t.resolve target
    match t.get? place with
    | some .directory => .error .isADirectory
    | some .device => .ok t
    | _ => .ok (t.putFile place content executable)

/-- Follows the pieces of a path and makes the directories that are missing. -/
def makeDirsFrom (t : FileTree) : Place → List (List Char) → Except FileError FileTree
  | _, [] => .ok t
  | place, piece :: rest =>
    if piece = [] ∨ piece = ['.'] then t.makeDirsFrom place rest
    else if piece = ['.', '.'] then t.makeDirsFrom place.dropLast rest
    else if isOverlong piece then .error .nameTooLong
    else
      let here := place ++ [String.ofList piece]
      match t.get? here with
      | some .directory => t.makeDirsFrom here rest
      | some _ => .error (if rest.all Path.isIdle then .alreadyExists else .notADirectory)
      | none => (t.putDirectory here).makeDirsFrom here rest

/-- Makes the directory a path names, with those on the way to it. -/
def makeDirs (t : FileTree) (p : Path) : Except FileError FileTree :=
  if p.text.toList.contains '\x00' then .error .nulInName
  else t.makeDirsFrom (if p.isAbsolute then [] else t.workingDirectory) (p.text.toList.splitOn '/')

/-- An empty working directory on a system with its usual directories. -/
def scratch : FileTree where
  entries :=
    [(["bin"], .directory), (["dev"], .directory), (["dev", "null"], .device), (["etc"], .directory),
     (["home"], .directory), (["tmp"], .directory), (["tmp", "work"], .directory),
     (["usr"], .directory), (["usr", "bin"], .directory)]
  workingDirectory := ["tmp", "work"]
  devices := by simp [nullPlace]

end FileTree

end Mend

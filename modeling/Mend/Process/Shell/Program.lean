import Mend.Process.Shell.State
import Mend.Process.Utility

/-!
# Programs as files

A program of the system is a file that bears its name, a script is one that starts with the name of its
interpreter. Programs are found by their paths or in the directories of a search path.

* `Image.ofContent` : what a file that can be run is;
* `load` : the program behind a path, through interpreters;
* `candidates` : the paths that a name may stand for;
* `FileTree.withPrograms` : a tree with the programs of the system in their places.
-/

namespace Mend.Process

/-- What a file that can be run is: a program of the system, a script for an interpreter, which may be
given an argument, or neither. -/
inductive Image where
  | program (name : String)
  | script (interpreter : String) (argument : Option String)
  | unknown
deriving DecidableEq

def programMark : List Char := ['\x7f', 'E', 'L', 'F', ' ']

/-- The programs that start others, or end them. -/
def starters : List String := ["sh", "dash", "bash", "env", "kill"]

def programNames : List String := starters ++ utilities.map (·.1)

namespace Image

/-- Whether a character separates an interpreter from its argument. -/
def isGap (c : Char) : Bool := c = ' ' || c = '\t'

def maxLine : Nat := 255

/-- The interpreter that a first line names, from behind its mark. -/
def interpreter (line : List Char) : Image :=
  let inner := ((line.dropWhile isGap).reverse.dropWhile isGap).reverse
  let name := inner.takeWhile fun c => !isGap c
  let argument := (inner.drop name.length).dropWhile isGap
  if name.isEmpty then .unknown
  else .script (String.ofList name) (if argument.isEmpty then none else some (String.ofList argument))

def ofContent (content : ByteArray) : Image :=
  let cs := (octets (content.extract 0 (maxLine + 1))).toList
  match cs with
  | '#' :: '!' :: rest =>
    let line := rest.takeWhile (· ≠ '\n')
    if line.length = maxLine - 1 then .unknown else interpreter (line.takeWhile (· ≠ '\x00'))
  | _ =>
    let name := String.ofList (cs.drop programMark.length)
    if programMark.isPrefixOf cs && programNames.contains name then .program name else .unknown

end Image

/-- A program with its arguments, the first of which is its own name. -/
structure Launch where
  program : String
  arguments : List String

def maxInterpreters : Nat := 5

/-- The program behind a path and its arguments, through interpreters. -/
def load (tree : FileTree) : Nat → String → List String → Except FileError Launch
  | depth, path, arguments => do
    match ← tree.lookup (pathOf path) with
    | .file content true =>
      match Image.ofContent content, depth with
      | .program name, _ => return ⟨name, arguments⟩
      | .script interpreter argument, depth + 1 =>
        load tree depth interpreter (interpreter :: argument.toList ++ path :: arguments.tail)
      | _, _ => .error .notExecutable
    | _ => .error .permissionDenied

def defaultSearchPath : String := "/usr/local/sbin:/usr/local/bin:/usr/sbin:/usr/bin:/sbin:/bin"

/-- The paths that a name may stand for: the name itself if it is a path, or else the name in each
directory of the search path. -/
def candidates (searchPath name : String) : List String :=
  if name.toList.contains '/' then [name]
  else
    (searchPath.toList.splitOn ':').map fun directory =>
      if directory.isEmpty then name else String.ofList directory ++ "/" ++ name

/-- Loads the first of several paths that can be run, where nothing but a path stands for a command.
The error is that of a file that cannot be run, if there is one. -/
def loadFirst (tree : FileTree) (arguments : List String) :
    FileError → List String → Except FileError Launch
  | e, [] => .error e
  | e, path :: paths =>
    match load tree maxInterpreters path arguments with
    | .ok launch => .ok launch
    | .error .notFound | .error .notADirectory => loadFirst tree arguments e paths
    | .error .permissionDenied => loadFirst tree arguments .permissionDenied paths
    | .error e => .error e

def Shell.searchPath (s : Shell) : String := (s.value? "PATH").getD defaultSearchPath

/-- The path of the file that a shell takes for a command, or why there is none. -/
def Shell.find (s : Shell) (name : String) : Except FileError String :=
  let rec search : FileError → List String → Except FileError String
    | e, [] => .error e
    | e, path :: paths =>
      match s.tree.lookup (pathOf path) with
      | .ok (.file ..) => .ok path
      | .ok _ => search .permissionDenied paths
      | .error .notFound | .error .notADirectory => search e paths
      | .error other => search other paths
  if name.toList.contains '/' then .ok name else search .notFound (candidates s.searchPath name)

/-- What a shell says of a command that cannot be run, and its status. -/
def unstartable (e : FileError) : String × Nat :=
  match e with
  | .notFound | .notADirectory => ("not found", 127)
  | .nameTooLong => (e.reason, 127)
  | _ => (e.reason, 126)

/-- The program a shell starts for a path; what is neither a program nor a script for an interpreter is
a script for a shell. -/
def Shell.load (s : Shell) (path : String) (arguments : List String) : Except FileError Launch :=
  match Process.load s.tree maxInterpreters path arguments with
  | .error .notExecutable => .ok ⟨"sh", "/bin/sh" :: path :: arguments.tail⟩
  | r => r

end Mend.Process

namespace Mend

def programFiles (name : String) : List (Place × Entry) :=
  let content := Process.bytesOf (String.ofList Process.programMark ++ name)
  [(["usr", "bin", name], .file content true), (["bin", name], .file content true)]

def FileTree.withPrograms (t : FileTree) : FileTree where
  entries := t.entries ++ Process.programNames.flatMap programFiles
  workingDirectory := t.workingDirectory
  devices e he hd := by
    rcases List.mem_append.mp he with he | he
    · exact t.devices e he hd
    · obtain ⟨name, -, he⟩ := List.mem_flatMap.mp he
      rw [programFiles, List.mem_cons, List.mem_singleton] at he
      rcases he with rfl | rfl <;> cases hd

end Mend

/-!
# Paths

A path is its spelling; what it names is the sequence of its components. Repeated and trailing
separators carry no meaning, nor does a `.` anywhere but in front of a relative path.

* `Path.components` : root, `.` in front, `..`, names;
* `Path.moduleName` : the spelling shared by all spellings of one sequence of components;
* `Path.fileName?`, `Path.extension?`, `Path.parent?`, `Path.withFileName` : the last component;
* `Path.join` : one path below another;
* `Path.below?` : what follows a given first component.
-/

namespace Mend

/-- A file path, as it was written. -/
structure Path where
  text : String
deriving DecidableEq, Inhabited

inductive Component where
  | root
  | current
  | parent
  | name (text : List Char)
deriving DecidableEq

namespace Path

/-- The meaning of a piece between separators that is not the first one: an empty piece and a `.`
mean nothing. -/
def step? (piece : List Char) : Option Component :=
  if piece = [] ∨ piece = ['.'] then none
  else if piece = ['.', '.'] then some .parent
  else some (.name piece)

/-- The components of a path that starts with the piece `first`, followed by the pieces `rest`. -/
def ofPieces (first : List Char) (rest : List (List Char)) : List Component :=
  let start :=
    if first = [] then (if rest = [] then [] else [.root])
    else if first = ['.'] then [.current]
    else (step? first).toList
  start ++ rest.filterMap step?

def components (p : Path) : List Component :=
  match p.text.toList.splitOn '/' with
  | [] => []
  | first :: rest => ofPieces first rest

def isAbsolute (p : Path) : Bool :=
  p.text.toList.head? == some '/'

/-- The spelling of a component; the root is the empty piece in front of the first separator. -/
def spell : Component → List Char
  | .root => []
  | .current => ['.']
  | .parent => ['.', '.']
  | .name n => n

def render : List Component → List Char
  | [.root] => ['/']
  | cs => ['/'].intercalate (cs.map spell)

/-- The name of the module in the file at `p`: the components after a leading `.`, plainly spelled.
A path without any such component names itself. -/
def moduleName (p : Path) : String :=
  match p.components.dropWhile (· = .current) with
  | [] => p.text
  | cs => String.ofList (render cs)

/-- The last component, if it is a name. -/
def fileName? (p : Path) : Option String :=
  match p.components.getLast? with
  | some (.name n) => some (String.ofList n)
  | _ => none

/-- What follows the last dot of the file name. A dot in front of the name starts no extension. -/
def extension? (p : Path) : Option String := do
  let name ← p.fileName?
  let reversed := name.toList.reverse
  let after := reversed.takeWhile (· ≠ '.')
  match reversed.dropWhile (· ≠ '.') with
  | [] | ['.'] => none
  | _ => some (String.ofList after.reverse)

/-- Whether a piece means nothing behind a separator. -/
def isIdle (piece : List Char) : Bool :=
  piece = [] || piece = ['.']

/-- Pieces without the idle ones at the end. -/
def dropIdle (pieces : List (List Char)) : List (List Char) :=
  (pieces.reverse.dropWhile isIdle).reverse

/-- The text of pieces joined by separators; a lone empty piece is the root. -/
def joinPieces : List (List Char) → Path
  | [[]] => ⟨"/"⟩
  | pieces => ⟨String.ofList (['/'].intercalate pieces)⟩

/-- The path without its last component, spelled as it was. -/
def parent? (p : Path) : Option Path :=
  match p.text.toList.splitOn '/' with
  | [] => none
  | first :: rest =>
    match (dropIdle rest).reverse with
    | [] => if first = [] then none else some ⟨""⟩
    | _ :: above => some (joinPieces (first :: dropIdle above.reverse))

/-- `right` below `left`: one separator between them unless `left` is empty or ends in one. An
absolute `right` stands alone. -/
def join (left right : Path) : Path :=
  if right.isAbsolute then right
  else if left.text.isEmpty || left.text.toList.getLast? == some '/' then ⟨left.text ++ right.text⟩
  else ⟨left.text ++ "/" ++ right.text⟩

/-- The path with its file name replaced; a path without one is extended. -/
def withFileName (p : Path) (name : String) : Path :=
  match p.fileName?, p.parent? with
  | some _, some above => above.join ⟨name⟩
  | _, _ => p.join ⟨name⟩

/-- What follows the first component when that is the name `name`: idle pieces at either end are
dropped and the rest keeps its spelling. -/
def below? (p : Path) (name : String) : Option Path :=
  match p.text.toList.splitOn '/' with
  | [] => none
  | first :: rest =>
    if first = name.toList then
      match dropIdle (rest.dropWhile isIdle) with
      | [] => some ⟨""⟩
      | pieces => some (joinPieces pieces)
    else none

def extend (p : Path) (suffix : String) : Path :=
  ⟨p.text ++ suffix⟩

end Path

end Mend

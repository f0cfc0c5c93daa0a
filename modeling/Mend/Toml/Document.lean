import Mend.Toml.Scalar

/-!
# TOML documents

A document is a sequence of lines: blank ones, headers that open a table, and assignments to the
table opened last. Reading has no other result than the table of the whole document; a text that
breaks a rule has none.

* `value` : a value of any kind, with bounded nesting;
* `Statement`, `statements` : the lines of a document that say something;
* `Document.table?` : what the statements amount to;
* `Document.ofString?` : the table of a text.
-/

namespace Mend.Toml

open Reader

/-- The number of levels that arrays, tables in braces and dotted keys may have. -/
def depthLimit : Nat := 79

/-! ## Between tokens -/

/-- Gets past white space within a line. -/
def space : Reader Unit := do
  let _ ← run isSpace

/-- Gets past the end of a line: white space, a comment, and a line end or the end of the text. -/
def lineEnd : Reader Unit := do
  space
  if ← skip ['#'] then
    let _ ← run isPlain
  match ← peek? with
  | none => return
  | some _ => expect ['\n']

/-- What follows white space, line ends and whole comments; `comment` says that the text starts
within a comment. -/
def dropFiller (comment : Bool) : List Char → List Char
  | [] => []
  | c :: rest =>
    if c = '\n' then dropFiller false rest
    else if comment then (if isPlain c then dropFiller true rest else c :: rest)
    else if isSpace c then dropFiller false rest
    else if c = '#' then dropFiller true rest
    else c :: rest

/-- Gets past white space, line ends and comments. -/
def filler : Reader Unit :=
  modify (dropFiller false)

/-! ## Keys -/

/-- Whether a character may stand in a key without quotes. -/
def isBare (c : Char) : Bool :=
  c.isAlphanum || c = '_' || c = '-'

/-- One part of a key: quoted on one line, or bare. -/
def keyPart : Reader String := do
  if ← skip ['"'] then body basicBody
  else if ← skip ['\x27'] then body literalBody
  else
    match ← run isBare with
    | [] => failure
    | cs => return String.ofList cs

/-- The parts of a key with dots between them, at most the given number. -/
def keyParts : Nat → Reader (List String × String)
  | 0 => failure
  | n + 1 => do
    space
    let part ← keyPart
    space
    if ← skip ['.'] then
      let (path, last) ← keyParts n
      return (part :: path, last)
    return ([], part)

/-- A key: the path in front of its last part, and that part. -/
def key : Reader (List String × String) :=
  keyParts depthLimit

/-! ## Values -/

/-- The elements of an array, from behind its bracket or a comma. -/
def arrayItems (element : Reader Value) : Nat → Reader (List Value)
  | 0 => failure
  | n + 1 => do
    filler
    if ← skip [']'] then return []
    let v ← element
    filler
    if ← skip [','] then return v :: (← arrayItems element n)
    expect [']']
    return [v]

/-- The assignments of a table in braces, added to the entries before them. -/
def inlinePairs (element : Reader Value) : Nat → Entries → Reader Entries
  | 0, _ => failure
  | n + 1, es => do
    let (path, last) ← key
    expect ['=']
    space
    let v ← element
    space
    match es.assign path last v .header with
    | none => failure
    | some es =>
      if ← skip [','] then inlinePairs element n es
      else
        expect ['\x7d']
        return es

/-- A string, a truth value, a number or a time. -/
def scalar : Reader Value := do
  match ← peek? with
  | some '"' | some '\x27' => return .string (← string)
  | some 't' =>
    expect ['t', 'r', 'u', 'e']
    return .boolean true
  | some 'f' =>
    expect ['f', 'a', 'l', 's', 'e']
    return .boolean false
  | _ => number

/-- A value with arrays and tables nested no deeper than the given number of levels. -/
def value : Nat → Reader Value
  | 0 => scalar
  | depth + 1 => do
    if ← skip ['['] then
      return .array (← arrayItems (value depth) ((← get).length + 1))
    if ← skip ['\x7b'] then
      space
      if ← skip ['\x7d'] then return .table .inline []
      return .table .inline (← inlinePairs (value depth) ((← get).length + 1) [])
    scalar

/-! ## Lines -/

/-- What a line says. -/
inductive Statement where
  | table (path : List String) (key : String)
  | element (path : List String) (key : String)
  | assign (path : List String) (key : String) (v : Value)

def header : Reader Statement := do
  if ← skip ['[', '['] then
    let (path, last) ← key
    expect [']', ']']
    return .element path last
  expect ['[']
  let (path, last) ← key
  expect [']']
  return .table path last

def assignment : Reader Statement := do
  let (path, last) ← key
  expect ['=']
  space
  return .assign path last (← value depthLimit)

/-- The statements of a text; every step gets past at least one character. -/
def statements : Nat → Reader (List Statement)
  | 0 => failure
  | n + 1 => do
    space
    match ← peek? with
    | none => return []
    | some '\n' | some '#' =>
      lineEnd
      statements n
    | some c =>
      let s ← if c = '[' then header else assignment
      lineEnd
      return s :: (← statements n)

namespace Document

/-- A document being built: what it holds, and the path of the table opened last. -/
structure State where
  entries : Entries
  current : List String

def State.step (st : State) : Statement → Option State
  | .table path key => do return ⟨← st.entries.openTable path key, path ++ [key]⟩
  | .element path key => do return ⟨← st.entries.openElement path key, path ++ [key]⟩
  | .assign path key v => do
    return { st with entries := ← within false (Entries.assign path key v) st.current .header st.entries }

def table? (ss : List Statement) : Option Entries := do
  return (← ss.foldlM State.step ⟨[], []⟩).entries

def joinLineEnds : List Char → List Char
  | '\r' :: '\n' :: rest => '\n' :: joinLineEnds rest
  | c :: rest => c :: joinLineEnds rest
  | [] => []

/-- The table of a text. A byte order mark may stand in front. -/
def ofString? (s : String) : Option Entries := do
  let cs := match s.toList with
    | '\ufeff' :: rest => rest
    | cs => cs
  let cs := joinLineEnds cs
  let (ss, _) ← statements (cs.length + 1) cs
  table? ss

end Document

end Mend.Toml

import Mend.Facts.Print
import Mend.Facts.Store

/-!
# The store as a file

A store on disk is a heading and a JSON text: the names of the modules, then the rows of every other table. An
empty file is an empty store.

* `Store.print` : the text of a store;
* `Store.parse?` : the store of a text;
* `Storage.ofName?` : what the name of a database stands for;
* `Store.openFile`, `Store.saveFile` : a store at a path.
-/

namespace Mend

open Facts
open Json (quoted array Reading)

namespace Store

/-! ## Rows -/

def printTable {α : Type} (cells : α → List String) (t : Table α) : String :=
  array (t.rows.map fun r => array (Text.Decimal.ofNat r.id :: cells r.cells))

def element {α : Type} (decode : Reading → Except DecodeError α) : Walk α :=
  required "store" "element" decode

def number : Walk Nat := do
  let n ← element (decodeScalar 0)
  ofShape (n.toNat "number")

def decodeRow {α : Type} (cells : Walk α) : Reading → Except DecodeError (Row α)
  | .array items => do
    let walk : Walk (Row α) := do
      let id ← number
      return ⟨id, ← cells⟩
    walk.run' items
  | value => mismatch .sequence value

/-- The rows of a table, which have to be in order. -/
def decodeTable {α : Type} (cells : Walk α) : Reading → Except DecodeError (Table α)
  | .array items => do
    match Table.ofRows? (← decodeAll (decodeRow cells) items) with
    | some t => return t
    | none => .error (.text .malformed)
  | value => mismatch .sequence value

def decodeColumns {α : Type} (interpret : Fact → Option α) : Walk α := do
  match interpret (← element (decodeFact 0)) with
  | some a => return a
  | none => throw (.text .malformed)

/-! ## Tables -/

def printFunctionRow (r : FunctionRow) : List String :=
  [quoted r.moduleName, quoted r.name, (Fact.funcDecl r.span).print]

def printGlobalRow (r : GlobalRow) : List String :=
  [quoted r.moduleName, (Fact.varType r.declared).print]

def printVarRow (r : VarRow) : List String :=
  [Text.Decimal.ofNat r.functionId, (Fact.varType r.declared).print]

def printCallRow (r : CallRow) : List String :=
  [quoted r.moduleName, Text.Decimal.ofNat r.functionId, (Fact.callType r.span r.expr r.callee []).print]

def printArgumentRow (r : ArgumentRow) : List String :=
  [Text.Decimal.ofNat r.callId, quoted r.argument.name, quoted r.argument.typeName]

def printStatementRow (r : StatementRow) : List String :=
  [quoted r.moduleName, Text.Decimal.ofNat r.functionId, (Fact.stmtType r.span r.expr).print]

def heading : String := "fact store 1\n"

def print (s : Store) : String :=
  heading ++ array
    [array (s.names.map quoted), printTable printFunctionRow s.functionRows,
      printTable printGlobalRow s.globalRows, printTable printVarRow s.varRows,
      printTable printCallRow s.callRows, printTable printArgumentRow s.argumentRows,
      printTable printStatementRow s.statementRows]

def decodeFunctionRow : Walk FunctionRow := do
  let moduleName ← element decodeString
  let name ← element decodeString
  let span ← decodeColumns Fact.declaredSpan?
  return ⟨moduleName, name, span⟩

def decodeGlobalRow : Walk GlobalRow := do
  let moduleName ← element decodeString
  let declared ← decodeColumns Fact.keptVariable?
  return ⟨moduleName, declared⟩

def decodeVarRow : Walk VarRow := do
  let functionId ← number
  let declared ← decodeColumns Fact.keptVariable?
  return ⟨functionId, declared⟩

def decodeCallRow : Walk CallRow := do
  let moduleName ← element decodeString
  let functionId ← number
  let call ← decodeColumns (Fact.call? moduleName)
  return ⟨moduleName, functionId, call.expr, call.callee, call.span⟩

def decodeArgumentRow : Walk ArgumentRow := do
  let callId ← number
  let name ← element decodeString
  let typeName ← element decodeString
  return ⟨callId, name, typeName⟩

def decodeStatementRow : Walk StatementRow := do
  let moduleName ← element decodeString
  let functionId ← number
  let statement ← decodeColumns (Fact.statement? moduleName)
  return ⟨moduleName, functionId, statement.span, statement.expr⟩

/-- The names of the modules, each of which stands there once. -/
def decodeNames : Reading → Except DecodeError (Subtype (List.Nodup (α := String)))
  | .array items => do
    let names ← decodeAll decodeString items
    if h : names.Nodup then return ⟨names, h⟩ else .error (.text .malformed)
  | value => mismatch .sequence value

def decodeStore : Reading → Except DecodeError Store
  | .array items => do
    let walk : Walk Store := do
      let ⟨names, nodup⟩ ← element decodeNames
      let functionRows ← element (decodeTable decodeFunctionRow)
      let globalRows ← element (decodeTable decodeGlobalRow)
      let varRows ← element (decodeTable decodeVarRow)
      let callRows ← element (decodeTable decodeCallRow)
      let argumentRows ← element (decodeTable decodeArgumentRow)
      let statementRows ← element (decodeTable decodeStatementRow)
      return { names, nodup, functionRows, globalRows, varRows, callRows, argumentRows, statementRows }
    walk.run' items
  | value => mismatch .sequence value

def parse? (text : String) : Option Store :=
  if text.isEmpty then some .empty
  else if heading.toList.isPrefixOf text.toList then
    (parseWith decodeStore (.ofString (String.ofList (text.toList.drop heading.length)))).toOption
  else none

end Store

/-! ## Names of databases -/

/-- Where a store is kept: nowhere but in memory, or in the file at a place. A file may have to be
there already. -/
inductive Storage where
  | transient
  | file (place : Place) (mustExist : Bool)

namespace Storage

def hexDigit? (c : Char) : Option Nat :=
  if c.isDigit then some (c.toNat - '0'.toNat)
  else if 'a' ≤ c.toLower ∧ c.toLower ≤ 'f' then some (c.toLower.toNat - 'a'.toNat + 10)
  else none

/-- A part of an address with its escapes `%xx` read. -/
def unescape : List Char → List UInt8
  | [] => []
  | '%' :: a :: b :: cs =>
    match hexDigit? a, hexDigit? b with
    | some x, some y => (x * 16 + y).toUInt8 :: unescape cs
    | _, _ => (String.singleton '%').toUTF8.toList ++ unescape (a :: b :: cs)
  | c :: cs => (String.singleton c).toUTF8.toList ++ unescape cs

def unescaped (cs : List Char) : Option String :=
  Text.Utf8.text? (unescape cs).toByteArray

/-- The file name of an address behind its scheme: what follows an authority that is empty or the own
host. -/
def addressPath? : List Char → Option (List Char)
  | '/' :: '/' :: cs =>
    let authority := cs.takeWhile (· ≠ '/')
    if authority.isEmpty || authority = "localhost".toList then some (cs.drop authority.length) else none
  | cs => some cs

/-- How an address asks to be opened; `none` for a wish that cannot be met. -/
def mode? (query : List Char) : Option String :=
  let settings := (query.splitOn '&').map fun s => (s.takeWhile (· ≠ '='), (s.dropWhile (· ≠ '=')).drop 1)
  let asked (key : String) : List String :=
    settings.filterMap fun (k, v) => if k = key.toList then some (String.ofList v) else none
  if !(asked "cache").all ["shared", "private"].contains then none
  else
    match (asked "mode").getLast? with
    | none => some "rwc"
    | some m => if ["ro", "rw", "rwc", "memory"].contains m then some m else none

/-- The place a name leads to by its spelling alone, from a directory. -/
def spelledPlace (start : Place) (p : Path) : Place :=
  (p.text.toList.splitOn '/').foldl
    (fun place piece =>
      if Path.isIdle piece then place
      else if piece = ['.', '.'] then place.dropLast
      else place ++ [String.ofList piece])
    (if p.isAbsolute then [] else start)

def ofFileName (files : FileTree) (name : String) (mustExist : Bool) : Storage :=
  if name.isEmpty || name = ":memory:" then .transient
  else .file (spelledPlace files.workingDirectory ⟨name⟩) mustExist

/-- What the name of a database stands for: a file, or an address that starts with `file:`. An empty
name and `:memory:` stand for a store that is kept nowhere. -/
def ofName? (files : FileTree) (p : Path) : Option Storage :=
  let cs := p.text.toList
  if cs.contains '\x00' then none
  else if !("file:".toList.isPrefixOf cs) then some (ofFileName files p.text false)
  else do
    let path ← addressPath? ((cs.drop 5).takeWhile (· ≠ '#'))
    let name ← unescaped (path.takeWhile (· ≠ '?'))
    let mode ← mode? ((path.dropWhile (· ≠ '?')).drop 1)
    if mode = "memory" then some .transient else some (ofFileName files name (mode ≠ "rwc"))

end Storage

namespace Store

/-- Keeps a store at a path. A file that has been taken away meanwhile does not come back. -/
def saveFile (s : Store) (path : Path) (files : FileTree) : Except FactError FileTree :=
  match Storage.ofName? files path with
  | none => .error .database
  | some .transient => .ok files
  | some (.file place _) =>
    match files.get? place with
    | some (.file _ executable) => .ok (files.putFile place s.print.toUTF8 executable)
    | _ => .ok files

/-- Opens the store at a path, with the directories on the way to it; a missing one starts empty. -/
def openFile (path : Path) (files : FileTree) : Except FactError (Store × FileTree) := do
  let files ← match path.parent? with
    | some above => (files.makeDirs above).mapError .file
    | none => .ok files
  match Storage.ofName? files path with
  | none => .error .database
  | some .transient => .ok (.empty, files)
  | some (.file place mustExist) =>
    match files.get? place with
    | some (.file content _) =>
      match (Text.Utf8.text? content).bind parse? with
      | some s => .ok (s, files)
      | none => .error .database
    | some _ => .error .database
    | none =>
      let above := files.get? place.dropLast
      if mustExist || !above.any (·.same .directory) || place.any (FileTree.isOverlong ·.toList) then
        .error .database
      else .ok (.empty, files.putFile place .empty false)

end Store

end Mend

import Mend.Facts.Error
import Mend.Facts.Record
import Mend.Facts.Table

/-!
# The fact store

The store keeps what exports say in seven tables: modules by their names; functions and globals, which refer
to a module; variables, calls and statements, which refer to a function by its number; arguments, which refer
to a call. A module that is collected again is deleted from all of them and put in anew, in one transaction.

* `Store` : the tables; the rows of each;
* `Store.functions`, `Store.globals`, `Store.statements` : what is known of a module;
* `Store.functionContaining`, `Store.statementAt` : what stands at a location;
* `Store.removeModule` : the deletions;
* `Txn`, `Txn.insertEntries` : insertions, which fail where what a row refers to is not there;
* `Txn.collect` : the body of a transaction; `Txn.transaction` : a body that is undone if it fails;
* `Store.ingest`, `Store.collect` : takes in an export, in place of what was known of its module.
-/

namespace Mend

/-! ## Rows -/

structure FunctionRow where
  moduleName : String
  name : String
  span : Span
deriving DecidableEq

structure GlobalRow where
  moduleName : String
  declared : Variable
deriving DecidableEq

structure VarRow where
  functionId : Nat
  declared : Variable
deriving DecidableEq

structure CallRow where
  moduleName : String
  functionId : Nat
  expr : String
  callee : String
  span : Span
deriving DecidableEq

structure ArgumentRow where
  callId : Nat
  argument : Argument
deriving DecidableEq

structure StatementRow where
  moduleName : String
  functionId : Nat
  span : Span
  expr : String
deriving DecidableEq

/-- The facts of all modules. -/
@[ext] structure Store where
  names : List String
  nodup : names.Nodup
  functionRows : Table FunctionRow
  globalRows : Table GlobalRow
  varRows : Table VarRow
  callRows : Table CallRow
  argumentRows : Table ArgumentRow
  statementRows : Table StatementRow
deriving DecidableEq

/-- What the table of modules says of one. -/
structure ModuleRecord where
  name : String
deriving DecidableEq

/-- Counts of what one collect has stored. -/
structure CollectStats where
  functions : Nat := 0
  skippedFunctions : Nat := 0
  globals : Nat := 0
  vars : Nat := 0
  calls : Nat := 0
  statements : Nat := 0
deriving DecidableEq

namespace CollectStats

def countGlobal (c : CollectStats) : CollectStats :=
  { c with globals := c.globals + 1 }

/-- Counts a record of a function. Another declaration of the function is not counted. -/
def countRecord (c : CollectStats) : Fact → CollectStats
  | .funcDecl _ => c
  | .varType _ => { c with vars := c.vars + 1 }
  | .callType .. => { c with calls := c.calls + 1 }
  | .stmtType .. => { c with statements := c.statements + 1 }

end CollectStats

namespace Store

def empty : Store := ⟨[], .nil, .empty, .empty, .empty, .empty, .empty, .empty⟩

theorem nodup_filter (s : Store) (p : String → Bool) : (s.names.filter p).Nodup := s.nodup.filter p

theorem nodup_append (s : Store) {name : String} (h : name ∉ s.names) : (s.names ++ [name]).Nodup := by
  refine List.nodup_append.mpr ⟨s.nodup, List.pairwise_singleton _ _, ?_⟩
  rintro a ha b hb rfl
  exact h (List.mem_singleton.mp hb ▸ ha)

/-! ## Queries -/

def module? (s : Store) (name : String) : Option ModuleRecord :=
  (s.names.find? fun n => n = name).map ModuleRecord.mk

/-- The names of all modules, in order. -/
def moduleNames (s : Store) : List String :=
  s.names.mergeSort fun a b => a ≤ b

/-- The globals of a module, in the order they were collected. -/
def globals (s : Store) (name : String) : List Variable :=
  (s.globalRows.select (fun r => r.moduleName = name) Row.byId).map (·.cells.declared)

def vars (s : Store) (functionId : Nat) : List Variable :=
  (s.varRows.select (fun r => r.functionId = functionId) Row.byId).map (·.cells.declared)

def arguments (s : Store) (callId : Nat) : List Argument :=
  (s.argumentRows.select (fun r => r.callId = callId) Row.byId).map (·.cells.argument)

def callSite (s : Store) (r : Row CallRow) : CallSite :=
  ⟨r.cells.moduleName, r.cells.expr, r.cells.callee, r.cells.span, s.arguments r.id⟩

def calls (s : Store) (functionId : Nat) : List CallSite :=
  (s.callRows.select (fun r => r.functionId = functionId) Row.byId).map s.callSite

def statement (r : Row StatementRow) : Statement :=
  ⟨r.cells.moduleName, r.cells.span, r.cells.expr⟩

def functionStatements (s : Store) (functionId : Nat) : List Statement :=
  (s.statementRows.select (fun r => r.functionId = functionId) Row.byId).map statement

def hydrate (s : Store) (r : Row FunctionRow) : FunctionDef :=
  ⟨r.id, r.cells.moduleName, r.cells.name, r.cells.span, s.vars r.id, s.calls r.id,
    s.functionStatements r.id⟩

/-- The functions of a module, in the order they were collected. -/
def functions (s : Store) (name : String) : List FunctionDef :=
  (s.functionRows.select (fun r => r.moduleName = name) Row.byId).map s.hydrate

def functionNamed (s : Store) (moduleName name : String) : Option FunctionDef :=
  (s.functionRows.select (fun r => r.moduleName = moduleName && r.name = name) Row.byId).head?.map s.hydrate

/-- The order of the statements of a module: by start, and by number where they start together. -/
def startsFirst (a b : Row StatementRow) : Bool :=
  a.cells.span.startLine < b.cells.span.startLine ||
    (a.cells.span.startLine == b.cells.span.startLine &&
      (a.cells.span.startColumn < b.cells.span.startColumn ||
        (a.cells.span.startColumn == b.cells.span.startColumn && a.id ≤ b.id)))

/-- The statements of a module, in source order. -/
def statements (s : Store) (name : String) : List Statement :=
  (s.statementRows.select (fun r => r.moduleName = name) startsFirst).map statement

/-- Whether a function starts at a point or before it, and ends there or behind it. -/
def reaches (point : Coordinate) (f : FunctionRow) : Bool :=
  (f.span.startLine < point.line ||
      (point.line == f.span.startLine && f.span.startColumn ≤ point.column)) &&
    (point.line < f.span.endLine || (point.line == f.span.endLine && point.column ≤ f.span.endColumn))

/-- The order in which functions around a point are looked for: by start, the later one first, and by
number where they start together. -/
def comesFirst (f g : Row FunctionRow) : Bool :=
  g.cells.span.startLine < f.cells.span.startLine ||
    (f.cells.span.startLine == g.cells.span.startLine &&
      (g.cells.span.startColumn < f.cells.span.startColumn ||
        (f.cells.span.startColumn == g.cells.span.startColumn && f.id ≤ g.id)))

/-- The function that contains a location; of several, the one that starts last. -/
def functionContaining (s : Store) (l : Location) : Option FunctionDef :=
  (s.functionRows.select (fun r => r.moduleName = l.moduleName && reaches l.point r) comesFirst).head?.map
    s.hydrate

/-- The statement that starts exactly at a location; of several, the first one collected. -/
def statementAt (s : Store) (l : Location) : Option Statement :=
  (s.statementRows.select (fun r => r.moduleName = l.moduleName && r.span.start = l.point) Row.byId).head?.map
    statement

/-! ## Deleting

What refers to a deleted row is deleted with it. -/

def deleteArguments (s : Store) (p : ArgumentRow → Bool) : Store :=
  { s with argumentRows := s.argumentRows.delete p }

def deleteCalls (s : Store) (p : CallRow → Bool) : Store :=
  let gone := s.callRows.idsWhere p
  { s with callRows := s.callRows.delete p }.deleteArguments fun r => gone.contains r.callId

def deleteStatements (s : Store) (p : StatementRow → Bool) : Store :=
  { s with statementRows := s.statementRows.delete p }

def deleteVars (s : Store) (p : VarRow → Bool) : Store :=
  { s with varRows := s.varRows.delete p }

def deleteGlobals (s : Store) (p : GlobalRow → Bool) : Store :=
  { s with globalRows := s.globalRows.delete p }

def deleteFunctions (s : Store) (p : FunctionRow → Bool) : Store :=
  let gone := s.functionRows.idsWhere p
  let s := { s with functionRows := s.functionRows.delete p }
  let s := s.deleteVars fun r => gone.contains r.functionId
  let s := s.deleteCalls fun r => gone.contains r.functionId
  s.deleteStatements fun r => gone.contains r.functionId

def deleteName (s : Store) (name : String) : Store :=
  { s with names := s.names.filter (· ≠ name), nodup := s.nodup_filter _ }

def deleteModule (s : Store) (name : String) : Store :=
  let s := s.deleteName name
  let s := s.deleteFunctions fun r => r.moduleName = name
  s.deleteGlobals fun r => r.moduleName = name

/-- Deletes a module and all that was collected for it, table by table. -/
def removeModule (s : Store) (name : String) : Store :=
  let s := s.deleteArguments fun r => (s.callRows.idsWhere fun c => c.moduleName = name).contains r.callId
  let s := s.deleteCalls fun r => r.moduleName = name
  let s := s.deleteStatements fun r => r.moduleName = name
  let s := s.deleteVars fun r =>
    (s.functionRows.idsWhere fun f => f.moduleName = name).contains r.functionId
  let s := s.deleteGlobals fun r => r.moduleName = name
  let s := s.deleteFunctions fun r => r.moduleName = name
  s.deleteModule name

def setSpan (s : Store) (id : Nat) (span : Span) : Store :=
  { s with functionRows := s.functionRows.update id fun r => { r with span } }

end Store

/-! ## Inserting -/

/-- A step of a transaction; what a failing one has changed stays until the transaction is undone. -/
abbrev Txn := ExceptT FactError (StateM Store)

namespace Txn

/-- Puts a row into a table, if what it refers to is there. The result is the number of the row. -/
def insertRow {α : Type} (table : Store → Table α) (put : Store → Table α → Store)
    (refers : Store → α → Bool) (cells : α) : Txn Nat := do
  let s ← get
  if refers s cells then
    set (put s ((table s).insert cells))
    return (table s).nextId
  else throw .database

/-- A name that is there already is refused. -/
def insertModule (name : String) : Txn Unit := do
  let s ← get
  if h : name ∈ s.names then throw .database
  else set { s with names := s.names ++ [name], nodup := s.nodup_append h : Store }

def insertFunction : FunctionRow → Txn Nat :=
  insertRow (·.functionRows) (fun s t => { s with functionRows := t }) fun s r => s.names.contains r.moduleName

def insertGlobal : GlobalRow → Txn Nat :=
  insertRow (·.globalRows) (fun s t => { s with globalRows := t }) fun s r => s.names.contains r.moduleName

def insertVar : VarRow → Txn Nat :=
  insertRow (·.varRows) (fun s t => { s with varRows := t }) fun s r =>
    s.functionRows.ids.contains r.functionId

def insertCall : CallRow → Txn Nat :=
  insertRow (·.callRows) (fun s t => { s with callRows := t }) fun s r =>
    s.functionRows.ids.contains r.functionId

def insertArgument : ArgumentRow → Txn Nat :=
  insertRow (·.argumentRows) (fun s t => { s with argumentRows := t }) fun s r =>
    s.callRows.ids.contains r.callId

def insertStatement : StatementRow → Txn Nat :=
  insertRow (·.statementRows) (fun s t => { s with statementRows := t }) fun s r =>
    s.functionRows.ids.contains r.functionId

def insertArguments (callId : Nat) : List Argument → Txn Unit
  | [] => return ()
  | a :: rest => do
    let _ ← insertArgument ⟨callId, a⟩
    insertArguments callId rest

/-- Puts in a record of a function. A declaration behind the first one tells where the body is. -/
def insertRecord (moduleName : String) (functionId : Nat) : Fact → Txn Unit
  | .funcDecl span => modify fun s => s.setSpan functionId span
  | .varType v => do
    let _ ← insertVar ⟨functionId, clampSize v⟩
  | .callType span expr callee arguments => do
    let callId ← insertCall ⟨moduleName, functionId, expr, callee, span⟩
    insertArguments callId arguments
  | .stmtType span expr => do
    let _ ← insertStatement ⟨moduleName, functionId, span, expr⟩

def insertRecords (moduleName : String) (functionId : Nat) : List Fact → CollectStats → Txn CollectStats
  | [], c => return c
  | record :: rest, c => do
    insertRecord moduleName functionId record
    insertRecords moduleName functionId rest (c.countRecord record)

/-- Puts in a function with its records, if they start with its declaration; otherwise it is skipped. -/
def insertEntry (moduleName name : String) (records : List Fact) (c : CollectStats) : Txn CollectStats :=
  match records with
  | .funcDecl span :: rest => do
    let id ← insertFunction ⟨moduleName, name, span⟩
    let c ← insertRecords moduleName id rest c
    return { c with functions := c.functions + 1 }
  | _ => return { c with skippedFunctions := c.skippedFunctions + 1 }

def insertEntries (moduleName : String) : List (String × List Fact) → CollectStats → Txn CollectStats
  | [], c => return c
  | (name, records) :: rest, c => do
    let c ← insertEntry moduleName name records c
    insertEntries moduleName rest c

/-- Puts in the variables that records declare, up to a record of another kind, which is refused. -/
def insertGlobals (moduleName : String) : List Fact → CollectStats → Txn CollectStats
  | [], c => return c
  | .varType v :: rest, c => do
    let _ ← insertGlobal ⟨moduleName, clampSize v⟩
    insertGlobals moduleName rest c.countGlobal
  | fact :: _, _ =>
    throw (.malformedFact (fact.tag.text ++ " record among globals of " ++ moduleName))

/-- Puts an export in the place of what was known of its module. -/
def collect (e : Export) : Txn CollectStats := do
  modify fun s => s.removeModule e.moduleName
  insertModule e.moduleName
  let c ← insertGlobals e.moduleName e.globals {}
  insertEntries e.moduleName e.functions c

/-- Carries out a transaction. What the body makes of the store is committed if the body ends well; if it
fails it is rolled back to the store that the transaction began with. -/
def transaction {α : Type} (body : Txn α) : Txn α := do
  let begun ← get
  try body
  catch e =>
    set begun
    throw e

end Txn

namespace Store

/-- Takes in an export, in place of what was known of its module. -/
def ingest (s : Store) (e : Export) : Except FactError CollectStats × Store :=
  (Txn.collect e).transaction.run s

/-- The store that takes in an export, if it is accepted. -/
def collect (s : Store) (e : Export) : Except FactError (Store × CollectStats) :=
  match s.ingest e with
  | (.ok stats, s') => .ok (s', stats)
  | (.error err, _) => .error err

end Store

end Mend

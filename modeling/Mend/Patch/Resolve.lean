import Mend.Facts.Source
import Mend.Patch.Choice
import Mend.Patch.Term

/-!
# Resolving terms at a location

All facts a term needs are looked up first, from left to right; what is left is a choice between
texts. The enclosing function is looked up when the first hole asks for it and kept from then on.

* `Unresolved` : why a term has no meaning at a location;
* `Resolution` : the monad of a resolution, which keeps the enclosing function;
* `Expr.resolve`, `Stmt.resolve`, `resolveList` : the choices of a term;
* `Stmt.view`, `viewList` : a term with its holes named and its anchor filled in.
-/

namespace Mend.Patch

/-- Why a term could not be resolved at a location. -/
inductive Unresolved where
  | noEnclosingFunction (location : Location)
  | noStatement (location : Location)
  | facts (e : FactError)
deriving DecidableEq

def Unresolved.message : Unresolved → String
  | .noEnclosingFunction l => "no function encloses " ++ l.text
  | .noStatement l => "no statement starts at " ++ l.text
  | .facts e => e.message

/-- Where a term is resolved. -/
structure Situation (m : Type → Type) where
  source : FactSource m
  location : Location

/-- A resolution, with the enclosing function once it is known. -/
abbrev Resolution (m : Type → Type) := ExceptT Unresolved (StateT (Option FunctionDef) m)

/-- The operators of arithmetic, in the order they are tried. -/
def mathOperators : List String := ["+", "-", "/", "*", "<<"]

/-- The operators of comparison, in the order they are tried. -/
def compareOperators : List String := ["==", "!=", "<=", "<", ">=", ">"]

def lessThanOperators : List String := ["<"]

/-- The names of the variables of a function, in the order of their declarations. -/
def variableNames (f : FunctionDef) : List String :=
  f.vars.map (·.name)

/-- The size expressions of the arrays of a function, in the order of their declarations. -/
def bufferSizes (f : FunctionDef) : List String :=
  (f.vars.filter (·.isArray)).map fun v => "sizeof(" ++ v.name ++ ")"

section

variable {m : Type → Type} [Monad m]

/-- The function around the location, looked up at most once. -/
def Situation.enclosing (here : Situation m) : Resolution m FunctionDef := do
  match ← get with
  | some f => return f
  | none =>
    match ← (here.source.functionContaining here.location : m _) with
    | .error e => throw (.facts e)
    | .ok none => throw (.noEnclosingFunction here.location)
    | .ok (some f) =>
      set (some f)
      return f

def Situation.anchored (here : Situation m) : Resolution m String := do
  match ← (here.source.statementAt here.location : m _) with
  | .error e => throw (.facts e)
  | .ok none => throw (.noStatement here.location)
  | .ok (some s) => return s.terminated

def Expr.resolve (here : Situation m) : Expr → Resolution m Choice
  | .literal text => return .leaves [text]
  | .variable => return .leaves (variableNames (← here.enclosing))
  | .bufferSize => return .leaves (bufferSizes (← here.enclosing))
  | .math lhs rhs => do
    let l ← lhs.resolve here
    let r ← rhs.resolve here
    return .binary l r mathOperators
  | .compare lhs rhs => do
    let l ← lhs.resolve here
    let r ← rhs.resolve here
    return .binary l r compareOperators
  | .lessThan lhs rhs => do
    let l ← lhs.resolve here
    let r ← rhs.resolve here
    return .binary l r lessThanOperators

mutual

def Stmt.resolve (here : Situation m) : Stmt → Resolution m Choice
  | .ifThen condition body => do
    let c ← condition.resolve here
    let b ← resolveMembers here body
    return .guarded c (.sequence b)
  | .otherwise body => do
    let b ← resolveMembers here body
    return .wrap (.sequence b) "else \x7b\n" "\n\x7d\n"
  | .ret value => do
    let v ← value.resolve here
    return .wrap v "return " ";"
  | .anchor => return .leaves [← here.anchored]
  | .expr e => e.resolve here

def resolveMembers (here : Situation m) : List Stmt → Resolution m (List Choice)
  | [] => return []
  | s :: ss => do
    let c ← s.resolve here
    let cs ← resolveMembers here ss
    return c :: cs

end

def resolveList (here : Situation m) (body : List Stmt) : Resolution m Choice := do
  return .sequence (← resolveMembers here body)

/-- A resolution from its start, when no function has been looked up. -/
def Resolution.start {α : Type} (r : Resolution m α) : m (Except Unresolved α) := do
  let (result, _) ← (r.run).run none
  return result

def Expr.concretize (here : Situation m) (e : Expr) : m (Except Unresolved Choice) :=
  (e.resolve here).start

def Stmt.concretize (here : Situation m) (s : Stmt) : m (Except Unresolved Choice) :=
  (s.resolve here).start

def concretizeList (here : Situation m) (body : List Stmt) : m (Except Unresolved Choice) :=
  (resolveList here body).start

mutual

/-- A statement with its holes named. Only an anchor asks the source; where no statement starts it is
named as well. -/
def Stmt.view (here : Situation m) : Stmt → ExceptT Unresolved m String
  | .ifThen condition body => do
    let b ← viewList here body
    return "if (" ++ condition.sketch ++ ") \x7b\n" ++ b ++ "\n\x7d\n"
  | .otherwise body => do
    let b ← viewList here body
    return "else \x7b\n" ++ b ++ "\n\x7d\n"
  | .ret value => return "return " ++ value.sketch ++ ";"
  | .anchor => do
    match ← (here.source.statementAt here.location : m _) with
    | .error e => throw (.facts e)
    | .ok none => return "NodeStmt()"
    | .ok (some s) => return s.terminated
  | .expr e => return e.sketch

/-- The views of the members of a statement list, each one followed by a line feed. -/
def viewList (here : Situation m) : List Stmt → ExceptT Unresolved m String
  | [] => return ""
  | s :: ss => do
    let v ← s.view here
    let vs ← viewList here ss
    return v ++ "\n" ++ vs

end

end

end Mend.Patch

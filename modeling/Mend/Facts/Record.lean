import Mend.Facts.Fact

/-!
# Stored records

What the store keeps of an export: variables, calls, statements and the functions that own them.

* `Statement.terminated` : the text of a statement with its semicolon;
* `clampSize` : sizes are kept up to `2 ^ 63 - 1`.
-/

namespace Mend

def recordLocation (moduleName : String) (span : Span) : Location :=
  ⟨⟨moduleName⟩, span.start⟩

structure CallSite where
  moduleName : String
  expr : String
  callee : String
  span : Span
  arguments : List Argument
deriving DecidableEq, Inhabited

def CallSite.location (c : CallSite) : Location := recordLocation c.moduleName c.span

structure Statement where
  moduleName : String
  span : Span
  expr : String
deriving DecidableEq, Inhabited

namespace Statement

def location (s : Statement) : Location := recordLocation s.moduleName s.span

/-- The text of a statement, with a semicolon behind it unless it has one. -/
def terminated (s : Statement) : String :=
  if s.expr.toList.getLast? = some ';' then s.expr else s.expr ++ ";"

end Statement

/-- A function with everything declared and evaluated in it, in the order of the export. -/
structure FunctionDef where
  id : Nat
  moduleName : String
  name : String
  span : Span
  vars : List Variable
  calls : List CallSite
  statements : List Statement
deriving DecidableEq, Inhabited

/-- The largest size that is kept. -/
def maxSize : Nat := 9223372036854775807

/-- A variable as it is kept. -/
def clampSize (v : Variable) : Variable := { v with size := min v.size maxSize }

namespace Fact

def keptVariable? : Fact → Option Variable
  | .varType v => some (clampSize v)
  | _ => none

def call? (moduleName : String) : Fact → Option CallSite
  | .callType span expr callee arguments => some ⟨moduleName, expr, callee, span, arguments⟩
  | _ => none

def statement? (moduleName : String) : Fact → Option Statement
  | .stmtType span expr => some ⟨moduleName, span, expr⟩
  | _ => none

def declaredSpan? : Fact → Option Span
  | .funcDecl span => some span
  | _ => none

end Fact

namespace FunctionDef

def location (f : FunctionDef) : Location := recordLocation f.moduleName f.span

end FunctionDef

end Mend

import Mend.Source.Location

/-!
# Exported facts

What an exporter reports about one compilation unit: positional records, each with a tag and a span,
for the globals and for every function.

* `Variable` : the part that declarations of globals, parameters and locals share;
* `Fact` : one record;
* `Export` : all records of a compilation unit.
-/

namespace Mend

structure Variable where
  name : String
  typeName : String
  span : Span
  isArray : Bool
  size : Nat
deriving DecidableEq, Inhabited

/-- The four kinds of records. -/
inductive Tag where
  | funcDecl
  | varType
  | callType
  | stmtType
deriving DecidableEq

def Tag.text : Tag → String
  | .funcDecl => "func_decl"
  | .varType => "var_type"
  | .callType => "call_type"
  | .stmtType => "stmt_type"

/-- All tags, in the order messages list them. -/
def Tag.all : List Tag := [.funcDecl, .varType, .callType, .stmtType]

def Tag.ofText? (s : String) : Option Tag :=
  Tag.all.find? fun t => t.text = s

/-- An argument of a call: its text and its type. -/
structure Argument where
  name : String
  typeName : String
deriving DecidableEq, Inhabited

/-- One record of an export. -/
inductive Fact where
  | funcDecl (span : Span)
  | varType (declared : Variable)
  | callType (span : Span) (expr callee : String) (arguments : List Argument)
  | stmtType (span : Span) (expr : String)
deriving DecidableEq, Inhabited

namespace Fact

def tag : Fact → Tag
  | .funcDecl .. => .funcDecl
  | .varType .. => .varType
  | .callType .. => .callType
  | .stmtType .. => .stmtType

def span : Fact → Span
  | .funcDecl s => s
  | .varType v => v.span
  | .callType s .. => s
  | .stmtType s .. => s

end Fact

/-- Everything exported for one compilation unit. Function names may repeat. -/
structure Export where
  moduleName : String
  globals : List Fact
  functions : List (String × List Fact)
deriving DecidableEq, Inhabited

end Mend

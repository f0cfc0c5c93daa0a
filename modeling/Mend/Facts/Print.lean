import Mend.Facts.Fact
import Mend.Json.Print

/-!
# Printing facts

Records as an exporter writes them: the tag, the span, the fields of the tag.

* `Fact.print` : a record;
* `Export.print` : an export, as an array of its three parts or as an object.
-/

namespace Mend

open Json (quoted array)

def Span.printed (s : Span) : List String :=
  [s.startLine, s.startColumn, s.endLine, s.endColumn].map Text.Decimal.ofNat

def Fact.print : Fact → String
  | .funcDecl span => array (quoted Tag.funcDecl.text :: span.printed)
  | .varType v =>
    array (quoted Tag.varType.text :: v.span.printed ++
      [quoted v.name, quoted v.typeName, if v.isArray then "1" else "0", Text.Decimal.ofNat v.size])
  | .callType span expr callee arguments =>
    array (quoted Tag.callType.text :: span.printed ++ [quoted expr, quoted callee] ++
      arguments.map fun a => array [quoted a.name, quoted a.typeName])
  | .stmtType span expr => array (quoted Tag.stmtType.text :: span.printed ++ [quoted expr])

def printFacts (facts : List Fact) : String := array (facts.map Fact.print)

def printFunctions (functions : List (String × List Fact)) : String :=
  "\x7b" ++ ",".intercalate (functions.map fun (name, facts) => quoted name ++ ":" ++ printFacts facts)
    ++ "\x7d"

def Export.printArray (e : Export) : String :=
  array [quoted e.moduleName, printFacts e.globals, printFunctions e.functions]

/-- An export as an object. -/
def Export.print (e : Export) : String :=
  "\x7b\"module_name\":" ++ quoted e.moduleName ++ ",\"globals\":" ++ printFacts e.globals ++
    ",\"functions\":" ++ printFunctions e.functions ++ "\x7d"

end Mend

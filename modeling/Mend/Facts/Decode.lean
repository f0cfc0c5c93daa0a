import Mend.Facts.Fact
import Mend.Json.Reading
import Mend.Text.Blank
import Mend.Text.Quoted
import Mend.Text.Shortest

/-!
# Reading exported facts

An export is one JSON text. It is decoded from left to right, and the first problem met is reported:
a fault of the text, or a value of the wrong shape. What is not asked for (unknown keys, fields
behind those of a record) is skipped without being decoded.

Integers may come as numbers, booleans or numerals in strings, and text may come as numbers or
booleans.

* `Scalar` : such a loosely typed field, with its readings as integer, truth value and text;
* `ShapeError` : how a value can have the wrong shape, with its message;
* `decodeFact` : one record;
* `decodeExport` : a whole export, written as an object or as an array of its three parts;
* `Export.parse`, `Fact.parse` : from text.
-/

namespace Mend.Facts

open Json (Fault Reading Items Fields Number)

/-- A value that stands where another kind of value was expected. -/
inductive Found where
  | null
  | bool (b : Bool)
  | number (n : Number)
  | string (s : String)
  | sequence
  | map
deriving DecidableEq

/-- What was expected in some place of an export. -/
inductive Expected where
  | string
  | sequence
  | pair
  | compilationUnit
  | functions
  | fact
deriving DecidableEq

/-- How a JSON value fails to be an export. -/
inductive ShapeError where
  | missingElement (tag field : String)
  | notInteger (field text : String)
  | outOfRange (field : String) (n : Nat)
  | unknownTag (tag : String)
  | notScalar
  | wrongType (found : Found) (expected : Expected)
  | shortPair (length : Nat)
  | emptyExport
  | missingKey (key : String)
  | repeatedKey (key : String)
deriving DecidableEq

/-- Why a text is no export. -/
inductive DecodeError where
  | text (f : Fault)
  | shape (e : ShapeError)
deriving DecidableEq

/-! ## Messages -/

def Found.text : Found → String
  | .null => "null"
  | .bool b => "boolean `" ++ (if b then "true" else "false") ++ "`"
  | .number (.natural n) => "integer `" ++ Text.Decimal.ofNat n ++ "`"
  | .number (.negative n) => "integer `" ++ Text.Decimal.ofInt n ++ "`"
  | .number (.real bits) => "floating point `" ++ Text.realText bits ++ "`"
  | .string s => "string " ++ Text.quote s
  | .sequence => "sequence"
  | .map => "map"

def Expected.text : Expected → String
  | .string => "a string"
  | .sequence => "a sequence"
  | .pair => "a tuple of size 2"
  | .compilationUnit => "struct AstFacts"
  | .functions => "a map from function name to fact records"
  | .fact => "a tagged fact record like [\"stmt_type\", 1, 1, 1, 5, \"x = 1\"]"

def ShapeError.message : ShapeError → String
  | .missingElement tag field => tag ++ " record is missing `" ++ field ++ "`"
  | .notInteger field text => field ++ ": expected integer, got " ++ Text.quote text
  | .outOfRange field n => field ++ ": " ++ Text.Decimal.ofNat n ++ " out of range"
  | .unknownTag tag =>
    "unknown variant `" ++ tag ++ "`, expected one of " ++
      ", ".intercalate (Tag.all.map fun t => "`" ++ t.text ++ "`")
  | .notScalar => "data did not match any variant of untagged enum Scalar"
  | .wrongType found expected => "invalid type: " ++ found.text ++ ", expected " ++ expected.text
  | .shortPair n =>
    "invalid length " ++ Text.Decimal.ofNat n ++ ", expected " ++ Expected.pair.text
  | .emptyExport => "invalid length 0, expected " ++ Expected.compilationUnit.text ++ " with 3 elements"
  | .missingKey key => "missing field `" ++ key ++ "`"
  | .repeatedKey key => "duplicate field `" ++ key ++ "`"

/-! ## Scalars -/

/-- A loosely typed field of a record. -/
inductive Scalar where
  | int (n : Nat)
  | bool (b : Bool)
  | text (s : String)
deriving DecidableEq

namespace Scalar

/-- The field as an integer below `2 ^ 64`: a truth value counts as 0 or 1, and a text must be a
numeral, blanks around it. -/
def toNat (field : String) : Scalar → Except ShapeError Nat
  | .int n => .ok n
  | .bool b => .ok (if b then 1 else 0)
  | .text s =>
    match Text.Decimal.natural? (Text.trimChars s.toList) with
    | some n => if n < 18446744073709551616 then .ok n else .error (.notInteger field s)
    | none => .error (.notInteger field s)

/-- The field as a line or a column: an integer below `2 ^ 32`. -/
def toCoordinate (field : String) (s : Scalar) : Except ShapeError Nat := do
  let n ← s.toNat field
  if n < 4294967296 then .ok n else .error (.outOfRange field n)

/-- Whether two texts agree up to the case of ASCII letters. -/
def sameLetters (s t : String) : Bool :=
  s.toList.map Char.toLower = t.toList.map Char.toLower

/-- The field as a truth value: spelled out, or an integer that is not zero. -/
def toBool (field : String) : Scalar → Except ShapeError Bool
  | .bool b => .ok b
  | .text s =>
    if sameLetters s "true" then .ok true
    else if sameLetters s "false" then .ok false
    else ((Scalar.text s).toNat field).map (· ≠ 0)
  | .int n => .ok (n ≠ 0)

def toText : Scalar → String
  | .int n => Text.Decimal.ofNat n
  | .bool b => if b then "true" else "false"
  | .text s => s

end Scalar

/-! ## Values -/

/-- A fault of the text, as a decoding error. -/
def ofFault {α : Type} : Except Fault α → Except DecodeError α :=
  Except.mapError .text

/-- A wrong shape, as a decoding error. -/
def ofShape {α : Type} : Except ShapeError α → Except DecodeError α :=
  Except.mapError .shape

/-- The error for a value of the wrong type. A scalar is read before it is refused; an array or an
object is refused where it opens. -/
def mismatch {α : Type} (expected : Expected) (value : Reading) : Except DecodeError α := do
  let found ← match value with
    | .fault f => .error (.text f)
    | .null => pure .null
    | .bool b => pure (.bool b)
    | .number scan => (ofFault scan.value).map .number
    | .string scan => (ofFault scan.value).map .string
    | .array _ => pure .sequence
    | .object _ => pure .map
  .error (.shape (.wrongType found expected))

def decodeString : Reading → Except DecodeError String
  | .string scan => ofFault scan.value
  | value => mismatch .string value

/-- A field of a record. A value that is no scalar is read as a whole before it is refused; it may open
`room` levels of brackets. -/
def decodeScalar (room : Nat) : Reading → Except DecodeError Scalar
  | .bool b => .ok (.bool b)
  | .number scan => do
    match ← ofFault scan.value with
    | .natural n => .ok (.int n)
    | _ => .error (.shape .notScalar)
  | .string scan => (ofFault scan.value).map .text
  | value => do
    ofFault (value.check room)
    .error (.shape .notScalar)

/-! ## Records -/

abbrev Walk := StateT Items (Except DecodeError)

/-- Decodes the next element, if there is one. -/
def next? {α : Type} (decode : Reading → Except DecodeError α) : Walk (Option α) := do
  match ← get with
  | .close => return none
  | .cut f => throw (.text f)
  | .item value rest =>
    let a ← decode value
    set rest
    return some a

/-- Decodes the next element of a record, which has to be there. -/
def required {α : Type} (tag field : String) (decode : Reading → Except DecodeError α) : Walk α := do
  match ← next? decode with
  | some a => return a
  | none => throw (.shape (.missingElement tag field))

def requiredAs {α : Type} (room : Nat) (tag field : String)
    (interpret : Scalar → Except ShapeError α) : Walk α := do
  let s ← required tag field (decodeScalar room)
  ofShape (interpret s)

def skipRest : Walk Unit := do
  ofFault (← get).skip

def noneLeft : Walk Unit := do
  match ← get with
  | .close => return ()
  | .cut f => throw (.text f)
  | .item .. => throw (.text .malformed)

/-- An argument of a call: a pair of strings. -/
def decodeArgument : Reading → Except DecodeError Argument
  | .array items => do
    let walk : Walk Argument := do
      match ← next? decodeString with
      | none => throw (.shape (.shortPair 0))
      | some name =>
        match ← next? decodeString with
        | none => throw (.shape (.shortPair 1))
        | some typeName =>
          noneLeft
          return ⟨name, typeName⟩
    walk.run' items
  | value => mismatch .pair value

def decodeAll {α : Type} (decode : Reading → Except DecodeError α) : Items → Except DecodeError (List α)
  | .close => .ok []
  | .cut f => .error (.text f)
  | .item value rest => do
    let a ← decode value
    let as ← decodeAll decode rest
    return a :: as

def decodeSpan (room : Nat) (tag : Tag) : Walk Span := do
  let coordinate (field : String) := requiredAs room tag.text field (Scalar.toCoordinate field)
  return ⟨← coordinate "start_line", ← coordinate "start_column", ← coordinate "end_line",
    ← coordinate "end_column"⟩

def decodeBody (room : Nat) (tag : Tag) : Walk Fact := do
  let span ← decodeSpan room tag
  let text (field : String) := requiredAs room tag.text field fun s => .ok s.toText
  match tag with
  | .funcDecl =>
    skipRest
    return .funcDecl span
  | .varType =>
    let name ← text "name"
    let typeName ← text "type"
    let isArray ← requiredAs room tag.text "is_array" (Scalar.toBool "is_array")
    let size ← requiredAs room tag.text "size" (Scalar.toNat "size")
    skipRest
    return .varType ⟨name, typeName, span, isArray, size⟩
  | .callType =>
    let expr ← text "expr"
    let callee ← text "callee"
    let arguments ← decodeAll decodeArgument (← get)
    return .callType span expr callee arguments
  | .stmtType =>
    let expr ← text "expr"
    skipRest
    return .stmtType span expr

/-- A record: its tag, then the fields of that tag. -/
def decodeRecord (room : Nat) : Walk Fact := do
  let tag ← required "fact" "tag" decodeString
  match Tag.ofText? tag with
  | none => throw (.shape (.unknownTag tag))
  | some tag => decodeBody room tag

/-- One record; its fields may open `room` levels of brackets. -/
def decodeFact (room : Nat) : Reading → Except DecodeError Fact
  | .array items => (decodeRecord room).run' items
  | value => mismatch .fact value

def decodeFacts (room : Nat) : Reading → Except DecodeError (List Fact)
  | .array items => decodeAll (decodeFact room) items
  | value => mismatch .sequence value

/-! ## Exports -/

/-- The levels of brackets an export may open before it is refused. -/
def maxLevels : Nat := 127

/-- The functions of an export, in the order of the text. -/
def decodeFunctionFields (room : Nat) : Fields → Except DecodeError (List (String × List Fact))
  | .close => .ok []
  | .cut f => .error (.text f)
  | .field key value rest => do
    let name ← ofFault key.value
    let facts ← decodeFacts room value
    let others ← decodeFunctionFields room rest
    return (name, facts) :: others

/-- The functions of an export: records by function name. -/
def decodeFunctions (room : Nat) : Reading → Except DecodeError (List (String × List Fact))
  | .object fields => decodeFunctionFields room fields
  | value => mismatch .functions value

/-- What an object has given so far. -/
structure Parts where
  moduleName : Option String
  globals : Option (List Fact)
  functions : Option (List (String × List Fact))

/-- The entries of an export in any order, each known one at most once. -/
def decodeFields (parts : Parts) : Fields → Except DecodeError Export
  | .close =>
    match parts.moduleName with
    | none => .error (.shape (.missingKey "module_name"))
    | some name => .ok ⟨name, parts.globals.getD [], parts.functions.getD []⟩
  | .cut f => .error (.text f)
  | .field key value rest => do
    match ← ofFault key.value with
    | "module_name" =>
      if parts.moduleName.isSome then throw (.shape (.repeatedKey "module_name"))
      let name ← decodeString value
      decodeFields { parts with moduleName := some name } rest
    | "globals" =>
      if parts.globals.isSome then throw (.shape (.repeatedKey "globals"))
      let globals ← decodeFacts (maxLevels - 3) value
      decodeFields { parts with globals := some globals } rest
    | "functions" =>
      if parts.functions.isSome then throw (.shape (.repeatedKey "functions"))
      let functions ← decodeFunctions (maxLevels - 4) value
      decodeFields { parts with functions := some functions } rest
    | _ =>
      ofFault value.skip
      decodeFields parts rest

/-- The three parts of an export in order; all but the first may be missing. -/
def decodeParts : Walk Export := do
  match ← next? decodeString with
  | none => throw (.shape .emptyExport)
  | some name =>
    let globals ← next? (decodeFacts (maxLevels - 3))
    let functions ← next? (decodeFunctions (maxLevels - 4))
    noneLeft
    return ⟨name, globals.getD [], functions.getD []⟩

def decodeExport : Reading → Except DecodeError Export
  | .object fields => decodeFields ⟨none, none, none⟩ fields
  | .array items => decodeParts.run' items
  | value => mismatch .compilationUnit value

/-- A text decoded by `decode`, with nothing behind the value. -/
def parseWith {α : Type} (decode : Reading → Except DecodeError α) (t : Json.Text) :
    Except DecodeError α := do
  let document := Json.Document.ofText t
  let a ← decode document.value
  ofFault document.trailing
  return a

end Mend.Facts

namespace Mend

open Facts

def Fact.parse (t : Json.Text) : Except DecodeError Fact :=
  parseWith (decodeFact (maxLevels - 1)) t

def Export.parse (t : Json.Text) : Except DecodeError Export :=
  parseWith decodeExport t

end Mend

import Mend.Process.Arithmetic
import Mend.Process.Shell.Field

/-!
# Expansion

What words stand for: parameters, command substitutions and expressions are replaced, and the result is
split into fields, which may be patterns of file names.

* `parameter?` : the value of a parameter;
* `expandParts` : the marks of a word;
* `expandText`, `expandFields` : the text of a word, and the fields of words.
-/

namespace Mend.Process

/-! ## Parameters -/

namespace Shell

def optionLetters (o : Options) : String :=
  String.join [if o.failOnUnset then "u" else "", if o.exportAll then "a" else "",
    if o.keepFiles then "C" else "", if o.echoInput then "v" else "", if o.trace then "x" else "",
    if o.readOnly then "n" else "", if o.plainNames then "f" else "", if o.stopOnError then "e" else ""]

def joint (s : Shell) : String :=
  match s.separators with
  | [] => ""
  | c :: _ => String.singleton c

/-- The value of a parameter: an argument, a special one, or a variable. -/
def parameter? (s : Shell) (name : String) : Option String :=
  match name with
  | "#" => some (Text.Decimal.ofNat s.arguments.length)
  | "?" => some (Text.Decimal.ofNat s.status)
  | "$" => some (Text.Decimal.ofNat s.owner)
  | "!" => s.jobs.head?.map fun j => Text.Decimal.ofNat j.1
  | "-" => some (optionLetters s.options)
  | "0" => some s.name
  | "*" | "@" => if s.arguments.isEmpty then none else some (s.joint.intercalate s.arguments)
  | _ =>
    match Text.Decimal.digits? name.toList with
    | some 0 => some s.name
    | some n => s.arguments[n - 1]?
    | none => s.value? name

end Shell

/-- The arguments as marks: each is a field of its own, also if it is quoted. -/
def argumentMarks (quoted : Bool) (args : List String) : List Mark :=
  [Mark.cut].intercalate (args.map fun a =>
    if quoted then [.keep, .text a true false] else [.text a false true])

def parameterMarks (s : Shell) (name : String) (quoted : Bool) : List Mark :=
  match name with
  | "@" => argumentMarks quoted s.arguments
  | "*" =>
    if quoted then [.text (s.joint.intercalate s.arguments) true false]
    else argumentMarks false s.arguments
  | _ => [.text ((s.parameter? name).getD "") quoted (!quoted)]

def evaluateText (expression : String) : Run String := do
  let s ← get
  match Arithmetic.evaluate (fun name => (s.value? name).getD "") expression.toList with
  | .error e => raise (e.message expression)
  | .ok (n, assigned) =>
    for (name, value) in assigned do
      assign name (Text.Decimal.ofInt value)
    return Text.Decimal.ofInt n

/-! ## Home directories -/

/-- The home directory of the user with a name; no name is that of the user at work. -/
def homeOf? (s : Shell) : String → Option String
  | "" => s.value? "HOME"
  | "root" => some "/root"
  | _ => none

/-- Text with a home directory for a tilde in front; `ends` says whether nothing follows the text. In an
assignment a colon ends the name. -/
def expandTilde (s : Shell) (assigned ends : Bool) (cs : List Char) : List Part :=
  let text (cs : List Char) : List Part := if cs.isEmpty then [] else [.text (String.ofList cs) false]
  match cs with
  | '~' :: rest =>
    let name := rest.takeWhile fun c => c ≠ '/' && !(assigned && c = ':')
    let behind := rest.drop name.length
    if behind.isEmpty && !ends then text cs
    else
      match homeOf? s (String.ofList name) with
      | some home => .text home true :: text behind
      | none => text cs
  | cs => text cs

/-- The pieces of a text that end in colons, and the rest. -/
def colonPieces : List Char → List Char → List (List Char)
  | piece, [] => [piece.reverse]
  | piece, c :: cs => if c = ':' then (c :: piece).reverse :: colonPieces [] cs else colonPieces (c :: piece) cs

/-- A word with home directories for tildes: in front, and in an assignment also behind colons. -/
def expandTildes (s : Shell) (assigned : Bool) : Bool → Word → Word
  | _, [] => []
  | first, .text t false :: ps =>
    let rest := expandTildes s assigned false ps
    if assigned then
      let pieces := colonPieces [] t.toList
      let expanded := pieces.mapIdx fun i piece =>
        if i = 0 && !first then (if piece.isEmpty then [] else [Part.text (String.ofList piece) false])
        else expandTilde s true (i + 1 < pieces.length || ps.isEmpty) piece
      expanded.flatten ++ rest
    else if first then expandTilde s false ps.isEmpty t.toList ++ rest
    else .text t false :: rest
  | _, p :: ps => p :: expandTildes s assigned false ps

/-! ## Words -/

mutual

/-- The marks of the parts of a word. Unquoted text of the script itself is split only if `loose` is
set, as in the operand of a parameter. -/
def expandParts (substitute : Script → Run String) (loose : Bool) : List Part → Run (List Mark)
  | [] => return []
  | p :: ps => do
    let front ← expandPart substitute loose p
    let rest ← expandParts substitute loose ps
    return front ++ rest

def expandPart (substitute : Script → Run String) (loose : Bool) : Part → Run (List Mark)
  | .text s quoted => return [.text s quoted (loose && !quoted)]
  | .quotes => return [.keep]
  | .command body quoted => do
    let output ← substitute body
    return [.text output quoted (!quoted)]
  | .arithmetic expression quoted => do
    let ms ← expandParts substitute false expression
    let value ← evaluateText (markText " " ms)
    return [.text value quoted (!quoted)]
  | .parameter name use operand quoted => do
    let s ← get
    let value := s.parameter? name
    let unset : Run Unit :=
      if value.isNone && s.options.failOnUnset && name ≠ "@" && name ≠ "*" then
        raise (name ++ ": parameter not set")
      else return ()
    let isSet (empty : Bool) : Bool := match value with
      | some v => !(empty && v.isEmpty)
      | none => false
    let other : Run (List Mark) := expandParts substitute (!quoted) operand
    match use with
    | .unknown => raise "Bad substitution"
    | .plain => do
      unset
      return parameterMarks s name quoted
    | .length => do
      unset
      return [.text (Text.Decimal.ofNat (value.getD "").length) quoted (!quoted)]
    | .orElse empty => if isSet empty then return parameterMarks s name quoted else other
    | .ifSet empty => if isSet empty then other else return []
    | .orAssign empty => do
      if isSet empty then return parameterMarks s name quoted
      let text := markText s.joint (← other)
      if !isName name.toList then raise (name ++ ": bad variable name")
      assign name text
      return [.text text quoted (!quoted)]
    | .orFail empty => do
      if isSet empty then return parameterMarks s name quoted
      let text := markText " " (← other)
      let reason := "parameter not set" ++ if empty then " or null" else ""
      raise (name ++ ": " ++ if operand.isEmpty then reason else text)
    | .trim atEnd longest => do
      unset
      let pattern := markPattern (← expandParts substitute false operand)
      return [.text (trimmed pattern atEnd longest (value.getD "")) quoted (!quoted)]

end

def expandText (substitute : Script → Run String) (w : Word) : Run String := do
  let s ← get
  let ms ← expandParts substitute false (expandTildes s false true w)
  return markText (← get).joint ms

def expandValue (substitute : Script → Run String) (w : Word) : Run String := do
  let s ← get
  let ms ← expandParts substitute false (expandTildes s true true w)
  return markText (← get).joint ms

def expandPattern (substitute : Script → Run String) (w : Word) : Run (List Glob) := do
  let s ← get
  let ms ← expandParts substitute false (expandTildes s false true w)
  return Pattern.ofChars (markPattern ms)

def expandWord (substitute : Script → Run String) (w : Word) : Run (List String) := do
  let s ← get
  let ms ← expandParts substitute false (expandTildes s false true w)
  let s ← get
  let found := fields s.separators ms
  if s.options.plainNames then return found.map fun f => String.ofList (f.map (·.1))
  else return found.flatMap (pathNames s.tree)

/-- The fields a list of words stands for. Those of some commands are assignments, which are not
split. -/
def expandFields (substitute : Script → Run String) (assigning : Bool) : List Word → Run (List String)
  | [] => return []
  | w :: ws => do
    let front ← match assigning, Word.assignment? w with
      | true, some (name, value) => do
        let text ← expandValue substitute value
        pure [name ++ "=" ++ text]
      | _, _ => expandWord substitute w
    let rest ← expandFields substitute assigning ws
    return front ++ rest

end Mend.Process

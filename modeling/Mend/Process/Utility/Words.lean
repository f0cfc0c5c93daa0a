import Mend.Process.Regex.Parser
import Mend.Process.Utility.Files
import Mend.Process.Utility.Real

/-!
# Programs about words

* `basename`, `dirname` : the two ends of a path;
* `expr` : the value of an expression whose operands and operators are single arguments;
* `printenv`, `pwd`, `sleep` : the environment, the working directory, and a pause.
-/

namespace Mend.Process

/-! ## Paths -/

/-- A text without the separators at its end; one of separators alone becomes one separator. -/
def withoutSlashes (cs : List Char) : List Char :=
  match (cs.reverse.dropWhile (· = '/')).reverse with
  | [] => if cs.isEmpty then [] else ['/']
  | kept => kept

def lastName (path : String) : List Char :=
  let cs := withoutSlashes path.toList
  if cs = ['/'] then cs else (cs.splitOn '/').getLast?.getD []

/-- A name without an ending, unless it is nothing but that. -/
def withoutEnding (ending : String) (cs : List Char) : List Char :=
  let e := ending.toList
  if !e.isEmpty && e.isSuffixOf cs && e ≠ cs then cs.take (cs.length - e.length) else cs

/-- The last names of paths, without a given ending. -/
def basename : Utility :=
  withArguments ⟨"basename", ['a', 'z'], ['s'], [("multiple", 'a'), ("suffix", 's')]⟩ 1 fun i s =>
  let line (ending path : String) : String := String.ofList (withoutEnding ending (lastName path)) ++ "\n"
  match i.operands with
  | [] => refusing "basename" 1 s "basename: missing operand"
  | path :: rest =>
    if i.has 'a' || i.has 's' then
      .printing s (String.join (i.operands.map (line ((i.value? 's').getD ""))))
    else
      match rest with
      | [] => .printing s (line "" path)
      | [ending] => .printing s (line ending path)
      | _ :: extra :: _ => refusing "basename" 1 s ("basename: extra operand " ++ quotedName extra)

def frontOf (path : String) : String :=
  let cs := withoutSlashes path.toList
  if cs = ['/'] then "/"
  else
    let front := cs.take (cs.length - (lastName path).length)
    if front.isEmpty then "." else String.ofList (withoutSlashes front)

def dirname : Utility := withArguments ⟨"dirname", ['z'], [], []⟩ 1 fun i s =>
  if i.operands.isEmpty then refusing "dirname" 1 s "dirname: missing operand"
  else .printing s (String.join (i.operands.map (frontOf · ++ "\n")))

/-! ## Expressions -/

namespace Expression

inductive Fault where
  | missing (behind : String)
  | unexpected (word : String)
  | unclosed (behind : String)
  | misplaced (word : String)
  | notANumber
  | divisionByZero
  | pattern (fault : Regex.Fault)

def Fault.message : Fault → String
  | .missing behind => "syntax error: missing argument after " ++ quotedName behind
  | .unexpected word => "syntax error: unexpected argument " ++ quotedName word
  | .unclosed behind => "syntax error: expecting ')' after " ++ quotedName behind
  | .misplaced word => "syntax error: expecting ')' instead of " ++ quotedName word
  | .notANumber => "non-integer argument"
  | .divisionByZero => "division by zero"
  | .pattern fault => fault.text

structure Words where
  behind : String
  rest : List String

abbrev Step := StateT Words (Except Fault)

def next : Step String := do
  match (← get).rest with
  | w :: rest =>
    set (Words.mk w rest)
    return w
  | [] => throw (.missing (← get).behind)

def oneOf (words : List String) : Step (Option String) := do
  match (← get).rest with
  | w :: rest =>
    if words.contains w then
      set (Words.mk w rest)
      return some w
    else return none
  | [] => return none

def number? (s : String) : Option Int :=
  match s.toList with
  | '-' :: ds => (Text.Decimal.digits? ds).map fun n => -(n : Int)
  | ds => (Text.Decimal.digits? ds).map fun n => (n : Int)

/-- A number, where nothing else will do. -/
def number (s : String) : Step Int :=
  match number? s with
  | some n => return n
  | none => throw .notANumber

def isNull (s : String) : Bool := s.isEmpty || number? s == some 0

/-- What a pattern matches at the start of a text: its first group, or the length of the whole. -/
def matched (text pattern : String) : Step String := do
  match Regex.parse ⟨false, true, false, false⟩ pattern.toList with
  | .error fault => throw (.pattern fault)
  | .ok r =>
    let subject : Subject := ⟨text.toList.toArray, false, false⟩
    match subject.matchAt? r 0 with
    | none => return if r.groupCount = 0 then "0" else ""
    | some found =>
      if r.groupCount = 0 then return Text.Decimal.ofNat found.stop
      else
        match found.groups.find? fun g => g.1 = 1 with
        | some (_, start, stop) => return String.ofList (subject.between start stop)
        | none => return ""

def combine (operator left right : String) : Step String := do
  let truth (b : Bool) : String := if b then "1" else "0"
  let compared (o : Ordering) : String :=
    match operator with
    | "<" => truth (o == .lt)
    | "<=" => truth (o != .gt)
    | ">" => truth (o == .gt)
    | ">=" => truth (o != .lt)
    | "!=" => truth (o != .eq)
    | _ => truth (o == .eq)
  match operator with
  | "|" => return if !isNull left then left else if isNull right then "0" else right
  | "&" => return if isNull left || isNull right then "0" else left
  | ":" => matched left right
  | "+" => return Text.Decimal.ofInt ((← number left) + (← number right))
  | "-" => return Text.Decimal.ofInt ((← number left) - (← number right))
  | "*" => return Text.Decimal.ofInt ((← number left) * (← number right))
  | "/" | "%" =>
    let a ← number left
    let b ← number right
    if b = 0 then throw .divisionByZero
    return Text.Decimal.ofInt (if operator = "/" then Int.tdiv a b else Int.tmod a b)
  | _ =>
    match number? left, number? right with
    | some a, some b => return compared (compare a b)
    | _, _ => return compared (compare left right)

def levels : List (List String) :=
  [["|"], ["&"], ["<", "<=", "=", "==", "!=", ">=", ">"], ["+", "-"], ["*", "/", "%"], [":"]]

/-- The first place in a text of a character out of some, counted from 1. -/
def placeOf (chars text : List Char) : Nat :=
  match text.findIdx? chars.contains with
  | some i => i + 1
  | none => 0

def chain (operators : List String) (operand : Step String) : Nat → String → Step String
  | 0, left => return left
  | fuel + 1, left => do
    match ← oneOf operators with
    | some operator =>
      let right ← operand
      chain operators operand fuel (← combine operator left right)
    | none => return left

/-- An operand alone: a word, a function, or an expression in parentheses. -/
def operand (whole : Step String) : Nat → Step String
  | 0 => next
  | fuel + 1 => do
    let inner := operand whole fuel
    match ← next with
    | "(" =>
      let value ← whole
      let words ← get
      match words.rest with
      | ")" :: rest =>
        set (Words.mk ")" rest)
        return value
      | w :: _ => throw (.misplaced w)
      | [] => throw (.unclosed words.behind)
    | "+" => next
    | "length" => return Text.Decimal.ofNat (← inner).length
    | "match" =>
      let text ← inner
      matched text (← inner)
    | "index" =>
      let text ← inner
      let chars ← inner
      return Text.Decimal.ofNat (placeOf chars.toList text.toList)
    | "substr" =>
      let text ← inner
      let start ← inner
      let count ← inner
      match number? start, number? count with
      | some a, some n =>
        if a ≤ 0 || n ≤ 0 then return ""
        else return String.ofList ((text.toList.drop (a.toNat - 1)).take n.toNat)
      | _, _ => return ""
    | w => return w

def expression (fuel : Nat) (innermost : Step String) : List (List String) → Step String
  | [] => innermost
  | operators :: tighter => do
    let inner := expression fuel innermost tighter
    chain operators inner fuel (← inner)

def whole : Nat → Step String
  | 0 => next
  | depth + 1 => expression (depth + 1) (operand (whole depth) (depth + 1)) levels

def evaluate (args : List String) : Except Fault String := do
  let (value, words) ← (whole (args.length + 1)).run ⟨"", args⟩
  match words.rest with
  | [] => return value
  | w :: _ => throw (.unexpected w)

end Expression

/-- Prints the value of an expression; it fails if that counts as no. -/
def expr : Utility := fun args s =>
  let args := if args.head? = some "--" then args.tail else args
  if args.isEmpty then refusing "expr" 2 s "expr: missing operand"
  else
    match Expression.evaluate args with
    | .ok value => .ofWrites s (if Expression.isNull value then 1 else 0) [.out (value ++ "\n")]
    | .error e => .failing s 2 ("expr: " ++ e.message)

/-! ## Surroundings -/

def workingName (tree : FileTree) : String :=
  encode ("/" ++ "/".intercalate tree.workingDirectory)

def pwd : Utility := fun _ s => .printing s (workingName s.tree ++ "\n")

def printenv : Utility := fun args s =>
  if args.isEmpty then
    .printing s (String.join (s.environment.map fun (name, value) => name ++ "=" ++ value ++ "\n"))
  else
    let found := args.filterMap fun name => s.environment.lookup name
    .ofWrites s (if found.length = args.length then 0 else 1) [.out (String.join (found.map (· ++ "\n")))]

/-- Waits, which takes no time here. -/
def sleep : Utility := fun args s =>
  let isInterval (a : String) : Bool :=
    let cs := a.toList
    let cs := if ['s', 'm', 'h', 'd'].any fun c => cs.getLast? = some c then cs.dropLast else cs
    !cs.isEmpty && cs.all (fun c => c.isDigit || c = '.') && cs.any Char.isDigit && cs.count '.' ≤ 1
  if args.isEmpty then refusing "sleep" 1 s "sleep: missing operand"
  else
    match args.find? fun a => !isInterval a with
    | some a => refusing "sleep" 1 s ("sleep: invalid time interval " ++ quotedName a)
    | none => .ofStatus s 0

end Mend.Process

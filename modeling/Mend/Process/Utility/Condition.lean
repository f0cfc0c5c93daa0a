import Mend.Process.Utility.Basic

/-!
# Conditions

The conditions that a shell evaluates itself.

* `fileTest`, `binaryTest` : the operators on files, texts and numbers;
* `Condition.evaluate` : the value of a condition, or what is wrong with it.
-/

namespace Mend.Process.Condition

inductive Kind where
  | unary
  | binary
  | negation
  | conjunction
  | disjunction
  | opening
  | closing
deriving DecidableEq

def unaryOperators : List String :=
  ["-r", "-w", "-x", "-e", "-f", "-d", "-c", "-b", "-p", "-u", "-g", "-k", "-s", "-t", "-z", "-n",
   "-h", "-O", "-G", "-L", "-S"]

def binaryOperators : List String :=
  ["=", "!=", "<", ">", "-eq", "-ne", "-ge", "-gt", "-le", "-lt", "-nt", "-ot", "-ef"]

def kind? (word : String) : Option Kind :=
  if unaryOperators.contains word then some .unary
  else if binaryOperators.contains word then some .binary
  else match word with
    | "!" => some .negation
    | "-a" => some .conjunction
    | "-o" => some .disjunction
    | "(" => some .opening
    | ")" => some .closing
    | _ => none

/-- The kind of the first word; an operator with nothing to work on, or in front of an operator on two
operands, is an operand itself. -/
def lead? : List String → Option Kind
  | [] => none
  | word :: rest =>
    match kind? word with
    | some .unary =>
      match rest with
      | [] => none
      | [_] => some .unary
      | next :: _ => if kind? next = some .binary then none else some .unary
    | some .opening => if rest.isEmpty then none else some .opening
    | k => k

def fileTest (tree : FileTree) (operator name : String) : Bool :=
  let entry := (tree.lookup (pathOf name)).toOption
  match operator with
  | "-e" | "-r" | "-w" | "-O" | "-G" => entry.isSome
  | "-f" => tree.isFile (pathOf name)
  | "-d" => entry.any (·.same .directory)
  | "-c" => entry.any (·.same .device)
  | "-x" => match entry with
    | some (.file _ executable) => executable
    | some .directory => true
    | _ => false
  | "-s" => match entry with
    | some (.file content _) => content.size ≠ 0
    | some .directory => true
    | _ => false
  | _ => false

/-- The number a word stands for; blanks around it do not matter. -/
def number (word : String) : Except String Int :=
  let isSpace (c : Char) : Bool := c = ' ' || (9 ≤ c.toNat && c.toNat ≤ 13)
  let trimmed := ((word.toList.dropWhile isSpace).reverse.dropWhile isSpace).reverse
  match Text.Decimal.integer? trimmed with
  | some n =>
    if -9223372036854775808 ≤ n ∧ n ≤ 9223372036854775807 then .ok n
    else .error ("Illegal number: " ++ word)
  | none => .error ("Illegal number: " ++ word)

def binaryTest (tree : FileTree) (left operator right : String) : Except String Bool :=
  let numbers (f : Int → Int → Bool) : Except String Bool := do
    let a ← number left
    let b ← number right
    return f a b
  match operator with
  | "=" => .ok (left == right)
  | "!=" => .ok (left != right)
  | "<" => .ok (left < right)
  | ">" => .ok (right < left)
  | "-eq" => numbers (· == ·)
  | "-ne" => numbers (· != ·)
  | "-lt" => numbers (· < ·)
  | "-le" => numbers (· ≤ ·)
  | "-gt" => numbers (· > ·)
  | "-ge" => numbers (· ≥ ·)
  | "-ef" => .ok (tree.contains (pathOf left) &&
      (tree.resolve (pathOf left)).toOption == (tree.resolve (pathOf right)).toOption)
  | "-nt" => .ok (tree.contains (pathOf left) && !tree.contains (pathOf right))
  | "-ot" => .ok (tree.contains (pathOf right) && !tree.contains (pathOf left))
  | _ => .ok false

mutual

/-- Conditions joined by `-o`. Each gives its value and the words from its last one on. -/
def disjunction (tree : FileTree) : Nat → Option Kind → List String → Except String (Bool × List String)
  | 0, _, ws => .ok (false, ws)
  | fuel + 1, lead, ws => do
    let (a, ws) ← conjunction tree fuel lead ws
    if lead? ws.tail = some .disjunction then
      let (b, ws) ← disjunction tree fuel (lead? (ws.drop 2)) (ws.drop 2)
      return (a || b, ws)
    else return (a, ws)

def conjunction (tree : FileTree) : Nat → Option Kind → List String → Except String (Bool × List String)
  | 0, _, ws => .ok (false, ws)
  | fuel + 1, lead, ws => do
    let (a, ws) ← negation tree fuel lead ws
    if lead? ws.tail = some .conjunction then
      let (b, ws) ← conjunction tree fuel (lead? (ws.drop 2)) (ws.drop 2)
      return (a && b, ws)
    else return (a, ws)

def negation (tree : FileTree) : Nat → Option Kind → List String → Except String (Bool × List String)
  | 0, _, ws => .ok (false, ws)
  | fuel + 1, lead, ws =>
    if lead = some .negation then
      if ws.tail.isEmpty then .ok (true, ws)
      else do
        let (a, ws) ← negation tree fuel (lead? ws.tail) ws.tail
        return (!a, ws)
    else primary tree fuel lead ws

def primary (tree : FileTree) : Nat → Option Kind → List String → Except String (Bool × List String)
  | 0, _, ws => .ok (false, ws)
  | fuel + 1, lead, ws =>
    match ws with
    | [] => .ok (false, [])
    | w :: rest =>
      if lead = some .opening then
        if lead? rest = some .closing then .ok (false, rest)
        else do
          let (a, ws) ← disjunction tree fuel (lead? rest) rest
          if lead? ws.tail = some .closing then return (a, ws.tail)
          else throw "closing paren expected"
      else if lead = some .unary then
        match rest with
        | [] => .error (w ++ ": argument expected")
        | operand :: _ =>
          match w with
          | "-z" => .ok (operand.isEmpty, rest)
          | "-n" => .ok (!operand.isEmpty, rest)
          | "-t" => do
            let _ ← number operand
            return (false, rest)
          | _ => .ok (fileTest tree w operand, rest)
      else if lead? rest = some .binary then
        match rest with
        | operator :: right :: more => do
          let value ← binaryTest tree w operator right
          return (value, right :: more)
        | operator :: [] => .error (operator ++ ": argument expected")
        | [] => .ok (false, rest)
      else .ok (!w.isEmpty, ws)

end

def evaluate (tree : FileTree) (words : List String) : Except String Bool :=
  let fuel := 8 * words.length + 8
  let finish (lead : Option Kind) (ws : List String) : Except String Bool := do
    let (value, rest) ← disjunction tree fuel lead ws
    match rest.tail with
    | next :: _ => throw (next ++ ": unexpected operator")
    | [] => return value
  match words with
  | [] => .ok false
  | [_, o, _] =>
    if kind? o = some .binary then finish none words
    else if words.head? = some "(" && words.getLast? = some ")" then finish (lead? [o]) [o]
    else finish (lead? words) words
  | [a, b, c, d] =>
    if a = "(" && d = ")" then finish (lead? [b, c]) [b, c] else finish (lead? words) words
  | _ => finish (lead? words) words

end Mend.Process.Condition

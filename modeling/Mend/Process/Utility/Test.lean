import Mend.Process.Utility.Condition

/-!
# Conditions of a program

The program that evaluates a condition. Up to four words have a meaning by their number; more are an
expression.

* `Test.evaluate` : the value of a condition, or what is wrong with it;
* `test`, `bracketTest` : the two names of the program.
-/

namespace Mend.Process.Test

structure Words where
  rest : List String
  last : String

/-- A step of the evaluation; an error is what is wrong. -/
abbrev Step := StateT Words (Except String)

def quote (word : String) : String := "'" ++ word ++ "'"

def missing {α : Type} : Step α := do
  throw ("missing argument after " ++ quote (← get).last)

/-- The next word, which stays. -/
def peek : Step String := do
  match (← get).rest with
  | w :: _ => return w
  | [] => missing

def next : Step String := do
  let w ← peek
  modify fun s => { s with rest := s.rest.tail }
  return w

def binaryOperators : List String :=
  ["=", "==", "!=", "-eq", "-ne", "-ge", "-gt", "-le", "-lt", "-nt", "-ot", "-ef"]

/-- The number a word stands for, of any size; blanks around it do not matter. -/
def number (word : String) : Step Int := do
  let isBlank (c : Char) : Bool := c = ' ' || c = '\t' || c = '\n' || c = '\r'
  let trimmed := ((word.toList.dropWhile isBlank).reverse.dropWhile isBlank).reverse
  match Text.Decimal.integer? trimmed with
  | some n => return n
  | none => throw ("invalid integer " ++ quote word)

def isUnary (word : String) : Bool :=
  match word.toList with
  | ['-', _] => true
  | _ => false

def unary (tree : FileTree) : Step Bool := do
  let operator ← next
  if Condition.unaryOperators.contains operator || operator = "-N" then
    let word ← next
    match operator with
    | "-n" => return !word.isEmpty
    | "-z" => return word.isEmpty
    | "-t" =>
      let _ ← number word
      return false
    | _ => return Condition.fileTest tree operator word
  else throw (quote operator ++ ": unary operator expected")

def binary (tree : FileTree) : Step Bool := do
  let left ← next
  let operator ← next
  let right ← next
  let numbers (f : Int → Int → Bool) : Step Bool := do
    let a ← number left
    let b ← number right
    return f a b
  match operator with
  | "==" => return left == right
  | "-eq" => numbers (· == ·)
  | "-ne" => numbers (· != ·)
  | "-lt" => numbers (· < ·)
  | "-le" => numbers (· ≤ ·)
  | "-gt" => numbers (· > ·)
  | "-ge" => numbers (· ≥ ·)
  | _ =>
    match Condition.binaryTest tree left operator right with
    | .ok value => return value
    | .error e => throw e

def single : Step Bool := return !(← next).isEmpty

def pair (tree : FileTree) : Step Bool := do
  let w ← peek
  if w = "!" then
    let _ ← next
    return !(← single)
  else if isUnary w then unary tree
  else missing

/-- How many words a closing parenthesis ends; if it is too far away, all that are left. -/
def enclosed (words : List String) : Nat :=
  match (words.take 5).tail.findIdx? (· = ")") with
  | some n => n + 1
  | none => words.length

mutual

/-- The value of an expression: alternatives of conjunctions. -/
def either (tree : FileTree) : Nat → Step Bool
  | 0 => missing
  | fuel + 1 => do
    let value ← both tree fuel
    if (← get).rest.head? = some "-o" then
      let _ ← next
      let other ← either tree fuel
      return value || other
    else return value

def both (tree : FileTree) : Nat → Step Bool
  | 0 => missing
  | fuel + 1 => do
    let value ← term tree fuel
    if (← get).rest.head? = some "-a" then
      let _ ← next
      let other ← both tree fuel
      return value && other
    else return value

def term (tree : FileTree) : Nat → Step Bool
  | 0 => missing
  | fuel + 1 => do
    let w ← peek
    let rest := (← get).rest
    if w = "!" then
      let _ ← next
      return !(← term tree fuel)
    else if w = "(" then
      let _ ← next
      let _ ← peek
      let value ← counted tree fuel (enclosed rest.tail)
      match (← get).rest with
      | [] => throw "')' expected"
      | ")" :: rest =>
        modify fun s => { s with rest }
        return value
      | other :: _ => throw ("')' expected, found " ++ quote other)
    else if (rest[1]?).any binaryOperators.contains && 3 ≤ rest.length then binary tree
    else if isUnary w then unary tree
    else single

def counted (tree : FileTree) : Nat → Nat → Step Bool
  | 0, _ => missing
  | fuel + 1, count => do
    let rest := (← get).rest
    let three : Step Bool := do
      let rest := (← get).rest
      let operator := rest.getD 1 ""
      if binaryOperators.contains operator then binary tree
      else if rest.head? = some "!" then
        let _ ← next
        return !(← pair tree)
      else if rest.head? = some "(" && rest[2]? = some ")" then
        let _ ← next
        let value ← single
        let _ ← next
        return value
      else if operator = "-a" || operator = "-o" then either tree fuel
      else throw (quote operator ++ ": binary operator expected")
    match count with
    | 1 => single
    | 2 => pair tree
    | 3 => three
    | 4 =>
      if rest.head? = some "!" then
        let _ ← next
        return !(← three)
      else if rest.head? = some "(" && rest[3]? = some ")" then
        let _ ← next
        let value ← pair tree
        let _ ← next
        return value
      else either tree fuel
    | _ => either tree fuel

end

/-- The value of a condition, or what is wrong with it. -/
def evaluate (tree : FileTree) (words : List String) : Except String Bool :=
  match words.getLast? with
  | none => .ok false
  | some last => do
    let (value, left) ← (counted tree (4 * words.length + 8) words.length).run ⟨words, last⟩
    match left.rest with
    | [] => return value
    | w :: _ => throw ("extra argument " ++ quote w)

/-- Ends well if a condition holds; `name` is what the program is called. -/
def answering (name : String) : Utility := fun args s =>
  match evaluate s.tree args with
  | .ok true => .ofStatus s 0
  | .ok false => .ofStatus s 1
  | .error e => .failing s 2 (name ++ ": " ++ e)

end Mend.Process.Test

namespace Mend.Process

def test : Utility := Test.answering "test"

def bracketTest : Utility := fun args s =>
  if args.getLast? = some "]" then Test.answering "[" args.dropLast s
  else .failing s 2 "[: missing ']'"

end Mend.Process

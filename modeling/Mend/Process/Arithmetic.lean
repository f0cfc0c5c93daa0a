import Mend.Text.Decimal

/-!
# Arithmetic in scripts

Expressions over integers of 64 bits: names, assignments, a choice between two values, the usual
operators in their usual order, and comparisons and connectives that give 0 or 1. An operand that does
not count is read but not evaluated.

* `Integer.read` : the number in front of a text;
* `tokens` : the numbers, names and operators of an expression;
* `apply` : what an operator makes of two numbers;
* `evaluate` : the value of an expression, and what has been assigned.
-/

namespace Mend.Process

namespace Integer

def least : Int := -9223372036854775808

def greatest : Int := 9223372036854775807

/-- The number of 64 bits that has the last bits of a number. -/
def wrap (n : Int) : Int := n.bmod 18446744073709551616

def digitValue (c : Char) : Nat :=
  if c.isDigit then c.toNat - '0'.toNat
  else if c.isAlpha then c.toLower.toNat - 'a'.toNat + 10 else 99

/-- The value of the digits in front of a text in a base, how many there are, and what follows. -/
def digits (base : Nat) (cs : List Char) : Nat × Nat × List Char :=
  let ds := cs.takeWhile fun c => digitValue c < base
  (ds.foldl (fun n c => n * base + digitValue c) 0, ds.length, cs.drop ds.length)

/-- The number in front of a text: blanks, a sign, and digits whose base their front tells. It comes
with what follows it; if there is none, all of the text follows. -/
def read (cs : List Char) : Int × List Char :=
  let isSpace (c : Char) : Bool := c = ' ' || (9 ≤ c.toNat && c.toNat ≤ 13)
  let (negative, body) := match cs.dropWhile isSpace with
    | '-' :: rest => (true, rest)
    | '+' :: rest => (false, rest)
    | rest => (false, rest)
  let (value, count, rest) := match body with
    | '0' :: x :: ds =>
      if (x = 'x' || x = 'X') && (digits 16 ds).2.1 ≠ 0 then digits 16 ds else digits 8 body
    | '0' :: _ => digits 8 body
    | _ => digits 10 body
  if count = 0 then (0, cs) else (if negative then -(value : Int) else value, rest)

def clamp (n : Int) : Int := max least (min greatest n)

def fits (n : Int) : Bool := least ≤ n && n ≤ greatest

end Integer

namespace Arithmetic

inductive Token where
  | number (n : Int)
  | name (s : String)
  | operator (s : String)
  | other
deriving DecidableEq

/-- Why an expression has no value: it is malformed, or a name stands for no number. -/
inductive Fault where
  | malformed (reason : String)
  | number (text : String)
deriving DecidableEq

def Fault.message (expression : String) : Fault → String
  | .malformed reason => "arithmetic expression: " ++ reason ++ ": \"" ++ expression ++ "\""
  | .number text => "Illegal number: " ++ text

/-- The operators, the longer ones first. -/
def operators : List String :=
  ["<<=", ">>=", "<<", ">>", "<=", ">=", "==", "!=", "&&", "||", "+=", "-=", "*=", "/=", "%=", "&=",
   "^=", "|=", "=", "<", ">", "!", "&", "|", "^", "~", "+", "-", "*", "/", "%", "?", ":", "(", ")"]

def tokens : Nat → List Char → List Token
  | 0, _ => []
  | _ + 1, [] => []
  | fuel + 1, c :: cs =>
    if c = ' ' ∨ c = '\t' ∨ c = '\n' then tokens fuel cs
    else if c.isDigit then
      let (n, rest) := Integer.read (c :: cs)
      .number (Integer.clamp n) :: tokens fuel rest
    else if c.isAlpha ∨ c = '_' then
      let word := (c :: cs).takeWhile fun c => c.isAlphanum || c = '_'
      .name (String.ofList word) :: tokens fuel ((c :: cs).drop word.length)
    else
      match operators.find? fun o => o.toList.isPrefixOf (c :: cs) with
      | some o => .operator o :: tokens fuel ((c :: cs).drop o.length)
      | none => [.other]

/-- How strongly an operator between two numbers binds them. -/
def strength? : String → Option Nat
  | "|" => some 1
  | "^" => some 2
  | "&" => some 3
  | "==" | "!=" => some 4
  | "<" | "<=" | ">" | ">=" => some 5
  | "<<" | ">>" => some 6
  | "+" | "-" => some 7
  | "*" | "/" | "%" => some 8
  | _ => none

/-- The operator that an assignment applies; a plain one applies none. -/
def assigns? : String → Option (Option String)
  | "=" => some none
  | "<<=" => some (some "<<")
  | ">>=" => some (some ">>")
  | "+=" => some (some "+")
  | "-=" => some (some "-")
  | "*=" => some (some "*")
  | "/=" => some (some "/")
  | "%=" => some (some "%")
  | "&=" => some (some "&")
  | "^=" => some (some "^")
  | "|=" => some (some "|")
  | _ => none

def truth (b : Bool) : Int := if b then 1 else 0

/-- What an operator makes of two numbers; division goes toward zero. -/
def apply (o : String) (a b : Int) : Except Fault Int :=
  let bits (f : BitVec 64 → BitVec 64 → BitVec 64) : Except Fault Int :=
    .ok (f (.ofInt 64 a) (.ofInt 64 b)).toInt
  let places := (b % 64).toNat
  match o with
  | "==" => .ok (truth (a == b))
  | "!=" => .ok (truth (a != b))
  | "<" => .ok (truth (a < b))
  | "<=" => .ok (truth (a ≤ b))
  | ">" => .ok (truth (b < a))
  | ">=" => .ok (truth (b ≤ a))
  | "&" => bits (· &&& ·)
  | "|" => bits (· ||| ·)
  | "^" => bits (· ^^^ ·)
  | "<<" => .ok (Integer.wrap (a * Int.ofNat (Nat.pow 2 places)))
  | ">>" => .ok (a.fdiv (Int.ofNat (Nat.pow 2 places)))
  | "+" => .ok (Integer.wrap (a + b))
  | "-" => .ok (Integer.wrap (a - b))
  | "*" => .ok (Integer.wrap (a * b))
  | "/" => if b = 0 then .error (.malformed "division by zero") else .ok (Integer.wrap (a.tdiv b))
  | "%" => if b = 0 then .error (.malformed "division by zero") else .ok (Integer.wrap (a.tmod b))
  | _ => .error (.malformed "expecting EOF")

def valueOf (text : String) : Except Fault Int :=
  let (n, rest) := Integer.read text.toList
  let isSpace (c : Char) : Bool := c = ' ' || (9 ≤ c.toNat && c.toNat ≤ 13)
  if rest.all isSpace && Integer.fits n then .ok n else .error (.number text)

/-- An evaluation: the tokens that are left, and what has been assigned, the latest first. -/
structure Progress where
  left : List Token
  assigned : List (String × Int)

abbrev Step := StateT Progress (Except Fault)

/-- Takes the operator `o` if it comes next. -/
def takes (o : String) : Step Bool := do
  match (← get).left with
  | .operator next :: rest =>
    if next = o then
      modify fun p => { p with left := rest }
      return true
    else return false
  | _ => return false

def lookup (value : String → String) (name : String) : Step Int := do
  match (← get).assigned.lookup name with
  | some n => return n
  | none => StateT.lift (valueOf (value name))

mutual

/-- An assignment, or an expression that is none. What does not count is not evaluated. -/
def assignment (value : String → String) : Nat → Bool → Step Int
  | 0, _ => throw (.malformed "expecting primary")
  | fuel + 1, counts => do
    match (← get).left with
    | .name x :: .operator o :: rest =>
      match assigns? o with
      | some change =>
        modify fun p => { p with left := rest }
        let right ← assignment value fuel counts
        if !counts then return right
        let result ← match change with
          | none => pure right
          | some o => do StateT.lift (apply o (← lookup value x) right)
        modify fun p => { p with assigned := (x, result) :: p.assigned }
        return result
      | none => choice value fuel counts
    | _ => choice value fuel counts

/-- A choice between two values, or an expression that is none. -/
def choice (value : String → String) : Nat → Bool → Step Int
  | 0, _ => throw (.malformed "expecting primary")
  | fuel + 1, counts => do
    let a ← disjunction value fuel counts
    if ← takes "?" then
      let b ← assignment value fuel (counts && a != 0)
      if ← takes ":" then
        let c ← choice value fuel (counts && a == 0)
        return if a != 0 then b else c
      else throw (.malformed "expecting ':'")
    else return a

def disjunction (value : String → String) : Nat → Bool → Step Int
  | 0, _ => throw (.malformed "expecting primary")
  | fuel + 1, counts => do
    let a ← conjunction value fuel counts
    if ← takes "||" then
      let b ← disjunction value fuel (counts && a == 0)
      return truth (a != 0 || b != 0)
    else return a

def conjunction (value : String → String) : Nat → Bool → Step Int
  | 0, _ => throw (.malformed "expecting primary")
  | fuel + 1, counts => do
    let a ← operand value fuel counts
    let a ← climb value fuel counts 1 a
    if ← takes "&&" then
      let b ← conjunction value fuel (counts && a != 0)
      return truth (a != 0 && b != 0)
    else return a

/-- What operators of at least the given strength make of a number and what follows it; operators of
one strength group to the left. -/
def climb (value : String → String) : Nat → Bool → Nat → Int → Step Int
  | 0, _, _, _ => throw (.malformed "expecting primary")
  | fuel + 1, counts, least, left => do
    match (← get).left with
    | .operator o :: rest =>
      match strength? o with
      | none => return left
      | some k =>
        if k < least then return left
        modify fun p => { p with left := rest }
        let first ← operand value fuel counts
        let right ← climb value fuel counts (k + 1) first
        let result ← if counts then StateT.lift (apply o left right) else pure right
        climb value fuel counts least result
    | _ => return left

/-- A number, a name, a sign with an operand, or an expression in parentheses. -/
def operand (value : String → String) : Nat → Bool → Step Int
  | 0, _ => throw (.malformed "expecting primary")
  | fuel + 1, counts => do
    match (← get).left with
    | .number n :: rest =>
      modify fun p => { p with left := rest }
      return n
    | .name x :: rest =>
      modify fun p => { p with left := rest }
      if counts then lookup value x else return 0
    | .operator o :: rest =>
      modify fun p => { p with left := rest }
      match o with
      | "+" => operand value fuel counts
      | "-" => do return Integer.wrap (-(← operand value fuel counts))
      | "!" => do return truth ((← operand value fuel counts) == 0)
      | "~" => do return -(← operand value fuel counts) - 1
      | "(" => do
        let n ← assignment value fuel counts
        if ← takes ")" then return n else throw (.malformed "expecting ')'")
      | _ => throw (.malformed "expecting primary")
    | _ => throw (.malformed "expecting primary")

end

/-- The value of an expression, and what has been assigned, in order. Names have texts for values. -/
def evaluate (value : String → String) (text : List Char) :
    Except Fault (Int × List (String × Int)) := do
  let ts := tokens (text.length + 1) text
  let (n, p) ← (assignment value (8 * ts.length + 8) true).run ⟨ts, []⟩
  if p.left.isEmpty then return (n, p.assigned.reverse) else throw (.malformed "expecting EOF")

end Arithmetic

end Mend.Process

import Mend.Patch.Candidates

/-!
# Choices

A resolved pattern: a tree of alternatives in which no fact is left to look up.

* `Choice` : the tree;
* `Choice.stream` : its candidates, computed on demand;
* `Choice.meaning` : the list of its candidates;
* `Choice.count` : the number of combinations, up to `2 ^ 64 - 1`.
-/

namespace Mend.Patch

/-- A tree of alternatives. -/
inductive Choice where
  /-- Any of these texts. -/
  | leaves (texts : List String)
  /-- A left side, an operator, a right side. -/
  | binary (lhs rhs : Choice) (operators : List String)
  /-- An alternative between two fixed texts. -/
  | wrap (inner : Choice) (before after : String)
  /-- A condition and a block. -/
  | guarded (condition block : Choice)
  /-- One alternative of each member, on lines of their own. -/
  | sequence (members : List Choice)

def operatorText (x operator y : String) : String :=
  x ++ " " ++ operator ++ " " ++ y

def guardedText (condition block : String) : String :=
  "if (" ++ condition ++ ") \x7b\n" ++ block ++ "\n\x7d\n"

namespace Choice

mutual

/-- The candidates of a choice: left sides and conditions turn slowest, operators fastest, and a
sequence gives every text once. -/
def stream : Choice → Candidates
  | .leaves texts => .ofList texts
  | .binary lhs rhs operators =>
    let right := rhs.stream
    lhs.stream.flatMap fun x =>
      right.flatMap fun y => .ofList (operators.map fun o => operatorText x o y)
  | .wrap inner before after => inner.stream.map fun x => before ++ x ++ after
  | .guarded condition block =>
    let blocks := block.stream
    condition.stream.flatMap fun x => blocks.map fun y => guardedText x y
  | .sequence members => (Candidates.product (streams members)).distinct

def streams : List Choice → List Candidates
  | [] => []
  | c :: cs => c.stream :: streams cs

end

def firstOccurrences : List String → List String → List String
  | _, [] => []
  | seen, x :: xs =>
    if x ∈ seen then firstOccurrences seen xs else x :: firstOccurrences (x :: seen) xs

/-- All ways to take one text from each list, in lexicographic order. -/
def selections : List (List String) → List (List String)
  | [] => [[]]
  | xs :: rest => xs.flatMap fun x => (selections rest).map fun ys => x :: ys

/-- All texts of one line from each list, in lexicographic order; none if there is no list. -/
def combine (lists : List (List String)) : List String :=
  if lists.isEmpty then [] else (selections lists).map fun lines => "\n".intercalate lines

mutual

def meaning : Choice → List String
  | .leaves texts => texts
  | .binary lhs rhs operators =>
    lhs.meaning.flatMap fun x => rhs.meaning.flatMap fun y => operators.map fun o => operatorText x o y
  | .wrap inner before after => inner.meaning.map fun x => before ++ x ++ after
  | .guarded condition block =>
    condition.meaning.flatMap fun x => block.meaning.map fun y => guardedText x y
  | .sequence members => firstOccurrences [] (combine (meanings members))

def meanings : List Choice → List (List String)
  | [] => []
  | c :: cs => c.meaning :: meanings cs

end

def countLimit : Nat := 18446744073709551615

def saturatingMul (a b : Nat) : Nat := min (a * b) countLimit

mutual

/-- The number of combinations, before repeated texts are dropped. -/
def count : Choice → Nat
  | .leaves texts => min texts.length countLimit
  | .binary lhs rhs operators => saturatingMul (saturatingMul lhs.count rhs.count) operators.length
  | .wrap inner _ _ => inner.count
  | .guarded condition block => saturatingMul condition.count block.count
  | .sequence [] => 0
  | .sequence (c :: cs) => countAll 1 (c :: cs)

/-- The product of the counts of members, times `n`. -/
def countAll (n : Nat) : List Choice → Nat
  | [] => n
  | c :: cs => countAll (saturatingMul n c.count) cs

end

end Choice

end Mend.Patch

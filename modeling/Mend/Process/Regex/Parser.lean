import Mend.Process.Regex

/-!
# Reading regular expressions

There are two forms: basic expressions, in which `\(`, `\{`, `\|`, `\+` and `\?` are operators, and
extended ones, in which the same characters are operators without a backslash.

* `Dialect` : the form, and what is made of an operator without an operand;
* `bracketClass` : a class of characters in brackets;
* `Regex.parse` : the reader, with its complaints.
-/

namespace Mend.Process

/-- How expressions are written. A strict reader refuses a repetition of nothing in an extended
expression, one that is not passes over it. Where lines count as texts of their own, a line feed has to
be asked for by name. -/
structure Dialect where
  extended : Bool
  strict : Bool
  fold : Bool
  multiline : Bool

/-! ## Classes of characters -/

def namedClass? : String → Option (Char → Bool)
  | "alpha" => some Char.isAlpha
  | "digit" => some Char.isDigit
  | "alnum" => some Char.isAlphanum
  | "upper" => some Char.isUpper
  | "lower" => some Char.isLower
  | "space" => some fun c => c = ' ' || (9 ≤ c.toNat && c.toNat ≤ 13)
  | "blank" => some fun c => c = ' ' || c = '\t'
  | "punct" => some fun c => 33 ≤ c.toNat && c.toNat ≤ 126 && !c.isAlphanum
  | "print" => some fun c => 32 ≤ c.toNat && c.toNat ≤ 126
  | "graph" => some fun c => 33 ≤ c.toNat && c.toNat ≤ 126
  | "cntrl" => some fun c => c.toNat < 32 || c.toNat = 127
  | "xdigit" => some fun c => c.isDigit || ('a' ≤ c.toLower && c.toLower ≤ 'f')
  | _ => none

def isSpaceChar (c : Char) : Bool := c = ' ' || (9 ≤ c.toNat && c.toNat ≤ 13)

/-- The text up to a mark and the closing bracket behind it, and what follows. -/
def untilMark (mark : Char) : List Char → Option (List Char × List Char)
  | [] => none
  | c :: ']' :: cs =>
    if c = mark then some ([], cs)
    else (untilMark mark (']' :: cs)).map fun (inside, rest) => (c :: inside, rest)
  | c :: cs => (untilMark mark cs).map fun (inside, rest) => (c :: inside, rest)

/-- What is wrong with a class in brackets: it is not closed, or not even begun, it has an unknown name
or element, a range that is none, or the brackets of a name without its own. -/
inductive ClassFault where
  | unclosed
  | unbegun
  | unknownName
  | unknownElement
  | badRange
  | bareName

/-- A member of a class in brackets: a single character, or a test. -/
inductive ClassItem where
  | char (c : Char)
  | test (t : Char → Bool)

def classItem : List Char → Except ClassFault (ClassItem × List Char)
  | [] => .error .unclosed
  | '[' :: ':' :: cs =>
    match untilMark ':' cs with
    | none => .error .unclosed
    | some (name, rest) =>
      match namedClass? (String.ofList name) with
      | some t => .ok (.test t, rest)
      | none => .error .unknownName
  | '[' :: '.' :: cs =>
    match untilMark '.' cs with
    | some ([c], rest) => .ok (.char c, rest)
    | some _ => .error .unknownElement
    | none => .error .unclosed
  | '[' :: '=' :: cs =>
    match untilMark '=' cs with
    | some ([c], rest) => .ok (.char c, rest)
    | some _ => .error .unknownElement
    | none => .error .unclosed
  | c :: cs => .ok (.char c, cs)

/-- The tests of a class up to its closing bracket; `first` is set directly behind the opening one. -/
def classTests : Nat → Bool → List Char → Except ClassFault (List (Char → Bool) × List Char)
  | 0, _, _ => .error .unclosed
  | fuel + 1, first, cs => do
    match cs with
    | [] => throw .unclosed
    | c :: rest =>
      if c = ']' ∧ !first then return ([], rest)
      else
        let (item, rest) ← classItem cs
        match item, rest with
        | .char low, '-' :: d :: more =>
          if d = ']' then
            let (tests, rest) ← classTests fuel false rest
            return ((· == low) :: tests, rest)
          else
            let (item, rest) ← classItem (d :: more)
            match item with
            | .char high =>
              if high < low then throw .badRange
              let (tests, rest) ← classTests fuel false rest
              return ((fun c => low ≤ c && c ≤ high) :: tests, rest)
            | .test _ => throw .badRange
        | .char low, rest =>
          let (tests, rest) ← classTests fuel false rest
          return ((· == low) :: tests, rest)
        | .test t, rest =>
          let (tests, rest) ← classTests fuel false rest
          return (t :: tests, rest)

/-- A class in brackets, from behind its opening bracket. Case may be of no account, which matters for
a class that is negated. -/
def bracketClass (fold : Bool) (negation : Char) (cs : List Char) :
    Except ClassFault ((Char → Bool) × List Char) :=
  let holds (tests : List (Char → Bool)) (c : Char) : Bool :=
    tests.any (fun t => t c || (fold && (t c.toLower || t c.toUpper)))
  match cs with
  | [] => .error .unbegun
  | [c] => .error (if c = negation then .unbegun else .unclosed)
  | c :: rest =>
    if c = negation then do
      let (tests, rest) ← classTests (rest.length + 1) true rest
      return (fun c => !holds tests c, rest)
    else do
      let (tests, behind) ← classTests (cs.length + 1) true cs
      let inside := cs.take (cs.length - behind.length - 1)
      let isName := inside.head? = some ':' && inside.getLast? = some ':' && 2 < inside.length &&
        inside.all fun c => c = ':' || c.isAlpha
      if isName then throw .bareName
      return (holds tests, behind)

/-! ## Tokens -/

namespace Regex

inductive Fault where
  | bracket
  | bracketStart
  | className
  | classShape
  | element
  | size
  | range
  | group
  | close
  | repetition
  | reference
  | backslash
  | brace
  | braceContent
deriving DecidableEq

def Fault.text : Fault → String
  | .bracket => "Unmatched [, [^, [:, [., or [="
  | .bracketStart => "Invalid regular expression"
  | .className => "Invalid character class name"
  | .classShape => "character class syntax is [[:space:]], not [:space:]"
  | .element => "Invalid collation character"
  | .size => "Regular expression too big"
  | .range => "Invalid range end"
  | .group => "Unmatched ( or \\("
  | .close => "Unmatched ) or \\)"
  | .repetition => "Invalid preceding regular expression"
  | .reference => "Invalid back reference"
  | .backslash => "Trailing backslash"
  | .brace => "Unmatched \\\x7b"
  | .braceContent => "Invalid content of \\\x7b\\\x7d"

inductive Token where
  | atom (r : Regex)
  | anchor (r : Regex)
  | reference (n : Nat)
  | times (c : Char) (least : Nat) (most : Option Nat)
  | interval (least : Nat) (most : Option Nat)
  | openGroup
  | closeGroup
  | bar
  | hat
  | dollar

def literal (c : Char) : Regex := .one (· == c)

/-- The bounds of an interval, from behind its opening brace, and what follows its closing brace;
`none` if it is none. -/
def interval (extended : Bool) (cs : List Char) : Except Fault ((Nat × Option Nat) × List Char) :=
  let number (ds : List Char) : Nat := Nat.ofDigitChars 10 ds 0
  let low := cs.takeWhile Char.isDigit
  let rest := cs.drop low.length
  let isClosed (cs : List Char) : Bool :=
    if extended then cs.contains '\x7d' else (cs.zip cs.tail).contains ('\\', '\x7d')
  let unread : Fault := if isClosed cs then .braceContent else .brace
  let close (least : Nat) (most : Option Nat) (rest : List Char) :
      Except Fault ((Nat × Option Nat) × List Char) :=
    let accept (rest : List Char) :=
      if most.any (· < least) then .error .braceContent
      else if 32767 < least || most.any (32767 < ·) then .error .size
      else .ok ((least, most), rest)
    match extended, rest with
    | true, '\x7d' :: rest => accept rest
    | false, '\\' :: '\x7d' :: rest => accept rest
    | _, _ => .error unread
  match rest with
  | ',' :: rest =>
    let high := rest.takeWhile Char.isDigit
    close (number low) (if high.isEmpty then none else some (number high)) (rest.drop high.length)
  | rest => if low.isEmpty then .error unread
    else close (number low) (some (number low)) rest

def classEscape? : Char → Option Token
  | 'w' => some (.atom (.one isWordLetter))
  | 'W' => some (.atom (.one (!isWordLetter ·)))
  | 's' => some (.atom (.one isSpaceChar))
  | 'S' => some (.atom (.one (!isSpaceChar ·)))
  | 'b' => some (.anchor (.wordEdge false))
  | 'B' => some (.anchor (.wordEdge true))
  | '<' => some (.anchor .wordStart)
  | '>' => some (.anchor .wordEnd)
  | '\x27' => some (.anchor .textEnd)
  | c => if c.toNat = 96 then some (.anchor .textStart) else none

/-- The operator that a character stands for, written plainly in an extended expression and behind a
backslash in a basic one. -/
def operator? : Char → Option Token
  | '(' => some .openGroup
  | ')' => some .closeGroup
  | '|' => some .bar
  | '+' => some (.times '+' 1 none)
  | '?' => some (.times '?' 0 (some 1))
  | _ => none

def ClassFault.fault : ClassFault → Fault
  | .unclosed => .bracket
  | .unbegun => .bracketStart
  | .unknownName => .className
  | .unknownElement => .element
  | .badRange => .range
  | .bareName => .classShape

/-- Whether nothing that can be repeated stands in front of what follows a token, given whether that is
so for the token itself. -/
def Token.startsPart (start : Bool) : Token → Bool
  | .openGroup | .bar => true
  | .hat => start
  | _ => false

/-- The tokens of an expression; `start` is set where nothing stands in front that can be repeated. -/
def tokens (d : Dialect) : Nat → Bool → List Char → Except Fault (List Token)
  | 0, _, _ => .ok []
  | _ + 1, _, [] => .ok []
  | fuel + 1, start, c :: cs =>
    let emit (t : Token) (rest : List Char) : Except Fault (List Token) :=
      (tokens d fuel (t.startsPart start) rest).map (t :: ·)
    match c, cs with
    | '\\', [] => .error .backslash
    | '\\', e :: rest =>
      if e = '\x7b' then
        if d.extended || (start && !d.strict) then emit (.atom (literal e)) rest
        else if start then .error .repetition
        else do
          let ((least, most), rest) ← interval false rest
          emit (.interval least most) rest
      else if e.isDigit && e ≠ '0' then emit (.reference (e.toNat - '0'.toNat)) rest
      else
        match operator? e, classEscape? e with
        | some t, _ => emit (if d.extended then .atom (literal e) else t) rest
        | none, some t => emit t rest
        | none, none => emit (.atom (literal e)) rest
    | '.', rest => emit (.atom (.one fun c => !(d.multiline && c = '\n'))) rest
    | '[', rest =>
      match bracketClass d.fold '^' rest with
      | .ok (test, after) =>
        let hidesBreaks := d.multiline && rest.head? == some '^'
        emit (.atom (.one fun c => test c && !(hidesBreaks && c = '\n'))) after
      | .error e => .error (ClassFault.fault e)
    | '*', rest => emit (.times '*' 0 none) rest
    | '^', rest => emit .hat rest
    | '$', rest => emit .dollar rest
    | '\x7b', rest =>
      if d.extended then
        match interval true rest with
        | .ok ((least, most), rest) => emit (.interval least most) rest
        | .error e => if d.strict then .error e else emit (.atom (literal '\x7b')) rest
      else emit (.atom (literal '\x7b')) rest
    | e, rest =>
      match operator? e with
      | some t => emit (if d.extended then t else .atom (literal e)) rest
      | none => emit (.atom (literal e)) rest

/-! ## Expressions -/

/-- An expression that is being read: how many groups have been opened, and which are closed. -/
structure Progress where
  opened : Nat
  closed : List Nat

/-- An operand with the repetitions behind it. A strict reader of basic expressions refuses some that
follow others. -/
def quantified (d : Dialect) : Bool → Regex → List Token → Except Fault (Regex × List Token)
  | second, r, .times c least most :: ts =>
    if second && d.strict && !d.extended && c = '*' then .error .repetition
    else quantified d true (.times r least most) ts
  | second, r, .interval least most :: ts =>
    if second && d.strict && !d.extended then .error .repetition
    else quantified d true (.times r least most) ts
  | _, r, ts => .ok (r, ts)

/-- Whether a `$` in front of these tokens is at the end of its part of a basic expression. -/
def endsPart : List Token → Bool
  | [] | .closeGroup :: _ | .bar :: _ => true
  | _ => false

mutual

/-- Alternatives, up to a closing parenthesis that belongs to a group further out. -/
def alternatives (d : Dialect) (inGroup : Bool) :
    Nat → Progress → List Token → Except Fault (Regex × Progress × List Token)
  | 0, p, ts => .ok (.nothing, p, ts)
  | fuel + 1, p, ts => do
    match ← sequence d inGroup fuel p true ts with
    | (r, p, .bar :: ts) =>
      let (s, p, ts) ← alternatives d inGroup fuel p ts
      return (.alt r s, p, ts)
    | result => return result

def sequence (d : Dialect) (inGroup : Bool) :
    Nat → Progress → Bool → List Token → Except Fault (Regex × Progress × List Token)
  | 0, p, _, ts => .ok (.nothing, p, ts)
  | _ + 1, p, _, [] => .ok (.nothing, p, [])
  | fuel + 1, p, atStart, t :: ts =>
    let continueWith (r : Regex) (p : Progress) (ts : List Token) :
        Except Fault (Regex × Progress × List Token) := do
      let (r, ts) ← quantified d false r ts
      let (s, p, ts) ← sequence d inGroup fuel p false ts
      return (.cat r s, p, ts)
    let anchored (r : Regex) : Except Fault (Regex × Progress × List Token) := do
      let (s, p, ts) ← sequence d inGroup fuel p d.extended ts
      return (.cat r s, p, ts)
    match t with
    | .bar => .ok (.nothing, p, t :: ts)
    | .closeGroup =>
      if inGroup then .ok (.nothing, p, t :: ts)
      else if d.extended && !d.strict then continueWith (literal ')') p ts
      else .error .close
    | .openGroup => do
      let n := p.opened + 1
      match ← alternatives d true fuel { p with opened := n } ts with
      | (r, inner, .closeGroup :: ts) =>
        continueWith (.group n r) { inner with closed := n :: inner.closed } ts
      | _ => throw .group
    | .reference n => if p.closed.contains n then continueWith (.again n) p ts else .error .reference
    | .atom r => continueWith r p ts
    | .anchor r => anchored r
    | .times c _ _ =>
      if !d.extended then continueWith (literal c) p ts
      else if d.strict then .error .repetition
      else sequence d inGroup fuel p atStart ts
    | .interval .. =>
      if !d.extended || d.strict then .error .repetition
      else sequence d inGroup fuel p atStart ts
    | .hat => if d.extended || atStart then anchored .lineStart else continueWith (literal '^') p ts
    | .dollar => if d.extended || endsPart ts then anchored .lineEnd else continueWith (literal '$') p ts

end

def parse (d : Dialect) (pattern : List Char) : Except Fault Regex := do
  let ts ← tokens d (pattern.length + 1) true pattern
  match ← alternatives d false (2 * ts.length + 2) ⟨0, []⟩ ts with
  | (r, _, []) => return r
  | _ => throw .close

def ofText (cs : List Char) : Regex :=
  cs.foldr (fun c r => .cat (literal c) r) .nothing

end Regex

end Mend.Process

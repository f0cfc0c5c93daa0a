import Mend.Process.Octets

/-!
# Regular expressions

What the expressions of line-based text tools match.

* `Regex` : the expressions;
* `Subject` : the text they are matched against, and how;
* `Regex.ends` : where a match that starts in one place can end;
* `Subject.find?` : the leftmost match, and of those the longest.
-/

namespace Mend.Process

inductive Regex where
  | nothing
  | one (test : Char → Bool)
  | lineStart
  | lineEnd
  | textStart
  | textEnd
  | wordStart
  | wordEnd
  | wordEdge (inside : Bool)
  | cat (a b : Regex)
  | alt (a b : Regex)
  | times (a : Regex) (least : Nat) (most : Option Nat)
  | group (n : Nat) (a : Regex)
  | again (n : Nat)

/-- The text an expression is matched against. It may be read without regard to case, and its lines may
count as texts of their own for `^` and `$`. -/
structure Subject where
  text : Array Char
  fold : Bool
  multiline : Bool

/-- A place in a text, and what the groups have matched: their numbers with start and end. -/
structure Cursor where
  place : Nat
  groups : List (Nat × Nat × Nat)

namespace Regex

def refersBack : Regex → Bool
  | .again _ => true
  | .cat a b | .alt a b => a.refersBack || b.refersBack
  | .times a _ _ | .group _ a => a.refersBack
  | _ => false

def groupCount : Regex → Nat
  | .cat a b | .alt a b => a.groupCount + b.groupCount
  | .times a _ _ => a.groupCount
  | .group _ a => a.groupCount + 1
  | _ => 0

/-- Cursors without those that stand where an earlier one does. What groups have matched tells two
cursors apart only if `exact` is set. -/
def distinctPlaces (exact : Bool) : List Cursor → List Cursor → List Cursor
  | _, [] => []
  | seen, c :: cs =>
    if seen.any fun d => d.place == c.place && (!exact || d.groups == c.groups) then
      distinctPlaces exact seen cs
    else c :: distinctPlaces exact (c :: seen) cs

/-- Repeats a step from `least` to `most` times, each repetition taking something. -/
def repeated (exact : Bool) (step : Cursor → List Cursor) :
    Nat → Nat → Option Nat → Cursor → List Cursor
  | 0, least, _, c => if least = 0 then [c] else []
  | fuel + 1, least, most, c =>
    let stop := if least = 0 then [c] else []
    if most = some 0 then stop
    else
      let further := (step c).filter fun d => c.place < d.place || 0 < least
      distinctPlaces exact []
        (further.flatMap (repeated exact step fuel (least - 1) (most.map (· - 1))) ++ stop)

/-- Repeats a test of one character; it can stop after any number of them, the largest first. -/
def run (s : Subject) (test : Char → Bool) : Nat → Nat → Nat → Option Nat → List Nat
  | 0, place, least, _ => if least = 0 then [place] else []
  | fuel + 1, place, least, most =>
    let stop := if least = 0 then [place] else []
    if most = some 0 then stop
    else
      match s.text[place]? with
      | some c =>
        if test c then run s test fuel (place + 1) (least - 1) (most.map (· - 1)) ++ stop else stop
      | none => stop

end Regex

namespace Subject

def folded (s : Subject) (c : Char) : Char := if s.fold then c.toLower else c

/-- Whether a character passes a test, in one case or the other. -/
def passes (s : Subject) (test : Char → Bool) (c : Char) : Bool :=
  test c || (s.fold && (test c.toLower || test c.toUpper))

def wordBefore (s : Subject) (place : Nat) : Bool :=
  place ≠ 0 && (s.text[place - 1]?).any isWordLetter

def wordAt (s : Subject) (place : Nat) : Bool :=
  (s.text[place]?).any isWordLetter

def between (s : Subject) (start stop : Nat) : List Char :=
  (s.text.extract start stop).toList

/-- Whether the characters from `start` to `stop` stand again at a place. -/
def standsAt (s : Subject) (start stop place : Nat) : Bool :=
  place + (stop - start) ≤ s.text.size &&
    ((s.between start stop).map s.folded == (s.between place (place + (stop - start))).map s.folded)

end Subject

namespace Regex

/-- Where a match from a cursor can end, the places it prefers first. -/
def ends (s : Subject) (exact : Bool) : Regex → Cursor → List Cursor
  | .nothing, c => [c]
  | .one test, c =>
    match s.text[c.place]? with
    | some d => if s.passes test d then [{ c with place := c.place + 1 }] else []
    | none => []
  | .lineStart, c =>
    if c.place = 0 || (s.multiline && s.text[c.place - 1]? == some '\n') then [c] else []
  | .lineEnd, c =>
    if c.place = s.text.size || (s.multiline && s.text[c.place]? == some '\n') then [c] else []
  | .textStart, c => if c.place = 0 then [c] else []
  | .textEnd, c => if c.place = s.text.size then [c] else []
  | .wordStart, c => if !s.wordBefore c.place && s.wordAt c.place then [c] else []
  | .wordEnd, c => if s.wordBefore c.place && !s.wordAt c.place then [c] else []
  | .wordEdge inside, c =>
    if (s.wordBefore c.place == s.wordAt c.place) == inside then [c] else []
  | .cat a b, c => distinctPlaces exact [] ((a.ends s exact c).flatMap (b.ends s exact))
  | .alt a b, c => distinctPlaces exact [] (a.ends s exact c ++ b.ends s exact c)
  | .times (.one test) least most, c =>
    (run s (s.passes test) (s.text.size - c.place + 1) c.place least most).map fun place =>
      { c with place }
  | .times a least most, c =>
    repeated exact (a.ends s exact) (s.text.size - c.place + least + 1) least most c
  | .group n a, c =>
    (a.ends s exact c).map fun d =>
      { d with groups := (n, c.place, d.place) :: d.groups.filter fun g => g.1 ≠ n }
  | .again n, c =>
    match c.groups.lookup n with
    | some (start, stop) =>
      if s.standsAt start stop c.place then [{ c with place := c.place + (stop - start) }] else []
    | none => []

end Regex

/-- A match: where it starts and ends, and what its groups have matched. -/
structure Found where
  start : Nat
  stop : Nat
  groups : List (Nat × Nat × Nat)

namespace Subject

/-- The cursor that stands furthest on, the first of several. -/
def furthest : List Cursor → Option Cursor
  | [] => none
  | c :: cs =>
    match furthest cs with
    | some d => if c.place < d.place then some d else some c
    | none => some c

def matchAt? (s : Subject) (r : Regex) (start : Nat) : Option Found :=
  (furthest (r.ends s r.refersBack ⟨start, []⟩)).map fun c => ⟨start, c.place, c.groups⟩

/-- The leftmost match among those that start at `start` or up to `tries - 1` places behind it. -/
def findFrom? (s : Subject) (r : Regex) : Nat → Nat → Option Found
  | 0, _ => none
  | tries + 1, start =>
    match s.matchAt? r start with
    | some found => some found
    | none => s.findFrom? r tries (start + 1)

def find? (s : Subject) (r : Regex) (start : Nat) : Option Found :=
  s.findFrom? r (s.text.size + 1 - start) start

end Subject

end Mend.Process

import Mend.Process.Regex.Parser
import Mend.Process.Shell.State

/-!
# Patterns and fields

What becomes of the text of a word once its parameters are known.

* `Pattern.ofChars`, `Pattern.remainders` : the patterns of file names;
* `pathNames` : the paths that a pattern matches;
* `Mark`, `fields` : the fields of a text with marks;
* `trimmed` : a text without what a pattern matches at one end;
* `lineFields` : the fields of a line that is read.
-/

namespace Mend.Process

/-! ## Patterns of file names -/

/-- A character of a pattern; a quoted one stands for itself. -/
abbrev PatternChar := Char × Bool

/-- A piece of a pattern: any text, or a character that passes a test. -/
inductive Glob where
  | any
  | one (test : Char → Bool)

namespace Pattern

/-- The name of a class of characters, from behind its opening mark, and what follows its closing
mark. -/
def className : List PatternChar → List Char → Option (List Char × List PatternChar)
  | (':', false) :: (']', false) :: rest, name => some (name.reverse, rest)
  | (c, _) :: rest, name => if c.isAlpha then className rest (c :: name) else none
  | [], _ => none

/-- The member of a class in front of a text, which an unquoted backslash may take as it is. -/
def member : List PatternChar → Option (Char × List PatternChar)
  | ('\\', false) :: (c, _) :: rest => some (c, rest)
  | (c, _) :: rest => some (c, rest)
  | [] => none

/-- The tests of a class up to its closing bracket, and what follows that; `first` is set directly
behind the opening one. -/
def classTests : Nat → Bool → List PatternChar → Option (List (Char → Bool) × List PatternChar)
  | 0, _, _ => none
  | _ + 1, _, [] => none
  | fuel + 1, first, p :: ps =>
    if p = (']', false) ∧ !first then some ([], ps)
    else
      let named := match p, ps with
        | ('[', false), (':', false) :: rest =>
          match className rest [] with
          | some (name, rest) => (namedClass? (String.ofList name)).map fun t => (t, rest)
          | none => none
        | _, _ => none
      match named with
      | some (t, rest) => (classTests fuel false rest).map fun (ts, rest) => (t :: ts, rest)
      | none =>
        match member (p :: ps) with
        | none => none
        | some (low, rest) =>
          let single := (classTests fuel false rest).map fun (ts, rest) => ((· == low) :: ts, rest)
          match rest with
          | ('-', false) :: next :: more =>
            if next = (']', false) then single
            else
              match member (next :: more) with
              | some (high, rest) =>
                (classTests fuel false rest).map fun (ts, rest) =>
                  ((fun c => low ≤ c && c ≤ high) :: ts, rest)
              | none => single
          | _ => single

/-- The pieces of a pattern: `*` is any text, `?` any character, brackets a class. An unquoted backslash
takes the next character as it is. -/
def pieces : Nat → List PatternChar → List Glob
  | 0, _ => []
  | _ + 1, [] => []
  | fuel + 1, p :: ps =>
    match p, ps with
    | ('*', false), ps => .any :: pieces fuel ps
    | ('?', false), ps => .one (fun _ => true) :: pieces fuel ps
    | ('\\', false), (c, _) :: ps => .one (· == c) :: pieces fuel ps
    | ('[', false), ps =>
      let (negated, inside) := match ps with
        | ('!', false) :: inside => (true, inside)
        | inside => (false, inside)
      match classTests (inside.length + 1) true inside with
      | some (tests, rest) => .one (fun c => tests.any (· c) != negated) :: pieces fuel rest
      | none => .one (· == '[') :: pieces fuel ps
    | (c, _), ps => .one (· == c) :: pieces fuel ps

def ofChars (cs : List PatternChar) : List Glob := pieces (cs.length + 1) cs

/-- The ends of texts, the longest first. -/
def tails : List Char → List (List Char)
  | [] => [[]]
  | c :: cs => (c :: cs) :: tails cs

/-- What a pattern can leave of texts, each of which is an end of the first; the longest remainder comes
first. -/
def remainders : List Glob → List (List Char) → List (List Char)
  | [], rests => rests
  | .any :: ps, rests =>
    match rests with
    | [] => []
    | longest :: _ => remainders ps (tails longest)
  | .one test :: ps, rests =>
    remainders ps (rests.filterMap fun cs => match cs with
      | c :: cs => if test c then some cs else none
      | [] => none)

/-- Whether a pattern matches a whole text. -/
def accepts (ps : List Glob) (cs : List Char) : Bool :=
  (remainders ps [cs]).any (·.isEmpty)

end Pattern

def isPattern (field : List PatternChar) : Bool :=
  field.any fun (c, quoted) => !quoted && (c = '*' || c = '?' || c = '[')

def pathsBelow (tree : FileTree) : String → List (List PatternChar) → List String
  | front, [] => [front]
  | front, piece :: rest =>
    let plain := String.ofList (piece.map (·.1))
    let separator := if rest.isEmpty then "" else "/"
    if !isPattern piece then
      let path := front ++ plain
      if rest.isEmpty then
        if plain.isEmpty || tree.contains (pathOf path) then [path] else []
      else pathsBelow tree (path ++ separator) rest
    else
      match tree.resolve (pathOf (if front.isEmpty then "." else front)) with
      | .error _ => []
      | .ok place =>
        let hidden := (piece.head?.map (·.1)) == some '.'
        let pattern := Pattern.ofChars piece
        let names := (if hidden then [".", ".."] else []) ++ namesIn tree place
        let found := names.filter fun n =>
          (hidden || n.toList.head? != some '.') && Pattern.accepts pattern n.toList
        if rest.isEmpty then found.map (front ++ ·)
        else
          let isDirectory (path : String) : Bool :=
            (tree.lookup (pathOf path)).toOption.any (·.same .directory)
          (found.filter fun n => isDirectory (front ++ n)).flatMap fun n =>
            pathsBelow tree (front ++ n ++ separator) rest

/-- The files a field stands for: those its pattern matches, or the field itself. -/
def pathNames (tree : FileTree) (field : List PatternChar) : List String :=
  let plain := String.ofList (field.map (·.1))
  if !isPattern field then [plain]
  else
    let found := (pathsBelow tree "" (field.splitOnP fun p => p.1 = '/')).mergeSort fun a b => a ≤ b
    if found.isEmpty then [plain] else found

/-! ## Fields -/

/-- A step of an expansion: text that may be quoted and may be split, the start of a field that may be
empty, or the end of a field. -/
inductive Mark where
  | text (s : String) (quoted splits : Bool)
  | keep
  | cut

/-- A step of splitting: a character, a separator that may be a blank, the start of a field that may be
empty, or the end of a field. -/
inductive FieldItem where
  | char (c : PatternChar)
  | separator (blank : Bool)
  | keep
  | cut

namespace FieldItem

def isBlank (c : Char) : Bool := c = ' ' || c = '\t' || c = '\n'

def ofMarks (separators : List Char) : List Mark → List FieldItem
  | [] => []
  | .text s quoted splits :: ms =>
    s.toList.map (fun c =>
      if splits && !quoted && separators.contains c then .separator (isBlank c) else .char (c, quoted)) ++
      ofMarks separators ms
  | .keep :: ms => .keep :: ofMarks separators ms
  | .cut :: ms => .cut :: ofMarks separators ms

/-- Where the splitting stands: in front of a field, in one, behind a blank that ended one, or behind
another separator. -/
inductive Stage where
  | before
  | inside
  | afterBlank
deriving DecidableEq

/-- The fields of items, behind the part of a field that has been read. -/
def split : Stage → List PatternChar → List (List PatternChar) → List FieldItem →
    List (List PatternChar)
  | stage, current, done, [] => (if stage = .inside then current.reverse :: done else done).reverse
  | _, current, done, .char c :: is => split .inside (c :: current) done is
  | _, current, done, .keep :: is => split .inside current done is
  | stage, current, done, .cut :: is =>
    split .before [] (if stage = .inside then current.reverse :: done else done) is
  | stage, current, done, .separator true :: is =>
    if stage = .inside then split .afterBlank [] (current.reverse :: done) is
    else split stage [] done is
  | stage, current, done, .separator false :: is =>
    if stage = .afterBlank then split .before [] done is
    else split .before [] (current.reverse :: done) is

end FieldItem

def fields (separators : List Char) (ms : List Mark) : List (List PatternChar) :=
  FieldItem.split .before [] [] (FieldItem.ofMarks separators ms)

def markText (separator : String) (ms : List Mark) : String :=
  String.join (ms.map fun m => match m with
    | .text s .. => s
    | .keep => ""
    | .cut => separator)

def markPattern (ms : List Mark) : List PatternChar :=
  ms.flatMap fun m => match m with
    | .text s quoted _ => s.toList.map (·, quoted)
    | .keep => []
    | .cut => [(' ', true)]

/-- A text without the part at one end that a pattern matches: the longest such part, or the
shortest. -/
def trimmed (pattern : List PatternChar) (atEnd longest : Bool) (s : String) : String :=
  let globs := Pattern.ofChars pattern
  let choose (rests : List (List Char)) : Option (List Char) :=
    if longest then rests.getLast? else rests.head?
  if atEnd then
    match choose (Pattern.remainders globs.reverse [s.toList.reverse]) with
    | some rest => String.ofList rest.reverse
    | none => s
  else
    match choose (Pattern.remainders globs [s.toList]) with
    | some rest => String.ofList rest
    | none => s

/-! ## Fields of a line -/

/-- The first `count` fields of a line, whose escaped characters separate nothing. The last one takes
all that is left, without the separator behind it if it is a single field. -/
def lineFields (separators : List Char) : Nat → List (Char × Bool) → List String
  | 0, _ => []
  | count + 1, cs =>
    let separates (p : Char × Bool) : Bool := !p.2 && separators.contains p.1
    let blank (p : Char × Bool) : Bool := separates p && FieldItem.isBlank p.1
    let text (ps : List (Char × Bool)) : String := String.ofList (ps.map (·.1))
    let cs := cs.dropWhile blank
    if cs.isEmpty then []
    else
      let field := cs.takeWhile fun p => !separates p
      let behind := (cs.drop field.length).dropWhile blank
      let behind := match behind with
        | p :: rest => if separates p then rest.dropWhile blank else behind
        | [] => []
      if count = 0 then
        if behind.isEmpty then [text field] else [text (cs.reverse.dropWhile blank).reverse]
      else text field :: lineFields separators count behind

end Mend.Process

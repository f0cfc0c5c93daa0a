import Mend.Process.Regex.Parser
import Mend.Process.Utility.Printing

/-!
# The language of line edits

* `Address`, `Bound`, `Selection` : the lines that a command applies to;
* `Substitution`, `Action`, `Instruction` : the commands;
* `Edit.Script` : a program of edits, and `Edit.read` its reader.
-/

namespace Mend.Process.Edit

/-! ## Commands -/

/-- An expression to be matched; none stands for the one that was used last. -/
structure Matcher where
  regex : Option Regex
  fold : Bool
  multiline : Bool

/-- A line: the one with a number, every one at a distance from a first one, the last one, or one that
an expression matches. -/
inductive Address where
  | line (n : Nat)
  | every (first step : Nat)
  | last
  | matching (m : Matcher)

/-- Where a range ends: at an address, so many lines further on, or at a line whose number is a
multiple. -/
inductive Bound where
  | address (a : Address)
  | further (n : Nat)
  | multiple (n : Nat)

structure Selection where
  first : Option Address
  second : Option Bound
  negated : Bool

/-- A piece of a replacement: text, what a group has matched, or a change of case. -/
inductive Piece where
  | text (cs : List Char)
  | group (n : Nat)
  | letters (mode : Char)

/-- A substitution: what is replaced, by what, from which match on, and what becomes of the line. -/
structure Substitution where
  matcher : Matcher
  replacement : List Piece
  everywhere : Bool
  nth : Nat
  prints : Bool
  file : Option String

/-- How text is added: behind a line, in front of it, or in its place. -/
inductive Manner where
  | append
  | insert
  | change
deriving DecidableEq

/-- What a command does. Text that is added may be none yet. -/
inductive Action where
  | openBlock
  | closeBlock
  | label
  | number
  | add (how : Manner) (text : Option (List Char))
  | jump (label : String)
  | jumpIfReplaced (label : String)
  | jumpUnlessReplaced (label : String)
  | delete
  | deleteFirst
  | fileName
  | get
  | getAppend
  | hold
  | holdAppend
  | exchange
  | list (width : Option Nat)
  | next
  | nextAppend
  | print
  | printFirst
  | quit (code : Nat)
  | quitSilently (code : Nat)
  | readFile (name : String)
  | readLine (name : String)
  | writeFile (name : String)
  | writeFirst (name : String)
  | substitute (s : Substitution)
  | transliterate (table : List (Char × Char))
  | empty
  | unusable (letter : Char)

structure Instruction where
  selection : Selection
  action : Action

/-- A program of edits, its labels with the number of the command behind each, and whether it starts by
asking for silence. -/
structure Script where
  instructions : Array Instruction
  labels : List (String × Nat)
  silent : Bool

/-! ## The reader -/

/-- What is wrong with a script: at the place where its reader stood, or as a whole. -/
inductive Fault where
  | here (message : String) (left : Nat)
  | whole (message : String)

/-- A script that is being read: what is left of it, and the files that it writes so far, the latest
first. -/
structure Reading where
  rest : List Char
  outputs : List String

/-- A step of the reader. What has been read of files stays known when it gives up. -/
abbrev Reader := ExceptT Fault (StateM Reading)

def rest : Reader (List Char) := return (← MonadState.get).rest

def modifyRest (f : List Char → List Char) : Reader Unit := modify fun r => { r with rest := f r.rest }

def fail {α : Type} (message : String) : Reader α := do
  throw (.here message (← rest).length)

/-- Takes a character, if one is left. -/
def take : Reader (Option Char) := do
  match ← rest with
  | [] => return none
  | c :: cs => do
    modifyRest fun _ => cs
    return some c

def putBack (c : Option Char) : Reader Unit :=
  modifyRest fun cs => c.toList ++ cs

def skipBlanks : Reader Unit :=
  modifyRest fun cs => cs.dropWhile fun c => c = ' ' || c = '\t'

def takeNext : Reader (Option Char) := do
  skipBlanks
  take

def takeAll (test : Char → Bool) : Reader (List Char) := do
  let front := (← rest).takeWhile test
  modifyRest fun cs => cs.drop front.length
  return front

/-- Takes a number; none at all is zero. -/
def takeNumber : Reader Nat := do
  return Nat.ofDigitChars 10 (← takeAll Char.isDigit) 0

/-- What a letter behind a backslash stands for, and what follows it. -/
def escaped? : List Char → Option (Char × List Char)
  | 'a' :: cs => some ('\x07', cs)
  | 'f' :: cs => some ('\x0c', cs)
  | 'n' :: cs => some ('\n', cs)
  | 'r' :: cs => some ('\r', cs)
  | 't' :: cs => some ('\t', cs)
  | 'v' :: cs => some ('\x0b', cs)
  | 'c' :: c :: cs => some (Char.ofNat (c.toUpper.toNat ^^^ 64), cs)
  | 'd' :: cs => numeric 10 3 cs
  | 'o' :: cs => numeric 8 3 cs
  | 'x' :: cs => numeric 16 2 cs
  | _ => none
where
  /-- The character with a number of up to so many digits in a base. -/
  numeric (base count : Nat) (cs : List Char) : Option (Char × List Char) :=
    let ds := (cs.take count).takeWhile fun c => Integer.digitValue c < base
    if ds.isEmpty then none else some (Printing.byteChar (Integer.digits base ds).1, cs.drop ds.length)

/-- A class in brackets from behind its opening bracket, the latest character first; `inner` is the mark
of a name inside it. A line feed may be written as a letter. -/
def classText : Nat → Bool → Option Char → List Char → Reader (Option (List Char))
  | 0, _, _, _ => return none
  | fuel + 1, first, inner, text => do
    match ← take with
    | none => return none
    | some '\n' => do
      putBack '\n'
      return none
    | some c =>
      let next := (← rest).head?
      match inner with
      | some mark =>
        if c = mark && next = some ']' then
          let _ ← take
          classText fuel false none (']' :: c :: text)
        else classText fuel false inner (c :: text)
      | none =>
        if c = ']' && !first then return some (c :: text)
        else if c = '[' && (next = some ':' || next = some '.' || next = some '=') then
          let _ ← take
          classText fuel false next (next.toList ++ c :: text)
        else if c = '\\' && next = some 'n' then
          let _ ← take
          classText fuel false none ('\n' :: text)
        else if c = '\\' && next = some '\\' then
          let _ ← take
          classText fuel false none ('\\' :: '\\' :: text)
        else if c = '^' && first && text.head? = some '[' then classText fuel true none (c :: text)
        else classText fuel false none (c :: text)

/-- The text up to an unescaped delimiter, which may not stand behind a line feed. In an expression a
line feed may be written as a letter, and a delimiter in a class means itself. -/
def untilDelimiter (delimiter : Char) (expression : Bool) : Nat → List Char → Reader (Option (List Char))
  | 0, _ => return none
  | fuel + 1, text => do
    match ← take with
    | none => return none
    | some c =>
      if c = '\n' then
        putBack c
        return none
      else if c = delimiter then return some text.reverse
      else if c = '[' && expression then
        match ← classText ((← rest).length + 1) true none (c :: text) with
        | some text => untilDelimiter delimiter expression fuel text
        | none => return none
      else if c = '\\' then
        match ← take with
        | none => return none
        | some d =>
          if d = delimiter && (expression || d ≠ '&') then untilDelimiter delimiter expression fuel (d :: text)
          else if d = 'n' && expression then untilDelimiter delimiter expression fuel ('\n' :: text)
          else if d = '\n' && expression then untilDelimiter delimiter expression fuel (d :: text)
          else untilDelimiter delimiter expression fuel (d :: '\\' :: text)
      else untilDelimiter delimiter expression fuel (c :: text)

def delimited (delimiter : Char) (expression : Bool) : Reader (Option (List Char)) := do
  untilDelimiter delimiter expression ((← rest).length + 1) []

def normalized : Nat → List Char → List Char
  | 0, cs => cs
  | _ + 1, [] => []
  | fuel + 1, '\\' :: cs =>
    match escaped? cs, cs with
    | some (c, rest), _ => c :: normalized fuel rest
    | none, c :: rest => '\\' :: c :: normalized fuel rest
    | none, [] => ['\\']
  | fuel + 1, c :: cs => c :: normalized fuel cs

/-- The expression that a text spells; an empty one stands for the one that was used last. -/
def matcher (extended fold multiline : Bool) (text : List Char) : Reader Matcher := do
  if text.isEmpty then
    if fold || multiline then fail "cannot specify modifiers on empty regexp"
    return ⟨none, false, false⟩
  match Regex.parse ⟨extended, true, fold, multiline⟩ (normalized (text.length + 1) text) with
  | .ok r => return ⟨some r, fold, multiline⟩
  | .error .classShape => throw (.whole Regex.Fault.classShape.text)
  | .error e => fail e.text

def addressFlags : Nat → Bool → Bool → Reader (Bool × Bool)
  | 0, fold, multiline => return (fold, multiline)
  | fuel + 1, fold, multiline => do
    match ← takeNext with
    | some 'I' => addressFlags fuel true multiline
    | some 'M' => addressFlags fuel fold true
    | c => do
      putBack c
      return (fold, multiline)

def address? (extended : Bool) : Reader (Option Address) := do
  let expression (delimiter : Char) : Reader (Option Address) := do
    match ← delimited delimiter true with
    | none => fail "unterminated address regex"
    | some text => do
      let (fold, multiline) ← addressFlags ((← rest).length + 1) false false
      return some (.matching (← matcher extended fold multiline text))
  match ← takeNext with
  | some '/' => expression '/'
  | some '\\' =>
    match ← take with
    | none => fail "unterminated address regex"
    | some delimiter => expression delimiter
  | some '$' => return some .last
  | c =>
    if c.any Char.isDigit then
      putBack c
      let n ← takeNumber
      match ← takeNext with
      | some '~' => do
        skipBlanks
        let step ← takeNumber
        return some (if step = 0 then .line n else .every n step)
      | c => do
        putBack c
        return some (.line n)
    else
      putBack c
      return none

def bound? (extended : Bool) : Reader (Option Bound) := do
  match ← takeNext with
  | some '+' => do
    skipBlanks
    return some (.further (← takeNumber))
  | some '~' => do
    skipBlanks
    return some (.multiple (← takeNumber))
  | c => do
    putBack c
    return (← address? extended).map .address

/-- The end of a command: nothing, a line feed, a semicolon, or what closes a block or opens a
comment. -/
def endOfCommand : Reader Unit := do
  match ← takeNext with
  | none | some '\n' | some ';' => return ()
  | some '#' => putBack '#'
  | some c => if c = '\x7d' then putBack c else fail "extra characters after command"

/-- The text of a command that adds lines, with what its backslashes stand for, the latest character
first. -/
def textLines : Nat → List Char → Reader (List Char)
  | 0, text => return ('\n' :: text).reverse
  | fuel + 1, text => do
    match ← take with
    | none | some '\n' => return ('\n' :: text).reverse
    | some '\\' =>
      match escaped? (← rest) with
      | some (c, behind) => do
        modifyRest fun _ => behind
        textLines fuel (c :: text)
      | none =>
        match ← take with
        | none => textLines fuel text
        | some c => textLines fuel (c :: text)
    | some c => textLines fuel (c :: text)

/-- The text of a command that adds lines, up to its end. -/
def wholeText : Reader (List Char) := do textLines ((← rest).length + 1) []

/-- The text of a command that adds lines, from behind its letter; it may be left to the next part of the
script. -/
def textOperand : Reader (Option (List Char)) := do
  match ← takeNext with
  | none => fail "expected \\ after `a', `c' or `i'"
  | some '\\' =>
    match ← take with
    | none => return none
    | some '\n' => return some (← wholeText)
    | c => do
      putBack c
      return some (← wholeText)
  | c => do
    putBack c
    return some (← wholeText)

def nameOperand : Reader String := do
  skipBlanks
  let name ← takeAll (· ≠ '\n')
  let _ ← take
  if name.isEmpty then fail "missing filename in r/R/w/W commands"
  return String.ofList name

def outputOperand : Reader String := do
  let name ← nameOperand
  modify fun r => { r with outputs := name :: r.outputs }
  return name

def labelOperand : Reader String := do
  skipBlanks
  let name ← takeAll fun c => !(isSpaceChar c) && c ≠ ';' && c ≠ '\x7d'
  return String.ofList name

/-- The pieces of a replacement, the latest first. -/
def pieces (fuel : Nat) (text : List Char) (done : List Piece) : List Char → List Piece :=
  let flushed := if text.isEmpty then done else .text text.reverse :: done
  match fuel with
  | 0 => fun _ => flushed.reverse
  | fuel + 1 => fun cs =>
    match cs with
    | [] => flushed.reverse
    | '&' :: cs => pieces fuel [] (.group 0 :: flushed) cs
    | '\\' :: c :: cs =>
      if c.isDigit then pieces fuel [] (.group (c.toNat - '0'.toNat) :: flushed) cs
      else if ['L', 'U', 'l', 'u', 'E'].contains c then pieces fuel [] (.letters c :: flushed) cs
      else
        match escaped? (c :: cs) with
        | some (d, rest) => pieces fuel (d :: text) done rest
        | none => pieces fuel (c :: text) done cs
    | c :: cs => pieces fuel (c :: text) done cs

structure Flags where
  everywhere : Bool
  prints : Bool
  nth : Option Nat
  fold : Bool
  multiline : Bool
  file : Option String

def flags : Nat → Flags → Reader Flags
  | 0, f => return f
  | fuel + 1, f => do
    match ← take with
    | none | some '\n' | some ';' => return f
    | some c =>
      match c with
      | 'g' =>
        if f.everywhere then fail "multiple `g' options to `s' command"
        flags fuel { f with everywhere := true }
      | 'p' =>
        if f.prints then fail "multiple `p' options to `s' command"
        flags fuel { f with prints := true }
      | 'i' | 'I' => flags fuel { f with fold := true }
      | 'm' | 'M' => flags fuel { f with multiline := true }
      | 'e' => flags fuel f
      | 'w' => do return { f with file := some (← outputOperand) }
      | '#' => do
        putBack c
        return f
      | '\r' =>
        if (← rest).head? = some '\n' then flags fuel f else fail "unknown option to `s'"
      | _ =>
        if c.isDigit then
          putBack c
          let n ← takeNumber
          if f.nth.isSome then fail "multiple number options to `s' command"
          if n = 0 then fail "number option to `s' command may not be zero"
          flags fuel { f with nth := some n }
        else if c = '\x7d' then
          putBack c
          return f
        else if c = ' ' || c = '\t' then flags fuel f
        else fail "unknown option to `s'"

def largestGroup (ps : List Piece) : Nat :=
  ps.foldl (fun n p => match p with
    | .group m => max n m
    | _ => n) 0

def substitution (extended : Bool) : Reader Action := do
  let unterminated {α : Type} : Reader α := fail "unterminated `s' command"
  match ← take with
  | none => unterminated
  | some delimiter =>
    match ← delimited delimiter true with
    | none => unterminated
    | some text =>
      match ← delimited delimiter false with
      | none => unterminated
      | some replacement => do
        let f ← flags ((← rest).length + 1) ⟨false, false, none, false, false, none⟩
        let m ← matcher extended f.fold f.multiline text
        let ps := pieces (replacement.length + 1) [] [] replacement
        let groups := match m.regex with
          | some r => r.groupCount
          | none => 9
        if groups < largestGroup ps then
          fail ("invalid reference \\" ++ Text.Decimal.ofNat (largestGroup ps) ++ " on `s' command's RHS")
        return .substitute ⟨m, ps, f.everywhere, f.nth.getD 1, f.prints, f.file⟩

def sideChars : Nat → List Char → Option (List Char)
  | 0, _ => some []
  | _ + 1, [] => some []
  | fuel + 1, '\\' :: '\\' :: cs => (sideChars fuel cs).map ('\\' :: ·)
  | fuel + 1, '\\' :: cs =>
    match escaped? cs with
    | some (c, rest) => (sideChars fuel rest).map (c :: ·)
    | none => (sideChars fuel cs).map ('\\' :: ·)
  | fuel + 1, c :: cs => (sideChars fuel cs).map (c :: ·)

def transliteration : Reader Action := do
  let unterminated {α : Type} : Reader α := fail "unterminated `y' command"
  match ← take with
  | none => unterminated
  | some delimiter =>
    match ← delimited delimiter false with
    | none => unterminated
    | some source =>
      match ← delimited delimiter false with
      | none => unterminated
      | some target => do
        let source := (sideChars (source.length + 1) source).getD []
        let target := (sideChars (target.length + 1) target).getD []
        if source.length ≠ target.length then
          fail "strings for `y' command are different lengths"
        endOfCommand
        return .transliterate (source.zip target)

def version : List Nat := [4, 9]

def newer (text : List Char) : Bool :=
  !text.isEmpty && match (text.splitOn '.').mapM Text.Decimal.digits? with
    | some numbers => decide (version < numbers)
    | none => true

/-- The action that a letter asks for, with its operands. -/
def action (extended : Bool) (c : Char) : Reader Action := do
  let plain (a : Action) : Reader Action := do
    endOfCommand
    return a
  let counted (make : Option Nat → Action) : Reader Action := do
    skipBlanks
    let ds ← takeAll Char.isDigit
    endOfCommand
    return make (if ds.isEmpty then none else some (Nat.ofDigitChars 10 ds 0))
  let labelled (make : String → Action) : Reader Action := do
    let name ← labelOperand
    endOfCommand
    return make name
  match c with
  | '\x7b' => return .openBlock
  | '\x7d' => plain .closeBlock
  | '=' => plain .number
  | 'a' => do return .add .append (← textOperand)
  | 'i' => do return .add .insert (← textOperand)
  | 'c' => do return .add .change (← textOperand)
  | 'b' => labelled .jump
  | 't' => labelled .jumpIfReplaced
  | 'T' => labelled .jumpUnlessReplaced
  | 'd' => plain .delete
  | 'D' => plain .deleteFirst
  | 'F' => plain .fileName
  | 'g' => plain .get
  | 'G' => plain .getAppend
  | 'h' => plain .hold
  | 'H' => plain .holdAppend
  | 'x' => plain .exchange
  | 'l' => counted .list
  | 'n' => plain .next
  | 'N' => plain .nextAppend
  | 'p' => plain .print
  | 'P' => plain .printFirst
  | 'q' => counted fun n => .quit (n.getD 0)
  | 'Q' => counted fun n => .quitSilently (n.getD 0)
  | 'r' => do return .readFile (← nameOperand)
  | 'R' => do return .readLine (← nameOperand)
  | 'w' => do return .writeFile (← outputOperand)
  | 'W' => do return .writeFirst (← outputOperand)
  | 's' => substitution extended
  | 'y' => transliteration
  | 'z' => plain .empty
  | 'v' => do
    let version ← labelOperand
    if newer version.toList then fail "expected newer version of sed"
    endOfCommand
    return .label
  | 'L' => counted fun _ => .unusable 'L'
  | 'e' => do
    let _ ← takeAll (· ≠ '\n')
    return .label
  | _ => fail ("unknown command: `" ++ String.singleton c ++ "'")

/-- A part of a script, and where it comes from: an argument with its number, or a file. -/
structure Chunk where
  text : List Char
  file : Option String
  number : Nat

/-- A place in a part of a script: the line in a file, or the character in an argument. -/
def Chunk.place (c : Chunk) (consumed char : Nat) : String :=
  match c.file with
  | some name =>
    "file " ++ name ++ " line " ++ Text.Decimal.ofNat ((c.text.take consumed).count '\n' + 1)
  | none =>
    "-e expression #" ++ Text.Decimal.ofNat c.number ++ ", char " ++ Text.Decimal.ofNat char

/-- What has been read of a script: its commands, its labels, and the places of the blocks that are
open. -/
structure Draft where
  instructions : Array Instruction
  labels : List (String × Nat)
  blocks : List String

/-- Whether a command can apply to no more than one line at a time. -/
def takesOneAddress (c : Char) : Bool := c = 'q' || c = 'Q'

/-- The commands of a script behind those that have been read. -/
def instructions (extended : Bool) (chunk : Chunk) : Nat → Draft → Reader Draft
  | 0, d => return d
  | fuel + 1, d => do
    let _ ← takeAll fun c => isSpaceChar c || c = ';'
    match (← rest).head? with
    | none => return d
    | some '#' => do
      let _ ← takeAll (· ≠ '\n')
      instructions extended chunk fuel d
    | some first => do
      if first = '+' || first = '~' then
        let _ ← take
        let _ ← takeNumber
        fail "invalid usage of +N or ~N as first address"
      let start ← address? extended
      let stop ← match start with
        | none => pure none
        | some _ => do
          match ← takeNext with
          | some ',' =>
            match ← bound? extended with
            | some b => pure (some b)
            | none => do
              let _ ← take
              fail "unexpected `,'"
          | c => do
            putBack c
            pure none
      match start, stop with
      | some (.line 0), some (.address (.matching _)) => pure ()
      | some (.line 0), _ => do
        let _ ← takeNext
        fail "invalid usage of line address 0"
      | _, _ => pure ()
      let negated ← match ← takeNext with
        | some '!' => do
          match ← takeNext with
          | some '!' => fail "multiple `!'s"
          | c => do
            putBack c
            pure true
        | c => do
          putBack c
          pure false
      match ← takeNext with
      | none => fail "missing command"
      | some ':' => do
        if start.isSome then fail ": doesn't want any addresses"
        skipBlanks
        let name ← takeAll fun c => !(isSpaceChar c) && c ≠ ';' && c ≠ '\x7d'
        if name.isEmpty then fail "\":\" lacks a label"
        instructions extended chunk fuel
          { d with
            instructions := d.instructions.push ⟨⟨none, none, false⟩, .label⟩
            labels := (String.ofList name, d.instructions.size) :: d.labels }
      | some '#' => fail "comments don't accept any addresses"
      | some c => do
        if c = '\x7d' then
          if d.blocks.isEmpty then fail "unexpected `\x7d'"
          if start.isSome then fail "`\x7d' doesn't want any addresses"
        if takesOneAddress c && stop.isSome then fail "command only uses one address"
        let a ← action extended c
        let place := chunk.place (chunk.text.length - (← rest).length) 0
        let blocks :=
          if c = '\x7b' then place :: d.blocks else if c = '\x7d' then d.blocks.tail else d.blocks
        instructions extended chunk fuel
          { d with instructions := d.instructions.push ⟨⟨start, stop, negated⟩, a⟩, blocks }

/-- The label that a command jumps to; the empty one is the end of the script. -/
def Action.target? : Action → Option String
  | .jump l | .jumpIfReplaced l | .jumpUnlessReplaced l => if l.isEmpty then none else some l
  | _ => none

/-- Why a script cannot be used, and the status that tells so. -/
structure Refusal where
  text : String
  status : Nat

/-- Gives a text to the last command if it still waits for one. -/
def Draft.supplied (d : Draft) : Reader Draft := do
  match d.instructions.back? with
  | some ⟨x, .add how none⟩ =>
    let text ← wholeText
    return { d with instructions := d.instructions.pop.push ⟨x, .add how (some text)⟩ }
  | _ => return d

/-- Reads the parts of a script behind what has been read, and gathers the files that it writes. -/
def readChunks (extended : Bool) : List Chunk → Draft → List String → Except Refusal Draft × List String
  | [], d, outputs => (.ok d, outputs)
  | c :: cs, d, outputs =>
    let step : Reader Draft := do
      instructions extended c (c.text.length + 1) (← d.supplied)
    match step.run ⟨c.text, []⟩ with
    | (.ok d, r) => readChunks extended cs d (outputs ++ r.outputs.reverse)
    | (.error fault, r) =>
      let refusal : Refusal := match fault with
        | .here message left =>
          let consumed := c.text.length - left
          ⟨c.place consumed consumed ++ ": " ++ message, 1⟩
        | .whole message => ⟨message, 4⟩
      (.error refusal, outputs ++ r.outputs.reverse)

/-- Reads a script, and tells which files it writes, as far as it could be read. -/
def read (extended : Bool) (chunks : List Chunk) : Except Refusal Script × List String :=
  let (result, outputs) := readChunks extended chunks ⟨#[], [], []⟩ []
  let script : Except Refusal Script := do
    let d ← result
    match d.blocks with
    | place :: _ => throw ⟨place ++ ": unmatched `\x7b'", 1⟩
    | [] =>
      let targets := d.instructions.toList.filterMap fun i => i.action.target?
      match targets.find? fun l => !d.labels.any (·.1 = l) with
      | some l => throw ⟨"can't find label for jump to `" ++ l ++ "'", 4⟩
      | none =>
        let text := (chunks.head?.map (·.text)).getD []
        return ⟨d.instructions, d.labels, ['#', 'n'].isPrefixOf text⟩
  (script, outputs)

end Mend.Process.Edit

import Mend.Process.Script
import Mend.Text.Decimal

/-!
# Reading scripts

A script is read line by line: commands in front of a line that cannot be read are good nevertheless.

* `Reader` : a step of the reader, with the text that is left as its state;
* `parts` : the parts of a word;
* `commandList` : a list of commands; the functions around it read their parts;
* `Script.parse` : the commands of a text, and what is wrong with it.
-/

namespace Mend.Process

namespace Reader

/-- A token. A redirection is one without its target; a document may have its tabs left out. -/
inductive Token where
  | finish
  | newline
  | operator (s : String)
  | redirect (descriptor : Nat) (direction : Direction) (noTabs : Bool)
  | word (w : Word)
  | keyword (s : String)

def Token.title : Token → String
  | .finish => "end of file"
  | .newline => "newline"
  | .operator s | .keyword s => "\"" ++ s ++ "\""
  | .redirect .. => "redirection"
  | .word _ => "word"

/-- The text that is left, the line it starts at, the lines of documents that have been taken from
behind the line, and a token that has been put back. -/
structure Source where
  rest : List Char
  line : Nat
  taken : Nat
  back : Option Token

/-- What is wrong with a script, and the line it is found at. -/
structure Fault where
  line : Nat
  message : String

end Reader

abbrev Reader := StateT Reader.Source (Except Reader.Fault)

namespace Reader

def fail {α : Type} (message : String) : Reader α := do
  throw ⟨(← get).line, "Syntax error: " ++ message⟩

/-- Gives up at a token that cannot stand where it does; another one may be due. -/
def unexpected {α : Type} (t : Token) (due : Option String) : Reader α :=
  fail (t.title ++ " unexpected" ++ match due with
    | some s => " (expecting " ++ s ++ ")"
    | none => "")

/-! ## Characters -/

/-- Takes a character, if one is left. -/
def take : Reader (Option Char) := do
  match (← get).rest with
  | [] => return none
  | c :: cs =>
    if c = '\n' then
      modify fun s => { s with rest := cs, line := s.line + 1 + s.taken, taken := 0 }
    else modify fun s => { s with rest := cs }
    return some c

def skip : Reader Unit := do
  let _ ← take

/-- Passes over line breaks behind a backslash. -/
def joinLine : Nat → Reader Unit
  | 0 => return ()
  | fuel + 1 => do
    match (← get).rest with
    | '\\' :: '\n' :: _ =>
      skip
      skip
      joinLine fuel
    | _ => return ()

/-- The next character, if one is left; a line break behind a backslash is none. -/
def peek : Reader (Option Char) := do
  match (← get).rest with
  | '\\' :: '\n' :: _ =>
    joinLine (← get).rest.length
    return (← get).rest.head?
  | rest => return rest.head?

def takeAll (test : Char → Bool) : Reader (List Char) := do
  let _ ← peek
  let front := (← get).rest.takeWhile test
  modify fun s => { s with rest := s.rest.drop front.length }
  return front

def takes (c : Char) : Reader Bool := do
  if (← peek) = some c then
    skip
    return true
  else return false

/-- Takes the characters in front of a mark, and the mark. -/
def takeUntil (mark : Char) : Reader (List Char) := do
  let rest := (← get).rest
  let inside := rest.takeWhile (· ≠ mark)
  let behind := rest.drop inside.length
  let breaks := inside.count '\n'
  if behind.isEmpty then
    modify fun s => { s with rest := [], line := s.line + breaks }
    fail "Unterminated quoted string"
  modify fun s => { s with rest := behind.drop 1, line := s.line + breaks }
  return inside

/-! ## Words -/

/-- A word under way: its parts and the characters of the last one, the latest first. -/
structure Draft where
  parts : List Part
  text : List Char
  quoted : Bool

namespace Draft

def empty : Draft := ⟨[], [], false⟩

def flushed (d : Draft) : List Part :=
  if d.text.isEmpty then d.parts else .text (String.ofList d.text.reverse) d.quoted :: d.parts

def char (d : Draft) (c : Char) (quoted : Bool) : Draft :=
  if d.quoted = quoted ∨ d.text.isEmpty then { d with text := c :: d.text, quoted }
  else ⟨d.flushed, [c], quoted⟩

def part (d : Draft) (p : Part) : Draft := ⟨p :: d.flushed, [], false⟩

def quotedText (d : Draft) (cs : List Char) : Draft :=
  cs.foldl (fun d c => d.char c true) (d.part .quotes)

def word (d : Draft) : Word := d.flushed.reverse

end Draft

/-- How a word is read on: plainly, between double quotes, inside the braces of a parameter, inside the
parentheses of an expression, or in a document. Inside braces quotes count unless the parameter itself
is quoted. -/
inductive Mode where
  | plain
  | double
  | braces (quoted inDocument : Bool)
  | arithmetic (depth : Nat)
  | document
deriving DecidableEq

namespace Mode

def quoted : Mode → Bool
  | .plain => false
  | .braces q _ => q
  | _ => true

def inDocument : Mode → Bool
  | .document => true
  | .braces _ d => d
  | _ => false

/-- Whether a backslash takes the meaning from the character behind it. -/
def escapes (mode : Mode) (c : Char) : Bool :=
  !mode.quoted || c = '\\' || c = '$' || c.toNat = 96 || (c = '"' && mode ≠ .document) ||
    (c = '\x7d' && match mode with
      | .braces .. => true
      | _ => false)

end Mode

def endsWord (c : Char) : Bool :=
  [' ', '\t', '\n', ';', '&', '|', '<', '>', '(', ')'].contains c

def isSpecial (c : Char) : Bool :=
  c.isDigit || ['@', '*', '#', '?', '-', '$', '!'].contains c

/-- Whether a quoted word stands for the arguments and nothing else. -/
def isArguments : Word → Bool
  | [] => false
  | ps => ps.all fun p => match p with
    | .parameter "@" .plain _ _ => true
    | _ => false

def backQuoted (inQuotes : Bool) : Nat → List Char → Reader (List Char)
  | 0, _ => fail "EOF in backquote substitution"
  | fuel + 1, text => do
    match ← take with
    | none => fail "EOF in backquote substitution"
    | some c =>
      if c.toNat = 96 then return text.reverse
      else if c = '\\' then
        match ← take with
        | none => fail "EOF in backquote substitution"
        | some '\n' => backQuoted inQuotes fuel text
        | some d =>
          if d = '\\' || d = '$' || d.toNat = 96 || (inQuotes && d = '"') then
            backQuoted inQuotes fuel (d :: text)
          else backQuoted inQuotes fuel (d :: '\\' :: text)
      else backQuoted inQuotes fuel (c :: text)

/-- How the parameter with the name that has just been read is used. -/
def useOf : Reader Use := do
  match ← take with
  | none => return .unknown
  | some ':' =>
    match ← peek with
    | some '-' => do skip; return .orElse true
    | some '=' => do skip; return .orAssign true
    | some '?' => do skip; return .orFail true
    | some '+' => do skip; return .ifSet true
    | _ => do skip; return .unknown
  | some '-' => return .orElse false
  | some '=' => return .orAssign false
  | some '?' => return .orFail false
  | some '+' => return .ifSet false
  | some '%' => return .trim true (← takes '%')
  | some '#' => return .trim false (← takes '#')
  | some c => return if c = '\x7d' then .plain else .unknown

/-- The name of a parameter in braces, and its use as far as its front tells. -/
def parameterName : Reader (String × Option Use) := do
  match ← peek with
  | none => return ("", some .unknown)
  | some c =>
    if startsName c then return (String.ofList (← takeAll inName), none)
    else if c.isDigit then return (String.ofList (← takeAll Char.isDigit), none)
    else if c = '#' then
      skip
      match ← peek with
      | none => return ("#", none)
      | some d =>
        if inName d then
          let name ← takeAll (if d.isDigit then Char.isDigit else inName)
          return (String.ofList name, some (if (← peek) = some '\x7d' then .length else .unknown))
        else if d ≠ '\x7d' ∧ (← get).rest.tail.head? = some '\x7d' then
          if isSpecial d then
            skip
            return (String.singleton d, some .length)
          else return ("#", none)
        else return ("#", none)
    else if isSpecial c then
      skip
      return (String.singleton c, none)
    else
      if c ≠ '\x7d' then skip
      return ("", some .unknown)

/-! ## Documents -/

/-- The line in front of a text up to a line break outside quotes, and what follows the break. -/
def logicalLine : Nat → Option Char → List Char → List Char → List Char × Option (List Char)
  | 0, _, front, cs => (front.reverse ++ cs, none)
  | _ + 1, _, front, [] => (front.reverse, none)
  | fuel + 1, quote, front, c :: cs =>
    match c, cs with
    | '\\', d :: cs =>
      if quote = some '\x27' then logicalLine fuel quote (c :: front) (d :: cs)
      else logicalLine fuel quote (d :: c :: front) cs
    | '\n', cs => if quote.isNone then (front.reverse, some cs) else logicalLine fuel quote (c :: front) cs
    | c, cs =>
      let quote := match quote with
        | none => if c = '"' ∨ c = '\x27' then some c else none
        | some q => if c = q then none else some q
      logicalLine fuel quote (c :: front) cs

/-- Whether the line break behind a line counts for nothing. -/
def goesOn (line : List Char) : Bool :=
  (line.reverse.takeWhile (· = '\\')).length % 2 = 1

/-- The lines in front of one that is the delimiter, and what follows that one. Tabs in front of a line
may be left out. A line that goes on in the next one takes that with it. -/
def documentLines (noTabs joins : Bool) (delimiter : List Char) :
    Nat → Bool → List (List Char) → List Char → List (List Char) × List Char
  | 0, _, lines, cs => (lines.reverse, cs)
  | _ + 1, _, lines, [] => (lines.reverse, [])
  | fuel + 1, continued, lines, cs =>
    let line := cs.takeWhile (· ≠ '\n')
    let rest := cs.drop (line.length + 1)
    let line := if noTabs && !continued then line.dropWhile (· = '\t') else line
    if !continued && line = delimiter then (lines.reverse, rest)
    else documentLines noTabs joins delimiter fuel (joins && goesOn line) (line :: lines) rest

def delimiterWord : Nat → Bool → List Char → Reader (List Char × Bool)
  | 0, quoted, text => return (text.reverse, quoted)
  | fuel + 1, quoted, text => do
    match ← peek with
    | none => return (text.reverse, quoted)
    | some c =>
      if endsWord c then return (text.reverse, quoted)
      skip
      if c = '\x27' then
        let inside ← takeUntil '\x27'
        delimiterWord fuel true (inside.reverse ++ text)
      else if c = '"' then
        let inside ← takeUntil '"'
        delimiterWord fuel true (inside.reverse ++ text)
      else if c = '\\' then
        match ← take with
        | some d => delimiterWord fuel true (d :: text)
        | none => return (('\\' :: text).reverse, true)
      else delimiterWord fuel quoted (c :: text)

/-- Takes the lines of a document from behind the line that is being read. -/
def takeDocument (noTabs joins : Bool) (delimiter : List Char) : Reader (List Char) := do
  let rest := (← get).rest
  match logicalLine (rest.length + 1) none [] rest with
  | (_, none) => return []
  | (front, some below) =>
    let (lines, behind) := documentLines noTabs joins delimiter (below.length + 1) false [] below
    let text := lines.flatMap fun l => l ++ ['\n']
    modify fun s =>
      { s with
        rest := front ++ '\n' :: behind
        taken := s.taken + below.count '\n' - behind.count '\n' }
    return text

/-! ## Tokens -/

def keywords : List String :=
  ["!", "case", "do", "done", "elif", "else", "esac", "fi", "for", "if", "in", "then", "until", "while",
   "\x7b", "\x7d"]

def redirection (descriptor : Option Nat) (first : Char) : Reader Token := do
  let finish (standard : Nat) (direction : Direction) (noTabs : Bool) : Reader Token :=
    return .redirect (descriptor.getD standard) direction noTabs
  if first = '>' then
    if ← takes '>' then finish 1 .append false
    else if ← takes '|' then finish 1 .clobber false
    else if ← takes '&' then finish 1 .duplicate false
    else finish 1 .output false
  else if ← takes '<' then
    if ← takes '-' then finish 0 .document true else finish 0 .document false
  else if ← takes '&' then finish 0 .duplicate false
  else if ← takes '>' then finish 0 .both false
  else finish 0 .input false

def putBack (t : Token) : Reader Unit := modify fun s => { s with back := some t }

def endsList : Token → Bool
  | .finish => true
  | .operator s => s = ")" || s = ";;"
  | .keyword s => ["do", "done", "elif", "else", "esac", "fi", "then", "\x7d"].contains s
  | _ => false

/-- The kinds of lists of commands: up to the end of a line, of at least one command, or of any number
of them. -/
inductive Extent where
  | line
  | some
  | any
deriving DecidableEq

def joined : Script → Script → Script
  | .nothing, b => b
  | a, b => .seq a b

/-! ## Commands -/

mutual

/-- The parts of a word up to its end in the given mode. A closing quote, brace or parenthesis is
taken. -/
def parts : Nat → Mode → Draft → Reader Word
  | 0, _, _ => fail "end of file unexpected"
  | fuel + 1, mode, d => do
    match ← peek with
    | none =>
      match mode with
      | .plain | .document => return d.word
      | .arithmetic _ => fail "Missing '))'"
      | .double | .braces true false => fail "Unterminated quoted string"
      | .braces .. => fail "Missing '\x7d'"
    | some c =>
      if mode = .plain ∧ endsWord c then return d.word
      skip
      match mode, c with
      | .double, '"' | .braces .., '\x7d' => return d.word
      | .arithmetic depth, '(' => parts fuel (.arithmetic (depth + 1)) (d.char c true)
      | .arithmetic (depth + 1), ')' => parts fuel (.arithmetic depth) (d.char c true)
      | .arithmetic 0, ')' => if ← takes ')' then return d.word else parts fuel mode (d.char c true)
      | _, '\x27' =>
        if mode.quoted then parts fuel mode (d.char c true)
        else parts fuel mode (d.quotedText (← takeUntil '\x27'))
      | .document, '"' | .arithmetic _, '"' => parts fuel mode (d.char c true)
      | _, '"' =>
        let inside ← parts fuel .double .empty
        let start := if isArguments inside then d else d.part .quotes
        parts fuel mode (inside.foldl Draft.part start)
      | _, '\\' =>
        match (← get).rest with
        | [] => parts fuel mode (d.char c true)
        | e :: _ =>
          skip
          let d := if mode.escapes e then d else d.char '\\' true
          parts fuel mode (d.char e true)
      | _, '$' => parts fuel mode (← dollar fuel mode d)
      | _, _ =>
        if c.toNat = 96 then
          let text ← backQuoted mode.quoted ((← get).rest.length + 1) []
          let after ← get
          set (Source.mk text 1 0 none)
          let body ← commandList fuel .any false .nothing
          set after
          parts fuel mode (d.part (.command body mode.quoted))
        else parts fuel mode (d.char c mode.quoted)

/-- A word with what a dollar sign stands for, from behind the sign. -/
def dollar : Nat → Mode → Draft → Reader Draft
  | 0, _, d => return d
  | fuel + 1, mode, d => do
    match ← peek with
    | none => return d.char '$' mode.quoted
    | some c =>
      if c = '(' then
        skip
        if ← takes '(' then
          return d.part (.arithmetic (← parts fuel (.arithmetic 0) .empty) mode.quoted)
        let body ← commandList fuel .any false .nothing
        match ← token fuel false false with
        | .operator ")" => return d.part (.command body mode.quoted)
        | t => unexpected t (some "\")\"")
      else if c = '\x7b' then
        skip
        let (name, known) ← parameterName
        let use ← match known with
          | some use => pure use
          | none => useOf
        if use = .plain then return d.part (.parameter name use [] mode.quoted)
        let trims := match use with
          | .trim .. => true
          | _ => false
        let operand ← parts fuel (.braces (mode.quoted && !trims) mode.inDocument) .empty
        return d.part (.parameter name use operand mode.quoted)
      else if startsName c then
        return d.part (.parameter (String.ofList (← takeAll inName)) .plain [] mode.quoted)
      else if isSpecial c then
        skip
        return d.part (.parameter (String.singleton c) .plain [] mode.quoted)
      else return d.char '$' mode.quoted

/-- The next token. Line breaks in front of it may be passed over, and a word may count as a
keyword. -/
def token : Nat → Bool → Bool → Reader Token
  | 0, _, _ => return .finish
  | fuel + 1, skipBreaks, keys => do
    let settle (t : Token) : Reader Token := do
      match t with
      | .newline => if skipBreaks then token fuel skipBreaks keys else return t
      | .word w =>
        match w.plain? with
        | some s => return if keys && keywords.contains s then .keyword s else t
        | none => return t
      | t => return t
    let single (o : String) (twice : String) (c : Char) : Reader Token := do
      skip
      if ← takes c then return .operator twice else return .operator o
    match (← get).back with
    | some t =>
      modify fun s => { s with back := none }
      settle t
    | none =>
      match ← peek with
      | none => return .finish
      | some c =>
        match c with
        | ' ' | '\t' =>
          skip
          token fuel skipBreaks keys
        | '#' =>
          let _ ← takeAll (· ≠ '\n')
          token fuel skipBreaks keys
        | '\n' =>
          skip
          settle .newline
        | '&' => single "&" "&&" c
        | '|' => single "|" "||" c
        | ';' => single ";" ";;" c
        | '(' =>
          skip
          return .operator "("
        | ')' =>
          skip
          return .operator ")"
        | '<' | '>' =>
          skip
          redirection none c
        | _ =>
          match c.isDigit, (← get).rest.tail.head? with
          | true, some e =>
            if e = '<' ∨ e = '>' then
              skip
              skip
              redirection (some (c.toNat - '0'.toNat)) e
            else settle (.word (← parts fuel .plain .empty))
          | _, _ => settle (.word (← parts fuel .plain .empty))

def redirectTarget : Nat → Nat → Direction → Bool → Reader Redirect
  | 0, n, direction, _ => return .mk n direction []
  | fuel + 1, n, direction, noTabs => do
    if direction = .document then
      let _ ← takeAll fun c => c = ' ' || c = '\t'
      match ← peek with
      | none => unexpected .finish none
      | some c =>
        if endsWord c then unexpected (← token fuel false false) none
        let (delimiter, quoted) ← delimiterWord ((← get).rest.length + 1) false []
        let text ← takeDocument noTabs (!quoted) delimiter
        if quoted then return .mk n direction [.text (String.ofList text) true]
        let after ← get
        set (Source.mk text (after.line + 1) 0 none)
        let w ← parts fuel .document .empty
        set after
        return .mk n direction w
    else
      match ← token fuel false false with
      | .word w => return .mk n direction w
      | t => unexpected t none

def redirects : Nat → List Redirect → Reader (List Redirect)
  | 0, rs => return rs.reverse
  | fuel + 1, rs => do
    match ← token fuel false true with
    | .redirect n direction noTabs => do
      let r ← redirectTarget fuel n direction noTabs
      redirects fuel (r :: rs)
    | t => do
      putBack t
      return rs.reverse

/-- A list of commands behind those that have been read; `started` says whether there are some. -/
def commandList : Nat → Extent → Bool → Script → Reader Script
  | 0, _, _, s => return s
  | fuel + 1, extent, started, s => do
    match ← token fuel (extent ≠ .line) true with
    | .newline => return s
    | .finish => do
      putBack .finish
      return s
    | t => do
      putBack t
      if extent ≠ .line ∧ (extent = .any ∨ started) ∧ endsList t then return s
      let next ← andOr fuel
      match ← token fuel false false with
      | .operator "&" => commandList fuel extent true (joined s (.background next))
      | .operator ";" => commandList fuel extent true (joined s next)
      | .newline => do
        putBack .newline
        commandList fuel extent true (joined s next)
      | .finish => do
        putBack .finish
        return joined s next
      | t => do
        if extent = .line then unexpected t none
        putBack t
        return joined s next

def andOr : Nat → Reader Script
  | 0 => return .nothing
  | fuel + 1 => do
    let s ← pipeline fuel false
    andOrRest fuel s

/-- What follows a pipeline in a list of them; the operators group to the left. -/
def andOrRest : Nat → Script → Reader Script
  | 0, s => return s
  | fuel + 1, s => do
    match ← token fuel false false with
    | .operator "&&" => do
      let t ← pipeline fuel true
      andOrRest fuel (.both s t)
    | .operator "||" => do
      let t ← pipeline fuel true
      andOrRest fuel (.either s t)
    | t => do
      putBack t
      return s

def pipeline : Nat → Bool → Reader Script
  | 0, _ => return .nothing
  | fuel + 1, skipBreaks => do
    match ← token fuel skipBreaks true with
    | .keyword "!" => do return .negate (← stages fuel (← token fuel false true))
    | t => stages fuel t

/-- The commands of a pipeline, the first of which starts with a token. -/
def stages : Nat → Token → Reader Script
  | 0, _ => return .nothing
  | fuel + 1, t => do
    let s ← command fuel t
    match ← token fuel false false with
    | .operator "|" => do return .pipe s (← stages fuel (← token fuel true true))
    | t => do
      putBack t
      return s

def expect : Nat → String → Reader Unit
  | 0, _ => return ()
  | fuel + 1, s => do
    match ← token fuel false true with
    | .keyword k => if k = s then return () else unexpected (.keyword k) (some ("\"" ++ s ++ "\""))
    | t => unexpected t (some ("\"" ++ s ++ "\""))

def conditional : Nat → Reader Script
  | 0 => return .nothing
  | fuel + 1 => do
    let condition ← commandList fuel .some false .nothing
    expect fuel "then"
    let yes ← commandList fuel .some false .nothing
    match ← token fuel false true with
    | .keyword "elif" => do return .branch condition yes (← conditional fuel)
    | .keyword "else" => do
      let no ← commandList fuel .some false .nothing
      expect fuel "fi"
      return .branch condition yes no
    | .keyword "fi" => return .branch condition yes .nothing
    | t => unexpected t (some "\"fi\"")

def loopBody : Nat → Bool → Reader Script
  | 0, _ => return .nothing
  | fuel + 1, skipBreaks => do
    match ← token fuel skipBreaks true with
    | .keyword "do" => do
      let body ← commandList fuel .some false .nothing
      expect fuel "done"
      return body
    | t => unexpected t (some "\"do\"")

def loopWords : Nat → List Word → Reader (List Word)
  | 0, ws => return ws.reverse
  | fuel + 1, ws => do
    match ← token fuel false false with
    | .word w => loopWords fuel (w :: ws)
    | .newline | .operator ";" => return ws.reverse
    | t => unexpected t none

/-- The patterns of a clause up to its parenthesis, the first of which is a token. -/
def patterns : Nat → Token → List Word → Reader (List Word)
  | 0, _, ws => return ws.reverse
  | fuel + 1, t, ws => do
    let w : Word := match t with
      | .word w => w
      | .keyword s => [.text s false]
      | _ => []
    match t, ← token fuel false false with
    | _, .operator "|" => do patterns fuel (← token fuel false false) (w :: ws)
    | _, .operator ")" => return (w :: ws).reverse
    | _, t => unexpected t (some "\")\"")

def clauses : Nat → Reader Clauses
  | 0 => return .none
  | fuel + 1 => do
    match ← token fuel true true with
    | .keyword "esac" => return .none
    | t => do
      let first ← match t with
        | .operator "(" => token fuel false false
        | t => pure t
      let ws ← patterns fuel first []
      let body ← commandList fuel .any false .nothing
      match ← token fuel true true with
      | .operator ";;" => do return .clause ws body (← clauses fuel)
      | .keyword "esac" => return .clause ws body .none
      | t => unexpected t (some "\";;\"")

/-- The parts of a simple command: assignments in front, words, and redirections anywhere, the latest
first. -/
def simpleCommand : Nat → Nat → List Word → List Word → List Redirect → Reader Script
  | 0, line, as, ws, rs => return .simple line as.reverse ws.reverse rs.reverse
  | fuel + 1, line, as, ws, rs => do
    match ← token fuel false false with
    | .word w =>
      if ws.isEmpty && (Word.assignment? w).isSome then simpleCommand fuel line (w :: as) ws rs
      else simpleCommand fuel line as (w :: ws) rs
    | .redirect n direction noTabs => do
      let r ← redirectTarget fuel n direction noTabs
      simpleCommand fuel line as ws (r :: rs)
    | .operator "(" => do
      match as, ws, rs with
      | [], [w], [] =>
        match ← token fuel false false with
        | .operator ")" =>
          match w.plain? with
          | some name =>
            if isName name.toList && !specialCommands.contains name then
              let line := (← get).line
              let body ← command fuel (← token fuel true true)
              return .define line name body
            else fail "Bad function name"
          | none => fail "Bad function name"
        | t => unexpected t (some "\")\"")
      | _, _, _ => do
        putBack (.operator "(")
        return .simple line as.reverse ws.reverse rs.reverse
    | t => do
      putBack t
      return .simple line as.reverse ws.reverse rs.reverse

/-- A compound command with the redirections behind it, or a simple command; its first token has been
taken. -/
def command : Nat → Token → Reader Script
  | 0, _ => return .nothing
  | fuel + 1, t => do
    let line := (← get).line
    let redirected (s : Script) : Reader Script := do
      match ← redirects fuel [] with
      | [] => return s
      | rs => return .grouped line s rs
    match t with
    | .word _ | .redirect .. => do
      putBack t
      simpleCommand fuel line [] [] []
    | .operator "(" => do
      let s ← commandList fuel .some false .nothing
      match ← token fuel false true with
      | .operator ")" => return .subshell line s (← redirects fuel [])
      | t => unexpected t (some "\")\"")
    | .keyword "\x7b" => do
      let s ← commandList fuel .some false .nothing
      expect fuel "\x7d"
      redirected s
    | .keyword "if" => do redirected (← conditional fuel)
    | .keyword "while" => do
      let condition ← commandList fuel .some false .nothing
      redirected (.loop false condition (← loopBody fuel false))
    | .keyword "until" => do
      let condition ← commandList fuel .some false .nothing
      redirected (.loop true condition (← loopBody fuel false))
    | .keyword "for" => do
      match ← token fuel false false with
      | .word w =>
        match w.plain? with
        | some name =>
          if !isName name.toList then fail "Bad for loop variable"
          let ws ← match ← token fuel true true with
            | .keyword "in" => loopWords fuel []
            | .operator ";" => pure [[.parameter "@" .plain [] true]]
            | t => do
              putBack t
              pure [[.parameter "@" .plain [] true]]
          redirected (.each line name ws (← loopBody fuel true))
        | none => fail "Bad for loop variable"
      | _ => fail "Bad for loop variable"
    | .keyword "case" => do
      match ← token fuel false false with
      | .word subject =>
        match ← token fuel true true with
        | .keyword "in" => do redirected (.select line subject (← clauses fuel))
        | t => unexpected t (some "\"in\"")
      | t => unexpected t (some "word")
    | t => unexpected t none

end

end Reader

namespace Script

/-- What a text comes to: the commands line by line, what is wrong with the line behind them, and
whether the last one ends only where the text does. -/
structure Reading where
  lines : List Script
  fault : Option Reader.Fault
  toEnd : Bool

/-- The commands of a text behind those that have been read, the latest of which comes first. -/
def linesFrom : Nat → List Script → Reader.Source → Reading
  | 0, lines, _ => ⟨lines.reverse, none, false⟩
  | fuel + 1, lines, source =>
    let toEnd := match source.back with
      | some .finish => true
      | _ => false
    match (Reader.token (2 * source.rest.length + 2) false false).run source with
    | .error e => ⟨lines.reverse, some e, false⟩
    | .ok (.finish, _) => ⟨lines.reverse, none, toEnd⟩
    | .ok (.newline, source) => linesFrom fuel lines source
    | .ok (t, source) =>
      let read : Reader Script := do
        Reader.putBack t
        Reader.commandList (16 * source.rest.length + 64) .line false .nothing
      match read.run source with
      | .error e => ⟨lines.reverse, some e, false⟩
      | .ok (s, source) => linesFrom fuel (s :: lines) source

/-- Reads a script whose first line has the given number: the commands in front of the first line that
cannot be read, and what is wrong with that one. -/
def parse (line : Nat) (text : List Char) : Reading :=
  linesFrom (text.length + 1) [] ⟨text, line, 0, none⟩

end Script

end Mend.Process

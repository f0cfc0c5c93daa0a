import Mend.Process.Regex.Parser
import Mend.Process.Utility.Basic

/-!
# Searching for lines

* `Search` : what is looked for, and what is told of it;
* `Search.find?` : the first match in a line;
* `Search.report` : what is told of a file;
* `grep` : the program.
-/

namespace Mend.Process

structure Search where
  regexes : List Regex
  fold : Bool
  wholeWord : Bool
  wholeLine : Bool
  inverted : Bool
  counts : Bool
  lists : Option Bool
  quiet : Bool
  onlyMatches : Bool
  numbers : Bool
  offsets : Bool
  names : Bool
  most : Option Nat
  before : Nat
  after : Nat
  separates : Bool
  asText : Bool
  delimiter : Char
  initialTab : Bool
  nullNames : Bool

namespace Search

/-! ## Matches -/

def matchAt? (x : Search) (s : Subject) (r : Regex) (start : Nat) : Option Nat :=
  let ends := (r.ends s r.refersBack ⟨start, []⟩).map (·.place)
  let accepted := ends.filter fun stop =>
    (!x.wholeLine || (start = 0 && stop = s.text.size)) &&
      (!x.wholeWord || x.wholeLine || (!s.wordBefore start && !s.wordAt stop))
  accepted.foldl (fun best stop => match best with
    | some b => some (max b stop)
    | none => some stop) none

def longestAt? (x : Search) (s : Subject) (start : Nat) : Option Nat :=
  x.regexes.foldl (fun best r =>
    match best, x.matchAt? s r start with
    | some b, some stop => some (max b stop)
    | best, none => best
    | none, found => found) none

/-- The first match among those that start at a place or up to `tries - 1` places behind it. -/
def findFrom? (x : Search) (s : Subject) : Nat → Nat → Option (Nat × Nat)
  | 0, _ => none
  | tries + 1, start =>
    match x.longestAt? s start with
    | some stop => some (start, stop)
    | none => if x.wholeLine then none else x.findFrom? s tries (start + 1)

/-- The first match in a line that starts at a place or behind it. -/
def find? (x : Search) (s : Subject) (start : Nat) : Option (Nat × Nat) :=
  x.findFrom? s (s.text.size + 1 - start) start

def subject (x : Search) (line : List Char) : Subject := ⟨line.toArray, x.fold, false⟩

def selects (x : Search) (line : List Char) : Bool :=
  (x.find? (x.subject line) 0).isSome != x.inverted

def allMatches (x : Search) (s : Subject) : Nat → Nat → List (Nat × Nat)
  | 0, _ => []
  | fuel + 1, start =>
    match x.find? s start with
    | none => []
    | some (i, j) => if i = j then x.allMatches s fuel (i + 1) else (i, j) :: x.allMatches s fuel j

/-! ## Reports -/

/-- A line with its number, its offset, and whether it is selected. -/
structure Candidate where
  text : List Char
  number : Nat
  offset : Nat
  selected : Bool

/-- The lines of a file, up to the last one that may be selected and so many behind it. -/
def candidates (x : Search) : Nat → Nat → Option Nat → Nat → List (List Char) → List Candidate
  | _, _, _, _, [] => []
  | number, offset, left, extra, l :: ls =>
    let rest (left : Option Nat) (extra : Nat) : List Candidate :=
      x.candidates (number + 1) (offset + l.length + 1) left extra ls
    match left with
    | some 0 => if extra = 0 then [] else ⟨l, number, offset, false⟩ :: rest left (extra - 1)
    | _ =>
      let selected := x.selects l
      ⟨l, number, offset, selected⟩ :: rest (if selected then left.map (· - 1) else left) extra

def heading (x : Search) (name : String) (number offset : Nat) (mark : Char) : List Char :=
  let field (shown : Bool) (cs : List Char) : List Char := if shown then cs ++ [mark] else []
  (if x.names then name.toList ++ [if x.nullNames then '\x00' else mark] else []) ++
    field x.numbers (Nat.toDigits 10 number) ++ field x.offsets (Nat.toDigits 10 offset) ++
    (if x.initialTab && (x.names || x.numbers || x.offsets) then ['\t'] else [])

def printed (x : Search) (name : String) (c : Candidate) : List Char :=
  if x.onlyMatches then
    if x.inverted then []
    else
      let s := x.subject c.text
      (x.allMatches s (c.text.length + 1) 0).flatMap fun (i, j) =>
        x.heading name c.number (c.offset + i) ':' ++ (c.text.drop i).take (j - i) ++ [x.delimiter]
  else x.heading name c.number c.offset ':' ++ c.text ++ [x.delimiter]

/-- What is printed of lines: those that are selected and those around them. `trailing` lines are still
due behind the last one, `held` may be due in front of the next one, the latest first, and `last` is the
number of the last line that was printed. -/
def lines (x : Search) (name : String) :
    Nat → List Candidate → Option Nat → List Candidate → List (List Char)
  | _, _, _, [] => []
  | trailing, held, last, c :: cs =>
    let context (c : Candidate) : List Char :=
      if x.onlyMatches then [] else x.heading name c.number c.offset '-' ++ c.text ++ [x.delimiter]
    if c.selected then
      let first := (held.getLast?.map (·.number)).getD c.number
      let gap := match last with
        | some n => x.separates && n + 1 < first
        | none => false
      (if gap then ['-', '-', '\n'] else []) :: held.reverse.map context ++ [x.printed name c] ++
        x.lines name x.after [] (some c.number) cs
    else if trailing ≠ 0 then context c :: x.lines name (trailing - 1) [] (some c.number) cs
    else x.lines name 0 ((c :: held).take x.before) last cs

/-- What is told of a file: the writes, and whether a line has been selected. -/
def report (x : Search) (name : String) (text : List Char) : List Write × Bool :=
  let pieces := text.splitOn x.delimiter
  let ls := if pieces.getLast? = some [] then pieces.dropLast else pieces
  let limit := if x.quiet || x.lists.isSome then some 1 else x.most
  let cs := x.candidates 1 0 limit (if x.most.isSome then x.after else 0) ls
  let selected := cs.filter (·.selected)
  let found := !selected.isEmpty
  let nameLine (s : String) : List Write :=
    if x.names then [.out (name ++ (if x.nullNames then "\x00" else ":") ++ s ++ "\n")] else [.out (s ++ "\n")]
  if x.quiet then ([], found)
  else
    match x.lists with
    | some wanted =>
      (if found = wanted then [.out (name ++ if x.nullNames then "\x00" else "\n")] else [], found)
    | none =>
      if x.counts then (nameLine (Text.Decimal.ofNat selected.length), found)
      else if text.contains '\x00' && !x.asText && x.delimiter = '\n' then
        (if found then [.err ("grep: " ++ name ++ ": binary file matches\n")] else [], found)
      else ([.out (String.ofList (x.lines name 0 [] none cs).flatten)], found)

end Search

/-! ## The program -/

def grepUsage : Usage where
  tool := "grep"
  flags := ['E', 'F', 'G', 'i', 'y', 'v', 'w', 'x', 'c', 'l', 'L', 'q', 's', 'o', 'n', 'b', 'H', 'h', 'a', 'U',
    'z', 'Z', 'T', 'r', 'R', 'I', 'u', '0', '1', '2', '3', '4', '5', '6', '7', '8', '9']
  valued := ['e', 'f', 'm', 'A', 'B', 'C', 'd', 'D']
  long := [("extended-regexp", 'E'), ("fixed-strings", 'F'), ("basic-regexp", 'G'), ("regexp", 'e'),
    ("file", 'f'), ("ignore-case", 'i'), ("word-regexp", 'w'), ("line-regexp", 'x'), ("invert-match", 'v'),
    ("count", 'c'), ("files-with-matches", 'l'), ("files-without-match", 'L'), ("quiet", 'q'),
    ("silent", 'q'), ("no-messages", 's'), ("only-matching", 'o'), ("line-number", 'n'),
    ("byte-offset", 'b'), ("with-filename", 'H'), ("no-filename", 'h'), ("text", 'a'), ("binary", 'U'),
    ("null-data", 'z'), ("null", 'Z'), ("initial-tab", 'T'), ("max-count", 'm'), ("after-context", 'A'),
    ("before-context", 'B'), ("context", 'C'), ("recursive", 'r'), ("color", 'u'), ("colour", 'u'),
    ("line-buffered", 'u'), ("no-ignore-case", 'u')]

def grepHelp : String :=
  "Usage: grep [OPTION]... PATTERNS [FILE]...\nTry 'grep --help' for more information."

/-- The warnings about an extended expression: repetitions of nothing. -/
def grepWarnings : Bool → List Char → List Write
  | _, [] => []
  | _, '\\' :: c :: cs => grepWarnings (c = '<' || c = '>' || c = 'b' || c = 'B') cs
  | _, '[' :: cs => grepWarnings false cs
  | start, c :: cs =>
    if start && (c = '*' || c = '+' || c = '?') then
      .err ("grep: warning: " ++ String.singleton c ++ " at start of expression\n") :: grepWarnings start cs
    else if start && c = '\x7b' && (Regex.interval true cs).isOk then
      .err "grep: warning: \x7b...\x7d at start of expression\n" :: grepWarnings false cs
    else grepWarnings (c = '(' || c = '|' || c = '^') cs

/-- The files below directories, in order, each with the name that leads to it. -/
def filesBelow (tree : FileTree) (name : String) : List String :=
  match tree.resolve (pathOf name) with
  | .error _ => [name]
  | .ok place =>
    match tree.get? place with
    | some .directory =>
      let below := tree.entries.filter fun e => place.isPrefixOf e.1 && e.1.length > place.length
      let isPlain (e : Entry) : Bool := match e with
        | .file .. => true
        | _ => false
      (below.filter fun e => isPlain e.2).map fun e =>
        "/".intercalate (name :: (e.1.drop place.length).map encode)
    | _ => [name]

/-- The search that options ask for, with the texts of its patterns. -/
def grepSearch (i : Invocation) (patterns : List String) (several : Bool) : Except String Search := do
  let extended := i.has 'E'
  let fixed := i.has 'F'
  let fold := i.has 'i' || i.has 'y'
  let texts := patterns.flatMap fun p => p.toList.splitOn '\n'
  let regexes ← texts.mapM fun (cs : List Char) =>
    if fixed then pure (Regex.ofText cs)
    else
      match Regex.parse ⟨extended, false, fold, false⟩ cs with
      | .ok r => pure r
      | .error e => throw ("grep: " ++ e.text)
  let number (c : Char) (fault : String → String) : Except String (Option Nat) :=
    match i.value? c with
    | none => .ok none
    | some v =>
      match Text.Decimal.digits? v.toList with
      | some n => .ok (some n)
      | none => .error (fault v)
  let context (c : Char) : Except String (Option Nat) :=
    number c fun v => "grep: " ++ v ++ ": invalid context length argument"
  let most ← match i.value? 'm' with
    | none => pure none
    | some v =>
      match Text.Decimal.integer? v.toList with
      | some n => pure (if n < 0 then none else some n.toNat)
      | none => throw "grep: invalid max count"
  let digits := i.options.filterMap fun (c, _) => if c.isDigit then some c else none
  let around := (← context 'C').or
    (if digits.isEmpty then none else some (Nat.ofDigitChars 10 digits 0))
  let before := ((← context 'B').or around).getD 0
  let after := ((← context 'A').or around).getD 0
  let lastName := (i.options.reverse.find? fun o => o.1 = 'H' || o.1 = 'h').map (·.1)
  return {
    regexes, fold, before, after, most
    wholeWord := i.has 'w', wholeLine := i.has 'x', inverted := i.has 'v', counts := i.has 'c'
    lists := if i.has 'l' then some true else if i.has 'L' then some false else none
    quiet := i.has 'q', onlyMatches := i.has 'o', numbers := i.has 'n', offsets := i.has 'b'
    names := match lastName with
      | some c => c = 'H'
      | none => several || i.has 'r' || i.has 'R'
    separates := before ≠ 0 || after ≠ 0
    asText := i.has 'a', delimiter := if i.has 'z' then '\x00' else '\n'
    initialTab := i.has 'T', nullNames := i.has 'Z' }

def Search.run (x : Search) (messages : Bool) (s : Setting) :
    List String → List Write → Bool → Bool → List Write × Bool × Bool
  | [], writes, found, failed => (writes, found, failed)
  | name :: rest, writes, found, failed =>
    let title := if name = "-" then "(standard input)" else name
    let refuse (text : String) : List Write × Bool × Bool :=
      x.run messages s rest (if messages then writes ++ [.err text] else writes) found true
    match s.read name with
    | .error e => refuse ("grep: " ++ name ++ ": " ++ e.reason ++ "\n")
    | .ok text =>
      if !x.quiet && !x.counts && x.lists.isNone && x.most ≠ some 1 && !Setting.isInput name && s.isSink name then
        x.run messages s rest (writes ++ [.err ("grep: " ++ name ++ ": input file is also the output\n")])
          found true
      else
        let (more, here) := x.report title text.toList
        if x.quiet && here then (writes, true, failed)
        else x.run messages s rest (writes ++ more) (found || here) failed

/-- The number of characters of a text up to the end of the line that is the last one to be selected. -/
def Search.needed (x : Search) (text : List Char) : Nat :=
  match x.most with
  | none => text.length
  | some n =>
    let pieces := text.splitOn x.delimiter
    let cs := x.candidates 1 0 (some n) 0 pieces
    let selected := cs.filter (·.selected)
    if selected.length < n then text.length
    else
      match selected.getLast? with
      | some c => c.offset + c.text.length + 1
      | none => 0

def grep : Utility := fun args s =>
  match grepUsage.sort args with
  | .error e => .failing s 2 (e.message "grep" ++ "\n" ++ grepHelp)
  | .ok i =>
    let fromFiles : Except String (List String) := (i.values 'f').mapM fun name =>
      match s.read name with
      | .ok text =>
        let cs := text.toList
        pure (String.ofList (if cs.getLast? = some '\n' then cs.dropLast else cs))
      | .error e => throw ("grep: " ++ name ++ ": " ++ e.reason)
    match fromFiles with
    | .error message => .failing s 2 message
    | .ok fromFiles =>
      let explicit := i.values 'e' ++ fromFiles
      let fromEmpty := (i.has 'f') && (i.values 'e').isEmpty && fromFiles.all (·.isEmpty)
      match (if i.has 'e' || i.has 'f' then some (explicit, i.operands)
        else match i.operands with
          | p :: rest => some ([p], rest)
          | [] => none) with
      | none => .failing s 2 grepHelp
      | some (patterns, names) =>
        let recursive := i.has 'r' || i.has 'R'
        let operands := if names.isEmpty then (if recursive then ["."] else ["-"]) else names
        let names := if recursive then
            operands.flatMap fun n => if n = "-" then [n] else filesBelow s.tree n
          else operands
        match grepSearch i patterns (1 < operands.length) with
        | .error message => .failing s 2 message
        | .ok x =>
          let x := if fromEmpty then { x with regexes := [] } else x
          let warnings := if i.has 'E' && !i.has 'F' then patterns.flatMap fun p => grepWarnings true p.toList
            else []
          if x.most = some 0 then .ofWrites s 1 warnings
          else
            let (writes, found, failed) := x.run (!i.has 's') s names warnings false false
            let status := if found && (x.quiet || !failed) then 0 else if failed then 2 else 1
            let offset := if !names.any Setting.isInput then s.feed.offset
              else if x.quiet || x.lists.isSome then s.feed.finish
              else s.feed.after (x.needed s.feed.text.toList)
            ⟨status, writes, s.tree, min offset s.feed.finish⟩

end Mend.Process

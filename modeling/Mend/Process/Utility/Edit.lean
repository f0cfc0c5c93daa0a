import Mend.Process.Utility.Edit.Language

/-!
# Line editing

* `Edit.Editor` : the state of an editor;
* `Edit.Instruction.applies` : whether a command applies to a line;
* `Edit.substituted` : a line with matches replaced;
* `Edit.runFrom` : a script on one line;
* `sed` : the program.
-/

namespace Mend.Process.Edit

/-! ## Lines and files -/

/-- A line, and whether a line feed ends it. -/
structure Line where
  text : List Char
  complete : Bool

structure Source where
  name : String
  lines : List (List Char)
  complete : Bool

/-- A file that is written: what is in it, and whether its last line lacks an end. -/
structure Sink where
  name : String
  text : List String
  unended : Bool

/-- Something to be put behind a line: text, or the content of a file. -/
inductive Addition where
  | text (cs : List Char)
  | content (text : String)

structure Setup where
  script : Script
  outputs : List String
  silent : Bool
  separate : Bool
  inPlace : Option String
  delimiter : Char
  width : Nat

/-- The state of an editor: the lines under work, the input, the output, and the state of ranges. -/
structure Editor where
  pattern : Line
  held : Line
  number : Nat
  current : Source
  waiting : List String
  output : Sink
  complaints : List Write
  files : List Sink
  readers : List (String × List (List Char))
  additions : List Addition
  active : Array (Option Nat)
  lastMatcher : Option Matcher
  replaced : Bool
  restarts : Bool
  status : Nat
  tree : FileTree

/-- What ends the commands for a line: the line is deleted, or the editor ends, having printed the line
or not. -/
inductive Stop where
  | delete
  | quit (code : Nat) (prints : Bool)
  | finish
  | fault (message : String)
  | broken (message : String)

/-- What is said about a stop that is a failure, and its status. -/
def Stop.failure? : Stop → Option (Nat × Write)
  | .fault message => some (1, .err ("sed: -e expression #1, char 0: " ++ message ++ "\n"))
  | .broken message => some (4, .err message)
  | _ => none

abbrev Task := ExceptT Stop (StateM Editor)

namespace Sink

/-- A sink with text behind what it holds, whose last line is ended first. -/
def add (s : Sink) (delimiter : Char) (cs : List Char) : Sink :=
  let front := if s.unended then [String.singleton delimiter] else []
  { s with text := String.ofList cs :: (front ++ s.text), unended := false }

def addLine (s : Sink) (delimiter : Char) (l : Line) : Sink :=
  if l.complete then s.add delimiter (l.text ++ [delimiter])
  else { s.add delimiter l.text with unended := true }

def content (s : Sink) : String := String.join s.text.reverse

end Sink

/-! ## Input -/

/-- The lines of a text, and whether the last one is ended. -/
def linesOf (delimiter : Char) (text : List Char) : List (List Char) × Bool :=
  let pieces := text.splitOn delimiter
  match pieces.reverse with
  | [] :: earlier => (earlier.reverse, true)
  | _ => (pieces, false)

def rawLines (delimiter : Char) (text : List Char) : List (List Char) :=
  let (lines, complete) := linesOf delimiter text
  let last := lines.length - 1
  lines.mapIdx fun i l => if i = last && !complete then l else l ++ [delimiter]

/-- Whether the input has another line; files are opened as far as it takes. -/
def Setup.opensNext (setup : Setup) (s : Setting) : List String → Task Bool
  | [] => return false
  | name :: rest => do
    modify fun e => { e with waiting := rest }
    match s.read name with
    | .error .isADirectory => throw (.broken ("sed: read error on " ++ name ++ ": Is a directory\n"))
    | .error e =>
      modify fun ed =>
        { ed with
          status := 2
          complaints := ed.complaints ++
            [.err ("sed: can't read " ++ name ++ ": " ++ e.reason ++ "\n")] }
      setup.opensNext s rest
    | .ok text =>
      let (lines, complete) := linesOf setup.delimiter text.toList
      modify fun ed => { ed with current := ⟨name, lines, complete⟩ }
      if lines.isEmpty then setup.opensNext s rest else return true

def Setup.hasNext (setup : Setup) (s : Setting) : Task Bool := do
  let e ← MonadState.get
  if !e.current.lines.isEmpty then return true
  if setup.separate then return false
  setup.opensNext s e.waiting

def Setup.nextLine (setup : Setup) (s : Setting) : Task (Option Line) := do
  if !(← setup.hasNext s) then return none
  let e ← MonadState.get
  match e.current.lines with
  | [] => return none
  | l :: rest => do
    set { e with current := { e.current with lines := rest }, number := e.number + 1 }
    return some ⟨l, !rest.isEmpty || e.current.complete⟩

/-! ## Selections -/

/-- Whether a matcher matches the line under work, and where; it is then the one that was used last. -/
def Matcher.find? (m : Matcher) (start : Nat) (subject : Array Char) : Task (Option Found) := do
  let used ← match m.regex with
    | some _ => pure m
    | none =>
      match (← MonadState.get).lastMatcher with
      | some l => pure l
      | none => throw (.fault "no previous regular expression")
  modify fun e => { e with lastMatcher := some used }
  match used.regex with
  | some r => return Subject.find? ⟨subject, used.fold, used.multiline⟩ r start
  | none => return none

def Address.selects (a : Address) (setup : Setup) (s : Setting) : Task Bool := do
  let e ← MonadState.get
  match a with
  | .line n => return e.number = n
  | .every first step => return first ≤ e.number && (e.number - first) % step = 0
  | .last => return !(← setup.hasNext s)
  | .matching m => return (← m.find? 0 e.pattern.text.toArray).isSome

/-- Sets the state of the range of a command: the line it ends at if that is known. -/
def setRange (i : Nat) (state : Option Nat) : Task Unit :=
  modify fun e => { e with active := e.active.setIfInBounds i state }

/-- Whether a selection holds of the line under work, for the command with the given number. An open
range is one with a state: zero if its end is not known by its number. -/
def Selection.holds (x : Selection) (i : Nat) (setup : Setup) (s : Setting) : Task Bool := do
  let e ← MonadState.get
  match x.first, x.second with
  | none, _ => return true
  | some a, none => a.selects setup s
  | some a, some b =>
    match (e.active[i]?).join with
    | some stop =>
      match b with
      | .address (.line _) | .further _ | .multiple _ => do
        if stop ≤ e.number then setRange i none
        return e.number ≤ stop
      | .address b => do
        if ← b.selects setup s then setRange i none
        return true
    | none => do
      if !(← a.selects setup s) then return false
      match b with
      | .address (.line n) => do
        if e.number < n then setRange i (some n)
        return true
      | .further n => do
        if n ≠ 0 then setRange i (some (e.number + n))
        return true
      | .multiple n => do
        if n ≠ 0 then setRange i (some (e.number + (n - e.number % n)))
        return true
      | .address _ => do
        setRange i (some 0)
        return true

/-! ## Substitution -/

/-- What becomes of the case of the next characters, and of the one next. -/
structure Casing where
  all : Char
  once : Char

/-- A character in its case, and what becomes of those behind it. -/
def Casing.apply (k : Casing) (c : Char) : Char × Casing :=
  let change (mode : Char) (c : Char) : Char :=
    match mode with
    | 'U' | 'u' => c.toUpper
    | 'L' | 'l' => c.toLower
    | _ => c
  if k.once ≠ 'E' then (change k.once c, { k with once := 'E' }) else (change k.all c, k)

def Casing.applyAll : Casing → List Char → List Char × Casing
  | k, [] => ([], k)
  | k, c :: cs =>
    let (c, k) := k.apply c
    let (cs, k) := k.applyAll cs
    (c :: cs, k)

def replacementText (subject : Array Char) (found : Found) : Casing → List Piece → List Char
  | _, [] => []
  | k, p :: ps =>
    match p with
    | .text cs =>
      let (cs, k) := k.applyAll cs
      cs ++ replacementText subject found k ps
    | .group n =>
      let (start, stop) := if n = 0 then (found.start, found.stop) else (found.groups.lookup n).getD (0, 0)
      let (cs, k) := k.applyAll (subject.extract start stop).toList
      cs ++ replacementText subject found k ps
    | .letters mode =>
      let k : Casing := match mode with
        | 'l' | 'u' => { k with once := mode }
        | mode => ⟨mode, k.once⟩
      replacementText subject found k ps

/-- What is left of a line from a place on, with matches replaced; `count` of them have been passed
over, and the last one ended at `last`. The flag says whether one has been replaced. -/
def substituted (x : Substitution) (subject : Array Char) :
    Nat → Nat → Nat → Option Nat → List Char → Bool → Task (List Char × Bool)
  | 0, place, _, _, done, changed => return (done.reverse ++ (subject.extract place subject.size).toList, changed)
  | fuel + 1, place, count, last, done, changed => do
    let finish : Task (List Char × Bool) :=
      return (done.reverse ++ (subject.extract place subject.size).toList, changed)
    if subject.size < place then finish
    else
      match ← x.matcher.find? place subject with
      | none => finish
      | some found =>
        let before := (subject.extract place found.start).toList
        let done := before.reverse ++ done
        let here := (subject.extract found.start found.stop).toList
        let isEmpty := found.start = found.stop
        let next := if isEmpty then found.stop + 1 else found.stop
        let skipped := if isEmpty then (subject.extract found.stop (found.stop + 1)).toList else []
        if isEmpty && last = some found.start then
          substituted x subject fuel next count none (skipped.reverse ++ done) changed
        else if count + 1 < x.nth then
          substituted x subject fuel next (count + 1) (some found.stop)
            (skipped.reverse ++ here.reverse ++ done) changed
        else
          let text := replacementText subject found ⟨'E', 'E'⟩ x.replacement
          let done := text.reverse ++ done
          if x.everywhere then
            substituted x subject fuel next (count + 1) (some found.stop) (skipped.reverse ++ done) true
          else
            return (done.reverse ++ (subject.extract found.stop subject.size).toList, true)

/-! ## Output -/

def printLine (delimiter : Char) (l : Line) : Task Unit :=
  modify fun e => { e with output := e.output.addLine delimiter l }

def writeTo (delimiter : Char) (name : String) (l : Line) : Task Unit :=
  modify fun e =>
    if name = "/dev/stdout" then { e with output := e.output.addLine delimiter l }
    else
      { e with files := e.files.map fun f => if f.name = name then f.addLine delimiter l else f }

def listedChar (c : Char) : List Char :=
  match c with
  | '\\' => ['\\', '\\']
  | '\x07' => ['\\', 'a']
  | '\x08' => ['\\', 'b']
  | '\x0c' => ['\\', 'f']
  | '\n' => ['\\', 'n']
  | '\r' => ['\\', 'r']
  | '\t' => ['\\', 't']
  | '\x0b' => ['\\', 'v']
  | c =>
    if 32 ≤ c.toNat && c.toNat < 127 then [c]
    else
      let ds := Nat.toDigits 8 c.toNat
      '\\' :: (List.replicate (3 - ds.length) '0' ++ ds)

/-- Characters as they are listed, in lines of at most so many characters, of which `used` are in use. -/
def listed (width : Nat) (delimiter : Char) : Nat → List Char → List Char
  | _, [] => ['$', delimiter]
  | used, c :: cs =>
    let text := listedChar c
    if 1 < width && width - 1 < used + text.length then
      '\\' :: delimiter :: text ++ listed width delimiter text.length cs
    else text ++ listed width delimiter (used + text.length) cs

def flushAdditions (delimiter : Char) : Task Unit := modify fun e =>
  let output := e.additions.foldl
    (fun (o : Sink) a => match a with
      | .text cs => o.add delimiter cs
      | .content text => o.add delimiter text.toList) e.output
  { e with output, additions := [] }

/-! ## Commands -/

def blockEnd (script : Script) : Nat → Nat → Nat → Nat
  | 0, i, _ => i
  | fuel + 1, i, depth =>
    match script.instructions[i]? with
    | some ⟨_, .openBlock⟩ => blockEnd script fuel (i + 1) (depth + 1)
    | some ⟨_, .closeBlock⟩ => if depth = 0 then i + 1 else blockEnd script fuel (i + 1) (depth - 1)
    | some _ => blockEnd script fuel (i + 1) depth
    | none => i

def Script.labelled (script : Script) (name : String) : Nat :=
  if name.isEmpty then script.instructions.size
  else (script.labels.lookup name).getD script.instructions.size

def Line.first (l : Line) (delimiter : Char) : Line :=
  ⟨l.text.takeWhile (· ≠ delimiter), l.complete || l.text.contains delimiter⟩

def Line.append (l : Line) (delimiter : Char) (m : Line) : Line :=
  ⟨l.text ++ delimiter :: m.text, l.complete || m.complete⟩

/-- The text that a command adds; what ends it is what ends lines. -/
def addedText (delimiter : Char) (text : Option (List Char)) : List Char :=
  match text with
  | none => []
  | some cs => cs.dropLast ++ [delimiter]

/-- Replaces the line under work by the next one, behind what is kept of it. -/
def Setup.advance (setup : Setup) (s : Setting) (append : Bool) : Task Unit := do
  if !(← setup.hasNext s) then throw .finish
  flushAdditions setup.delimiter
  match ← setup.nextLine s with
  | none => throw .finish
  | some l =>
    modify fun e =>
      { e with pattern := if append then ⟨e.pattern.text ++ setup.delimiter :: l.text, l.complete⟩ else l }

/-- Does what a command asks for; the result is the number of the command to go on with, if it is not
the next one. -/
def Action.perform (a : Action) (i : Nat) (setup : Setup) (s : Setting) : Task (Option Nat) := do
  let e ← MonadState.get
  let d := setup.delimiter
  let stay (step : Task Unit) : Task (Option Nat) := do
    step
    return none
  let jumpIf (condition : Bool) (name : String) : Option Nat :=
    if condition then some (setup.script.labelled name) else none
  match a with
  | .openBlock | .closeBlock | .label => return none
  | .number => stay (set { e with output := e.output.add d (Nat.toDigits 10 e.number ++ [d]) })
  | .add .append text => stay (set { e with additions := e.additions ++ [Addition.text (addedText d text)] })
  | .add .insert text =>
    let text := addedText d text
    stay (set { e with output := if text.isEmpty then e.output else e.output.add d text })
  | .add .change text => do
    let text := addedText d text
    let isOpen := ((e.active[i]?).join).isSome
    let ranged := match setup.script.instructions[i]? with
      | some ⟨⟨_, some _, false⟩, _⟩ => true
      | _ => false
    if !(ranged && isOpen) && !text.isEmpty then set { e with output := e.output.add d text }
    throw .delete
  | .jump l => return jumpIf true l
  | .jumpIfReplaced l => do
    set { e with replaced := false }
    return jumpIf e.replaced l
  | .jumpUnlessReplaced l => do
    set { e with replaced := false }
    return jumpIf (!e.replaced) l
  | .delete => throw .delete
  | .deleteFirst => do
    if e.pattern.text.contains d then
      let rest := (e.pattern.text.dropWhile (· ≠ d)).drop 1
      set { e with pattern := { e.pattern with text := rest }, restarts := true }
    throw .delete
  | .fileName => stay (set { e with output := e.output.add d (e.current.name.toList ++ [d]) })
  | .get => stay (set { e with pattern := e.held })
  | .getAppend =>
    stay (set { e with pattern := e.pattern.append d e.held })
  | .hold => stay (set { e with held := e.pattern })
  | .holdAppend => stay (set { e with held := e.held.append d e.pattern })
  | .exchange => stay (set { e with pattern := e.held, held := e.pattern })
  | .list width => stay (set { e with output := e.output.add d (listed (width.getD setup.width) d 0 e.pattern.text) })
  | .next => do
    if ← setup.hasNext s then
      if !setup.silent then printLine d e.pattern
      setup.advance s false
      return none
    else throw .finish
  | .nextAppend => stay (setup.advance s true)
  | .print => stay (printLine d e.pattern)
  | .printFirst => stay (printLine d (e.pattern.first d))
  | .quit code => throw (.quit code true)
  | .quitSilently code => throw (.quit code false)
  | .readFile name =>
    match s.read name with
    | .ok text => stay (set { e with additions := e.additions ++ [Addition.content text] })
    | .error _ => stay (set { e with additions := e.additions ++ [Addition.content ""] })
  | .readLine name => do
    let lines := match e.readers.lookup name with
      | some lines => lines
      | none =>
        match s.read name with
        | .ok text => rawLines d text.toList
        | .error _ => []
    let readers := e.readers.filter fun r => r.1 ≠ name
    match lines with
    | [] => stay (set { e with readers := (name, []) :: readers })
    | l :: rest =>
      stay (set { e with readers := (name, rest) :: readers, additions := e.additions ++ [Addition.text l] })
  | .writeFile name => stay (writeTo d name e.pattern)
  | .writeFirst name => stay (writeTo d name (e.pattern.first d))
  | .substitute x => do
    let subject := e.pattern.text.toArray
    let (text, changed) ← substituted x subject (subject.size + 2) 0 0 none [] false
    if changed then
      modify fun e => { e with pattern := { e.pattern with text }, replaced := true }
      let line := (← MonadState.get).pattern
      if x.prints then printLine d line
      match x.file with
      | some name => writeTo d name line
      | none => pure ()
    return none
  | .transliterate table =>
    let text := e.pattern.text.map fun c => (table.lookup c).getD c
    stay (set { e with pattern := { e.pattern with text } })
  | .empty => stay (set { e with pattern := { e.pattern with text := [] } })
  | .unusable letter => throw (.broken ("sed: INTERNAL ERROR: Bad cmd " ++ String.singleton letter ++ "\n"))

def runFrom (setup : Setup) (s : Setting) : Nat → Nat → Task Unit
  | 0, _ => return ()
  | fuel + 1, i => do
    match setup.script.instructions[i]? with
    | none => return ()
    | some ⟨x, a⟩ => do
      let applies := (← x.holds i setup s) != x.negated
      if applies then
        match ← a.perform i setup s with
        | some target => runFrom setup s fuel target
        | none => runFrom setup s fuel (i + 1)
      else
        match a with
        | .openBlock => runFrom setup s fuel (blockEnd setup.script (setup.script.instructions.size + 1) (i + 1) 0)
        | _ => runFrom setup s fuel (i + 1)

def maxCommands : Nat := 10000000

def runLines (setup : Setup) (s : Setting) : Nat → Task Unit
  | 0 => return ()
  | fuel + 1 => do
    let e ← MonadState.get
    let started ← if e.restarts then do
        set { e with restarts := false }
        pure true
      else
        match ← setup.nextLine s with
        | none => pure false
        | some l => do
          modify fun e => { e with pattern := l, replaced := false }
          pure true
    if !started then return ()
    let result ← (ExceptT.lift (runFrom setup s maxCommands 0).run : Task (Except Stop Unit))
    let finish (prints : Bool) : Task Unit := do
      if prints && !setup.silent then printLine setup.delimiter (← MonadState.get).pattern
      flushAdditions setup.delimiter
    match result with
    | .ok () => do
      finish true
      runLines setup s fuel
    | .error .delete => do
      finish false
      runLines setup s fuel
    | .error .finish => finish true
    | .error (.quit code prints) => do
      if prints then
        finish true
        modify fun e => { e with output := e.output.add setup.delimiter [] }
      modify fun e => { e with status := code }
      throw (.quit code prints)
    | .error stop => throw stop

/-! ## The program -/

def Editor.start (setup : Setup) (waiting : List String) (tree : FileTree) : Editor :=
  { pattern := ⟨[], true⟩, held := ⟨[], true⟩, number := 0, current := ⟨"-", [], true⟩, waiting
    output := ⟨"", [], false⟩, complaints := []
    files := setup.outputs.map fun name => ⟨name, [], false⟩
    readers := [], additions := []
    active := setup.script.instructions.map fun i =>
      match i.selection.first, i.selection.second with
      | some (.line 0), some _ => some 0
      | _, _ => none
    lastMatcher := none, replaced := false, restarts := false, status := 0
    tree }

/-- What an editor has written to the files that its script names, put in their places. -/
def Editor.filesWritten (e : Editor) : FileTree × List Write :=
  e.files.foldl
    (fun (tree, writes) f =>
      if f.name = "/dev/stderr" then (tree, writes ++ [.err f.content])
      else
        match tree.write (pathOf f.name) (bytesOf f.content) with
        | .ok tree => (tree, writes)
        | .error _ => (tree, writes))
    (e.tree, [])

/-- A tree in which files have been emptied, and the first of them that cannot be written. -/
def emptied (tree : FileTree) : List String → FileTree × Option (String × FileError)
  | [] => (tree, none)
  | name :: names =>
    if name = "/dev/stdout" || name = "/dev/stderr" then emptied tree names
    else
      match tree.write (pathOf name) .empty with
      | .ok tree => emptied tree names
      | .error e => (tree, some (name, e))

def runTogether (setup : Setup) (s : Setting) (names : List String) : Leavings :=
  let (result, e) := (runLines setup s maxCommands).run (Editor.start setup names s.tree)
  let (tree, writes) := e.filesWritten
  let failure := match result with
    | .error stop => stop.failure?
    | .ok () => none
  let status := (failure.map (·.1)).getD e.status
  let readsInput := names.any Setting.isInput
  let left := match result with
    | .error (.quit ..) =>
      if Setting.isInput e.current.name then
        total (fun l => l.length + 1) e.current.lines - (if e.current.complete then 0 else 1)
      else 0
    | _ => 0
  let offset := if !readsInput then s.feed.offset
    else if s.feed.seekable then s.feed.finish - left else s.feed.finish
  ⟨status, .out e.output.content :: e.complaints ++ (failure.map (·.2)).toList ++ writes, tree, offset⟩

/-- The name of the copy of a file that is kept: a star in the suffix stands for the name. -/
def copyName (suffix name : String) : String :=
  if suffix.toList.contains '*' then
    let base := (name.toList.reverse.takeWhile (· ≠ '/')).reverse
    let folder := name.toList.take (name.length - base.length)
    let new := suffix.toList.flatMap fun c => if c = '*' then base else [c]
    if suffix.toList.contains '/' then String.ofList new else String.ofList (folder ++ new)
  else name ++ suffix

/-- Runs a script on one file after another, each of which takes the output for it if the setup says
so. -/
def runApart (setup : Setup) (s : Setting) : List String → Editor → List Write → List Write × Editor
  | [], e, writes => (writes, e)
  | name :: rest, e, writes =>
    match s.read name, setup.inPlace with
    | .error .isADirectory, some _ =>
      runApart setup s rest { e with status := 4 }
        (writes ++ [.err ("sed: couldn't edit " ++ name ++ ": not a regular file\n")])
    | _, _ =>
      let start : Editor :=
        { e with
          waiting := [name], number := 0
          current := ⟨name, [], true⟩, output := ⟨"", [], if setup.inPlace.isSome then false else e.output.unended⟩ }
      let step : Task Unit := do
        let _ ← setup.opensNext s [name]
        runLines setup s maxCommands
      let (result, after) := step.run start
      let writes := writes ++ after.complaints
      let after := { after with complaints := [] }
      let failed := match result with
        | .error stop => stop.failure?.isSome
        | .ok () => false
      let missing := failed || (s.read name).toOption.isNone
      let (writes, after) := match setup.inPlace with
        | none => (writes ++ [Write.out after.output.content], after)
        | some suffix =>
          if missing then (writes, after)
          else
            let tree := if suffix.isEmpty then after.tree
              else ((after.tree.copy (pathOf name) (pathOf (copyName suffix name))).toOption).getD after.tree
            (writes, { after with
              tree := ((tree.write (pathOf name) (bytesOf after.output.content)).toOption).getD tree })
      match result with
      | .error (.quit ..) => (writes, after)
      | .error stop =>
        match stop.failure? with
        | some (status, w) => (writes ++ [w], { after with status })
        | none => runApart setup s rest after writes
      | .ok () => runApart setup s rest after writes

/-- The parts of a script that options give, or what is wrong with one. -/
def chunks (s : Setting) : Nat → List (Char × String) → Except String (List Chunk)
  | _, [] => .ok []
  | n, ('e', text) :: rest => do return ⟨text.toList, none, n⟩ :: (← chunks s (n + 1) rest)
  | n, ('f', name) :: rest =>
    match s.read name with
    | .error e => .error ("sed: couldn't open file " ++ name ++ ": " ++ e.reason)
    | .ok text => do
      return ⟨text.toList, some name, n⟩ :: (← chunks s n rest)
  | n, _ :: rest => chunks s n rest

end Mend.Process.Edit

namespace Mend.Process

def sedUsage : Usage where
  tool := "sed"
  flags := ['n', 'E', 'r', 's', 'z', 'u', 'b', 'i']
  valued := ['e', 'f', 'l']
  long := [("quiet", 'n'), ("silent", 'n'), ("expression", 'e'), ("file", 'f'), ("regexp-extended", 'E'),
    ("separate", 's'), ("null-data", 'z'), ("zero-terminated", 'z'), ("unbuffered", 'u'), ("binary", 'b'),
    ("in-place", 'i'), ("line-length", 'l'), ("posix", 'u'), ("sandbox", 'u'), ("follow-symlinks", 'u'),
    ("debug", 'u')]

/-- What is said about the use of the line editor. -/
def sedHelp : String :=
  "Usage: sed [OPTION]... \x7bscript-only-if-no-other-script\x7d [input-file]..."

/-- The arguments of the line editor, whose option `i` takes the rest of its argument for a suffix. -/
def sedArguments (args : List String) : List String :=
  args.flatMap fun a =>
    match a.toList with
    | '-' :: '-' :: _ => [a]
    | '-' :: cs =>
      let front := cs.takeWhile fun c => c ≠ 'i' && !sedUsage.valued.contains c
      match cs.drop front.length with
      | 'i' :: suffix =>
        (if front.isEmpty then [] else [String.ofList ('-' :: front)]) ++
          ["--in-place=" ++ String.ofList suffix]
      | _ => [a]
    | _ => [a]

def sed : Utility := fun args s =>
  match sedUsage.sort (sedArguments args) with
  | .error e => .failing s 1 (e.message "sed" ++ "\n" ++ sedHelp)
  | .ok i =>
    match Edit.chunks s 1 i.options with
    | .error message => .failing s 1 message
    | .ok given =>
      let (given, names) := match given, i.operands with
        | [], script :: names => ([Edit.Chunk.mk script.toList none 1], names)
        | given, names => (given, names)
      if given.isEmpty then .failing s 1 sedHelp
      else
        let (result, outputs) := Edit.read (i.has 'E' || i.has 'r') given
        match Edit.emptied s.tree outputs, result with
        | (tree, some (name, e)), _ =>
          .failing { s with tree } 4 ("sed: couldn't open file " ++ name ++ ": " ++ e.reason)
        | (tree, none), .error refusal => .failing { s with tree } refusal.status ("sed: " ++ refusal.text)
        | (tree, none), .ok script =>
          let setup : Edit.Setup :=
            { script
              outputs := outputs.eraseDups.filter fun n => n ≠ "/dev/stdout"
              silent := i.has 'n' || script.silent
              separate := i.has 's' || i.has 'i'
              inPlace := i.value? 'i'
              delimiter := if i.has 'z' then '\x00' else '\n'
              width := ((i.value? 'l').bind fun v => Text.Decimal.digits? v.toList).getD 70 }
          let names := if names.isEmpty then ["-"] else names
          let s := { s with tree }
          if setup.separate then
            if setup.inPlace.isSome && names = ["-"] then .failing s 4 "sed: no input files"
            else
              let (writes, e) := Edit.runApart setup s names (Edit.Editor.start setup names s.tree) []
              let (tree, more) := e.filesWritten
              ⟨e.status, writes ++ more, tree, s.offsetAfter names⟩
          else Edit.runTogether setup s names

end Mend.Process

import Mend.Process.Utility.Lines

/-!
# Moving files about

* `rm`, `rmdir`, `mkdir`, `touch`, `chmod` : changes to single files and directories;
* `cp`, `mv` : files under other names;
* `ls` : the names in directories;
* `cmp`, `diff` : whether two files are the same.
-/

namespace Mend.Process

def quotedName (name : String) : String := "'" ++ name ++ "'"

/-- Applies an operation to each name; the complaints of those that fail are collected. -/
def forEach (names : List String) (s : Setting) (f : FileTree → String → Except String FileTree) :
    Leavings :=
  let (tree, complaints) := names.foldl
    (fun (tree, complaints) name =>
      match f tree name with
      | .ok tree => (tree, complaints)
      | .error e => (tree, complaints ++ [Write.err (e ++ "\n")]))
    (s.tree, [])
  ⟨if complaints.isEmpty then 0 else 1, complaints, tree, s.feed.offset⟩

/-- The result of an operation on a file, or a complaint with a reason behind it. -/
def explained {α : Type} (front : String) (r : Except FileError α) : Except String α :=
  r.mapError fun e => front ++ ": " ++ e.reason

def located (tree : FileTree) (name : String) : Except FileError (Place × Entry) := do
  let place ← tree.resolve (pathOf name)
  match tree.get? place with
  | some entry => return (place, entry)
  | none => .error .notFound

def eraseBelow (tree : FileTree) (place : Place) : FileTree :=
  tree.keep fun p => !place.isPrefixOf p

def isBare (tree : FileTree) (place : Place) : Bool :=
  tree.entries.all fun e => e.1 == place || !place.isPrefixOf e.1

/-! ## Removing and making -/

/-- Removes files; with `-f` missing ones are no failure, with `-r` directories go with their content. -/
def rm : Utility :=
  withArguments ⟨"rm", ['f', 'r', 'R', 'd', 'v', 'i', 'I'], [],
    [("force", 'f'), ("recursive", 'r'), ("dir", 'd')]⟩ 1 fun i s =>
  let forced := i.has 'f'
  let recursive := i.has 'r' || i.has 'R'
  if i.operands.isEmpty then
    if forced then .ofStatus s 0 else refusing "rm" 1 s "rm: missing operand"
  else forEach i.operands s fun tree name =>
    let front := "rm: cannot remove " ++ quotedName name
    match located tree name with
    | .error e =>
      if forced && (e = .notFound || e = .notADirectory) then .ok tree
      else explained front (.error e)
    | .ok (place, .directory) =>
      let last := ((pathOf name).text.toList.splitOn '/').getLast?
      if recursive && (last = some ['.'] || last = some ['.', '.']) then
        .error ("rm: refusing to remove '.' or '..' directory: skipping " ++ quotedName name)
      else if recursive then .ok (eraseBelow tree place)
      else if i.has 'd' then
        if isBare tree place then .ok (tree.erase place) else explained front (.error .notEmpty)
      else explained front (.error .isADirectory)
    | .ok (place, _) => .ok (tree.erase place)

def rmdir : Utility := withArguments ⟨"rmdir", ['p', 'v'], [], []⟩ 1 fun i s =>
  if i.operands.isEmpty then refusing "rmdir" 1 s "rmdir: missing operand"
  else forEach i.operands s fun tree name =>
    let front := "rmdir: failed to remove " ++ quotedName name
    match located tree name with
    | .error e => explained front (.error e)
    | .ok (place, .directory) =>
      if isBare tree place then .ok (tree.erase place) else explained front (.error .notEmpty)
    | .ok _ => explained front (.error .notADirectory)

/-- The part of a path up to the place where it meets something that is no directory. -/
def blockedAt (tree : FileTree) (name : String) : String :=
  let pieces := name.toList.splitOn '/'
  let fronts := (List.range pieces.length).map fun n => String.ofList (['/'].intercalate (pieces.take (n + 1)))
  (fronts.find? fun front =>
    match tree.lookup (pathOf front) with
    | .ok .directory => false
    | .ok _ => true
    | .error _ => false).getD name

/-- Makes directories; with `-p` those on the way too, and one that is there is no failure. -/
def mkdir : Utility :=
  withArguments ⟨"mkdir", ['p', 'v'], ['m'], [("parents", 'p')]⟩ 1 fun i s =>
  let front (name : String) : String := "mkdir: cannot create directory " ++ quotedName name
  if i.operands.isEmpty then refusing "mkdir" 1 s "mkdir: missing operand"
  else forEach i.operands s fun tree name =>
    if i.has 'p' && !name.isEmpty then
      match tree.makeDirs (pathOf name) with
      | .error .notADirectory => explained (front (blockedAt tree name)) (.error .notADirectory)
      | r => explained (front name) r
    else explained (front name) do
      let plain := String.ofList (name.toList.reverse.dropWhile (· = '/')).reverse
      let place ← tree.resolve (pathOf (if plain.isEmpty then name else plain))
      match tree.get? place with
      | some _ => .error .alreadyExists
      | none => .ok (tree.putDirectory place)

def touch : Utility :=
  withArguments ⟨"touch", ['a', 'c', 'm', 'f', 'h'], ['d', 'r', 't'], [("no-create", 'c')]⟩ 1 fun i s =>
  if i.operands.isEmpty then refusing "touch" 1 s "touch: missing file operand"
  else forEach i.operands s fun tree name =>
    if tree.contains (pathOf name) then .ok tree
    else
      match tree.write (pathOf name) .empty with
      | .ok made => .ok (if i.has 'c' then tree else made)
      | .error e =>
        if i.has 'c' && e = .notFound then .ok tree
        else explained ("touch: cannot touch " ++ quotedName name) (.error e)

/-! ## Modes -/

/-- What a clause of a symbolic mode makes of the mark that lets a file be run: nothing, or a value. A
mark is taken away only if it is taken from all. -/
def modeClause : List Char → Option (Option Bool)
  | cs =>
    let who := cs.takeWhile fun c => c = 'u' || c = 'g' || c = 'o' || c = 'a'
    let all := who.isEmpty || who.contains 'a' || (['u', 'g', 'o'].all who.contains)
    match cs.drop who.length with
    | operator :: permissions =>
      if !(operator = '+' || operator = '-' || operator = '=') then none
      else if !permissions.all fun c => ['r', 'w', 'x', 'X', 's', 't'].contains c then none
      else
        let runs := permissions.contains 'x'
        if operator = '+' then some (if runs then some true else none)
        else if operator = '-' then some (if runs && all then some false else none)
        else some (if runs then some true else if all then some false else none)
    | [] => none

/-- What a mode makes of the mark that lets a file be run. -/
def modeEffect (mode : String) : Option (Option Bool) :=
  let cs := mode.toList
  if cs.isEmpty then none
  else if cs.all Char.isDigit then
    let value := Nat.ofDigitChars 8 cs 0
    if cs.all fun c => c ≤ '7' then
      if value ≤ 4095 then some (some (cs.any fun c => (c.toNat - '0'.toNat) % 2 = 1)) else none
    else none
  else
    (cs.splitOn ',').foldl (fun known clause =>
      match known, modeClause clause with
      | some before, some after => some (after.orElse fun _ => before)
      | _, _ => none) (some none)

def chmod : Utility := fun args s =>
  let isMode (a : String) : Bool :=
    match a.toList with
    | '-' :: c :: _ => ['r', 'w', 'x', 'X', 's', 't'].contains c
    | _ => false
  let mode := args.find? isMode
  let others := args.filter fun a => !isMode a
  let usage : Usage := ⟨"chmod", ['R', 'f', 'v', 'c'], [], [("recursive", 'R')]⟩
  match usage.sort others with
  | .error e => refusing "chmod" 1 s (e.message "chmod")
  | .ok i =>
    let (mode, names) := match mode, i.operands with
      | some m, names => (some m, names)
      | none, m :: names => (some m, names)
      | none, [] => (none, [])
    match mode with
    | none => refusing "chmod" 1 s "chmod: missing operand"
    | some mode =>
      if names.isEmpty then refusing "chmod" 1 s ("chmod: missing operand after " ++ quotedName mode)
      else
        match modeEffect mode with
        | none => refusing "chmod" 1 s ("chmod: invalid mode: " ++ quotedName mode)
        | some effect =>
          forEach names s fun tree name => do
            let (place, _) ← explained ("chmod: cannot access " ++ quotedName name) (located tree name)
            let changes (p : Place) : Bool := p == place || (i.has 'R' && place.isPrefixOf p)
            return tree.setModes fun p executable =>
              if changes p then effect.getD executable else executable

/-! ## Copying and moving -/

/-- The name that a file is copied or moved to: a directory takes it under its own name. -/
def destination (tree : FileTree) (source target : String) : String :=
  match tree.lookup (pathOf target) with
  | .ok .directory =>
    let pieces := (source.toList.splitOn '/').filter fun p => !p.isEmpty
    let last := String.ofList (pieces.getLast?.getD [])
    if target.toList.getLast? = some '/' then target ++ last else target ++ "/" ++ last
  | _ => target

/-- The place of a file that is to be made. A name that ends in a separator asks for a directory. -/
def newPlace (tree : FileTree) (name : String) : Except FileError Place :=
  match tree.resolve (pathOf name) with
  | .error .notFound =>
    if name.toList.getLast? = some '/' then
      let plain := String.ofList (name.toList.reverse.dropWhile (· = '/')).reverse
      match tree.resolve (pathOf plain) with
      | .ok _ => .error .notADirectory
      | .error e => .error e
    else .error .notFound
  | r => r

/-- Everything at or below a place, put at another. -/
def graft (tree : FileTree) (source target : Place) : FileTree :=
  tree.entries.foldl (fun t (p, entry) =>
    if source.isPrefixOf p then t.plant (target ++ p.drop source.length) entry else t) tree

/-- Applies an operation to each source and the target, with the complaints about operands that both
`cp` and `mv` have. -/
def transfer (tool : String) (usage : Usage)
    (f : Invocation → FileTree → String → String → Except String FileTree) : Utility :=
  withArguments usage 1 fun i s =>
  match i.operands.reverse with
  | [] => refusing tool 1 s (tool ++ ": missing file operand")
  | [a] => refusing tool 1 s (tool ++ ": missing destination file operand after " ++ quotedName a)
  | target :: sources =>
    let fault : Option FileError := match sources, s.tree.lookup (pathOf target) with
      | [_], _ => none
      | _, .ok .directory => none
      | _, .ok _ => some .notADirectory
      | _, .error e => some e
    match fault with
    | some e => .failing s 1 (tool ++ ": target " ++ quotedName target ++ ": " ++ e.reason)
    | none => forEach sources.reverse s fun tree source => f i tree source target

/-- Copies files, with `-r` also directories. One that is there keeps its mode. -/
def cp : Utility :=
  transfer "cp" ⟨"cp", ['r', 'R', 'a', 'p', 'f', 'n', 'i', 'v', 'u'], [],
    [("recursive", 'r'), ("force", 'f')]⟩ fun i tree source target => do
  let (from_, entry) ← explained ("cp: cannot stat " ++ quotedName source) (located tree source)
  let name := destination tree source target
  let creating := "cp: cannot create " ++
    (match entry with | .directory => "directory " | _ => "regular file ") ++ quotedName name
  match entry with
  | .directory =>
    if !(i.has 'r' || i.has 'R' || i.has 'a') then
      throw ("cp: -r not specified; omitting directory " ++ quotedName source)
    let place ← explained creating (tree.resolve (pathOf name))
    if from_.isPrefixOf place then
      throw ("cp: cannot copy a directory, " ++ quotedName source ++ ", into itself, " ++ quotedName name)
    match tree.get? place with
    | some (.file ..) =>
      throw ("cp: cannot overwrite non-directory " ++ quotedName name ++ " with directory " ++
        quotedName source)
    | _ => return graft tree from_ place
  | _ =>
    let (content, executable) := match entry with
      | .file content executable => (content, executable)
      | _ => (.empty, false)
    let place ← explained creating (newPlace tree name)
    if place = from_ then
      throw ("cp: " ++ quotedName source ++ " and " ++ quotedName name ++ " are the same file")
    match tree.get? place with
    | some .directory =>
      throw ("cp: cannot overwrite directory " ++ quotedName name ++ " with non-directory")
    | some .device => return tree
    | some (.file _ mode) => return if i.has 'n' then tree else tree.putFile place content mode
    | none => return tree.putFile place content executable

def mv : Utility :=
  transfer "mv" ⟨"mv", ['f', 'n', 'i', 'v', 'u'], [], [("force", 'f')]⟩ fun i tree source target => do
  let (from_, entry) ← explained ("mv: cannot stat " ++ quotedName source) (located tree source)
  let name := destination tree source target
  let moving := "mv: cannot move " ++ quotedName source ++ " to " ++ quotedName name
  let place ← explained moving
    (match entry with
      | .directory => tree.resolve (pathOf name)
      | _ => newPlace tree name)
  if place = from_ then
    throw ("mv: " ++ quotedName source ++ " and " ++ quotedName name ++ " are the same file")
  match entry, tree.get? place with
  | .directory, some (.file ..) =>
    throw ("mv: cannot overwrite non-directory " ++ quotedName name ++ " with directory " ++
      quotedName source)
  | .directory, found =>
    if from_.isPrefixOf place then
      throw ("mv: cannot move " ++ quotedName source ++ " to a subdirectory of itself, " ++ quotedName name)
    if found.isSome && !isBare tree place then explained moving (.error .notEmpty)
    else return eraseBelow (graft tree from_ place) from_
  | _, some .directory =>
    throw ("mv: cannot overwrite directory " ++ quotedName name ++ " with non-directory")
  | .device, _ => explained moving (.error .permissionDenied)
  | _, found =>
    if found.isSome && i.has 'n' then return tree
    else return (tree.plant place entry).erase from_

/-! ## Names -/

def ls : Utility := withArguments ⟨"ls", ['a', 'A', '1', 'd', 'l', 'r', 't', 'F', 'R', 'p'], [], []⟩ 2 fun i s =>
  let operands := (if i.operands.isEmpty then ["."] else i.operands).mergeSort fun a b => a ≤ b
  let ordered (names : List String) : List String := if i.has 'r' then names.reverse else names
  let text (names : List String) : String := String.join (names.map (· ++ "\n"))
  let found := operands.map fun name => (name, located s.tree name)
  let complaints := found.filterMap fun (name, r) => match r with
    | .error e => some (Write.err ("ls: cannot access " ++ quotedName name ++ ": " ++ e.reason ++ "\n"))
    | .ok _ => none
  let isDirectory (e : Entry) : Bool := e.same .directory && !i.has 'd'
  let files := found.filterMap fun (name, r) => match r with
    | .ok (_, e) => if isDirectory e then none else some name
    | .error _ => none
  let directories := found.filterMap fun (name, r) => match r with
    | .ok (place, e) => if isDirectory e then some (name, place) else none
    | .error _ => none
  let inside (place : Place) : List String :=
    let names := (namesIn s.tree place).filter fun n => i.has 'a' || i.has 'A' || n.toList.head? != some '.'
    (if i.has 'a' then [".", ".."] else []) ++ names
  let headed := 1 < operands.length
  let blocks := directories.map fun (name, place) =>
    (if headed then name ++ ":\n" else "") ++ text (ordered (inside place))
  let listing := "\n".intercalate ((if files.isEmpty then [] else [text (ordered files)]) ++ blocks)
  .ofWrites s (if complaints.isEmpty then 0 else 2) (complaints ++ [.out listing])

/-! ## Comparing -/

/-- The first place at which two texts differ, and the line it is in. -/
def firstDifference : Nat → Nat → List Char → List Char → Option (Nat × Nat × Bool)
  | _, _, [], [] => none
  | place, line, a :: as, b :: bs =>
    if a = b then firstDifference (place + 1) (if a = '\n' then line + 1 else line) as bs
    else some (place, line, true)
  | place, line, _, _ => some (place, line, false)

def endsEarly (name : String) (text : List Char) : String :=
  "cmp: EOF on " ++ name ++
    if text.isEmpty then " which is empty"
    else
      let lines := text.count '\n'
      " after byte " ++ Text.Decimal.ofNat text.length ++
        if text.getLast? = some '\n' then ", line " ++ Text.Decimal.ofNat lines
        else ", in line " ++ Text.Decimal.ofNat (lines + 1)

def cmp : Utility := fun args s =>
  let usage : Usage := ⟨"cmp", ['s', 'l', 'b'], [], [("silent", 's'), ("quiet", 's')]⟩
  let refuse (message : String) : Leavings :=
    .failing s 2 (message ++ "\ncmp: Try 'cmp --help' for more information.")
  match usage.sort args with
  | .error e => refuse (e.message "cmp")
  | .ok i =>
    let silent := i.has 's'
    match i.operands with
    | [] => refuse "cmp: missing operand after 'cmp'"
    | a :: rest =>
      let b := rest.headD "-"
      match s.read a, s.read b with
      | .error e, _ => .ofWrites s 2 (if silent then [] else [complaint "cmp" a e])
      | _, .error e => .ofWrites s 2 (if silent then [] else [complaint "cmp" b e])
      | .ok x, .ok y =>
        match firstDifference 1 1 x.toList y.toList with
        | none => .ofStatus s 0
        | some (place, line, true) =>
          .ofWrites s 1 (if silent then [] else
            [.out (a ++ " " ++ b ++ " differ: char " ++ Text.Decimal.ofNat place ++ ", line " ++
              Text.Decimal.ofNat line ++ "\n")])
        | some (_, _, false) =>
          let (name, text) := if x.length < y.length then (a, x) else (b, y)
          .ofWrites s 1 (if silent then [] else [.err (endsEarly name text.toList ++ "\n")])

def diff : Utility := fun args s =>
  let usage : Usage := ⟨"diff", ['q', 's', 'u', 'w', 'b', 'B', 'i', 'r', 'N'], [], [("brief", 'q')]⟩
  let refuse (message : String) : Leavings :=
    .failing s 2 (message ++ "\ndiff: Try 'diff --help' for more information.")
  match usage.sort args with
  | .error e => refuse (e.message "diff")
  | .ok i =>
    match i.operands with
    | [] => refuse "diff: missing operand after 'diff'"
    | [a] => refuse ("diff: missing operand after " ++ quotedName a)
    | a :: b :: _ =>
      match s.read a, s.read b with
      | .error e, .error e' => .ofWrites s 2 [complaint "diff" a e, complaint "diff" b e']
      | .error e, _ => .ofWrites s 2 [complaint "diff" a e]
      | _, .error e => .ofWrites s 2 [complaint "diff" b e]
      | .ok x, .ok y =>
        if x = y then
          .printing s (if i.has 's' then "Files " ++ a ++ " and " ++ b ++ " are identical\n" else "")
        else .ofWrites s 1 [.out ("Files " ++ a ++ " and " ++ b ++ " differ\n")]

end Mend.Process

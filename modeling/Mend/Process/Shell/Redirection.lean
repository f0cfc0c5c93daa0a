import Mend.Process.Shell.Expansion

/-!
# Redirections

* `redirect` : a descriptor connected to what a redirection names;
* `redirectAll` : redirections in order;
* `redirected` : a step under redirections, which are taken back behind it.
-/

namespace Mend.Process

def namedDescriptor? (name : String) : Option Nat :=
  match name with
  | "/dev/stdin" => some 0
  | "/dev/stdout" => some 1
  | "/dev/stderr" => some 2
  | _ =>
    match name.toList with
    | '/' :: 'd' :: 'e' :: 'v' :: '/' :: 'f' :: 'd' :: '/' :: ds => Text.Decimal.digits? ds
    | _ => none

/-- The wording of an error on opening a file, where a missing one or a missing directory is told in
words of its own. -/
def openFault (action missing name : String) (e : FileError) : String :=
  "cannot " ++ action ++ " " ++ name ++ ": " ++
    if e = .notFound ∨ e = .notADirectory then missing else e.reason

/-- The shell with a file ready to be written, and the channel to it; its content may have to go. -/
def Shell.opened (s : Shell) (name : String) (direction : Direction) : Except FileError (Shell × Channel) :=
  let target : Except FileError Place := match namedDescriptor? name with
    | some n =>
      match s.channel? n with
      | some (_, .file place _ _) => .ok place
      | _ => .error .notFound
    | none => s.tree.resolve (pathOf name)
  match target with
  | .error e => .error e
  | .ok place =>
    let fresh := direction = .output || direction = .clobber
    match s.tree.get? place, direction with
    | none, .input => .error .notFound
    | none, _ =>
      .ok ({ s with tree := s.tree.putFile place .empty false },
        .file place 0 (direction = .append))
    | some .device, _ => .ok (s, .nowhere)
    | some .directory, .input => .ok (s, .file place 0 false)
    | some .directory, _ => .error .isADirectory
    | some (.file content executable), _ =>
      if fresh && direction = .output && s.options.keepFiles then .error .alreadyExists
      else
        let content := if fresh then .empty else content
        .ok ({ s with tree := s.tree.putFile place content executable },
          .file place 0 (direction = .append))

def openFile (descriptor : Nat) (direction : Direction) (name : String) : Run Unit := do
  let s ← get
  let shared : Option Nat := match namedDescriptor? name with
    | some n =>
      match s.channel? n with
      | some (_, .file ..) => none
      | some (i, _) => some i
      | none => none
    | none => none
  match shared with
  | some i => set (s.connect descriptor (some i))
  | none =>
    match s.opened name direction with
    | .ok (s, c) =>
      let (s, i) := s.addChannel c
      set (s.connect descriptor (some i))
    | .error e =>
      if direction = .input then raise (openFault "open" "No such file" name e)
      else raise (openFault "create" "Directory nonexistent" name e)

def redirect (descriptor : Nat) (direction : Direction) (target : String) : Run Unit := do
  match direction with
  | .duplicate =>
    if target = "-" then modify fun s => s.connect descriptor none
    else
      match target.toList with
      | [c] =>
        if !c.isDigit then raise "Syntax error: Bad fd number"
        let s ← get
        match s.descriptors.lookup (c.toNat - '0'.toNat) with
        | some i => set (s.connect descriptor (some i))
        | none => raise (target ++ ": Bad file descriptor")
      | _ => raise "Syntax error: Bad fd number"
  | .document => do
    let (s, i) := (← get).addChannel (.pipe (bytesOf target) 0)
    set (s.connect descriptor (some i))
  | _ => openFile descriptor direction target

/-- The targets of redirections; a document is no name of a file. -/
def expandTargets (substitute : Script → Run String) :
    List Redirect → Run (List (Nat × Direction × String))
  | [] => return []
  | .mk n direction target :: rs => do
    let text ← if direction = .document then do
        let ms ← expandParts substitute false target
        pure (markText (← get).joint ms)
      else expandText substitute target
    if direction = .duplicate && text ≠ "-" then
      match text.toList with
      | [c] => if !c.isDigit then raise "Syntax error: Bad fd number"
      | _ => raise "Syntax error: Bad fd number"
    let rest ← expandTargets substitute rs
    return (n, direction, text) :: rest

/-- Applies redirections in order; the result says whether all could be done. -/
def redirectAll : List (Nat × Direction × String) → Run Bool
  | [] => return true
  | (n, direction, target) :: rest => do
    match ← attempt (redirect n direction target) with
    | .ok () => redirectAll rest
    | .error .fault => return false
    | .error h => throw h

def restoreDescriptors (before : List (Nat × Nat)) (targets : List (Nat × Direction × String)) :
    Run Unit :=
  modify fun s => targets.foldl (fun s t => s.connect t.1 (before.lookup t.1)) s

/-- Runs a step under redirections and takes them back; the result says whether they could be done. -/
def redirected (targets : List (Nat × Direction × String)) (step : Run Unit) : Run Bool := do
  let before := (← get).descriptors
  if ← redirectAll targets then
    let result ← attempt step
    restoreDescriptors before targets
    match result with
    | .error h => throw h
    | .ok () => return true
  else
    restoreDescriptors before targets
    setStatus 2
    return false

end Mend.Process

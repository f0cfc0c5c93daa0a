import Mend.Environment
import Mend.Process.Command
import Mend.Process.Script
import Mend.Process.Utility.Basic

/-!
# The state of a shell

* `Channel` : what an open descriptor reads from and writes to;
* `Shell` : the state;
* `Halt` : what ends a run before its end;
* `Run` : a step of a shell;
* `write`, `feed` : output and input through a descriptor.
-/

namespace Mend.Process

/-- What an open descriptor reads from and writes to: nothing, what others write and read, or a file,
each with the place that has been reached. -/
inductive Channel where
  | nowhere
  | pipe (content : ByteArray) (position : Nat)
  | file (place : Place) (position : Nat) (append : Bool)

/-- A variable. One without a value may be marked nevertheless. -/
structure Variable where
  value : Option String
  exported : Bool
  fixed : Bool

structure Options where
  stopOnError : Bool
  failOnUnset : Bool
  plainNames : Bool
  trace : Bool
  keepFiles : Bool
  exportAll : Bool
  readOnly : Bool
  echoInput : Bool
deriving DecidableEq

def Options.none : Options := ⟨false, false, false, false, false, false, false, false⟩

/-- The state of a shell. The files, the channels and the number of processes are common to all
processes. A subshell is a process of its own, but gives the number of the shell it belongs to. The
ancestors are the processes that wait for this one. The status of the last command substitution is
apart from that of the last command. -/
structure Shell where
  tree : FileTree
  channels : Array Channel
  processes : Nat
  process : Nat
  owner : Nat
  ancestors : List Nat
  descriptors : List (Nat × Nat)
  bindings : List (String × Variable)
  functions : List (String × Script)
  name : String
  arguments : List String
  options : Options
  status : Nat
  substituted : Nat
  line : Nat
  command : Option String
  calls : Nat
  loops : Nat
  frames : List (List (String × Option Variable))
  traps : List (Nat × String)
  pending : List (Nat × Nat)
  jobs : List (Nat × Nat)
  optionPlace : Nat

/-- The number of function calls that may be under way at once. -/
def maxCalls : Nat := 1000

/-- What ends a run early: the end of the process, an error that has been reported, the end of a
function, a signal that kills the process, the end of loops, or the next round of one. -/
inductive Halt where
  | exit
  | fault
  | back
  | killed (signal : Nat)
  | leave (levels : Nat)
  | again (levels : Nat)

abbrev Run := ExceptT Halt (StateM Shell)

def attempt {α : Type} (step : Run α) : Run (Except Halt α) := ExceptT.lift step.run

namespace Shell

def get? (s : Shell) (name : String) : Option Variable := s.bindings.lookup name

def value? (s : Shell) (name : String) : Option String := (s.get? name).bind (·.value)

def put (s : Shell) (name : String) (v : Variable) : Shell :=
  let rec replace : List (String × Variable) → List (String × Variable)
    | [] => [(name, v)]
    | b :: bs => if b.1 = name then (name, v) :: bs else b :: replace bs
  { s with bindings := replace s.bindings }

def forget (s : Shell) (name : String) : Shell :=
  { s with bindings := s.bindings.filter fun b => b.1 ≠ name }

def assign (s : Shell) (name value : String) : Shell :=
  match s.get? name with
  | some v => s.put name { v with value := some value, exported := v.exported || s.options.exportAll }
  | none => s.put name ⟨some value, s.options.exportAll, false⟩

def restore (s : Shell) (name : String) : Option Variable → Shell
  | some v => s.put name v
  | none => s.forget name

def environment (s : Shell) : List (String × String) :=
  s.bindings.filterMap fun (name, v) =>
    match v.value with
    | some value => if v.exported then some (name, value) else none
    | none => none

def separators (s : Shell) : List Char :=
  match s.value? "IFS" with
  | some text => text.toList
  | none => [' ', '\t', '\n']

def channel? (s : Shell) (descriptor : Nat) : Option (Nat × Channel) := do
  let i ← s.descriptors.lookup descriptor
  let c ← s.channels[i]?
  return (i, c)

def overwrite (content text : ByteArray) (position : Nat) : ByteArray :=
  if position = content.size then content ++ text
  else
    let front := content.extract 0 position
    let gap : ByteArray := ⟨Array.replicate (position - front.size) 0⟩
    front ++ gap ++ text ++ content.extract (position + text.size) content.size

def emit (s : Shell) (i : Nat) (text : ByteArray) : Shell :=
  match s.channels[i]? with
  | some (.pipe ..) =>
    { s with channels := s.channels.modify i fun c =>
        match c with
        | .pipe content position => .pipe (content ++ text) position
        | c => c }
  | some (.file place position append) =>
    match s.tree.get? place with
    | some (.file content executable) =>
      let start := if append then content.size else position
      { s with
        tree := s.tree.putFile place (overwrite content text start) executable
        channels := s.channels.modify i fun _ => .file place (start + text.size) append }
    | _ => s
  | _ => s

def addChannel (s : Shell) (c : Channel) : Shell × Nat :=
  ({ s with channels := s.channels.push c }, s.channels.size)

def connect (s : Shell) (descriptor : Nat) (channel : Option Nat) : Shell :=
  let others := s.descriptors.filter fun d => d.1 ≠ descriptor
  { s with descriptors := match channel with
      | some i => (descriptor, i) :: others
      | none => others }

end Shell

/-! ## Output -/

/-- Writes to a descriptor; the result says whether it is open. -/
def write (descriptor : Nat) (text : String) : Run Bool := do
  match (← get).descriptors.lookup descriptor with
  | some i =>
    if !text.isEmpty then modify fun s => s.emit i (bytesOf text)
    return true
  | none => return text.isEmpty

/-- What a shell puts in front of its own complaints: its name, the line it is at, and the command of
its own that it runs. -/
def Shell.heading (s : Shell) : String :=
  s.name ++ ": " ++ Text.Decimal.ofNat s.line ++ ": " ++
    match s.command with
    | some name => name ++ ": "
    | none => ""

def complain (text : String) : Run Unit := do
  let _ ← write 2 ((← get).heading ++ text ++ "\n")

def setStatus (n : Nat) : Run Unit := modify fun s => { s with status := n }

/-- Reports an error that ends the command, and the shell as well unless the command may fail. -/
def raise {α : Type} (text : String) : Run α := do
  complain text
  setStatus 2
  throw .fault

/-! ## Input -/

def Shell.feed (s : Shell) (descriptor : Nat) : Feed :=
  match s.channel? descriptor with
  | some (_, .pipe content position) => ⟨content, position, false⟩
  | some (_, .file place position _) =>
    match s.tree.get? place with
    | some (.file content _) => ⟨content, position, true⟩
    | _ => .empty
  | _ => .empty

def Shell.advance (s : Shell) (descriptor : Nat) (offset : Nat) : Shell :=
  match s.channel? descriptor with
  | some (i, .pipe content _) => { s with channels := s.channels.set! i (.pipe content offset) }
  | some (i, .file place _ append) => { s with channels := s.channels.set! i (.file place offset append) }
  | _ => s

def Shell.sink? (s : Shell) (descriptor : Nat) : Option Place :=
  match s.channel? descriptor with
  | some (_, .file place _ _) => some place
  | _ => none

/-! ## Variables -/

/-- Sets a variable, which must not be fixed. -/
def assign (name value : String) : Run Unit := do
  match (← get).get? name with
  | some ⟨_, _, true⟩ => raise (name ++ ": is read only")
  | _ => modify fun s => s.assign name value

def keepForFrame (name : String) : Run Unit := modify fun s =>
  match s.frames with
  | [] => s
  | frame :: frames =>
    if frame.any (·.1 = name) then s else { s with frames := ((name, s.get? name) :: frame) :: frames }

/-- Runs a step in a frame: variables that are kept for its end are then as they were. -/
def framed {α : Type} (step : Run α) : Run α := do
  modify fun s => { s with frames := [] :: s.frames }
  let result ← attempt step
  modify fun s =>
    match s.frames with
    | [] => s
    | frame :: frames =>
      frame.foldl (fun s (name, v) => s.restore name v) { s with frames }
  match result with
  | .ok a => return a
  | .error h => throw h

def dropLineFeeds (text : List Char) : List Char :=
  (text.reverse.dropWhile (· = '\n')).reverse

end Mend.Process

import Mend.Files.Tree
import Mend.Process.Octets
import Mend.Text.Decimal

/-!
# Small programs

A small program is a function from its arguments, its input and the files to what it writes and the
files it leaves. All texts are texts of bytes.

* `Utility` : such a function, with `Setting` and `Leavings` on its two sides;
* `Setting.read` : the content of a file, or the input;
* `splitLines`, `joinLines` : texts and their lines;
* `Usage`, `Invocation` : the options a program knows, and those it is given.
-/

namespace Mend.Process

/-- The input of a program: all there is of it, how much has been read before, and whether what a
program has read too much can be put back. -/
structure Feed where
  content : ByteArray
  offset : Nat
  seekable : Bool

def Feed.empty : Feed := ⟨.empty, 0, false⟩

def Feed.text (f : Feed) : String := octets (f.content.extract f.offset f.content.size)

/-- How much has been read once all has been read. -/
def Feed.finish (f : Feed) : Nat := max f.offset f.content.size

/-- How much has been read by a program that needs some of the characters that are left. What cannot be
put back is lost. -/
def Feed.after (f : Feed) (count : Nat) : Nat :=
  if f.seekable then f.offset + count else f.finish

/-- What a program finds when it starts: the files, its input, the file that its output goes to, if it
goes to one, and its environment. -/
structure Setting where
  tree : FileTree
  feed : Feed
  sink : Option Place
  environment : List (String × String)

/-- Something a program writes: output, or a complaint. -/
structure Write where
  isComplaint : Bool
  text : String

/-- What a program leaves when it ends: a status, what it has written in order, the files, and how much
of its input has been read. -/
structure Leavings where
  status : Nat
  writes : List Write
  tree : FileTree
  offset : Nat

/-- A program that runs to its end without starting others. -/
abbrev Utility := List String → Setting → Leavings

def Write.out (text : String) : Write := ⟨false, text⟩

def Write.err (text : String) : Write := ⟨true, text⟩

namespace Leavings

/-- Ends with a status and some writes, having left files and input alone. -/
def ofWrites (s : Setting) (status : Nat) (writes : List Write) : Leavings :=
  ⟨status, writes, s.tree, s.feed.offset⟩

def ofStatus (s : Setting) (status : Nat) : Leavings := ofWrites s status []

def printing (s : Setting) (output : String) : Leavings := ofWrites s 0 [.out output]

def failing (s : Setting) (status : Nat) (complaint : String) : Leavings :=
  ofWrites s status [.err (complaint ++ "\n")]

end Leavings

namespace Setting

/-- Whether a name leads to the file that the output goes to. -/
def isSink (s : Setting) (name : String) : Bool :=
  match s.sink, s.tree.resolve (pathOf name) with
  | some place, .ok found => decide (place = found)
  | _, _ => false

def isInput (name : String) : Bool := name = "-" || name = "/dev/stdin"

/-- The content of a file; `-` stands for the input. -/
def read (s : Setting) (name : String) : Except FileError String :=
  if isInput name then .ok s.feed.text else (s.tree.read (pathOf name)).map octets

/-- How much of the input has been read by a program that reads the named files to their ends. -/
def offsetAfter (s : Setting) (names : List String) : Nat :=
  if names.isEmpty || names.any isInput then s.feed.finish else s.feed.offset

end Setting

def namesIn (tree : FileTree) (place : Place) : List String :=
  (tree.entries.filterMap fun (p, _) =>
    if p.dropLast = place && !p.isEmpty then p.getLast?.map encode else none).mergeSort fun a b => a ≤ b

/-! ## Lines -/

/-- The lines of a text, without their line feeds, and whether the last one has one. -/
def splitLines (text : List Char) : List (List Char) × Bool :=
  let pieces := text.splitOn '\n'
  match pieces.reverse with
  | [] :: earlier => (earlier.reverse, true)
  | _ => (pieces, false)

/-- Lines with line feeds behind them, the last one only if `complete` is set. -/
def joinLines (lines : List (List Char)) (complete : Bool) : List Char :=
  ['\n'].intercalate lines ++ if complete && !lines.isEmpty then ['\n'] else []

def complaint (tool name : String) (e : FileError) : Write :=
  .err (tool ++ ": " ++ name ++ ": " ++ e.reason ++ "\n")

/-! ## Arguments -/

/-- The options that a program knows: those of one letter, those of one letter that have a value, and
the long names of some. -/
structure Usage where
  tool : String
  flags : List Char
  valued : List Char
  long : List (String × Char)

/-- The options and operands that a program is given, each option with its value. -/
structure Invocation where
  options : List (Char × String)
  operands : List String

def Invocation.has (i : Invocation) (c : Char) : Bool := i.options.any (·.1 == c)

def Invocation.value? (i : Invocation) (c : Char) : Option String :=
  (i.options.reverse.find? (·.1 == c)).map (·.2)

def Invocation.values (i : Invocation) (c : Char) : List String :=
  i.options.filterMap fun (d, v) => if d == c then some v else none

/-- Why arguments make no sense to a program. -/
inductive UsageFault where
  | unknown (c : Char)
  | unknownLong (text : String)
  | missing (c : Char)

def UsageFault.message (tool : String) : UsageFault → String
  | .unknown c => tool ++ ": invalid option -- '" ++ String.singleton c ++ "'"
  | .unknownLong text => tool ++ ": unrecognized option '" ++ text ++ "'"
  | .missing c => tool ++ ": option requires an argument -- '" ++ String.singleton c ++ "'"

namespace Usage

/-- The options in one argument, from behind its hyphen; the last may need the next argument. -/
def letters (u : Usage) : List Char → Except UsageFault (List (Char × String) × Option Char)
  | [] => .ok ([], none)
  | c :: cs =>
    if u.valued.contains c then
      if cs.isEmpty then .ok ([], some c) else .ok ([(c, String.ofList cs)], none)
    else if u.flags.contains c then do
      let (more, last) ← u.letters cs
      return ((c, "") :: more, last)
    else .error (.unknown c)

/-- The arguments of a program, sorted out. Options may stand behind operands. -/
def sort (u : Usage) : List String → Except UsageFault Invocation
  | [] => .ok ⟨[], []⟩
  | a :: rest =>
    match a.toList with
    | ['-', '-'] => .ok ⟨[], rest⟩
    | '-' :: '-' :: long =>
      let name := String.ofList (long.takeWhile (· ≠ '='))
      let value := String.ofList (long.drop (name.length + 1))
      match u.long.lookup name with
      | some c => do
        let i ← u.sort rest
        return { i with options := (c, value) :: i.options }
      | none => .error (.unknownLong a)
    | '-' :: c :: cs =>
      match u.letters (c :: cs) with
      | .error e => .error e
      | .ok (os, none) => do
        let i ← u.sort rest
        return { i with options := os ++ i.options }
      | .ok (os, some last) =>
        match rest with
        | [] => .error (.missing last)
        | value :: rest => do
          let i ← u.sort rest
          return { i with options := os ++ (last, value) :: i.options }
    | _ => do
      let i ← u.sort rest
      return { i with operands := a :: i.operands }

end Usage

end Mend.Process

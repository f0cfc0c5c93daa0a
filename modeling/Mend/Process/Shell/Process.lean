import Mend.Process.Script.Reader
import Mend.Process.Shell.Builtin

/-!
# Processes

A process runs to its end before the one that has started it goes on, so that at any time one process
is at work and the others wait. Files and channels are common to all; the rest of a shell's state is a
process's own.

* `Flags`, `Runner` : how a script is run, by whom;
* `runText` : the commands of a text one after another;
* `settled` : a step that is all that is left of a process;
* `forked` : a step in a process of its own;
* `deliver` : the actions for signals that have come.
-/

namespace Mend.Process

/-- How a script is run: whether its status is tested, so that a failure does not end the shell, and
whether nothing comes behind it, so that a program may take the place of the shell. -/
structure Flags where
  tested : Bool
  final : Bool

def Flags.none : Flags := ⟨false, false⟩

abbrev Runner := Flags → Script → Run Unit

def runLines (run : Runner) (flags : Flags) (toEnd : Bool) : List Script → Run Unit
  | [] => return ()
  | [s] => do
    if !(← get).options.readOnly then run { flags with final := flags.final && toEnd } s
  | s :: ss => do
    if !(← get).options.readOnly then run { flags with final := false } s
    runLines run flags toEnd ss

/-- Runs the commands of a text one after another. A text without any succeeds. -/
def runText (run : Runner) (flags : Flags) (line : Nat) (text : String) : Run Unit := do
  let r := Script.parse line text.toList
  if r.lines.isEmpty then setStatus 0
  runLines run flags r.toEnd r.lines
  match r.fault with
  | none => return ()
  | some fault =>
    modify fun s => { s with line := fault.line }
    raise fault.message

/-! ## Signals -/

/-- What a process does about a signal: an action of the shell, if there is one. -/
def Shell.actionFor (s : Shell) (signal : Nat) : Option String :=
  if signal = 9 || signal = 19 then none else s.traps.lookup signal

/-- Whether a signal that has come kills the process at work. -/
def Shell.fatal? (s : Shell) : Option Nat :=
  (s.pending.find? fun (process, signal) =>
    process = s.process && !Signal.isHarmless signal && (s.actionFor signal).isNone).map (·.2)

def expire : Run Unit := do
  let s ← get
  if s.pending.isEmpty then return ()
  match s.fatal? with
  | some signal => throw (.killed signal)
  | none => return ()

/-- Takes the actions for signals that have come to the process at work. -/
def deliver (run : Runner) : Run Unit := do
  if (← get).pending.isEmpty then return ()
  expire
  let s ← get
  let (mine, others) := s.pending.partition fun p => p.1 = s.process
  set { s with pending := others }
  for (_, signal) in mine do
    match s.actionFor signal with
    | some action =>
      if !action.isEmpty then
        let status := (← get).status
        runText run .none 1 action
        setStatus status
    | none => pure ()

/-! ## Starting and ending -/

/-- A shell whose actions for signals are gone, except that what is ignored stays so. -/
def Shell.withoutActions (s : Shell) : Shell :=
  { s with traps := s.traps.filter fun t => t.2.isEmpty && t.1 ≠ 0 }

def exitCode (status : Nat) : Nat := status % 256

/-- Runs a step as all that is left of a process, and then the action for its end. -/
def settled (run : Runner) (step : Run Unit) : Run ExitStatus := do
  match ← attempt step with
  | .error (.killed signal) => return .killed signal
  | _ =>
    let s ← get
    match s.traps.lookup 0 with
    | none => return .exited (exitCode s.status)
    | some action =>
      set { s with traps := s.traps.filter fun t => t.1 ≠ 0 }
      match ← attempt (runText run .none 1 action) with
      | .ok () | .error .back | .error (.leave _) | .error (.again _) =>
        return .exited (exitCode s.status)
      | .error (.killed signal) => return .killed signal
      | .error .exit | .error .fault => return .exited (exitCode (← get).status)

def Shell.resumed (before after : Shell) : Shell :=
  { before with
    tree := { after.tree with workingDirectory := before.tree.workingDirectory }
    channels := after.channels
    processes := after.processes
    pending := after.pending }

def forked (step : Run ExitStatus) : Run ExitStatus := do
  let before ← get
  let number := before.processes + 1
  set { before with
    processes := number
    process := number
    ancestors := before.process :: before.ancestors
    jobs := [] }
  let result ← attempt step
  let last := (← get).status
  let status := match result with
    | .ok status => status
    | .error (.killed signal) => .killed signal
    | .error _ => .exited (exitCode last)
  modify before.resumed
  expire
  return status

def statusNumber : ExitStatus → Nat
  | .exited code => code
  | .killed signal => 128 + signal

def report (status : ExitStatus) : Run Unit := do
  match status with
  | .exited _ => return ()
  | .killed signal =>
    match Signal.description signal with
    | some text => mutter text
    | none => return ()

def reap (status : ExitStatus) : Run Unit := do
  report status
  setStatus (statusNumber status)

/-- Ends the process at work as a program has ended that took its place. -/
def replacedBy (status : ExitStatus) : Run Unit := do
  modify fun s => { s with traps := [] }
  match status with
  | .exited code =>
    setStatus code
    throw .exit
  | .killed signal => throw (.killed signal)

/-- What a script writes, in a process of its own, without the line feeds at the end. -/
def substitution (run : Runner) (body : Script) : Run String := do
  let (s, i) := (← get).addChannel (.pipe .empty 0)
  set s
  let status ← forked (settled run do
    modify fun s => (s.withoutActions).connect 1 (some i)
    run ⟨false, true⟩ body)
  report status
  let s ← get
  let content := match s.channels[i]? with
    | some (.pipe content _) => content
    | _ => .empty
  set { s with channels := s.channels.set! i .nowhere, substituted := statusNumber status }
  let text := (octets content).toList.filter (· ≠ '\x00')
  return String.ofList (dropLineFeeds text)

end Mend.Process

import Mend.Process.Shell.Process

/-!
# Running scripts

A shell that runs scripts on a file tree. It follows the structure of a script; bodies of functions,
texts and substitutions are run by a runner that has less depth left.

The shell and the programs it starts are what a command line run finds around it, in the place of the system.
They are an outer layer: apart from the forms of commands and signals, no part of the library that deals with
facts or repairs is built on them.

* `runProgram` : a program in the place of a process;
* `execSimple` : a simple command;
* `exec` : a script;
* `Programs.shell` : the programs of the system, among which shells are.
-/

namespace Mend.Process

/-! ## Programs -/

/-- The variables of a shell that has just been started: those of its environment, and some of its
own. -/
def startVariables (tree : FileTree) (environment : List (String × String)) : List (String × Variable) :=
  let plain (name value : String) : String × Variable := (name, ⟨some value, false, false⟩)
  let own := [plain "IFS" " \t\n", plain "OPTIND" "1", plain "PATH" defaultSearchPath, plain "PS1" "# ",
    plain "PS2" "> ", plain "PS4" "+ ", plain "PPID" "1"]
  let given := environment.filter fun (name, _) =>
    isName name.toList && !(["IFS", "OPTIND", "PPID", "PWD"].contains name)
  let here := ("PWD", ⟨some (workingName tree), true, false⟩)
  given.foldl (fun vs (name, value) =>
    (vs.filter fun v => v.1 ≠ name) ++ [(name, ⟨some value, true, false⟩)]) (own ++ [here])

def Shell.started (s : Shell) (name : String) (arguments : List String) (options : Options) : Shell :=
  { s.withoutActions with
    owner := s.process
    bindings := startVariables s.tree s.environment
    functions := []
    name, arguments, options
    status := 0
    substituted := 0
    line := 0
    command := none
    calls := 0
    loops := 0
    frames := []
    jobs := []
    optionPlace := 0 }

/-- Runs a shell in the process at work: a script in an argument, in a file, or in the input. -/
def runShell (run : Runner) (arguments : List String) : Run ExitStatus := do
  let name := arguments.headD "sh"
  let refuse (text : String) : Run ExitStatus := do
    mutter (name ++ ": 0: " ++ text)
    return .exited 2
  match Builtin.settings ['c', 'l'] (arguments.length + 1) ⟨.none, [], arguments.tail, false⟩ with
  | .error e => refuse e
  | .ok x =>
    let start (name : String) (arguments : List String) (step : Run Unit) : Run ExitStatus := do
      modify fun s => s.started name arguments x.options
      settled run step
    if x.extra.contains 'c' then
      match x.rest with
      | [] => refuse "-c requires an argument"
      | text :: rest => start (rest.headD name) rest.tail (runText run ⟨false, true⟩ 1 text)
    else if x.rest.isEmpty || x.extra.contains 's' then
      start name x.rest do
        let s ← get
        let feed := s.feed 0
        set (s.advance 0 feed.finish)
        runText run .none 1 feed.text
    else
      let file := x.rest.headD ""
      match (← get).tree.read (pathOf file) with
      | .ok content => start file x.rest.tail (runText run .none 1 (octets content))
      | .error .isADirectory => return .exited 0
      | .error e => refuse (openFault "open" "No such file" file e)

/-- Runs a program that starts no others. A complaint names the program as it was called. -/
def runUtility (name : String) (u : Utility) (arguments : List String) : Run ExitStatus := do
  let s ← get
  let r := u arguments.tail ⟨s.tree, s.feed 0, s.sink? 1, s.environment⟩
  set ({ s with tree := r.tree }.advance 0 r.offset)
  let called := arguments.headD name
  let renamed (text : String) : String :=
    if called ≠ name && (name ++ ":").isPrefixOf text && name ≠ "grep" then
      called ++ String.ofList (text.toList.drop name.length)
    else text
  let mut complete := true
  for w in r.writes do
    if w.isComplaint then
      let _ ← write 2 (renamed w.text)
    else if !(← write 1 w.text) then complete := false
  if complete then return .exited r.status
  mutter (called ++ ": write error: Bad file descriptor")
  return .exited 1

/-- The arguments of `env`: variables that are set, and the command behind them. -/
def envArguments : List (String × Variable) → List String → List (String × Variable) × List String
  | vs, [] => (vs, [])
  | vs, "-u" :: name :: rest => envArguments (vs.filter fun v => v.1 ≠ name) rest
  | vs, a :: rest =>
    if a = "-i" || a = "-" then envArguments [] rest
    else if a = "--" then (vs, rest)
    else
      let (name, value) := Builtin.declaration a
      match value with
      | some value =>
        envArguments ((vs.filter fun v => v.1 ≠ name) ++ [(name, ⟨some value, true, false⟩)]) rest
      | none => (vs, a :: rest)

def killProgram (arguments : List String) : Run ExitStatus := do
  let (signal, targets) := match arguments.tail with
    | "-s" :: name :: rest => ((Signal.number? name).getD 15, rest)
    | a :: rest =>
      match Builtin.signalOption? a with
      | some n => (n, rest)
      | none => (15, a :: rest)
    | [] => (15, [])
  let mut status := if targets.isEmpty then 1 else 0
  for t in targets do
    let s ← get
    match Text.Decimal.digits? t.toList with
    | some process =>
      if s.ancestors.contains process || s.process = process then
        set { s with pending := s.pending ++ [(process, signal)] }
      else
        mutter ("kill: (" ++ t ++ "): No such process")
        status := 1
    | none =>
      mutter ("kill: failed to parse argument: '" ++ t ++ "'")
      status := 1
  return .exited status

/-- Runs a program in the place of the process at work, to its end. -/
def runProgram (run : Runner) : Nat → Launch → Run ExitStatus
  | 0, _ => return .exited 126
  | depth + 1, launch => do
    match launch.program with
    | "sh" | "dash" | "bash" => runShell run launch.arguments
    | "kill" => killProgram launch.arguments
    | "env" =>
      let s ← get
      let given := s.bindings.filter fun v => v.2.exported
      let (vs, words) := envArguments given launch.arguments.tail
      let s := { s with bindings := vs }
      set s
      match words with
      | [] =>
        let _ ← write 1 (String.join (s.environment.map fun (n, v) => n ++ "=" ++ v ++ "\n"))
        return .exited 0
      | name :: _ =>
        match loadFirst s.tree words .notFound (candidates s.searchPath name) with
        | .ok launch => runProgram run depth launch
        | .error .notExecutable =>
          runShell run ("sh" :: (s.find name).toOption.getD name :: words.tail)
        | .error e =>
          mutter ("env: " ++ quotedName name ++ ": " ++ e.reason)
          return .exited (if e = .notFound then 127 else 126)
    | name =>
      match utility? name with
      | some u => runUtility name u launch.arguments
      | none => return .exited 126

/-- How many programs may take the place of one another. -/
def maxReplacements : Nat := 40

/-- The program that a shell starts for a command, or what it says and the status it gives. -/
def Shell.launch (s : Shell) (fields : List String) : Except (String × Nat) Launch :=
  let name := fields.headD ""
  match s.find name with
  | .error e => .error (name ++ ": " ++ (unstartable e).1, 127)
  | .ok path =>
    match s.load path fields with
    | .ok launch => .ok launch
    | .error e =>
      let (text, status) := unstartable e
      .error (name ++ ": " ++ text, status)

/-- Starts a program and waits for it, or lets it take the place of the shell. -/
def startProgram (run : Runner) (flags : Flags) (fields : List String) : Run Unit := do
  let s ← get
  match s.launch fields with
  | .error (text, status) =>
    complain text
    setStatus status
  | .ok launch =>
    if flags.final && s.traps.isEmpty then replacedBy (← runProgram run maxReplacements launch)
    else reap (← forked (runProgram run maxReplacements launch))

/-! ## Commands -/

def evalCommand (run : Runner) (flags : Flags) : Builtin := fun args => do
  runText run flags 1 (" ".intercalate args)
  return (← get).status

def sourceCommand (run : Runner) : Builtin := fun args => do
  match args with
  | [] => return 0
  | name :: _ =>
    let s ← get
    let found := if name.toList.contains '/' then some name else (s.find name).toOption
    match found with
    | none => raise (name ++ ": not found")
    | some path =>
      match s.tree.read (pathOf path) with
      | .error .isADirectory => return 0
      | .error e => raise (openFault "open" "No such file" path e)
      | .ok content =>
        modify fun s => { s with command := some path }
        match ← attempt (runText run .none 1 (octets content)) with
        | .ok () | .error .back => return (← get).status
        | .error h => throw h

def execCommand (run : Runner) : Builtin := fun args => do
  if args.isEmpty then return 0
  let s ← get
  match s.launch args with
  | .error (text, status) =>
    complain text
    setStatus status
    throw .exit
  | .ok launch =>
    replacedBy (← runProgram run maxReplacements launch)
    return 0

def ownCommand? (run : Runner) (flags : Flags) (name : String) : Option Builtin :=
  match name with
  | "eval" => some (evalCommand run flags)
  | "." => some (sourceCommand run)
  | "exec" => some (execCommand run)
  | _ => builtin? name

/-- Runs a command of the shell itself. A fault ends the shell only if the command is a special one. -/
def runBuiltin (special : Bool) (name : String) (b : Builtin) (args : List String) : Run Unit := do
  let before := (← get).command
  modify fun s => { s with command := some name }
  let result ← attempt (b args)
  modify fun s => { s with command := before }
  match result with
  | .ok status => setStatus status
  | .error .fault => if special then throw .fault
  | .error h => throw h

def callFunction (run : Runner) (flags : Flags) (body : Script) (args : List String) : Run Unit := do
  let s ← get
  if s.calls = maxCalls then
    raise ("Maximum function recursion depth (" ++ Text.Decimal.ofNat maxCalls ++ ") reached")
  set { s with arguments := args, calls := s.calls + 1, loops := 0, optionPlace := 0 }
  let result ← attempt (framed (run ⟨flags.tested, false⟩ body))
  modify fun after =>
    { after with arguments := s.arguments, calls := s.calls, loops := s.loops, optionPlace := s.optionPlace }
  match result with
  | .ok () | .error .back => return ()
  | .error h => throw h

/-- The fields of a command behind words that only ask for functions to be left out, and whether there
are such words. -/
def plainFields : Bool → List String → Bool × List String
  | plain, "command" :: "--" :: name :: rest => plainFields plain ("command" :: name :: rest)
  | plain, "command" :: "-p" :: name :: rest => plainFields plain ("command" :: name :: rest)
  | plain, "command" :: name :: rest =>
    if name.toList.head? = some '-' then (plain, "command" :: name :: rest)
    else plainFields true (name :: rest)
  | plain, fields => (plain, fields)
termination_by _ fields => fields.length

def declares : List String := ["export", "readonly", "local", "alias"]

/-- The fields of the first words that stand for any, and the words behind them. -/
def expandFirst (substitute : Script → Run String) : List Word → Run (List String × List Word)
  | [] => return ([], [])
  | w :: ws => do
    let found ← expandWord substitute w
    if found.isEmpty then expandFirst substitute ws else return (found, ws)

def expandCommand (run : Runner) (words : List Word) : Run (List String) := do
  let (first, rest) ← expandFirst (substitution run) words
  match first with
  | [] => return []
  | name :: _ =>
    let s ← get
    let behind := rest.map Word.plain?
    let named := if name = "command" then
        (behind.dropWhile fun w => w = some "command" || w = some "--" || w = some "-p").head?.join
      else if (s.functions.lookup name).isNone then some name
      else none
    let more ← expandFields (substitution run) (named.any declares.contains) rest
    return first ++ more

/-- The text of an assignment, with the name and the value apart. -/
def expandAssignment (run : Runner) (w : Word) : Run (String × String) := do
  match Word.assignment? w with
  | some (name, value) => return (name, ← expandValue (substitution run) value)
  | none => return ("", "")

def assignAll (run : Runner) (exports : Bool) : List Word → Run (List String)
  | [] => return []
  | w :: ws => do
    let (name, value) ← expandAssignment run w
    assign name value
    if exports then modify fun s => s.put name { (s.get? name).getD ⟨none, true, false⟩ with exported := true }
    let rest ← assignAll run exports ws
    return (name ++ "=" ++ value) :: rest

/-- Assigns for the frame that is under way, as part of the environment. -/
def assignForFrame (run : Runner) : List Word → Run (List String)
  | [] => return []
  | w :: ws => do
    let (name, value) ← expandAssignment run w
    keepForFrame name
    assign name value
    modify fun s => s.put name { (s.get? name).getD ⟨none, true, false⟩ with exported := true }
    let rest ← assignForFrame run ws
    return (name ++ "=" ++ value) :: rest

/-- Shows a command before it is run, if that is asked for, on the channel that complaints went to. -/
def showCommand (complaints : Option Nat) (texts : List String) : Run Unit := do
  let s ← get
  if s.options.trace then
    match complaints with
    | some i =>
      set (s.emit i (bytesOf ((s.value? "PS4").getD "" ++ " ".intercalate texts ++ "\n")))
    | none => return ()

/-- Runs a simple command: its words are expanded, its redirections are made, its assignments are done,
and then it is run. -/
def execSimple (run : Runner) (flags : Flags) (line : Nat) (assignments words : List Word)
    (redirects : List Redirect) : Run Unit := do
  modify fun s => { s with line, substituted := 0 }
  let all ← expandCommand run words
  let (plain, fields) := plainFields false all
  let name := fields.headD ""
  let args := fields.tail
  let functions := (← get).functions
  let function? := if plain then none else functions.lookup name
  let own := if function?.isSome || fields.isEmpty then none else ownCommand? run flags name
  let special := !plain && own.isSome && specialCommands.contains name
  let targets ← expandTargets (substitution run) redirects
  let before := (← get).descriptors
  let shown (texts : List String) : Run Unit := showCommand (before.lookup 2) (texts ++ all)
  if ← redirectAll targets then
    let keeps := name = "exec" && own.isSome
    let step : Run Unit :=
      if fields.isEmpty then do
        shown (← assignAll run false assignments)
        setStatus (← get).substituted
      else
        match function?, own with
        | some body, _ => framed do
          shown (← assignForFrame run assignments)
          callFunction run flags body args
        | none, some b =>
          if special then do
            shown (← assignAll run (keeps && !args.isEmpty) assignments)
            runBuiltin true name b args
          else if assignments.isEmpty then do
            shown []
            runBuiltin (name = "local") name b args
          else framed do
            shown (← assignForFrame run assignments)
            runBuiltin (name = "local") name b args
        | none, none => framed do
          shown (← assignForFrame run assignments)
          startProgram run flags fields
    let result ← attempt step
    if !(keeps && result.isOk) then restoreDescriptors before targets
    match result with
    | .ok () => return ()
    | .error h => throw h
  else
    restoreDescriptors before targets
    setStatus 2
    if special then throw .fault

/-! ## Scripts -/

/-- Ends the process if a command has failed that is not tested, and takes the actions for signals. -/
def checked (run : Runner) (flags : Flags) (step : Run Unit) : Run Unit := do
  step
  let s ← get
  if s.status ≠ 0 && s.options.stopOnError && !flags.tested then throw .exit
  deliver run

/-- Runs a part of a round of a loop; the result says whether the loop goes on, and if so, whether the
round does. -/
def roundPart (step : Run Unit) : Run (Bool × Bool) := do
  match ← attempt step with
  | .ok () => return (true, true)
  | .error (.leave n) => if n ≤ 1 then return (false, false) else throw (.leave (n - 1))
  | .error (.again n) => if n ≤ 1 then return (true, false) else throw (.again (n - 1))
  | .error h => throw h

/-- How a round of a loop ends: the loop goes on, or is over; either way with a status. -/
inductive Round where
  | next (status : Nat)
  | over (status : Nat)

def rounds (round : Nat → Run Round) : Nat → Nat → Run Nat
  | 0, status => return status
  | fuel + 1, status => do
    match ← round status with
    | .next status => rounds round fuel status
    | .over status => return status

def maxRounds : Nat := 100000000

def roundsFor (name : String) (body : Run Unit) : List String → Nat → Run Nat
  | [], status => return status
  | field :: fields, _ => do
    assign name field
    let (goesOn, _) ← roundPart body
    let status := (← get).status
    if goesOn then roundsFor name body fields status else return status

/-- Runs a loop, whose depth is known to the commands inside. -/
def looped (step : Run Nat) : Run Unit := do
  let before := (← get).loops
  modify fun s => { s with loops := before + 1 }
  let result ← attempt step
  modify fun s => { s with loops := before }
  match result with
  | .ok status => setStatus status
  | .error h => throw h

def anyAccepts (run : Runner) (subject : List Char) : List Word → Run Bool
  | [] => return false
  | w :: ws => do
    let pattern ← expandPattern (substitution run) w
    if Pattern.accepts pattern subject then return true else anyAccepts run subject ws

def underRedirects (run : Runner) (redirects : List Redirect) (step : Run Unit) : Run Unit := do
  let targets ← expandTargets (substitution run) redirects
  if ← redirectAll targets then step
  else
    setStatus 2
    throw .exit

mutual

def exec (run : Runner) (flags : Flags) : Script → Run Unit
  | .nothing => return ()
  | .simple line assignments words redirects => do
    if (← get).options.readOnly then return ()
    checked run flags (execSimple run flags line assignments words redirects)
  | .pipe left right => checked run flags do
    let (s, i) := (← get).addChannel (.pipe .empty 0)
    set s
    report (← forked (settled run do
      modify fun s => s.withoutActions.connect 1 (some i)
      exec run { flags with final := true } left))
    let before := (← get).descriptors.lookup 0
    modify fun s => s.connect 0 (some i)
    let status ← forked (settled run do
      modify Shell.withoutActions
      exec run { flags with final := true } right)
    modify fun s => s.connect 0 before
    modify fun s => { s with channels := s.channels.set! i .nowhere }
    reap status
  | .negate s => do
    exec run ⟨true, false⟩ s
    modify fun s => { s with status := if s.status = 0 then 1 else 0 }
  | .both a b => do
    exec run ⟨true, false⟩ a
    if (← get).status = 0 then exec run flags b
  | .either a b => do
    exec run ⟨true, false⟩ a
    if (← get).status ≠ 0 then exec run flags b
  | .seq a b => do
    exec run { flags with final := false } a
    exec run flags b
  | .background s => checked run flags do
    let (started, i) := (← get).addChannel .nowhere
    set started
    let status ← forked (settled run do
      modify fun s => s.withoutActions.connect 0 (some i)
      exec run ⟨false, true⟩ s)
    modify fun s => { s with jobs := (s.processes, statusNumber status) :: s.jobs, status := 0 }
  | .branch condition yes no => do
    exec run ⟨true, false⟩ condition
    if (← get).status = 0 then exec run flags yes
    else if no.isNothing then setStatus 0
    else exec run flags no
  | .loop negated condition body => do
    let round (status : Nat) : Run Round := do
      let (goesOn, isRound) ← roundPart (exec run ⟨true, false⟩ condition)
      if !goesOn then return .over status
      else if !isRound then return .next status
      else if ((← get).status = 0) = negated then return .over status
      else
        let (goesOn, _) ← roundPart (exec run { flags with final := false } body)
        let status := (← get).status
        return if goesOn then .next status else .over status
    looped (rounds round maxRounds 0)
  | .each line name words body => do
    modify fun s => { s with line }
    let fields ← expandFields (substitution run) false words
    looped (roundsFor name (exec run { flags with final := false } body) fields 0)
  | .select line subject clauses => do
    modify fun s => { s with line }
    let text ← expandText (substitution run) subject
    execClauses run flags text.toList clauses
  | .subshell line body redirects => checked run flags do
    let s ← get
    set { s with line }
    let step : Run Unit := do
      modify Shell.withoutActions
      underRedirects run redirects (exec run { flags with final := true } body)
    if flags.final && s.traps.isEmpty then
      replacedBy (← settled run step)
    else reap (← forked (settled run step))
  | .grouped line body redirects => do
    modify fun s => { s with line }
    let targets ← expandTargets (substitution run) redirects
    if !(← redirected targets (exec run { flags with final := false } body)) then
      if (← get).options.stopOnError && !flags.tested then throw .exit
  | .define line name body => modify fun s =>
    { s with line, functions := (name, body) :: (s.functions.filter fun f => f.1 ≠ name), status := 0 }

def execClauses (run : Runner) (flags : Flags) (subject : List Char) : Clauses → Run Unit
  | .none => setStatus 0
  | .clause patterns body rest => do
    if ← anyAccepts run subject patterns then
      if body.isNothing then setStatus 0 else exec run flags body
    else execClauses run flags subject rest

end

/-- Runs a script with some depth left for bodies of functions, texts and substitutions. -/
def runAt : Nat → Runner
  | 0, _, _ => throw .exit
  | depth + 1, flags, s => exec (runAt depth) flags s

def maxDepth : Nat := 5000

/-! ## Starting from outside -/

/-- A process before its program starts: an empty input, and two channels to write to. -/
def firstProcess (environment : List (String × String)) (tree : FileTree) : Shell where
  tree
  channels := #[.nowhere, .pipe .empty 0, .pipe .empty 0]
  processes := 1000
  process := 1000
  owner := 1000
  ancestors := []
  descriptors := [(0, 0), (1, 1), (2, 2)]
  bindings := environment.map fun (name, value) => (name, ⟨some value, true, false⟩)
  functions := []
  name := ""
  arguments := []
  options := .none
  status := 0
  substituted := 0
  line := 0
  command := none
  calls := 0
  loops := 0
  frames := []
  traps := []
  pending := []
  jobs := []
  optionPlace := 0

def launchOutside (environment : List (String × String)) (launch : Launch) (tree : FileTree) :
    Outcome × FileTree :=
  let (result, after) := (runProgram (runAt maxDepth) maxReplacements launch).run
    (firstProcess environment tree)
  let status := match after.fatal?, result with
    | some signal, _ => .killed signal
    | none, .ok status => status
    | none, .error (.killed signal) => .killed signal
    | none, .error _ => .exited (exitCode after.status)
  let written (i : Nat) : ByteArray := match after.channels[i]? with
    | some (.pipe content _) => content
    | _ => .empty
  (⟨status, written 1, written 2⟩, { after.tree with workingDirectory := tree.workingDirectory })

/-- The program that a command starts, or why there is none. -/
def startable (searchPath : String) (tree : FileTree) (c : Command) : Except FileError Launch :=
  let words := (c.program :: c.arguments).map encode
  let name := encode c.program
  if c.hasNul then .error .nulInCommand
  else if name.isEmpty then .error .notFound
  else if name.toList.contains '/' then load tree maxInterpreters name words
  else if 255 < name.length then .error .nameTooLong
  else loadFirst tree words .notFound (candidates searchPath name)

end Mend.Process

namespace Mend

/-- The programs of the system in an environment, as far as they are in their places. -/
def Programs.shell (env : Environment) : Programs where
  run _ c tree :=
    let environment := env.distinct.map fun (name, value) => (Process.encode name, Process.encode value)
    let searchPath := (environment.lookup "PATH").getD Process.defaultSearchPath
    match Process.startable searchPath tree c with
    | .error e => (.error e, tree)
    | .ok launch =>
      let (outcome, tree) := Process.launchOutside environment launch tree
      (.ok outcome, tree)

end Mend

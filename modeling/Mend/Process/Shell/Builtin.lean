import Mend.Process.Shell.Program
import Mend.Process.Shell.Redirection
import Mend.Process.Utility.Condition

/-!
# Commands that a shell runs itself

Each takes its arguments and comes to a status. What it reports as a fault has been complained about.

* `say` : output of such a command;
* `Builtin.options` : the options in front of its operands;
* `builtin?` : the command with a given name.
-/

namespace Mend.Process

abbrev Builtin := List String → Run Nat

/-- Writes the output of a command, and gives its status. -/
def say (text : String) : Run Nat := do
  if ← write 1 text then return 0
  complain (((← get).command.getD "") ++ ": I/O error")
  return 1

def mutter (text : String) : Run Unit := do
  let _ ← write 2 (text ++ "\n")

def numeral (text : String) : Run Nat := do
  let isBlank (c : Char) : Bool := c = ' ' || (9 ≤ c.toNat && c.toNat ≤ 13)
  let trimmed := ((text.toList.dropWhile isBlank).reverse.dropWhile isBlank).reverse
  match Text.Decimal.integer? trimmed with
  | some n => if 0 ≤ n ∧ n ≤ 2147483647 then return n.toNat else raise ("Illegal number: " ++ text)
  | none => raise ("Illegal number: " ++ text)

/-- A text between single quotes, in which quotes of that kind stand between double ones. -/
def singleQuoted : Nat → List Char → List Char
  | 0, _ => []
  | fuel + 1, cs =>
    let plain := cs.takeWhile (· ≠ '\x27')
    let quotes := (cs.drop plain.length).takeWhile (· = '\x27')
    let rest := cs.drop (plain.length + quotes.length)
    '\x27' :: plain ++ '\x27' ::
      (if quotes.isEmpty then [] else '"' :: quotes ++ '"' :: if rest.isEmpty then [] else singleQuoted fuel rest)

def requoted (text : String) : String :=
  String.ofList (singleQuoted (text.length + 1) text.toList)

namespace Builtin

/-- The options in front of operands, each with its value, and the operands. -/
def options (flags valued : List Char) : List String → Run (List (Char × String) × List String)
  | [] => return ([], [])
  | a :: rest =>
    match a.toList with
    | '-' :: c :: cs =>
      if c = '-' && cs.isEmpty then return ([], rest)
      else
        let rec letters : List Char → Run (List (Char × String) × Option Char)
          | [] => return ([], none)
          | c :: cs => do
            if valued.contains c then
              if cs.isEmpty then return ([], some c) else return ([(c, String.ofList cs)], none)
            else if flags.contains c then
              let (found, last) ← letters cs
              return ((c, "") :: found, last)
            else raise ("Illegal option -" ++ String.singleton c)
        do
          let (found, last) ← letters (c :: cs)
          match last, rest with
          | none, rest =>
            let (more, operands) ← options flags valued rest
            return (found ++ more, operands)
          | some c, value :: rest =>
            let (more, operands) ← options flags valued rest
            return (found ++ (c, value) :: more, operands)
          | some c, [] => raise ("No arg for -" ++ String.singleton c ++ " option")
    | _ => return ([], a :: rest)

/-! ## Leaving -/

/-- Ends the process, with a given status or that of the last command. -/
def exit : Builtin := fun args => do
  match args with
  | [] => throw .exit
  | a :: _ =>
    setStatus (← numeral a)
    throw .exit

def back : Builtin := fun args => do
  match args with
  | [] => throw .back
  | a :: _ =>
    setStatus (← numeral a)
    throw .back

/-- Ends loops, or goes on with the next round of one. -/
def leave (again : Bool) : Builtin := fun args => do
  let n ← match args with
    | [] => pure 1
    | a :: _ => do
      let n ← numeral a
      if n = 0 then raise ("Illegal number: " ++ a)
      pure n
  let depth := min n (← get).loops
  if depth = 0 then return 0
  setStatus 0
  throw (if again then .again depth else .leave depth)

/-! ## Signals -/

def signalOption? (a : String) : Option Nat :=
  match a.toList with
  | '-' :: cs => Signal.number? (String.ofList cs)
  | _ => none

def signal (n : Nat) (target : String) : Run Bool := do
  match target.toList with
  | '%' :: _ => raise ("No such job: " ++ target)
  | '-' :: rest =>
    let _ ← numeral (String.ofList rest)
    complain "No such process\n"
    return false
  | _ =>
    let process ← numeral target
    let s ← get
    if s.jobs.any (·.1 = process) then
      let ended (j : Nat × Nat) : Nat × Nat :=
        if j.1 = process && !Signal.isHarmless n then (process, 128 + n) else j
      set { s with jobs := s.jobs.map ended }
      return true
    else if process = s.process || s.ancestors.contains process then
      set { s with pending := s.pending ++ [(process, n)] }
      return true
    else
      complain "No such process\n"
      return false

def listSignals (operands : List String) : Run Nat := do
  match operands with
  | [] =>
    let names := (List.range Signal.maxNumber).map fun n =>
      if n = 0 then "0"
      else ((Signal.name? n).getD (Text.Decimal.ofNat n))
    say (String.join (names.map (· ++ "\n")))
  | a :: _ =>
    let n ← numeral a
    let number := if 128 < n then n - 128 else n
    match Signal.name? number with
    | some name => say (name ++ "\n")
    | none =>
      if 32 ≤ number && number ≤ Signal.maxNumber then say (Text.Decimal.ofNat number ++ "\n")
      else raise ("invalid signal number or exit status: " ++ a)

/-- What is said of arguments that make no sense to `kill`. -/
def killUsage : String :=
  "Usage: kill [-s sigspec | -signum | -sigspec] [pid | job]... or\nkill -l [exitstatus]"

def kill : Builtin := fun args => do
  let chosen := args.head?.bind signalOption?
  let (signal?, targets) ← match chosen with
    | some n => pure (some n, args.tail)
    | none => do
      let (given, operands) ← options ['l'] ['s'] args
      if given.any (·.1 = 'l') then
        let status ← listSignals operands
        setStatus status
        return status
      match given.lookup 's' with
      | some name =>
        match Signal.number? name with
        | some n => pure (some n, operands)
        | none => raise ("invalid signal number or name: " ++ name)
      | none => pure (none, operands)
  if targets.isEmpty then raise killUsage
  let mut status := 0
  for t in targets do
    if !(← signal (signal?.getD 15) t) then status := 1
  return status

/-- The number of a signal or of the end of the process, which have actions. -/
def trapNumber? (text : String) : Option Nat :=
  if String.ofList (text.toList.map Char.toUpper) = "EXIT" then some 0 else Signal.number? text

/-- Sets actions for signals and for the end of the process, or lists them. -/
def trap : Builtin := fun args => do
  let (_, operands) ← options [] [] args
  match operands with
  | [] =>
    let s ← get
    let name (n : Nat) : String := if n = 0 then "EXIT" else (Signal.name? n).getD (Text.Decimal.ofNat n)
    let ordered := s.traps.mergeSort fun a b => a.1 ≤ b.1
    say (String.join (ordered.map fun (n, action) => "trap -- " ++ requoted action ++ " " ++ name n ++ "\n"))
  | first :: rest =>
    let (action, signals) : Option String × List String :=
      if rest.isEmpty || (Text.Decimal.digits? first.toList).any (· ≤ Signal.maxNumber) then (none, operands)
      else (if first = "-" then none else some first, rest)
    let rec each : List String → Run Nat
      | [] => return 0
      | name :: names => do
        match trapNumber? name with
        | none =>
          mutter ("trap: " ++ name ++ ": bad trap")
          return 1
        | some n =>
          modify fun s =>
            { s with traps := (s.traps.filter fun t => t.1 ≠ n) ++ (action.toList.map fun a => (n, a)) }
          each names
    each signals

def wait : Builtin := fun args => do
  match args with
  | [] =>
    return 0
  | _ =>
    let mut status := 0
    for a in args do
      if a.toList.head? = some '%' then raise ("No such job: " ++ a)
      let n ← numeral a
      status := ((← get).jobs.lookup n).getD 127
    return status

/-! ## Directories -/

def moveTo (place : Place) : Run Unit := do
  let s ← get
  let tree := { s.tree with workingDirectory := place }
  let before := workingName s.tree
  set { s with tree }
  modify fun s => s.put "OLDPWD" ⟨some before, true, false⟩
  modify fun s => s.put "PWD" ⟨some (workingName tree), true, false⟩

def cd : Builtin := fun args => do
  let (_, operands) ← options ['L', 'P'] [] args
  let s ← get
  let target := match operands.head? with
    | some a => a
    | none => (s.value? "HOME").getD ""
  let shown := target = "-"
  let target := if shown then (s.value? "OLDPWD").getD (workingName s.tree) else target
  if target.isEmpty then return 0
  match s.tree.resolve (pathOf target) with
  | .ok place =>
    match s.tree.get? place with
    | some .directory =>
      moveTo place
      if shown then say (workingName (← get).tree ++ "\n") else return 0
    | _ => raise ("can't cd to " ++ target)
  | .error _ => raise ("can't cd to " ++ target)

def pwd : Builtin := fun args => do
  let _ ← options ['L', 'P'] [] args
  say (workingName (← get).tree ++ "\n")

/-! ## Variables -/

def declaration (text : String) : String × Option String :=
  let name := text.toList.takeWhile (· ≠ '=')
  (String.ofList name,
    if name.length < text.length then some (String.ofList (text.toList.drop (name.length + 1))) else none)

def checkName (name : String) : Run Unit := do
  if !isName name.toList then raise (name ++ ": bad variable name")

/-- Variables in the order of their names, each in a line. -/
def listed (front : String) (vs : List (String × Variable)) : String :=
  let ordered := vs.mergeSort fun a b => a.1 ≤ b.1
  String.join (ordered.map fun (name, v) =>
    front ++ name ++ (match v.value with
      | some value => "=" ++ requoted value
      | none => "") ++ "\n")

/-- Marks variables, which may be given values at once. -/
def mark (word : String) (marked : Variable → Bool) (f : Variable → Variable) : Builtin := fun args => do
  let (given, operands) ← options ['p'] [] args
  if operands.isEmpty || !given.isEmpty then
    return ← say (listed (word ++ " ") ((← get).bindings.filter fun b => marked b.2))
  for a in operands do
    let (name, value) := declaration a
    checkName name
    match value with
    | some value => assign name value
    | none => pure ()
    modify fun s => s.put name (f ((s.get? name).getD ⟨none, false, false⟩))
  return 0

def localVariables : Builtin := fun args => do
  if (← get).calls = 0 then raise "not in a function"
  for a in args do
    let (name, value) := declaration a
    if name ≠ "-" then
      checkName name
      keepForFrame name
      match value with
      | some value => assign name value
      | none => pure ()
  return 0

def unset : Builtin := fun args => do
  let (given, operands) ← options ['f', 'v'] [] args
  for name in operands do
    if given.getLast?.any (·.1 = 'f') then
      modify fun s => { s with functions := s.functions.filter fun f => f.1 ≠ name }
    else
      checkName name
      let s ← get
      match s.get? name with
      | some ⟨_, _, true⟩ => raise (name ++ ": is read only")
      | some _ => set (s.forget name)
      | none =>
        if given.isEmpty then set { s with functions := s.functions.filter fun f => f.1 ≠ name }
  return 0

/-- The characters of a line of the input up to its end, which of them are escaped, how many bytes they
take, and whether the line is complete. -/
def inputLine (raw : Bool) : Nat → List Char → List (Char × Bool) × Nat × Bool
  | taken, [] => ([], taken, false)
  | taken, '\\' :: rest =>
    if raw then
      let (line, n, complete) := inputLine raw (taken + 1) rest
      (('\\', false) :: line, n, complete)
    else
      match rest with
      | '\n' :: rest => inputLine raw (taken + 2) rest
      | c :: rest =>
        let (line, n, complete) := inputLine raw (taken + 2) rest
        ((c, true) :: line, n, complete)
      | [] => ([], taken + 1, false)
  | taken, c :: rest =>
    if c = '\n' then ([], taken + 1, true)
    else
      let (line, n, complete) := inputLine raw (taken + 1) rest
      (if c = '\x00' then line else (c, false) :: line, n, complete)

def read : Builtin := fun args => do
  let (given, names) ← options ['r'] ['p'] args
  if names.isEmpty then raise "arg count"
  let s ← get
  let feed := s.feed 0
  let (line, taken, complete) := inputLine (given.any (·.1 = 'r')) 0 feed.text.toList
  set (s.advance 0 (feed.offset + taken))
  let values := lineFields s.separators names.length line
  for (name, i) in names.zipIdx do
    checkName name
    assign name (values.getD i "")
  return if complete then 0 else 1

/-! ## Options and arguments -/

def optionNames : List (Char × String) :=
  [('e', "errexit"), ('f', "noglob"), ('I', "ignoreeof"), ('i', "interactive"), ('m', "monitor"),
   ('n', "noexec"), ('s', "stdin"), ('x', "xtrace"), ('v', "verbose"), ('V', "vi"), ('E', "emacs"),
   ('C', "noclobber"), ('a', "allexport"), ('b', "notify"), ('u', "nounset")]

def setLetter (o : Options) (letter : Char) (value : Bool) : Options :=
  match letter with
  | 'e' => { o with stopOnError := value }
  | 'f' => { o with plainNames := value }
  | 'n' => { o with readOnly := value }
  | 'x' => { o with trace := value }
  | 'v' => { o with echoInput := value }
  | 'C' => { o with keepFiles := value }
  | 'a' => { o with exportAll := value }
  | 'u' => { o with failOnUnset := value }
  | _ => o

def hasLetter (o : Options) (letter : Char) : Bool :=
  (Shell.optionLetters o).toList.contains letter

/-- What arguments make of options: the options, the arguments that are left, and whether something
asks for those to be the new arguments. The letters that are known besides may be collected. -/
structure Settings where
  options : Options
  extra : List Char
  rest : List String
  terminated : Bool

/-- Sets options by the letters of one argument. The next argument may be the name of an option. -/
def letters (extra : List Char) (value : Bool) :
    List Char → Settings → Except String Settings
  | [], x => .ok x
  | c :: cs, x =>
    if extra.contains c then letters extra value cs { x with extra := c :: x.extra }
    else if c = 'o' then
      match x.rest with
      | [] => letters extra value cs x
      | name :: rest =>
        match optionNames.find? fun o => o.2 = name with
        | some (letter, _) =>
          letters extra value cs { x with options := setLetter x.options letter value, rest }
        | none =>
          if name = "nolog" || name = "debug" then letters extra value cs { x with rest }
          else .error ("Illegal option -o " ++ name)
    else if optionNames.any (·.1 = c) then
      letters extra value cs { x with options := setLetter x.options c value, extra := c :: x.extra }
    else .error ("Illegal option -" ++ String.singleton c)

def settings (extra : List Char) : Nat → Settings → Except String Settings
  | 0, x => .ok x
  | fuel + 1, x =>
    match x.rest with
    | [] => .ok x
    | a :: rest =>
      match a.toList with
      | ['-'] => .ok { x with rest, options := { x.options with trace := false, echoInput := false } }
      | ['-', '-'] => .ok { x with rest, terminated := true }
      | '-' :: cs => do settings extra fuel (← letters extra true cs { x with rest })
      | '+' :: cs => do settings extra fuel (← letters extra false cs { x with rest })
      | _ => .ok x

/-- Sets options and arguments, or lists variables. -/
def set : Builtin := fun args => do
  let s ← get
  match args with
  | [] => say (listed "" (s.bindings.filter fun b => b.2.value.isSome))
  | ["-o"] =>
    say ("Current option settings\n" ++ String.join (optionNames.map fun (c, name) =>
      name ++ String.ofList (List.replicate (16 - name.length) ' ') ++
        (if hasLetter s.options c then "on\n" else "off\n")))
  | ["+o"] =>
    say (String.join (optionNames.map fun (c, name) =>
      "set " ++ (if hasLetter s.options c then "-o " else "+o ") ++ name ++ "\n"))
  | _ =>
    match settings [] (args.length + 1) ⟨s.options, [], args, false⟩ with
    | .error e => raise e
    | .ok x =>
      MonadState.set { s with
        options := x.options
        arguments := if x.terminated || !x.rest.isEmpty then x.rest else s.arguments
        optionPlace := 0 }
      return 0

def shift : Builtin := fun args => do
  let n ← match args with
    | [] => pure 1
    | a :: _ => numeral a
  let s ← get
  if s.arguments.length < n then raise "can't shift that many"
  MonadState.set { s with arguments := s.arguments.drop n }
  return 0

/-- The next option among arguments, for scripts that read options. -/
def getopts : Builtin := fun args => do
  match args with
  | known :: name :: given =>
    let s ← get
    let given := if given.isEmpty then s.arguments else given
    let quiet := known.toList.head? = some ':'
    let place := ((s.value? "OPTIND").bind fun v => Text.Decimal.digits? v.toList).getD 1
    let finish (index offset : Nat) (letter : Char) (argument : Option String) (status : Nat) : Run Nat := do
      modify fun s => { s with optionPlace := offset }
      assign "OPTIND" (Text.Decimal.ofNat index)
      modify fun s => { s with optionPlace := offset }
      match argument with
      | some a => assign "OPTARG" a
      | none => modify fun s => s.forget "OPTARG"
      assign name (String.singleton letter)
      return status
    let current := ((given[place - 1]?).getD "").toList
    let offset := if s.optionPlace = 0 then 1 else s.optionPlace
    let isOption := current.head? = some '-' && current.length > 1
    if !isOption then finish place 0 '?' none 1
    else if current = ['-', '-'] then finish (place + 1) 0 '?' none 1
    else
      let letter := current.getD offset '?'
      let rest := current.drop (offset + 1)
      let (index, next) := if rest.isEmpty then (place + 1, 0) else (place, offset + 1)
      let behind := known.toList.drop ((known.toList.findIdx (· = letter)) + 1)
      if letter = ':' || !known.toList.contains letter then
        if quiet then finish index next '?' (some (String.singleton letter)) 0
        else
          mutter ("Illegal option -" ++ String.singleton letter)
          finish index next '?' none 0
      else if behind.head? = some ':' then
        if !rest.isEmpty then finish (place + 1) 0 letter (some (String.ofList rest)) 0
        else
          match given[place]? with
          | some value => finish (place + 2) 0 letter (some value) 0
          | none =>
            if quiet then finish (place + 1) 0 ':' (some (String.singleton letter)) 0
            else
              mutter ("No arg for -" ++ String.singleton letter ++ " option")
              finish (place + 1) 0 '?' none 0
      else finish index next letter none 0
  | _ => raise "Usage: getopts optstring var [arg...]"

/-! ## Text and conditions -/

def echo : Builtin := fun args => say (Printing.echo args)

def printf : Builtin := fun args => do
  let (_, operands) ← options [] [] args
  match operands with
  | [] => raise "usage: printf format [arg ...]"
  | text :: args =>
    let p := Printing.format .command text args
    for c in p.complaints do complain c
    match p.malformed with
    | some message =>
      complain message
      let _ ← write 1 p.output
      setStatus 2
      throw .fault
    | none =>
      let status ← say p.output
      return if p.complaints.isEmpty then status else 1

/-- Evaluates a condition, which may have to end in a bracket. -/
def condition (bracket : Bool) : Builtin := fun args => do
  if bracket && args.getLast? ≠ some "]" then raise "missing ]"
  match Condition.evaluate (← get).tree (if bracket then args.dropLast else args) with
  | .ok true => return 0
  | .ok false => return 1
  | .error e => raise e

/-! ## What is there -/

/-- The words that have a meaning of their own in front of a command. -/
def reserved : List String :=
  ["!", "case", "do", "done", "elif", "else", "esac", "fi", "for", "if", "in", "then", "until", "while",
   "\x7b", "\x7d"]

def names : List String :=
  specialCommands ++ ["alias", "bg", "cd", "chdir", "command", "echo", "false", "fg", "getopts", "hash",
   "jobs", "kill", "local", "printf", "pwd", "read", "test", "[", "true", "type", "ulimit", "umask",
   "unalias", "wait"]

/-- What a name stands for, in a short form or in a sentence. -/
def describe (short : Bool) (name : String) : Run Nat := do
  let s ← get
  let tell (sentence : String) : Run Nat := say (if short then name ++ "\n" else name ++ sentence ++ "\n")
  if reserved.contains name then tell " is a shell keyword"
  else if (s.functions.lookup name).isSome then tell " is a shell function"
  else if specialCommands.contains name then tell " is a special shell builtin"
  else if names.contains name then tell " is a shell builtin"
  else
    match s.find name with
    | .ok path =>
      if s.tree.contains (pathOf path) then say (if short then path ++ "\n" else name ++ " is " ++ path ++ "\n")
      else if short then return 127
      else
        mutter (name ++ ": not found")
        return 127
    | .error _ =>
      if !short then mutter (name ++ ": not found")
      return 127

def type : Builtin := fun args => do
  let mut status := 0
  for a in args do
    let one ← describe false a
    if one ≠ 0 then status := one
  return status

/-- What a name stands for, as an option asks. -/
def command : Builtin := fun args => do
  let (given, operands) ← options ['p', 'v', 'V'] [] args
  match operands with
  | [] => return 0
  | name :: _ => describe (!given.any (·.1 = 'V')) name

/-- Prints the mask for the modes of new files, or sets it. -/
def umask : Builtin := fun args => do
  let (given, operands) ← options ['S'] [] args
  match operands with
  | [] => say (if given.isEmpty then "0022\n" else "u=rwx,g=rx,o=rx\n")
  | mode :: _ =>
    if (modeEffect mode).isSome then return 0 else raise ("Illegal mode: " ++ mode)

def hash : Builtin := fun args => do
  let (_, operands) ← options ['r', 'v'] [] args
  let mut status := 0
  for name in operands do
    match (← get).find name with
    | .ok _ => pure ()
    | .error _ =>
      complain (name ++ ": not found")
      status := 1
  return status

/-- Complains that a name stands for nothing else. -/
def noAlias (word : String) : Builtin := fun args => do
  match args.find? fun a => !a.toList.contains '=' with
  | some a =>
    mutter (word ++ ": " ++ a ++ " not found")
    return 1
  | none => return 0

end Builtin

/-- The command with a given name, among those that run no others. -/
def builtin? (name : String) : Option Builtin :=
  match name with
  | ":" | "true" | "jobs" => some fun _ => return 0
  | "false" => some fun _ => return 1
  | "exit" => some Builtin.exit
  | "return" => some Builtin.back
  | "break" => some (Builtin.leave false)
  | "continue" => some (Builtin.leave true)
  | "kill" => some Builtin.kill
  | "trap" => some Builtin.trap
  | "wait" => some Builtin.wait
  | "cd" | "chdir" => some Builtin.cd
  | "pwd" => some Builtin.pwd
  | "export" => some (Builtin.mark "export" (·.exported) fun v => { v with exported := true })
  | "readonly" => some (Builtin.mark "readonly" (·.fixed) fun v => { v with fixed := true })
  | "local" => some Builtin.localVariables
  | "unset" => some Builtin.unset
  | "read" => some Builtin.read
  | "set" => some Builtin.set
  | "shift" => some Builtin.shift
  | "getopts" => some Builtin.getopts
  | "echo" => some Builtin.echo
  | "printf" => some Builtin.printf
  | "test" => some (Builtin.condition false)
  | "[" => some (Builtin.condition true)
  | "type" => some Builtin.type
  | "command" => some Builtin.command
  | "umask" => some Builtin.umask
  | "ulimit" => some fun _ => say "unlimited\n"
  | "times" => some fun _ => say "0m0.000000s 0m0.000000s\n0m0.000000s 0m0.000000s\n"
  | "hash" => some Builtin.hash
  | "alias" => some (Builtin.noAlias "alias")
  | "unalias" => some (Builtin.noAlias "unalias")
  | "fg" | "bg" => some fun _ => raise "No current job"
  | _ => none

end Mend.Process

/-!
# Reading of command lines

A command line is a sequence of words: options, arguments by position, and at most one name of a
command, behind which another grammar takes over. Reading fills a draft, word by word, and the first
word that does not fit ends it.

* `Stop` : why reading ends without a request;
* `Effect`, `Switch`, `Grammar` : what may stand on a command line, over drafts of a type `σ`;
* `Grammar.word` : what one word does;
* `Grammar.read` : reads a command line up to its end or the name of a command.
-/

namespace Mend.CommandLine

/-- Why a command line gives no request: it is wrong, or it only asks how the program is used or which
version it is. -/
inductive Stop where
  | usage
  | help
  | version
deriving DecidableEq, Repr

/-- What an option does to a draft: at once, with the value that belongs to it, or by ending the
reading. A step that gives nothing refuses the option. -/
inductive Effect (σ : Type) where
  | flag (set : σ → Option σ)
  | value (set : String → σ → Option σ)
  | stop (reason : Stop)

/-- An option with its names. -/
structure Switch (σ : Type) where
  long : String
  short : Option Char
  effect : Effect σ

/-- The options, the arguments in order, and the names of commands. -/
structure Grammar (σ : Type) where
  switches : List (Switch σ)
  arguments : List (String → σ → Option σ)
  commands : List String

/-- Reading on its way: the draft, the arguments still to come, and the option that waits for its
value. -/
structure State (σ : Type) where
  draft : σ
  ahead : List (String → σ → Option σ)
  waiting : Option (String → σ → Option σ)

namespace State

variable {σ : Type}

def fill (st : State σ) (draft : Option σ) : Except Stop (State σ) :=
  match draft with
  | some draft => .ok { st with draft, waiting := none }
  | none => .error .usage

def argument (st : State σ) (word : String) : Except Stop (State σ) :=
  match st.ahead with
  | set :: rest => { st with ahead := rest }.fill (set word st.draft)
  | [] => .error .usage

end State

namespace Grammar

variable {σ : Type} (g : Grammar σ)

def long? (name : String) : Option (Effect σ) :=
  (g.switches.find? (·.long = name)).map (·.effect)

def short? (c : Char) : Option (Effect σ) :=
  (g.switches.find? (·.short = some c)).map (·.effect)

/-- What follows two dashes: a name, and a value behind `=` if there is one. An option that takes a
value and has none here waits for the next word. -/
def longOption (body : List Char) (st : State σ) : Except Stop (State σ) :=
  let name := String.ofList (body.takeWhile (· ≠ '='))
  match g.long? name, body.dropWhile (· ≠ '=') with
  | some (.stop reason), [] => .error reason
  | some (.flag set), [] => st.fill (set st.draft)
  | some (.value set), [] => .ok { st with waiting := some set }
  | some (.value set), _ :: value => st.fill (set (String.ofList value) st.draft)
  | _, _ => .error .usage

/-- What follows a single dash: letters of options, the last of which may have its value behind it,
with or without `=`. -/
def shortOptions : List Char → State σ → Except Stop (State σ)
  | [], st => .ok st
  | c :: rest, st =>
    match g.short? c with
    | none => .error .usage
    | some (.stop reason) => .error reason
    | some (.flag set) => do shortOptions rest (← st.fill (set st.draft))
    | some (.value set) =>
      match rest with
      | [] => .ok { st with waiting := some set }
      | '=' :: value | value => st.fill (set (String.ofList value) st.draft)

/-- What one word does. A word that looks like an option is never a value. -/
def word (st : State σ) (w : String) : Except Stop (State σ) :=
  match w.toList, st.waiting with
  | '-' :: _ :: _, some _ => .error .usage
  | '-' :: '-' :: body, none => g.longOption body st
  | '-' :: c :: body, none => g.shortOptions (c :: body) st
  | _, some set => st.fill (set w st.draft)
  | _, none => st.argument w

/-- Reads words up to the end or the name of a command; the result is the draft, and the command with
the words behind it. Behind `--`, every word is an argument. -/
def readFrom (st : State σ) : List String → Except Stop (σ × Option (String × List String))
  | [] => if st.waiting.isSome then .error .usage else .ok (st.draft, none)
  | w :: rest =>
    if st.waiting.isNone && g.commands.contains w then .ok (st.draft, some (w, rest))
    else if w = "--" then
      if st.waiting.isSome then .error .usage
      else do return ((← rest.foldlM State.argument st).draft, none)
    else do readFrom (← g.word st w) rest

def read (draft : σ) (words : List String) : Except Stop (σ × Option (String × List String)) :=
  g.readFrom ⟨draft, g.arguments, none⟩ words

end Grammar

end Mend.CommandLine

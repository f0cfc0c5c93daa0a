/-!
# Shell scripts

The scripts that build and test commands are made of: simple commands, pipelines, lists, conditionals,
loops and functions, with quoting, parameters, arithmetic, command substitution and redirections. Their
texts are texts of bytes. Scripts are known to the outer layer around `Programs.shell` only.

* `Part`, `Word` : a word and the parts it is put together from;
* `Redirect` : where a command reads and writes;
* `Script`, `Clauses` : the commands.
-/

namespace Mend.Process

/-- What a parameter in braces is used for besides its value. A test may count an empty value as none. -/
inductive Use where
  | plain
  | length
  | orElse (empty : Bool)
  | orAssign (empty : Bool)
  | orFail (empty : Bool)
  | ifSet (empty : Bool)
  | trim (atEnd longest : Bool)
  | unknown
deriving DecidableEq

/-- What a redirection does with its descriptor. A document is a text in the script itself. -/
inductive Direction where
  | input
  | output
  | clobber
  | append
  | both
  | duplicate
  | document
deriving DecidableEq

mutual

/-- A part of a word. What is quoted is neither split into fields nor matched against file names. -/
inductive Part where
  | text (s : String) (quoted : Bool)
  | quotes
  | parameter (name : String) (use : Use) (operand : List Part) (quoted : Bool)
  | command (body : Script) (quoted : Bool)
  | arithmetic (expression : List Part) (quoted : Bool)

inductive Redirect where
  | mk (descriptor : Nat) (direction : Direction) (target : List Part)

/-- A command. Some know the line they start at. -/
inductive Script where
  | nothing
  | simple (line : Nat) (assignments words : List (List Part)) (redirects : List Redirect)
  | pipe (left right : Script)
  | negate (s : Script)
  | both (a b : Script)
  | either (a b : Script)
  | seq (a b : Script)
  | background (s : Script)
  | branch (condition yes no : Script)
  | loop (negated : Bool) (condition body : Script)
  | each (line : Nat) (name : String) (words : List (List Part)) (body : Script)
  | select (line : Nat) (subject : List Part) (clauses : Clauses)
  | subshell (line : Nat) (body : Script) (redirects : List Redirect)
  | grouped (line : Nat) (body : Script) (redirects : List Redirect)
  | define (line : Nat) (name : String) (body : Script)

inductive Clauses where
  | none
  | clause (patterns : List (List Part)) (body : Script) (rest : Clauses)

end

abbrev Word := List Part

instance : Inhabited Script := ⟨.nothing⟩

def Script.isNothing : Script → Bool
  | .nothing => true
  | _ => false

/-- Whether a character may start a parameter's name. -/
def startsName (c : Char) : Bool := c.isAlpha || c = '_'

/-- Whether a character may stand in a parameter's name. -/
def inName (c : Char) : Bool := c.isAlphanum || c = '_'

def isName : List Char → Bool
  | [] => false
  | c :: cs => startsName c && cs.all inName

def Word.plain? : Word → Option String
  | [.text s false] => some s
  | _ => none

def Word.assignment? : Word → Option (String × Word)
  | .text s false :: rest =>
    let name := s.toList.takeWhile (· ≠ '=')
    match s.toList.drop name.length with
    | _ :: value =>
      if isName name then
        some (String.ofList name, if value.isEmpty then rest else .text (String.ofList value) false :: rest)
      else none
    | [] => none
  | _ => none

/-- The commands with effects on the shell itself that stay even where the command fails. -/
def specialCommands : List String :=
  [".", ":", "break", "continue", "eval", "exec", "exit", "export", "readonly", "return", "set", "shift",
   "times", "trap", "unset"]

end Mend.Process

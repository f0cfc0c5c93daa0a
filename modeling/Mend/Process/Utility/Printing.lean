import Mend.Process.Utility.Basic
import Mend.Process.Utility.Real

/-!
# Printing

* `Printing.unescape` : texts with backslashes;
* `Printing.echo` : arguments in one line;
* `Directive`, `Printing.format` : arguments in a format;
* `echoProgram`, `printfProgram` : the programs.
-/

namespace Mend.Process

namespace Printing

/-! ## Backslashes -/

/-- The character with the given number, of which the last eight bits count. -/
def byteChar (n : Nat) : Char := Char.ofNat (n % 256)

def letter? : Char → Option Char
  | 'a' => some '\x07'
  | 'b' => some '\x08'
  | 'e' => some '\x1b'
  | 'f' => some '\x0c'
  | 'n' => some '\n'
  | 'r' => some '\r'
  | 't' => some '\t'
  | 'v' => some '\x0b'
  | '\\' => some '\\'
  | _ => none

def isOctal (c : Char) : Bool := '0' ≤ c && c ≤ '7'

/-- The octal number of up to `count` digits in front of a text, and what follows it. -/
def octal (count : Nat) (cs : List Char) : Nat × List Char :=
  let ds := (cs.take count).takeWhile isOctal
  (ds.foldl (fun n c => n * 8 + (c.toNat - '0'.toNat)) 0, cs.drop ds.length)

/-- What stands behind a backslash, and what follows it; a backslash that means nothing stands for
itself. -/
def escape (cs : List Char) : Char × List Char :=
  match cs with
  | c :: rest =>
    if isOctal c then
      let (n, rest) := octal 3 cs
      (byteChar n, rest)
    else
      match letter? c with
      | some d => (d, rest)
      | none => ('\\', cs)
  | [] => ('\\', [])

/-- A text with what its backslashes stand for, the latest character first, and whether it goes on
behind. -/
def unescape : Nat → List Char → List Char → List Char × Bool
  | 0, done, _ => (done, true)
  | _ + 1, done, [] => (done, true)
  | _ + 1, done, '\\' :: 'c' :: _ => (done, false)
  | fuel + 1, done, '\\' :: '0' :: cs =>
    let (n, rest) := octal 3 cs
    unescape fuel (byteChar n :: done) rest
  | fuel + 1, done, '\\' :: cs =>
    let (c, rest) := escape cs
    unescape fuel (c :: done) rest
  | fuel + 1, done, c :: cs => unescape fuel (c :: done) cs

/-- The text of an argument with backslashes, and whether more is to follow it. -/
def unescaped (s : String) : String × Bool :=
  let (cs, more) := unescape (s.length + 1) [] s.toList
  (String.ofList cs.reverse, more)

/-! ## Lines -/

/-- Arguments joined by blanks, up to one that ends the output; `complete` asks for a line feed. -/
def echoed (complete : Bool) : List String → List String → List String
  | done, [] => if complete then "\n" :: done else done
  | done, a :: rest =>
    let (text, more) := unescaped a
    if !more then text :: done
    else echoed complete (if rest.isEmpty then text :: done else " " :: text :: done) rest

/-- The line of arguments; a first argument `-n` asks for no line feed. -/
def echo (args : List String) : String :=
  let parts := match args with
    | "-n" :: rest => echoed false [] rest
    | args => echoed true [] args
  String.join parts.reverse

/-! ## Directives -/

structure Directive where
  left : Bool
  plus : Bool
  blank : Bool
  alternative : Bool
  zero : Bool
  width : Nat
  precision : Option Nat

namespace Directive

def pad (d : Directive) (cs : List Char) : List Char :=
  let fill := List.replicate (d.width - cs.length) ' '
  if d.left then cs ++ fill else fill ++ cs

/-- A number in the width of a directive: zeros may stand between its front and its digits. -/
def padNumber (d : Directive) (zeros : Bool) (front digits : List Char) : List Char :=
  if d.zero && !d.left && zeros then
    front ++ List.replicate (d.width - front.length - digits.length) '0' ++ digits
  else d.pad (front ++ digits)

/-- A text, of which the precision tells how much. -/
def text (d : Directive) (cs : List Char) : List Char :=
  d.pad (match d.precision with
    | some n => cs.take n
    | none => cs)

def sign (d : Directive) (negative : Bool) : List Char :=
  if negative then ['-'] else if d.plus then ['+'] else if d.blank then [' '] else []

/-- Digits with zeros in front as the precision asks; it may ask for no digit of zero. -/
def digits (d : Directive) (base n : Nat) : List Char :=
  let ds := Nat.toDigits base n
  match d.precision with
  | some 0 => if n = 0 then [] else ds
  | some p => List.replicate (p - ds.length) '0' ++ ds
  | none => ds

def integer (d : Directive) (conversion : Char) (n : Int) : List Char :=
  let plain := d.precision.isNone
  let unsigned : Nat := (n % 18446744073709551616).toNat
  match conversion with
  | 'o' =>
    let ds := d.digits 8 unsigned
    d.padNumber plain [] (if d.alternative && ds.head? ≠ some '0' then '0' :: ds else ds)
  | 'x' =>
    d.padNumber plain (if d.alternative && unsigned ≠ 0 then ['0', 'x'] else []) (d.digits 16 unsigned)
  | 'X' =>
    d.padNumber plain (if d.alternative && unsigned ≠ 0 then ['0', 'X'] else [])
      ((d.digits 16 unsigned).map Char.toUpper)
  | 'u' => d.padNumber plain [] (d.digits 10 unsigned)
  | _ => d.padNumber plain (d.sign (n < 0)) (d.digits 10 n.natAbs)

def real (d : Directive) (conversion : Char) (r : Real) : List Char :=
  let places := d.precision.getD 6
  let sign := d.sign r.isNegative
  let shape (cs : List Char) : List Char := if conversion.isUpper then cs.map Char.toUpper else cs
  match r with
  | .infinite _ => d.pad (shape (sign ++ "inf".toList))
  | .undefined _ => d.pad (shape (sign ++ "nan".toList))
  | .finite _ m e =>
    let digits := match conversion.toLower with
      | 'f' => Real.fixed d.alternative places m e
      | 'e' => Real.scientific d.alternative places m e
      | 'g' => Real.general d.alternative places m e
      | _ => Real.hexadecimal m e
    d.padNumber true sign (shape digits)

end Directive

/-! ## Formats -/

/-- Which program reads a format: the command of a shell, or the program of its own. -/
inductive Style where
  | command
  | program
deriving DecidableEq

/-- A print under way: the arguments that are left, the output, the latest character first, and what has
been complained about. -/
structure Progress where
  arguments : List String
  output : List Char
  complaints : List String

/-- What ends a print before its end: the output is complete, or the format makes no sense. -/
inductive Stop where
  | complete
  | malformed (message : String)

abbrev Step := ExceptT Stop (StateM Progress)

def put (cs : List Char) : Step Unit := modify fun p => { p with output := cs.reverse ++ p.output }

def warn (text : String) : Step Unit := modify fun p => { p with complaints := p.complaints ++ [text] }

def argument : Step (Option String) := do
  match (← get).arguments with
  | [] => return none
  | a :: rest => do
    modify fun p => { p with arguments := rest }
    return some a

def checkNumber (style : Style) (text : String) (rest : List Char) (ranged : Bool) : Step Unit := do
  let name := if style = .command then text else "'" ++ text ++ "'"
  if !rest.isEmpty then
    if rest.length = text.length then
      warn (name ++ if style = .command then ": expected numeric value" else ": expected a numeric value")
    else
      warn (name ++ if style = .command then ": not completely converted"
        else ": value not completely converted")
  else if !ranged then warn (name ++ ": Numerical result out of range")

/-- The number that the next argument stands for; a quote in front asks for the number of a
character. -/
def number (style : Style) (signed : Bool) : Step Int := do
  match ← argument with
  | none => return 0
  | some text =>
    match text.toList with
    | '"' :: cs | '\x27' :: cs => return (cs.head?.map fun c => Int.ofNat c.toNat).getD 0
    | cs => do
      let (n, rest) := Integer.read cs
      let (low, high) := if signed then (Integer.least, Integer.greatest)
        else (-18446744073709551615, 18446744073709551615)
      let ranged := low ≤ n && n ≤ high
      checkNumber style text rest ranged
      return if ranged then n else if signed then Integer.clamp n else 18446744073709551615

def realNumber (style : Style) : Step Real := do
  match ← argument with
  | none => return .finite false 0 0
  | some text =>
    match text.toList with
    | '"' :: cs | '\x27' :: cs => return Real.ofFraction false (cs.head?.map Char.toNat |>.getD 0) 1
    | cs => do
      let (r, rest) := Real.read cs
      let ranged := match r with
        | .infinite _ => cs.any fun c => c.toLower = 'i'
        | _ => true
      checkNumber style text rest ranged
      return r

/-- The width or precision in front of a format: an argument for `*`, or digits. -/
def measure (style : Style) (cs : List Char) : Step (Option Int × List Char) := do
  match cs with
  | '*' :: rest => do return (some (← number style true), rest)
  | _ =>
    let ds := cs.takeWhile Char.isDigit
    return (if ds.isEmpty then none else some (Nat.ofDigitChars 10 ds 0), cs.drop ds.length)

/-- The frame of the directive in front of a format, from behind its percent sign, and what follows
it. -/
def directive (style : Style) (cs : List Char) : Step (Directive × List Char) := do
  let flags := cs.takeWhile fun c => ['#', '-', '+', ' ', '0'].contains c
  let (width, rest) ← measure style (cs.drop flags.length)
  let (precision, rest) ← match rest with
    | '.' :: rest => do
      let (p, rest) ← measure style rest
      pure (some (p.getD 0), rest)
    | rest => pure (none, rest)
  let width := width.getD 0
  return ({ left := flags.contains '-' || width < 0
            plus := flags.contains '+'
            blank := flags.contains ' '
            alternative := flags.contains '#'
            zero := flags.contains '0'
            width := width.natAbs
            precision := match precision with
              | some p => if p < 0 then none else some p.toNat
              | none => none }, rest)

/-- Prints an argument by a directive whose conversion is a letter; `spelling` is the directive as it is
written. -/
def convert (style : Style) (d : Directive) (conversion : Char) (spelling : List Char) : Step Unit := do
  match conversion with
  | 's' => do put (d.text ((← argument).getD "").toList)
  | 'c' => do
    let c := match (← argument).getD "" |>.toList with
      | c :: _ => c
      | [] => '\x00'
    put (d.pad (if style = .program && c = '\x00' then [] else [c]))
  | 'b' => do
    let (text, more) := unescaped ((← argument).getD "")
    put (d.text text.toList)
    if !more then throw .complete
  | 'd' | 'i' => do put (d.integer 'd' (← number style true))
  | 'o' | 'u' | 'x' | 'X' => do put (d.integer conversion (← number style false))
  | 'a' | 'A' | 'e' | 'E' | 'f' | 'F' | 'g' | 'G' => do put (d.real conversion (← realNumber style))
  | _ =>
    let spelling := String.ofList spelling
    throw (.malformed (if style = .command then spelling ++ ": invalid directive"
      else spelling ++ ": invalid conversion specification"))

def formatOnce (style : Style) : Nat → List Char → Step Unit
  | 0, _ => return ()
  | _ + 1, [] => return ()
  | fuel + 1, '\\' :: cs => do
    if style = .program && cs.head? = some 'c' then throw .complete
    match style, cs with
    | .program, 'x' :: rest => do
      let ds := (rest.take 2).takeWhile fun c => Integer.digitValue c < 16
      put [byteChar (Integer.digits 16 ds).1]
      formatOnce style fuel (rest.drop ds.length)
    | .program, '"' :: rest => do
      put ['"']
      formatOnce style fuel rest
    | _, _ => do
      let (c, rest) := escape cs
      put [c]
      formatOnce style fuel rest
  | fuel + 1, '%' :: '%' :: cs => do
    put ['%']
    formatOnce style fuel cs
  | fuel + 1, '%' :: cs => do
    let (d, rest) ← directive style cs
    match rest with
    | [] =>
      throw (.malformed (if style = .command then "missing format character"
        else String.ofList ('%' :: cs) ++ ": invalid conversion specification"))
    | c :: after => do
      convert style d c ('%' :: cs.take (cs.length - after.length))
      formatOnce style fuel after
  | fuel + 1, c :: cs => do
    put [c]
    formatOnce style fuel cs

/-- Prints a format as often as there are arguments for it, but at least once. -/
def formatAll (style : Style) (format : List Char) : Nat → Step Unit
  | 0 => return ()
  | fuel + 1 => do
    let before := (← get).arguments.length
    formatOnce style (format.length + 1) format
    let after := (← get).arguments.length
    if after < before && after ≠ 0 then formatAll style format fuel

/-- What a print comes to: the output, the complaints, and why it makes no sense. -/
structure Printed where
  output : String
  complaints : List String
  malformed : Option String

def format (style : Style) (text : String) (args : List String) : Printed :=
  let (result, p) := (formatAll style text.toList (args.length + 1)).run ⟨args, [], []⟩
  { output := String.ofList p.output.reverse
    complaints := p.complaints
    malformed := match result with
      | .error (.malformed message) => some message
      | _ => none }

end Printing

/-! ## Programs -/

/-- Prints its arguments in one line. Options in front may ask for no line feed, and for backslashes to
mean something. -/
def echoProgram : Utility := fun args s =>
  let isFlag (a : String) : Bool :=
    match a.toList with
    | '-' :: c :: cs => (c :: cs).all fun c => c = 'n' || c = 'e' || c = 'E'
    | _ => false
  let flags := args.takeWhile isFlag
  let letters := flags.flatMap fun a => a.toList.drop 1
  let rest := args.drop flags.length
  let escapes := (letters.filter fun c => c ≠ 'n').getLast? = some 'e'
  let complete := !letters.contains 'n'
  if escapes then .printing s (String.join (Printing.echoed complete [] rest).reverse)
  else .printing s (" ".intercalate rest ++ if complete then "\n" else "")

def printfProgram : Utility := fun args s =>
  let args := match args with
    | "--" :: rest => rest
    | args => args
  match args with
  | [] => .failing s 1 "printf: missing operand\nTry 'printf --help' for more information."
  | text :: args =>
    let p := Printing.format .program text args
    let complaints := p.complaints ++ p.malformed.toList
    .ofWrites s (if complaints.isEmpty then 0 else 1)
      (.out p.output :: complaints.map fun c => .err ("printf: " ++ c ++ "\n"))

end Mend.Process

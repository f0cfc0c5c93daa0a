import Mend.Toml.Value

/-!
# Strings, numbers and times in TOML text

Line ends are single `\n` characters here; a `\r` that is left over stands nowhere.

* `Reader` : reads a value from the front of a text;
* `isPlain` : the characters that may stand in a comment or a string;
* `basicBody`, `literalBody`, `longBasicBody`, `longLiteralBody` : the four kinds of strings, from
  behind their opening quotes;
* `number` : integers, reals and times.
-/

namespace Mend.Toml

/-- Reads a value from the front of a text, or refuses the text. -/
abbrev Reader := StateT (List Char) Option

namespace Reader

/-- The next character, which stays where it is. -/
def peek? : Reader (Option Char) := do
  return (← get).head?

/-- Gets past a given text if it comes next; says whether it did. -/
def skip (word : List Char) : Reader Bool := do
  let cs ← get
  if word.isPrefixOf cs then
    set (cs.drop word.length)
    return true
  return false

def expect (word : List Char) : Reader Unit := do
  if !(← skip word) then failure

/-- Gets past the first of some texts that comes next; says whether one did. -/
def skipAny : List (List Char) → Reader Bool
  | [] => return false
  | word :: words => do
    if ← skip word then return true
    skipAny words

def run (p : Char → Bool) : Reader (List Char) := do
  let cs ← get
  set (cs.dropWhile p)
  return cs.takeWhile p

/-- The next character, which has to be of a class. -/
def one (p : Char → Bool) : Reader Char := do
  match ← get with
  | c :: cs =>
    if p c then
      set cs
      return c
    failure
  | [] => failure

def exactly (p : Char → Bool) : Nat → Reader (List Char)
  | 0 => return []
  | n + 1 => return (← one p) :: (← exactly p n)

/-- What was read by a reader, as text. -/
def spelled {α : Type} (r : Reader α) : Reader String := do
  let before ← get
  let _ ← r
  return String.ofList (before.take (before.length - (← get).length))

end Reader

open Reader

/-! ## Characters -/

/-- Whether a character may stand in a comment, or in a string where it means nothing else: no
control character but the tab. -/
def isPlain (c : Char) : Bool :=
  c = '\t' || (0x20 ≤ c.toNat && c.toNat ≠ 0x7f)

/-- Whether a character is white space within a line. -/
def isSpace (c : Char) : Bool :=
  c = ' ' || c = '\t'

def digitValue? (base : Nat) (c : Char) : Option Nat :=
  let v? :=
    if '0' ≤ c ∧ c ≤ '9' then some (c.toNat - '0'.toNat)
    else if 'a' ≤ c ∧ c ≤ 'f' then some (c.toNat - 'a'.toNat + 10)
    else if 'A' ≤ c ∧ c ≤ 'F' then some (c.toNat - 'A'.toNat + 10)
    else none
  v?.filter (· < base)

/-- The value of digits in a base; characters that are no digits count nothing. -/
def ofDigits (base : Nat) (cs : List Char) : Nat :=
  (cs.filterMap (digitValue? base)).foldl (fun n d => n * base + d) 0

/-- The character with the given number in hexadecimal digits. -/
def numbered? (cs : List Char) : Option Char := do
  let digits ← cs.mapM (digitValue? 16)
  let n := digits.foldl (fun n d => n * 16 + d) 0
  if n.isValidChar then some (Char.ofNat n) else none

def escaped? : Char → Option Char
  | 'b' => some '\x08'
  | 't' => some '\t'
  | 'n' => some '\n'
  | 'f' => some '\x0c'
  | 'r' => some '\r'
  | '"' => some '"'
  | '\\' => some '\\'
  | _ => none

/-! ## Strings -/

/-- Puts a character in front of the string that a reader found. -/
def before (c : Char) (found : Option (List Char × List Char)) : Option (List Char × List Char) :=
  found.map fun (text, rest) => (c :: text, rest)

/-- A string with escapes, from behind its quote. -/
def basicBody : List Char → Option (List Char × List Char)
  | [] => none
  | '"' :: rest => some ([], rest)
  | '\\' :: 'u' :: a :: b :: c :: d :: rest => do
    before (← numbered? [a, b, c, d]) (basicBody rest)
  | '\\' :: 'U' :: a :: b :: c :: d :: e :: f :: g :: h :: rest => do
    before (← numbered? [a, b, c, d, e, f, g, h]) (basicBody rest)
  | '\\' :: e :: rest => do before (← escaped? e) (basicBody rest)
  | c :: rest => if isPlain c && c ≠ '\\' then before c (basicBody rest) else none

/-- A string without escapes, from behind its quote. -/
def literalBody : List Char → Option (List Char × List Char)
  | [] => none
  | '\x27' :: rest => some ([], rest)
  | c :: rest => if isPlain c then before c (literalBody rest) else none

/-- The end of a long string: three quotes, and up to two more in front of them that belong to the
string. -/
def closing? (quote : Char) (cs : List Char) : Option (List Char × List Char) :=
  let quotes := (cs.takeWhile (· = quote)).take 5
  if 3 ≤ quotes.length then some (quotes.drop 3, cs.drop quotes.length) else none

/-- A long string without escapes, from behind its quotes and a line end that follows them. -/
def longLiteralBody : List Char → Option (List Char × List Char)
  | [] => none
  | c :: rest =>
    match closing? '\x27' (c :: rest) with
    | some found => some found
    | none => if isPlain c || c = '\n' then before c (longLiteralBody rest) else none

/-- Where a long string stands with a backslash at the end of a line: there is none, its line end is
still to come, or the blanks behind the line end are being dropped. -/
inductive Fold where
  | none
  | pending
  | crossed

/-- A long string with escapes, from behind its quotes and a line end that follows them. -/
def longBasicBody : Fold → List Char → Option (List Char × List Char)
  | _, [] => none
  | .pending, c :: rest =>
    if isSpace c then longBasicBody .pending rest
    else if c = '\n' then longBasicBody .crossed rest
    else none
  | .crossed, ' ' :: rest | .crossed, '\t' :: rest | .crossed, '\n' :: rest =>
    longBasicBody .crossed rest
  | _, '\\' :: 'u' :: a :: b :: c :: d :: rest => do
    before (← numbered? [a, b, c, d]) (longBasicBody .none rest)
  | _, '\\' :: 'U' :: a :: b :: c :: d :: e :: f :: g :: h :: rest => do
    before (← numbered? [a, b, c, d, e, f, g, h]) (longBasicBody .none rest)
  | _, '\\' :: e :: rest =>
    if e = '\n' then longBasicBody .crossed rest
    else if isSpace e then longBasicBody .pending rest
    else do before (← escaped? e) (longBasicBody .none rest)
  | _, c :: rest =>
    match closing? '"' (c :: rest) with
    | some found => some found
    | none =>
      if (isPlain c && c ≠ '\\') || c = '\n' then before c (longBasicBody .none rest) else none

/-- A string from behind its quotes, as text. -/
def body (read : List Char → Option (List Char × List Char)) : Reader String := do
  match read (← get) with
  | some (text, rest) =>
    set rest
    return String.ofList text
  | none => failure

def string : Reader String := do
  if ← skip ['"', '"', '"'] then
    let _ ← skip ['\n']
    body (longBasicBody .none)
  else if ← skip ['"'] then body basicBody
  else if ← skip ['\x27', '\x27', '\x27'] then
    let _ ← skip ['\n']
    body longLiteralBody
  else
    expect ['\x27']
    body literalBody

/-! ## Times -/

/-- A number of exactly `n` decimal digits, within bounds. -/
def fixed (n lo hi : Nat) : Reader Nat := do
  let v := ofDigits 10 (← exactly Char.isDigit n)
  if lo ≤ v ∧ v ≤ hi then return v
  failure

def daysIn (year month : Nat) : Nat :=
  if month = 2 then
    if year % 4 = 0 ∧ (year % 100 ≠ 0 ∨ year % 400 = 0) then 29 else 28
  else if month = 4 ∨ month = 6 ∨ month = 9 ∨ month = 11 then 30
  else 31

/-- A date: year, month and day. -/
def date : Reader Unit := do
  let year ← fixed 4 0 9999
  expect ['-']
  let month ← fixed 2 1 12
  expect ['-']
  let _ ← fixed 2 1 (daysIn year month)

/-- A time of day, down to any fraction of a second; a minute may have a leap second. -/
def clock : Reader Unit := do
  let _ ← fixed 2 0 23
  expect [':']
  let _ ← fixed 2 0 59
  expect [':']
  let _ ← fixed 2 0 60
  if ← skip ['.'] then
    let _ ← one Char.isDigit
    let _ ← run Char.isDigit

/-- The distance from universal time, if one is given. -/
def offset : Reader Unit := do
  if ← skipAny [['Z'], ['z']] then return
  if ← skipAny [['+'], ['-']] then
    let _ ← fixed 2 0 23
    expect [':']
    let _ ← fixed 2 0 59

/-- Whether digits in the given number and then a mark come next. -/
def startsWith (digits : Nat) (mark : Char) (cs : List Char) : Bool :=
  (cs.take digits).length = digits && (cs.take digits).all Char.isDigit &&
    (cs.drop digits).head? == some mark

/-- A date, with a time of day behind it if one follows a `T` or a space. -/
def dateTime : Reader Unit := do
  date
  match ← get with
  | c :: cs =>
    if (c = 'T' || c = 't' || c = ' ') && startsWith 2 ':' cs then
      set cs
      clock
      offset
  | [] => return

/-! ## Numbers -/

/-- The digits of a base, with single underscores between them. -/
def grouped (base : Nat) : Bool → List Char → List Char × List Char
  | afterDigit, '_' :: c :: rest =>
    if afterDigit && (digitValue? base c).isSome then
      let (ds, after) := grouped base true rest
      (c :: ds, after)
    else ([], '_' :: c :: rest)
  | _, c :: rest =>
    if (digitValue? base c).isSome then
      let (ds, after) := grouped base true rest
      (c :: ds, after)
    else ([], c :: rest)
  | _, [] => ([], [])

/-- At least one digit of a base, with single underscores between digits. -/
def digits (base : Nat) : Reader (List Char) := do
  match grouped base false (← get) with
  | ([], _) => failure
  | (ds, rest) =>
    set rest
    return ds

/-- The digits of a whole number: a leading zero stands alone. -/
def wholeDigits : Reader (List Char) := do
  if ← skip ['0'] then return ['0']
  digits 10

def integer (n : Int) : Reader Value :=
  if -9223372036854775808 ≤ n ∧ n ≤ 9223372036854775807 then return .integer n else failure

/-- Whether `n * 10 ^ e` lies beyond the reals of 64 bits: from half a unit above the largest of them.
The number of digits decides all but the closest cases. -/
def exceedsReals (n : Nat) (e : Int) : Bool :=
  let top : Int := (Nat.toDigits 10 n).length + e
  if n = 0 ∨ top < 309 then false
  else if 309 < top then true
  else
    let bound := Nat.pow 2 1024 - Nat.pow 2 970
    if 0 ≤ e then bound ≤ n * Nat.pow 10 e.toNat else bound * Nat.pow 10 (-e).toNat ≤ n

/-- The sign, whole part, places behind the point and exponent of a decimal number. -/
structure Decimal where
  negative : Bool
  whole : List Char
  fraction : Option (List Char)
  exponent : Option Int

def decimal (negative : Bool) : Reader Decimal := do
  let whole ← wholeDigits
  let fraction ← if ← skip ['.'] then some <$> digits 10 else pure none
  if ← skipAny [['e'], ['E']] then
    let down ← skip ['-']
    if !down then let _ ← skip ['+']
    let size : Int := ofDigits 10 (← digits 10)
    return ⟨negative, whole, fraction, some (if down then -size else size)⟩
  return ⟨negative, whole, fraction, none⟩

/-- The value of a decimal number that is spelled `text`. A number above the largest real is refused;
one below the smallest is minus infinity. -/
def Decimal.value (d : Decimal) (text : String) : Reader Value :=
  match d.fraction, d.exponent with
  | none, none =>
    let n : Int := ofDigits 10 d.whole
    integer (if d.negative then -n else n)
  | _, _ =>
    let fraction := d.fraction.getD []
    let e := d.exponent.getD 0 - fraction.length
    if !d.negative && exceedsReals (ofDigits 10 (d.whole ++ fraction)) e then failure
    else return .real text

/-- A number that may have a sign: decimal, infinite or none at all. -/
def signed : Reader Value := do
  let start ← get
  let negative ← skip ['-']
  if !negative then let _ ← skip ['+']
  if ← skipAny [['i', 'n', 'f'], ['n', 'a', 'n']] then
    return .real (String.ofList (start.take (start.length - (← get).length)))
  let d ← decimal negative
  d.value (String.ofList (start.take (start.length - (← get).length)))

def number : Reader Value := do
  let cs ← get
  if startsWith 4 '-' cs then return .time (← spelled dateTime)
  else if startsWith 2 ':' cs then return .time (← spelled clock)
  else if ← skip ['0', 'x'] then integer (ofDigits 16 (← digits 16))
  else if ← skip ['0', 'o'] then integer (ofDigits 8 (← digits 8))
  else if ← skip ['0', 'b'] then integer (ofDigits 2 (← digits 2))
  else signed

end Mend.Toml

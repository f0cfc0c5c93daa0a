import Mend.Text.Utf8
import Mend.Total

/-!
# Scanning JSON text

A piece of JSON text is read in one of two ways: for its value, or only to get past it. The second
way asks less: it takes escapes of half a surrogate pair and numbers of any magnitude.

* `Text` : the characters of a text, with a hole for every byte that belongs to none;
* `Fault` : the text ended too early, or it is no JSON;
* `Scan` : what the two ways of reading one scalar give;
* `dropSpace`, `keyword` : blanks between tokens, and the three fixed words;
* `scanString` : a string, from behind its opening quote.
-/

namespace Mend.Json

/-- The characters of a JSON text; `none` stands for a byte that belongs to no character. -/
abbrev Text := List (Option Char)

def Text.ofString (s : String) : Text := s.toList.map some

def Text.ofBytes (bytes : ByteArray) : Text :=
  (Text.Utf8.symbols bytes).flatMap fun s => match s with
    | .char c => [some c]
    | .hole n => List.replicate n none

/-- Why a text is no JSON: it ended too early, or something else stands where it should not. -/
inductive Fault where
  | ended
  | malformed
deriving DecidableEq, Repr

/-- What a scalar gives when it is read for its value, and when it is only skipped. -/
structure Scan (α : Type) where
  value : Except Fault α
  skip : Except Fault Unit

def faultAt (rest : Text) : Fault :=
  if rest.isEmpty then .ended else .malformed

/-- Whether a character may stand between tokens. -/
def isSpace (c : Char) : Bool :=
  c = ' ' || c = '\n' || c = '\t' || c = '\r'

/-- A text without the blanks in front of the next token. -/
def dropSpace (t : Text) : Text :=
  t.dropWhile fun s => s.any isSpace

/-- Reads the letters of a fixed word; the result is what follows it. -/
def keyword : List Char → Text → Except Fault Text
  | [], t => .ok t
  | _ :: _, [] => .error .ended
  | c :: cs, s :: t => if s = some c then keyword cs t else .error .malformed

/-! ## Strings -/

/-- A unit of a string: a character, bytes that are none, or the number behind a `\u`. -/
inductive StringUnit where
  | char (c : Char)
  | hole
  | code (n : Nat)

def hexDigit? (s : Option Char) : Option Nat := do
  let c ← s
  if '0' ≤ c ∧ c ≤ '9' then some (c.toNat - '0'.toNat)
  else if 'a' ≤ c ∧ c ≤ 'f' then some (c.toNat - 'a'.toNat + 10)
  else if 'A' ≤ c ∧ c ≤ 'F' then some (c.toNat - 'A'.toNat + 10)
  else none

/-- The value of four hexadecimal digits. -/
def hexCode? (a b c d : Option Char) : Option Nat := do
  return (((← hexDigit? a) * 16 + (← hexDigit? b)) * 16 + (← hexDigit? c)) * 16 + (← hexDigit? d)

def shortEscape? : Char → Option Char
  | '"' => some '"'
  | '\\' => some '\\'
  | '/' => some '/'
  | 'b' => some '\x08'
  | 'f' => some '\x0c'
  | 'n' => some '\n'
  | 'r' => some '\r'
  | 't' => some '\t'
  | _ => none

/-- The number of bytes a text takes, a hole counting as one. -/
def byteCount (t : Text) : Nat :=
  total (fun s => (s.map Char.utf8Size).getD 1) t

/-- The units of a string up to its closing quote, the fault that cuts it short, and what follows. -/
def stringUnits : Text → List StringUnit × Option Fault × Text
  | [] => ([], some .ended, [])
  | some '"' :: t => ([], none, t)
  | [some '\\'] => ([], some .ended, [])
  | some '\\' :: some 'u' :: a :: b :: c :: d :: t =>
    match hexCode? a b c d with
    | some n =>
      let (units, cut, rest) := stringUnits t
      (.code n :: units, cut, rest)
    | none => ([], some .malformed, t)
  | some '\\' :: some 'u' :: t => ([], some (if byteCount t < 4 then .ended else .malformed), t)
  | some '\\' :: none :: t => ([], some .malformed, t)
  | some '\\' :: some e :: t =>
    match shortEscape? e with
    | some c =>
      let (units, cut, rest) := stringUnits t
      (.char c :: units, cut, rest)
    | none => ([], some .malformed, t)
  | none :: t =>
    let (units, cut, rest) := stringUnits t
    (.hole :: units, cut, rest)
  | some c :: t =>
    if c.toNat < 0x20 then ([], some .malformed, t)
    else
      let (units, cut, rest) := stringUnits t
      (.char c :: units, cut, rest)

def surrogatePair (high low : Nat) : Char :=
  Char.ofNat ((high - 0xd800) * 0x400 + (low - 0xdc00) + 0x10000)

/-- The characters of string units that end in `cut`. Half a surrogate pair is no character, and
bytes that are no character are noticed at the closing quote. -/
def unitChars (cut : Option Fault) : List StringUnit → Except Fault (List Char)
  | [] => match cut with
    | none => .ok []
    | some f => .error f
  | .char c :: us => (unitChars cut us).map (c :: ·)
  | .hole :: us => do
    let _ ← unitChars cut us
    .error .malformed
  | .code n :: us =>
    if 0xdc00 ≤ n ∧ n ≤ 0xdfff then .error .malformed
    else if n < 0xd800 ∨ 0xdbff < n then (unitChars cut us).map (Char.ofNat n :: ·)
    else
      match us with
      | [] => .error (cut.getD .malformed)
      | .code m :: us =>
        if 0xdc00 ≤ m ∧ m ≤ 0xdfff then (unitChars cut us).map (surrogatePair n m :: ·)
        else .error .malformed
      | _ :: _ => .error .malformed

/-- A string read from behind its opening quote, and what follows its closing quote. -/
def scanString (t : Text) : Scan String × Text :=
  let (units, cut, rest) := stringUnits t
  let skip := match cut with
    | none => .ok ()
    | some f => .error f
  (⟨(unitChars cut units).map String.ofList, skip⟩, rest)

end Mend.Json

import Mend.Process.Arithmetic

/-!
# Reals in formats

Numbers of 64 bits with a binary point, as directives of a format read and write them.

* `Real.read` : the number in front of a text, rounded to 64 bits;
* `Real.fixed`, `Real.scientific`, `Real.general`, `Real.hexadecimal` : its ways of being written.
-/

namespace Mend.Process

/-- A number with a sign: `mantissa * 2 ^ exponent`, infinity, or none at all. -/
inductive Real where
  | finite (negative : Bool) (mantissa : Nat) (exponent : Int)
  | infinite (negative : Bool)
  | undefined (negative : Bool)

namespace Real

/-- A quotient rounded to the nearest integer, a half to the even one. -/
def roundDiv (a b : Nat) : Nat :=
  let q := a / b
  let r := 2 * (a % b)
  if r < b then q else if b < r then q + 1 else q + q % 2

/-- The number of digits of a number in a base, less one. -/
def magnitude (base n : Nat) : Nat := (Nat.toDigits base n).length - 1

/-- A positive power, or its inverse, applied to a fraction. -/
def scale (base : Nat) (e : Int) (a b : Nat) : Nat × Nat :=
  (a * Nat.pow base e.toNat, b * Nat.pow base (-e).toNat)

def ofFraction (negative : Bool) (a b : Nat) : Real :=
  if a = 0 then .finite negative 0 0
  else
    let guess := Int.ofNat (magnitude 2 a) - Int.ofNat (magnitude 2 b)
    let place (e : Int) : Int := max (-1074) (e - 52)
    let rounded (e : Int) : Nat :=
      let (a, b) := scale 2 (-(place e)) a b
      roundDiv a b
    let e := if rounded guess < 4503599627370496 && -1074 < place guess then guess - 1 else guess
    let m := rounded e
    let (m, q) := if 9007199254740992 ≤ m then (m / 2, place e + 1) else (m, place e)
    if 971 < q then .infinite negative else .finite negative m q

/-- The digits in front of a text, and what follows them. -/
def digitRun (test : Char → Bool) (cs : List Char) : List Char × List Char :=
  let ds := cs.takeWhile test
  (ds, cs.drop ds.length)

/-- The exponent behind a letter, and what follows it; none if there is no number behind the letter. -/
def exponentPart (letter : Char) (cs : List Char) : Int × List Char :=
  match cs with
  | c :: rest =>
    if c.toLower = letter then
      let (negative, body) := match rest with
        | '-' :: body => (true, body)
        | '+' :: body => (false, body)
        | body => (false, body)
      let (ds, behind) := digitRun Char.isDigit body
      if ds.isEmpty then (0, cs)
      else
        let n : Int := Nat.ofDigitChars 10 (ds.take 8) 0
        (if negative then -n else n, behind)
    else (0, cs)
  | [] => (0, cs)

/-- The number that digits around a point stand for, with an exponent, and what follows it. -/
def positional (negative : Bool) (base : Nat) (letter : Char) (step : Nat) (cs : List Char) :
    Option (Real × List Char) :=
  let isDigit (c : Char) : Bool := Integer.digitValue c < base
  let (whole, rest) := digitRun isDigit cs
  let (part, rest) := match rest with
    | '.' :: body => digitRun isDigit body
    | _ => ([], rest)
  if whole.isEmpty && part.isEmpty then none
  else
    let (e, rest) := exponentPart letter rest
    let value := (whole ++ part).foldl (fun n c => n * base + Integer.digitValue c) 0
    let power := if base = 16 then 2 else 10
    let e := max (-5000) (min 5000 e)
    let (a, b) := scale power (e - Int.ofNat (part.length * step)) value 1
    some (ofFraction negative a b, rest)

/-- The number in front of a text, behind blanks, and what follows it; if there is none, all of the text
follows. -/
def read (cs : List Char) : Real × List Char :=
  let isSpace (c : Char) : Bool := c = ' ' || (9 ≤ c.toNat && c.toNat ≤ 13)
  let (negative, body) := match cs.dropWhile isSpace with
    | '-' :: body => (true, body)
    | '+' :: body => (false, body)
    | body => (false, body)
  let lower (n : Nat) : List Char := (body.take n).map Char.toLower
  if lower 8 = "infinity".toList then (.infinite negative, body.drop 8)
  else if lower 3 = "inf".toList then (.infinite negative, body.drop 3)
  else if lower 3 = "nan".toList then (.undefined negative, body.drop 3)
  else
    let hexadecimal := if lower 2 = "0x".toList then positional negative 16 'p' 4 (body.drop 2) else none
    match hexadecimal with
    | some result => result
    | none => (positional negative 10 'e' 1 body).getD (.finite false 0 0, cs)

def isNegative : Real → Bool
  | .finite n _ _ | .infinite n | .undefined n => n

def fraction (mantissa : Nat) (exponent : Int) : Nat × Nat := scale 2 exponent mantissa 1

/-- Digits with a point in front of the last `places`, which `always` may ask for. -/
def pointed (always : Bool) (places : Nat) (n : Nat) : List Char :=
  let ds := Nat.toDigits 10 n
  let ds := List.replicate (places + 1 - ds.length) '0' ++ ds
  let whole := ds.take (ds.length - places)
  if places = 0 then whole ++ (if always then ['.'] else []) else whole ++ '.' :: ds.drop whole.length

/-- A number with a given number of places behind the point. -/
def fixed (always : Bool) (places mantissa : Nat) (exponent : Int) : List Char :=
  let (a, b) := fraction mantissa exponent
  pointed always places (roundDiv (a * Nat.pow 10 places) b)

/-- The digits of a number, one in front of the point and others behind it, and its power of ten. -/
def decimalDigits (places mantissa : Nat) (exponent : Int) : Nat × Int :=
  if mantissa = 0 then (0, 0)
  else
    let (a, b) := fraction mantissa exponent
    let guess := Int.ofNat (magnitude 10 a) - Int.ofNat (magnitude 10 b)
    let below : Bool :=
      let (x, y) := scale 10 (-guess) a b
      x < y
    let e := if below then guess - 1 else guess
    let (x, y) := scale 10 (Int.ofNat places - e) a b
    let n := roundDiv x y
    if Nat.pow 10 (places + 1) ≤ n then (n / 10, e + 1) else (n, e)

def exponentText (e : Int) : List Char :=
  let ds := Nat.toDigits 10 e.natAbs
  'e' :: (if e < 0 then '-' else '+') :: (List.replicate (2 - ds.length) '0' ++ ds)

/-- A number with one digit in front of the point, a given number behind it, and a power of ten. -/
def scientific (always : Bool) (places mantissa : Nat) (exponent : Int) : List Char :=
  let (n, e) := decimalDigits places mantissa exponent
  pointed always places n ++ exponentText e

/-- Digits without the zeros behind a point that nothing follows. -/
def stripped (cs : List Char) : List Char :=
  if cs.contains '.' then
    let body := (cs.reverse.dropWhile (· = '0')).reverse
    if body.getLast? = some '.' then body.dropLast else body
  else cs

/-- A number with a given number of digits, written in the shorter of the two ways. -/
def general (always : Bool) (digits mantissa : Nat) (exponent : Int) : List Char :=
  let digits := max 1 digits
  let (n, e) := decimalDigits (digits - 1) mantissa exponent
  let tidy (cs : List Char) : List Char := if always then cs else stripped cs
  if -4 ≤ e && e < Int.ofNat digits then
    tidy (fixed always (Int.ofNat digits - 1 - e).toNat mantissa exponent)
  else tidy (pointed always (digits - 1) n) ++ exponentText e

/-- A number in base sixteen with a power of two. -/
def hexadecimal (mantissa : Nat) (exponent : Int) : List Char :=
  if mantissa = 0 then "0x0p+0".toList
  else
    let e := Int.ofNat (magnitude 2 mantissa)
    let aligned := mantissa * Nat.pow 2 (52 - e).toNat
    let ds := Nat.toDigits 16 (aligned % 4503599627370496)
    let ds := List.replicate (13 - ds.length) '0' ++ ds
    let part := (ds.reverse.dropWhile (· = '0')).reverse
    let power := e + exponent
    "0x1".toList ++ (if part.isEmpty then [] else '.' :: part) ++
      'p' :: (if power < 0 then '-' else '+') :: Nat.toDigits 10 power.natAbs

end Real

end Mend.Process

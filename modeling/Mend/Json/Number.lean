import Mend.Json.Scan

/-!
# Numbers in JSON text

A numeral without fraction and exponent is an integer if it fits 64 bits, signed or not; every other
numeral is a real of 64 bits. A real is computed from as many leading digits as fit 64 bits and a
power of ten, and one that is too large for the format is refused.

* `Literal` : the parts of a numeral;
* `literal` : its shape;
* `Literal.value` : the number it stands for;
* `scanNumber` : both ways of reading it.
-/

namespace Mend.Json

/-- A number: a natural number below `2 ^ 64`, a negative integer from `-2 ^ 63` on, or the bits of a
real. -/
inductive Number where
  | natural (n : Nat)
  | negative (n : Int)
  | real (bits : UInt64)
deriving DecidableEq

/-- The parts of a numeral: the digits before the point, behind it, and the exponent with its sign. -/
structure Literal where
  negative : Bool
  whole : List Nat
  fraction : Option (List Nat)
  exponent : Option (Bool × List Nat)

/-- The digits in front of a text, and what follows them. -/
def digitRun : Text → List Nat × Text
  | some c :: t =>
    if c.isDigit then
      let (ds, rest) := digitRun t
      ((c.toNat - '0'.toNat) :: ds, rest)
    else ([], some c :: t)
  | t => ([], t)

/-- The exponent of a numeral, from behind its `e`: a sign, if there is one, and digits. -/
def exponentPart (t : Text) : Option (Bool × List Nat) × Text :=
  let (negative, t) := match t with
    | some '+' :: t => (false, t)
    | some '-' :: t => (true, t)
    | t => (false, t)
  match digitRun t with
  | ([], rest) => (none, rest)
  | (ds, rest) => (some (negative, ds), rest)

def withExponent (l : Literal) : Text → Option Literal × Text
  | some 'e' :: t | some 'E' :: t =>
    match exponentPart t with
    | (none, rest) => (none, rest)
    | (some e, rest) => (some { l with exponent := some e }, rest)
  | t => (some l, t)

def withFraction (l : Literal) : Text → Option Literal × Text
  | some '.' :: t =>
    match digitRun t with
    | ([], rest) => (none, rest)
    | (ds, rest) => withExponent { l with fraction := some ds } rest
  | t => withExponent l t

/-- The numeral in front of a text. Without one, the text behind the part that is well formed. A
numeral has no leading zero before another digit. -/
def literal (t : Text) : Option Literal × Text :=
  let (negative, t) := match t with
    | some '-' :: t => (true, t)
    | t => (false, t)
  match digitRun t with
  | ([], rest) => (none, rest)
  | (0 :: d :: _, rest) => (none, some (Nat.digitChar d) :: rest)
  | (ds, rest) => withFraction ⟨negative, ds, none, none⟩ rest

def significandLimit : Nat := 18446744073709551615

/-- Digits appended to a significand while it fits; the second component counts those left out. -/
def accumulate : Nat → List Nat → Nat × Nat
  | n, [] => (n, 0)
  | n, d :: ds =>
    if n * 10 + d ≤ significandLimit then accumulate (n * 10 + d) ds else (n, ds.length + 1)

def powerOfTen (n : Nat) : Float :=
  Float.ofScientific 1 false n

/-- `f` times ten to the power `e`; `none` if that is too large for the format. Powers beyond the
format are taken in several steps, at most `steps`. -/
def scale : Nat → Float → Int → Option Float
  | 0, f, _ => some f
  | steps + 1, f, e =>
    if e.natAbs ≤ 308 then
      if 0 ≤ e then
        let g := f * powerOfTen e.natAbs
        if g.isInf then none else some g
      else some (f / powerOfTen e.natAbs)
    else if f == 0 then some f
    else if 0 ≤ e then none
    else scale steps (f / powerOfTen 308) (e + 308)

namespace Literal

/-- The bits of the real with the given sign, significand and power of ten. -/
def real (negative : Bool) (significand : Nat) (e : Int) : Except Fault Number :=
  match scale 4 significand.toUInt64.toFloat e with
  | none => .error .malformed
  | some f => .ok (.real (if negative then -f else f).toBits)

def value (l : Literal) : Except Fault Number :=
  let (whole, excess) := accumulate 0 l.whole
  let (significand, places) := match l.fraction with
    | none => (whole, 0)
    | some ds =>
      let (n, unused) := accumulate whole ds
      (n, ds.length - unused)
  let e : Int := excess - places
  match l.exponent with
  | some (down, ds) =>
    let size : Nat := ds.foldl (fun n d => n * 10 + d) 0
    if size < 2147483648 then real l.negative significand (if down then e - Int.ofNat size else e + Int.ofNat size)
    else if significand ≠ 0 ∧ !down then .error .malformed
    else .ok (.real (if l.negative then -0.0 else 0.0 : Float).toBits)
  | none =>
    if l.fraction.isSome ∨ excess ≠ 0 then real l.negative significand e
    else if !l.negative then .ok (.natural significand)
    else if significand = 0 ∨ 9223372036854775808 < significand then real true significand 0
    else .ok (.negative (-(significand : Int)))

end Literal

/-- A number read from its first character, and what follows it. A numeral that breaks off is a fault
of its own when its value is wanted; a reader that skips it only sees that it is no number. -/
def scanNumber (t : Text) : Scan Number × Text :=
  match literal t with
  | (some l, rest) => (⟨l.value, .ok ()⟩, rest)
  | (none, rest) => (⟨.error (faultAt rest), .error .malformed⟩, rest)

end Mend.Json

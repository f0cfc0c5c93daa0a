import Mend.Text.Decimal

/-!
# Shortest decimals

The decimal text of a binary floating-point number of 64 bits: the fewest digits that read back as
the same number, and of those the nearest to it.

* `Binary` : a positive number `mantissa * 2 ^ exponent`, with the gap below it;
* `Binary.shortest` : its digits and the power of ten of the last one;
* `realText` : the text of the number with the given 64 bits.
-/

namespace Mend.Text

/-- A positive number `mantissa * 2 ^ exponent`. The next smaller number of the format is half as far
away as the next larger one when `narrow` is set. -/
structure Binary where
  mantissa : Nat
  exponent : Int
  narrow : Bool

namespace Binary

/-- Four times the number over a common denominator, and four times the ends of the interval of
reals that round to it: `(low, value, high, denominator)`. -/
def scaled (b : Binary) : Nat × Nat × Nat × Nat :=
  let value := 4 * b.mantissa
  let low := if b.narrow then value - 1 else value - 2
  let high := value + 2
  let up := Nat.pow 2 b.exponent.toNat
  (low * up, value * up, high * up, 4 * Nat.pow 2 (-b.exponent).toNat)

/-- The nearer of the two neighbours of the number on the grid of multiples of `10 ^ place` that
round to it, as a multiple of that power. -/
def onGrid? (b : Binary) (place : Int) : Option Nat :=
  let (low, value, high, den) := b.scaled
  let den := den * Nat.pow 10 place.toNat
  let shift := Nat.pow 10 (-place).toNat
  let (low, value, high) := (low * shift, value * shift, high * shift)
  let below := value / den
  let fits (n : Nat) : Bool :=
    if b.mantissa % 2 = 0 then low ≤ n * den && n * den ≤ high
    else low < n * den && n * den < high
  let far := (below + 1) * den - value
  let near := value - below * den
  match fits below && below ≠ 0, fits (below + 1) with
  | true, true =>
    some (if near < far || (near = far && below % 2 = 0) then below else below + 1)
  | true, false => some below
  | false, true => some (below + 1)
  | false, false => none

/-- The first grid, from coarse to fine, that holds a number that rounds to `b`. -/
def search (b : Binary) : Nat → Int → Nat × Int
  | 0, place => ((b.onGrid? place).getD 0, place)
  | tries + 1, place =>
    match b.onGrid? place with
    | some n => (n, place)
    | none => b.search tries (place - 1)

/-- The fewest digits that read back, as a number and the power of ten it is multiplied by. -/
def shortest (b : Binary) : Nat × Int :=
  let (n, place) := b.search 660 309
  let trailing := ((Nat.toDigits 10 n).reverse.takeWhile (· = '0')).length
  (n / Nat.pow 10 trailing, place + trailing)

end Binary

/-- The text of digits and a power of ten: positional from `0.00001` up to sixteen digits before the
point, always with a point; beyond that one digit before the point and an exponent with its sign. -/
def layout (digits : List Char) (place : Int) : List Char :=
  let count := digits.length
  let point := count + place
  if 0 ≤ place && point ≤ 16 then digits ++ List.replicate place.toNat '0' ++ ['.', '0']
  else if 0 < point && point ≤ 16 then
    digits.take point.toNat ++ ['.'] ++ digits.drop point.toNat
  else if -5 < point && point ≤ 0 then
    ['0', '.'] ++ List.replicate (-point).toNat '0' ++ digits
  else
    let sign := if 0 < point then ['+'] else []
    let exponent := sign ++ (Decimal.ofInt (point - 1)).toList
    match digits with
    | [d] => d :: 'e' :: exponent
    | d :: ds => d :: '.' :: ds ++ 'e' :: exponent
    | [] => exponent

def realText (bits : UInt64) : String :=
  let sign := if bits.toNat / 0x8000000000000000 = 1 then "-" else ""
  let field : Nat := bits.toNat / 0x10000000000000 % 0x800
  let fraction : Nat := bits.toNat % 0x10000000000000
  if field = 0 && fraction = 0 then sign ++ "0.0"
  else
    let binary : Binary :=
      if field = 0 then ⟨fraction, -1074, false⟩
      else ⟨0x10000000000000 + fraction, Int.ofNat field - 1075, fraction = 0 && 1 < field⟩
    let (n, place) := binary.shortest
    sign ++ String.ofList (layout (Nat.toDigits 10 n) place)

end Mend.Text

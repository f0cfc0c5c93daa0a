/-!
# Decimal numerals

Numerals as they stand in fields and on the command line: a run of ASCII digits, with an optional
sign where a sign is allowed. Nothing else (no blank, no separator, no second sign) is a numeral.

* `digits?` : the value of a run of digits;
* `natural?` : an optional `+`, then digits;
* `integer?` : an optional `+` or `-`, then digits;
* `ofNat`, `ofInt` : the shortest numeral of a number.
-/

namespace Mend.Text.Decimal

/-- The value of a run of digits, if `cs` is one and is not empty. -/
def digits? (cs : List Char) : Option Nat :=
  if cs.isEmpty || !cs.all Char.isDigit then none else some (Nat.ofDigitChars 10 cs 0)

/-- The value of an optional `+` followed by digits. -/
def natural? : List Char → Option Nat
  | '+' :: cs => digits? cs
  | cs => digits? cs

/-- The value of an optional sign followed by digits. -/
def integer? : List Char → Option Int
  | '-' :: cs => (digits? cs).map fun n => -(n : Int)
  | cs => (natural? cs).map fun n => (n : Int)

/-- The numeral of a natural number, without leading zeros. -/
def ofNat (n : Nat) : String :=
  String.ofList (Nat.toDigits 10 n)

/-- The numeral of an integer: a `-` in front of the digits of a negative one. -/
def ofInt : Int → String
  | .ofNat n => ofNat n
  | .negSucc n => "-" ++ ofNat (n + 1)

end Mend.Text.Decimal

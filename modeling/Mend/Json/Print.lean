import Mend.Text.Decimal

/-!
# Printing JSON

* `escapeChar`, `quoted` : a string between double quotes;
* `array` : values between brackets.
-/

namespace Mend.Json

def escapeChar (c : Char) : List Char :=
  if c = '"' then ['\\', '"']
  else if c = '\\' then ['\\', '\\']
  else if c.toNat < 0x20 then
    ['\\', 'u', '0', '0', Nat.digitChar (c.toNat / 16), Nat.digitChar (c.toNat % 16)]
  else [c]

def quoted (s : String) : String :=
  "\"" ++ String.ofList (s.toList.flatMap escapeChar) ++ "\""

def array (values : List String) : String :=
  "[" ++ ",".intercalate values ++ "]"

end Mend.Json

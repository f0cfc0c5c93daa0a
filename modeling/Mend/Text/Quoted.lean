import Mend.Text.Printable

/-!
# Quoted text

How a text is shown inside a message: between double quotes, with a backslash in front of a double
quote or a backslash, short escapes for NUL, tab, line feed and carriage return, and `\u{hex}` for
every other character that would not show itself.

* `escape` : the spelling of one character;
* `quote` : the spelling of a text.
-/

namespace Mend.Text

/-- The lower-case hexadecimal numeral of `n`. -/
def hex (n : Nat) : List Char :=
  Nat.toDigits 16 n

def escape (c : Char) : List Char :=
  if c = '"' then ['\\', '"']
  else if c = '\\' then ['\\', '\\']
  else if c.toNat = 0 then ['\\', '0']
  else if c = '\t' then ['\\', 't']
  else if c = '\n' then ['\\', 'n']
  else if c = '\r' then ['\\', 'r']
  else if isPrintable c then [c]
  else ['\\', 'u', '\x7b'] ++ hex c.toNat ++ ['\x7d']

def quote (s : String) : String :=
  "\"" ++ String.ofList (s.toList.flatMap escape) ++ "\""

/-- Quoted texts between square brackets, separated by commas. -/
def quoteList (items : List String) : String :=
  "[" ++ ", ".intercalate (items.map quote) ++ "]"

end Mend.Text

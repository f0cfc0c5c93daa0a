/-!
# Lines

* `lines` : the lines of a text, without their ends.
-/

namespace Mend.Text

/-- A line without a carriage return at its end. -/
def dropReturn (cs : List Char) : List Char :=
  if cs.getLast? = some '\r' then cs.dropLast else cs

/-- The lines of a text. A line ends in `\n` or `\r\n`; the last one need not end in either, and an
empty rest behind the last end is no line. -/
def lines (s : String) : List String :=
  let pieces := s.toList.splitOn '\n'
  let ended := pieces.dropLast.map dropReturn
  let rest := (pieces.getLast?.getD [])
  (if rest = [] then ended else ended ++ [rest]).map String.ofList

end Mend.Text

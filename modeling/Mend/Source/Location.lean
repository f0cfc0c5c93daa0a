import Mend.Path
import Mend.Text.Decimal

/-!
# Places in a source file

Lines and columns count from one, and columns count bytes; zero is representable and names nothing.

* `Coordinate` : a line and a column, ordered by line first;
* `Span` : the first and the last coordinate of a piece of source, both inside it;
* `Location` : a coordinate in a file.
-/

namespace Mend

/-- A line and a column. -/
structure Coordinate where
  line : Nat
  column : Nat
deriving DecidableEq, Inhabited

namespace Coordinate

/-- Source order: by line, then by column. -/
protected def compare (a b : Coordinate) : Ordering :=
  (Ord.compare a.line b.line).then (Ord.compare a.column b.column)

instance : Ord Coordinate := ⟨Coordinate.compare⟩

/-- Whether `a` stands before `b` or on it. -/
def le (a b : Coordinate) : Bool :=
  a.line < b.line || (a.line == b.line && a.column ≤ b.column)

end Coordinate

/-- Where a piece of source starts and ends; both coordinates belong to it. -/
structure Span where
  startLine : Nat
  startColumn : Nat
  endLine : Nat
  endColumn : Nat
deriving DecidableEq, Inhabited

namespace Span

def start (s : Span) : Coordinate := ⟨s.startLine, s.startColumn⟩

def stop (s : Span) : Coordinate := ⟨s.endLine, s.endColumn⟩

/-- Whether `point` lies in the span. -/
def contains (s : Span) (point : Coordinate) : Bool :=
  s.start.le point && point.le s.stop

end Span

/-- A point in a source file. -/
structure Location where
  file : Path
  point : Coordinate
deriving DecidableEq, Inhabited

namespace Location

def moduleName (l : Location) : String := l.file.moduleName

/-- `file:line:column`, with the file as it was written. -/
def text (l : Location) : String :=
  l.file.text ++ ":" ++ Text.Decimal.ofNat l.point.line ++ ":" ++ Text.Decimal.ofNat l.point.column

end Location

end Mend

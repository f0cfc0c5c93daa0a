import Mend.Source.Location
import Mend.Total

/-!
# Splicing text into a source file

A span is replaced by counting lines, then bytes within the line. The last coordinate of a span
belongs to it, so the character that begins there goes as a whole.

* `lines` : a text cut behind every line feed;
* `takeBytes`, `dropBytes` : the longest prefix of whole characters within a number of bytes, and
  what follows it;
* `offset` : the byte offset of a coordinate, which must name the first byte of a character of its
  line;
* `splice` : a text with a span replaced.
-/

namespace Mend.Source

/-- Why a span names no piece of a text. -/
inductive SpliceError where
  | notOneBased (line column : Nat)
  | pastEnd (line : Nat)
  | outsideLine (line column : Nat)
  | reversed (span : Span)
deriving DecidableEq

/-- A text cut behind every line feed; a last line needs none, and the empty text has no line. -/
def lines : List Char → List (List Char)
  | [] => []
  | '\n' :: cs => ['\n'] :: lines cs
  | c :: cs =>
    match lines cs with
    | [] => [[c]]
    | l :: ls => (c :: l) :: ls

/-- The number of bytes a text takes. -/
def byteLength (cs : List Char) : Nat :=
  total Char.utf8Size cs

/-- The longest prefix of whole characters that takes at most `n` bytes. -/
def takeBytes : Nat → List Char → List Char
  | _, [] => []
  | n, c :: cs => if c.utf8Size ≤ n then c :: takeBytes (n - c.utf8Size) cs else []

/-- What follows `takeBytes n`. -/
def dropBytes : Nat → List Char → List Char
  | _, [] => []
  | n, c :: cs => if c.utf8Size ≤ n then dropBytes (n - c.utf8Size) cs else c :: cs

/-- Whether a character begins at byte offset `n`. -/
def beginsChar (n : Nat) (cs : List Char) : Bool :=
  n < byteLength cs && byteLength (takeBytes n cs) == n

def body (line : List Char) : List Char :=
  if line.getLast? = some '\n' then line.dropLast else line

/-- The byte offset of the character that begins at a line and column. -/
def offset (content : List Char) (line column : Nat) : Except SpliceError Nat :=
  if line = 0 ∨ column = 0 then .error (.notOneBased line column)
  else
    match (lines content)[line - 1]? with
    | none => .error (.pastEnd line)
    | some text =>
      if beginsChar (column - 1) (body text) then
        .ok (total byteLength ((lines content).take (line - 1)) + (column - 1))
      else .error (.outsideLine line column)

/-- The number of bytes of the character that begins at byte offset `n`. -/
def charBytes (n : Nat) (content : List Char) : Nat :=
  ((dropBytes n content).head?.map Char.utf8Size).getD 0

/-- `content` with the characters from the first to the last coordinate of `span` replaced. -/
def spliceChars (content replacement : List Char) (span : Span) : Except SpliceError (List Char) := do
  let first ← offset content span.startLine span.startColumn
  let last ← offset content span.endLine span.endColumn
  if last < first then .error (.reversed span)
  else
    .ok (takeBytes first content ++ replacement ++ dropBytes (last + charBytes last content) content)

def splice (content replacement : String) (span : Span) : Except SpliceError String :=
  (spliceChars content.toList replacement.toList span).map String.ofList

end Mend.Source

namespace Mend.Span

/-- The span with its field names, as messages show it. -/
def text (s : Span) : String :=
  let field (name : String) (n : Nat) := name ++ ": " ++ Text.Decimal.ofNat n
  "SourceSpan \x7b " ++ ", ".intercalate
    [field "start_line" s.startLine, field "start_column" s.startColumn,
     field "end_line" s.endLine, field "end_column" s.endColumn] ++ " \x7d"

end Mend.Span

namespace Mend.Source.SpliceError

def message : SpliceError → String
  | .notOneBased line column =>
    Text.Decimal.ofNat line ++ ":" ++ Text.Decimal.ofNat column ++ " is not 1-based"
  | .pastEnd line => "line " ++ Text.Decimal.ofNat line ++ " is past the end of the file"
  | .outsideLine line column =>
    "column " ++ Text.Decimal.ofNat column ++ " is outside line " ++ Text.Decimal.ofNat line
  | .reversed span => "span ends before it starts: " ++ span.text

end Mend.Source.SpliceError

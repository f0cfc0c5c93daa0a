/-!
# UTF-8

Files and program output are bytes; most of them are text. This module reads bytes as text.

* `symbols` : the characters of a byte sequence, with a hole for every maximal run of bytes that
  begins a character and does not finish it, and for every byte that begins none;
* `lossy` : the same text with U+FFFD in the holes;
* `text?` : the text of a byte sequence without holes.
-/

namespace Mend.Text.Utf8

/-- What a first byte promises: the bits it carries, the number of bytes to follow, and the range
of the first of these. -/
structure Lead where
  bits : Nat
  tails : Nat
  low : Nat
  high : Nat

/-- The promise of a first byte; `none` for a byte that begins no character. -/
def lead? (b : Nat) : Option Lead :=
  if b < 0x80 then some ⟨b, 0, 0, 0⟩
  else if b < 0xc2 then none
  else if b < 0xe0 then some ⟨b - 0xc0, 1, 0x80, 0xbf⟩
  else if b = 0xe0 then some ⟨0, 2, 0xa0, 0xbf⟩
  else if b = 0xed then some ⟨0xd, 2, 0x80, 0x9f⟩
  else if b < 0xf0 then some ⟨b - 0xe0, 2, 0x80, 0xbf⟩
  else if b = 0xf0 then some ⟨0, 3, 0x90, 0xbf⟩
  else if b < 0xf4 then some ⟨b - 0xf0, 3, 0x80, 0xbf⟩
  else if b = 0xf4 then some ⟨4, 3, 0x80, 0x8f⟩
  else none

/-- A piece of a byte sequence: a character, or some bytes that are none. -/
inductive Symbol where
  | char (c : Char)
  | hole (bytes : Nat)

/-- The character of a symbol, with U+FFFD for a hole. -/
def Symbol.shown : Symbol → Char
  | .char c => c
  | .hole _ => '\ufffd'

/-- Where a reader stands: between characters, or inside one of which it has `taken` bytes and that
still owes `owed + 1`. -/
inductive State where
  | between
  | inside (bits taken owed low high : Nat)

/-- The state after a first byte, with the symbol it completes or spoils. -/
def begin (b : Nat) : State × List Symbol :=
  match lead? b with
  | none => (.between, [.hole 1])
  | some ⟨bits, 0, _, _⟩ => (.between, [.char (Char.ofNat bits)])
  | some ⟨bits, owed + 1, low, high⟩ => (.inside bits 1 owed low high, [])

/-- One byte further. A byte that does not continue the character under way leaves a hole there and
begins anew. -/
def step : State → Nat → State × List Symbol
  | .between, b => begin b
  | .inside bits taken owed low high, b =>
    if low ≤ b && b ≤ high then
      let bits := bits * 64 + (b - 0x80)
      match owed with
      | 0 => (.between, [.char (Char.ofNat bits)])
      | owed + 1 => (.inside bits (taken + 1) owed 0x80 0xbf, [])
    else
      let (state, found) := begin b
      (state, .hole taken :: found)

/-- The symbols of the bytes that follow in state `state`. -/
def symbolsFrom : State → List UInt8 → List Symbol
  | .between, [] => []
  | .inside _ taken _ _ _, [] => [.hole taken]
  | state, b :: bs =>
    let (state, found) := step state b.toNat
    found ++ symbolsFrom state bs

/-- The characters of a byte sequence, with a hole for every run that is no character. -/
def symbols (bytes : ByteArray) : List Symbol :=
  symbolsFrom .between bytes.toList

/-- The text of a byte sequence, with U+FFFD for every run that is no character. -/
def lossy (bytes : ByteArray) : String :=
  String.ofList ((symbols bytes).map Symbol.shown)

/-- The text of a byte sequence, if it is one. -/
def text? (bytes : ByteArray) : Option String :=
  String.fromUTF8? bytes

end Mend.Text.Utf8

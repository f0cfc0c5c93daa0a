/-!
# Bytes as characters

Bytes can be worked on as a text in which every character stands for one of them.

* `octets` : the text of bytes;
* `ofOctets` : the bytes of such a text.
-/

namespace Mend.Text

def octets (bytes : List UInt8) : String :=
  String.ofList (bytes.map fun b => Char.ofNat b.toNat)

/-- The bytes that the characters of a text stand for. -/
def ofOctets (s : String) : List UInt8 :=
  s.toList.map fun c => c.toNat.toUInt8

end Mend.Text

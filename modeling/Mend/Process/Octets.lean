import Mend.Path
import Mend.Text.Octets
import Mend.Text.Utf8

/-!
# Texts of bytes

Scripts and the programs they start know bytes, not characters. In this part of the library a text is a
string whose characters stand for single bytes, so that every operation on characters is one on bytes.

* `octets`, `bytesOf` : between byte sequences and such texts;
* `encode`, `decode` : between ordinary texts and such texts;
* `pathOf` : the path with a given name.
-/

namespace Mend.Process

def octets (bytes : ByteArray) : String := Text.octets bytes.toList

def bytesOf (s : String) : ByteArray := (Text.ofOctets s).toByteArray

/-- An ordinary text, byte by byte. -/
def encode (s : String) : String := octets s.toUTF8

def decode (s : String) : String := Text.Utf8.lossy (bytesOf s)

def pathOf (name : String) : Path := ⟨decode name⟩

def isWordLetter (c : Char) : Bool := c.isAlphanum || c = '_'

end Mend.Process

import Mend.Path
import Mend.Text.Octets
import Mend.Text.Utf8

/-!
# Paths of bytes

A path of the system is bytes, and they need not be a text. What its components are depends only on where
separators and dots stand, so they are those of the path whose characters stand for the bytes.

* `BytePath` : such a path; `BytePath.ofPath` : the bytes of a path that is a text;
* `BytePath.octets` : its bytes as characters;
* `BytePath.moduleName` : the name of its module, which is a text.
-/

namespace Mend

structure BytePath where
  bytes : List UInt8
deriving DecidableEq

namespace BytePath

def ofPath (p : Path) : BytePath := ⟨p.text.toUTF8.data.toList⟩

instance : Append BytePath := ⟨fun p q => ⟨p.bytes ++ q.bytes⟩⟩

/-- The path whose characters stand for the bytes. -/
def octets (p : BytePath) : Path := ⟨Text.octets p.bytes⟩

/-- The name of the module in the file at a path: the components after a leading `.`, plainly spelled, with
U+FFFD for bytes that are no text. -/
def moduleName (p : BytePath) : String :=
  Text.Utf8.lossy (Text.ofOctets p.octets.moduleName).toByteArray

end BytePath

end Mend

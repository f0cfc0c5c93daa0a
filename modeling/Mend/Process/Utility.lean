import Mend.Process.Utility.Edit
import Mend.Process.Utility.Search
import Mend.Process.Utility.Test
import Mend.Process.Utility.Words

/-!
# The small programs by name

The programs that scripts start, as part of the outer layer around `Programs.shell`.

* `utilities` : the programs that start no others;
* `utility?` : the one with a given name.
-/

namespace Mend.Process

def utilities : List (String × Utility) :=
  [("true", fun _ s => .ofStatus s 0), ("false", fun _ s => .ofStatus s 1), ("test", test),
   ("[", bracketTest), ("echo", echoProgram), ("printf", printfProgram), ("cat", cat), ("tee", tee),
   ("grep", grep), ("egrep", fun args => grep ("-E" :: args)), ("fgrep", fun args => grep ("-F" :: args)),
   ("sed", sed), ("head", ends "head" false), ("tail", ends "tail" true), ("wc", wc),
   ("sort", sort), ("uniq", uniq), ("cut", cut), ("tr", tr), ("seq", seq), ("rm", rm), ("rmdir", rmdir),
   ("cp", cp), ("mv", mv), ("touch", touch), ("mkdir", mkdir), ("chmod", chmod), ("ls", ls),
   ("cmp", cmp), ("diff", diff), ("basename", basename), ("dirname", dirname), ("expr", expr),
   ("sleep", sleep), ("pwd", pwd), ("printenv", printenv)]

def utility? (name : String) : Option Utility := utilities.lookup name

end Mend.Process

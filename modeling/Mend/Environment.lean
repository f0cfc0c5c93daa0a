import Mend.Path

/-!
# The environment

The variables that a program finds when it starts and hands on to the programs it starts itself.

* `Environment` : the variables; `Environment.get?` : the value of one;
* `Environment.home`, `Environment.configHome`, `Environment.database` : the ones that mean something
  to this program.
-/

namespace Mend

/-- Variables with their values; of two with one name the first counts. -/
structure Environment where
  bindings : List (String × String)

namespace Environment

def get? (e : Environment) (name : String) : Option String :=
  e.bindings.lookup name

/-- The variables that count, each once. -/
def distinct (e : Environment) : List (String × String) :=
  e.bindings.foldl (fun kept b => if kept.any (·.1 = b.1) then kept else kept ++ [b]) []

/-- The user's home directory, if `HOME` names one. The directory that the system keeps for the account is no
variable; where `HOME` is unset or empty it counts only if it is put in that place. -/
def home (e : Environment) : Option Path :=
  ((e.get? "HOME").filter (!·.isEmpty)).map Path.mk

/-- The directory of the user's configuration files. -/
def configHome (e : Environment) : Option Path :=
  (e.get? "XDG_CONFIG_HOME").map Path.mk

def database (e : Environment) : Option Path :=
  (e.get? "TOURNIQUET_DB").map Path.mk

end Environment

end Mend

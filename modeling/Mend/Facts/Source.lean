import Mend.Facts.Store

/-!
# Fact sources

The two look-ups that resolving a patch template needs. A source answers in a monad, so that one
whose answers change from call to call is a source too.

* `FactSource` : the look-ups;
* `Store.source` : those of a store;
* `FactSource.none`, `FactSource.failing` : a source that knows nothing, and one that always fails.
-/

namespace Mend

/-- The look-ups that a patch template makes. -/
structure FactSource (m : Type → Type) where
  functionContaining : Location → m (Except FactError (Option FunctionDef))
  statementAt : Location → m (Except FactError (Option Statement))

def Store.source (s : Store) : FactSource Id where
  functionContaining l := .ok (s.functionContaining l)
  statementAt l := .ok (s.statementAt l)

namespace FactSource

protected def none : FactSource Id where
  functionContaining _ := .ok .none
  statementAt _ := .ok .none

/-- A source whose every look-up fails. -/
def failing (e : FactError) : FactSource Id where
  functionContaining _ := .error e
  statementAt _ := .error e

end FactSource

end Mend

import Mend.Patch.Resolve

/-!
# Patch templates

A template is a statement list to put in place of a statement, and a gate on where it is tried.

* `Template.appliesAt` : the gate; it has no say in what `Template.concretize` gives;
* `builtins` : the templates that every command offers;
* `Registry` : templates by name; a name is taken once.
-/

namespace Mend.Patch

/-- A replacement and where it is worth trying. Without a gate it is tried everywhere. -/
structure Template where
  pattern : List Stmt
  gate : Option (Coordinate → Bool)
deriving Inhabited

namespace Template

def appliesAt (t : Template) (point : Coordinate) : Bool :=
  t.gate.all fun g => g point

def onlyAt (point : Coordinate) : Coordinate → Bool :=
  fun p => p = point

def concretize {m : Type → Type} [Monad m] (here : Situation m) (t : Template) :
    m (Except Unresolved Choice) :=
  concretizeList here t.pattern

def view {m : Type → Type} [Monad m] (here : Situation m) (t : Template) :
    m (Except Unresolved String) :=
  (viewList here t.pattern).run

def outline (t : Template) : String :=
  "PatchTemplate \x7b fix_pattern: FixPattern(" ++ outlineList t.pattern ++ "), has_matcher: " ++
    (if t.gate.isSome then "true" else "false") ++ " \x7d"

end Template

/-! ## Built-in templates -/

/-- Runs the statement only if a variable is smaller than an array, and returns 1 otherwise. -/
def bufferGuard : Template :=
  ⟨[.ifThen (.lessThan .variable .bufferSize) [.anchor], .otherwise [.ret (.literal "1")]], none⟩

/-- Returns 1 before the statement if two variables compare in some way. -/
def boundsCheck : Template :=
  ⟨[.ifThen (.compare .variable .variable) [.ret (.literal "1")], .anchor], none⟩

def deleteStatement : Template :=
  ⟨[.expr (.literal ";")], none⟩

/-- The built-in templates, by name. -/
def builtins : List (String × Template) :=
  [("buffer-guard", bufferGuard), ("bounds-check", boundsCheck),
   ("delete-statement", deleteStatement)]

/-! ## Registry -/

/-- Why a registry refuses. -/
inductive RegistryError where
  | nameConflict (name : String)
  | notFound (name : String)
deriving DecidableEq

def RegistryError.message : RegistryError → String
  | .nameConflict name => "a template named `" ++ name ++ "` is already registered"
  | .notFound name => "no template named `" ++ name ++ "`"

def lookup? (name : String) (es : List (String × Template)) : Option Template :=
  (es.find? fun e => e.1 = name).map (·.2)

/-- Templates by name, in the order of their names. -/
structure Registry where
  entries : List (String × Template)
  ordered : entries.Pairwise fun e f => e.1 < f.1

namespace Registry

def empty : Registry := ⟨[], .nil⟩

instance : Inhabited Registry := ⟨empty⟩

def find? (r : Registry) (name : String) : Option Template := lookup? name r.entries

/-- The template with a given name, which has to be there. -/
def get (r : Registry) (name : String) : Except RegistryError Template :=
  match r.find? name with
  | some t => .ok t
  | none => .error (.notFound name)

/-- An entry put into its place among entries in order. -/
def insertEntry (name : String) (t : Template) : List (String × Template) → List (String × Template)
  | [] => [(name, t)]
  | e :: es => if name < e.1 then (name, t) :: e :: es else e :: insertEntry name t es

theorem perm_insertEntry (name : String) (t : Template) (es : List (String × Template)) :
    (insertEntry name t es).Perm ((name, t) :: es) := by
  fun_induction insertEntry name t es with
  | case1 => exact .refl _
  | case2 e es _ => exact .refl _
  | case3 e es _ ih => exact (ih.cons e).trans (.swap _ _ es)

/-- Entries stay in order if the name of the new one is free. -/
theorem pairwise_insertEntry {name : String} (t : Template) {es : List (String × Template)}
    (h : es.Pairwise fun e f => e.1 < f.1) (hfree : lookup? name es = none) :
    (insertEntry name t es).Pairwise fun e f => e.1 < f.1 := by
  have hne : ∀ e ∈ es, e.1 ≠ name := by simpa [lookup?] using hfree
  clear hfree
  fun_induction insertEntry name t es with
  | case1 => exact List.pairwise_singleton _ _
  | case2 e es hlt =>
    refine List.pairwise_cons.mpr ⟨fun f hf => ?_, h⟩
    rcases List.mem_cons.mp hf with rfl | hf
    · exact hlt
    · exact String.lt_trans hlt (List.rel_of_pairwise_cons h hf)
  | case3 e es hle ih =>
    refine List.pairwise_cons.mpr ⟨fun f hf => ?_, ih h.of_cons fun f hf => hne f (List.mem_cons_of_mem _ hf)⟩
    rcases List.mem_cons.mp ((perm_insertEntry name t es).mem_iff.mp hf) with rfl | hf
    · exact Std.lt_of_le_of_ne (String.not_lt.mp hle) (hne e List.mem_cons_self)
    · exact List.rel_of_pairwise_cons h hf

def register (r : Registry) (name : String) (t : Template) : Except RegistryError Registry :=
  match hfree : r.find? name with
  | some _ => .error (.nameConflict name)
  | none => .ok ⟨insertEntry name t r.entries, pairwise_insertEntry t r.ordered hfree⟩

/-- Registers templates in order up to the first one whose name is taken; the earlier ones stay. -/
def registerAll : List (String × Template) → Registry → Registry × Except RegistryError Unit
  | [], r => (r, .ok ())
  | (name, t) :: rest, r =>
    match r.register name t with
    | .ok r => registerAll rest r
    | .error e => (r, .error e)

def names (r : Registry) : List String := r.entries.map (·.1)

end Registry

end Mend.Patch

import Mend.Proofs.Facts.Enclosing
import Mend.Proofs.Files.Spelling

/-!
# Records by their locations

A record is listed under the name of its module and looked up by a location, whose module is read off a
spelling. The two meet if every module is stored under a name that is its own module name.

* `statementAt_first` : of the statements that start at a point the first one is found;
* `Keyed` : modules under such names; `Keyed.collect` : one export;
* `Keyed.statementAt_location`, `Keyed.functionContaining_location` : records lead back to themselves, or to
  those that start with them;
* `moduleNames_collect` : the names stay when a module is collected again;
* `KeepsOnce` : one module for all spellings of a path; `Keyed.keepsOnce` : so it is behind an export.
-/

namespace Mend

namespace Store

theorem statementAt_first {s : Store} (hs : Linked s) {l : Location} {st : Statement}
    (hst : st ∈ s.collectedStatements l.moduleName) (hstart : st.span.start = l.point) :
    ∃ before first after, s.collectedStatements l.moduleName = before ++ first :: after ∧
      s.statementAt l = some first ∧ first.span.start = l.point ∧
        ∀ other ∈ before, other.span.start ≠ l.point := by
  obtain ⟨first, hfirst⟩ := exists_statementAt ((mem_statements hs).mpr hst) hstart
  have hfind := hfirst
  rw [statementAt_eq, ← collectedStatements_eq hs] at hfind
  obtain ⟨-, before, after, hsplit, hbefore⟩ := List.find?_eq_some_iff_append.mp hfind
  exact ⟨before, first, after, hsplit, hfirst, start_of_statementAt hfirst,
    fun other hother => by simpa using hbefore other hother⟩

/-! ## Modules under their own names -/

/-- Every module is stored under a name that is its own module name, with its rows linked to each other. -/
structure Keyed (s : Store) : Prop where
  linked : s.Linked
  names : ∀ m ∈ s.names, Path.moduleName ⟨m⟩ = m

theorem keyed_empty : Keyed empty where
  linked := linked_empty
  names _ h := absurd h List.not_mem_nil

/-- An export under a name that is its own module name keeps the store keyed. -/
theorem Keyed.collect {s s' : Store} {e : Export} {stats : CollectStats} (hs : Keyed s)
    (hname : Path.moduleName ⟨e.moduleName⟩ = e.moduleName) (h : s.collect e = .ok (s', stats)) :
    Keyed s' where
  linked := hs.linked.collect h
  names m hm := by
    rw [names_collect hs.linked h] at hm
    rcases List.mem_append.mp hm with hm | hm
    · exact hs.names m (List.mem_filter.mp hm).1
    · rw [List.mem_singleton.mp hm, hname]

theorem moduleName_of_mem_functions {s : Store} {m : String} {f : FunctionDef} (hf : f ∈ s.functions m) :
    f.moduleName = m := by
  obtain ⟨r, -, hmodule, rfl⟩ := mem_functions.mp hf
  exact hmodule

theorem moduleName_of_mem_statements {s : Store} {m : String} {st : Statement} (hst : st ∈ s.statements m) :
    st.moduleName = m := by
  obtain ⟨r, hr, rfl⟩ := List.mem_map.mp hst
  exact of_decide_eq_true (Table.mem_select.mp hr).2

section Keyed

variable {s : Store} {m : String}

theorem mem_names_of_mem_functions (hs : Linked s) {f : FunctionDef} (hf : f ∈ s.functions m) : m ∈ s.names := by
  refine Classical.not_not.mp fun hm => ?_
  rw [(queries_of_not_mem hs hm).1] at hf
  exact List.not_mem_nil hf

theorem Keyed.moduleName_eq (hs : Keyed s) (hm : m ∈ s.names) (span : Span) :
    (recordLocation m span).moduleName = m := hs.names m hm

/-- The location of a statement leads to the first statement of its module that starts with it. -/
theorem Keyed.statementAt_location (hs : Keyed s) {st : Statement} (hst : st ∈ s.statements m) :
    ∃ before first after, s.collectedStatements m = before ++ first :: after ∧
      s.statementAt st.location = some first ∧ first.span.start = st.span.start ∧
        ∀ other ∈ before, other.span.start ≠ st.span.start := by
  have hmem := (mem_statements hs.linked).mp hst
  obtain ⟨f, hf, -⟩ := List.mem_flatMap.mp hmem
  have hmodule : st.location.moduleName = m := by
    rw [Statement.location, moduleName_of_mem_statements hst]
    exact hs.moduleName_eq (mem_names_of_mem_functions hs.linked hf) _
  rw [← hmodule] at hmem
  obtain ⟨before, first, after, hsplit, hfound, hstart, hbefore⟩ := statementAt_first hs.linked hmem rfl
  exact ⟨before, first, after, hmodule ▸ hsplit, hfound, hstart, hbefore⟩

/-- The location of a function leads to a function of its module that starts with it. -/
theorem Keyed.functionContaining_location (hs : Keyed s) {f : FunctionDef} (hf : f ∈ s.functions m)
    (hspan : f.span.start.le f.span.stop = true) :
    ∃ g ∈ s.functions m, s.functionContaining f.location = some g ∧ g.span.start = f.span.start := by
  have hmodule : f.location.moduleName = m := by
    rw [FunctionDef.location, moduleName_of_mem_functions hf]
    exact hs.moduleName_eq (mem_names_of_mem_functions hs.linked hf) _
  have hself : f.span.contains f.location.point = true := by
    simp [Span.contains, FunctionDef.location, recordLocation, Coordinate.le_refl, hspan]
  obtain ⟨g, hg, hfound, hcontains, hlatest⟩ := functionContaining_latest (hmodule.symm ▸ hf) hself
  refine ⟨g, hmodule ▸ hg, hfound, ?_⟩
  -- the one that is found starts neither later, since it contains the start, nor earlier
  have hle : g.span.start.le f.span.start = true := (Bool.and_eq_true_iff.mp hcontains).1
  exact Coordinate.le_antisymm hle (hlatest f (hmodule.symm ▸ hf) hself)

end Keyed

/-! ## One module for all spellings -/

/-- A store has exactly one module for all spellings of a path, and it holds what an export says. -/
structure KeepsOnce (s : Store) (p : Path) (e : Export) : Prop where
  once : (s.moduleNames.filter fun m => Path.SameSteps ⟨m⟩ p) = [p.moduleName]
  globals : List.Forall₂ DescribesGlobal e.globals (s.globals p.moduleName)
  functions : List.Forall₂ (Describes p.moduleName)
    (e.functions.filter fun f => startsWithDeclaration f.2) (s.functions p.moduleName)

theorem moduleNames_collect {s s' : Store} {e : Export} {stats : CollectStats} (hs : Linked s)
    (h : s.collect e = .ok (s', stats)) (hmem : e.moduleName ∈ s.names) : s'.moduleNames = s.moduleNames := by
  have hmembers : ∀ m, m ∈ s'.names ↔ m ∈ s.names := by
    intro m
    by_cases hm : e.moduleName = m
    · subst hm
      simp [names_collect hs h, hmem]
    · exact mem_names_collect_of_ne hs h hm
  have hperm : s'.moduleNames.Perm s.moduleNames :=
    (List.mergeSort_perm _ _).trans
      (((List.perm_ext_iff_of_nodup s'.nodup s.nodup).mpr hmembers).trans (List.mergeSort_perm _ _).symm)
  refine hperm.eq_of_pairwise (fun a b _ _ hab hba => ?_) (pairwise_moduleNames s') (pairwise_moduleNames s)
  exact absurd (String.lt_trans hab hba) (String.lt_irrefl a)

theorem Keyed.filter_moduleNames {s : Store} (hs : Keyed s) {p : Path} (hp : p.Named)
    (hmem : p.moduleName ∈ s.names) :
    (s.moduleNames.filter fun m => Path.SameSteps ⟨m⟩ p) = [p.moduleName] := by
  have hperm := List.mergeSort_perm s.names fun a b => decide (a ≤ b)
  have hnodup : s.moduleNames.Nodup := hperm.nodup_iff.mpr s.nodup
  have hspelled : ∀ m ∈ s.moduleNames,
      decide (Path.SameSteps ⟨m⟩ p) = decide (m = p.moduleName) := by
    intro m hm
    have hm : Path.moduleName ⟨m⟩ = m := hs.names m (mem_moduleNames.mp hm)
    rw [decide_eq_decide]
    constructor
    · intro hsame
      rw [← hm, Path.moduleName_eq_of_sameSteps (hsame.named_iff.mpr hp) hsame]
    · rintro rfl
      exact Path.sameSteps_moduleName p
  rw [List.filter_congr hspelled, List.filter_eq,
    List.count_eq_one_of_mem hnodup (mem_moduleNames.mpr hmem)]
  rfl

/-- Behind an export under the name of a path, one module holds it for all spellings of that path. -/
theorem Keyed.keepsOnce {s s' : Store} {e : Export} {stats : CollectStats} {p : Path} (hs : Keyed s)
    (h : s.collect e = .ok (s', stats)) (hp : p.Named) (hname : e.moduleName = p.moduleName) :
    KeepsOnce s' p e := by
  have hkeyed : Keyed s' := hs.collect (by rw [hname, Path.moduleName_moduleName]) h
  have hmem : e.moduleName ∈ s'.names := by simp [names_collect hs.linked h]
  have hglobals := globalVariables_describes (globals_collect hs.linked h)
  have hfunctions := functions_collect hs.linked h
  rw [hname] at hmem hglobals hfunctions
  refine ⟨hkeyed.filter_moduleNames hp hmem, hglobals, ?_⟩
  rw [hfunctions]
  exact definedFunctions_describes _ _ _

end Store

end Mend

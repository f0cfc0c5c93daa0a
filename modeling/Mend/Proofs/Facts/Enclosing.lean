import Mathlib.Data.List.Pairwise
import Mend.Proofs.Facts.Numbers
import Mend.Proofs.Facts.Statements

/-!
# The function around a point

A function is looked for by comparing the lines and columns of its start and its end with a point, and of
those that are found the first one in an order by start and number is taken. That is the function whose
span contains the point and starts last; of several that start together, the first one of its module.

* `reaches_eq_contains` : the comparison is containment in the span;
* `comesFirst_iff` : the order of the rows; `Precedes` : that of the functions in them;
* `functionContaining_spec` : what is found is the first in that order;
* `functionContaining_latest` : of the functions at a point the one that starts last is found;
* `pairwise_ids` : the functions of a module are numbered in their order;
* `Span.Inside`, `Span.Apart` : spans as sets of points; `Nested` : functions that do not overlap by halves;
* `Innermost` : the function at a point, by its place in its module;
* `functionContaining_innermost` : all of it for a store.
-/

namespace Mend

/-! ## Spans as sets of points -/

namespace Span

def Inside (a b : Span) : Prop := ∀ p, a.contains p = true → b.contains p = true

/-- No point lies in both spans. -/
def Apart (a b : Span) : Prop := ∀ p, a.contains p = true → b.contains p = false

theorem contains_iff {a : Span} {p : Coordinate} :
    a.contains p = true ↔ a.start.le p = true ∧ p.le a.stop = true :=
  Bool.and_eq_true_iff

theorem contains_start {a : Span} {p : Coordinate} (h : a.contains p = true) : a.contains a.start = true := by
  obtain ⟨hstart, hstop⟩ := contains_iff.mp h
  exact contains_iff.mpr ⟨Coordinate.le_refl _, Coordinate.le_trans hstart hstop⟩

theorem Apart.symm {a b : Span} (h : a.Apart b) : b.Apart a := by
  intro p hp
  refine Bool.eq_false_iff.mpr fun ha => ?_
  rw [h p ha] at hp
  cases hp

theorem inside_of_le {a b : Span} (hstart : b.start.le a.start = true) (hstop : a.stop.le b.stop = true) :
    a.Inside b := by
  intro p hp
  obtain ⟨hfirst, hlast⟩ := contains_iff.mp hp
  exact contains_iff.mpr ⟨Coordinate.le_trans hstart hfirst, Coordinate.le_trans hlast hstop⟩

theorem apart_of_before {a b : Span} (h : a.stop.Before b.start) : a.Apart b := by
  intro p hp
  refine Bool.eq_false_iff.mpr fun hb => ?_
  have hle := Coordinate.le_trans (contains_iff.mp hb).1 (contains_iff.mp hp).2
  exact Coordinate.not_before_of_le hle h

end Span

namespace Store

/-! ## What is looked for -/

theorem reaches_eq_contains (point : Coordinate) (f : FunctionRow) :
    reaches point f = f.span.contains point := by
  rw [reaches, Span.contains, Coordinate.le, Coordinate.le, Bool.beq_comm (a := f.span.start.line)]
  rfl

theorem comesFirst_iff {f g : Row FunctionRow} :
    comesFirst f g = true ↔
      g.cells.span.start.Before f.cells.span.start ∨ f.cells.span.start = g.cells.span.start ∧ f.id ≤ g.id := by
  simp only [comesFirst, Coordinate.Before, Span.start, Coordinate.mk.injEq, Bool.or_eq_true,
    Bool.and_eq_true, decide_eq_true_eq, beq_iff_eq]
  omega

theorem comesFirst_trans {f g h : Row FunctionRow} (hfg : comesFirst f g = true) (hgh : comesFirst g h = true) :
    comesFirst f h = true := by
  simp only [comesFirst, Bool.or_eq_true, Bool.and_eq_true, decide_eq_true_eq, beq_iff_eq] at hfg hgh ⊢
  omega

theorem comesFirst_total (f g : Row FunctionRow) : (comesFirst f g || comesFirst g f) = true := by
  simp only [comesFirst, Bool.or_eq_true, Bool.and_eq_true, decide_eq_true_eq, beq_iff_eq]
  omega

/-- A function starts behind another one, or with it and has the smaller number. -/
def Precedes (f g : FunctionDef) : Prop :=
  g.span.start.Before f.span.start ∨ f.span.start = g.span.start ∧ f.id ≤ g.id

theorem Precedes.le {f g : FunctionDef} (h : Precedes f g) : g.span.start.le f.span.start = true := by
  rcases h with hbefore | ⟨hstart, -⟩
  · exact hbefore.le
  · rw [hstart]
    exact Coordinate.le_refl _

theorem mem_functions {s : Store} {m : String} {f : FunctionDef} :
    f ∈ s.functions m ↔ ∃ r ∈ s.functionRows.rows, r.cells.moduleName = m ∧ s.hydrate r = f := by
  rw [functions, List.mem_map]
  simp only [Table.mem_select, decide_eq_true_eq, and_assoc]

/-! ## What is found -/

section Found

variable {s : Store} {l : Location} {f : FunctionDef}

theorem mem_candidates {r : Row FunctionRow} :
    r ∈ s.functionRows.select (fun r => r.moduleName = l.moduleName && reaches l.point r) comesFirst ↔
      r ∈ s.functionRows.rows ∧ r.cells.moduleName = l.moduleName ∧ r.cells.span.contains l.point = true := by
  rw [Table.mem_select, Bool.and_eq_true, decide_eq_true_eq, reaches_eq_contains]

theorem functionContaining_eq_none_iff :
    s.functionContaining l = none ↔ ∀ f ∈ s.functions l.moduleName, f.span.contains l.point = false := by
  rw [functionContaining, Option.map_eq_none_iff, List.head?_eq_none_iff, List.eq_nil_iff_forall_not_mem]
  simp only [mem_candidates, mem_functions]
  constructor
  · rintro h f ⟨r, hr, hmodule, rfl⟩
    exact Bool.eq_false_iff.mpr fun hcontains => h r ⟨hr, hmodule, hcontains⟩
  · rintro h r ⟨hr, hmodule, hcontains⟩
    have hnot : r.cells.span.contains l.point = false := h _ ⟨r, hr, hmodule, rfl⟩
    rw [hnot] at hcontains
    cases hcontains

/-- The function that is found contains the point, and it comes first among all that do. -/
theorem functionContaining_spec (h : s.functionContaining l = some f) :
    f ∈ s.functions l.moduleName ∧ f.span.contains l.point = true ∧
      ∀ g ∈ s.functions l.moduleName, g.span.contains l.point = true → g ≠ f → Precedes f g := by
  have hsorted : (s.functionRows.select (fun r => r.moduleName = l.moduleName && reaches l.point r)
      comesFirst).Pairwise fun f g => comesFirst f g = true := by
    apply List.pairwise_mergeSort
    · intro f g h
      exact comesFirst_trans
    · exact comesFirst_total
  obtain ⟨r, hr, rfl⟩ := Option.map_eq_some_iff.mp h
  obtain ⟨rest, hrest⟩ := List.head?_eq_some_iff.mp hr
  have hmem := fun q => mem_candidates (s := s) (l := l) (r := q)
  rw [hrest] at hsorted hmem
  obtain ⟨hrow, hmodule, hpoint⟩ := (hmem r).mp List.mem_cons_self
  refine ⟨mem_functions.mpr ⟨r, hrow, hmodule, rfl⟩, hpoint, fun g hg hcontains hne => ?_⟩
  obtain ⟨q, hq, hqmodule, rfl⟩ := mem_functions.mp hg
  have hlater : q ∈ rest := by
    refine (List.mem_cons.mp ((hmem q).mpr ⟨hq, hqmodule, hcontains⟩)).resolve_left fun heq => ?_
    exact hne (congrArg s.hydrate heq)
  exact comesFirst_iff.mp (List.rel_of_pairwise_cons hsorted hlater)

theorem le_of_functionContaining (h : s.functionContaining l = some f) {g : FunctionDef}
    (hg : g ∈ s.functions l.moduleName) (hpoint : g.span.contains l.point = true) :
    g.span.start.le f.span.start = true := by
  by_cases hne : g = f
  · rw [hne]
    exact Coordinate.le_refl _
  · exact ((functionContaining_spec h).2.2 g hg hpoint hne).le

/-- Where a function of the module contains the point, a function is found. It contains the point too, and
none that does starts later. -/
theorem functionContaining_latest (hf : f ∈ s.functions l.moduleName)
    (hpoint : f.span.contains l.point = true) :
    ∃ g ∈ s.functions l.moduleName, s.functionContaining l = some g ∧ g.span.contains l.point = true ∧
      ∀ h ∈ s.functions l.moduleName, h.span.contains l.point = true →
        h.span.start.le g.span.start = true := by
  cases hfound : s.functionContaining l with
  | none =>
    rw [functionContaining_eq_none_iff.mp hfound f hf] at hpoint
    cases hpoint
  | some g =>
    obtain ⟨hg, hcontains, -⟩ := functionContaining_spec hfound
    exact ⟨g, hg, rfl, hcontains, fun h hh => le_of_functionContaining hfound hh⟩

end Found

/-! ## Numbers and order -/

theorem pairwise_ids (s : Store) (m : String) : (s.functions m).Pairwise fun f g => f.id < g.id := by
  rw [← List.pairwise_map (R := (· < ·)), ids_functions]
  exact List.pairwise_map.mpr (s.functionRows.ascending.filter _)

/-- A point in a module leads to the function `f` at its place among the functions of the module: it contains
the point, those in front of it that do so too start before it, and those behind it no later. -/
structure Innermost (functions : List FunctionDef) (point : Coordinate) (f : FunctionDef) : Prop where
  contains : f.span.contains point = true
  place : ∃ before after, functions = before ++ f :: after ∧
    (∀ g ∈ before, g.span.contains point = true → g.span.start.Before f.span.start) ∧
      ∀ g ∈ after, g.span.contains point = true → g.span.start.le f.span.start = true

/-- One function lies inside the other or they have no point in common, and they do not start together. -/
def Nested (f g : FunctionDef) : Prop :=
  (f.span.Inside g.span ∨ g.span.Inside f.span ∨ f.span.Apart g.span) ∧ f.span.start ≠ g.span.start

theorem Nested.symm {f g : FunctionDef} (h : Nested f g) : Nested g f := by
  obtain ⟨hinside | houtside | hapart, hstart⟩ := h
  · exact ⟨.inr (.inl hinside), hstart.symm⟩
  · exact ⟨.inl houtside, hstart.symm⟩
  · exact ⟨.inr (.inr hapart.symm), hstart.symm⟩

instance : Std.Symm Nested := ⟨fun _ _ => Nested.symm⟩

section Innermost

variable {s : Store} {l : Location} {f : FunctionDef}

theorem innermost_of_functionContaining (h : s.functionContaining l = some f) :
    Innermost (s.functions l.moduleName) l.point f := by
  obtain ⟨hf, hpoint, hfirst⟩ := functionContaining_spec h
  obtain ⟨before, after, hsplit⟩ := List.append_of_mem hf
  have hids := s.pairwise_ids l.moduleName
  rw [hsplit] at hids hfirst
  obtain ⟨-, -, hcross⟩ := List.pairwise_append.mp hids
  refine ⟨hpoint, before, after, hsplit, fun g hg hcontains => ?_, fun g hg hcontains => ?_⟩
  · have hlt := hcross g hg f List.mem_cons_self
    have hne : g ≠ f := by
      rintro rfl
      exact Nat.lt_irrefl _ hlt
    -- one in front has a smaller number, so it can only come later by its start
    rcases hfirst g (List.mem_append_left _ hg) hcontains hne with hbefore | ⟨-, hle⟩
    · exact hbefore
    · omega
  · refine le_of_functionContaining h ?_ hcontains
    rw [hsplit]
    exact List.mem_append_right _ (List.mem_cons_of_mem _ hg)

theorem functionContaining_of_innermost (h : Innermost (s.functions l.moduleName) l.point f) :
    s.functionContaining l = some f := by
  obtain ⟨hpoint, before, after, hsplit, hfront, hback⟩ := h
  have hf : f ∈ s.functions l.moduleName := by simp [hsplit]
  obtain ⟨g, hg, hfound, hcontains, -⟩ := functionContaining_latest hf hpoint
  rw [hfound]
  by_cases hne : f = g
  · rw [hne]
  · have hfirst := (functionContaining_spec hfound).2.2 f hf hpoint hne
    have hids := s.pairwise_ids l.moduleName
    rw [hsplit] at hg hids
    rcases List.mem_append.mp hg with hg | hg
    · -- one in front starts before `f`, so that it does not come first
      have hbefore := hfront g hg hcontains
      rcases hfirst with hlater | ⟨hstart, -⟩
      · exact absurd hlater (Coordinate.not_before_of_le hbefore.le)
      · exact absurd hstart hbefore.ne
    · have hg : g ∈ after := (List.mem_cons.mp hg).resolve_left (Ne.symm hne)
      have hlt : f.id < g.id := List.rel_of_pairwise_cons (List.pairwise_append.mp hids).2.1 hg
      rcases hfirst with hlater | ⟨-, hle⟩
      · exact absurd hlater (Coordinate.not_before_of_le (hback g hg hcontains))
      · omega

/-- Where functions are nested or apart, the one that is found lies inside all others around the point. -/
theorem inside_of_functionContaining (hnested : (s.functions l.moduleName).Pairwise Nested)
    (h : s.functionContaining l = some f) {g : FunctionDef} (hg : g ∈ s.functions l.moduleName)
    (hpoint : g.span.contains l.point = true) : f.span.Inside g.span := by
  obtain ⟨hf, hcontains, -⟩ := functionContaining_spec h
  by_cases hne : f = g
  · rw [hne]
    exact fun _ hp => hp
  · obtain ⟨hinside | houtside | hapart, hstart⟩ := hnested.forall hf hg hne
    · exact hinside
    · -- a span around that of `f` would start no later, and the one found starts no earlier
      have hle := (Span.contains_iff.mp (houtside _ (Span.contains_start hpoint))).1
      exact absurd (Coordinate.le_antisymm hle (le_of_functionContaining h hg hpoint)) hstart
    · rw [hapart _ hcontains] at hpoint
      cases hpoint

end Innermost

/-- A point leads to no function exactly if no span of its module contains it. Otherwise it leads to the function
that starts last among those whose spans contain it, and to the first one of these where several start together.
If the functions of the module are nested or apart, and no two of them start together, that is one inside all
others around the point. -/
theorem functionContaining_innermost (s : Store) (l : Location) :
    (s.functionContaining l = none ↔
      ∀ f ∈ s.functions l.moduleName, f.span.contains l.point = false) ∧
    (∀ f, s.functionContaining l = some f ↔ Innermost (s.functions l.moduleName) l.point f) ∧
    ((s.functions l.moduleName).Pairwise Nested → ∀ f, s.functionContaining l = some f →
      ∀ g ∈ s.functions l.moduleName, g.span.contains l.point = true → f.span.Inside g.span) := by
  refine ⟨functionContaining_eq_none_iff, fun f => ⟨?_, ?_⟩, fun hnested f h g hg hpoint => ?_⟩
  · exact innermost_of_functionContaining
  · exact functionContaining_of_innermost
  · exact inside_of_functionContaining hnested h hg hpoint

/-! A function inside another one, and a third one behind both. -/

namespace Nest

def facts : Export :=
  ⟨"n.cc", [], [("outer", [.funcDecl ⟨1, 1, 9, 1⟩]), ("inner", [.funcDecl ⟨3, 5, 4, 9⟩]),
    ("next", [.funcDecl ⟨9, 2, 12, 1⟩])]⟩

def store : Store := (empty.collectAll [facts]).1

def outer : FunctionDef := ⟨1, "n.cc", "outer", ⟨1, 1, 9, 1⟩, [], [], []⟩

def inner : FunctionDef := ⟨2, "n.cc", "inner", ⟨3, 5, 4, 9⟩, [], [], []⟩

def next : FunctionDef := ⟨3, "n.cc", "next", ⟨9, 2, 12, 1⟩, [], [], []⟩

theorem functions_store : store.functions "n.cc" = [outer, inner, next] := by
  rw [functions_eq]
  decide +kernel

theorem nested : (store.functions "n.cc").Pairwise Nested := by
  have hinner : Nested outer inner := ⟨.inr (.inl (Span.inside_of_le rfl rfl)), by decide⟩
  have hnext : Nested outer next := ⟨.inr (.inr (Span.apart_of_before (.inr ⟨rfl, by decide⟩))), by decide⟩
  have hlast : Nested inner next := ⟨.inr (.inr (Span.apart_of_before (.inl (by decide)))), by decide⟩
  simp [functions_store, hinner, hnext, hlast]

end Nest

/-- A point on the first line of the inner function leads to it, and one in front of it to the outer one. -/
theorem functionContaining_innermost_nest :
    Nest.store.functionContaining ⟨⟨"./n.cc"⟩, ⟨3, 5⟩⟩ = some Nest.inner ∧
    Nest.store.functionContaining ⟨⟨"./n.cc"⟩, ⟨3, 4⟩⟩ = some Nest.outer ∧
    Nest.inner.span.Inside Nest.outer.span := by
  obtain ⟨-, hfound, hinside⟩ :=
    functionContaining_innermost Nest.store ⟨⟨"./n.cc"⟩, ⟨3, 5⟩⟩
  obtain ⟨-, houter, -⟩ := functionContaining_innermost Nest.store ⟨⟨"./n.cc"⟩, ⟨3, 4⟩⟩
  have hinner := (hfound Nest.inner).mpr
    ⟨rfl, [Nest.outer], [Nest.next], Nest.functions_store, by decide, by decide⟩
  refine ⟨hinner, (houter Nest.outer).mpr ⟨rfl, [], _, Nest.functions_store, by decide, by decide⟩, ?_⟩
  have hmem : Nest.outer ∈ Nest.store.functions "n.cc" := by simp [Nest.functions_store]
  exact hinside Nest.nested _ hinner _ hmem rfl

end Store

end Mend

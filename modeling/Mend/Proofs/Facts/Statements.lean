import Mend.Proofs.Facts.Session
import Mend.Proofs.Source.Coordinate

/-!
# Statements in source order

The statements of a function are read by their numbers, those of a module by where they start and then by their
numbers, and the one at a point by its number alone. The three agree, also where statements of several functions
start together.

* `SortedBy` : the order of a key, in which equal keys keep their order; `SortedBy.unique` : it leaves no choice;
* `startsFirst_iff` : the order of the statements of a module; `sortedBy_startsFirst` : rows in that order;
* `Store.statementAt_eq_find?` : the statement at a location is the first one in the list that starts there;
* `eq_flatMap_filter` : a list in the order of its keys, key by key;
* `collectedStatements_eq` : by their numbers, the statements of a module are those of its functions, one
  function behind the other;
* `Store.statements_statementAt` : the list and the look-up of a reachable store.
-/

namespace Mend

/-! ## Sorting by a coordinate -/

/-- `sorted` holds what `given` does, in the order of a key, and what has the same key in the order it is
given. -/
structure SortedBy {α : Type} (key : α → Coordinate) (given sorted : List α) : Prop where
  perm : sorted.Perm given
  ordered : sorted.Pairwise fun a b => (key a).le (key b) = true
  stable : ∀ c, (sorted.filter fun a => key a = c) = given.filter fun a => key a = c

section SortedBy

variable {α : Type} {key : α → Coordinate}

theorem SortedBy.map {β : Type} {key : β → Coordinate} {f : α → β} {given sorted : List α}
    (h : SortedBy (fun a => key (f a)) given sorted) : SortedBy key (given.map f) (sorted.map f) where
  perm := h.perm.map f
  ordered := List.pairwise_map.mpr h.ordered
  stable c := by
    rw [List.filter_map, List.filter_map]
    exact congrArg (List.map f) (h.stable c)

theorem le_of_mem_cons {a b : α} {as : List α}
    (ha : (a :: as).Pairwise fun a b => (key a).le (key b) = true) (hb : b ∈ a :: as) :
    (key a).le (key b) = true := by
  rcases List.mem_cons.mp hb with rfl | hb
  · exact Coordinate.le_refl _
  · exact List.rel_of_pairwise_cons ha hb

theorem mem_of_filter_eq {a : α} {as bs : List α} (ha : a ∈ as)
    (h : (as.filter fun b => key b = key a) = bs.filter fun b => key b = key a) : a ∈ bs := by
  have hmem : a ∈ as.filter fun b => key b = key a := List.mem_filter.mpr ⟨ha, by simp⟩
  rw [h] at hmem
  exact (List.mem_filter.mp hmem).1

/-- Two lists in the order of a key are equal if they hold the same under each key. -/
theorem eq_of_filter_eq {as bs : List α} (ha : as.Pairwise fun a b => (key a).le (key b) = true)
    (hb : bs.Pairwise fun a b => (key a).le (key b) = true)
    (h : ∀ c, (as.filter fun a => key a = c) = bs.filter fun a => key a = c) : as = bs := by
  induction as generalizing bs with
  | nil =>
    cases bs with
    | nil => rfl
    | cons b bs => exact absurd (mem_of_filter_eq List.mem_cons_self (h (key b)).symm) List.not_mem_nil
  | cons a as ih =>
    cases bs with
    | nil => exact absurd (mem_of_filter_eq List.mem_cons_self (h (key a))) List.not_mem_nil
    | cons b bs =>
      -- each of the two heads occurs in the other list, so that they have the same key
      have hab := le_of_mem_cons ha (mem_of_filter_eq List.mem_cons_self (h (key b)).symm)
      have hba := le_of_mem_cons hb (mem_of_filter_eq List.mem_cons_self (h (key a)))
      have hkey := Coordinate.le_antisymm hab hba
      have hhead := h (key a)
      rw [List.filter_cons_of_pos (by simp), List.filter_cons_of_pos (by simp [hkey]), List.cons.injEq] at hhead
      obtain ⟨rfl, -⟩ := hhead
      refine congrArg (a :: ·) (ih ha.tail hb.tail fun c => ?_)
      have hc := h c
      by_cases hac : key a = c
      · rw [List.filter_cons_of_pos (by simpa using hac), List.filter_cons_of_pos (by simpa using hac)] at hc
        exact (List.cons.inj hc).2
      · rwa [List.filter_cons_of_neg (by simpa using hac), List.filter_cons_of_neg (by simpa using hac)] at hc

theorem SortedBy.unique {given as bs : List α} (ha : SortedBy key given as) (hb : SortedBy key given bs) :
    as = bs :=
  eq_of_filter_eq ha.ordered hb.ordered fun c => (ha.stable c).trans (hb.stable c).symm

end SortedBy

namespace Store

/-! ## The list of statements -/

theorem startsFirst_iff {a b : Row StatementRow} :
    startsFirst a b = true ↔
      a.cells.span.start.Before b.cells.span.start ∨
        a.cells.span.start = b.cells.span.start ∧ a.id ≤ b.id := by
  simp only [startsFirst, Coordinate.Before, Span.start, Coordinate.mk.injEq, Bool.or_eq_true,
    Bool.and_eq_true, decide_eq_true_eq, beq_iff_eq]
  omega

theorem startsFirst_trans {a b c : Row StatementRow} (hab : startsFirst a b = true)
    (hbc : startsFirst b c = true) : startsFirst a c = true := by
  simp only [startsFirst, Bool.or_eq_true, Bool.and_eq_true, decide_eq_true_eq, beq_iff_eq] at hab hbc ⊢
  omega

theorem startsFirst_total (a b : Row StatementRow) : (startsFirst a b || startsFirst b a) = true := by
  simp only [startsFirst, Bool.or_eq_true, Bool.and_eq_true, decide_eq_true_eq, beq_iff_eq]
  omega

theorem startsFirst.le {a b : Row StatementRow} (h : startsFirst a b = true) :
    a.cells.span.start.le b.cells.span.start = true := by
  rcases startsFirst_iff.mp h with hbefore | ⟨hstart, -⟩
  · exact hbefore.le
  · rw [hstart]
    exact Coordinate.le_refl _

/-- The order by start and number is the order by start in which rows with one start keep the order of their
numbers. -/
theorem sortedBy_startsFirst (t : Table StatementRow) (p : StatementRow → Bool) :
    SortedBy (fun r => r.cells.span.start) (t.select p Row.byId) (t.select p startsFirst) := by
  have hsorted : (t.select p startsFirst).Pairwise fun a b => startsFirst a b = true :=
    List.pairwise_mergeSort (fun a b c => startsFirst_trans (a := a) (b := b) (c := c)) startsFirst_total _
  have hperm : (t.select p startsFirst).Perm (t.select p Row.byId) := by
    rw [Table.select_byId]
    exact List.mergeSort_perm _ _
  refine ⟨hperm, hsorted.imp startsFirst.le, fun c => ?_⟩
  -- rows that start at `c` stand in the order of their numbers on both sides
  have hids : ((t.select p startsFirst).filter fun r => r.cells.span.start = c).Pairwise fun a b => a.id ≤ b.id := by
    refine List.Pairwise.imp_of_mem (fun {a b} ha hb h => ?_) (hsorted.filter _)
    have ha : a.cells.span.start = c := by simpa using (List.mem_filter.mp ha).2
    have hb : b.cells.span.start = c := by simpa using (List.mem_filter.mp hb).2
    rcases startsFirst_iff.mp h with hbefore | ⟨-, hle⟩
    · exact absurd (ha.trans hb.symm) hbefore.ne
    · exact hle
  have hids' : ((t.select p Row.byId).filter fun r => r.cells.span.start = c).Pairwise fun a b => a.id ≤ b.id := by
    rw [Table.select_byId]
    exact ((t.ascending.imp Nat.le_of_lt).filter _).filter _
  refine (hperm.filter _).eq_of_pairwise (fun a b ha hb hab hba => ?_) hids hids'
  exact Table.row_inj (Table.mem_select.mp (List.mem_filter.mp ha).1).1
    (Table.mem_select.mp (List.mem_filter.mp hb).1).1 (Nat.le_antisymm hab hba)

def numberedStatements (s : Store) (m : String) : List Statement :=
  (s.statementRows.select (fun r => r.moduleName = m) Row.byId).map statement

theorem sortedBy_statements (s : Store) (m : String) :
    SortedBy (·.span.start) (s.numberedStatements m) (s.statements m) :=
  (sortedBy_startsFirst s.statementRows fun r => r.moduleName = m).map (f := statement)

theorem pairwise_statements (s : Store) (m : String) :
    (s.statements m).Pairwise fun a b => a.span.start.le b.span.start = true :=
  (sortedBy_statements s m).ordered

/-! ## Looking up a point -/

/-- The statement at a location is the first one by its number. -/
theorem statementAt_eq (s : Store) (l : Location) :
    s.statementAt l = (s.numberedStatements l.moduleName).find? fun st => st.span.start = l.point := by
  rw [statementAt, numberedStatements, Table.select_byId, Table.select_byId, List.head?_filter, List.find?_map,
    List.find?_filter]
  congr 2
  funext r
  rw [Bool.eq_iff_iff]
  simp only [Bool.and_eq_true, decide_eq_true_eq, Function.comp_apply]
  exact Iff.rfl

/-- The statement at a location is the first one in the list of its module that starts there. -/
theorem statementAt_eq_find? (s : Store) (l : Location) :
    s.statementAt l = (s.statements l.moduleName).find? fun st => st.span.start = l.point := by
  rw [statementAt_eq, ← List.head?_filter, ← List.head?_filter,
    (sortedBy_statements s l.moduleName).stable l.point]

theorem start_of_statementAt {s : Store} {l : Location} {st : Statement}
    (h : s.statementAt l = some st) : st.span.start = l.point := by
  rw [statementAt_eq_find?] at h
  simpa using List.find?_some h

theorem exists_statementAt {s : Store} {l : Location} {st : Statement} (hst : st ∈ s.statements l.moduleName)
    (hstart : st.span.start = l.point) : ∃ found, s.statementAt l = some found := by
  rw [statementAt_eq_find?]
  refine Option.isSome_iff_exists.mp (List.find?_isSome.mpr ⟨st, hst, ?_⟩)
  simpa using hstart

/-! ## Function by function -/

theorem filter_append_filter {α : Type} {key : α → Nat} {as : List α} {k : Nat}
    (has : as.Pairwise fun a b => key a ≤ key b) (hk : ∀ a ∈ as, k ≤ key a) :
    as = (as.filter fun a => key a = k) ++ as.filter fun a => key a ≠ k := by
  induction as with
  | nil => rfl
  | cons a as ih =>
    obtain ⟨ha, has⟩ := List.pairwise_cons.mp has
    by_cases hkey : key a = k
    · rw [List.filter_cons_of_pos (by simpa using hkey), List.filter_cons_of_neg (by simpa using hkey),
        List.cons_append, ← ih has fun b hb => hk b (List.mem_cons_of_mem _ hb)]
    · -- behind a larger key there is no smaller one
      have hlt : ∀ b ∈ a :: as, key b ≠ k := by
        intro b hb
        have hka := hk a List.mem_cons_self
        rcases List.mem_cons.mp hb with rfl | hb
        · exact hkey
        · have hab := ha b hb
          omega
      rw [List.filter_eq_nil_iff.mpr fun b hb => by simpa using hlt b hb,
        List.filter_eq_self.mpr fun b hb => by simpa using hlt b hb, List.nil_append]

/-- A list in the order of its keys is what stands under the first key, then what stands under the next one,
and so on. -/
theorem eq_flatMap_filter {α : Type} {key : α → Nat} {as : List α} {keys : List Nat}
    (has : as.Pairwise fun a b => key a ≤ key b) (hkeys : keys.Pairwise (· < ·))
    (hmem : ∀ a ∈ as, key a ∈ keys) : as = keys.flatMap fun k => as.filter fun a => key a = k := by
  induction keys generalizing as with
  | nil =>
    cases as with
    | nil => rfl
    | cons a as => exact absurd (hmem a List.mem_cons_self) List.not_mem_nil
  | cons k keys ih =>
    obtain ⟨hk, hkeys⟩ := List.pairwise_cons.mp hkeys
    have hsplit : as = (as.filter fun a => key a = k) ++ as.filter fun a => key a ≠ k := by
      refine filter_append_filter has fun a ha => ?_
      rcases List.mem_cons.mp (hmem a ha) with heq | hlater
      · exact Nat.le_of_eq heq.symm
      · exact Nat.le_of_lt (hk _ hlater)
    have hrest := ih (has.filter fun a => key a ≠ k) hkeys fun a ha => by
      obtain ⟨ha, hne⟩ := List.mem_filter.mp ha
      exact (List.mem_cons.mp (hmem a ha)).resolve_left (by simpa using hne)
    rw [List.flatMap_cons]
    refine hsplit.trans (congrArg (_ ++ ·) (hrest.trans (List.flatMap_congr fun k' hk' => ?_)))
    rw [List.filter_filter]
    refine List.filter_congr fun a _ => ?_
    by_cases ha : key a = k'
    · simp [ha, Nat.ne_of_gt (hk k' hk')]
    · simp [ha]

/-- The statements of the functions of a module, one function behind the other. -/
def collectedStatements (s : Store) (m : String) : List Statement :=
  (s.functions m).flatMap (·.statements)

section Linked

variable {s : Store} (hs : Linked s)

include hs

/-- By their numbers, the statements of a module are those of its functions, one function behind the other. -/
theorem collectedStatements_eq (m : String) : s.collectedStatements m = s.numberedStatements m := by
  have howns : ∀ {r : Row StatementRow}, r ∈ s.statementRows.select (fun r => r.moduleName = m) Row.byId →
      s.Owns m r.cells.functionId := by
    intro r hr
    obtain ⟨hr, hmodule⟩ := Table.mem_select.mp hr
    rw [← of_decide_eq_true hmodule]
    exact hs.statements r hr
  have hgrouped : (s.statementRows.select (fun r => r.moduleName = m) Row.byId).Pairwise
      fun a b => a.cells.functionId ≤ b.cells.functionId := by
    rw [Table.select_byId]
    refine List.Pairwise.imp_of_mem (fun {a b} ha hb h => h ?_) (hs.grouped.filter _)
    rw [of_decide_eq_true (List.mem_filter.mp ha).2, of_decide_eq_true (List.mem_filter.mp hb).2]
  have hids : (s.functionIds m).Pairwise (· < ·) :=
    List.pairwise_map.mpr (s.functionRows.ascending.filter _)
  rw [numberedStatements, eq_flatMap_filter hgrouped hids fun r hr => mem_functionIds.mpr (howns hr),
    collectedStatements, functions, Table.select_byId, functionIds, Table.idsWhere, List.map_flatMap,
    List.flatMap_map, List.flatMap_map]
  refine List.flatMap_congr fun f hf => ?_
  -- what refers to a function of the module stands under the module
  rw [hydrate, functionStatements, Table.select_byId, Table.select_byId, List.filter_filter]
  refine congrArg (List.map statement) (List.filter_congr fun r hr => ?_)
  by_cases hid : r.cells.functionId = f.id
  · obtain ⟨hf, hmodule⟩ := List.mem_filter.mp hf
    have hmodule : f.cells.moduleName = m := of_decide_eq_true hmodule
    have hr : r.cells.moduleName = f.cells.moduleName := (hs.statements r hr).unique (hid ▸ owns_of_mem hf)
    simp [hid, hr, hmodule]
  · simp [hid]

theorem mem_statements {m : String} {st : Statement} :
    st ∈ s.statements m ↔ st ∈ s.collectedStatements m := by
  rw [collectedStatements_eq hs]
  exact (sortedBy_statements s m).perm.mem_iff

theorem statementAt_eq_none_iff {l : Location} :
    s.statementAt l = none ↔
      ∀ f ∈ s.functions l.moduleName, ∀ st ∈ f.statements, st.span.start ≠ l.point := by
  rw [statementAt_eq, ← collectedStatements_eq hs, List.find?_eq_none]
  simp only [collectedStatements, List.mem_flatMap, decide_eq_true_eq]
  constructor
  · intro h f hf st hst
    exact h st ⟨f, hf, hst⟩
  · rintro h st ⟨f, hf, hst⟩
    exact h f hf st hst

end Linked

/-- The statements of a module are listed as those of its functions, one function behind the other, in source
order; those that start together keep their order, and no other list is so. The statement at a location is
the first one in the list of its module that starts there, and there is none if no function of the module
has one. -/
theorem statements_statementAt {s : Store} (hs : s.Reachable) (m : String) :
    (∀ sts, sts = s.statements m ↔
      SortedBy (·.span.start) ((s.functions m).flatMap (·.statements)) sts) ∧
    ∀ l : Location, l.moduleName = m →
      s.statementAt l = ((s.statements m).find? fun st => st.span.start = l.point) ∧
      (s.statementAt l = none ↔ ∀ f ∈ s.functions m, ∀ st ∈ f.statements, st.span.start ≠ l.point) := by
  have hsorted : SortedBy (·.span.start) ((s.functions m).flatMap (·.statements)) (s.statements m) := by
    rw [← collectedStatements, collectedStatements_eq hs.linked]
    exact sortedBy_statements s m
  refine ⟨fun sts => ⟨?_, fun h => h.unique hsorted⟩, ?_⟩
  · rintro rfl
    exact hsorted
  · rintro l rfl
    exact ⟨statementAt_eq_find? s l, statementAt_eq_none_iff hs.linked⟩

/-! Two functions of a module with statements that start together, listed against the source order. The module
is collected behind another one and has been collected before. -/

namespace Overlap

def facts : Export :=
  ⟨"o.c", [], [("f", [.funcDecl ⟨1, 1, 9, 1⟩, .stmtType ⟨5, 1, 5, 2⟩ "b;", .stmtType ⟨2, 3, 2, 4⟩ "x;"]),
    ("g", [.funcDecl ⟨1, 1, 9, 1⟩, .stmtType ⟨2, 3, 2, 9⟩ "y;", .stmtType ⟨5, 1, 5, 2⟩ "b;"])]⟩

def other : Export := ⟨"p.c", [], [("h", [.funcDecl ⟨1, 1, 2, 1⟩, .stmtType ⟨2, 3, 2, 4⟩ "z;"])]⟩

def store : Store := (empty.collectAll [facts, other, facts]).1

def inF : Statement := ⟨"o.c", ⟨2, 3, 2, 4⟩, "x;"⟩

def inG : Statement := ⟨"o.c", ⟨2, 3, 2, 9⟩, "y;"⟩

def inBoth : Statement := ⟨"o.c", ⟨5, 1, 5, 2⟩, "b;"⟩

theorem sortedBy_listed :
    SortedBy (·.span.start) ((store.functions "o.c").flatMap (·.statements)) [inF, inG, inBoth, inBoth] := by
  have hgiven : (store.functions "o.c").flatMap (·.statements) = [inBoth, inF, inG, inBoth] := by
    rw [functions_eq]
    decide +kernel
  rw [hgiven]
  refine ⟨by decide, by decide, fun c => ?_⟩
  by_cases hfirst : (⟨2, 3⟩ : Coordinate) = c
  · subst hfirst
    decide
  · by_cases hlast : (⟨5, 1⟩ : Coordinate) = c
    · subst hlast
      decide
    · simp [inF, inG, inBoth, Span.start, hfirst, hlast]

end Overlap

/-- The statements are listed in source order, the equal ones twice, and where two functions have one the
first function's is found. -/
theorem statements_statementAt_overlap :
    Overlap.store.statements "o.c" = [Overlap.inF, Overlap.inG, Overlap.inBoth, Overlap.inBoth] ∧
    Overlap.store.statementAt ⟨⟨"./o.c"⟩, ⟨2, 3⟩⟩ = some Overlap.inF ∧
    Overlap.store.statementAt ⟨⟨"./o.c"⟩, ⟨2, 4⟩⟩ = none := by
  obtain ⟨hlisted, hfound⟩ := statements_statementAt (s := Overlap.store) ⟨_, rfl⟩ "o.c"
  have hstatements := ((hlisted _).mpr Overlap.sortedBy_listed).symm
  obtain ⟨hfirst, -⟩ := hfound ⟨⟨"./o.c"⟩, ⟨2, 3⟩⟩ (by decide +kernel)
  obtain ⟨-, hnone⟩ := hfound ⟨⟨"./o.c"⟩, ⟨2, 4⟩⟩ (by decide +kernel)
  rw [hstatements] at hfirst
  refine ⟨hstatements, hfirst, hnone.mpr ?_⟩
  rw [functions_eq]
  decide +kernel

end Store

end Mend

import Mend.Proofs.Patch.Concretize

/-!
# More variables, more candidates

A function with more variables offers a term more to choose from. Order and number of the candidates
change with it, and so does which of two equal texts is the one that is kept, but no candidate is lost.

* `operatorTexts_subset`, `joinedTexts_subset` : what is composed grows with its parts;
* `Expr.texts_subset`, `Stmt.texts_subset`, `memberTexts_subset` : so do the candidates of a term;
* `Term.candidates_subset` : in terms of two sources.
-/

namespace Mend.Patch

/-- Every variable of `f` has one of its name in `g`, an array if it is one. -/
def Offers (g f : FunctionDef) : Prop :=
  ∀ v ∈ f.vars, ∃ w ∈ g.vars, w.name = v.name ∧ w.isArray = v.isArray

/-! ## Composed texts -/

theorem operatorTexts_subset (operators : List String) {xs xs' ys ys' : List String} (hx : xs ⊆ xs')
    (hy : ys ⊆ ys') : operatorTexts operators xs ys ⊆ operatorTexts operators xs' ys' := by
  intro text htext
  obtain ⟨x, hxs, htext⟩ := List.mem_flatMap.mp htext
  obtain ⟨y, hys, htext⟩ := List.mem_flatMap.mp htext
  exact List.mem_flatMap.mpr ⟨x, hx hxs, List.mem_flatMap.mpr ⟨y, hy hys, htext⟩⟩

/-- Lists that grow one by one have all their selections left. -/
theorem joinedTexts_subset {lists lists' : List (List String)}
    (h : List.Forall₂ (fun xs ys => xs ⊆ ys) lists lists') : joinedTexts lists ⊆ joinedTexts lists' := by
  intro text htext
  obtain ⟨hsome, lines, hlines, rfl⟩ := mem_joinedTexts.mp htext
  refine mem_joinedTexts.mpr ⟨?_, lines, ?_, rfl⟩
  · rintro rfl
    exact hsome (List.forall₂_nil_right_iff.mp h)
  · clear htext hsome
    induction h generalizing lines with
    | nil => exact hlines
    | cons hsub _ ih =>
      cases hlines with
      | cons hx hrest => exact .cons (hsub hx) (ih _ hrest)

/-! ## Candidates -/

section Candidates

variable {f g : FunctionDef} {s : Statement}

theorem Expr.texts_subset (h : Offers g f) (e : Expr) : e.texts f ⊆ e.texts g := by
  induction e with
  | literal text => exact List.Subset.refl _
  | «variable» =>
    intro text htext
    obtain ⟨v, hv, rfl⟩ := List.mem_map.mp htext
    obtain ⟨w, hw, hname, -⟩ := h v hv
    exact List.mem_map.mpr ⟨w, hw, hname⟩
  | bufferSize =>
    intro text htext
    obtain ⟨v, hv, rfl⟩ := List.mem_map.mp htext
    obtain ⟨hv, harray⟩ := List.mem_filter.mp hv
    obtain ⟨w, hw, hname, hsame⟩ := h v hv
    exact List.mem_map.mpr ⟨w, List.mem_filter.mpr ⟨hw, hsame.trans harray⟩, by rw [hname]⟩
  | math lhs rhs ihl ihr => exact operatorTexts_subset _ ihl ihr
  | compare lhs rhs ihl ihr => exact operatorTexts_subset _ ihl ihr
  | lessThan lhs rhs ihl ihr => exact operatorTexts_subset _ ihl ihr

mutual

theorem Stmt.texts_subset (h : Offers g f) : ∀ member : Stmt, member.texts f s ⊆ member.texts g s
  | .ifThen condition body => by
    rw [Stmt.texts, Stmt.texts]
    intro text htext
    obtain ⟨x, hx, htext⟩ := List.mem_flatMap.mp htext
    refine List.mem_flatMap.mpr ⟨x, condition.texts_subset h hx, ?_⟩
    exact List.map_subset _ (joinedTexts_subset (memberTexts_subset h body)) htext
  | .otherwise body => by
    rw [Stmt.texts, Stmt.texts]
    exact List.map_subset _ (joinedTexts_subset (memberTexts_subset h body))
  | .ret value => by
    rw [Stmt.texts, Stmt.texts]
    exact List.map_subset _ (value.texts_subset h)
  | .anchor => by
    -- the anchor is the statement's text, whatever the function offers
    rw [Stmt.texts, Stmt.texts]
    exact List.Subset.refl _
  | .expr e => by
    rw [Stmt.texts, Stmt.texts]
    exact e.texts_subset h

theorem memberTexts_subset (h : Offers g f) : ∀ body : List Stmt,
    List.Forall₂ (fun xs ys => xs ⊆ ys) (memberTexts f s body) (memberTexts g s body)
  | [] => by
    rw [memberTexts, memberTexts]
    exact .nil
  | member :: members => by
    rw [memberTexts, memberTexts]
    exact .cons (Stmt.texts_subset h member) (memberTexts_subset h members)

end

end Candidates

namespace Term

theorem texts_subset {f g : FunctionDef} {s : Statement} (h : Offers g f) (t : Term) :
    t.texts f s ⊆ t.texts g s :=
  match t with
  | .expr e => e.texts_subset h
  | .stmt member => member.texts_subset h
  | .list body => joinedTexts_subset (memberTexts_subset h body)
  | .template t => joinedTexts_subset (memberTexts_subset h t.pattern)

/-- Two sources that give the same statement at a location, and functions there of which the second has the
variables of the first: a term that has candidates with the first source has all of them with the second. -/
theorem candidates_subset (t : Term) (l : Location) {source source' : FactSource Id} {f g : FunctionDef}
    (hstatement : source.statementAt l = source'.statementAt l)
    (hf : source.functionContaining l = .ok (some f)) (hg : source'.functionContaining l = .ok (some g))
    (hvars : ∀ v ∈ f.vars, ∃ w ∈ g.vars, w.name = v.name ∧ w.isArray = v.isArray) {c : Choice}
    (hc : t.concretize ⟨source, l⟩ = .ok c) :
    ∃ c', t.concretize ⟨source', l⟩ = .ok c' ∧
      ∀ candidate ∈ c.stream.toList, candidate ∈ c'.stream.toList := by
  obtain ⟨_, s, hfills, -⟩ := exists_fills_of_concretize hc
  have hanchor := (Situation.fills_iff.mp hfills).2
  -- the same statement fills the anchors on both sides, and each side has its function
  have hleft : Situation.Fills ⟨source, l⟩ f s t.holes := Situation.fills_iff.mpr ⟨fun _ => hf, hanchor⟩
  have hright : Situation.Fills ⟨source', l⟩ g s t.holes :=
    Situation.fills_iff.mpr ⟨fun _ => hg, fun hmem => hstatement.symm.trans (hanchor hmem)⟩
  obtain ⟨c', hc'⟩ := exists_concretize_iff.mpr (Situation.firstFailure?_eq_none_iff.mpr
    ⟨fun _ => ⟨g, hg⟩, fun hmem => ⟨s, (Situation.fills_iff.mp hright).2 hmem⟩⟩)
  refine ⟨c', hc', ?_⟩
  rw [Choice.toList_stream, Choice.toList_stream, meaning_of_concretize hc hleft,
    meaning_of_concretize hc' hright]
  exact t.texts_subset hvars

/-- The function that writes into an array, with one more array in front and its variables in another
order. -/
def copying : FunctionDef :=
  { clearing with
    vars := [⟨"src", "char [4]", ⟨2, 3, 2, 13⟩, true, 4⟩, ⟨"buf", "char [16]", ⟨2, 16, 2, 27⟩, true, 16⟩,
      ⟨"n", "long", ⟨1, 12, 1, 17⟩, false, 8⟩] }

/-- A source that gives that function everywhere and the same statement at one point. -/
def copyingSource : FactSource Id := { clearingSource with functionContaining _ := .ok (some copying) }

/-- The guard of an array has six candidates where it had two; another one comes first, and the two are
still there. -/
theorem candidates_subset_copying :
    ∃ c c', (Term.template bufferGuard).concretize ⟨clearingSource, ⟨⟨"a.c"⟩, ⟨3, 3⟩⟩⟩ = .ok c ∧
      (Term.template bufferGuard).concretize ⟨copyingSource, ⟨⟨"a.c"⟩, ⟨3, 3⟩⟩⟩ = .ok c' ∧
      c.stream.toList.length = 2 ∧ c'.stream.toList.length = 6 ∧
      c'.stream.toList.head? ≠ c.stream.toList.head? ∧
      ∀ candidate ∈ c.stream.toList, candidate ∈ c'.stream.toList := by
  have hleft : ∃ c, (Term.template bufferGuard).concretize ⟨clearingSource, ⟨⟨"a.c"⟩, ⟨3, 3⟩⟩⟩ = .ok c ∧
      c.meaning.length = 2 ∧
      c.meaning.head? = some "if (n < sizeof(buf)) \x7b\nbuf[n] = 0;\n\x7d\n\nelse \x7b\nreturn 1;\n\x7d\n" :=
    ⟨_, rfl, by decide +kernel, by decide +kernel⟩
  have hright : ∃ c, (Term.template bufferGuard).concretize ⟨copyingSource, ⟨⟨"a.c"⟩, ⟨3, 3⟩⟩⟩ = .ok c ∧
      c.meaning.length = 6 ∧
      c.meaning.head? = some "if (src < sizeof(src)) \x7b\nbuf[n] = 0;\n\x7d\n\nelse \x7b\nreturn 1;\n\x7d\n" :=
    ⟨_, rfl, by decide +kernel, by decide +kernel⟩
  obtain ⟨c, hc, hlength, hhead⟩ := hleft
  obtain ⟨c₂, hc₂, hlength₂, hhead₂⟩ := hright
  have hstatement : clearingSource.statementAt ⟨⟨"a.c"⟩, ⟨3, 3⟩⟩ =
      copyingSource.statementAt ⟨⟨"a.c"⟩, ⟨3, 3⟩⟩ := rfl
  obtain ⟨c', hc', hsubset⟩ := candidates_subset (.template bufferGuard) ⟨⟨"a.c"⟩, ⟨3, 3⟩⟩ hstatement rfl rfl
    (by decide) hc
  obtain rfl : c₂ = c' := Except.ok.inj (hc₂.symm.trans hc')
  refine ⟨c, c₂, hc, hc', ?_⟩
  simp only [Choice.toList_stream] at hsubset ⊢
  exact ⟨hlength, hlength₂, by rw [hhead, hhead₂]; decide, hsubset⟩

end Term

end Mend.Patch

import Mend.Proofs.Patch.Concretize
import Mend.Proofs.Source.Brackets

/-!
# Brackets of candidates

A template writes its brackets in pairs, so that a candidate is balanced if all that goes into it is: the
literals of the term, the names of the variables around the location and the statement there.

* `Expr.literals`, `Stmt.literals`, `literalsOf` : the texts that a term brings along;
* `exists_lines_of_mem_joinedTexts` : what is joined, line by line;
* `balanced_between`, `balanced_guarded` : what a term writes around its parts;
* `Balances` : what goes into a term is balanced;
* `Expr.balanced_texts`, `Stmt.balanced_texts`, `balanced_memberTexts` : then so are its candidates;
* `Term.balanced_candidates` : in terms of a source, and for the text that a candidate is put into.
-/

namespace Mend.Patch

open Source (Balanced Selects selected splice)

/-! ## Literals -/

def Expr.literals : Expr → List String
  | .literal text => [text]
  | .variable => []
  | .bufferSize => []
  | .math lhs rhs => lhs.literals ++ rhs.literals
  | .compare lhs rhs => lhs.literals ++ rhs.literals
  | .lessThan lhs rhs => lhs.literals ++ rhs.literals

mutual

def Stmt.literals : Stmt → List String
  | .ifThen condition body => condition.literals ++ literalsOf body
  | .otherwise body => literalsOf body
  | .ret value => value.literals
  | .anchor => []
  | .expr e => e.literals

def literalsOf : List Stmt → List String
  | [] => []
  | s :: ss => s.literals ++ literalsOf ss

end

/-! ## Joined lines -/

/-- What is joined consists of lines from the lists. -/
theorem exists_lines_of_mem_joinedTexts {P : String → Prop} {lists : List (List String)} {text : String}
    (hlists : ∀ xs ∈ lists, ∀ x ∈ xs, P x) (h : text ∈ joinedTexts lists) :
    ∃ lines : List String, text = "\n".intercalate lines ∧ ∀ line ∈ lines, P line := by
  obtain ⟨-, lines, hlines, rfl⟩ := mem_joinedTexts.mp h
  refine ⟨lines, rfl, ?_⟩
  clear h
  induction hlines with
  | nil => exact fun _ hline => absurd hline List.not_mem_nil
  | cons hx _ ih =>
    intro line hline
    rcases List.mem_cons.mp hline with rfl | hline
    · exact hlists _ List.mem_cons_self line hx
    · exact ih (fun ys hys => hlists ys (List.mem_cons_of_mem _ hys)) line hline

/-! ## Brackets of a term -/

theorem balanced_intercalate {lines : List String} (h : ∀ line ∈ lines, Balanced line.toList) :
    Balanced ("\n".intercalate lines).toList := by
  induction lines with
  | nil => exact .nil
  | cons line lines ih =>
    have hline := h line List.mem_cons_self
    have hlines := ih fun other hother => h other (List.mem_cons_of_mem line hother)
    cases lines with
    | nil => simpa using hline
    | cons next lines =>
      rw [String.intercalate_cons_cons, String.toList_append, String.toList_append]
      exact (hline.append (by decide)).append hlines

theorem balanced_between {before text after : String} (h : Balanced text.toList)
    (haround : Balanced (before ++ after).toList) : Balanced (before ++ text ++ after).toList := by
  rw [String.toList_append] at haround
  rw [String.toList_append, String.toList_append]
  exact h.between haround

theorem balanced_operator {x o y : String} (hx : Balanced x.toList) (ho : Balanced o.toList)
    (hy : Balanced y.toList) : Balanced (x ++ " " ++ o ++ " " ++ y).toList := by
  simp only [String.toList_append]
  exact (((hx.append (by decide)).append ho).append (by decide)).append hy

/-- A condition stands in round brackets, and what it guards in curly ones. -/
theorem balanced_guarded {x y : String} (hx : Balanced x.toList) (hy : Balanced y.toList) :
    Balanced ("if (" ++ x ++ ") \x7b\n" ++ y ++ "\n\x7d\n").toList := by
  refine balanced_between hy ?_
  rw [String.append_assoc]
  exact balanced_between hx (by decide)

theorem balanced_terminated {s : Statement} (h : Balanced s.expr.toList) : Balanced s.terminated.toList := by
  unfold Statement.terminated
  split
  · exact h
  · rw [String.toList_append]
    exact h.append (by decide)

/-! ## Candidates -/

/-- All that goes into a term is balanced: its literals, the names of variables if it asks for any, and the
statement at its anchors if it has any. -/
structure Balances (f : FunctionDef) (s : Statement) (literals : List String) (holes : List Hole) : Prop where
  literals : ∀ text ∈ literals, Balanced text.toList
  names : .variable ∈ holes ∨ .bufferSize ∈ holes → ∀ v ∈ f.vars, Balanced v.name.toList
  anchored : .anchor ∈ holes → Balanced s.expr.toList

section Candidates

variable {f : FunctionDef} {s : Statement} {texts texts' : List String} {holes holes' : List Hole}

theorem Balances.left (h : Balances f s (texts ++ texts') (holes ++ holes')) : Balances f s texts holes where
  literals text hmem := h.literals text (List.mem_append_left _ hmem)
  names hmem := h.names (hmem.imp (List.mem_append_left _) (List.mem_append_left _))
  anchored hmem := h.anchored (List.mem_append_left _ hmem)

theorem Balances.right (h : Balances f s (texts ++ texts') (holes ++ holes')) : Balances f s texts' holes' where
  literals text hmem := h.literals text (List.mem_append_right _ hmem)
  names hmem := h.names (hmem.imp (List.mem_append_right _) (List.mem_append_right _))
  anchored hmem := h.anchored (List.mem_append_right _ hmem)

theorem balanced_operatorTexts {operators xs ys : List String} (ho : ∀ o ∈ operators, Balanced o.toList)
    (hx : ∀ x ∈ xs, Balanced x.toList) (hy : ∀ y ∈ ys, Balanced y.toList) :
    ∀ text ∈ operatorTexts operators xs ys, Balanced text.toList := by
  intro text htext
  obtain ⟨x, hxs, htext⟩ := List.mem_flatMap.mp htext
  obtain ⟨y, hys, htext⟩ := List.mem_flatMap.mp htext
  obtain ⟨o, hos, rfl⟩ := List.mem_map.mp htext
  exact balanced_operator (hx x hxs) (ho o hos) (hy y hys)

theorem Expr.balanced_texts (e : Expr) (h : Balances f s e.literals e.holes) :
    ∀ text ∈ e.texts f, Balanced text.toList := by
  induction e with
  | literal text => exact h.literals
  | «variable» =>
    intro text htext
    obtain ⟨v, hv, rfl⟩ := List.mem_map.mp htext
    exact h.names (.inl List.mem_cons_self) v hv
  | bufferSize =>
    intro text htext
    obtain ⟨v, hv, rfl⟩ := List.mem_map.mp htext
    exact balanced_between (h.names (.inr List.mem_cons_self) v (List.mem_filter.mp hv).1) (by decide)
  | math lhs rhs ihl ihr => exact balanced_operatorTexts (by decide) (ihl h.left) (ihr h.right)
  | compare lhs rhs ihl ihr => exact balanced_operatorTexts (by decide) (ihl h.left) (ihr h.right)
  | lessThan lhs rhs ihl ihr => exact balanced_operatorTexts (by decide) (ihl h.left) (ihr h.right)

theorem balanced_joinedTexts {lists : List (List String)}
    (h : ∀ xs ∈ lists, ∀ x ∈ xs, Balanced x.toList) : ∀ text ∈ joinedTexts lists, Balanced text.toList := by
  intro text htext
  obtain ⟨lines, rfl, hlines⟩ := exists_lines_of_mem_joinedTexts h htext
  exact balanced_intercalate hlines

mutual

theorem Stmt.balanced_texts : ∀ member : Stmt, Balances f s member.literals member.holes →
    ∀ text ∈ member.texts f s, Balanced text.toList
  | .ifThen condition body, h => by
    rw [Stmt.literals, Stmt.holes] at h
    rw [Stmt.texts]
    intro text htext
    obtain ⟨x, hx, htext⟩ := List.mem_flatMap.mp htext
    obtain ⟨y, hy, rfl⟩ := List.mem_map.mp htext
    exact balanced_guarded (condition.balanced_texts h.left x hx)
      (balanced_joinedTexts (balanced_memberTexts body h.right) y hy)
  | .otherwise body, h => by
    rw [Stmt.literals, Stmt.holes] at h
    rw [Stmt.texts]
    intro text htext
    obtain ⟨y, hy, rfl⟩ := List.mem_map.mp htext
    exact balanced_between (balanced_joinedTexts (balanced_memberTexts body h) y hy) (by decide)
  | .ret value, h => by
    rw [Stmt.literals, Stmt.holes] at h
    rw [Stmt.texts]
    intro text htext
    obtain ⟨x, hx, rfl⟩ := List.mem_map.mp htext
    exact balanced_between (value.balanced_texts h x hx) (by decide)
  | .anchor, h => by
    rw [Stmt.texts]
    intro text htext
    rw [List.mem_singleton.mp htext]
    exact balanced_terminated (h.anchored List.mem_cons_self)
  | .expr e, h => by
    rw [Stmt.literals, Stmt.holes] at h
    rw [Stmt.texts]
    exact e.balanced_texts h

theorem balanced_memberTexts : ∀ body : List Stmt, Balances f s (literalsOf body) (holesOf body) →
    ∀ xs ∈ memberTexts f s body, ∀ x ∈ xs, Balanced x.toList
  | [], _ => by
    rw [memberTexts]
    exact fun _ hxs => absurd hxs List.not_mem_nil
  | member :: members, h => by
    rw [literalsOf, holesOf] at h
    rw [memberTexts]
    intro xs hxs
    rcases List.mem_cons.mp hxs with rfl | hxs
    · exact Stmt.balanced_texts member h.left
    · exact balanced_memberTexts members h.right xs hxs

end

end Candidates

namespace Term

def literals : Term → List String
  | .expr e => e.literals
  | .stmt member => member.literals
  | .list body => literalsOf body
  | .template t => literalsOf t.pattern

theorem balanced_texts {f : FunctionDef} {s : Statement} (t : Term) (h : Balances f s t.literals t.holes) :
    ∀ text ∈ t.texts f s, Balanced text.toList :=
  match t with
  | .expr e => e.balanced_texts h
  | .stmt member => member.balanced_texts h
  | .list body => balanced_joinedTexts (balanced_memberTexts body h)
  | .template t => balanced_joinedTexts (balanced_memberTexts t.pattern h)

/-- Where the literals of a term, the names of the variables around a location and the statement there are
balanced, so is every candidate of the term. Put in the place of a balanced piece of a text, it gives a text
that is balanced if that text was. -/
theorem balanced_candidates (t : Term) (source : FactSource Id) (l : Location) {c : Choice}
    (hc : t.concretize ⟨source, l⟩ = .ok c) (hliterals : ∀ text ∈ t.literals, Balanced text.toList)
    (hnames : .variable ∈ t.holes ∨ .bufferSize ∈ t.holes → ∀ f,
      source.functionContaining l = .ok (some f) → ∀ v ∈ f.vars, Balanced v.name.toList)
    (hanchored : .anchor ∈ t.holes → ∀ s,
      source.statementAt l = .ok (some s) → Balanced s.expr.toList) :
    ∀ candidate ∈ c.stream.toList, Balanced candidate.toList ∧
      ∀ content span, Selects content span → Balanced (selected content span).toList →
        ∃ out, splice content candidate span = .ok out ∧ (Balanced out.toList ↔ Balanced content.toList) := by
  obtain ⟨f, s, hfills, htexts⟩ := exists_fills_of_concretize hc
  obtain ⟨hfunction, hstatement⟩ := Situation.fills_iff.mp hfills
  have hparts : Balances f s t.literals t.holes :=
    ⟨hliterals, fun hmem => hnames hmem f (hfunction hmem), fun hmem => hanchored hmem s (hstatement hmem)⟩
  intro candidate hcandidate
  rw [htexts] at hcandidate
  have hbalanced := t.balanced_texts hparts candidate hcandidate
  exact ⟨hbalanced, fun content span hselects hold => hselects.splice_balanced hold hbalanced⟩

/-- The text of the function with the statement that writes into an array. -/
def clearingText : String := "void clear(int n) \x7b\n  char buf[8]; int n;\n  buf[n] = 0;\n\x7d\n"

/-- That statement behind a guard for the size of the array. -/
def clearingGuarded : String :=
  "if (n < sizeof(buf)) \x7b\nbuf[n] = 0;\n\x7d\n\nelse \x7b\nreturn 1;\n\x7d\n"

/-- The guard of an array around a statement opens and closes brackets of both kinds, and the text it is put
into stays balanced. -/
theorem balanced_candidates_clearing :
    ∃ c out, (Term.template bufferGuard).concretize ⟨clearingSource, ⟨⟨"a.c"⟩, ⟨3, 3⟩⟩⟩ = .ok c ∧
      clearingGuarded ∈ c.stream.toList ∧ splice clearingText clearingGuarded writing.span = .ok out ∧
      Balanced out.toList := by
  have hcandidate : ∃ c, (Term.template bufferGuard).concretize ⟨clearingSource, ⟨⟨"a.c"⟩, ⟨3, 3⟩⟩⟩ = .ok c ∧
      clearingGuarded ∈ c.meaning := ⟨_, rfl, by decide +kernel⟩
  obtain ⟨c, hc, hmem⟩ := hcandidate
  rw [← Choice.toList_stream] at hmem
  have hliterals : ∀ text ∈ (Term.template bufferGuard).literals, Balanced text.toList := by decide
  have hvars : ∀ v ∈ clearing.vars, Balanced v.name.toList := by decide
  have hanchor : Balanced writing.expr.toList := by decide
  obtain ⟨-, hspliced⟩ := balanced_candidates (.template bufferGuard) clearingSource ⟨⟨"a.c"⟩, ⟨3, 3⟩⟩ hc
    hliterals (fun _ f hf => by cases hf; exact hvars) (fun _ s hs => by cases hs; exact hanchor) clearingGuarded hmem
  obtain ⟨out, hout, hiff⟩ := hspliced clearingText writing.span (by decide +kernel) (by decide +kernel)
  exact ⟨c, out, hc, hmem, hout, hiff.mpr (by decide +kernel)⟩

end Term

end Mend.Patch

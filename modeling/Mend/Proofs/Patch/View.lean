import Mend.Proofs.Patch.Concretize

/-!
# The view of a term and its candidate

A term is rendered twice: its view names the holes, its candidates fill them. The view asks the source for
the statement at the location and for nothing else. Where a term leaves no choice it has one candidate, and
that differs from the view in its line feeds only.

* `Stmt.shown`, `shownList` : the view of a term with a text in the place of its anchors;
* `Stmt.run_view`, `Stmt.run_view_error` : that is the view, unless it has to ask and the source fails;
* `Expr.isFixed`, `Stmt.isFixed`, `allFixed` : terms that leave no choice;
* `Stmt.isFilled`, `allFilled` : terms in which every statement list has a member;
* `unbroken` : a text without its line feeds;
* `Stmt.texts_agree`, `memberTexts_agree` : the candidate of such a term and its view;
* `Term.view_eq_ite` : the view of every term;
* `Term.view_agrees` : all of it for every term.
-/

namespace Mend.Patch

/-! ## What a view shows -/

def anchorText : Option Statement → String
  | none => "NodeStmt()"
  | some s => s.terminated

mutual

/-- A statement with its holes named and `anchor` in the place of the program's own statement. -/
def Stmt.shown (anchor : String) : Stmt → String
  | .ifThen condition body => "if (" ++ condition.sketch ++ ") \x7b\n" ++ shownList anchor body ++ "\n\x7d\n"
  | .otherwise body => "else \x7b\n" ++ shownList anchor body ++ "\n\x7d\n"
  | .ret value => "return " ++ value.sketch ++ ";"
  | .anchor => anchor
  | .expr e => e.sketch

/-- The members of a statement list, each one followed by a line feed. -/
def shownList (anchor : String) : List Stmt → String
  | [] => ""
  | s :: ss => s.shown anchor ++ "\n" ++ shownList anchor ss

end

section View

variable {here : Situation Id} {e : FactError}

mutual

/-- A view shows the statement that the source gives. A statement without an anchor does not ask for it. -/
theorem Stmt.run_view (found : Option Statement) : ∀ member : Stmt,
    (.anchor ∈ member.holes → here.source.statementAt here.location = .ok found) →
      (member.view here).run = .ok (member.shown (anchorText found))
  | .ifThen condition body, h => by
    rw [Stmt.view, run_bind_of_ok (run_viewList found body fun hmem => h (List.mem_append_right _ hmem)), Stmt.shown]
    rfl
  | .otherwise body, h => by
    rw [Stmt.view, run_bind_of_ok (run_viewList found body h), Stmt.shown]
    rfl
  | .ret value, _ => by
    rw [Stmt.view, Stmt.shown]
    rfl
  | .anchor, h => by
    rw [Stmt.view, Stmt.shown]
    refine (run_bind_of_ok (a := (here.source.statementAt here.location).run) rfl _).trans ?_
    rw [h List.mem_cons_self]
    cases found <;> rfl
  | .expr e, _ => by
    rw [Stmt.view, Stmt.shown]
    rfl

theorem run_viewList (found : Option Statement) : ∀ body : List Stmt,
    (.anchor ∈ holesOf body → here.source.statementAt here.location = .ok found) →
      (viewList here body).run = .ok (shownList (anchorText found) body)
  | [], _ => by
    rw [viewList, shownList]
    rfl
  | member :: members, h => by
    rw [holesOf] at h
    rw [viewList, run_bind_of_ok (Stmt.run_view found member fun hmem => h (List.mem_append_left _ hmem)),
      run_bind_of_ok (run_viewList found members fun hmem => h (List.mem_append_right _ hmem)), shownList]
    rfl

end

mutual

theorem Stmt.run_view_error (hfail : here.source.statementAt here.location = .error e) :
    ∀ member : Stmt, .anchor ∈ member.holes → (member.view here).run = .error (.facts e)
  | .ifThen condition body, h => by
    have hmem := (List.mem_append.mp h).resolve_left condition.anchor_not_mem_holes
    rw [Stmt.view, run_bind_of_error (run_viewList_error hfail body hmem)]
  | .otherwise body, h => by
    rw [Stmt.view, run_bind_of_error (run_viewList_error hfail body h)]
  | .ret value, h => absurd h value.anchor_not_mem_holes
  | .anchor, _ => by
    rw [Stmt.view]
    refine (run_bind_of_ok (a := (here.source.statementAt here.location).run) rfl _).trans ?_
    rw [hfail]
    rfl
  | .expr e, h => absurd h e.anchor_not_mem_holes

theorem run_viewList_error (hfail : here.source.statementAt here.location = .error e) :
    ∀ body : List Stmt, .anchor ∈ holesOf body → (viewList here body).run = .error (.facts e)
  | [], h => absurd h List.not_mem_nil
  | member :: members, h => by
    rw [viewList]
    by_cases hmember : .anchor ∈ member.holes
    · rw [run_bind_of_error (Stmt.run_view_error hfail member hmember)]
    · -- the first member does not ask, so a later one does
      have hmembers := (List.mem_append.mp h).resolve_left hmember
      rw [run_bind_of_ok (Stmt.run_view none member fun hmem => absurd hmem hmember),
        run_bind_of_error (run_viewList_error hfail members hmembers)]

end

end View

/-! ## Terms that leave no choice -/

/-- Whether an expression leaves no choice: it has no hole, and no operator that may be another one. -/
def Expr.isFixed : Expr → Bool
  | .literal _ => true
  | .variable => false
  | .bufferSize => false
  | .math _ _ => false
  | .compare _ _ => false
  | .lessThan lhs rhs => lhs.isFixed && rhs.isFixed

mutual

/-- Whether a statement leaves no choice at a location. -/
def Stmt.isFixed : Stmt → Bool
  | .ifThen condition body => condition.isFixed && allFixed body
  | .otherwise body => allFixed body
  | .ret value => value.isFixed
  | .anchor => true
  | .expr e => e.isFixed

/-- Whether no member of a statement list leaves a choice. -/
def allFixed : List Stmt → Bool
  | [] => true
  | s :: ss => s.isFixed && allFixed ss

end

mutual

/-- Whether every statement list in a statement has a member. -/
def Stmt.isFilled : Stmt → Bool
  | .ifThen _ body => !body.isEmpty && allFilled body
  | .otherwise body => !body.isEmpty && allFilled body
  | .ret _ => true
  | .anchor => true
  | .expr _ => true

/-- Whether every statement list in the members of a statement list has a member. -/
def allFilled : List Stmt → Bool
  | [] => true
  | s :: ss => s.isFilled && allFilled ss

end

theorem Expr.holes_of_isFixed {e : Expr} (h : e.isFixed = true) : e.holes = [] := by
  fun_induction Expr.isFixed e with
  | case1 text => rfl
  | case6 lhs rhs ihl ihr =>
    obtain ⟨hl, hr⟩ := Bool.and_eq_true_iff.mp h
    rw [Expr.holes, ihl hl, ihr hr, List.append_nil]
  | _ => cases h

mutual

/-- All that a fixed statement may ask for is the statement at the location. -/
theorem Stmt.eq_anchor_of_isFixed : ∀ member : Stmt, member.isFixed = true → ∀ hole ∈ member.holes, hole = .anchor
  | .ifThen condition body, h => by
    obtain ⟨hcondition, hbody⟩ := Bool.and_eq_true_iff.mp h
    rw [Stmt.holes, Expr.holes_of_isFixed hcondition]
    exact eq_anchor_of_allFixed body hbody
  | .otherwise body, h => eq_anchor_of_allFixed body h
  | .ret value, h => by
    rw [Stmt.holes, Expr.holes_of_isFixed h]
    simp
  | .anchor, _ => fun _ hmem => List.mem_singleton.mp hmem
  | .expr e, h => by
    rw [Stmt.holes, Expr.holes_of_isFixed h]
    simp

theorem eq_anchor_of_allFixed : ∀ body : List Stmt, allFixed body = true → ∀ hole ∈ holesOf body, hole = .anchor
  | [], _ => fun _ hmem => absurd hmem List.not_mem_nil
  | member :: members, h => by
    obtain ⟨hmember, hmembers⟩ := Bool.and_eq_true_iff.mp h
    rw [holesOf]
    intro hole hmem
    rcases List.mem_append.mp hmem with hmem | hmem
    · exact Stmt.eq_anchor_of_isFixed member hmember hole hmem
    · exact eq_anchor_of_allFixed members hmembers hole hmem

end

/-! ## One candidate -/

def unbroken (text : String) : List Char := text.toList.filter (· ≠ '\n')

@[simp] theorem unbroken_append (a b : String) : unbroken (a ++ b) = unbroken a ++ unbroken b := by
  rw [unbroken, String.toList_append, List.filter_append]
  rfl

@[simp] theorem unbroken_newline : unbroken "\n" = [] := rfl

theorem unbroken_intercalate (lines : List String) :
    unbroken ("\n".intercalate lines) = lines.flatMap unbroken := by
  induction lines with
  | nil => rfl
  | cons line lines ih =>
    cases lines with
    | nil => simp
    | cons next lines => rw [String.intercalate_cons_cons, List.flatMap_cons, ← ih]; simp

theorem Expr.texts_eq (f : FunctionDef) {e : Expr} (h : e.isFixed = true) : e.texts f = [e.sketch] := by
  fun_induction Expr.isFixed e with
  | case1 text => rfl
  | case6 lhs rhs ihl ihr =>
    obtain ⟨hl, hr⟩ := Bool.and_eq_true_iff.mp h
    have hspaced : lhs.sketch ++ " " ++ "<" ++ " " = lhs.sketch ++ " < " := by
      rw [String.append_assoc, String.append_assoc]
      exact congrArg (lhs.sketch ++ ·) (by decide)
    change operatorTexts ["<"] (lhs.texts f) (rhs.texts f) = [lhs.sketch ++ " < " ++ rhs.sketch]
    rw [ihl hl, ihr hr, ← hspaced]
    rfl
  | _ => cases h

/-- One line from each of some lists with one line each. -/
theorem joinedTexts_singletons {lines : List String} (h : lines ≠ []) :
    joinedTexts (lines.map fun line => [line]) = ["\n".intercalate lines] := by
  have hselections : ∀ lines : List String, Choice.selections (lines.map fun line => [line]) = [lines] := by
    intro lines
    induction lines with
    | nil => rfl
    | cons line lines ih => rw [List.map_cons, Choice.selections, ih]; simp
  rw [joinedTexts, Choice.combine, if_neg (by simpa using h), hselections]
  rfl

section Candidate

variable {f : FunctionDef} {s : Statement}

/-- The candidates of a term are one text, and that is a view up to line feeds. -/
def Agrees (texts : List String) (view : String) : Prop :=
  ∃ text, texts = [text] ∧ unbroken text = unbroken view

/-- The members of a statement list have one candidate each, and these make up a view up to line feeds. -/
def MembersAgree (lists : List (List String)) (view : String) : Prop :=
  ∃ lines : List String, lists = lines.map (fun line => [line]) ∧ lines.flatMap unbroken = unbroken view

theorem MembersAgree.join {body : List Stmt} {view : String} (h : MembersAgree (memberTexts f s body) view)
    (hne : (!body.isEmpty) = true) : Agrees (listTexts f s body) view := by
  obtain ⟨lines, hlines, hview⟩ := h
  have hsome : lines ≠ [] := by
    rintro rfl
    cases body with
    | nil => cases hne
    | cons member members =>
      rw [memberTexts] at hlines
      cases hlines
  refine ⟨"\n".intercalate lines, ?_, (unbroken_intercalate lines).trans hview⟩
  rw [listTexts, hlines, joinedTexts_singletons hsome]

mutual

/-- A statement that leaves no choice has one candidate, which is its view up to line feeds. -/
theorem Stmt.texts_agree : ∀ member : Stmt, member.isFixed = true → member.isFilled = true →
    Agrees (member.texts f s) (member.shown s.terminated)
  | .ifThen condition body, hfixed, hfilled => by
    obtain ⟨hcondition, hbody⟩ := Bool.and_eq_true_iff.mp hfixed
    obtain ⟨hne, hbodies⟩ := Bool.and_eq_true_iff.mp hfilled
    obtain ⟨text, htext, hview⟩ := (memberTexts_agree body hbody hbodies).join hne
    rw [listTexts] at htext
    rw [Stmt.texts, condition.texts_eq f hcondition, htext, Stmt.shown]
    exact ⟨_, rfl, by simp [hview]⟩
  | .otherwise body, hfixed, hfilled => by
    obtain ⟨hne, hbodies⟩ := Bool.and_eq_true_iff.mp hfilled
    obtain ⟨text, htext, hview⟩ := (memberTexts_agree body hfixed hbodies).join hne
    rw [listTexts] at htext
    rw [Stmt.texts, htext, Stmt.shown]
    exact ⟨_, rfl, by simp [hview]⟩
  | .ret value, hfixed, _ => by
    rw [Stmt.texts, value.texts_eq f hfixed, Stmt.shown]
    exact ⟨_, rfl, rfl⟩
  | .anchor, _, _ => by
    rw [Stmt.texts, Stmt.shown]
    exact ⟨_, rfl, rfl⟩
  | .expr e, hfixed, _ => by
    rw [Stmt.texts, e.texts_eq f hfixed, Stmt.shown]
    exact ⟨_, rfl, rfl⟩

theorem memberTexts_agree : ∀ body : List Stmt, allFixed body = true → allFilled body = true →
    MembersAgree (memberTexts f s body) (shownList s.terminated body)
  | [], _, _ => ⟨[], by rw [memberTexts]; rfl, by rw [shownList]; rfl⟩
  | member :: members, hfixed, hfilled => by
    obtain ⟨hmember, hmembers⟩ := Bool.and_eq_true_iff.mp hfixed
    obtain ⟨hbodies, hothers⟩ := Bool.and_eq_true_iff.mp hfilled
    obtain ⟨line, hline, hview⟩ := Stmt.texts_agree member hmember hbodies
    obtain ⟨lines, hlines, hviews⟩ := memberTexts_agree members hmembers hothers
    refine ⟨line :: lines, by rw [memberTexts, hline, hlines, List.map_cons], ?_⟩
    rw [List.flatMap_cons, hviews, hview, shownList]
    simp

end

end Candidate

namespace Term

/-! ## Every term -/

/-- The view of a term at a location. That of an expression asks for nothing. -/
def view (here : Situation Id) : Term → Except Unresolved String
  | .expr e => .ok e.sketch
  | .stmt member => (member.view here).run
  | .list body => (viewList here body).run
  | .template t => (t.view here).run

/-- A term with its holes named and `anchor` in the place of the program's own statement. -/
def shown (anchor : String) : Term → String
  | .expr e => e.sketch
  | .stmt member => member.shown anchor
  | .list body => shownList anchor body
  | .template t => shownList anchor t.pattern

/-- Whether a term leaves no choice at a location. -/
def isFixed : Term → Bool
  | .expr e => e.isFixed
  | .stmt member => member.isFixed
  | .list body => allFixed body
  | .template t => allFixed t.pattern

def isFilled : Term → Bool
  | .expr _ => true
  | .stmt member => member.isFilled
  | .list body => !body.isEmpty && allFilled body
  | .template t => !t.pattern.isEmpty && allFilled t.pattern

theorem view_eq {here : Situation Id} (t : Term) (found : Option Statement)
    (h : .anchor ∈ t.holes → here.source.statementAt here.location = .ok found) :
    t.view here = .ok (t.shown (anchorText found)) :=
  match t with
  | .expr _ => rfl
  | .stmt member => member.run_view found h
  | .list body => run_viewList found body h
  | .template t => run_viewList found t.pattern h

theorem view_eq_error {here : Situation Id} {e : FactError} (t : Term) (hmem : .anchor ∈ t.holes)
    (h : here.source.statementAt here.location = .error e) : t.view here = .error (.facts e) :=
  match t with
  | .expr e => absurd hmem e.anchor_not_mem_holes
  | .stmt member => member.run_view_error h hmem
  | .list body => run_viewList_error h body hmem
  | .template t => run_viewList_error h t.pattern hmem

theorem eq_anchor_of_isFixed (t : Term) (h : t.isFixed = true) : ∀ hole ∈ t.holes, hole = .anchor :=
  match t with
  | .expr e => by
    rw [holes, Expr.holes_of_isFixed h]
    simp
  | .stmt member => member.eq_anchor_of_isFixed h
  | .list body => eq_anchor_of_allFixed body h
  | .template t => eq_anchor_of_allFixed t.pattern h

theorem texts_agree (t : Term) (f : FunctionDef) (s : Statement) (hfixed : t.isFixed = true)
    (hfilled : t.isFilled = true) : Agrees (t.texts f s) (t.shown s.terminated) :=
  match t with
  | .expr e => ⟨_, e.texts_eq f hfixed, rfl⟩
  | .stmt member => member.texts_agree hfixed hfilled
  | .list body =>
    (memberTexts_agree body hfixed (Bool.and_eq_true_iff.mp hfilled).2).join (Bool.and_eq_true_iff.mp hfilled).1
  | .template t =>
    (memberTexts_agree t.pattern hfixed (Bool.and_eq_true_iff.mp hfilled).2).join
      (Bool.and_eq_true_iff.mp hfilled).1

/-- The view of a term with an anchor is that of the statement there, and all other views ask for nothing. -/
theorem view_eq_ite (here : Situation Id) (t : Term) :
    t.view here =
      if .anchor ∈ t.holes then
        match (here.source.statementAt here.location).run with
        | .error e => .error (.facts e)
        | .ok found => .ok (t.shown (anchorText found))
      else .ok (t.shown (anchorText none)) := by
  split
  · next hmem =>
    split
    · next e hfail => exact t.view_eq_error hmem hfail
    · next found hfound => exact t.view_eq found fun _ => hfound
  · next hmem => exact t.view_eq none fun hanchor => absurd hanchor hmem

theorem view_congr (t : Term) {source other : FactSource Id} {l : Location}
    (h : other.statementAt l = source.statementAt l) : t.view ⟨other, l⟩ = t.view ⟨source, l⟩ := by
  rw [view_eq_ite, view_eq_ite, h]

theorem exists_view_eq_error_iff (t : Term) {source : FactSource Id} {l : Location} :
    (∃ e, t.view ⟨source, l⟩ = .error e) ↔ .anchor ∈ t.holes ∧ ∃ e, source.statementAt l = .error e := by
  constructor
  · rintro ⟨e, he⟩
    rw [view_eq_ite] at he
    split at he
    · next hmem =>
      split at he
      · next e hfail => exact ⟨hmem, e, hfail⟩
      · cases he
    · cases he
  · rintro ⟨hmem, e, he⟩
    exact ⟨_, t.view_eq_error hmem he⟩

/-- A term that leaves no choice has one candidate, and that is its view up to line feeds. -/
theorem concretize_agrees (t : Term) {source : FactSource Id} {l : Location} (hfixed : t.isFixed = true)
    (hfilled : t.isFilled = true)
    (hfound : .anchor ∈ t.holes → ∃ s, source.statementAt l = .ok (some s)) :
    ∃ c view, t.concretize ⟨source, l⟩ = .ok c ∧ t.view ⟨source, l⟩ = .ok view ∧
      Agrees c.stream.toList view := by
  -- nothing asks for the function around the location
  have hnone : ¬(.variable ∈ t.holes ∨ .bufferSize ∈ t.holes) := by
    rintro (hmem | hmem)
    · cases t.eq_anchor_of_isFixed hfixed _ hmem
    · cases t.eq_anchor_of_isFixed hfixed _ hmem
  have hopen : Situation.firstFailure? ⟨source, l⟩ t.holes = none :=
    Situation.firstFailure?_eq_none_iff.mpr ⟨fun hmem => absurd hmem hnone, hfound⟩
  obtain ⟨c, hc⟩ := exists_concretize_iff.mpr hopen
  obtain ⟨f, s, hfills, htexts⟩ := exists_fills_of_concretize hc
  refine ⟨c, _, hc, t.view_eq (some s) (Situation.fills_iff.mp hfills).2, ?_⟩
  rw [htexts]
  exact t.texts_agree f s hfixed hfilled

/-- The view of a term depends on a source only through the statement at the location, and it fails exactly if
the term has an anchor and that look-up fails. A term that leaves no choice, and in which no statement list is
empty, has exactly one candidate where its anchors have a statement, and that is its view up to line feeds. -/
theorem view_agrees (t : Term) (source : FactSource Id) (l : Location) :
    (∀ other : FactSource Id, other.statementAt l = source.statementAt l →
      t.view ⟨other, l⟩ = t.view ⟨source, l⟩) ∧
    ((∃ e, t.view ⟨source, l⟩ = .error e) ↔ .anchor ∈ t.holes ∧ ∃ e, source.statementAt l = .error e) ∧
    (∀ found, source.statementAt l = .ok found → t.view ⟨source, l⟩ = .ok (t.shown (anchorText found))) ∧
    (t.isFixed = true → t.isFilled = true →
      (.anchor ∈ t.holes → ∃ s, source.statementAt l = .ok (some s)) →
        ∃ c candidate view, t.concretize ⟨source, l⟩ = .ok c ∧ c.stream.toList = [candidate] ∧
          t.view ⟨source, l⟩ = .ok view ∧ unbroken candidate = unbroken view) := by
  refine ⟨fun other h => t.view_congr h, t.exists_view_eq_error_iff, fun found h => t.view_eq found fun _ => h, ?_⟩
  intro hfixed hfilled hfound
  obtain ⟨c, view, hc, hview, candidate, hcandidate, hagree⟩ := t.concretize_agrees hfixed hfilled hfound
  exact ⟨c, candidate, view, hc, hcandidate, hview, hagree⟩

/-- A guard around the statement at the location, with nothing left to choose. -/
def guardedWrite : Term :=
  .list [.ifThen (.lessThan (.literal "n") (.literal "8")) [.anchor, .ret (.literal "0")], .otherwise [.anchor]]

/-- Where a statement starts the guard has one candidate, which has fewer line feeds than the view. Where none
starts the view names the anchor, and it fails if the source does. -/
theorem view_agrees_guardedWrite :
    (∃ c candidate, guardedWrite.concretize ⟨clearingSource, ⟨⟨"a.c"⟩, ⟨3, 3⟩⟩⟩ = .ok c ∧
      c.stream.toList = [candidate] ∧
      unbroken candidate = "if (n < 8) \x7bbuf[n] = 0;return 0;\x7delse \x7bbuf[n] = 0;\x7d".toList) ∧
    guardedWrite.view ⟨clearingSource, ⟨⟨"a.c"⟩, ⟨4, 1⟩⟩⟩ =
      .ok "if (n < 8) \x7b\nNodeStmt()\nreturn 0;\n\n\x7d\n\nelse \x7b\nNodeStmt()\n\n\x7d\n\n" ∧
    ∃ e, guardedWrite.view ⟨.failing .database, ⟨⟨"a.c"⟩, ⟨3, 3⟩⟩⟩ = .error e := by
  obtain ⟨-, -, hshown, hagree⟩ := view_agrees guardedWrite clearingSource ⟨⟨"a.c"⟩, ⟨3, 3⟩⟩
  obtain ⟨-, -, hnamed, -⟩ := view_agrees guardedWrite clearingSource ⟨⟨"a.c"⟩, ⟨4, 1⟩⟩
  obtain ⟨-, hfails, -, -⟩ := view_agrees guardedWrite (.failing .database) ⟨⟨"a.c"⟩, ⟨3, 3⟩⟩
  obtain ⟨c, candidate, view, hc, hcandidate, hview, hequal⟩ :=
    hagree (by decide +kernel) (by decide +kernel) fun _ => ⟨writing, rfl⟩
  refine ⟨⟨c, candidate, hc, hcandidate, hequal.trans ?_⟩, (hnamed none rfl).trans ?_,
    hfails.mpr ⟨by decide +kernel, .database, rfl⟩⟩
  · cases ((hshown (some writing) rfl).symm.trans hview)
    decide +kernel
  · exact congrArg Except.ok (by decide +kernel)

end Term

end Mend.Patch

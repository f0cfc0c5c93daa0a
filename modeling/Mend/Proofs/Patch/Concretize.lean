import Mend.Patch.Template
import Mend.Proofs.Patch.Meaning
import Mend.Proofs.Steps

/-!
# What a term gives at a location

A term is resolved from left to right, and the function around the location is remembered once it has been
looked up. None of that shows in the result: a term has candidates exactly if the source fills each of its
holes, they are composed from those of its parts, and otherwise the first hole that stays open says why.

* `Hole`, `Expr.holes`, `Stmt.holes`, `holesOf` : what a term needs, from left to right;
* `Hole.failure?` : why a source leaves a hole open;
* `Expr.texts`, `Stmt.texts`, `listTexts` : the candidates of a term around which everything is known;
* `Resolves` : a resolution ends as its holes say, whatever it remembers; `Resolves.bind` : so do two in a row;
* `Expr.resolves`, `Stmt.resolves` : so does every term;
* `Term` : everything that can be concretized; `concretize_cases` : how that ends;
* `exists_fills_of_concretize` : candidates come from a function and a statement that fill the holes;
* `concretize_compositional` : when it succeeds, with which candidates, and how it fails.
-/

namespace Mend.Patch

/-! ## Holes -/

/-- A leaf of a term that the program around it has to fill. -/
inductive Hole where
  | variable
  | bufferSize
  | anchor
deriving DecidableEq

/-- The holes of an expression, from left to right. -/
def Expr.holes : Expr → List Hole
  | .literal _ => []
  | .variable => [.variable]
  | .bufferSize => [.bufferSize]
  | .math lhs rhs => lhs.holes ++ rhs.holes
  | .compare lhs rhs => lhs.holes ++ rhs.holes
  | .lessThan lhs rhs => lhs.holes ++ rhs.holes

mutual

/-- The holes of a statement, from left to right. -/
def Stmt.holes : Stmt → List Hole
  | .ifThen condition body => condition.holes ++ holesOf body
  | .otherwise body => holesOf body
  | .ret value => value.holes
  | .anchor => [.anchor]
  | .expr e => e.holes

/-- The holes of a statement list, member by member. -/
def holesOf : List Stmt → List Hole
  | [] => []
  | s :: ss => s.holes ++ holesOf ss

end

theorem Expr.anchor_not_mem_holes (e : Expr) : Hole.anchor ∉ e.holes := by
  induction e with
  | literal text => exact List.not_mem_nil
  | «variable» => decide
  | bufferSize => decide
  | math lhs rhs ihl ihr => exact List.not_mem_append ihl ihr
  | compare lhs rhs ihl ihr => exact List.not_mem_append ihl ihr
  | lessThan lhs rhs ihl ihr => exact List.not_mem_append ihl ihr

/-- Why a look-up gives nothing, if it does not: it fails, or there is nothing, which `absent` says. -/
def missing? {α : Type} (absent : Unresolved) : Except FactError (Option α) → Option Unresolved
  | .error e => some (.facts e)
  | .ok none => some absent
  | .ok (some _) => none

theorem missing?_eq_none_iff {α : Type} {absent : Unresolved} {found : Except FactError (Option α)} :
    missing? absent found = none ↔ ∃ a, found = .ok (some a) := by
  match found with
  | .error e => exact iff_of_false nofun nofun
  | .ok none => exact iff_of_false nofun nofun
  | .ok (some a) => exact iff_of_true rfl ⟨a, rfl⟩

theorem missing?_eq_some {α : Type} {absent e : Unresolved} {found : Except FactError (Option α)}
    (h : missing? absent found = some e) : e = absent ∨ ∃ x, e = .facts x := by
  match found with
  | .error x =>
    cases h
    exact Or.inr ⟨x, rfl⟩
  | .ok none =>
    cases h
    exact Or.inl rfl
  | .ok (some a) => cases h

/-- Why a source does not fill a hole at a location, if it does not. -/
def Hole.failure? (source : FactSource Id) (l : Location) : Hole → Option Unresolved
  | .variable => missing? (.noEnclosingFunction l) (source.functionContaining l).run
  | .bufferSize => missing? (.noEnclosingFunction l) (source.functionContaining l).run
  | .anchor => missing? (.noStatement l) (source.statementAt l).run

/-- A source fills a hole at a location: with the variables or the arrays of the function `f`, or with the
statement `s`. -/
def Hole.FilledBy (source : FactSource Id) (l : Location) (f : FunctionDef) (s : Statement) : Hole → Prop
  | .variable => source.functionContaining l = .ok (some f)
  | .bufferSize => source.functionContaining l = .ok (some f)
  | .anchor => source.statementAt l = .ok (some s)

theorem forall_holes_iff {P : Hole → Prop} {holes : List Hole} {A B : Prop} (hvariable : P .variable ↔ A)
    (hbuffer : P .bufferSize ↔ A) (hanchor : P .anchor ↔ B) :
    (∀ h ∈ holes, P h) ↔ (.variable ∈ holes ∨ .bufferSize ∈ holes → A) ∧ (.anchor ∈ holes → B) := by
  constructor
  · intro h
    refine ⟨?_, fun hmem => hanchor.mp (h _ hmem)⟩
    rintro (hmem | hmem)
    · exact hvariable.mp (h _ hmem)
    · exact hbuffer.mp (h _ hmem)
  · rintro ⟨hfunction, hstatement⟩ hole hmem
    cases hole with
    | «variable» => exact hvariable.mpr (hfunction (Or.inl hmem))
    | bufferSize => exact hbuffer.mpr (hfunction (Or.inr hmem))
    | anchor => exact hanchor.mpr (hstatement hmem)

/-! ## Candidates of known surroundings -/

/-- All texts of two sides with one of some operators between them; the left side turns slowest, the
operator fastest. -/
def operatorTexts (operators xs ys : List String) : List String :=
  xs.flatMap fun x => ys.flatMap fun y => operators.map fun o => x ++ " " ++ o ++ " " ++ y

def Expr.texts (f : FunctionDef) : Expr → List String
  | .literal text => [text]
  | .variable => f.vars.map (·.name)
  | .bufferSize => (f.vars.filter (·.isArray)).map fun v => "sizeof(" ++ v.name ++ ")"
  | .math lhs rhs => operatorTexts ["+", "-", "/", "*", "<<"] (lhs.texts f) (rhs.texts f)
  | .compare lhs rhs => operatorTexts ["==", "!=", "<=", "<", ">=", ">"] (lhs.texts f) (rhs.texts f)
  | .lessThan lhs rhs => operatorTexts ["<"] (lhs.texts f) (rhs.texts f)

/-- All texts of one line from each list, the first list turning slowest, and every text once. -/
def joinedTexts (lists : List (List String)) : List String :=
  Choice.firstOccurrences [] (Choice.combine lists)

theorem mem_joinedTexts {text : String} {lists : List (List String)} :
    text ∈ joinedTexts lists ↔ lists ≠ [] ∧ ∃ lines : List String,
      List.Forall₂ (fun line xs => line ∈ xs) lines lists ∧ text = "\n".intercalate lines := by
  rw [joinedTexts, Choice.mem_firstOccurrences, and_iff_left List.not_mem_nil]
  unfold Choice.combine
  cases lists with
  | nil => exact iff_of_false List.not_mem_nil fun h => h.1 rfl
  | cons xs lists => simp [Choice.mem_selections, eq_comm]

mutual

/-- The candidates of a statement inside the function `f`, at the statement `s`. -/
def Stmt.texts (f : FunctionDef) (s : Statement) : Stmt → List String
  | .ifThen condition body =>
    (condition.texts f).flatMap fun x =>
      (joinedTexts (memberTexts f s body)).map fun y => "if (" ++ x ++ ") \x7b\n" ++ y ++ "\n\x7d\n"
  | .otherwise body =>
    (joinedTexts (memberTexts f s body)).map fun y => "else \x7b\n" ++ y ++ "\n\x7d\n"
  | .ret value => (value.texts f).map fun x => "return " ++ x ++ ";"
  | .anchor => [if s.expr.toList.getLast? = some ';' then s.expr else s.expr ++ ";"]
  | .expr e => e.texts f

def memberTexts (f : FunctionDef) (s : Statement) : List Stmt → List (List String)
  | [] => []
  | member :: members => member.texts f s :: memberTexts f s members

end

def listTexts (f : FunctionDef) (s : Statement) (body : List Stmt) : List String :=
  joinedTexts (memberTexts f s body)

/-! ## Resolving -/

section Resolve

variable {here : Situation Id} {α β : Type} {holes holes' : List Hole}

/-- The function that is remembered, if there is one, is the one that the source gives. -/
def Remembers (here : Situation Id) (known : Option FunctionDef) : Prop :=
  ∀ f, known = some f → here.source.functionContaining here.location = .ok (some f)

/-- The first reason why holes stay open at a location. -/
def Situation.firstFailure? (here : Situation Id) (holes : List Hole) : Option Unresolved :=
  holes.findSome? (Hole.failure? here.source here.location)

/-- The source fills holes, as far as they ask for a function with `f` and as far as they ask for a statement
with `s`. -/
def Situation.Fills (here : Situation Id) (f : FunctionDef) (s : Statement) (holes : List Hole) : Prop :=
  ∀ h ∈ holes, h.FilledBy here.source here.location f s

/-- No hole stays open exactly if what the holes ask for is there. -/
theorem Situation.firstFailure?_eq_none_iff :
    here.firstFailure? holes = none ↔
      (.variable ∈ holes ∨ .bufferSize ∈ holes →
        ∃ f, here.source.functionContaining here.location = .ok (some f)) ∧
      (.anchor ∈ holes → ∃ s, here.source.statementAt here.location = .ok (some s)) := by
  rw [firstFailure?, List.findSome?_eq_none_iff]
  exact forall_holes_iff missing?_eq_none_iff missing?_eq_none_iff missing?_eq_none_iff

theorem Situation.fills_iff {f : FunctionDef} {s : Statement} :
    here.Fills f s holes ↔
      (.variable ∈ holes ∨ .bufferSize ∈ holes →
        here.source.functionContaining here.location = .ok (some f)) ∧
      (.anchor ∈ holes → here.source.statementAt here.location = .ok (some s)) :=
  forall_holes_iff Iff.rfl Iff.rfl Iff.rfl

/-- Where no hole stays open, a function and a statement fill all of them. -/
theorem Situation.exists_fills (h : here.firstFailure? holes = none) : ∃ f s, here.Fills f s holes := by
  obtain ⟨hfunction, hstatement⟩ := firstFailure?_eq_none_iff.mp h
  have hf : ∃ f, .variable ∈ holes ∨ .bufferSize ∈ holes →
      here.source.functionContaining here.location = .ok (some f) := by
    by_cases hmem : .variable ∈ holes ∨ .bufferSize ∈ holes
    · exact (hfunction hmem).imp fun f hf _ => hf
    · exact ⟨default, fun hmem' => absurd hmem' hmem⟩
  have hs : ∃ s, .anchor ∈ holes → here.source.statementAt here.location = .ok (some s) := by
    by_cases hmem : .anchor ∈ holes
    · exact (hstatement hmem).imp fun s hs _ => hs
    · exact ⟨default, fun hmem' => absurd hmem' hmem⟩
  obtain ⟨f, hf⟩ := hf
  obtain ⟨s, hs⟩ := hs
  exact ⟨f, s, fills_iff.mpr ⟨hf, hs⟩⟩

/-- Whatever a resolution remembers from before, it fails with the first of its holes that stays open, and
gives a result as described if there is none. -/
def Resolves (here : Situation Id) (holes : List Hole) (P : α → Prop) (r : Resolution Id α) : Prop :=
  ∀ known, Remembers here known → ∃ known', Remembers here known' ∧
    match here.firstFailure? holes with
    | some e => r.run known = (.error e, known')
    | none => ∃ a, r.run known = (.ok a, known') ∧ P a

theorem Resolves.pure {P : α → Prop} {a : α} (h : P a) : Resolves here [] P (Pure.pure a) :=
  fun known hknown => ⟨known, hknown, a, rfl, h⟩

theorem Resolves.bind {P : α → Prop} {Q : β → Prop} {x : Resolution Id α} {f : α → Resolution Id β}
    (hx : Resolves here holes P x) (hf : ∀ a, P a → Resolves here holes' Q (f a)) :
    Resolves here (holes ++ holes') Q (x >>= f) := by
  intro known hknown
  obtain ⟨known₁, hknown₁, hrun⟩ := hx known hknown
  rw [Situation.firstFailure?, List.findSome?_append]
  rw [Situation.firstFailure?] at hrun
  cases hfail : holes.findSome? (Hole.failure? here.source here.location) with
  | some e =>
    rw [hfail] at hrun
    exact ⟨known₁, hknown₁, run_bind_error hrun f⟩
  | none =>
    rw [hfail] at hrun
    obtain ⟨a, hrun, ha⟩ := hrun
    -- the second one starts with what the first one remembers, so it has to hold for every such start
    obtain ⟨known₂, hknown₂, hrest⟩ := hf a ha known₁ hknown₁
    refine ⟨known₂, hknown₂, ?_⟩
    rw [run_bind_ok hrun]
    exact hrest

theorem Resolves.map {P : α → Prop} {Q : β → Prop} {x : Resolution Id α} {g : α → β}
    (hx : Resolves here holes P x) (hg : ∀ a, P a → Q (g a)) :
    Resolves here holes Q (x >>= fun a => Pure.pure (g a)) := by
  have h := hx.bind (f := fun a => Pure.pure (g a)) fun a ha => Resolves.pure (hg a ha)
  rwa [List.append_nil] at h

theorem run_enclosing (known : Option FunctionDef) :
    here.enclosing.run known =
      match known with
      | some f => (.ok f, some f)
      | none =>
        match (here.source.functionContaining here.location).run with
        | .error e => (.error (.facts e), none)
        | .ok none => (.error (.noEnclosingFunction here.location), none)
        | .ok (some f) => (.ok f, some f) := by
  unfold Situation.enclosing
  refine (run_get_bind _).trans ?_
  cases known with
  | some f => rfl
  | none =>
    refine (run_bind_ok (a := (here.source.functionContaining here.location).run) (u := none) rfl _).trans ?_
    cases (here.source.functionContaining here.location).run with
    | error e => rfl
    | ok found => cases found <;> rfl

theorem run_anchored (known : Option FunctionDef) :
    here.anchored.run known =
      match (here.source.statementAt here.location).run with
      | .error e => (.error (.facts e), known)
      | .ok none => (.error (.noStatement here.location), known)
      | .ok (some s) => (.ok s.terminated, known) := by
  unfold Situation.anchored
  refine (run_bind_ok (a := (here.source.statementAt here.location).run) (u := known) rfl _).trans ?_
  cases (here.source.statementAt here.location).run with
  | error e => rfl
  | ok found => cases found <;> rfl

/-- The enclosing function is the one that the source gives, remembered or not. -/
theorem resolves_enclosing {h : Hole}
    (hh : h.failure? here.source here.location =
      missing? (.noEnclosingFunction here.location) (here.source.functionContaining here.location).run) :
    Resolves here [h] (fun f => here.source.functionContaining here.location = .ok (some f))
      here.enclosing := by
  intro known hknown
  rw [Situation.firstFailure?, List.findSome?_singleton, hh, run_enclosing]
  cases known with
  | some f =>
    rw [hknown f rfl]
    exact ⟨some f, hknown, f, rfl, rfl⟩
  | none =>
    cases hfound : (here.source.functionContaining here.location).run with
    | error e => exact ⟨none, hknown, rfl⟩
    | ok found =>
      cases found with
      | none => exact ⟨none, hknown, rfl⟩
      | some f => exact ⟨some f, fun g hg => hg ▸ hfound, f, rfl, hfound⟩

theorem resolves_anchored :
    Resolves here [.anchor]
      (fun text => ∃ s, here.source.statementAt here.location = .ok (some s) ∧ text = s.terminated)
      here.anchored := by
  intro known hknown
  refine ⟨known, hknown, ?_⟩
  rw [Situation.firstFailure?, List.findSome?_singleton, Hole.failure?, run_anchored]
  cases hfound : (here.source.statementAt here.location).run with
  | error e => rfl
  | ok found =>
    cases found with
    | none => rfl
    | some s => exact ⟨s.terminated, rfl, s, hfound, rfl⟩

end Resolve

/-! ## Terms -/

section Terms

variable {here : Situation Id} {f : FunctionDef} {s : Statement} {holes holes' : List Hole}

theorem Situation.Fills.left (h : here.Fills f s (holes ++ holes')) : here.Fills f s holes :=
  fun hole hmem => h hole (List.mem_append_left _ hmem)

theorem Situation.Fills.right (h : here.Fills f s (holes ++ holes')) : here.Fills f s holes' :=
  fun hole hmem => h hole (List.mem_append_right _ hmem)

/-- A choice has the candidates of an expression, in whatever fills the holes of that. -/
def Expr.Means (here : Situation Id) (e : Expr) (c : Choice) : Prop :=
  ∀ f s, here.Fills f s e.holes → c.meaning = e.texts f

/-- A choice has the candidates of a statement, in whatever fills the holes of that. -/
def Stmt.Means (here : Situation Id) (member : Stmt) (c : Choice) : Prop :=
  ∀ f s, here.Fills f s member.holes → c.meaning = member.texts f s

def MembersMean (here : Situation Id) (body : List Stmt) (cs : List Choice) : Prop :=
  ∀ f s, here.Fills f s (holesOf body) → Choice.meanings cs = memberTexts f s body

/-- Two sides with operators between them. -/
theorem resolves_operators {lhs rhs : Expr} (operators : List String)
    (hl : Resolves here lhs.holes (lhs.Means here) (lhs.resolve here))
    (hr : Resolves here rhs.holes (rhs.Means here) (rhs.resolve here)) :
    Resolves here (lhs.holes ++ rhs.holes)
      (fun c : Choice => ∀ f s, here.Fills f s (lhs.holes ++ rhs.holes) →
        c.meaning = operatorTexts operators (lhs.texts f) (rhs.texts f))
      (do
        let l ← lhs.resolve here
        let r ← rhs.resolve here
        return Choice.binary l r operators) := by
  refine hl.bind fun l hl => hr.map fun r hr f s hfills => ?_
  rw [Choice.meaning, hl f s hfills.left, hr f s hfills.right]
  rfl

theorem Expr.resolves (here : Situation Id) (e : Expr) :
    Resolves here e.holes (e.Means here) (e.resolve here) := by
  induction e with
  | literal text => exact Resolves.pure fun f s _ => rfl
  | «variable» =>
    refine (resolves_enclosing rfl).map fun g hg f s hfills => ?_
    have hf : here.source.functionContaining here.location = .ok (some f) :=
      hfills .variable List.mem_cons_self
    cases hg.symm.trans hf
    rfl
  | bufferSize =>
    refine (resolves_enclosing rfl).map fun g hg f s hfills => ?_
    have hf : here.source.functionContaining here.location = .ok (some f) :=
      hfills .bufferSize List.mem_cons_self
    cases hg.symm.trans hf
    rfl
  | math lhs rhs ihl ihr => exact resolves_operators mathOperators ihl ihr
  | compare lhs rhs ihl ihr => exact resolves_operators compareOperators ihl ihr
  | lessThan lhs rhs ihl ihr => exact resolves_operators lessThanOperators ihl ihr

mutual

theorem Stmt.resolves (here : Situation Id) :
    ∀ member : Stmt, Resolves here member.holes (member.Means here) (member.resolve here)
  | .ifThen condition body => by
    rw [Stmt.resolve, Stmt.holes]
    refine (condition.resolves here).bind fun c hc =>
      (resolves_members here body).map fun cs hcs f s hfills => ?_
    rw [Choice.meaning, hc f s hfills.left, Choice.meaning, hcs f s hfills.right, Stmt.texts]
    rfl
  | .otherwise body => by
    rw [Stmt.resolve, Stmt.holes]
    refine (resolves_members here body).map fun cs hcs f s hfills => ?_
    rw [Choice.meaning, Choice.meaning, hcs f s hfills, Stmt.texts]
    rfl
  | .ret value => by
    rw [Stmt.resolve, Stmt.holes]
    refine (value.resolves here).map fun c hc f s hfills => ?_
    rw [Choice.meaning, hc f s hfills, Stmt.texts]
  | .anchor => by
    rw [Stmt.resolve, Stmt.holes]
    refine resolves_anchored.map fun text htext f s hfills => ?_
    obtain ⟨found, hfound, rfl⟩ := htext
    have hs : here.source.statementAt here.location = .ok (some s) := hfills .anchor List.mem_cons_self
    cases hfound.symm.trans hs
    rw [Choice.meaning, Stmt.texts, Statement.terminated]
  | .expr e => by
    rw [Stmt.resolve, Stmt.holes]
    intro known hknown
    exact e.resolves here known hknown

theorem resolves_members (here : Situation Id) :
    ∀ body : List Stmt, Resolves here (holesOf body) (MembersMean here body) (resolveMembers here body)
  | [] => by
    rw [resolveMembers, holesOf]
    exact Resolves.pure fun f s _ => by rw [Choice.meanings, memberTexts]
  | member :: members => by
    rw [resolveMembers, holesOf]
    refine (Stmt.resolves here member).bind fun c hc =>
      (resolves_members here members).map fun cs hcs f s hfills => ?_
    rw [holesOf] at hfills
    rw [Choice.meanings, memberTexts, hc f s hfills.left, hcs f s hfills.right]

end

theorem resolves_list (here : Situation Id) (body : List Stmt) :
    Resolves here (holesOf body)
      (fun c => ∀ f s, here.Fills f s (holesOf body) → c.meaning = listTexts f s body)
      (resolveList here body) := by
  refine (resolves_members here body).map fun cs hcs f s hfills => ?_
  rw [Choice.meaning, hcs f s hfills]
  rfl

theorem Resolves.start {α : Type} {P : α → Prop} {r : Resolution Id α} (h : Resolves here holes P r) :
    match here.firstFailure? holes with
    | some e => r.start.run = .error e
    | none => ∃ a, r.start.run = .ok a ∧ P a := by
  obtain ⟨known, -, hrun⟩ := h none nofun
  have hstart : r.start.run = (r.run none).1 := rfl
  rw [hstart]
  split
  · next e hfail =>
    rw [hfail] at hrun
    rw [hrun]
  · next hfail =>
    rw [hfail] at hrun
    obtain ⟨a, hrun, ha⟩ := hrun
    exact ⟨a, by rw [hrun], ha⟩

end Terms

/-- What can be concretized. The pattern of a template is a statement list. -/
inductive Term where
  | expr (e : Expr)
  | stmt (s : Stmt)
  | list (body : List Stmt)
  | template (t : Template)

namespace Term

/-- The holes of a term, from left to right. -/
def holes : Term → List Hole
  | .expr e => e.holes
  | .stmt s => s.holes
  | .list body => holesOf body
  | .template t => holesOf t.pattern

/-- The candidates of a term inside the function `f`, at the statement `s`. -/
def texts (f : FunctionDef) (s : Statement) : Term → List String
  | .expr e => e.texts f
  | .stmt member => member.texts f s
  | .list body => listTexts f s body
  | .template t => listTexts f s t.pattern

def concretize (here : Situation Id) : Term → Except Unresolved Choice
  | .expr e => (e.concretize here).run
  | .stmt s => (s.concretize here).run
  | .list body => (concretizeList here body).run
  | .template t => (t.concretize here).run

/-- A term fails with the first of its holes that stays open; if there is none, it has its candidates. -/
theorem concretize_cases (here : Situation Id) (t : Term) :
    match here.firstFailure? t.holes with
    | some e => t.concretize here = .error e
    | none => ∃ c, t.concretize here = .ok c ∧
        ∀ f s, here.Fills f s t.holes → c.meaning = t.texts f s :=
  match t with
  | .expr e => (e.resolves here).start
  | .stmt s => (s.resolves here).start
  | .list body => (resolves_list here body).start
  | .template t => (resolves_list here t.pattern).start

theorem concretize_eq_error_iff {here : Situation Id} {t : Term} {e : Unresolved} :
    t.concretize here = .error e ↔ here.firstFailure? t.holes = some e := by
  have hcases := concretize_cases here t
  cases hfail : here.firstFailure? t.holes with
  | some e' =>
    rw [hfail] at hcases
    rw [hcases, Except.error.injEq, Option.some.injEq]
  | none =>
    rw [hfail] at hcases
    obtain ⟨c, hc, -⟩ := hcases
    rw [hc]
    exact iff_of_false nofun nofun

theorem exists_concretize_iff {here : Situation Id} {t : Term} :
    (∃ c, t.concretize here = .ok c) ↔ here.firstFailure? t.holes = none := by
  have hcases := concretize_cases here t
  cases hfail : here.firstFailure? t.holes with
  | some e =>
    rw [hfail] at hcases
    rw [hcases]
    exact iff_of_false nofun nofun
  | none =>
    rw [hfail] at hcases
    obtain ⟨c, hc, -⟩ := hcases
    exact iff_of_true ⟨c, hc⟩ rfl

theorem meaning_of_concretize {here : Situation Id} {t : Term} {c : Choice}
    (h : t.concretize here = .ok c) {f : FunctionDef} {s : Statement} (hfills : here.Fills f s t.holes) :
    c.meaning = t.texts f s := by
  have hcases := concretize_cases here t
  rw [exists_concretize_iff.mp ⟨c, h⟩] at hcases
  obtain ⟨c', hc', hmeaning⟩ := hcases
  obtain rfl : c' = c := Except.ok.inj (hc'.symm.trans h)
  exact hmeaning f s hfills

/-- The candidates of a term are composed from some function and some statement that fill its holes. -/
theorem exists_fills_of_concretize {here : Situation Id} {t : Term} {c : Choice}
    (h : t.concretize here = .ok c) : ∃ f s, here.Fills f s t.holes ∧ c.stream.toList = t.texts f s := by
  obtain ⟨f, s, hfills⟩ := Situation.exists_fills (exists_concretize_iff.mp ⟨c, h⟩)
  refine ⟨f, s, hfills, ?_⟩
  rw [Choice.toList_stream]
  exact meaning_of_concretize h hfills

/-- A term has candidates at a location exactly if the source gives a function there, in case the term asks
for one, and a statement, in case it asks for that. Otherwise it fails with the first of its holes that
stays open. The candidates are composed from the variables of that function and the text of that
statement. -/
theorem concretize_compositional (t : Term) (source : FactSource Id) (l : Location) :
    ((∃ c, t.concretize ⟨source, l⟩ = .ok c) ↔
      (.variable ∈ t.holes ∨ .bufferSize ∈ t.holes → ∃ f, source.functionContaining l = .ok (some f)) ∧
        (.anchor ∈ t.holes → ∃ s, source.statementAt l = .ok (some s))) ∧
    (∀ e, t.concretize ⟨source, l⟩ = .error e ↔
      ∃ before hole after, t.holes = before ++ hole :: after ∧ hole.failure? source l = some e ∧
        ∀ h ∈ before, h.failure? source l = none) ∧
    ∀ c, t.concretize ⟨source, l⟩ = .ok c → ∀ f s,
      (.variable ∈ t.holes ∨ .bufferSize ∈ t.holes → source.functionContaining l = .ok (some f)) →
        (.anchor ∈ t.holes → source.statementAt l = .ok (some s)) → c.stream.toList = t.texts f s := by
  refine ⟨exists_concretize_iff.trans Situation.firstFailure?_eq_none_iff, fun e => ?_, fun c hc f s hf hs => ?_⟩
  · rw [concretize_eq_error_iff]
    exact List.findSome?_eq_some_iff
  · rw [Choice.toList_stream]
    exact meaning_of_concretize hc (Situation.fills_iff.mpr ⟨hf, hs⟩)

def writing : Statement := ⟨"a.c", ⟨3, 3, 3, 12⟩, "buf[n] = 0"⟩

/-- A function with that statement, an array, and two variables of one name. -/
def clearing : FunctionDef where
  id := 1
  moduleName := "a.c"
  name := "clear"
  span := ⟨1, 1, 4, 1⟩
  vars := [⟨"n", "int", ⟨1, 12, 1, 16⟩, false, 4⟩, ⟨"buf", "char [8]", ⟨2, 3, 2, 13⟩, true, 8⟩,
    ⟨"n", "int", ⟨2, 16, 2, 20⟩, false, 4⟩]
  calls := []
  statements := [writing]

/-- A source that gives that function everywhere and its statement at one point. -/
def clearingSource : FactSource Id where
  functionContaining _ := .ok (some clearing)
  statementAt l := .ok (if l.point = ⟨3, 3⟩ then some writing else none)

/-- The guard of an array around a statement: of two variables with one name only the first gives a
candidate of its own, and where no statement starts the guard fails although there is a function. -/
theorem concretize_compositional_clearing :
    (∃ c, (Term.template bufferGuard).concretize ⟨clearingSource, ⟨⟨"a.c"⟩, ⟨3, 3⟩⟩⟩ = .ok c ∧
      c.stream.toList =
        ["if (n < sizeof(buf)) \x7b\nbuf[n] = 0;\n\x7d\n\nelse \x7b\nreturn 1;\n\x7d\n",
         "if (buf < sizeof(buf)) \x7b\nbuf[n] = 0;\n\x7d\n\nelse \x7b\nreturn 1;\n\x7d\n"]) ∧
    (Term.template bufferGuard).concretize ⟨clearingSource, ⟨⟨"a.c"⟩, ⟨4, 1⟩⟩⟩ =
      .error (.noStatement ⟨⟨"a.c"⟩, ⟨4, 1⟩⟩) := by
  constructor
  · obtain ⟨hok, -, htexts⟩ :=
      concretize_compositional (.template bufferGuard) clearingSource ⟨⟨"a.c"⟩, ⟨3, 3⟩⟩
    obtain ⟨c, hc⟩ := hok.mpr ⟨fun _ => ⟨clearing, rfl⟩, fun _ => ⟨writing, rfl⟩⟩
    refine ⟨c, hc, (htexts c hc clearing writing (fun _ => rfl) fun _ => rfl).trans ?_⟩
    decide +kernel
  · obtain ⟨-, herror, -⟩ :=
      concretize_compositional (.template bufferGuard) clearingSource ⟨⟨"a.c"⟩, ⟨4, 1⟩⟩
    exact (herror _).mpr ⟨[.variable, .bufferSize], .anchor, [], rfl, rfl, by decide +kernel⟩

end Term

end Mend.Patch

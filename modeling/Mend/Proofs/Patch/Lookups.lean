import Mend.Proofs.Patch.Concretize

/-!
# The look-ups of a concretization

A source of facts may give another answer each time it is asked: here it is any machine with a state. A term is
filled by a single function all the same, because the function is looked up when the first hole asks for it and
remembered from then on. The statement is looked up for every anchor anew, and the candidates are read off the
result without the source.

* `Lookup`, `recorded` : a source that keeps a record of its answers;
* `Walk`, `Stops` : how holes are filled one after another, and how one of them stays open;
* `Walk.countP_function`, `Walk.countP_statement` : the look-ups of a walk;
* `Stmt.written`, `writtenList` : a term with the statements that were found in place of its anchors;
* `Follows` : a resolution walks along its holes, on record or not; `Follows.bind` : so do two in a row;
* `Expr.follows`, `Stmt.follows` : so does every term;
* `Reaches`, `Accounts` : how far a record leads among the holes of a term, and what it holds;
* `Term.concretize_lookups` : what a concretization asks for, and what it makes of the answers.
-/

namespace Mend.Patch

/-! ## Records -/

/-- A look-up at a location and its answer. -/
inductive Lookup where
  | function (l : Location) (found : Except FactError (Option FunctionDef))
  | statement (l : Location) (found : Except FactError (Option Statement))

namespace Lookup

def ofFunction : Lookup → Bool
  | .function .. => true
  | .statement .. => false

def location : Lookup → Location
  | .function l _ => l
  | .statement l _ => l

/-- Why nothing was found, if so. -/
def failure? : Lookup → Option Unresolved
  | .function l found => missing? (.noEnclosingFunction l) found
  | .statement l found => missing? (.noStatement l) found

def statement? : Lookup → Option Statement
  | .statement _ (.ok found) => found
  | _ => none

end Lookup

/-- The statements that were found, in order. -/
def statementsOf (log : List Lookup) : List Statement := log.filterMap Lookup.statement?

/-- Whether a hole is filled from the function around the location; the statement there fills it otherwise. -/
def Hole.asksFunction : Hole → Bool
  | .variable => true
  | .bufferSize => true
  | .anchor => false

theorem Hole.ne_anchor {h : Hole} (hh : h.asksFunction = true) : h ≠ .anchor := by
  rintro rfl
  cases hh

theorem Hole.exists_asksFunction_iff {holes : List Hole} :
    (∃ h ∈ holes, h.asksFunction = true) ↔ .variable ∈ holes ∨ .bufferSize ∈ holes := by
  constructor
  · rintro ⟨h, hmem, hh⟩
    cases h with
    | «variable» => exact Or.inl hmem
    | bufferSize => exact Or.inr hmem
    | anchor => cases hh
  · rintro (hmem | hmem)
    · exact ⟨.variable, hmem, rfl⟩
    · exact ⟨.bufferSize, hmem, rfl⟩

section Recorded

variable {σ α : Type}

/-- A step of a machine that is also written down, together with what it gives. -/
def noting (step : StateM σ α) (entry : α → Lookup) : StateM (σ × List Lookup) α :=
  fun (w, log) =>
    let (a, w) := step.run w
    (a, w, log ++ [entry a])

/-- A source that keeps a record of what it is asked and what it answers. -/
def recorded (source : FactSource (StateM σ)) : FactSource (StateM (σ × List Lookup)) where
  functionContaining l := noting (source.functionContaining l) (.function l)
  statementAt l := noting (source.statementAt l) (.statement l)

theorem run_noting {step : StateM σ α} {w w' : σ} {a : α} (h : step.run w = (a, w')) (entry : α → Lookup)
    (log : List Lookup) : (noting step entry).run (w, log) = (a, w', log ++ [entry a]) := by
  change ((step.run w).1, (step.run w).2, log ++ [entry (step.run w).1]) = _
  rw [h]

end Recorded

/-! ## Walks -/

section Walk

variable {l : Location} {known known' known'' : Option FunctionDef} {holes holes' : List Hole}
  {log log' : List Lookup}

/-- Holes are filled one after another: from `known` that is remembered before them, with the look-ups `log`, to
`known'` that is remembered behind them. -/
inductive Walk (l : Location) :
    Option FunctionDef → List Hole → List Lookup → Option FunctionDef → Prop
  | done (known : Option FunctionDef) : Walk l known [] [] known
  | remembered {h : Hole} {f : FunctionDef} {holes : List Hole} {log : List Lookup}
    {known' : Option FunctionDef} (hh : h.asksFunction = true) (rest : Walk l (some f) holes log known') :
    Walk l (some f) (h :: holes) log known'
  | enclosed {h : Hole} {f : FunctionDef} {holes : List Hole} {log : List Lookup}
    {known' : Option FunctionDef} (hh : h.asksFunction = true) (rest : Walk l (some f) holes log known') :
    Walk l none (h :: holes) (.function l (.ok (some f)) :: log) known'
  | anchored {known : Option FunctionDef} {s : Statement} {holes : List Hole} {log : List Lookup}
    {known' : Option FunctionDef} (rest : Walk l known holes log known') :
    Walk l known (.anchor :: holes) (.statement l (.ok (some s)) :: log) known'

/-- The look-up for a hole fails, and the hole stays open. -/
inductive Stops (l : Location) : Option FunctionDef → Hole → Lookup → Unresolved → Prop
  | adrift {h : Hole} {found : Except FactError (Option FunctionDef)} {e : Unresolved}
    (hh : h.asksFunction = true) (he : missing? (.noEnclosingFunction l) found = some e) :
    Stops l none h (.function l found) e
  | bare {known : Option FunctionDef} {found : Except FactError (Option Statement)} {e : Unresolved}
    (he : missing? (.noStatement l) found = some e) : Stops l known .anchor (.statement l found) e

theorem Walk.append (hw : Walk l known holes log known') (hw' : Walk l known' holes' log' known'') :
    Walk l known (holes ++ holes') (log ++ log') known'' := by
  induction hw with
  | done known => exact hw'
  | remembered hh _ ih => exact .remembered hh (ih hw')
  | enclosed hh _ ih => exact .enclosed hh (ih hw')
  | anchored _ ih => exact .anchored (ih hw')

theorem Walk.keeps (hw : Walk l known holes log known') : ∀ f ∈ known, f ∈ known' := by
  induction hw with
  | done known => exact fun f hf => hf
  | remembered hh _ ih => exact ih
  | enclosed hh _ ih => exact nofun
  | anchored _ ih => exact ih

/-- A function is remembered behind holes if one of them asks for it. -/
theorem Walk.isSome_iff (hw : Walk l known holes log known') :
    known'.isSome = true ↔ known.isSome = true ∨ ∃ h ∈ holes, h.asksFunction = true := by
  induction hw with
  | done known => simp
  | remembered hh _ ih => simpa using ih
  | enclosed hh _ ih => simpa [hh] using ih
  | anchored _ ih => simpa [Hole.asksFunction] using ih

/-- Each look-up of the function adds one to what is remembered, and that is one function at most. -/
theorem Walk.countP_function (hw : Walk l known holes log known') :
    log.countP (·.ofFunction) + known.toList.length = known'.toList.length := by
  induction hw with
  | done known => simp
  | remembered hh _ ih => exact ih
  | enclosed hh _ ih => simpa [Lookup.ofFunction] using ih
  | anchored _ ih => simpa [Lookup.ofFunction] using ih

theorem Walk.countP_statement (hw : Walk l known holes log known') :
    log.countP (fun x => !x.ofFunction) = holes.count .anchor := by
  induction hw with
  | done known => rfl
  | remembered hh _ ih => rwa [List.count_cons_of_ne (Hole.ne_anchor hh)]
  | enclosed hh _ ih =>
    rw [List.countP_cons_of_neg (by simp [Lookup.ofFunction]), List.count_cons_of_ne (Hole.ne_anchor hh), ih]
  | anchored _ ih => rw [List.countP_cons_of_pos (by simp [Lookup.ofFunction]), List.count_cons_self, ih]

theorem Walk.location_eq (hw : Walk l known holes log known') : ∀ x ∈ log, x.location = l := by
  induction hw with
  | done known => exact nofun
  | remembered hh _ ih => exact ih
  | enclosed hh _ ih => exact List.forall_mem_cons.mpr ⟨rfl, ih⟩
  | anchored _ ih => exact List.forall_mem_cons.mpr ⟨rfl, ih⟩

theorem Walk.failure?_eq_none (hw : Walk l known holes log known') : ∀ x ∈ log, x.failure? = none := by
  induction hw with
  | done known => exact nofun
  | remembered hh _ ih => exact ih
  | enclosed hh _ ih => exact List.forall_mem_cons.mpr ⟨rfl, ih⟩
  | anchored _ ih => exact List.forall_mem_cons.mpr ⟨rfl, ih⟩

/-- The function that was looked up is the one that is remembered. -/
theorem Walk.function_eq (hw : Walk l known holes log known') :
    ∀ x ∈ log, x.ofFunction = true → ∃ f ∈ known', x = .function l (.ok (some f)) := by
  induction hw with
  | done known => exact nofun
  | remembered hh _ ih => exact ih
  | @enclosed h f holes log known' hh rest ih =>
    exact List.forall_mem_cons.mpr ⟨fun _ => ⟨f, rest.keeps f rfl, rfl⟩, ih⟩
  | anchored _ ih => exact List.forall_mem_cons.mpr ⟨nofun, ih⟩

/-- A hole is filled by a look-up of the walk, or by the function that was remembered before it. -/
theorem Walk.answered (hw : Walk l known holes log known') :
    ∀ h ∈ holes, (h.asksFunction = true ∧ known.isSome = true) ∨ ∃ x ∈ log, x.ofFunction = h.asksFunction := by
  induction hw with
  | done known => exact nofun
  | remembered hh _ ih => exact List.forall_mem_cons.mpr ⟨Or.inl ⟨hh, rfl⟩, ih⟩
  | enclosed hh _ ih =>
    refine List.forall_mem_cons.mpr ⟨Or.inr ⟨_, List.mem_cons_self, hh.symm⟩, fun h hmem => Or.inr ?_⟩
    rcases ih h hmem with ⟨hh', -⟩ | ⟨x, hx, heq⟩
    · exact ⟨_, List.mem_cons_self, hh'.symm⟩
    · exact ⟨x, List.mem_cons_of_mem _ hx, heq⟩
  | anchored _ ih =>
    refine List.forall_mem_cons.mpr ⟨Or.inr ⟨_, List.mem_cons_self, rfl⟩, fun h hmem => ?_⟩
    exact (ih h hmem).imp_right fun ⟨x, hx, heq⟩ => ⟨x, List.mem_cons_of_mem _ hx, heq⟩

theorem statementsOf_append (log log' : List Lookup) :
    statementsOf (log ++ log') = statementsOf log ++ statementsOf log' :=
  List.filterMap_append

theorem Walk.length_statementsOf (hw : Walk l known holes log known') :
    (statementsOf log).length = holes.count .anchor := by
  induction hw with
  | done known => rfl
  | remembered hh _ ih => rwa [List.count_cons_of_ne (Hole.ne_anchor hh)]
  | enclosed hh _ ih => rwa [List.count_cons_of_ne (Hole.ne_anchor hh)]
  | anchored _ ih =>
    rw [List.count_cons_self, ← ih]
    rfl

end Walk

/-! ## Resolving on record -/

section Resolve

variable {l : Location} {σ α β : Type} {holes holes' : List Hole} {known known' : Option FunctionDef}
  {P : FunctionDef → List Statement → α → Prop} {Q : FunctionDef → List Statement → β → Prop}

/-- A resolution from what is remembered, at a state of the source. -/
def Resolution.runFrom (r : Resolution (StateM σ) α) (known : Option FunctionDef) (w : σ) :
    (Except Unresolved α × Option FunctionDef) × σ :=
  (r.run.run known).run w

theorem runFrom_bind_ok {x : Resolution (StateM σ) α} {f : α → Resolution (StateM σ) β} {w w' : σ} {a : α}
    (h : x.runFrom known w = ((.ok a, known'), w')) :
    Resolution.runFrom (x >>= f) known w = (f a).runFrom known' w' := by
  change (fun p : (Except Unresolved α × Option FunctionDef) × σ =>
    (ExceptT.bindCont f p.1.1).run p.1.2 |>.run p.2) (x.runFrom known w) = _
  rw [h]
  rfl

theorem runFrom_bind_error {x : Resolution (StateM σ) α} {f : α → Resolution (StateM σ) β} {w w' : σ}
    {e : Unresolved} (h : x.runFrom known w = ((.error e, known'), w')) :
    Resolution.runFrom (x >>= f) known w = ((.error e, known'), w') := by
  change (fun p : (Except Unresolved α × Option FunctionDef) × σ =>
    (ExceptT.bindCont f p.1.1).run p.1.2 |>.run p.2) (x.runFrom known w) = _
  rw [h]
  rfl

/-- How a resolution ends: behind a walk along all of its holes, with a result as described for the function that
is remembered and the statements that were found; or at a hole that stays open. -/
inductive Course (l : Location) (known : Option FunctionDef) (holes : List Hole)
    (P : FunctionDef → List Statement → α → Prop) :
    List Lookup → Option FunctionDef → Except Unresolved α → Prop
  | done {log : List Lookup} {known' : Option FunctionDef} {a : α} (hwalk : Walk l known holes log known')
    (ha : ∀ f, (∀ g ∈ known', g = f) → P f (statementsOf log) a) : Course l known holes P log known' (.ok a)
  | stuck {before behind : List Hole} {h : Hole} {earlier : List Lookup} {x : Lookup}
    {known' : Option FunctionDef} {e : Unresolved} (hholes : holes = before ++ h :: behind)
    (hwalk : Walk l known before earlier known') (hstop : Stops l known' h x e) :
    Course l known holes P (earlier ++ [x]) known' (.error e)

/-- A resolution runs its course from whatever is remembered, and it does so alike with a source on record and
with the source itself. -/
def Follows (l : Location) (holes : List Hole) (P : FunctionDef → List Statement → α → Prop)
    (x : Resolution (StateM (σ × List Lookup)) α) (y : Resolution (StateM σ) α) : Prop :=
  ∀ known w earlier, ∃ log known' w' result,
    x.runFrom known (w, earlier) = ((result, known'), (w', earlier ++ log)) ∧
      y.runFrom known w = ((result, known'), w') ∧ Course l known holes P log known' result

theorem Follows.pure {a : α} (h : ∀ f, P f [] a) :
    Follows (σ := σ) l [] P (Pure.pure a) (Pure.pure a) := by
  intro known w earlier
  refine ⟨[], known, w, .ok a, ?_, rfl, .done (.done known) fun f _ => h f⟩
  rw [List.append_nil]
  rfl

theorem Follows.bind {R : α → FunctionDef → List Statement → β → Prop}
    {x : Resolution (StateM (σ × List Lookup)) α} {y : Resolution (StateM σ) α}
    {k : α → Resolution (StateM (σ × List Lookup)) β} {k' : α → Resolution (StateM σ) β}
    (hx : Follows l holes P x y) (hk : ∀ a, Follows l holes' (R a) (k a) (k' a))
    (hQ : ∀ a b f ss ss', ss.length = holes.count .anchor → P f ss a → R a f ss' b → Q f (ss ++ ss') b) :
    Follows l (holes ++ holes') Q (x >>= k) (y >>= k') := by
  intro known w earlier
  obtain ⟨log, known₁, w₁, result, hrun, hrun', hcourse⟩ := hx known w earlier
  cases hcourse with
  | @stuck before behind h _ _ _ _ hholes hwalk hstop =>
    have hholes : holes ++ holes' = before ++ h :: (behind ++ holes') := by
      rw [hholes, List.append_assoc, List.cons_append]
    exact ⟨_, known₁, w₁, _, runFrom_bind_error hrun, runFrom_bind_error hrun', .stuck hholes hwalk hstop⟩
  | @done _ _ a hwalk ha =>
    obtain ⟨log₂, known₂, w₂, result₂, hrun₂, hrun₂', hcourse₂⟩ := hk a known₁ w₁ (earlier ++ log)
    refine ⟨log ++ log₂, known₂, w₂, result₂, ?_, ?_, ?_⟩
    · rw [runFrom_bind_ok hrun, hrun₂, List.append_assoc]
    · rw [runFrom_bind_ok hrun', hrun₂']
    · cases hcourse₂ with
      | done hwalk₂ hb =>
        refine .done (hwalk.append hwalk₂) fun f hf => ?_
        rw [statementsOf_append]
        -- the function that is remembered in the end is the one that the first part has seen
        exact hQ a _ f _ _ hwalk.length_statementsOf (ha f fun g hg => hf g (hwalk₂.keeps g hg)) (hb f hf)
      | stuck hholes hwalk₂ hstop =>
        rw [← List.append_assoc]
        exact .stuck (by rw [hholes, List.append_assoc]) (hwalk.append hwalk₂) hstop

theorem Follows.mono {P' : FunctionDef → List Statement → α → Prop}
    {x : Resolution (StateM (σ × List Lookup)) α} {y : Resolution (StateM σ) α} (hx : Follows l holes P x y)
    (h : ∀ f ss a, P f ss a → P' f ss a) : Follows l holes P' x y := by
  intro known w earlier
  obtain ⟨log, known', w', result, hrun, hrun', hcourse⟩ := hx known w earlier
  refine ⟨log, known', w', result, hrun, hrun', ?_⟩
  cases hcourse with
  | done hwalk ha => exact .done hwalk fun f hf => h f _ _ (ha f hf)
  | stuck hholes hwalk hstop => exact .stuck hholes hwalk hstop

theorem Follows.map {x : Resolution (StateM (σ × List Lookup)) α} {y : Resolution (StateM σ) α} {φ : α → β}
    (hx : Follows l holes P x y) (hφ : ∀ a f ss, P f ss a → Q f ss (φ a)) :
    Follows l holes Q (x >>= fun a => Pure.pure (φ a)) (y >>= fun a => Pure.pure (φ a)) := by
  have h := hx.bind (Q := Q) (R := fun a _ ss b => ss = [] ∧ b = φ a)
    (fun a => Follows.pure fun _ => ⟨rfl, rfl⟩) fun a b f ss ss' _ ha hb => by
      obtain ⟨rfl, rfl⟩ := hb
      rw [List.append_nil]
      exact hφ a f ss ha
  rwa [List.append_nil] at h

theorem Follows.start {x : Resolution (StateM (σ × List Lookup)) α} {y : Resolution (StateM σ) α}
    (h : Follows l holes P x y) (w : σ) : ∃ log known w' result,
      x.start.run (w, []) = (result, w', log) ∧ y.start.run w = (result, w') ∧
        Course l none holes P log known result := by
  obtain ⟨log, known, w', result, hrun, hrun', hcourse⟩ := h none w []
  have hstart : x.start.run (w, []) = ((x.runFrom none (w, [])).1.1, (x.runFrom none (w, [])).2) := rfl
  have hstart' : y.start.run w = ((y.runFrom none w).1.1, (y.runFrom none w).2) := rfl
  refine ⟨log, known, w', result, ?_, ?_, hcourse⟩
  · rw [hstart, hrun, List.nil_append]
  · rw [hstart', hrun']

theorem runFrom_lift {x : StateM σ α} {w w' : σ} {a : α} (h : x.run w = (a, w')) :
    Resolution.runFrom (liftM x : Resolution (StateM σ) α) known w = ((.ok a, known), w') := by
  change ((Except.ok (x.run w).1, known), (x.run w).2) = _
  rw [h]

section Machine

variable (source : FactSource (StateM σ)) {w w' : σ}

theorem runFrom_enclosing_known (f : FunctionDef) :
    (Situation.enclosing ⟨source, l⟩).runFrom (some f) w = ((.ok f, some f), w) := rfl

/-- The function is looked up if none is remembered. -/
theorem runFrom_enclosing {found : Except FactError (Option FunctionDef)}
    (h : (source.functionContaining l).run w = (found, w')) :
    (Situation.enclosing ⟨source, l⟩).runFrom none w =
      match found with
      | .error e => ((.error (.facts e), none), w')
      | .ok none => ((.error (.noEnclosingFunction l), none), w')
      | .ok (some f) => ((.ok f, some f), w') := by
  unfold Situation.enclosing
  refine (runFrom_bind_ok (x := get) (a := none) rfl).trans ?_
  refine (runFrom_bind_ok (runFrom_lift h)).trans ?_
  cases found with
  | error e => rfl
  | ok found => cases found <;> rfl

theorem runFrom_anchored (known : Option FunctionDef) {found : Except FactError (Option Statement)}
    (h : (source.statementAt l).run w = (found, w')) :
    (Situation.anchored ⟨source, l⟩).runFrom known w =
      match found with
      | .error e => ((.error (.facts e), known), w')
      | .ok none => ((.error (.noStatement l), known), w')
      | .ok (some s) => ((.ok s.terminated, known), w') := by
  unfold Situation.anchored
  refine (runFrom_bind_ok (runFrom_lift h)).trans ?_
  cases found with
  | error e => rfl
  | ok found => cases found <;> rfl

theorem follows_enclosing {h : Hole} (hh : h.asksFunction = true) :
    Follows l [h] (fun f _ g => g = f) (Situation.enclosing ⟨recorded source, l⟩)
      (Situation.enclosing ⟨source, l⟩) := by
  intro known w earlier
  cases known with
  | some g =>
    refine ⟨[], some g, w, .ok g, ?_, runFrom_enclosing_known source g, ?_⟩
    · rw [List.append_nil]
      exact runFrom_enclosing_known (recorded source) g
    · exact .done (.remembered hh (.done _)) fun f hf => hf g rfl
  | none =>
    obtain ⟨⟨found, w'⟩, hfound⟩ : ∃ p, (source.functionContaining l).run w = p := ⟨_, rfl⟩
    have hrun := runFrom_enclosing (recorded source) (run_noting hfound _ earlier)
    have hrun' := runFrom_enclosing source hfound
    match found with
    | .error e => exact ⟨_, none, w', _, hrun, hrun', .stuck rfl (.done none) (.adrift hh rfl)⟩
    | .ok none => exact ⟨_, none, w', _, hrun, hrun', .stuck rfl (.done none) (.adrift hh rfl)⟩
    | .ok (some g) =>
      exact ⟨_, some g, w', _, hrun, hrun', .done (.enclosed hh (.done _)) fun f hf => hf g rfl⟩

theorem follows_anchored :
    Follows l [.anchor] (fun _ ss text => ∃ s : Statement, ss = [s] ∧ text = s.terminated)
      (Situation.anchored ⟨recorded source, l⟩) (Situation.anchored ⟨source, l⟩) := by
  intro known w earlier
  obtain ⟨⟨found, w'⟩, hfound⟩ : ∃ p, (source.statementAt l).run w = p := ⟨_, rfl⟩
  have hrun := runFrom_anchored (recorded source) known (run_noting hfound _ earlier)
  have hrun' := runFrom_anchored source known hfound
  match found with
  | .error e => exact ⟨_, known, w', _, hrun, hrun', .stuck rfl (.done known) (.bare rfl)⟩
  | .ok none => exact ⟨_, known, w', _, hrun, hrun', .stuck rfl (.done known) (.bare rfl)⟩
  | .ok (some s) =>
    exact ⟨_, known, w', _, hrun, hrun', .done (.anchored (.done known)) fun f _ => ⟨s, rfl, rfl⟩⟩

end Machine

end Resolve

/-! ## Terms -/

mutual

/-- A statement with what was found, one statement after another, in place of its anchors. -/
def Stmt.written (found : List Statement) : Stmt → Stmt
  | .ifThen condition body => .ifThen condition (writtenList found body)
  | .otherwise body => .otherwise (writtenList found body)
  | .ret value => .ret value
  | .anchor => .expr (.literal (found.headD default).terminated)
  | .expr e => .expr e

def writtenList (found : List Statement) : List Stmt → List Stmt
  | [] => []
  | member :: members =>
    let anchors := member.holes.count .anchor
    member.written (found.take anchors) :: writtenList (found.drop anchors) members

end

section Terms

variable {σ : Type} (source : FactSource (StateM σ)) (l : Location)

theorem follows_operators {lhs rhs : Expr} (operators : List String)
    (hl : Follows l lhs.holes (fun f _ c => c.meaning = lhs.texts f) (lhs.resolve ⟨recorded source, l⟩)
      (lhs.resolve ⟨source, l⟩))
    (hr : Follows l rhs.holes (fun f _ c => c.meaning = rhs.texts f) (rhs.resolve ⟨recorded source, l⟩)
      (rhs.resolve ⟨source, l⟩)) :
    Follows l (lhs.holes ++ rhs.holes)
      (fun f _ c => c.meaning = operatorTexts operators (lhs.texts f) (rhs.texts f))
      (do
        let a ← lhs.resolve ⟨recorded source, l⟩
        let b ← rhs.resolve ⟨recorded source, l⟩
        return Choice.binary a b operators)
      (do
        let a ← lhs.resolve ⟨source, l⟩
        let b ← rhs.resolve ⟨source, l⟩
        return Choice.binary a b operators) := by
  refine hl.bind (R := fun a f _ c => ∃ b : Choice, c = .binary a b operators ∧ b.meaning = rhs.texts f)
    (fun a => hr.map fun b f _ hb => ⟨b, rfl, hb⟩) ?_
  rintro a _ f _ _ - ha ⟨b, rfl, hb⟩
  rw [Choice.meaning, ha, hb]
  rfl

theorem Expr.follows (e : Expr) :
    Follows l e.holes (fun f _ c => c.meaning = e.texts f) (e.resolve ⟨recorded source, l⟩)
      (e.resolve ⟨source, l⟩) := by
  induction e with
  | literal text => exact Follows.pure fun f => rfl
  | «variable» => exact (follows_enclosing source rfl).map fun g f _ hg => hg ▸ rfl
  | bufferSize => exact (follows_enclosing source rfl).map fun g f _ hg => hg ▸ rfl
  | math lhs rhs ihl ihr => exact follows_operators source l mathOperators ihl ihr
  | compare lhs rhs ihl ihr => exact follows_operators source l compareOperators ihl ihr
  | lessThan lhs rhs ihl ihr => exact follows_operators source l lessThanOperators ihl ihr

mutual

theorem Stmt.follows : ∀ member : Stmt,
    Follows l member.holes (fun f found c => ∀ s, c.meaning = (member.written found).texts f s)
      (member.resolve ⟨recorded source, l⟩) (member.resolve ⟨source, l⟩)
  | .ifThen condition body => by
    simp only [Stmt.resolve, Stmt.holes]
    refine (condition.follows source l).bind
      (R := fun c f found b => ∃ cs, b = .guarded c (.sequence cs) ∧
        ∀ s, Choice.meanings cs = memberTexts f s (writtenList found body))
      (fun c => (follows_members body).map fun cs f found hcs => ⟨cs, rfl, hcs⟩) ?_
    rintro c _ f ss found hss hc ⟨cs, rfl, hcs⟩ s
    -- a condition has no anchor, so all statements belong to the body
    rw [List.count_eq_zero_of_not_mem condition.anchor_not_mem_holes, List.length_eq_zero_iff] at hss
    rw [hss, List.nil_append, Choice.meaning, Choice.meaning, hc, hcs s, Stmt.written, Stmt.texts]
    rfl
  | .otherwise body => by
    simp only [Stmt.resolve, Stmt.holes]
    refine (follows_members body).map fun cs f found hcs s => ?_
    rw [Choice.meaning, Choice.meaning, hcs s, Stmt.written, Stmt.texts]
    rfl
  | .ret value => by
    simp only [Stmt.resolve, Stmt.holes]
    refine (value.follows source l).map fun c f found hc s => ?_
    rw [Choice.meaning, hc, Stmt.written, Stmt.texts]
  | .anchor => by
    simp only [Stmt.resolve, Stmt.holes]
    refine (follows_anchored source).map fun text f found htext s => ?_
    obtain ⟨t, rfl, rfl⟩ := htext
    rw [Choice.meaning, Stmt.written, Stmt.texts]
    rfl
  | .expr e => by
    simp only [Stmt.resolve, Stmt.holes]
    refine (e.follows source l).mono fun f found c hc s => ?_
    rw [hc, Stmt.written, Stmt.texts]

theorem follows_members : ∀ body : List Stmt,
    Follows l (holesOf body) (fun f found cs => ∀ s, Choice.meanings cs = memberTexts f s (writtenList found body))
      (resolveMembers ⟨recorded source, l⟩ body) (resolveMembers ⟨source, l⟩ body)
  | [] => by
    simp only [resolveMembers, holesOf]
    exact Follows.pure fun f s => by rw [Choice.meanings, writtenList, memberTexts]
  | member :: members => by
    simp only [resolveMembers, holesOf]
    refine (Stmt.follows member).bind
      (R := fun c f found b => ∃ cs, b = c :: cs ∧
        ∀ s, Choice.meanings cs = memberTexts f s (writtenList found members))
      (fun c => (follows_members members).map fun cs f found hcs => ⟨cs, rfl, hcs⟩) ?_
    rintro c _ f ss found hss hc ⟨cs, rfl, hcs⟩ s
    rw [writtenList, List.take_left' hss, List.drop_left' hss, Choice.meanings, memberTexts, hc s, hcs s]

end

theorem follows_list (body : List Stmt) :
    Follows l (holesOf body) (fun f found c => ∀ s, c.meaning = listTexts f s (writtenList found body))
      (resolveList ⟨recorded source, l⟩ body) (resolveList ⟨source, l⟩ body) := by
  refine (follows_members source l body).map fun cs f found hcs s => ?_
  rw [Choice.meaning, hcs s]
  rfl

end Terms

/-! ## Accounts -/

/-- Each of some holes has a look-up that it is filled by, and no look-up fails. -/
def Answered (holes : List Hole) (log : List Lookup) : Prop :=
  (∀ h ∈ holes, ∃ x ∈ log, x.ofFunction = h.asksFunction) ∧ ∀ x ∈ log, x.failure? = none

/-- How far a record leads among the holes of a term: to the end if each of them is filled; or else up to the
first one that stays open, whose look-up is the last one and fails. -/
inductive Reaches (holes : List Hole) (log : List Lookup) : List Hole → Except Unresolved Choice → Prop
  | all {c : Choice} (hanswered : Answered holes log) : Reaches holes log holes (.ok c)
  | upTo {before behind : List Hole} {h : Hole} {earlier : List Lookup} {x : Lookup} {e : Unresolved}
    (hholes : holes = before ++ h :: behind) (hlog : log = earlier ++ [x]) (hanswered : Answered before earlier)
    (hx : x.ofFunction = h.asksFunction) (he : x.failure? = some e) : Reaches holes log (before ++ [h]) (.error e)

/-- The look-ups that holes take: the function once if one of them asks for it, the statement for each anchor, and
all of that at one location. -/
structure Accounts (l : Location) (reached : List Hole) (log : List Lookup) : Prop where
  functions : log.countP (·.ofFunction) = if .variable ∈ reached ∨ .bufferSize ∈ reached then 1 else 0
  statements : log.countP (fun x => !x.ofFunction) = reached.count .anchor
  located : ∀ x ∈ log, x.location = l

section Accounts

variable {l : Location} {holes : List Hole} {log : List Lookup} {known : Option FunctionDef} {h : Hole}
  {x : Lookup} {e : Unresolved}

theorem Walk.isAnswered (hw : Walk l none holes log known) : Answered holes log := by
  refine ⟨fun h hmem => (hw.answered h hmem).resolve_left ?_, hw.failure?_eq_none⟩
  rintro ⟨-, hknown⟩
  cases hknown

theorem Walk.accounts (hw : Walk l none holes log known) : Accounts l holes log := by
  refine ⟨?_, hw.countP_statement, hw.location_eq⟩
  have hcount := hw.countP_function
  have hsome := hw.isSome_iff
  rw [Hole.exists_asksFunction_iff] at hsome
  cases known with
  | none => rw [if_neg fun h => nomatch hsome.mpr (Or.inr h)]; exact hcount
  | some f => rw [if_pos ((hsome.mp rfl).resolve_left nofun)]; exact hcount

theorem Stops.accounts (hw : Walk l none holes log known) (hstop : Stops l known h x e) :
    Accounts l (holes ++ [h]) (log ++ [x]) := by
  obtain ⟨hfunctions, hstatements, hlocated⟩ := hw.accounts
  cases hstop with
  | @adrift _ found _ hh he =>
    -- no function is remembered, so that none has been looked up before
    have hnone : log.countP (·.ofFunction) = 0 := hw.countP_function
    have hasks : .variable ∈ holes ++ [h] ∨ .bufferSize ∈ holes ++ [h] :=
      Hole.exists_asksFunction_iff.mp ⟨h, List.mem_append_right holes List.mem_cons_self, hh⟩
    refine ⟨?_, ?_, List.forall_mem_append.mpr ⟨hlocated, List.forall_mem_singleton.mpr rfl⟩⟩
    · rw [List.countP_append, hnone, if_pos hasks]
      rfl
    · rw [List.countP_append, hstatements, List.count_append, List.count_singleton,
        if_neg (by simpa using Hole.ne_anchor hh)]
      rfl
  | bare he =>
    refine ⟨?_, ?_, List.forall_mem_append.mpr ⟨hlocated, List.forall_mem_singleton.mpr rfl⟩⟩
    · rw [List.countP_append, hfunctions]
      simp [Lookup.ofFunction]
    · rw [List.countP_append, hstatements, List.count_append]
      rfl

theorem Stops.ofFunction_eq (hstop : Stops l known h x e) :
    x.ofFunction = h.asksFunction ∧ x.failure? = some e := by
  cases hstop with
  | adrift hh he => exact ⟨hh.symm, he⟩
  | bare he => exact ⟨rfl, he⟩

end Accounts

namespace Term

/-- The choice that a term leaves at a location, whatever the source is. -/
def concretizeIn {m : Type → Type} [Monad m] (here : Situation m) : Term → m (Except Unresolved Choice)
  | .expr e => e.concretize here
  | .stmt s => s.concretize here
  | .list body => concretizeList here body
  | .template t => t.concretize here

/-- What `k` pulls at the candidates of a term give, after it has been concretized. -/
def pullsIn {m : Type → Type} [Monad m] (here : Situation m) (k : Nat) (t : Term) :
    m (Except Unresolved (List (Option String))) := do
  let result ← t.concretizeIn here
  return result.map fun c => c.stream.pulls k

def written (found : List Statement) : Term → Term
  | .expr e => .expr e
  | .stmt s => .stmt (s.written found)
  | .list body => .list (writtenList found body)
  | .template t => .template { t with pattern := writtenList found t.pattern }

section Lookups

variable {σ : Type} (source : FactSource (StateM σ)) (l : Location)

theorem concretizeIn_course (t : Term) (w : σ) : ∃ log known w' result,
    (t.concretizeIn ⟨recorded source, l⟩).run (w, []) = (result, w', log) ∧
      (t.concretizeIn ⟨source, l⟩).run w = (result, w') ∧
      Course l none t.holes (fun f found c => ∀ s, c.meaning = (t.written found).texts f s) log known result :=
  match t with
  | .expr e => ((e.follows source l).mono fun _ _ _ h _ => h).start w
  | .stmt s => (s.follows source l).start w
  | .list body => (follows_list source l body).start w
  | .template t => (follows_list source l t.pattern).start w

/-- Whatever a source answers from one question to the next, a concretization asks it for the function once if it
gets to a hole for a variable or an array, and never otherwise; and for the statement once for each anchor that it
gets to. If it succeeds, then all such holes are filled from the one function that was found, and the anchors from
the statements that were found, one after another. Pulling candidates afterwards asks for nothing. -/
theorem concretize_lookups (t : Term) (w : σ) : ∃ result w' log reached,
    (t.concretizeIn ⟨source, l⟩).run w = (result, w') ∧
    (t.concretizeIn ⟨recorded source, l⟩).run (w, []) = (result, w', log) ∧
    (∀ k, (t.pullsIn ⟨recorded source, l⟩ k).run (w, []) = (result.map fun c => c.stream.pulls k, w', log)) ∧
    Reaches t.holes log reached result ∧ Accounts l reached log ∧
    ∀ c, result = .ok c → ∃ f,
      (∀ x ∈ log, x.ofFunction = true → x = .function l (.ok (some f))) ∧
      ∀ s, c.stream.toList = (t.written (statementsOf log)).texts f s := by
  obtain ⟨log, known, w', result, hrun, hrun', hcourse⟩ := t.concretizeIn_course source l w
  have hpulls (k : Nat) :
      (t.pullsIn ⟨recorded source, l⟩ k).run (w, []) = (result.map fun c => c.stream.pulls k, w', log) := by
    rw [pullsIn, StateT.run_bind, hrun]
    rfl
  cases hcourse with
  | @done _ _ c hwalk hc =>
    refine ⟨.ok c, w', log, t.holes, hrun', hrun, hpulls, .all hwalk.isAnswered, hwalk.accounts, ?_⟩
    rintro _ ⟨⟩
    refine ⟨known.getD default, fun x hx hfunction => ?_, fun s => ?_⟩
    · obtain ⟨f, hf, rfl⟩ := hwalk.function_eq x hx hfunction
      rw [Option.mem_def.mp hf, Option.getD_some]
    · rw [Choice.toList_stream]
      refine hc _ (fun g hg => ?_) s
      rw [Option.mem_def.mp hg, Option.getD_some]
  | @stuck before behind h earlier x _ e hholes hwalk hstop =>
    obtain ⟨hx, he⟩ := hstop.ofFunction_eq
    exact ⟨.error e, w', earlier ++ [x], before ++ [h], hrun', hrun, hpulls,
      .upTo hholes rfl hwalk.isAnswered hx he, hstop.accounts hwalk, nofun⟩

end Lookups

/-- A source that counts its questions: behind the second one the function has no variables any more, and the
statement has another text each time. -/
def drifting : FactSource (StateM Nat) where
  functionContaining _ := fun n => (.ok (some (if n ≤ 1 then clearing else default)), n + 1)
  statementAt _ := fun n => (.ok (some { writing with expr := "step" ++ Text.Decimal.ofNat n }), n + 1)

def surrounded : Term := .list [.anchor, .expr (.lessThan .variable .bufferSize), .anchor]

/-- The second question gives the function for both sides of the comparison. Asked a third time for the array, the
source would leave no candidate. -/
theorem concretize_lookups_drifting : ∃ c log,
    (surrounded.concretizeIn ⟨recorded drifting, ⟨⟨"a.c"⟩, ⟨3, 3⟩⟩⟩).run (0, []) = (.ok c, 3, log) ∧
    log.countP (·.ofFunction) = 1 ∧ log.countP (fun x => !x.ofFunction) = 2 ∧
    c.stream.toList = ["step0;\nn < sizeof(buf)\nstep2;", "step0;\nbuf < sizeof(buf)\nstep2;"] := by
  obtain ⟨result, w', log, reached, -, hrun, -, hreaches, haccounts, htexts⟩ :=
    concretize_lookups drifting ⟨⟨"a.c"⟩, ⟨3, 3⟩⟩ surrounded 0
  cases hrun
  cases hreaches
  obtain ⟨f, hf, htexts⟩ := htexts _ rfl
  refine ⟨_, _, rfl, haccounts.functions, haccounts.statements, (htexts default).trans ?_⟩
  cases hf _ (List.mem_cons_of_mem _ List.mem_cons_self) rfl
  decide +kernel

end Term

end Mend.Patch

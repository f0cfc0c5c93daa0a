import Mend.Proofs.Files.Path

/-!
# Spellings of a path

A path takes its steps, `..` and names, from the root or from where it stands. Separators that are repeated
or stand at the end make no step, and neither does a `.`. All spellings with the same steps share one module,
and no others do.

* `Path.steps` : the steps of a path; `SameSteps` : two spellings of one path; `Named` : there is a step or
  a root;
* `plain` : the plainest spelling of steps; `moduleName_of_named`, `moduleName_of_not_named` : the name of a
  module as such a spelling;
* `sameSteps_moduleName` : the name of a module is itself a spelling of the path;
* `moduleName_moduleName`, `sameSteps_of_moduleName_eq` : it stays when it is taken again, and tells paths apart;
* `sameSteps_dot`, `sameSteps_separator` : respellings; `length_steps_parent` : a step back is none.
-/

namespace Mend

namespace Path

/-- The steps of a path, `..` and names in order. -/
def steps (p : Path) : List (List Char) := p.pieces.filter fun z => !isIdle z

/-- Two paths start at the same end and take the same steps. -/
def SameSteps (p q : Path) : Prop := p.isAbsolute = q.isAbsolute ∧ p.steps = q.steps

instance (p q : Path) : Decidable (SameSteps p q) := inferInstanceAs (Decidable (_ ∧ _))

/-- A path with a root or a step, so that it is not made of `.` alone. -/
def Named (p : Path) : Prop := p.isAbsolute = true ∨ p.steps ≠ []

instance (p : Path) : Decidable p.Named := inferInstanceAs (Decidable (_ ∨ _))

section SameSteps

variable {p q r : Path}

theorem SameSteps.symm (h : SameSteps p q) : SameSteps q p := ⟨h.1.symm, h.2.symm⟩

theorem SameSteps.trans (hpq : SameSteps p q) (hqr : SameSteps q r) : SameSteps p r :=
  ⟨hpq.1.trans hqr.1, hpq.2.trans hqr.2⟩

theorem SameSteps.named_iff (h : SameSteps p q) : p.Named ↔ q.Named := by
  rw [Named, Named, h.1, h.2]

end SameSteps

/-! ## Pieces, steps and components -/

theorem step?_eq_some_of_not_isIdle {z : List Char} (h : isIdle z = false) :
    ∃ c, step? z = some c ∧ spell c = z := by
  have hz : ¬(z = [] ∨ z = ['.']) := by simpa [isIdle] using h
  rw [step?, if_neg hz]
  by_cases hparent : z = ['.', '.']
  · exact ⟨.parent, if_pos hparent, hparent.symm⟩
  · exact ⟨.name z, if_neg hparent, rfl⟩

/-- What pieces mean is what their steps mean, and spelling it gives the steps back. -/
theorem map_spell_filterMap_step? (pieces : List (List Char)) :
    (pieces.filterMap step?).map spell = pieces.filter fun z => !isIdle z := by
  induction pieces with
  | nil => rfl
  | cons z pieces ih =>
    cases hz : isIdle z with
    | true => simp [List.filterMap_cons_none ((step?_eq_none_iff z).mpr hz), hz, ih]
    | false =>
      obtain ⟨c, hc, hspell⟩ := step?_eq_some_of_not_isIdle hz
      simp [List.filterMap_cons_some hc, hz, hspell, ih]

/-- A piece behind the first one means neither the root nor the place where the path starts. -/
theorem not_mem_filterMap_step? (pieces : List (List Char)) :
    Component.current ∉ pieces.filterMap step? ∧ Component.root ∉ pieces.filterMap step? := by
  have hmem : ∀ c ∈ pieces.filterMap step?, c ≠ .current ∧ c ≠ .root := by
    intro c hc
    obtain ⟨z, -, hz⟩ := List.mem_filterMap.mp hc
    unfold step? at hz
    split at hz
    · cases hz
    · split at hz <;> cases hz <;> exact ⟨nofun, nofun⟩
  exact ⟨fun h => (hmem _ h).1 rfl, fun h => (hmem _ h).2 rfl⟩

theorem dropWhile_current_of_not_mem {cs : List Component} (h : Component.current ∉ cs) :
    cs.dropWhile (· = .current) = cs := by
  cases cs with
  | nil => rfl
  | cons c cs =>
    have hc : c ≠ .current := fun heq => h (heq ▸ List.mem_cons_self)
    simp [hc]

/-- A path is absolute exactly if its first piece is empty and another one follows. -/
theorem isAbsolute_iff_pieces {p : Path} {first : List Char} {rest : List (List Char)}
    (h : p.pieces = first :: rest) : p.isAbsolute = true ↔ first = [] ∧ rest ≠ [] := by
  rw [pieces] at h
  cases htext : p.text.toList with
  | nil =>
    rw [htext, List.splitOn_nil, List.cons.injEq] at h
    simp [isAbsolute, htext, ← h.2]
  | cons c cs =>
    rw [htext, List.splitOn_cons_eq_if_modifyHead] at h
    by_cases hc : c = '/'
    · rw [if_pos (by simpa using hc), List.cons.injEq] at h
      simp [isAbsolute, htext, hc, ← h.1, ← h.2, List.splitOn_ne_nil]
    · rw [if_neg (by simpa using hc)] at h
      cases hcs : cs.splitOn '/' with
      | nil => exact absurd hcs (List.splitOn_ne_nil _ _)
      | cons d ds =>
        rw [hcs, List.modifyHead_cons, List.cons.injEq] at h
        simp [isAbsolute, htext, hc, ← h.1]

/-- The components of a path behind a leading `.`: the root, if it starts there, and its steps. -/
theorem dropWhile_components (p : Path) :
    p.components.dropWhile (· = .current) =
      (if p.isAbsolute then [.root] else []) ++ p.pieces.filterMap step? := by
  unfold components
  cases hp : p.text.toList.splitOn '/' with
  | nil => exact absurd hp (List.splitOn_ne_nil _ _)
  | cons first rest =>
    have hpieces : p.pieces = first :: rest := hp
    have habs := isAbsolute_iff_pieces hpieces
    have hrest := dropWhile_current_of_not_mem (not_mem_filterMap_step? rest).1
    rw [hpieces]
    dsimp only [ofPieces]
    by_cases hfirst : first = []
    · have hidle : step? first = none := by rw [step?, if_pos (Or.inl hfirst)]
      rw [if_pos hfirst, List.filterMap_cons_none hidle]
      by_cases hmore : rest = []
      · have hrel : ¬p.isAbsolute = true := fun h => (habs.mp h).2 hmore
        rw [if_neg hrel, if_pos hmore]
        exact hrest
      · rw [if_pos (habs.mpr ⟨hfirst, hmore⟩), if_neg hmore]
        rfl
    · have hrel : ¬p.isAbsolute = true := fun h => hfirst (habs.mp h).1
      rw [if_neg hfirst, if_neg hrel, List.nil_append]
      by_cases hdot : first = ['.']
      · rw [if_pos hdot, List.filterMap_cons_none (by rw [step?, if_pos (Or.inr hdot)])]
        exact hrest
      · rw [if_neg hdot]
        have hcons : (step? first).toList ++ rest.filterMap step? = (first :: rest).filterMap step? := by
          cases hstep : step? first with
          | none => rw [List.filterMap_cons_none hstep]; rfl
          | some c => rw [List.filterMap_cons_some hstep]; rfl
        rw [hcons]
        exact dropWhile_current_of_not_mem (not_mem_filterMap_step? _).1

/-! ## The plainest spelling -/

/-- Steps with one separator between them, behind the root if they start there. -/
def plain (absolute : Bool) (steps : List (List Char)) : List Char :=
  (if absolute then ['/'] else []) ++ ['/'].intercalate steps

theorem render_eq_plain (absolute : Bool) {cs : List Component} (hroot : Component.root ∉ cs) :
    render ((if absolute then [.root] else []) ++ cs) = plain absolute (cs.map spell) := by
  cases absolute with
  | false =>
    unfold render
    split
    · next heq => simp at heq; simp [heq] at hroot
    · rfl
  | true =>
    cases cs with
    | nil => rfl
    | cons c cs => simp [render, plain, spell, List.intercalate_cons_cons]

theorem moduleName_of_named {p : Path} (h : p.Named) :
    p.moduleName = String.ofList (plain p.isAbsolute p.steps) := by
  have hsteps : (p.pieces.filterMap step?).map spell = p.steps := map_spell_filterMap_step? _
  have hnonempty : p.isAbsolute = true ∨ p.pieces.filterMap step? ≠ [] := by
    refine h.imp_right fun hne heq => hne ?_
    rw [← hsteps, heq]
    rfl
  rw [moduleName, dropWhile_components, ← hsteps,
    ← render_eq_plain p.isAbsolute (not_mem_filterMap_step? _).2]
  split
  · next heq =>
    obtain ⟨hrel, hnone⟩ := List.append_eq_nil_iff.mp heq
    rcases hnonempty with habs | hne
    · simp [habs] at hrel
    · exact absurd hnone hne
  · rfl

theorem moduleName_of_not_named {p : Path} (h : ¬p.Named) : p.moduleName = p.text := by
  obtain ⟨habs, hsteps⟩ := not_or.mp h
  have hnone : p.pieces.filterMap step? = [] := by
    rw [← List.map_eq_nil_iff (f := spell), map_spell_filterMap_step?]
    exact Classical.not_not.mp hsteps
  rw [moduleName, dropWhile_components, if_neg habs, hnone]
  rfl

theorem mem_steps {p : Path} {z : List Char} (h : z ∈ p.steps) : isIdle z = false ∧ '/' ∉ z := by
  obtain ⟨hmem, hidle⟩ := List.mem_filter.mp h
  exact ⟨by simpa using hidle, not_mem_of_mem_splitOn hmem⟩

theorem steps_plain {absolute : Bool} {zs : List (List Char)}
    (h : ∀ z ∈ zs, isIdle z = false ∧ '/' ∉ z) :
    isAbsolute ⟨String.ofList (plain absolute zs)⟩ = absolute ∧
      steps ⟨String.ofList (plain absolute zs)⟩ = zs := by
  have hkept : zs.filter (fun z => !isIdle z) = zs := List.filter_eq_self.mpr fun z hz => by simp [(h z hz).1]
  have hsplit : zs ≠ [] → (['/'].intercalate zs).splitOn '/' = zs :=
    List.splitOn_intercalate '/' fun z hz => (h z hz).2
  cases absolute with
  | true =>
    refine ⟨by simp [isAbsolute, plain], ?_⟩
    rw [steps, pieces, String.toList_ofList]
    change ((([] : List Char) ++ '/' :: ['/'].intercalate zs).splitOn '/').filter _ = zs
    rw [List.splitOn_append_cons_self, List.splitOn_nil, List.filter_append]
    cases zs with
    | nil => rfl
    | cons z zs => rw [hsplit (List.cons_ne_nil z zs), hkept]; rfl
  | false =>
    rw [steps, pieces, isAbsolute, String.toList_ofList]
    cases zs with
    | nil => exact ⟨rfl, rfl⟩
    | cons z zs =>
      refine ⟨?_, by rw [plain, if_neg Bool.false_ne_true, List.nil_append, hsplit (List.cons_ne_nil z zs), hkept]⟩
      obtain ⟨hidle, hslash⟩ := h z List.mem_cons_self
      cases z with
      | nil => cases hidle
      | cons c z =>
        have hc : c ≠ '/' := fun heq => hslash (heq ▸ List.mem_cons_self)
        cases zs <;> simp [plain, List.intercalate_cons_cons, hc]

/-! ## Names of modules -/

theorem sameSteps_moduleName (p : Path) : SameSteps ⟨p.moduleName⟩ p := by
  by_cases h : p.Named
  · rw [moduleName_of_named h]
    exact steps_plain fun z hz => mem_steps hz
  · rw [moduleName_of_not_named h]
    exact ⟨rfl, rfl⟩

theorem moduleName_eq_of_sameSteps {p q : Path} (hp : p.Named) (h : SameSteps p q) :
    p.moduleName = q.moduleName := by
  rw [moduleName_of_named hp, moduleName_of_named (h.named_iff.mp hp), h.1, h.2]

theorem moduleName_moduleName (p : Path) : moduleName ⟨p.moduleName⟩ = p.moduleName := by
  by_cases h : p.Named
  · exact (moduleName_eq_of_sameSteps h (sameSteps_moduleName p).symm).symm
  · have hself : (⟨p.moduleName⟩ : Path) = p := congrArg Path.mk (moduleName_of_not_named h)
    rw [hself]

theorem sameSteps_of_moduleName_eq {p q : Path} (h : p.moduleName = q.moduleName) : SameSteps p q :=
  (sameSteps_moduleName p).symm.trans (h ▸ sameSteps_moduleName q)

/-! ## Respellings -/

theorem pieces_separator (a b : String) :
    pieces ⟨a ++ "/" ++ b⟩ = pieces ⟨a⟩ ++ pieces ⟨b⟩ := by
  simp [pieces, List.splitOn_append_cons_self]

theorem isAbsolute_separator (a b c : String) :
    isAbsolute ⟨a ++ "/" ++ b⟩ = isAbsolute ⟨a ++ "/" ++ c⟩ := by
  cases h : a.toList <;> simp [isAbsolute, h]

theorem steps_separator (a b : String) : steps ⟨a ++ "/" ++ b⟩ = steps ⟨a⟩ ++ steps ⟨b⟩ := by
  rw [steps, pieces_separator, List.filter_append]
  rfl

/-- Whatever makes no step may stand behind a separator. -/
theorem sameSteps_separator (a : String) {idle b : String} (h : steps ⟨idle⟩ = []) :
    SameSteps ⟨a ++ "/" ++ (idle ++ "/" ++ b)⟩ ⟨a ++ "/" ++ b⟩ := by
  refine ⟨isAbsolute_separator a _ _, ?_⟩
  rw [steps_separator, steps_separator, steps_separator, h, List.nil_append]

theorem sameSteps_dot {p : Path} (h : p.isAbsolute = false) : SameSteps ⟨"./" ++ p.text⟩ p := by
  refine ⟨by simp [isAbsolute] at h ⊢; exact h, ?_⟩
  exact steps_separator "." p.text

theorem sameSteps_doubled (a b : String) : SameSteps ⟨a ++ "//" ++ b⟩ ⟨a ++ "/" ++ b⟩ := by
  have hidle : a ++ "//" ++ b = a ++ "/" ++ ("" ++ "/" ++ b) := by simp [← String.toList_inj]
  rw [hidle]
  exact sameSteps_separator a (by decide)

theorem sameSteps_dotted (a b : String) : SameSteps ⟨a ++ "/./" ++ b⟩ ⟨a ++ "/" ++ b⟩ := by
  have hidle : a ++ "/./" ++ b = a ++ "/" ++ ("." ++ "/" ++ b) := by simp [← String.toList_inj]
  rw [hidle]
  exact sameSteps_separator a (by decide)

/-- A step back is a step, even where it undoes one. -/
theorem length_steps_parent (a b : String) : (steps ⟨b⟩).length < (steps ⟨a ++ "/../" ++ b⟩).length := by
  have hparent : a ++ "/../" ++ b = a ++ "/" ++ (".." ++ "/" ++ b) := by simp [← String.toList_inj]
  have hstep : (steps ⟨".."⟩).length = 1 := by decide
  rw [hparent, steps_separator, steps_separator, List.length_append, List.length_append]
  omega

end Path

end Mend

import Mend.Proofs.Files.Spelling

/-!
# Where joined paths lead

A path that is joined to another goes on from there, unless it starts at the root. What follows a first step
takes the remaining steps.

* `LeadsFrom base value p` : `p` is where `value` leads from the directory `base`;
* `leadsFrom_join` : joining leads there; `leadsFrom_self_iff` : when nothing has to be joined;
* `below?_isSome_iff` : a path has something below a name exactly if that is its first component;
* `steps_below?` : what is below takes the other steps.
-/

namespace Mend.Path

/-! ## Joining -/

/-- Where a path leads from a directory: an absolute one stands for itself, a relative one takes its steps
behind those of the directory. -/
def LeadsFrom (base value p : Path) : Prop :=
  if value.isAbsolute then p = value
  else p.isAbsolute = base.isAbsolute ∧ p.steps = base.steps ++ value.steps

theorem leadsFrom_absolute {base value p : Path} (h : value.isAbsolute = true) :
    LeadsFrom base value p ↔ p = value := by
  rw [LeadsFrom, if_pos h]

theorem leadsFrom_relative {base value p : Path} (h : value.isAbsolute = false) :
    LeadsFrom base value p ↔ p.isAbsolute = base.isAbsolute ∧ p.steps = base.steps ++ value.steps := by
  rw [LeadsFrom, if_neg (by simp [h])]

theorem isAbsolute_append {a : String} (h : a ≠ "") (b : String) : isAbsolute ⟨a ++ b⟩ = isAbsolute ⟨a⟩ := by
  rw [isAbsolute, isAbsolute, String.toList_append]
  cases ha : a.toList with
  | nil => exact absurd (String.toList_eq_nil_iff.mp ha) h
  | cons c cs => rfl

theorem leadsFrom_join (base value : Path) : LeadsFrom base value (base.join value) := by
  cases habs : value.isAbsolute with
  | true => rw [leadsFrom_absolute habs, join, if_pos habs]
  | false =>
    rw [leadsFrom_relative habs, join, if_neg (by simp [habs])]
    split
    · next hleft =>
      rcases Bool.or_eq_true_iff.mp hleft with hempty | hslash
      · have hbase : base = ⟨""⟩ := congrArg Path.mk (String.isEmpty_iff.mp hempty)
        rw [hbase, String.empty_append]
        exact ⟨habs, rfl⟩
      · -- the separator is there already, and nothing behind it
        obtain ⟨cs, hcs⟩ := List.getLast?_eq_some_iff.mp (beq_iff_eq.mp hslash)
        have hbase : base.text = String.ofList cs ++ "/" := by
          rw [← String.toList_inj, hcs, String.toList_append, String.toList_ofList]
          rfl
        have hpath : base = ⟨String.ofList cs ++ "/" ++ ""⟩ := by
          rw [String.append_empty]
          exact congrArg Path.mk hbase
        have hnone : steps ⟨""⟩ = [] := by decide
        rw [hbase, hpath]
        refine ⟨isAbsolute_separator _ _ _, ?_⟩
        rw [steps_separator, steps_separator, hnone, List.append_nil]
    · next hleft =>
      have hne : base.text ≠ "" := by
        intro h
        rw [h] at hleft
        exact hleft rfl
      refine ⟨?_, steps_separator base.text value.text⟩
      rw [String.append_assoc]
      exact isAbsolute_append hne _

/-- A relative path leads to itself from the place where it stands, and from no other. -/
theorem leadsFrom_self_iff (base value : Path) :
    LeadsFrom base value value ↔
      value.isAbsolute = true ∨ base.isAbsolute = false ∧ base.steps = [] := by
  cases habs : value.isAbsolute with
  | true => simp [leadsFrom_absolute habs]
  | false =>
    rw [leadsFrom_relative habs, habs, eq_comm, List.self_eq_append_left]
    simp

/-! ## What follows the first step -/

theorem filter_dropWhile_isIdle (pieces : List (List Char)) :
    ((pieces.dropWhile isIdle).filter fun z => !isIdle z) = pieces.filter fun z => !isIdle z := by
  induction pieces with
  | nil => rfl
  | cons z pieces ih =>
    cases hz : isIdle z with
    | true => rw [List.dropWhile_cons_of_pos hz, ih, List.filter_cons_of_neg (by simp [hz])]
    | false => rw [List.dropWhile_cons_of_neg (by simp [hz])]

theorem filter_dropIdle (pieces : List (List Char)) :
    ((dropIdle pieces).filter fun z => !isIdle z) = pieces.filter fun z => !isIdle z := by
  rw [dropIdle, List.filter_reverse, filter_dropWhile_isIdle, List.filter_reverse, List.reverse_reverse]

theorem ne_of_step?_eq_name {name : List Char} (h : step? name = some (.name name)) :
    name ≠ [] ∧ name ≠ ['.'] ∧ name ≠ ['.', '.'] := by
  refine ⟨?_, ?_, ?_⟩
  all_goals
    rintro rfl
    cases h

theorem head?_components_iff {p : Path} {first name : List Char} {rest : List (List Char)}
    (h : p.text.toList.splitOn '/' = first :: rest) (hname : step? name = some (.name name)) :
    p.components.head? = some (.name name) ↔ first = name := by
  obtain ⟨hempty, hdot, hparent⟩ := ne_of_step?_eq_name hname
  rw [components, h]
  unfold ofPieces
  by_cases hfirst : first = []
  · -- the path starts with a separator, or has no piece at all
    cases rest <;> simp [hfirst, hempty]
  · by_cases hcurrent : first = ['.']
    · simp [hcurrent, Ne.symm hdot]
    · by_cases hback : first = ['.', '.']
      · simp [hback, step?, Ne.symm hparent]
      · simp [step?, hfirst, hcurrent, hback]

/-- A path has something below a name exactly if that is its first component. -/
theorem below?_isSome_iff (p : Path) {name : String} (hname : step? name.toList = some (.name name.toList)) :
    (p.below? name).isSome = true ↔ p.components.head? = some (.name name.toList) := by
  unfold below?
  split
  · next h => exact absurd h (List.splitOn_ne_nil _ _)
  · next first rest h =>
    rw [head?_components_iff h hname]
    by_cases hfirst : first = name.toList
    · rw [if_pos hfirst]
      split <;> simp [hfirst]
    · simp [hfirst]

/-- Pieces that start with a step are read as they are joined. -/
theorem pieces_joinPieces {z : List Char} {zs : List (List Char)} (hz : isIdle z = false)
    (hslash : ∀ y ∈ z :: zs, '/' ∉ y) : (joinPieces (z :: zs)).pieces = z :: zs := by
  have htext : joinPieces (z :: zs) = ⟨String.ofList (['/'].intercalate (z :: zs))⟩ := by
    unfold joinPieces
    split
    · next heq =>
      cases heq
      cases hz
    · rfl
  rw [htext, pieces, String.toList_ofList]
  exact List.splitOn_intercalate '/' hslash (List.cons_ne_nil z zs)

theorem isPrefix_dropIdle (pieces : List (List Char)) : dropIdle pieces <+: pieces := by
  rw [dropIdle, ← List.reverse_suffix, List.reverse_reverse]
  exact List.dropWhile_suffix _

/-- Without the idle pieces at both ends the first piece is a step. -/
theorem isIdle_of_dropIdle_dropWhile {pieces zs : List (List Char)} {z : List Char}
    (h : dropIdle (pieces.dropWhile isIdle) = z :: zs) : isIdle z = false := by
  obtain ⟨rest, hrest⟩ := isPrefix_dropIdle (pieces.dropWhile isIdle)
  rw [h, List.cons_append] at hrest
  have hhead := List.head?_dropWhile_not isIdle pieces
  rw [← hrest] at hhead
  simpa using hhead

theorem steps_below? {p rest : Path} {name : String} (hname : step? name.toList = some (.name name.toList))
    (h : p.below? name = some rest) : rest.isAbsolute = false ∧ p.steps = name.toList :: rest.steps := by
  unfold below? at h
  split at h
  · cases h
  · next first pieces hpieces =>
    by_cases hfirst : first = name.toList
    · rw [if_pos hfirst] at h
      have hplain : isIdle first = false := by
        rw [← Bool.not_eq_true, hfirst, ← step?_eq_none_iff, hname]
        nofun
      have hsteps : p.steps = name.toList :: (pieces.filter fun z => !isIdle z) := by
        rw [steps, Path.pieces, hpieces, List.filter_cons_of_pos (by simp [hplain]), hfirst]
      rw [hsteps, ← filter_dropWhile_isIdle, ← filter_dropIdle]
      split at h
      · next hnone =>
        cases h
        rw [hnone]
        exact ⟨by decide, rfl⟩
      · next hsome =>
        cases hkept : dropIdle (pieces.dropWhile isIdle) with
        | nil => exact absurd hkept hsome
        | cons z zs =>
          rw [hkept] at h
          cases h
          have hz := isIdle_of_dropIdle_dropWhile hkept
          have hslash : ∀ y ∈ z :: zs, '/' ∉ y := by
            intro y hy
            rw [← hkept] at hy
            have hmem := (List.dropWhile_suffix isIdle).subset ((isPrefix_dropIdle _).subset hy)
            exact not_mem_of_mem_splitOn (hpieces ▸ List.mem_cons_of_mem first hmem)
          have hread := pieces_joinPieces hz hslash
          refine ⟨?_, by rw [steps, hread]⟩
          rw [← Bool.not_eq_true, isAbsolute_iff_pieces hread]
          rintro ⟨rfl, -⟩
          cases hz
    · rw [if_neg hfirst] at h
      cases h

end Mend.Path

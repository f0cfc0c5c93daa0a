import Mend.Path

/-!
# The last piece of a path

A path that is followed through a tree ends where its last piece says. What that piece is can be read off
the spelling, for a path that has a file name and for one whose file name was replaced.

* `Path.EndsIn p name` : the last piece of `p` is the plain name `name`;
* `fileName?_endsIn` : a path with a file name ends in it, or in an idle piece;
* `withFileName_endsIn` : a path whose file name was replaced ends in the new one.
-/

namespace Mend.Path

def pieces (p : Path) : List (List Char) := p.text.toList.splitOn '/'

/-- The last piece of a path is a name, neither idle nor the parent directory. -/
structure EndsIn (p : Path) (name : String) : Prop where
  last : p.pieces.getLast? = some name.toList
  plain : step? name.toList = some (.name name.toList)

theorem step?_eq_none_iff (piece : List Char) : step? piece = none ↔ isIdle piece = true := by
  unfold step? isIdle
  split
  · next h => simpa using h
  · next h =>
    split <;> simpa using h

theorem step?_eq_name {piece n : List Char} (h : step? piece = some (.name n)) : piece = n := by
  unfold step? at h
  split at h
  · cases h
  · split at h
    · cases h
    · cases h
      rfl

theorem getLast?_filterMap_of_some {α β : Type} {f : α → Option β} {xs : List α} {x : α} {y : β}
    (hx : xs.getLast? = some x) (hy : f x = some y) : (xs.filterMap f).getLast? = some y := by
  obtain ⟨ys, rfl⟩ := List.getLast?_eq_some_iff.mp hx
  rw [List.filterMap_append, List.getLast?_append, List.filterMap_cons_some hy]
  rfl

/-- A path with a file name ends in it, or in a piece that means nothing. -/
theorem fileName?_endsIn {p : Path} {name : String} (h : p.fileName? = some name) :
    p.EndsIn name ∨ ∃ z, p.pieces.getLast? = some z ∧ isIdle z = true := by
  unfold fileName? at h
  split at h
  case h_2 => cases h
  case h_1 n hlast =>
    cases h
    unfold components at hlast
    cases hp : p.text.toList.splitOn '/' with
    | nil => exact absurd hp (List.splitOn_ne_nil _ _)
    | cons first rest =>
      rw [hp] at hlast
      simp only [ofPieces] at hlast
      cases hrest : rest.getLast? with
      | none =>
        -- the only piece is the file name
        obtain rfl := List.getLast?_eq_none_iff.mp hrest
        have hstep : step? first = some (.name n) := by
          rw [List.filterMap_nil, List.append_nil] at hlast
          split at hlast
          · cases hlast
          · split at hlast
            · cases hlast
            · cases hfirst : step? first with
              | none =>
                rw [hfirst] at hlast
                cases hlast
              | some c =>
                rw [hfirst] at hlast
                cases hlast
                rfl
        obtain rfl := step?_eq_name hstep
        exact Or.inl ⟨by rw [pieces, hp, String.toList_ofList]; rfl, by rw [String.toList_ofList, hstep]⟩
      | some z =>
        have hz : p.pieces.getLast? = some z := by
          rw [pieces, hp, List.getLast?_cons, hrest]
          rfl
        cases hstep : step? z with
        | none => exact Or.inr ⟨z, hz, (step?_eq_none_iff z).mp hstep⟩
        | some c =>
          rw [List.getLast?_append, getLast?_filterMap_of_some hrest hstep] at hlast
          cases hlast
          obtain rfl := step?_eq_name hstep
          exact Or.inl ⟨by rw [hz, String.toList_ofList], by rw [String.toList_ofList, hstep]⟩

theorem not_mem_of_mem_splitOn {cs piece : List Char} (h : piece ∈ cs.splitOn '/') : '/' ∉ piece := by
  induction cs generalizing piece with
  | nil =>
    rw [List.splitOn_nil, List.mem_singleton] at h
    rw [h]
    exact List.not_mem_nil
  | cons c cs ih =>
    rw [List.splitOn_cons_eq_if_modifyHead] at h
    split at h
    · rcases List.mem_cons.mp h with rfl | h
      · exact List.not_mem_nil
      · exact ih h
    · next hc =>
      cases hcs : cs.splitOn '/' with
      | nil => exact absurd hcs (List.splitOn_ne_nil _ _)
      | cons first rest =>
        rw [hcs, List.modifyHead_cons] at h
        rcases List.mem_cons.mp h with rfl | h
        · have hfirst := ih (hcs ▸ List.mem_cons_self)
          simpa [hfirst] using fun heq => hc (beq_iff_eq.mpr (Eq.symm heq))
        · exact ih (hcs ▸ List.mem_cons_of_mem _ h)

theorem not_mem_of_fileName? {p : Path} {name : String} (h : p.fileName? = some name) :
    '/' ∉ name.toList := by
  unfold fileName? at h
  split at h
  case h_2 => cases h
  case h_1 n hlast =>
    cases h
    rw [String.toList_ofList]
    have hmem := List.mem_of_getLast? hlast
    unfold components at hmem
    cases hp : p.text.toList.splitOn '/' with
    | nil => exact absurd hp (List.splitOn_ne_nil _ _)
    | cons first rest =>
      rw [hp] at hmem
      simp only [ofPieces, List.mem_append, List.mem_filterMap] at hmem
      rcases hmem with hmem | ⟨z, hz, hstep⟩
      · split at hmem
        · split at hmem
          · cases hmem
          · cases List.mem_singleton.mp hmem
        · split at hmem
          · cases List.mem_singleton.mp hmem
          · obtain rfl := step?_eq_name (Option.mem_toList.mp hmem)
            exact not_mem_of_mem_splitOn (hp ▸ List.mem_cons_self)
      · obtain rfl := step?_eq_name hstep
        exact not_mem_of_mem_splitOn (hp ▸ List.mem_cons_of_mem _ hz)

theorem getLast?_pieces_join (above : Path) {name : String} (h : '/' ∉ name.toList) :
    (above.join ⟨name⟩).pieces.getLast? = some name.toList := by
  have hname : name.toList.splitOn '/' = [name.toList] := List.splitOn_eq_singleton h
  have hrel : isAbsolute ⟨name⟩ = false := by
    unfold isAbsolute
    cases hcs : name.toList with
    | nil => rfl
    | cons c cs =>
      have hc : c ≠ '/' := fun heq => h (by rw [hcs, heq]; exact List.mem_cons_self)
      simpa using hc
  have hbehind : ∀ cs : List Char, ((cs ++ '/' :: name.toList).splitOn '/').getLast? = some name.toList := by
    intro cs
    rw [List.splitOn_append_cons_self, hname, List.getLast?_append]
    rfl
  rw [join, if_neg (by simp [hrel]), pieces]
  split
  · next hleft =>
    rw [String.toList_append]
    rcases Bool.or_eq_true_iff.mp hleft with hempty | hslash
    · rw [String.isEmpty_iff.mp hempty, String.toList_empty, List.nil_append, hname]
      rfl
    · obtain ⟨cs, hcs⟩ := List.getLast?_eq_some_iff.mp (beq_iff_eq.mp hslash)
      rw [hcs, List.append_assoc]
      exact hbehind cs
  · rw [String.toList_append, String.toList_append, List.append_assoc]
    exact hbehind _

/-- A path whose file name was replaced ends in the new one. -/
theorem withFileName_endsIn (p : Path) {name : String} (h : '/' ∉ name.toList)
    (hplain : step? name.toList = some (.name name.toList)) : (p.withFileName name).EndsIn name := by
  refine ⟨?_, hplain⟩
  unfold withFileName
  split
  · exact getLast?_pieces_join _ h
  · exact getLast?_pieces_join _ h

end Mend.Path

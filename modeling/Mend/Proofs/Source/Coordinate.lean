import Mend.Source.Location

/-!
# Source order

* `Coordinate.Before` : strict source order; `Coordinate.le_trans`, `Coordinate.le_total`,
  `Coordinate.le_antisymm` : source order is a linear one;
* `Coordinate.past` : the coordinate behind a text, which `Coordinate.before_past` puts behind where the
  text starts; `Coordinate.shift` : the coordinate of a byte of a lower line.
-/

namespace Mend.Coordinate

/-- Whether `a` stands before `b`: on an earlier line, or on the same line in an earlier column. -/
def Before (a b : Coordinate) : Prop :=
  a.line < b.line ∨ a.line = b.line ∧ a.column < b.column

instance (a b : Coordinate) : Decidable (a.Before b) :=
  inferInstanceAs (Decidable (a.line < b.line ∨ a.line = b.line ∧ a.column < b.column))

theorem le_iff {a b : Coordinate} :
    a.le b = true ↔ a.line < b.line ∨ a.line = b.line ∧ a.column ≤ b.column := by
  simp [le]

theorem le_refl (a : Coordinate) : a.le a = true := by simp [le]

theorem le_trans {a b c : Coordinate} (hab : a.le b = true) (hbc : b.le c = true) : a.le c = true := by
  rw [le_iff] at hab hbc ⊢
  omega

theorem le_antisymm {a b : Coordinate} (hab : a.le b = true) (hba : b.le a = true) : a = b := by
  rw [le_iff] at hab hba
  obtain ⟨line, column⟩ := a
  obtain ⟨line', column'⟩ := b
  have hline : line = line' := by
    dsimp only at hab hba
    omega
  have hcolumn : column = column' := by
    dsimp only at hab hba
    omega
  rw [hline, hcolumn]

theorem before_of_le_of_ne {a b : Coordinate} (hle : a.le b = true) (hne : a ≠ b) : a.Before b := by
  rw [le_iff] at hle
  rcases hle with hline | ⟨hline, hcolumn⟩
  · exact Or.inl hline
  · refine Or.inr ⟨hline, Nat.lt_of_le_of_ne hcolumn fun hcolumn => hne ?_⟩
    obtain ⟨line, column⟩ := a
    cases hline
    cases hcolumn
    rfl

theorem Before.ne {a b : Coordinate} (h : a.Before b) : a ≠ b := by
  rintro rfl
  unfold Before at h
  omega

theorem Before.le {a b : Coordinate} (h : a.Before b) : a.le b = true := by
  rw [le_iff]
  unfold Before at h
  omega

theorem not_before_of_le {a b : Coordinate} (h : a.le b = true) : ¬b.Before a := by
  rw [le_iff] at h
  unfold Before
  omega

theorem before_of_not_le {a b : Coordinate} (h : ¬a.le b = true) : b.Before a := by
  rw [le_iff] at h
  unfold Before
  omega

theorem Before.trans_le {a b c : Coordinate} (hab : a.Before b) (hbc : b.le c = true) : a.Before c := by
  rw [le_iff] at hbc
  unfold Before at hab ⊢
  omega

/-! ## Behind a text -/

/-- The coordinate behind a character: a line feed ends its line, and any other character takes as many
columns as it has bytes. -/
def advance (c : Coordinate) (x : Char) : Coordinate :=
  if x = '\n' then ⟨c.line + 1, 1⟩ else ⟨c.line, c.column + x.utf8Size⟩

/-- The coordinate behind a text that starts at `c`. -/
def past (c : Coordinate) (text : List Char) : Coordinate := text.foldl advance c

@[simp] theorem past_nil (c : Coordinate) : c.past [] = c := rfl

@[simp] theorem past_cons (c : Coordinate) (x : Char) (text : List Char) :
    c.past (x :: text) = (c.advance x).past text := rfl

theorem past_append (c : Coordinate) (text more : List Char) :
    c.past (text ++ more) = (c.past text).past more :=
  List.foldl_append

theorem before_advance (c : Coordinate) (x : Char) : c.Before (c.advance x) := by
  unfold advance
  split
  · exact Or.inl (Nat.lt_succ_self _)
  · exact Or.inr ⟨rfl, Nat.lt_add_of_pos_right x.utf8Size_pos⟩

theorem le_past (c : Coordinate) (text : List Char) : c.le (c.past text) = true := by
  induction text generalizing c with
  | nil => exact c.le_refl
  | cons x text ih => exact le_trans (before_advance c x).le (ih (c.advance x))

theorem before_past (c : Coordinate) {text : List Char} (h : text ≠ []) : c.Before (c.past text) := by
  obtain ⟨x, text, rfl⟩ := List.exists_cons_of_ne_nil h
  exact (before_advance c x).trans_le (le_past _ text)

/-- The coordinate of byte `j` of line `i` of a text that starts at `c`, both counted from zero. Only the
first line starts in the column of `c`. -/
def shift (c : Coordinate) (i j : Nat) : Coordinate :=
  ⟨c.line + i, (if i = 0 then c.column else 1) + j⟩

theorem shift_newline (c : Coordinate) (i j : Nat) : (c.advance '\n').shift i j = c.shift (i + 1) j := by
  simp only [shift, advance, if_true, ite_self, Nat.succ_ne_zero, if_false, mk.injEq, and_true]
  omega

theorem shift_advance {x : Char} (hx : x ≠ '\n') (c : Coordinate) (i j : Nat) :
    (c.advance x).shift i j = c.shift i ((if i = 0 then x.utf8Size else 0) + j) := by
  rw [advance, if_neg hx, shift, shift]
  split
  · rw [Nat.add_assoc]
  · rw [Nat.zero_add]

def first : Coordinate := ⟨1, 1⟩

theorem shift_first (i j : Nat) : first.shift i j = ⟨i + 1, j + 1⟩ := by
  simp only [shift, first, ite_self, Nat.add_comm 1]

end Mend.Coordinate

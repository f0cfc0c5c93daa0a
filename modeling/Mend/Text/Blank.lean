/-!
# Blank characters

The characters with the Unicode property `White_Space`, and the two cuts made at them.

* `isBlank` : the property, as a table of ranges;
* `trim` : a text without the blanks at either end;
* `words` : the maximal runs of characters that are not blank.
-/

namespace Mend.Text

/-- The code points of `White_Space`, as closed ranges in increasing order. -/
def blankRanges : List (Nat × Nat) :=
  [(0x09, 0x0d), (0x20, 0x20), (0x85, 0x85), (0xa0, 0xa0), (0x1680, 0x1680), (0x2000, 0x200a),
   (0x2028, 0x2029), (0x202f, 0x202f), (0x205f, 0x205f), (0x3000, 0x3000)]

/-- Whether `c` separates words. -/
def isBlank (c : Char) : Bool :=
  blankRanges.any fun (lo, hi) => lo ≤ c.toNat && c.toNat ≤ hi

/-- `cs` without its longest blank suffix. -/
def trimEnd (cs : List Char) : List Char :=
  (cs.reverse.dropWhile isBlank).reverse

/-- `cs` without the blanks at either end. -/
def trimChars (cs : List Char) : List Char :=
  trimEnd (cs.dropWhile isBlank)

/-- A text without the blanks at either end. -/
def trim (s : String) : String :=
  String.ofList (trimChars s.toList)

/-- The maximal runs of characters that are not blank, in order. -/
def words (s : String) : List String :=
  (s.toList.splitOnP isBlank).filterMap fun run =>
    if run.isEmpty then none else some (String.ofList run)

theorem isBlank_space : isBlank ' ' = true := by decide

/-- No digit and no sign is blank, so a number is never shortened by `trimChars`. -/
theorem not_isBlank_of_isDigit {c : Char} (h : c.isDigit = true) : isBlank c = false := by
  rw [Char.isDigit_iff_toNat] at h
  obtain ⟨h₁, h₂⟩ := h
  have e₁ : '0'.toNat = 48 := rfl
  have e₂ : '9'.toNat = 57 := rfl
  simp only [isBlank, blankRanges, List.any_cons, List.any_nil, Bool.or_false, Bool.or_eq_false_iff,
    Bool.and_eq_false_iff, decide_eq_false_iff_not]
  omega

end Mend.Text

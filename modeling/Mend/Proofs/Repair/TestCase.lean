import Mend.Proofs.Text.Numeral
import Mend.Repair.TestCase

/-!
# Reading test cases

The last `=` of a text divides an input from an exit code. Whatever stands in front of it is the input, and
what stands behind it has to be a numeral that fits 32 bits, with blanks around it.

* `cut?_eq_none_iff`, `cut?_eq_some_iff` : the last `=`;
* `Divides` : an input in front of it and a code behind it;
* `IsCode`, `code?_eq_some_iff` : the codes that are read;
* `parse_eq_ok_iff`, `parse_eq_error_iff` : what a text is read as, and why it is refused;
* `parse_exact` : the same, and that a test case is read back from its text.
-/

namespace Mend.TestCase

/-! ## The last separator -/

theorem not_mem_of_cut? {cs : List Char} (h : cut? cs = none) : '=' ∉ cs := by
  fun_induction cut? cs with
  | case1 => exact List.not_mem_nil
  | case2 c cs before after hcut ih => cases h
  | case3 cs hcut ih => cases h
  | case4 c cs hcut hc ih =>
    rw [List.mem_cons, not_or]
    exact ⟨Ne.symm hc, ih hcut⟩

theorem eq_of_cut? {cs before after : List Char} (h : cut? cs = some (before, after)) :
    cs = before ++ '=' :: after ∧ '=' ∉ after := by
  fun_induction cut? cs generalizing before with
  | case1 => cases h
  | case2 c cs front back hcut ih =>
    cases h
    obtain ⟨rfl, hback⟩ := ih hcut
    exact ⟨rfl, hback⟩
  | case3 cs hcut ih =>
    cases h
    exact ⟨rfl, not_mem_of_cut? hcut⟩
  | case4 c cs hcut hc ih => cases h

theorem cut?_eq_none_iff {cs : List Char} : cut? cs = none ↔ '=' ∉ cs := by
  refine ⟨not_mem_of_cut?, fun h => ?_⟩
  cases hcut : cut? cs with
  | none => rfl
  | some parts =>
    obtain ⟨rfl, -⟩ := eq_of_cut? hcut
    simp at h

theorem cut?_append (before : List Char) {after : List Char} (h : '=' ∉ after) :
    cut? (before ++ '=' :: after) = some (before, after) := by
  induction before with
  | nil => rw [List.nil_append, cut?, cut?_eq_none_iff.mpr h, if_pos rfl]
  | cons c before ih => rw [List.cons_append, cut?, ih]

theorem cut?_eq_some_iff {cs before after : List Char} :
    cut? cs = some (before, after) ↔ cs = before ++ '=' :: after ∧ '=' ∉ after := by
  refine ⟨eq_of_cut?, ?_⟩
  rintro ⟨rfl, h⟩
  exact cut?_append before h

/-- `input` stands in front of the last `=` of a text, and `code` behind it. -/
structure Divides (s input code : String) : Prop where
  text : s = input ++ "=" ++ code
  last : '=' ∉ code.toList

theorem divides_iff {s input code : String} :
    Divides s input code ↔ cut? s.toList = some (input.toList, code.toList) := by
  have htext : s = input ++ "=" ++ code ↔ s.toList = input.toList ++ '=' :: code.toList := by
    rw [← String.toList_inj]
    simp
  rw [cut?_eq_some_iff, ← htext]
  exact ⟨fun h => ⟨h.text, h.last⟩, fun h => ⟨h.1, h.2⟩⟩

/-! ## Exit codes -/

/-- An exit code: a numeral of 32 bits, blanks around it. -/
inductive IsCode : List Char → Int → Prop
  | mk {a numeral b : List Char} {n : Int} (ha : ∀ c ∈ a, Text.isBlank c = true)
    (hnumeral : Text.Decimal.IsInteger numeral n) (hb : ∀ c ∈ b, Text.isBlank c = true)
    (hmin : -2147483648 ≤ n) (hmax : n ≤ 2147483647) : IsCode (a ++ (numeral ++ b)) n

theorem IsCode.fits {cs : List Char} {n : Int} (h : IsCode cs n) : -2147483648 ≤ n ∧ n ≤ 2147483647 := by
  obtain ⟨-, -, -, hmin, hmax⟩ := h
  exact ⟨hmin, hmax⟩

theorem code?_eq_some_iff_integer? {cs : List Char} {n : Int} :
    code? cs = some n ↔ Text.Decimal.integer? (Text.trimChars cs) = some n ∧ -2147483648 ≤ n ∧ n ≤ 2147483647 := by
  unfold code?
  cases Text.Decimal.integer? (Text.trimChars cs) with
  | none => exact iff_of_false nofun nofun
  | some k =>
    simp only [Option.ite_none_right_eq_some, Option.some.injEq]
    omega

theorem code?_eq_some_iff {cs : List Char} {n : Int} : code? cs = some n ↔ IsCode cs n := by
  rw [code?_eq_some_iff_integer?, Text.Decimal.integer?_eq_some_iff]
  constructor
  · rintro ⟨h, hmin, hmax⟩
    obtain ⟨a, b, ha, hb, hcs⟩ := Text.exists_trimChars cs
    rw [hcs]
    exact .mk ha h hb hmin hmax
  · rintro @⟨a, numeral, b, n, ha, h, hb, hmin, hmax⟩
    rw [Text.trimChars_core ha h.not_isBlank h.ne_nil hb]
    exact ⟨h, hmin, hmax⟩

/-! ## Test cases -/

theorem parse_of_code {s input code : String} {n : Int} (h : Divides s input code)
    (hcode : code? code.toList = some n) : parse s = .ok ⟨input, n⟩ := by
  simp only [parse, divides_iff.mp h, hcode, String.ofList_toList]

theorem parse_of_no_code {s input code : String} (h : Divides s input code)
    (hcode : code? code.toList = none) : parse s = .error (.badCode code) := by
  simp only [parse, divides_iff.mp h, hcode, String.ofList_toList]

theorem parse_of_not_mem {s : String} (h : '=' ∉ s.toList) : parse s = .error (.noSeparator s) := by
  rw [parse, cut?_eq_none_iff.mpr h]

/-- A text has a last `=`, or none at all. -/
theorem exists_divides_or (s : String) : (∃ input code, Divides s input code) ∨ '=' ∉ s.toList := by
  cases hcut : cut? s.toList with
  | none => exact Or.inr (cut?_eq_none_iff.mp hcut)
  | some parts =>
    refine Or.inl ⟨String.ofList parts.1, String.ofList parts.2, divides_iff.mpr ?_⟩
    rw [String.toList_ofList, String.toList_ofList, hcut]

theorem parse_eq_ok_iff {s : String} {t : TestCase} :
    parse s = .ok t ↔ ∃ code, Divides s t.input code ∧ IsCode code.toList t.expectedExit := by
  constructor
  · intro hparse
    rcases exists_divides_or s with ⟨input, code, h⟩ | h
    · cases hcode : code? code.toList with
      | none =>
        rw [parse_of_no_code h hcode] at hparse
        cases hparse
      | some n =>
        rw [parse_of_code h hcode] at hparse
        cases hparse
        exact ⟨code, h, code?_eq_some_iff.mp hcode⟩
    · rw [parse_of_not_mem h] at hparse
      cases hparse
  · rintro ⟨code, h, hcode⟩
    exact parse_of_code h (code?_eq_some_iff.mpr hcode)

theorem parse_eq_error_iff {s : String} {e : TestCaseError} :
    parse s = .error e ↔ ('=' ∉ s.toList ∧ e = .noSeparator s) ∨
      ∃ input code, Divides s input code ∧ (∀ n, ¬IsCode code.toList n) ∧ e = .badCode code := by
  have hnone (code : String) : code? code.toList = none ↔ ∀ n, ¬IsCode code.toList n := by
    simp only [Option.eq_none_iff_forall_ne_some, ne_eq, code?_eq_some_iff]
  constructor
  · intro hparse
    rcases exists_divides_or s with ⟨input, code, h⟩ | h
    · cases hcode : code? code.toList with
      | none =>
        rw [parse_of_no_code h hcode] at hparse
        cases hparse
        exact Or.inr ⟨input, code, h, (hnone code).mp hcode, rfl⟩
      | some n =>
        rw [parse_of_code h hcode] at hparse
        cases hparse
    · rw [parse_of_not_mem h] at hparse
      cases hparse
      exact Or.inl ⟨h, rfl⟩
  · rintro (⟨h, rfl⟩ | ⟨input, code, h, hcode, rfl⟩)
    · exact parse_of_not_mem h
    · exact parse_of_no_code h ((hnone code).mpr hcode)

/-- The numeral of a code has no `=` in it, so behind an input and a `=` it is what the last one divides off. -/
theorem divides_ofInt (input : String) (n : Int) :
    Divides (input ++ "=" ++ Text.Decimal.ofInt n) input (Text.Decimal.ofInt n) := by
  refine ⟨rfl, fun h => ?_⟩
  have hdigit : ∀ c : Char, c.isDigit = true → c ≠ '=' := by
    rintro c hc rfl
    exact absurd hc (by decide)
  exact (Text.Decimal.isInteger_ofInt n).forall_mem hdigit (by decide) (by decide) _ h rfl

theorem isCode_ofInt {n : Int} (hmin : -2147483648 ≤ n) (hmax : n ≤ 2147483647) :
    IsCode (Text.Decimal.ofInt n).toList n := by
  have h := IsCode.mk (a := []) (b := []) nofun (Text.Decimal.isInteger_ofInt n) nofun hmin hmax
  rwa [List.nil_append, List.append_nil] at h

/-- An input, a `=` and the shortest numeral of a code are read back as these two exactly if the code fits 32
bits. Any text is read as a test case exactly if behind its last `=` stands the numeral of an exit code, with
blanks around it; it is refused if it has no `=` or stands for no code there, and the error shows what was
looked at. -/
theorem parse_exact :
    (∀ (input : String) (n : Int),
      parse (input ++ "=" ++ Text.Decimal.ofInt n) = .ok ⟨input, n⟩ ↔ -2147483648 ≤ n ∧ n ≤ 2147483647) ∧
    (∀ (s : String) (t : TestCase),
      parse s = .ok t ↔ ∃ code, Divides s t.input code ∧ IsCode code.toList t.expectedExit) ∧
    ∀ (s : String) (e : TestCaseError),
      parse s = .error e ↔ ('=' ∉ s.toList ∧ e = .noSeparator s) ∨
        ∃ input code, Divides s input code ∧ (∀ n, ¬IsCode code.toList n) ∧ e = .badCode code := by
  refine ⟨fun input n => ?_, fun s t => parse_eq_ok_iff, fun s e => parse_eq_error_iff⟩
  rw [parse_eq_ok_iff]
  constructor
  · rintro ⟨code, -, hcode⟩
    exact hcode.fits
  · rintro ⟨hmin, hmax⟩
    exact ⟨Text.Decimal.ofInt n, divides_ofInt input n, isCode_ofInt hmin hmax⟩

example : (parse " a=b =\t-2147483648\n").toOption = some ⟨" a=b ", -2147483648⟩ := by decide +kernel

end Mend.TestCase

import Mend.Facts.Decode
import Mend.Proofs.Json.Natural
import Mend.Proofs.Json.Reading
import Mend.Proofs.Steps
import Mend.Proofs.Text.Numeral

/-!
# The fields of a record

A field is a number, a truth value or a string, whatever it is read as. This module says which values are
integers, truth values and text, and that the decoder takes exactly these.

* `IsNumeral` : a numeral in a string, blanks around it; `natural?_trimChars_eq_some_iff` : its reading;
* `IsInteger`, `IsCoordinate`, `IsTruth`, `IsText` : the values of the four kinds of fields;
* `IsScalar`, `decodeScalar_eq_ok_iff` : the values that are scalars at all;
* `toNat_iff`, `toCoordinate_iff`, `toBool_iff`, `toText_iff` : the scalars of each kind.
-/

namespace Mend.Facts

open Json (Value Literal Reading)

/-- A numeral: blanks, a plus if there is one, digits, and blanks. -/
inductive IsNumeral : List Char → Nat → Prop
  | mk {a plus ds b : List Char} (ha : ∀ c ∈ a, Text.isBlank c = true) (hplus : plus = [] ∨ plus = ['+'])
    (hne : ds ≠ []) (hds : ∀ c ∈ ds, c.isDigit = true) (hb : ∀ c ∈ b, Text.isBlank c = true) :
    IsNumeral (a ++ ((plus ++ ds) ++ b)) (Nat.ofDigitChars 10 ds 0)

/-- An integer below `2 ^ 64`: a number, a truth value, or a numeral in a string. -/
inductive IsInteger : Value → Nat → Prop
  | number {l : Literal} {n : Nat} (h : l.IsNatural n) (hn : n < 2 ^ 64) : IsInteger (.number l) n
  | bool (b : Bool) : IsInteger (.bool b) b.toNat
  | text {s : String} {n : Nat} (h : IsNumeral s.toList n) (hn : n < 2 ^ 64) : IsInteger (.string (some s)) n

/-- A line or a column: an integer below `2 ^ 32`. -/
def IsCoordinate (v : Value) (n : Nat) : Prop := IsInteger v n ∧ n < 2 ^ 32

def wordOf (b : Bool) : String := if b then "true" else "false"

/-- A truth value: itself, its word in letters of either case, or an integer that is zero or not. -/
inductive IsTruth : Value → Bool → Prop
  | bool (b : Bool) : IsTruth (.bool b) b
  | word {s : String} {b : Bool} (h : s.toList.map Char.toLower = (wordOf b).toList) :
    IsTruth (.string (some s)) b
  | integer {v : Value} {n : Nat} (h : IsInteger v n) : IsTruth v (n ≠ 0)

/-- A text: a string, or the spelling of a number or a truth value. -/
inductive IsText : Value → String → Prop
  | number {l : Literal} {n : Nat} (h : l.IsNatural n) (hn : n < 2 ^ 64) :
    IsText (.number l) (Text.Decimal.ofNat n)
  | bool (b : Bool) : IsText (.bool b) (wordOf b)
  | text (s : String) : IsText (.string (some s)) s

/-! ## Numerals -/

/-- What is left between the blanks is a natural number if the whole is a numeral. -/
theorem natural?_trimChars_eq_some_iff {cs : List Char} {n : Nat} :
    Text.Decimal.natural? (Text.trimChars cs) = some n ↔ IsNumeral cs n := by
  constructor
  · intro h
    obtain ⟨a, b, ha, hb, hcs⟩ := Text.exists_trimChars cs
    obtain ⟨plus, ds, hplus, htrim, hne, hds, rfl⟩ := Text.Decimal.natural?_eq_some_iff.mp h
    rw [hcs, htrim]
    exact .mk ha hplus hne hds hb
  · rintro @⟨a, plus, ds, b, ha, hplus, hne, hds, hb⟩
    have hcore : ∀ c ∈ plus ++ ds, Text.isBlank c = false := by
      intro c hc
      rcases List.mem_append.mp hc with hc | hc
      · rcases hplus with rfl | rfl
        · cases hc
        · rw [List.mem_singleton.mp hc]
          decide
      · exact Text.not_isBlank_of_isDigit (hds c hc)
    rw [Text.trimChars_core ha hcore (by simp [hne]) hb]
    exact Text.Decimal.natural?_eq_some_iff.mpr ⟨plus, ds, hplus, rfl, hne, hds, rfl⟩

theorem IsNumeral.not_word {cs : List Char} {n : Nat} (h : IsNumeral cs n) (b : Bool) :
    cs.map Char.toLower ≠ (wordOf b).toList := by
  obtain @⟨a, plus, ds, b', -, -, hne, hds, -⟩ := h
  obtain ⟨d, ds, rfl⟩ := List.exists_cons_of_ne_nil hne
  have hdigit := hds d List.mem_cons_self
  have hlower : d.toLower = d := by
    have hdigits : ∀ k < 10, (Nat.digitChar k).toLower = Nat.digitChar k := by decide
    obtain ⟨hk, hchar⟩ := Json.digitChar_of_isDigit hdigit
    rw [← hchar]
    exact hdigits _ hk
  intro heq
  have hmem : d ∈ (wordOf b).toList := by
    rw [← heq]
    exact List.mem_map.mpr ⟨d, by simp, hlower⟩
  have hletters : (wordOf b).toList.all (fun c => !c.isDigit) = true := by cases b <;> decide
  have hletter := List.all_eq_true.mp hletters d hmem
  rw [hdigit] at hletter
  cases hletter

/-! ## Scalars -/

inductive IsScalar : Value → Scalar → Prop
  | int {l : Literal} {n : Nat} (h : l.IsNatural n) (hn : n < 2 ^ 64) : IsScalar (.number l) (.int n)
  | bool (b : Bool) : IsScalar (.bool b) (.bool b)
  | text (s : String) : IsScalar (.string (some s)) (.text s)

theorem ofFault_eq_ok_iff {α : Type} {x : Except Json.Fault α} {a : α} : ofFault x = .ok a ↔ x = .ok a := by
  cases x <;> simp [ofFault]

theorem ofShape_eq_ok_iff {α : Type} {x : Except ShapeError α} {a : α} : ofShape x = .ok a ↔ x = .ok a := by
  cases x <;> simp [ofShape]

theorem mismatch_ne_ok {α : Type} (expected : Expected) (r : Reading) (a : α) :
    mismatch expected r ≠ .ok a := by
  have hfound : ∃ found : Except DecodeError Found,
      @mismatch α expected r = found >>= fun found => .error (.shape (.wrongType found expected)) := by
    cases r <;> exact ⟨_, rfl⟩
  obtain ⟨found, hfound⟩ := hfound
  intro h
  obtain ⟨_, _, herror⟩ := bind_eq_ok (hfound.symm.trans h)
  cases herror

theorem decodeString_eq_ok_iff {v : Value} {s : String} :
    decodeString v.reading = .ok s ↔ v = .string (some s) := by
  cases v with
  | string t => cases t <;> simp [Value.reading, Json.stringScan, decodeString, ofFault_eq_ok_iff]
  | _ => simp [Value.reading, decodeString, mismatch_ne_ok]

theorem decodeScalar_eq_ok_iff {room : Nat} {v : Value} {s : Scalar} :
    decodeScalar room v.reading = .ok s ↔ IsScalar v s := by
  -- what is no scalar is checked, then refused
  have hrefused : ∀ r : Reading, (do ofFault (r.check room); .error (.shape .notScalar)) ≠
      (.ok s : Except DecodeError Scalar) := by
    intro r h
    obtain ⟨_, _, h⟩ := bind_eq_ok h
    cases h
  cases v with
  | null => exact iff_of_false (hrefused .null) nofun
  | bool b =>
    constructor
    · rintro ⟨⟩
      exact .bool b
    · rintro ⟨⟩
      rfl
  | number l =>
    simp only [Value.reading, decodeScalar, bind_eq_ok_iff, ofFault_eq_ok_iff]
    constructor
    · rintro ⟨n, hvalue, h⟩
      cases n with
      | natural n =>
        cases h
        obtain ⟨hn, hlimit⟩ := Literal.value_eq_natural_iff.mp hvalue
        exact .int hn hlimit
      | negative n => cases h
      | real bits => cases h
    · rintro @⟨_, n, hn, hlimit⟩
      exact ⟨.natural n, Literal.value_eq_natural_iff.mpr ⟨hn, hlimit⟩, rfl⟩
  | string t =>
    cases t with
    | none => exact iff_of_false nofun nofun
    | some t =>
      constructor
      · rintro ⟨⟩
        exact .text t
      · rintro ⟨⟩
        rfl
  | array items => exact iff_of_false (hrefused (Value.array items).reading) nofun
  | object fields => exact iff_of_false (hrefused (Value.object fields).reading) nofun

namespace Scalar

theorem toNat_text_iff {field s : String} {n : Nat} :
    (Scalar.text s).toNat field = .ok n ↔ IsNumeral s.toList n ∧ n < 2 ^ 64 := by
  rw [← natural?_trimChars_eq_some_iff]
  simp only [toNat]
  split
  · next m hm =>
    rw [hm, Option.some.injEq]
    split
    · next hlimit =>
      rw [Except.ok.injEq]
      refine ⟨fun h => ⟨h, ?_⟩, fun h => h.1⟩
      omega
    · next hlimit =>
      refine iff_of_false nofun ?_
      rintro ⟨rfl, h⟩
      omega
  · next hm => simp [hm]

theorem toNat_iff {v : Value} {field : String} {n : Nat} :
    (∃ s, IsScalar v s ∧ s.toNat field = .ok n) ↔ IsInteger v n := by
  constructor
  · rintro ⟨s, hs, h⟩
    cases hs with
    | int hl hlimit =>
      cases h
      exact .number hl hlimit
    | bool b =>
      cases h
      cases b <;> exact .bool _
    | text s =>
      obtain ⟨hnumeral, hlimit⟩ := toNat_text_iff.mp h
      exact .text hnumeral hlimit
  · intro h
    cases h with
    | number hl hlimit => exact ⟨_, .int hl hlimit, rfl⟩
    | bool b => exact ⟨_, .bool b, by cases b <;> rfl⟩
    | text hnumeral hlimit => exact ⟨_, .text _, toNat_text_iff.mpr ⟨hnumeral, hlimit⟩⟩

theorem toCoordinate_iff {v : Value} {field : String} {n : Nat} :
    (∃ s, IsScalar v s ∧ s.toCoordinate field = .ok n) ↔ IsCoordinate v n := by
  have hlimit : ∀ s : Scalar, s.toCoordinate field = .ok n ↔ s.toNat field = .ok n ∧ n < 2 ^ 32 := by
    intro s
    simp only [toCoordinate, bind_eq_ok_iff]
    constructor
    · rintro ⟨m, hm, h⟩
      split at h
      · cases h
        exact ⟨hm, by omega⟩
      · cases h
    · rintro ⟨hn, h⟩
      exact ⟨n, hn, if_pos (by omega)⟩
  simp only [hlimit, IsCoordinate, ← @toNat_iff v field]
  constructor
  · rintro ⟨s, hs, hn, h⟩
    exact ⟨⟨s, hs, hn⟩, h⟩
  · rintro ⟨⟨s, hs, hn⟩, h⟩
    exact ⟨s, hs, hn, h⟩

theorem sameLetters_wordOf_iff {s : String} {b : Bool} :
    sameLetters s (wordOf b) = true ↔ s.toList.map Char.toLower = (wordOf b).toList := by
  have hlower : (wordOf b).toList.map Char.toLower = (wordOf b).toList := by cases b <;> decide
  rw [sameLetters, decide_eq_true_eq, hlower]

/-- The words are tried before the numerals, with which they have nothing in common. -/
theorem toBool_text_iff {field s : String} {b : Bool} :
    (Scalar.text s).toBool field = .ok b ↔ s.toList.map Char.toLower = (wordOf b).toList ∨
      ∃ n, IsNumeral s.toList n ∧ n < 2 ^ 64 ∧ decide (n ≠ 0) = b := by
  have hcode : (Scalar.text s).toBool field = if sameLetters s (wordOf true) then .ok true
      else if sameLetters s (wordOf false) then .ok false
      else ((Scalar.text s).toNat field).map fun n => decide (n ≠ 0) := rfl
  simp only [hcode, sameLetters_wordOf_iff]
  have hapart : (wordOf false).toList ≠ (wordOf true).toList := by decide
  constructor
  · intro h
    split at h
    · next hword =>
      cases h
      exact Or.inl hword
    split at h
    · next hword =>
      cases h
      exact Or.inl hword
    · cases hn : (Scalar.text s).toNat field with
      | error e =>
        rw [hn] at h
        cases h
      | ok n =>
        rw [hn] at h
        cases h
        obtain ⟨hnumeral, hlimit⟩ := toNat_text_iff.mp hn
        exact Or.inr ⟨n, hnumeral, hlimit, rfl⟩
  · rintro (hword | ⟨n, hnumeral, hlimit, rfl⟩)
    · cases b with
      | true => rw [if_pos hword]
      | false => rw [if_neg (hword ▸ hapart), if_pos hword]
    · rw [if_neg (hnumeral.not_word true), if_neg (hnumeral.not_word false),
        toNat_text_iff.mpr ⟨hnumeral, hlimit⟩]
      rfl

theorem toBool_iff {v : Value} {field : String} {b : Bool} :
    (∃ s, IsScalar v s ∧ s.toBool field = .ok b) ↔ IsTruth v b := by
  constructor
  · rintro ⟨s, hs, h⟩
    cases hs with
    | int hl hlimit =>
      cases h
      exact .integer (.number hl hlimit)
    | bool b =>
      cases h
      exact .bool _
    | text s =>
      rcases toBool_text_iff.mp h with hword | ⟨n, hn, hlimit, rfl⟩
      · exact .word hword
      · exact .integer (.text hn hlimit)
  · intro h
    cases h with
    | bool b => exact ⟨_, .bool b, rfl⟩
    | word hword => exact ⟨_, .text _, toBool_text_iff.mpr (Or.inl hword)⟩
    | @integer _ n h =>
      cases h with
      | number hl hlimit => exact ⟨_, .int hl hlimit, rfl⟩
      | bool b => exact ⟨_, .bool b, by cases b <;> rfl⟩
      | text hn hlimit => exact ⟨_, .text _, toBool_text_iff.mpr (Or.inr ⟨n, hn, hlimit, rfl⟩)⟩

theorem toText_iff {v : Value} {t : String} : (∃ s, IsScalar v s ∧ s.toText = t) ↔ IsText v t := by
  constructor
  · rintro ⟨s, hs, rfl⟩
    cases hs with
    | int hl hlimit => exact .number hl hlimit
    | bool b => exact .bool b
    | text s => exact .text s
  · intro h
    cases h with
    | number hl hlimit => exact ⟨_, .int hl hlimit, rfl⟩
    | bool b => exact ⟨_, .bool b, rfl⟩
    | text => exact ⟨_, .text t, rfl⟩

end Scalar

end Mend.Facts

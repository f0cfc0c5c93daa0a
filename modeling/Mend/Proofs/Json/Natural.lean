import Mathlib.Data.List.Basic
import Mend.Proofs.Json.Grammar

/-!
# Natural numbers in JSON text

A numeral stands for a natural number if it has no sign, no fraction and no exponent, and if it fits 64 bits.

* `digitsValue` : the number that digits stand for, however many they are;
* `accumulate_fits`, `accumulate_excess` : digits are left out only of a number that is too large;
* `Literal.value_eq_natural_iff` : which numerals are natural numbers.
-/

namespace Mend.Json

/-- The number that digits stand for, from the front. -/
def digitsValue (ds : List Nat) : Nat := ds.foldl (fun n d => n * 10 + d) 0

/-- A numeral that stands for a natural number, whether or not it fits. -/
structure Literal.IsNatural (l : Literal) (n : Nat) : Prop where
  unsigned : l.negative = false
  whole : l.fraction = none
  plain : l.exponent = none
  value : digitsValue l.whole = n

theorem digitChar_of_isDigit {c : Char} (h : c.isDigit = true) :
    c.toNat - '0'.toNat < 10 ∧ Nat.digitChar (c.toNat - '0'.toNat) = c := by
  have hchar : ∀ k < 10, Nat.digitChar k = Char.ofNat (48 + k) := by decide
  have hzero : '0'.toNat = 48 := rfl
  have hnine : '9'.toNat = 57 := rfl
  have hrange := Char.isDigit_iff_toNat.mp h
  refine ⟨by omega, ?_⟩
  rw [hchar _ (by omega), show 48 + (c.toNat - '0'.toNat) = c.toNat by omega, Char.ofNat_toNat]

theorem le_foldl_digits (n : Nat) (ds : List Nat) : n ≤ ds.foldl (fun n d => n * 10 + d) n := by
  induction ds generalizing n with
  | nil => exact Nat.le_refl n
  | cons d ds ih => exact Nat.le_trans (by omega) (ih (n * 10 + d))

theorem accumulate_fits {n : Nat} {ds : List Nat}
    (h : ds.foldl (fun n d => n * 10 + d) n ≤ significandLimit) :
    accumulate n ds = (ds.foldl (fun n d => n * 10 + d) n, 0) := by
  induction ds generalizing n with
  | nil => rfl
  | cons d ds ih =>
    have hd : n * 10 + d ≤ significandLimit := Nat.le_trans (le_foldl_digits _ ds) h
    rw [accumulate, if_pos hd, ih h, List.foldl_cons]

theorem accumulate_excess {n : Nat} {ds : List Nat} (hn : n ≤ significandLimit)
    (h : significandLimit < ds.foldl (fun n d => n * 10 + d) n) : (accumulate n ds).2 ≠ 0 := by
  induction ds generalizing n with
  | nil => exact absurd h (Nat.not_lt.mpr hn)
  | cons d ds ih =>
    rw [accumulate]
    split
    · next hd => exact ih hd h
    · exact Nat.succ_ne_zero _

namespace Literal

theorem real_ne_natural (negative : Bool) (significand : Nat) (e : Int) (n : Nat) :
    real negative significand e ≠ .ok (.natural n) := by
  intro h
  unfold real at h
  split at h <;> cases h

/-- A numeral with a fraction or an exponent is a real. -/
theorem value_ne_natural {l : Literal} (h : l.fraction ≠ none ∨ l.exponent ≠ none) (n : Nat) :
    l.value ≠ .ok (.natural n) := by
  intro hvalue
  obtain ⟨negative, whole, fraction, exponent⟩ := l
  cases exponent with
  | some e =>
    simp only [value] at hvalue
    split at hvalue
    · exact real_ne_natural _ _ _ _ hvalue
    · simp only [ite_eq_iff, reduceCtorEq, Except.ok.injEq, and_false, or_self] at hvalue
  | none =>
    obtain ⟨ds, rfl⟩ := Option.ne_none_iff_exists'.mp (h.resolve_right fun h => h rfl)
    simp only [value, Option.isSome_some, true_or, if_true] at hvalue
    exact real_ne_natural _ _ _ _ hvalue

theorem value_whole (negative : Bool) (ds : List Nat) :
    (Literal.mk negative ds none none).value =
      if (accumulate 0 ds).2 ≠ 0 then real negative (accumulate 0 ds).1 (accumulate 0 ds).2
      else if !negative then .ok (.natural (accumulate 0 ds).1)
      else if (accumulate 0 ds).1 = 0 ∨ 9223372036854775808 < (accumulate 0 ds).1 then
        real true (accumulate 0 ds).1 0
      else .ok (.negative (-((accumulate 0 ds).1 : Int))) := by
  simp [value]

/-- A numeral stands for a natural number if it is written as one and fits. -/
theorem value_eq_natural_iff {l : Literal} {n : Nat} :
    l.value = .ok (.natural n) ↔ l.IsNatural n ∧ n < 2 ^ 64 := by
  by_cases hshape : l.fraction ≠ none ∨ l.exponent ≠ none
  · refine iff_of_false (value_ne_natural hshape n) fun ⟨h, _⟩ => ?_
    exact hshape.elim (fun hf => hf h.whole) (fun he => he h.plain)
  obtain ⟨negative, ds, fraction, exponent⟩ := l
  obtain ⟨rfl, rfl⟩ : fraction = none ∧ exponent = none := by simpa using hshape
  have hnatural : (Literal.mk negative ds none none).IsNatural n ↔ negative = false ∧ digitsValue ds = n :=
    ⟨fun h => ⟨h.unsigned, h.value⟩, fun h => ⟨h.1, rfl, rfl, h.2⟩⟩
  rw [value_whole, hnatural]
  by_cases hfits : digitsValue ds ≤ significandLimit
  · have hvalue : accumulate 0 ds = (digitsValue ds, 0) := accumulate_fits hfits
    have hlimit : digitsValue ds < 2 ^ 64 := by simp only [significandLimit] at hfits; omega
    simp only [hvalue, ne_eq, not_true_eq_false, if_false]
    cases negative with
    | false =>
      constructor
      · rintro ⟨⟩
        exact ⟨⟨rfl, rfl⟩, hlimit⟩
      · rintro ⟨⟨-, rfl⟩, -⟩
        rfl
    | true =>
      refine iff_of_false ?_ fun ⟨⟨h, _⟩, _⟩ => Bool.noConfusion h
      intro h
      simp only [Bool.not_true, Bool.false_eq_true, if_false] at h
      split at h
      · exact real_ne_natural _ _ _ _ h
      · cases h
  · have hexcess : (accumulate 0 ds).2 ≠ 0 := accumulate_excess (Nat.zero_le _) (Nat.not_le.mp hfits)
    rw [if_pos hexcess]
    refine iff_of_false (real_ne_natural _ _ _ _) ?_
    rintro ⟨⟨-, rfl⟩, hlimit⟩
    simp only [significandLimit] at hfits
    omega

end Literal

end Mend.Json

import Mend.Text.Blank
import Mend.Text.Decimal

/-!
# Numerals and the blanks around them

Which texts the readers of decimal numerals take, and what is left of a text without the blanks around it.

* `Decimal.digits?_eq_some_iff`, `Decimal.natural?_eq_some_iff` : the numerals of natural numbers;
* `Decimal.IsInteger`, `Decimal.integer?_eq_some_iff` : those of integers;
* `Decimal.isInteger_ofInt` : the shortest numeral is one of them;
* `exists_trimChars`, `trimChars_core` : the text between blanks.
-/

namespace Mend.Text

namespace Decimal

/-! ## Natural numbers -/

theorem digits?_eq_some_iff {cs : List Char} {n : Nat} :
    digits? cs = some n ↔ cs ≠ [] ∧ (∀ c ∈ cs, c.isDigit = true) ∧ Nat.ofDigitChars 10 cs 0 = n := by
  have hshape : (cs.isEmpty || !cs.all Char.isDigit) = true ↔ ¬(cs ≠ [] ∧ ∀ c ∈ cs, c.isDigit = true) := by
    rw [← List.all_eq_true]
    cases cs.all Char.isDigit <;> simp
  unfold digits?
  split
  · next h => exact iff_of_false nofun fun hn => hshape.mp h ⟨hn.1, hn.2.1⟩
  · next h =>
    obtain ⟨hne, hds⟩ := Classical.not_not.mp (mt hshape.mpr h)
    rw [Option.some.injEq]
    exact ⟨fun hn => ⟨hne, hds, hn⟩, fun hn => hn.2.2⟩

theorem natural?_eq_some_iff {cs : List Char} {n : Nat} :
    natural? cs = some n ↔ ∃ plus ds, (plus = [] ∨ plus = ['+']) ∧ cs = plus ++ ds ∧ ds ≠ [] ∧
      (∀ c ∈ ds, c.isDigit = true) ∧ Nat.ofDigitChars 10 ds 0 = n := by
  constructor
  · intro h
    unfold natural? at h
    split at h
    · exact ⟨['+'], _, Or.inr rfl, rfl, digits?_eq_some_iff.mp h⟩
    · exact ⟨[], _, Or.inl rfl, rfl, digits?_eq_some_iff.mp h⟩
  · rintro ⟨plus, ds, hplus, rfl, h⟩
    rcases hplus with rfl | rfl
    · have hplus : ∀ u, ds ≠ '+' :: u := by
        rintro u rfl
        exact absurd (h.2.1 '+' List.mem_cons_self) (by decide)
      unfold natural?
      split
      · next u heq => exact absurd heq (hplus u)
      · exact digits?_eq_some_iff.mpr h
    · exact digits?_eq_some_iff.mpr h

/-! ## Integers -/

/-- The numerals of an integer: digits, and at most one sign in front of them. -/
inductive IsInteger : List Char → Int → Prop
  | plain {ds : List Char} (hne : ds ≠ []) (hds : ∀ c ∈ ds, c.isDigit = true) :
    IsInteger ds (Nat.ofDigitChars 10 ds 0 : Nat)
  | plus {ds : List Char} (hne : ds ≠ []) (hds : ∀ c ∈ ds, c.isDigit = true) :
    IsInteger ('+' :: ds) (Nat.ofDigitChars 10 ds 0 : Nat)
  | minus {ds : List Char} (hne : ds ≠ []) (hds : ∀ c ∈ ds, c.isDigit = true) :
    IsInteger ('-' :: ds) (-(Nat.ofDigitChars 10 ds 0 : Nat))

theorem IsInteger.ne_nil {cs : List Char} {n : Int} (h : IsInteger cs n) : cs ≠ [] := by
  cases h with
  | plain hne hds => exact hne
  | plus hne hds => exact List.cons_ne_nil _ _
  | minus hne hds => exact List.cons_ne_nil _ _

theorem IsInteger.forall_mem {P : Char → Prop} (hdigit : ∀ c, c.isDigit = true → P c) (hplus : P '+')
    (hminus : P '-') {cs : List Char} {n : Int} (h : IsInteger cs n) : ∀ c ∈ cs, P c := by
  cases h with
  | plain hne hds => exact fun c hc => hdigit c (hds c hc)
  | plus hne hds => exact List.forall_mem_cons.mpr ⟨hplus, fun c hc => hdigit c (hds c hc)⟩
  | minus hne hds => exact List.forall_mem_cons.mpr ⟨hminus, fun c hc => hdigit c (hds c hc)⟩

theorem IsInteger.not_isBlank {cs : List Char} {n : Int} (h : IsInteger cs n) :
    ∀ c ∈ cs, isBlank c = false :=
  h.forall_mem (fun _ => not_isBlank_of_isDigit) (by decide) (by decide)

theorem integer?_minus (cs : List Char) :
    integer? ('-' :: cs) = (digits? cs).map fun n : Nat => -(n : Int) := by
  rw [integer?]
  cases digits? cs <;> rfl

theorem integer?_of_not_minus {cs : List Char} (h : ∀ ds, cs ≠ '-' :: ds) :
    integer? cs = (natural? cs).map fun n : Nat => (n : Int) := by
  rw [integer?]
  · cases natural? cs <;> rfl
  · exact h

theorem integer?_eq_some_iff {cs : List Char} {n : Int} : integer? cs = some n ↔ IsInteger cs n := by
  constructor
  · intro h
    by_cases hminus : ∃ ds, cs = '-' :: ds
    · obtain ⟨ds, rfl⟩ := hminus
      rw [integer?_minus, Option.map_eq_some_iff] at h
      obtain ⟨k, hk, rfl⟩ := h
      obtain ⟨hne, hds, rfl⟩ := digits?_eq_some_iff.mp hk
      exact .minus hne hds
    · rw [integer?_of_not_minus (not_exists.mp hminus), Option.map_eq_some_iff] at h
      obtain ⟨k, hk, rfl⟩ := h
      obtain ⟨plus, ds, rfl | rfl, rfl, hne, hds, rfl⟩ := natural?_eq_some_iff.mp hk
      · exact .plain hne hds
      · exact .plus hne hds
  · intro h
    cases h with
    | plain hne hds =>
      have hminus : ∀ ds, cs ≠ '-' :: ds := by
        rintro ds rfl
        exact absurd (hds '-' List.mem_cons_self) (by decide)
      have hvalue : natural? cs = some (Nat.ofDigitChars 10 cs 0) :=
        natural?_eq_some_iff.mpr ⟨[], cs, Or.inl rfl, rfl, hne, hds, rfl⟩
      rw [integer?_of_not_minus hminus, hvalue, Option.map_some]
    | @plus ds hne hds =>
      have hvalue : natural? ('+' :: ds) = some (Nat.ofDigitChars 10 ds 0) :=
        natural?_eq_some_iff.mpr ⟨['+'], ds, Or.inr rfl, rfl, hne, hds, rfl⟩
      rw [integer?_of_not_minus (by simp), hvalue, Option.map_some]
    | minus hne hds =>
      rw [integer?_minus, digits?_eq_some_iff.mpr ⟨hne, hds, rfl⟩, Option.map_some]

/-- The shortest numeral of an integer is a numeral of it, also of the least one of any width. -/
theorem isInteger_ofInt (n : Int) : IsInteger (ofInt n).toList n := by
  have hne (k : Nat) : Nat.toDigits 10 k ≠ [] := Nat.toDigits_ne_nil
  have hds (k : Nat) : ∀ c ∈ Nat.toDigits 10 k, c.isDigit = true :=
    fun c hc => Nat.isDigit_of_mem_toDigits (by decide) (by decide) hc
  have hvalue (k : Nat) : Nat.ofDigitChars 10 (Nat.toDigits 10 k) 0 = k :=
    Nat.ofDigitChars_toDigits (by decide) (by decide)
  cases n with
  | ofNat k =>
    have h := IsInteger.plain (hne k) (hds k)
    rw [hvalue] at h
    rw [ofInt, ofNat, String.toList_ofList]
    exact h
  | negSucc k =>
    have h := IsInteger.minus (hne (k + 1)) (hds (k + 1))
    rw [hvalue] at h
    have htext : (ofInt (.negSucc k)).toList = '-' :: Nat.toDigits 10 (k + 1) := by
      simp [ofInt, ofNat]
    rw [htext]
    exact h

end Decimal

/-! ## Blanks -/

theorem exists_trimChars (cs : List Char) :
    ∃ a b, (∀ c ∈ a, isBlank c = true) ∧ (∀ c ∈ b, isBlank c = true) ∧ cs = a ++ (trimChars cs ++ b) := by
  have hfront : ∀ ds : List Char, ∀ c ∈ ds.takeWhile isBlank, isBlank c = true :=
    fun ds => List.all_eq_true.mp List.all_takeWhile
  refine ⟨cs.takeWhile isBlank, ((cs.dropWhile isBlank).reverse.takeWhile isBlank).reverse,
    hfront cs, fun c hc => hfront _ c (List.mem_reverse.mp hc), ?_⟩
  rw [trimChars, trimEnd, ← List.reverse_append, List.takeWhile_append_dropWhile,
    List.reverse_reverse, List.takeWhile_append_dropWhile]

section Core

variable {a core b : List Char}

theorem dropWhile_core (ha : ∀ c ∈ a, isBlank c = true) (hcore : ∀ c ∈ core, isBlank c = false)
    (hne : core ≠ []) : (a ++ (core ++ b)).dropWhile isBlank = core ++ b := by
  obtain ⟨c, core, rfl⟩ := List.exists_cons_of_ne_nil hne
  have hc : ¬isBlank c = true := by simp [hcore c List.mem_cons_self]
  rw [List.dropWhile_append_of_pos ha, List.cons_append, List.dropWhile_cons_of_neg hc]

theorem trimChars_core (ha : ∀ c ∈ a, isBlank c = true) (hcore : ∀ c ∈ core, isBlank c = false)
    (hne : core ≠ []) (hb : ∀ c ∈ b, isBlank c = true) : trimChars (a ++ (core ++ b)) = core := by
  have hback : (b.reverse ++ (core.reverse ++ [])).dropWhile isBlank = core.reverse ++ [] :=
    dropWhile_core (fun c hc => hb c (List.mem_reverse.mp hc)) (fun c hc => hcore c (List.mem_reverse.mp hc))
      (by simpa using hne)
  rw [List.append_nil] at hback
  rw [trimChars, dropWhile_core ha hcore hne, trimEnd, List.reverse_append, hback, List.reverse_reverse]

end Core

end Mend.Text

import Mend.Json.Print
import Mend.Proofs.Json.Natural

/-!
# What is printed is spelled

Printed numbers, strings, arrays and objects are spellings of what they were printed from, without blanks and
with an escape only where one is needed.

* `Literal.ofNat`, `spells_ofNat` : numbers;
* `spells_quoted` : strings;
* `spells_array`, `spells_object` : arrays and objects of what is spelled;
* `Spells.text` : whole texts.
-/

namespace Mend.Json

/-! ## Numbers -/

namespace Literal

def ofNat (n : Nat) : Literal :=
  ⟨false, (Nat.toDigits 10 n).map fun c => c.toNat - '0'.toNat, none, none⟩

theorem foldl_digits (cs : List Char) (n : Nat) :
    (cs.map fun c => c.toNat - '0'.toNat).foldl (fun n d => n * 10 + d) n = Nat.ofDigitChars 10 cs n := by
  induction cs generalizing n with
  | nil => rfl
  | cons c cs ih => rw [List.map_cons, List.foldl_cons, ih, Nat.ofDigitChars_cons, Nat.mul_comm]

theorem isNatural_ofNat (n : Nat) : (ofNat n).IsNatural n :=
  ⟨rfl, rfl, rfl, (foldl_digits _ 0).trans (Nat.ofDigitChars_toDigits (by decide) (by decide))⟩

end Literal

theorem digitChar_of_mem_toDigits {n : Nat} {c : Char} (h : c ∈ Nat.toDigits 10 n) :
    c.toNat - '0'.toNat < 10 ∧ Nat.digitChar (c.toNat - '0'.toNat) = c :=
  digitChar_of_isDigit (Nat.isDigit_of_mem_toDigits (by decide) (by decide) h)

theorem digitChars_ofNat (n : Nat) : digitChars (Literal.ofNat n).whole = Nat.toDigits 10 n := by
  rw [digitChars, Literal.ofNat, List.map_map]
  exact (List.map_congr_left fun c hc => (digitChar_of_mem_toDigits hc).2).trans (List.map_id _)

/-- Only zero is printed with a zero in front. -/
theorem head?_toDigits {n : Nat} (h : 0 < n) : (Nat.toDigits 10 n).head? ≠ some '0' := by
  induction n using Nat.strongRecOn with
  | _ n ih =>
    rcases Nat.lt_or_ge n 10 with hlt | hge
    · have hdigit : ∀ d < 10, 0 < d → Nat.digitChar d ≠ '0' := by decide
      rw [Nat.toDigits_of_lt_base hlt]
      simpa using hdigit n hlt h
    · have hrest := ih (n / 10) (by omega) (by omega)
      rw [Nat.toDigits_of_base_le (by decide) hge]
      rwa [List.head?_append_of_ne_nil _ Nat.toDigits_ne_nil]

theorem spells_ofNat (n : Nat) : Spells (.number (.ofNat n)) (Text.Decimal.ofNat n).toList := by
  have hwhole : IsDigits (Literal.ofNat n).whole := by
    refine ⟨by simp [Literal.ofNat, Nat.toDigits_ne_nil], fun d hd => ?_⟩
    obtain ⟨c, hc, rfl⟩ := List.mem_map.mp hd
    exact (digitChar_of_mem_toDigits hc).1
  have hzero : (Literal.ofNat n).whole.head? = some 0 → (Literal.ofNat n).whole = [0] := by
    intro h
    rcases Nat.eq_zero_or_pos n with rfl | hpos
    · rfl
    · obtain ⟨d, ds, hds⟩ := List.exists_cons_of_ne_nil hwhole.1
      rw [hds, List.head?_cons, Option.some.injEq] at h
      refine absurd ?_ (head?_toDigits hpos)
      rw [← digitChars_ofNat, hds, h]
      rfl
  have h : SpellsNumber (.ofNat n) ([] ++ (digitChars (Literal.ofNat n).whole ++ ([] ++ []))) :=
    .mk hwhole hzero .none .none
  rw [digitChars_ofNat, List.nil_append, List.append_nil, List.append_nil] at h
  rw [Text.Decimal.ofNat, String.toList_ofList]
  exact .number h

/-! ## Strings -/

theorem spells_escapeChar (c : Char) :
    ∃ u, SpellsUnit u (escapeChar c) ∧ ∀ us cs, Denotes us cs → Denotes (u :: us) (c :: cs) := by
  unfold escapeChar
  split
  · next h => exact ⟨.char '"', .short rfl, fun us cs hus => h ▸ .char hus⟩
  split
  · next h => exact ⟨.char '\\', .short rfl, fun us cs hus => h ▸ .char hus⟩
  split
  · next h =>
    have hhigh : c.toNat / 16 < 16 := by omega
    have hlow : c.toNat % 16 < 16 := by omega
    refine ⟨_, .code (.lower (v := 0) (by decide)) (.lower (v := 0) (by decide)) (.lower hhigh) (.lower hlow),
      fun us cs hus => ?_⟩
    have hcode : 0 * 16 ^ 3 + 0 * 16 ^ 2 + c.toNat / 16 * 16 + c.toNat % 16 = c.toNat := by omega
    have hchar := Denotes.code (n := c.toNat) (Or.inl (by omega)) hus
    rw [Char.ofNat_toNat] at hchar
    rwa [hcode]
  · next hquote hescape hcontrol =>
    exact ⟨.char c, .plain hquote hescape (by omega), fun us cs hus => .char hus⟩

theorem spells_flatMap_escapeChar (cs : List Char) :
    ∃ us, SpellsUnits us (cs.flatMap escapeChar) ∧ Denotes us cs := by
  induction cs with
  | nil => exact ⟨[], .nil, .nil⟩
  | cons c cs ih =>
    obtain ⟨us, hspells, hdenotes⟩ := ih
    obtain ⟨u, hunit, hchar⟩ := spells_escapeChar c
    rw [List.flatMap_cons]
    exact ⟨u :: us, .cons hunit hspells, hchar us cs hdenotes⟩

theorem spellsString_quoted (s : String) : SpellsString (some s) (quoted s).toList := by
  obtain ⟨us, hspells, hdenotes⟩ := spells_flatMap_escapeChar s.toList
  have htext : (quoted s).toList = '"' :: s.toList.flatMap escapeChar ++ ['"'] := by simp [quoted]
  rw [htext]
  exact .text hspells hdenotes

theorem spells_quoted (s : String) : Spells (.string (some s)) (quoted s).toList :=
  .string (spellsString_quoted s)

/-! ## Arrays and objects -/

theorem blank_nil : Blank [] := nofun

theorem spellsItems_intercalate {v : Value} {vs : List Value} {t : String} {ts : List String}
    (h : Spells v t.toList) (hs : List.Forall₂ (fun v t => Spells v t.toList) vs ts) :
    SpellsItems (v :: vs) ([','].intercalate ((t :: ts).map String.toList)) := by
  induction hs generalizing v t with
  | nil =>
    have hitems := SpellsItems.one blank_nil h blank_nil
    simpa using hitems
  | cons hnext _ ih =>
    have hitems := SpellsItems.more blank_nil h blank_nil (ih hnext)
    simpa [List.intercalate_cons_cons] using hitems

theorem spells_array {vs : List Value} {ts : List String}
    (h : List.Forall₂ (fun v t => Spells v t.toList) vs ts) : Spells (.array vs) (array ts).toList := by
  have htext : (array ts).toList = '[' :: ([','].intercalate (ts.map String.toList) ++ [']']) := by
    simp [array, String.toList_intercalate]
  rw [htext]
  cases h with
  | nil => exact .emptyArray blank_nil
  | cons h hs => exact .array (spellsItems_intercalate h hs)

/-- A printed entry: its key, a colon and its value. -/
def SpellsEntry (field : Option String × Value) (t : String) : Prop :=
  ∃ ks cs, SpellsString field.1 ks ∧ Spells field.2 cs ∧ t.toList = ks ++ ':' :: cs

theorem spellsEntry_quoted (k : String) {v : Value} {t : String} (h : Spells v t.toList) :
    SpellsEntry (some k, v) (quoted k ++ ":" ++ t) :=
  ⟨_, _, spellsString_quoted k, h, by simp⟩

theorem spellsFields_intercalate {field : Option String × Value} {fields : List (Option String × Value)}
    {t : String} {ts : List String} (h : SpellsEntry field t) (hs : List.Forall₂ SpellsEntry fields ts) :
    SpellsFields (field :: fields) ([','].intercalate ((t :: ts).map String.toList)) := by
  induction hs generalizing field t with
  | nil =>
    obtain ⟨ks, cs, hk, hv, ht⟩ := h
    have hfields := SpellsFields.one blank_nil hk blank_nil blank_nil hv blank_nil
    simpa [ht] using hfields
  | cons hnext _ ih =>
    obtain ⟨ks, cs, hk, hv, ht⟩ := h
    have hfields := SpellsFields.more blank_nil hk blank_nil blank_nil hv blank_nil (ih hnext)
    simpa [List.intercalate_cons_cons, ht] using hfields

theorem spells_object {fields : List (Option String × Value)} {ts : List String}
    (h : List.Forall₂ SpellsEntry fields ts) :
    Spells (.object fields) ("\x7b" ++ ",".intercalate ts ++ "\x7d").toList := by
  have htext : ("\x7b" ++ ",".intercalate ts ++ "\x7d").toList =
      '\x7b' :: ([','].intercalate (ts.map String.toList) ++ ['\x7d']) := by
    simp [String.toList_intercalate]
  rw [htext]
  cases h with
  | nil => exact .emptyObject blank_nil
  | cons h hs => exact .object (spellsFields_intercalate h hs)

theorem Spells.text {v : Value} {s : String} (h : Spells v s.toList) : SpellsText v s :=
  ⟨[], s.toList, [], blank_nil, h, blank_nil, by simp⟩

end Mend.Json

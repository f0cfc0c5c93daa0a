import Mathlib.Algebra.Group.Nat.Defs
import Mend.Proofs.Patch.Meaning

/-!
# The size of a choice

How many combinations a choice has is known before any of them is expanded. The number is kept up to a
limit, and the limit may be reached at every node of the tree; a factor of zero still wins.

* `size` : the number of combinations, without a limit; `count_eq` : the count is the size up to the limit;
* `length_meaning_le` : repetitions only make the candidates fewer;
* `length_meaning_of_isPlain` : without sequences there are none to drop;
* `length_meaning_eq_zero_iff` : dropping repetitions empties nothing;
* `count_stream` : the count and the stream.
-/

namespace Mend.Patch.Choice

/-! ## The number of combinations -/

mutual

/-- The number of combinations, however large. A sequence without members has none. -/
def size : Choice → Nat
  | .leaves texts => texts.length
  | .binary lhs rhs operators => lhs.size * rhs.size * operators.length
  | .wrap inner _ _ => inner.size
  | .guarded condition block => condition.size * block.size
  | .sequence members => if members.isEmpty then 0 else sizeAll members

def sizeAll : List Choice → Nat
  | [] => 1
  | c :: cs => c.size * sizeAll cs

end

/-- Whether a choice holds no sequence. -/
def isPlain : Choice → Bool
  | .leaves _ => true
  | .binary lhs rhs _ => lhs.isPlain && rhs.isPlain
  | .wrap inner _ _ => inner.isPlain
  | .guarded condition block => condition.isPlain && block.isPlain
  | .sequence _ => false

/-! ## The limit -/

/-- A factor that has been cut at the limit may as well be the whole one. -/
theorem saturatingMul_min_left (a b : Nat) :
    saturatingMul (min a countLimit) b = min (a * b) countLimit := by
  unfold saturatingMul
  rcases Nat.le_total a countLimit with ha | ha
  · rw [Nat.min_eq_left ha]
  · rw [Nat.min_eq_right ha]
    -- both products are past the limit, unless the other factor is zero
    rcases Nat.eq_zero_or_pos b with rfl | hb
    · simp
    · have hcut : countLimit ≤ countLimit * b := Nat.le_mul_of_pos_right _ hb
      have hwhole : countLimit ≤ a * b := Nat.le_trans ha (Nat.le_mul_of_pos_right _ hb)
      rw [Nat.min_eq_right hcut, Nat.min_eq_right hwhole]

theorem saturatingMul_min (a b : Nat) :
    saturatingMul (min a countLimit) (min b countLimit) = min (a * b) countLimit := by
  rw [saturatingMul_min_left, Nat.mul_comm, ← saturatingMul, saturatingMul_min_left, Nat.mul_comm]

mutual

theorem count_eq : ∀ c : Choice, c.count = min c.size countLimit
  | .leaves texts => by rw [count, size]
  | .binary lhs rhs operators => by
    rw [count, size, count_eq lhs, count_eq rhs, saturatingMul_min, saturatingMul_min_left]
  | .wrap inner _ _ => by rw [count, size, count_eq inner]
  | .guarded condition block => by
    rw [count, size, count_eq condition, count_eq block, saturatingMul_min]
  | .sequence [] => by
    rw [count, size]
    rfl
  | .sequence (c :: cs) => by
    have hone : countAll (min 1 countLimit) (c :: cs) = min (1 * sizeAll (c :: cs)) countLimit :=
      countAll_eq 1 (c :: cs)
    rw [count, size]
    rw [Nat.one_mul] at hone
    exact hone

/-- The running product over members is cut at every step, and so is the product of all. -/
theorem countAll_eq : ∀ (n : Nat) (cs : List Choice),
    countAll (min n countLimit) cs = min (n * sizeAll cs) countLimit
  | n, [] => by rw [countAll, sizeAll, Nat.mul_one]
  | n, c :: cs => by
    rw [countAll, sizeAll, count_eq c, saturatingMul_min, countAll_eq (n * c.size) cs, Nat.mul_assoc]

end

/-! ## The number of candidates -/

theorem length_firstOccurrences_le (seen xs : List String) :
    (firstOccurrences seen xs).length ≤ xs.length := by
  fun_induction firstOccurrences seen xs with
  | case1 seen => exact Nat.le_refl 0
  | case2 seen x xs _ ih => exact Nat.le_succ_of_le ih
  | case3 seen x xs _ ih => exact Nat.succ_le_succ ih

theorem firstOccurrences_eq_nil_iff (xs : List String) : firstOccurrences [] xs = [] ↔ xs = [] := by
  cases xs with
  | nil => simp [firstOccurrences]
  | cons x xs => simp [firstOccurrences]

theorem length_flatMap_of_const {β : Type} {f : String → List β} {n : Nat} (xs : List String)
    (h : ∀ x, (f x).length = n) : (xs.flatMap f).length = xs.length * n := by
  induction xs with
  | nil => simp
  | cons x xs ih =>
    rw [List.flatMap_cons, List.length_append, ih, h, List.length_cons, Nat.succ_mul, Nat.add_comm]

theorem length_meaning_binary (lhs rhs : Choice) (operators : List String) :
    (binary lhs rhs operators).meaning.length =
      lhs.meaning.length * rhs.meaning.length * operators.length := by
  rw [meaning, Nat.mul_assoc]
  refine length_flatMap_of_const _ fun x => length_flatMap_of_const _ fun y => ?_
  rw [List.length_map]

theorem length_meaning_guarded (condition block : Choice) :
    (guarded condition block).meaning.length = condition.meaning.length * block.meaning.length := by
  rw [meaning]
  refine length_flatMap_of_const _ fun x => ?_
  rw [List.length_map]

theorem length_selections_cons (xs : List String) (rest : List (List String)) :
    (selections (xs :: rest)).length = xs.length * (selections rest).length := by
  rw [selections]
  refine length_flatMap_of_const _ fun x => ?_
  rw [List.length_map]

/-- The members of a sequence that is not empty are combined in as many ways as there are selections. -/
theorem length_combine_meanings (c : Choice) (cs : List Choice) :
    (combine (meanings (c :: cs))).length = (selections (meanings (c :: cs))).length := by
  rw [combine, meanings, if_neg (by simp), List.length_map]

mutual

theorem length_meaning_le : ∀ c : Choice, c.meaning.length ≤ c.size
  | .leaves texts => Nat.le_of_eq (by rw [meaning, size])
  | .binary lhs rhs operators => by
    rw [length_meaning_binary, size]
    exact Nat.mul_le_mul_right _ (Nat.mul_le_mul (length_meaning_le lhs) (length_meaning_le rhs))
  | .wrap inner _ _ => by
    rw [meaning, size, List.length_map]
    exact length_meaning_le inner
  | .guarded condition block => by
    rw [length_meaning_guarded, size]
    exact Nat.mul_le_mul (length_meaning_le condition) (length_meaning_le block)
  | .sequence [] => by simp [meaning, meanings, combine, firstOccurrences]
  | .sequence (c :: cs) => by
    have hfirst := length_firstOccurrences_le [] (combine (meanings (c :: cs)))
    rw [length_combine_meanings] at hfirst
    rw [meaning, size]
    exact Nat.le_trans hfirst (length_selections_le (c :: cs))

theorem length_selections_le : ∀ cs : List Choice, (selections (meanings cs)).length ≤ sizeAll cs
  | [] => by simp [meanings, selections, sizeAll]
  | c :: cs => by
    rw [meanings, length_selections_cons, sizeAll]
    exact Nat.mul_le_mul (length_meaning_le c) (length_selections_le cs)

end

/-- Only a sequence drops candidates. -/
theorem length_meaning_of_isPlain (c : Choice) (h : c.isPlain = true) : c.meaning.length = c.size := by
  fun_induction isPlain c with
  | case1 texts => rw [meaning, size]
  | case2 lhs rhs operators ihl ihr =>
    obtain ⟨hl, hr⟩ := Bool.and_eq_true_iff.mp h
    rw [length_meaning_binary, size, ihl hl, ihr hr]
  | case3 inner _ _ ih => rw [meaning, size, List.length_map, ih h]
  | case4 condition block ihc ihb =>
    obtain ⟨hc, hb⟩ := Bool.and_eq_true_iff.mp h
    rw [length_meaning_guarded, size, ihc hc, ihb hb]
  | case5 members => cases h

mutual

theorem length_meaning_eq_zero_iff : ∀ c : Choice, c.meaning.length = 0 ↔ c.size = 0
  | .leaves texts => by rw [meaning, size]
  | .binary lhs rhs operators => by
    rw [length_meaning_binary, size, Nat.mul_eq_zero, Nat.mul_eq_zero, Nat.mul_eq_zero, Nat.mul_eq_zero,
      length_meaning_eq_zero_iff lhs, length_meaning_eq_zero_iff rhs]
  | .wrap inner _ _ => by rw [meaning, size, List.length_map, length_meaning_eq_zero_iff inner]
  | .guarded condition block => by
    rw [length_meaning_guarded, size, Nat.mul_eq_zero, Nat.mul_eq_zero,
      length_meaning_eq_zero_iff condition, length_meaning_eq_zero_iff block]
  | .sequence [] => by simp [meaning, meanings, combine, firstOccurrences, size]
  | .sequence (c :: cs) => by
    have hall := length_selections_eq_zero_iff (c :: cs)
    rw [← length_combine_meanings] at hall
    rw [meaning, size, List.length_eq_zero_iff, firstOccurrences_eq_nil_iff, ← List.length_eq_zero_iff]
    exact hall

theorem length_selections_eq_zero_iff : ∀ cs : List Choice,
    (selections (meanings cs)).length = 0 ↔ sizeAll cs = 0
  | [] => by simp [meanings, selections, sizeAll]
  | c :: cs => by
    rw [meanings, length_selections_cons, sizeAll, Nat.mul_eq_zero, Nat.mul_eq_zero,
      length_meaning_eq_zero_iff c, length_selections_eq_zero_iff cs]

end

/-! ## The count and the stream -/

theorem isEmpty_iff_toList (s : Candidates) : s.isEmpty = true ↔ s.toList = [] := by
  cases s with
  | done => simp [Candidates.isEmpty]
  | next x rest => simp [Candidates.isEmpty]

theorem count_eq_zero_iff (c : Choice) : c.count = 0 ↔ c.size = 0 := by
  have hpos : 0 < countLimit := by decide
  rw [count_eq]
  omega

/-- The count is the number of combinations up to the limit. No more candidates than combinations come out
of the stream, and exactly as many if there is no sequence. The count is zero exactly if the stream is
empty, and then nothing comes out of it. -/
theorem count_stream (c : Choice) :
    c.count = min c.size (2 ^ 64 - 1) ∧ c.stream.toList.length ≤ c.size ∧
      (c.isPlain = true → c.stream.toList.length = c.size) ∧
      (c.count = 0 ↔ c.stream.isEmpty = true) ∧ (c.stream.isEmpty = true ↔ c.stream.toList = []) := by
  rw [isEmpty_iff_toList, toList_stream]
  refine ⟨count_eq c, length_meaning_le c, length_meaning_of_isPlain c, ?_, Iff.rfl⟩
  rw [count_eq_zero_iff, ← length_meaning_eq_zero_iff, List.length_eq_zero_iff]

/-- Two texts, paired with themselves over and over. -/
def doubled : Nat → Choice
  | 0 => .leaves ["a", "b"]
  | n + 1 => .binary (doubled n) (doubled n) ["+"]

/-- A stream that is too long for its count, and too long to be read. -/
theorem count_stream_doubled :
    (doubled 7).isPlain = true ∧ (doubled 7).count = 2 ^ 64 - 1 ∧
      (doubled 7).stream.toList.length = 2 ^ 128 := by
  have hsize : (doubled 7).size = 2 ^ 128 := by decide +kernel
  obtain ⟨hcount, -, hplain, -, -⟩ := count_stream (doubled 7)
  rw [hsize] at hcount hplain
  exact ⟨rfl, hcount, hplain rfl⟩

end Mend.Patch.Choice

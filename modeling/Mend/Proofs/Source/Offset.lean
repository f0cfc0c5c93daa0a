import Mathlib.Data.String.Basic
import Mend.Proofs.Source.Coordinate
import Mend.Source.Splice

/-!
# Byte offsets of coordinates

A coordinate is looked up by counting lines and then bytes of one of them. What is found is the character
that has the coordinate behind the text before it, so the order of offsets is the order of coordinates.

* `dropBytes_append`, `takeBytes_append`, `beginsChar_iff` : texts cut by bytes;
* `pieces_eq`, `total_take_lines` : the lines of a text and the pieces between its line feeds;
* `PlacedAt` : a character by its piece; `StandsAt` : a character by the text before it;
* `offset_eq_ok_iff_placedAt`, `offset_eq_ok_iff` : what the offset of a coordinate is, in both terms;
* `StandsAt.le_iff` : offsets grow along with coordinates.
-/

namespace Mend.Source

/-! ## Bytes of a text -/

@[simp] theorem byteLength_nil : byteLength [] = 0 := rfl

@[simp] theorem byteLength_cons (x : Char) (cs : List Char) :
    byteLength (x :: cs) = x.utf8Size + byteLength cs := rfl

@[simp] theorem byteLength_append (as bs : List Char) :
    byteLength (as ++ bs) = byteLength as + byteLength bs :=
  total_append Char.utf8Size as bs

theorem byteLength_eq_utf8Len (cs : List Char) : byteLength cs = String.utf8Len cs := by
  induction cs with
  | nil => rfl
  | cons x cs ih => rw [byteLength_cons, String.utf8Len_cons, ih, Nat.add_comm]

theorem takeBytes_append_dropBytes (n : Nat) (cs : List Char) : takeBytes n cs ++ dropBytes n cs = cs := by
  induction cs generalizing n with
  | nil => rfl
  | cons x cs ih =>
    rw [takeBytes, dropBytes]
    split
    · rw [List.cons_append, ih]
    · rfl

theorem dropBytes_append (as bs : List Char) : dropBytes (byteLength as) (as ++ bs) = bs := by
  induction as with
  | nil =>
    cases bs with
    | nil => rfl
    | cons x bs => exact if_neg (Nat.not_le.mpr x.utf8Size_pos)
  | cons x as ih =>
    rw [List.cons_append, dropBytes, byteLength_cons, if_pos (Nat.le_add_right _ _),
      Nat.add_sub_cancel_left, ih]

theorem takeBytes_append (as bs : List Char) : takeBytes (byteLength as) (as ++ bs) = as := by
  have h := takeBytes_append_dropBytes (byteLength as) (as ++ bs)
  rw [dropBytes_append] at h
  exact List.append_cancel_right h

theorem charBytes_append (as : List Char) (x : Char) (bs : List Char) :
    charBytes (byteLength as) (as ++ x :: bs) = x.utf8Size := by
  rw [charBytes, dropBytes_append]
  rfl

theorem beginsChar_iff {n : Nat} {cs : List Char} :
    beginsChar n cs = true ↔ ∃ before x after, cs = before ++ x :: after ∧ byteLength before = n := by
  rw [beginsChar, Bool.and_eq_true, decide_eq_true_iff, beq_iff_eq]
  constructor
  · rintro ⟨hlt, htake⟩
    have hcs := takeBytes_append_dropBytes n cs
    cases hrest : dropBytes n cs with
    | nil =>
      rw [hrest, List.append_nil] at hcs
      rw [hcs] at htake
      omega
    | cons x after => exact ⟨takeBytes n cs, x, after, by rw [← hrest, hcs], htake⟩
  · rintro ⟨before, x, after, rfl, rfl⟩
    have hpos := x.utf8Size_pos
    rw [takeBytes_append, byteLength_append, byteLength_cons]
    exact ⟨by omega, rfl⟩

/-! ## Lines of a text -/

theorem body_cons {x : Char} (hx : x ≠ '\n') (line : List Char) : body (x :: line) = x :: body line := by
  cases line with
  | nil => simp [body, hx]
  | cons y line =>
    unfold body
    rw [List.getLast?_cons_cons]
    split <;> rfl

/-- The pieces of a text between its line feeds. -/
def pieces (cs : List Char) : List (List Char) := cs.splitOn '\n'

theorem pieces_newline (cs : List Char) : pieces ('\n' :: cs) = [] :: pieces cs :=
  List.splitOn_cons_eq_if_modifyHead _ _

theorem exists_pieces_cons {x : Char} (hx : x ≠ '\n') (cs : List Char) :
    ∃ p ps, pieces cs = p :: ps ∧ pieces (x :: cs) = (x :: p) :: ps := by
  obtain ⟨p, ps, hps⟩ := List.exists_cons_of_ne_nil (List.splitOn_ne_nil '\n' cs)
  refine ⟨p, ps, hps, ?_⟩
  rw [pieces, List.splitOn_cons_eq_if_modifyHead, if_neg (by simpa using hx), hps]
  rfl

/-- The pieces of a text are its lines without their line feeds, but for an empty one at the end. -/
theorem pieces_eq (cs : List Char) :
    pieces cs = (lines cs).map body ∨ pieces cs = (lines cs).map body ++ [[]] := by
  fun_induction lines cs with
  | case1 => exact Or.inr rfl
  | case2 cs ih =>
    rw [pieces_newline]
    exact ih.imp (congrArg ([] :: ·)) (congrArg ([] :: ·))
  | case3 x cs hx hnil ih =>
    obtain ⟨p, ps, hps, hcons⟩ := exists_pieces_cons hx cs
    rw [hnil, hps] at ih
    rw [hcons]
    rcases ih with ih | ih
    · cases ih
    · cases ih
      exact Or.inl (by rw [List.map_singleton, body_cons hx]; rfl)
  | case4 x cs hx l ls hlines ih =>
    obtain ⟨p, ps, hps, hcons⟩ := exists_pieces_cons hx cs
    rw [hlines, hps, List.map_cons, List.cons_append, List.cons.injEq, List.cons.injEq] at ih
    rw [hcons, List.map_cons, body_cons hx, List.cons_append]
    exact ih.imp (fun ⟨hp, hps⟩ => by rw [hp, hps]) (fun ⟨hp, hps⟩ => by rw [hp, hps])

/-- A line that is followed by another one has a line feed behind its piece. -/
theorem total_take_lines (cs : List Char) {i : Nat} (hi : i < (lines cs).length) :
    total byteLength ((lines cs).take i) = total (byteLength · + 1) ((pieces cs).take i) := by
  fun_induction lines cs generalizing i with
  | case1 => cases hi
  | case2 cs ih =>
    cases i with
    | zero => rfl
    | succ i =>
      rw [pieces_newline, List.take_succ_cons, List.take_succ_cons, total_cons, total_cons,
        ih (Nat.lt_of_succ_lt_succ hi)]
      rfl
  | case3 x cs hx hnil ih =>
    obtain rfl : i = 0 := Nat.lt_one_iff.mp hi
    rfl
  | case4 x cs hx l ls hlines ih =>
    cases i with
    | zero => rfl
    | succ i =>
      obtain ⟨p, ps, hps, hcons⟩ := exists_pieces_cons hx cs
      have hrest := ih (i := i + 1) (by rw [hlines]; exact hi)
      rw [hlines, hps] at hrest
      rw [hcons]
      simp only [List.take_succ_cons, total_cons, byteLength_cons] at hrest ⊢
      omega

/-! ## Where a coordinate stands -/

/-- In piece `i` of a text a character begins at byte `j`, and `n` bytes of the text stand before it. -/
def PlacedAt (cs : List Char) (i j n : Nat) : Prop :=
  ∃ before x after, (pieces cs)[i]? = some (before ++ x :: after) ∧ byteLength before = j ∧
    total (byteLength · + 1) ((pieces cs).take i) + j = n

theorem getElem?_pieces {cs : List Char} {i : Nat} {text : List Char} (htext : text ≠ []) :
    (pieces cs)[i]? = some text ↔ ∃ line, (lines cs)[i]? = some line ∧ body line = text := by
  rw [← Option.map_eq_some_iff, ← List.getElem?_map]
  rcases pieces_eq cs with h | h
  · rw [h]
  · rw [h, List.getElem?_append]
    split
    · rfl
    · next hi =>
      rw [List.getElem?_eq_none (Nat.not_lt.mp hi)]
      -- only the empty piece at the end is no line
      refine ⟨fun hempty => absurd ?_ htext, nofun⟩
      exact List.mem_singleton.mp (List.mem_of_getElem? hempty)

/-- The offset of a coordinate is found by the piece that its line names. -/
theorem offset_eq_ok_iff_placedAt {cs : List Char} {p : Coordinate} {n : Nat} :
    offset cs p.line p.column = .ok n ↔ ∃ i j, PlacedAt cs i j n ∧ p = ⟨i + 1, j + 1⟩ := by
  obtain ⟨line, column⟩ := p
  constructor
  · intro h
    unfold offset at h
    split at h
    · cases h
    · next hone =>
      obtain ⟨i, rfl⟩ := Nat.exists_eq_add_one_of_ne_zero (not_or.mp hone).1
      obtain ⟨j, rfl⟩ := Nat.exists_eq_add_one_of_ne_zero (not_or.mp hone).2
      split at h
      · cases h
      · next text htext =>
        split at h
        · next hbegins =>
          obtain ⟨before, x, after, hbody, hj⟩ := beginsChar_iff.mp hbegins
          have hpiece := (getElem?_pieces (by simp)).mpr ⟨text, htext, hbody⟩
          obtain ⟨hi, -⟩ := List.getElem?_eq_some_iff.mp htext
          rw [total_take_lines cs hi] at h
          exact ⟨i, j, ⟨before, x, after, hpiece, hj, Except.ok.inj h⟩, rfl⟩
        · cases h
  · rintro ⟨i, j, ⟨before, x, after, hpiece, rfl, rfl⟩, hp⟩
    cases hp
    obtain ⟨text, htext, hbody⟩ := (getElem?_pieces (by simp)).mp hpiece
    obtain ⟨hi, -⟩ := List.getElem?_eq_some_iff.mp htext
    have hbegins := beginsChar_iff.mpr ⟨before, x, after, hbody, rfl⟩
    unfold offset
    rw [if_neg (by simp), Nat.add_sub_cancel, htext]
    dsimp only
    rw [Nat.add_sub_cancel, if_pos hbegins, total_take_lines cs hi]

theorem placedAt_newline {cs : List Char} {i j n : Nat} :
    PlacedAt ('\n' :: cs) i j n ↔ ∃ i' m, PlacedAt cs i' j m ∧ i = i' + 1 ∧ n = 1 + m := by
  unfold PlacedAt
  rw [pieces_newline]
  constructor
  · rintro ⟨before, x, after, hpiece, hj, hn⟩
    cases i with
    | zero => simp at hpiece
    | succ i =>
      rw [List.take_succ_cons, total_cons, byteLength_nil] at hn
      exact ⟨i, _, ⟨before, x, after, hpiece, hj, rfl⟩, rfl, by omega⟩
  · rintro ⟨i', m, ⟨before, x, after, hpiece, hj, hm⟩, rfl, hn⟩
    refine ⟨before, x, after, hpiece, hj, ?_⟩
    rw [List.take_succ_cons, total_cons, byteLength_nil]
    omega

theorem placedAt_cons {x : Char} (hx : x ≠ '\n') {cs : List Char} {i j n : Nat} :
    PlacedAt (x :: cs) i j n ↔ (i = 0 ∧ j = 0 ∧ n = 0) ∨
      ∃ j' m, PlacedAt cs i j' m ∧ j = (if i = 0 then x.utf8Size else 0) + j' ∧ n = x.utf8Size + m := by
  obtain ⟨p, ps, hps, hcons⟩ := exists_pieces_cons hx cs
  unfold PlacedAt
  rw [hps, hcons]
  cases i with
  | zero =>
    simp only [List.getElem?_cons_zero, Option.some.injEq, List.take_zero, total_nil, Nat.zero_add, if_true,
      true_and]
    constructor
    · rintro ⟨before, y, after, hpiece, rfl, rfl⟩
      cases before with
      | nil => exact Or.inl ⟨rfl, rfl⟩
      | cons z before =>
        cases hpiece
        exact Or.inr ⟨_, _, ⟨before, y, after, rfl, rfl, rfl⟩, rfl, rfl⟩
    · rintro (⟨rfl, rfl⟩ | ⟨_, _, ⟨before, y, after, rfl, rfl, rfl⟩, rfl, rfl⟩)
      · exact ⟨[], x, p, rfl, rfl, rfl⟩
      · exact ⟨x :: before, y, after, rfl, rfl, rfl⟩
  | succ i =>
    simp only [List.getElem?_cons_succ, List.take_succ_cons, total_cons, byteLength_cons, Nat.succ_ne_zero,
      false_and, false_or, if_false, Nat.zero_add]
    constructor
    · rintro ⟨before, y, after, hpiece, hj, hn⟩
      exact ⟨j, _, ⟨before, y, after, hpiece, hj, rfl⟩, rfl, by omega⟩
    · rintro ⟨_, m, ⟨before, y, after, hpiece, hj, hm⟩, rfl, hn⟩
      exact ⟨before, y, after, hpiece, hj, by omega⟩

/-- In a text that starts at `c` a character other than a line feed stands at `p`, behind `n` bytes. -/
def StandsAt (c : Coordinate) (cs : List Char) (p : Coordinate) (n : Nat) : Prop :=
  ∃ before x after, cs = before ++ x :: after ∧ x ≠ '\n' ∧ c.past before = p ∧ byteLength before = n

theorem standsAt_cons {c : Coordinate} {x : Char} {cs : List Char} {p : Coordinate} {n : Nat} :
    StandsAt c (x :: cs) p n ↔
      (x ≠ '\n' ∧ c = p ∧ n = 0) ∨ ∃ m, StandsAt (c.advance x) cs p m ∧ n = x.utf8Size + m := by
  constructor
  · rintro ⟨before, y, after, hcs, hy, hp, rfl⟩
    cases before with
    | nil =>
      cases hcs
      exact Or.inl ⟨hy, hp, rfl⟩
    | cons z before =>
      cases hcs
      exact Or.inr ⟨_, ⟨before, y, after, rfl, hy, hp, rfl⟩, rfl⟩
  · rintro (⟨hx, hp, rfl⟩ | ⟨_, ⟨before, y, after, rfl, hy, hp, rfl⟩, rfl⟩)
    · exact ⟨[], x, cs, rfl, hx, hp, rfl⟩
    · exact ⟨x :: before, y, after, rfl, hy, hp, rfl⟩

/-- The piece a character stands in and the text before it give the same place. -/
theorem exists_placedAt_iff {cs : List Char} {n : Nat} {c p : Coordinate} :
    (∃ i j, PlacedAt cs i j n ∧ c.shift i j = p) ↔ StandsAt c cs p n := by
  -- the start moves over the first character along with the text
  induction cs generalizing c n with
  | nil => simp [PlacedAt, pieces, StandsAt, List.getElem?_singleton]
  | cons x cs ih =>
    rw [standsAt_cons]
    constructor
    · rintro ⟨i, j, hplaced, rfl⟩
      by_cases hx : x = '\n'
      · subst hx
        obtain ⟨i, m, hrest, rfl, rfl⟩ := placedAt_newline.mp hplaced
        exact Or.inr ⟨m, ih.mp ⟨i, j, hrest, c.shift_newline i j⟩, rfl⟩
      · obtain ⟨rfl, rfl, rfl⟩ | ⟨j, m, hrest, rfl, rfl⟩ := (placedAt_cons hx).mp hplaced
        · exact Or.inl ⟨hx, rfl, rfl⟩
        · exact Or.inr ⟨m, ih.mp ⟨i, j, hrest, Coordinate.shift_advance hx c i j⟩, rfl⟩
    · rintro (⟨hx, rfl, rfl⟩ | ⟨m, hstands, rfl⟩)
      · exact ⟨0, 0, (placedAt_cons hx).mpr (Or.inl ⟨rfl, rfl, rfl⟩), rfl⟩
      · obtain ⟨i, j, hplaced, rfl⟩ := ih.mpr hstands
        by_cases hx : x = '\n'
        · subst hx
          exact ⟨i + 1, j, placedAt_newline.mpr ⟨i, m, hplaced, rfl, rfl⟩, (c.shift_newline i j).symm⟩
        · exact ⟨i, _, (placedAt_cons hx).mpr (Or.inr ⟨j, m, hplaced, rfl, rfl⟩),
            (Coordinate.shift_advance hx c i j).symm⟩

/-- A coordinate has an offset if a character other than a line feed stands there, and it is the number of
bytes before the character. -/
theorem offset_eq_ok_iff {cs : List Char} {p : Coordinate} {n : Nat} :
    offset cs p.line p.column = .ok n ↔ StandsAt .first cs p n := by
  rw [offset_eq_ok_iff_placedAt, ← exists_placedAt_iff]
  simp only [Coordinate.shift_first, eq_comm]

/-! ## Offsets in order -/

theorem byteLength_lt_append (as : List Char) {bs : List Char} (h : bs ≠ []) :
    byteLength as < byteLength (as ++ bs) := by
  obtain ⟨x, bs, rfl⟩ := List.exists_cons_of_ne_nil h
  have hpos := x.utf8Size_pos
  rw [byteLength_append, byteLength_cons]
  omega

/-- Of two beginnings of a text, the one with fewer bytes is a beginning of the other. -/
theorem prefix_of_byteLength_le {as bs cs : List Char} (ha : as <+: cs) (hb : bs <+: cs)
    (h : byteLength as ≤ byteLength bs) : as <+: bs := by
  obtain hab | ⟨rest, rfl⟩ := List.prefix_or_prefix_of_prefix ha hb
  · exact hab
  · by_cases hrest : rest = []
    · exact ⟨[], by rw [hrest, List.append_nil, List.append_nil]⟩
    · exact absurd (byteLength_lt_append bs hrest) (Nat.not_lt.mpr h)

/-- Offsets grow along with coordinates. -/
theorem StandsAt.le_iff {c : Coordinate} {cs : List Char} {p q : Coordinate} {m n : Nat}
    (hp : StandsAt c cs p m) (hq : StandsAt c cs q n) : m ≤ n ↔ p.le q = true := by
  obtain ⟨as, x, as', ha, -, rfl, rfl⟩ := hp
  obtain ⟨bs, y, bs', hb, -, rfl, rfl⟩ := hq
  constructor
  · intro hle
    obtain ⟨rest, rfl⟩ := prefix_of_byteLength_le ⟨_, ha.symm⟩ ⟨_, hb.symm⟩ hle
    rw [Coordinate.past_append]
    exact Coordinate.le_past _ rest
  · intro hle
    by_contra hlt
    obtain ⟨rest, rfl⟩ := prefix_of_byteLength_le ⟨_, hb.symm⟩ ⟨_, ha.symm⟩ (by omega)
    have hrest : rest ≠ [] := by
      rintro rfl
      simp at hlt
    rw [Coordinate.past_append] at hle
    exact Coordinate.not_before_of_le hle (Coordinate.before_past _ hrest)

end Mend.Source

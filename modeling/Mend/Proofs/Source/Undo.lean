import Mathlib.Data.List.DropRight
import Mend.Proofs.Source.Splice

/-!
# Taking a replacement back

What a span selects is a piece of the text with a beginning in front of it and an end behind it. Only the
piece is replaced, so that putting it back restores the text. Where the replacement itself stands follows
from where it starts and from its own line feeds and bytes.

* `Coordinate.past_eq` : the coordinate behind a text, by its line feeds and its last line;
* `selected` : the text that a span selects;
* `Covers` : a span and the piece of a text that it selects; `Selects.exists_covers` : there is one;
* `Covers.splice_eq`, `Covers.selected_eq` : what is replaced;
* `Span.ofText`, `covers_ofText` : the span of a text that starts at a coordinate;
* `splice_undo` : a replacement is taken back at its own span.
-/

namespace Mend

/-- Behind a text the line has moved by its line feeds, and the columns count from the last of them. -/
theorem Coordinate.past_eq (c : Coordinate) (text : List Char) :
    c.past text = ⟨c.line + text.count '\n',
      if '\n' ∈ text then 1 + Source.byteLength (text.rtakeWhile (· ≠ '\n'))
      else c.column + Source.byteLength text⟩ := by
  induction text using List.reverseRecOn with
  | nil => simp
  | append_singleton text x ih =>
    rw [past_append, ih, past_cons, past_nil, advance]
    by_cases hx : x = '\n'
    · subst hx
      rw [if_pos rfl, List.rtakeWhile_concat_neg _ _ _ (by simp)]
      simp [Nat.add_assoc]
    · rw [if_neg hx, List.rtakeWhile_concat_pos _ _ _ (by simpa using hx)]
      have hmem : '\n' ∈ text ++ [x] ↔ '\n' ∈ text := by simp [Ne.symm hx]
      simp only [hmem, List.count_append, List.count_singleton, beq_iff_eq, hx, if_false, Nat.add_zero,
        Source.byteLength_append]
      split <;> simp [Nat.add_assoc]

/-- The span of a text that starts at `c` and does not end with a line feed: it ends on the line of the last
character, in the column of its first byte. -/
def Span.ofText (c : Coordinate) (text : List Char) : Span where
  startLine := c.line
  startColumn := c.column
  endLine := c.line + text.count '\n'
  endColumn :=
    if '\n' ∈ text then 1 + Source.byteLength (text.rtakeWhile (· ≠ '\n')).dropLast
    else c.column + Source.byteLength text.dropLast

theorem Span.stop_ofText (c : Coordinate) (rest : List Char) {x : Char} (hx : x ≠ '\n') :
    (Span.ofText c (rest ++ [x])).stop = c.past rest := by
  have hmem : '\n' ∈ rest ++ [x] ↔ '\n' ∈ rest := by simp [Ne.symm hx]
  rw [Coordinate.past_eq, ofText, stop, List.rtakeWhile_concat_pos _ _ _ (by simpa using hx)]
  simp only [hmem, List.count_append, List.count_singleton, beq_iff_eq, hx, if_false, Nat.add_zero,
    List.dropLast_concat]

namespace Source

def selected (content : String) (span : Span) : String :=
  String.Pos.Raw.extract content ⟨byteOffset content span.start⟩ ⟨endOffset content span.stop⟩

/-- A span selects the piece `covered` of a text in which `before` stands in front of it. -/
structure Covers (span : Span) (before covered : List Char) : Prop where
  ne_nil : covered ≠ []
  head : covered.head? ≠ some '\n'
  last : covered.getLast? ≠ some '\n'
  start : Coordinate.first.past before = span.start
  stop : Coordinate.first.past (before ++ covered.dropLast) = span.stop

theorem selects_of_splice {content replacement out : String} {span : Span}
    (h : splice content replacement span = .ok out) : Selects content span := by
  cases hchars : spliceChars content.toList replacement.toList span with
  | ok text => exact selects_of_spliceChars hchars
  | error refusal =>
    rw [splice, hchars] at h
    cases h

theorem Selects.exists_covers {content : String} {span : Span} (h : Selects content span) :
    ∃ before covered after, content = String.ofList (before ++ covered ++ after) ∧
      Covers span before covered := by
  obtain ⟨m, n, hm, hn, hle⟩ := selects_iff.mp h
  obtain ⟨before, y, behind, hbefore, hy, hstart, rfl⟩ := offset_eq_ok_iff.mp hm
  obtain ⟨upto, x, after, hupto, hx, hstop, rfl⟩ := offset_eq_ok_iff.mp hn
  obtain ⟨rest, rfl⟩ := prefix_of_byteLength_le ⟨_, hbefore.symm⟩ ⟨_, hupto.symm⟩ hle
  have hcut : content.toList = before ++ (rest ++ [x]) ++ after := by rw [hupto, cut_eq]
  -- both ways to cut the text have the same beginning, so the piece starts with `y`
  have hpiece : y :: behind = rest ++ [x] ++ after := by
    rw [hbefore, List.append_assoc] at hcut
    exact List.append_cancel_left hcut
  refine ⟨before, rest ++ [x], after, by rw [← hcut, String.ofList_toList], by simp, ?_, ?_, hstart, ?_⟩
  · cases rest with
    | nil => simpa using hx
    | cons z rest =>
      cases hpiece
      simpa using hy
  · simpa using hx
  · rw [List.dropLast_concat]
    exact hstop

section Covers

variable {span : Span} {before covered : List Char}

theorem Covers.offset_start (h : Covers span before covered) (after : List Char) :
    offset (before ++ covered ++ after) span.start.line span.start.column = .ok (byteLength before) := by
  obtain ⟨y, rest, rfl⟩ := List.exists_cons_of_ne_nil h.ne_nil
  refine offset_eq_ok_iff.mpr ⟨before, y, rest ++ after, by simp, ?_, h.start, rfl⟩
  simpa using h.head

theorem Covers.offset_stop (h : Covers span before covered) (after : List Char) :
    offset (before ++ covered ++ after) span.stop.line span.stop.column =
      .ok (byteLength (before ++ covered.dropLast)) := by
  obtain ⟨rest, x, rfl⟩ := (List.eq_nil_or_concat' covered).resolve_left h.ne_nil
  have hstop := h.stop
  have hlast := h.last
  rw [List.dropLast_concat] at hstop ⊢
  refine offset_eq_ok_iff.mpr ⟨before ++ rest, x, after, cut_eq before rest x after, ?_, hstop, rfl⟩
  simpa using hlast

/-- The piece that a span covers is replaced, and nothing else. -/
theorem Covers.splice_eq (h : Covers span before covered) (after : List Char) (replacement : String) :
    splice (String.ofList (before ++ covered ++ after)) replacement span =
      .ok (String.ofList (before ++ replacement.toList ++ after)) := by
  have hstart := h.offset_start after
  have hstop := h.offset_stop after
  rw [splice, String.toList_ofList]
  obtain ⟨rest, x, rfl⟩ := (List.eq_nil_or_concat' covered).resolve_left h.ne_nil
  rw [List.dropLast_concat] at hstop
  rw [spliceChars_cut hstart hstop]
  rfl

theorem Covers.selected_eq (h : Covers span before covered) (after : List Char) :
    selected (String.ofList (before ++ covered ++ after)) span = String.ofList covered := by
  have hstart := h.offset_start after
  have hstop := h.offset_stop after
  obtain ⟨rest, x, rfl⟩ := (List.eq_nil_or_concat' covered).resolve_left h.ne_nil
  rw [← String.toList_ofList (l := before ++ (rest ++ [x]) ++ after)] at hstart hstop
  rw [List.dropLast_concat] at hstop
  rw [selected, endOffset, (offset_eq_ok_iff_names.mp hstart).2, (offset_eq_ok_iff_names.mp hstop).2]
  have hend := next_cut before rest x after
  rw [← extract_cut before (rest ++ [x]) after, ← hend]

end Covers

/-- A text is covered by its own span wherever it starts. -/
theorem covers_ofText (before : List Char) {covered : List Char} (hne : covered ≠ [])
    (hhead : covered.head? ≠ some '\n') (hlast : covered.getLast? ≠ some '\n') :
    Covers (Span.ofText (Coordinate.first.past before) covered) before covered := by
  refine ⟨hne, hhead, hlast, rfl, ?_⟩
  obtain ⟨rest, x, rfl⟩ := (List.eq_nil_or_concat' covered).resolve_left hne
  rw [List.dropLast_concat, Coordinate.past_append, Span.stop_ofText _ _ (by simpa using hlast)]

/-- A replacement of a span by what it selects changes nothing. Behind a replacement that is not empty and
neither starts nor ends with a line feed, the span of that replacement selects it, and what had been selected
before can be put back there. -/
theorem splice_undo {content replacement out : String} {span : Span}
    (h : splice content replacement span = .ok out) :
    splice content (selected content span) span = .ok content ∧
    (replacement ≠ "" → replacement.toList.head? ≠ some '\n' → replacement.toList.getLast? ≠ some '\n' →
      let shifted := Span.ofText span.start replacement.toList
      selected out shifted = replacement ∧ splice out (selected content span) shifted = .ok content) := by
  obtain ⟨before, covered, after, rfl, hcovers⟩ := (selects_of_splice h).exists_covers
  obtain rfl : String.ofList (before ++ replacement.toList ++ after) = out :=
    Except.ok.inj ((hcovers.splice_eq after replacement).symm.trans h)
  rw [hcovers.selected_eq]
  refine ⟨by rw [hcovers.splice_eq, String.toList_ofList], fun hne hhead hlast => ?_⟩
  have hback := covers_ofText before (mt String.toList_eq_nil_iff.mp hne) hhead hlast
  rw [hcovers.start] at hback
  refine ⟨by rw [hback.selected_eq, String.ofList_toList], ?_⟩
  rw [hback.splice_eq, String.toList_ofList]

/-- A piece of two lines is replaced by another one, which ends with a character of two bytes, and put back
where that one stands. -/
theorem splice_undo_wide :
    splice "aé\n→b\n" "x\nyé" ⟨1, 2, 2, 1⟩ = .ok "ax\nyéb\n" ∧
      Span.ofText ⟨1, 2⟩ "x\nyé".toList = ⟨1, 2, 2, 2⟩ ∧
      splice "ax\nyéb\n" "é\n→" ⟨1, 2, 2, 2⟩ = .ok "aé\n→b\n" := by
  have hout : splice "aé\n→b\n" "x\nyé" ⟨1, 2, 2, 1⟩ = .ok "ax\nyéb\n" := by decide +kernel
  have hold : selected "aé\n→b\n" ⟨1, 2, 2, 1⟩ = "é\n→" := by decide +kernel
  have hspan : Span.ofText ⟨1, 2⟩ "x\nyé".toList = ⟨1, 2, 2, 2⟩ := by decide +kernel
  obtain ⟨-, hundo⟩ := splice_undo hout
  obtain ⟨-, hback⟩ := hundo (by decide) (by decide) (by decide)
  rw [hold] at hback
  exact ⟨hout, hspan, hspan ▸ hback⟩

end Source

end Mend

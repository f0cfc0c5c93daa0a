import Mend.Proofs.Source.Offset
import Mend.Proofs.Steps

/-!
# What is replaced

A span is accepted if both of its coordinates name a character of the text and the first does not stand
behind the last. Then the bytes from the first character up to the end of the last one are replaced, and
both cuts fall between characters.

* `lineTexts`, `Names`, `byteOffset` : coordinates in terms of the lines of a text and their bytes;
* `offset_eq_ok_iff_names` : a coordinate has an offset if it names a character;
* `Selects` : the spans that are accepted; `selects_iff` : they have offsets in order;
* `exists_cut`, `spliceChars_cut` : a text cut at two offsets, and what replaces the piece in the middle;
* `Cuttable` : cuts between characters; `replaceBytes_cut` : bytes replaced between such cuts;
* `SpliceError.Blames` : what a refusal says about the span; `blames_of_spliceChars` : it is true;
* `splice_exact` : all of it for any text, replacement and span.
-/

namespace Mend.Source

/-! ## Coordinates by lines and bytes -/

/-- The lines of a text, without their line feeds. Behind a last line feed stands one more, which is empty
and in which no coordinate names anything. -/
def lineTexts (content : String) : List String := (content.toList.splitOn '\n').map String.ofList

def BeginsAt (text : String) (n : Nat) : Prop :=
  n < text.utf8ByteSize ∧ String.Pos.Raw.IsValid text ⟨n⟩

instance (text : String) (n : Nat) : Decidable (BeginsAt text n) :=
  inferInstanceAs (Decidable (n < text.utf8ByteSize ∧ String.Pos.Raw.IsValid text ⟨n⟩))

/-- Whether a coordinate names a character: line and column count from one, and at that byte of that line
a character begins. -/
def Names (content : String) (c : Coordinate) : Prop :=
  1 ≤ c.line ∧ 1 ≤ c.column ∧ ∃ text ∈ (lineTexts content)[c.line - 1]?, BeginsAt text (c.column - 1)

instance (content : String) (c : Coordinate) : Decidable (Names content c) :=
  inferInstanceAs (Decidable (1 ≤ c.line ∧ 1 ≤ c.column ∧
    ∃ text ∈ (lineTexts content)[c.line - 1]?, BeginsAt text (c.column - 1)))

/-- The bytes of the lines above a coordinate, with their line feeds, and of its line before its column. -/
def byteOffset (content : String) (c : Coordinate) : Nat :=
  total (·.utf8ByteSize + 1) ((lineTexts content).take (c.line - 1)) + (c.column - 1)

theorem utf8ByteSize_ofList (cs : List Char) : (String.ofList cs).utf8ByteSize = byteLength cs := by
  rw [byteLength_eq_utf8Len, String.utf8ByteSize_ofList]

theorem isValid_ofList_append (as bs : List Char) :
    String.Pos.Raw.IsValid (String.ofList (as ++ bs)) ⟨byteLength as⟩ := by
  rw [String.Pos.Raw.isValid_iff_exists_append]
  refine ⟨String.ofList as, String.ofList bs, String.ofList_append, ?_⟩
  rw [String.rawEndPos_ofList, byteLength_eq_utf8Len]

theorem beginsAt_iff {text : List Char} {n : Nat} :
    BeginsAt (String.ofList text) n ↔
      ∃ before x after, text = before ++ x :: after ∧ byteLength before = n := by
  constructor
  · rintro ⟨hlt, hvalid⟩
    obtain ⟨s, t, hst, hn⟩ := String.Pos.Raw.isValid_iff_exists_append.mp hvalid
    have htext : text = s.toList ++ t.toList := by
      rw [← String.toList_append, ← hst, String.toList_ofList]
    have hs : byteLength s.toList = n := by
      rw [← utf8ByteSize_ofList, String.ofList_toList]
      exact (congrArg String.Pos.Raw.byteIdx hn).symm
    -- what stands behind an offset inside the text is not empty
    cases ht : t.toList with
    | nil =>
      rw [utf8ByteSize_ofList, htext, ht, List.append_nil] at hlt
      omega
    | cons x after => exact ⟨s.toList, x, after, by rw [htext, ht], hs⟩
  · rintro ⟨before, x, after, rfl, rfl⟩
    have hpos := x.utf8Size_pos
    refine ⟨?_, isValid_ofList_append before (x :: after)⟩
    rw [utf8ByteSize_ofList, byteLength_append, byteLength_cons]
    omega

theorem total_lineTexts (content : String) (i : Nat) :
    total (·.utf8ByteSize + 1) ((lineTexts content).take i) =
      total (byteLength · + 1) ((pieces content.toList).take i) := by
  rw [lineTexts, ← List.map_take]
  change total _ (((pieces content.toList).take i).map String.ofList) = _
  induction (pieces content.toList).take i with
  | nil => rfl
  | cons p ps ih => rw [List.map_cons, total_cons, total_cons, ih, utf8ByteSize_ofList]

theorem placedAt_iff_names {content : String} {i j n : Nat} :
    PlacedAt content.toList i j n ↔
      Names content ⟨i + 1, j + 1⟩ ∧ byteOffset content ⟨i + 1, j + 1⟩ = n := by
  have hoffset : byteOffset content ⟨i + 1, j + 1⟩ =
      total (byteLength · + 1) ((pieces content.toList).take i) + j :=
    congrArg (· + j) (total_lineTexts content i)
  have hline : (lineTexts content)[i]? = ((pieces content.toList)[i]?).map String.ofList := List.getElem?_map
  constructor
  · rintro ⟨before, x, after, hpiece, hj, hn⟩
    rw [hpiece] at hline
    exact ⟨⟨Nat.le_add_left 1 i, Nat.le_add_left 1 j, _, hline, beginsAt_iff.mpr ⟨before, x, after, rfl, hj⟩⟩,
      hoffset.trans hn⟩
  · rintro ⟨⟨-, -, text, htext, hbegins⟩, hn⟩
    obtain ⟨piece, hpiece, rfl⟩ := Option.map_eq_some_iff.mp (hline.symm.trans htext)
    obtain ⟨before, x, after, rfl, hj⟩ := beginsAt_iff.mp hbegins
    exact ⟨before, x, after, hpiece, hj, hoffset.symm.trans hn⟩

theorem offset_eq_ok_iff_names {content : String} {c : Coordinate} {n : Nat} :
    offset content.toList c.line c.column = .ok n ↔ Names content c ∧ byteOffset content c = n := by
  rw [offset_eq_ok_iff_placedAt]
  constructor
  · rintro ⟨i, j, hplaced, rfl⟩
    exact placedAt_iff_names.mp hplaced
  · rintro ⟨hnames, hn⟩
    obtain ⟨line, column⟩ := c
    obtain ⟨i, rfl⟩ := Nat.exists_eq_add_of_le' hnames.1
    obtain ⟨j, rfl⟩ := Nat.exists_eq_add_of_le' hnames.2.1
    exact ⟨i, j, placedAt_iff_names.mpr ⟨hnames, hn⟩, rfl⟩

def Selects (content : String) (span : Span) : Prop :=
  Names content span.start ∧ Names content span.stop ∧ span.start.le span.stop = true

instance (content : String) (span : Span) : Decidable (Selects content span) :=
  inferInstanceAs (Decidable (Names content span.start ∧ Names content span.stop ∧
    span.start.le span.stop = true))

theorem le_iff_of_offset {cs : List Char} {p q : Coordinate} {m n : Nat}
    (hp : offset cs p.line p.column = .ok m) (hq : offset cs q.line q.column = .ok n) :
    m ≤ n ↔ p.le q = true :=
  (offset_eq_ok_iff.mp hp).le_iff (offset_eq_ok_iff.mp hq)

theorem selects_iff {content : String} {span : Span} :
    Selects content span ↔
      ∃ m n, offset content.toList span.start.line span.start.column = .ok m ∧
        offset content.toList span.stop.line span.stop.column = .ok n ∧ m ≤ n := by
  constructor
  · rintro ⟨hstart, hstop, hle⟩
    have hm := offset_eq_ok_iff_names.mpr ⟨hstart, rfl⟩
    have hn := offset_eq_ok_iff_names.mpr ⟨hstop, rfl⟩
    exact ⟨_, _, hm, hn, (le_iff_of_offset hm hn).mpr hle⟩
  · rintro ⟨m, n, hm, hn, hle⟩
    exact ⟨(offset_eq_ok_iff_names.mp hm).1, (offset_eq_ok_iff_names.mp hn).1, (le_iff_of_offset hm hn).mp hle⟩

/-! ## A text cut in three -/

theorem cut_eq (before rest : List Char) (x : Char) (after : List Char) :
    before ++ (rest ++ [x]) ++ after = before ++ rest ++ x :: after := by
  rw [List.append_cons (before ++ rest), List.append_assoc before rest]

/-- A text is cut at two offsets that are in order. -/
theorem exists_cut {c p q : Coordinate} {content : List Char} {m n : Nat} (hp : StandsAt c content p m)
    (hq : StandsAt c content q n) (hle : m ≤ n) :
    ∃ before rest x after, content = before ++ (rest ++ [x]) ++ after ∧ byteLength before = m ∧
      byteLength (before ++ rest) = n := by
  obtain ⟨before, y, after', hbefore, -, -, rfl⟩ := hp
  obtain ⟨upto, x, after, hupto, -, -, rfl⟩ := hq
  obtain ⟨rest, rfl⟩ := prefix_of_byteLength_le ⟨_, hbefore.symm⟩ ⟨_, hupto.symm⟩ hle
  exact ⟨before, rest, x, after, by rw [hupto, cut_eq], rfl, rfl⟩

theorem charBytes_cut (before rest : List Char) (x : Char) (after : List Char) :
    byteLength (before ++ rest) + charBytes (byteLength (before ++ rest)) (before ++ (rest ++ [x]) ++ after) =
      byteLength (before ++ (rest ++ [x])) := by
  rw [cut_eq, charBytes_append, ← List.append_assoc, byteLength_append (before ++ rest)]
  rfl

theorem spliceChars_cut {before rest : List Char} {x : Char} {after : List Char} {span : Span}
    (hstart : offset (before ++ (rest ++ [x]) ++ after) span.startLine span.startColumn =
      .ok (byteLength before))
    (hstop : offset (before ++ (rest ++ [x]) ++ after) span.endLine span.endColumn =
      .ok (byteLength (before ++ rest))) (replacement : List Char) :
    spliceChars (before ++ (rest ++ [x]) ++ after) replacement span = .ok (before ++ replacement ++ after) := by
  rw [spliceChars, hstart, hstop]
  change (if byteLength (before ++ rest) < byteLength before then _ else _) = _
  rw [if_neg (by rw [byteLength_append]; omega), charBytes_cut, dropBytes_append, List.append_assoc before,
    takeBytes_append]

/-! ## The bytes that are replaced -/

def endOffset (content : String) (c : Coordinate) : Nat :=
  (String.Pos.Raw.next content ⟨byteOffset content c⟩).byteIdx

/-- A text with its bytes from `s` to `e` replaced. -/
def replaceBytes (content replacement : String) (s e : Nat) : String :=
  String.Pos.Raw.extract content 0 ⟨s⟩ ++ replacement ++ String.Pos.Raw.extract content ⟨e⟩ content.rawEndPos

theorem extract_cut (as bs cs : List Char) :
    String.Pos.Raw.extract (String.ofList (as ++ bs ++ cs)) ⟨byteLength as⟩ ⟨byteLength (as ++ bs)⟩ =
      String.ofList bs := by
  simp only [byteLength_eq_utf8Len, String.utf8Len_append, String.extract_of_valid]

theorem replaceBytes_cut (before covered after : List Char) (replacement : String) :
    replaceBytes (String.ofList (before ++ covered ++ after)) replacement (byteLength before)
      (byteLength (before ++ covered)) = String.ofList (before ++ replacement.toList ++ after) := by
  have hbefore := extract_cut [] before (covered ++ after)
  have hafter := extract_cut (before ++ covered) after []
  rw [List.nil_append, ← List.append_assoc] at hbefore
  rw [List.append_nil] at hafter
  have hjoin : String.ofList (before ++ replacement.toList ++ after) =
      String.ofList before ++ replacement ++ String.ofList after := by
    rw [String.ofList_append, String.ofList_append, String.ofList_toList]
  rw [replaceBytes, String.rawEndPos_ofList, ← byteLength_eq_utf8Len, hafter, hjoin]
  exact congrArg (· ++ replacement ++ String.ofList after) hbefore

theorem next_cut (before rest : List Char) (x : Char) (after : List Char) :
    (String.Pos.Raw.next (String.ofList (before ++ (rest ++ [x]) ++ after))
      ⟨byteLength (before ++ rest)⟩).byteIdx = byteLength (before ++ (rest ++ [x])) := by
  rw [cut_eq, byteLength_eq_utf8Len, String.next_of_valid, ← List.append_assoc,
    byteLength_append (before ++ rest), byteLength_eq_utf8Len]
  rfl

/-- The bytes from `s` to `e`, of which the last character begins at `last`, lie in a text, and a character
begins or the text ends at each of the three. -/
structure Cuttable (content : String) (s last e : Nat) : Prop where
  start_isValid : String.Pos.Raw.IsValid content ⟨s⟩
  last_isValid : String.Pos.Raw.IsValid content ⟨last⟩
  end_isValid : String.Pos.Raw.IsValid content ⟨e⟩
  start_le : s ≤ last
  last_lt : last < e
  end_le : e ≤ content.utf8ByteSize

theorem cuttable_cut (before rest : List Char) (x : Char) (after : List Char) :
    Cuttable (String.ofList (before ++ (rest ++ [x]) ++ after)) (byteLength before)
      (byteLength (before ++ rest)) (byteLength (before ++ (rest ++ [x]))) where
  start_isValid := by
    rw [List.append_assoc]
    exact isValid_ofList_append before _
  last_isValid := by
    rw [cut_eq]
    exact isValid_ofList_append (before ++ rest) _
  end_isValid := isValid_ofList_append _ after
  start_le := by
    rw [byteLength_append]
    omega
  last_lt := by
    rw [← List.append_assoc]
    exact byteLength_lt_append _ (List.cons_ne_nil x [])
  end_le := by
    rw [utf8ByteSize_ofList, byteLength_append _ after]
    omega

/-! ## Refused spans -/

/-- What a refusal says about a span: a coordinate of it names no character, or both do and the span runs
backwards. -/
def SpliceError.Blames (content : String) (span : Span) : SpliceError → Prop
  | .notOneBased line column | .outsideLine line column =>
    ∃ c ∈ [span.start, span.stop], c = ⟨line, column⟩ ∧ ¬Names content c
  | .pastEnd line => ∃ c ∈ [span.start, span.stop], c.line = line ∧ ¬Names content c
  | .reversed shown =>
    shown = span ∧ Names content span.start ∧ Names content span.stop ∧ span.stop.Before span.start

theorem blames_of_offset {content : String} {span : Span} {c : Coordinate} (hc : c ∈ [span.start, span.stop])
    {e : SpliceError} (h : offset content.toList c.line c.column = .error e) : e.Blames content span := by
  have hnames : ¬Names content c := by
    intro hnames
    rw [offset_eq_ok_iff_names.mpr ⟨hnames, rfl⟩] at h
    cases h
  -- each of the three refusals shows the line, or the line and the column, that was looked up
  unfold offset at h
  split at h
  · cases h
    exact ⟨c, hc, rfl, hnames⟩
  · split at h
    · cases h
      exact ⟨c, hc, rfl, hnames⟩
    · split at h
      · cases h
      · cases h
        exact ⟨c, hc, rfl, hnames⟩

/-- What a refusal says is true. -/
theorem blames_of_spliceChars {content : String} {replacement : List Char} {span : Span} {e : SpliceError}
    (h : spliceChars content.toList replacement span = .error e) : e.Blames content span := by
  rw [spliceChars] at h
  cases hstart : offset content.toList span.startLine span.startColumn with
  | error e' =>
    rw [hstart] at h
    cases h
    exact blames_of_offset (c := span.start) List.mem_cons_self hstart
  | ok m =>
    cases hstop : offset content.toList span.endLine span.endColumn with
    | error e' =>
      rw [hstart, hstop] at h
      cases h
      exact blames_of_offset (c := span.stop) (List.mem_cons_of_mem _ List.mem_cons_self) hstop
    | ok n =>
      rw [hstart, hstop] at h
      change (if n < m then Except.error (SpliceError.reversed span) else _) = _ at h
      split at h
      · next hlt =>
        cases h
        have hle := le_iff_of_offset (p := span.start) (q := span.stop) hstart hstop
        exact ⟨rfl, (offset_eq_ok_iff_names (c := span.start)).mp hstart |>.1,
          (offset_eq_ok_iff_names (c := span.stop)).mp hstop |>.1,
          Coordinate.before_of_not_le (hle.not.mp (Nat.not_le.mpr hlt))⟩
      · cases h

theorem selects_of_spliceChars {content : String} {replacement : List Char} {span : Span} {out : List Char}
    (h : spliceChars content.toList replacement span = .ok out) : Selects content span := by
  obtain ⟨m, hstart, h⟩ := bind_eq_ok h
  obtain ⟨n, hstop, h⟩ := bind_eq_ok h
  split at h
  · cases h
  · next hle => exact selects_iff.mpr ⟨m, n, hstart, hstop, Nat.not_lt.mp hle⟩

/-! ## Accepted spans -/

/-- A span that selects a piece cuts the text in three. -/
theorem Selects.exists_cut {content : String} {span : Span} (h : Selects content span) :
    ∃ before rest x after, content = String.ofList (before ++ (rest ++ [x]) ++ after) ∧
      byteOffset content span.start = byteLength before ∧
      byteOffset content span.stop = byteLength (before ++ rest) ∧
      endOffset content span.stop = byteLength (before ++ (rest ++ [x])) := by
  obtain ⟨m, n, hm, hn, hle⟩ := selects_iff.mp h
  obtain ⟨before, rest, x, after, hcut, rfl, rfl⟩ :=
    Source.exists_cut (offset_eq_ok_iff.mp hm) (offset_eq_ok_iff.mp hn) hle
  have hlast := (offset_eq_ok_iff_names.mp hn).2
  have hcontent : content = String.ofList (before ++ (rest ++ [x]) ++ after) := by
    rw [← hcut, String.ofList_toList]
  refine ⟨before, rest, x, after, hcontent, (offset_eq_ok_iff_names.mp hm).2, hlast, ?_⟩
  rw [endOffset, hlast, hcontent, next_cut]

theorem Selects.cuttable {content : String} {span : Span} (h : Selects content span) :
    Cuttable content (byteOffset content span.start) (byteOffset content span.stop)
      (endOffset content span.stop) := by
  obtain ⟨before, rest, x, after, hcontent, hs, hlast, he⟩ := h.exists_cut
  rw [hs, hlast, he, hcontent]
  exact cuttable_cut before rest x after

theorem Selects.charBytes_eq {content : String} {span : Span} (h : Selects content span) :
    byteOffset content span.stop + charBytes (byteOffset content span.stop) content.toList =
      endOffset content span.stop := by
  obtain ⟨before, rest, x, after, hcontent, -, hlast, he⟩ := h.exists_cut
  rw [hlast, he, hcontent, String.toList_ofList]
  exact charBytes_cut before rest x after

theorem Selects.splice_eq {content : String} {span : Span} (h : Selects content span) (replacement : String) :
    splice content replacement span =
      .ok (replaceBytes content replacement (byteOffset content span.start) (endOffset content span.stop)) := by
  obtain ⟨before, rest, x, after, hcontent, hs, hlast, he⟩ := h.exists_cut
  have hstart := offset_eq_ok_iff_names.mpr ⟨h.1, hs⟩
  have hstop := offset_eq_ok_iff_names.mpr ⟨h.2.1, hlast⟩
  rw [hs, he, splice, hcontent, replaceBytes_cut]
  rw [hcontent, String.toList_ofList] at hstart hstop
  rw [String.toList_ofList, spliceChars_cut hstart hstop]
  rfl

/-- A replacement succeeds if the span selects a piece of the text, whatever the replacement is. Then its
offsets are those of its coordinates, they cut the text between characters, and the bytes from the first
to behind the last character are replaced. Any other span is refused for what is wrong with it. -/
theorem splice_exact (content replacement : String) (span : Span) :
    let s := byteOffset content span.start
    let last := byteOffset content span.stop
    let e := endOffset content span.stop
    ((∃ out, splice content replacement span = .ok out) ↔ Selects content span) ∧
    (Selects content span →
      offset content.toList span.startLine span.startColumn = .ok s ∧
      offset content.toList span.endLine span.endColumn = .ok last ∧
      last + charBytes last content.toList = e ∧ Cuttable content s last e ∧
      splice content replacement span = .ok (replaceBytes content replacement s e)) ∧
    (¬Selects content span →
      ∃ refusal, splice content replacement span = .error refusal ∧ refusal.Blames content span) := by
  refine ⟨⟨?_, fun h => ⟨_, h.splice_eq replacement⟩⟩, fun h => ?_, fun h => ?_⟩
  · rintro ⟨out, hout⟩
    cases hchars : spliceChars content.toList replacement.toList span with
    | ok text => exact selects_of_spliceChars hchars
    | error refusal =>
      rw [splice, hchars] at hout
      cases hout
  · exact ⟨offset_eq_ok_iff_names.mpr ⟨h.1, rfl⟩, offset_eq_ok_iff_names.mpr ⟨h.2.1, rfl⟩, h.charBytes_eq,
      h.cuttable, h.splice_eq replacement⟩
  · cases hchars : spliceChars content.toList replacement.toList span with
    | ok text => exact absurd (selects_of_spliceChars hchars) h
    | error refusal =>
      refine ⟨refusal, ?_, blames_of_spliceChars hchars⟩
      rw [splice, hchars]
      rfl

/-- Two lines with characters of two and three bytes: the span from the second character to the arrow is
replaced, and no span ends inside the arrow. -/
theorem splice_exact_wide :
    splice "aé\n→b\n" "xyz" ⟨1, 2, 2, 1⟩ = .ok "axyzb\n" ∧
      ∃ refusal, splice "aé\n→b\n" "xyz" ⟨1, 2, 2, 2⟩ = .error refusal := by
  obtain ⟨-, haccepted, -⟩ := splice_exact "aé\n→b\n" "xyz" ⟨1, 2, 2, 1⟩
  obtain ⟨-, -, hrefused⟩ := splice_exact "aé\n→b\n" "xyz" ⟨1, 2, 2, 2⟩
  obtain ⟨-, -, -, -, hout⟩ := haccepted (by decide)
  obtain ⟨refusal, hrefusal, -⟩ := hrefused (by decide)
  exact ⟨hout.trans (congrArg Except.ok (by decide)), refusal, hrefusal⟩

end Mend.Source

import Mend.BytePath
import Mend.Facts.Store
import Mend.Proofs.Files.Spelling
import Mend.Proofs.Text.Utf8

/-!
# Module names of paths of bytes

The name of a module is a text, so bytes of a path that are no text come out as U+FFFD. Separators and dots stay
where they are, so the name still takes the steps of the path, one by one. It tells two paths apart as far as their
steps are texts.

* `Path.reads` : bytes read as a text; `splitOn_reads`, `steps_reads` : separators and steps of what is read;
* `steps_moduleName`, `moduleName_moduleName` : the name of a module takes the steps of the path, and stays;
* `spelled`, `steps_ofPath`, `moduleName_ofPath` : paths that are texts;
* `SameSteps`, `Named` : spellings of a path; `location` : a point in a file;
* `moduleName_ambiguous` : different paths may share a module;
* `moduleName_canonical` : where they do not, and what it means for look-ups at a location.
-/

namespace Mend

namespace Path

/-! ## Bytes read as text -/

/-- The text of characters that stand for bytes, with U+FFFD for what is no text. -/
def reads (cs : List Char) : List Char := Text.Utf8.shown (cs.map fun c => c.toNat.toUInt8)

/-- Every character stands for a byte. -/
def Octets (cs : List Char) : Prop := ∀ c ∈ cs, c.toNat < 256

theorem ofNat_toUInt8 {c : Char} (h : c.toNat < 256) : Char.ofNat c.toNat.toUInt8.toNat = c := by
  have hbyte : c.toNat.toUInt8.toNat = c.toNat := Text.Utf8.toNat_ofNat h
  rw [hbyte, Char.ofNat_toNat]

theorem reads_append {c : Char} (hc : c.toNat < 0x80) (front back : List Char) :
    reads (front ++ c :: back) = reads front ++ c :: reads back := by
  have hbyte : c.toNat.toUInt8.toNat = c.toNat := Text.Utf8.toNat_ofNat (by omega)
  rw [reads, List.map_append, List.map_cons, Text.Utf8.shown_ascii _ (by omega), ofNat_toUInt8 (by omega)]
  rfl

theorem mem_of_mem_reads {cs : List Char} (h : Octets cs) {c : Char} (hpos : 0 < c.toNat) (hc : c.toNat < 0x80)
    (hmem : c ∈ reads cs) : c ∈ cs := by
  obtain ⟨b, hb, hshown⟩ := Text.Utf8.mem_of_mem_shown hpos hc hmem
  obtain ⟨d, hd, rfl⟩ := List.mem_map.mp hb
  rw [ofNat_toUInt8 (h d hd)] at hshown
  exact hshown ▸ hd

theorem reads_nil : reads [] = [] := rfl

theorem reads_eq_nil_iff {cs : List Char} : reads cs = [] ↔ cs = [] := by
  refine ⟨fun h => ?_, fun h => by rw [h, reads_nil]⟩
  refine Classical.not_not.mp fun hne => Text.Utf8.shown_ne_nil (by simpa using hne) h

theorem reads_eq_dot_iff {cs : List Char} (h : Octets cs) : reads cs = ['.'] ↔ cs = ['.'] := by
  constructor
  · intro hdot
    have hmem : '.' ∈ cs := mem_of_mem_reads h (by decide) (by decide) (by rw [hdot]; exact List.mem_cons_self)
    obtain ⟨front, back, rfl⟩ := List.append_of_mem hmem
    rw [reads_append (by decide)] at hdot
    cases hfront : reads front with
    | nil =>
      rw [hfront, List.nil_append, List.cons.injEq] at hdot
      rw [reads_eq_nil_iff.mp hfront, reads_eq_nil_iff.mp hdot.2]
      rfl
    | cons c cs =>
      rw [hfront, List.cons_append, List.cons.injEq] at hdot
      simp at hdot
  · rintro rfl
    exact reads_append (c := '.') (by decide) [] []

theorem isIdle_reads {cs : List Char} (h : Octets cs) : isIdle (reads cs) = isIdle cs := by
  simp only [isIdle, reads_eq_nil_iff, reads_eq_dot_iff h]

theorem reads_intercalate (zs : List (List Char)) :
    reads (['/'].intercalate zs) = ['/'].intercalate (zs.map reads) := by
  induction zs with
  | nil => rfl
  | cons z zs ih =>
    cases zs with
    | nil => simp [List.intercalate_singleton]
    | cons y zs =>
      rw [List.map_cons, List.map_cons, List.intercalate_cons_cons, List.intercalate_cons_cons, ← List.map_cons, ← ih,
        List.append_assoc, List.append_assoc]
      exact reads_append (by decide) z _

theorem octets_intercalate {zs : List (List Char)} : Octets (['/'].intercalate zs) ↔ ∀ z ∈ zs, Octets z := by
  induction zs with
  | nil => simp [Octets]
  | cons z zs ih =>
    cases zs with
    | nil => simp [List.intercalate_singleton]
    | cons y zs =>
      rw [List.intercalate_cons_cons, List.forall_mem_cons, ← ih]
      simp [Octets, or_imp, forall_and]

theorem octets_of_mem_splitOn {cs z : List Char} (h : Octets cs) (hz : z ∈ cs.splitOn '/') : Octets z := by
  have hjoined : Octets (['/'].intercalate (cs.splitOn '/')) := by rwa [List.intercalate_splitOn]
  exact octets_intercalate.mp hjoined z hz

/-- Separators stay where they are. -/
theorem splitOn_reads {cs : List Char} (h : Octets cs) :
    (reads cs).splitOn '/' = (cs.splitOn '/').map reads := by
  have hcs : ['/'].intercalate (cs.splitOn '/') = cs := List.intercalate_splitOn '/'
  have hne : (cs.splitOn '/').map reads ≠ [] := by simp [List.splitOn_ne_nil]
  have hplain : ∀ z ∈ (cs.splitOn '/').map reads, '/' ∉ z := by
    intro z hz hslash
    obtain ⟨y, hy, rfl⟩ := List.mem_map.mp hz
    exact not_mem_of_mem_splitOn hy
      (mem_of_mem_reads (octets_of_mem_splitOn h hy) (by decide) (by decide) hslash)
  rw [← List.splitOn_intercalate '/' hplain hne, ← reads_intercalate, hcs]

/-- So steps are read one by one, and a path starts where it started. -/
theorem steps_reads {cs : List Char} (h : Octets cs) :
    steps ⟨String.ofList (reads cs)⟩ = (steps ⟨String.ofList cs⟩).map reads ∧
      isAbsolute ⟨String.ofList (reads cs)⟩ = isAbsolute ⟨String.ofList cs⟩ := by
  have hpieces : pieces ⟨String.ofList (reads cs)⟩ = (pieces ⟨String.ofList cs⟩).map reads := by
    rw [pieces, pieces, String.toList_ofList, String.toList_ofList, splitOn_reads h]
  constructor
  · rw [steps, steps, hpieces, List.filter_map]
    refine congrArg (List.map reads) (List.filter_congr fun z hz => ?_)
    rw [pieces, String.toList_ofList] at hz
    rw [Function.comp, isIdle_reads (octets_of_mem_splitOn h hz)]
  · cases hfirst : pieces ⟨String.ofList cs⟩ with
    | nil => exact absurd hfirst (List.splitOn_ne_nil _ _)
    | cons first rest =>
      rw [hfirst, List.map_cons] at hpieces
      rw [Bool.eq_iff_iff, isAbsolute_iff_pieces hpieces, isAbsolute_iff_pieces hfirst, reads_eq_nil_iff,
        ne_eq, ne_eq, List.map_eq_nil_iff]

theorem reads_plain (absolute : Bool) (zs : List (List Char)) :
    reads (plain absolute zs) = plain absolute (zs.map reads) := by
  cases absolute with
  | false => exact reads_intercalate zs
  | true =>
    have hroot : reads (['/'] ++ ['/'].intercalate zs) = ['/'] ++ reads (['/'].intercalate zs) :=
      reads_append (by decide) [] _
    rw [plain, if_pos rfl, hroot, reads_intercalate]
    rfl

theorem octets_plain {absolute : Bool} {zs : List (List Char)} (h : ∀ z ∈ zs, Octets z) :
    Octets (plain absolute zs) := by
  intro c hc
  rcases List.mem_append.mp hc with hc | hc
  · cases absolute with
    | true =>
      rw [List.mem_singleton.mp hc]
      decide
    | false => cases hc
  · exact octets_intercalate.mpr h c hc

theorem octets_moduleName {p : Path} (h : Octets p.text.toList) : Octets p.moduleName.toList := by
  by_cases hnamed : p.Named
  · rw [moduleName_of_named hnamed, String.toList_ofList]
    exact octets_plain fun z hz => octets_of_mem_splitOn h (List.mem_filter.mp hz).1
  · rw [moduleName_of_not_named hnamed]
    exact h

end Path

namespace BytePath

theorem toNat_ofNat {n : Nat} (h : n < 256) : (Char.ofNat n).toNat = n := by
  rw [Char.ofNat, dif_pos (Or.inl (by omega))]
  rfl

theorem octets_text (b : BytePath) : Path.Octets b.octets.text.toList := by
  intro c hc
  rw [octets, Text.octets, String.toList_ofList] at hc
  obtain ⟨byte, -, rfl⟩ := List.mem_map.mp hc
  have hbyte : byte.toNat < 256 := byte.toNat_lt
  rw [toNat_ofNat hbyte]
  exact hbyte

theorem moduleName_eq (b : BytePath) : b.moduleName = String.ofList (Path.reads b.octets.moduleName.toList) :=
  Text.Utf8.lossy_toByteArray _

/-- The name of a module takes the steps of the path as they are read. -/
theorem steps_moduleName (b : BytePath) :
    Path.steps ⟨b.moduleName⟩ = b.octets.steps.map Path.reads ∧
      Path.isAbsolute ⟨b.moduleName⟩ = b.octets.isAbsolute := by
  have hsame := Path.sameSteps_moduleName b.octets
  obtain ⟨hsteps, habsolute⟩ := Path.steps_reads (Path.octets_moduleName b.octets_text)
  rw [String.ofList_toList] at hsteps habsolute
  rw [moduleName_eq]
  exact ⟨hsteps.trans (congrArg _ hsame.2), habsolute.trans hsame.1⟩

/-- The name of a module stays when it is taken again. -/
theorem moduleName_moduleName (b : BytePath) : Path.moduleName ⟨b.moduleName⟩ = b.moduleName := by
  obtain ⟨hsteps, habsolute⟩ := b.steps_moduleName
  by_cases h : b.octets.Named
  · have hnamed : Path.Named ⟨b.moduleName⟩ := by
      rw [Path.Named, hsteps, habsolute, ne_eq, List.map_eq_nil_iff]
      exact h
    rw [Path.moduleName_of_named hnamed, hsteps, habsolute, moduleName_eq, Path.moduleName_of_named h,
      String.toList_ofList, Path.reads_plain]
  · have hnot : ¬Path.Named ⟨b.moduleName⟩ := by
      rw [Path.Named, hsteps, habsolute, ne_eq, List.map_eq_nil_iff]
      exact h
    rw [Path.moduleName_of_not_named hnot]

/-! ## Paths that are texts -/

/-- The characters that stand for the bytes of a text. -/
def spelled (cs : List Char) : List Char :=
  (cs.flatMap String.utf8EncodeChar).map fun b => Char.ofNat b.toNat

theorem text_ofPath (p : Path) : (ofPath p).octets.text.toList = spelled p.text.toList := by
  have hbytes : p.text.toUTF8.data.toList = Text.Utf8.encoded p.text := by
    rw [← Text.Utf8.toByteArray_encoded, List.toList_data_toByteArray]
  rw [octets, Text.octets, String.toList_ofList, ofPath, hbytes]
  rfl

theorem octets_spelled (cs : List Char) : Path.Octets (spelled cs) := by
  intro c hc
  obtain ⟨byte, -, rfl⟩ := List.mem_map.mp hc
  rw [toNat_ofNat byte.toNat_lt]
  exact byte.toNat_lt

theorem reads_spelled (cs : List Char) : Path.reads (spelled cs) = cs := by
  have hbytes : (spelled cs).map (fun c => c.toNat.toUInt8) = cs.flatMap String.utf8EncodeChar := by
    rw [spelled, List.map_map]
    refine (List.map_congr_left fun b _ => ?_).trans (List.map_id _)
    rw [Function.comp, toNat_ofNat b.toNat_lt]
    exact UInt8.ofNat_toNat
  have hshown := Text.Utf8.shown_encoded (String.ofList cs)
  rw [Text.Utf8.encoded, String.toList_ofList] at hshown
  rw [Path.reads, hbytes, hshown]

theorem spelled_intercalate (zs : List (List Char)) :
    spelled (['/'].intercalate zs) = ['/'].intercalate (zs.map spelled) := by
  have happend : ∀ a b, spelled (a ++ b) = spelled a ++ spelled b := by
    intro a b
    rw [spelled, List.flatMap_append, List.map_append]
    rfl
  have hslash : spelled ['/'] = ['/'] := by decide
  induction zs with
  | nil => rfl
  | cons z zs ih =>
    cases zs with
    | nil => simp [List.intercalate_singleton]
    | cons y zs =>
      rw [List.map_cons, List.map_cons, List.intercalate_cons_cons, List.intercalate_cons_cons, ← List.map_cons,
        ← ih, happend, happend, hslash]

/-- The steps of a text are the steps of its bytes. -/
theorem steps_ofPath (p : Path) :
    (ofPath p).octets.steps = p.steps.map spelled ∧ (ofPath p).octets.isAbsolute = p.isAbsolute := by
  have hpieces : (ofPath p).octets.pieces = p.pieces.map spelled := by
    have htext : ['/'].intercalate p.pieces = p.text.toList := List.intercalate_splitOn '/'
    have hne : p.pieces.map spelled ≠ [] := by simp [Path.pieces, List.splitOn_ne_nil]
    have hplain : ∀ z ∈ p.pieces.map spelled, '/' ∉ z := by
      intro z hz hslash
      obtain ⟨y, hy, rfl⟩ := List.mem_map.mp hz
      obtain ⟨front, back, heq⟩ := List.append_of_mem hslash
      have hread := Path.reads_append (c := '/') (by decide) front back
      rw [← heq, reads_spelled] at hread
      exact Path.not_mem_of_mem_splitOn hy (by simp [hread])
    rw [Path.pieces, text_ofPath, ← htext, spelled_intercalate, List.splitOn_intercalate '/' hplain hne]
  constructor
  · rw [Path.steps, Path.steps, hpieces, List.filter_map]
    refine congrArg (List.map spelled) (List.filter_congr fun z _ => ?_)
    rw [Function.comp, ← Path.isIdle_reads (octets_spelled z), reads_spelled]
  · have hread := (Path.steps_reads (octets_spelled p.text.toList)).2
    rw [reads_spelled, ← text_ofPath, String.ofList_toList, String.ofList_toList] at hread
    exact hread.symm

theorem named_ofPath {p : Path} : (ofPath p).octets.Named ↔ p.Named := by
  rw [Path.Named, Path.Named, (steps_ofPath p).1, (steps_ofPath p).2, ne_eq, List.map_eq_nil_iff]

/-- For paths that are texts, the name of the module is the one of the text. -/
theorem moduleName_ofPath (p : Path) : (ofPath p).moduleName = p.moduleName := by
  by_cases h : p.Named
  · have hread : (p.steps.map spelled).map Path.reads = p.steps := by
      rw [List.map_map]
      exact (List.map_congr_left fun z _ => reads_spelled z).trans (List.map_id _)
    rw [moduleName_eq, Path.moduleName_of_named (named_ofPath.mpr h), Path.moduleName_of_named h,
      String.toList_ofList, Path.reads_plain, (steps_ofPath p).1, (steps_ofPath p).2, hread]
  · rw [moduleName_eq, Path.moduleName_of_not_named (mt named_ofPath.mp h), Path.moduleName_of_not_named h,
      text_ofPath, reads_spelled, String.ofList_toList]

/-! ## Spellings of a path -/

/-- Two paths start at the same end and take the same steps, byte for byte. -/
def SameSteps (b c : BytePath) : Prop := Path.SameSteps b.octets c.octets

/-- A path with a root or a step, so that it is not made of `.` alone. -/
def Named (b : BytePath) : Prop := b.octets.Named

instance (b c : BytePath) : Decidable (SameSteps b c) := inferInstanceAs (Decidable (Path.SameSteps _ _))

instance (b : BytePath) : Decidable b.Named := inferInstanceAs (Decidable (Path.Named _))

theorem moduleName_eq_of_sameSteps {b c : BytePath} (hb : b.Named) (h : b.SameSteps c) :
    b.moduleName = c.moduleName := by
  rw [moduleName_eq, moduleName_eq, Path.moduleName_eq_of_sameSteps hb h]

/-- Texts share a module only if they are spellings of one path. -/
theorem sameSteps_ofPath {p q : Path} (h : p.moduleName = q.moduleName) : (ofPath p).SameSteps (ofPath q) := by
  obtain ⟨habsolute, hsteps⟩ := Path.sameSteps_of_moduleName_eq h
  exact ⟨by rw [(steps_ofPath p).2, (steps_ofPath q).2, habsolute],
    by rw [(steps_ofPath p).1, (steps_ofPath q).1, hsteps]⟩

theorem octets_append (b c : BytePath) : (b ++ c).octets = ⟨b.octets.text ++ c.octets.text⟩ := by
  change (⟨Text.octets (b.bytes ++ c.bytes)⟩ : Path) = ⟨Text.octets b.bytes ++ Text.octets c.bytes⟩
  rw [Text.octets, List.map_append, String.ofList_append]
  rfl

theorem octets_ofPath {p : Path} (h : spelled p.text.toList = p.text.toList) : (ofPath p).octets = p :=
  congrArg Path.mk (String.toList_inj.mp ((text_ofPath p).trans h))

theorem octets_around {x : String} (h : spelled x.toList = x.toList) (b c : BytePath) :
    (b ++ ofPath ⟨x⟩ ++ c).octets = ⟨b.octets.text ++ x ++ c.octets.text⟩ := by
  rw [octets_append, octets_append, octets_ofPath (p := ⟨x⟩) h]

/-- Neither `./` in front of a path nor a doubled or dotted separator makes a step. -/
theorem sameSteps_dot {b : BytePath} (h : b.octets.isAbsolute = false) : b.SameSteps (ofPath ⟨"./"⟩ ++ b) := by
  have hdot : (ofPath ⟨"./"⟩).octets = ⟨"./"⟩ := octets_ofPath (by decide)
  rw [SameSteps, octets_append, hdot]
  exact (Path.sameSteps_dot h).symm

theorem sameSteps_doubled (b c : BytePath) : (b ++ ofPath ⟨"/"⟩ ++ c).SameSteps (b ++ ofPath ⟨"//"⟩ ++ c) := by
  rw [SameSteps, octets_around (by decide), octets_around (by decide)]
  exact (Path.sameSteps_doubled _ _).symm

theorem sameSteps_dotted (b c : BytePath) : (b ++ ofPath ⟨"/"⟩ ++ c).SameSteps (b ++ ofPath ⟨"/./"⟩ ++ c) := by
  rw [SameSteps, octets_around (by decide), octets_around (by decide)]
  exact (Path.sameSteps_dotted _ _).symm

theorem moduleName_parent_ne (b c : BytePath) : (b ++ ofPath ⟨"/../"⟩ ++ c).moduleName ≠ c.moduleName := by
  intro h
  have hsteps := (steps_moduleName (b ++ ofPath ⟨"/../"⟩ ++ c)).1
  rw [h, c.steps_moduleName.1, octets_around (by decide)] at hsteps
  have hlength := congrArg List.length hsteps
  rw [List.length_map, List.length_map] at hlength
  exact absurd hlength (Nat.ne_of_lt (Path.length_steps_parent _ _))

theorem moduleName_root_ne {b : BytePath} (h : b.octets.isAbsolute = false) :
    (ofPath ⟨"/"⟩ ++ b).moduleName ≠ b.moduleName := by
  intro hname
  have hslash : (ofPath ⟨"/"⟩).octets = ⟨"/"⟩ := octets_ofPath (by decide)
  have habsolute := b.steps_moduleName.2
  rw [← hname, (steps_moduleName _).2, octets_append, hslash, h] at habsolute
  simp [Path.isAbsolute] at habsolute

/-- A point in a file, under the name of the file's module. That is all of a path that look-ups go by. -/
def location (b : BytePath) (point : Coordinate) : Location := ⟨⟨b.moduleName⟩, point⟩

theorem moduleName_location (b : BytePath) (point : Coordinate) : (b.location point).moduleName = b.moduleName :=
  b.moduleName_moduleName

/-- Bytes that are no text are all shown alike, so different paths may share a module; and a path made of `.` alone
gets another module with each spelling. -/
theorem moduleName_ambiguous :
    (¬∀ b c : BytePath, b.Named → c.Named → (b.moduleName = c.moduleName ↔ b.SameSteps c)) ∧
      ¬∀ b : BytePath, b.octets.isAbsolute = false → (ofPath ⟨"./"⟩ ++ b).moduleName = b.moduleName := by
  constructor
  · intro h
    have hname : moduleName ⟨[0x61, 0xfe, 0x2e, 0x63]⟩ = moduleName ⟨[0x61, 0xff, 0x2e, 0x63]⟩ := by
      rw [moduleName_eq, moduleName_eq]
      decide +kernel
    exact absurd ((h _ _ (by decide) (by decide)).mp hname) (by decide)
  · intro h
    have hdot := h (ofPath ⟨"."⟩) (by decide)
    have hdots : ofPath ⟨"./"⟩ ++ ofPath ⟨"."⟩ = ofPath ⟨"./."⟩ := by decide
    rw [hdots, moduleName_ofPath, moduleName_ofPath] at hdot
    exact absurd hdot (by decide)

/-- The name of a module is canonical. Taking it again changes nothing. Paths with a root or a step share it if
they start at the same end and take the same steps, and if they are texts, only then; it is then the name that the
text has. So neither `./` in front of a path nor a separator written as `//` or `/./` makes another module of it,
but a step back does, and so does a root. Look-ups at a location depend on the spelling of its file in no other
way. -/
theorem moduleName_canonical :
    (∀ b : BytePath, (ofPath ⟨b.moduleName⟩).moduleName = b.moduleName) ∧
    (∀ b c : BytePath, b.Named → c.Named → b.SameSteps c → b.moduleName = c.moduleName) ∧
    (∀ p q : Path, p.Named → q.Named →
      ((ofPath p).moduleName = (ofPath q).moduleName ↔ (ofPath p).SameSteps (ofPath q))) ∧
    (∀ b : BytePath, b.Named → b.octets.isAbsolute = false → (ofPath ⟨"./"⟩ ++ b).moduleName = b.moduleName) ∧
    (∀ b c : BytePath, (b ++ ofPath ⟨"/"⟩ ++ c).Named →
      (b ++ ofPath ⟨"//"⟩ ++ c).moduleName = (b ++ ofPath ⟨"/"⟩ ++ c).moduleName ∧
      (b ++ ofPath ⟨"/./"⟩ ++ c).moduleName = (b ++ ofPath ⟨"/"⟩ ++ c).moduleName) ∧
    (∀ b c : BytePath, (b ++ ofPath ⟨"/../"⟩ ++ c).moduleName ≠ c.moduleName) ∧
    (∀ b : BytePath, b.octets.isAbsolute = false → (ofPath ⟨"/"⟩ ++ b).moduleName ≠ b.moduleName) ∧
    (∀ p : Path, (ofPath p).moduleName = p.moduleName) ∧
    ∀ (s : Store) (point : Coordinate),
      (∀ p : Path, s.functionContaining ((ofPath p).location point) = s.functionContaining ⟨p, point⟩ ∧
        s.statementAt ((ofPath p).location point) = s.statementAt ⟨p, point⟩) ∧
      ∀ b c : BytePath, b.Named → b.SameSteps c →
        s.functionContaining (b.location point) = s.functionContaining (c.location point) ∧
          s.statementAt (b.location point) = s.statementAt (c.location point) := by
  refine ⟨fun b => ?_, fun b c hb _ => moduleName_eq_of_sameSteps hb, fun p q hp _ => ⟨fun h => ?_, ?_⟩,
    fun b hb hrel => (moduleName_eq_of_sameSteps hb (sameSteps_dot hrel)).symm, fun b c h => ⟨?_, ?_⟩,
    moduleName_parent_ne, fun b hrel => moduleName_root_ne hrel, moduleName_ofPath,
    fun s point => ⟨fun p => ?_, fun b c hb h => ?_⟩⟩
  · rw [moduleName_ofPath, moduleName_moduleName]
  · rw [moduleName_ofPath, moduleName_ofPath] at h
    exact sameSteps_ofPath h
  · exact moduleName_eq_of_sameSteps (named_ofPath.mpr hp)
  · exact (moduleName_eq_of_sameSteps h (sameSteps_doubled b c)).symm
  · exact (moduleName_eq_of_sameSteps h (sameSteps_dotted b c)).symm
  · have hmodule : ((ofPath p).location point).moduleName = (⟨p, point⟩ : Location).moduleName :=
      (moduleName_location _ _).trans (moduleName_ofPath p)
    rw [Store.functionContaining, Store.functionContaining, Store.statementAt, Store.statementAt, hmodule]
    exact ⟨rfl, rfl⟩
  · rw [location, location, moduleName_eq_of_sameSteps hb h]
    exact ⟨rfl, rfl⟩

/-- Two spellings of a path that is no text, and a step back that makes a different path. -/
theorem moduleName_canonical_respelled :
    moduleName ⟨[0x2e, 0x2f, 0xff, 0x2f, 0x2f, 0x61]⟩ = moduleName ⟨[0xff, 0x2f, 0x61]⟩ ∧
    (ofPath ⟨"src/../a.c"⟩).moduleName ≠ (ofPath ⟨"a.c"⟩).moduleName ∧
    ∀ (s : Store) (point : Coordinate),
      s.statementAt ((ofPath ⟨"./src//lib/./a.c/"⟩).location point) = s.statementAt ⟨⟨"src/lib/a.c"⟩, point⟩ := by
  obtain ⟨-, hsame, hiff, -, -, -, -, -, hlookup⟩ := moduleName_canonical
  refine ⟨hsame _ _ (by decide) (by decide) (by decide), fun h => ?_, fun s point => ?_⟩
  · exact absurd ((hiff _ _ (by decide) (by decide)).mp h) (by decide +kernel)
  · obtain ⟨htext, hspelled⟩ := hlookup s point
    refine ((hspelled _ (ofPath ⟨"src/lib/a.c"⟩) ?_ ?_).2).trans (htext ⟨"src/lib/a.c"⟩).2
    · decide +kernel
    · decide +kernel

end BytePath

end Mend

import Mathlib.Data.List.Forall2
import Mend.Proofs.Facts.Scalars
import Mend.Proofs.Json.Printing

/-!
# The grammar of records

A record is an array: its tag, four coordinates, the fields of the tag, and for three of the tags anything
behind them. The decoder takes exactly the records, and gives what they record.

* `IsSpan`, `IsArgument`, `Tagged`, `Record`, `IsRecord` : the grammar;
* `run'_next?_bind_eq_ok_iff`, `run'_required_bind_eq_ok_iff`, `run'_requiredAs_bind_eq_ok_iff` : one step of a
  walk along elements;
* `decodeAll_eq_ok_iff` : a decoder applied to every element;
* `decodeFact_eq_ok_iff` : a record as a value;
* `parse_eq_ok_iff_record` : a record as a text.
-/

namespace Mend.Facts

open Json (Value Literal Reading Items itemsOf SpellsText)

/-- The four coordinates of a record. -/
structure IsSpan (a b c d : Value) (span : Span) : Prop where
  startLine : IsCoordinate a span.startLine
  startColumn : IsCoordinate b span.startColumn
  endLine : IsCoordinate c span.endLine
  endColumn : IsCoordinate d span.endColumn

/-- An argument of a call: two strings. -/
inductive IsArgument : Value → Argument → Prop
  | pair (name typeName : String) :
    IsArgument (.array [.string (some name), .string (some typeName)]) ⟨name, typeName⟩

/-- The elements of a record behind its tag, and what they record. Only a call has no room for more. -/
inductive Tagged : Tag → List Value → Fact → Prop
  | funcDecl {a b c d : Value} {span : Span} (hspan : IsSpan a b c d span) (rest : List Value) :
    Tagged .funcDecl (a :: b :: c :: d :: rest) (.funcDecl span)
  | varType {a b c d n t r s : Value} {v : Variable} (hspan : IsSpan a b c d v.span) (hname : IsText n v.name)
    (htype : IsText t v.typeName) (harray : IsTruth r v.isArray) (hsize : IsInteger s v.size)
    (rest : List Value) : Tagged .varType (a :: b :: c :: d :: n :: t :: r :: s :: rest) (.varType v)
  | callType {a b c d e f : Value} {span : Span} {expr callee : String} {rest : List Value}
    {arguments : List Argument} (hspan : IsSpan a b c d span) (hexpr : IsText e expr)
    (hcallee : IsText f callee) (harguments : List.Forall₂ IsArgument rest arguments) :
    Tagged .callType (a :: b :: c :: d :: e :: f :: rest) (.callType span expr callee arguments)
  | stmtType {a b c d e : Value} {span : Span} {expr : String} (hspan : IsSpan a b c d span)
    (hexpr : IsText e expr) (rest : List Value) :
    Tagged .stmtType (a :: b :: c :: d :: e :: rest) (.stmtType span expr)

/-- The elements of a record, its tag in front, and what they record. -/
inductive Record : List Value → Fact → Prop
  | mk {tag : Tag} {vs : List Value} {f : Fact} (h : Tagged tag vs f) :
    Record (.string (some tag.text) :: vs) f

def IsRecord (v : Value) (f : Fact) : Prop := ∃ vs, v = .array vs ∧ Record vs f

/-! ## Walks -/

section Walk

variable {α β : Type} {vs : List Value}

theorem run'_bind (x : Walk α) (f : α → Walk β) (items : Items) :
    (x >>= f).run' items = x.run items >>= fun p => (f p.1).run' p.2 := by
  simp only [StateT.run'_eq, StateT.run_bind, map_bind]

theorem run'_bind_eq_ok_iff {x : Walk α} {f : α → Walk β} {items : Items} {b : β} :
    (x >>= f).run' items = .ok b ↔ ∃ a t, x.run items = .ok (a, t) ∧ (f a).run' t = .ok b := by
  rw [run'_bind, bind_eq_ok_iff, Prod.exists]

theorem run'_lift_bind (x : Except DecodeError α) (f : α → Walk β) (items : Items) :
    (liftM x >>= f : Walk β).run' items = x >>= fun a => (f a).run' items := by
  rw [run'_bind]
  cases x <;> rfl

theorem run_next?_cons (decode : Reading → Except DecodeError α) (v : Value) (vs : List Value) :
    (next? decode).run (itemsOf (v :: vs)) = (decode v.reading).map fun a => (some a, itemsOf vs) := by
  rw [itemsOf]
  cases h : decode v.reading <;> simp [next?, h, Except.map]

theorem run'_next?_bind_eq_ok_iff {decode : Reading → Except DecodeError α} {f : Option α → Walk β} {b : β} :
    (next? decode >>= f).run' (itemsOf vs) = .ok b ↔
      (vs = [] ∧ (f none).run' (itemsOf []) = .ok b) ∨
        ∃ v us a, vs = v :: us ∧ decode v.reading = .ok a ∧ (f (some a)).run' (itemsOf us) = .ok b := by
  rw [run'_bind_eq_ok_iff]
  cases vs with
  | nil =>
    constructor
    · rintro ⟨r, t, ⟨⟩, h⟩
      exact Or.inl ⟨rfl, h⟩
    · rintro (⟨-, h⟩ | ⟨v, us, a, ⟨⟩, -⟩)
      exact ⟨none, itemsOf [], rfl, h⟩
  | cons v us =>
    rw [run_next?_cons]
    constructor
    · rintro ⟨r, t, hnext, h⟩
      cases hv : decode v.reading with
      | error e =>
        rw [hv] at hnext
        cases hnext
      | ok a =>
        rw [hv] at hnext
        cases hnext
        exact Or.inr ⟨v, us, a, rfl, hv, h⟩
    · rintro (⟨⟨⟩, -⟩ | ⟨v, us, a, ⟨⟩, hv, h⟩)
      exact ⟨some a, itemsOf us, by rw [hv]; rfl, h⟩

theorem run'_required_bind_eq_ok_iff {tag field : String} {decode : Reading → Except DecodeError α}
    {f : α → Walk β} {b : β} :
    (required tag field decode >>= f).run' (itemsOf vs) = .ok b ↔
      ∃ v us a, vs = v :: us ∧ decode v.reading = .ok a ∧ (f a).run' (itemsOf us) = .ok b := by
  rw [required, bind_assoc, run'_next?_bind_eq_ok_iff]
  refine or_iff_right ?_
  rintro ⟨-, ⟨⟩⟩

theorem run'_requiredAs_bind_eq_ok_iff {room : Nat} {tag field : String}
    {interpret : Scalar → Except ShapeError α} {f : α → Walk β} {b : β} :
    (requiredAs room tag field interpret >>= f).run' (itemsOf vs) = .ok b ↔
      ∃ v us a, vs = v :: us ∧ (∃ s, IsScalar v s ∧ interpret s = .ok a) ∧ (f a).run' (itemsOf us) = .ok b := by
  rw [requiredAs, bind_assoc, run'_required_bind_eq_ok_iff]
  simp only [decodeScalar_eq_ok_iff, run'_lift_bind, bind_eq_ok_iff, ofShape_eq_ok_iff]
  constructor
  · rintro ⟨v, us, s, rfl, hs, a, ha, h⟩
    exact ⟨v, us, a, rfl, ⟨s, hs, ha⟩, h⟩
  · rintro ⟨v, us, a, rfl, ⟨s, hs, ha⟩, h⟩
    exact ⟨v, us, s, rfl, hs, a, ha, h⟩

theorem run'_skipRest_bind (vs : List Value) (f : Unit → Walk β) :
    (skipRest >>= f).run' (itemsOf vs) = (f ()).run' (itemsOf vs) := by
  rw [skipRest, bind_assoc, run'_bind, StateT.run_get, pure_bind, run'_lift_bind, Json.itemsOf_skip]
  rfl

theorem run'_noneLeft_bind_eq_ok_iff {f : Unit → Walk β} {b : β} :
    (noneLeft >>= f).run' (itemsOf vs) = .ok b ↔ vs = [] ∧ (f ()).run' (itemsOf []) = .ok b := by
  cases vs with
  | nil => exact (and_iff_right rfl).symm
  | cons v vs =>
    refine iff_of_false ?_ (by simp)
    rw [itemsOf]
    rintro ⟨⟩

theorem decodeAll_eq_ok_iff {decode : Reading → Except DecodeError α} {as : List α} :
    decodeAll decode (itemsOf vs) = .ok as ↔ List.Forall₂ (fun v a => decode v.reading = .ok a) vs as := by
  induction vs generalizing as with
  | nil =>
    rw [itemsOf, decodeAll, Except.ok.injEq, List.forall₂_nil_left_iff]
    exact eq_comm
  | cons v vs ih =>
    rw [itemsOf, decodeAll, List.forall₂_cons_left_iff]
    simp only [bind_eq_ok_iff, ih]
    constructor
    · rintro ⟨a, ha, as, has, ⟨⟩⟩
      exact ⟨a, as, ha, has, rfl⟩
    · rintro ⟨a, as, ha, has, rfl⟩
      exact ⟨a, ha, as, has, rfl⟩

theorem run'_decodeAll_bind_eq_ok_iff {decode : Reading → Except DecodeError α} {f : List α → Walk β} {b : β} :
    (get >>= fun items => liftM (decodeAll decode items) >>= f : Walk β).run' (itemsOf vs) = .ok b ↔
      ∃ as, List.Forall₂ (fun v a => decode v.reading = .ok a) vs as ∧ (f as).run' (itemsOf vs) = .ok b := by
  rw [run'_bind, StateT.run_get, pure_bind, run'_lift_bind, bind_eq_ok_iff]
  simp only [decodeAll_eq_ok_iff]

end Walk

/-! ## Records -/

theorem decodeArgument_eq_ok_iff {v : Value} {a : Argument} :
    decodeArgument v.reading = .ok a ↔ IsArgument v a := by
  cases v with
  | array vs =>
    simp only [Value.reading, decodeArgument, run'_next?_bind_eq_ok_iff, run'_noneLeft_bind_eq_ok_iff,
      decodeString_eq_ok_iff]
    constructor
    · rintro (⟨-, ⟨⟩⟩ | ⟨_, _, name, rfl, rfl, ⟨-, ⟨⟩⟩ | ⟨_, _, typeName, rfl, rfl, rfl, ⟨⟩⟩⟩)
      exact .pair name typeName
    · rintro ⟨name, typeName⟩
      exact Or.inr ⟨_, _, name, rfl, rfl, Or.inr ⟨_, _, typeName, rfl, rfl, rfl, rfl⟩⟩
  | _ =>
    simp only [Value.reading, decodeArgument]
    exact iff_of_false (mismatch_ne_ok _ _ _) nofun

theorem run'_decodeSpan_bind_eq_ok_iff {room : Nat} {tag : Tag} {vs : List Value} {β : Type} {f : Span → Walk β}
    {r : β} :
    (decodeSpan room tag >>= f).run' (itemsOf vs) = .ok r ↔ ∃ a b c d us span, vs = a :: b :: c :: d :: us ∧
      IsSpan a b c d span ∧ (f span).run' (itemsOf us) = .ok r := by
  simp only [decodeSpan, bind_assoc, pure_bind, run'_requiredAs_bind_eq_ok_iff, Scalar.toCoordinate_iff]
  constructor
  · rintro ⟨a, _, la, rfl, ha, b, _, cb, rfl, hb, c, _, lc, rfl, hc, d, us, cd, rfl, hd, h⟩
    exact ⟨a, b, c, d, us, ⟨la, cb, lc, cd⟩, rfl, ⟨ha, hb, hc, hd⟩, h⟩
  · rintro ⟨a, b, c, d, us, span, rfl, ⟨ha, hb, hc, hd⟩, h⟩
    exact ⟨a, _, _, rfl, ha, b, _, _, rfl, hb, c, _, _, rfl, hc, d, us, _, rfl, hd, h⟩

/-- Behind the tag the decoder takes the fields of the tag, one case for each. -/
theorem decodeBody_eq_ok_iff {room : Nat} {tag : Tag} {vs : List Value} {f : Fact} :
    (decodeBody room tag).run' (itemsOf vs) = .ok f ↔ Tagged tag vs f := by
  cases tag with
  | funcDecl =>
    simp only [decodeBody, run'_decodeSpan_bind_eq_ok_iff, run'_skipRest_bind]
    constructor
    · rintro ⟨a, b, c, d, us, span, rfl, hspan, ⟨⟩⟩
      exact .funcDecl hspan us
    · intro h
      cases h with
      | funcDecl hspan rest => exact ⟨_, _, _, _, rest, _, rfl, hspan, rfl⟩
  | varType =>
    simp only [decodeBody, run'_decodeSpan_bind_eq_ok_iff, run'_requiredAs_bind_eq_ok_iff, Except.ok.injEq,
      Scalar.toText_iff, Scalar.toBool_iff, Scalar.toNat_iff, run'_skipRest_bind]
    constructor
    · rintro ⟨a, b, c, d, _, span, rfl, hspan, n, _, name, rfl, hname, t, _, typeName, rfl, htype, r, _, isArray,
        rfl, harray, s, us, size, rfl, hsize, ⟨⟩⟩
      exact .varType hspan hname htype harray hsize us
    · intro h
      cases h with
      | varType hspan hname htype harray hsize rest =>
        exact ⟨_, _, _, _, _, _, rfl, hspan, _, _, _, rfl, hname, _, _, _, rfl, htype, _, _, _, rfl, harray, _, rest,
          _, rfl, hsize, rfl⟩
  | callType =>
    simp only [decodeBody, run'_decodeSpan_bind_eq_ok_iff, run'_requiredAs_bind_eq_ok_iff, Except.ok.injEq,
      Scalar.toText_iff, run'_decodeAll_bind_eq_ok_iff, decodeArgument_eq_ok_iff]
    constructor
    · rintro ⟨a, b, c, d, _, span, rfl, hspan, e, _, expr, rfl, hexpr, f, us, callee, rfl, hcallee, arguments,
        harguments, ⟨⟩⟩
      exact .callType hspan hexpr hcallee harguments
    · intro h
      cases h with
      | callType hspan hexpr hcallee harguments =>
        exact ⟨_, _, _, _, _, _, rfl, hspan, _, _, _, rfl, hexpr, _, _, _, rfl, hcallee, _, harguments, rfl⟩
  | stmtType =>
    simp only [decodeBody, run'_decodeSpan_bind_eq_ok_iff, run'_requiredAs_bind_eq_ok_iff, Except.ok.injEq,
      Scalar.toText_iff, run'_skipRest_bind]
    constructor
    · rintro ⟨a, b, c, d, _, span, rfl, hspan, e, us, expr, rfl, hexpr, ⟨⟩⟩
      exact .stmtType hspan hexpr us
    · intro h
      cases h with
      | stmtType hspan hexpr rest => exact ⟨_, _, _, _, _, _, rfl, hspan, _, rest, _, rfl, hexpr, rfl⟩

theorem ofText?_eq_some_iff {s : String} {tag : Tag} : Tag.ofText? s = some tag ↔ tag.text = s := by
  constructor
  · intro h
    simpa using List.find?_some h
  · rintro rfl
    cases tag <;> decide

theorem decodeFact_eq_ok_iff {room : Nat} {v : Value} {f : Fact} :
    decodeFact room v.reading = .ok f ↔ IsRecord v f := by
  cases v with
  | array vs =>
    simp only [Value.reading, decodeFact, decodeRecord, run'_required_bind_eq_ok_iff, decodeString_eq_ok_iff,
      IsRecord, Value.array.injEq, exists_eq_left']
    constructor
    · rintro ⟨_, us, s, rfl, rfl, h⟩
      split at h
      · cases h
      · next tag htag =>
        rw [← ofText?_eq_some_iff.mp htag]
        exact .mk (decodeBody_eq_ok_iff.mp h)
    · rintro @⟨tag, us, _, h⟩
      refine ⟨_, us, _, rfl, rfl, ?_⟩
      rw [ofText?_eq_some_iff.mpr rfl]
      exact decodeBody_eq_ok_iff.mpr h
  | _ =>
    simp only [Value.reading, decodeFact]
    exact iff_of_false (mismatch_ne_ok _ _ _) nofun

/-! ## Texts -/

theorem parseWith_spells {α : Type} (decode : Reading → Except DecodeError α) {v : Value} {s : String}
    (h : SpellsText v s) : parseWith decode (.ofString s) = decode v.reading := by
  rw [parseWith, Json.ofText_spells h]
  cases decode v.reading <;> rfl

/-- Whatever an array has for elements and however it is written, it is decoded if they are those of a record,
and as what they record. -/
theorem parse_eq_ok_iff_record {vs : List Value} {s : String} (h : SpellsText (.array vs) s) (f : Fact) :
    Fact.parse (.ofString s) = .ok f ↔ Record vs f := by
  rw [Fact.parse, parseWith_spells _ h, decodeFact_eq_ok_iff]
  simp only [IsRecord, Value.array.injEq, exists_eq_left']

/-- A declaration with every kind of field, a coordinate with a sign between blanks and one field too many. -/
theorem parse_eq_ok_iff_record_declaration :
    SpellsText (.array [.string (some "var_type"), .string (some " +7 "), .bool true, .number (.ofNat 12),
      .string (some "04"), .string (some "x"), .number (.ofNat 5), .string (some "TRUE"), .number (.ofNat 9), .null])
      "[\"var_type\",\" +7 \",true,12,\"04\",\"x\",5,\"TRUE\",9,null]" ∧
    Fact.parse (.ofString "[\"var_type\",\" +7 \",true,12,\"04\",\"x\",5,\"TRUE\",9,null]") =
      .ok (.varType ⟨"x", "5", ⟨7, 1, 12, 4⟩, true, 9⟩) := by
  have hspells := Json.Spells.text (Json.spells_array
    (.cons (Json.spells_quoted "var_type") (.cons (Json.spells_quoted " +7 ") (.cons (b := "true") .yes
      (.cons (Json.spells_ofNat 12) (.cons (Json.spells_quoted "04") (.cons (Json.spells_quoted "x")
        (.cons (Json.spells_ofNat 5) (.cons (Json.spells_quoted "TRUE") (.cons (Json.spells_ofNat 9)
          (.cons (b := "null") .null .nil)))))))))))
  have hsigned : IsNumeral " +7 ".toList 7 :=
    @IsNumeral.mk [' '] ['+'] ['7'] [' '] (List.forall_mem_singleton.mpr Text.isBlank_space) (Or.inr rfl) nofun
      (List.forall_mem_singleton.mpr rfl) (List.forall_mem_singleton.mpr Text.isBlank_space)
  have hpadded : IsNumeral "04".toList 4 :=
    @IsNumeral.mk [] [] ['0', '4'] [] nofun (Or.inl rfl) nofun
      (List.forall_mem_cons.mpr ⟨rfl, List.forall_mem_singleton.mpr rfl⟩) nofun
  have hspan : IsSpan (.string (some " +7 ")) (.bool true) (.number (.ofNat 12)) (.string (some "04"))
      ⟨7, 1, 12, 4⟩ :=
    ⟨⟨.text hsigned (by decide), by decide⟩, ⟨.bool true, by decide⟩,
      ⟨.number (Literal.isNatural_ofNat 12) (by decide), by decide⟩, ⟨.text hpadded (by decide), by decide⟩⟩
  refine ⟨hspells, (parse_eq_ok_iff_record hspells _).mpr (@Record.mk .varType _ _ (.varType hspan ?_ ?_ ?_ ?_ _))⟩
  · exact .text "x"
  · exact .number (Literal.isNatural_ofNat 5) (by decide)
  · exact .word (by decide)
  · exact .number (Literal.isNatural_ofNat 9) (by decide)

end Mend.Facts

import Mend.Facts.Print
import Mend.Proofs.Facts.Exports

/-!
# Exports and their texts

Whatever text is written for an export, decoding it gives the export back. The two printers write such texts, as
long as the numbers of the export fit.

* `Fact.Fits`, `Export.Fits` : numbers that fit;
* `Fact.value`, `factsValue`, `functionsValue` : the values that are printed;
* `isRecord_value`, `spells_value` : one fact; `areRecords_factsValue`, `areFunctions_functionsValue` : all of them;
* `written_print`, `written_printArray` : what the printers write;
* `parse_written` : the round trip.
-/

namespace Mend

open Json (Value)

/-- Coordinates below `2 ^ 32`. -/
def Span.Fits (s : Span) : Prop :=
  s.startLine < 2 ^ 32 ∧ s.startColumn < 2 ^ 32 ∧ s.endLine < 2 ^ 32 ∧ s.endColumn < 2 ^ 32

/-- Coordinates below `2 ^ 32`, and a size below `2 ^ 64`. -/
def Fact.Fits : Fact → Prop
  | .funcDecl span => span.Fits
  | .varType v => v.span.Fits ∧ v.size < 2 ^ 64
  | .callType span .. => span.Fits
  | .stmtType span _ => span.Fits

structure Export.Fits (e : Export) : Prop where
  globals : ∀ f ∈ e.globals, f.Fits
  functions : ∀ p ∈ e.functions, ∀ f ∈ p.2, f.Fits

/-- The value of a span: its four coordinates. -/
def Span.values (s : Span) : List Value :=
  [s.startLine, s.startColumn, s.endLine, s.endColumn].map fun n => .number (.ofNat n)

/-- The value of a fact: its positional record. -/
def Fact.value : Fact → Value
  | .funcDecl span => .array (.string (some Tag.funcDecl.text) :: span.values)
  | .varType v =>
    .array (.string (some Tag.varType.text) :: v.span.values ++
      [.string (some v.name), .string (some v.typeName), .number (.ofNat v.isArray.toNat), .number (.ofNat v.size)])
  | .callType span expr callee arguments =>
    .array (.string (some Tag.callType.text) :: span.values ++ [.string (some expr), .string (some callee)] ++
      arguments.map fun a => .array [.string (some a.name), .string (some a.typeName)])
  | .stmtType span expr => .array (.string (some Tag.stmtType.text) :: span.values ++ [.string (some expr)])

def factsValue (fs : List Fact) : Value := .array (fs.map Fact.value)

def functionsValue (functions : List (String × List Fact)) : Value :=
  .object (functions.map fun p => (some p.1, factsValue p.2))

end Mend

namespace Mend.Facts

open Json (Value Literal Spells SpellsText SpellsEntry)

/-! ## Values -/

theorem isInteger_ofNat {n : Nat} (h : n < 2 ^ 64) : IsInteger (.number (.ofNat n)) n :=
  .number (Literal.isNatural_ofNat n) h

theorem isSpan_values {s : Span} (h : s.Fits) :
    IsSpan (.number (.ofNat s.startLine)) (.number (.ofNat s.startColumn)) (.number (.ofNat s.endLine))
      (.number (.ofNat s.endColumn)) s := by
  obtain ⟨ha, hb, hc, hd⟩ := h
  exact ⟨⟨isInteger_ofNat (by omega), ha⟩, ⟨isInteger_ofNat (by omega), hb⟩, ⟨isInteger_ofNat (by omega), hc⟩,
    ⟨isInteger_ofNat (by omega), hd⟩⟩

theorem areArguments_values (arguments : List Argument) :
    List.Forall₂ IsArgument
      (arguments.map fun a => .array [.string (some a.name), .string (some a.typeName)]) arguments := by
  rw [List.forall₂_map_left_iff, List.forall₂_same]
  intro a _
  exact .pair a.name a.typeName

theorem isRecord_value {f : Fact} (h : f.Fits) : IsRecord f.value f := by
  cases f with
  | funcDecl span => exact ⟨_, rfl, .mk (.funcDecl (isSpan_values h) [])⟩
  | varType v =>
    have harray : IsTruth (.number (.ofNat v.isArray.toNat)) v.isArray := by
      cases v.isArray with
      | false => exact .integer (isInteger_ofNat (show 0 < 2 ^ 64 by decide))
      | true => exact .integer (isInteger_ofNat (show 1 < 2 ^ 64 by decide))
    have hfields := Tagged.varType (v := v) (isSpan_values h.1) (.text v.name) (.text v.typeName) harray
      (isInteger_ofNat h.2) []
    exact ⟨_, rfl, .mk hfields⟩
  | callType span expr callee arguments =>
    have hfields := Tagged.callType (isSpan_values h) (.text expr) (.text callee) (areArguments_values arguments)
    exact ⟨_, rfl, .mk hfields⟩
  | stmtType span expr => exact ⟨_, rfl, .mk (.stmtType (isSpan_values h) (.text expr) [])⟩

theorem areRecords_factsValue {fs : List Fact} (h : ∀ f ∈ fs, f.Fits) : AreRecords (factsValue fs) fs := by
  refine ⟨_, rfl, ?_⟩
  rw [List.forall₂_map_left_iff, List.forall₂_same]
  intro f hf
  exact isRecord_value (h f hf)

theorem areFunctions_functionsValue {functions : List (String × List Fact)}
    (h : ∀ p ∈ functions, ∀ f ∈ p.2, f.Fits) : AreFunctions (functionsValue functions) functions := by
  refine ⟨_, rfl, ?_⟩
  rw [List.forall₂_map_left_iff, List.forall₂_same]
  intro p hp
  exact ⟨rfl, areRecords_factsValue (h p hp)⟩

/-! ## Texts -/

theorem spells_span (s : Span) : List.Forall₂ (fun v t => Spells v t.toList) s.values s.printed := by
  rw [Span.values, Span.printed, List.forall₂_map_left_iff, List.forall₂_map_right_iff, List.forall₂_same]
  intro n _
  exact Json.spells_ofNat n

theorem spells_arguments (arguments : List Argument) :
    List.Forall₂ (fun v t => Spells v t.toList)
      (arguments.map fun a => .array [.string (some a.name), .string (some a.typeName)])
      (arguments.map fun a => Json.array [Json.quoted a.name, Json.quoted a.typeName]) := by
  rw [List.forall₂_map_left_iff, List.forall₂_map_right_iff, List.forall₂_same]
  intro a _
  exact Json.spells_array (.cons (Json.spells_quoted _) (.cons (Json.spells_quoted _) .nil))

theorem spells_value (f : Fact) : Spells f.value f.print.toList := by
  cases f with
  | funcDecl span => exact Json.spells_array (.cons (Json.spells_quoted _) (spells_span span))
  | varType v =>
    have harray : Spells (.number (.ofNat v.isArray.toNat)) (if v.isArray then "1" else "0").toList := by
      cases v.isArray with
      | false => exact Json.spells_ofNat 0
      | true => exact Json.spells_ofNat 1
    have hfields := List.rel_append (spells_span v.span) (.cons (Json.spells_quoted v.name)
      (.cons (Json.spells_quoted v.typeName) (.cons harray (.cons (Json.spells_ofNat v.size) .nil))))
    exact Json.spells_array (.cons (Json.spells_quoted _) hfields)
  | callType span expr callee arguments =>
    have hfields := List.rel_append (List.rel_append (spells_span span) (.cons (Json.spells_quoted expr)
      (.cons (Json.spells_quoted callee) .nil))) (spells_arguments arguments)
    exact Json.spells_array (.cons (Json.spells_quoted _) hfields)
  | stmtType span expr =>
    have hfields := List.rel_append (spells_span span) (.cons (Json.spells_quoted expr) .nil)
    exact Json.spells_array (.cons (Json.spells_quoted _) hfields)

theorem spells_factsValue (fs : List Fact) : Spells (factsValue fs) (printFacts fs).toList := by
  refine Json.spells_array ?_
  rw [List.forall₂_map_left_iff, List.forall₂_map_right_iff, List.forall₂_same]
  intro f _
  exact spells_value f

theorem spells_functionsValue (functions : List (String × List Fact)) :
    Spells (functionsValue functions) (printFunctions functions).toList := by
  refine Json.spells_object ?_
  rw [List.forall₂_map_left_iff, List.forall₂_map_right_iff, List.forall₂_same]
  rintro ⟨name, facts⟩ _
  exact Json.spellsEntry_quoted name (spells_factsValue facts)

theorem written_printArray {e : Export} (h : e.Fits) : ∃ v, Written v e ∧ SpellsText v e.printArray :=
  ⟨_, .array (areRecords_factsValue h.globals) (areFunctions_functionsValue h.functions),
    (Json.spells_array (.cons (Json.spells_quoted _) (.cons (spells_factsValue _)
      (.cons (spells_functionsValue _) .nil)))).text⟩

theorem written_print {e : Export} (h : e.Fits) : ∃ v, Written v e ∧ SpellsText v e.print := by
  have hpresents : Presents [(some "module_name", .string (some e.moduleName)), (some "globals", factsValue e.globals),
      (some "functions", functionsValue e.functions)] e :=
    ⟨by simp, rfl, .given (areRecords_factsValue h.globals), .given (areFunctions_functionsValue h.functions)⟩
  have hspells := Json.spells_object (.cons (Json.spellsEntry_quoted "module_name" (Json.spells_quoted e.moduleName))
    (.cons (Json.spellsEntry_quoted "globals" (spells_factsValue e.globals))
      (.cons (Json.spellsEntry_quoted "functions" (spells_functionsValue e.functions)) .nil)))
  have htext : e.print = "\x7b" ++ ",".intercalate [Json.quoted "module_name" ++ ":" ++ Json.quoted e.moduleName,
      Json.quoted "globals" ++ ":" ++ printFacts e.globals,
      Json.quoted "functions" ++ ":" ++ printFunctions e.functions] ++ "\x7d" := by
    change "\x7b" ++ Json.quoted "module_name" ++ ":" ++ Json.quoted e.moduleName ++
        ("," ++ Json.quoted "globals" ++ ":") ++ printFacts e.globals ++
        ("," ++ Json.quoted "functions" ++ ":") ++ printFunctions e.functions ++ "\x7d" =
      "\x7b" ++ (_ ++ "," ++ _ ++ "," ++ _) ++ "\x7d"
    simp only [String.append_assoc]
  rw [htext]
  exact ⟨_, .object hpresents, hspells.text⟩

/-- Decoding what is written for an export gives it back, whatever form it has and however its values are spelled;
the printed records are among what may be written, as long as they fit. An object in which a known key comes twice
is refused. -/
theorem parse_written :
    (∀ (v : Value) (e : Export) (s : String), Written v e → SpellsText v s → Export.parse (.ofString s) = .ok e) ∧
    (∀ e : Export, e.Fits →
      AreRecords (factsValue e.globals) e.globals ∧ AreFunctions (functionsValue e.functions) e.functions ∧
        Export.parse (.ofString e.print) = .ok e ∧ Export.parse (.ofString e.printArray) = .ok e) ∧
    ∀ (entries : List (Option String × Value)) (s key : String), SpellsText (.object entries) s →
      key ∈ ["module_name", "globals", "functions"] → 2 ≤ (valuesAt key entries).length →
      ∃ error, Export.parse (.ofString s) = .error error := by
  have hparse : ∀ {v e s}, Written v e → SpellsText v s → Export.parse (.ofString s) = .ok e := by
    intro v e s hwritten hspells
    rw [Export.parse, parseWith_spells _ hspells]
    exact decodeExport_written hwritten
  refine ⟨fun v e s hwritten hspells => hparse hwritten hspells, fun e h => ?_, ?_⟩
  · obtain ⟨v, hwritten, hspells⟩ := written_print h
    obtain ⟨w, hwritten', hspells'⟩ := written_printArray h
    exact ⟨areRecords_factsValue h.globals, areFunctions_functionsValue h.functions, hparse hwritten hspells,
      hparse hwritten' hspells'⟩
  · intro entries s key hspells hkey htwice
    rw [Export.parse, parseWith_spells _ hspells]
    cases hdecode : decodeExport (Value.object entries).reading with
    | error error => exact ⟨error, rfl⟩
    | ok e =>
      have honce := (decodeExport_object_iff.mp hdecode).once hkey
      omega

/-- Entries in another order, no globals, an unknown key in between and a function name that repeats; and a module
name that comes twice. -/
theorem parse_written_unordered :
    Export.parse (.ofString ("\x7b\"functions\":\x7b\"f\":[[\"stmt_type\",1,2,3,4,\"x\"]],\"f\":[]\x7d," ++
      "\"extra\":[null],\"module_name\":\"a\"\x7d")) =
      .ok ⟨"a", [], [("f", [.stmtType ⟨1, 2, 3, 4⟩ "x"]), ("f", [])]⟩ ∧
    ∃ error, Export.parse (.ofString "\x7b\"module_name\":\"a\",\"module_name\":\"b\"\x7d") = .error error := by
  obtain ⟨hparse, -, hrefuse⟩ := parse_written
  have hfunctions : AreFunctions (functionsValue [("f", [.stmtType ⟨1, 2, 3, 4⟩ "x"]), ("f", [])])
      [("f", [.stmtType ⟨1, 2, 3, 4⟩ "x"]), ("f", [])] :=
    areFunctions_functionsValue (by simp [Fact.Fits, Span.Fits])
  constructor
  · refine hparse (.object [(some "functions", functionsValue [("f", [.stmtType ⟨1, 2, 3, 4⟩ "x"]), ("f", [])]),
      (some "extra", .array [.null]), (some "module_name", .string (some "a"))]) _ _ (.object ?_) ?_
    · exact ⟨by simp, rfl, .leftOut, .given hfunctions⟩
    · exact (Json.spells_object (.cons (Json.spellsEntry_quoted "functions" (spells_functionsValue _))
        (.cons (Json.spellsEntry_quoted "extra" (Json.spells_array (.cons (b := "null") .null .nil)))
          (.cons (Json.spellsEntry_quoted "module_name" (Json.spells_quoted "a")) .nil)))).text
  · refine hrefuse [(some "module_name", .string (some "a")), (some "module_name", .string (some "b"))] _
      "module_name" ?_ (by decide) (by decide)
    exact (Json.spells_object (.cons (Json.spellsEntry_quoted "module_name" (Json.spells_quoted "a"))
      (.cons (Json.spellsEntry_quoted "module_name" (Json.spells_quoted "b")) .nil))).text

end Mend.Facts

import Mend.Proofs.Facts.Grammar

/-!
# The grammar of exports

An export is an object or an array of its three parts. The entries of an object come in any order, with others
between them, and what is empty may be left out; no known key comes twice.

* `AreRecords`, `AreFunctions` : values that hold facts;
* `valuesAt`, `Listed`, `Presents` : objects that hold an export; `Written` : both forms of one;
* `Gives`, `Completes`, `decodeFields_eq_ok_iff` : the entries still to come, after those that were read;
* `decodeExport_object_iff`, `decodeExport_array`, `decodeExport_written` : the two forms are decoded.
-/

namespace Mend.Facts

open Json (Value fieldsOf stringScan)

/-! ## Written exports -/

def AreRecords (v : Value) (fs : List Fact) : Prop := ∃ vs, v = .array vs ∧ List.Forall₂ IsRecord vs fs

/-- An object of records by function name, in order. Names may repeat. -/
def AreFunctions (v : Value) (functions : List (String × List Fact)) : Prop :=
  ∃ entries, v = .object entries ∧
    List.Forall₂ (fun entry f => entry.1 = some f.1 ∧ AreRecords entry.2 f.2) entries functions

def valuesAt (key : String) (entries : List (Option String × Value)) : List Value :=
  entries.filterMap fun entry => if entry.1 = some key then some entry.2 else none

/-- The values under a key: one that holds a list, or none for the empty list. -/
inductive Listed {α : Type} (holds : Value → List α → Prop) : List Value → List α → Prop
  | leftOut : Listed holds [] []
  | given {v : Value} {as : List α} (h : holds v as) : Listed holds [v] as

/-- The entries of an object that hold an export, in any order and among others. Every key has a text. -/
structure Presents (entries : List (Option String × Value)) (e : Export) : Prop where
  keys : ∀ entry ∈ entries, entry.1 ≠ none
  moduleName : valuesAt "module_name" entries = [.string (some e.moduleName)]
  globals : Listed AreRecords (valuesAt "globals" entries) e.globals
  functions : Listed AreFunctions (valuesAt "functions" entries) e.functions

/-- A value that holds an export: an object, or an array of the three parts. -/
inductive Written : Value → Export → Prop
  | object {entries : List (Option String × Value)} {e : Export} (h : Presents entries e) :
    Written (.object entries) e
  | array {globals functions : Value} {e : Export} (hglobals : AreRecords globals e.globals)
    (hfunctions : AreFunctions functions e.functions) :
    Written (.array [.string (some e.moduleName), globals, functions]) e

/-! ## Lists of facts -/

theorem decodeFacts_eq_ok_iff {room : Nat} {v : Value} {fs : List Fact} :
    decodeFacts room v.reading = .ok fs ↔ AreRecords v fs := by
  cases v with
  | array vs =>
    simp only [Value.reading, decodeFacts, decodeAll_eq_ok_iff, decodeFact_eq_ok_iff, AreRecords,
      Value.array.injEq, exists_eq_left']
  | _ =>
    simp only [Value.reading, decodeFacts]
    exact iff_of_false (mismatch_ne_ok _ _ _) nofun

theorem decodeFunctionFields_eq_ok_iff {room : Nat} {entries : List (Option String × Value)}
    {functions : List (String × List Fact)} :
    decodeFunctionFields room (fieldsOf entries) = .ok functions ↔
      List.Forall₂ (fun entry f => entry.1 = some f.1 ∧ AreRecords entry.2 f.2) entries functions := by
  induction entries generalizing functions with
  | nil =>
    rw [fieldsOf, decodeFunctionFields, Except.ok.injEq, List.forall₂_nil_left_iff]
    exact eq_comm
  | cons entry entries ih =>
    obtain ⟨k, v⟩ := entry
    rw [fieldsOf, decodeFunctionFields, List.forall₂_cons_left_iff]
    simp only [bind_eq_ok_iff, ofFault_eq_ok_iff, decodeFacts_eq_ok_iff, ih]
    constructor
    · rintro ⟨name, hname, facts, hfacts, others, hothers, ⟨⟩⟩
      cases k with
      | none => cases hname
      | some k =>
        cases hname
        exact ⟨(name, facts), others, ⟨rfl, hfacts⟩, hothers, rfl⟩
    · rintro ⟨⟨name, facts⟩, others, ⟨rfl, hfacts⟩, hothers, rfl⟩
      exact ⟨name, rfl, facts, hfacts, others, hothers, rfl⟩

theorem decodeFunctions_eq_ok_iff {room : Nat} {v : Value} {functions : List (String × List Fact)} :
    decodeFunctions room v.reading = .ok functions ↔ AreFunctions v functions := by
  cases v with
  | object entries =>
    simp only [Value.reading, decodeFunctions, decodeFunctionFields_eq_ok_iff, AreFunctions,
      Value.object.injEq, exists_eq_left']
  | _ =>
    simp only [Value.reading, decodeFunctions]
    exact iff_of_false (mismatch_ne_ok _ _ _) nofun

/-! ## Objects -/

/-- What a key gives in the end: what it has given already, or what the one value under it holds. -/
inductive Gives {α : Type} (holds : Value → α → Prop) : Option α → List Value → Option α → Prop
  | kept (part : Option α) : Gives holds part [] part
  | read {v : Value} {a : α} (h : holds v a) : Gives holds none [v] (some a)

theorem gives_cons_iff {α : Type} {holds : Value → α → Prop} {part r : Option α} {v : Value} {vs : List Value} :
    Gives holds part (v :: vs) r ↔ part = none ∧ ∃ a, holds v a ∧ Gives holds (some a) vs r := by
  constructor
  · intro h
    cases h with
    | read ha => exact ⟨rfl, _, ha, .kept _⟩
  · rintro ⟨rfl, a, ha, ⟨⟩⟩
    exact .read ha

theorem gives_nil_iff {α : Type} {holds : Value → α → Prop} {part r : Option α} :
    Gives holds part [] r ↔ part = r := by
  constructor
  · rintro ⟨⟩
    rfl
  · rintro rfl
    exact .kept part

theorem valuesAt_cons (key : String) (k : Option String) (v : Value) (entries : List (Option String × Value)) :
    valuesAt key ((k, v) :: entries) =
      if k = some key then v :: valuesAt key entries else valuesAt key entries := by
  rw [valuesAt, List.filterMap_cons]
  split <;> split <;> simp_all [valuesAt]

/-- Entries that complete an export of which some parts were read. -/
@[mk_iff]
structure Completes (parts : Parts) (entries : List (Option String × Value)) (e : Export) : Prop where
  keys : ∀ entry ∈ entries, entry.1 ≠ none
  moduleName : Gives (fun v name => v = .string (some name)) parts.moduleName (valuesAt "module_name" entries)
    (some e.moduleName)
  globals : ∃ g, Gives AreRecords parts.globals (valuesAt "globals" entries) g ∧ g.getD [] = e.globals
  functions : ∃ f, Gives AreFunctions parts.functions (valuesAt "functions" entries) f ∧ f.getD [] = e.functions

theorem once_eq_ok_iff {α β : Type} {part : Option α} {error : DecodeError} {x : Except DecodeError α}
    {f : α → Except DecodeError β} {b : β} :
    (if part.isSome then .error error else x >>= f) = .ok b ↔ part = none ∧ ∃ a, x = .ok a ∧ f a = .ok b := by
  cases part with
  | none => exact bind_eq_ok_iff.trans (and_iff_right rfl).symm
  | some a => exact iff_of_false nofun nofun

section Entry

variable {parts : Parts} {v : Value} {rest : Json.Fields} {entries : List (Option String × Value)} {e : Export}

theorem decodeFields_moduleName_iff :
    decodeFields parts (.field (stringScan (some "module_name")) v.reading rest) = .ok e ↔
      parts.moduleName = none ∧ ∃ name, v = .string (some name) ∧
        decodeFields { parts with moduleName := some name } rest = .ok e := by
  simp only [← decodeString_eq_ok_iff]
  rw [← once_eq_ok_iff, decodeFields]
  rfl

theorem decodeFields_globals_iff :
    decodeFields parts (.field (stringScan (some "globals")) v.reading rest) = .ok e ↔
      parts.globals = none ∧ ∃ globals, AreRecords v globals ∧
        decodeFields { parts with globals := some globals } rest = .ok e := by
  simp only [← @decodeFacts_eq_ok_iff (maxLevels - 3)]
  rw [← once_eq_ok_iff, decodeFields]
  rfl

theorem decodeFields_functions_iff :
    decodeFields parts (.field (stringScan (some "functions")) v.reading rest) = .ok e ↔
      parts.functions = none ∧ ∃ functions, AreFunctions v functions ∧
        decodeFields { parts with functions := some functions } rest = .ok e := by
  simp only [← @decodeFunctions_eq_ok_iff (maxLevels - 4)]
  rw [← once_eq_ok_iff, decodeFields]
  rfl

theorem decodeFields_unknown {k : String} (hname : k ≠ "module_name") (hglobals : k ≠ "globals")
    (hfunctions : k ≠ "functions") :
    decodeFields parts (.field (stringScan (some k)) v.reading rest) = decodeFields parts rest := by
  have hkey : ofFault (stringScan (some k)).value = .ok k := rfl
  rw [decodeFields, hkey]
  dsimp only [bind, Except.bind]
  split
  · contradiction
  · contradiction
  · contradiction
  · rw [Json.reading_skip]
    rfl

/-! The same entry, by what is left to complete. -/

theorem completes_moduleName_iff :
    Completes parts ((some "module_name", v) :: entries) e ↔ parts.moduleName = none ∧
      ∃ name, v = .string (some name) ∧ Completes { parts with moduleName := some name } entries e := by
  simp only [completes_iff, List.forall_mem_cons, valuesAt_cons, gives_cons_iff, Option.some.injEq,
    String.reduceEq, ↓reduceIte, ne_eq, reduceCtorEq, not_false_eq_true, true_and]
  constructor
  · rintro ⟨hkeys, ⟨hnone, name, hv, hname⟩, hrest⟩
    exact ⟨hnone, name, hv, hkeys, hname, hrest⟩
  · rintro ⟨hnone, name, hv, hkeys, hname, hrest⟩
    exact ⟨hkeys, ⟨hnone, name, hv, hname⟩, hrest⟩

theorem completes_globals_iff :
    Completes parts ((some "globals", v) :: entries) e ↔ parts.globals = none ∧
      ∃ globals, AreRecords v globals ∧ Completes { parts with globals := some globals } entries e := by
  simp only [completes_iff, List.forall_mem_cons, valuesAt_cons, gives_cons_iff, Option.some.injEq,
    String.reduceEq, ↓reduceIte, ne_eq, reduceCtorEq, not_false_eq_true, true_and]
  constructor
  · rintro ⟨hkeys, hname, ⟨g, ⟨hnone, globals, hv, hg⟩, hlist⟩, hfunctions⟩
    exact ⟨hnone, globals, hv, hkeys, hname, ⟨g, hg, hlist⟩, hfunctions⟩
  · rintro ⟨hnone, globals, hv, hkeys, hname, ⟨g, hg, hlist⟩, hfunctions⟩
    exact ⟨hkeys, hname, ⟨g, ⟨hnone, globals, hv, hg⟩, hlist⟩, hfunctions⟩

theorem completes_functions_iff :
    Completes parts ((some "functions", v) :: entries) e ↔ parts.functions = none ∧
      ∃ functions, AreFunctions v functions ∧ Completes { parts with functions := some functions } entries e := by
  simp only [completes_iff, List.forall_mem_cons, valuesAt_cons, gives_cons_iff, Option.some.injEq,
    String.reduceEq, ↓reduceIte, ne_eq, reduceCtorEq, not_false_eq_true, true_and]
  constructor
  · rintro ⟨hkeys, hname, hglobals, ⟨f, ⟨hnone, functions, hv, hf⟩, hlist⟩⟩
    exact ⟨hnone, functions, hv, hkeys, hname, hglobals, ⟨f, hf, hlist⟩⟩
  · rintro ⟨hnone, functions, hv, hkeys, hname, hglobals, ⟨f, hf, hlist⟩⟩
    exact ⟨hkeys, hname, hglobals, ⟨f, ⟨hnone, functions, hv, hf⟩, hlist⟩⟩

theorem completes_unknown_iff {k : String} (hname : k ≠ "module_name") (hglobals : k ≠ "globals")
    (hfunctions : k ≠ "functions") :
    Completes parts ((some k, v) :: entries) e ↔ Completes parts entries e := by
  simp [completes_iff, valuesAt_cons, hname, hglobals, hfunctions]

end Entry

/-- The entries still to come are decoded if they complete the parts that were read, each known key at most
once over both. -/
theorem decodeFields_eq_ok_iff {parts : Parts} {entries : List (Option String × Value)} {e : Export} :
    decodeFields parts (fieldsOf entries) = .ok e ↔ Completes parts entries e := by
  -- for all parts at once: an entry with a known key settles one of them for the entries behind it
  induction entries generalizing parts with
  | nil =>
    rw [fieldsOf, decodeFields]
    constructor
    · intro h
      cases hname : parts.moduleName with
      | none =>
        rw [hname] at h
        cases h
      | some name =>
        rw [hname] at h
        cases h
        exact ⟨nofun, hname ▸ .kept _, ⟨_, .kept _, rfl⟩, ⟨_, .kept _, rfl⟩⟩
    · rintro ⟨-, hname, ⟨g, hglobals, hg⟩, ⟨f, hfunctions, hf⟩⟩
      rw [gives_nil_iff.mp hname, gives_nil_iff.mp hglobals, gives_nil_iff.mp hfunctions, hg, hf]
  | cons entry entries ih =>
    obtain ⟨k, v⟩ := entry
    rw [fieldsOf]
    cases k with
    | none => exact iff_of_false nofun fun h => h.keys (none, v) List.mem_cons_self rfl
    | some k =>
      by_cases hname : k = "module_name"
      · subst hname
        rw [decodeFields_moduleName_iff, completes_moduleName_iff]
        simp only [ih]
      by_cases hglobals : k = "globals"
      · subst hglobals
        rw [decodeFields_globals_iff, completes_globals_iff]
        simp only [ih]
      by_cases hfunctions : k = "functions"
      · subst hfunctions
        rw [decodeFields_functions_iff, completes_functions_iff]
        simp only [ih]
      · rw [decodeFields_unknown hname hglobals hfunctions, ih, completes_unknown_iff hname hglobals hfunctions]

theorem listed_iff {α : Type} {holds : Value → List α → Prop} {vs : List Value} {as : List α} :
    (∃ r, Gives holds none vs r ∧ r.getD [] = as) ↔ Listed holds vs as := by
  constructor
  · rintro ⟨r, hr, rfl⟩
    cases hr with
    | kept => exact .leftOut
    | read h => exact .given h
  · intro h
    cases h with
    | leftOut => exact ⟨none, .kept none, rfl⟩
    | given h => exact ⟨some as, .read h, rfl⟩

theorem completes_nothing_iff {entries : List (Option String × Value)} {e : Export} :
    Completes ⟨none, none, none⟩ entries e ↔ Presents entries e := by
  have hname : ∀ {vs name}, Gives (fun v name => v = .string (some name)) none vs (some name) ↔
      vs = [.string (some name)] := by
    intro vs name
    constructor
    · intro h
      cases h with
      | read hv => rw [hv]
    · rintro rfl
      exact .read rfl
  constructor
  · rintro ⟨hkeys, hmodule, hglobals, hfunctions⟩
    exact ⟨hkeys, hname.mp hmodule, listed_iff.mp hglobals, listed_iff.mp hfunctions⟩
  · rintro ⟨hkeys, hmodule, hglobals, hfunctions⟩
    exact ⟨hkeys, hname.mpr hmodule, listed_iff.mpr hglobals, listed_iff.mpr hfunctions⟩

theorem decodeExport_object_iff {entries : List (Option String × Value)} {e : Export} :
    decodeExport (Value.object entries).reading = .ok e ↔ Presents entries e := by
  rw [Value.reading, decodeExport, decodeFields_eq_ok_iff, completes_nothing_iff]

theorem Presents.once {entries : List (Option String × Value)} {e : Export} (h : Presents entries e)
    {key : String} (hkey : key ∈ ["module_name", "globals", "functions"]) : (valuesAt key entries).length ≤ 1 := by
  have hlisted : ∀ {α : Type} {holds : Value → List α → Prop} {vs : List Value} {as : List α},
      Listed holds vs as → vs.length ≤ 1 := by
    rintro α holds vs as (_ | _) <;> simp
  simp only [List.mem_cons, List.not_mem_nil, or_false] at hkey
  rcases hkey with rfl | rfl | rfl
  · rw [h.moduleName]
    exact Nat.le_refl 1
  · exact hlisted h.globals
  · exact hlisted h.functions

/-! ## Arrays -/

theorem decodeExport_array {globals functions : Value} {e : Export} (hglobals : AreRecords globals e.globals)
    (hfunctions : AreFunctions functions e.functions) :
    decodeExport (Value.array [.string (some e.moduleName), globals, functions]).reading = .ok e := by
  rw [Value.reading, decodeExport, decodeParts, run'_next?_bind_eq_ok_iff]
  refine Or.inr ⟨_, _, e.moduleName, rfl, decodeString_eq_ok_iff.mpr rfl, ?_⟩
  rw [run'_next?_bind_eq_ok_iff]
  refine Or.inr ⟨_, _, e.globals, rfl, decodeFacts_eq_ok_iff.mpr hglobals, ?_⟩
  rw [run'_next?_bind_eq_ok_iff]
  refine Or.inr ⟨_, _, e.functions, rfl, decodeFunctions_eq_ok_iff.mpr hfunctions, ?_⟩
  rw [run'_noneLeft_bind_eq_ok_iff]
  exact ⟨rfl, rfl⟩

/-- Whatever form an export is written in, it is decoded. -/
theorem decodeExport_written {v : Value} {e : Export} (h : Written v e) : decodeExport v.reading = .ok e := by
  cases h with
  | object h => exact decodeExport_object_iff.mpr h
  | array hglobals hfunctions => exact decodeExport_array hglobals hfunctions

end Mend.Facts

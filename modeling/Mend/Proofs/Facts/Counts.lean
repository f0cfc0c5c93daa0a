import Mend.Proofs.Facts.Statements
import Mend.Total

/-!
# The counts of a collect

A collect counts the records of an export while it takes them in. What it has counted is what the store
answers with afterwards, whatever it held before.

* `CountsExport` : counts of the entries and records of an export;
* `CollectStats.foldl_countRecord`, `CollectStats.foldl_countEntry` : counting records, counting entries;
* `CollectStats.countsExport` : so an export is counted as it should be;
* `CountsStored` : counts of what queries give;
* `Describes.counts` : a stored function has as many records as the entry that defines it;
* `CountsExport.stored` : so the counts of an accepted export are those of its module;
* `Store.collect_counts` : both for an accepted export.
-/

namespace Mend

def recordsOf (tag : Tag) (records : List Fact) : Nat := records.countP fun r => r.tag = tag

def definedEntries (entries : List (String × List Fact)) : List (String × List Fact) :=
  entries.filter fun f => startsWithDeclaration f.2

/-- The number of records of a kind in the entries that define functions. -/
def definedRecords (tag : Tag) (entries : List (String × List Fact)) : Nat :=
  total (fun f => recordsOf tag f.2) (definedEntries entries)

/-- The counts of an export. Every entry is a function or skipped, and the records are those of the entries
that define functions: neither a record of a skipped entry nor a declaration is among them. -/
structure CountsExport (c : CollectStats) (e : Export) : Prop where
  entries : c.functions + c.skippedFunctions = e.functions.length
  functions : c.functions = (definedEntries e.functions).length
  globals : c.globals = e.globals.length
  vars : c.vars = definedRecords .varType e.functions
  calls : c.calls = definedRecords .callType e.functions
  statements : c.statements = definedRecords .stmtType e.functions

/-! ## Counting -/

section Entries

variable {entry : String × List Fact} (entries : List (String × List Fact))

theorem definedEntries_of_declared (h : startsWithDeclaration entry.2 = true) :
    definedEntries (entry :: entries) = entry :: definedEntries entries :=
  List.filter_cons_of_pos (by exact h)

theorem definedEntries_of_skipped (h : startsWithDeclaration entry.2 = false) :
    definedEntries (entry :: entries) = definedEntries entries :=
  List.filter_cons_of_neg (by simp [h])

theorem length_definedEntries_le : (definedEntries entries).length ≤ entries.length :=
  List.length_filter_le _ _

end Entries

namespace CollectStats

theorem foldl_countGlobal (facts : List Fact) (c : CollectStats) :
    facts.foldl (fun c _ => c.countGlobal) c = { c with globals := c.globals + facts.length } := by
  induction facts generalizing c with
  | nil => rfl
  | cons fact facts ih =>
    rw [List.foldl_cons, ih, countGlobal, List.length_cons, Nat.add_assoc, Nat.add_comm 1]

theorem foldl_countRecord (records : List Fact) (c : CollectStats) :
    records.foldl countRecord c =
      { c with
        vars := c.vars + recordsOf .varType records
        calls := c.calls + recordsOf .callType records
        statements := c.statements + recordsOf .stmtType records } := by
  induction records generalizing c with
  | nil => rfl
  | cons record records ih =>
    rw [List.foldl_cons, ih]
    cases record <;> simp [countRecord, recordsOf, Fact.tag, Nat.add_assoc, Nat.add_comm 1]

/-- A function is counted with its records; the declaration in front is none of them. -/
theorem countEntry_of_declared {records : List Fact} (h : startsWithDeclaration records = true)
    (c : CollectStats) :
    c.countEntry records =
      { c with
        functions := c.functions + 1
        vars := c.vars + recordsOf .varType records
        calls := c.calls + recordsOf .callType records
        statements := c.statements + recordsOf .stmtType records } := by
  unfold startsWithDeclaration at h
  split at h
  · next span rest => simp [countEntry, foldl_countRecord, recordsOf, Fact.tag]
  · cases h

theorem countEntry_of_skipped {records : List Fact} (h : startsWithDeclaration records = false)
    (c : CollectStats) : c.countEntry records = { c with skippedFunctions := c.skippedFunctions + 1 } := by
  unfold countEntry
  split
  · cases h
  · rfl

theorem foldl_countEntry (entries : List (String × List Fact)) (c : CollectStats) :
    entries.foldl (fun c f => c.countEntry f.2) c =
      { c with
        functions := c.functions + (definedEntries entries).length
        skippedFunctions := c.skippedFunctions + (entries.length - (definedEntries entries).length)
        vars := c.vars + definedRecords .varType entries
        calls := c.calls + definedRecords .callType entries
        statements := c.statements + definedRecords .stmtType entries } := by
  induction entries generalizing c with
  | nil => rfl
  | cons entry entries ih =>
    rw [List.foldl_cons, ih]
    unfold definedRecords
    cases h : startsWithDeclaration entry.2 with
    | true =>
      rw [countEntry_of_declared h, definedEntries_of_declared entries h]
      simp [Nat.add_assoc, Nat.add_comm 1]
    | false =>
      have hle := length_definedEntries_le entries
      rw [countEntry_of_skipped h, definedEntries_of_skipped entries h, List.length_cons,
        Nat.sub_add_comm hle, Nat.add_assoc, Nat.add_comm 1]

theorem countsExport (e : Export) : CountsExport (ofExport e) e := by
  rw [ofExport, foldl_countGlobal, foldl_countEntry]
  simp only [Nat.zero_add]
  refine ⟨?_, rfl, rfl, rfl, rfl, rfl⟩
  exact Nat.add_sub_cancel' (length_definedEntries_le e.functions)

end CollectStats

/-! ## What is stored -/

/-- The counts of what a store answers with about a module. -/
structure CountsStored (c : CollectStats) (s : Store) (m : String) : Prop where
  functions : c.functions = (s.functions m).length
  globals : c.globals = (s.globals m).length
  vars : c.vars = total (·.vars.length) (s.functions m)
  calls : c.calls = total (·.calls.length) (s.functions m)
  statements : c.statements = total (·.statements.length) (s.functions m)
  listed : c.statements = (s.statements m).length

theorem total_eq_of_forall₂ {α β : Type} {R : α → β → Prop} {f : α → Nat} {g : β → Nat} {as : List α}
    {bs : List β} (h : List.Forall₂ R as bs) (hfg : ∀ a b, R a b → f a = g b) : total f as = total g bs := by
  induction h with
  | nil => rfl
  | cons hab _ ih => rw [total_cons, total_cons, hfg _ _ hab, ih]

/-- What is picked from records, if that is the records of one kind. -/
theorem length_filterMap_eq_recordsOf {α : Type} {pick : Fact → Option α} {tag : Tag}
    (h : ∀ r, (pick r).isSome = decide (r.tag = tag)) (records : List Fact) :
    (records.filterMap pick).length = recordsOf tag records := by
  rw [List.length_filterMap_eq_countP, recordsOf]
  simp only [h]

theorem Describes.counts {m : String} {entry : String × List Fact} {f : FunctionDef}
    (h : Describes m entry f) :
    recordsOf .varType entry.2 = f.vars.length ∧ recordsOf .callType entry.2 = f.calls.length ∧
      recordsOf .stmtType entry.2 = f.statements.length := by
  rw [h.vars, h.calls, h.statements, List.length_map]
  refine ⟨?_, ?_, ?_⟩
  all_goals
    refine (length_filterMap_eq_recordsOf (fun r => ?_) _).symm
    cases r <;> rfl

theorem Store.length_statements {s : Store} (hs : s.Linked) (m : String) :
    (s.statements m).length = total (·.statements.length) (s.functions m) := by
  rw [(sortedBy_statements s m).perm.length_eq, ← collectedStatements_eq hs, collectedStatements]
  induction s.functions m with
  | nil => rfl
  | cons f fs ih => rw [List.flatMap_cons, List.length_append, ih, total_cons]

/-- Where the functions and globals of a module are those of an export, its counts are theirs. -/
theorem CountsExport.stored {c : CollectStats} {e : Export} {s : Store} {m : String} (hc : CountsExport c e)
    (hs : s.Linked)
    (hfunctions : List.Forall₂ (Describes m) (definedEntries e.functions) (s.functions m))
    (hglobals : List.Forall₂ DescribesGlobal e.globals (s.globals m)) : CountsStored c s m := by
  have hstatements : definedRecords .stmtType e.functions = total (·.statements.length) (s.functions m) :=
    total_eq_of_forall₂ hfunctions fun _ _ h => h.counts.2.2
  exact {
    functions := hc.functions.trans hfunctions.length_eq
    globals := hc.globals.trans hglobals.length_eq
    vars := hc.vars.trans (total_eq_of_forall₂ hfunctions fun _ _ h => h.counts.1)
    calls := hc.calls.trans (total_eq_of_forall₂ hfunctions fun _ _ h => h.counts.2.1)
    statements := hc.statements.trans hstatements
    listed := (hc.statements.trans hstatements).trans (Store.length_statements hs m).symm }

namespace Store

/-- The counts that an accepted export comes back with are those of the export, and those of what the store
answers with about its module from then on. -/
theorem collect_counts {s s' : Store} {e : Export} {stats : CollectStats} (hs : s.Reachable)
    (h : s.collect e = .ok (s', stats)) : CountsExport stats e ∧ CountsStored stats s' e.moduleName := by
  obtain ⟨hstats, hreplaces⟩ := collect_ok hs.linked h
  have hexport : CountsExport stats e := hstats ▸ CollectStats.countsExport e
  refine ⟨hexport, hexport.stored hreplaces.linked ?_ (globalVariables_describes hreplaces.globals)⟩
  rw [hreplaces.functions]
  exact definedFunctions_describes _ _ _

/-! A module with a function that is declared twice, one of the same name, and one that is only used. It has
been collected before, with another function, and so has another module. -/

namespace Redeclared

def facts : Export :=
  ⟨"c.c", [.varType ⟨"total", "int", ⟨1, 1, 1, 9⟩, false, 4⟩],
    [("f", [.funcDecl ⟨2, 1, 2, 12⟩, .varType ⟨"n", "int", ⟨3, 7, 3, 11⟩, false, 4⟩, .funcDecl ⟨3, 1, 5, 1⟩,
        .callType ⟨4, 3, 4, 9⟩ "puts(s)" "puts" [⟨"s", "char *"⟩], .stmtType ⟨4, 3, 4, 9⟩ "puts(s)"]),
      ("puts", [.varType ⟨"s", "char *", ⟨0, 0, 0, 0⟩, false, 8⟩, .funcDecl ⟨0, 0, 0, 0⟩]),
      ("f", [.funcDecl ⟨7, 1, 9, 1⟩, .stmtType ⟨8, 3, 8, 10⟩ "return 0"])]⟩

def earlier : Export := ⟨"c.c", [], [("g", [.funcDecl ⟨1, 1, 3, 1⟩, .stmtType ⟨2, 3, 2, 4⟩ "x;"])]⟩

def other : Export := ⟨"d.c", [], [("h", [.funcDecl ⟨1, 1, 2, 1⟩, .stmtType ⟨2, 3, 2, 4⟩ "z;"])]⟩

def store : Store := (empty.collectAll [earlier, other]).1

end Redeclared

/-- Two functions, one that is skipped, a global, and of the records behind declarations one variable, one
call and two statements. -/
theorem collect_counts_redeclared :
    ∃ s', Redeclared.store.collect Redeclared.facts = .ok (s', ⟨2, 1, 1, 1, 1, 2⟩) ∧
      CountsExport ⟨2, 1, 1, 1, 1, 2⟩ Redeclared.facts ∧ CountsStored ⟨2, 1, 1, 1, 1, 2⟩ s' "c.c" := by
  have hcollect : Redeclared.store.collect Redeclared.facts =
      .ok ((Redeclared.store.collectAll [Redeclared.facts]).1, ⟨2, 1, 1, 1, 1, 2⟩) := by decide +kernel
  exact ⟨_, hcollect, collect_counts ⟨_, rfl⟩ hcollect⟩

end Store

end Mend

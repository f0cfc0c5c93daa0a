import Mathlib.Data.List.Forall2
import Mend.Proofs.Facts.Ingest

/-!
# Collecting refines a map from modules to exports

Whatever is collected, in whatever order and with whatever refusals, the store answers as if it kept for
every module the last export of that module that was accepted, and nothing else.

* `Describes` : a stored function says what its entry of the export says;
* `functions_collect`, `globals_collect`, `names_collect` : the module that is collected is replaced;
  `functions_collect_of_ne`, `globals_collect_of_ne` : all others stay;
* `Holds s known` : the store `s` answers every query as the map `known` says;
* `Holds.collect` : one accepted export is one update of the map;
* `holds_collectAll` : so after any sequence of exports.
-/

namespace Mend

namespace Fact

/-- The variable a record declares, as it was exported. -/
def declaredVariable? : Fact → Option Variable
  | .varType v => some v
  | _ => none

end Fact

def startsWithDeclaration : List Fact → Bool
  | .funcDecl _ :: _ => true
  | _ => false

def Variable.bounded (v : Variable) : Variable := { v with size := min v.size 9223372036854775807 }

/-- A function of a module as an entry of an export describes it. -/
structure Describes (m : String) (entry : String × List Fact) (f : FunctionDef) : Prop where
  name : f.name = entry.1
  moduleName : f.moduleName = m
  span : (entry.2.filterMap Fact.declaredSpan?).getLast? = some f.span
  vars : f.vars = (entry.2.filterMap Fact.declaredVariable?).map Variable.bounded
  calls : f.calls = entry.2.filterMap (Fact.call? m)
  statements : f.statements = entry.2.filterMap (Fact.statement? m)

def DescribesGlobal (fact : Fact) (v : Variable) : Prop :=
  ∃ declared, fact = .varType declared ∧ v = declared.bounded

/-! ## One export -/

theorem filterMap_keptVariable? (facts : List Fact) :
    facts.filterMap Fact.keptVariable? = (facts.filterMap Fact.declaredVariable?).map Variable.bounded := by
  rw [List.map_filterMap]
  congr 1
  funext fact
  cases fact <;> rfl

/-- Records define a function exactly if they start with its declaration. -/
theorem ofEntries?_describes {m name : String} {id : Nat} {entries : List Fact} {f : FunctionDef}
    (h : FunctionDef.ofEntries? m name id entries = some f) :
    startsWithDeclaration entries = true ∧ Describes m (name, entries) f := by
  unfold FunctionDef.ofEntries? at h
  split at h
  · next span rest =>
    cases h
    refine ⟨rfl, rfl, rfl, ?_, ?_, rfl, rfl⟩
    · exact List.getLast?_cons
    · exact filterMap_keptVariable? rest
  · cases h

theorem not_startsWithDeclaration_of_ofEntries? {m name : String} {id : Nat} {entries : List Fact}
    (h : FunctionDef.ofEntries? m name id entries = none) : startsWithDeclaration entries = false := by
  unfold FunctionDef.ofEntries? at h
  split at h
  · cases h
  · next hno =>
    unfold startsWithDeclaration
    split
    · next span rest => exact absurd rfl (hno span rest)
    · rfl

namespace Store

theorem definedFunctions_describes (m : String) (id : Nat) (entries : List (String × List Fact)) :
    List.Forall₂ (Describes m) (entries.filter fun e => startsWithDeclaration e.2)
      (definedFunctions m id entries) := by
  induction entries generalizing id with
  | nil => exact .nil
  | cons entry entries ih =>
    obtain ⟨name, facts⟩ := entry
    rw [definedFunctions]
    cases h : FunctionDef.ofEntries? m name id facts with
    | none =>
      rw [List.filter_cons_of_neg (by simp [not_startsWithDeclaration_of_ofEntries? h])]
      exact ih id
    | some f =>
      obtain ⟨hstart, hf⟩ := ofEntries?_describes h
      rw [List.filter_cons_of_pos (by exact hstart)]
      exact .cons hf (ih (id + 1))

theorem globalVariables_describes {m : String} {facts : List Fact} {vs : List Variable}
    (h : globalVariables m facts = .ok vs) : List.Forall₂ DescribesGlobal facts vs := by
  induction facts generalizing vs with
  | nil =>
    cases h
    exact .nil
  | cons fact facts ih =>
    cases fact with
    | varType v =>
      rw [globalVariables] at h
      cases hrest : globalVariables m facts with
      | error e =>
        rw [hrest] at h
        cases h
      | ok us =>
        rw [hrest] at h
        cases h
        exact .cons ⟨v, rfl, rfl⟩ (ih hrest)
    | funcDecl => cases h
    | callType => cases h
    | stmtType => cases h

/-! ## What queries see of it -/

section Collect

variable {s s' : Store} {e : Export} {stats : CollectStats}

theorem Linked.collect (hs : Linked s) (h : s.collect e = .ok (s', stats)) : Linked s' :=
  (collect_ok hs h).2.linked

theorem names_collect (hs : Linked s) (h : s.collect e = .ok (s', stats)) :
    s'.names = (s.names.filter fun n => n ≠ e.moduleName) ++ [e.moduleName] :=
  (collect_ok hs h).2.names

theorem globals_collect (hs : Linked s) (h : s.collect e = .ok (s', stats)) :
    globalVariables e.moduleName e.globals = .ok (s'.globals e.moduleName) :=
  (collect_ok hs h).2.globals

theorem functions_collect (hs : Linked s) (h : s.collect e = .ok (s', stats)) :
    s'.functions e.moduleName =
      definedFunctions e.moduleName (s.without e.moduleName).functionRows.nextId e.functions :=
  (collect_ok hs h).2.functions

section Other

variable (hs : Linked s) (h : s.collect e = .ok (s', stats)) {m : String} (hm : e.moduleName ≠ m)

include hs h hm

theorem globals_collect_of_ne : s'.globals m = s.globals m := by
  have hreplaces := (collect_ok hs h).2
  rw [← globals_without hm.symm, hreplaces.others, globals_without hm.symm]

theorem functions_collect_of_ne : s'.functions m = s.functions m := by
  have hreplaces := (collect_ok hs h).2
  rw [← functions_without hreplaces.linked hm.symm, hreplaces.others, functions_without hs hm.symm]

theorem mem_names_collect_of_ne : m ∈ s'.names ↔ m ∈ s.names := by
  rw [names_collect hs h, List.mem_append, List.mem_filter, List.mem_singleton]
  simp [hm.symm]

end Other

end Collect

/-- What is known of a module, without sorting rows that are in order. -/
theorem functions_eq (s : Store) (m : String) :
    s.functions m = (s.functionRows.rows.filter fun r => r.cells.moduleName = m).map fun r =>
      ⟨r.id, r.cells.moduleName, r.cells.name, r.cells.span,
        (s.varRows.rows.filter fun v => v.cells.functionId = r.id).map (·.cells.declared),
        (s.callRows.rows.filter fun c => c.cells.functionId = r.id).map fun c =>
          ⟨c.cells.moduleName, c.cells.expr, c.cells.callee, c.cells.span,
            (s.argumentRows.rows.filter fun a => a.cells.callId = c.id).map (·.cells.argument)⟩,
        (s.statementRows.rows.filter fun st => st.cells.functionId = r.id).map statement⟩ := by
  rw [functions, Table.select_byId]
  refine List.map_congr_left fun r _ => ?_
  rw [hydrate, vars, calls, functionStatements, Table.select_byId, Table.select_byId, Table.select_byId]
  refine congrArg (FunctionDef.mk _ _ _ _ _ · _) (List.map_congr_left fun c _ => ?_)
  rw [callSite, arguments, Table.select_byId]

/-! ## Modules -/

theorem module?_eq (s : Store) (n : String) : s.module? n = if n ∈ s.names then some ⟨n⟩ else none := by
  rw [module?]
  cases h : s.names.find? fun a => a = n with
  | none =>
    have hnot : n ∉ s.names := fun hmem => by simpa using List.find?_eq_none.mp h n hmem
    rw [if_neg hnot]
    rfl
  | some a =>
    have ha : a = n := by simpa using List.find?_some h
    rw [if_pos (ha ▸ List.mem_of_find?_eq_some h), ha]
    rfl

theorem module?_eq_none_iff (s : Store) (n : String) : s.module? n = none ↔ n ∉ s.names := by
  rw [module?_eq]
  split <;> simp_all

theorem pairwise_moduleNames (s : Store) : s.moduleNames.Pairwise (· < ·) := by
  have hsorted : s.moduleNames.Pairwise fun a b => decide (a ≤ b) = true := by
    apply List.pairwise_mergeSort
    · intro a b c hab hbc
      exact decide_eq_true (String.le_trans (of_decide_eq_true hab) (of_decide_eq_true hbc))
    · intro a b
      simpa using String.le_total a b
  have hnodup : s.moduleNames.Nodup := (List.mergeSort_perm _ _).nodup_iff.mpr s.nodup
  refine (hsorted.and hnodup).imp ?_
  rintro a b ⟨hle, hne⟩
  exact Std.lt_of_le_of_ne (of_decide_eq_true hle) hne

theorem mem_moduleNames {s : Store} {n : String} : n ∈ s.moduleNames ↔ n ∈ s.names :=
  List.mem_mergeSort

theorem functionNamed_eq_find? (s : Store) (m name : String) :
    s.functionNamed m name = (s.functions m).find? fun f => f.name = name := by
  rw [functionNamed, functions, Table.select_byId, Table.select_byId, List.head?_filter, List.find?_map,
    List.find?_filter]
  congr 2
  funext r
  rw [Bool.eq_iff_iff]
  simp only [Bool.and_eq_true, decide_eq_true_eq, Function.comp_apply]
  exact Iff.rfl

/-! ## The map a store stands for -/

/-- The store answers every query as the map from modules to exports says. -/
structure Holds (s : Store) (known : String → Option Export) : Prop where
  unknown : ∀ m, known m = none →
    s.module? m = none ∧ s.functions m = [] ∧ s.globals m = [] ∧ s.statements m = []
  module : ∀ m e, known m = some e → (s.module? m).map (·.name) = some m
  globals : ∀ m e, known m = some e → List.Forall₂ DescribesGlobal e.globals (s.globals m)
  functions : ∀ m e, known m = some e →
    List.Forall₂ (Describes m) (e.functions.filter fun f => startsWithDeclaration f.2) (s.functions m)
  functionNamed : ∀ m name,
    s.functionNamed m name = (s.functions m).find? fun f => f.name = name
  ascending : s.moduleNames.Pairwise (· < ·)
  listed : ∀ m, m ∈ s.moduleNames ↔ known m ≠ none

theorem queries_of_not_mem {s : Store} {m : String} (hs : Linked s) (h : m ∉ s.names) :
    s.functions m = [] ∧ s.globals m = [] ∧ s.statements m = [] := by
  have hfunctions : ∀ r ∈ s.functionRows.rows, r.cells.moduleName ≠ m := by
    rintro r hr rfl
    exact h (hs.functions r hr)
  refine ⟨List.map_eq_nil_iff.mpr (Table.select_eq_nil fun r hr => by simpa using hfunctions r hr),
    List.map_eq_nil_iff.mpr (Table.select_eq_nil fun r hr => ?_),
    List.map_eq_nil_iff.mpr (Table.select_eq_nil fun r hr => ?_)⟩
  · have hne : r.cells.moduleName ≠ m := fun heq => h (heq ▸ hs.globals r hr)
    simpa using hne
  · obtain ⟨f, hf, -, hmodule⟩ := hs.statements r hr
    simpa [hmodule] using hfunctions f hf

theorem holds_empty : Holds empty fun _ => none where
  unknown _ _ := ⟨rfl, queries_of_not_mem linked_empty List.not_mem_nil⟩
  module _ _ h := by cases h
  globals _ _ h := by cases h
  functions _ _ h := by cases h
  functionNamed := functionNamed_eq_find? empty
  ascending := pairwise_moduleNames empty
  listed m := by
    rw [mem_moduleNames]
    exact iff_of_false List.not_mem_nil fun h => h rfl

def update (known : String → Option Export) (e : Export) : String → Option Export :=
  fun m => if e.moduleName = m then some e else known m

/-- An accepted export updates the map at its module. -/
theorem Holds.collect {s s' : Store} {known : String → Option Export} {e : Export}
    {stats : CollectStats} (hs : Holds s known) (hlinked : Linked s) (h : s.collect e = .ok (s', stats)) :
    Holds s' (update known e) := by
  have hlisted : ∀ m, m ∈ s'.moduleNames ↔ update known e m ≠ none := by
    intro m
    rw [mem_moduleNames]
    by_cases hm : e.moduleName = m
    · simp [update, hm, names_collect hlinked h]
    · rw [mem_names_collect_of_ne hlinked h hm, ← mem_moduleNames, hs.listed m, update, if_neg hm]
  refine ⟨?_, ?_, ?_, ?_, functionNamed_eq_find? s', pairwise_moduleNames s', hlisted⟩
  · intro m hm
    have hnot : m ∉ s'.names := fun hmem => (hlisted m).mp (mem_moduleNames.mpr hmem) hm
    exact ⟨(module?_eq_none_iff s' m).mpr hnot, queries_of_not_mem (hlinked.collect h) hnot⟩
  · intro m a ha
    have hmem : m ∈ s'.names := mem_moduleNames.mp ((hlisted m).mpr (by rw [ha]; nofun))
    rw [module?_eq, if_pos hmem, Option.map_some]
  · intro m a ha
    by_cases hm : e.moduleName = m
    · rw [update, if_pos hm] at ha
      cases ha
      subst hm
      exact globalVariables_describes (globals_collect hlinked h)
    · rw [update, if_neg hm] at ha
      rw [globals_collect_of_ne hlinked h hm]
      exact hs.globals m a ha
  · intro m a ha
    by_cases hm : e.moduleName = m
    · rw [update, if_pos hm] at ha
      cases ha
      subst hm
      rw [functions_collect hlinked h]
      exact definedFunctions_describes _ _ _
    · rw [update, if_neg hm] at ha
      rw [functions_collect_of_ne hlinked h hm]
      exact hs.functions m a ha

/-! ## Sequences of exports -/

/-- Collects exports in turn: the store in the end, and the exports that were accepted. -/
def collectAll (s : Store) : List Export → Store × List Export
  | [] => (s, [])
  | e :: es =>
    match s.ingest e with
    | (.ok _, s') => ((s'.collectAll es).1, e :: (s'.collectAll es).2)
    | (.error _, s') => s'.collectAll es

section Sequence

variable {s s' : Store} {e : Export}

theorem collectAll_of_ok {stats : CollectStats} (h : s.collect e = .ok (s', stats)) (es : List Export) :
    s.collectAll (e :: es) = ((s'.collectAll es).1, e :: (s'.collectAll es).2) := by
  rw [collectAll, collect_eq_ok_iff.mp h]

theorem collectAll_of_error {err : FactError} (h : s.collect e = .error err) (es : List Export) :
    s.collectAll (e :: es) = s.collectAll es := by
  rw [collectAll, ingest_of_collect_error h]

end Sequence

/-- What holds of a store and outlives every accepted export outlives all sequences of exports. -/
theorem kept_collectAll {I : Store → Prop} (hstep : ∀ s e s' stats, I s → s.collect e = .ok (s', stats) → I s')
    {s : Store} (hs : I s) (es : List Export) : I (s.collectAll es).1 := by
  induction es generalizing s with
  | nil => exact hs
  | cons e es ih =>
    cases h : s.collect e with
    | error err =>
      rw [collectAll_of_error h]
      exact ih hs
    | ok result =>
      obtain ⟨s', stats⟩ := result
      rw [collectAll_of_ok h]
      exact ih (hstep s e s' stats hs h)

def lastOf (es : List Export) (m : String) : Option Export :=
  (es.filter fun e => e.moduleName = m).getLast?

theorem foldl_update (known : String → Option Export) (es : List Export) (m : String) :
    es.foldl update known m = (lastOf es m).or (known m) := by
  induction es generalizing known with
  | nil => rfl
  | cons e es ih =>
    rw [List.foldl_cons, ih, lastOf, lastOf, update]
    by_cases hm : e.moduleName = m
    · rw [if_pos hm, List.filter_cons_of_pos (by simpa using hm), List.getLast?_cons]
      cases (es.filter fun e => e.moduleName = m).getLast? <;> rfl
    · rw [if_neg hm, List.filter_cons_of_neg (by simpa using hm)]

theorem Holds.collectAll {s : Store} {known : String → Option Export} (hs : Holds s known)
    (hlinked : Linked s) (es : List Export) :
    Holds (s.collectAll es).1 ((s.collectAll es).2.foldl update known) := by
  induction es generalizing s known with
  | nil => exact hs
  | cons e es ih =>
    cases h : s.collect e with
    | error err =>
      rw [collectAll_of_error h]
      exact ih hs hlinked
    | ok result =>
      obtain ⟨s', stats⟩ := result
      rw [collectAll_of_ok h]
      exact ih (hs.collect hlinked h) (hlinked.collect h)

/-- After any sequence of collects from an empty store, accepted or refused, the store answers for every
module as the last accepted export of that module says. -/
theorem holds_collectAll (es : List Export) :
    Holds (empty.collectAll es).1 (lastOf (empty.collectAll es).2) := by
  have hmap : (empty.collectAll es).2.foldl update (fun _ => none) = lastOf (empty.collectAll es).2 := by
    funext m
    rw [foldl_update, Option.or_none]
  rw [← hmap]
  exact holds_empty.collectAll linked_empty es

end Store

end Mend

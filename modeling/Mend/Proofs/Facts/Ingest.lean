import Mend.Proofs.Facts.Insertion

/-!
# Taking in an export

* `definedFunctions`, `globalVariables`, `CollectStats.ofExport` : what an export says;
* `Extends` : functions put behind those of a module; `run_insertEntries` : the functions of an export;
* `Replaces` : an export in the place of what was known of its module;
* `run_collect_of_ok`, `run_collect_of_error` : the body of the transaction, which fails half-way;
* `ingest_of_ok`, `ingest_of_error` : the transaction;
* `collect_ok`, `collect_eq_error` : the same for an export that is accepted or refused.
-/

namespace Mend

/-! ## What an export says -/

/-- The function that records define: the first one has to be its declaration, and of several
declarations the last one gives the span. -/
def FunctionDef.ofEntries? (moduleName name : String) (id : Nat) : List Fact → Option FunctionDef
  | .funcDecl span :: rest =>
    some
      { id, moduleName, name
        span := ((rest.filterMap Fact.declaredSpan?).getLast?).getD span
        vars := rest.filterMap Fact.keptVariable?
        calls := rest.filterMap (Fact.call? moduleName)
        statements := rest.filterMap (Fact.statement? moduleName) }
  | _ => none

namespace CollectStats

/-- Counts an entry: a function with its records, or one that is skipped because no declaration stands
in front. -/
def countEntry (c : CollectStats) : List Fact → CollectStats
  | .funcDecl _ :: records =>
    let c := records.foldl countRecord c
    { c with functions := c.functions + 1 }
  | _ => { c with skippedFunctions := c.skippedFunctions + 1 }

/-- The counts of an export: its globals, then its functions. -/
def ofExport (e : Export) : CollectStats :=
  let c : CollectStats := e.globals.foldl (fun c _ => c.countGlobal) {}
  e.functions.foldl (fun c f => c.countEntry f.2) c

end CollectStats

namespace Store

/-- The variables that records declare; a record of another kind is refused. -/
def globalVariables (moduleName : String) : List Fact → Except FactError (List Variable)
  | [] => .ok []
  | .varType v :: rest => do
    let vs ← globalVariables moduleName rest
    return clampSize v :: vs
  | fact :: _ =>
    .error (.malformedFact (fact.tag.text ++ " record among globals of " ++ moduleName))

/-- The functions that an export defines, numbered from `id` on. Entries without a declaration in
front define none. -/
def definedFunctions (moduleName : String) : Nat → List (String × List Fact) → List FunctionDef
  | _, [] => []
  | id, (name, entries) :: rest =>
    match FunctionDef.ofEntries? moduleName name id entries with
    | some f => f :: definedFunctions moduleName (id + 1) rest
    | none => definedFunctions moduleName id rest

/-! ## Functions -/

section Functions

variable {s t u : Store} {m : String}

theorem run_insertRecords {id : Nat} (hs : Linked s) (hlast : s.Last m id) (records : List Fact)
    (c : CollectStats) :
    ∃ s', (Txn.insertRecords m id records c).run s = (.ok (records.foldl CollectStats.countRecord c), s') ∧
      Puts m id records s s' := by
  induction records generalizing s c with
  | nil => exact ⟨s, rfl, .nil hs⟩
  | cons record rest ih =>
    obtain ⟨t, hrun, hput⟩ := run_insertRecord hs hlast record
    obtain ⟨u, hrest, hputs⟩ := ih hput.linked (hput.last hlast) (c.countRecord record)
    refine ⟨u, ?_, hput.append hputs⟩
    rw [Txn.insertRecords, run_bind_ok hrun, hrest, List.foldl_cons]

/-- Functions stand behind those that the store has for a module, and the other modules stay. -/
structure Extends (m : String) (fs : List FunctionDef) (s s' : Store) : Prop where
  linked : Linked s'
  others : s'.without m = s.without m
  names : s'.names = s.names
  globals : s'.globalRows = s.globalRows
  nextId : s'.functionRows.nextId = s.functionRows.nextId + fs.length
  functions : s'.functions m = s.functions m ++ fs

theorem Extends.nil (hs : Linked s) : Extends m [] s s :=
  ⟨hs, rfl, rfl, rfl, rfl, (List.append_nil _).symm⟩

theorem Extends.append {fs gs : List FunctionDef} (hst : Extends m fs s t) (htu : Extends m gs t u) :
    Extends m (fs ++ gs) s u where
  linked := htu.linked
  others := htu.others.trans hst.others
  names := htu.names.trans hst.names
  globals := htu.globals.trans hst.globals
  nextId := by rw [htu.nextId, hst.nextId, List.length_append, Nat.add_assoc]
  functions := by rw [htu.functions, hst.functions, List.append_assoc]

/-- A new function has the records that were put in for it, and the earlier functions have what they had. -/
theorem extends_of_puts (hs : Linked s) (name : String) (span : Span) {records : List Fact}
    (h : Puts m s.functionRows.nextId records
      { s with functionRows := s.functionRows.insert ⟨m, name, span⟩ } t) :
    Extends m (FunctionDef.ofEntries? m name s.functionRows.nextId (.funcDecl span :: records)).toList s t := by
  have hrows := h.declared s.functionRows.rows ⟨m, name, span⟩ rfl
  have hold : ∀ f ∈ s.functionRows.rows, t.hydrate f = s.hydrate f := by
    intro f hf
    have hne : s.functionRows.nextId ≠ f.id := Nat.ne_of_gt (Table.lt_nextId (List.mem_map_of_mem hf))
    rw [hydrate, h.vars, h.calls, h.statements, if_neg hne, if_neg hne, if_neg hne]
    simp only [List.append_nil]
    rfl
  have hids : t.functionRows.ids = s.functionRows.ids ++ [s.functionRows.nextId] := by
    rw [Table.ids, hrows, List.map_append]
    rfl
  refine ⟨h.linked, h.others.trans (without_insertFunction hs rfl), h.names, h.globals, ?_, ?_⟩
  · rw [Table.nextId, hids, ← Table.ids_insert s.functionRows ⟨m, name, span⟩, ← Table.nextId,
      Table.nextId_insert]
    rfl
  · rw [functions, functions, Table.select_byId, Table.select_byId, hrows, List.filter_append, List.map_append]
    refine congrArg₂ (· ++ ·) (List.map_congr_left fun f hf => hold f (List.mem_filter.mp hf).1) ?_
    -- the number of the function is new, so nothing but the records refers to it
    have hvars := (h.vars s.functionRows.nextId).trans (congrArg (· ++ _) (vars_nextId hs))
    have hcalls := (h.calls s.functionRows.nextId).trans (congrArg (· ++ _) (calls_nextId hs))
    have hstatements := (h.statements s.functionRows.nextId).trans (congrArg (· ++ _) (functionStatements_nextId hs))
    rw [List.filter_cons_of_pos (by simp), List.filter_nil, List.map_singleton, hydrate, hvars, hcalls,
      hstatements, if_pos rfl, if_pos rfl, if_pos rfl]
    rfl

theorem run_insertEntry (hs : Linked s) (hm : m ∈ s.names) (name : String) (records : List Fact)
    (c : CollectStats) :
    ∃ s', (Txn.insertEntry m name records c).run s = (.ok (c.countEntry records), s') ∧
      Extends m (FunctionDef.ofEntries? m name s.functionRows.nextId records).toList s s' := by
  cases records with
  | nil => exact ⟨s, rfl, .nil hs⟩
  | cons record rest =>
    cases record with
    | funcDecl span =>
      have hrun : (Txn.insertFunction ⟨m, name, span⟩).run s = _ := run_insertRow (by simpa using hm)
      have hlast : Last { s with functionRows := s.functionRows.insert ⟨m, name, span⟩ } m
          s.functionRows.nextId := ⟨s.functionRows.rows, _, rfl, rfl⟩
      obtain ⟨t, hrest, hputs⟩ :=
        run_insertRecords (hs.insertFunction (r := ⟨m, name, span⟩) hm) hlast rest c
      refine ⟨t, ?_, extends_of_puts hs name span hputs⟩
      rw [Txn.insertEntry, run_bind_ok hrun, run_bind_ok hrest]
      rfl
    | varType => exact ⟨s, rfl, .nil hs⟩
    | callType => exact ⟨s, rfl, .nil hs⟩
    | stmtType => exact ⟨s, rfl, .nil hs⟩

theorem run_insertEntries (hs : Linked s) (hm : m ∈ s.names) (entries : List (String × List Fact))
    (c : CollectStats) :
    ∃ s', (Txn.insertEntries m entries c).run s =
        (.ok (entries.foldl (fun c f => c.countEntry f.2) c), s') ∧
      Extends m (definedFunctions m s.functionRows.nextId entries) s s' := by
  induction entries generalizing s c with
  | nil => exact ⟨s, rfl, .nil hs⟩
  | cons entry entries ih =>
    obtain ⟨name, records⟩ := entry
    obtain ⟨t, hrun, hfirst⟩ := run_insertEntry hs hm name records c
    obtain ⟨u, hrest, hothers⟩ := ih hfirst.linked (hfirst.names ▸ hm) (c.countEntry records)
    refine ⟨u, ?_, ?_⟩
    · rw [Txn.insertEntries, run_bind_ok hrun, hrest, List.foldl_cons]
    · have hboth := hfirst.append hothers
      rw [hfirst.nextId] at hboth
      rw [definedFunctions]
      cases hentry : FunctionDef.ofEntries? m name s.functionRows.nextId records with
      | none =>
        rw [hentry] at hboth
        exact hboth
      | some f =>
        rw [hentry] at hboth
        exact hboth

end Functions

/-! ## Globals -/

/-- The variables in front of the first record of another kind. -/
def leadingVariables (facts : List Fact) : List Variable :=
  (facts.takeWhile fun fact => fact.tag = .varType).filterMap Fact.keptVariable?

theorem eq_leadingVariables {m : String} {facts : List Fact} {vs : List Variable}
    (h : globalVariables m facts = .ok vs) : vs = leadingVariables facts := by
  induction facts generalizing vs with
  | nil =>
    cases h
    rfl
  | cons fact facts ih =>
    cases fact with
    | varType v =>
      obtain ⟨us, hus, h⟩ := bind_eq_ok h
      cases h
      rw [ih hus]
      rfl
    | funcDecl => cases h
    | callType => cases h
    | stmtType => cases h

/-- The globals of an export are put in up to the first record that is refused, and the rest of the store
stays. -/
theorem run_insertGlobals {s : Store} {m : String} (hs : Linked s) (hm : m ∈ s.names) (facts : List Fact)
    (c : CollectStats) :
    ∃ t, (Txn.insertGlobals m facts c).run s =
        ((globalVariables m facts).map fun _ => facts.foldl (fun c _ => c.countGlobal) c,
          { s with globalRows := t }) ∧
      Linked { s with globalRows := t } ∧ ({ s with globalRows := t } : Store).without m = s.without m ∧
      ({ s with globalRows := t } : Store).globals m = s.globals m ++ leadingVariables facts := by
  induction facts generalizing s c with
  | nil => exact ⟨s.globalRows, rfl, hs, rfl, (List.append_nil _).symm⟩
  | cons fact facts ih =>
    cases fact with
    | varType v =>
      have hrun : (Txn.insertGlobal ⟨m, clampSize v⟩).run s = _ := run_insertRow (by simpa using hm)
      obtain ⟨t, hrest, hlinked, hothers, hglobals⟩ :=
        ih (hs.insertGlobal (r := ⟨m, clampSize v⟩) hm) hm c.countGlobal
      refine ⟨t, ?_, hlinked, hothers.trans (without_insertGlobal rfl), hglobals.trans ?_⟩
      · rw [Txn.insertGlobals, run_bind_ok hrun, hrest, globalVariables]
        cases globalVariables m facts <;> rfl
      · rw [globals_insertGlobal, if_pos rfl, List.append_assoc]
        rfl
    | funcDecl => exact ⟨s.globalRows, rfl, hs, rfl, (List.append_nil _).symm⟩
    | callType => exact ⟨s.globalRows, rfl, hs, rfl, (List.append_nil _).symm⟩
    | stmtType => exact ⟨s.globalRows, rfl, hs, rfl, (List.append_nil _).symm⟩

/-! ## The body of the transaction -/

/-- The export of a module stands in the place of what was known of it, and the other modules stay. -/
structure Replaces (e : Export) (s s' : Store) : Prop where
  linked : Linked s'
  others : s'.without e.moduleName = s.without e.moduleName
  names : s'.names = (s.names.filter fun n => n ≠ e.moduleName) ++ [e.moduleName]
  globals : globalVariables e.moduleName e.globals = .ok (s'.globals e.moduleName)
  functions : s'.functions e.moduleName =
    definedFunctions e.moduleName (s.without e.moduleName).functionRows.nextId e.functions

section Body

variable {s : Store} {e : Export}

theorem functions_without_self (s : Store) (m : String) : (s.without m).functions m = [] := by
  refine List.map_eq_nil_iff.mpr (Table.select_eq_nil fun r hr => ?_)
  simpa using (Table.mem_rows_delete.mp hr).2

theorem globals_without_self (s : Store) (m : String) : (s.without m).globals m = [] := by
  refine List.map_eq_nil_iff.mpr (Table.select_eq_nil fun r hr => ?_)
  simpa using (Table.mem_rows_delete.mp hr).2

theorem not_mem_names_without (s : Store) (m : String) : m ∉ (s.without m).names := by
  simp [names_without]

theorem without_without (s : Store) (m : String) : (s.without m).without m = s.without m := by
  have hfunctions : (s.without m).functionIds m = [] := by
    simp [functionIds, Table.idsWhere, without]
  have hcalls : (s.without m).callIds m = [] := by
    simp [callIds, Table.idsWhere, without]
  refine Store.ext (by simp [names_without]) ?_ ?_ ?_ ?_ ?_ ?_
  · rw [functionRows_without, functionRows_without, Table.delete_delete]
  · rw [globalRows_without, globalRows_without, Table.delete_delete]
  · rw [varRows_without, hfunctions]
    exact Table.delete_eq_self fun _ _ => rfl
  · rw [callRows_without, callRows_without, Table.delete_delete]
  · rw [argumentRows_without, hcalls]
    exact Table.delete_eq_self fun _ _ => rfl
  · rw [statementRows_without, statementRows_without, Table.delete_delete]

/-- The body up to the functions: the module is deleted, and what it can take of the globals is put in. -/
theorem run_collect_globals (hs : Linked s) (e : Export) :
    ∃ t, Linked t ∧ t.without e.moduleName = s.without e.moduleName ∧
      t.names = (s.names.filter fun n => n ≠ e.moduleName) ++ [e.moduleName] ∧
      t.functions e.moduleName = [] ∧ t.globals e.moduleName = leadingVariables e.globals ∧
      t.functionRows = (s.without e.moduleName).functionRows ∧
      (Txn.collect e).run s =
        match globalVariables e.moduleName e.globals with
        | .ok _ =>
          (Txn.insertEntries e.moduleName e.functions (e.globals.foldl (fun c _ => c.countGlobal) {})).run t
        | .error err => (.error err, t) := by
  have hremoved : Linked (s.without e.moduleName) := hs.without e.moduleName
  have hfresh := not_mem_names_without s e.moduleName
  obtain ⟨t, hrun, hlinked, hothers, hglobals⟩ :=
    run_insertGlobals (hremoved.insertModule hfresh) (List.mem_append_right _ List.mem_cons_self) e.globals {}
  refine ⟨_, hlinked, ?_, rfl, functions_without_self s e.moduleName, ?_, rfl, ?_⟩
  · exact hothers.trans ((without_insertModule hfresh).trans (without_without s e.moduleName))
  · exact hglobals.trans (congrArg (· ++ _) (globals_without_self s e.moduleName))
  · have hremove : (modify fun s => s.removeModule e.moduleName : Txn Unit).run s = (.ok (), s.without e.moduleName) :=
      congrArg (Prod.mk _) (removeModule_eq hs e.moduleName)
    rw [Txn.collect, run_bind_ok hremove, run_bind_ok (run_insertModule hfresh)]
    cases hvs : globalVariables e.moduleName e.globals with
    | ok vs =>
      rw [hvs] at hrun
      exact run_bind_ok hrun _
    | error err =>
      rw [hvs] at hrun
      exact run_bind_error hrun _

theorem run_collect_of_ok (hs : Linked s) {vs : List Variable}
    (h : globalVariables e.moduleName e.globals = .ok vs) :
    ∃ s', (Txn.collect e).run s = (.ok (.ofExport e), s') ∧ Replaces e s s' := by
  obtain ⟨t, hlinked, hothers, hnames, hfunctions, hglobals, hrows, hrun⟩ := run_collect_globals hs e
  have hm : e.moduleName ∈ t.names := by simp [hnames]
  obtain ⟨s', hentries, hextends⟩ :=
    run_insertEntries hlinked hm e.functions (e.globals.foldl (fun c _ => c.countGlobal) {})
  rw [h] at hrun
  refine ⟨s', hrun.trans hentries, hextends.linked, hextends.others.trans hothers, hextends.names.trans hnames,
    ?_, ?_⟩
  · have hsame : s'.globals e.moduleName = t.globals e.moduleName := by
      rw [Store.globals, Store.globals, hextends.globals]
    rw [hsame, hglobals, ← eq_leadingVariables h, h]
  · rw [hextends.functions, hfunctions, List.nil_append, hrows]

/-- A refused export has done half of its work: of what was known of its module nothing is left, and the
globals in front of the record that is refused are in place. -/
theorem run_collect_of_error (hs : Linked s) {err : FactError}
    (h : globalVariables e.moduleName e.globals = .error err) :
    ∃ half, (Txn.collect e).run s = (.error err, half) ∧
      half.without e.moduleName = s.without e.moduleName ∧ half.functions e.moduleName = [] ∧
        half.globals e.moduleName = leadingVariables e.globals := by
  obtain ⟨t, -, hothers, -, hfunctions, hglobals, -, hrun⟩ := run_collect_globals hs e
  rw [h] at hrun
  exact ⟨t, hrun, hothers, hfunctions, hglobals⟩

end Body

/-! ## The transaction -/

section Transaction

variable {s s' : Store} {e : Export} {stats : CollectStats} {err : FactError}

/-- What a failing body has changed is undone. -/
theorem run_transaction {α : Type} (body : Txn α) :
    body.transaction.run s =
      match body.run s with
      | (.ok a, changed) => (.ok a, changed)
      | (.error e, _) => (.error e, s) := by
  rw [Txn.transaction, run_get_bind, run_tryCatch]
  cases body.run s with
  | mk r t => cases r <;> rfl

theorem ingest_of_ok (hs : Linked s) {vs : List Variable}
    (h : globalVariables e.moduleName e.globals = .ok vs) :
    ∃ s', s.ingest e = (.ok (.ofExport e), s') ∧ Replaces e s s' := by
  obtain ⟨s', hrun, hreplaces⟩ := run_collect_of_ok hs h
  exact ⟨s', by rw [ingest, run_transaction, hrun], hreplaces⟩

theorem ingest_of_error (hs : Linked s) (h : globalVariables e.moduleName e.globals = .error err) :
    s.ingest e = (.error err, s) := by
  obtain ⟨half, hrun, -⟩ := run_collect_of_error hs h
  rw [ingest, run_transaction, hrun]

/-- Whatever is refused leaves the store as it is. -/
theorem store_of_ingest_error (h : (s.ingest e).1 = .error err) : (s.ingest e).2 = s := by
  rw [ingest, run_transaction] at h ⊢
  cases hrun : (Txn.collect e).run s with
  | mk r t =>
    rw [hrun] at h
    cases r with
    | ok stats => cases h
    | error x => rfl

theorem collect_eq_ok_iff : s.collect e = .ok (s', stats) ↔ s.ingest e = (.ok stats, s') := by
  rw [collect]
  cases s.ingest e with
  | mk r t => cases r <;> simp [and_comm]

theorem collect_eq_error_iff_ingest : s.collect e = .error err ↔ (s.ingest e).1 = .error err := by
  rw [collect]
  cases s.ingest e with
  | mk r t => cases r <;> simp

theorem ingest_of_collect_error (h : s.collect e = .error err) : s.ingest e = (.error err, s) :=
  Prod.ext (collect_eq_error_iff_ingest.mp h) (store_of_ingest_error (collect_eq_error_iff_ingest.mp h))

theorem collect_ok (hs : Linked s) (h : s.collect e = .ok (s', stats)) :
    stats = .ofExport e ∧ Replaces e s s' := by
  rw [collect_eq_ok_iff] at h
  cases hvs : globalVariables e.moduleName e.globals with
  | error err =>
    rw [ingest_of_error hs hvs] at h
    cases h
  | ok vs =>
    obtain ⟨t, hingest, hreplaces⟩ := ingest_of_ok hs hvs
    rw [hingest] at h
    cases h
    exact ⟨rfl, hreplaces⟩

theorem collect_eq_error (hs : Linked s) :
    s.collect e = .error err ↔ globalVariables e.moduleName e.globals = .error err := by
  rw [collect_eq_error_iff_ingest]
  cases hvs : globalVariables e.moduleName e.globals with
  | error x =>
    rw [ingest_of_error hs hvs]
    simp
  | ok vs =>
    obtain ⟨t, hingest, -⟩ := ingest_of_ok hs hvs
    rw [hingest]
    exact iff_of_false nofun nofun

end Transaction

end Store

end Mend

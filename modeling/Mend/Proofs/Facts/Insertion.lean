import Mend.Proofs.Facts.Links
import Mend.Proofs.Steps

/-!
# Rows that are put in

A row that is put in refers to rows that are there, gets a number that no row refers to yet, and is found by the
queries of its own module behind the rows that they had.

* `Linked.insertFunction`, `Linked.insertStatement`, … : the links stay sound;
* `without_insertFunction`, `without_insertStatement`, … : the other modules do not see the row;
* `vars_nextId`, `calls_nextId`, … : nothing refers to the next number;
* `Puts` : records of the last function put behind what it has; `Puts.append` : one step behind another;
* `run_insertRecord` : a step for each kind of record; `run_insertRecords` : the records of a function.
-/

namespace Mend.Store

/-! ## One row more -/

section Links

variable {s : Store} {m : String} {id : Nat}

theorem Linked.insertModule (hs : Linked s) {name : String} (h : name ∉ s.names) :
    Linked { s with names := s.names ++ [name], nodup := s.nodup_append h } :=
  { hs with
    functions := fun r hr => List.mem_append_left _ (hs.functions r hr)
    globals := fun r hr => List.mem_append_left _ (hs.globals r hr) }

theorem Linked.insertGlobal (hs : Linked s) {r : GlobalRow} (h : r.moduleName ∈ s.names) :
    Linked { s with globalRows := s.globalRows.insert r } :=
  { hs with globals := (Table.forall_mem_insert _ _).mpr ⟨hs.globals, h⟩ }

theorem Owns.insertFunction (h : s.Owns m id) (r : FunctionRow) :
    Owns { s with functionRows := s.functionRows.insert r } m id := by
  obtain ⟨f, hf, hid⟩ := h
  exact ⟨f, List.mem_append_left _ hf, hid⟩

theorem Linked.insertFunction (hs : Linked s) {r : FunctionRow} (h : r.moduleName ∈ s.names) :
    Linked { s with functionRows := s.functionRows.insert r } :=
  { hs with
    functions := (Table.forall_mem_insert _ _).mpr ⟨hs.functions, h⟩
    vars := fun v hv => by
      rw [Table.ids_insert]
      exact List.mem_append_left _ (hs.vars v hv)
    calls := fun c hc => (hs.calls c hc).insertFunction r
    statements := fun st hst => (hs.statements st hst).insertFunction r }

theorem moduleName_change (i : Nat) (span : Span) (f : Row FunctionRow) :
    (f.change i fun r => { r with span }).cells.moduleName = f.cells.moduleName :=
  Table.cells_change i (fun r : FunctionRow => { r with span }) (g := FunctionRow.moduleName) (fun _ => rfl) f

theorem Owns.setSpan (h : s.Owns m id) (i : Nat) (span : Span) : (s.setSpan i span).Owns m id := by
  obtain ⟨f, hf, hid, rfl⟩ := h
  exact ⟨_, List.mem_map_of_mem hf, hid, moduleName_change i span f⟩

theorem Linked.setSpan (hs : Linked s) (i : Nat) (span : Span) : Linked (s.setSpan i span) :=
  { hs with
    functions := fun r hr => by
      obtain ⟨f, hf, rfl⟩ := List.mem_map.mp hr
      rw [moduleName_change]
      exact hs.functions f hf
    vars := fun v hv => by
      rw [Store.setSpan, Table.ids_update]
      exact hs.vars v hv
    calls := fun c hc => (hs.calls c hc).setSpan i span
    statements := fun st hst => (hs.statements st hst).setSpan i span }

theorem Linked.insertVar (hs : Linked s) {r : VarRow} (h : r.functionId ∈ s.functionRows.ids) :
    Linked { s with varRows := s.varRows.insert r } :=
  { hs with vars := (Table.forall_mem_insert _ _).mpr ⟨hs.vars, h⟩ }

theorem Linked.insertCall (hs : Linked s) {r : CallRow} (h : s.Owns r.moduleName r.functionId) :
    Linked { s with callRows := s.callRows.insert r } :=
  { hs with
    calls := (Table.forall_mem_insert _ _).mpr ⟨hs.calls, h⟩
    arguments := fun a ha => by
      rw [Table.ids_insert]
      exact List.mem_append_left _ (hs.arguments a ha) }

theorem Linked.insertArgument (hs : Linked s) {r : ArgumentRow} (h : r.callId ∈ s.callRows.ids) :
    Linked { s with argumentRows := s.argumentRows.insert r } :=
  { hs with arguments := (Table.forall_mem_insert _ _).mpr ⟨hs.arguments, h⟩ }

/-- A statement of the last function is numbered behind those of all others. -/
theorem Linked.insertStatement (hs : Linked s) {r : StatementRow} (h : s.Owns r.moduleName r.functionId)
    (hlast : ∀ i ∈ s.functionRows.ids, i ≤ r.functionId) :
    Linked { s with statementRows := s.statementRows.insert r } :=
  { hs with
    statements := (Table.forall_mem_insert _ _).mpr ⟨hs.statements, h⟩
    grouped := by
      refine List.pairwise_append.mpr ⟨hs.grouped, List.pairwise_singleton _ _, fun a ha b hb _ => ?_⟩
      rw [List.mem_singleton.mp hb]
      exact hlast _ (hs.statements a ha).mem_ids }

/-! ## Rows of one module, seen from the others -/

theorem without_insertModule {name : String} (h : name ∉ s.names) :
    ({ s with names := s.names ++ [name], nodup := s.nodup_append h } : Store).without name =
      s.without name := by
  simp [without, deleteName, List.filter_append, functionIds, callIds]

theorem without_insertGlobal {r : GlobalRow} (h : r.moduleName = m) :
    ({ s with globalRows := s.globalRows.insert r } : Store).without m = s.without m := by
  have hrows := Table.delete_insert_of_pos (t := s.globalRows) (p := fun r => r.moduleName = m) (decide_eq_true h)
  exact congrArg (fun t => { s.without m with globalRows := t }) hrows

theorem without_insertFunction (hs : Linked s) {r : FunctionRow} (h : r.moduleName = m) :
    ({ s with functionRows := s.functionRows.insert r } : Store).without m = s.without m := by
  have hrows := Table.delete_insert_of_pos (t := s.functionRows) (p := fun r => r.moduleName = m) (decide_eq_true h)
  -- no variable refers to the number of the new function yet
  have hvars : s.varRows.delete (fun v =>
        ((s.functionRows.insert r).idsWhere fun f => f.moduleName = m).contains v.functionId) =
      s.varRows.delete fun v => (s.functionIds m).contains v.functionId := by
    refine Table.delete_congr fun v hv => ?_
    have hne : v.cells.functionId ≠ s.functionRows.nextId := Nat.ne_of_lt (Table.lt_nextId (hs.vars v hv))
    rw [Table.idsWhere_insert, functionIds]
    simp [h, hne]
  exact congrArg₂ (fun t u => { s.without m with functionRows := t, varRows := u }) hrows hvars

theorem without_setSpan (h : s.Owns m id) (span : Span) : (s.setSpan id span).without m = s.without m := by
  have hrows : (s.setSpan id span).functionRows.delete (fun r => r.moduleName = m) =
      s.functionRows.delete fun r => r.moduleName = m := by
    refine Table.delete_update _ _ _ (fun _ => rfl) fun r hr hid => ?_
    obtain ⟨f, hf, rfl, hmodule⟩ := h
    rw [Table.row_inj hr hf hid]
    exact decide_eq_true hmodule
  have hids : (s.setSpan id span).functionIds m = s.functionIds m :=
    Table.idsWhere_update _ _ _ fun _ => rfl
  have hvars : s.varRows.delete (fun v => ((s.setSpan id span).functionIds m).contains v.functionId) =
      s.varRows.delete fun v => (s.functionIds m).contains v.functionId := by rw [hids]
  exact congrArg₂ (fun t u => { s.without m with functionRows := t, varRows := u }) hrows hvars

theorem without_insertVar {r : VarRow} (h : s.Owns m r.functionId) :
    ({ s with varRows := s.varRows.insert r } : Store).without m = s.without m := by
  have hrows := Table.delete_insert_of_pos (t := s.varRows)
    (p := fun v => (s.functionIds m).contains v.functionId) (by simpa using mem_functionIds.mpr h)
  exact congrArg (fun t => { s.without m with varRows := t }) hrows

theorem without_insertCall (hs : Linked s) {r : CallRow} (h : r.moduleName = m) :
    ({ s with callRows := s.callRows.insert r } : Store).without m = s.without m := by
  have hrows := Table.delete_insert_of_pos (t := s.callRows) (p := fun r => r.moduleName = m) (decide_eq_true h)
  -- no argument refers to the number of the new call yet
  have harguments : s.argumentRows.delete (fun a =>
        ((s.callRows.insert r).idsWhere fun c => c.moduleName = m).contains a.callId) =
      s.argumentRows.delete fun a => (s.callIds m).contains a.callId := by
    refine Table.delete_congr fun a ha => ?_
    have hne : a.cells.callId ≠ s.callRows.nextId := Nat.ne_of_lt (Table.lt_nextId (hs.arguments a ha))
    rw [Table.idsWhere_insert, callIds]
    simp [h, hne]
  exact congrArg₂ (fun t u => { s.without m with callRows := t, argumentRows := u }) hrows harguments

theorem without_insertArgument {r : ArgumentRow} (h : r.callId ∈ s.callIds m) :
    ({ s with argumentRows := s.argumentRows.insert r } : Store).without m = s.without m := by
  have hrows := Table.delete_insert_of_pos (t := s.argumentRows)
    (p := fun a => (s.callIds m).contains a.callId) (by simpa using h)
  exact congrArg (fun t => { s.without m with argumentRows := t }) hrows

theorem without_insertStatement {r : StatementRow} (h : r.moduleName = m) :
    ({ s with statementRows := s.statementRows.insert r } : Store).without m = s.without m := by
  have hrows := Table.delete_insert_of_pos (t := s.statementRows) (p := fun r => r.moduleName = m)
    (decide_eq_true h)
  exact congrArg (fun t => { s.without m with statementRows := t }) hrows

end Links

/-! ## What refers to the new row -/

section Queries

variable {s : Store} (i : Nat)

theorem globals_insertGlobal (r : GlobalRow) (m : String) :
    ({ s with globalRows := s.globalRows.insert r } : Store).globals m =
      s.globals m ++ if r.moduleName = m then [r.declared] else [] := by
  rw [globals, Table.select_insert, List.map_append]
  by_cases h : r.moduleName = m <;> simp [h, globals]

theorem vars_insertVar (r : VarRow) :
    ({ s with varRows := s.varRows.insert r } : Store).vars i =
      s.vars i ++ if r.functionId = i then [r.declared] else [] := by
  rw [vars, Table.select_insert, List.map_append]
  by_cases h : r.functionId = i <;> simp [h, vars]

theorem arguments_insertArgument (r : ArgumentRow) :
    ({ s with argumentRows := s.argumentRows.insert r } : Store).arguments i =
      s.arguments i ++ if r.callId = i then [r.argument] else [] := by
  rw [arguments, Table.select_insert, List.map_append]
  by_cases h : r.callId = i <;> simp [h, arguments]

theorem functionStatements_insertStatement (r : StatementRow) :
    ({ s with statementRows := s.statementRows.insert r } : Store).functionStatements i =
      s.functionStatements i ++ if r.functionId = i then [⟨r.moduleName, r.span, r.expr⟩] else [] := by
  rw [functionStatements, Table.select_insert, List.map_append]
  by_cases h : r.functionId = i <;> simp [h, functionStatements, statement]

end Queries

/-! The number of the next row may have been in use before, but nothing refers to it any more. -/

section Fresh

variable {s : Store} (hs : Linked s)

include hs

theorem vars_nextId : s.vars s.functionRows.nextId = [] := by
  refine List.map_eq_nil_iff.mpr (Table.select_eq_nil fun r hr => ?_)
  simpa using Nat.ne_of_lt (Table.lt_nextId (hs.vars r hr))

theorem calls_nextId : s.calls s.functionRows.nextId = [] := by
  refine List.map_eq_nil_iff.mpr (Table.select_eq_nil fun r hr => ?_)
  simpa using Nat.ne_of_lt (Table.lt_nextId (hs.calls r hr).mem_ids)

theorem functionStatements_nextId : s.functionStatements s.functionRows.nextId = [] := by
  refine List.map_eq_nil_iff.mpr (Table.select_eq_nil fun r hr => ?_)
  simpa using Nat.ne_of_lt (Table.lt_nextId (hs.statements r hr).mem_ids)

theorem arguments_nextId : s.arguments s.callRows.nextId = [] := by
  refine List.map_eq_nil_iff.mpr (Table.select_eq_nil fun r hr => ?_)
  simpa using Nat.ne_of_lt (Table.lt_nextId (hs.arguments r hr))

end Fresh

/-! ## The steps of a transaction -/

section Steps

variable {s : Store} {m : String} {id : Nat}

theorem run_insertRow {α : Type} {table : Store → Table α} {put : Store → Table α → Store}
    {refers : Store → α → Bool} {cells : α} (h : refers s cells = true) :
    (Txn.insertRow table put refers cells).run s = (.ok (table s).nextId, put s ((table s).insert cells)) := by
  rw [Txn.insertRow, run_get_bind, if_pos h]
  rfl

theorem run_insertModule {name : String} (h : name ∉ s.names) :
    (Txn.insertModule name).run s =
      (.ok (), { s with names := s.names ++ [name], nodup := s.nodup_append h }) := by
  rw [Txn.insertModule, run_get_bind, dif_neg h]
  rfl

/-- Arguments stand behind those that the call has, and the rest of the store stays. -/
theorem run_insertArguments (hs : Linked s) {callId : Nat} (h : callId ∈ s.callIds m) (as : List Argument) :
    ∃ t, (Txn.insertArguments callId as).run s = (.ok (), { s with argumentRows := t }) ∧
      Linked { s with argumentRows := t } ∧
      ({ s with argumentRows := t } : Store).without m = s.without m ∧
      ∀ i, ({ s with argumentRows := t } : Store).arguments i =
        s.arguments i ++ if callId = i then as else [] := by
  induction as generalizing s with
  | nil => exact ⟨s.argumentRows, rfl, hs, rfl, fun i => by simp⟩
  | cons a as ih =>
    have hcall : callId ∈ s.callRows.ids := by
      obtain ⟨c, hc, -, hid⟩ := Table.mem_idsWhere.mp h
      exact Table.mem_ids.mpr ⟨c, hc, hid⟩
    have hrun : (Txn.insertArgument ⟨callId, a⟩).run s =
        (.ok s.argumentRows.nextId, { s with argumentRows := s.argumentRows.insert ⟨callId, a⟩ }) :=
      run_insertRow (by simpa using hcall)
    obtain ⟨t, hrest, hlinked, hothers, harguments⟩ :=
      ih (hs.insertArgument (r := ⟨callId, a⟩) hcall) h
    refine ⟨t, ?_, hlinked, hothers.trans (without_insertArgument h), fun i => (harguments i).trans ?_⟩
    · rw [Txn.insertArguments, run_bind_ok hrun, hrest]
    · rw [arguments_insertArgument]
      by_cases hi : callId = i <;> simp [hi]

/-- A call that is put in stands behind those that the function has, with its arguments and no others. -/
theorem calls_insertCall (hs : Linked s) (r : CallRow) {t : Table ArgumentRow} {as : List Argument}
    (h : ∀ j, ({ s with argumentRows := t } : Store).arguments j =
      s.arguments j ++ if s.callRows.nextId = j then as else []) (i : Nat) :
    ({ s with callRows := s.callRows.insert r, argumentRows := t } : Store).calls i =
      s.calls i ++ if r.functionId = i then [⟨r.moduleName, r.expr, r.callee, r.span, as⟩] else [] := by
  have hold : (s.callRows.select (fun c => c.functionId = i) Row.byId).map
        ({ s with callRows := s.callRows.insert r, argumentRows := t } : Store).callSite = s.calls i := by
    refine List.map_congr_left fun c hc => ?_
    have hne : s.callRows.nextId ≠ c.id :=
      Nat.ne_of_gt (Table.lt_nextId (List.mem_map_of_mem (Table.mem_select.mp hc).1))
    have harguments := h c.id
    rw [if_neg hne, List.append_nil] at harguments
    exact congrArg (CallSite.mk _ _ _ _) harguments
  have hnew : ({ s with callRows := s.callRows.insert r, argumentRows := t } : Store).callSite
      ⟨s.callRows.nextId, r⟩ = ⟨r.moduleName, r.expr, r.callee, r.span, as⟩ := by
    have harguments := h s.callRows.nextId
    rw [arguments_nextId hs, if_pos rfl, List.nil_append] at harguments
    exact congrArg (CallSite.mk _ _ _ _) harguments
  rw [calls, Table.select_insert, List.map_append, hold]
  by_cases hi : r.functionId = i <;> simp [hi, hnew]

end Steps

/-! ## The records of a function -/

def Last (s : Store) (m : String) (id : Nat) : Prop :=
  ∃ front row, s.functionRows.rows = front ++ [⟨id, row⟩] ∧ row.moduleName = m

/-- Records of a function stand behind what the store has for it, and the rest of the store stays. -/
structure Puts (m : String) (id : Nat) (records : List Fact) (s s' : Store) : Prop where
  linked : Linked s'
  others : s'.without m = s.without m
  names : s'.names = s.names
  globals : s'.globalRows = s.globalRows
  declared : ∀ front row, s.functionRows.rows = front ++ [⟨id, row⟩] →
    s'.functionRows.rows = front ++
      [⟨id, { row with span := ((records.filterMap Fact.declaredSpan?).getLast?).getD row.span }⟩]
  vars : ∀ i, s'.vars i = s.vars i ++ if id = i then records.filterMap Fact.keptVariable? else []
  calls : ∀ i, s'.calls i = s.calls i ++ if id = i then records.filterMap (Fact.call? m) else []
  statements : ∀ i, s'.functionStatements i =
    s.functionStatements i ++ if id = i then records.filterMap (Fact.statement? m) else []

section Puts

variable {s t u : Store} {m : String} {id : Nat}

theorem Last.owns (h : s.Last m id) : s.Owns m id := by
  obtain ⟨front, row, hrows, hmodule⟩ := h
  exact ⟨⟨id, row⟩, by simp [hrows], rfl, hmodule⟩

theorem Last.le (h : s.Last m id) : ∀ i ∈ s.functionRows.ids, i ≤ id := by
  obtain ⟨front, row, hrows, -⟩ := h
  have hascending := s.functionRows.ascending
  rw [hrows] at hascending
  intro i hi
  obtain ⟨f, hf, rfl⟩ := Table.mem_ids.mp hi
  rw [hrows] at hf
  rcases List.mem_append.mp hf with hf | hf
  · exact Nat.le_of_lt ((List.pairwise_append.mp hascending).2.2 f hf _ List.mem_cons_self)
  · exact Nat.le_of_eq (congrArg Row.id (List.mem_singleton.mp hf))

theorem Puts.last {records : List Fact} (h : Puts m id records s t) (hs : s.Last m id) : t.Last m id := by
  obtain ⟨front, row, hrows, hmodule⟩ := hs
  exact ⟨front, _, h.declared front row hrows, hmodule⟩

theorem Puts.nil (hs : Linked s) : Puts m id [] s s where
  linked := hs
  others := rfl
  names := rfl
  globals := rfl
  declared _ _ h := h
  vars i := by simp
  calls i := by simp
  statements i := by simp

theorem Puts.append {xs ys : List Fact} (hst : Puts m id xs s t) (htu : Puts m id ys t u) :
    Puts m id (xs ++ ys) s u where
  linked := htu.linked
  others := htu.others.trans hst.others
  names := htu.names.trans hst.names
  globals := htu.globals.trans hst.globals
  declared front row h := by
    rw [htu.declared front _ (hst.declared front row h), List.filterMap_append, List.getLast?_append]
    cases (ys.filterMap Fact.declaredSpan?).getLast? <;> simp
  vars i := by
    rw [htu.vars, hst.vars, List.filterMap_append]
    by_cases h : id = i <;> simp [h]
  calls i := by
    rw [htu.calls, hst.calls, List.filterMap_append]
    by_cases h : id = i <;> simp [h]
  statements i := by
    rw [htu.statements, hst.statements, List.filterMap_append]
    by_cases h : id = i <;> simp [h]

theorem eq_append_ite_nil {α : Type} (xs : List α) (p : Prop) [Decidable p] : xs = xs ++ if p then [] else [] := by
  simp

theorem puts_setSpan (hs : Linked s) (hlast : s.Last m id) (span : Span) :
    Puts m id [.funcDecl span] s (s.setSpan id span) where
  linked := hs.setSpan id span
  others := without_setSpan hlast.owns span
  names := rfl
  globals := rfl
  declared _ _ h := Table.rows_update_last _ _ h
  vars _ := eq_append_ite_nil _ _
  calls _ := eq_append_ite_nil _ _
  statements _ := eq_append_ite_nil _ _

theorem puts_insertVar (hs : Linked s) (hlast : s.Last m id) (v : Variable) :
    Puts m id [.varType v] s { s with varRows := s.varRows.insert ⟨id, clampSize v⟩ } where
  linked := hs.insertVar hlast.owns.mem_ids
  others := without_insertVar hlast.owns
  names := rfl
  globals := rfl
  declared _ _ h := h
  vars i := by
    rw [vars_insertVar]
    rfl
  calls _ := eq_append_ite_nil _ _
  statements _ := eq_append_ite_nil _ _

theorem puts_insertStatement (hs : Linked s) (hlast : s.Last m id) (span : Span) (expr : String) :
    Puts m id [.stmtType span expr] s
      { s with statementRows := s.statementRows.insert ⟨m, id, span, expr⟩ } where
  linked := hs.insertStatement hlast.owns hlast.le
  others := without_insertStatement rfl
  names := rfl
  globals := rfl
  declared _ _ h := h
  vars _ := eq_append_ite_nil _ _
  calls _ := eq_append_ite_nil _ _
  statements i := by
    rw [functionStatements_insertStatement]
    rfl

/-- One record is one row more, a call with its arguments, or another span. -/
theorem run_insertRecord (hs : Linked s) (hlast : s.Last m id) (record : Fact) :
    ∃ s', (Txn.insertRecord m id record).run s = (.ok (), s') ∧ Puts m id [record] s s' := by
  cases record with
  | funcDecl span => exact ⟨_, rfl, puts_setSpan hs hlast span⟩
  | varType v =>
    have hrun : (Txn.insertVar ⟨id, clampSize v⟩).run s = _ :=
      run_insertRow (by simpa using hlast.owns.mem_ids)
    exact ⟨_, run_bind_ok hrun _, puts_insertVar hs hlast v⟩
  | stmtType span expr =>
    have hrun : (Txn.insertStatement ⟨m, id, span, expr⟩).run s = _ :=
      run_insertRow (by simpa using hlast.owns.mem_ids)
    exact ⟨_, run_bind_ok hrun _, puts_insertStatement hs hlast span expr⟩
  | callType span expr callee as =>
    have hrun : (Txn.insertCall ⟨m, id, expr, callee, span⟩).run s = _ :=
      run_insertRow (by simpa using hlast.owns.mem_ids)
    have hcall : s.callRows.nextId ∈ ({ s with
        callRows := s.callRows.insert ⟨m, id, expr, callee, span⟩ } : Store).callIds m := by
      rw [callIds, Table.idsWhere_insert]
      simp
    obtain ⟨t, hrest, hlinked, hothers, harguments⟩ :=
      run_insertArguments (hs.insertCall (r := ⟨m, id, expr, callee, span⟩) hlast.owns) hcall as
    refine ⟨_, (run_bind_ok hrun _).trans hrest, ?_⟩
    exact {
      linked := hlinked
      others := hothers.trans (without_insertCall hs rfl)
      names := rfl
      globals := rfl
      declared := fun _ _ h => h
      vars := fun _ => eq_append_ite_nil _ _
      calls := calls_insertCall hs ⟨m, id, expr, callee, span⟩ harguments
      statements := fun _ => eq_append_ite_nil _ _ }

end Puts

end Mend.Store

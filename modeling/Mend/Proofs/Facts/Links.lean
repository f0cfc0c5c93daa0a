import Mend.Facts.Store
import Mend.Proofs.Facts.Table

/-!
# Links between tables

Rows refer to rows of other tables by numbers, and numbers come back when the rows that had them are deleted.
Yet no row is left behind that refers to a deleted one, so a new row never finds others that refer to it.

* `Owns` : a module and the number of one of its functions;
* `Linked` : every row refers to a row that is there, and to one of its own module;
* `without` : a store without the rows of a module; `removeModule_eq` : what the deletions leave;
* `Linked.without` : a deleted module leaves nothing behind;
* `functions_without`, `globals_without` : the other modules stay.
-/

namespace Mend.Store

/-- A function of a module has a number. -/
def Owns (s : Store) (m : String) (id : Nat) : Prop :=
  ∃ f ∈ s.functionRows.rows, f.id = id ∧ f.cells.moduleName = m

/-- Every row refers to a row that is there. Calls and statements stand under the module of their function, and
the statements of a module are numbered function by function. -/
structure Linked (s : Store) : Prop where
  functions : ∀ r ∈ s.functionRows.rows, r.cells.moduleName ∈ s.names
  globals : ∀ r ∈ s.globalRows.rows, r.cells.moduleName ∈ s.names
  vars : ∀ r ∈ s.varRows.rows, r.cells.functionId ∈ s.functionRows.ids
  calls : ∀ r ∈ s.callRows.rows, s.Owns r.cells.moduleName r.cells.functionId
  arguments : ∀ r ∈ s.argumentRows.rows, r.cells.callId ∈ s.callRows.ids
  statements : ∀ r ∈ s.statementRows.rows, s.Owns r.cells.moduleName r.cells.functionId
  grouped : s.statementRows.rows.Pairwise fun a b =>
    a.cells.moduleName = b.cells.moduleName → a.cells.functionId ≤ b.cells.functionId

theorem linked_empty : Linked empty where
  functions _ h := absurd h List.not_mem_nil
  globals _ h := absurd h List.not_mem_nil
  vars _ h := absurd h List.not_mem_nil
  calls _ h := absurd h List.not_mem_nil
  arguments _ h := absurd h List.not_mem_nil
  statements _ h := absurd h List.not_mem_nil
  grouped := .nil

/-! ## Deleting a module -/

def functionIds (s : Store) (m : String) : List Nat := s.functionRows.idsWhere fun f => f.moduleName = m

def callIds (s : Store) (m : String) : List Nat := s.callRows.idsWhere fun c => c.moduleName = m

/-- A store without the rows of a module, whatever they refer to. -/
def without (s : Store) (m : String) : Store :=
  { s.deleteName m with
    functionRows := s.functionRows.delete fun r => r.moduleName = m
    globalRows := s.globalRows.delete fun r => r.moduleName = m
    varRows := s.varRows.delete fun r => (s.functionIds m).contains r.functionId
    callRows := s.callRows.delete fun r => r.moduleName = m
    argumentRows := s.argumentRows.delete fun r => (s.callIds m).contains r.callId
    statementRows := s.statementRows.delete fun r => r.moduleName = m }

section Rows

variable (s : Store) (m : String)

theorem names_without : (s.without m).names = s.names.filter (· ≠ m) := rfl

theorem functionRows_without :
    (s.without m).functionRows = s.functionRows.delete fun r => r.moduleName = m := rfl

theorem globalRows_without : (s.without m).globalRows = s.globalRows.delete fun r => r.moduleName = m := rfl

theorem varRows_without :
    (s.without m).varRows = s.varRows.delete fun r => (s.functionIds m).contains r.functionId := rfl

theorem callRows_without : (s.without m).callRows = s.callRows.delete fun r => r.moduleName = m := rfl

theorem argumentRows_without :
    (s.without m).argumentRows = s.argumentRows.delete fun r => (s.callIds m).contains r.callId := rfl

theorem statementRows_without :
    (s.without m).statementRows = s.statementRows.delete fun r => r.moduleName = m := rfl

end Rows

section Owns

variable {s : Store} {m n : String} {id : Nat}

theorem mem_functionIds : id ∈ s.functionIds m ↔ s.Owns m id := by
  simp only [functionIds, Table.mem_idsWhere, Owns, decide_eq_true_eq, and_comm]

theorem Owns.mem_ids (h : s.Owns m id) : id ∈ s.functionRows.ids := by
  obtain ⟨f, hf, rfl, -⟩ := h
  exact Table.mem_ids.mpr ⟨f, hf, rfl⟩

theorem Owns.unique (hm : s.Owns m id) (hn : s.Owns n id) : m = n := by
  obtain ⟨f, hf, rfl, rfl⟩ := hm
  obtain ⟨g, hg, hid, rfl⟩ := hn
  rw [Table.row_inj hg hf hid]

theorem Owns.not_mem_functionIds (h : s.Owns n id) (hne : n ≠ m) : id ∉ s.functionIds m :=
  fun hmem => hne (h.unique (mem_functionIds.mp hmem))

theorem owns_of_mem {f : Row FunctionRow} (hf : f ∈ s.functionRows.rows) : s.Owns f.cells.moduleName f.id :=
  ⟨f, hf, rfl, rfl⟩

theorem not_mem_callIds {r : Row CallRow} (hr : r ∈ s.callRows.rows) (hne : r.cells.moduleName ≠ m) :
    r.id ∉ s.callIds m := by
  intro hmem
  obtain ⟨c, hc, hmodule, hid⟩ := Table.mem_idsWhere.mp hmem
  rw [Table.row_inj hc hr hid] at hmodule
  exact hne (by simpa using hmodule)

end Owns

/-! Rows to which no other row refers can be deleted alone. -/

section Delete

variable {s : Store}

theorem deleteCalls_eq {p : CallRow → Bool}
    (h : ∀ r ∈ s.argumentRows.rows, r.cells.callId ∉ s.callRows.idsWhere p) :
    s.deleteCalls p = { s with callRows := s.callRows.delete p } := by
  have hself : s.argumentRows.delete (fun r => (s.callRows.idsWhere p).contains r.callId) = s.argumentRows :=
    Table.delete_eq_self fun r hr => by simpa using h r hr
  rw [deleteCalls, deleteArguments]
  dsimp only
  rw [hself]

theorem deleteFunctions_eq {p : FunctionRow → Bool}
    (hvars : ∀ r ∈ s.varRows.rows, r.cells.functionId ∉ s.functionRows.idsWhere p)
    (hcalls : ∀ r ∈ s.callRows.rows, r.cells.functionId ∉ s.functionRows.idsWhere p)
    (hstatements : ∀ r ∈ s.statementRows.rows, r.cells.functionId ∉ s.functionRows.idsWhere p) :
    s.deleteFunctions p = { s with functionRows := s.functionRows.delete p } := by
  have hvars' : s.varRows.delete (fun r => (s.functionRows.idsWhere p).contains r.functionId) = s.varRows :=
    Table.delete_eq_self fun r hr => by simpa using hvars r hr
  have hstatements' :
      s.statementRows.delete (fun r => (s.functionRows.idsWhere p).contains r.functionId) = s.statementRows :=
    Table.delete_eq_self fun r hr => by simpa using hstatements r hr
  have hcalls' : s.callRows.delete (fun r => (s.functionRows.idsWhere p).contains r.functionId) = s.callRows :=
    Table.delete_eq_self fun r hr => by simpa using hcalls r hr
  rw [deleteFunctions]
  rw [deleteVars, deleteCalls_eq, deleteStatements]
  · dsimp only
    rw [hvars', hcalls', hstatements']
  · intro r _ hmem
    obtain ⟨c, hc, hgone, -⟩ := Table.mem_idsWhere.mp hmem
    exact hcalls c hc (by simpa using hgone)

theorem deleteModule_eq {m : String} (hfunctions : ∀ r ∈ s.functionRows.rows, r.cells.moduleName ≠ m)
    (hglobals : ∀ r ∈ s.globalRows.rows, r.cells.moduleName ≠ m) :
    s.deleteModule m = s.deleteName m := by
  have hnone : (s.deleteName m).functionRows.idsWhere (fun r => r.moduleName = m) = [] := by
    refine List.eq_nil_iff_forall_not_mem.mpr fun i hi => ?_
    obtain ⟨r, hr, hmodule, -⟩ := Table.mem_idsWhere.mp hi
    exact hfunctions r hr (by simpa using hmodule)
  have hfunctions' : (s.deleteName m).functionRows.delete (fun r => r.moduleName = m) = s.functionRows :=
    Table.delete_eq_self fun r hr => by simpa using hfunctions r hr
  have hglobals' : (s.deleteName m).globalRows.delete (fun r => r.moduleName = m) = s.globalRows :=
    Table.delete_eq_self fun r hr => by simpa using hglobals r hr
  rw [deleteModule, deleteFunctions_eq, deleteGlobals]
  · dsimp only
    rw [hfunctions', hglobals']
    rfl
  all_goals
    rw [hnone]
    exact fun _ _ => List.not_mem_nil

end Delete

/-- Deleted by hand, table by table, a module is gone before its row is. -/
theorem removeModule_eq {s : Store} (hs : Linked s) (m : String) : s.removeModule m = s.without m := by
  rw [removeModule, deleteArguments, deleteCalls_eq, deleteStatements, deleteVars, deleteGlobals, deleteFunctions_eq,
    deleteModule_eq]
  · rfl
  · intro r hr
    simpa using (Table.mem_rows_delete.mp hr).2
  · intro r hr
    simpa using (Table.mem_rows_delete.mp hr).2
  · intro r hr
    simpa using (Table.mem_rows_delete.mp hr).2
  · intro r hr
    obtain ⟨hr, hne⟩ := Table.mem_rows_delete.mp hr
    exact (hs.calls r hr).not_mem_functionIds (by simpa using hne)
  · intro r hr
    obtain ⟨hr, hne⟩ := Table.mem_rows_delete.mp hr
    exact (hs.statements r hr).not_mem_functionIds (by simpa using hne)
  · intro r hr
    simpa using (Table.mem_rows_delete.mp hr).2

section Without

variable {s : Store} {m n : String} {id : Nat}

theorem Owns.without (h : s.Owns n id) (hne : n ≠ m) : (s.without m).Owns n id := by
  obtain ⟨f, hf, hid, rfl⟩ := h
  exact ⟨f, Table.mem_rows_delete.mpr ⟨hf, by simpa using hne⟩, hid, rfl⟩

/-- A deleted module leaves nothing behind. -/
theorem Linked.without (hs : Linked s) (m : String) : Linked (s.without m) where
  functions r hr := by
    obtain ⟨hr, hne⟩ := Table.mem_rows_delete.mp hr
    exact List.mem_filter.mpr ⟨hs.functions r hr, by simpa using hne⟩
  globals r hr := by
    obtain ⟨hr, hne⟩ := Table.mem_rows_delete.mp hr
    exact List.mem_filter.mpr ⟨hs.globals r hr, by simpa using hne⟩
  vars r hr := by
    obtain ⟨hr, hother⟩ := Table.mem_rows_delete.mp hr
    obtain ⟨f, hf, hid⟩ := Table.mem_ids.mp (hs.vars r hr)
    have hne : f.cells.moduleName ≠ m := by
      rintro rfl
      simp [mem_functionIds, ← hid, owns_of_mem hf] at hother
    exact Table.mem_ids.mpr ⟨f, Table.mem_rows_delete.mpr ⟨hf, by simpa using hne⟩, hid⟩
  calls r hr := by
    obtain ⟨hr, hne⟩ := Table.mem_rows_delete.mp hr
    exact (hs.calls r hr).without (by simpa using hne)
  arguments r hr := by
    obtain ⟨hr, hother⟩ := Table.mem_rows_delete.mp hr
    obtain ⟨c, hc, hid⟩ := Table.mem_ids.mp (hs.arguments r hr)
    have hne : c.cells.moduleName ≠ m := by
      rintro rfl
      have hmem : r.cells.callId ∈ s.callIds c.cells.moduleName :=
        Table.mem_idsWhere.mpr ⟨c, hc, by simp, hid⟩
      simp [hmem] at hother
    exact Table.mem_ids.mpr ⟨c, Table.mem_rows_delete.mpr ⟨hc, by simpa using hne⟩, hid⟩
  statements r hr := by
    obtain ⟨hr, hne⟩ := Table.mem_rows_delete.mp hr
    exact (hs.statements r hr).without (by simpa using hne)
  grouped := hs.grouped.filter _

/-! ## The other modules -/

theorem globals_without (hne : n ≠ m) : (s.without m).globals n = s.globals n := by
  rw [globals, globals, globalRows_without, Table.select_delete]
  intro r _ hr
  rw [of_decide_eq_true hr]
  simpa using hne

theorem vars_without (h : id ∉ s.functionIds m) : (s.without m).vars id = s.vars id := by
  rw [vars, vars, varRows_without, Table.select_delete]
  intro r _ hr
  rw [of_decide_eq_true hr]
  simpa using h

theorem arguments_without (h : id ∉ s.callIds m) : (s.without m).arguments id = s.arguments id := by
  rw [arguments, arguments, argumentRows_without, Table.select_delete]
  intro r _ hr
  rw [of_decide_eq_true hr]
  simpa using h

section Linked

variable (hs : Linked s) (hne : n ≠ m)

include hs hne

theorem calls_without (h : s.Owns n id) : (s.without m).calls id = s.calls id := by
  have hmodule : ∀ r ∈ s.callRows.rows, decide (r.cells.functionId = id) = true → r.cells.moduleName ≠ m := by
    intro r hr hid
    rw [← of_decide_eq_true hid] at h
    rw [(hs.calls r hr).unique h]
    exact hne
  rw [calls, calls, callRows_without, Table.select_delete fun r hr hid => by simpa using hmodule r hr hid]
  refine List.map_congr_left fun r hr => ?_
  obtain ⟨hr, hid⟩ := Table.mem_select.mp hr
  rw [callSite, callSite, arguments_without (not_mem_callIds hr (hmodule r hr hid))]

theorem functionStatements_without (h : s.Owns n id) :
    (s.without m).functionStatements id = s.functionStatements id := by
  rw [functionStatements, functionStatements, statementRows_without, Table.select_delete]
  intro r hr hid
  rw [← of_decide_eq_true hid] at h
  rw [(hs.statements r hr).unique h]
  simpa using hne

omit hne in
theorem hydrate_without {r : Row FunctionRow} (hr : r ∈ s.functionRows.rows) (hne : r.cells.moduleName ≠ m) :
    (s.without m).hydrate r = s.hydrate r := by
  have howns := owns_of_mem hr
  rw [hydrate, hydrate, vars_without (howns.not_mem_functionIds hne), calls_without hs hne howns,
    functionStatements_without hs hne howns]

theorem functions_without : (s.without m).functions n = s.functions n := by
  rw [functions, functions, functionRows_without, Table.select_delete]
  · refine List.map_congr_left fun r hr => ?_
    obtain ⟨hr, hmodule⟩ := Table.mem_select.mp hr
    exact hydrate_without hs hr (by rw [of_decide_eq_true hmodule]; exact hne)
  · intro r _ hr
    rw [of_decide_eq_true hr]
    simpa using hne

end Linked

end Without

end Mend.Store

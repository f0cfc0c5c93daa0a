import Mathlib.Data.List.Flatten
import Mathlib.Data.List.Nodup
import Mend.Proofs.Facts.Session

/-!
# The numbers of functions

A module that is collected gets the numbers that follow the largest one outside it, so a number may come
back when its module is collected again. Still no two functions of a store ever share one, and a module
leaves nothing behind when another export takes its place.

* `ids_definedFunctions`, `ids_functions_collect` : the numbers that a module gets;
* `Reachable.positive` : numbers count from one;
* `numbers`, `numbersOutside` : the numbers that queries show; `perm_numbers_where` : there are no others;
* `collect_congr` : what an export makes of a store depends on the other modules only;
* `collect_numbers` : all of it for a reachable store.
-/

namespace Mend.Store

/-! ## The numbers that a module gets -/

theorem id_of_ofEntries? {m name : String} {id : Nat} {entries : List Fact} {f : FunctionDef}
    (h : FunctionDef.ofEntries? m name id entries = some f) : f.id = id := by
  unfold FunctionDef.ofEntries? at h
  split at h
  · cases h
    rfl
  · cases h

/-- Functions are numbered one after another; entries that define none take no number. -/
theorem ids_definedFunctions (m : String) (id : Nat) (entries : List (String × List Fact)) :
    (definedFunctions m id entries).map (·.id) = List.range' id (definedFunctions m id entries).length := by
  induction entries generalizing id with
  | nil => rfl
  | cons entry entries ih =>
    obtain ⟨name, facts⟩ := entry
    rw [definedFunctions]
    cases h : FunctionDef.ofEntries? m name id facts with
    | none => exact ih id
    | some f =>
      dsimp only
      rw [List.map_cons, List.length_cons, List.range'_succ, id_of_ofEntries? h, ih (id + 1)]

theorem ids_functions_collect {s s' : Store} {e : Export} {stats : CollectStats} (hs : Linked s)
    (h : s.collect e = .ok (s', stats)) :
    (s'.functions e.moduleName).map (·.id) =
      List.range' (s.without e.moduleName).functionRows.nextId (s'.functions e.moduleName).length := by
  rw [functions_collect hs h]
  exact ids_definedFunctions _ _ _

theorem ids_functions (s : Store) (m : String) : (s.functions m).map (·.id) = s.functionIds m := by
  rw [functions, Table.select_byId, List.map_map]
  rfl

/-! ## Numbers count from one -/

theorem Reachable.positive {s : Store} (hs : s.Reachable) : ∀ i ∈ s.functionRows.ids, 0 < i := by
  refine hs.kept (I := fun s => ∀ i ∈ s.functionRows.ids, 0 < i) (fun _ h => absurd h List.not_mem_nil) ?_
  intro s e s' stats hlinked ih h i hi
  obtain ⟨f, hf, rfl⟩ := Table.mem_ids.mp hi
  have hmem : f.id ∈ (s'.functions f.cells.moduleName).map (·.id) := by
    rw [ids_functions]
    exact mem_functionIds.mpr (owns_of_mem hf)
  by_cases hm : e.moduleName = f.cells.moduleName
  · rw [← hm, ids_functions_collect hlinked h] at hmem
    have hle := (List.mem_range'_1.mp hmem).1
    rw [Table.nextId] at hle
    omega
  · rw [functions_collect_of_ne hlinked h hm, ids_functions] at hmem
    exact ih _ (mem_functionIds.mp hmem).mem_ids

/-! ## The numbers that queries show -/

def numbers (s : Store) : List Nat := (s.moduleNames.flatMap s.functions).map (·.id)

def numbersOutside (s : Store) (m : String) : List Nat :=
  ((s.moduleNames.filter fun n => n ≠ m).flatMap s.functions).map (·.id)

theorem perm_flatMap_filter {names : List String} (hnames : names.Nodup) (t : Table FunctionRow) :
    (names.flatMap fun n => t.rows.filter fun r => r.cells.moduleName = n).Perm
      (t.rows.filter fun r => r.cells.moduleName ∈ names) := by
  have hrows : t.rows.Nodup := t.nodup_ids.of_map _
  refine (List.perm_ext_iff_of_nodup ?_ (hrows.filter _)).mpr fun r => ?_
  · refine List.nodup_flatMap.mpr ⟨fun n _ => hrows.filter _, hnames.imp fun {a b} hne r ha hb => hne ?_⟩
    rw [← of_decide_eq_true (List.mem_filter.mp ha).2, of_decide_eq_true (List.mem_filter.mp hb).2]
  · simp only [List.mem_flatMap, List.mem_filter, decide_eq_true_eq]
    constructor
    · rintro ⟨n, hn, hr, rfl⟩
      exact ⟨hr, hn⟩
    · rintro ⟨hr, hn⟩
      exact ⟨_, hn, hr, rfl⟩

/-- The modules that are listed have the numbers that the store keeps for them. -/
theorem perm_numbers_where {s : Store} (hs : Linked s) (p : String → Bool) :
    (((s.moduleNames.filter p).flatMap s.functions).map (·.id)).Perm
      (s.functionRows.idsWhere fun r => p r.moduleName) := by
  have hnodup : (s.moduleNames.filter p).Nodup :=
    ((List.mergeSort_perm _ _).nodup_iff.mpr s.nodup).filter _
  have hids : ((s.moduleNames.filter p).flatMap s.functions).map (·.id) =
      ((s.moduleNames.filter p).flatMap fun n =>
        s.functionRows.rows.filter fun r => r.cells.moduleName = n).map (·.id) := by
    rw [List.map_flatMap, List.map_flatMap]
    exact List.flatMap_congr fun n _ => ids_functions s n
  have hrows : (s.functionRows.rows.filter fun r => r.cells.moduleName ∈ s.moduleNames.filter p) =
      s.functionRows.rows.filter fun r => p r.cells.moduleName := by
    refine List.filter_congr fun r hr => ?_
    rw [Bool.eq_iff_iff]
    simp [mem_moduleNames, hs.functions r hr]
  rw [hids, Table.idsWhere, ← hrows]
  exact (perm_flatMap_filter hnodup s.functionRows).map _

theorem perm_numbers {s : Store} (hs : Linked s) : s.numbers.Perm s.functionRows.ids := by
  have h := perm_numbers_where hs fun _ => true
  rwa [List.filter_true, Table.idsWhere, List.filter_true] at h

theorem perm_numbersOutside {s : Store} (hs : Linked s) (m : String) :
    (s.numbersOutside m).Perm (s.without m).functionRows.ids := by
  have h := perm_numbers_where hs fun n => n ≠ m
  simpa [Table.idsWhere, Table.ids, without, numbersOutside] using h

theorem max?_eq_of_perm {xs ys : List Nat} (h : xs.Perm ys) : xs.max? = ys.max? := by
  ext i
  rw [List.max?_eq_some_iff, List.max?_eq_some_iff, h.mem_iff]
  simp only [h.mem_iff]

/-! ## One export in the place of another -/

/-- What an export makes of a store depends on the other modules only. -/
theorem collect_congr {s s' : Store} {e : Export} (hs : Linked s) (hs' : Linked s')
    (h : s.without e.moduleName = s'.without e.moduleName) : s.collect e = s'.collect e := by
  have hremoved : ∀ {t : Store}, Linked t → (modify fun s => s.removeModule e.moduleName : Txn Unit).run t =
      (.ok (), t.without e.moduleName) := fun ht => congrArg (Prod.mk _) (removeModule_eq ht e.moduleName)
  have hrun : (Txn.collect e).run s = (Txn.collect e).run s' := by
    rw [Txn.collect, run_bind_ok (hremoved hs), run_bind_ok (hremoved hs'), h]
  rw [Store.collect, Store.collect, ingest, ingest, run_transaction, run_transaction, hrun]
  cases (Txn.collect e).run s' with
  | mk r t => cases r <;> rfl

theorem collect_collect {s s' : Store} {f g : Export} {stats : CollectStats} (hs : Linked s)
    (hname : f.moduleName = g.moduleName) (h : s.collect f = .ok (s', stats)) :
    s'.collect g = s.collect g :=
  collect_congr (hs.collect h) hs (hname ▸ (collect_ok hs h).2.others)

theorem statements_without {n m : String} (s : Store) (hne : n ≠ m) :
    (s.without m).statements n = s.statements n := by
  rw [statements, statements, statementRows_without, Table.select_delete]
  intro r _ hr
  rw [of_decide_eq_true hr]
  simpa using hne

/-- Two stores say the same of a module. -/
structure SameModule (s s' : Store) (m : String) : Prop where
  module : s'.module? m = s.module? m
  functions : s'.functions m = s.functions m
  globals : s'.globals m = s.globals m
  statements : s'.statements m = s.statements m

theorem sameModule_collect {s s' : Store} {e : Export} {stats : CollectStats} (hs : Linked s)
    (h : s.collect e = .ok (s', stats)) {m : String} (hm : m ≠ e.moduleName) : SameModule s s' m where
  module := by
    rw [module?_eq, module?_eq]
    simp only [mem_names_collect_of_ne hs h hm.symm]
  functions := functions_collect_of_ne hs h hm.symm
  globals := globals_collect_of_ne hs h hm.symm
  statements := by rw [← statements_without s' hm, (collect_ok hs h).2.others, statements_without s hm]

/-- In a reachable store no two functions share a number, in whatever modules. An accepted export gives its
functions the numbers behind the largest one of all other modules, in order, and leaves those modules as
they are. If it is followed by another export of the same module, it leaves no trace: the store is the one
without it, and so are all answers that follow. -/
theorem collect_numbers {s : Store} (hs : s.Reachable) :
    (s.numbers.Nodup ∧ ∀ i ∈ s.numbers, 0 < i) ∧
    (∀ e s' stats, s.collect e = .ok (s', stats) →
      (s'.functions e.moduleName).map (·.id) =
          List.range' ((s.numbersOutside e.moduleName).max?.getD 0 + 1) (s'.functions e.moduleName).length ∧
        ∀ n, n ≠ e.moduleName → SameModule s s' n) ∧
    ∀ f g s₁ s₂ stats₁ stats₂, f.moduleName = g.moduleName →
      s.collect f = .ok (s₁, stats₁) → s.collect g = .ok (s₂, stats₂) →
        s₁.collect g = .ok (s₂, stats₂) ∧
          ∀ rs, s.session (.collect f :: .collect g :: rs) =
            .stored stats₁ :: s.session (.collect g :: rs) := by
  have hlinked := hs.linked
  have hperm := perm_numbers hlinked
  refine ⟨⟨hperm.nodup_iff.mpr s.functionRows.nodup_ids, fun i hi => hs.positive i (hperm.mem_iff.mp hi)⟩, ?_, ?_⟩
  · intro e s' stats h
    rw [max?_eq_of_perm (perm_numbersOutside hlinked e.moduleName)]
    exact ⟨ids_functions_collect hlinked h, fun n hn => sameModule_collect hlinked h hn⟩
  · intro f g s₁ s₂ stats₁ stats₂ hname hf hg
    have hboth : s₁.collect g = .ok (s₂, stats₂) := (collect_collect hlinked hname hf).trans hg
    refine ⟨hboth, fun rs => ?_⟩
    rw [session, respond_of_ok hf, session, respond_of_ok hboth, session, respond_of_ok hg]

/-! Two modules, the first of which is collected again behind the second. -/

namespace Pair

def first : Export :=
  ⟨"a.c", [], [("f", [.funcDecl ⟨1, 1, 2, 1⟩]), ("puts", []), ("g", [.funcDecl ⟨3, 1, 4, 1⟩])]⟩

def second : Export := ⟨"b.c", [], [("h", [.funcDecl ⟨1, 1, 2, 1⟩])]⟩

/-- The first module without its second function. -/
def shorter : Export := ⟨"a.c", [], [("f", [.funcDecl ⟨1, 1, 2, 1⟩])]⟩

def store : Store := (empty.collectAll [first, second]).1

end Pair

/-- The numbers 1 and 2 of the first module are not used again while the second one holds 3. -/
theorem collect_numbers_pair :
    Pair.store.functionRows.ids = [1, 2, 3] ∧ ∃ s' stats, Pair.store.collect Pair.first = .ok (s', stats) ∧
      (s'.functions "a.c").map (·.id) = [4, 5] ∧ s'.functions "b.c" = Pair.store.functions "b.c" ∧
        ∀ rs, Pair.store.session (.collect Pair.first :: .collect Pair.shorter :: rs) =
          .stored stats :: Pair.store.session (.collect Pair.shorter :: rs) := by
  have hfirst : Pair.store.collect Pair.first =
      .ok ((Pair.store.collectAll [Pair.first]).1, ⟨2, 1, 0, 0, 0, 0⟩) := by decide +kernel
  have hshorter : Pair.store.collect Pair.shorter =
      .ok ((Pair.store.collectAll [Pair.shorter]).1, ⟨1, 0, 0, 0, 0, 0⟩) := by decide +kernel
  have hreachable : Pair.store.Reachable := ⟨_, rfl⟩
  obtain ⟨-, hcollect, hreplaced⟩ := collect_numbers hreachable
  obtain ⟨hids, hothers⟩ := hcollect _ _ _ hfirst
  refine ⟨by decide +kernel, _, _, hfirst, hids.trans ?_, (hothers "b.c" (by decide)).functions,
    (hreplaced Pair.first Pair.shorter _ _ _ _ rfl hfirst hshorter).2⟩
  rw [max?_eq_of_perm (perm_numbersOutside hreachable.linked _), functions_eq]
  decide +kernel

end Mend.Store

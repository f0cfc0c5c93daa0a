import Mend.Proofs.Facts.Lookup
import Mend.Proofs.Repair.Refusal

/-!
# Stores that engines fill

An engine puts what it extracts under the module name of the path it was asked about, whatever name the
exporter has given. So a store that was filled by engines only is keyed, and the locations of its records
lead back to them.

* `Filled` : the stores that calls of engines lead to, failed calls included;
* `moduleName_of_extract`, `collectInfo_ok` : what a call stores; `store_collectInfo`, `store_autoPatch` :
  what it makes of a store;
* `Filled.kept`, `Filled.keyed` : what holds of all such stores;
* `named_of_lookup` : a path that leads to a file has a step;
* `filled_locations` : records lead back to themselves, and all spellings of a file share one module.
-/

namespace Mend

namespace FileTree

/-- What is made of `.` alone leads to a directory, so a path that leads to a file has a root or a step. -/
theorem named_of_lookup {t : FileTree} {p : Path} {content : ByteArray} {executable : Bool}
    (h : t.lookup p = .ok (.file content executable)) : p.Named := by
  refine Classical.not_not.mp fun hnamed => ?_
  obtain ⟨place, hplace, hentry⟩ := (lookup_eq_ok_iff t p _).mp h
  have hsteps : p.steps = [] := Classical.not_not.mp (not_or.mp hnamed).2
  have hne : p.pieces ≠ [] := List.splitOn_ne_nil _ _
  have hidle : Path.isIdle (p.pieces.getLast hne) = true := by
    simpa using List.filter_eq_nil_iff.mp hsteps _ (List.getLast_mem hne)
  have hdir := directory_of_idle_end (List.getLast?_eq_some_getLast hne) hidle hplace
  cases hentry.symm.trans hdir

end FileTree

namespace Exporter

/-- Facts come under the module name of the path, whatever name they were exported under. -/
theorem moduleName_of_extract {x : Exporter} {programs : Programs} {p : Path} {cxx : Bool} {w u : World}
    {e : Export} (h : x.extract programs p cxx w = (.ok e, u)) : e.moduleName = p.moduleName := by
  unfold extract at h
  split at h
  · cases h
  · split at h
    · have hread : readSidecar w.files p = .ok e := congrArg Prod.fst h
      unfold readSidecar at hread
      dsimp only at hread
      split at hread
      · cases hread
      · obtain ⟨text, -, hread⟩ := bind_eq_ok hread
        obtain ⟨exported, -, hread⟩ := bind_eq_ok hread
        cases hread
        rfl
    · next c =>
      have hread : readOutcome c.program p (w.run programs (invocation c p cxx)).1 = .ok e :=
        congrArg Prod.fst h
      unfold readOutcome at hread
      dsimp only at hread
      split at hread
      · cases hread
      · split at hread
        · cases hread
        · obtain ⟨exported, -, hread⟩ := bind_eq_ok hread
          cases hread
          rfl

end Exporter

namespace Repair

/-! ## What a call makes of a store -/

theorem named_of_extract {x : Exporter} {programs : Programs} {p : Path} {cxx : Bool} {w u : World}
    {e : Export} (h : x.extract programs p cxx w = (.ok e, u)) : p.Named := by
  obtain ⟨content, executable, hlook⟩ := lookup_of_validateSource (Engine.validateSource_of_extract h)
  exact FileTree.named_of_lookup hlook

namespace Engine

section Calls

variable {programs : Programs} {p : Path} {cxx : Bool} {b : Bench}

theorem collectInfo_ok {stats : CollectStats} {u : Bench}
    (h : (collectInfo programs p cxx).run b = (.ok stats, u)) :
    ∃ e world, b.engine.exporter.extract programs p cxx b.world = (.ok e, world) ∧
      b.engine.store.collect e = .ok (u.engine.store, stats) := by
  rw [run_collectInfo] at h
  split at h
  · cases h
  · cases hextract : b.engine.exporter.extract programs p cxx b.world with
    | mk result world =>
      rw [hextract] at h
      dsimp only at h
      split at h
      · cases h
      · next e =>
        split at h
        · cases h
        · next stats' store hingest =>
          split at h
          · cases h
          · cases h
            exact ⟨e, world, rfl, Store.collect_eq_ok_iff.mpr hingest⟩

theorem store_of_collectInfo_error {err : Error} {u : Bench}
    (h : (collectInfo programs p cxx).run b = (.error err, u)) : u.engine.store = b.engine.store := by
  rw [run_collectInfo] at h
  split at h
  · cases h
    rfl
  · dsimp only at h
    split at h
    · cases h
      rfl
    · split at h
      · next e err store hingest =>
        cases h
        have hsame := Store.store_of_ingest_error (congrArg Prod.fst hingest)
        rwa [hingest] at hsame
      · split at h
        · cases h
          rfl
        · cases h

/-- Collecting the facts of a file leaves the store as it is or puts one export in it, under the module name
of the path. -/
theorem store_collectInfo (b : Bench) :
    ((collectInfo programs p cxx).run b).2.engine.store = b.engine.store ∨
      ∃ e stats, e.moduleName = p.moduleName ∧
        b.engine.store.collect e = .ok (((collectInfo programs p cxx).run b).2.engine.store, stats) := by
  cases hrun : (collectInfo programs p cxx).run b with
  | mk result u =>
    cases result with
    | error err => exact Or.inl (store_of_collectInfo_error hrun)
    | ok stats =>
      obtain ⟨e, world, hextract, hcollect⟩ := collectInfo_ok hrun
      exact Or.inr ⟨e, stats, Exporter.moduleName_of_extract hextract, hcollect⟩

/-- A search changes the store only by collecting the facts of its target. -/
theorem store_autoPatch (name : String) (target : Target) (b : Bench) :
    ((autoPatch programs name target).run b).2.engine.store = b.engine.store ∨
      ((autoPatch programs name target).run b).2.engine.store =
        ((collectInfo programs target.file target.isCxx).run b).2.engine.store := by
  rw [run_autoPatch]
  cases b.engine.templates.get name with
  | error e => exact Or.inl rfl
  | ok t =>
    refine Or.inr ?_
    cases (collectInfo programs target.file target.isCxx).run b with
    | mk result u =>
      cases result with
      | error e => rfl
      | ok stats => rfl

end Calls

end Engine

/-! ## Filled stores -/

/-- A store that calls of engines lead to from the empty one, whether they end well or not. Between two calls
everything else may change: the files, the programs, the exporter, the templates. -/
inductive Filled : Store → Prop
  | empty : Filled .empty
  | collectInfo (programs : Programs) (p : Path) (cxx : Bool) {b : Bench} :
    Filled b.engine.store → Filled ((Engine.collectInfo programs p cxx).run b).2.engine.store
  | autoPatch (programs : Programs) (name : String) (target : Target) {b : Bench} :
    Filled b.engine.store → Filled ((Engine.autoPatch programs name target).run b).2.engine.store

/-- What holds of the empty store and outlives every export under a module name holds of every filled
store. -/
theorem Filled.kept {I : Store → Prop} {s : Store} (hs : Filled s) (hempty : I .empty)
    (hstep : ∀ s e s' stats (p : Path), I s → e.moduleName = p.moduleName →
      s.collect e = .ok (s', stats) → I s') : I s := by
  have hcall : ∀ programs p cxx (b : Bench), I b.engine.store →
      I ((Engine.collectInfo programs p cxx).run b).2.engine.store := by
    intro programs p cxx b hb
    rcases Engine.store_collectInfo b with hsame | ⟨e, stats, hname, hcollect⟩
    · rw [hsame]
      exact hb
    · exact hstep _ e _ stats p hb hname hcollect
  induction hs with
  | empty => exact hempty
  | collectInfo programs p cxx _ ih => exact hcall programs p cxx _ ih
  | @autoPatch programs name target b _ ih =>
    rcases Engine.store_autoPatch name target b with hsame | hsame
    · rw [hsame]
      exact ih
    · rw [hsame]
      exact hcall programs target.file target.isCxx b ih

theorem keyed_step {s s' : Store} {e : Export} {stats : CollectStats} {p : Path} (hs : s.Keyed)
    (hname : e.moduleName = p.moduleName) (h : s.collect e = .ok (s', stats)) : s'.Keyed :=
  hs.collect (by rw [hname, Path.moduleName_moduleName]) h

theorem Filled.keyed {s : Store} (hs : Filled s) : s.Keyed :=
  hs.kept Store.keyed_empty fun _ _ _ _ _ hs hname h => keyed_step hs hname h

/-- In a store that engines have filled, every module is stored under a name that is its own module name. The
location of a statement leads to the first statement of the module that starts with it, and the location of a
function whose span does not end before it starts leads to a function of the module that starts with it. A file
that is collected under two spellings has one module, which holds the facts of the last collect. -/
theorem filled_locations {s : Store} (hs : Filled s) :
    (∀ m ∈ s.moduleNames, Path.moduleName ⟨m⟩ = m) ∧
    (∀ m, ∀ st ∈ s.statements m,
      ∃ before first after, s.collectedStatements m = before ++ first :: after ∧
        s.statementAt st.location = some first ∧ first.span.start = st.span.start ∧
          ∀ other ∈ before, other.span.start ≠ st.span.start) ∧
    (∀ m, ∀ f ∈ s.functions m, f.span.start.le f.span.stop = true →
      ∃ g ∈ s.functions m, s.functionContaining f.location = some g ∧ g.span.start = f.span.start) ∧
    ∀ programs p cxx b stats u, b.engine.store = s →
      (Engine.collectInfo programs p cxx).run b = (.ok stats, u) →
      ∀ programs' q cxx' b' stats' u', b'.engine.store = u.engine.store → Path.SameSteps q p →
        (Engine.collectInfo programs' q cxx').run b' = (.ok stats', u') →
          u'.engine.store.moduleNames = u.engine.store.moduleNames ∧
          ∃ e world, b'.engine.exporter.extract programs' q cxx' b'.world = (.ok e, world) ∧
            u'.engine.store.KeepsOnce p e := by
  have hkeyed := hs.keyed
  refine ⟨fun m hm => ?_, fun m st hst => hkeyed.statementAt_location hst,
    fun m f hf hspan => hkeyed.functionContaining_location hf hspan, ?_⟩
  · exact hkeyed.names m (Store.mem_moduleNames.mp hm)
  · rintro programs p cxx b stats u rfl hfirst programs' q cxx' b' stats' u' hb' hsame hsecond
    obtain ⟨e, world, hextract, hcollect⟩ := Engine.collectInfo_ok hfirst
    obtain ⟨e', world', hextract', hcollect'⟩ := Engine.collectInfo_ok hsecond
    have hnamed : p.Named := hsame.named_iff.mp (named_of_extract hextract')
    have hname : e.moduleName = p.moduleName := Exporter.moduleName_of_extract hextract
    have hname' : e'.moduleName = p.moduleName :=
      (Exporter.moduleName_of_extract hextract').trans (Path.moduleName_eq_of_sameSteps hnamed hsame.symm).symm
    rw [hb'] at hcollect'
    have hu : u.engine.store.Keyed := keyed_step hkeyed hname hcollect
    refine ⟨Store.moduleNames_collect hu.linked hcollect' ?_, e', world', hextract',
      hu.keepsOnce hcollect' hnamed hname'⟩
    rw [hname', ← hname, Store.names_collect hkeyed.linked hcollect]
    simp

/-! The source of the project that is wrecked, collected under two spellings. -/

namespace Respelled

def first : Bench := ((Engine.collectInfo Engine.Wreck.programs ⟨".//a.c"⟩ false).run Engine.Wreck.bench).2

def second : Bench := ((Engine.collectInfo Engine.Wreck.programs ⟨"a.c"⟩ false).run first).2

def stats : CollectStats := ⟨1, 0, 0, 0, 0, 1⟩

def statement : Statement := ⟨"a.c", ⟨1, 1, 1, 2⟩, "x;"⟩

theorem run_first :
    (Engine.collectInfo Engine.Wreck.programs ⟨".//a.c"⟩ false).run Engine.Wreck.bench = (.ok stats, first) :=
  Prod.ext (by decide +kernel) rfl

theorem run_second :
    (Engine.collectInfo Engine.Wreck.programs ⟨"a.c"⟩ false).run first = (.ok stats, second) :=
  Prod.ext (by decide +kernel) rfl

theorem filled_second : Filled second.engine.store :=
  .collectInfo _ _ _ (.collectInfo _ _ _ (b := Engine.Wreck.bench) .empty)

end Respelled

/-- There is one module, and its statement is found by its own location. -/
theorem filled_locations_respelled :
    (∃ e, Respelled.second.engine.store.KeepsOnce ⟨".//a.c"⟩ e) ∧
    Respelled.second.engine.store.statements "a.c" = [Respelled.statement] ∧
    Respelled.second.engine.store.statementAt Respelled.statement.location = some Respelled.statement := by
  have hstatements : Respelled.second.engine.store.statements "a.c" = [Respelled.statement] := by decide +kernel
  have hcollected : Respelled.second.engine.store.collectedStatements "a.c" = [Respelled.statement] := by
    decide +kernel
  refine ⟨?_, hstatements, ?_⟩
  · obtain ⟨-, e, -, -, hkeeps⟩ := (filled_locations .empty).2.2.2 _ _ _ _ _ _ rfl Respelled.run_first _ _ _ _ _ _
      rfl (by decide) Respelled.run_second
    exact ⟨e, hkeeps⟩
  · obtain ⟨before, found, after, hsplit, hfound, -, -⟩ :=
      (filled_locations Respelled.filled_second).2.1 "a.c" Respelled.statement (by simp [hstatements])
    rw [hcollected] at hsplit
    have hmem : found ∈ [Respelled.statement] := by simp [hsplit]
    rw [hfound, List.mem_singleton.mp hmem]

end Repair

end Mend

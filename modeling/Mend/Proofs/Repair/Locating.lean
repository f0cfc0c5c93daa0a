import Mathlib.Data.List.Nodup
import Mend.Proofs.Facts.Statements
import Mend.Proofs.Patch.Concretize
import Mend.Proofs.Repair.AutoPatch

/-!
# Searching at statements

The locator, the look-up of a statement and the resolution of a template find the module of a location each
on its own. A search at the starts of statements still never comes to a location without one.

* `pairwise_dropRepeats`, `mem_dropRepeats` : a list in order without its repetitions;
* `pairwise_locations`, `count_locations` : every start of a statement once, in source order;
* `statementAt_of_mem_locations` : at each of them a statement is found;
* `Error.missesStatement`, `Finds` : results that do not say that a statement is missing;
* `finds_trial`, `finds_concretize` : what a search does at a location finds its statement;
* `autoPatch_findsStatements` : so does the whole search.
-/

namespace Mend.Repair

/-! ## The starts of statements -/

theorem mem_dropRepeats {α : Type} [DecidableEq α] {xs : List α} {a : α} :
    a ∈ dropRepeats xs ↔ a ∈ xs := by
  refine ⟨mem_of_mem_dropRepeats, fun h => ?_⟩
  fun_induction dropRepeats xs with
  | case1 => exact h
  | case2 b => exact h
  | case3 b rest ih =>
    rcases List.mem_cons.mp h with rfl | h
    · exact ih List.mem_cons_self
    · exact ih h
  | case4 b c rest hne ih =>
    rcases List.mem_cons.mp h with rfl | h
    · exact List.mem_cons_self
    · exact List.mem_cons_of_mem _ (ih h)

/-- In a list in order equal members stand together, so without its repetitions no two are equal. -/
theorem pairwise_dropRepeats {α : Type} [DecidableEq α] {r : α → α → Prop} {xs : List α}
    (hanti : ∀ a b, r a b → r b a → a = b) (h : xs.Pairwise r) :
    (dropRepeats xs).Pairwise fun a b => r a b ∧ a ≠ b := by
  fun_induction dropRepeats xs with
  | case1 => exact .nil
  | case2 b => exact List.pairwise_singleton _ b
  | case3 b rest ih => exact ih h.of_cons
  | case4 b c rest hne ih =>
    obtain ⟨hb, hrest⟩ := List.pairwise_cons.mp h
    refine List.pairwise_cons.mpr ⟨fun d hd => ?_, ih hrest⟩
    have hd := mem_of_mem_dropRepeats hd
    refine ⟨hb d hd, ?_⟩
    -- if `b` came back behind `c`, the two would be equal
    rintro rfl
    rcases List.mem_cons.mp hd with heq | hmem
    · exact hne heq
    · exact hne (hanti _ _ (hb c List.mem_cons_self) ((List.pairwise_cons.mp hrest).1 _ hmem))

section Locations

variable {store : Store} {file : Path}

theorem mem_locations {l : Location} :
    l ∈ Locator.statements.locations store file ↔
      l.file = file ∧ ∃ s ∈ store.statements file.moduleName, s.span.start = l.point := by
  rw [Locator.locations, mem_dropRepeats, List.mem_map]
  constructor
  · rintro ⟨s, hs, rfl⟩
    exact ⟨rfl, s, hs, rfl⟩
  · rintro ⟨rfl, s, hs, hstart⟩
    exact ⟨s, hs, by rw [hstart]⟩

theorem pairwise_locations (store : Store) (file : Path) :
    (Locator.statements.locations store file).Pairwise fun a b => a.point.Before b.point := by
  have hsorted : ((store.statements file.moduleName).map fun s => (⟨file, s.span.start⟩ : Location)).Pairwise
      fun a b => a.file = b.file ∧ a.point.le b.point = true :=
    List.pairwise_map.mpr ((store.pairwise_statements file.moduleName).imp fun hle => ⟨rfl, hle⟩)
  refine (pairwise_dropRepeats ?_ hsorted).imp ?_
  · rintro ⟨f, p⟩ ⟨g, q⟩ ⟨hfile, hpq⟩ ⟨-, hqp⟩
    obtain rfl : f = g := hfile
    obtain rfl : p = q := Coordinate.le_antisymm hpq hqp
    rfl
  · rintro ⟨f, p⟩ ⟨g, q⟩ ⟨⟨hfile, hle⟩, hne⟩
    obtain rfl : f = g := hfile
    exact Coordinate.before_of_le_of_ne hle fun hpq => hne (congrArg _ hpq)

theorem count_locations {s : Statement} (hs : s ∈ store.statements file.moduleName) :
    (Locator.statements.locations store file).count ⟨file, s.span.start⟩ = 1 := by
  have hnodup : (Locator.statements.locations store file).Nodup :=
    (pairwise_locations store file).imp fun hbefore heq => hbefore.ne (congrArg _ heq)
  exact List.count_eq_one_of_mem hnodup (mem_locations.mpr ⟨rfl, s, hs, rfl⟩)

theorem statementAt_of_mem_locations {l : Location} (h : l ∈ Locator.statements.locations store file) :
    ∃ s, store.statementAt l = some s ∧ s.span.start = l.point := by
  obtain ⟨rfl, s, hs, hstart⟩ := mem_locations.mp h
  obtain ⟨found, hfound⟩ := Store.exists_statementAt hs hstart
  exact ⟨found, hfound, Store.start_of_statementAt hfound⟩

end Locations

/-! ## Results that find their statement -/

/-- The errors that say that no statement is where one should be. -/
def Error.missesStatement : Error → Bool
  | .nothingToPatch _ => true
  | .unresolved (.noStatement _) => true
  | _ => false

/-- A result that does not say that a statement is missing. -/
def Finds {α : Type} (result : Except Error α) : Prop :=
  ∀ e, result = .error e → e.missesStatement = false

section Finds

variable {α β : Type}

theorem finds_ok (a : α) : Finds (.ok a : Except Error α) := nofun

theorem finds_error {e : Error} (h : e.missesStatement = false) : Finds (.error e : Except Error α) := by
  rintro _ ⟨⟩
  exact h

theorem finds_mapError {ε : Type} (x : Except ε α) {f : ε → Error}
    (h : ∀ e, (f e).missesStatement = false) : Finds (x.mapError f) := by
  cases x with
  | ok a => exact finds_ok a
  | error e => exact finds_error (h e)

theorem Finds.bind {x : Except Error α} {f : α → Except Error β} (hx : Finds x) (hf : ∀ a, Finds (f a)) :
    Finds (x >>= f) := by
  cases x with
  | ok a => exact hf a
  | error e => exact finds_error (hx e rfl)

theorem finds_run_bind {x : Task α} {f : α → Task β} {w : World} (hx : Finds (x.run w).1)
    (hf : ∀ a u, Finds ((f a).run u).1) : Finds ((x >>= f).run w).1 := by
  cases h : x.run w with
  | mk result u =>
    rw [h] at hx
    cases result with
    | ok a =>
      rw [run_bind_ok h]
      exact hf a u
    | error e =>
      rw [run_bind_error h]
      exact finds_error (hx e rfl)

end Finds

/-! ## One trial -/

section Trial

variable {programs : Programs}

theorem finds_start (c : Command) (w : World) : Finds ((Target.start programs c).run w).1 := by
  rw [Target.run_start]
  exact finds_mapError _ fun _ => rfl

theorem finds_runCases (executable : Path) (cases : List TestCase) (w : World) :
    Finds ((Target.runCases programs executable cases).run w).1 := by
  induction cases generalizing w with
  | nil => exact finds_ok _
  | cons case rest ih =>
    rw [Target.runCases]
    refine finds_run_bind (finds_start _ w) fun outcome u => ?_
    exact finds_run_bind (ih u) fun report v => finds_ok _

theorem finds_runBuild (t : Target) (w : World) : Finds ((t.runBuild programs).run w).1 := by
  unfold Target.runBuild
  split
  · exact finds_error rfl
  · exact finds_run_bind (finds_start _ w) fun outcome u => finds_ok _

theorem finds_targetTrial (t : Target) (w : World) : Finds ((t.trial programs).run w).1 := by
  unfold Target.trial
  refine finds_run_bind (finds_runBuild t w) fun built u => ?_
  cases built with
  | false => exact finds_ok _
  | true => exact finds_run_bind (finds_runCases _ _ u) fun report v => finds_ok _

theorem finds_take (file : Path) (files : FileTree) : Finds (Backup.take file files) := by
  unfold Backup.take
  refine (finds_mapError _ fun _ => rfl).bind fun copy => ?_
  exact (finds_mapError _ fun _ => rfl).bind fun files => finds_ok _

theorem finds_transform {store : Store} {l : Location} {s : Statement} (hs : store.statementAt l = some s)
    (candidate : String) (files : FileTree) : Finds (Engine.transform store l candidate files) := by
  rw [Engine.transform, hs]
  refine (finds_mapError _ fun _ => rfl).bind fun content => ?_
  refine (finds_mapError _ fun _ => rfl).bind fun patched => ?_
  exact finds_mapError _ fun _ => rfl

theorem finds_trial {store : Store} {target : Target} {l : Location} {s : Statement}
    (hs : store.statementAt l = some s) (candidate : String) (w : World) :
    Finds ((Engine.trial programs store target l candidate).run w).1 := by
  cases htake : Backup.take target.file w.files with
  | error e =>
    rw [Engine.run_trial_of_take_error htake]
    exact finds_error (finds_take _ _ e htake)
  | ok taken =>
    obtain ⟨b, files⟩ := taken
    rw [Engine.run_trial_of_take_ok htake, Engine.run_attempt]
    cases htransform : Engine.transform store l candidate files with
    | error e => exact finds_error (finds_transform hs candidate files e htransform)
    | ok patched => exact finds_targetTrial target _

end Trial

/-! ## The whole search -/

theorem finds_concretize {store : Store} {l : Location} {s : Statement} (hs : store.statementAt l = some s)
    (t : Patch.Template) {e : Patch.Unresolved} (h : Id.run (t.concretize ⟨store.source, l⟩) = .error e) :
    (Error.unresolved e).missesStatement = false := by
  have hfailure : Patch.Situation.firstFailure? ⟨store.source, l⟩ (Patch.Term.template t).holes = some e :=
    Patch.Term.concretize_eq_error_iff.mp h
  obtain ⟨hole, -, hhole⟩ := List.exists_of_findSome?_eq_some hfailure
  have hfunction : Patch.missing? (.noEnclosingFunction l) (store.source.functionContaining l).run = some e →
      (Error.unresolved e).missesStatement = false := by
    intro hmissing
    rcases Patch.missing?_eq_some hmissing with rfl | ⟨x, rfl⟩
    · rfl
    · rfl
  cases hole with
  | «variable» => exact hfunction hhole
  | bufferSize => exact hfunction hhole
  | anchor =>
    have hfound : Patch.missing? (.noStatement l) (store.source.statementAt l).run = none :=
      Patch.missing?_eq_none_iff.mpr ⟨s, congrArg Except.ok hs⟩
    cases hfound.symm.trans hhole

section Plan

variable {store : Store} {t : Patch.Template} {limit : Option Nat} {locations : List Location}

theorem mem_of_attempt_mem_plan {l : Location} {candidate : String}
    (h : .attempt l candidate ∈ plan store t limit locations) : l ∈ locations := by
  obtain ⟨l', hl', hmem⟩ := List.mem_flatMap.mp h
  rw [location_of_mem_stepsAt hmem]
  exact hl'

theorem concretize_of_stuck_mem_plan {x : Patch.Unresolved} (h : .stuck x ∈ plan store t limit locations) :
    ∃ l ∈ locations, Id.run (t.concretize ⟨store.source, l⟩) = .error x := by
  obtain ⟨l, hl, hmem⟩ := List.mem_flatMap.mp h
  refine ⟨l, hl, ?_⟩
  unfold stepsAt at hmem
  split at hmem
  · split at hmem
    · next e he =>
      cases List.mem_singleton.mp hmem
      exact he
    · obtain ⟨c, -, hc⟩ := List.mem_map.mp hmem
      cases hc
  · cases hmem

/-- A search that comes to statements only finds them all. -/
theorem finds_course {programs : Programs} {target : Target} (w : World)
    (hlocations : ∀ l ∈ locations, ∃ s, store.statementAt l = some s) :
    Finds (course programs store target (plan store t limit locations) w).result := by
  intro e he
  have hmatch : FirstMatch programs store target (plan store t limit locations) w _ := firstMatch_course _ w
  rcases (hmatch.failed e).mp he with ⟨trial, htrial, hresult⟩ | ⟨x, rest, rfl, hsteps, -⟩
  · obtain ⟨hstep, hrun⟩ := run_of_mem_course htrial
    obtain ⟨s, hs⟩ := hlocations trial.location (mem_of_attempt_mem_plan hstep)
    have hfinds : Finds ((Engine.trial programs store target trial.location trial.candidate).run trial.before).1 :=
      finds_trial hs trial.candidate trial.before
    rw [hrun, hresult] at hfinds
    exact hfinds e rfl
  · have hstuck : .stuck x ∈ plan store t limit locations := by
      rw [hsteps]
      exact List.mem_append_right _ List.mem_cons_self
    obtain ⟨l, hl, hconcretize⟩ := concretize_of_stuck_mem_plan hstuck
    obtain ⟨s, hs⟩ := hlocations l hl
    exact finds_concretize hs t hconcretize

end Plan

namespace Engine

theorem finds_collectInfo {programs : Programs} {p : Path} {cxx : Bool} (b : Bench) :
    Finds ((collectInfo programs p cxx).run b).1 := by
  rw [run_collectInfo]
  split
  · exact finds_error rfl
  · dsimp only
    split
    · exact finds_error rfl
    · split
      · exact finds_error rfl
      · split
        · exact finds_error rfl
        · exact finds_ok _

/-- A search at the starts of statements finds a statement wherever it looks. -/
theorem finds_autoPatch {programs : Programs} {target : Target} (htarget : target.locator = .statements)
    (name : String) (b : Bench) : Finds ((autoPatch programs name target).run b).1 := by
  rw [run_autoPatch]
  cases b.engine.templates.get name with
  | error e => exact finds_error rfl
  | ok t =>
    have hcollect : Finds ((collectInfo programs target.file target.isCxx).run b).1 := finds_collectInfo b
    cases hrun : (collectInfo programs target.file target.isCxx).run b with
    | mk result u =>
      rw [hrun] at hcollect
      cases result with
      | error e => exact finds_error (hcollect e rfl)
      | ok stats =>
        refine finds_course u.world fun l hl => ?_
        rw [htarget] at hl
        obtain ⟨s, hs, -⟩ := statementAt_of_mem_locations hl
        exact ⟨s, hs⟩

/-- The locations of a search at statements are in strict source order. Each one is in the given file and
has a statement that starts there, and the start of every statement of the module of the file is one of
them exactly once. So no such search fails because a statement is missing, whatever facts are collected
and however its file is spelled. -/
theorem autoPatch_findsStatements :
    (∀ (store : Store) (file : Path),
      (Locator.statements.locations store file).Pairwise (fun a b => a.point.Before b.point) ∧
      (∀ l ∈ Locator.statements.locations store file,
        l.file = file ∧ ∃ s, store.statementAt l = some s ∧ s.span.start = l.point) ∧
      ∀ s ∈ store.statements file.moduleName,
        (Locator.statements.locations store file).count ⟨file, s.span.start⟩ = 1) ∧
    ∀ (programs : Programs) (name : String) (target : Target) (b : Bench),
      target.locator = .statements → ∀ l,
        ((autoPatch programs name target).run b).1 ≠ .error (.nothingToPatch l) ∧
        ((autoPatch programs name target).run b).1 ≠ .error (.unresolved (.noStatement l)) := by
  constructor
  · intro store file
    refine ⟨pairwise_locations store file, fun l hl => ?_, fun s hs => count_locations hs⟩
    exact ⟨file_of_mem_locations hl, statementAt_of_mem_locations hl⟩
  · intro programs name target b htarget l
    have hfinds : Finds ((autoPatch programs name target).run b).1 := finds_autoPatch htarget name b
    constructor
    · intro h
      cases hfinds _ h
    · intro h
      cases hfinds _ h

/-- The search of the project that wrecks its source, with the source in another spelling: its statement is
tried. -/
theorem autoPatch_findsStatements_respelled :
    (tried Wreck.programs "drop" { Wreck.target with file := ⟨".//a.c"⟩ } Wreck.bench).map Trial.step =
      [.attempt ⟨⟨".//a.c"⟩, ⟨1, 1⟩⟩ ";"] ∧
    ∀ l, ((autoPatch Wreck.programs "drop" { Wreck.target with file := ⟨".//a.c"⟩ }).run Wreck.bench).1 ≠
        .error (.nothingToPatch l) ∧
      ((autoPatch Wreck.programs "drop" { Wreck.target with file := ⟨".//a.c"⟩ }).run Wreck.bench).1 ≠
        .error (.unresolved (.noStatement l)) :=
  ⟨by decide +kernel, autoPatch_findsStatements.2 _ _ _ _ rfl⟩

end Engine

end Mend.Repair

import Mend.Proofs.Repair.Search

/-!
# The search of the engine

An engine first collects the facts of the source, which leaves the source alone, and then goes through the
plan that these facts give. So what holds of a course through a plan holds of the whole.

* `collectInfo_cases` : what collecting facts does to a bench;
* `run_autoPatch` : the search, as collecting and a course behind it;
* `autoPatch_restores` : the source is as it was, however the search ends;
* `autoPatch_firstMatch` : the search is one for the first match, and each of its trials starts from the original.
-/

namespace Mend.Repair

/-! ## Collecting facts -/

/-- The program that exports the facts of a source, if there is one, changes no file. -/
def OnlyReads (programs : Programs) (x : Exporter) (p : Path) (cxx : Bool) : Prop :=
  ∀ c, x = .command c → ∀ n t, (programs.run n (Exporter.invocation c p cxx) t).2 = t

def Engine.KeepsOff (e : Engine) (files : FileTree) (p : Path) : Prop :=
  ∀ path place mustExist, e.database = some path →
    Storage.ofName? files path = some (.file place mustExist) → files.resolve p ≠ .ok place

/-- The files after facts have been kept in a database, if there is one. -/
def saveFacts (database : Option Path) (store : Store) (files : FileTree) : Except FactError FileTree :=
  match database with
  | none => .ok files
  | some path => store.saveFile path files

theorem files_extract {programs : Programs} {x : Exporter} {p : Path} {cxx : Bool}
    (h : OnlyReads programs x p cxx) (w : World) : (x.extract programs p cxx w).2.files = w.files := by
  unfold Exporter.extract
  split
  · rfl
  · cases x with
    | sidecar => rfl
    | command c => exact h c rfl w.started w.files

theorem lookup_of_validateSource {files : FileTree} {p : Path} (h : validateSource files p = .ok ()) :
    ∃ content executable, files.lookup p = .ok (.file content executable) := by
  unfold validateSource at h
  split at h
  · cases h
  · split at h
    · cases h
    · next hfile =>
      rw [Bool.not_eq_true', Bool.not_eq_false, FileTree.isFile] at hfile
      split at hfile
      · next content executable hlook => exact ⟨content, executable, hlook⟩
      · cases hfile

section Save

variable {database : Option Path} {store : Store} {files u : FileTree} {p : Path} {content : ByteArray}
  {executable : Bool}

theorem saveFacts_ok (h : saveFacts database store files = .ok u) :
    u = files ∨ ∃ path place mustExist old mode new, database = some path ∧
      Storage.ofName? files path = some (.file place mustExist) ∧
        files.get? place = some (.file old mode) ∧ u = files.putFile place new mode := by
  unfold saveFacts at h
  split at h
  · cases h
    exact Or.inl rfl
  · next path =>
    unfold Store.saveFile at h
    split at h
    · cases h
    · cases h
      exact Or.inl rfl
    · next place mustExist hname =>
      split at h
      · next old mode hget =>
        cases h
        exact Or.inr ⟨path, place, mustExist, old, mode, _, rfl, hname, hget, rfl⟩
      · cases h
        exact Or.inl rfl

/-- A file is still a file when facts have been kept, with the same content if they are kept elsewhere. -/
theorem lookup_saveFacts (hp : files.lookup p = .ok (.file content executable))
    (h : saveFacts database store files = .ok u) :
    (∃ content', u.lookup p = .ok (.file content' executable)) ∧
      ((∀ path place mustExist, database = some path →
        Storage.ofName? files path = some (.file place mustExist) → files.resolve p ≠ .ok place) →
          u.lookup p = .ok (.file content executable)) := by
  rcases saveFacts_ok h with rfl | ⟨path, place, mustExist, old, mode, new, hdatabase, hname, hget, rfl⟩
  · exact ⟨⟨content, hp⟩, fun _ => hp⟩
  · obtain ⟨q, hq, hfile⟩ := (FileTree.lookup_eq_ok_iff files p _).mp hp
    have hdir : files.get? place ≠ some .directory := by
      rw [hget]
      nofun
    by_cases hsame : q = place
    · subst hsame
      have hroot : q ≠ [] := by
        rintro rfl
        cases hget
      rw [hfile] at hget
      cases hget
      exact ⟨⟨new, FileTree.lookup_putFile_self hq hroot hdir new executable⟩,
        fun hoff => absurd hq (hoff path q mustExist hdatabase hname)⟩
    · have hkept := FileTree.lookup_putFile_of_ne hq hsame hdir new mode
      rw [hp] at hkept
      exact ⟨⟨content, hkept⟩, fun _ => hkept⟩

end Save

theorem run_onBench {α : Type} (x : Task α) (b : Bench) :
    (Task.onBench x).run b = ((x.run b.world).1, { b with world := (x.run b.world).2 }) := by
  unfold Task.onBench
  refine (run_get_bind _).trans ?_
  cases x.run b.world with
  | mk result w =>
    cases result with
    | ok a => rfl
    | error e => rfl

namespace Engine

section Collect

variable {programs : Programs} {p : Path} {cxx : Bool}

theorem run_collectInfo (b : Bench) :
    (collectInfo programs p cxx).run b =
      match validateSource b.world.files p with
      | .error e => (.error (.facts e), b)
      | .ok () =>
        let (result, world) := b.engine.exporter.extract programs p cxx b.world
        match result with
        | .error e => (.error (.facts e), { b with world })
        | .ok facts =>
          match b.engine.store.ingest facts with
          | (.error e, store) => (.error (.facts e), ⟨{ b.engine with store }, world⟩)
          | (.ok stats, store) =>
            match saveFacts b.engine.database store world.files with
            | .error e => (.error (.facts e), { b with world })
            | .ok files => (.ok stats, ⟨{ b.engine with store }, { world with files }⟩) := by
  unfold collectInfo
  refine (run_get_bind _).trans ?_
  cases validateSource b.world.files p with
  | error e => rfl
  | ok u =>
    dsimp only
    cases b.engine.exporter.extract programs p cxx b.world with
    | mk result world =>
      refine (run_bind_ok (x := set _) (a := ()) (u := { b with world }) rfl _).trans ?_
      cases result with
      | error e => rfl
      | ok facts =>
        dsimp only
        cases b.engine.store.ingest facts with
        | mk stored store =>
          cases stored with
          | error e => rfl
          | ok stats =>
            dsimp only
            cases b.engine.database with
            | none => rfl
            | some path =>
              dsimp only [saveFacts]
              cases store.saveFile path world.files with
              | error e => rfl
              | ok files => rfl

/-- Facts are collected from a file, and only the store and its database change. If that fails, no file has
changed. -/
theorem collectInfo_cases (b : Bench) (hreads : OnlyReads programs b.engine.exporter p cxx) :
    (∃ e u, (collectInfo programs p cxx).run b = (.error e, u) ∧ u.world.files = b.world.files) ∨
      ∃ stats u store content executable,
        (collectInfo programs p cxx).run b = (.ok stats, u) ∧ u.engine = { b.engine with store } ∧
          b.world.files.lookup p = .ok (.file content executable) ∧
            saveFacts b.engine.database store b.world.files = .ok u.world.files := by
  have hfiles := files_extract hreads b.world
  rw [run_collectInfo]
  cases hvalid : validateSource b.world.files p with
  | error e => exact Or.inl ⟨_, _, rfl, rfl⟩
  | ok valid =>
    obtain ⟨content, executable, hlook⟩ := lookup_of_validateSource hvalid
    dsimp only
    split
    · exact Or.inl ⟨_, _, rfl, hfiles⟩
    · split
      · exact Or.inl ⟨_, _, rfl, hfiles⟩
      · next stats store hingest =>
        split
        · exact Or.inl ⟨_, _, rfl, hfiles⟩
        · next files hsaved =>
          rw [hfiles] at hsaved
          exact Or.inr ⟨stats, _, store, content, executable, rfl, rfl, hlook, hsaved⟩

end Collect

/-! A project in which every build and every test removes the source. -/

namespace Wreck

def files : FileTree where
  entries := [(["shop"], .directory), (["shop", "a.c"], .file "x;".toUTF8 false)]
  workingDirectory := ["shop"]
  devices := by simp

def facts : String :=
  "[\"a\",[],\x7b\"f\":[[\"func_decl\",1,1,1,2],[\"stmt_type\",1,1,1,2,\"x;\"]]\x7d]"

def programs : Programs where
  run _ c t :=
    if c.program = "facts" then (.ok ⟨.exited 0, facts.toUTF8, .empty⟩, t)
    else
      (.ok ⟨.exited (if c.program = "make" then 0 else 1), .empty, .empty⟩,
        match t.delete ⟨"a.c"⟩ with
        | .ok u => u
        | .error _ => t)

def templates : Patch.Registry := ⟨[("drop", Patch.deleteStatement)], List.pairwise_singleton _ _⟩

def bench : Bench := ⟨⟨.empty, some ⟨"facts.db"⟩, .command ⟨"facts", []⟩, templates, some 3⟩, ⟨files, 0⟩⟩

def target : Target := ⟨⟨"a.c"⟩, false, [⟨"1", 0⟩], ["make"], ⟨"a.out"⟩, .statements⟩

theorem run_programs {c : Command} (h : c.program ≠ "facts") (n : Nat) (t : FileTree) :
    (programs.run n c t).2 = t ∨ t.delete target.file = .ok (programs.run n c t).2 := by
  simp only [programs, if_neg h, target]
  cases t.delete ⟨"a.c"⟩ with
  | ok u => exact Or.inr rfl
  | error e => exact Or.inl rfl

theorem program_ne_facts : ∀ c ∈ target.commands, c.program ≠ "facts" := by decide

theorem spared : target.Spared programs := by
  intro copy hcopy c hc
  have hname : target.file.fileName? = some "a.c" := by decide
  have hsource : target.file.EndsIn "a.c" := ⟨by decide, by decide⟩
  obtain ⟨name, hname', hend⟩ := backupPath_endsIn hcopy
  obtain rfl : name = "a.c" := Option.some.inj (hname'.symm.trans hname)
  exact spares_of_delete (b := ⟨target.file, copy⟩) ⟨"a.c", hsource, hend⟩
    (run_programs (program_ne_facts c hc))

theorem onlyReads : OnlyReads programs bench.engine.exporter target.file target.isCxx := by
  rintro c ⟨⟩ n t
  rfl

theorem keepsOff : bench.engine.KeepsOff bench.world.files target.file := by
  rintro path place mustExist ⟨⟩ hname hplace
  have hstorage : Storage.ofName? files ⟨"facts.db"⟩ = some (.file ["shop", "facts.db"] false) := rfl
  have hsource : files.resolve ⟨"a.c"⟩ = .ok ["shop", "a.c"] := rfl
  cases hstorage.symm.trans hname
  exact absurd (Except.ok.inj (hsource.symm.trans hplace)) (by decide)

end Wreck

/-! ## The whole search -/

section AutoPatch

variable (programs : Programs) (name : String) (target : Target)

def courseOn (t : Patch.Template) (b : Bench) : Course :=
  course programs b.engine.store target
    (plan b.engine.store t b.engine.maxCandidates (target.locator.locations b.engine.store target.file)) b.world

def tried (b : Bench) : List Trial :=
  match b.engine.templates.get name with
  | .error _ => []
  | .ok t =>
    match (collectInfo programs target.file target.isCxx).run b with
    | (.error _, _) => []
    | (.ok _, u) => (courseOn programs target t u).trials

theorem run_autoPatch (b : Bench) :
    (autoPatch programs name target).run b =
      match b.engine.templates.get name with
      | .error e => (.error (.registry e), b)
      | .ok t =>
        match (collectInfo programs target.file target.isCxx).run b with
        | (.error e, u) => (.error e, u)
        | (.ok _, u) =>
          ((courseOn programs target t u).result, { u with world := (courseOn programs target t u).final }) := by
  unfold autoPatch
  refine (run_get_bind _).trans ?_
  cases b.engine.templates.get name with
  | error e => rfl
  | ok t =>
    dsimp only
    cases hcollect : (collectInfo programs target.file target.isCxx).run b with
    | mk result u =>
      cases result with
      | error e => exact run_bind_error hcollect _
      | ok stats =>
        refine (run_bind_ok hcollect _).trans ?_
        refine (run_get_bind _).trans ?_
        have hloop := run_tryLocations programs u.engine.store target t u.engine.maxCandidates
          (target.locator.locations u.engine.store target.file) u.world
        refine (run_onBench _ u).trans ?_
        rw [hloop]
        rfl

variable {programs target}

/-- Every trial starts with the original source, and the search ends with it. -/
theorem courseOn_source (t : Patch.Template) {b : Bench} {content : ByteArray} {executable : Bool}
    (hspared : target.Spared programs)
    (hb : b.world.files.lookup target.file = .ok (.file content executable)) :
    (courseOn programs target t b).final.files.lookup target.file = .ok (.file content executable) ∧
      ∀ s ∈ (courseOn programs target t b).trials,
        s.before.files.lookup target.file = .ok (.file content executable) :=
  course_source hspared (within_plan _ t _ target.locator target.file) hb

theorem courseOn_copy_gone (t : Patch.Template) {b : Bench} {content : ByteArray} {executable : Bool}
    (hspared : target.Spared programs)
    (hb : b.world.files.lookup target.file = .ok (.file content executable)) {s : Trial}
    (hs : s ∈ (courseOn programs target t b).trials) {k : Backup} {files : FileTree}
    (htake : Backup.take target.file s.before.files = .ok (k, files)) :
    (courseOn programs target t b).final.files.lookup k.copy = .error .notFound :=
  course_copy_gone hspared (within_plan _ t _ target.locator target.file) hb hs htake

/-- However the search ends, the source is as it was, and if a copy of it was taken, it is gone. -/
theorem autoPatch_restores (b : Bench) (hspared : target.Spared programs)
    (hreads : OnlyReads programs b.engine.exporter target.file target.isCxx)
    (hoff : b.engine.KeepsOff b.world.files target.file) :
    ((autoPatch programs name target).run b).2.world.files.read target.file =
        b.world.files.read target.file ∧
      ∀ copy, backupPath target.file = .ok copy →
        (∃ s ∈ tried programs name target b, (Backup.take target.file s.before.files).isOk = true) →
          ((autoPatch programs name target).run b).2.world.files.lookup copy = .error .notFound := by
  rw [run_autoPatch, tried]
  cases b.engine.templates.get name with
  | error e => exact ⟨rfl, fun _ _ ⟨_, hs, _⟩ => absurd hs List.not_mem_nil⟩
  | ok t =>
    dsimp only
    rcases collectInfo_cases b hreads with
      ⟨e, u, hcollect, hfiles⟩ | ⟨stats, u, store, content, executable, hcollect, -, hb, hsaved⟩
    · rw [hcollect]
      refine ⟨?_, fun _ _ ⟨_, hs, _⟩ => absurd hs List.not_mem_nil⟩
      rw [hfiles]
    · rw [hcollect]
      have hu := (lookup_saveFacts hb hsaved).2 hoff
      constructor
      · dsimp only
        rw [FileTree.read, FileTree.read, hb, (courseOn_source t hspared hu).1]
      · rintro copy hcopy ⟨s, hs, htake⟩
        cases hk : Backup.take target.file s.before.files with
        | error e =>
          rw [hk] at htake
          cases htake
        | ok taken =>
          obtain ⟨k, files⟩ := taken
          have hsame : k.copy = copy := Except.ok.inj ((Backup.take_ok hk).2.1.symm.trans hcopy)
          rw [← hsame]
          exact courseOn_copy_gone t hspared hu hs hk

/-- The source is back after a trial whose build and test have removed it. -/
theorem autoPatch_restores_wreck :
    (tried Wreck.programs "drop" Wreck.target Wreck.bench).length = 1 ∧
      ((autoPatch Wreck.programs "drop" Wreck.target).run Wreck.bench).2.world.files.read ⟨"a.c"⟩ =
        Wreck.files.read ⟨"a.c"⟩ ∧
      ((autoPatch Wreck.programs "drop" Wreck.target).run Wreck.bench).2.world.files.lookup
        ⟨".a.c.tourniquet-orig"⟩ = .error .notFound := by
  obtain ⟨hread, hgone⟩ := autoPatch_restores "drop" Wreck.bench Wreck.spared Wreck.onlyReads Wreck.keepsOff
  exact ⟨by decide +kernel, hread, hgone _ rfl (by decide +kernel)⟩

/-- The search is one for the first match. Without the template or the facts it fails before any trial.
Otherwise its trials are what there is to try by the facts, up to the first one that passes or the first
error, and every one of them is made on the original source; that is the source as it was before the
facts were collected, unless they are kept in that very file. -/
theorem autoPatch_firstMatch (b : Bench) (hspared : target.Spared programs)
    (hreads : OnlyReads programs b.engine.exporter target.file target.isCxx) :
    (∀ e, b.engine.templates.get name = .error e →
      (autoPatch programs name target).run b = (.error (.registry e), b) ∧
        tried programs name target b = []) ∧
    ∀ t, b.engine.templates.get name = .ok t →
      (∀ e u, (collectInfo programs target.file target.isCxx).run b = (.error e, u) →
        (autoPatch programs name target).run b = (.error e, u) ∧ tried programs name target b = []) ∧
      ∀ stats u, (collectInfo programs target.file target.isCxx).run b = (.ok stats, u) →
        ∃ content executable c,
          u.world.files.lookup target.file = .ok (.file content executable) ∧
          (b.engine.KeepsOff b.world.files target.file →
            b.world.files.lookup target.file = .ok (.file content executable)) ∧
          (autoPatch programs name target).run b = (c.result, { u with world := c.final }) ∧
          c.trials = tried programs name target b ∧
          FirstMatch programs u.engine.store target
            (plan u.engine.store t b.engine.maxCandidates
              (target.locator.locations u.engine.store target.file)) u.world c ∧
          ∀ s ∈ c.trials, OnOriginal programs u.engine.store target content executable s := by
  refine ⟨fun e ht => ?_, fun t ht => ⟨fun e u hcollect => ?_, fun stats u hcollect => ?_⟩⟩
  · rw [run_autoPatch, tried, ht]
    exact ⟨rfl, rfl⟩
  · rw [run_autoPatch, tried, ht, hcollect]
    exact ⟨rfl, rfl⟩
  · rw [run_autoPatch, tried, ht, hcollect]
    rcases collectInfo_cases b hreads with
      ⟨e, v, hfailed, -⟩ | ⟨stats', v, store, before, executable, hrun, hengine, hb, hsaved⟩
    · cases hcollect.symm.trans hfailed
    · cases hcollect.symm.trans hrun
      obtain ⟨⟨content, hu⟩, hsame⟩ := lookup_saveFacts hb hsaved
      have hlimit : u.engine.maxCandidates = b.engine.maxCandidates := by rw [hengine]
      refine ⟨content, executable, courseOn programs target t u, hu, fun hoff => ?_, rfl, rfl, ?_, ?_⟩
      · rw [hb, ← hu, hsame hoff]
      · rw [← hlimit]
        exact firstMatch_course _ u.world
      · intro s hs
        exact course_onOriginal hspared (within_plan _ t _ target.locator target.file) hu hs

end AutoPatch

/-! A project with three candidates to try: the compiler refuses the first one, the test fails with the second
one, and the third one passes. -/

namespace Mended

def front : String := "int get(int n)\n\x7b\n  "

def back : String := "\n\x7d\n"

def statement : String := "return table[n];"

def facts : String :=
  "[\"a\",[],\x7b\"get\":[[\"func_decl\",1,1,4,1],[\"var_type\",1,9,1,13,\"n\",\"int\",0,4]," ++
    "[\"stmt_type\",3,3,3,18,\"return table[n];\"]]\x7d]"

def files : FileTree where
  entries :=
    [(["shop"], .directory), (["shop", "a.c"], .file (front ++ statement ++ back).toUTF8 false),
     (["shop", "a.c.facts.json"], .file facts.toUTF8 false)]
  workingDirectory := ["shop"]
  devices := by simp

/-- The statement behind a check that compares the variable with itself. -/
def checked (comparison : String) : String :=
  "if (n " ++ comparison ++ " n) \x7b\nreturn 1;\n\x7d\n\n" ++ statement

/-- Whether the source holds a checked statement. -/
def holds (t : FileTree) (comparison : String) : Bool :=
  match t.read ⟨"a.c"⟩ with
  | .ok content => content.toList == (front ++ checked comparison ++ back).toUTF8.toList
  | .error _ => false

def programs : Programs where
  run _ c t :=
    let code :=
      if c.program = "make" then if holds t "==" then 1 else 0
      else if holds t "<=" then 7 else 0
    (.ok ⟨.exited code, .empty, .empty⟩, t)

def bench : Bench :=
  ⟨⟨.empty, none, .sidecar, ⟨[("check", Patch.boundsCheck)], List.pairwise_singleton _ _⟩, some 5⟩, ⟨files, 0⟩⟩

def target : Target := ⟨⟨"a.c"⟩, false, [⟨"1", 7⟩], ["make"], ⟨"a.out"⟩, .statements⟩

theorem backupPath_target : backupPath target.file = .ok ⟨".a.c.tourniquet-orig"⟩ := rfl

theorem spared : target.Spared programs :=
  fun _ _ _ _ => ⟨fun _ _ _ hcopy => hcopy, fun _ _ hfile => hfile⟩

theorem map_tried : (tried programs "check" target bench).map (fun t => (t.candidate, t.result.toOption)) =
    [(checked "==", some .buildFailed), (checked "!=", some (.testsFailed 1)), (checked "<=", some .passed)] := by
  decide +kernel

end Mended

/-- The search of the project stops at the third of its candidates. -/
theorem autoPatch_firstMatch_mended :
    ∃ stats u, ∃ c : Course, (collectInfo Mended.programs ⟨"a.c"⟩ false).run Mended.bench = (.ok stats, u) ∧
      (autoPatch Mended.programs "check" Mended.target).run Mended.bench = (c.result, { u with world := c.final }) ∧
      c.trials.map (fun t => (t.candidate, t.result.toOption)) =
        [(Mended.checked "==", some .buildFailed), (Mended.checked "!=", some (.testsFailed 1)),
          (Mended.checked "<=", some .passed)] ∧
      c.result = .ok (some (Mended.checked "<=")) ∧
      ∃ t ∈ c.trials, t.candidate = Mended.checked "<=" ∧
        ∃ start v, Begins u.engine.store Mended.target t.location t.candidate t.before start ∧
          Mended.target.PassesFrom Mended.programs start v := by
  have hcollect : ((collectInfo Mended.programs ⟨"a.c"⟩ false).run Mended.bench).1.isOk = true := by
    decide +kernel
  cases hrun : (collectInfo Mended.programs ⟨"a.c"⟩ false).run Mended.bench with
  | mk result u =>
    rw [hrun] at hcollect
    cases result with
    | error e => cases hcollect
    | ok stats =>
      obtain ⟨content, executable, c, -, -, hauto, htried, hmatch, horiginal⟩ :=
        ((autoPatch_firstMatch "check" Mended.bench Mended.spared nofun).2 Patch.boundsCheck rfl).2 stats u hrun
      have hmap := Mended.map_tried
      rw [← htried] at hmap
      have hmem : (Mended.checked "<=", some TrialOutcome.passed) ∈
          c.trials.map (fun t => (t.candidate, t.result.toOption)) := by
        simp [hmap]
      obtain ⟨t, ht, heq⟩ := List.mem_map.mp hmem
      obtain ⟨hcandidate, hresult⟩ := Prod.mk.inj heq
      have hpassed : t.result = .ok .passed := by
        cases hr : t.result with
        | error e =>
          rw [hr] at hresult
          cases hresult
        | ok outcome =>
          rw [hr] at hresult
          rw [Option.some.inj hresult]
      exact ⟨stats, u, c, rfl, hauto, hmap, (hmatch.found _).mpr ⟨t, ht, hpassed, hcandidate⟩, t, ht, hcandidate,
        (horiginal t ht).passed.mp hpassed⟩

end Engine

end Mend.Repair

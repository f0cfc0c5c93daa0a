import Mend.Proofs.Repair.Backup
import Mend.Proofs.Text.Utf8
import Mend.Repair.Engine

/-!
# One trial

A trial copies the source aside, puts a candidate into it, builds and tests, and puts the source back. The
programs it starts may do anything but touch the copy or block the place of the source.

* `Target.commands` : everything that a trial may start; `Spares` : what the commands leave alone;
* `keeps_trial` : what every command keeps is kept by the build and the tests;
* `TestsRun`, `Target.Ends` : how the build and the tests end; `Target.run_trial_iff` : they are run so;
* `Target.PassesFrom`, `Target.trial_passed_iff` : when a target builds and passes its tests;
* `Engine.prepared`, `run_trial` : a trial is prepared, then built and tested, and the source is put back;
* `Begins` : what it takes for the build to start, and in which world; `prepared_eq_ok_iff` : a trial is
  prepared exactly then;
* `Begins.source` : in that world the source holds the original with the statement replaced;
* `trial_restores` : the source is put back, and the copy is removed.
-/

namespace Mend.Repair

namespace Target

theorem run_start (programs : Programs) (c : Command) (w : World) :
    (start programs c).run w = ((w.run programs c).1.mapError .file, (w.run programs c).2) := by
  unfold start
  refine (run_get_bind _).trans ?_
  cases w.run programs c with
  | mk result u =>
    cases result with
    | ok outcome => rfl
    | error e => rfl

theorem run_start_eq_ok_iff {programs : Programs} {c : Command} {w u : World} {outcome : Outcome} :
    (start programs c).run w = (.ok outcome, u) ↔ w.run programs c = (.ok outcome, u) := by
  rw [run_start]
  cases w.run programs c with
  | mk r v =>
    cases r with
    | ok o => exact ⟨fun h => by cases h; rfl, fun h => by cases h; rfl⟩
    | error e => exact ⟨nofun, nofun⟩

/-! ## What the programs leave alone -/

/-- The commands of a trial: the build, and the built program on the input of every test. -/
def commands (t : Target) : List Command :=
  (Command.ofLine? t.build).toList ++ t.tests.map fun case => ⟨t.executable.text, [case.input]⟩

end Target

/-- A command leaves what lies at one path alone, and another path fit for a file to be put there. -/
structure Spares (programs : Programs) (copy file : Path) (c : Command) : Prop where
  copy : ∀ n t entry, t.lookup copy = .ok entry → (programs.run n c t).2.lookup copy = .ok entry
  file : ∀ n t, t.Restorable file → (programs.run n c t).2.Restorable file

/-- A property of the files outlives a command, whenever it is started. -/
def Keeps (programs : Programs) (I : FileTree → Prop) (c : Command) : Prop :=
  ∀ n t, I t → I (programs.run n c t).2

theorem Spares.keeps {programs : Programs} {b : Backup} {c : Command} (h : Spares programs b.copy b.file c)
    (content : ByteArray) (executable : Bool) : Keeps programs (b.Guards content executable) c :=
  fun n t ht => ⟨h.copy n t _ ht.copy, h.file n t ht.file⟩

theorem spares_of_delete {programs : Programs} {b : Backup} {c : Command} (hapart : b.Apart)
    (h : ∀ n t, (programs.run n c t).2 = t ∨ t.delete b.file = .ok (programs.run n c t).2) :
    Spares programs b.copy b.file c := by
  constructor
  case copy =>
    intro n t entry hcopy
    rcases h n t with hsame | hdelete
    · rw [hsame, hcopy]
    · obtain ⟨place, content, executable, hp, hget, hu⟩ := FileTree.delete_ok hdelete
      obtain ⟨aside, haside, -⟩ := (FileTree.lookup_eq_ok_iff t b.copy entry).mp hcopy
      rw [hu, FileTree.lookup_erase_of_ne haside (Ne.symm (hapart.ne hp haside)) (by rw [hget]; nofun), hcopy]
  case file =>
    intro n t hfile
    rcases h n t with hsame | hdelete
    · rw [hsame]
      exact hfile
    · obtain ⟨place, content, executable, hp, hget, hu⟩ := FileTree.delete_ok hdelete
      obtain ⟨name, hend, -⟩ := hapart
      rw [hu]
      exact ⟨place, FileTree.resolve_mono (FileTree.keepsDirectories_erase (by rw [hget]; nofun)) hp,
        Or.inl (FileTree.get?_erase_self t (FileTree.ne_nil_of_endsIn hend hp))⟩

/-- The commands of a target spare its source and the copy of it. -/
def Target.Spared (programs : Programs) (t : Target) : Prop :=
  ∀ copy, backupPath t.file = .ok copy → ∀ c ∈ t.commands, Spares programs copy t.file c

namespace Target

section Kept

variable {programs : Programs} {I : FileTree → Prop}

theorem keeps_start {c : Command} (h : Keeps programs I c) {w : World} (hw : I w.files) :
    I ((start programs c).run w).2.files := by
  rw [run_start]
  exact h w.started w.files hw

theorem keeps_bind {α β : Type} {x : Task α} {f : α → Task β} {w : World}
    (hx : I (x.run w).2.files) (hf : ∀ a u, I u.files → I ((f a).run u).2.files) :
    I ((x >>= f).run w).2.files := by
  cases h : x.run w with
  | mk r u =>
    rw [h] at hx
    cases r with
    | ok a =>
      rw [run_bind_ok h]
      exact hf a u hx
    | error e =>
      rw [run_bind_error h]
      exact hx

theorem keeps_runCases {executable : Path} {cases : List TestCase}
    (h : ∀ case ∈ cases, Keeps programs I ⟨executable.text, [case.input]⟩) {w : World} (hw : I w.files) :
    I ((runCases programs executable cases).run w).2.files := by
  induction cases generalizing w with
  | nil => exact hw
  | cons case rest ih =>
    rw [runCases]
    refine keeps_bind (keeps_start (h case List.mem_cons_self) hw) fun outcome u hu => ?_
    refine keeps_bind (ih (fun c hc => h c (List.mem_cons_of_mem _ hc)) hu) fun report v hv => ?_
    exact hv

theorem keeps_trial {t : Target} (h : ∀ c ∈ t.commands, Keeps programs I c) {w : World}
    (hw : I w.files) : I ((t.trial programs).run w).2.files := by
  have hbuild : ∀ c, Command.ofLine? t.build = some c → Keeps programs I c := fun c hc =>
    h c (List.mem_append_left _ (Option.mem_toList.mpr hc))
  have htests : ∀ case ∈ t.tests, Keeps programs I ⟨t.executable.text, [case.input]⟩ := fun case hcase =>
    h _ (List.mem_append_right _ (List.mem_map_of_mem hcase))
  unfold trial
  refine keeps_bind ?_ fun built u hu => ?_
  · unfold runBuild
    split
    · exact hw
    · next c hc => exact keeps_bind (keeps_start (hbuild c hc) hw) fun outcome v hv => hv
  · cases built with
    | false => exact hu
    | true => exact keeps_bind (keeps_runCases htests hu) fun report v hv => hv

end Kept

/-! ## Building and testing -/

theorem passes_iff (case : TestCase) (status : ExitStatus) :
    passes case status = true ↔ ∃ code : Nat, status = .exited code ∧ (code : Int) = case.expectedExit := by
  cases status with
  | exited code => simp [passes, ExitStatus.code?]
  | killed signal => simp [passes, ExitStatus.code?]

end Target

/-- Tests run one after another until one of them cannot be started. Otherwise the result is the number of
those that end in another way than with the exit code they must have. -/
inductive TestsRun (programs : Programs) (executable : Path) :
    List TestCase → World → Except FileError Nat → World → Prop where
  | nil (w : World) : TestsRun programs executable [] w (.ok 0) w
  | stopped {case : TestCase} {rest : List TestCase} {w u : World} {e : FileError}
      (run : w.run programs ⟨executable.text, [case.input]⟩ = (.error e, u)) :
      TestsRun programs executable (case :: rest) w (.error e) u
  | passed {case : TestCase} {rest : List TestCase} {w u v : World} {outcome : Outcome} {code : Nat}
      {result : Except FileError Nat}
      (run : w.run programs ⟨executable.text, [case.input]⟩ = (.ok outcome, u))
      (exited : outcome.status = .exited code) (expected : (code : Int) = case.expectedExit)
      (others : TestsRun programs executable rest u result v) :
      TestsRun programs executable (case :: rest) w result v
  | failed {case : TestCase} {rest : List TestCase} {w u v : World} {outcome : Outcome}
      {result : Except FileError Nat}
      (run : w.run programs ⟨executable.text, [case.input]⟩ = (.ok outcome, u))
      (differs : ∀ code : Nat, outcome.status = .exited code → (code : Int) ≠ case.expectedExit)
      (others : TestsRun programs executable rest u result v) :
      TestsRun programs executable (case :: rest) w (result.map (· + 1)) v

def TrialOutcome.ofFailed : Nat → TrialOutcome
  | 0 => .passed
  | n + 1 => .testsFailed (n + 1)

/-- How the build and the tests of a target end, and in which world. The build command is the program in
front, with the arguments behind it, and the tests are run only if the build reports success. -/
inductive Target.Ends (programs : Programs) (t : Target) (w : World) : Except Error TrialOutcome → World → Prop where
  | noCommand (build : t.build = []) : t.Ends programs w (.error (.input .emptyBuild)) w
  | notStarted {program : String} {arguments : List String} {e : FileError} {u : World}
      (build : t.build = program :: arguments) (run : w.run programs ⟨program, arguments⟩ = (.error e, u)) :
      t.Ends programs w (.error (.file e)) u
  | notBuilt {program : String} {arguments : List String} {outcome : Outcome} {u : World}
      (build : t.build = program :: arguments) (run : w.run programs ⟨program, arguments⟩ = (.ok outcome, u))
      (status : outcome.status ≠ .exited 0) : t.Ends programs w (.ok .buildFailed) u
  | tested {program : String} {arguments : List String} {outcome : Outcome} {u v : World}
      {failed : Except FileError Nat} (build : t.build = program :: arguments)
      (run : w.run programs ⟨program, arguments⟩ = (.ok outcome, u)) (status : outcome.status = .exited 0)
      (tests : TestsRun programs t.executable t.tests u failed v) :
      t.Ends programs w ((failed.map .ofFailed).mapError .file) v

/-- The build command reports success, and then every test ends with the exit code it must have. -/
def Target.PassesFrom (programs : Programs) (t : Target) (w v : World) : Prop :=
  ∃ program arguments outcome u, t.build = program :: arguments ∧
    w.run programs ⟨program, arguments⟩ = (.ok outcome, u) ∧ outcome.status = .exited 0 ∧
      TestsRun programs t.executable t.tests u (.ok 0) v

namespace Target

section Ends

variable {programs : Programs} {executable : Path} {cases : List TestCase} {t : Target} {w v : World}

theorem map_mapError {α β ε ε' : Type} (x : Except ε α) (f : ε → ε') (g : α → β) :
    (x.mapError f).map g = (x.map g).mapError f := by
  cases x <;> rfl

section Tests

variable {case : TestCase} {rest : List TestCase} {u : World}

theorem run_runCases_stopped {e : FileError} (h : w.run programs ⟨executable.text, [case.input]⟩ = (.error e, u)) :
    (runCases programs executable (case :: rest)).run w = (.error (.file e), u) := by
  have hstart : (start programs ⟨executable.text, [case.input]⟩).run w = (.error (.file e), u) := by
    rw [run_start, h]
    rfl
  rw [runCases, run_bind_error hstart]

/-- One more test adds one to the number of failures, if it fails. -/
theorem run_runCases_cons (rest : List TestCase) {outcome : Outcome}
    (h : w.run programs ⟨executable.text, [case.input]⟩ = (.ok outcome, u)) :
    ((runCases programs executable (case :: rest)).run w).2 = ((runCases programs executable rest).run u).2 ∧
      ((runCases programs executable (case :: rest)).run w).1.map (·.failed) =
        (((runCases programs executable rest).run u).1.map (·.failed)).map
          fun n => if passes case outcome.status then n else n + 1 := by
  rw [runCases, run_bind_ok (run_start_eq_ok_iff.mpr h)]
  cases hrest : (runCases programs executable rest).run u with
  | mk r v =>
    cases r with
    | error e =>
      rw [run_bind_error hrest]
      exact ⟨rfl, rfl⟩
    | ok report =>
      rw [run_bind_ok hrest]
      refine ⟨rfl, congrArg Except.ok ?_⟩
      cases passes case outcome.status <;> rfl

theorem run_runCases_passed (rest : List TestCase) {outcome : Outcome}
    (h : w.run programs ⟨executable.text, [case.input]⟩ = (.ok outcome, u))
    (hpass : passes case outcome.status = true) :
    ((runCases programs executable (case :: rest)).run w).2 = ((runCases programs executable rest).run u).2 ∧
      ((runCases programs executable (case :: rest)).run w).1.map (·.failed) =
        ((runCases programs executable rest).run u).1.map (·.failed) := by
  obtain ⟨hworld, hfailed⟩ := run_runCases_cons rest h
  refine ⟨hworld, hfailed.trans ?_⟩
  simp only [hpass, if_true]
  cases ((runCases programs executable rest).run u).1 <;> rfl

theorem run_runCases_failed (rest : List TestCase) {outcome : Outcome}
    (h : w.run programs ⟨executable.text, [case.input]⟩ = (.ok outcome, u))
    (hfail : ¬passes case outcome.status = true) :
    ((runCases programs executable (case :: rest)).run w).2 = ((runCases programs executable rest).run u).2 ∧
      ((runCases programs executable (case :: rest)).run w).1.map (·.failed) =
        (((runCases programs executable rest).run u).1.map (·.failed)).map (· + 1) := by
  obtain ⟨hworld, hfailed⟩ := run_runCases_cons rest h
  exact ⟨hworld, hfailed.trans (by simp only [if_neg hfail])⟩

end Tests

/-- What the loop over tests comes to is a way for them to run. -/
theorem testsRun_runCases (programs : Programs) (executable : Path) (cases : List TestCase) (w : World) :
    ∃ result, TestsRun programs executable cases w result ((runCases programs executable cases).run w).2 ∧
      ((runCases programs executable cases).run w).1.map (·.failed) = result.mapError .file := by
  induction cases generalizing w with
  | nil => exact ⟨.ok 0, .nil w, rfl⟩
  | cons case rest ih =>
    cases hrun : w.run programs ⟨executable.text, [case.input]⟩ with
    | mk r u =>
      cases r with
      | error e =>
        rw [run_runCases_stopped hrun]
        exact ⟨.error e, .stopped hrun, rfl⟩
      | ok outcome =>
        obtain ⟨result, htests, hresult⟩ := ih u
        by_cases hpass : passes case outcome.status = true
        · obtain ⟨hworld, hfailed⟩ := run_runCases_passed rest hrun hpass
          obtain ⟨code, hexited, hexpected⟩ := (passes_iff case outcome.status).mp hpass
          rw [hworld, hfailed]
          exact ⟨result, .passed hrun hexited hexpected htests, hresult⟩
        · obtain ⟨hworld, hfailed⟩ := run_runCases_failed rest hrun hpass
          have hdiffers : ∀ code : Nat, outcome.status = .exited code → (code : Int) ≠ case.expectedExit :=
            fun code hexited hexpected => hpass ((passes_iff case outcome.status).mpr ⟨code, hexited, hexpected⟩)
          rw [hworld, hfailed, hresult]
          exact ⟨result.map (· + 1), .failed hrun hdiffers htests, map_mapError _ _ _⟩

/-- There is no other way for them to run. -/
theorem run_runCases_of_testsRun {result : Except FileError Nat}
    (h : TestsRun programs executable cases w result v) :
    ((runCases programs executable cases).run w).2 = v ∧
      ((runCases programs executable cases).run w).1.map (·.failed) = result.mapError .file := by
  induction h with
  | nil w => exact ⟨rfl, rfl⟩
  | stopped hrun =>
    rw [run_runCases_stopped hrun]
    exact ⟨rfl, rfl⟩
  | @passed case rest w u v outcome code result hrun hexited hexpected _ ih =>
    have hpass : passes case outcome.status = true :=
      (passes_iff case outcome.status).mpr ⟨code, hexited, hexpected⟩
    obtain ⟨hworld, hfailed⟩ := run_runCases_passed rest hrun hpass
    exact ⟨hworld.trans ih.1, hfailed.trans ih.2⟩
  | @failed case rest w u v outcome result hrun hdiffers _ ih =>
    have hfail : ¬passes case outcome.status = true := by
      intro hpass
      obtain ⟨code, hexited, hexpected⟩ := (passes_iff case outcome.status).mp hpass
      exact hdiffers code hexited hexpected
    obtain ⟨hworld, hfailed⟩ := run_runCases_failed rest hrun hfail
    rw [hworld, hfailed, ih.1, ih.2]
    exact ⟨rfl, map_mapError _ _ _⟩

theorem run_trial_of_no_command (h : t.build = []) :
    (t.trial programs).run w = (.error (.input .emptyBuild), w) := by
  rw [trial, runBuild, h]
  rfl

section Build

variable {program : String} {arguments : List String} {u : World} (hbuild : t.build = program :: arguments)

include hbuild

theorem run_trial_of_not_started {e : FileError} (hrun : w.run programs ⟨program, arguments⟩ = (.error e, u)) :
    (t.trial programs).run w = (.error (.file e), u) := by
  have hstart : (start programs ⟨program, arguments⟩).run w = (.error (.file e), u) := by
    rw [run_start, hrun]
    rfl
  have hbuilt : (t.runBuild programs).run w = (.error (.file e), u) := by
    rw [runBuild, hbuild]
    exact run_bind_error hstart _
  rw [trial, run_bind_error hbuilt]

variable {outcome : Outcome} (hrun : w.run programs ⟨program, arguments⟩ = (.ok outcome, u))

include hrun

theorem run_runBuild : (t.runBuild programs).run w = (.ok outcome.status.success, u) := by
  rw [runBuild, hbuild]
  exact run_bind_ok (run_start_eq_ok_iff.mpr hrun) _

theorem run_trial_of_not_built (hstatus : outcome.status ≠ .exited 0) :
    (t.trial programs).run w = (.ok .buildFailed, u) := by
  have hfailed : outcome.status.success = false := by simpa [ExitStatus.success] using hstatus
  rw [trial, run_bind_ok (run_runBuild hbuild hrun), hfailed]
  rfl

theorem run_trial_of_built (hstatus : outcome.status = .exited 0) :
    (t.trial programs).run w =
      ((((runCases programs t.executable t.tests).run u).1.map (·.failed)).map .ofFailed,
        ((runCases programs t.executable t.tests).run u).2) := by
  have hsuccess : outcome.status.success = true := by simpa [ExitStatus.success] using hstatus
  rw [trial, run_bind_ok (run_runBuild hbuild hrun), hsuccess, if_pos rfl, runTests]
  cases htests : (runCases programs t.executable t.tests).run u with
  | mk r v =>
    cases r with
    | error e => exact run_bind_error htests _
    | ok report =>
      obtain ⟨passed, failed⟩ := report
      rw [run_bind_ok htests]
      cases failed <;> rfl

end Build

/-- A trial of a target ends as its build and its tests end. -/
theorem run_trial_iff {result : Except Error TrialOutcome} :
    (t.trial programs).run w = (result, v) ↔ t.Ends programs w result v := by
  constructor
  · intro h
    cases hbuild : t.build with
    | nil =>
      rw [run_trial_of_no_command hbuild] at h
      cases h
      exact .noCommand hbuild
    | cons program arguments =>
      cases hrun : w.run programs ⟨program, arguments⟩ with
      | mk r u =>
        cases r with
        | error e =>
          rw [run_trial_of_not_started hbuild hrun] at h
          cases h
          exact .notStarted hbuild hrun
        | ok outcome =>
          by_cases hstatus : outcome.status = .exited 0
          · obtain ⟨failed, htests, hfailed⟩ := testsRun_runCases programs t.executable t.tests u
            rw [run_trial_of_built hbuild hrun hstatus, hfailed, map_mapError] at h
            cases h
            exact .tested hbuild hrun hstatus htests
          · rw [run_trial_of_not_built hbuild hrun hstatus] at h
            cases h
            exact .notBuilt hbuild hrun hstatus
  · intro h
    cases h with
    | noCommand hbuild => exact run_trial_of_no_command hbuild
    | notStarted hbuild hrun => exact run_trial_of_not_started hbuild hrun
    | notBuilt hbuild hrun hstatus => exact run_trial_of_not_built hbuild hrun hstatus
    | tested hbuild hrun hstatus htests =>
      obtain ⟨hworld, hfailed⟩ := run_runCases_of_testsRun htests
      rw [run_trial_of_built hbuild hrun hstatus, hworld, hfailed, map_mapError]

theorem ends_passed_iff : t.Ends programs w (.ok .passed) v ↔ t.PassesFrom programs w v := by
  constructor
  · intro h
    generalize hpassed : (.ok .passed : Except Error TrialOutcome) = result at h
    cases h with
    | noCommand hbuild => cases hpassed
    | notStarted hbuild hrun => cases hpassed
    | notBuilt hbuild hrun hstatus => cases hpassed
    | @tested program arguments outcome u v failed hbuild hrun hstatus htests =>
      match failed, hpassed, htests with
      | .ok 0, _, htests => exact ⟨program, arguments, outcome, u, hbuild, hrun, hstatus, htests⟩
  · rintro ⟨program, arguments, outcome, u, hbuild, hrun, hstatus, htests⟩
    exact .tested hbuild hrun hstatus htests

/-- A target passes exactly if its build succeeds and every test ends as it must. -/
theorem trial_passed_iff : (t.trial programs).run w = (.ok .passed, v) ↔ t.PassesFrom programs w v :=
  run_trial_iff.trans ends_passed_iff

end Ends

end Target

/-! ## The source during a trial -/

namespace Engine

section Trial

variable {programs : Programs} {store : Store} {target : Target} {l : Location} {candidate : String}

theorem run_attempt (w : World) :
    (attempt programs store target l candidate).run w =
      match transform store l candidate w.files with
      | .error e => (.error e, w)
      | .ok files => (target.trial programs).run { w with files } := by
  unfold attempt
  refine (run_get_bind _).trans ?_
  cases transform store l candidate w.files with
  | error e => rfl
  | ok files => rfl

theorem run_trial_of_take_error {w : World} {e : Error} (h : Backup.take target.file w.files = .error e) :
    (trial programs store target l candidate).run w = (.error e, w) := by
  unfold trial
  refine (run_get_bind _).trans ?_
  rw [h]
  rfl

theorem run_trial_of_take_ok {w : World} {b : Backup} {files : FileTree}
    (h : Backup.take target.file w.files = .ok (b, files)) :
    (trial programs store target l candidate).run w =
      let (result, u) := (attempt programs store target l candidate).run { w with files }
      (result, { u with files := b.drop u.files }) := by
  unfold trial
  refine (run_get_bind _).trans ?_
  rw [h]
  refine (run_bind_ok (x := set _) (a := ()) (u := { w with files }) rfl _).trans ?_
  cases hrun : (attempt programs store target l candidate).run { w with files } with
  | mk result u =>
    refine (run_bind_ok (run_lift hrun) _).trans ?_
    cases result with
    | ok outcome => rfl
    | error e => rfl

/-- The world in which the build of a trial starts: the source is copied aside, and the candidate is in
its place. -/
def prepared (store : Store) (target : Target) (l : Location) (candidate : String) (w : World) :
    Except Error (Backup × World) := do
  let taken ← Backup.take target.file w.files
  (transform store l candidate taken.2).map fun files => (taken.1, { w with files })

theorem prepared_of_take_error {w : World} {e : Error} (h : Backup.take target.file w.files = .error e) :
    prepared store target l candidate w = .error e := by
  unfold prepared
  rw [h]
  rfl

theorem prepared_of_take_ok {w : World} {b : Backup} {files : FileTree}
    (h : Backup.take target.file w.files = .ok (b, files)) :
    prepared store target l candidate w =
      (transform store l candidate files).map fun files => (b, { w with files }) := by
  unfold prepared
  rw [h]
  rfl

/-- A trial that cannot be prepared starts no program. One that was prepared is the build and the tests, and
the source put back behind them. -/
theorem run_trial (w : World) :
    (∀ e, prepared store target l candidate w = .error e →
      ∃ files, (trial programs store target l candidate).run w = (.error e, { w with files })) ∧
    ∀ b start, prepared store target l candidate w = .ok (b, start) →
      (trial programs store target l candidate).run w =
        let (result, u) := (target.trial programs).run start
        (result, { u with files := b.drop u.files }) := by
  cases htake : Backup.take target.file w.files with
  | error e =>
    rw [prepared_of_take_error htake, run_trial_of_take_error htake]
    refine ⟨?_, nofun⟩
    rintro _ ⟨⟩
    exact ⟨w.files, rfl⟩
  | ok taken =>
    obtain ⟨b, files⟩ := taken
    rw [prepared_of_take_ok htake, run_trial_of_take_ok htake, run_attempt]
    cases transform store l candidate files with
    | error e =>
      refine ⟨?_, nofun⟩
      rintro _ ⟨⟩
      exact ⟨b.drop files, rfl⟩
    | ok patched =>
      refine ⟨nofun, ?_⟩
      rintro _ _ ⟨⟩
      rfl

/-- A trial passes exactly if it can be prepared, and the target passes from there. -/
theorem trial_passed_iff (w : World) :
    ((trial programs store target l candidate).run w).1 = .ok .passed ↔
      ∃ b start u, prepared store target l candidate w = .ok (b, start) ∧
        target.PassesFrom programs start u := by
  obtain ⟨hfailed, hbuilt⟩ := run_trial w
  cases hprep : prepared store target l candidate w with
  | error e =>
    obtain ⟨files, hrun⟩ := hfailed e hprep
    rw [hrun]
    exact ⟨nofun, nofun⟩
  | ok ready =>
    obtain ⟨b, start⟩ := ready
    rw [hbuilt b start hprep]
    cases hrun : (target.trial programs).run start with
    | mk result u =>
      constructor
      · rintro rfl
        exact ⟨b, start, u, rfl, Target.trial_passed_iff.mp hrun⟩
      · rintro ⟨b', start', u', heq, hpasses⟩
        cases heq
        rw [Target.trial_passed_iff.mpr hpasses] at hrun
        cases hrun
        rfl

theorem readText_eq_ok_iff {files : FileTree} {p : Path} {content : ByteArray} {executable : Bool}
    {text : String} (hfile : files.lookup p = .ok (.file content executable)) :
    files.readText p = .ok text ↔ content = text.toUTF8 := by
  have hread : files.read p = .ok content := by
    rw [FileTree.read, hfile]
    rfl
  rw [← Text.Utf8.text?_eq_some_iff, FileTree.readText, hread]
  simp only [bind, Except.bind]
  cases Text.Utf8.text? content <;> simp

/-- A statement is replaced in a file if the file is a text and the statement can be cut out of it. -/
theorem transform_eq_ok_iff {files u : FileTree} {content : ByteArray} {executable : Bool} {place : Place}
    (hfile : files.lookup l.file = .ok (.file content executable)) (hplace : files.resolve l.file = .ok place) :
    transform store l candidate files = .ok u ↔
      ∃ text s patched, content = text.toUTF8 ∧ store.statementAt l = some s ∧
        Source.splice text candidate s.span = .ok patched ∧ u = files.putFile place patched.toUTF8 executable := by
  have hwrite : ∀ new, files.write l.file new = .ok (files.putFile place new executable) := by
    intro new
    obtain ⟨place', hplace', -, hwritten⟩ := FileTree.write_of_lookup hfile new
    obtain rfl : place' = place := Except.ok.inj (hplace'.symm.trans hplace)
    exact hwritten
  unfold transform
  cases hs : store.statementAt l with
  | none => simp
  | some s =>
    dsimp only [replaceInFile]
    constructor
    · intro h
      obtain ⟨text, hread, h⟩ := bind_eq_ok h
      obtain ⟨patched, hsplice, h⟩ := bind_eq_ok h
      rw [hwrite] at h
      cases h
      exact ⟨text, s, patched, (readText_eq_ok_iff hfile).mp (mapError_eq_ok hread), rfl,
        mapError_eq_ok hsplice, rfl⟩
    · rintro ⟨text, s', patched, hcontent, hs', hsplice, rfl⟩
      cases hs'
      rw [(readText_eq_ok_iff hfile).mpr hcontent]
      simp only [mapError_ok, bind, Except.bind, hsplice, hwrite]

/-- The build of a trial can start, and `start` is the world in which it does. A copy of the source can be
put aside, the source is a text, a statement starts at the location, and the candidate can be put in its place.
Nothing but the copy and the source is written. -/
inductive Begins (store : Store) (target : Target) (l : Location) (candidate : String) (w : World) : World → Prop
  | mk {copy : Path} {aside place : Place} {text patched : String} {executable : Bool} {s : Statement}
    (named : backupPath target.file = .ok copy) (copied : w.files.resolve copy = .ok aside)
    (free : w.files.get? aside ≠ some .directory) (source : w.files.resolve target.file = .ok place)
    (content : w.files.get? place = some (.file text.toUTF8 executable))
    (statement : store.statementAt l = some s) (spliced : Source.splice text candidate s.span = .ok patched) :
    Begins store target l candidate w
      { w with files := (w.files.putFile aside text.toUTF8 executable).putFile place patched.toUTF8 executable }

/-- A trial is prepared exactly if its build can start. -/
theorem prepared_eq_ok_iff (hl : l.file = target.file) {w start : World} :
    (∃ b, prepared store target l candidate w = .ok (b, start)) ↔ Begins store target l candidate w start := by
  constructor
  · rintro ⟨b, h⟩
    cases htake : Backup.take target.file w.files with
    | error e =>
      rw [prepared_of_take_error htake] at h
      cases h
    | ok taken =>
      obtain ⟨b', files⟩ := taken
      rw [prepared_of_take_ok htake] at h
      obtain ⟨hfile, hcopy, -⟩ := Backup.take_ok htake
      obtain ⟨-, content, executable, aside, hlook, haside, -, hdir, rfl⟩ := Backup.take_eq htake
      obtain ⟨-, content', executable', hbefore, hafter, -⟩ := Backup.take_guards htake
      cases Except.ok.inj (hlook.symm.trans hbefore)
      rw [hfile] at hlook hafter
      obtain ⟨place, hplace, hget⟩ := (FileTree.lookup_eq_ok_iff _ _ _).mp hlook
      have hplaced := FileTree.resolve_mono (FileTree.keepsDirectories_putFile hdir content executable) hplace
      cases ht : transform store l candidate (w.files.putFile aside content executable) with
      | error e =>
        rw [ht] at h
        cases h
      | ok u =>
        rw [ht] at h
        cases h
        rw [← hl] at hafter hplaced
        obtain ⟨text, s, patched, rfl, hs, hsplice, rfl⟩ := (transform_eq_ok_iff hafter hplaced).mp ht
        exact .mk hcopy haside hdir hplace hget hs hsplice
  · rintro @⟨copy, aside, place, text, patched, executable, s, hcopy, haside, hdir, hplace, hget, hs, hsplice⟩
    have hlook : w.files.lookup target.file = .ok (.file text.toUTF8 executable) :=
      (FileTree.lookup_eq_ok_iff _ _ _).mpr ⟨place, hplace, hget⟩
    have htake := Backup.take_of_lookup hlook hcopy haside hdir
    obtain ⟨-, content', executable', hbefore, hafter, -⟩ := Backup.take_guards htake
    cases Except.ok.inj (hlook.symm.trans hbefore)
    have hplaced := FileTree.resolve_mono (FileTree.keepsDirectories_putFile hdir text.toUTF8 executable) hplace
    rw [← hl] at hplaced
    have ht := (transform_eq_ok_iff (l := l) (by rw [hl]; exact hafter) hplaced).mpr
      ⟨text, s, patched, rfl, hs, hsplice, rfl⟩
    rw [prepared_of_take_ok htake, ht]
    exact ⟨_, rfl⟩

/-- The build starts with the original source in which the statement at the location is replaced. -/
theorem Begins.source {w start : World} {content : ByteArray} {executable : Bool}
    (h : Begins store target l candidate w start)
    (hw : w.files.lookup target.file = .ok (.file content executable)) :
    ∃ text s patched, content = text.toUTF8 ∧ store.statementAt l = some s ∧
      Source.splice text candidate s.span = .ok patched ∧ start.files.read target.file = .ok patched.toUTF8 := by
  obtain @⟨copy, aside, place, text, patched, mode, s, hcopy, haside, hdir, hplace, hget, hs, hsplice⟩ := h
  rw [FileTree.lookup_of_resolve hplace, hget] at hw
  cases hw
  refine ⟨text, s, patched, rfl, hs, hsplice, ?_⟩
  have hlook : w.files.lookup target.file = .ok (.file text.toUTF8 executable) :=
    (FileTree.lookup_eq_ok_iff _ _ _).mpr ⟨place, hplace, hget⟩
  obtain ⟨⟨name, hfile, -⟩, -⟩ := Backup.take_eq (Backup.take_of_lookup hlook hcopy haside hdir)
  obtain ⟨-, content', executable', hbefore, hafter, -⟩ :=
    Backup.take_guards (Backup.take_of_lookup hlook hcopy haside hdir)
  have hplaced := FileTree.resolve_mono (FileTree.keepsDirectories_putFile hdir text.toUTF8 executable) hplace
  have hput := FileTree.lookup_putFile_self hplaced (FileTree.ne_nil_of_endsIn hfile hplace)
    (FileTree.Restorable.not_directory (FileTree.restorable_of_lookup hafter) hplaced) patched.toUTF8 executable
  rw [FileTree.read, hput]
  rfl

theorem attempt_guards {b : Backup} {content : ByteArray} {executable : Bool} {w : World}
    (hspared : ∀ c ∈ target.commands, Spares programs b.copy b.file c) (hapart : b.Apart)
    (hl : l.file = b.file) (hw : w.files.lookup b.file = .ok (.file content executable))
    (h : b.Guards content executable w.files) :
    b.Guards content executable ((attempt programs store target l candidate).run w).2.files := by
  rw [run_attempt]
  cases ht : transform store l candidate w.files with
  | error e => exact h
  | ok u =>
    obtain ⟨place, hp, -⟩ := (FileTree.lookup_eq_ok_iff _ _ _).mp hw
    obtain ⟨text, s, patched, -, -, -, rfl⟩ :=
      (transform_eq_ok_iff (l := l) (by rw [hl]; exact hw) (by rw [hl]; exact hp)).mp ht
    refine Target.keeps_trial (fun c hc => (hspared c hc).keeps content executable) ?_
    exact h.putFile hapart hp patched.toUTF8 executable

/-- A trial puts the source back, and removes the copy if it has taken one. -/
theorem trial_restores (store : Store) (candidate : String) (hspared : target.Spared programs)
    (hl : l.file = target.file) {w : World} {content : ByteArray} {executable : Bool}
    (hw : w.files.lookup target.file = .ok (.file content executable)) :
    ((trial programs store target l candidate).run w).2.files.lookup target.file =
        .ok (.file content executable) ∧
      ∀ b files, Backup.take target.file w.files = .ok (b, files) →
        ((trial programs store target l candidate).run w).2.files.lookup b.copy = .error .notFound := by
  cases htake : Backup.take target.file w.files with
  | error e =>
    rw [run_trial_of_take_error htake]
    exact ⟨hw, nofun⟩
  | ok taken =>
    obtain ⟨b, files⟩ := taken
    obtain ⟨hfile, hcopy, -⟩ := Backup.take_ok htake
    obtain ⟨hapart, content', executable', hbefore, hafter, hguards⟩ := Backup.take_guards htake
    rw [← hfile] at hw
    cases Except.ok.inj (hw.symm.trans hbefore)
    rw [run_trial_of_take_ok htake]
    have hsparedCopy := hspared b.copy hcopy
    rw [← hfile] at hl hsparedCopy ⊢
    have hend : b.Guards content executable
        ((attempt programs store target l candidate).run { w with files }).2.files :=
      attempt_guards hsparedCopy hapart hl hafter hguards
    obtain ⟨hback, hgone⟩ := Backup.drop_guards hapart hend
    refine ⟨hback, ?_⟩
    rintro _ _ ⟨⟩
    exact hgone

end Trial

end Engine

end Mend.Repair

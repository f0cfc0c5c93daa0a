import Mend.CommandLine.Run
import Mend.Proofs.Files.Joining
import Mend.Proofs.Steps

/-!
# The database of an invocation

A database may be named on the command line, in the environment, in the configuration of the project and in
that of the user; the first of these counts. A name that is a relative path is meant from the root of the
project, wherever it comes from. All sources but one keep to that: what the command line names is opened as it
is written, so that it is looked for where the program was started.

* `DatabaseNames`, `Documented` : the names there are, and the rule;
* `StandsFor`, `standsFor_expandHome` : a leading `~` is the home directory;
* `database_load` : the configured name is that of the project, else that of the user;
* `databasePath_documented` : environment, configuration and default keep to the rule;
* `run_answer_of_openFile_error` : the database is the one that is opened;
* `database_documented_iff` : when an invocation keeps to the rule.
-/

namespace Mend

/-! ## The rule -/

/-- The first component of a path is `~`. -/
def Path.StartsAtHome (p : Path) : Prop := p.components.head? = some (.name ['~'])

/-- What a name stands for where a leading `~` is the home directory, if there is one. -/
structure StandsFor (home : Option Path) (value q : Path) : Prop where
  tilde : ∀ h, home = some h → value.StartsAtHome →
    q.isAbsolute = h.isAbsolute ∧ q.steps = h.steps ++ value.steps.tail
  plain : home = none ∨ ¬value.StartsAtHome → q = value

/-- The names that a database is given, as far as it is: on the command line, in the environment, in the
configuration of the project and in that of the user. -/
structure DatabaseNames where
  flag : Option Path
  environment : Option Path
  project : Option Path
  user : Option Path

/-- The environment names no database; an empty name is none. -/
def DatabaseNames.NotInEnvironment (names : DatabaseNames) : Prop :=
  ∀ v, names.environment = some v → v.text = ""

/-- The database of the project at `root`: the first name counts, and a relative path leads from the root. Paths
are compared by their steps here, not by the files they lead to. -/
inductive Documented (root : Path) (home : Option Path) (names : DatabaseNames) : Path → Prop where
  | flag {v p : Path} (h : names.flag = some v) (hp : root.LeadsFrom v p) : Documented root home names p
  | environment {v q p : Path} (hflag : names.flag = none) (h : names.environment = some v)
      (hset : v.text ≠ "") (hq : StandsFor home v q) (hp : root.LeadsFrom q p) : Documented root home names p
  | project {v q p : Path} (hflag : names.flag = none) (henv : names.NotInEnvironment)
      (h : names.project = some v) (hq : StandsFor home v q) (hp : root.LeadsFrom q p) :
      Documented root home names p
  | user {v q p : Path} (hflag : names.flag = none) (henv : names.NotInEnvironment)
      (hproject : names.project = none) (h : names.user = some v) (hq : StandsFor home v q)
      (hp : root.LeadsFrom q p) : Documented root home names p
  | unnamed {p : Path} (hflag : names.flag = none) (henv : names.NotInEnvironment)
      (hproject : names.project = none) (huser : names.user = none)
      (hp : root.LeadsFrom ⟨".tourniquet/facts.sqlite"⟩ p) : Documented root home names p

namespace Config

def databaseIn (files : FileTree) (p : Path) : Option Path :=
  match loadFile files p with
  | .ok (some c) => c.database
  | _ => none

end Config

/-- The names there are for the database of the project at `root`, where the command line gives `flag`. -/
def DatabaseNames.ofProject (flag : Option Path) (env : Environment) (root : Path) (files : FileTree) :
    DatabaseNames where
  flag := flag
  environment := env.database
  project := Config.databaseIn files (Config.projectPath root)
  user := (Config.userPath? env).bind (Config.databaseIn files)

theorem documented_flag_iff {root : Path} {home : Option Path} {names : DatabaseNames} {v p : Path}
    (h : names.flag = some v) : Documented root home names p ↔ root.LeadsFrom v p := by
  refine ⟨fun hp => ?_, .flag h⟩
  cases hp with
  | flag h' hp =>
    rw [h] at h'
    cases h'
    exact hp
  | environment hflag | project hflag | user hflag | unnamed hflag =>
    rw [h] at hflag
    cases hflag

/-! ## Environment, configuration and default -/

namespace Config

theorem standsFor_expandHome (env : Environment) (p : Path) : StandsFor env.home p (expandHome env p) := by
  have hname : Path.step? "~".toList = some (.name "~".toList) := by decide
  have hstarts : (p.below? "~").isSome = true ↔ p.StartsAtHome := p.below?_isSome_iff hname
  unfold expandHome
  cases hbelow : p.below? "~" with
  | none =>
    have hplain : ¬p.StartsAtHome := by
      rw [← hstarts, hbelow]
      exact Bool.false_ne_true
    refine ⟨fun _ _ h => absurd h hplain, fun _ => ?_⟩
    cases env.home <;> rfl
  | some rest =>
    have htilde : p.StartsAtHome := by
      rw [← hstarts, hbelow]
      rfl
    obtain ⟨hrel, hsteps⟩ := Path.steps_below? hname hbelow
    cases henv : env.home with
    | none => exact ⟨nofun, fun _ => rfl⟩
    | some home =>
      refine ⟨?_, fun h => h.elim nofun fun hno => absurd htilde hno⟩
      rintro h ⟨⟩ -
      rw [hsteps]
      exact (Path.leadsFrom_relative hrel).mp (Path.leadsFrom_join home rest)

theorem mergeFile_ok {files : FileTree} {c c' : Config} {p : Path} (h : mergeFile files c p = .ok c') :
    c'.database = (databaseIn files p).or c.database := by
  obtain ⟨loaded, hloaded, hmerged⟩ := bind_eq_ok h
  cases hmerged
  rw [databaseIn, hloaded]
  cases loaded with
  | none => rfl
  | some other => rfl

/-- The configured database is the one that the project names, else the one that the user names. -/
theorem database_load {env : Environment} {root : Path} {files : FileTree} {c : Config}
    (h : load env root files = .ok c) :
    c.database = (databaseIn files (projectPath root)).or ((userPath? env).bind (databaseIn files)) := by
  unfold load at h
  cases hpath : userPath? env with
  | none =>
    rw [hpath] at h
    exact mergeFile_ok h
  | some p =>
    rw [hpath] at h
    obtain ⟨user, huser, hproject⟩ := bind_eq_ok h
    rw [mergeFile_ok hproject, mergeFile_ok huser, Option.bind_some]
    congr 1
    exact Option.or_none

theorem leadsFrom_defaultDatabase (root : Path) :
    root.LeadsFrom ⟨".tourniquet/facts.sqlite"⟩ ((root.join projectDirectory).join ⟨"facts.sqlite"⟩) := by
  have hsteps : Path.steps ⟨".tourniquet/facts.sqlite"⟩ =
      projectDirectory.steps ++ Path.steps ⟨"facts.sqlite"⟩ := by decide
  obtain ⟨habs, hdirectory⟩ := (Path.leadsFrom_relative (by decide)).mp (root.leadsFrom_join projectDirectory)
  obtain ⟨habs', hfile⟩ :=
    (Path.leadsFrom_relative (by decide)).mp ((root.join projectDirectory).leadsFrom_join ⟨"facts.sqlite"⟩)
  rw [Path.leadsFrom_relative (by decide), habs', habs, hfile, hdirectory, hsteps, List.append_assoc]
  exact ⟨rfl, rfl⟩

/-- Environment, configuration and default keep to the rule. -/
theorem databasePath_documented {env : Environment} {root : Path} {files : FileTree} {c : Config}
    (h : load env root files = .ok c) :
    Documented root env.home (.ofProject none env root files) (c.databasePath env root) := by
  have hconfigured := database_load h
  unfold databasePath namedDatabase?
  cases henv : env.database.filter fun p => !p.text.isEmpty with
  | some v =>
    obtain ⟨hv, hset⟩ := Option.filter_eq_some_iff.mp henv
    exact .environment rfl hv (by simpa using hset) (standsFor_expandHome env v) (root.leadsFrom_join _)
  | none =>
    have hunset : (DatabaseNames.ofProject none env root files).NotInEnvironment := by
      intro v hv
      have hempty := Option.filter_eq_none_iff.mp henv v hv
      simpa using hempty
    rw [Option.none_or, hconfigured]
    cases hproject : databaseIn files (projectPath root) with
    | some v => exact .project rfl hunset hproject (standsFor_expandHome env v) (root.leadsFrom_join _)
    | none =>
      rw [Option.none_or]
      cases huser : (userPath? env).bind (databaseIn files) with
      | some v => exact .user rfl hunset hproject huser (standsFor_expandHome env v) (root.leadsFrom_join _)
      | none => exact .unnamed rfl hunset hproject huser (leadsFrom_defaultDatabase root)

end Config

/-! ## What is opened -/

namespace CommandLine

open Repair (Job Engine)

variable {w : World} {config : Config} {database : Path} {e : FactError}

theorem run_withEngine_of_openFile_error {α : Type} (h : Store.openFile database w.files = .error e)
    (job : Job α) : (withEngine database config job).run w = (.error (.facts e), w) := by
  have hopen : Engine.openAt database config.exporter config.maxCandidates w.files = .error (.facts e) := by
    rw [Engine.openAt, h]
    rfl
  unfold withEngine
  rw [run_get_bind, hopen]
  rfl

/-- A request that has to do with facts. The templates are shown without any, and a patch needs a build
command first. -/
def Request.opensStore (config : Config) : Request → Bool
  | .templates => false
  | .patch _ _ _ build _ _ => (buildCommand config build).toBool
  | _ => true

theorem run_answer_of_openFile_error (programs : Programs) (env : Environment) (i : Invocation)
    (hload : Config.load env i.root w.files = .ok config) (hopens : i.request.opensStore config = true)
    (h : Store.openFile (i.databasePath config env) w.files = .error e) :
    (i.answer programs env).run w = (.error (.facts e), w) := by
  unfold Invocation.answer
  rw [run_get_bind, hload]
  dsimp only
  cases hrequest : i.request with
  | collect file cxx => exact run_bind_error (run_withEngine_of_openFile_error h _) _
  | templates =>
    rw [hrequest] at hopens
    cases hopens
  | view template l => exact run_bind_error (run_withEngine_of_openFile_error h _) _
  | concretize template l limit => exact run_bind_error (run_withEngine_of_openFile_error h _) _
  | patch template file executable build tests locator =>
    rw [hrequest] at hopens
    dsimp only
    cases hbuild : buildCommand config build with
    | error err =>
      rw [Request.opensStore, hbuild] at hopens
      cases hopens
    | ok command => exact run_bind_error (run_withEngine_of_openFile_error h _) _

/-- An invocation works on its database as if the command line named it. -/
theorem run_answer_database (programs : Programs) (env : Environment) (i : Invocation)
    (hload : Config.load env i.root w.files = .ok config) :
    (i.answer programs env).run w =
      ({ i with database := some (i.databasePath config env) }.answer programs env).run w := by
  unfold Invocation.answer
  rw [run_get_bind, run_get_bind, hload]
  rfl

/-- The database of an invocation is the one that the rule gives, unless the command line names a relative
path while the root of the project is elsewhere: what the command line names is opened as it is written. -/
theorem database_documented_iff (programs : Programs) (env : Environment) (i : Invocation)
    (hload : Config.load env i.root w.files = .ok config) :
    (Documented i.root env.home (.ofProject i.database env i.root w.files) (i.databasePath config env) ↔
      ∀ flag, i.database = some flag →
        flag.isAbsolute = true ∨ i.root.isAbsolute = false ∧ i.root.steps = []) ∧
    (∀ flag, i.database = some flag → i.databasePath config env = flag) ∧
    (i.answer programs env).run w =
      ({ i with database := some (i.databasePath config env) }.answer programs env).run w ∧
    (∀ e, i.request.opensStore config = true →
      Store.openFile (i.databasePath config env) w.files = .error e →
      (i.answer programs env).run w = (.error (.facts e), w)) := by
  refine ⟨?_, ?_, run_answer_database programs env i hload,
    fun e => run_answer_of_openFile_error programs env i hload⟩
  · unfold Invocation.databasePath
    cases hflag : i.database with
    | none => exact ⟨nofun, fun _ => Config.databasePath_documented hload⟩
    | some flag =>
      rw [Option.getD_some, documented_flag_iff rfl, i.root.leadsFrom_self_iff flag]
      exact ⟨fun h _ heq => Option.some_inj.mp heq ▸ h, fun h => h flag rfl⟩
  · intro flag hflag
    rw [Invocation.databasePath, hflag, Option.getD_some]

/-! A project below the working directory: user and project name a database each, the environment none. -/

namespace Subproject

def files : FileTree where
  entries :=
    [(["w"], .directory), (["w", "proj"], .directory), (["w", "proj", ".tourniquet"], .directory),
     (["w", "proj", ".tourniquet", "config.toml"], .file "database.path = \"~/p.db\"".toUTF8 false),
     (["h"], .directory), (["h", "tourniquet"], .directory),
     (["h", "tourniquet", "config.toml"], .file "database.path = \"u.db\"".toUTF8 false)]
  workingDirectory := ["w"]
  devices := by simp

def world : World := ⟨files, 0⟩

def programs : Programs := ⟨fun _ _ t => (.error .notFound, t)⟩

def env : Environment := ⟨[("HOME", "/h"), ("XDG_CONFIG_HOME", "/h"), ("TOURNIQUET_DB", "")]⟩

theorem load_eq : Config.load env ⟨"proj"⟩ files = .ok { database := some ⟨"~/p.db"⟩ } := by
  have h : (Config.load env ⟨"proj"⟩ files).toOption = some { database := some ⟨"~/p.db"⟩ } := by
    decide +kernel
  cases hload : Config.load env ⟨"proj"⟩ files with
  | error e =>
    rw [hload] at h
    cases h
  | ok c =>
    rw [hload] at h
    exact congrArg Except.ok (Option.some.inj h)

def invocation (flag : Option Path) : Invocation := ⟨⟨"proj"⟩, flag, .view "bounds-check" ⟨⟨"a.c"⟩, ⟨1, 1⟩⟩⟩

end Subproject

/-- Without a word on the command line the database of the project is in the home directory. A relative path
on the command line is not looked for in the project. -/
theorem database_documented_subproject :
    Documented ⟨"proj"⟩ (some ⟨"/h"⟩) (.ofProject none Subproject.env ⟨"proj"⟩ Subproject.files) ⟨"/h/p.db"⟩ ∧
      ¬Documented ⟨"proj"⟩ (some ⟨"/h"⟩)
        (.ofProject (some ⟨"x.db"⟩) Subproject.env ⟨"proj"⟩ Subproject.files) ⟨"x.db"⟩ := by
  have hnone := database_documented_iff Subproject.programs Subproject.env (Subproject.invocation none)
    (w := Subproject.world) Subproject.load_eq
  have hflag := database_documented_iff Subproject.programs Subproject.env
    (Subproject.invocation (some ⟨"x.db"⟩)) (w := Subproject.world) Subproject.load_eq
  refine ⟨hnone.1.mpr nofun, fun h => ?_⟩
  exact absurd (hflag.1.mp h ⟨"x.db"⟩ rfl) (by decide)

end CommandLine

end Mend

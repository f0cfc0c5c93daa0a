import Mend.Proofs.Patch.Meaning
import Mend.Proofs.Repair.Trial

/-!
# The search as a list of trials

Which candidates a search tries, and in which order, is fixed before the first one is tried: it is a plan.
The search goes through its plan until a trial passes or something fails, and since every trial puts the
source back, each one starts from the original.

* `Step`, `plan` : what there is to try;
* `search` : goes through a plan; `run_tryLocations` : so do the loops of the engine;
* `Trial`, `course` : the trials that are made on the way;
* `FirstMatch` : what the trials and the result of a search have to do with its plan;
* `firstMatch_course` : they have it.
-/

namespace Mend.Repair

/-! ## The plan -/

/-- A step of a search: a candidate to try at a location, or the reason why a template has none there. -/
inductive Step where
  | attempt (l : Location) (candidate : String)
  | stuck (e : Patch.Unresolved)
deriving DecidableEq

/-- At most so many members from the front, or all of them. -/
def atMost {α : Type} (limit : Option Nat) (xs : List α) : List α :=
  match limit with
  | some n => xs.take n
  | none => xs

/-- The steps at a location: the first candidates of the template, if it applies there. -/
def stepsAt (store : Store) (t : Patch.Template) (limit : Option Nat) (l : Location) : List Step :=
  if t.appliesAt l.point then
    match Id.run (t.concretize ⟨store.source, l⟩) with
    | .error e => [.stuck e]
    | .ok choice => (atMost limit choice.meaning).map (.attempt l)
  else []

def plan (store : Store) (t : Patch.Template) (limit : Option Nat) (locations : List Location) : List Step :=
  locations.flatMap (stepsAt store t limit)

/-- Every candidate is one for the given file. -/
def Within (file : Path) (steps : List Step) : Prop :=
  ∀ l candidate, .attempt l candidate ∈ steps → l.file = file

theorem mem_of_mem_dropRepeats {α : Type} [DecidableEq α] {xs : List α} {a : α}
    (h : a ∈ dropRepeats xs) : a ∈ xs := by
  fun_induction dropRepeats xs with
  | case1 => exact h
  | case2 b => exact h
  | case3 b rest ih => exact List.mem_cons_of_mem _ (ih h)
  | case4 b c rest hne ih =>
    rcases List.mem_cons.mp h with rfl | h
    · exact List.mem_cons_self
    · exact List.mem_cons_of_mem _ (ih h)

theorem file_of_mem_locations {locator : Locator} {store : Store} {file : Path} {l : Location}
    (h : l ∈ locator.locations store file) : l.file = file := by
  unfold Locator.locations at h
  split at h
  · cases List.mem_singleton.mp h
    rfl
  · obtain ⟨s, -, rfl⟩ := List.mem_map.mp (mem_of_mem_dropRepeats h)
    rfl

theorem location_of_mem_stepsAt {store : Store} {t : Patch.Template} {limit : Option Nat}
    {l l' : Location} {candidate : String} (h : .attempt l' candidate ∈ stepsAt store t limit l) :
    l' = l := by
  unfold stepsAt at h
  split at h
  · split at h
    · cases List.mem_singleton.mp h
    · obtain ⟨c, -, hc⟩ := List.mem_map.mp h
      cases hc
      rfl
  · cases h

theorem within_plan (store : Store) (t : Patch.Template) (limit : Option Nat) (locator : Locator)
    (file : Path) : Within file (plan store t limit (locator.locations store file)) := by
  intro l candidate h
  obtain ⟨l', hl', hmem⟩ := List.mem_flatMap.mp h
  rw [location_of_mem_stepsAt hmem]
  exact file_of_mem_locations hl'

/-! ## Going through a plan -/

/-- A trial that was made: the candidate and its location, what came of it, and the worlds around it. -/
structure Trial where
  location : Location
  candidate : String
  before : World
  result : Except Error TrialOutcome
  after : World

def Trial.step (t : Trial) : Step := .attempt t.location t.candidate

/-- A trial rules its candidate out, so that the search goes on. -/
def Trial.RulesOut (t : Trial) : Prop := ∃ outcome, t.result = .ok outcome ∧ outcome ≠ .passed

/-- How a search went: the trials that were made, the result, and the world it left. -/
structure Course where
  trials : List Trial
  result : Except Error (Option String)
  final : World

def Course.behind (c : Course) (t : Trial) : Course := { c with trials := t :: c.trials }

section Course

variable (programs : Programs) (store : Store) (target : Target)

/-- Goes through steps up to the first trial that passes or the first error. -/
def course : List Step → World → Course
  | [], w => ⟨[], .ok none, w⟩
  | .stuck e :: _, w => ⟨[], .error (.unresolved e), w⟩
  | .attempt l candidate :: rest, w =>
    match (Engine.trial programs store target l candidate).run w with
    | (.ok .passed, u) => ⟨[⟨l, candidate, w, .ok .passed, u⟩], .ok (some candidate), u⟩
    | (.ok outcome, u) => (course rest u).behind ⟨l, candidate, w, .ok outcome, u⟩
    | (.error e, u) => ⟨[⟨l, candidate, w, .error e, u⟩], .error e, u⟩

def search (steps : List Step) (w : World) : Except Error (Option String) × World :=
  ((course programs store target steps w).result, (course programs store target steps w).final)

theorem search_append (front back : List Step) (w : World) :
    search programs store target (front ++ back) w =
      match search programs store target front w with
      | (.ok none, u) => search programs store target back u
      | (.ok (some c), u) => (.ok (some c), u)
      | (.error e, u) => (.error e, u) := by
  induction front generalizing w with
  | nil => rfl
  | cons s rest ih =>
    cases s with
    | stuck e => rfl
    | attempt l candidate =>
      rw [List.cons_append, search, search, course, course]
      split
      · rfl
      · exact ih _
      · rfl

theorem run_trying (l : Location) (candidate : String) (rest : Task (Option String))
    (steps : List Step) (h : ∀ u, rest.run u = search programs store target steps u) (w : World) :
    (do
      match ← Engine.trial programs store target l candidate with
      | .passed => return some candidate
      | _ => rest : Task (Option String)).run w =
      search programs store target (.attempt l candidate :: steps) w := by
  rw [search, course]
  cases htrial : (Engine.trial programs store target l candidate).run w with
  | mk result u =>
    cases result with
    | error e => exact run_bind_error htrial _
    | ok outcome =>
      refine (run_bind_ok htrial _).trans ?_
      cases outcome with
      | passed => rfl
      | buildFailed => exact h u
      | testsFailed n => exact h u

theorem run_tryCandidates (l : Location) (limit : Option Nat) (cs : Patch.Candidates) (w : World) :
    (Engine.tryCandidates programs store target l limit cs).run w =
      search programs store target ((atMost limit cs.toList).map (.attempt l)) w := by
  induction cs generalizing limit w with
  | done =>
    match limit with
    | none => rfl
    | some 0 => rfl
    | some (n + 1) => rfl
  | next candidate rest ih =>
    match limit with
    | none => exact run_trying programs store target l candidate _ _ (ih () none) w
    | some 0 => rfl
    | some (n + 1) => exact run_trying programs store target l candidate _ _ (ih () (some n)) w

theorem run_tryLocations (t : Patch.Template) (limit : Option Nat) (locations : List Location) (w : World) :
    (Engine.tryLocations programs store target t limit locations).run w =
      search programs store target (plan store t limit locations) w := by
  induction locations generalizing w with
  | nil => rfl
  | cons l rest ih =>
    rw [Engine.tryLocations, plan, List.flatMap_cons, search_append, stepsAt]
    cases happlies : t.appliesAt l.point with
    | false => exact ih w
    | true =>
      cases hchoice : Id.run (t.concretize ⟨store.source, l⟩) with
      | error e => rfl
      | ok choice =>
        simp only [Bool.not_true, Bool.false_eq_true, if_false, if_true]
        rw [← Patch.Choice.toList_stream, ← run_tryCandidates]
        cases hrun : (Engine.tryCandidates programs store target l limit choice.stream).run w with
        | mk result u =>
          cases result with
          | error e => exact run_bind_error hrun _
          | ok found =>
            rw [run_bind_ok hrun]
            cases found with
            | none => exact ih u
            | some c => rfl

/-! ## The first match -/

/-- Trials follow on one another: each is a run of the engine's trial in the world that the one before
it has left. -/
def Chained : World → List Trial → World → Prop
  | w, [], u => w = u
  | w, t :: ts, u =>
    t.before = w ∧
      (Engine.trial programs store target t.location t.candidate).run w = (t.result, t.after) ∧
        Chained t.after ts u

/-- What a search has to do with the steps it goes through. Its trials are the steps from the first one
on, in their order, and only the last trial may pass or fail. It finds the candidate that passes; it finds
nothing if every step was tried and ruled out; it fails if a trial fails, or at a step without candidates
when every step before it was tried and ruled out. -/
structure FirstMatch (steps : List Step) (w : World) (c : Course) : Prop where
  chained : Chained programs store target w c.trials c.final
  ordered : c.trials.map Trial.step <+: steps
  cut : ∀ t ∈ c.trials.dropLast, t.RulesOut
  found : ∀ x, c.result = .ok (some x) ↔ ∃ t ∈ c.trials, t.result = .ok .passed ∧ t.candidate = x
  nothing : c.result = .ok none ↔ c.trials.map Trial.step = steps ∧ ∀ t ∈ c.trials, t.RulesOut
  failed : ∀ e, c.result = .error e ↔ (∃ t ∈ c.trials, t.result = .error e) ∨
    ∃ x rest, e = .unresolved x ∧ steps = c.trials.map Trial.step ++ .stuck x :: rest ∧
      ∀ t ∈ c.trials, t.RulesOut

variable {programs store target}

theorem firstMatch_nil (w : World) : FirstMatch programs store target [] w ⟨[], .ok none, w⟩ where
  chained := rfl
  ordered := List.nil_prefix
  cut _ ht := absurd ht List.not_mem_nil
  found x := by simp
  nothing := by simp
  failed e := by simp

theorem firstMatch_stuck (x : Patch.Unresolved) (rest : List Step) (w : World) :
    FirstMatch programs store target (.stuck x :: rest) w ⟨[], .error (.unresolved x), w⟩ where
  chained := rfl
  ordered := List.nil_prefix
  cut _ ht := absurd ht List.not_mem_nil
  found x := by simp
  nothing := by simp
  failed e := by simp [eq_comm]

theorem firstMatch_passed {t : Trial} (rest : List Step)
    (hrun : (Engine.trial programs store target t.location t.candidate).run t.before = (t.result, t.after))
    (h : t.result = .ok .passed) :
    FirstMatch programs store target (t.step :: rest) t.before ⟨[t], .ok (some t.candidate), t.after⟩ where
  chained := ⟨rfl, hrun, rfl⟩
  ordered := List.prefix_append [t.step] rest
  cut _ ht := absurd ht List.not_mem_nil
  found x := by simp [h]
  nothing := by simp [Trial.RulesOut, h]
  failed e := by simp [Trial.RulesOut, h]

theorem firstMatch_failed {t : Trial} {e : Error} (rest : List Step)
    (hrun : (Engine.trial programs store target t.location t.candidate).run t.before = (t.result, t.after))
    (h : t.result = .error e) :
    FirstMatch programs store target (t.step :: rest) t.before ⟨[t], .error e, t.after⟩ where
  chained := ⟨rfl, hrun, rfl⟩
  ordered := List.prefix_append [t.step] rest
  cut _ ht := absurd ht List.not_mem_nil
  found x := by simp [h]
  nothing := by simp [h, Trial.RulesOut]
  failed e := by simp [Trial.RulesOut, h]

theorem Trial.RulesOut.ne_passed {t : Trial} (h : t.RulesOut) : t.result ≠ .ok .passed := by
  obtain ⟨outcome, hresult, hne⟩ := h
  rw [hresult]
  exact fun heq => hne (Except.ok.inj heq)

theorem Trial.RulesOut.ne_error {t : Trial} (h : t.RulesOut) (e : Error) : t.result ≠ .error e := by
  obtain ⟨outcome, hresult, -⟩ := h
  rw [hresult]
  nofun

/-- A trial that rules its candidate out leaves the rest to the search behind it. -/
theorem FirstMatch.behind {t : Trial} {rest : List Step} {c : Course}
    (hrun : (Engine.trial programs store target t.location t.candidate).run t.before = (t.result, t.after))
    (h : t.RulesOut) (hc : FirstMatch programs store target rest t.after c) :
    FirstMatch programs store target (t.step :: rest) t.before (c.behind t) where
  chained := ⟨rfl, hrun, hc.chained⟩
  ordered := List.cons_prefix_cons.mpr ⟨rfl, hc.ordered⟩
  cut s hs := by
    cases hts : c.trials with
    | nil =>
      rw [Course.behind, hts] at hs
      cases hs
    | cons t' ts =>
      rw [Course.behind, hts] at hs
      rcases List.mem_cons.mp hs with rfl | hs
      · exact h
      · exact hc.cut s (hts ▸ hs)
  found x := by
    rw [Course.behind, hc.found x]
    simp [h.ne_passed]
  nothing := by
    rw [Course.behind, hc.nothing]
    simp [h]
  failed e := by
    rw [Course.behind, hc.failed e]
    simp [h, h.ne_error]

theorem firstMatch_course (steps : List Step) (w : World) :
    FirstMatch programs store target steps w (course programs store target steps w) := by
  fun_induction course programs store target steps w with
  | case1 w => exact firstMatch_nil w
  | case2 e rest w => exact firstMatch_stuck e rest w
  | case3 l candidate rest w u hrun => exact firstMatch_passed (t := ⟨l, candidate, w, _, u⟩) rest hrun rfl
  | case4 l candidate rest w outcome u hne hrun ih =>
    exact FirstMatch.behind (t := ⟨l, candidate, w, _, u⟩) hrun ⟨outcome, rfl, hne⟩ ih
  | case5 l candidate rest w e u hrun => exact firstMatch_failed (t := ⟨l, candidate, w, _, u⟩) rest hrun rfl

theorem Chained.run_of_mem {w u : World} {ts : List Trial} (h : Chained programs store target w ts u)
    {t : Trial} (ht : t ∈ ts) :
    (Engine.trial programs store target t.location t.candidate).run t.before = (t.result, t.after) := by
  induction ts generalizing w with
  | nil => cases ht
  | cons s ts ih =>
    obtain ⟨rfl, hrun, hrest⟩ := h
    rcases List.mem_cons.mp ht with rfl | ht
    · exact hrun
    · exact ih hrest ht

theorem run_of_mem_course {steps : List Step} {w : World} {t : Trial}
    (ht : t ∈ (course programs store target steps w).trials) :
    t.step ∈ steps ∧
      (Engine.trial programs store target t.location t.candidate).run t.before = (t.result, t.after) := by
  have hmatch : FirstMatch programs store target steps w (course programs store target steps w) :=
    firstMatch_course steps w
  exact ⟨hmatch.ordered.subset (List.mem_map_of_mem ht), hmatch.chained.run_of_mem ht⟩

/-! ## What outlives a search -/

section Kept

variable {I : World → Prop} {steps : List Step} {w : World}

/-- What every trial of a step keeps holds before every trial and in the end. -/
theorem course_kept
    (h : ∀ l candidate, .attempt l candidate ∈ steps → ∀ u, I u →
      I ((Engine.trial programs store target l candidate).run u).2) (hw : I w) :
    I (course programs store target steps w).final ∧
      ∀ t ∈ (course programs store target steps w).trials, I t.before := by
  fun_induction course programs store target steps w with
  | case1 w => exact ⟨hw, fun _ ht => absurd ht List.not_mem_nil⟩
  | case2 e rest w => exact ⟨hw, fun _ ht => absurd ht List.not_mem_nil⟩
  | case3 l candidate rest w u hrun =>
    have hu := h l candidate List.mem_cons_self w hw
    rw [hrun] at hu
    exact ⟨hu, fun t ht => List.mem_singleton.mp ht ▸ hw⟩
  | case4 l candidate rest w outcome u hne hrun ih =>
    have hu := h l candidate List.mem_cons_self w hw
    rw [hrun] at hu
    obtain ⟨hfinal, hbefore⟩ := ih (fun l c hmem => h l c (List.mem_cons_of_mem _ hmem)) hu
    refine ⟨hfinal, fun t ht => ?_⟩
    rcases List.mem_cons.mp ht with rfl | ht
    · exact hw
    · exact hbefore t ht
  | case5 l candidate rest w e u hrun =>
    have hu := h l candidate List.mem_cons_self w hw
    rw [hrun] at hu
    exact ⟨hu, fun t ht => List.mem_singleton.mp ht ▸ hw⟩

/-- What every trial of a step keeps holds in the end if it holds after some trial. -/
theorem course_kept_after
    (h : ∀ l candidate, .attempt l candidate ∈ steps → ∀ u, I u →
      I ((Engine.trial programs store target l candidate).run u).2) {t : Trial}
    (ht : t ∈ (course programs store target steps w).trials) (hafter : I t.after) :
    I (course programs store target steps w).final := by
  fun_induction course programs store target steps w with
  | case1 w => cases ht
  | case2 e rest w => cases ht
  | case3 l candidate rest w u hrun =>
    cases List.mem_singleton.mp ht
    exact hafter
  | case4 l candidate rest w outcome u hne hrun ih =>
    have hrest : ∀ l c, .attempt l c ∈ rest → ∀ u, I u → I ((Engine.trial programs store target l c).run u).2 :=
      fun l c hmem => h l c (List.mem_cons_of_mem _ hmem)
    rcases List.mem_cons.mp ht with rfl | ht
    · exact (course_kept hrest hafter).1
    · exact ih hrest ht
  | case5 l candidate rest w e u hrun =>
    cases List.mem_singleton.mp ht
    exact hafter

end Kept

section Source

variable {steps : List Step} {w : World} {content : ByteArray} {executable : Bool}

/-- Every trial starts with the original source, and the search ends with it. -/
theorem course_source (hspared : target.Spared programs) (hwithin : Within target.file steps)
    (hw : w.files.lookup target.file = .ok (.file content executable)) :
    (course programs store target steps w).final.files.lookup target.file = .ok (.file content executable) ∧
      ∀ t ∈ (course programs store target steps w).trials,
        t.before.files.lookup target.file = .ok (.file content executable) :=
  course_kept (I := fun u => u.files.lookup target.file = .ok (.file content executable))
    (fun l candidate hmem _ hu => (Engine.trial_restores store candidate hspared (hwithin l candidate hmem) hu).1) hw

/-- A copy that was taken in some trial is gone in the end. -/
theorem course_copy_gone (hspared : target.Spared programs) (hwithin : Within target.file steps)
    (hw : w.files.lookup target.file = .ok (.file content executable)) {t : Trial}
    (ht : t ∈ (course programs store target steps w).trials) {b : Backup} {files : FileTree}
    (htake : Backup.take target.file t.before.files = .ok (b, files)) :
    (course programs store target steps w).final.files.lookup b.copy = .error .notFound := by
  have hbefore := (course_source hspared hwithin hw).2 t ht
  obtain ⟨hstep, hrun⟩ := run_of_mem_course ht
  have hafter := Engine.trial_restores store t.candidate hspared (hwithin _ _ hstep) hbefore
  rw [hrun] at hafter
  -- a trial that takes no copy changes nothing, and one that does removes it
  refine (course_kept_after (I := fun u => u.files.lookup target.file = .ok (.file content executable) ∧
    u.files.lookup b.copy = .error .notFound) ?_ ht ⟨hafter.1, hafter.2 b files htake⟩).2
  rintro l candidate hmem u ⟨hu, hgone⟩
  obtain ⟨hback, hremoved⟩ := Engine.trial_restores store candidate hspared (hwithin l candidate hmem) hu
  refine ⟨hback, ?_⟩
  cases htake' : Backup.take target.file u.files with
  | error e =>
    rw [Engine.run_trial_of_take_error htake']
    exact hgone
  | ok taken =>
    obtain ⟨b', files'⟩ := taken
    have hsame : b'.copy = b.copy :=
      Except.ok.inj ((Backup.take_ok htake').2.1.symm.trans (Backup.take_ok htake).2.1)
    rw [← hsame]
    exact hremoved b' files' htake'

/-- A trial on the original source. If its build cannot start, the trial fails and starts no program. Otherwise
the build starts with the original in which the statement at the location is replaced by the candidate, and the
trial ends as the build and the tests end from there. So it passes exactly if the build succeeds and every test
ends with the exit code it must have. Behind it the source is the original again. -/
structure OnOriginal (programs : Programs) (store : Store) (target : Target) (content : ByteArray)
    (executable : Bool) (t : Trial) : Prop where
  original : t.before.files.lookup target.file = .ok (.file content executable)
  unprepared : (∀ start, ¬Engine.Begins store target t.location t.candidate t.before start) →
    (∃ e, t.result = .error e) ∧ t.after.started = t.before.started
  source : ∀ start, Engine.Begins store target t.location t.candidate t.before start →
    ∃ text s patched, content = text.toUTF8 ∧ store.statementAt t.location = some s ∧
      Source.splice text t.candidate s.span = .ok patched ∧
        start.files.read target.file = .ok patched.toUTF8
  ended : ∀ start, Engine.Begins store target t.location t.candidate t.before start →
    ∃ u, target.Ends programs start t.result u ∧ t.after.started = u.started
  passed : t.result = .ok .passed ↔ ∃ start u, Engine.Begins store target t.location t.candidate t.before start ∧
    target.PassesFrom programs start u
  restored : t.after.files.lookup target.file = .ok (.file content executable)

/-- No trial of a search builds on what another one has left. -/
theorem course_onOriginal (hspared : target.Spared programs) (hwithin : Within target.file steps)
    (hw : w.files.lookup target.file = .ok (.file content executable)) {t : Trial}
    (ht : t ∈ (course programs store target steps w).trials) :
    OnOriginal programs store target content executable t := by
  obtain ⟨hstep, hrun⟩ := run_of_mem_course ht
  have hl := hwithin _ _ hstep
  have hbefore := (course_source hspared hwithin hw).2 t ht
  constructor
  case original => exact hbefore
  case unprepared =>
    intro hnone
    cases hprep : Engine.prepared store target t.location t.candidate t.before with
    | ok ready =>
      obtain ⟨b, start⟩ := ready
      exact absurd ((Engine.prepared_eq_ok_iff hl).mp ⟨b, hprep⟩) (hnone start)
    | error e =>
      obtain ⟨files, hfailed⟩ := (Engine.run_trial t.before).1 e hprep
      have hsame := hrun.symm.trans hfailed
      exact ⟨⟨e, congrArg Prod.fst hsame⟩, congrArg (·.2.started) hsame⟩
  case source => exact fun start hbegins => hbegins.source hbefore
  case ended =>
    intro start hbegins
    obtain ⟨b, hprep⟩ := (Engine.prepared_eq_ok_iff hl).mpr hbegins
    have hsame := ((Engine.run_trial t.before).2 b start hprep).symm.trans hrun
    cases hbuilt : (target.trial programs).run start with
    | mk result u =>
      rw [hbuilt] at hsame
      obtain rfl : result = t.result := congrArg Prod.fst hsame
      exact ⟨u, Target.run_trial_iff.mp hbuilt, (congrArg (·.2.started) hsame).symm⟩
  case passed =>
    have hpassed : t.result = .ok .passed ↔ ∃ b start u,
        Engine.prepared store target t.location t.candidate t.before = .ok (b, start) ∧
          target.PassesFrom programs start u := by
      rw [← Engine.trial_passed_iff t.before, hrun]
    refine hpassed.trans ⟨?_, ?_⟩
    · rintro ⟨b, start, u, hprep, hpasses⟩
      exact ⟨start, u, (Engine.prepared_eq_ok_iff hl).mp ⟨b, hprep⟩, hpasses⟩
    · rintro ⟨start, u, hbegins, hpasses⟩
      obtain ⟨b, hprep⟩ := (Engine.prepared_eq_ok_iff hl).mpr hbegins
      exact ⟨b, start, u, hprep, hpasses⟩
  case restored =>
    have hafter := (Engine.trial_restores store t.candidate hspared hl hbefore).1
    rwa [hrun] at hafter

end Source

end Course

end Mend.Repair

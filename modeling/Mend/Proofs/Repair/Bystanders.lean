import Mend.Proofs.Repair.AutoPatch

/-!
# What a search leaves alone

The programs of a search may write what they like. If they write nothing, the search itself changes the
source and the copy of it, and it puts the source back and removes the copy. So a tree is what it was, but
for a file that lay where the copy belongs: the first trial replaces it, and no trial brings it back.

* `FileTree.Frame t u W` : nothing has changed from `t` to `u` outside the places of `W`;
* `FileTree.Loses t u aside` : what lay at `aside` is gone, and nothing else has changed;
* `Still` : a command writes nothing; `files_attempt` : then only the source is written in an attempt;
* `trial_loses` : one trial; `course_loses` : a course of trials;
* `autoPatch_loses` : the whole search; `autoPatch_takes_bystander` : it may lose a file;
* `autoPatch_bystanders` : with nothing in the place of the copy it loses none.
-/

namespace Mend

namespace FileTree

/-- Nothing has changed outside the places of `W`. -/
structure Frame (t u : FileTree) (W : Place → Prop) : Prop where
  start : u.workingDirectory = t.workingDirectory
  same : ∀ place, ¬W place → u.get? place = t.get? place

section Frame

variable {t u v : FileTree} {W : Place → Prop} {place : Place}

theorem Frame.refl (t : FileTree) (W : Place → Prop) : Frame t t W := ⟨rfl, fun _ _ => rfl⟩

theorem Frame.trans (htu : Frame t u W) (huv : Frame u v W) : Frame t v W :=
  ⟨huv.start.trans htu.start, fun place hplace => (huv.same place hplace).trans (htu.same place hplace)⟩

theorem frame_putFile (t : FileTree) (h : W place) (content : ByteArray) (executable : Bool) :
    Frame t (t.putFile place content executable) W := by
  refine ⟨rfl, fun q hq => get?_putFile_of_ne t ?_ content executable⟩
  rintro rfl
  exact hq h

/-- Paths lead where they led if no directory lies where something may have changed. -/
theorem Frame.keepsDirectories (h : Frame t u W) (hfiles : ∀ place, W place → t.get? place ≠ some .directory) :
    KeepsDirectories t u := by
  refine ⟨h.start, fun place hplace => ?_⟩
  rw [h.same place fun hW => hfiles place hW hplace, hplace]

end Frame

/-- What lay at a place, no directory, is gone, and nothing else has changed. -/
structure Loses (t u : FileTree) (aside : Place) : Prop where
  frame : Frame t u (· = aside)
  file : t.get? aside ≠ some .directory
  gone : u.get? aside = none

section Loses

variable {t u v : FileTree} {aside : Place}

theorem Loses.resolve (h : Loses t u aside) {p : Path} {place : Place} (hp : t.resolve p = .ok place) :
    u.resolve p = .ok place := by
  refine resolve_mono (h.frame.keepsDirectories ?_) hp
  rintro _ rfl
  exact h.file

theorem Loses.trans (htu : Loses t u aside) (huv : Loses u v aside) : Loses t v aside :=
  ⟨htu.frame.trans huv.frame, htu.file, huv.gone⟩

end Loses

end FileTree

namespace Repair

/-- A command writes nothing, whenever it is started. -/
def Still (programs : Programs) (c : Command) : Prop := ∀ n t, (programs.run n c t).2 = t

theorem Still.keeps {programs : Programs} {c : Command} (h : Still programs c) (I : FileTree → Prop) :
    Keeps programs I c := by
  intro n t ht
  rw [h n t]
  exact ht

theorem Still.spares {programs : Programs} {c : Command} (h : Still programs c) (copy file : Path) :
    Spares programs copy file c := by
  constructor
  case copy =>
    intro n t entry hcopy
    rw [h n t, hcopy]
  case file =>
    intro n t hfile
    rw [h n t]
    exact hfile

/-- If only the source and its copy were written, putting the source back loses what lay in the place of the
copy, and nothing else. -/
theorem Backup.Apart.loses_drop {b : Backup} (hapart : b.Apart) {t u : FileTree} {content : ByteArray}
    {executable : Bool} {place aside : Place} (hlook : t.lookup b.file = .ok (.file content executable))
    (hplace : t.resolve b.file = .ok place) (haside : t.resolve b.copy = .ok aside)
    (hdir : t.get? aside ≠ some .directory) (hframe : t.Frame u (fun q => q = place ∨ q = aside))
    (hguards : b.Guards content executable u) : t.Loses (b.drop u) aside := by
  obtain ⟨source, hsource, hget⟩ := (FileTree.lookup_eq_ok_iff t b.file _).mp hlook
  obtain rfl : source = place := Except.ok.inj (hsource.symm.trans hplace)
  have hkeeps : t.KeepsDirectories u := by
    refine hframe.keepsDirectories ?_
    rintro q (rfl | rfl)
    · rw [hget]
      nofun
    · exact hdir
  obtain ⟨place', aside', hp, ha, -, -, -, hdrop⟩ := Backup.drop_eq hapart hguards
  obtain rfl : source = place' := Except.ok.inj ((FileTree.resolve_mono hkeeps hplace).symm.trans hp)
  obtain rfl : aside = aside' := Except.ok.inj ((FileTree.resolve_mono hkeeps haside).symm.trans ha)
  obtain ⟨name, hfile, hcopy⟩ := hapart
  rw [hdrop]
  refine ⟨⟨hframe.start, fun q hq => ?_⟩, hdir,
    FileTree.get?_erase_self _ (FileTree.ne_nil_of_endsIn hcopy haside)⟩
  rw [FileTree.get?_erase_of_ne _ hq]
  by_cases hqs : q = source
  · rw [hqs, FileTree.get?_putFile_self _ (FileTree.ne_nil_of_endsIn hfile hplace), hget]
  · rw [FileTree.get?_putFile_of_ne _ hqs]
    exact hframe.same q (not_or.mpr ⟨hqs, hq⟩)

namespace Engine

section Trials

variable {programs : Programs} {store : Store} {target : Target}

/-! ## One trial -/

/-- With programs that write nothing, an attempt writes the source at most. -/
theorem files_attempt (store : Store) (hstill : ∀ c ∈ target.commands, Still programs c) {l : Location}
    (candidate : String) (w : World) {content : ByteArray} {executable : Bool} {place : Place}
    (hw : w.files.lookup l.file = .ok (.file content executable)) (hp : w.files.resolve l.file = .ok place) :
    let u := ((attempt programs store target l candidate).run w).2.files
    u = w.files ∨ ∃ new, u = w.files.putFile place new executable := by
  rw [run_attempt]
  cases ht : transform store l candidate w.files with
  | error e => exact Or.inl rfl
  | ok files =>
    obtain ⟨text, s, patched, -, -, -, rfl⟩ := (transform_eq_ok_iff hw hp).mp ht
    refine Or.inr ⟨patched.toUTF8, ?_⟩
    exact Target.keeps_trial (I := (· = w.files.putFile place patched.toUTF8 executable))
      (fun c hc => (hstill c hc).keeps _) rfl

/-- A trial that takes a copy of the source loses what lay in the place of the copy, and nothing else. -/
theorem trial_loses (store : Store) (hstill : ∀ c ∈ target.commands, Still programs c) {l : Location}
    (candidate : String) (hl : l.file = target.file) {w : World} {b : Backup} {files : FileTree}
    (htake : Backup.take target.file w.files = .ok (b, files)) :
    ∃ aside, w.files.resolve b.copy = .ok aside ∧
      w.files.Loses ((trial programs store target l candidate).run w).2.files aside := by
  obtain ⟨hfile, -, -⟩ := Backup.take_ok htake
  obtain ⟨hapart, content, executable, aside, hlook, haside, -, hdir, htaken⟩ := Backup.take_eq htake
  obtain ⟨-, content', executable', hbefore, hafter, hguards⟩ := Backup.take_guards htake
  cases Except.ok.inj (hlook.symm.trans hbefore)
  obtain ⟨place, hplace, -⟩ := (FileTree.lookup_eq_ok_iff w.files b.file _).mp hlook
  rw [← hfile] at hl
  have hend : b.Guards content executable
      ((attempt programs store target l candidate).run { w with files }).2.files :=
    attempt_guards (fun c hc => (hstill c hc).spares b.copy b.file) hapart hl hafter hguards
  have hcopied : w.files.Frame files (fun q => q = place ∨ q = aside) := by
    rw [htaken]
    exact FileTree.frame_putFile _ (Or.inr rfl) content executable
  have hattempt : files.Frame ((attempt programs store target l candidate).run { w with files }).2.files
      (fun q => q = place ∨ q = aside) := by
    have hplaced : files.resolve b.file = .ok place := by
      rw [htaken]
      exact FileTree.resolve_mono (FileTree.keepsDirectories_putFile hdir content executable) hplace
    rw [← hl] at hafter hplaced
    obtain hsame | ⟨new, hput⟩ := files_attempt store hstill candidate { w with files } hafter hplaced
    · rw [hsame]
      exact FileTree.Frame.refl _ _
    · rw [hput]
      exact FileTree.frame_putFile _ (Or.inl rfl) new executable
  rw [run_trial_of_take_ok htake]
  exact ⟨aside, haside, hapart.loses_drop hlook hplace haside hdir (hcopied.trans hattempt) hend⟩

theorem take_of_run_trial {l : Location} {candidate : String} {w u : World} {outcome : TrialOutcome}
    (h : (trial programs store target l candidate).run w = (.ok outcome, u)) :
    ∃ b files, Backup.take target.file w.files = .ok (b, files) := by
  cases htake : Backup.take target.file w.files with
  | error e =>
    rw [run_trial_of_take_error htake] at h
    cases h
  | ok taken => exact ⟨taken.1, taken.2, rfl⟩

/-! ## A course of trials -/

def tookCopy (target : Target) (t : Trial) : Bool := (Backup.take target.file t.before.files).isOk

theorem any_tookCopy_cons (t : Trial) (ts : List Trial) {taken : Backup × FileTree}
    (h : Backup.take target.file t.before.files = .ok taken) : (t :: ts).any (tookCopy target) = true := by
  rw [List.any_cons, tookCopy, h]
  rfl

/-- What lay in the place of the copy is gone, and nothing else has changed. -/
def LosesCopy (target : Target) (t u : FileTree) : Prop :=
  ∃ copy aside, backupPath target.file = .ok copy ∧ t.resolve copy = .ok aside ∧ t.Loses u aside

theorem losesCopy_trial (hstill : ∀ c ∈ target.commands, Still programs c) {l : Location} {candidate : String}
    (hl : l.file = target.file) {w u : World} {result : Except Error TrialOutcome}
    (hrun : (trial programs store target l candidate).run w = (result, u)) {b : Backup} {files : FileTree}
    (htake : Backup.take target.file w.files = .ok (b, files)) : LosesCopy target w.files u.files := by
  obtain ⟨aside, haside, hloses⟩ := trial_loses store hstill candidate hl htake
  rw [hrun] at hloses
  exact ⟨b.copy, aside, (Backup.take_ok htake).2.1, haside, hloses⟩

theorem LosesCopy.trans {t u v : FileTree} (htu : LosesCopy target t u) (huv : LosesCopy target u v) :
    LosesCopy target t v := by
  obtain ⟨copy, aside, hcopy, haside, hloses⟩ := htu
  obtain ⟨copy', aside', hcopy', haside', hloses'⟩ := huv
  obtain rfl : copy = copy' := Except.ok.inj (hcopy.symm.trans hcopy')
  obtain rfl : aside = aside' := Except.ok.inj ((hloses.resolve haside).symm.trans haside')
  exact ⟨copy, aside, hcopy, haside, hloses.trans hloses'⟩

/-- Trials that take no copy change nothing. If one takes a copy, what lay in its place is gone in the end,
and nothing else. -/
theorem course_loses (hstill : ∀ c ∈ target.commands, Still programs c) {steps : List Step}
    (hwithin : Within target.file steps) (w : World) :
    ((course programs store target steps w).trials.any (tookCopy target) = true →
      LosesCopy target w.files (course programs store target steps w).final.files) ∧
    ((course programs store target steps w).trials.any (tookCopy target) = false →
      (course programs store target steps w).final.files = w.files) := by
  fun_induction course programs store target steps w with
  | case1 w => exact ⟨fun htook => absurd htook Bool.false_ne_true, fun _ => rfl⟩
  | case2 e rest w => exact ⟨fun htook => absurd htook Bool.false_ne_true, fun _ => rfl⟩
  | case3 l candidate rest w u hrun =>
    obtain ⟨b, files, htake⟩ := take_of_run_trial hrun
    have hloses := losesCopy_trial hstill (hwithin l candidate List.mem_cons_self) hrun htake
    have htook := any_tookCopy_cons ⟨l, candidate, w, .ok .passed, u⟩ [] htake
    exact ⟨fun _ => hloses, fun hnone => absurd (htook.symm.trans hnone) (by decide)⟩
  | case4 l candidate rest w outcome u hne hrun ih =>
    obtain ⟨b, files, htake⟩ := take_of_run_trial hrun
    have hfirst := losesCopy_trial hstill (hwithin l candidate List.mem_cons_self) hrun htake
    have htook := any_tookCopy_cons ⟨l, candidate, w, .ok outcome, u⟩
      (course programs store target rest u).trials htake
    obtain ⟨hlater, hnever⟩ := ih fun l c hmem => hwithin l c (List.mem_cons_of_mem _ hmem)
    refine ⟨fun _ => ?_, fun hnone => absurd (htook.symm.trans hnone) (by decide)⟩
    cases hrest : (course programs store target rest u).trials.any (tookCopy target) with
    | true => exact hfirst.trans (hlater hrest)
    | false =>
      rw [Course.behind, hnever hrest]
      exact hfirst
  | case5 l candidate rest w e u hrun =>
    cases htake : Backup.take target.file w.files with
    | error e' =>
      rw [run_trial_of_take_error htake] at hrun
      cases hrun
      exact ⟨fun htook => by simp [tookCopy, htake, Except.isOk, Except.toBool] at htook, fun _ => rfl⟩
    | ok taken =>
      have hloses := losesCopy_trial hstill (hwithin l candidate List.mem_cons_self) hrun htake
      have htook := any_tookCopy_cons ⟨l, candidate, w, .error e, u⟩ [] htake
      exact ⟨fun _ => hloses, fun hnone => absurd (htook.symm.trans hnone) (by decide)⟩

end Trials

/-! ## The whole search -/

/-- With facts in memory and programs that write nothing, a search that takes no copy changes nothing. One
that does loses what lay in the place of the copy. -/
theorem autoPatch_loses (programs : Programs) (name : String) (target : Target) (b : Bench)
    (hmemory : b.engine.database = none)
    (hreads : OnlyReads programs b.engine.exporter target.file target.isCxx)
    (hstill : ∀ c ∈ target.commands, Still programs c) :
    ((tried programs name target b).any (tookCopy target) = true →
      LosesCopy target b.world.files ((autoPatch programs name target).run b).2.world.files) ∧
    ((tried programs name target b).any (tookCopy target) = false →
      ((autoPatch programs name target).run b).2.world.files = b.world.files) := by
  rw [run_autoPatch, tried]
  cases b.engine.templates.get name with
  | error e => exact ⟨fun htook => absurd htook Bool.false_ne_true, fun _ => rfl⟩
  | ok t =>
    dsimp only
    rcases collectInfo_cases b hreads with
      ⟨e, u, hcollect, hfiles⟩ | ⟨stats, u, store, content, executable, hcollect, -, -, hsaved⟩
    · rw [hcollect]
      exact ⟨fun htook => absurd htook Bool.false_ne_true, fun _ => hfiles⟩
    · rw [hcollect]
      rw [hmemory] at hsaved
      have hfiles : u.world.files = b.world.files := (Except.ok.inj hsaved).symm
      rw [← hfiles]
      exact course_loses hstill (within_plan _ t _ target.locator target.file) u.world

/-! A project with a file where the copy of its source belongs, perhaps left there by a search that was
stopped. -/

namespace Stale

def files : FileTree where
  entries :=
    [(["shop"], .directory), (["shop", "a.c"], .file "x;".toUTF8 false),
     (["shop", "a.c.facts.json"], .file Wreck.facts.toUTF8 false),
     (["shop", ".a.c.tourniquet-orig"], .file "y;".toUTF8 false)]
  workingDirectory := ["shop"]
  devices := by simp

def programs : Programs where
  run _ _ t := (.ok ⟨.exited 0, .empty, .empty⟩, t)

def bench : Bench := ⟨⟨.empty, none, .sidecar, Wreck.templates, none⟩, ⟨files, 0⟩⟩

def target : Target := ⟨⟨"a.c"⟩, false, [], ["true"], ⟨"true"⟩, .statements⟩

def aside : Place := ["shop", ".a.c.tourniquet-orig"]

theorem backupPath_target : backupPath target.file = .ok ⟨".a.c.tourniquet-orig"⟩ := rfl

theorem resolve_copy : files.resolve ⟨".a.c.tourniquet-orig"⟩ = .ok aside := rfl

theorem took : (tried programs "drop" target bench).any (tookCopy target) = true := by decide +kernel

end Stale

/-- A search may lose a file that is not its source, even with programs that write nothing. -/
theorem autoPatch_takes_bystander :
    ¬∀ (programs : Programs) (name : String) (target : Target) (b : Bench), b.engine.database = none →
      OnlyReads programs b.engine.exporter target.file target.isCxx →
      (∀ c ∈ target.commands, Still programs c) →
      ∀ place, b.world.files.resolve target.file ≠ .ok place →
        ((autoPatch programs name target).run b).2.world.files.get? place = b.world.files.get? place := by
  intro h
  have hsource : Stale.bench.world.files.resolve Stale.target.file = .ok ["shop", "a.c"] := rfl
  have hkept := h Stale.programs "drop" Stale.target Stale.bench rfl nofun (fun _ _ _ _ => rfl) Stale.aside
    fun hplace => absurd (Except.ok.inj (hsource.symm.trans hplace)) (by decide)
  have hloses := autoPatch_loses Stale.programs "drop" Stale.target Stale.bench rfl nofun fun _ _ _ _ => rfl
  obtain ⟨copy, aside, hcopy, haside, -, -, hgone⟩ := hloses.1 Stale.took
  cases Stale.backupPath_target.symm.trans hcopy
  obtain rfl : Stale.aside = aside := Except.ok.inj (Stale.resolve_copy.symm.trans haside)
  rw [hkept] at hgone
  cases hgone

/-- With facts in memory, programs that write nothing, and nothing in the place of the copy, a search leaves
every place as it was, however it ends. So every file that was there, the source included, still holds what it
held, and no file is new. -/
theorem autoPatch_bystanders (programs : Programs) (name : String) (target : Target) (b : Bench)
    (hmemory : b.engine.database = none)
    (hreads : OnlyReads programs b.engine.exporter target.file target.isCxx)
    (hstill : ∀ c ∈ target.commands, Still programs c)
    (hfree : ∀ copy, backupPath target.file = .ok copy → b.world.files.contains copy = false) :
    ((autoPatch programs name target).run b).2.world.files.workingDirectory = b.world.files.workingDirectory ∧
      ∀ place, ((autoPatch programs name target).run b).2.world.files.get? place = b.world.files.get? place := by
  obtain ⟨hloses, hsame⟩ := autoPatch_loses programs name target b hmemory hreads hstill
  cases htook : (tried programs name target b).any (tookCopy target) with
  | false =>
    rw [hsame htook]
    exact ⟨rfl, fun _ => rfl⟩
  | true =>
    obtain ⟨copy, aside, hcopy, haside, hframe, -, hgone⟩ := hloses htook
    refine ⟨hframe.start, fun place => ?_⟩
    by_cases hplace : place = aside
    · rw [hplace, hgone, FileTree.get?_of_not_contains (hfree copy hcopy) haside]
    · exact hframe.same place hplace

/-- The search that stops at its third candidate leaves no trace of itself. -/
theorem autoPatch_bystanders_mended :
    (tried Mended.programs "check" Mended.target Mended.bench).length = 3 ∧
      ∀ place, ((autoPatch Mended.programs "check" Mended.target).run Mended.bench).2.world.files.get? place =
        Mended.files.get? place := by
  refine ⟨by simpa using congrArg List.length Mended.map_tried, ?_⟩
  refine (autoPatch_bystanders Mended.programs "check" Mended.target Mended.bench rfl nofun
    (fun _ _ _ _ => rfl) fun copy hcopy => ?_).2
  cases Mended.backupPath_target.symm.trans hcopy
  decide +kernel

end Engine

end Repair

end Mend

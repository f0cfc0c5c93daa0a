import Mend.Repair.Engine

/-!
# What registering leaves behind

A name is taken once, and what is registered under it stays. A template whose name is taken is refused and
changes nothing. The built-in templates are registered one after another: where one of them is refused, those
in front of it have been registered already.

* `lookup?_insertEntry` : what is found with one more entry;
* `Gains old new added` : one registry has the templates of another and some under names that were free;
* `registerAll_gains` : registering in order gains templates up to the first name that is taken;
* `Registration`, `Engine.register`, `Engine.registers` : a call, and calls one after another;
* `Engine.builtins_half_registered` : a refused call that is not without effect;
* `Engine.register_outcome` : what every call leaves behind, at any point of any sequence.
-/

namespace Mend.Patch.Registry

/-! ## One more entry -/

theorem lookup?_cons (e : String × Template) (es : List (String × Template)) (n : String) :
    lookup? n (e :: es) = if e.1 = n then some e.2 else lookup? n es := by
  unfold lookup?
  by_cases h : e.1 = n
  · rw [if_pos h, List.find?_cons_of_pos (by simpa using h), Option.map_some]
  · rw [if_neg h, List.find?_cons_of_neg (by simpa using h)]

theorem lookup?_insertEntry {name : String} (t : Template) {es : List (String × Template)}
    (hfree : lookup? name es = none) (n : String) :
    lookup? n (insertEntry name t es) = if name = n then some t else lookup? n es := by
  fun_induction insertEntry name t es with
  | case1 => exact lookup?_cons (name, t) [] n
  | case2 e es _ => exact lookup?_cons (name, t) (e :: es) n
  | case3 e es _ ih =>
    rw [lookup?_cons] at hfree
    have hne : e.1 ≠ name := by
      intro h
      rw [if_pos h] at hfree
      cases hfree
    rw [if_neg hne] at hfree
    rw [lookup?_cons, lookup?_cons, ih hfree]
    by_cases hn : name = n
    · rw [if_pos hn, if_pos hn, if_neg (fun h => hne (h.trans hn.symm))]
    · rw [if_neg hn, if_neg hn]

theorem lookup?_append (es es' : List (String × Template)) (n : String) :
    lookup? n (es ++ es') = (lookup? n es).or (lookup? n es') := by
  unfold lookup?
  rw [List.find?_append, Option.map_or]

/-! ## Entries one after another -/

/-- `new` is `old` with the entries `added`, under names that are free in `old`. -/
structure Gains (old new : Registry) (added : List (String × Template)) : Prop where
  free : ∀ entry ∈ added, old.find? entry.1 = none
  entries : new.entries.Perm (added ++ old.entries)
  found : ∀ n, new.find? n = (old.find? n).or (lookup? n added)
  unchanged : added = [] → new = old

theorem Gains.refl (r : Registry) : Gains r r [] :=
  ⟨fun _ h => absurd h List.not_mem_nil, .refl _, fun _ => Option.or_none.symm, fun _ => rfl⟩

theorem Gains.trans {r r₁ r₂ : Registry} {added added' : List (String × Template)} (h : Gains r r₁ added)
    (h' : Gains r₁ r₂ added') : Gains r r₂ (added ++ added') := by
  refine ⟨?_, ?_, ?_, ?_⟩
  · intro entry hentry
    rcases List.mem_append.mp hentry with hentry | hentry
    · exact h.free entry hentry
    · -- what is free later has been free before
      have hfree := h'.free entry hentry
      rw [h.found, Option.or_eq_none_iff] at hfree
      exact hfree.1
  · refine h'.entries.trans ((h.entries.append_left added').trans ?_)
    rw [← List.append_assoc]
    exact List.perm_append_comm.append_right _
  · intro n
    rw [h'.found, h.found, Option.or_assoc, lookup?_append]
  · intro hnone
    obtain ⟨hadded, hadded'⟩ := List.append_eq_nil_iff.mp hnone
    rw [h'.unchanged hadded', h.unchanged hadded]

theorem Gains.kept {old new : Registry} {added : List (String × Template)} (h : Gains old new added)
    {n : String} {t : Template} (ht : old.find? n = some t) : new.find? n = some t := by
  rw [h.found, ht, Option.some_or]

theorem register_gains {r r' : Registry} {name : String} {t : Template} (h : r.register name t = .ok r') :
    Gains r r' [(name, t)] := by
  unfold register at h
  split at h
  · cases h
  · next hfree =>
    cases h
    refine ⟨?_, perm_insertEntry name t r.entries, ?_, nofun⟩
    · intro entry hentry
      rw [List.mem_singleton.mp hentry]
      exact hfree
    · intro n
      rw [find?, lookup?_insertEntry t hfree, lookup?_cons]
      by_cases hn : name = n
      · rw [if_pos hn, if_pos hn, ← hn, hfree, Option.none_or]
      · rw [if_neg hn, if_neg hn]
        exact Option.or_none.symm

theorem register_eq_error_iff {r : Registry} {name : String} {t : Template} {err : RegistryError} :
    r.register name t = .error err ↔ err = .nameConflict name ∧ (r.find? name).isSome = true := by
  unfold register
  split
  · next u hu => simp [hu, eq_comm]
  · next hfree => simp [hfree]

/-- Entries that are registered in order are gained up to the first one whose name is taken by then. -/
theorem registerAll_gains {entries : List (String × Template)} {r r' : Registry}
    {result : Except RegistryError Unit} (h : registerAll entries r = (r', result)) :
    ∃ added rest, entries = added ++ rest ∧ Gains r r' added ∧
      match rest with
      | [] => result = .ok ()
      | (name, _) :: _ => result = .error (.nameConflict name) ∧ (r'.find? name).isSome = true := by
  induction entries generalizing r with
  | nil =>
    cases h
    exact ⟨[], [], rfl, .refl _, rfl⟩
  | cons entry entries ih =>
    obtain ⟨name, t⟩ := entry
    rw [registerAll] at h
    cases hname : r.register name t with
    | error err =>
      rw [hname] at h
      cases h
      obtain ⟨rfl, htaken⟩ := register_eq_error_iff.mp hname
      exact ⟨[], (name, t) :: entries, rfl, .refl _, rfl, htaken⟩
    | ok r₁ =>
      rw [hname] at h
      obtain ⟨added, rest, rfl, hgains, hend⟩ := ih h
      exact ⟨(name, t) :: added, rest, rfl, (register_gains hname).trans hgains, hend⟩

end Mend.Patch.Registry

namespace Mend.Repair

open Patch (Template Registry RegistryError builtins)
open Patch.Registry (Gains)

/-! ## Calls -/

/-- A call that registers templates with an engine. -/
inductive Registration where
  | template (name : String) (t : Template)
  | builtins

def Registration.entries : Registration → List (String × Template)
  | .template name t => [(name, t)]
  | .builtins => Patch.builtins

namespace Engine

def register (e : Engine) : Registration → Engine × Except RegistryError Unit
  | .template name t => e.registerTemplate name t
  | .builtins => e.registerBuiltins

/-- The engine behind calls one after another, some of them perhaps refused. -/
def registers (e : Engine) (calls : List Registration) : Engine :=
  calls.foldl (fun e call => (e.register call).1) e

theorem registerTemplate_eq (e : Engine) (name : String) (t : Template) :
    e.registerTemplate name t =
      ({ e with templates := (Registry.registerAll [(name, t)] e.templates).1 },
        (Registry.registerAll [(name, t)] e.templates).2) := by
  unfold registerTemplate Registry.registerAll
  cases e.templates.register name t with
  | error err => rfl
  | ok r => rfl

theorem register_eq (e : Engine) (call : Registration) :
    e.register call =
      ({ e with templates := (Registry.registerAll call.entries e.templates).1 },
        (Registry.registerAll call.entries e.templates).2) := by
  cases call with
  | template name t => exact registerTemplate_eq e name t
  | builtins => rfl

/-- A call gains templates up to the first one whose name is taken by then. -/
theorem register_gains (e : Engine) (call : Registration) :
    ∃ added rest templates result, e.register call = ({ e with templates }, result) ∧
      call.entries = added ++ rest ∧ Gains e.templates templates added ∧
      match rest with
      | [] => result = .ok ()
      | (name, _) :: _ => result = .error (.nameConflict name) ∧ (templates.find? name).isSome = true := by
  cases hrun : Registry.registerAll call.entries e.templates with
  | mk templates result =>
    obtain ⟨added, rest, hentries, hgains, hend⟩ := Registry.registerAll_gains hrun
    refine ⟨added, rest, templates, result, ?_, hentries, hgains, hend⟩
    rw [register_eq, hrun]

/-- What is registered outlives every sequence of calls. -/
theorem registers_kept {e : Engine} {n : String} {t : Template} (h : e.templates.find? n = some t)
    (calls : List Registration) : (e.registers calls).templates.find? n = some t := by
  unfold registers
  induction calls generalizing e with
  | nil => exact h
  | cons call calls ih =>
    obtain ⟨added, rest, templates, result, hcall, -, hgains, -⟩ := register_gains e call
    rw [List.foldl_cons, hcall]
    exact ih (hgains.kept h)

/-- No two built-in templates have the same name, so a name that is refused was taken before the call. -/
theorem taken_of_builtins {r r' : Registry} {added rest : List (String × Template)} {name : String}
    {t : Template} (hgains : Gains r r' added) (hsplit : builtins = added ++ (name, t) :: rest)
    (h : (r'.find? name).isSome = true) : (r.find? name).isSome = true := by
  have hnodup : (builtins.map (·.1)).Nodup := by decide
  rw [hsplit, List.map_append, List.map_cons, List.nodup_append] at hnodup
  have hnew : Patch.lookup? name added = none := by
    unfold Patch.lookup?
    rw [Option.map_eq_none_iff, List.find?_eq_none]
    intro entry hentry
    simpa using hnodup.2.2 entry.1 (List.mem_map_of_mem hentry) name List.mem_cons_self
  rwa [hgains.found, hnew, Option.or_none] at h

def occupied : Engine :=
  (Engine.inMemory .sidecar none).registers [.template "bounds-check" ⟨[.anchor], none⟩]

/-- The built-in templates are refused because of the second one, and the first one stays. -/
theorem builtins_half_registered :
    (occupied.register .builtins).2 = .error (.nameConflict "bounds-check") ∧
      occupied.templates.names = ["bounds-check"] ∧
      (occupied.register .builtins).1.templates.names = ["bounds-check", "buffer-guard"] :=
  ⟨rfl, rfl, by decide +kernel⟩

/-- A call at any point of any sequence of calls changes nothing but the registry, and there it only adds
templates under names that were free. If it succeeds, these are all that it asks for. If it is refused, the
registry stays as it was where one template was to be registered; of the built-in ones those have been added
that stand in front of the first one whose name was taken before the call. -/
theorem register_outcome (e : Engine) (calls : List Registration) (call : Registration) :
    ∃ added templates result,
      (e.registers calls).register call = ({ e.registers calls with templates }, result) ∧
      Gains (e.registers calls).templates templates added ∧
      (∀ n t, (e.registers calls).templates.find? n = some t → templates.find? n = some t) ∧
      (∀ n t, e.templates.find? n = some t → templates.find? n = some t) ∧
      (result = .ok () → added = call.entries) ∧
      (∀ err name t, result = .error err → call = .template name t →
        err = .nameConflict name ∧ templates = (e.registers calls).templates) ∧
      ∀ err, result = .error err → call = .builtins → ∃ name t rest,
        builtins = added ++ (name, t) :: rest ∧ err = .nameConflict name ∧
          ((e.registers calls).templates.find? name).isSome = true := by
  obtain ⟨added, rest, templates, result, hcall, hentries, hgains, hend⟩ :=
    register_gains (e.registers calls) call
  refine ⟨added, templates, result, hcall, hgains, fun n t => hgains.kept,
    fun n t ht => hgains.kept (registers_kept ht calls), ?_, ?_, ?_⟩
  · rintro rfl
    cases rest with
    | nil => rw [hentries, List.append_nil]
    | cons entry rest => cases hend.1
  · rintro err name t rfl rfl
    cases rest with
    | nil => cases hend
    | cons entry rest =>
      -- nothing can stand in front of the only entry
      cases added with
      | nil =>
        cases hentries
        exact ⟨Except.error.inj hend.1, hgains.unchanged rfl⟩
      | cons first added => simp [Registration.entries] at hentries
  · rintro err rfl rfl
    cases rest with
    | nil => cases hend
    | cons entry rest =>
      obtain ⟨name, t⟩ := entry
      exact ⟨name, t, rest, hentries, Except.error.inj hend.1, taken_of_builtins hgains hentries hend.2⟩

end Engine

end Mend.Repair

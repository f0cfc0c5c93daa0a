import Mathlib.Data.List.Forall2
import Mend.Patch.Choice

/-!
# The stream of a choice is its meaning

A choice is expanded on demand, by an odometer where it has members, and the expansion can be stopped
anywhere. What comes out is a prefix of one list, the meaning of the choice.

* `toList_distinct` : a stream without repetitions keeps the first occurrences;
* `upcoming ws` : the selections that wheels show from now on; `upcoming_eq` : the first of them is on
  show, and the others come up after `advance`;
* `toList_product` : an odometer runs through all selections;
* `mem_firstOccurrences`, `mem_selections` : the members of what a sequence means;
* `toList_stream` : the stream of a choice has the members of its meaning;
* `pulls_stream` : what any number of pulls gives.
-/

namespace Mend.Patch

namespace Candidates

/-! ## Pulling -/

/-- The next text of a stream, if there is one, and the stream behind it. -/
def pull : Candidates → Option String × Candidates
  | .done => (none, .done)
  | .next x rest => (some x, rest ())

def pulls : Nat → Candidates → List (Option String)
  | 0, _ => []
  | k + 1, s => s.pull.1 :: pulls k s.pull.2

theorem pulls_eq (k : Nat) (s : Candidates) :
    s.pulls k = (List.range k).map fun i => s.toList[i]? := by
  induction k generalizing s with
  | zero => rfl
  | succ k ih =>
    rw [pulls, ih, List.range_succ_eq_map, List.map_cons, List.map_map]
    cases s with
    | done => rfl
    | next x rest => rfl

/-! ## Repetitions -/

theorem toList_distinctFrom (s : Candidates) (seen : Std.HashSet String) (earlier : List String)
    (h : ∀ x, x ∈ seen ↔ x ∈ earlier) :
    (s.distinctFrom seen).toList = Choice.firstOccurrences earlier s.toList := by
  induction s generalizing seen earlier with
  | done => rfl
  | next x rest ih =>
    rw [distinctFrom, toList_next, Choice.firstOccurrences]
    by_cases hx : x ∈ seen
    · rw [if_pos (Std.HashSet.contains_iff_mem.mpr hx), if_pos ((h x).mp hx)]
      exact ih () seen earlier h
    · rw [if_neg (fun hc => hx (Std.HashSet.contains_iff_mem.mp hc)),
        if_neg (fun hc => hx ((h x).mpr hc)), toList_next]
      refine congrArg (x :: ·) (ih () _ _ fun y => ?_)
      rw [Std.HashSet.mem_insert, beq_iff_eq, List.mem_cons, h y, eq_comm]

theorem toList_distinct (s : Candidates) :
    s.distinct.toList = Choice.firstOccurrences [] s.toList :=
  toList_distinctFrom s ∅ [] fun x => by simp

/-! ## The odometer -/

/-- The selections that wheels show from now on, the one on show first. -/
def upcoming : List Wheel → List (List String)
  | [] => [[]]
  | w :: ws =>
    ((upcoming ws).map fun lines => w.shown :: lines) ++
      Choice.selections ((w.behind ()).toList :: ws.map (·.all.toList))

/-- The wheels at their first texts have all selections before them. -/
theorem upcoming_start? {ss : List Candidates} {ws : List Wheel} (h : start? ss = some ws) :
    upcoming ws = Choice.selections (ss.map toList) := by
  induction ss generalizing ws with
  | nil =>
    cases h
    rfl
  | cons s ss ih =>
    cases s with
    | done => cases h
    | next x rest =>
      rw [start?, Wheel.first?, Option.bind_eq_bind, Option.bind_some, Option.bind_eq_bind,
        Option.bind_eq_some_iff] at h
      obtain ⟨ws, hws, h⟩ := h
      cases h
      have hall : ws.map (·.all.toList) = ss.map toList := by
        rw [← map_all_start? hws, List.map_map]
        rfl
      rw [upcoming, ih hws, hall, List.map_cons, toList_next, Choice.selections, Choice.selections,
        List.flatMap_cons]

/-- Where a stream has no text there is no selection. -/
theorem selections_eq_nil_of_start? {ss : List Candidates} (h : start? ss = none) :
    Choice.selections (ss.map toList) = [] := by
  induction ss with
  | nil => cases h
  | cons s ss ih =>
    cases s with
    | done => rfl
    | next x rest =>
      cases hss : start? ss with
      | none => rw [List.map_cons, Choice.selections, ih hss]; simp
      | some ws =>
        rw [start?, Wheel.first?, hss] at h
        cases h

/-- A wheel that is read has a first text to go back to. -/
theorem start?_map_all (ws : List Wheel) : ∃ vs, start? (ws.map (·.all)) = some vs := by
  induction ws with
  | nil => exact ⟨[], rfl⟩
  | cons w ws ih =>
    obtain ⟨vs, hvs⟩ := ih
    cases hw : w.all with
    | done =>
      have hlt := w.behind_lt
      rw [hw] at hlt
      exact absurd hlt (Nat.not_lt_zero _)
    | next x rest =>
      rw [List.map_cons, hw, start?, hvs]
      exact ⟨_, rfl⟩

theorem upcoming_turn? {w v : Wheel} {ws vs : List Wheel} (hv : w.turn? = some v)
    (hvs : start? (ws.map (·.all)) = some vs) :
    Choice.selections ((w.behind ()).toList :: ws.map (·.all.toList)) = upcoming (v :: vs) := by
  have hall : vs.map (·.all.toList) = ws.map (·.all.toList) := by
    have := congrArg (List.map toList) (map_all_start? hvs)
    rwa [List.map_map, List.map_map] at this
  have hup := upcoming_start? hvs
  rw [List.map_map] at hup
  rw [upcoming, hup, hall, toList_behind_turn? hv, Choice.selections, Choice.selections,
    List.flatMap_cons]
  rfl

/-- What wheels show, and what comes up when they advance. -/
theorem upcoming_eq (ws : List Wheel) :
    upcoming ws = ws.map (·.shown) :: ((advance ws).map upcoming).getD [] := by
  induction ws with
  | nil => rfl
  | cons w ws ih =>
    rw [upcoming, ih, advance]
    cases hadv : advance ws with
    | some us =>
      -- a later wheel turns, and this one stays
      have hall : us.map (·.all.toList) = ws.map (·.all.toList) := by
        have := congrArg (List.map toList) (map_all_advance hadv)
        rwa [List.map_map, List.map_map] at this
      simp only [Option.map_some, Option.getD_some, List.map_cons, upcoming, hall, List.cons_append]
    | none =>
      simp only [Option.map_none, Option.getD_none, List.map_cons, List.map_nil, List.cons_append,
        List.nil_append]
      cases hturn : w.turn? with
      | none =>
        have hdone : (w.behind ()).toList = [] := by
          unfold Wheel.turn? at hturn
          split at hturn
          · next h => rw [h]; rfl
          · cases hturn
        rw [hdone]
        rfl
      | some v =>
        -- this wheel turns, and all later ones start over
        obtain ⟨vs, hvs⟩ := start?_map_all ws
        rw [upcoming_turn? hturn hvs, hvs]
        rfl

theorem toList_spin (ws : List Wheel) :
    (spin ws).toList = (upcoming ws).map fun lines => "\n".intercalate lines := by
  induction ws using spin.induct with
  | case1 ws ih =>
    rw [spin, toList_next, upcoming_eq, List.map_cons, reading]
    congr 1
    split
    · next h => rw [h]; rfl
    · next vs h =>
      rw [ih vs h, h]
      rfl

theorem toList_product (ss : List Candidates) :
    (product ss).toList = Choice.combine (ss.map toList) := by
  unfold product Choice.combine
  cases ss with
  | nil => rfl
  | cons s ss =>
    simp only [List.isEmpty_cons, Bool.false_eq_true, if_false, List.map_cons]
    rw [← List.map_cons]
    cases h : start? (s :: ss) with
    | none => rw [selections_eq_nil_of_start? h]; rfl
    | some ws =>
      dsimp only
      rw [toList_spin, upcoming_start? h]

end Candidates

namespace Choice

/-! ## Members -/

theorem mem_firstOccurrences {x : String} {seen xs : List String} :
    x ∈ firstOccurrences seen xs ↔ x ∈ xs ∧ x ∉ seen := by
  fun_induction firstOccurrences seen xs with
  | case1 seen => simp
  | case2 seen y xs hy ih =>
    rw [ih, List.mem_cons]
    constructor
    · exact fun h => ⟨Or.inr h.1, h.2⟩
    · rintro ⟨rfl | hx, hseen⟩
      · exact absurd hy hseen
      · exact ⟨hx, hseen⟩
  | case3 seen y xs hy ih =>
    rw [List.mem_cons, ih, List.mem_cons, List.mem_cons]
    constructor
    · rintro (rfl | ⟨hx, hseen⟩)
      · exact ⟨Or.inl rfl, hy⟩
      · exact ⟨Or.inr hx, fun h => hseen (Or.inr h)⟩
    · rintro ⟨rfl | hx, hseen⟩
      · exact Or.inl rfl
      · by_cases hxy : x = y
        · exact Or.inl hxy
        · exact Or.inr ⟨hx, fun h => h.elim hxy hseen⟩

theorem mem_selections {lines : List String} {lists : List (List String)} :
    lines ∈ selections lists ↔ List.Forall₂ (fun line xs => line ∈ xs) lines lists := by
  induction lists generalizing lines with
  | nil => rw [selections, List.mem_singleton, List.forall₂_nil_right_iff]
  | cons xs lists ih =>
    rw [selections, List.mem_flatMap, List.forall₂_cons_right_iff]
    constructor
    · rintro ⟨x, hx, h⟩
      obtain ⟨rest, hrest, rfl⟩ := List.mem_map.mp h
      exact ⟨x, rest, hx, ih.mp hrest, rfl⟩
    · rintro ⟨x, rest, hx, hrest, rfl⟩
      exact ⟨x, hx, List.mem_map.mpr ⟨rest, ih.mpr hrest, rfl⟩⟩

/-! ## Choices -/

mutual

theorem toList_stream : ∀ c : Choice, c.stream.toList = c.meaning
  | .leaves texts => by rw [stream, meaning, Candidates.toList_ofList]
  | .binary lhs rhs operators => by
    rw [stream, meaning, Candidates.toList_flatMap, toList_stream lhs]
    simp only [Candidates.toList_flatMap, Candidates.toList_ofList, toList_stream rhs]
  | .wrap inner before after => by
    rw [stream, meaning, Candidates.toList_map, toList_stream inner]
  | .guarded condition block => by
    rw [stream, meaning, Candidates.toList_flatMap, toList_stream condition]
    simp only [Candidates.toList_map, toList_stream block]
  | .sequence members => by
    rw [stream, meaning, Candidates.toList_distinct, Candidates.toList_product,
      map_toList_streams members]

theorem map_toList_streams : ∀ cs : List Choice, (streams cs).map Candidates.toList = meanings cs
  | [] => rfl
  | c :: cs => by rw [streams, meanings, List.map_cons, toList_stream c, map_toList_streams cs]

end

/-- The first members of the stream of a choice are those of its meaning, and pull by pull it gives the
meaning text by text, and nothing any more once that is used up. -/
theorem pulls_stream (c : Choice) (k : Nat) :
    c.stream.take k = c.meaning.take k ∧
      c.stream.pulls k = (List.range k).map fun i => c.meaning[i]? := by
  rw [Candidates.take_eq, Candidates.pulls_eq, toList_stream]
  exact ⟨rfl, rfl⟩

end Choice

end Mend.Patch

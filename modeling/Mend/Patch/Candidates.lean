import Std.Data.HashSet

/-!
# Candidate streams

A stream of candidate texts that is computed as far as it is looked at. Every stream is finite, so it
has a list of all its members, and every operation here is the operation of the same name on that
list.

* `Candidates` : the stream; `toList` : its members;
* `map`, `flatMap`, `append`, `ofList` : as on lists;
* `distinct` : every text once, where it occurs first;
* `Wheel`, `advance`, `spin` : an odometer whose wheels are streams, the last one turning fastest;
* `product` : the texts that take one line from every stream, in the order of the odometer;
* `take` : the first members.
-/

namespace Mend.Patch

/-- A finite stream of texts, computed on demand. -/
inductive Candidates where
  | done
  | next (head : String) (rest : Unit → Candidates)

namespace Candidates

/-- All members, in order. -/
def toList : Candidates → List String
  | .done => []
  | .next x rest => x :: (rest ()).toList

@[simp] theorem toList_done : done.toList = [] := rfl

@[simp] theorem toList_next (x : String) (rest : Unit → Candidates) :
    (next x rest).toList = x :: (rest ()).toList := rfl

def ofList : List String → Candidates
  | [] => .done
  | x :: xs => .next x fun _ => ofList xs

@[simp] theorem toList_ofList (xs : List String) : (ofList xs).toList = xs := by
  induction xs with
  | nil => rfl
  | cons x xs ih => rw [ofList, toList_next, ih]

def isEmpty : Candidates → Bool
  | .done => true
  | .next .. => false

/-- The first `n` members. -/
def take : Nat → Candidates → List String
  | 0, _ => []
  | _ + 1, .done => []
  | n + 1, .next x rest => x :: take n (rest ())

theorem take_eq (n : Nat) (s : Candidates) : s.take n = s.toList.take n := by
  induction s generalizing n with
  | done => cases n <;> simp [take]
  | next x rest ih =>
    cases n with
    | zero => simp [take]
    | succ n => rw [take, ih (), toList_next, List.take_succ_cons]

/-- The stream behind the first `n` members. -/
def drop : Nat → Candidates → Candidates
  | 0, s => s
  | _ + 1, .done => .done
  | n + 1, .next _ rest => drop n (rest ())

def map (f : String → String) : Candidates → Candidates
  | .done => .done
  | .next x rest => .next (f x) fun _ => (rest ()).map f

@[simp] theorem toList_map (f : String → String) (s : Candidates) :
    (s.map f).toList = s.toList.map f := by
  induction s with
  | done => rfl
  | next x rest ih => rw [map, toList_next, ih (), toList_next, List.map_cons]

def append : Candidates → (Unit → Candidates) → Candidates
  | .done, t => t ()
  | .next x rest, t => .next x fun _ => (rest ()).append t

@[simp] theorem toList_append (s : Candidates) (t : Unit → Candidates) :
    (s.append t).toList = s.toList ++ (t ()).toList := by
  induction s with
  | done => rfl
  | next x rest ih => rw [append, toList_next, ih (), toList_next, List.cons_append]

/-- The streams of the members, one behind another. -/
def flatMap (f : String → Candidates) : Candidates → Candidates
  | .done => .done
  | .next x rest => (f x).append fun _ => (rest ()).flatMap f

@[simp] theorem toList_flatMap (f : String → Candidates) (s : Candidates) :
    (s.flatMap f).toList = s.toList.flatMap fun x => (f x).toList := by
  induction s with
  | done => rfl
  | next x rest ih => rw [flatMap, toList_append, ih (), toList_next, List.flatMap_cons]

/-- The members that have not been seen, each one where it occurs first. -/
def distinctFrom (seen : Std.HashSet String) : Candidates → Candidates
  | .done => .done
  | .next x rest =>
    if seen.contains x then (rest ()).distinctFrom seen
    else .next x fun _ => (rest ()).distinctFrom (seen.insert x)

/-- Every member where it occurs first. -/
def distinct (s : Candidates) : Candidates := s.distinctFrom ∅

/-! ## Odometers -/

/-- A stream that is being read: the text it shows, the texts behind that one, and all its texts. -/
structure Wheel where
  shown : String
  behind : Unit → Candidates
  all : Candidates
  behind_lt : (behind ()).toList.length < all.toList.length

namespace Wheel

/-- A stream at its first text, if it has one. -/
def first? : Candidates → Option Wheel
  | .done => none
  | .next x rest => some ⟨x, rest, .next x rest, by simp⟩

/-- A stream at its next text, if it has one. -/
def turn? (w : Wheel) : Option Wheel :=
  match h : w.behind () with
  | .done => none
  | .next x rest =>
    some ⟨x, rest, w.all, by
      have := w.behind_lt
      simp only [h, toList_next, List.length_cons] at this
      omega⟩

end Wheel

/-- Streams at their first texts, if every one of them has one. -/
def start? : List Candidates → Option (List Wheel)
  | [] => some []
  | s :: ss => do
    let w ← Wheel.first? s
    let ws ← start? ss
    return w :: ws

/-- The last wheel that has a text left turns to it, and the wheels behind that one start over. -/
def advance : List Wheel → Option (List Wheel)
  | [] => none
  | w :: ws =>
    match advance ws with
    | some ws => some (w :: ws)
    | none => do
      let w ← w.turn?
      let ws ← start? (ws.map (·.all))
      return w :: ws

/-- The number of readings of wheels for the given streams. -/
def readings : List Candidates → Nat
  | [] => 1
  | s :: ss => s.toList.length * readings ss

/-- The number of readings that are still to come. -/
def remaining : List Wheel → Nat
  | [] => 0
  | w :: ws => (w.behind ()).toList.length * readings (ws.map (·.all)) + remaining ws

theorem map_all_start? {ss : List Candidates} {ws : List Wheel} (h : start? ss = some ws) :
    ws.map (·.all) = ss := by
  induction ss generalizing ws with
  | nil =>
    cases h
    rfl
  | cons s ss ih =>
    cases s with
    | done => cases h
    | next x rest =>
      rw [start?, Wheel.first?, Option.bind_eq_bind, Option.bind_some, Option.bind_eq_bind,
        Option.bind_eq_some_iff] at h
      obtain ⟨ws, hws, h⟩ := h
      cases h
      rw [List.map_cons, ih hws]

/-- A wheel that turns shows the first of the texts behind it. -/
theorem toList_behind_turn? {w v : Wheel} (h : w.turn? = some v) :
    (w.behind ()).toList = v.shown :: (v.behind ()).toList := by
  unfold Wheel.turn? at h
  split at h
  · cases h
  · next x rest hrest =>
    cases h
    exact congrArg toList hrest

theorem all_turn? {w v : Wheel} (h : w.turn? = some v) : v.all = w.all := by
  unfold Wheel.turn? at h
  split at h
  · cases h
  · cases h
    rfl

theorem map_all_advance {ws vs : List Wheel} (h : advance ws = some vs) :
    vs.map (·.all) = ws.map (·.all) := by
  induction ws generalizing vs with
  | nil => cases h
  | cons w ws ih =>
    unfold advance at h
    split at h
    · next us hus =>
      cases h
      rw [List.map_cons, List.map_cons, ih hus]
    · rw [Option.bind_eq_bind, Option.bind_eq_some_iff] at h
      obtain ⟨v, hv, h⟩ := h
      rw [Option.bind_eq_bind, Option.bind_eq_some_iff] at h
      obtain ⟨us, hus, h⟩ := h
      cases h
      rw [List.map_cons, List.map_cons, all_turn? hv, map_all_start? hus]

theorem remaining_lt_readings (ws : List Wheel) : remaining ws < readings (ws.map (·.all)) := by
  induction ws with
  | nil => exact Nat.one_pos
  | cons w ws ih =>
    have hle := Nat.mul_le_mul_right (readings (ws.map (·.all))) (Nat.succ_le_of_lt w.behind_lt)
    rw [Nat.succ_mul] at hle
    rw [remaining, List.map_cons, readings]
    omega

theorem remaining_advance {ws vs : List Wheel} (h : advance ws = some vs) :
    remaining vs < remaining ws := by
  induction ws generalizing vs with
  | nil => cases h
  | cons w ws ih =>
    unfold advance at h
    split at h
    · next us hus =>
      cases h
      have hlt := ih hus
      rw [remaining, remaining, map_all_advance hus]
      omega
    · rw [Option.bind_eq_bind, Option.bind_eq_some_iff] at h
      obtain ⟨v, hv, h⟩ := h
      rw [Option.bind_eq_bind, Option.bind_eq_some_iff] at h
      obtain ⟨us, hus, h⟩ := h
      cases h
      -- the wheels that start over have fewer readings to come than one step of the turned wheel
      have hlt := remaining_lt_readings us
      rw [map_all_start? hus] at hlt
      rw [remaining, remaining, map_all_start? hus, toList_behind_turn? hv, List.length_cons,
        Nat.succ_mul]
      omega

/-- The lines that wheels show. -/
def reading (ws : List Wheel) : String := "\n".intercalate (ws.map (·.shown))

/-- The reading of wheels, and those that follow it. -/
def spin (ws : List Wheel) : Candidates :=
  .next (reading ws) fun _ =>
    match _h : advance ws with
    | none => .done
    | some vs => spin vs
termination_by remaining ws
decreasing_by exact remaining_advance _h

/-- The texts of one line from each stream, the first stream turning slowest. There are none if there
is no stream or if one of them is empty. -/
def product (ss : List Candidates) : Candidates :=
  if ss.isEmpty then .done
  else
    match start? ss with
    | none => .done
    | some ws => spin ws

end Candidates

end Mend.Patch

/-!
# Steps that may fail

A step gives a result or an error, and it may run on a state that keeps what the step has changed. If steps
in a row end well, each of them does.

* `bind_eq_ok`, `bind_eq_ok_iff`, `mapError_ok`, `mapError_eq_ok`, `run_bind_of_ok`, `run_bind_of_error` : steps without a
  state;
* `run_bind_ok`, `run_bind_error`, `run_get_bind`, `run_lift`, `run_tryCatch` : steps on a
  state.
-/

namespace Mend

section Result

variable {ε ε' α β : Type}

theorem bind_eq_ok {x : Except ε α} {f : α → Except ε β} {b : β} (h : (x >>= f) = .ok b) :
    ∃ a, x = .ok a ∧ f a = .ok b := by
  cases x with
  | error e => cases h
  | ok a => exact ⟨a, rfl, h⟩

theorem bind_eq_ok_iff {x : Except ε α} {f : α → Except ε β} {b : β} :
    (x >>= f) = .ok b ↔ ∃ a, x = .ok a ∧ f a = .ok b :=
  ⟨bind_eq_ok, fun ⟨_, hx, hf⟩ => hx ▸ hf⟩

@[simp] theorem mapError_ok (f : ε → ε') (a : α) : (Except.ok a : Except ε α).mapError f = .ok a := rfl

@[simp] theorem mapError_error (f : ε → ε') (e : ε) : (Except.error e : Except ε α).mapError f = .error (f e) := rfl

theorem mapError_eq_ok {x : Except ε α} {f : ε → ε'} {a : α} (h : x.mapError f = .ok a) : x = .ok a := by
  cases x with
  | error e => cases h
  | ok b =>
    cases h
    rfl

theorem run_bind_of_ok {x : ExceptT ε Id α} {a : α} (h : x.run = .ok a) (f : α → ExceptT ε Id β) :
    (x >>= f).run = (f a).run := by
  rw [ExceptT.run_bind, h]
  rfl

theorem run_bind_of_error {x : ExceptT ε Id α} {e : ε} (h : x.run = .error e) (f : α → ExceptT ε Id β) :
    (x >>= f).run = .error e := by
  rw [ExceptT.run_bind, h]
  rfl

end Result

section State

variable {ε σ α β : Type} {x : ExceptT ε (StateM σ) α} {w u v : σ}

theorem run_bind_ok {a : α} (h : x.run w = (.ok a, u)) (f : α → ExceptT ε (StateM σ) β) :
    (x >>= f).run w = (f a).run u := by
  change ExceptT.bindCont f (x.run w).1 (x.run w).2 = _
  rw [h]
  rfl

theorem run_bind_error {e : ε} (h : x.run w = (.error e, u)) (f : α → ExceptT ε (StateM σ) β) :
    (x >>= f).run w = (.error e, u) := by
  change ExceptT.bindCont f (x.run w).1 (x.run w).2 = _
  rw [h]
  rfl

theorem run_get_bind (f : σ → ExceptT ε (StateM σ) β) : (get >>= f).run w = (f w).run w :=
  run_bind_ok (x := get) (a := w) (u := w) rfl f

theorem run_lift {y : StateM σ α} {a : α} (h : y.run w = (a, u)) :
    (ExceptT.lift y : ExceptT ε (StateM σ) α).run w = (.ok a, u) := by
  change (Except.ok (y.run w).1, (y.run w).2) = _
  rw [h]

theorem run_tryCatch (f : ε → ExceptT ε (StateM σ) α) :
    (tryCatch x f).run w =
      match x.run w with
      | (.ok a, u) => (.ok a, u)
      | (.error e, u) => (f e).run u := by
  have hrun : (tryCatch x f).run w =
      (match (x.run w).1 with
        | .ok a => pure (.ok a)
        | .error e => (f e).run : StateM σ (Except ε α)) (x.run w).2 := rfl
  rw [hrun]
  cases x.run w with
  | mk r u => cases r <;> rfl

end State

end Mend

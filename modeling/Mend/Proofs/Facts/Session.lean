import Mend.Proofs.Facts.Collect

/-!
# Sessions with a store

What a client sees of a store are the answers to its requests, one after another: exports to take in, and
queries. A refused export leaves no trace in them.

* `Reachable`, `Reachable.kept` : the stores that exports lead to, and what holds of them all;
* `Request`, `Answer`, `respond` : one request;
* `session` : the answers to requests one after another;
* `collect_eq_error_iff` : when an export is refused, and with which message;
* `respond_of_error`, `session_of_error` : a refused export changes nothing;
* `accepted`, `session_accepted` : so all refused exports of a session can be struck out at once.
-/

namespace Mend

namespace Store

/-! ## Stores that exports lead to -/

/-- A store that exports lead to from the empty one, some of them perhaps refused. -/
def Reachable (s : Store) : Prop := ∃ es, s = (empty.collectAll es).1

/-- What holds of the empty store and outlives every accepted export holds of every reachable store. -/
theorem Reachable.kept {I : Store → Prop} {s : Store} (hs : s.Reachable) (hempty : I empty)
    (hstep : ∀ s e s' stats, Linked s → I s → s.collect e = .ok (s', stats) → I s') : I s := by
  have hboth : ∀ s e s' stats, Linked s ∧ I s → s.collect e = .ok (s', stats) → Linked s' ∧ I s' :=
    fun s e s' stats hs h => ⟨hs.1.collect h, hstep s e s' stats hs.1 hs.2 h⟩
  obtain ⟨es, rfl⟩ := hs
  exact (kept_collectAll hboth ⟨linked_empty, hempty⟩ es).2

theorem Reachable.linked {s : Store} (hs : s.Reachable) : Linked s :=
  hs.kept linked_empty fun _ _ _ _ hs _ h => hs.collect h

/-! ## Requests and answers -/

/-- What a client can ask of a store: to take in an export, or to answer a query. -/
inductive Request where
  | collect (e : Export)
  | modules
  | module (name : String)
  | functions (moduleName : String)
  | functionNamed (moduleName name : String)
  | globals (moduleName : String)
  | statements (moduleName : String)
  | functionContaining (l : Location)
  | statementAt (l : Location)

/-- What a store replies. -/
inductive Answer where
  | stored (stats : CollectStats)
  | refused (e : FactError)
  | names (found : List String)
  | name (found : Option String)
  | functions (found : List FunctionDef)
  | function (found : Option FunctionDef)
  | globals (found : List Variable)
  | statements (found : List Statement)
  | statement (found : Option Statement)
deriving DecidableEq

def Answer.isGiven : Answer → Bool
  | .refused _ => false
  | _ => true

def respond (s : Store) : Request → Answer × Store
  | .collect e =>
    match s.ingest e with
    | (.ok stats, s') => (.stored stats, s')
    | (.error err, s') => (.refused err, s')
  | .modules => (.names s.moduleNames, s)
  | .module m => (.name ((s.module? m).map (·.name)), s)
  | .functions m => (.functions (s.functions m), s)
  | .functionNamed m n => (.function (s.functionNamed m n), s)
  | .globals m => (.globals (s.globals m), s)
  | .statements m => (.statements (s.statements m), s)
  | .functionContaining l => (.function (s.functionContaining l), s)
  | .statementAt l => (.statement (s.statementAt l), s)

def session (s : Store) : List Request → List Answer
  | [] => []
  | r :: rs => (s.respond r).1 :: (s.respond r).2.session rs

/-! ## Refused exports -/

theorem globalVariables_of_stray (m : String) {fact : Fact} (h : fact.tag ≠ .varType) (facts : List Fact) :
    globalVariables m (fact :: facts) =
      .error (.malformedFact (fact.tag.text ++ " record among globals of " ++ m)) := by
  cases fact with
  | varType v => exact absurd rfl h
  | _ => rfl

theorem globalVariables_eq_error_iff {m : String} {facts : List Fact} {err : FactError} :
    globalVariables m facts = .error err ↔
      ∃ fact, (facts.find? fun fact => fact.tag ≠ .varType) = some fact ∧
        err = .malformedFact (fact.tag.text ++ " record among globals of " ++ m) := by
  induction facts with
  | nil =>
    rw [globalVariables, List.find?_nil]
    simp
  | cons fact facts ih =>
    by_cases htag : fact.tag = .varType
    · rw [List.find?_cons_of_neg (by simpa using htag), ← ih]
      cases fact with
      | varType v =>
        rw [globalVariables]
        cases globalVariables m facts with
        | error e => exact Iff.rfl
        | ok vs =>
          constructor
          · rintro ⟨⟩
          · rintro ⟨⟩
      | _ => cases htag
    · rw [List.find?_cons_of_pos (by simpa using htag), globalVariables_of_stray m htag]
      simp [eq_comm]

section Refused

variable {s : Store} (hs : Linked s) {e : Export}

include hs

/-- An export is refused for the first record among its globals that declares no variable. -/
theorem collect_eq_error_iff {err : FactError} :
    s.collect e = .error err ↔
      ∃ fact, (e.globals.find? fun fact => fact.tag ≠ .varType) = some fact ∧
        err = .malformedFact (fact.tag.text ++ " record among globals of " ++ e.moduleName) :=
  (collect_eq_error hs).trans globalVariables_eq_error_iff

theorem exists_collect_eq_error_iff :
    (∃ err, s.collect e = .error err) ↔ ∃ fact ∈ e.globals, fact.tag ≠ .varType := by
  simp only [collect_eq_error_iff hs]
  constructor
  · rintro ⟨-, fact, hfact, -⟩
    exact ⟨fact, List.mem_of_find?_eq_some hfact, by simpa using List.find?_some hfact⟩
  · rintro ⟨fact, hmem, htag⟩
    have hsome : (e.globals.find? fun fact => fact.tag ≠ .varType).isSome = true :=
      List.find?_isSome.mpr ⟨fact, hmem, by simpa using htag⟩
    obtain ⟨stray, hstray⟩ := Option.isSome_iff_exists.mp hsome
    exact ⟨_, stray, hstray, rfl⟩

end Refused

theorem respond_of_ok {s s' : Store} {e : Export} {stats : CollectStats}
    (h : s.collect e = .ok (s', stats)) : s.respond (.collect e) = (.stored stats, s') := by
  rw [respond, collect_eq_ok_iff.mp h]

theorem respond_of_error {s : Store} {e : Export} {err : FactError} (h : s.collect e = .error err) :
    s.respond (.collect e) = (.refused err, s) := by
  rw [respond, ingest_of_collect_error h]

theorem session_of_error {s : Store} {e : Export} {err : FactError} (h : s.collect e = .error err)
    (rs : List Request) : s.session (.collect e :: rs) = .refused err :: s.session rs := by
  rw [session, respond_of_error h]

def accepted (s : Store) : List Request → List Request
  | [] => []
  | r :: rs => if (s.respond r).1.isGiven then r :: (s.respond r).2.accepted rs else s.accepted rs

/-- Only an export is refused, and then the store stays. -/
theorem respond_of_not_isGiven {s : Store} {r : Request} (h : (s.respond r).1.isGiven = false) :
    (s.respond r).2 = s := by
  cases r with
  | collect e =>
    cases hcollect : s.collect e with
    | error err => rw [respond_of_error hcollect]
    | ok result =>
      obtain ⟨s', stats⟩ := result
      rw [respond_of_ok hcollect] at h
      cases h
  | _ => cases h

/-- A session without its refused requests gets the same answers to the others. -/
theorem session_accepted (s : Store) (rs : List Request) :
    (s.session rs).filter Answer.isGiven = s.session (s.accepted rs) := by
  induction rs generalizing s with
  | nil => rfl
  | cons r rs ih =>
    rw [session, accepted]
    cases hgiven : (s.respond r).1.isGiven with
    | true => rw [List.filter_cons_of_pos hgiven, if_pos rfl, session, ih]
    | false =>
      rw [List.filter_cons_of_neg (by simp [hgiven]), if_neg (by simp), respond_of_not_isGiven hgiven, ih]

end Store

end Mend

import Mend.Proofs.Facts.Session
import Mend.Proofs.Repair.AutoPatch

/-!
# Refused exports leave no trace

An export with a stray record among its globals is refused as a whole, although its module is deleted and
the globals in front of the record are put in before it is met. Neither the later answers of the store show
it, nor the engine that was to collect it.

* `run_collectInfo_of_refused` : an engine that is given such an export stays as it is;
* `refusal_invisible` : when an export is refused, and that nothing comes of it.
-/

namespace Mend.Repair.Engine

theorem validateSource_of_extract {programs : Programs} {x : Exporter} {p : Path} {cxx : Bool} {w u : World}
    {e : Export} (h : x.extract programs p cxx w = (.ok e, u)) : validateSource w.files p = .ok () := by
  unfold Exporter.extract at h
  split at h
  · cases h
  · next hvalid => exact hvalid

/-- An engine whose store refuses what was extracted is as before; of the world, only what the exporter has
done to it is different. -/
theorem run_collectInfo_of_refused {programs : Programs} {p : Path} {cxx : Bool} {b : Bench} {world : World}
    {e : Export} {err : FactError}
    (hextract : b.engine.exporter.extract programs p cxx b.world = (.ok e, world))
    (hrefused : b.engine.store.collect e = .error err) :
    (collectInfo programs p cxx).run b = (.error (.facts err), { b with world }) := by
  rw [run_collectInfo, validateSource_of_extract hextract]
  dsimp only
  rw [hextract]
  dsimp only
  rw [Store.ingest_of_collect_error hrefused]

/-- An export is refused exactly if some record among its globals declares no variable, and the message names
the first such record and the module. By then the functions of the module are deleted and the globals in front
of the record are put in, but the transaction is rolled back to the store that it began with. So a store that
has refused an export answers all later requests as if it had never been offered, and so it does if all refused
exports of a session are struck out. An engine that was to collect it keeps its store, its templates and its
database. -/
theorem refusal_invisible {s : Store} (hs : s.Reachable) (e : Export) :
    ((∃ err, s.collect e = .error err) ↔ ∃ fact ∈ e.globals, fact.tag ≠ .varType) ∧
    (∀ err, s.collect e = .error err →
      (∃ fact, (e.globals.find? fun fact => fact.tag ≠ .varType) = some fact ∧
        err = .malformedFact (fact.tag.text ++ " record among globals of " ++ e.moduleName)) ∧
      (∃ half, (Txn.collect e).run s = (.error err, half) ∧ half.functions e.moduleName = [] ∧
        half.globals e.moduleName = Store.leadingVariables e.globals) ∧
      s.ingest e = (.error err, s) ∧
      (∀ rs, s.session (.collect e :: rs) = .refused err :: s.session rs) ∧
      ∀ programs p cxx b world, b.engine.store = s →
        b.engine.exporter.extract programs p cxx b.world = (.ok e, world) →
          (collectInfo programs p cxx).run b = (.error (.facts err), { b with world })) ∧
    ∀ rs, (s.session rs).filter Store.Answer.isGiven = s.session (s.accepted rs) := by
  have hlinked := hs.linked
  refine ⟨Store.exists_collect_eq_error_iff hlinked, fun err herr => ?_, s.session_accepted⟩
  obtain ⟨half, hbody, -, hfunctions, hglobals⟩ :=
    Store.run_collect_of_error hlinked ((Store.collect_eq_error hlinked).mp herr)
  refine ⟨(Store.collect_eq_error_iff hlinked).mp herr, ⟨half, hbody, hfunctions, hglobals⟩,
    Store.ingest_of_collect_error herr, Store.session_of_error herr, ?_⟩
  rintro programs p cxx b world rfl hextract
  exact run_collectInfo_of_refused hextract herr

/-! A project whose facts were exported ahead of time, with a statement among the globals. -/

namespace Stray

def facts : String :=
  "[\"a\",[[\"var_type\",1,1,1,5,\"n\",\"int\",0,4],[\"stmt_type\",2,1,2,3,\"n;\"]],\x7b\x7d]"

def files : FileTree where
  entries := [(["shop"], .directory), (["shop", "a.c"], .file "n;".toUTF8 false),
    (["shop", "a.c.facts.json"], .file facts.toUTF8 false)]
  workingDirectory := ["shop"]
  devices := by simp

def offered : Export :=
  ⟨"a.c", [.varType ⟨"n", "int", ⟨1, 1, 1, 5⟩, false, 4⟩, .stmtType ⟨2, 1, 2, 3⟩ "n;"], []⟩

def known : Export := ⟨"a.c", [], [("f", [.funcDecl ⟨1, 1, 3, 1⟩, .stmtType ⟨2, 1, 2, 3⟩ "n;"])]⟩

def bench : Bench :=
  ⟨⟨(Store.empty.collectAll [known]).1, none, .sidecar, .empty, none⟩, ⟨files, 0⟩⟩

def refusal : FactError := .malformedFact "stmt_type record among globals of a.c"

theorem extract (programs : Programs) :
    bench.engine.exporter.extract programs ⟨"a.c"⟩ false bench.world = (.ok offered, bench.world) := by
  have hread : Exporter.readSidecar files ⟨"a.c"⟩ = .ok offered := by decide +kernel
  have hvalid : validateSource bench.world.files ⟨"a.c"⟩ = .ok () := by decide +kernel
  unfold Exporter.extract
  rw [hvalid]
  exact congrArg (·, bench.world) hread

theorem reachable : bench.engine.store.Reachable := ⟨[known], rfl⟩

end Stray

/-- What was known of the module is lost in the body of the transaction, and known again behind it. -/
theorem refusal_invisible_stray :
    (∃ half, (Txn.collect Stray.offered).run Stray.bench.engine.store = (.error Stray.refusal, half) ∧
      half.functions "a.c" = [] ∧ half.globals "a.c" = [⟨"n", "int", ⟨1, 1, 1, 5⟩, false, 4⟩]) ∧
    (collectInfo Wreck.programs ⟨"a.c"⟩ false).run Stray.bench = (.error (.facts Stray.refusal), Stray.bench) ∧
    Stray.bench.engine.store.session [.collect Stray.offered, .statementAt ⟨⟨"./a.c"⟩, ⟨2, 1⟩⟩] =
      [.refused Stray.refusal, .statement (some ⟨"a.c", ⟨2, 1, 2, 3⟩, "n;"⟩)] := by
  have hrefused : Stray.bench.engine.store.collect Stray.offered = .error Stray.refusal := by decide +kernel
  obtain ⟨-, hhalf, -, hsession, hengine⟩ :=
    (refusal_invisible Stray.reachable Stray.offered).2.1 Stray.refusal hrefused
  refine ⟨hhalf, hengine Wreck.programs _ _ Stray.bench _ rfl (Stray.extract _), (hsession _).trans ?_⟩
  decide +kernel

end Mend.Repair.Engine

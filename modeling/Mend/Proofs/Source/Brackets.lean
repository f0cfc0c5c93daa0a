import Mend.Proofs.Source.Undo

/-!
# Balanced brackets

Round and curly brackets of a text are balanced if they pair up and the pairs are nested. Whether they are is
found by one pass that keeps the closing brackets that are still due.

* `Balanced` : the texts with balanced brackets;
* `dueAfter` : the pass; `Balanced.dueAfter` : a balanced text leaves what is due as it was;
* `Closes` : a text that closes what is due; `closes_of_dueAfter` : the pass finds those;
* `balanced_iff_dueAfter` : the pass finds the balanced texts, so that balance is decidable;
* `balanced_replace_iff`, `Balanced.between` : a balanced piece of a text may be replaced by another one, or
  put in;
* `Selects.splice_balanced` : so a replacement keeps the balance of the text around it.
-/

namespace Mend.Source

def closing? (c : Char) : Option Char :=
  if c = '(' then some ')' else if c = '\x7b' then some '\x7d' else none

def isClosing (c : Char) : Bool := c = ')' || c = '\x7d'

/-- The texts in which brackets pair up and the pairs are nested; all other characters may stand anywhere. -/
inductive Balanced : List Char → Prop where
  | nil : Balanced []
  | plain {c : Char} {cs : List Char} :
    closing? c = none → isClosing c = false → Balanced cs → Balanced (c :: cs)
  | nest {o c : Char} {as bs : List Char} :
    closing? o = some c → Balanced as → Balanced bs → Balanced (o :: as ++ c :: bs)

theorem Balanced.append {as bs : List Char} (ha : Balanced as) (hb : Balanced bs) : Balanced (as ++ bs) := by
  induction ha with
  | nil => exact hb
  | plain hopen hclose _ ih => exact .plain hopen hclose ih
  | nest hpair hinner _ _ ih =>
    rw [List.append_assoc]
    exact .nest hpair hinner ih

theorem Balanced.enclose {o c : Char} {as : List Char} (hpair : closing? o = some c) (ha : Balanced as) :
    Balanced (o :: as ++ [c]) :=
  .nest hpair ha .nil

theorem isClosing_of_closing? {o c : Char} (h : closing? o = some c) : closing? c = none ∧ isClosing c = true := by
  unfold closing? at h
  split at h
  · cases h
    decide
  · split at h
    · cases h
      decide
    · cases h

/-! ## One pass over a text -/

/-- What is due behind a character: an opening bracket is due to be closed, and a closing one has to be the
next that is due. -/
def dueStep (due : List Char) (c : Char) : Option (List Char) :=
  match closing? c with
  | some close => some (close :: due)
  | none => if isClosing c then if due.head? = some c then some due.tail else none else some due

/-- The closing brackets that are due behind a text, the next one first. -/
def dueAfter (due text : List Char) : Option (List Char) := text.foldlM dueStep due

@[simp] theorem dueAfter_nil (due : List Char) : dueAfter due [] = some due := rfl

@[simp] theorem dueAfter_cons (due : List Char) (c : Char) (cs : List Char) :
    dueAfter due (c :: cs) = (dueStep due c).bind fun due => dueAfter due cs :=
  List.foldlM_cons

@[simp] theorem dueAfter_append (due as bs : List Char) :
    dueAfter due (as ++ bs) = (dueAfter due as).bind fun due => dueAfter due bs :=
  List.foldlM_append

theorem dueStep_open {o c : Char} (h : closing? o = some c) (due : List Char) :
    dueStep due o = some (c :: due) := by
  rw [dueStep, h]

theorem dueStep_close {c : Char} (hopen : closing? c = none) (hclose : isClosing c = true) (due : List Char) :
    dueStep (c :: due) c = some due := by
  rw [dueStep, hopen]
  simp [hclose]

theorem dueStep_plain {c : Char} (hopen : closing? c = none) (hclose : isClosing c = false) (due : List Char) :
    dueStep due c = some due := by
  rw [dueStep, hopen]
  simp [hclose]

/-- A balanced text leaves what is due as it was. -/
theorem Balanced.dueAfter {text : List Char} (h : Balanced text) (due : List Char) :
    Source.dueAfter due text = some due := by
  induction h generalizing due with
  | nil => exact dueAfter_nil due
  | plain hopen hclose _ ih => rw [dueAfter_cons, dueStep_plain hopen hclose, Option.bind_some, ih]
  | nest hpair _ _ iha ihb =>
    obtain ⟨hopen, hclose⟩ := isClosing_of_closing? hpair
    rw [List.cons_append, dueAfter_cons, dueStep_open hpair, Option.bind_some, dueAfter_append, iha,
      Option.bind_some, dueAfter_cons, dueStep_close hopen hclose, Option.bind_some, ihb]

/-- A text that closes what is due: balanced pieces with the brackets that are due between them. -/
inductive Closes : List Char → List Char → Prop where
  | done {text : List Char} : Balanced text → Closes [] text
  | next {c : Char} {due as bs : List Char} : Balanced as → Closes due bs → Closes (c :: due) (as ++ c :: bs)

theorem Closes.prepend {due text as : List Char} (ha : Balanced as) (h : Closes due text) :
    Closes due (as ++ text) := by
  cases h with
  | done hb => exact .done (ha.append hb)
  | next hb hrest =>
    rw [← List.append_assoc]
    exact .next (ha.append hb) hrest

theorem closes_of_dueAfter {due text : List Char} (h : dueAfter due text = some []) : Closes due text := by
  induction text generalizing due with
  | nil =>
    rw [dueAfter_nil] at h
    cases h
    exact .done .nil
  | cons c cs ih =>
    rw [dueAfter_cons, dueStep] at h
    cases hopen : closing? c with
    | some close =>
      -- what follows closes this bracket first; up to there it makes one more balanced piece
      rw [hopen] at h
      cases ih h with
      | next ha hrest =>
        rw [← List.cons_append, List.append_cons]
        exact hrest.prepend (ha.enclose hopen)
    | none =>
      rw [hopen] at h
      cases hclose : isClosing c with
      | true =>
        simp only [hclose, if_true] at h
        split at h
        · next hhead =>
          obtain ⟨due, rfl⟩ := List.head?_eq_some_iff.mp hhead
          exact .next .nil (ih h)
        · cases h
      | false =>
        simp only [hclose, Bool.false_eq_true, if_false, Option.bind_some] at h
        exact (ih h).prepend (.plain hopen hclose .nil)

/-- The brackets of a text are balanced if nothing is due behind it. -/
theorem balanced_iff_dueAfter {text : List Char} : Balanced text ↔ dueAfter [] text = some [] := by
  constructor
  · exact fun h => h.dueAfter []
  · intro h
    cases closes_of_dueAfter h with
    | done hb => exact hb

instance (text : List Char) : Decidable (Balanced text) := decidable_of_iff' _ balanced_iff_dueAfter

/-! ## Replacing a piece -/

/-- A balanced piece of a text may be replaced by another one. -/
theorem balanced_replace_iff {old new : List Char} (hold : Balanced old) (hnew : Balanced new)
    (before after : List Char) : Balanced (before ++ new ++ after) ↔ Balanced (before ++ old ++ after) := by
  simp only [balanced_iff_dueAfter, dueAfter_append, hold.dueAfter, hnew.dueAfter]

/-- A balanced piece may be put anywhere into a balanced text. -/
theorem Balanced.between {text before after : List Char} (h : Balanced text)
    (haround : Balanced (before ++ after)) : Balanced (before ++ text ++ after) := by
  rw [balanced_replace_iff .nil h, List.append_nil]
  exact haround

/-- Where a span selects a balanced piece, a balanced replacement gives a text that is balanced if the text
was. -/
theorem Selects.splice_balanced {content : String} {span : Span} (h : Selects content span)
    (hold : Balanced (selected content span).toList) {replacement : String}
    (hnew : Balanced replacement.toList) :
    ∃ out, splice content replacement span = .ok out ∧ (Balanced out.toList ↔ Balanced content.toList) := by
  obtain ⟨before, covered, after, rfl, hcovers⟩ := h.exists_covers
  rw [hcovers.selected_eq, String.toList_ofList] at hold
  refine ⟨_, hcovers.splice_eq after replacement, ?_⟩
  rw [String.toList_ofList, String.toList_ofList]
  exact balanced_replace_iff hold hnew before after

end Mend.Source

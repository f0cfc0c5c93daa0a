import Mathlib.Data.List.Nodup
import Mend.Facts.Table

/-!
# What is in a table

* `Table.row_inj` : a row is known by its number;
* `Table.select_byId` : rows by their numbers are the rows as they stand;
* `Table.select_insert`, `Table.delete_insert_of_pos` : one row more, seen by a query and by a deletion;
* `Table.delete_congr`, `Table.delete_eq_self` : what a deletion leaves.
-/

namespace Mend.Table

variable {α : Type}

section Rows

variable {t : Table α} {r : Row α} {p : α → Bool}

theorem pairwise_ids (t : Table α) : t.ids.Pairwise (· < ·) := List.pairwise_map.mpr t.ascending

theorem nodup_ids (t : Table α) : t.ids.Nodup := t.pairwise_ids.imp Nat.ne_of_lt

theorem row_inj {r' : Row α} (hr : r ∈ t.rows) (hr' : r' ∈ t.rows) (h : r.id = r'.id) : r = r' :=
  List.inj_on_of_nodup_map t.nodup_ids hr hr' h

theorem mem_ids {i : Nat} : i ∈ t.ids ↔ ∃ r ∈ t.rows, r.id = i := List.mem_map

theorem mem_idsWhere {i : Nat} : i ∈ t.idsWhere p ↔ ∃ r ∈ t.rows, p r.cells = true ∧ r.id = i := by
  simp only [idsWhere, List.mem_map, List.mem_filter, and_assoc]

theorem select_byId (t : Table α) (p : α → Bool) :
    t.select p Row.byId = t.rows.filter fun r => p r.cells :=
  List.mergeSort_of_pairwise ((t.ascending.filter _).imp fun h => decide_eq_true (Nat.le_of_lt h))

theorem mem_select {order : Row α → Row α → Bool} : r ∈ t.select p order ↔ r ∈ t.rows ∧ p r.cells = true := by
  rw [select, List.mem_mergeSort, List.mem_filter]

theorem select_eq_nil {order : Row α → Row α → Bool} (h : ∀ r ∈ t.rows, p r.cells = false) :
    t.select p order = [] := by
  refine List.eq_nil_iff_forall_not_mem.mpr fun r hr => ?_
  obtain ⟨hr, hp⟩ := mem_select.mp hr
  rw [h r hr] at hp
  cases hp

end Rows

/-! ## Insertions -/

section Insert

variable (t : Table α) (cells : α)

@[simp] theorem rows_insert : (t.insert cells).rows = t.rows ++ [⟨t.nextId, cells⟩] := rfl

theorem forall_mem_insert {P : Row α → Prop} :
    (∀ r ∈ (t.insert cells).rows, P r) ↔ (∀ r ∈ t.rows, P r) ∧ P ⟨t.nextId, cells⟩ := by
  rw [rows_insert, List.forall_mem_append, List.forall_mem_singleton]

@[simp] theorem ids_insert : (t.insert cells).ids = t.ids ++ [t.nextId] := by
  simp [ids]

theorem select_insert (p : α → Bool) :
    (t.insert cells).select p Row.byId =
      t.select p Row.byId ++ if p cells then [⟨t.nextId, cells⟩] else [] := by
  rw [select_byId, select_byId, rows_insert, List.filter_append]
  cases h : p cells <;> simp [h]

theorem nextId_insert : (t.insert cells).nextId = t.nextId + 1 := by
  have hmax : (t.insert cells).ids.max? = some t.nextId := by
    refine List.max?_eq_some_iff.mpr ⟨by simp, fun i hi => ?_⟩
    rw [ids_insert, List.mem_append, List.mem_singleton] at hi
    rcases hi with hi | rfl
    · exact Nat.le_of_lt (lt_nextId hi)
    · exact Nat.le_refl _
  rw [nextId, hmax, Option.getD_some]

theorem idsWhere_insert (p : α → Bool) :
    (t.insert cells).idsWhere p = t.idsWhere p ++ if p cells then [t.nextId] else [] := by
  rw [idsWhere, rows_insert, List.filter_append, List.map_append]
  cases h : p cells <;> simp [h, idsWhere]

end Insert

/-! ## Deletions -/

section Delete

variable {t : Table α} {p q : α → Bool}

@[simp] theorem rows_delete (t : Table α) (p : α → Bool) : (t.delete p).rows = t.rows.filter fun r => !p r.cells := rfl

theorem mem_rows_delete {r : Row α} : r ∈ (t.delete p).rows ↔ r ∈ t.rows ∧ p r.cells = false := by
  simp

theorem delete_congr (h : ∀ r ∈ t.rows, p r.cells = q r.cells) : t.delete p = t.delete q :=
  Table.ext (List.filter_congr fun r hr => by rw [h r hr])

theorem delete_eq_self (h : ∀ r ∈ t.rows, p r.cells = false) : t.delete p = t :=
  Table.ext (List.filter_eq_self.mpr fun r hr => by rw [h r hr]; rfl)

theorem delete_delete : (t.delete p).delete p = t.delete p :=
  delete_eq_self fun _ hr => (mem_rows_delete.mp hr).2

/-- A deletion does not see a new row that it deletes. -/
theorem delete_insert_of_pos {cells : α} (h : p cells = true) : (t.insert cells).delete p = t.delete p :=
  Table.ext (by simp [List.filter_append, h])

theorem select_delete {order : Row α → Row α → Bool} (h : ∀ r ∈ t.rows, q r.cells = true → p r.cells = false) :
    (t.delete p).select q order = t.select q order := by
  rw [select, select, rows_delete, List.filter_filter]
  congr 1
  refine List.filter_congr fun r hr => ?_
  cases hq : q r.cells with
  | false => rfl
  | true => rw [h r hr hq]; rfl

end Delete

/-! ## Updates -/

section Update

variable (t : Table α) (id : Nat) (f : α → α)

theorem change_of_ne {r : Row α} (h : r.id ≠ id) : r.change id f = r := by
  rw [Row.change, if_neg h]

@[simp] theorem rows_update : (t.update id f).rows = t.rows.map (Row.change id f) := rfl

@[simp] theorem ids_update : (t.update id f).ids = t.ids := by
  simp [ids, update, Row.change]

theorem rows_update_last {t : Table α} {front : List (Row α)} {cells : α}
    (h : t.rows = front ++ [⟨id, cells⟩]) : (t.update id f).rows = front ++ [⟨id, f cells⟩] := by
  have hascending := t.ascending
  rw [h] at hascending
  have hfront : ∀ r ∈ front, r.id ≠ id := fun r hr =>
    Nat.ne_of_lt ((List.pairwise_append.mp hascending).2.2 r hr _ List.mem_cons_self)
  have hsame : front.map (Row.change id f) = front :=
    (List.map_congr_left fun r hr => change_of_ne id f (hfront r hr)).trans front.map_id
  rw [rows_update, h, List.map_append, hsame]
  simp [Row.change]

/-- What a change leaves alone in every row. -/
theorem cells_change {β : Type} {g : α → β} (hg : ∀ c, g (f c) = g c) (r : Row α) :
    g (r.change id f).cells = g r.cells := by
  rw [Row.change]
  dsimp only
  split
  · exact hg r.cells
  · rfl

section Condition

variable {p : α → Bool} (hf : ∀ c, p (f c) = p c)

include hf

theorem idsWhere_update : (t.update id f).idsWhere p = t.idsWhere p := by
  rw [idsWhere, idsWhere, rows_update, List.filter_map, List.map_map]
  exact congrArg (List.map _) (List.filter_congr fun r _ => cells_change id f hf r)

/-- A deletion does not see the change of a row that it deletes. -/
theorem delete_update (hid : ∀ r ∈ t.rows, r.id = id → p r.cells = true) :
    (t.update id f).delete p = t.delete p := by
  have hfilter : t.rows.filter ((fun r => !p r.cells) ∘ Row.change id f) = t.rows.filter fun r => !p r.cells :=
    List.filter_congr fun r _ => congrArg (!·) (cells_change id f hf r)
  refine Table.ext ?_
  rw [rows_delete, rows_delete, rows_update, List.filter_map, hfilter]
  refine (List.map_congr_left fun r hr => change_of_ne id f fun heq => ?_).trans (List.map_id _)
  obtain ⟨hr, hp⟩ := List.mem_filter.mp hr
  simp [hid r hr heq] at hp

end Condition

end Update

end Mend.Table

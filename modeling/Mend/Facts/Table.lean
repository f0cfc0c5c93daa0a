/-!
# Tables

A table keeps rows under numbers. A new row gets the number behind the largest one, so that a number may come
back when the last rows are deleted.

* `Row`, `Table` : rows, in the order of their numbers;
* `Table.insert`, `Table.delete`, `Table.update` : one row more, some rows less, one row changed;
* `Table.select` : the rows that meet a condition, in a given order.
-/

namespace Mend

/-- A number, and the values of the columns. -/
structure Row (α : Type) where
  id : Nat
  cells : α
deriving DecidableEq

def Row.byId {α : Type} (a b : Row α) : Bool := a.id ≤ b.id

/-- A row with its columns changed, if it has a given number. -/
def Row.change {α : Type} (id : Nat) (f : α → α) (r : Row α) : Row α :=
  ⟨r.id, if r.id = id then f r.cells else r.cells⟩

/-- Rows by their numbers, each number once. -/
@[ext] structure Table (α : Type) where
  rows : List (Row α)
  ascending : rows.Pairwise fun a b => a.id < b.id
deriving DecidableEq

namespace Table

variable {α : Type}

def empty : Table α := ⟨[], .nil⟩

/-- The table of given rows, if they are in order. -/
def ofRows? (rows : List (Row α)) : Option (Table α) :=
  if h : rows.Pairwise fun a b => a.id < b.id then some ⟨rows, h⟩ else none

def ids (t : Table α) : List Nat := t.rows.map (·.id)

/-- The number of the next row: the one behind the largest, and 1 in a table without rows. -/
def nextId (t : Table α) : Nat := t.ids.max?.getD 0 + 1

theorem lt_nextId {t : Table α} {i : Nat} (h : i ∈ t.ids) : i < t.nextId := by
  obtain ⟨k, hk⟩ := Option.isSome_iff_exists.mp (List.isSome_max?_of_mem h)
  have hle : i ≤ k := (List.max?_eq_some_iff.mp hk).2 i h
  rw [nextId, hk, Option.getD_some]
  omega

def insert (t : Table α) (cells : α) : Table α where
  rows := t.rows ++ [⟨t.nextId, cells⟩]
  ascending := by
    refine List.pairwise_append.mpr ⟨t.ascending, List.pairwise_singleton _ _, fun a ha b hb => ?_⟩
    rw [List.mem_singleton.mp hb]
    exact lt_nextId (List.mem_map_of_mem ha)

/-- The rows that do not meet a condition. -/
def delete (t : Table α) (p : α → Bool) : Table α where
  rows := t.rows.filter fun r => !p r.cells
  ascending := t.ascending.filter _

/-- Changes the columns of the row with a number. -/
def update (t : Table α) (id : Nat) (f : α → α) : Table α where
  rows := t.rows.map (Row.change id f)
  ascending := List.pairwise_map.mpr t.ascending

/-- The numbers of the rows that meet a condition. -/
def idsWhere (t : Table α) (p : α → Bool) : List Nat :=
  (t.rows.filter fun r => p r.cells).map (·.id)

/-- The rows that meet a condition, in an order. -/
def select (t : Table α) (p : α → Bool) (order : Row α → Row α → Bool) : List (Row α) :=
  (t.rows.filter fun r => p r.cells).mergeSort order

end Table

end Mend

/-!
# Tables

A table holds rows in the order of their ids. A new row takes the id after the last one that the
table has given out, so the id of a removed row is not given out again and no two rows ever share
an id.
-/

set_option autoImplicit false

namespace Clearance

/-- A row: a record under an id. -/
structure Row (α : Type) where
  id : Int
  val : α
  deriving DecidableEq, Repr

/-- Whether the ids of rows ascend. -/
def Row.Ascending {α : Type} (rows : List (Row α)) : Prop := rows.Pairwise fun a b => a.id < b.id

/-- Where ids ascend, a search for the id of a row finds that row. -/
theorem Row.find?_of_mem {α : Type} {rows : List (Row α)} (h : Row.Ascending rows) {row : Row α}
    (hrow : row ∈ rows) : (rows.find? fun other => other.id == row.id) = some row := by
  induction rows with
  | nil => cases hrow
  | cons first rest ih =>
    rcases List.mem_cons.1 hrow with rfl | hrow
    · exact List.find?_cons_of_pos (beq_self_eq_true row.id)
    · have hlt := List.rel_of_pairwise_cons h hrow
      rw [List.find?_cons_of_neg (by simp only [beq_iff_eq]; omega)]
      exact ih h.of_cons hrow

/-- Rows in the order of their ids and the last id given out, which none of theirs exceeds. -/
structure Table (α : Type) where
  rows : List (Row α)
  lastId : Int
  ascending : Row.Ascending rows
  bounded : ∀ row ∈ rows, row.id ≤ lastId
  deriving DecidableEq, Repr

namespace Table

variable {α : Type}

/-- A table without rows that has given out no id. -/
def empty : Table α := ⟨[], 0, .nil, fun _ h => nomatch h⟩

/-- How many rows there are. -/
def size (table : Table α) : Nat := table.rows.length

/-- The ids of the rows. -/
def ids (table : Table α) : List Int := table.rows.map (·.id)

/-- The record under an id. -/
def find? (table : Table α) (id : Int) : Option α :=
  (table.rows.find? fun row => row.id == id).map (·.val)

/-- Whether there is a row under an id. -/
def has (table : Table α) (id : Int) : Bool := table.rows.any fun row => row.id == id

/-- Records as rows with ids from the one after `lastId` on. -/
def numbered (lastId : Int) : List α → List (Row α)
  | [] => []
  | val :: rest => ⟨lastId + 1, val⟩ :: numbered (lastId + 1) rest

theorem lt_of_mem_numbered {lastId : Int} {vals : List α} {row : Row α}
    (h : row ∈ numbered lastId vals) : lastId < row.id := by
  induction vals generalizing lastId with
  | nil => cases h
  | cons val rest ih =>
    rcases List.mem_cons.1 h with rfl | h
    · exact Int.lt_succ lastId
    · have := ih h
      omega

theorem le_of_mem_numbered {lastId : Int} {vals : List α} {row : Row α}
    (h : row ∈ numbered lastId vals) : row.id ≤ lastId + vals.length := by
  induction vals generalizing lastId with
  | nil => cases h
  | cons val rest ih =>
    rw [List.length_cons]
    rcases List.mem_cons.1 h with rfl | h
    · dsimp only
      omega
    · have := ih h
      omega

theorem ascending_numbered (lastId : Int) (vals : List α) :
    Row.Ascending (numbered lastId vals) := by
  induction vals generalizing lastId with
  | nil => exact .nil
  | cons val rest ih => exact .cons (fun _ h => lt_of_mem_numbered h) (ih _)

/-- The table with more rows. -/
def insertAll (table : Table α) (vals : List α) : Table α where
  rows := table.rows ++ numbered table.lastId vals
  lastId := table.lastId + vals.length
  ascending := by
    apply List.pairwise_append.2 ⟨table.ascending, ascending_numbered _ _, ?_⟩
    intro a ha b hb
    exact Int.lt_of_le_of_lt (table.bounded a ha) (lt_of_mem_numbered hb)
  bounded := by
    intro row h
    rcases List.mem_append.1 h with h | h
    · have := table.bounded row h
      omega
    · exact le_of_mem_numbered h

/-- The table with one more row. -/
def insert (table : Table α) (val : α) : Table α where
  rows := table.rows ++ [⟨table.lastId + 1, val⟩]
  lastId := table.lastId + 1
  ascending := (table.insertAll [val]).ascending
  bounded := (table.insertAll [val]).bounded

/-- A row with its record changed if it is the one under an id. -/
def changeRow (id : Int) (change : α → α) (row : Row α) : Row α :=
  if row.id == id then ⟨row.id, change row.val⟩ else row

@[simp] theorem id_changeRow (id : Int) (change : α → α) (row : Row α) :
    (changeRow id change row).id = row.id := by
  unfold changeRow
  split <;> rfl

/-- The table with the record under an id changed. -/
def modify (table : Table α) (id : Int) (change : α → α) : Table α where
  rows := table.rows.map (changeRow id change)
  lastId := table.lastId
  ascending := List.pairwise_map.2 <| table.ascending.imp fun {a b} h => by
    rwa [id_changeRow, id_changeRow]
  bounded := by
    intro row h
    obtain ⟨old, hold, rfl⟩ := List.mem_map.1 h
    rw [id_changeRow]
    exact table.bounded old hold

/-- The table without the rows of which `gone` holds. -/
def eraseIf (table : Table α) (gone : Row α → Bool) : Table α where
  rows := table.rows.filter fun row => !gone row
  lastId := table.lastId
  ascending := table.ascending.filter _
  bounded := fun row h => table.bounded row (List.mem_filter.1 h).1

@[simp] theorem lastId_eraseIf (table : Table α) (gone : Row α → Bool) :
    (table.eraseIf gone).lastId = table.lastId := rfl

@[simp] theorem lastId_modify (table : Table α) (id : Int) (change : α → α) :
    (table.modify id change).lastId = table.lastId := rfl

theorem insertAll_nil (table : Table α) : table.insertAll [] = table := by
  simp [insertAll, numbered]

theorem insertAll_cons (table : Table α) (val : α) (vals : List α) :
    table.insertAll (val :: vals) = (table.insert val).insertAll vals := by
  simp [insertAll, insert, numbered]
  omega

@[simp] theorem ids_modify (table : Table α) (id : Int) (change : α → α) :
    (table.modify id change).ids = table.ids := by
  simp only [ids, modify, List.map_map]
  apply List.map_congr_left
  intro row _
  exact id_changeRow id change row

end Table

end Clearance

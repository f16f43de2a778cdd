import Clearance.Store.Soundness

/-!
# What can be read from a table after a change

Changing the record under an id leaves the other rows as they are, and all ids. Rows that are added
come behind those that are there, so what is read of the old ones stays.
-/

set_option autoImplicit false

namespace Clearance.Table

variable {α : Type}

theorem has_eq_true_iff {table : Table α} {id : Int} :
    table.has id = true ↔ ∃ row ∈ table.rows, row.id = id := by
  unfold has
  simp only [List.any_eq_true, beq_iff_eq]

/-- A record under an id belongs to a row, and to one only. -/
theorem find?_eq_some_iff {table : Table α} {id : Int} {val : α} :
    table.find? id = some val ↔ ⟨id, val⟩ ∈ table.rows := by
  unfold find?
  constructor
  · intro h
    obtain ⟨row, hrow, rfl⟩ := Option.map_eq_some_iff.1 h
    have hid := List.find?_some hrow
    rw [beq_iff_eq] at hid
    subst hid
    exact List.mem_of_find?_eq_some hrow
  · intro h
    rw [Row.find?_of_mem table.ascending h]
    rfl

theorem has_of_find? {table : Table α} {id : Int} {val : α} (h : table.find? id = some val) :
    table.has id = true :=
  has_eq_true_iff.2 ⟨_, find?_eq_some_iff.1 h, rfl⟩

theorem has_eq_isSome (table : Table α) (id : Int) : table.has id = (table.find? id).isSome := by
  unfold has find?
  rw [Option.isSome_map, List.isSome_find?]

/-- Two rows of a table with one id are one row. -/
theorem eq_of_mem_of_id_eq {table : Table α} {a b : Row α} (ha : a ∈ table.rows)
    (hb : b ∈ table.rows) (h : a.id = b.id) : a = b := by
  have hfind := Row.find?_of_mem table.ascending ha
  rw [h, Row.find?_of_mem table.ascending hb] at hfind
  exact (Option.some.inj hfind).symm

/-! ## A record changed -/

theorem find?_modify_self (table : Table α) (id : Int) (change : α → α) :
    (table.modify id change).find? id = (table.find? id).map change := by
  unfold find? modify
  dsimp only
  induction table.rows with
  | nil => rfl
  | cons row rest ih =>
    rw [List.map_cons, List.find?_cons, List.find?_cons, id_changeRow]
    by_cases hid : row.id = id
    · rw [beq_iff_eq.2 hid]
      simp [changeRow, hid]
    · rw [beq_eq_false_iff_ne.2 hid]
      exact ih

/-- The rows under other ids stay as they are. -/
theorem filter_modify (table : Table α) (id : Int) (change : α → α) :
    ((table.modify id change).rows.filter fun row => row.id != id) =
      table.rows.filter fun row => row.id != id := by
  unfold modify
  dsimp only
  induction table.rows with
  | nil => rfl
  | cons row rest ih =>
    rw [List.map_cons, List.filter_cons, List.filter_cons, id_changeRow, ih]
    by_cases hid : row.id = id
    · simp [hid]
    · have hne : (row.id != id) = true := bne_iff_ne.2 hid
      rw [if_pos hne, if_pos hne, changeRow, if_neg (by simpa using hid)]

/-- The record under an id is that of the rows under it. -/
theorem find?_congr {table other : Table α} {p : Row α → Bool}
    (h : table.rows.filter p = other.rows.filter p) {id : Int}
    (hp : ∀ row : Row α, row.id = id → p row = true) : table.find? id = other.find? id := by
  have hfilter : ∀ rows : List (Row α), ((rows.filter p).find? fun row => row.id == id) =
      rows.find? fun row => row.id == id := by
    intro rows
    rw [List.find?_filter]
    congr 1
    funext row
    by_cases hid : row.id = id
    · simp [hid, hp row hid]
    · simp [hid]
  unfold find?
  rw [← hfilter, h, hfilter]

/-- A change of the record under an id does nothing where there is none. -/
theorem mem_modify {table : Table α} {id : Int} {change : α → α} {row : Row α}
    (h : row ∈ (table.modify id change).rows) :
    row ∈ table.rows ∨ row.id = id ∧ ∃ val, ⟨id, val⟩ ∈ table.rows ∧ row.val = change val := by
  obtain ⟨old, hold, rfl⟩ := List.mem_map.1 h
  unfold changeRow
  split
  · next hid =>
    rw [beq_iff_eq] at hid
    subst hid
    exact .inr ⟨rfl, old.val, hold, rfl⟩
  · exact .inl hold

theorem mem_modify_self {table : Table α} {row : Row α} (h : row ∈ table.rows)
    (change : α → α) : ⟨row.id, change row.val⟩ ∈ (table.modify row.id change).rows := by
  have hchanged : changeRow row.id change row = ⟨row.id, change row.val⟩ :=
    if_pos (beq_self_eq_true row.id)
  rw [← hchanged]
  exact List.mem_map_of_mem h

theorem mem_modify_of_ne {table : Table α} {row : Row α} (h : row ∈ table.rows) {id : Int}
    (hid : row.id ≠ id) (change : α → α) : row ∈ (table.modify id change).rows := by
  have hsame : changeRow id change row = row := if_neg (by simpa using hid)
  rw [← hsame]
  exact List.mem_map_of_mem h

/-- The record under a changed id is a changed record. -/
theorem exists_of_mem_modify_self {table : Table α} {id : Int} {change : α → α} {val : α}
    (h : ⟨id, val⟩ ∈ (table.modify id change).rows) :
    ∃ old, ⟨id, old⟩ ∈ table.rows ∧ val = change old := by
  obtain ⟨⟨oldId, old⟩, hold, heq⟩ := List.mem_map.1 h
  have hid := id_changeRow id change ⟨oldId, old⟩
  rw [heq] at hid
  dsimp only at hid
  subst hid
  unfold changeRow at heq
  rw [if_pos (beq_self_eq_true id)] at heq
  exact ⟨old, hold, (congrArg Row.val heq).symm⟩

theorem val_of_mem_modify {table : Table α} {row : Row α} (hrow : row ∈ table.rows)
    {change : α → α} {val : α} (h : ⟨row.id, val⟩ ∈ (table.modify row.id change).rows) :
    val = change row.val := by
  obtain ⟨old, hold, rfl⟩ := exists_of_mem_modify_self h
  rw [← eq_of_mem_of_id_eq hold hrow rfl]

/-! ## Rows added -/

theorem mem_insert {table : Table α} {val : α} {row : Row α} :
    row ∈ (table.insert val).rows ↔ row ∈ table.rows ∨ row = ⟨table.lastId + 1, val⟩ := by
  unfold insert
  rw [List.mem_append, List.mem_singleton]

/-- A row added to a table takes none away. -/
theorem has_insert {table : Table α} {id : Int} (val : α)
    (h : table.has id = true) : (table.insert val).has id = true := by
  obtain ⟨row, hrow, hid⟩ := has_eq_true_iff.1 h
  exact has_eq_true_iff.2 ⟨row, mem_insert.2 (.inl hrow), hid⟩

theorem mem_eraseIf {table : Table α} {gone : Row α → Bool} {row : Row α} :
    row ∈ (table.eraseIf gone).rows ↔ row ∈ table.rows ∧ gone row = false := by
  simp [eraseIf]

/-- A row has the id of one of some rows of its table just if it is one of them. -/
theorem contains_ids_filter {table : Table α} {row : Row α} (hrow : row ∈ table.rows)
    (own : Row α → Bool) : ((table.rows.filter own).map (·.id)).contains row.id = own row := by
  rw [Bool.eq_iff_iff, List.contains_iff_mem, List.mem_map]
  constructor
  · rintro ⟨other, hother, hid⟩
    rw [List.mem_filter] at hother
    rw [← table.eq_of_mem_of_id_eq hother.1 hrow hid]
    exact hother.2
  · exact fun h => ⟨row, List.mem_filter.2 ⟨hrow, h⟩, rfl⟩

theorem map_val_numbered (lastId : Int) (vals : List α) :
    (numbered lastId vals).map (·.val) = vals := by
  induction vals generalizing lastId with
  | nil => rfl
  | cons val rest ih => rw [numbered, List.map_cons, ih]

theorem mem_val_numbered {lastId : Int} {vals : List α} {row : Row α}
    (h : row ∈ numbered lastId vals) : row.val ∈ vals := by
  rw [← map_val_numbered lastId vals]
  exact List.mem_map_of_mem h

/-! ## How many rows there are -/

theorem size_insert (table : Table α) (val : α) : (table.insert val).size = table.size + 1 :=
  List.length_append

theorem size_modify (table : Table α) (id : Int) (change : α → α) :
    (table.modify id change).size = table.size :=
  List.length_map _

/-- The rows that are left and those that are taken away are all that there were. -/
theorem size_eraseIf (table : Table α) (gone : Row α → Bool) :
    (table.eraseIf gone).size + table.rows.countP gone = table.size := by
  unfold size eraseIf
  dsimp only
  induction table.rows with
  | nil => rfl
  | cons row rest ih =>
    rw [List.length_cons, List.filter_cons, List.countP_cons]
    cases gone row with
    | true =>
      simp
      omega
    | false =>
      simp
      omega

theorem nodup_ids (table : Table α) : table.ids.Nodup := by
  unfold ids
  rw [List.Nodup, List.pairwise_map]
  exact table.ascending.imp fun hlt => Int.ne_of_lt hlt

/-- There is one row under the id of a row. -/
theorem countP_id {table : Table α} {id : Int} (h : table.has id = true) :
    (table.rows.countP fun row => row.id == id) = 1 := by
  obtain ⟨row, hrow, hid⟩ := has_eq_true_iff.1 h
  have hmem : id ∈ table.ids := by
    rw [← hid]
    exact List.mem_map_of_mem hrow
  have hone : table.ids.count id = 1 := by
    rw [List.Nodup.count table.nodup_ids, if_pos hmem]
  unfold ids at hone
  rwa [List.count, List.countP_map] at hone

end Clearance.Table

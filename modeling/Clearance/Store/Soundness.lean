import Std.Data.TreeSet.Lemmas
import Clearance.Store.Basic

/-!
# References between rows

A store is sound if every row that another row refers to exists. Soundness is asked for when a
change becomes final and not before, so a change may pass through stores that are not sound. Ids
are looked up in a search tree, as there may be many references to follow.
-/

set_option autoImplicit false

namespace Clearance

/-- The ids of a table's rows, to be looked up. -/
def Table.idSet {α : Type} (table : Table α) : Std.TreeSet Int := .ofList table.ids

/-- An id is found in a table's tree just if the table has a row under it. -/
theorem Table.contains_idSet {α : Type} (table : Table α) (id : Int) :
    table.idSet.contains id = table.has id := by
  have h : table.idSet.contains id = table.ids.contains id := Std.TreeSet.contains_ofList
  rw [h, Table.ids, Table.has]
  induction table.rows with
  | nil => rfl
  | cons row rest ih =>
    rw [List.map_cons, List.contains_cons, List.any_cons, ih, Bool.beq_comm]

namespace Store

/-- The ids of the rules that a link of a kind can refer to, to be looked up. -/
def ruleIds (store : Store) : LinkKind → Std.TreeSet Int
  | .stopWord => store.stopWords.idSet
  | .keyWord => store.keyWords.idSet
  | .codePrefix => store.prefixes.idSet

/-- Whether the links of a kind refer to parcels and rules that exist; `parcels` has the ids of the
parcels. -/
def linksAreSound (store : Store) (parcels : Std.TreeSet Int) (kind : LinkKind) : Bool :=
  let rules := store.ruleIds kind
  (store.links kind).rows.all fun row =>
    parcels.contains row.val.parcel && rules.contains row.val.rule

/-- Whether every row that another row refers to exists. -/
def isSound (store : Store) : Bool :=
  let registers := store.registers.idSet
  let parcels := store.parcels.idSet
  let keyWords := store.keyWords.idSet
  let prefixes := store.prefixes.idSet
  let orders := store.orders.idSet
  store.parcels.rows.all (fun row => registers.contains row.val.register) &&
  store.jobs.rows.all (fun row => registers.contains row.val.register) &&
  store.keyWordCodes.rows.all (fun row => keyWords.contains row.val.keyWord) &&
  store.exceptions.rows.all (fun row => prefixes.contains row.val.codePrefix) &&
  store.prefixes.rows.all (fun row => match row.val.order with
    | some order => orders.contains order
    | none => true) &&
  store.linksAreSound parcels .stopWord && store.linksAreSound parcels .keyWord &&
  store.linksAreSound parcels .codePrefix

theorem isSound_empty : empty.isSound = true := by decide

/-- A rule's id is found among those of its kind just if there is such a rule. -/
theorem contains_ruleIds (store : Store) (kind : LinkKind) (id : Int) :
    (store.ruleIds kind).contains id = store.hasRule kind id := by
  cases kind <;> exact Table.contains_idSet _ _

end Store

end Clearance

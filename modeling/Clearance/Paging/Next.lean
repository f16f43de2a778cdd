import Clearance.Fault
import Clearance.Paging.SortField
import Clearance.Parcel.Priority
import Clearance.Store.Change
import Clearance.Text.Search

/-!
# The next parcel

The parcels of a register, filtered and sorted by a field, are gone through one by one: `next?`
gives the parcel that follows the one shown now. Parcels are ordered by their keys, and by their
ids where the keys are equal. The parcel shown now marks a place in this order even if the filters
leave it out, and one that does not exist marks the place before the first.

A stored field is resolved by sorting the parcels behind the place; match priority is computed
parcel by parcel, and the best parcel so far is kept.
-/

set_option autoImplicit false

namespace Clearance.Paging

/-- Optional conditions on parcels, all of which have to hold. -/
structure Filters where
  status : Option Int
  checkStatus : Option Int
  code : Option String
  withIssues : Bool
  deriving DecidableEq, Repr

namespace Filters

/-- No condition. -/
def none : Filters := ⟨.none, .none, .none, false⟩

/-- Whether a condition on a number, if there is one, holds of it. -/
def allows (wanted : Option Int) (actual : Int) : Bool :=
  match wanted with
  | some n => n == actual
  | .none => true

/-- Whether a condition on a code, if there is one and it is not blank, holds of it: the text
wanted, without the blanks around it, stands in the code, in ASCII letters of either case. -/
def allowsCode (wanted actual : Option String) : Bool :=
  let part := Text.strip (wanted.getD "").toList
  part.isEmpty || match actual with
    | some code => Text.isFound part code.toList
    | .none => false

/-- Whether all conditions but the one on the code hold of a parcel. -/
def passNumbers (filters : Filters) (parcel : Parcel) : Bool :=
  allows filters.status parcel.status && allows filters.checkStatus parcel.checkStatus &&
    (!filters.withIssues || Parcel.CheckStatus.isHeld parcel.checkStatus)

/-- Whether all conditions hold of a parcel. -/
def pass (filters : Filters) (parcel : Parcel) : Bool :=
  filters.passNumbers parcel && allowsCode filters.code parcel.code

/-- Whether the code wanted is too long to be searched for. -/
def isOverlong (filters : Filters) : Bool :=
  decide (Text.maxPatternSize < Text.patternSize (Text.strip (filters.code.getD "").toList))

/-- Whether a condition asks for a number that the store cannot hold, so that nothing can meet
it. -/
def areHopeless (filters : Filters) : Bool :=
  let beyond := fun (wanted : Option Int) => wanted.any fun n => !Store.canHold n
  beyond filters.status || beyond filters.checkStatus

end Filters

/-- A sort key: a number, or a text compared by code points. The number of a text's key is zero
and the text of a number's key is empty. -/
structure Key where
  number : Int
  text : String
  deriving DecidableEq, Repr

/-- A parcel's place in the order: its key and its id. -/
structure Place where
  key : Key
  id : Int
  deriving DecidableEq, Repr

/-- Whether a place comes before another, by number, by text and by id. -/
def Place.before (a b : Place) : Bool :=
  decide (a.key.number < b.key.number) ||
    (a.key.number == b.key.number &&
      (decide (a.key.text < b.key.text) ||
        (a.key.text == b.key.text && decide (a.id < b.id))))

/-- Whether a place comes before another in the direction asked for. -/
def Place.precedes (descending : Bool) (a b : Place) : Bool :=
  if descending then b.before a else a.before b

/-- What a request for the next parcel asks for. -/
structure Query where
  kind : String
  register : Int
  filters : Filters
  sort : Option String
  order : Option String
  deriving DecidableEq, Repr

/-- The tier of match priority of a parcel, with the codes known to the catalogue. -/
def tierOf (store : Store) (known : String → Bool) (row : Row Parcel) : Parcel.Tier :=
  Parcel.rank row.val.code (store.impliedCodes row.id) known

/-- The key of a parcel under a field; a missing text counts as the empty one. -/
def keyOf (store : Store) (known : String → Bool) (row : Row Parcel) : SortField → Key
  | .id => ⟨row.id, ""⟩
  | .status => ⟨row.val.status, ""⟩
  | .checkStatus => ⟨row.val.checkStatus, ""⟩
  | .code => ⟨0, row.val.code.getD ""⟩
  | .tracking => ⟨0, row.val.tracking.getD ""⟩
  | .posting => ⟨0, row.val.posting.getD ""⟩
  | .priority => ⟨(tierOf store known row).number, ""⟩

/-- A parcel's place under a field. -/
def placeOf (store : Store) (known : String → Bool) (field : SortField) (row : Row Parcel) :
    Place :=
  ⟨keyOf store known row field, row.id⟩

/-- The parcels of a kind and register. -/
def parcelsOf (store : Store) (kind : String) (register : Int) : List (Row Parcel) :=
  store.parcels.rows.filter fun row => row.val.kind == kind && row.val.register == register

/-- The places behind an anchor, all of them if there is no anchor. -/
def behind (descending : Bool) (anchor : Option Place) (places : List Place) : List Place :=
  match anchor with
  | some place => places.filter (place.precedes descending)
  | none => places

/-- The first of some places, found by sorting them. -/
def firstSorted (descending : Bool) (places : List Place) : Option Place :=
  (places.mergeSort fun a b => !b.precedes descending a).head?

/-- The best place so far, once one more place has been looked at. -/
def keepBetter (descending : Bool) (best : Option Place) (place : Place) : Option Place :=
  match best with
  | some other => if place.precedes descending other then some place else some other
  | none => some place

/-- The first of some places, found by keeping the best one so far. -/
def firstKept (descending : Bool) (places : List Place) : Option Place :=
  places.foldl (keepBetter descending) none

/-- The way in which the first place is found under a field. -/
def firstUnder (field : SortField) (descending : Bool) (places : List Place) : Option Place :=
  if field.isComputed then firstKept descending places else firstSorted descending places

/-- The parcel that follows the parcel `cursor`, or the first one, of those that a query asks for.
There is none if the field is not one by which parcels of the kind can be sorted. -/
def next? (store : Store) (today : Commodity.Day) (query : Query) (cursor : Option Int) :
    Option Int :=
  match SortField.resolve? query.kind query.sort with
  | none => none
  | some field =>
    let descending := isDescending query.order
    let place := placeOf store (store.codesInForce today).contains field
    let rows := parcelsOf store query.kind query.register
    let anchor := (cursor.bind fun id => rows.find? fun row => row.id == id).map place
    let candidates := (rows.filter fun row => query.filters.pass row.val).map place
    (firstUnder field descending (behind descending anchor candidates)).map (·.id)

/-- Whether the code of some parcel has to be searched to find the parcel that follows under a
field. Codes are the last thing looked at: the other conditions come before, and where the store
holds the parcels of a register sorted by the field, so does the place behind the cursor. -/
def isSearched (store : Store) (query : Query) (field : SortField) (cursor : Option Int) : Bool :=
  let rows := parcelsOf store query.kind query.register
  let place := placeOf store (fun _ => false) field
  let anchor := if field.isIndexed then cursor.bind fun id => rows.find? fun row => row.id == id
    else none
  let places := (rows.filter fun row => query.filters.passNumbers row.val).map place
  !(behind (isDescending query.order) (anchor.map place) places).isEmpty

/-- The next parcel, or a fault if the register's number is beyond what the store can hold and
parcels of it have to be looked for, or if a code has to be searched for that is too long. -/
def next (store : Store) (today : Commodity.Day) (query : Query) (cursor : Option Int) :
    Except Fault (Option Int) :=
  match SortField.resolve? query.kind query.sort with
  | none => .ok none
  | some field =>
    if (cursor.any Store.canHold || !query.filters.areHopeless) &&
        !Store.canHold query.register then .error .outOfRange
    else if query.filters.isOverlong && isSearched store query field cursor then
      .error .searchTooLong
    else .ok (next? store today query cursor)

/-- The parcels that follow one another, at most `limit` of them, and whether the last of all was
reached. -/
def walk (store : Store) (today : Commodity.Day) (query : Query) (limit : Nat)
    (cursor : Option Int) : Except Fault (List Int × Bool) :=
  match limit with
  | 0 => .ok ([], false)
  | limit + 1 => do
    match ← next store today query cursor with
    | none => pure ([], true)
    | some id =>
      let (ids, done) ← walk store today query limit (some id)
      pure (id :: ids, done)

end Clearance.Paging

import Clearance.Parcel.Basic
import Clearance.Text.Lower

/-!
# Sort fields

The fields by which the parcels of a register can be sorted. A field is named without regard to
case or surrounding blanks; two of them belong to one kind of parcel only. Match priority is the
one field that is not stored but computed.
-/

set_option autoImplicit false

namespace Clearance.Paging

/-- A field by which parcels can be sorted. -/
inductive SortField where
  | id
  | status
  | checkStatus
  | code
  | tracking
  | posting
  | priority
  deriving DecidableEq, Repr

/-- A text in lower case, without the blank characters around it; a missing one is empty. -/
def normalized (text : Option String) : List Char :=
  Text.lower (Text.strip (text.getD "").toList)

namespace SortField

/-- Every sort field. -/
def all : List SortField := [id, status, checkStatus, code, tracking, posting, priority]

/-- What a field is called. -/
def name : SortField → String
  | id => "id"
  | status => "statusId"
  | checkStatus => "checkStatusId"
  | code => "commodityCode"
  | tracking => "trackingCode"
  | posting => "postingNumber"
  | priority => "matchPriority"

/-- The column in which a field is stored. -/
def column? : SortField → Option String
  | id => some "id"
  | status => some "status_id"
  | checkStatus => some "check_status_id"
  | code => some "commodity_code"
  | tracking => some "tracking_code"
  | posting => some "posting_number"
  | priority => none

/-- Whether a field is computed and not stored. -/
def isComputed (field : SortField) : Bool := field.column?.isNone

/-- Whether the store holds the parcels of a register sorted by a field. -/
def isIndexed : SortField → Bool
  | id | checkStatus => true
  | _ => false

/-- Whether a field is a text. -/
def isText : SortField → Bool
  | code | tracking | posting => true
  | _ => false

/-- The kinds of parcels that have a field. -/
def kinds : SortField → List String
  | tracking => [Parcel.wbr]
  | posting => [Parcel.ozon]
  | _ => [Parcel.wbr, Parcel.ozon]

/-- The field of a name, if parcels of the kind have it. -/
def resolve? (kind : String) (name : Option String) : Option SortField :=
  let wanted := normalized name
  match all.find? fun field => Text.lower field.name.toList == wanted with
  | some field => if field.kinds.contains kind then some field else none
  | none => none

end SortField

/-- Whether a sort order runs from the last to the first; any but `desc` runs forward. -/
def isDescending (order : Option String) : Bool := normalized order == "desc".toList

end Clearance.Paging

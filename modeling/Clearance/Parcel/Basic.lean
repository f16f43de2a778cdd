import Clearance.Parcel.CheckStatus
import Clearance.Text.Blank
import Clearance.Text.Literal

/-!
# Parcels

A parcel is a shipment record of a register. Its kind says which of the two tracking texts belongs
to it, and whether its description is screened along with its product name.
-/

set_option autoImplicit false

namespace Clearance

/-- The kind of a parcel whose description is screened and that has a tracking code. -/
def Parcel.wbr : String := "wbr"

/-- The kind of a parcel that has a posting number. -/
def Parcel.ozon : String := "ozon"

/-- A shipment record. -/
structure Parcel where
  register : Int
  kind : String
  /-- Set by manual review. -/
  status : Int
  /-- Set by screening. -/
  checkStatus : Int
  code : Option String
  product : Option String
  description : Option String
  tracking : Option String
  posting : Option String
  deriving DecidableEq, Repr

namespace Parcel

/-- Whether the partner has marked the parcel, which keeps screening away from it. -/
def isMarked (parcel : Parcel) : Bool :=
  parcel.checkStatus == CheckStatus.markedByPartner.number

/-- Whether screening a register again screens the parcel. -/
def isOpen (parcel : Parcel) : Bool := CheckStatus.isOpen parcel.checkStatus

/-- The texts of a kind, a product name and a description that are compared with the word rules. -/
def textsOf (kind : String) (product description : Option String) : List String :=
  let described := match description with
    | some text => kind == wbr && !(Text.strip text.toList).isEmpty
    | none => false
  if described then [product.getD "", description.getD ""] else [product.getD ""]

/-- The texts of the parcel that are compared with the word rules. -/
def texts (parcel : Parcel) : List String :=
  textsOf parcel.kind parcel.product parcel.description

/-- A parcel in words; one without an id or a code says so. -/
def describe (id : Option Int) (kind : String) (code : Option String) : String :=
  let shownId := match id with
    | some n => toString n
    | none => Text.Literal.shown .null
  let shownCode := match code with
    | none | some "" => "-"
    | some text => text
  s!"Parcel {shownId} ({kind}) {shownCode}"

end Parcel

end Clearance

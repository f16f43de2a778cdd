import Clearance.Commodity.Day

/-!
# The catalogue of commodity codes

A catalogue row is a code with the days on which it is in force: from its first day on, and up to
but not including its last one; a missing day leaves that side open.
-/

set_option autoImplicit false

namespace Clearance.Commodity

/-- A row of the catalogue. -/
structure CatalogueCode where
  code : String
  validFrom : Option Day
  validTo : Option Day
  deriving DecidableEq, Repr

namespace CatalogueCode

/-- Whether the row is in force on a day. -/
def isInForce (row : CatalogueCode) (day : Day) : Bool :=
  (match row.validFrom with
    | some first => decide (first ≤ day)
    | none => true) &&
  (match row.validTo with
    | some last => decide (day < last)
    | none => true)

/-- The most characters of a row's name that its description shows. -/
def shownNameLength : Nat := 50

/-- A catalogue row in words. -/
def describe (code name : String) : String :=
  s!"{code} {String.ofList (name.toList.take shownNameLength)}"

end CatalogueCode

end Clearance.Commodity

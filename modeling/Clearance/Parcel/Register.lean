import Clearance.Parcel.Basic

/-!
# Registers

A register is an imported list of shipments; its parcels are of one kind.
-/

set_option autoImplicit false

namespace Clearance

/-- An imported list of shipments. -/
structure Register where
  name : String
  kind : String
  deriving DecidableEq, Repr

/-- A register in words. -/
def Register.describe (name kind : String) : String := s!"{name} ({kind})"

end Clearance

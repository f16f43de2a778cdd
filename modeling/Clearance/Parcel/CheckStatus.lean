/-!
# Check status

The outcome of screening a parcel, stored as a number. A parcel is held for review if the number
lies from 101 on and below 201. The statuses that block a parcel are 128 plus one for a code
prefix, two for a stop word and eight for an invalid code.
-/

set_option autoImplicit false

namespace Clearance.Parcel

/-- The outcomes of screening and of the review after it. -/
inductive CheckStatus where
  | notChecked
  | hasIssues
  | blockedByPrefix
  | blockedByStopWord
  | blockedByBoth
  | invalidCode
  | invalidCodeAndStopWord
  | markedByPartner
  | noIssues
  | approved
  | approvedWithExcise
  deriving DecidableEq, Repr

namespace CheckStatus

/-- The number of a status. -/
def number : CheckStatus → Int
  | notChecked => 1
  | hasIssues => 101
  | blockedByPrefix => 129
  | blockedByStopWord => 130
  | blockedByBoth => 131
  | invalidCode => 136
  | invalidCodeAndStopWord => 138
  | markedByPartner => 200
  | noIssues => 201
  | approved => 301
  | approvedWithExcise => 399

/-- Whether a number holds a parcel for review. -/
def isHeld (n : Int) : Bool := decide (hasIssues.number ≤ n ∧ n < noIssues.number)

/-- Whether a number leaves a parcel open to screening a register again. -/
def isOpen (n : Int) : Bool := decide (n < approved.number) && n != markedByPartner.number

/-- The status of a parcel, from whether its code is invalid, whether a stop word and whether a
code prefix is linked to it. -/
def ofFindings (invalid stopWords prefixes : Bool) : CheckStatus :=
  if invalid then if stopWords then invalidCodeAndStopWord else invalidCode
  else if prefixes && stopWords then blockedByBoth
  else if prefixes then blockedByPrefix
  else if stopWords then blockedByStopWord
  else noIssues

end CheckStatus

end Clearance.Parcel

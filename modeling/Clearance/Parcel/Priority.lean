import Clearance.Text.Blank
import Clearance.Text.Literal

/-!
# Match priority

How well a parcel's own commodity code agrees with the codes to which its keywords point. Lower is
better. `rank` gives one of eight tiers, `Tier.display` the six that are displayed.

    tier  keywords  distinct codes  own code among them  own code in catalogue
    1     yes       1               yes                  -
    2     yes       more            yes                  -
    3     yes       1               no                   yes
    4     yes       more            no                   yes
    5     yes       1               no                   no
    6     yes       more            no                   no
    7     no        -               -                    yes
    8     otherwise
-/

set_option autoImplicit false

namespace Clearance.Parcel

/-- The tiers of match priority, the best one first. -/
inductive Tier where
  | singleMatch
  | multipleMatch
  | singleKnown
  | multipleKnown
  | singleUnknown
  | multipleUnknown
  | onlyKnown
  | noMatch
  deriving DecidableEq, Repr

namespace Tier

/-- The number of a tier. -/
def number : Tier → Nat
  | singleMatch => 1
  | multipleMatch => 2
  | singleKnown => 3
  | multipleKnown => 4
  | singleUnknown => 5
  | multipleUnknown => 6
  | onlyKnown => 7
  | noMatch => 8

/-- The tier as it is displayed: whether the own code is in the catalogue makes no difference for
a parcel with keywords. -/
def display : Tier → Nat
  | singleMatch => 1
  | multipleMatch => 2
  | singleKnown => 3
  | singleUnknown => 3
  | multipleKnown => 4
  | multipleUnknown => 4
  | onlyKnown => 5
  | noMatch => 6

/-- The tiers in the order of their numbers. -/
def all : List Tier :=
  [singleMatch, multipleMatch, singleKnown, multipleKnown, singleUnknown, multipleUnknown,
    onlyKnown, noMatch]

/-- The tier of a number. -/
def ofNumber? (n : Int) : Option Tier := all.find? fun tier => (tier.number : Int) == n

/-- The tier that a value names; truth and falsehood count as one and zero. -/
def ofLiteral? : Text.Literal → Option Tier
  | .number n => ofNumber? n
  | .bool b => ofNumber? (if b then 1 else 0)
  | _ => none

theorem ofNumber?_number (tier : Tier) : ofNumber? tier.number = some tier := by
  cases tier <;> decide

end Tier

/-- The tier of a parcel with code `code`, from the codes of each of its keywords and the codes
known to the catalogue. A blank code agrees with none. -/
def rank (code : Option String) (linked : List (List String)) (known : String → Bool) : Tier :=
  let own := String.ofList (Text.strip (code.getD "").toList)
  let isKnown := own != "" && known own
  if linked.isEmpty then if isKnown then .onlyKnown else .noMatch
  else
    let distinct := linked.flatten.eraseDups
    if distinct.isEmpty then .noMatch
    else
      let single := distinct.length == 1
      if own != "" && distinct.contains own then if single then .singleMatch else .multipleMatch
      else if isKnown then if single then .singleKnown else .multipleKnown
      else if single then .singleUnknown else .multipleUnknown

end Clearance.Parcel

import Clearance.Commodity.Code
import Clearance.Text.Literal
import Clearance.Text.Numeral
import Clearance.Text.Search

/-!
# Prefix rules

A code prefix is configured as a code and perhaps an interval code. Padded with zeros to ten digits
they are the bounds of a numeric range; if one of the bounds is zero there is no range, and the code
is a literal prefix. A code that has more digits than a numeral may have is no bound, and there is
no rule then. The exceptions of a rule are prefixes for which it does not match.
-/

set_option autoImplicit false

namespace Clearance.Commodity

open Clearance.Text

/-- The value of a code filled with zeros at its end; zero for a missing or empty code and for one
that is not made of ASCII digits. A code of too many digits has none. -/
def paddedValue (code : Option String) : Except NumeralFault Nat :=
  let letters := (code.getD "").toList
  let padded := letters.rightpad codeLength '0'
  if letters.isEmpty || !padded.all Char.isDigit then .ok 0
  else if maxDigits < padded.length then .error (.tooLong padded.length)
  else .ok (codeValue padded)

/-- The lower and the upper bound of a code prefix. -/
structure Bounds where
  low : Nat
  high : Nat
  deriving DecidableEq, Repr

/-- Whether the bounds make a range. -/
def Bounds.isRange (bounds : Bounds) : Bool := bounds.low != 0 && bounds.high != 0

/-- A configured code prefix. -/
structure CodePrefix where
  code : Option String
  intervalCode : Option String
  deriving DecidableEq, Repr

namespace CodePrefix

/-- The bounds, of which the lower one is read first. -/
def bounds (rule : CodePrefix) : Except NumeralFault Bounds := do
  let low ← paddedValue rule.code
  let high ← paddedValue rule.intervalCode
  pure ⟨low, high⟩

/-- The code prefix in words. -/
def describe (rule : CodePrefix) : String :=
  let code := rule.code.getD (Literal.shown .null)
  match rule.intervalCode with
  | none | some "" => code
  | some interval => s!"{code}-{interval}"

/-- An exception of a code prefix in words. -/
def describeException (rule code : String) : String := s!"{rule} except {code}"

end CodePrefix

/-- A code prefix with its bounds and exceptions, as classification uses it. -/
structure PrefixRule where
  id : Int
  code : String
  low : Int
  high : Int
  exceptions : List String
  deriving DecidableEq, Repr

namespace PrefixRule

/-- Whether the rule is a range. -/
def hasRange (rule : PrefixRule) : Bool := rule.low != 0 && rule.high != 0

/-- Whether an exception of the rule stands at the front of a code. Empty exceptions do not
count. -/
def isExcepted (rule : PrefixRule) (code : List Char) : Bool :=
  rule.exceptions.any fun exception =>
    !exception.toList.isEmpty && startsWith exception.toList code

/-- Whether the rule covers a code, its exceptions left aside. -/
def covers (rule : PrefixRule) (code : List Char) : Bool :=
  if rule.hasRange then
    decide (rule.low ≤ (codeValue code : Int) ∧ (codeValue code : Int) ≤ rule.high)
  else startsWith rule.code.toList code

/-- Whether the rule matches a code of ten digits. -/
def matchesCode (rule : PrefixRule) (code : List Char) : Bool :=
  rule.covers code && !rule.isExcepted code

/-- The rule of a configured code prefix. -/
def ofCodePrefix (id : Int) (rule : CodePrefix) (exceptions : List String) :
    Except NumeralFault PrefixRule := do
  let bounds ← rule.bounds
  pure
    { id := id
      code := rule.code.getD ""
      low := bounds.low
      high := bounds.high
      exceptions := exceptions.filter fun exception => !exception.toList.isEmpty }

end PrefixRule

end Clearance.Commodity

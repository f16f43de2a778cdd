import Clearance.Text.Decimal
import Clearance.Text.Numeral

/-!
# Commodity codes

A commodity code is ten ASCII digits. Two tests of this notion are in use: `isCode` guards the
classification of a parcel's code, `isStorable` guards the codes of keywords and of the catalogue.
The second takes the digits of every decimal system and a line end behind them.
-/

set_option autoImplicit false

namespace Clearance.Commodity

/-- The digits of a commodity code. -/
def codeLength : Nat := 10

/-- Whether a text is a commodity code. -/
def isCode (text : List Char) : Bool := text.length == codeLength && text.all Char.isDigit

/-- Whether a text is present and a commodity code. -/
def hasCodeFormat (code : Option String) : Bool :=
  match code with
  | some text => isCode text.toList
  | none => false

/-- Whether a text may be stored as the code of a keyword or of the catalogue. -/
def isStorable (text : List Char) : Bool :=
  let digits := text.take codeLength
  let rest := text.drop codeLength
  digits.length == codeLength && digits.all Text.isDecimal && (rest.isEmpty || rest == ['\n'])

/-- Why a text may not be stored as a code. -/
def storableMessage : String := "Commodity code must consist of exactly 10 digits"

/-- The number that a text of ASCII digits writes. -/
def codeValue (digits : List Char) : Nat :=
  Text.ofDigits 10 (digits.map fun c => c.toNat - '0'.toNat)

end Clearance.Commodity

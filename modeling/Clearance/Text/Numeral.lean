import Clearance.Text.Blank
import Clearance.Text.Decimal
import Clearance.Text.Quoted

/-!
# Numerals

Reading an integer from a text. Blank characters around the numeral, a sign, digits of any decimal
system and single underscores between digits are allowed; in base sixteen also the letters A to F
and a leading `0x`. The information separators U+001C to U+001F surround a numeral only if the
text also has a character beyond ASCII. A decimal numeral has at most 4300 digits.
-/

set_option autoImplicit false

namespace Clearance.Text

/-- Why a text is no numeral. -/
inductive NumeralFault where
  | malformed (text : String)
  | tooLong (digits : Nat)
  deriving DecidableEq, Repr

/-- The most digits that a decimal numeral may have. -/
def maxDigits : Nat := 4300

/-- The most characters of a malformed numeral that its message shows. -/
def shownWidth : Nat := 200

/-- The wording of a failed reading in base ten. -/
def NumeralFault.message : NumeralFault → String
  | malformed text =>
    "invalid literal for int() with base 10: " ++
      String.ofList ((quoted text).toList.take shownWidth)
  | tooLong digits =>
    s!"Exceeds the limit ({maxDigits} digits) for integer string conversion: " ++
      s!"value has {digits} digits; use sys.set_int_max_str_digits() to increase the limit"

/-- A character of a numeral in plain ASCII: a blank one as a space, a digit of any decimal system
as the ASCII digit; none if it can be no part of a numeral. -/
def plainNumeralChar? (c : Char) : Option Char :=
  if c.toNat < 0x7F then some c
  else if isBlank c then some ' '
  else (decimalValue? c).map Nat.digitChar

/-- Characters in plain ASCII up to the first that can be no part of a numeral, which a question
mark stands for. -/
def plainNumeralChars : List Char → List Char
  | [] => []
  | c :: rest => match plainNumeralChar? c with
    | some plain => plain :: plainNumeralChars rest
    | none => ['?']

/-- A numeral in plain ASCII. A text that is ASCII already is left as it is. -/
def plainNumeral (text : List Char) : List Char :=
  if text.all fun c => c.toNat < 0x80 then text else plainNumeralChars text

/-- The ASCII characters that may surround a numeral. -/
def isNumeralSpace (c : Char) : Bool := c == ' ' || (0x09 ≤ c.toNat && c.toNat ≤ 0x0D)

/-- A text without the characters that may surround a numeral. -/
def trimNumeral (text : List Char) : List Char :=
  ((text.dropWhile isNumeralSpace).reverse.dropWhile isNumeralSpace).reverse

/-- The value of an ASCII digit or letter as a digit. -/
def digitValue? (c : Char) : Option Nat :=
  if '0' ≤ c && c ≤ '9' then some (c.toNat - '0'.toNat)
  else if 'a' ≤ c && c ≤ 'z' then some (c.toNat - 'a'.toNat + 10)
  else if 'A' ≤ c && c ≤ 'Z' then some (c.toNat - 'A'.toNat + 10)
  else none

/-- The digits at the front of a text, single underscores between them left out, and whether the
last character read was an underscore. Reading ends at the first other character. -/
def leadingDigits (base : Nat) (underscored : Bool) : List Char → List Nat × Bool × List Char
  | [] => ([], underscored, [])
  | c :: rest =>
    if c == '_' then
      if underscored then ([], true, c :: rest) else leadingDigits base true rest
    else match digitValue? c with
      | some v =>
        if v < base then
          let (digits, last, left) := leadingDigits base false rest
          (v :: digits, last, left)
        else ([], underscored, c :: rest)
      | none => ([], underscored, c :: rest)

/-- The number that digits of a base write. -/
def ofDigits (base : Nat) (digits : List Nat) : Nat := digits.foldl (· * base + ·) 0

/-- What reading the digits of a numeral comes to. -/
inductive DigitReading where
  | value (n : Nat)
  | tooLong (digits : Nat)
  | malformed
  deriving DecidableEq

/-- The number that a text of digits and single underscores between them writes. In base sixteen
an underscore may also stand behind the leading `0x`. -/
def readDigits (base : Nat) (text : List Char) : DigitReading :=
  let body := match text with
    | '0' :: x :: rest =>
      if base == 16 && (x == 'x' || x == 'X') then
        match rest with
        | '_' :: rest => rest
        | rest => rest
      else text
    | text => text
  if body.head? == some '_' then .malformed
  else
    let (digits, underscored, left) := leadingDigits base false body
    if underscored || digits.isEmpty then .malformed
    else if base == 10 && maxDigits < digits.length then .tooLong digits.length
    else if left.isEmpty then .value (ofDigits base digits)
    else .malformed

/-- The integer that a text writes in a base. -/
def readInt (base : Nat) (text : String) : Except NumeralFault Int :=
  let (negative, body) := match trimNumeral (plainNumeral text.toList) with
    | '+' :: rest => (false, rest)
    | '-' :: rest => (true, rest)
    | rest => (false, rest)
  match readDigits base body with
  | .value n => .ok (if negative then -(n : Int) else n)
  | .tooLong digits => .error (.tooLong digits)
  | .malformed => .error (.malformed text)

end Clearance.Text

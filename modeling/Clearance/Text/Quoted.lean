import Clearance.Text.Printable

/-!
# Quoted texts

A text is quoted in single quotes, or in double ones if it holds a single quote and no double one.
The quote in use and the backslash are escaped by a backslash, and so are the line end, the
carriage return and the tab; any other character that is not printable is written as its code in
two, four or eight hexadecimal digits.
-/

set_option autoImplicit false

namespace Clearance.Text

/-- A number in lower-case hexadecimal digits, at least as many as `width`. -/
def hexDigits (width n : Nat) : List Char := (Nat.toDigits 16 n).leftpad width '0'

/-- A character inside a quoted text whose quote is `quote`. -/
def quoteChar (quote c : Char) : List Char :=
  if c == quote || c == '\\' then ['\\', c]
  else if c == '\n' then ['\\', 'n']
  else if c == '\r' then ['\\', 'r']
  else if c == '\t' then ['\\', 't']
  else if isPrintable c then [c]
  else if c.toNat < 0x100 then '\\' :: 'x' :: hexDigits 2 c.toNat
  else if c.toNat < 0x10000 then '\\' :: 'u' :: hexDigits 4 c.toNat
  else '\\' :: 'U' :: hexDigits 8 c.toNat

/-- A text in quotes. -/
def quoted (text : String) : String :=
  let cs := text.toList
  let quote := if cs.contains '\'' && !cs.contains '"' then '"' else '\''
  String.ofList (quote :: cs.flatMap (quoteChar quote) ++ [quote])

end Clearance.Text

import Clearance.Text.Numeral

/-!
# Job handles

A handle is a number of 128 bits. It is written in 32 hexadecimal digits with hyphens after the
eighth, twelfth, sixteenth and twentieth. Reading one is more tolerant: every `urn:` and then every
`uuid:` is taken out, braces are cut off at both ends, every hyphen is taken out, and what is left
must be a numeral of 32 characters in base sixteen.
-/

set_option autoImplicit false

namespace Clearance

/-- The number by which a job is known. -/
structure Handle where
  value : Nat
  deriving DecidableEq, Repr

namespace Handle

/-- How many hexadecimal digits a handle has. -/
def width : Nat := 32

/-- The least number that is too large for a handle. -/
def bound : Nat := 0x100000000000000000000000000000000

/-- The hexadecimal digits of a handle. -/
def digits (handle : Handle) : List Char := (Nat.toDigits 16 handle.value).leftpad width '0'

/-- A handle as it is written. -/
def text (handle : Handle) : String :=
  let ds := handle.digits
  let part := fun start count => String.ofList ((ds.drop start).take count)
  s!"{part 0 8}-{part 8 4}-{part 12 4}-{part 16 4}-{part 20 12}"

/-- A text without a part of it, wherever it stands. The search goes on behind what is taken out;
`skip` counts the characters still to be passed over. -/
def withoutFrom (part : List Char) : Nat → List Char → List Char
  | _, [] => []
  | skip + 1, _ :: rest => withoutFrom part skip rest
  | 0, c :: rest =>
    if part.isPrefixOf (c :: rest) then withoutFrom part (part.length - 1) rest
    else c :: withoutFrom part 0 rest

/-- A text without a part of it, wherever it stands. -/
def without (part text : List Char) : List Char := withoutFrom part 0 text

/-- A brace of either direction. -/
def isBrace (c : Char) : Bool := c == '\x7b' || c == '\x7d'

/-- A text without the braces at its two ends. -/
def withoutBraces (text : List Char) : List Char :=
  ((text.dropWhile isBrace).reverse.dropWhile isBrace).reverse

/-- What is left of a written handle for its digits. -/
def bare (text : List Char) : List Char :=
  (withoutBraces (without "uuid:".toList (without "urn:".toList text))).filter (· != '-')

/-- The handle that a text writes. -/
def ofText? (text : String) : Option Handle :=
  let body := bare text.toList
  if body.length == width then
    match Text.readInt 16 (String.ofList body) with
    | .ok value => if 0 ≤ value && value < bound then some ⟨value.toNat⟩ else none
    | .error _ => none
  else none

/-- The handle of the job that was made as the `count`-th. The last twelve digits are the decimal
digits of the count. -/
def ofCount (count : Nat) : Handle :=
  ⟨0x40008000000000000000 + Text.ofDigits 16 ((Nat.toDigits 10 count).map fun c =>
    c.toNat - '0'.toNat)⟩

end Handle

end Clearance

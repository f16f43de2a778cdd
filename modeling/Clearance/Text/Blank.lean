/-!
# Blank characters

The blank characters are the white space of Unicode 14 and the four information separators
U+001C to U+001F; the zero-width space and the byte order mark are not among them. `strip` cuts
them off at both ends of a text and keeps those inside.
-/

set_option autoImplicit false

namespace Clearance.Text

/-- Whether a character is blank. -/
def isBlank (c : Char) : Bool :=
  let n := c.toNat
  (0x09 ≤ n && n ≤ 0x0D) || (0x1C ≤ n && n ≤ 0x20) || n == 0x85 || n == 0xA0 || n == 0x1680 ||
    (0x2000 ≤ n && n ≤ 0x200A) || n == 0x2028 || n == 0x2029 || n == 0x202F || n == 0x205F ||
    n == 0x3000

/-- A text without the blank characters at its end. -/
def stripEnd (text : List Char) : List Char := (text.reverse.dropWhile isBlank).reverse

/-- A text without the blank characters at its two ends. -/
def strip (text : List Char) : List Char := stripEnd (text.dropWhile isBlank)

/-- Every character that the core library takes for white space is blank. -/
theorem isBlank_of_isWhitespace {c : Char} (h : c.isWhitespace = true) : isBlank c = true := by
  simp only [Char.isWhitespace, Bool.or_eq_true, decide_eq_true_eq] at h
  rcases h with ((rfl | rfl) | rfl) | rfl <;> decide

@[simp] theorem strip_nil : strip [] = [] := rfl

end Clearance.Text

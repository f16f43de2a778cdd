import Clearance.Text.Quoted

/-!
# Literal values

The values that a request may hand over where a text or a number is expected. `Literal.shown` is
the form in which a refused value is shown in a message, `Literal.plain` the form in which it is
taken as a text: they differ in that a text is quoted in the first and not in the second.
-/

set_option autoImplicit false

namespace Clearance.Text

/-- A value as it arrives in a request. -/
inductive Literal where
  | null
  | bool (value : Bool)
  | number (value : Int)
  | text (value : String)
  | list (items : List Literal)
  | fields (items : List (String × Literal))

instance : Inhabited Literal := ⟨.null⟩

namespace Literal

mutual

/-- The form in which the value is shown in a message. -/
def shown : Literal → String
  | null => "None"
  | bool value => if value then "True" else "False"
  | number value => toString value
  | text value => quoted value
  | list items => "[" ++ ", ".intercalate (shownItems items) ++ "]"
  | fields items => "\x7b" ++ ", ".intercalate (shownFields items) ++ "\x7d"

/-- The items of a list, each in the form shown. -/
def shownItems : List Literal → List String
  | [] => []
  | item :: rest => shown item :: shownItems rest

/-- The fields of a record, each with its name in the form shown. -/
def shownFields : List (String × Literal) → List String
  | [] => []
  | (name, item) :: rest => (quoted name ++ ": " ++ shown item) :: shownFields rest

end

/-- The value taken as a text. -/
def plain : Literal → String
  | text value => value
  | other => other.shown

end Literal

end Clearance.Text

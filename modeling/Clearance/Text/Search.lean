/-!
# Searching a text

Whether one text stands in another, with an elementary account of every occurrence: a text holds
another exactly if it can be cut into something before it, the text itself and something after it.
-/

set_option autoImplicit false

namespace Clearance.Text

/-- Whether `part` stands at the front of the text. -/
def startsWith (part text : List Char) : Bool := part.isPrefixOf text

/-- Whether `part` stands somewhere in the text. -/
def holds (part : List Char) : List Char → Bool
  | [] => part.isEmpty
  | c :: rest => startsWith part (c :: rest) || holds part rest

/-- An ASCII letter in lower case; any other character as it is. -/
def asciiLower (c : Char) : Char := c.toLower

/-- A text up to its first NUL character. -/
def upToNul (text : List Char) : List Char := text.takeWhile (· != '\x00')

/-- A character as a search compares it: an ASCII letter in lower case, and each of the two last
characters of the basic plane as the replacement character. -/
def searchKey (c : Char) : Char :=
  if c == '\uFFFE' || c == '\uFFFF' then '\uFFFD' else asciiLower c

/-- Whether a search for `part` finds it in the text: it stands somewhere there, character by
character under `searchKey`. A search sees both only up to their first NUL character, and a part
that goes on behind one has to stand at the end of what is seen. -/
def isFound (part text : List Char) : Bool :=
  let wanted := (upToNul part).map searchKey
  let seen := (upToNul text).map searchKey
  if part.contains '\x00' then wanted.isSuffixOf seen else holds wanted seen

/-- The size of a search for `part` in bytes, with a wildcard at each end and one more byte for each
character that would be a wildcard or an escape. -/
def patternSize (part : List Char) : Nat :=
  part.foldl (fun size c => size + c.utf8Size + if ['%', '_', '\\'].contains c then 1 else 0) 2

/-- The largest size of a search. -/
def maxPatternSize : Nat := 50000

theorem startsWith_iff (part text : List Char) :
    startsWith part text = true ↔ ∃ rest, text = part ++ rest := by
  simp only [startsWith, List.isPrefixOf_iff_prefix]
  exact ⟨fun ⟨rest, h⟩ => ⟨rest, h.symm⟩, fun ⟨rest, h⟩ => ⟨rest, h.symm⟩⟩

/-- A text holds another exactly if it can be cut around it. -/
theorem holds_iff (part text : List Char) :
    holds part text = true ↔ ∃ before after, text = before ++ part ++ after := by
  induction text with
  | nil =>
    constructor
    · intro h
      have hpart : part = [] := by simpa [holds] using h
      exact ⟨[], [], by simp [hpart]⟩
    · rintro ⟨before, after, h⟩
      have hpart : part = [] := by
        have := congrArg List.length h
        simp at this
        exact List.eq_nil_of_length_eq_zero (by omega)
      simp [holds, hpart]
  | cons c rest ih =>
    simp only [holds, Bool.or_eq_true, startsWith_iff, ih]
    constructor
    · rintro (⟨after, h⟩ | ⟨before, after, h⟩)
      · exact ⟨[], after, by simpa using h⟩
      · exact ⟨c :: before, after, by simp [h]⟩
    · rintro ⟨before, after, h⟩
      cases before with
      | nil => exact Or.inl ⟨after, by simpa using h⟩
      | cons d before =>
        simp only [List.cons_append, List.cons.injEq] at h
        exact Or.inr ⟨before, after, h.2⟩

end Clearance.Text

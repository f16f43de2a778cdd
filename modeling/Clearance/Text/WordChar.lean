import Clearance.Text.Alphanumeric

/-!
# Words and their boundaries

A word is made of alphanumeric characters, underscores and hyphens; every other character is a
boundary. The tokens of a text are its longest runs of word characters, in order.
-/

set_option autoImplicit false

namespace Clearance.Text

/-- Whether a character can be part of a word. -/
def isWordChar (c : Char) : Bool := isAlphanumeric c || c == '_' || c == '-'

/-- Whether a character separates words. -/
def isBoundary (c : Char) : Bool := !isWordChar c

/-- The tokens of a text, the first of which begins with the word characters of `begun`. -/
def tokensFrom (begun : List Char) : List Char → List (List Char)
  | [] => if begun.isEmpty then [] else [begun]
  | c :: rest =>
    if isWordChar c then tokensFrom (begun ++ [c]) rest
    else if begun.isEmpty then tokensFrom [] rest
    else begun :: tokensFrom [] rest

/-- The longest runs of word characters of a text, in order. -/
def tokens (text : List Char) : List (List Char) := tokensFrom [] text

theorem not_isBoundary_iff (c : Char) : isBoundary c = false ↔ isWordChar c = true := by
  simp [isBoundary]

/-- The tokens hold word characters only. -/
theorem isWordChar_of_mem_tokensFrom {begun text token : List Char} {c : Char}
    (hbegun : ∀ c ∈ begun, isWordChar c = true)
    (htoken : token ∈ tokensFrom begun text) (hc : c ∈ token) : isWordChar c = true := by
  induction text generalizing begun with
  | nil =>
    simp only [tokensFrom] at htoken
    split at htoken
    · simp at htoken
    · simp only [List.mem_singleton] at htoken
      exact hbegun c (htoken ▸ hc)
  | cons d rest ih =>
    simp only [tokensFrom] at htoken
    split at htoken
    · next hd =>
      refine ih ?_ htoken
      intro e he
      rcases List.mem_append.1 he with he | he
      · exact hbegun e he
      · simp only [List.mem_singleton] at he
        exact he ▸ hd
    · split at htoken
      · exact ih (by simp) htoken
      · rcases List.mem_cons.1 htoken with h | h
        · exact hbegun c (h ▸ hc)
        · exact ih (by simp) h

/-- No token is empty. -/
theorem ne_nil_of_mem_tokensFrom {begun text token : List Char}
    (htoken : token ∈ tokensFrom begun text) : token ≠ [] := by
  induction text generalizing begun with
  | nil =>
    simp only [tokensFrom] at htoken
    split at htoken
    · simp at htoken
    · next h =>
      simp only [List.mem_singleton] at htoken
      intro hnil
      exact h (by simp [← htoken, hnil])
  | cons d rest ih =>
    simp only [tokensFrom] at htoken
    split at htoken
    · exact ih htoken
    · split at htoken
      · exact ih htoken
      · next h =>
        rcases List.mem_cons.1 htoken with h' | h'
        · intro hnil
          exact h (by simp [← h', hnil])
        · exact ih h'

end Clearance.Text

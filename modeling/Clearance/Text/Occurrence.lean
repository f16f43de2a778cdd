import Clearance.Text.Lowercase
import Clearance.Text.WordChar

/-!
# Bounded occurrences

An occurrence of a word in a text is bounded if no word character stands directly before or after
it. Letters are compared up to case, while what bounds an occurrence is decided by the character
itself. A phrase occurs where its tokens stand one after another, each separated from the next by
one or more boundary characters, and the whole is bounded.
-/

set_option autoImplicit false

namespace Clearance.Text

/-- What follows a word at the front of a text, letters compared up to case. -/
def afterWord? : List Char → List Char → Option (List Char)
  | [], text => some text
  | _ :: _, [] => none
  | p :: word, c :: rest => if sameLetter p c then afterWord? word rest else none

/-- Whether no word character stands at the front of the text. -/
def boundedAhead : List Char → Bool
  | [] => true
  | c :: _ => isBoundary c

/-- Whether a property holds of the text from some place on that is not directly behind a word
character; `bounded` says this of the front of the text. -/
def somewhereBounded (here : List Char → Bool) (bounded : Bool) : List Char → Bool
  | [] => bounded && here []
  | c :: rest => (bounded && here (c :: rest)) || somewhereBounded here (isBoundary c) rest

/-- Whether a property holds of what follows one or more boundary characters at the front. -/
def overGap (next : List Char → Bool) : List Char → Bool
  | [] => false
  | c :: rest => isBoundary c && (next rest || overGap next rest)

/-- Whether a word stands at the front of the text and is bounded behind. -/
def wordHere (word text : List Char) : Bool :=
  match afterWord? word text with
  | some rest => boundedAhead rest
  | none => false

/-- Whether the tokens stand at the front of the text, with gaps between them, and the last one is
bounded behind. -/
def tokensHere : List (List Char) → List Char → Bool
  | [], text => boundedAhead text
  | [token], text => wordHere token text
  | token :: next :: more, text =>
    match afterWord? token text with
    | some rest => overGap (tokensHere (next :: more)) rest
    | none => false

/-- Whether a word has a bounded occurrence in the text. -/
def hasWord (word text : List Char) : Bool := somewhereBounded (wordHere word) true text

/-- Whether a sequence of tokens has a bounded occurrence in the text. -/
def hasTokens (sequence : List (List Char)) (text : List Char) : Bool :=
  somewhereBounded (tokensHere sequence) true text

end Clearance.Text

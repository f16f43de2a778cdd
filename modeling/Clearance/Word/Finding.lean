import Clearance.Word.Matcher

/-!
# Rules found in several texts

The rules that match any of a list of texts, by their patterns or by what a morphology engine
reports, each id once. An id that two rules share stays with the rule that is found first; a
reported id stands for the last rule that has it, and is passed over if there is none.
-/

set_option autoImplicit false

namespace Clearance.Word

/-- The rules found so far and one more, unless its id is among theirs. -/
def keep (found : List Rule) (rule : Rule) : List Rule :=
  if found.any fun other => other.id == rule.id then found else found ++ [rule]

/-- The rules that match one text, those that the engine reports last. -/
def rulesIn (matcher : Matcher) (report : List Char → List Int) (text : List Char) : List Rule :=
  matcher.matching text ++ (report text).filterMap matcher.resolve?

/-- The rules that match any of the texts, in the order of their discovery. Empty texts are passed
over and not shown to the engine. -/
def findRules (matcher : Matcher) (report : List Char → List Int) (texts : List (List Char)) :
    List Rule :=
  ((texts.filter fun text => !text.isEmpty).flatMap (rulesIn matcher report)).foldl keep []

end Clearance.Word

import Clearance.Text.Blank
import Clearance.Text.Casefold
import Clearance.Text.Occurrence
import Clearance.Text.Search
import Clearance.Word.Rule

/-!
# Compiled word rules

Compiling a list of rules puts each of them into one bucket: the symbols looked for by folding
case, the patterns looked for as bounded words or phrases, the rules left to the morphology
engine, or the rules that cannot be used. A compiled matcher then gives the rules that match a
text, the symbols first and the patterns after them, each in the order of the list.
-/

set_option autoImplicit false

namespace Clearance.Word

open Clearance.Text

/-- What is looked for as a whole. -/
inductive Pattern where
  | word (letters : List Char)
  | phrase (tokens : List (List Char))
  deriving DecidableEq, Repr

/-- Whether a pattern occurs in a text. -/
def Pattern.occursIn : Pattern → List Char → Bool
  | word letters, text => hasWord letters text
  | phrase tokens, text => hasTokens tokens text

/-- Where compilation puts a rule. -/
inductive Bucket where
  /-- The folded characters that are looked for. -/
  | symbols (folded : List Char)
  | pattern (pattern : Pattern)
  | morphology
  | unusable
  deriving DecidableEq, Repr

/-- The pattern of a whole word; a blank word has none. -/
def wordBucket (letters : List Char) : Bucket :=
  let word := strip letters
  if word.isEmpty then .unusable else .pattern (.word word)

/-- The pattern of a phrase; a phrase without tokens has none. -/
def phraseBucket (letters : List Char) : Bucket :=
  let sequence := tokens (strip letters)
  if sequence.isEmpty then .unusable else .pattern (.phrase sequence)

/-- Where compilation puts a rule. -/
def Rule.bucket (rule : Rule) : Bucket :=
  match rule.strategy with
  | .morphology => .morphology
  | .symbols => if rule.letters.isEmpty then .unusable else .symbols (casefold rule.letters)
  | .word => wordBucket rule.letters
  | .phrase => phraseBucket rule.letters
  | .unknown => .unusable

/-- The rule with its folded characters, if that is what is looked for. -/
def Rule.asSymbols? (rule : Rule) : Option (Rule × List Char) :=
  match rule.bucket with
  | .symbols folded => some (rule, folded)
  | _ => none

/-- The rule with its pattern, if it has one. -/
def Rule.asPattern? (rule : Rule) : Option (Rule × Pattern) :=
  match rule.bucket with
  | .pattern pattern => some (rule, pattern)
  | _ => none

/-- A compiled list of rules. -/
structure Matcher where
  /-- All rules, in the order given. -/
  rules : List Rule
  symbols : List (Rule × List Char)
  patterns : List (Rule × Pattern)
  morphology : List Rule
  /-- How many rules cannot be used. -/
  skipped : Nat
  deriving DecidableEq, Repr

/-- A list of rules compiled. -/
def compile (rules : List Rule) : Matcher where
  rules := rules
  symbols := rules.filterMap Rule.asSymbols?
  patterns := rules.filterMap Rule.asPattern?
  morphology := rules.filter Rule.isMorphology
  skipped := rules.countP fun rule => rule.bucket == .unusable

namespace Matcher

/-- The rules that match a text; nothing matches an empty text. -/
def matching (matcher : Matcher) (text : List Char) : List Rule :=
  if text.isEmpty then []
  else
    let folded := casefold text
    (matcher.symbols.filter fun entry => holds entry.2 folded).map (·.1) ++
      (matcher.patterns.filter fun entry => entry.2.occursIn text).map (·.1)

/-- The rule with an id; of several the last one. -/
def resolve? (matcher : Matcher) (id : Int) : Option Rule :=
  matcher.rules.reverse.find? fun rule => rule.id == id

end Matcher

end Clearance.Word

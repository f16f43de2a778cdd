import Clearance.Text.Literal

/-!
# Word rules

A word rule is a configured word with a declared strategy by which it is looked for in a text. The
strategies are numbered with gaps: 1, 11 and 21 are matched here, every number from 41 on is left
to the morphology engine, and any other number is no strategy. A rule's word may be missing.
-/

set_option autoImplicit false

namespace Clearance.Word

/-- How a word is looked for. -/
inductive Strategy where
  /-- The characters of the word, anywhere. -/
  | symbols
  /-- The word as a whole. -/
  | word
  /-- The tokens of the word, in order. -/
  | phrase
  /-- By the morphology engine. -/
  | morphology
  /-- Not at all. -/
  | unknown
  deriving DecidableEq, Repr

/-- The lowest number of a strategy that is left to the morphology engine. -/
def morphologyThreshold : Int := 41

/-- The strategy of a number. -/
def Strategy.ofNumber (n : Int) : Strategy :=
  if morphologyThreshold ≤ n then .morphology
  else if n = 1 then .symbols
  else if n = 11 then .word
  else if n = 21 then .phrase
  else .unknown

/-- What a strategy's number is called; a number without a name stands for itself. -/
def strategyLabel (n : Int) : String :=
  if n = 1 then "Exact symbols"
  else if n = 11 then "Exact word"
  else if n = 21 then "Phrase"
  else if n = 41 then "Weak morphology"
  else if n = 51 then "Strong morphology"
  else toString n

/-- A configured word and the number of its strategy. -/
structure Rule where
  id : Int
  word : Option String
  matchType : Int
  deriving DecidableEq, Repr

namespace Rule

/-- How the rule's word is looked for. -/
def strategy (rule : Rule) : Strategy := .ofNumber rule.matchType

/-- Whether the rule is left to the morphology engine. -/
def isMorphology (rule : Rule) : Bool := decide (morphologyThreshold ≤ rule.matchType)

/-- The characters of the rule's word. -/
def letters (rule : Rule) : List Char := (rule.word.getD "").toList

/-- The rule in words. -/
def describe (rule : Rule) : String :=
  s!"{rule.word.getD (Text.Literal.shown .null)} ({strategyLabel rule.matchType})"

/-- A code that a keyword implies, in words. -/
def describeCode (word code : String) : String := s!"{word} -> {code}"

theorem isMorphology_iff (rule : Rule) :
    rule.isMorphology = true ↔ rule.strategy = .morphology := by
  simp only [isMorphology, strategy, Strategy.ofNumber, decide_eq_true_eq]
  split
  · simp_all
  · split
    · simp_all
    · split
      · simp_all
      · split <;> simp_all

end Rule

end Clearance.Word

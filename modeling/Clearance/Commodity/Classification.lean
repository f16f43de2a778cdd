import Clearance.Commodity.PrefixRule

/-!
# Classification of a commodity code

Prefix rules are filed under the first two characters of their code, and a code is compared with
the rules filed under its own first two. A rule whose code is shorter is not filed and never
matches.
-/

set_option autoImplicit false

namespace Clearance.Commodity

/-- The characters under which a rule is filed. -/
def keyLength : Nat := 2

/-- Prefix rules filed under the first two characters of their codes. -/
structure PrefixIndex where
  files : List (List Char × List PrefixRule)
  /-- How many rules are filed. -/
  size : Nat
  deriving DecidableEq, Repr

namespace PrefixIndex

/-- No rule is filed. -/
def empty : PrefixIndex := ⟨[], 0⟩

/-- The files with a rule put at the end of the file of a key. -/
def fileUnder (key : List Char) (rule : PrefixRule) :
    List (List Char × List PrefixRule) → List (List Char × List PrefixRule)
  | [] => [(key, [rule])]
  | (other, rules) :: rest =>
    if other == key then (other, rules ++ [rule]) :: rest
    else (other, rules) :: fileUnder key rule rest

/-- The index with one more rule. -/
def add (index : PrefixIndex) (rule : PrefixRule) : PrefixIndex :=
  let letters := rule.code.toList
  if letters.length < keyLength then index
  else ⟨fileUnder (letters.take keyLength) rule index.files, index.size + 1⟩

/-- An index of a list of rules. -/
def ofList (rules : List PrefixRule) : PrefixIndex := rules.foldl add empty

/-- The rules filed under the first two characters of a code. -/
def candidates (index : PrefixIndex) (code : List Char) : List PrefixRule :=
  (index.files.lookup (code.take keyLength)).getD []

end PrefixIndex

/-- What classification says of a code. -/
inductive Verdict where
  | invalidFormat
  | hasIssues
  | noIssues
  deriving DecidableEq, Repr

/-- What a verdict is called. -/
def Verdict.name : Verdict → String
  | invalidFormat => "invalid_format"
  | hasIssues => "has_issues"
  | noIssues => "no_issues"

/-- The rules that match a code, in the order in which they were filed, and the verdict. -/
structure Classification where
  matched : List PrefixRule
  verdict : Verdict
  deriving DecidableEq, Repr

/-- The ids of the rules that match. -/
def Classification.ids (result : Classification) : List Int := result.matched.map (·.id)

/-- A code compared with the rules of an index. -/
def classify (code : Option String) (index : PrefixIndex) : Classification :=
  match code with
  | none => ⟨[], .invalidFormat⟩
  | some text =>
    let letters := text.toList
    if isCode letters then
      let matched := (index.candidates letters).filter fun rule => rule.matchesCode letters
      ⟨matched, if matched.isEmpty then .noIssues else .hasIssues⟩
    else ⟨[], .invalidFormat⟩

end Clearance.Commodity

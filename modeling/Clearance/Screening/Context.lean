import Clearance.Commodity.Classification
import Clearance.Job.Basic
import Clearance.Word.Finding
import Clearance.Word.Morphology

/-!
# What screening needs

A context holds the compiled rules that screening compares a parcel with. It is loaded once and
used for many parcels; the part that is not needed is left out. What comes of screening one parcel
is its outcome.
-/

set_option autoImplicit false

namespace Clearance.Screening

open Clearance.Word (Matcher Engine)

/-- The compiled vocabularies and the engine for the rules left to it. -/
structure WordContext where
  stopWords : Matcher
  keyWords : Matcher
  engine : Engine

/-- The rules that screening compares a parcel with. -/
structure Context where
  words : Option WordContext
  prefixes : Option Commodity.PrefixIndex

/-- Whether a context has all that screening a scope needs. -/
def Context.suffices (context : Context) (scope : Scope) : Bool :=
  (!scope.hasWords || context.words.isSome) && (!scope.hasCodes || context.prefixes.isSome)

/-- The ids of the rules of a compiled vocabulary that match any of some texts. -/
def foundIds (engine : Engine) (matcher : Matcher) (texts : List String) : List Int :=
  (Word.findRules matcher (engine.report matcher.morphology) (texts.map (·.toList))).map (·.id)

/-- What comes of screening a parcel. -/
structure Outcome where
  parcel : Int
  checkStatus : Int
  stopWords : List Int
  keyWords : List Int
  prefixes : List Int
  invalidCode : Bool
  /-- Whether the parcel was left alone because the partner has marked it. -/
  skipped : Bool
  deriving DecidableEq, Repr

end Clearance.Screening

import Clearance.Text.Lower
import Clearance.Text.Search
import Clearance.Word.Rule

/-!
# Morphology engines

An engine reports, for a text, the ids of the rules among those left to it that match the text. A
configured backend is loaded before its engine can be asked; loading fails if the backend's name
does not lead to an engine, and the failure says why.
-/

set_option autoImplicit false

namespace Clearance.Word

open Clearance.Text

/-- An engine that knows word derivation: what it is called, and which ids it reports for a text, of
the rules left to it. It may report any ids, in any order. -/
structure Engine where
  name : String
  report : List Rule → List Char → List Int

namespace Engine

/-- The stem of a word: its lower case without the last character. -/
def stemOf (letters : List Char) : List Char := lower letters.dropLast

/-- The ids of the rules whose stem the text holds, ascending. -/
def stemIds (rules : List Rule) (text : List Char) : List Int :=
  let lowered := lower text
  ((rules.filter fun rule => holds (stemOf rule.letters) lowered).map (·.id)).mergeSort

/-- The engine that knows no word. -/
def null : Engine := ⟨"NullMorphologyMatcher", fun _ _ => []⟩

/-- The engine that takes a word without its last character for its stem. -/
def stem : Engine := ⟨"StemMorphology", stemIds⟩

/-- An id that belongs to no rule. -/
def strayId : Int := 999999

/-- The engine that works as `stem` does and reports an id first that belongs to no rule. -/
def stray : Engine := ⟨"StrayMorphology", fun rules text => strayId :: stemIds rules text⟩

end Engine

/-- A configured backend: an engine, or a name that leads to none. -/
inductive Backend where
  | engine (engine : Engine)
  /-- A module without the class named. -/
  | missingClass
  /-- A module that does not exist. -/
  | missingModule
  /-- A name without a module. -/
  | undotted
  /-- A class that is no engine. -/
  | otherClass
  /-- A function. -/
  | function

namespace Backend

/-- The engine of a backend, or why there is none. -/
def load : Backend → Except String Engine
  | engine e => .ok e
  | missingClass => .error
      ("Cannot load morphology backend screening.services.morphology.DoesNotExist: " ++
        "Module \"screening.services.morphology\" does not define a " ++
        "\"DoesNotExist\" attribute/class")
  | missingModule => .error
      ("Cannot load morphology backend no_such_package.Backend: " ++
        "No module named 'no_such_package'")
  | undotted => .error
      "Cannot load morphology backend backend: backend doesn't look like a module path"
  | otherClass => .error "screening.models.Parcel is not a MorphologyMatcher"
  | function => .error
      "screening.services.morphology.get_morphology_matcher is not a MorphologyMatcher"

/-- The backend of a name; an unknown name has none. -/
def ofName? : String → Option Backend
  | "null" => some (.engine .null)
  | "stem" => some (.engine .stem)
  | "stray" => some (.engine .stray)
  | "missing_attr" => some .missingClass
  | "missing_module" => some .missingModule
  | "no_dot" => some .undotted
  | "model_class" => some .otherClass
  | "function" => some .function
  | _ => none

end Backend

end Clearance.Word

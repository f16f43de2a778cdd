/-!
# Vocabularies

There are two vocabularies of configured words: a stop word puts a parcel on hold, a keyword
implies commodity codes.
-/

set_option autoImplicit false

namespace Clearance.Word

/-- The two vocabularies. -/
inductive Vocabulary where
  | stopWords
  | keyWords
  deriving DecidableEq, Repr

/-- A value for each vocabulary. -/
structure PerVocabulary (α : Type) where
  stopWords : α
  keyWords : α
  deriving DecidableEq, Repr

namespace PerVocabulary

variable {α : Type}

/-- The value for a vocabulary. -/
def get (values : PerVocabulary α) : Vocabulary → α
  | .stopWords => values.stopWords
  | .keyWords => values.keyWords

/-- The values with the one for a vocabulary replaced. -/
def set (values : PerVocabulary α) (vocabulary : Vocabulary) (value : α) : PerVocabulary α :=
  match vocabulary with
  | .stopWords => { values with stopWords := value }
  | .keyWords => { values with keyWords := value }

/-- The same value for both vocabularies. -/
def both (value : α) : PerVocabulary α := ⟨value, value⟩

@[simp] theorem get_set_same (values : PerVocabulary α) (vocabulary : Vocabulary) (value : α) :
    (values.set vocabulary value).get vocabulary = value := by
  cases vocabulary <;> rfl

theorem get_set_of_ne (values : PerVocabulary α) {vocabulary other : Vocabulary} (value : α)
    (h : other ≠ vocabulary) : (values.set vocabulary value).get other = values.get other := by
  cases vocabulary <;> cases other <;> first | rfl | exact absurd rfl h

end PerVocabulary

end Clearance.Word

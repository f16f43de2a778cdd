import Clearance.Session.Basic

/-!
# Generations

Each vocabulary has a generation, a number that moves whenever the vocabulary may have changed. It
is kept in a counter that can be lost; a lost counter starts again from the clock, in thousandths
of a second, so that it does not come to repeat a number while fewer changes are made than
thousandths pass.
-/

set_option autoImplicit false

namespace Clearance.Session

/-- The number from which a lost counter starts. -/
def seed (session : Session) : Int := (clockStart + session.clock) * 1000

/-- The generation of a vocabulary. -/
def generation (session : Session) (vocabulary : Word.Vocabulary) : Int :=
  (session.generations.get vocabulary).getD session.seed

/-- The session with a counter at a number. -/
def setGeneration (session : Session) (vocabulary : Word.Vocabulary) (number : Int) : Session :=
  { session with generations := session.generations.set vocabulary (some number) }

/-- The session once the generation of a vocabulary has been read: a lost counter has started. -/
def withGeneration (session : Session) (vocabulary : Word.Vocabulary) : Session :=
  session.setGeneration vocabulary (session.generation vocabulary)

/-- The session with the generation of a vocabulary moved by one. -/
def bump (session : Session) (vocabulary : Word.Vocabulary) : Session :=
  session.setGeneration vocabulary (session.generation vocabulary + 1)

/-- The session with the generations of vocabularies moved, once for each mention. -/
def bumpAll (session : Session) (vocabularies : List Word.Vocabulary) : Session :=
  vocabularies.foldl bump session

/-- The session without a counter. -/
def evict (session : Session) (vocabulary : Word.Vocabulary) : Session :=
  { session with generations := session.generations.set vocabulary none }

theorem generation_bump (session : Session) (vocabulary : Word.Vocabulary) :
    (session.bump vocabulary).generation vocabulary = session.generation vocabulary + 1 := by
  simp [bump, setGeneration, generation]

@[simp] theorem store_bump (session : Session) (vocabulary : Word.Vocabulary) :
    (session.bump vocabulary).store = session.store := rfl

/-- Moving generations leaves the store alone. -/
@[simp] theorem store_bumpAll (session : Session) (vocabularies : List Word.Vocabulary) :
    (session.bumpAll vocabularies).store = session.store := by
  induction vocabularies generalizing session with
  | nil => rfl
  | cons vocabulary rest ih => exact ih (session.bump vocabulary)

end Clearance.Session

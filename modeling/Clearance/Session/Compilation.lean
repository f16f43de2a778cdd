import Clearance.Session.Transaction

/-!
# Compiled vocabularies

A compiled vocabulary is kept and used again as long as its generation stands still. One that is
compiled inside a block is not kept, since it may hold rules that are undone later.
-/

set_option autoImplicit false

namespace Clearance.Proc

open Clearance.Word (Vocabulary compile)

/-- The generation of a vocabulary, whose counter starts if it was lost. -/
def readGeneration (vocabulary : Vocabulary) : Proc Int := do
  alter (·.withGeneration vocabulary)
  ask (·.generation vocabulary)

/-- The compiled vocabulary kept from an earlier compilation, if it is of a generation. -/
def kept? (vocabulary : Vocabulary) (generation : Int) (session : Session) : Option Compiled :=
  match session.compiled.get vocabulary with
  | some (own, compiled) => if own == generation then some compiled else none
  | none => none

/-- A vocabulary compiled from its rules in the store. -/
def compileNow (vocabulary : Vocabulary) : Proc Compiled := do
  let rules ← query fun store => .ok (store.rules vocabulary)
  let serial ← ask (·.compilations)
  alter fun s => { s with compilations := serial + 1 }
  pure ⟨serial, compile rules⟩

/-- A vocabulary compiled, as it was kept or anew. -/
def compiled (vocabulary : Vocabulary) : Proc Compiled := do
  let generation ← readGeneration vocabulary
  match ← ask (kept? vocabulary generation) with
  | some compiled => pure compiled
  | none =>
    let fresh ← compileNow vocabulary
    alter fun s =>
      if s.inBlock then s
      else { s with compiled := s.compiled.set vocabulary (some (generation, fresh)) }
    pure fresh

end Clearance.Proc

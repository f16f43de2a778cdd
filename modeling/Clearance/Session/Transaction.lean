import Clearance.Session.Generation
import Clearance.Store.Change

/-!
# Statements and blocks

A statement reads or changes the store. Outside a block a change is final at once; inside one it
becomes final when the outermost block ends well, and is undone if the block, or one around it,
fails. A change can become final only if the store is sound after it. Generations move once a
change is final. A block in which a change has been refused takes no further statement, and is
undone when it ends.
-/

set_option autoImplicit false

namespace Clearance

/-- Whether a change that fails so leaves the block around it broken. A row that is not found has
been looked for only, which does no harm. -/
def Fault.breaksBlock : Fault → Bool
  | missing _ => false
  | _ => true

namespace Proc

variable {α : Type}

/-- A statement that reads the store. -/
def query (read : Store → Except Fault α) : Proc α := fun s =>
  if s.isBroken then (.error .blockBroken, s) else (read s.store, s)

/-- A statement that changes the store. -/
def execute (change : Store → Except Fault (Change α)) : Proc α := fun s =>
  if s.isBroken then (.error .blockBroken, s)
  else match change s.store with
    | .error fault => (.error fault, { s with isBroken := s.inBlock && fault.breaksBlock })
    | .ok outcome =>
      if s.inBlock then
        (.ok outcome.result,
          { s with store := outcome.store, pending := s.pending ++ outcome.touched })
      else if outcome.store.isSound then
        (.ok outcome.result, { s with store := outcome.store }.bumpAll outcome.touched)
      else (.error .dangling, s)

/-- A session `t` with its block ended as it was begun in the session `s`: what the block did to
the store is undone. -/
def undo (s t : Session) : Session :=
  { t with
    store := s.store
    pending := s.pending
    inBlock := s.inBlock
    isBroken := s.isBroken }

/-- A procedure as a block: all that it does to the store becomes final, or nothing. A result of
which `keep` does not hold undoes the block as a fault does. A block inside another is undone
alone. -/
def atomicIf (keep : α → Bool) (body : Proc α) : Proc α := fun s =>
  let (result, t) := body { s with inBlock := true }
  match result with
  | .error fault => (.error fault, undo s t)
  | .ok a =>
    if t.isBroken || !keep a then (.ok a, undo s t)
    else if s.inBlock then (.ok a, t)
    else if t.store.isSound then
      (.ok a, { t with inBlock := false, pending := [] }.bumpAll t.pending)
    else (.error .dangling, undo s t)

/-- A procedure as a block that any result ends well. -/
def atomic (body : Proc α) : Proc α := atomicIf (fun _ => true) body

@[simp] theorem store_undo (s t : Session) : (undo s t).store = s.store := rfl

/-- A statement that is refused leaves the store as it was. -/
theorem store_of_execute_error {change : Store → Except Fault (Change α)} {s t : Session}
    {fault : Fault} (h : execute change s = (.error fault, t)) : t.store = s.store := by
  unfold execute at h
  split at h
  · cases h; rfl
  · split at h
    · cases h; rfl
    · split at h
      · cases h
      · split at h
        · cases h
        · cases h; rfl

end Proc

end Clearance

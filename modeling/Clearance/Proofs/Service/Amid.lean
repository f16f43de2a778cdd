import Clearance.Proofs.Service.Course

/-!
# Inside an open block

A block is open from the moment it begins, through all requests that are served in it without a
fault. A block that begins inside it changes nothing but that it is open, too, and is itself one of
the requests of the outer block once it has ended. So the sessions at which a block, or one inside
it, is open are those that requests lead to from its beginning.
-/

set_option autoImplicit false

namespace Clearance.Service

open Proc

/-- A session in which a block that began in the session `s` is open, perhaps with others open
inside it, and has not failed. The requests served in it ask for some operations only. -/
inductive IsAmid (asked : Operation → Prop) (s : Session) : Session → Prop
  | begun : IsAmid asked s { s with inBlock := true }
  | nested {t : Session} : IsAmid asked s t → IsAmid asked s { t with inBlock := true }
  | served {t u : Session} {request : Request} {answer : Answer} : IsAmid asked s t →
      (∀ operation ∈ request.operations, asked operation) →
      serve request t = (.ok answer, u) → answer.fault?.isNone = true → IsAmid asked s u

variable {asked : Operation → Prop} {rel : Session → Session → Prop} {s t : Session}

/-- While blocks are open the session follows every course that the requests follow. -/
theorem IsAmid.follows (h : IsAmid asked s t) (course : IsCourse asked rel)
    (hblock : ∀ {s t : Session}, rel s t → t.inBlock = s.inBlock) :
    rel { s with inBlock := true } t := by
  induction h with
  | begun => exact course.refl _
  | @nested t _ ih =>
    have hopen : t.inBlock = true := hblock ih
    have hsame : { t with inBlock := true } = t := by
      rw [← hopen]
    rwa [hsame]
  | @served t u request answer _ hasked hserve _ ih =>
    have hstep := follows_serve course request hasked t
    unfold FollowsAt at hstep
    rw [hserve] at hstep
    exact course.trans ih hstep

end Clearance.Service

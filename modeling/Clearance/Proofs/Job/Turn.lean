import Clearance.Job.Run
import Clearance.Proofs.Session.Keeping

/-!
# What a visit to a parcel comes to

A visit takes up to three statements, and each of them may fail, which stops the worker. Otherwise
the job is cancelled, or the parcel is counted and the worker goes on.
-/

set_option autoImplicit false

namespace Clearance.Job

open Proc

theorem orStop_apply {α β : Type} (stopped : Fault → β) (proc : Proc α) (next : α → Proc β)
    (s : Session) : orStop stopped proc next s = match proc s with
      | (.ok a, t) => next a t
      | (.error fault, t) => (.ok (stopped fault), t) := by
  unfold orStop
  rw [bind_apply]
  have hattempt : attempt proc s = (.ok (proc s).1, (proc s).2) := rfl
  rw [hattempt]
  cases proc s with
  | mk result t => cases result <;> rfl

/-- The visits that a worker can make to a parcel in a session, with what they come to. -/
inductive Turn (context : Screening.Context) (meanwhile : Meanwhile) (id : Int) (count : Nat)
    (job : Job) (parcel : Int) (s : Session) : Visit → Session → Prop
  /-- Whether the job is to be cancelled cannot be told. -/
  | unasked {fault : Fault} (hpoll : isToBeCancelled id s = (.error fault, s)) :
      Turn context meanwhile id count job parcel s (.ends (.stopped job (some parcel) fault)) s
  | uncancelled {fault : Fault} {t : Session} (hpoll : isToBeCancelled id s = (.ok true, s))
      (hend : complete id job .cancelled none s = (.error fault, t)) :
      Turn context meanwhile id count job parcel s (.ends (.stopped job (some parcel) fault)) t
  | cancelled {ended : Job} {t : Session} (hpoll : isToBeCancelled id s = (.ok true, s))
      (hend : complete id job .cancelled none s = (.ok ended, t)) :
      Turn context meanwhile id count job parcel s (.ends (.cancelled ended)) t
  | unscreened {fault : Fault} {t : Session} (hpoll : isToBeCancelled id s = (.ok false, s))
      (hscreen : screenNext context job.scope meanwhile count parcel s = (.error fault, t)) :
      Turn context meanwhile id count job parcel s (.ends (.stopped job (some parcel) fault)) t
  /-- The parcel is screened, but that cannot be saved in the record of the job. -/
  | uncounted {fault : Fault} {later : Nat} {t u : Session}
      (hpoll : isToBeCancelled id s = (.ok false, s))
      (hscreen : screenNext context job.scope meanwhile count parcel s = (.ok later, t))
      (hsave : saveCount id { job with processed := job.processed + 1 } t = (.error fault, u)) :
      Turn context meanwhile id count job parcel s
        (.ends (.stopped { job with processed := job.processed + 1 } (some parcel) fault)) u
  | counted {later : Nat} {t u : Session} (hpoll : isToBeCancelled id s = (.ok false, s))
      (hscreen : screenNext context job.scope meanwhile count parcel s = (.ok later, t))
      (hsave : saveCount id { job with processed := job.processed + 1 } t = (.ok (), u)) :
      Turn context meanwhile id count job parcel s
        (.goesOn later { job with processed := job.processed + 1 }) u

theorem session_isToBeCancelled (id : Int) (s : Session) : (isToBeCancelled id s).2 = s := by
  unfold isToBeCancelled query
  split <;> rfl

/-- A visit always comes to one of these. -/
theorem exists_turn (context : Screening.Context) (meanwhile : Meanwhile) (id : Int)
    (count : Nat) (job : Job) (parcel : Int) (s : Session) :
    ∃ result t, visit context meanwhile id count job parcel s = (.ok result, t) ∧
      Turn context meanwhile id count job parcel s result t := by
  have hsession := session_isToBeCancelled id s
  unfold visit
  rw [orStop_apply]
  cases hpoll : isToBeCancelled id s with
  | mk asked t =>
    rw [hpoll] at hsession
    obtain rfl : t = s := hsession
    cases asked with
    | error fault => exact ⟨_, t, rfl, .unasked hpoll⟩
    | ok isToBe =>
      cases isToBe with
      | true =>
        dsimp only
        rw [if_pos rfl, orStop_apply]
        cases hend : complete id job .cancelled none t with
        | mk result u =>
          cases result with
          | error fault => exact ⟨_, u, rfl, .uncancelled hpoll hend⟩
          | ok ended => exact ⟨_, u, rfl, .cancelled hpoll hend⟩
      | false =>
        dsimp only
        rw [if_neg Bool.false_ne_true, orStop_apply]
        cases hscreen : screenNext context job.scope meanwhile count parcel t with
        | mk result u =>
          cases result with
          | error fault => exact ⟨_, u, rfl, .unscreened hpoll hscreen⟩
          | ok later =>
            dsimp only
            rw [orStop_apply]
            cases hsave : saveCount id { job with processed := job.processed + 1 } u with
            | mk result v =>
              cases result with
              | error fault => exact ⟨_, v, rfl, .uncounted hpoll hscreen hsave⟩
              | ok _ => exact ⟨_, v, rfl, .counted hpoll hscreen hsave⟩

end Clearance.Job

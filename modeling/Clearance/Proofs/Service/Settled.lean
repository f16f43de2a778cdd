import Clearance.Proofs.Service.Course
import Clearance.Proofs.Session.Settled

/-!
# Sessions stay settled

A session that starts empty is settled, and stays so whatever is asked for: every request is made of
statements, blocks and changes of what is not stored, also one that is served while a job waits. So
after any requests no block is open, and every row that another one refers to exists.
-/

set_option autoImplicit false

namespace Clearance

open Proc
open Session (StaysSettled staysSettled_of_aside)

/-- An empty session is settled. -/
theorem Session.isSettled_start (backend : Word.Backend) (outages : Monitor.Outages) :
    (Session.start backend outages).IsSettled :=
  fun _ => ⟨rfl, rfl, (Store.isSound_iff _).1 Store.isSound_empty⟩

namespace Service

/-- Sessions stay settled whatever operations are asked for. -/
theorem staysSettled_isCourse_service : Service.IsCourse (fun _ => True) StaysSettled where
  toIsCourse := staysSettled_isCourse
  request := Job.follows_request staysSettled_isCourse (fun _ _ _ => staysSettled_execute _)
    (fun _ => staysSettled_execute _) fun _ => staysSettled_of_aside rfl rfl rfl rfl
  cancel := Job.follows_cancel staysSettled_isCourse fun _ _ _ => staysSettled_execute _
  run := Job.follows_run_of_saves staysSettled_isCourse fun _ _ _ => staysSettled_execute _
  updateWord := fun _ _ _ _ => staysSettled_execute _
  bumped := fun _ _ _ => staysSettled_of_aside rfl rfl rfl rfl
  evict := fun _ _ _ => staysSettled_of_aside rfl rfl rfl rfl
  advance := fun _ _ _ => staysSettled_of_aside rfl rfl rfl rfl
  markStarted := fun _ _ _ =>
    Job.follows_markStarted staysSettled_isCourse (fun _ _ _ => staysSettled_execute _) _ _

/-- Whatever has been asked for of an empty session, no block is open after it, statements are
taken, and the store is sound. -/
theorem isSettled_serveAll (backend : Word.Backend) (outages : Monitor.Outages)
    (requests : List Request) :
    let s := (serveAll requests (Session.start backend outages)).2
    s.IsSettled ∧ s.inBlock = false ∧ s.isBroken = false ∧ s.store.IsSound := by
  obtain ⟨hblock, hsettled⟩ := follows_serveAll staysSettled_isCourse_service requests
    (fun _ _ => trivial) (Session.start backend outages)
  have hs := hsettled (Session.isSettled_start backend outages)
  have hwhole := hs hblock
  exact ⟨hs, hblock, hwhole.1, hwhole.2.2⟩

end Service

end Clearance

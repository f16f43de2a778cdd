import Clearance.Proofs.Job.Course
import Clearance.Proofs.Job.Worker

/-!
# Jobs leave sessions settled

Requesting a job, cancelling one and every step of a worker leave a settled session settled. In a
settled session that takes statements a pending job can be taken, if its parcels can be counted, and
the end of a job that is stored can always be saved.
-/

set_option autoImplicit false

namespace Clearance

open Proc
open Session (StaysSettled)

namespace Job

/-- A worker follows a course that is followed where a job is taken, counted and brought to its
end. -/
theorem follows_step {rel : Session → Session → Prop} (course : IsCourse rel)
    (hclaim : ∀ handle, Follows rel (claim handle))
    (hcount : ∀ id job, Follows rel (saveCount id job))
    (hend : ∀ id job status error, status.isActive = false →
      Follows rel (complete id job status error)) (worker : Worker) : Follows rel worker.step := by
  cases worker with
  | waiting handle =>
    refine follows_orStop course (hclaim handle) fun taken => ?_
    obtain ⟨row, parcels⟩ := taken
    cases parcels with
    | none => exact course.pure _
    | some parcels => exact course.bind (follows_tellOfStart course row.val) fun _ => course.pure _
  | loading row parcels =>
    exact follows_orStop course (course.loadContext _ _) fun _ => course.pure _
  | reaching context id job parcels =>
    cases parcels with
    | nil => exact follows_orStop course (hend _ _ _ _ rfl) fun _ => course.pure _
    | cons parcel rest => exact follows_orStop course (course.query _) fun _ => course.pure _
  | cancelling id job parcel =>
    exact follows_orStop course (hend _ _ _ _ rfl) fun _ => course.pure _
  | looking context id job parcel rest =>
    exact follows_orStop course (course.query _) fun _ => course.pure _
  | screening context id job parcel rest =>
    exact follows_orStop course (course.screenWith _ _ _) fun _ => course.pure _
  | counting context id job parcel rest =>
    exact follows_orStop course (hcount _ _) fun _ => course.pure _
  | stopping id job parcel fault =>
    exact course.bind (follows_tellOfFault course job parcel fault) fun _ =>
      follows_orStop course (hend _ _ _ _ rfl) fun _ => course.pure _
  | finished result => exact course.pure _

/-- A worker follows a course that every change of a job's record follows. -/
theorem follows_step_of_saves {rel : Session → Session → Prop} (course : IsCourse rel)
    (hsave : ∀ id numbers save, Follows rel (execute fun store => store.saveJob id numbers save))
    (worker : Worker) : Follows rel worker.step :=
  follows_step course (follows_claim course hsave) (fun _ _ => hsave _ _ _)
    (fun _ _ _ _ _ => follows_complete course hsave _ _ _ _) worker

/-- Whatever a worker does, it leaves a settled session settled. -/
theorem staysSettled_step (worker : Worker) : Follows StaysSettled worker.step :=
  follows_step_of_saves staysSettled_isCourse (fun _ _ _ => staysSettled_execute _) worker

theorem staysSettled_request (register : Int) (scope : Scope) :
    Follows StaysSettled (request register scope) :=
  follows_request staysSettled_isCourse (fun _ _ _ => staysSettled_execute _)
    (fun _ => staysSettled_execute _) (fun _ => Session.staysSettled_of_aside rfl rfl rfl rfl)
    register scope

theorem staysSettled_cancel (handle : Text.Literal) : Follows StaysSettled (cancel handle) :=
  follows_cancel staysSettled_isCourse (fun _ _ _ => staysSettled_execute _) handle

/-! ## The end of a job can be saved -/

/-- A job that is changed and stays with its register leaves a sound store sound. -/
theorem isSound_modify {store : Store} {id : Int} {save : Job → Job} (hsound : store.IsSound)
    (hregister : ∀ job, (save job).register = job.register) :
    ({ store with jobs := store.jobs.modify id save } : Store).IsSound := by
  refine hsound.withJobs fun row hrow => ?_
  rcases Table.mem_modify hrow with hold | ⟨_, old, hold, hval⟩
  · exact hsound.jobs row hold
  · rw [hval, hregister]
    exact hsound.jobs _ hold

/-- In a settled session that takes statements a stored job is brought to its end. -/
theorem complete_of_mem {s : Session} {id : Int} {stored : Job} (hs : s.IsSettled)
    (hwhole : s.isBroken = false) (hstored : ⟨id, stored⟩ ∈ s.store.jobs.rows) (job : Job)
    (status : JobStatus) (error : Option String) :
    complete id job status error s = (.ok (job.ended status error s.clock), { s with
      store := { s.store with
        jobs := s.store.jobs.modify id (job.ended status error s.clock).withEndOf } }) := by
  have hhas : s.store.jobs.has id = true := Table.has_eq_true_iff.2 ⟨_, hstored, rfl⟩
  have hsave := @Store.saveJob_of_has s.store id [] (job.ended status error s.clock).withEndOf
    rfl hhas
  have hsound : s.inBlock = false → Store.IsSound { s.store with
      jobs := s.store.jobs.modify id (job.ended status error s.clock).withEndOf } :=
    fun hblock => isSound_modify (hs hblock).2.2 fun _ => rfl
  have hrun := @execute_of_ok _ (fun store =>
    store.saveJob id [] (job.ended status error s.clock).withEndOf) s _ _ hwhole hsave hsound
  unfold complete
  rw [bind_apply]
  dsimp only [ask_apply]
  rw [bind_of_ok hrun]
  rfl

theorem exists_complete {s : Session} {id : Int} {stored : Job} (hs : s.IsSettled)
    (hwhole : s.isBroken = false) (hstored : ⟨id, stored⟩ ∈ s.store.jobs.rows) (job : Job)
    (status : JobStatus) (error : Option String) :
    ∃ t, complete id job status error s = (.ok (job.ended status error s.clock), t) ∧
      t.store = { s.store with
        jobs := s.store.jobs.modify id (job.ended status error s.clock).withEndOf } :=
  ⟨_, complete_of_mem hs hwhole hstored job status error, rfl⟩

/-! ## A job can be taken -/

section

variable {s : Session} {handle : Option Handle} {row : Row Job} (hs : s.IsSettled)
  (hblock : s.inBlock = false) (hjob : s.store.jobOf? handle = some row)

include hs hblock hjob

theorem query_jobOf? : query (fun store => .ok (store.jobOf? handle)) { s with inBlock := true } =
    (.ok (some row), { s with inBlock := true }) := by
  rw [← hjob]
  exact query_of_whole _ (hs hblock).1

/-- A job that is not pending is not taken. -/
theorem claim_of_ne_pending (hstatus : row.val.status ≠ .pending) :
    claim handle s = (.ok (row, none), s) := by
  obtain ⟨hwhole, _, hsound⟩ := hs hblock
  have hquery := query_jobOf? hs hblock hjob
  unfold claim
  refine atomic_of_ok hs hwhole ?_ fun _ => hsound
  rw [bind_of_ok hquery]
  dsimp only
  rw [if_neg hstatus]
  rfl

variable (hpending : row.val.status = .pending) {own : Job}
  (hown : row.val.started (s.store.openParcels row.val.register).length s.clock = own)

include hpending hown

/-- Taking a pending job comes to what saving its start comes to. -/
theorem claim_of_pending {result : Except Fault Unit} {t : Session}
    (hsave : execute (fun store => store.saveJob row.id [own.total] own.withStartOf)
      { s with inBlock := true } = (result, t)) :
    ∃ body, claim handle s = atomic body s ∧ body { s with inBlock := true } =
      (result.map fun _ => (⟨row.id, own⟩, some (s.store.openParcels row.val.register)), t) := by
  have hopen : query (fun store => .ok (store.openParcels row.val.register))
      { s with inBlock := true } =
        (.ok (s.store.openParcels row.val.register), { s with inBlock := true }) :=
    query_of_whole _ (hs hblock).1
  refine ⟨_, rfl, ?_⟩
  rw [bind_of_ok (query_jobOf? hs hblock hjob)]
  dsimp only
  rw [if_pos hpending, bind_of_ok hopen, bind_apply]
  dsimp only [ask_apply]
  rw [hown, bind_apply, hsave]
  cases result <;> rfl

/-- A pending job is taken with the parcels that are open, if they can be counted. -/
theorem claim_of_canHold (hcount : Store.canHold own.total = true) :
    claim handle s = (.ok (⟨row.id, own⟩, some (s.store.openParcels row.val.register)), { s with
      store := { s.store with jobs := s.store.jobs.modify row.id own.withStartOf } }) := by
  obtain ⟨hwhole, _, hsound⟩ := hs hblock
  have hhas : s.store.jobs.has row.id = true :=
    Table.has_eq_true_iff.2 ⟨row, Store.mem_of_jobOf? hjob, rfl⟩
  have hnumbers : [own.total].all Store.canHold = true := by
    rw [List.all_cons, hcount, List.all_nil, Bool.and_true]
  have hsave := @execute_of_ok _ (fun store => store.saveJob row.id [own.total] own.withStartOf)
    { s with inBlock := true } _ _ hwhole (Store.saveJob_of_has hnumbers hhas) nofun
  obtain ⟨body, hclaim, hbody⟩ := claim_of_pending hs hblock hjob hpending hown hsave
  rw [hclaim]
  exact atomic_of_ok hs hwhole hbody fun _ => isSound_modify hsound fun _ => rfl

/-- A pending job with more parcels than can be counted is not taken. -/
theorem claim_of_not_canHold (hcount : Store.canHold own.total = false) :
    claim handle s = (.error .outOfRange, s) := by
  obtain ⟨hwhole, _, _⟩ := hs hblock
  have hrefused : s.store.saveJob row.id [own.total] own.withStartOf = .error .outOfRange := by
    unfold Store.saveJob Store.guardNumbers
    rw [List.all_cons, hcount]
    rfl
  have hsave := @execute_of_error _ (fun store =>
    store.saveJob row.id [own.total] own.withStartOf) { s with inBlock := true } _ hwhole hrefused
  obtain ⟨body, hclaim, hbody⟩ := claim_of_pending hs hblock hjob hpending hown hsave
  rw [hclaim]
  exact atomic_of_error hbody

end

end Job

end Clearance

import Clearance.Proofs.Job.Descent
import Clearance.Proofs.Job.Handle
import Clearance.Proofs.Service.Course

/-!
# Handles are not given twice

A job keeps its handle, and a new job gets one that no job has had. So a handle that has been given
to a job is never found under another id, also once the job has been deleted.
-/

set_option autoImplicit false

namespace Clearance

open Proc

namespace Session

/-- A session in which a handle has been given, and no job has it but one under an id. -/
structure Reserves (s : Session) (handle : Handle) (id : Int) : Prop where
  given : ∃ count ≤ s.jobs, handle = Handle.ofCount count
  only : ∀ row ∈ s.store.jobs.rows, row.val.handle = handle → row.id = id

/-- What becomes of a session in which a handle is reserved: it stays so. -/
def KeepsReserved (handle : Handle) (id : Int) (s t : Session) : Prop :=
  s.Reserves handle id → t.Reserves handle id

variable {handle : Handle} {id : Int} {s t : Session}

theorem Reserves.of_subset (h : s.Reserves handle id)
    (hrows : ∀ row ∈ t.store.jobs.rows, row ∈ s.store.jobs.rows) (hjobs : s.jobs ≤ t.jobs) :
    t.Reserves handle id := by
  obtain ⟨count, hcount, hgiven⟩ := h.given
  exact ⟨⟨count, Nat.le_trans hcount hjobs, hgiven⟩, fun row hrow => h.only row (hrows row hrow)⟩

theorem keepsReserved_isJobLaw (handle : Handle) (id : Int) :
    IsJobLaw (KeepsReserved handle id) where
  trans := fun hst htu hs => htu (hst hs)
  less := fun hsome _ hjobs hs => hs.of_subset (fun _ hrow => hsome.rows.subset hrow) hjobs
  undone := by
    intro s t u hst hsame _ hjobs hs
    have hgiven := (hst hs).given
    rw [← hjobs] at hgiven
    refine ⟨hgiven, ?_⟩
    rw [hsame]
    exact hs.only

/-- A record that is saved with its handle reserves what was reserved. -/
theorem keepsReserved_of_modify {saved : Int} {save : Job → Job}
    (hrows : t.store.jobs = s.store.jobs.modify saved save) (hjobs : t.jobs = s.jobs)
    (hsave : ∀ job, (save job).handle = job.handle) : KeepsReserved handle id s t := by
  refine fun hs => ⟨by rw [hjobs]; exact hs.given, fun row hrow hhandle => ?_⟩
  rw [hrows] at hrow
  rcases Table.mem_modify hrow with hold | ⟨hid, job, hjob, hval⟩
  · exact hs.only row hold hhandle
  · rw [hval, hsave] at hhandle
    exact hid.trans (hs.only _ hjob hhandle)

/-- A new job has a handle that has not been given. -/
theorem keepsReserved_of_insert {job : Job} (hrows : t.store.jobs = s.store.jobs.insert job)
    (hjobs : t.jobs = s.jobs + 1) (hnew : job.handle = Handle.ofCount (s.jobs + 1)) :
    KeepsReserved handle id s t := by
  intro hs
  obtain ⟨count, hcount, hgiven⟩ := hs.given
  refine ⟨⟨count, by omega, hgiven⟩, fun row hrow hhandle => ?_⟩
  rw [hrows] at hrow
  rcases Table.mem_insert.1 hrow with hold | rfl
  · exact hs.only row hold hhandle
  · rw [hgiven, hnew] at hhandle
    have := Handle.ofCount_injective hhandle
    omega

end Session

open Session (keepsReserved_isJobLaw keepsReserved_of_modify keepsReserved_of_insert KeepsReserved)

section

variable (handle : Handle) (id : Int)

theorem Job.keepsReserved_saveJob (saved : Int) (numbers : List Int) {save : Job → Job}
    (hsave : ∀ job, (save job).handle = job.handle) :
    Follows (KeepsReserved handle id) (execute fun store => store.saveJob saved numbers save) :=
  fun _ => (keepsReserved_isJobLaw handle id).followsAt_saveJob fun _ hrows _ hjobs =>
    keepsReserved_of_modify hrows hjobs hsave

theorem Job.keepsReserved_complete (saved : Int) (job : Job) (status : JobStatus)
    (error : Option String) : Follows (KeepsReserved handle id) (complete saved job status error) :=
  have course := (keepsReserved_isJobLaw handle id).isCourse
  course.bind (course.ask _) fun _ =>
    course.bind (keepsReserved_saveJob handle id saved [] fun _ => rfl) fun _ => course.pure _

theorem Job.keepsReserved_request (register : Int) (scope : Scope) :
    Follows (KeepsReserved handle id) (request register scope) := by
  intro s
  refine followsAt_request (keepsReserved_isJobLaw handle id).isCourse
    (fun row _ _ => keepsReserved_complete handle id _ _ _ _ _) fun t _ => ?_
  exact (keepsReserved_isJobLaw handle id).followsAt_create fun u hrows _ hjobs =>
    keepsReserved_of_insert hrows hjobs rfl

theorem Job.keepsReserved_cancel (asked : Text.Literal) :
    Follows (KeepsReserved handle id) (cancel asked) := by
  intro s
  refine followsAt_cancel (keepsReserved_isJobLaw handle id).isCourse (fun row _ _ => ?_)
    fun _ _ _ _ _ => keepsReserved_complete handle id _ _ _ _ _
  refine keepsReserved_saveJob handle id row.id [] ?_ _
  exact fun _ => rfl

theorem Job.keepsReserved_claim (asked : Option Handle) :
    Follows (KeepsReserved handle id) (claim asked) := by
  intro s
  refine followsAt_claim (keepsReserved_isJobLaw handle id).isCourse fun row _ _ total => ?_
  refine keepsReserved_saveJob handle id row.id [(total : Int)] ?_ _
  exact fun _ => rfl

theorem Job.keepsReserved_saveCount (saved : Int) (job : Job) :
    Follows (KeepsReserved handle id) (saveCount saved job) := by
  refine keepsReserved_saveJob handle id saved [job.processed] ?_
  exact fun _ => rfl

theorem Job.keepsReserved_run {meanwhile : Meanwhile}
    (hbefore : ∀ k, Follows (KeepsReserved handle id) (meanwhile.before k))
    (asked : Option Handle) :
    Follows (KeepsReserved handle id) (run asked meanwhile) :=
  follows_run (keepsReserved_isJobLaw handle id).isCourse (keepsReserved_claim handle id)
    (keepsReserved_saveCount handle id) (fun _ _ _ _ _ => keepsReserved_complete handle id _ _ _ _)
    hbefore asked

/-- Whatever is asked for, a handle stays with its job. -/
theorem keepsReserved_isCourse : Service.IsCourse (fun _ => True) (KeepsReserved handle id) where
  toIsCourse := (keepsReserved_isJobLaw handle id).isCourse
  request := Job.keepsReserved_request handle id
  cancel := Job.keepsReserved_cancel handle id
  run := fun hbefore => Job.keepsReserved_run handle id hbefore
  updateWord := fun _ _ _ _ => (keepsReserved_isJobLaw handle id).follows_updateWord _ _ _
  bumped := fun _ _ _ => (keepsReserved_isJobLaw handle id).same rfl rfl rfl
  evict := fun _ _ _ => (keepsReserved_isJobLaw handle id).same rfl rfl rfl
  advance := fun _ _ _ hs => hs.of_subset (fun _ hrow => hrow) (Nat.le_refl _)
  markStarted := fun marked total _ => by
    have course := (keepsReserved_isJobLaw handle id).isCourse
    refine course.bind (course.query _) fun found => ?_
    cases found with
    | none => exact course.fail _
    | some row =>
      refine course.bind (course.ask _) fun now => course.bind ?_ fun _ => course.pure _
      refine Job.keepsReserved_saveJob handle id row.id [total] ?_
      exact fun _ => rfl

end

end Clearance

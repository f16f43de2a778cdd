import Clearance.Proofs.Job.Record
import Clearance.Proofs.Job.Turn
import Clearance.Proofs.Screening.Loading

/-!
# The steps of a worker

A worker takes a job, loads the rules and then reaches one parcel after another: it asks whether the
job is to be cancelled, looks whether the parcel is still there, screens it and saves how far it has
come. In the end it saves how the job has ended. Between any two steps others may change the store,
while the worker's own record of the job stays as it is.

Seen from the stored jobs a step does one of three things: it takes a pending job, it puts an end
into the record of the job that the worker holds, or it changes no record of a job that is over.
-/

set_option autoImplicit false

namespace Clearance.Job

open Proc

/-- Where a worker stands: what it does in its next step, and its own record of the job. -/
inductive Worker where
  | waiting (handle : Option Handle)
  | loading (row : Row Job) (parcels : List Int)
  | reaching (context : Screening.Context) (id : Int) (job : Job) (parcels : List Int)
  | cancelling (id : Int) (job : Job) (parcel : Int)
  | looking (context : Screening.Context) (id : Int) (job : Job) (parcel : Int) (rest : List Int)
  | screening (context : Screening.Context) (id : Int) (job : Job) (parcel : Int) (rest : List Int)
  | counting (context : Screening.Context) (id : Int) (job : Job) (parcel : Int) (rest : List Int)
  | stopping (id : Int) (job : Job) (parcel : Option Int) (fault : Fault)
  | finished (result : Except Fault Job)

namespace Worker

/-- The id of the job that a worker has taken and not brought to its end. -/
def held? : Worker → Option Int
  | waiting _ | finished _ => none
  | loading row _ => some row.id
  | reaching _ id _ _ | cancelling id _ _ | looking _ id _ _ _ | screening _ id _ _ _
  | counting _ id _ _ _ | stopping id _ _ _ => some id

/-- A worker that an error has stopped, if it stands where errors are caught. -/
def stopped? (fault : Fault) : Worker → Option Worker
  | loading row _ => some (.stopping row.id row.val none fault)
  | cancelling id job parcel | looking _ id job parcel _ | screening _ id job parcel _
  | counting _ id job parcel _ => some (.stopping id job (some parcel) fault)
  | waiting _ | reaching .. | stopping .. | finished _ => none

/-- A worker's next step. -/
def step : Worker → Proc Worker
  | waiting handle => orStop (fun fault => finished (.error fault)) (claim handle) fun
    | (row, none) => pure (finished (.ok row.val))
    | (row, some parcels) => do
      row.val.tellOfStart
      pure (loading row parcels)
  | loading row parcels => orStop (stopping row.id row.val none)
      (Screening.loadContext row.val.scope.hasWords row.val.scope.hasCodes) fun context =>
        pure (reaching context row.id row.val parcels)
  | reaching _ id job [] => orStop (fun fault => finished (.error fault))
      (complete id job .completed none) fun ended => pure (finished (.ok ended))
  | reaching context id job (parcel :: rest) => orStop (stopping id job (some parcel))
      (isToBeCancelled id) fun isToBe =>
        pure (if isToBe then cancelling id job parcel else looking context id job parcel rest)
  | cancelling id job parcel => orStop (stopping id job (some parcel))
      (complete id job .cancelled none) fun ended => pure (finished (.ok ended))
  | looking context id job parcel rest => orStop (stopping id job (some parcel))
      (Proc.query fun store => .ok (store.parcels.has parcel)) fun isThere =>
        pure (if isThere then screening context id job parcel rest
          else counting context id job parcel rest)
  | screening context id job parcel rest => orStop (stopping id job (some parcel))
      (Screening.screenWith context job.scope parcel) fun _ =>
        pure (counting context id job parcel rest)
  | counting context id job parcel rest =>
    let counted := { job with processed := job.processed + 1 }
    orStop (stopping id counted (some parcel)) (saveCount id counted) fun _ =>
      pure (reaching context id counted rest)
  | stopping id job parcel fault => do
    job.tellOfFault parcel fault
    orStop (fun failure => finished (.error failure))
      (complete id job .failed (some (job.errorOf fault))) fun ended => pure (finished (.ok ended))
  | finished result => pure (finished result)

end Worker

/-- What a step of a worker does to the stored jobs. -/
inductive Effect (s : Session) (worker : Worker) (t : Session) (next : Worker) : Prop
  /-- No job that is over is changed, and the worker holds the job that it held or none. -/
  | works (hmove : Store.JobsMove s.store t.store)
      (hheld : next.held? = worker.held? ∨ next.held? = none)
  /-- A pending job is taken. -/
  | takes (id : Int) (hfree : worker.held? = none) (hheld : next.held? = some id)
      (hmove : Store.JobsMove s.store t.store)
      (hpending : ∃ job, ⟨id, job⟩ ∈ s.store.jobs.rows ∧ job.status = .pending)
      (hrunning : ∃ job, ⟨id, job⟩ ∈ t.store.jobs.rows ∧ job.status = .running)
  /-- The job held is brought to its end. -/
  | ends (id : Int) (own : Job) (hheld : worker.held? = some id) (hfree : next.held? = none)
      (hover : own.status.isActive = false) (htime : own.completedAt = some s.clock)
      (hstore : t.store = { s.store with jobs := s.store.jobs.modify id own.withEndOf })

variable {s : Session}

/-- A step that does not end the job held, whether it comes to a result or stops the worker. -/
theorem exists_orStop {α : Type} {worker : Worker} {stopped : Fault → Worker} {proc : Proc α}
    {next : α → Worker} (hkeeps : KeepsAt Store.JobsMove s proc)
    (hnext : ∀ a, (next a).held? = worker.held?)
    (hstopped : ∀ fault, (stopped fault).held? = worker.held?) :
    ∃ later t, orStop stopped proc (fun a => pure (next a)) s = (.ok later, t) ∧
      Effect s worker t later := by
  rw [orStop_apply]
  unfold KeepsAt at hkeeps
  cases hrun : proc s with
  | mk result t =>
    rw [hrun] at hkeeps
    cases result with
    | ok a => exact ⟨next a, t, rfl, .works hkeeps (.inl (hnext a))⟩
    | error fault => exact ⟨stopped fault, t, rfl, .works hkeeps (.inl (hstopped fault))⟩

/-- A step in which the end of the job held is saved, in a session with the store and the clock of
another. -/
theorem exists_orStop_complete {id : Int} {job : Job} {status : JobStatus} {error : Option String}
    {stopped : Fault → Worker} {worker : Worker} {u : Session} (hstore : u.store = s.store)
    (hclock : u.clock = s.clock) (hover : status.isActive = false)
    (hheld : worker.held? = some id)
    (hstopped : ∀ fault, (stopped fault).held? = some id ∨ (stopped fault).held? = none) :
    ∃ later t, orStop stopped (complete id job status error)
        (fun ended => pure (Worker.finished (.ok ended))) u = (.ok later, t) ∧
      Effect s worker t later := by
  rw [orStop_apply]
  rcases complete_cases id job status error u with ⟨fault, t, hrun, hsame⟩ | ⟨t, hrun, hsaved⟩
  · rw [hrun]
    refine ⟨stopped fault, t, rfl, .works ?_ ?_⟩
    · rw [hsame, hstore]
      exact refl_of Store.JobsMove s.store
    · rw [hheld]
      exact hstopped fault
  · rw [hrun]
    refine ⟨_, t, rfl, .ends id (job.ended status error u.clock) hheld rfl hover ?_ ?_⟩
    · rw [← hclock]
      rfl
    · rw [hsaved, hstore]

/-- What a step can do. -/
theorem exists_step (worker : Worker) (s : Session) :
    ∃ later t, worker.step s = (.ok later, t) ∧ Effect s worker t later := by
  cases worker with
  | waiting handle =>
    have hmove : KeepsAt Store.JobsMove s (claim handle) := keepsAt_claim handle
    rw [Worker.step, orStop_apply]
    unfold KeepsAt at hmove
    cases hrun : claim handle s with
    | mk result t =>
      rw [hrun] at hmove
      cases result with
      | error fault => exact ⟨_, t, rfl, .works hmove (.inr rfl)⟩
      | ok taken =>
        obtain ⟨row, parcels⟩ := taken
        cases parcels with
        | none => exact ⟨_, t, rfl, .works hmove (.inr rfl)⟩
        | some parcels =>
          obtain ⟨hpending, hrunning⟩ := claim_taken hrun
          obtain ⟨events, htold⟩ := exists_tellOfStart row.val t
          exact ⟨.loading row parcels, { t with events := events }, bind_of_ok htold,
            .takes row.id rfl rfl hmove hpending hrunning⟩
  | loading row parcels =>
    exact exists_orStop (Screening.keepsAt_loadContext _ _) (fun _ => rfl) fun _ => rfl
  | reaching context id job parcels =>
    cases parcels with
    | nil => exact exists_orStop_complete rfl rfl rfl rfl fun _ => .inr rfl
    | cons parcel rest =>
      refine exists_orStop (keepsAt_query _) (fun isToBe => ?_) fun _ => rfl
      cases isToBe <;> rfl
  | cancelling id job parcel =>
    exact exists_orStop_complete rfl rfl rfl rfl fun _ => .inl rfl
  | looking context id job parcel rest =>
    refine exists_orStop (keepsAt_query _) (fun isThere => ?_) fun _ => rfl
    cases isThere <;> rfl
  | screening context id job parcel rest =>
    have hkeeps : KeepsAt Store.JobsMove s (Screening.screenWith context job.scope parcel) :=
      Screening.keepsAt_screenWith fun change h =>
        Store.jobsMove_of_jobs_eq (Screening.sameBut_screenParcel h).jobs
    exact exists_orStop hkeeps (fun _ => rfl) fun _ => rfl
  | counting context id job parcel rest =>
    exact exists_orStop (keepsAt_saveCount id _) (fun _ => rfl) fun _ => rfl
  | stopping id job parcel fault =>
    obtain ⟨events, htold⟩ := exists_tellOfFault job parcel fault s
    rw [Worker.step, bind_of_ok htold]
    exact exists_orStop_complete rfl rfl rfl rfl fun _ => .inr rfl
  | finished result =>
    exact ⟨_, s, rfl, .works (refl_of Store.JobsMove s.store) (.inl rfl)⟩

end Clearance.Job

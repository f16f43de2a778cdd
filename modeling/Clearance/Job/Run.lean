import Clearance.Job.Request
import Clearance.Screening.Loading
import Clearance.Session.Monitoring

/-!
# Running a job

A worker takes a pending job and screens the parcels that are open then, one by one. Before each
parcel it asks whether the job is to be cancelled, and after each it saves how far it has come; a
parcel that has been deleted meanwhile is counted and not screened. An error stops the job, is
reported to the monitor and becomes the error of the job; what has been screened before stays.

The worker has a record of its own of the job. It saves from it what it changes and no more, so a
request for cancellation that was stored meanwhile is not lost.
-/

set_option autoImplicit false

namespace Clearance

namespace Job

/-- A pending job taken, with the parcels that it has to screen; a job in any other stage is left
as it is and comes without. -/
def claim (handle : Option Handle) : Proc (Row Job × Option (List Int)) := Proc.atomic do
  match ← Proc.query fun store => .ok (store.jobOf? handle) with
  | none => Proc.fail (.missing .job)
  | some row =>
    if row.val.status = .pending then do
      let parcels ← Proc.query fun store => .ok (store.openParcels row.val.register)
      let job := row.val.started parcels.length (← Proc.ask (·.clock))
      Proc.execute fun store => store.saveJob row.id [job.total] job.withStartOf
      pure (⟨row.id, job⟩, some parcels)
    else pure (row, none)

/-- Whether a job's record asks for its cancellation. -/
def isToBeCancelled (id : Int) : Proc Bool :=
  Proc.query fun store => .ok (store.jobs.rows.any fun row => row.id == id &&
    row.val.cancelRequested)

/-- What happens while a job is running: `before k` is done just before the `k`-th parcel is
screened, and `strikes k` are the errors that strike while it is screened. -/
structure Meanwhile where
  before : Nat → Proc Unit
  strikes : Nat → Screening.Strikes

namespace Meanwhile

/-- Something is done before the parcels, and no error strikes while they are screened. -/
@[reducible] def doing (before : Nat → Proc Unit) : Meanwhile := ⟨before, fun _ => .calm⟩

/-- Nothing happens. -/
@[reducible] def nothing : Meanwhile := doing fun _ => pure ()

instance : Coe (Nat → Proc Unit) Meanwhile := ⟨doing⟩

end Meanwhile

/-- A parcel screened as the next one, if it is still there. `count` parcels have been screened
before it. The result is how many have been screened then. -/
def screenNext (context : Screening.Context) (scope : Scope) (meanwhile : Meanwhile) (count : Nat)
    (parcel : Int) : Proc Nat := do
  if ← Proc.query fun store => .ok (store.parcels.has parcel) then
    meanwhile.before (count + 1)
    let _ ← (meanwhile.strikes (count + 1)).screenWith context scope parcel
    pure (count + 1)
  else pure count

/-- How far a job is counted, saved. -/
def saveCount (id : Int) (job : Job) : Proc Unit :=
  Proc.execute fun store => store.saveJob id [job.processed] job.withCountOf

/-- How the way of a worker through the parcels ends, with its own record of the job. -/
inductive Pass where
  /-- Every parcel has been reached. -/
  | through (job : Job)
  | cancelled (job : Job)
  /-- An error has stopped the job, at a parcel or before the first. -/
  | stopped (job : Job) (parcel : Option Int) (fault : Fault)

/-- What a visit to a parcel comes to. -/
inductive Visit where
  /-- The worker goes on, with how many parcels have been screened and its record of the job. -/
  | goesOn (count : Nat) (job : Job)
  | ends (pass : Pass)

/-- What follows a procedure; if the procedure fails, what its fault stands for. -/
def orStop {α β : Type} (stopped : Fault → β) (proc : Proc α) (next : α → Proc β) : Proc β := do
  match ← Proc.attempt proc with
  | .ok a => next a
  | .error fault => pure (stopped fault)

/-- A worker's visit to a parcel, with `count` parcels screened before it: the job is cancelled if
that is asked for, or else the parcel is screened and counted. -/
def visit (context : Screening.Context) (meanwhile : Meanwhile) (id : Int) (count : Nat)
    (job : Job) (parcel : Int) : Proc Visit :=
  let stopped := fun job fault => Visit.ends (.stopped job (some parcel) fault)
  orStop (stopped job) (isToBeCancelled id) fun isToBe =>
    if isToBe then
      orStop (stopped job) (complete id job .cancelled none) fun ended =>
        pure (.ends (.cancelled ended))
    else
      orStop (stopped job) (screenNext context job.scope meanwhile count parcel) fun count =>
        let counted := { job with processed := job.processed + 1 }
        orStop (stopped counted) (saveCount id counted) fun _ => pure (.goesOn count counted)

/-- The way of a worker through the parcels that are left, of which `count` have been screened. -/
def pass (context : Screening.Context) (meanwhile : Meanwhile) (id : Int) (count : Nat)
    (job : Job) : List Int → Proc Pass
  | [] => pure (.through job)
  | parcel :: rest => do
    match ← visit context meanwhile id count job parcel with
    | .goesOn count counted => pass context meanwhile id count counted rest
    | .ends pass => pure pass

/-- How far a job has come, in words. -/
def timeUp (job : Job) : String :=
  s!"Time limit exceeded after {job.processed}/{job.total} parcels"

/-- The error of a job that a fault has stopped. -/
def errorOf (job : Job) : Fault → String
  | .raised .softTimeLimit _ => job.timeUp
  | fault => fault.reason

/-- What is told the monitor of a job. -/
def monitored (job : Job) : Monitor.JobReport where
  register := job.register
  kind := job.scope.name
  handle := job.handle.text
  processed := job.processed
  total := job.total

/-- The monitor is told of a fault that has stopped the job, at a parcel or before the first. -/
def tellOfFault (job : Job) (parcel : Option Int) (fault : Fault) : Proc Unit :=
  Monitor.captureError fault.kind fault.text (some job.monitored) parcel

/-- The job brought to its end. -/
def conclude (id : Int) : Pass → Proc Job
  | .through job => complete id job .completed none
  | .cancelled job => pure job
  | .stopped job parcel fault => do
    job.tellOfFault parcel fault
    complete id job .failed (some (job.errorOf fault))

/-- The way of a worker through all parcels of a job, once the rules are loaded. -/
def work (meanwhile : Meanwhile) (row : Row Job) (parcels : List Int) : Proc Pass :=
  orStop (.stopped row.val none)
    (Screening.loadContext row.val.scope.hasWords row.val.scope.hasCodes) fun context =>
      pass context meanwhile row.id 0 row.val parcels

/-- The monitor is told that the job starts. -/
def tellOfStart (job : Job) : Proc Unit :=
  Monitor.addBreadcrumb (some job.register) s!"Screening started ({job.scope.name})"
    Monitor.defaultLevel [("job_handle", .text job.handle.text), ("total", .number job.total)]

/-- A job run to its end if it is pending. -/
def run (handle : Option Handle) (meanwhile : Meanwhile) : Proc Job := do
  match ← claim handle with
  | (row, none) => pure row.val
  | (row, some parcels) =>
    row.val.tellOfStart
    conclude row.id (← work meanwhile row parcels)

/-- A job requested, and run at once if it is a new one and `runsNow` holds. Before the `k`-th
parcel is screened `before k` is done. The job comes as it was requested. -/
def start (register : Int) (scope : Scope) (runsNow : Bool) (before : Nat → Proc Unit) :
    Proc Job := do
  let (job, isNew) ← request register scope
  if isNew && runsNow then
    let _ ← run (some job.handle) before
    pure job
  else pure job

/-- A job taken by a worker that has `total` parcels to screen, whatever its stage. -/
def markStarted (handle : Option Handle) (total : Int) : Proc Job := do
  match ← Proc.query fun store => .ok (store.jobOf? handle) with
  | none => Proc.fail (.missing .job)
  | some row =>
    let job := row.val.started total (← Proc.ask (·.clock))
    Proc.execute fun store => store.saveJob row.id [job.total] job.withStartOf
    pure job

end Job

end Clearance

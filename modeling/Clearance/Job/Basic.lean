import Clearance.Job.Handle

/-!
# Screening jobs

A job screens the open parcels of a register again. Its row records how far it has come, so that
anybody can read it there. A job is pending until a worker takes it, then running, and at last
completed, failed or cancelled. What a job screens again is its scope: everything, the words only
or the codes only.
-/

set_option autoImplicit false

namespace Clearance

/-- What is screened again. -/
inductive Scope where
  | full
  | words
  | codes
  deriving DecidableEq, Repr

namespace Scope

/-- What a scope is called. -/
def name : Scope → String
  | full => "full"
  | words => "words"
  | codes => "codes"

/-- The scope of a name. -/
def ofName? : String → Option Scope
  | "full" => some full
  | "words" => some words
  | "codes" => some codes
  | _ => none

/-- Whether the stop words and keywords of a parcel are screened again. -/
def hasWords : Scope → Bool
  | full | words => true
  | codes => false

/-- Whether the code prefixes of a parcel are screened again. -/
def hasCodes : Scope → Bool
  | full | codes => true
  | words => false

theorem ofName?_name (scope : Scope) : ofName? scope.name = some scope := by cases scope <;> rfl

end Scope

/-- The stages of a job. -/
inductive JobStatus where
  | pending
  | running
  | completed
  | failed
  | cancelled
  deriving DecidableEq, Repr

namespace JobStatus

/-- What a stage is called. -/
def name : JobStatus → String
  | pending => "pending"
  | running => "running"
  | completed => "completed"
  | failed => "failed"
  | cancelled => "cancelled"

/-- Whether a job in this stage is in flight. -/
def isActive : JobStatus → Bool
  | pending | running => true
  | completed | failed | cancelled => false

end JobStatus

/-- The record of a job. Times are counted in seconds. -/
structure Job where
  handle : Handle
  register : Int
  scope : Scope
  status : JobStatus
  /-- How many parcels there are to screen. -/
  total : Int
  /-- How many of them are done. -/
  processed : Int
  finished : Bool
  error : Option String
  cancelRequested : Bool
  createdAt : Int
  startedAt : Option Int
  completedAt : Option Int
  deriving DecidableEq, Repr

namespace Job

/-- A job that nobody has taken yet. -/
def fresh (handle : Handle) (register : Int) (scope : Scope) (now : Int) : Job where
  handle := handle
  register := register
  scope := scope
  status := .pending
  total := 0
  processed := 0
  finished := false
  error := none
  cancelRequested := false
  createdAt := now
  startedAt := none
  completedAt := none

/-- How long the job took, once it has begun and ended. -/
def duration? (job : Job) : Option Int := do
  let started ← job.startedAt
  let completed ← job.completedAt
  pure (completed - started)

/-- The longest time limit, in days of 86400 seconds, that can be compared with a duration. -/
def maxLimitDays : Int := 999999999

/-- Whether a time limit can be compared with a duration. -/
def isCountable (limit : Int) : Bool :=
  let days := Int.fdiv limit 86400
  decide (-maxLimitDays ≤ days ∧ days ≤ maxLimitDays)

/-- Whether the job has been in flight for longer than a time limit: since it began, or since it
was made if it has not begun. None if the limit cannot be compared with a duration, which matters
only for a job that has not ended. -/
def isStale? (job : Job) (limit now : Int) : Option Bool :=
  if job.finished then some false
  else if isCountable limit then
    some (decide (limit < now - job.startedAt.getD job.createdAt))
  else none

/-- The job taken by a worker that has `total` parcels to screen. -/
def started (job : Job) (total now : Int) : Job :=
  { job with status := .running, total := total, startedAt := some now }

/-- The job ended in a stage, with an error if it failed. -/
def ended (job : Job) (status : JobStatus) (error : Option String) (now : Int) : Job :=
  { job with
    status := status
    finished := true
    completedAt := some now
    error := error.or job.error }

/-- The error of a job that was given up because it ran for too long. -/
def abandoned : String := "Abandoned: did not finish within the job time limit"

/-- A job in words. -/
def describe (handle register status : String) : String :=
  s!"Screening {handle} - register {register} ({status})"

/-- The job in words. -/
def text (job : Job) : String :=
  describe job.handle.text (toString job.register) job.status.name

end Job

end Clearance

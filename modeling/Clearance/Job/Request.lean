import Clearance.Session.Transaction

/-!
# Requesting a job

A register has at most one job in flight. A request for a job of the kind in flight gets that job;
a request for another kind is refused. A job that has been in flight for longer than the time limit
is given up as failed and is in nobody's way any more.
-/

set_option autoImplicit false

namespace Clearance

/-- The scope that a value names. -/
def Scope.ofLiteral? : Text.Literal → Option Scope
  | .text name => ofName? name
  | _ => none

/-- Whether a job comes before another when the job in flight is looked for: the one made last
first, and of those made at one time a pending one first. -/
def Job.isAhead (a b : Row Job) : Bool :=
  decide (b.val.createdAt < a.val.createdAt) ||
    (a.val.createdAt == b.val.createdAt &&
      (a.val.status == .pending || b.val.status != .pending))

/-- The job in flight of a register. -/
def Store.activeJob? (store : Store) (register : Int) : Option (Row Job) :=
  let active := store.jobs.rows.filter fun row =>
    row.val.register == register && row.val.status.isActive
  (active.mergeSort Job.isAhead).head?

namespace Job

/-- The end of a job, put into the stored record. -/
def withEndOf (own stored : Job) : Job :=
  { stored with
    status := own.status
    finished := own.finished
    completedAt := own.completedAt
    error := own.error }

/-- The start of a job, put into the stored record. -/
def withStartOf (own stored : Job) : Job :=
  { stored with status := own.status, total := own.total, startedAt := own.startedAt }

/-- How far a job has come, put into the stored record. -/
def withCountOf (own stored : Job) : Job := { stored with processed := own.processed }

/-- A job that is over now, in a stage and with an error if it failed, and saved so. The result is
the worker's own record. -/
def complete (id : Int) (job : Job) (status : JobStatus) (error : Option String) : Proc Job := do
  let ended := job.ended status error (← Proc.ask (·.clock))
  Proc.execute fun store => store.saveJob id [] ended.withEndOf
  pure ended

/-- A new job, with the next handle. -/
def create (register : Int) (scope : Scope) : Proc Job := do
  Proc.alter fun s => { s with jobs := s.jobs + 1 }
  let handle := Handle.ofCount (← Proc.ask (·.jobs))
  let job := fresh handle register scope (← Proc.ask (·.clock))
  let _ ← Proc.execute fun store => .ok (store.addJob job)
  pure job

/-- Whether a job has been in flight for longer than the time limit. -/
def isOverdue (job : Job) : Proc Bool := do
  match job.isStale? (← Proc.ask (·.timeLimit)) (← Proc.ask (·.clock)) with
  | some isStale => pure isStale
  | none => Proc.fail .limitTooLong

/-- The job in flight of a register, unless there is none or it has been given up just now. -/
def inFlight? (register : Int) : Proc (Option Job) := do
  match ← Proc.query fun store => .ok (store.activeJob? register) with
  | none => pure none
  | some row =>
    if ← isOverdue row.val then
      let _ ← complete row.id row.val .failed (some abandoned)
      pure none
    else pure (some row.val)

/-- A job for a register, and whether it is a new one. -/
def request (register : Int) (scope : Scope) : Proc (Job × Bool) := Proc.atomic do
  if ← Proc.query fun store => .ok (store.registers.has register) then
    match ← inFlight? register with
    | some job =>
      if job.scope = scope then pure (job, false)
      else Proc.fail (.alreadyRunning register job.scope.name scope.name)
    | none => pure (← create register scope, true)
  else Proc.fail (.missing .register)

end Job

end Clearance

import Clearance.Job.Request

/-!
# Following and cancelling a job

Anybody who knows the handle of a job can ask how far it has come and ask for its cancellation. A
pending job is cancelled at once; a running one is cancelled by its worker before the next parcel.
-/

set_option autoImplicit false

namespace Clearance

namespace Handle

/-- The handle that a value writes. -/
def ofLiteral? (value : Text.Literal) : Option Handle := ofText? value.plain

end Handle

namespace Progress

/-- What is known of a handle that no job has. -/
def unknown (handle : Text.Literal) : Progress where
  handle := match handle with
    | .null => none
    | value => some value.plain
  total := -1
  processed := -1
  finished := true
  error := none
  status := none

/-- How far a job has come. -/
def ofJob (job : Job) : Progress where
  handle := some job.handle.text
  total := job.total
  processed := job.processed
  finished := job.finished
  error := job.error
  status := some job.status

end Progress

namespace Job

/-- How far the job of a handle has come. -/
def progress (handle : Text.Literal) : Proc Progress :=
  match Handle.ofLiteral? handle with
  | none => pure (.unknown handle)
  | some own => do
    match ← Proc.query fun store => .ok (store.jobOf? (some own)) with
    | some row => pure (.ofJob row.val)
    | none => pure (.unknown handle)

/-- The cancellation of the job of a handle asked for; whether the job is in flight. -/
def cancel (handle : Text.Literal) : Proc Bool :=
  match Handle.ofLiteral? handle with
  | none => pure false
  | some own => Proc.atomic do
    match ← Proc.query fun store => .ok (store.jobOf? (some own)) with
    | none => pure false
    | some row =>
      if row.val.status.isActive then do
        let job := { row.val with cancelRequested := true }
        Proc.execute fun store => store.saveJob row.id [] fun stored =>
          { stored with cancelRequested := true }
        if job.status = .pending then
          let _ ← complete row.id job .cancelled none
          pure true
        else pure true
      else pure false

end Job

end Clearance

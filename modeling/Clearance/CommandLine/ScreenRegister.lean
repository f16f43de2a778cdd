import Clearance.CommandLine.Arguments
import Clearance.Job.Progress
import Clearance.Job.Run

/-!
# The command

The command screens the parcels of a register again, in this process if it is asked to and
otherwise by a worker. It prints which job it started or joined and what has come of it. A job that
is in flight already is reported as it is.
-/

set_option autoImplicit false

namespace Clearance.CommandLine

/-- A line in the colour of success, if colours are asked for. -/
def success (options : Options) (text : String) : String :=
  if options.forceColor then s!"\x1b[32;1m{text}\x1b[0m\n" else s!"{text}\n"

/-- What can be told of a fault for which no job has been started. -/
def explain (register : Int) : Fault → Fault
  | .missing .register => .command s!"Register {register} does not exist"
  | .alreadyRunning own running requested =>
    .command (Fault.alreadyRunning own running requested).text
  | fault => fault

/-- How far a job has come, in words. -/
def summary (progress : Progress) : String :=
  let status := match progress.status with
    | some status => status.name
    | none => Text.Literal.shown .null
  s!"{progress.processed}/{progress.total} parcels, status {status}"

/-- The last line that the command prints, or the fault because of a job that has an error. -/
def verdict (options : Options) (progress : Progress) : Except Fault String :=
  let summary := summary progress
  match progress.error.filter (· != "") with
  | some error => .error (.command s!"Screening failed after {summary}: {error}")
  | none => .ok (success options s!"Done: {summary}")

/-- A job run in this process if it is pending, and then reported. -/
def follow (options : Options) (job : Job) (before : Nat → Proc Unit) : Proc String := do
  let job ← if job.status = .pending then Job.run (some job.handle) before else pure job
  Proc.lift (verdict options (← Job.progress (.text job.handle.text)))

/-- The line that names the job. -/
def headline (register : Int) (scope : Scope) (job : Job) : String :=
  s!"Screening {job.handle.text} ({scope.name}) for register {register}\n"

/-- What the command prints, and why it fails if it does. What it has printed before it fails stays
printed. -/
def perform (register : Int) (options : Options) (before : Nat → Proc Unit) :
    Proc (String × Option Fault) := do
  match ← Proc.attempt (Job.start register options.scope (!options.sync) before) with
  | .error fault => pure ("", some (explain register fault))
  | .ok job =>
    let line := headline register options.scope job
    if options.sync then
      match ← Proc.attempt (follow options job before) with
      | .ok last => pure (line ++ last, none)
      | .error fault => pure (line, some fault)
    else pure (line ++ success options "Queued", none)

/-- Why the two options about colours cannot be used together. -/
def colorConflict : String :=
  "The --no-color and --force-color options can't be used together."

/-- The command with its arguments. -/
def screenRegister (arguments : List String) (before : Nat → Proc Unit) :
    Proc (String × Option Fault) :=
  match parse arguments with
  | .error fault => pure ("", some fault)
  | .ok (register, options) =>
    if options.noColor && options.forceColor then pure ("", some (.command colorConflict))
    else perform register options before

end Clearance.CommandLine

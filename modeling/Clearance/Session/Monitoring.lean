import Clearance.Session.Basic

/-!
# Calls to the monitor

A call to the monitor that fails tells nothing and raises a fault. The calls that screening makes
are guarded: a fault ends the calls that are made under the same guard, and goes no further. When an
error is captured the breadcrumb has a guard of its own, and the scope has another with all that is
told in it.
-/

set_option autoImplicit false

namespace Clearance.Monitor

/-- The fault of a call that fails. Every guard is for any fault. -/
def unreachable : Fault := .raised .runtime (some "monitor unreachable")

/-- The monitor is told an event. -/
def tell (event : Event) : Proc Unit :=
  Proc.alter fun s => { s with events := s.events ++ [event] }

/-- The monitor is told events, one by one. -/
def tellAll : List Event → Proc Unit
  | [] => pure ()
  | event :: rest => do
    tell event
    tellAll rest

/-- A call that may fail: the monitor is told an event, or there is a fault. -/
def call (fails : Outages → Bool) (event : Event) : Proc Unit := do
  if fails (← Proc.ask (·.outages)) then Proc.fail unreachable else tell event

/-- Calls whose faults go no further. -/
def guarded (calls : Proc Unit) : Proc Unit := do
  let _ ← Proc.attempt calls
  pure ()

/-- A breadcrumb is left about a register. -/
def addBreadcrumb (register : Option Int) (message level : String) (extra : Fields) : Proc Unit :=
  guarded (call (·.breadcrumb) (.breadcrumb (crumbAbout register message level extra)))

/-- An error is captured: a breadcrumb is left, and a scope opened in which the monitor is told of
the job, the parcel and the error. -/
def captureError (kind text : String) (job : Option JobReport) (parcel : Option Int) :
    Proc Unit := do
  addBreadcrumb (job.map (·.register)) s!"Error: {kind}" "error" (aboutParcel parcel)
  guarded do
    call (·.scope) .scope
    tellAll (aboutJob job)
    tellAll (extras (aboutParcel parcel))
    call (·.capture) (.exception kind text)

end Clearance.Monitor

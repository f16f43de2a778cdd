import Clearance.Job.Run

/-!
# What is told the monitor

Guarded calls to the monitor come to no fault, whichever of them fail. They put events behind those
told before, and do nothing else: under each guard the events up to the first call that fails.
-/

set_option autoImplicit false

namespace Clearance

open Proc

namespace Monitor

/-- Events put behind those told before. -/
def report (events : Outages → List Event) : Proc Unit :=
  alter fun s => { s with events := s.events ++ events s.outages }

variable {fails : Outages → Bool} {event : Event} {next : Proc Unit}
  {events later : Outages → List Event}

theorem report_apply (events : Outages → List Event) (s : Session) :
    report events s = (.ok (), { s with events := s.events ++ events s.outages }) := rfl

theorem report_nil (s : Session) (h : events s.outages = []) : report events s = (.ok (), s) := by
  rw [report_apply, h, List.append_nil]

theorem report_bind_report : (report events >>= fun _ => report later) =
    report fun outages => events outages ++ later outages := by
  funext s
  rw [bind_of_ok (report_apply events s), report_apply, report_apply, List.append_assoc]

theorem tellAll_eq (events : List Event) : tellAll events = report fun _ => events := by
  induction events with
  | nil =>
    funext s
    exact (report_nil s rfl).symm
  | cons event rest ih =>
    rw [tellAll, ih]
    exact @report_bind_report (fun _ => [event]) fun _ => rest

/-! ## Guards -/

theorem guarded_apply (calls : Proc Unit) (s : Session) :
    guarded calls s = (.ok (), (calls s).2) := rfl

/-- A call that fails tells nothing. -/
theorem call_of_fails {s : Session} (h : fails s.outages = true) :
    call fails event s = (.error unreachable, s) := by
  unfold call
  rw [bind_of_ok (ask_apply _ s), if_pos h]
  rfl

theorem call_of_not_fails {s : Session} (h : fails s.outages = false) :
    call fails event s = tell event s := by
  unfold call
  rw [bind_of_ok (ask_apply _ s), h]
  rfl

/-- A guarded call tells its event unless it fails. -/
theorem guarded_call (fails : Outages → Bool) (event : Event) :
    guarded (call fails event) = report fun outages => if fails outages then [] else [event] := by
  funext s
  rw [guarded_apply]
  cases h : fails s.outages with
  | true => rw [call_of_fails h, report_nil s (if_pos h)]
  | false =>
    rw [call_of_not_fails h, report_apply, h]
    rfl

/-- Where a call fails what is to follow it under the same guard is left out. -/
theorem guarded_call_bind (hnext : guarded next = report later) :
    guarded (call fails event >>= fun _ => next) =
      report fun outages => if fails outages then [] else event :: later outages := by
  funext s
  rw [guarded_apply]
  cases h : fails s.outages with
  | true => rw [bind_of_error (call_of_fails h), report_nil s (if_pos h)]
  | false =>
    have htold : call fails event s = (.ok (), { s with events := s.events ++ [event] }) :=
      call_of_not_fails h
    rw [bind_of_ok htold, ← guarded_apply, hnext, report_apply, report_apply, h, List.append_assoc]
    rfl

/-- Calls that do not fail are followed by what is to follow them. -/
theorem guarded_report_bind (hnext : guarded next = report later) :
    guarded (report events >>= fun _ => next) =
      report fun outages => events outages ++ later outages := by
  funext s
  rw [guarded_apply, bind_of_ok (report_apply events s), ← guarded_apply, hnext, report_apply,
    report_apply, List.append_assoc]

/-! ## The calls that screening makes -/

theorem addBreadcrumb_eq (register : Option Int) (message level : String) (extra : Fields) :
    addBreadcrumb register message level extra =
      report fun outages => breadcrumb outages register message level extra :=
  guarded_call _ _

theorem captureError_eq (kind text : String) (job : Option JobReport) (parcel : Option Int) :
    captureError kind text job parcel =
      report fun outages => capture outages kind text job parcel := by
  unfold captureError
  rw [addBreadcrumb_eq, tellAll_eq, tellAll_eq,
    guarded_call_bind (guarded_report_bind (guarded_report_bind (guarded_call _ _))),
    report_bind_report]
  rfl

end Monitor

namespace Job

theorem tellOfStart_eq (job : Job) : job.tellOfStart = Monitor.report fun outages =>
    Monitor.breadcrumb outages (some job.register) s!"Screening started ({job.scope.name})"
      Monitor.defaultLevel [("job_handle", .text job.handle.text), ("total", .number job.total)] :=
  Monitor.addBreadcrumb_eq _ _ _ _

theorem tellOfFault_eq (job : Job) (parcel : Option Int) (fault : Fault) :
    job.tellOfFault parcel fault = Monitor.report fun outages =>
      Monitor.capture outages fault.kind fault.text (some job.monitored) parcel :=
  Monitor.captureError_eq _ _ _ _

/-- Whatever the monitor is told at the start of a job, nothing else is done. -/
theorem exists_tellOfStart (job : Job) (s : Session) :
    ∃ events, job.tellOfStart s = (.ok (), { s with events := events }) := by
  rw [tellOfStart_eq]
  exact ⟨_, rfl⟩

/-- Whatever the monitor is told of a fault, nothing else is done. -/
theorem exists_tellOfFault (job : Job) (parcel : Option Int) (fault : Fault) (s : Session) :
    ∃ events, job.tellOfFault parcel fault s = (.ok (), { s with events := events }) := by
  rw [tellOfFault_eq]
  exact ⟨_, rfl⟩

end Job

end Clearance

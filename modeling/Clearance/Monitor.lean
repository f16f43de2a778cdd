import Clearance.Fault
import Clearance.Job.Handle

/-!
# Monitoring

What is reported of screening to an outside monitor. There are three calls: to leave a breadcrumb,
to open a scope and to capture an error. A call that fails reports nothing, and no failure goes
any further: a failed breadcrumb leaves the capture alone, and a failed scope takes with it all
that would have been reported in it.
-/

set_option autoImplicit false

namespace Clearance.Monitor

/-- Fields reported with an event, by name. -/
abbrev Fields : Type := List (String × Text.Literal)

/-- A breadcrumb: what happened and to what it belongs. -/
structure Breadcrumb where
  message : String
  level : String
  data : Fields

/-- What is reported. -/
inductive Event where
  | breadcrumb (crumb : Breadcrumb)
  | scope
  | tag (name value : String)
  | extra (name : String) (value : Text.Literal)
  | exception (kind text : String)

/-- Which of the three calls fail. -/
structure Outages where
  breadcrumb : Bool
  scope : Bool
  capture : Bool
  deriving DecidableEq, Repr

/-- No call fails. -/
def Outages.none : Outages := ⟨false, false, false⟩

/-- Fields with one more or another value under a name; a name that is there keeps its place. -/
def setField (name : String) (value : Text.Literal) : Fields → Fields
  | [] => [(name, value)]
  | (other, old) :: rest =>
    if other == name then (name, value) :: rest else (other, old) :: setField name value rest

/-- The message of a breadcrumb that is given none. -/
def defaultMessage : String := "Screening operation"

/-- The level of a breadcrumb that is given none. -/
def defaultLevel : String := "info"

/-- A breadcrumb about a register. -/
def crumbAbout (register : Option Int) (message level : String) (extra : Fields) : Breadcrumb :=
  let about := match register with
    | some id => Text.Literal.number id
    | none => .null
  ⟨message, level,
    extra.foldl (fun fields field => setField field.1 field.2 fields) [("register_id", about)]⟩

/-- What is reported of a job along with an error. -/
structure JobReport where
  register : Int
  kind : String
  handle : String
  processed : Int
  total : Int
  deriving DecidableEq, Repr

/-- What a scope tells of a job. -/
def aboutJob : Option JobReport → List Event
  | some report =>
    [.tag "screening.kind" report.kind, .extra "job_handle" (.text report.handle),
      .extra "register_id" (.number report.register),
      .extra "processed" (.number report.processed), .extra "total" (.number report.total)]
  | none => []

/-- What is told of a parcel along with an error. A parcel without an id, or with id zero, is not
reported. -/
def aboutParcel (parcel : Option Int) : Fields :=
  match parcel.filter (· != 0) with
  | some id => [("parcel_id", .number id)]
  | none => []

/-- What a scope tells of fields. -/
def extras (fields : Fields) : List Event := fields.map fun field => .extra field.1 field.2

/-- What a breadcrumb about a register reports. -/
def breadcrumb (outages : Outages) (register : Option Int) (message level : String)
    (extra : Fields) : List Event :=
  if outages.breadcrumb then [] else [.breadcrumb (crumbAbout register message level extra)]

/-- What capturing an error reports: a breadcrumb, and in a scope of its own the job, the parcel
and the error. -/
def capture (outages : Outages) (kind text : String) (job : Option JobReport)
    (parcel : Option Int) : List Event :=
  breadcrumb outages (job.map (·.register)) s!"Error: {kind}" "error" (aboutParcel parcel) ++
    if outages.scope then []
    else .scope :: (aboutJob job ++ (extras (aboutParcel parcel) ++
      if outages.capture then [] else [.exception kind text]))

end Clearance.Monitor

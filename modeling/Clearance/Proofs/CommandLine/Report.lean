import Clearance.Proofs.Job.Counting
import Clearance.Proofs.Job.Ending
import Clearance.Proofs.Job.Flight
import Clearance.Proofs.Job.Request
import Clearance.Proofs.Job.Reserved
import Clearance.Proofs.Job.Spelling

/-!
# What the command says of a job

Asked to run the job itself, the command says that a job is done, or fails and says why. It fails as
a command just if there is no such register, a job of another kind is under way, or the job that it
names has failed. A job that it says is done is over, but for one that another worker has in its
hands when the command is called: that job is reported as done while it is still running.
-/

set_option autoImplicit false

namespace Clearance

open Proc
open Session (StaysSettled KeepsJobsConsistent AllProceed KeepsJobsApart)
open CommandLine (Options headline success summary verdict follow explain screenRegister)

namespace Session

/-- A session between requests, with jobs that are consistent and apart. -/
structure IsOrderly (s : Session) : Prop where
  settled : s.IsSettled
  outside : s.inBlock = false
  consistent : s.HasConsistentJobs
  apart : s.HasJobsApart

theorem isOrderly_start (backend : Word.Backend) (outages : Monitor.Outages) :
    (start backend outages).IsOrderly where
  settled := isSettled_start backend outages
  outside := rfl
  consistent := hasConsistentJobs_start backend outages
  apart := hasJobsApart_start backend outages

theorem IsOrderly.isWhole {s : Session} (hs : s.IsOrderly) : s.isBroken = false :=
  (hs.settled hs.outside).1

/-- The register of a job is stored. -/
theorem IsOrderly.hasRegister {s : Session} (hs : s.IsOrderly) {row : Row Job}
    (hrow : row ∈ s.store.jobs.rows) : s.store.registers.has row.val.register = true :=
  (hs.settled hs.outside).2.2.jobs row hrow

theorem IsOrderly.of_keeps {s t : Session} (hs : s.IsOrderly) (hsettled : StaysSettled s t)
    (hconsistent : KeepsJobsConsistent AllProceed s t) (hapart : KeepsJobsApart s t) :
    t.IsOrderly ∧ s.jobs ≤ t.jobs :=
  have hjobs := hapart hs.apart
  ⟨⟨hsettled.isSettled hs.settled, hsettled.inBlock.trans hs.outside,
    (hconsistent hs.consistent).1, hjobs.1⟩, hjobs.2.1⟩

/-- Whatever has been asked for of an empty session, it is orderly. -/
theorem isOrderly_of_requests (backend : Word.Backend) (outages : Monitor.Outages)
    {requests : List Request} (hkeeps : ∀ operation ∈ Request.operationsOfAll requests,
      operation.respectsStages = true ∧ operation.keepsTime = true) :
    (Service.serveAll requests (start backend outages)).2.IsOrderly := by
  refine ((isOrderly_start backend outages).of_keeps ?_ ?_ ?_).1
  · exact Service.follows_serveAll Service.staysSettled_isCourse_service requests
      (fun _ _ => trivial) _
  · exact Service.follows_serveAll keepsJobsConsistent_isCourse requests hkeeps _
  · exact Service.follows_serveAll keepsJobsApart_isCourse requests
      (fun operation hmem => (hkeeps operation hmem).1) _

end Session

/-! ## The job that is named -/

namespace CommandLine

/-- Whether what the command prints begins with the line that names a job. -/
def Names (text : String) (register : Int) (scope : Scope) (job : Job) : Prop :=
  ∃ rest, text = headline register scope job ++ rest

/-- The line that says that a job is done. -/
def doneLine (options : Options) (job : Job) : String :=
  success options s!"Done: {summary (.ofJob job)}"

theorem headline_congr {a b : Job} (h : a.handle = b.handle) (register : Int) (scope : Scope) :
    headline register scope a = headline register scope b := by
  unfold headline
  rw [h]

theorem toList_headline (register : Int) (scope : Scope) (job : Job) :
    (headline register scope job).toList = "Screening ".toList ++ (job.handle.text.toList ++
      s!" ({scope.name}) for register {register}\n".toList) := by
  unfold headline
  simp only [String.toList_append, List.append_assoc]
  rfl

/-- Jobs that are named by one line have one handle. -/
theorem handle_eq_of_headline {a b : Job} (ha : a.handle.value < Handle.bound)
    (hb : b.handle.value < Handle.bound) {register : Int} {scope : Scope} {rest rest' : String}
    (h : headline register scope a ++ rest = headline register scope b ++ rest') :
    a.handle = b.handle := by
  have hlists := congrArg String.toList h
  rw [String.toList_append, String.toList_append, toList_headline, toList_headline,
    List.append_assoc, List.append_assoc, List.append_assoc, List.append_assoc] at hlists
  have hbodies := List.append_cancel_left hlists
  have htexts := (List.append_inj hbodies (by
    rw [Handle.length_text ha, Handle.length_text hb])).1
  have hread := Handle.ofText?_text ha
  rw [String.toList_inj.1 htexts, Handle.ofText?_text hb] at hread
  exact (Option.some.inj hread).symm

/-! ## The verdict -/

variable (options : Options) {job : Job} {now : Int}

theorem verdict_of_failed (h : job.IsConsistent now) (hfailed : job.status = .failed) :
    ∃ reason, verdict options (.ofJob job) = .error (.command reason) := by
  obtain ⟨text, herror, hsome⟩ := h.failed hfailed
  have hkept : (Progress.ofJob job).error.filter (· != "") = some text := by
    change job.error.filter (· != "") = some text
    rw [herror, Option.filter_some, if_pos (by rwa [bne_iff_ne])]
  unfold verdict
  rw [hkept]
  exact ⟨_, rfl⟩

theorem verdict_of_not_failed (h : job.IsConsistent now) (hunharmed : job.status ≠ .failed) :
    verdict options (.ofJob job) = .ok (doneLine options job) := by
  have hnone : (Progress.ofJob job).error = none := h.unharmed hunharmed
  unfold verdict
  rw [hnone]
  rfl

/-- What following a job comes to: the verdict on its stored record, or an error of another kind in
case that the job could not be taken or its end could not be saved. Then it has not failed. -/
def Tells (options : Options) (handle : Handle) (result : Except Fault String) (t : Session) :
    Prop :=
  (∃ row ∈ t.store.jobs.rows, row.val.handle = handle ∧
    result = verdict options (.ofJob row.val)) ∨
  ∃ fault, result = .error fault ∧ (∀ reason, fault ≠ .command reason) ∧
    ∀ row ∈ t.store.jobs.rows, row.val.handle = handle → row.val.status ≠ .failed

/-- A stored job is told of as it is stored. -/
theorem verdict_of_stored {t : Session} {row : Row Job} (ht : t.IsOrderly)
    (hrow : row ∈ t.store.jobs.rows) (hbound : row.val.handle.value < Handle.bound) :
    (do Proc.lift (verdict options (← Job.progress (.text row.val.handle.text))) : Proc String) t =
      (verdict options (.ofJob row.val), t) := by
  have hread : Handle.ofLiteral? (.text row.val.handle.text) = some row.val.handle := by
    unfold Handle.ofLiteral? Text.Literal.plain
    exact Handle.ofText?_text hbound
  rw [bind_of_ok (Job.progress_of_stored hread ht.isWhole (ht.apart.jobOf?_eq hrow)), lift]

end CommandLine

/-! ## A job that is followed -/

namespace CommandLine

variable {options : Options} {s t : Session} {row : Row Job} {before : Nat → Proc Unit}

/-- A job that somebody else has taken is told of as it is. -/
theorem follow_of_ne_pending (hs : s.IsOrderly) (hrow : row ∈ s.store.jobs.rows)
    (hbound : row.val.handle.value < Handle.bound) (hstatus : row.val.status ≠ .pending) :
    follow options row.val before s = (verdict options (.ofJob row.val), s) := by
  have hjob : (pure row.val : Proc Job) s = (.ok row.val, s) := rfl
  unfold follow
  rw [if_neg hstatus, bind_of_ok hjob]
  exact verdict_of_stored options hs hrow hbound

section

variable {interludes : List Interlude}
  (hmeanwhile : ∀ operation ∈ Request.operationsMeanwhile interludes,
    operation.respectsStages = true ∧ operation.keepsTime = true)
  (hs : s.IsOrderly)

include hmeanwhile hs

/-- Following a job leaves an orderly session, whatever is done meanwhile. -/
theorem isOrderly_of_follow {job : Job} {result : Except Fault String}
    (h : follow options job (Service.serveInterludes interludes) s = (result, t)) :
    t.IsOrderly ∧ s.jobs ≤ t.jobs := by
  have hstages : ∀ operation ∈ Request.operationsMeanwhile interludes,
      operation.respectsStages = true := fun operation hmem => (hmeanwhile operation hmem).1
  have hsettled := Service.follows_follow Service.staysSettled_isCourse_service
    (Service.follows_serveInterludes Service.staysSettled_isCourse_service interludes
      fun _ _ => trivial) options job s
  have hconsistent := Service.follows_follow keepsJobsConsistent_isCourse
    (Service.follows_serveInterludes keepsJobsConsistent_isCourse interludes hmeanwhile)
    options job s
  have hapart := Service.follows_follow keepsJobsApart_isCourse
    (Service.follows_serveInterludes keepsJobsApart_isCourse interludes hstages) options job s
  unfold FollowsAt at hsettled hconsistent hapart
  rw [h] at hsettled hconsistent hapart
  exact hs.of_keeps hsettled hconsistent hapart

variable (hrow : row ∈ s.store.jobs.rows)

include hrow

/-- What a run of a job leaves: the job is the only one with its handle. -/
theorem run_leaves {handle : Option Handle} {result : Except Fault Job}
    (h : Job.run handle (Service.serveInterludes interludes) s = (result, t)) :
    t.IsOrderly ∧
      (∀ last ∈ t.store.jobs.rows, last.id = row.id → last.val.handle = row.val.handle) ∧
      ∀ last ∈ t.store.jobs.rows, last.val.handle = row.val.handle → last.id = row.id := by
  have hstages : ∀ operation ∈ Request.operationsMeanwhile interludes,
      operation.respectsStages = true := fun operation hmem => (hmeanwhile operation hmem).1
  have hruns : ∀ {asked : Operation → Prop} {rel : Session → Session → Prop},
      Service.IsCourse asked rel →
        (∀ operation ∈ Request.operationsMeanwhile interludes, asked operation) →
        FollowsAt rel s (Job.run handle (Service.serveInterludes interludes)) :=
    fun course hasked =>
      course.run (Service.follows_serveInterludes course interludes hasked) handle s
  have hsettled := hruns Service.staysSettled_isCourse_service fun _ _ => trivial
  have hconsistent := hruns keepsJobsConsistent_isCourse hmeanwhile
  have hapart := hruns keepsJobsApart_isCourse hstages
  have hreserve := hruns (keepsReserved_isCourse row.val.handle row.id) fun _ _ => trivial
  unfold FollowsAt at hsettled hconsistent hapart hreserve
  rw [h] at hsettled hconsistent hapart hreserve
  refine ⟨(hs.of_keeps hsettled hconsistent hapart).1, fun last hlast hid => ?_, ?_⟩
  · have hknown := s.store.jobs.bounded row hrow
    obtain ⟨old, hold, holdId, hmove⟩ := (hapart hs.apart).2.2.rows last hlast (by omega)
    obtain rfl := Table.eq_of_mem_of_id_eq hold hrow (holdId.trans hid)
    exact hmove.handle
  · obtain ⟨count, hcount, hmade⟩ := hs.apart.made row hrow
    have honly : ∀ other ∈ s.store.jobs.rows, other.val.handle = row.val.handle →
        other.id = row.id :=
      fun other hother hsame => congrArg Row.id (hs.apart.known other hother row hrow hsame)
    exact (hreserve ⟨⟨count, hcount, hmade⟩, honly⟩).only

variable (hpending : row.val.status = .pending)

include hpending

/-- A run of a pending job that fails has not taken the job, or the job has been deleted. -/
theorem not_failed_of_run_error {fault : Fault}
    (h : Job.run (some row.val.handle) (Service.serveInterludes interludes) s =
      (.error fault, t)) :
    (∀ reason, fault ≠ .command reason) ∧
      ∀ last ∈ t.store.jobs.rows, last.val.handle = row.val.handle →
        last.val.status ≠ .failed := by
  have hjob := hs.apart.jobOf?_eq hrow
  obtain ⟨ht, _, hid⟩ := run_leaves hmeanwhile hs hrow h
  rcases Job.complete_of_run_error hjob hpending h with hclaim | ⟨own, status, error, u, hend⟩
  · by_cases hcount : Store.canHold (row.val.started
        (s.store.openParcels row.val.register).length s.clock).total = true
    · rw [Job.claim_of_canHold hs.settled hs.outside hjob hpending rfl hcount] at hclaim
      cases hclaim
    · have hrefused := Job.claim_of_not_canHold hs.settled hs.outside hjob hpending rfl
        (Bool.eq_false_iff.2 hcount)
      rw [hrefused] at hclaim
      cases hclaim
      refine ⟨nofun, fun last hlast hhandle hfailed => ?_⟩
      rw [hs.apart.known last hlast row hrow hhandle, hpending] at hfailed
      cases hfailed
  · obtain ⟨rfl, hgone⟩ := Job.vanished_of_complete_error hend ht.settled ht.outside
    exact ⟨nofun, fun last hlast hhandle => absurd (hid last hlast hhandle) (hgone last hlast)⟩

/-- A pending job is told of as it is when it has been run. If that comes to an end the job is
over. -/
theorem tells_of_pending (hbound : row.val.handle.value < Handle.bound)
    {result : Except Fault String}
    (h : follow options row.val (Service.serveInterludes interludes) s = (result, t)) :
    Tells options row.val.handle result t ∧
      ∀ text, result = .ok text → ∀ last ∈ t.store.jobs.rows, last.val.handle = row.val.handle →
        last.val.status.isActive = false := by
  unfold follow at h
  rw [if_pos hpending] at h
  cases hrun : Job.run (some row.val.handle) (Service.serveInterludes interludes) s with
  | mk ran u =>
    cases ran with
    | error fault =>
      rw [bind_of_error hrun] at h
      cases h
      refine ⟨.inr ⟨fault, rfl, ?_⟩, nofun⟩
      exact not_failed_of_run_error hmeanwhile hs hrow hpending hrun
    | ok job =>
      obtain ⟨hu, hhandles, _⟩ := run_leaves hmeanwhile hs hrow hrun
      have hended := Job.hasEnded_of_run (hs.apart.jobOf?_eq hrow) hpending hrun
      obtain ⟨val, hval, hover⟩ := hended.stored
      have hhandle : val.handle = row.val.handle := hhandles _ hval rfl
      have htold := @verdict_of_stored options u ⟨row.id, val⟩ hu hval (hhandle ▸ hbound)
      rw [bind_of_ok hrun] at h
      dsimp only at h
      rw [hended.handle_eq, ← hhandle, htold] at h
      cases h
      refine ⟨.inl ⟨_, hval, hhandle, rfl⟩, fun _ _ last hlast hsame => ?_⟩
      rw [hu.apart.known last hlast ⟨row.id, val⟩ hval (hsame.trans hhandle.symm)]
      exact hover

end

/-! ## What is reported -/

/-- What is printed and why the command fails, once following a job has come to something. -/
def reported (register : Int) (options : Options) (job : Job) :
    Except Fault String → String × Option Fault
  | .ok last => (headline register options.scope job ++ last, none)
  | .error fault => (headline register options.scope job, some fault)

theorem names_reported (register : Int) (options : Options) (job : Job)
    (result : Except Fault String) :
    Names (reported register options job result).1 register options.scope job := by
  cases result with
  | ok last => exact ⟨last, rfl⟩
  | error fault => exact ⟨"", String.append_empty.symm⟩

/-- What the command prints in a session for a register when it is asked to run the job itself, and
why it fails, compared with the sessions before and after it. -/
structure IsReport (s : Session) (register : Int) (options : Options) (text : String)
    (fault : Option Fault) (t : Session) : Prop where
  /-- A job that is said to be done is completed or cancelled, or it was running when the command
  was called and nothing has been done. -/
  done : fault = none → ∃ row ∈ t.store.jobs.rows,
    text = headline register options.scope row.val ++ doneLine options row.val ∧
    (row.val.status = .completed ∨ row.val.status = .cancelled ∨
      row.val.status = .running ∧ s.IsUnderWay register row ∧ t = s)
  /-- A running job of the kind that is not overdue is said to be done. -/
  joined : Job.isCountable s.timeLimit = true → ∀ row, s.IsUnderWay register row →
    row.val.scope = options.scope → row.val.status = .running →
    fault = none ∧ t = s ∧
      text = headline register options.scope row.val ++ doneLine options row.val
  /-- Nothing is said to be done if the command fails. -/
  undone : fault ≠ none → text = "" ∨ ∃ job, text = headline register options.scope job
  /-- The command fails as a command just if there is no such register, a job of another kind is
  under way, or the job that is named has failed. -/
  refused : (∃ reason, fault = some (.command reason)) ↔
    s.store.registers.has register = false ∨
    (Job.isCountable s.timeLimit = true ∧
      ∃ row, s.IsUnderWay register row ∧ row.val.scope ≠ options.scope) ∨
    ∃ row ∈ t.store.jobs.rows, Names text register options.scope row.val ∧
      row.val.status = .failed

variable {register : Int} {text : String}

theorem headline_ne_empty (register : Int) (scope : Scope) (job : Job) (rest : String) :
    "" ≠ headline register scope job ++ rest := by
  intro h
  have hlists := congrArg String.toList h
  rw [String.toList_append, toList_headline] at hlists
  cases hlists

/-- A job that is requested in vain is not reported. -/
theorem isReport_of_request_error {fault : Fault}
    (hrefused : (∃ reason, explain register fault = .command reason) ↔
      s.store.registers.has register = false ∨ Job.isCountable s.timeLimit = true ∧
        ∃ row, s.IsUnderWay register row ∧ row.val.scope ≠ options.scope)
    (hnone : Job.isCountable s.timeLimit = true → ∀ row, s.IsUnderWay register row →
      row.val.scope ≠ options.scope) :
    IsReport s register options "" (some (explain register fault)) s where
  done := nofun
  joined := fun hlimit row hrow hscope _ => absurd hscope (hnone hlimit row hrow)
  undone := fun _ => .inl rfl
  refused := by
    simp only [Option.some.injEq]
    rw [hrefused]
    refine ⟨fun h => h.imp_right .inl, fun h => ?_⟩
    rcases h with hmissing | hother | ⟨row, _, ⟨rest, hnames⟩, _⟩
    · exact .inl hmissing
    · exact .inr hother
    · exact absurd hnames (headline_ne_empty _ _ _ rest)

section

variable {job : Job} {result : Except Fault String} (ht : t.IsOrderly)
  (htells : Tells options job.handle result t)

include ht htells

/-- Following a job fails as a command just if the job has failed. -/
theorem command_iff_of_tells :
    (∃ reason, result = .error (.command reason)) ↔
      ∃ row ∈ t.store.jobs.rows, row.val.handle = job.handle ∧ row.val.status = .failed := by
  rcases htells with ⟨row, hrow, hhandle, rfl⟩ | ⟨fault, rfl, hother, hunharmed⟩
  · by_cases hfailed : row.val.status = .failed
    · obtain ⟨reason, hreason⟩ :=
        verdict_of_failed options (ht.consistent row hrow) hfailed
      exact iff_of_true ⟨reason, hreason⟩ ⟨row, hrow, hhandle, hfailed⟩
    · rw [verdict_of_not_failed options (ht.consistent row hrow) hfailed]
      refine iff_of_false nofun ?_
      rintro ⟨other, hmem, hsame, hstatus⟩
      rw [ht.apart.known other hmem row hrow (hsame.trans hhandle.symm)] at hstatus
      exact hfailed hstatus
  · refine iff_of_false ?_ ?_
    · rintro ⟨reason, hreason⟩
      exact hother reason (Except.error.inj hreason)
    · rintro ⟨row, hrow, hhandle, hstatus⟩
      exact hunharmed row hrow hhandle hstatus

/-- A job that is said to be done is stored and has not failed. -/
theorem done_of_tells {last : String} (h : result = .ok last) :
    ∃ row ∈ t.store.jobs.rows, row.val.handle = job.handle ∧ row.val.status ≠ .failed ∧
      last = doneLine options row.val := by
  subst h
  rcases htells with ⟨row, hrow, hhandle, hverdict⟩ | ⟨fault, hfault, _⟩
  · by_cases hfailed : row.val.status = .failed
    · obtain ⟨reason, hreason⟩ :=
        verdict_of_failed options (ht.consistent row hrow) hfailed
      cases hverdict.trans hreason
    · rw [verdict_of_not_failed options (ht.consistent row hrow) hfailed] at hverdict
      exact ⟨row, hrow, hhandle, hfailed, Except.ok.inj hverdict⟩
  · cases hfault

/-- A job that is said to be done is completed or cancelled, or it was running and still is. -/
theorem exists_done_of_tells
    (hover : ∀ last, result = .ok last → ∀ row ∈ t.store.jobs.rows, row.val.handle = job.handle →
      row.val.status.isActive = false ∨
        row.val.status = .running ∧ s.IsUnderWay register row ∧ t = s)
    (hnone : (reported register options job result).2 = none) :
    ∃ row ∈ t.store.jobs.rows, (reported register options job result).1 =
        headline register options.scope row.val ++ doneLine options row.val ∧
      (row.val.status = .completed ∨ row.val.status = .cancelled ∨
        row.val.status = .running ∧ s.IsUnderWay register row ∧ t = s) := by
  cases hresult : result with
  | error fault =>
    rw [hresult] at hnone
    cases hnone
  | ok last =>
    obtain ⟨row, hrow, hhandle, hfailed, rfl⟩ := done_of_tells ht htells hresult
    have htext : headline register options.scope job ++ doneLine options row.val =
        headline register options.scope row.val ++ doneLine options row.val := by
      rw [headline_congr hhandle]
    refine ⟨row, hrow, htext, ?_⟩
    rcases hover _ hresult row hrow hhandle with hidle | hrunning
    · cases hstatus : row.val.status with
      | completed => exact .inl rfl
      | cancelled => exact .inr (.inl rfl)
      | failed => exact absurd hstatus hfailed
      | pending | running =>
        rw [hstatus] at hidle
        cases hidle
    · exact .inr (.inr hrunning)

/-- The command fails as a command just if the job that it names has failed. -/
theorem refused_iff_of_tells
    (hbounds : ∀ row ∈ t.store.jobs.rows, row.val.handle.value < Handle.bound)
    (hbound : job.handle.value < Handle.bound) :
    (∃ reason, (reported register options job result).2 = some (.command reason)) ↔
      ∃ row ∈ t.store.jobs.rows, Names (reported register options job result).1 register
        options.scope row.val ∧ row.val.status = .failed := by
  have hfault : (∃ reason, (reported register options job result).2 = some (.command reason)) ↔
      ∃ reason, result = .error (.command reason) := by
    cases result with
    | error fault => simp only [reported, Option.some.injEq, Except.error.injEq]
    | ok last => simp only [reported, reduceCtorEq]
  obtain ⟨last, hlast⟩ := names_reported register options job result
  rw [hfault, command_iff_of_tells ht htells]
  constructor
  · rintro ⟨row, hrow, hhandle, hfailed⟩
    refine ⟨row, hrow, ⟨last, hlast.trans ?_⟩, hfailed⟩
    rw [headline_congr hhandle]
  · rintro ⟨row, hrow, ⟨rest, hrest⟩, hfailed⟩
    have hhandle := handle_eq_of_headline (hbounds row hrow) hbound (hrest.symm.trans hlast)
    exact ⟨row, hrow, hhandle, hfailed⟩

/-- What is said of a job that has been followed is a report. -/
theorem isReport_of_tells
    (hbounds : ∀ row ∈ t.store.jobs.rows, row.val.handle.value < Handle.bound)
    (hbound : job.handle.value < Handle.bound)
    (hthere : s.store.registers.has register = true)
    (hkind : Job.isCountable s.timeLimit = true → ∀ row, s.IsUnderWay register row →
      row.val.scope = options.scope)
    (hover : ∀ last, result = .ok last → ∀ row ∈ t.store.jobs.rows, row.val.handle = job.handle →
      row.val.status.isActive = false ∨
        row.val.status = .running ∧ s.IsUnderWay register row ∧ t = s)
    (hjoined : Job.isCountable s.timeLimit = true → ∀ row, s.IsUnderWay register row →
      row.val.status = .running →
      t = s ∧ row.val.handle = job.handle ∧ result = .ok (doneLine options row.val)) :
    IsReport s register options (reported register options job result).1
      (reported register options job result).2 t where
  done := exists_done_of_tells ht htells hover
  joined := by
    intro hlimit row hrow _ hrunning
    obtain ⟨hsame, hhandle, rfl⟩ := hjoined hlimit row hrow hrunning
    refine ⟨rfl, hsame, ?_⟩
    unfold reported
    rw [headline_congr hhandle]
  undone := by
    intro hfault
    cases result with
    | error fault => exact .inr ⟨job, rfl⟩
    | ok last => exact absurd rfl hfault
  refused := by
    rw [refused_iff_of_tells ht htells hbounds hbound]
    refine ⟨fun hfailed => .inr (.inr hfailed), ?_⟩
    rintro (hmissing | ⟨hlimit, row, hrow, hother⟩ | hfailed)
    · rw [hthere] at hmissing
      cases hmissing
    · exact absurd (hkind hlimit row hrow) hother
    · exact hfailed

end

/-! ## What a request comes to -/

/-- What a request for a job comes to: it is refused, or it is answered with a job of the kind that
is running, or with a pending one. -/
inductive Answers (s : Session) (register : Int) (scope : Scope) :
    Except Fault (Job × Bool) → Session → Prop where
  | refused {fault : Fault}
      (hwhy : (∃ reason, explain register fault = .command reason) ↔
        s.store.registers.has register = false ∨ Job.isCountable s.timeLimit = true ∧
          ∃ row, s.IsUnderWay register row ∧ row.val.scope ≠ scope)
      (hnone : Job.isCountable s.timeLimit = true → ∀ row, s.IsUnderWay register row →
        row.val.scope ≠ scope) : Answers s register scope (.error fault) s
  | running {row : Row Job} (hrow : s.IsUnderWay register row)
      (hlimit : Job.isCountable s.timeLimit = true) (hscope : row.val.scope = scope)
      (hstatus : row.val.status = .running) : Answers s register scope (.ok (row.val, false)) s
  | pending {u : Session} {row : Row Job} {isNew : Bool}
      (hthere : s.store.registers.has register = true) (hrow : row ∈ u.store.jobs.rows)
      (hstatus : row.val.status = .pending)
      (hnone : Job.isCountable s.timeLimit = true → ∀ other, s.IsUnderWay register other →
        other.val.scope = scope ∧ other.val.status ≠ .running) :
      Answers s register scope (.ok (row.val, isNew)) u

section

variable (hs : s.IsOrderly) (scope : Scope)

include hs

/-- Where the time limit cannot be compared with a duration, a request is answered only if nothing
is in flight. -/
theorem answers_of_not_isCountable (hthere : s.store.registers.has register = true)
    (hbeyond : Job.isCountable s.timeLimit = false) :
    ∃ result u, Job.request register scope s = (result, u) ∧ Answers s register scope result u := by
  have hwhole := hs.isWhole
  have hlimit : Job.isCountable s.timeLimit ≠ true := Bool.eq_false_iff.1 hbeyond
  cases hactive : s.store.activeJob? register with
  | none =>
    refine ⟨_, _, Job.request_of_idle hs.settled hwhole scope hthere hactive, ?_⟩
    exact @Answers.pending s register scope _ ⟨s.store.jobs.lastId + 1, _⟩ true hthere
      (Table.mem_insert.2 (.inr rfl)) rfl fun h => absurd h hlimit
  | some row =>
    obtain ⟨hstored, _, hstatus⟩ := Store.mem_of_activeJob? hactive
    have hopen : row.val.finished = false := by
      refine Bool.eq_false_iff.2 fun hfinished => ?_
      rw [(hs.consistent row hstored).finished.1 hfinished] at hstatus
      cases hstatus
    refine ⟨_, s, Job.request_of_not_isCountable hwhole scope hthere hbeyond hactive hopen,
      .refused (iff_of_false nofun ?_) fun h => absurd h hlimit⟩
    rintro (hmissing | ⟨h, _⟩)
    · rw [hthere] at hmissing
      cases hmissing
    · exact hlimit h

/-- A request is refused or answered with a job that is under way. -/
theorem answers_of_isUnderWay (hthere : s.store.registers.has register = true)
    (hlimit : Job.isCountable s.timeLimit = true) {row : Row Job}
    (hrow : s.IsUnderWay register row) :
    ∃ result u, Job.request register scope s = (result, u) ∧ Answers s register scope result u := by
  have hwhole := hs.isWhole
  have hone := hs.apart.alone
  have honly : ∀ other, s.IsUnderWay register other → other = row :=
    fun other hother => hone register other row hother.inFlight hrow.inFlight
  by_cases hscope : row.val.scope = scope
  · refine ⟨_, s, Job.request_of_same hs.settled hone hwhole hlimit scope hthere hrow hscope, ?_⟩
    have hactive := hrow.inFlight.active
    cases hstatus : row.val.status with
    | running => exact .running hrow hlimit hscope hstatus
    | pending =>
      refine .pending hthere hrow.inFlight.stored hstatus fun _ other hother => ?_
      rw [honly other hother, hstatus]
      exact ⟨hscope, nofun⟩
    | _ =>
      rw [hstatus] at hactive
      cases hactive
  · refine ⟨_, s, Job.request_of_other hone hwhole hlimit scope hthere hrow hscope,
      .refused (iff_of_true ⟨_, rfl⟩ (.inr ⟨hlimit, row, hrow, hscope⟩)) fun _ other hother => ?_⟩
    rw [honly other hother]
    exact hscope

/-- Every request is refused or answered with a job in flight. -/
theorem exists_answer (register : Int) :
    ∃ result u, Job.request register scope s = (result, u) ∧ Answers s register scope result u := by
  have hwhole := hs.isWhole
  cases hthere : s.store.registers.has register with
  | false =>
    refine ⟨_, s, Job.request_of_missing hwhole scope hthere,
      .refused (iff_of_true ⟨_, rfl⟩ (.inl hthere)) fun _ row hrow => ?_⟩
    have hhas := hs.hasRegister hrow.inFlight.stored
    rw [hrow.inFlight.register, hthere] at hhas
    cases hhas
  | true =>
    cases hlimit : Job.isCountable s.timeLimit with
    | false => exact answers_of_not_isCountable hs scope hthere hlimit
    | true =>
      by_cases hunder : ∃ row, s.IsUnderWay register row
      · obtain ⟨row, hrow⟩ := hunder
        exact answers_of_isUnderWay hs scope hthere hlimit hrow
      · have hnone : ∀ row, ¬s.IsUnderWay register row := fun row hrow => hunder ⟨row, hrow⟩
        obtain ⟨jobs, hrows, hrequest⟩ := Job.request_of_not_isUnderWay hs.settled
          hs.apart.alone hwhole hlimit scope hthere hnone
        refine ⟨_, _, hrequest, @Answers.pending s register scope _ ⟨s.store.jobs.lastId + 1, _⟩
          true hthere ?_ rfl fun _ other hother => absurd hother (hnone other)⟩
        change _ ∈ jobs.rows
        rw [hrows]
        exact List.mem_append_right _ List.mem_cons_self

end

/-! ## The report -/

section

variable (hsync : options.sync = true)

include hsync

theorem perform_of_refused {fault : Fault}
    (hrequest : Job.request register options.scope s = (.error fault, t)) :
    perform register options before s = (.ok ("", some (explain register fault)), t) := by
  have hstart := Job.start_of_request hrequest before
  unfold perform
  rw [hsync, Bool.not_true, bind_of_ok (attempt_of_eq hstart)]
  rfl

theorem perform_of_answered {job : Job} {isNew : Bool} {u : Session} {result : Except Fault String}
    (hrequest : Job.request register options.scope s = (.ok (job, isNew), u))
    (hfollow : follow options job before u = (result, t)) :
    perform register options before s = (.ok (reported register options job result), t) := by
  have hstart := Job.start_of_request hrequest before
  unfold perform
  rw [hsync, Bool.not_true, bind_of_ok (attempt_of_eq hstart)]
  dsimp only [Except.map]
  rw [if_pos rfl, bind_of_ok (attempt_of_eq hfollow)]
  cases result <;> rfl

end

theorem screenRegister_of_parse {arguments : List String}
    (hparse : parse arguments = .ok (register, options))
    (hcolors : (options.noColor && options.forceColor) = false) :
    screenRegister arguments before = perform register options before := by
  unfold screenRegister
  rw [hparse]
  dsimp only
  rw [hcolors]
  rfl

section

variable {interludes : List Interlude}
  (hmeanwhile : ∀ operation ∈ Request.operationsMeanwhile interludes,
    operation.respectsStages = true ∧ operation.keepsTime = true)

include hmeanwhile

/-- A running job that is joined is said to be done. -/
theorem isReport_of_running (hs : s.IsOrderly) (hrow : s.IsUnderWay register row)
    (hscope : row.val.scope = options.scope) (hstatus : row.val.status = .running)
    {result : Except Fault String}
    (hfollow : follow options row.val (Service.serveInterludes interludes) s = (result, t))
    (hjobs : t.jobs < 10 ^ 31) :
    IsReport s register options (reported register options row.val result).1
      (reported register options row.val result).2 t := by
  have hstored := hrow.inFlight.stored
  have hpending : row.val.status ≠ .pending := by
    rw [hstatus]
    decide
  have hfailed : row.val.status ≠ .failed := by
    rw [hstatus]
    decide
  have hverdict := verdict_of_not_failed options (hs.consistent row hstored) hfailed
  have honly : ∀ other, s.IsUnderWay register other → other = row := fun other hother =>
    hs.apart.alone register other row hother.inFlight hrow.inFlight
  obtain ⟨_, hmore⟩ := isOrderly_of_follow hmeanwhile hs hfollow
  have hbound := hs.apart.handle_lt_bound (Nat.lt_of_le_of_lt hmore hjobs) hstored
  rw [follow_of_ne_pending hs hstored hbound hpending] at hfollow
  cases hfollow
  refine isReport_of_tells hs (.inl ⟨row, hstored, rfl, rfl⟩)
    (fun other hother => hs.apart.handle_lt_bound hjobs hother) hbound ?_ ?_ ?_ ?_
  · rw [← hrow.inFlight.register]
    exact hs.hasRegister hstored
  · intro _ other hother
    rw [honly other hother]
    exact hscope
  · intro _ _ other hother hhandle
    rw [hs.apart.known other hother row hstored hhandle]
    exact .inr ⟨hstatus, hrow, rfl⟩
  · intro _ other hother _
    rw [honly other hother]
    exact ⟨rfl, rfl, hverdict⟩

/-- A pending job is run and then reported. -/
theorem isReport_of_pending {u : Session} (hu : u.IsOrderly) (hrow : row ∈ u.store.jobs.rows)
    (hstatus : row.val.status = .pending) (hthere : s.store.registers.has register = true)
    (hnone : Job.isCountable s.timeLimit = true → ∀ other, s.IsUnderWay register other →
      other.val.scope = options.scope ∧ other.val.status ≠ .running)
    {result : Except Fault String}
    (hfollow : follow options row.val (Service.serveInterludes interludes) u = (result, t))
    (hjobs : t.jobs < 10 ^ 31) :
    IsReport s register options (reported register options row.val result).1
      (reported register options row.val result).2 t := by
  obtain ⟨ht, hmore⟩ := isOrderly_of_follow hmeanwhile hu hfollow
  have hbound := hu.apart.handle_lt_bound (Nat.lt_of_le_of_lt hmore hjobs) hrow
  obtain ⟨htells, hover⟩ := tells_of_pending hmeanwhile hu hrow hstatus hbound hfollow
  refine isReport_of_tells ht htells (fun other hother => ht.apart.handle_lt_bound hjobs hother)
    hbound hthere (fun hlimit other hother => (hnone hlimit other hother).1) ?_ ?_
  · exact fun last hlast other hother hsame => .inl (hover last hlast other hother hsame)
  · exact fun hlimit other hother hrunning => absurd hrunning (hnone hlimit other hother).2

/-- Asked to run the job itself, the command reports on the job that it has started or joined,
whatever is done while it runs. -/
theorem screenRegister_reports (hs : s.IsOrderly) {arguments : List String}
    (hparse : parse arguments = .ok (register, options)) (hsync : options.sync = true)
    (hcolors : (options.noColor && options.forceColor) = false)
    (hjobs : (screenRegister arguments (Service.serveInterludes interludes) s).2.jobs < 10 ^ 31) :
    ∃ text fault t,
      screenRegister arguments (Service.serveInterludes interludes) s = (.ok (text, fault), t) ∧
      IsReport s register options text fault t := by
  rw [screenRegister_of_parse hparse hcolors] at hjobs ⊢
  obtain ⟨answer, u, hrequest, hanswer⟩ := exists_answer hs options.scope register
  have hu := (hs.of_keeps (Job.staysSettled_request register options.scope s)
    (Job.keepsJobsConsistent_request register options.scope s)
    (Job.keepsJobsApart_request register options.scope s)).1
  rw [hrequest] at hu
  cases hanswer with
  | refused hwhy hnone =>
    exact ⟨_, _, _, perform_of_refused hsync hrequest, isReport_of_request_error hwhy hnone⟩
  | @running row hrow hlimit hscope hstatus =>
    rcases hfollow : follow options row.val (Service.serveInterludes interludes) s with ⟨result, t⟩
    have hperform := perform_of_answered hsync hrequest hfollow
    rw [hperform] at hjobs ⊢
    exact ⟨_, _, _, rfl, isReport_of_running hmeanwhile hs hrow hscope hstatus hfollow hjobs⟩
  | @pending u row isNew hthere hrow hstatus hnone =>
    rcases hfollow : follow options row.val (Service.serveInterludes interludes) u with ⟨result, t⟩
    have hperform := perform_of_answered hsync hrequest hfollow
    rw [hperform] at hjobs ⊢
    exact ⟨_, _, _, rfl,
      isReport_of_pending hmeanwhile hu hrow hstatus hthere hnone hfollow hjobs⟩

end

/-- A parcel, and a job that screens its register. -/
def pendingRequests : List Request :=
  [.single (.addRegister ⟨"imported", Parcel.ozon⟩), .single (.addParcels 1 [.nothing] 1),
    .single (.start 1 (.text "full") false)]

/-- The command, called once more while a job is about to screen its first parcel. -/
def calledAgain : List Interlude := [.mk 1 [.work (.command ["1", "--sync"]) none]]

/-- A session with a pending job. -/
def requested : Session :=
  (Service.serveAll pendingRequests (Session.start (.engine .null) .none)).2

/-- The job that the command runs is reported, though the command is called while it runs. -/
theorem screenRegister_reports_requested :
    ∃ text fault t, screenRegister ["1", "--sync"] (Service.serveInterludes calledAgain) requested =
        (.ok (text, fault), t) ∧
      IsReport requested 1 ⟨some 1, .full, true, false, false, false⟩ text fault t := by
  have hkeeps : ∀ operation ∈ Request.operationsOfAll pendingRequests,
      operation.respectsStages = true ∧ operation.keepsTime = true := by
    simpa using List.all_eq_true.1 (show (Request.operationsOfAll pendingRequests).all
      (fun operation => operation.respectsStages && operation.keepsTime) = true by rfl)
  refine screenRegister_reports (by decide) (Session.isOrderly_of_requests _ _ hkeeps) ?_ rfl rfl ?_
  · decide +kernel
  · decide +kernel

/-- A worker has taken the job of a session and not screened anything. -/
def taken : Session := (Job.claim (some (Handle.ofCount 1)) requested).2

/-- A running job is said to be done. -/
theorem done_of_running_taken :
    ∃ row, (screenRegister ["1", "--sync"] (fun _ => pure ()) taken).1 =
        .ok (headline 1 .full row.val ++ "Done: 0/1 parcels, status running\n", none) ∧
      (screenRegister ["1", "--sync"] (fun _ => pure ()) taken).2.store.jobs.rows = [row] ∧
      row.val.status = .running ∧ row.val.finished = false := by
  let row : Row Job := ⟨1, (Job.fresh (Handle.ofCount 1) 1 .full 0).started 1 0⟩
  have hprinted : (screenRegister ["1", "--sync"] (fun _ => pure ()) taken).1 =
      .ok (headline 1 .full row.val ++ "Done: 0/1 parcels, status running\n", none) := by
    decide +kernel
  have hjobs : (screenRegister ["1", "--sync"] (fun _ => pure ()) taken).2.store.jobs.rows =
      [row] := by
    decide +kernel
  exact ⟨row, hprinted, hjobs, rfl, rfl⟩

end CommandLine

end Clearance

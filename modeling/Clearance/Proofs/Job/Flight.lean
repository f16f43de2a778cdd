import Mathlib.Logic.Relation
import Clearance.Proofs.Job.Handle
import Clearance.Proofs.Job.Request
import Clearance.Proofs.Service.Course
import Clearance.Proofs.Service.Settled

/-!
# One job in flight

A register never has two jobs in flight: a job is made only once the one in flight has been given
up, and what is over does not come back. No two jobs have one handle, and no job is pending again,
so a handle that is delivered once more finds a job that is not pending and does nothing.

All this holds at any moment, also while workers are in the middle of their jobs: what carries it is
that every request, every step of a worker and every screening keeps jobs apart and lets them only
advance.
-/

set_option autoImplicit false

namespace Clearance

open Proc

/-- What may become of a job where stages are respected: it keeps its register and its handle, is
not pending again and not in flight again. -/
structure Job.Advances (a b : Job) : Prop where
  register : b.register = a.register
  handle : b.handle = a.handle
  pending : b.status = .pending → a.status = .pending
  active : b.status.isActive = true → a.status.isActive = true

namespace Job

theorem Advances.refl (a : Job) : a.Advances a := ⟨rfl, rfl, fun h => h, fun h => h⟩

theorem Advances.trans {a b c : Job} (hab : a.Advances b) (hbc : b.Advances c) : a.Advances c where
  register := hbc.register.trans hab.register
  handle := hbc.handle.trans hab.handle
  pending := fun h => hab.pending (hbc.pending h)
  active := fun h => hab.active (hbc.active h)

/-- A job that ends is in flight no more. -/
theorem advances_withEndOf (own stored : Job) (h : own.status.isActive = false) :
    stored.Advances (own.withEndOf stored) := by
  have hover : (own.withEndOf stored).status.isActive = false := h
  refine ⟨rfl, rfl, fun hpending => ?_, fun hactive => ?_⟩
  · rw [hpending] at hover
    cases hover
  · rw [hactive] at hover
    cases hover

end Job

namespace Session

/-- A session in which no register has two jobs in flight and no two jobs have one handle. The
handles are those of jobs that have been made. -/
structure HasJobsApart (s : Session) : Prop where
  alone : s.HasOneInFlight
  made : ∀ row ∈ s.store.jobs.rows, ∃ count ≤ s.jobs, row.val.handle = Handle.ofCount count
  known : ∀ a ∈ s.store.jobs.rows, ∀ b ∈ s.store.jobs.rows, a.val.handle = b.val.handle → a = b

/-- The jobs of one session come from those of another as stages allow. -/
abbrev JobsAdvance (s t : Session) : Prop :=
  Store.JobsFrom (fun old row => old.val.Advances row.val) s.store t.store

variable {s t u : Session}

/-- Each job is found by its handle. -/
theorem HasJobsApart.jobOf?_eq (hs : s.HasJobsApart) {row : Row Job}
    (hrow : row ∈ s.store.jobs.rows) : s.store.jobOf? (some row.val.handle) = some row :=
  Store.jobOf?_of_mem hrow fun other hother => hs.known other hother row hrow

/-- As long as not too many jobs have been made, each handle has its own text. -/
theorem HasJobsApart.handle_lt_bound (hs : s.HasJobsApart) (hjobs : s.jobs < 10 ^ 31)
    {row : Row Job} (hrow : row ∈ s.store.jobs.rows) : row.val.handle.value < Handle.bound := by
  obtain ⟨count, hcount, hmade⟩ := hs.made row hrow
  rw [hmade]
  exact Handle.ofCount_lt_bound (Nat.lt_of_le_of_lt hcount hjobs)

/-- Where no job is new, jobs that were apart still are. -/
theorem HasJobsApart.of_jobsAdvance (hs : s.HasJobsApart) (hfrom : JobsAdvance s t)
    (hlast : t.store.jobs.lastId = s.store.jobs.lastId) (hjobs : s.jobs ≤ t.jobs) :
    t.HasJobsApart := by
  have hold : ∀ row ∈ t.store.jobs.rows, ∃ old ∈ s.store.jobs.rows, old.id = row.id ∧
      old.val.Advances row.val := by
    intro row hrow
    have hid := t.store.jobs.bounded row hrow
    rw [hlast] at hid
    exact hfrom.rows row hrow hid
  refine ⟨fun register a b ha hb => ?_, fun row hrow => ?_, fun a ha b hb hhandle => ?_⟩
  · obtain ⟨x, hx, hxa, hmove⟩ := hold a ha.stored
    obtain ⟨y, hy, hyb, hmove'⟩ := hold b hb.stored
    have hsame := hs.alone register x y
      ⟨hx, hmove.register.symm.trans ha.register, hmove.active ha.active⟩
      ⟨hy, hmove'.register.symm.trans hb.register, hmove'.active hb.active⟩
    exact Table.eq_of_mem_of_id_eq ha.stored hb.stored (by rw [← hxa, ← hyb, hsame])
  · obtain ⟨x, hx, _, hmove⟩ := hold row hrow
    obtain ⟨count, hcount, hhandle⟩ := hs.made x hx
    exact ⟨count, Nat.le_trans hcount hjobs, hmove.handle.trans hhandle⟩
  · obtain ⟨x, hx, hxa, hmove⟩ := hold a ha
    obtain ⟨y, hy, hyb, hmove'⟩ := hold b hb
    rw [hmove.handle, hmove'.handle] at hhandle
    have hsame := hs.known x hx y hy hhandle
    exact Table.eq_of_mem_of_id_eq ha hb (by rw [← hxa, ← hyb, hsame])

/-- A job that is made for a register without a job in flight is apart from the others. -/
theorem HasJobsApart.of_insert (hs : s.HasJobsApart) {job : Job}
    (hfree : ∀ row ∈ s.store.jobs.rows, row.val.register = job.register →
      row.val.status.isActive = false)
    (hhandle : job.handle = Handle.ofCount (s.jobs + 1))
    (hrows : t.store.jobs = s.store.jobs.insert job) (hjobs : t.jobs = s.jobs + 1) :
    t.HasJobsApart := by
  have hnew : ∀ row ∈ s.store.jobs.rows, row.val.handle ≠ job.handle := by
    intro row hrow hsame
    obtain ⟨count, hcount, hcounted⟩ := hs.made row hrow
    rw [hcounted, hhandle] at hsame
    have := Handle.ofCount_injective hsame
    omega
  have hrow : ∀ row ∈ t.store.jobs.rows,
      row ∈ s.store.jobs.rows ∨ row = ⟨s.store.jobs.lastId + 1, job⟩ := by
    intro row hrow
    rw [hrows] at hrow
    exact Table.mem_insert.1 hrow
  refine ⟨fun register a b ⟨ha, hregister, hactive⟩ ⟨hb, hregister', hactive'⟩ => ?_,
    fun row hmem => ?_, fun a ha b hb hsame => ?_⟩
  · rcases hrow a ha with ha | rfl <;> rcases hrow b hb with hb | rfl
    · exact hs.alone register a b ⟨ha, hregister, hactive⟩ ⟨hb, hregister', hactive'⟩
    · rw [hfree a ha (hregister.trans hregister'.symm)] at hactive
      cases hactive
    · rw [hfree b hb (hregister'.trans hregister.symm)] at hactive'
      cases hactive'
    · rfl
  · rcases hrow row hmem with hold | rfl
    · obtain ⟨count, hcount, hcounted⟩ := hs.made row hold
      exact ⟨count, by omega, hcounted⟩
    · exact ⟨s.jobs + 1, Nat.le_of_eq hjobs.symm, hhandle⟩
  · rcases hrow a ha with ha | rfl <;> rcases hrow b hb with hb | rfl
    · exact hs.known a ha b hb hsame
    · exact absurd hsame (hnew a ha)
    · exact absurd hsame.symm (hnew b hb)
    · rfl

/-- What becomes of a session whose jobs are apart: they stay apart and advance. -/
def KeepsJobsApart (s t : Session) : Prop :=
  s.HasJobsApart → t.HasJobsApart ∧ s.jobs ≤ t.jobs ∧ JobsAdvance s t

theorem keepsJobsApart_of_jobsAdvance (hfrom : JobsAdvance s t)
    (hlast : t.store.jobs.lastId = s.store.jobs.lastId) (hjobs : s.jobs ≤ t.jobs) :
    KeepsJobsApart s t :=
  fun hs => ⟨hs.of_jobsAdvance hfrom hlast hjobs, hjobs, hfrom⟩

theorem keepsJobsApart_isJobLaw : IsJobLaw KeepsJobsApart where
  trans := by
    intro s t u hst htu hs
    obtain ⟨ht, hjobs, hfrom⟩ := hst hs
    obtain ⟨hu, hjobs', hfrom'⟩ := htu ht
    exact ⟨hu, Nat.le_trans hjobs hjobs', hfrom.trans (fun _ _ _ _ => Job.Advances.trans) hfrom'⟩
  less := fun hsome _ hjobs => keepsJobsApart_of_jobsAdvance
    (Store.jobsFrom_of_someJobsOf (fun row => .refl row.val) hsome) hsome.lastId hjobs
  undone := by
    intro s t u hst hsame _ hjobs hs
    have hmade := (hst hs).2.1
    have hsome := Store.someJobsOf_of_jobs_eq hsame
    exact keepsJobsApart_of_jobsAdvance
      (Store.jobsFrom_of_someJobsOf (fun row => .refl row.val) hsome) hsome.lastId
      (by rw [hjobs]; exact hmade) hs

end Session

open Session (KeepsJobsApart keepsJobsApart_isJobLaw keepsJobsApart_of_jobsAdvance)

/-! ## Jobs -/

namespace Job

variable {s : Session}

/-- A record that is saved as stages allow leaves jobs apart. -/
theorem keepsJobsApart_of_modify {t : Session} {id : Int} {save : Job → Job}
    (hrows : t.store.jobs = s.store.jobs.modify id save) (hjobs : t.jobs = s.jobs)
    (hsave : ∀ job, ⟨id, job⟩ ∈ s.store.jobs.rows → job.Advances (save job)) :
    KeepsJobsApart s t :=
  keepsJobsApart_of_jobsAdvance (Store.jobsFrom_modify (fun row => .refl row.val) hsave hrows)
    (by rw [hrows, Table.lastId_modify]) (Nat.le_of_eq hjobs.symm)

theorem keepsJobsApart_complete (id : Int) (job : Job) (status : JobStatus)
    (error : Option String) (hover : status.isActive = false) :
    Follows KeepsJobsApart (complete id job status error) := fun _ =>
  keepsJobsApart_isJobLaw.followsAt_complete fun _ hrows _ hjobs =>
    keepsJobsApart_of_modify hrows hjobs fun stored _ => advances_withEndOf _ stored hover

theorem keepsJobsApart_cancel (handle : Text.Literal) : Follows KeepsJobsApart (cancel handle) := by
  intro s
  refine followsAt_cancel keepsJobsApart_isJobLaw.isCourse (fun row _ _ => ?_) fun row _ _ t _ =>
    keepsJobsApart_complete _ _ _ _ rfl t
  exact keepsJobsApart_isJobLaw.followsAt_saveJob fun t hrows _ hjobs =>
    keepsJobsApart_of_modify hrows hjobs fun _ _ => ⟨rfl, rfl, fun h => h, fun h => h⟩

theorem keepsJobsApart_claim (handle : Option Handle) : Follows KeepsJobsApart (claim handle) := by
  intro s
  refine followsAt_claim keepsJobsApart_isJobLaw.isCourse fun row hrow hpending total => ?_
  refine keepsJobsApart_isJobLaw.followsAt_saveJob fun t hrows _ hjobs =>
    keepsJobsApart_of_modify hrows hjobs fun stored hstored => ?_
  rw [Store.val_eq_of_mem hrow hstored]
  exact ⟨rfl, rfl, nofun, fun _ => by rw [hpending]; rfl⟩

/-- Once the job in flight has been given up, a register has none. -/
theorem free_of_inFlight?_none {register : Int} {t : Session} (hs : s.HasJobsApart)
    (h : inFlight? register s = (.ok none, t)) :
    ∀ row ∈ t.store.jobs.rows, row.val.register = register → row.val.status.isActive = false := by
  rcases inFlight?_none h with ⟨hfree, rfl⟩ | ⟨given, hgiven, hregister, hactive, hstore⟩
  · exact hfree
  · intro row hrow hsame
    rw [hstore] at hrow
    by_contra hstill
    rw [Bool.not_eq_false] at hstill
    have hval : ∀ val, ⟨given.id, val⟩ ∈ (s.store.jobs.modify given.id
        (given.val.ended .failed (some abandoned) s.clock).withEndOf).rows →
        val.status = .failed := by
      intro val hmem
      rw [Table.val_of_mem_modify hgiven hmem]
      rfl
    rcases Table.mem_modify hrow with hold | ⟨hid, _⟩
    · -- The only job of the register in flight is the one that was given up.
      have heq := hs.alone register row given ⟨hold, hsame, hstill⟩ ⟨hgiven, hregister, hactive⟩
      rw [hval row.val (heq ▸ hrow)] at hstill
      cases hstill
    · rw [hval row.val (hid ▸ hrow)] at hstill
      cases hstill

theorem keepsJobsApart_request (register : Int) (scope : Scope) :
    Follows KeepsJobsApart (request register scope) := by
  intro s hs
  refine followsAt_request keepsJobsApart_isJobLaw.isCourse
    (fun row _ _ => keepsJobsApart_complete _ _ _ _ rfl _) (fun t hfreed => ?_) hs
  have hfree := free_of_inFlight?_none (s := { s with inBlock := true })
    ⟨hs.alone, hs.made, hs.known⟩ hfreed
  refine keepsJobsApart_isJobLaw.followsAt_create fun u hrows _ hjobs ht => ⟨?_, ?_, ?_⟩
  · exact ht.of_insert hfree rfl hrows hjobs
  · rw [hjobs]
    exact Nat.le_succ t.jobs
  · exact Store.jobsFrom_insert (fun row => .refl row.val) hrows

theorem keepsJobsApart_saveCount (id : Int) (job : Job) :
    Follows KeepsJobsApart (saveCount id job) := fun _ =>
  keepsJobsApart_isJobLaw.followsAt_saveJob fun _ hrows _ hjobs =>
    keepsJobsApart_of_modify hrows hjobs fun _ _ => ⟨rfl, rfl, fun h => h, fun h => h⟩

theorem keepsJobsApart_run {meanwhile : Meanwhile}
    (hbefore : ∀ k, Follows KeepsJobsApart (meanwhile.before k)) (handle : Option Handle) :
    Follows KeepsJobsApart (run handle meanwhile) :=
  follows_run keepsJobsApart_isJobLaw.isCourse keepsJobsApart_claim keepsJobsApart_saveCount
    keepsJobsApart_complete hbefore handle

/-- A job that is not pending is returned by a run as it is stored, and nothing is done. -/
theorem run_of_ne_pending {handle : Option Handle} {row : Row Job} (hs : s.IsSettled)
    (hblock : s.inBlock = false) (hjob : s.store.jobOf? handle = some row)
    (hstatus : row.val.status ≠ .pending) (meanwhile : Meanwhile) :
    run handle meanwhile s = (.ok row.val, s) := by
  have hclaim := claim_of_ne_pending hs hblock hjob hstatus
  unfold run
  rw [bind_of_ok hclaim]
  rfl

/-- A worker that is given the handle of such a job has finished at once. -/
theorem step_of_ne_pending {handle : Option Handle} {row : Row Job} (hs : s.IsSettled)
    (hblock : s.inBlock = false) (hjob : s.store.jobOf? handle = some row)
    (hstatus : row.val.status ≠ .pending) :
    (Worker.waiting handle).step s = (.ok (.finished (.ok row.val)), s) := by
  rw [Worker.step, orStop_apply, claim_of_ne_pending hs hblock hjob hstatus]
  rfl

end Job

/-! ## Whatever is asked for -/

theorem keepsJobsApart_isCourse :
    Service.IsCourse (fun operation => operation.respectsStages = true) KeepsJobsApart where
  toIsCourse := keepsJobsApart_isJobLaw.isCourse
  request := Job.keepsJobsApart_request
  cancel := Job.keepsJobsApart_cancel
  run := fun hbefore => Job.keepsJobsApart_run hbefore
  updateWord := fun _ _ _ _ => keepsJobsApart_isJobLaw.follows_updateWord _ _ _
  bumped := fun _ _ _ => keepsJobsApart_isJobLaw.same rfl rfl rfl
  evict := fun _ _ _ => keepsJobsApart_isJobLaw.same rfl rfl rfl
  advance := fun _ _ s => keepsJobsApart_of_jobsAdvance
    (Store.jobsFrom_of_someJobsOf (fun row => .refl row.val) (Store.someJobsOf_of_jobs_eq rfl)) rfl
    (Nat.le_refl s.jobs)
  markStarted := fun _ _ hrespects => nomatch hrespects

theorem hasJobsApart_start (backend : Word.Backend) (outages : Monitor.Outages) :
    (Session.start backend outages).HasJobsApart := by
  have hnone : ∀ row : Row Job, row ∉ (Session.start backend outages).store.jobs.rows :=
    fun _ => List.not_mem_nil
  exact ⟨fun _ a _ ha => absurd ha.stored (hnone a), fun a ha => absurd ha (hnone a),
    fun a ha => absurd ha (hnone a)⟩

/-! ## At any moment -/

/-- What may happen to a session: a request is served that takes no job without looking at its
stage, a worker makes a step from wherever it stands, or a parcel is screened. -/
inductive Service.MovesTo (s : Session) : Session → Prop
  | serves (request : Request)
      (h : ∀ operation ∈ request.operations, operation.respectsStages = true) :
      MovesTo s (serve request s).2
  | works (worker : Job.Worker) : MovesTo s (worker.step s).2
  | screens (scope : Scope) (given : Option Screening.Context) (parcel : Int) :
      MovesTo s (Screening.screen scope given parcel s).2

/-- What comes of a session one thing after another. -/
abbrev Service.LeadsTo : Session → Session → Prop := Relation.ReflTransGen Service.MovesTo

open Service (MovesTo LeadsTo)

section

variable {s t : Session}

theorem Service.leadsTo_serveAll (requests : List Request)
    (h : ∀ operation ∈ Request.operationsOfAll requests, operation.respectsStages = true) :
    LeadsTo s (serveAll requests s).2 := by
  induction requests generalizing s with
  | nil => exact .refl
  | cons request rest ih =>
    unfold Request.operationsOfAll at h
    rw [List.forall_mem_append] at h
    rw [serveAll_cons_snd]
    exact .head (.serves request h.1) (ih h.2)

/-- Whatever happens next keeps jobs apart. -/
theorem keepsJobsApart_of_movesTo (h : MovesTo s t) : Session.KeepsJobsApart s t := by
  cases h with
  | serves request h => exact Service.follows_serve keepsJobsApart_isCourse request h s
  | works worker =>
    exact Job.follows_step keepsJobsApart_isJobLaw.isCourse Job.keepsJobsApart_claim
      Job.keepsJobsApart_saveCount Job.keepsJobsApart_complete worker s
  | screens scope given parcel =>
    exact keepsJobsApart_isJobLaw.isCourse.screen scope given parcel s

theorem staysSettled_of_movesTo (h : MovesTo s t) : Session.StaysSettled s t := by
  cases h with
  | serves request =>
    exact Service.follows_serve Service.staysSettled_isCourse_service request
      (fun _ _ => trivial) s
  | works worker => exact Job.staysSettled_step worker s
  | screens scope given parcel => exact staysSettled_isCourse.screen scope given parcel s

theorem keepsJobsApart_of_leadsTo (h : LeadsTo s t) : Session.KeepsJobsApart s t := by
  induction h with
  | refl => exact keepsJobsApart_isJobLaw.isCourse.refl s
  | tail _ hmove ih => exact keepsJobsApart_isJobLaw.trans ih (keepsJobsApart_of_movesTo hmove)

theorem staysSettled_of_leadsTo (h : LeadsTo s t) : Session.StaysSettled s t := by
  induction h with
  | refl => exact staysSettled_isCourse.refl s
  | tail _ hmove ih => exact ih.trans (staysSettled_of_movesTo hmove)

theorem isActive_iff {status : JobStatus} :
    status.isActive = true ↔ status = .pending ∨ status = .running := by
  cases status <;> decide

end

/-- At any moment after the start, also while jobs run, no register has two jobs that are pending or
running. A job that is not pending is not pending ever after. Running it by its handle returns it as
it is stored and does nothing, whatever would be done before its parcels, and so does a worker that
the handle is given to. -/
theorem one_job_in_flight (backend : Word.Backend) (outages : Monitor.Outages) {s : Session}
    (hs : LeadsTo (Session.start backend outages) s) :
    (∀ a ∈ s.store.jobs.rows, ∀ b ∈ s.store.jobs.rows, a.val.register = b.val.register →
      a.val.status = .pending ∨ a.val.status = .running →
      b.val.status = .pending ∨ b.val.status = .running → a = b) ∧
    ∀ row ∈ s.store.jobs.rows, row.val.status ≠ .pending →
      (∀ meanwhile, Job.run (some row.val.handle) meanwhile s = (.ok row.val, s)) ∧
      (Job.Worker.waiting (some row.val.handle)).step s = (.ok (.finished (.ok row.val)), s) ∧
      ∀ t, LeadsTo s t → ∀ later ∈ t.store.jobs.rows, later.id = row.id →
        later.val.status ≠ .pending := by
  have hstart := hasJobsApart_start backend outages
  have hapart := (keepsJobsApart_of_leadsTo hs hstart).1
  have hstays := staysSettled_of_leadsTo hs
  have hsettled := hstays.isSettled (Session.isSettled_start backend outages)
  have hblock : s.inBlock = false := hstays.inBlock
  refine ⟨fun a ha b hb hregister hactive hactive' => ?_, fun row hrow hstatus => ?_⟩
  · exact hapart.alone _ a b ⟨ha, hregister, isActive_iff.2 hactive⟩
      ⟨hb, rfl, isActive_iff.2 hactive'⟩
  · have hjob := hapart.jobOf?_eq hrow
    refine ⟨Job.run_of_ne_pending hsettled hblock hjob hstatus,
      Job.step_of_ne_pending hsettled hblock hjob hstatus, ?_⟩
    intro t ht later hlater hid hpending
    have hfrom := (keepsJobsApart_of_leadsTo ht hapart).2.2
    have hbound := s.store.jobs.bounded row hrow
    obtain ⟨old, hold, holdId, hmove⟩ := hfrom.rows later hlater (by omega)
    obtain rfl := Table.eq_of_mem_of_id_eq hold hrow (holdId.trans hid)
    exact hstatus (hmove.pending hpending)

/-- A job requested for a register with a parcel. -/
def relayRequests : List Request :=
  [.single (.addRegister ⟨"imported", Parcel.ozon⟩), .single (.addParcel 1 .nothing),
    .single (.start 1 (.text "full") false)]

/-- The session in which a worker has just taken the job that is requested. -/
def relaySession : Session :=
  let requested := (Service.serveAll relayRequests (Session.start (.engine .null) .none)).2
  ((Job.Worker.waiting (some (Handle.ofCount 1))).step requested).2

/-- What is asked for after that: the job again, and another one when it has run for too long. -/
def lateRequests : List Request :=
  [.single (.start 1 (.text "full") false), .single (.advance 7201),
    .single (.start 1 (.text "words") false)]

/-- While the job runs it is in flight alone, and running it again returns it. When it is given up
the next one is in flight alone, and running the first one again returns it still. -/
theorem one_job_in_flight_relaySession :
    let later := (Service.serveAll lateRequests relaySession).2
    relaySession.store.jobs.rows.map (·.val.status) = [.running] ∧
      (∃ job : Job, job.status = .running ∧
        Job.run (some (Handle.ofCount 1)) .nothing relaySession =
          (.ok job, relaySession)) ∧
      later.store.jobs.rows.map (·.val.status) = [.failed, .pending] ∧
      ∃ job : Job, job.status = .failed ∧
        Job.run (some (Handle.ofCount 1)) .nothing later = (.ok job, later) := by
  intro later
  have hreached : LeadsTo (Session.start (.engine .null) .none) relaySession :=
    (Service.leadsTo_serveAll relayRequests (List.all_eq_true.1 (by rfl))).tail (.works _)
  have hlater : LeadsTo (Session.start (.engine .null) .none) later :=
    hreached.trans (Service.leadsTo_serveAll lateRequests (List.all_eq_true.1 (by rfl)))
  have hrunning : (relaySession.store.jobs.rows.head?.map fun row =>
      (row.val.handle, row.val.status)) = some (Handle.ofCount 1, .running) := by decide +kernel
  have hfailed : (later.store.jobs.rows.head?.map fun row =>
      (row.val.handle, row.val.status)) = some (Handle.ofCount 1, .failed) := by decide +kernel
  have hrun {s : Session} (hs : LeadsTo (Session.start (.engine .null) .none) s)
      {status : JobStatus} (hstatus : status ≠ .pending)
      (hfirst : (s.store.jobs.rows.head?.map fun row => (row.val.handle, row.val.status)) =
        some (Handle.ofCount 1, status)) :
      ∃ job : Job, job.status = status ∧
        Job.run (some (Handle.ofCount 1)) .nothing s = (.ok job, s) := by
    obtain ⟨row, hrow, hval⟩ := Option.map_eq_some_iff.1 hfirst
    obtain ⟨hhandle, rfl⟩ := Prod.mk.inj hval
    have hjob := (one_job_in_flight (.engine .null) .none hs).2 row (List.mem_of_mem_head? hrow)
      hstatus
    rw [← hhandle]
    exact ⟨row.val, rfl, hjob.1 _⟩
  exact ⟨by decide +kernel, hrun hreached (by decide) hrunning, by decide +kernel,
    hrun hlater (by decide) hfailed⟩

end Clearance

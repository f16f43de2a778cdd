import Clearance.Job.Progress
import Clearance.Proofs.Job.Record
import Clearance.Proofs.Session.Course

/-!
# Jobs along the course of a session

A job is requested, cancelled and run by statements about its record, and between these the store is
only edited. So a course that is followed where a job is taken, counted and brought to its end is
followed by every run; and one that every change of a job's record follows is followed by all that
is done to jobs.
-/

set_option autoImplicit false

namespace Clearance.Job

open Proc

variable {rel : Session → Session → Prop}

theorem follows_report (course : IsCourse rel) (events : Monitor.Outages → List Monitor.Event) :
    Follows rel (Monitor.report events) :=
  course.alter fun _ => ⟨rfl, rfl, rfl, rfl, rfl, rfl, rfl, rfl⟩

theorem follows_tellOfStart (course : IsCourse rel) (job : Job) : Follows rel job.tellOfStart := by
  rw [tellOfStart_eq]
  exact follows_report course _

theorem follows_tellOfFault (course : IsCourse rel) (job : Job) (parcel : Option Int)
    (fault : Fault) : Follows rel (job.tellOfFault parcel fault) := by
  rw [tellOfFault_eq]
  exact follows_report course _

theorem follows_isOverdue (course : IsCourse rel) (job : Job) : Follows rel (isOverdue job) := by
  unfold isOverdue
  refine course.bind (course.ask _) fun limit => course.bind (course.ask _) fun now => ?_
  split
  · exact course.pure _
  · exact course.fail _

theorem follows_progress (course : IsCourse rel) (handle : Text.Literal) :
    Follows rel (progress handle) := by
  unfold progress
  split
  · exact course.pure _
  · refine course.bind (course.query _) fun found => ?_
    cases found <;> exact course.pure _

theorem follows_orStop (course : IsCourse rel) {α β : Type} {stopped : Fault → β} {proc : Proc α}
    {next : α → Proc β} (hproc : Follows rel proc) (hnext : ∀ a, Follows rel (next a)) :
    Follows rel (orStop stopped proc next) := by
  unfold orStop
  refine course.bind (follows_attempt hproc) fun result => ?_
  cases result with
  | ok a => exact hnext a
  | error fault => exact course.pure _

/-! ## Runs -/

section

variable (course : IsCourse rel)
  (hclaim : ∀ handle, Follows rel (claim handle))
  (hcount : ∀ id job, Follows rel (saveCount id job))
  (hend : ∀ id job status error, status.isActive = false →
    Follows rel (complete id job status error))
  {meanwhile : Meanwhile} (hbefore : ∀ k, Follows rel (meanwhile.before k))

include course hbefore

theorem follows_screenNext (context : Screening.Context) (scope : Scope) (count : Nat)
    (parcel : Int) : Follows rel (screenNext context scope meanwhile count parcel) := by
  unfold screenNext
  refine course.bind (course.query _) fun isThere => ?_
  split
  · exact course.bind (hbefore _) fun _ =>
      course.bind (course.struck _ _ _ _) fun _ => course.pure _
  · exact course.pure _

include hcount hend

theorem follows_visit (context : Screening.Context) (id : Int) (count : Nat) (job : Job)
    (parcel : Int) : Follows rel (visit context meanwhile id count job parcel) := by
  unfold visit
  refine follows_orStop course (course.query _) fun isToBe => ?_
  split
  · exact follows_orStop course (hend _ _ _ _ rfl) fun _ => course.pure _
  · exact follows_orStop course (follows_screenNext course hbefore _ _ _ _) fun _ =>
      follows_orStop course (hcount _ _) fun _ => course.pure _

theorem follows_pass (context : Screening.Context) (id : Int) (count : Nat) (job : Job)
    (parcels : List Int) : Follows rel (pass context meanwhile id count job parcels) := by
  induction parcels generalizing count job with
  | nil => exact course.pure _
  | cons parcel rest ih =>
    unfold pass
    refine course.bind (follows_visit course hcount hend hbefore context id count job parcel)
      fun visited => ?_
    cases visited with
    | goesOn count counted => exact ih count counted
    | ends pass => exact course.pure _

include hclaim

theorem follows_run (handle : Option Handle) : Follows rel (run handle meanwhile) := by
  have hconclude : ∀ (id : Int) (result : Pass), Follows rel (conclude id result) := by
    intro id result
    cases result with
    | through job => exact hend _ _ _ _ rfl
    | cancelled job => exact course.pure _
    | stopped job parcel fault =>
      exact course.bind (follows_tellOfFault course job parcel fault) fun _ => hend _ _ _ _ rfl
  unfold run
  refine course.bind (hclaim handle) fun taken => ?_
  obtain ⟨row, parcels⟩ := taken
  cases parcels with
  | none => exact course.pure _
  | some parcels =>
    refine course.bind (follows_tellOfStart course row.val) fun _ =>
      course.bind ?_ (hconclude row.id)
    exact follows_orStop course (course.loadContext _ _) fun context =>
      follows_pass course hcount hend hbefore context _ _ _ _

end

/-! ## Claims, cancellations and requests -/

section

variable (course : IsCourse rel) {s : Session}

include course

/-- A claim follows where the start of a pending job is saved. -/
theorem followsAt_claim {handle : Option Handle} (htaken : ∀ row ∈ s.store.jobs.rows,
    row.val.status = .pending → ∀ total : Nat, FollowsAt rel { s with inBlock := true }
      (execute fun store =>
        store.saveJob row.id [(total : Int)] (row.val.started total s.clock).withStartOf)) :
    FollowsAt rel s (claim handle) := by
  unfold claim
  refine course.atomicIfAt (course.queryBindAt fun found hfound => ?_)
  cases found with
  | none => exact course.fail _ _
  | some row =>
    have hrow := Store.mem_of_jobOf? (Except.ok.inj hfound)
    dsimp only
    split
    · next hpending =>
      refine course.queryBindAt fun parcels _ => course.bindAt (course.ask _ _) fun now t hask => ?_
      cases hask
      exact course.bindAt (htaken row hrow hpending _) fun _ t _ => course.pure _ t
    · exact course.pure _ _

/-- A cancellation follows where it is asked for in the record of a job in flight, and where a
pending job then ends. -/
theorem followsAt_cancel {handle : Text.Literal}
    (hasked : ∀ row ∈ s.store.jobs.rows, row.val.status.isActive = true →
      FollowsAt rel { s with inBlock := true } (execute fun store =>
        store.saveJob row.id [] fun stored => { stored with cancelRequested := true }))
    (hended : ∀ row ∈ s.store.jobs.rows, row.val.status = .pending → ∀ t,
      t.store = { s.store with jobs := s.store.jobs.modify row.id fun stored =>
        { stored with cancelRequested := true } } →
      FollowsAt rel t
        (complete row.id { row.val with cancelRequested := true } .cancelled none)) :
    FollowsAt rel s (cancel handle) := by
  unfold cancel
  split
  · exact course.pure _ s
  refine course.atomicIfAt (course.queryBindAt fun found hfound => ?_)
  cases found with
  | none => exact course.pure _ _
  | some row =>
    have hrow := Store.mem_of_jobOf? (Except.ok.inj hfound)
    dsimp only
    split
    · next hactive =>
      refine course.bindAt (hasked row hrow hactive) fun _ t hrun => ?_
      split
      · next hpending =>
        obtain ⟨outcome, hsave, hstore, _⟩ := execute_ok hrun
        rw [Store.eq_of_saveJob hsave] at hstore
        exact course.bindAt (hended row hrow hpending t hstore) fun _ u _ => course.pure _ u
      · exact course.pure _ t
    · exact course.pure _ _

theorem followsAt_inFlight? {register : Int} (hgiven : ∀ row ∈ s.store.jobs.rows,
    row.val.status.isActive = true →
      FollowsAt rel s (complete row.id row.val .failed (some abandoned))) :
    FollowsAt rel s (inFlight? register) := by
  unfold inFlight?
  refine course.queryBindAt fun found hfound => ?_
  cases found with
  | none => exact course.pure _ s
  | some row =>
    obtain ⟨hrow, _, hactive⟩ := Store.mem_of_activeJob? (Except.ok.inj hfound)
    refine course.bindAt (follows_isOverdue course row.val s) fun isStale t hoverdue => ?_
    have hsession := congrArg Prod.snd hoverdue
    rw [session_isOverdue] at hsession
    subst hsession
    split
    · exact course.bindAt (hgiven row hrow hactive) fun _ t _ => course.pure _ t
    · exact course.pure _ s

/-- A request follows where the job in flight is given up, and where a job is made once none is in
flight. -/
theorem followsAt_request {register : Int} {scope : Scope}
    (hgiven : ∀ row ∈ s.store.jobs.rows, row.val.status.isActive = true →
      FollowsAt rel { s with inBlock := true }
        (complete row.id row.val .failed (some abandoned)))
    (hmade : ∀ t, inFlight? register { s with inBlock := true } = (.ok none, t) →
      FollowsAt rel t (create register scope)) :
    FollowsAt rel s (request register scope) := by
  unfold request
  refine course.atomicIfAt (course.queryBindAt fun isThere _ => ?_)
  split
  · refine course.bindAt (followsAt_inFlight? course hgiven) fun found t hrun => ?_
    cases found with
    | some job =>
      dsimp only
      split
      · exact course.pure _ t
      · exact course.fail _ t
    | none => exact course.bindAt (hmade t hrun) fun _ u _ => course.pure _ u
  · exact course.fail _ _

end

/-! ## Where every change of a record follows -/

section

variable (course : IsCourse rel)
  (hsave : ∀ id numbers save, Follows rel (execute fun store => store.saveJob id numbers save))

include course hsave

theorem follows_complete (id : Int) (job : Job) (status : JobStatus) (error : Option String) :
    Follows rel (complete id job status error) :=
  course.bind (course.ask _) fun _ => course.bind (hsave _ _ _) fun _ => course.pure _

theorem follows_cancel (handle : Text.Literal) : Follows rel (cancel handle) := fun _ =>
  followsAt_cancel course (fun _ _ _ => hsave _ _ _ _) fun _ _ _ t _ =>
    follows_complete course hsave _ _ _ _ t

theorem follows_request
    (hadd : ∀ job, Follows rel (execute fun store => .ok (store.addJob job)))
    (hmade : ∀ s : Session, rel s { s with jobs := s.jobs + 1 }) (register : Int) (scope : Scope) :
    Follows rel (request register scope) := by
  have hcreate : Follows rel (create register scope) :=
    course.bind (fun s => hmade s) fun _ => course.bind (course.ask _) fun _ =>
      course.bind (course.ask _) fun _ => course.bind (hadd _) fun _ => course.pure _
  exact fun _ => followsAt_request course
    (fun _ _ _ => follows_complete course hsave _ _ _ _ _) fun t _ => hcreate t

theorem follows_claim (handle : Option Handle) : Follows rel (claim handle) := fun _ =>
  followsAt_claim course fun _ _ _ _ => hsave _ _ _ _

theorem follows_run_of_saves {meanwhile : Meanwhile}
    (hbefore : ∀ k, Follows rel (meanwhile.before k)) (handle : Option Handle) :
    Follows rel (run handle meanwhile) :=
  follows_run course (follows_claim course hsave) (fun _ _ => hsave _ _ _)
    (fun _ _ _ _ _ => follows_complete course hsave _ _ _ _) hbefore handle

theorem follows_markStarted (handle : Option Handle) (total : Int) :
    Follows rel (markStarted handle total) := by
  unfold markStarted
  refine course.bind (course.query _) fun found => ?_
  cases found with
  | none => exact course.fail _
  | some row => exact course.bind (course.ask _) fun _ => course.bind (hsave _ _ _) fun _ =>
      course.pure _

end

end Clearance.Job

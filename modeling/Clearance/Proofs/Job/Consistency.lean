import Clearance.Proofs.Job.Descent
import Clearance.Proofs.Job.Worker
import Clearance.Proofs.Service.Course

/-!
# Consistent records of jobs

However a job has gone, its record says one thing: it is finished just if it has ended, it has an
error just if it has failed, it does not count more parcels than there are, and its times are in
order. Between any two requests no job goes back. A worker puts its own record into the stored one
piece by piece, so while it works its job is followed separately: nobody else changes what it has
counted, and the others may at most give the job up.
-/

set_option autoImplicit false

namespace Clearance

open Proc

namespace Job

/-- What the record of a job says at a time. -/
structure IsConsistent (now : Int) (job : Job) : Prop where
  finished : job.finished = true ↔ job.status.isActive = false
  ended : job.completedAt.isSome = true ↔ job.status.isActive = false
  failed : job.status = .failed → ∃ text, job.error = some text ∧ text ≠ ""
  unharmed : job.status ≠ .failed → job.error = none
  counted : 0 ≤ job.processed ∧ job.processed ≤ job.total
  completed : job.status = .completed → job.processed = job.total
  pending : job.status = .pending → job.total = 0 ∧ job.processed = 0 ∧ job.startedAt = none
  begun : job.status = .running ∨ job.status = .completed → job.startedAt.isSome = true
  created : job.createdAt ≤ now
  started : ∀ start, job.startedAt = some start → job.createdAt ≤ start ∧ start ≤ now
  stopped : ∀ stop, job.completedAt = some stop → job.createdAt ≤ stop ∧ stop ≤ now ∧
    ∀ start, job.startedAt = some start → start ≤ stop

variable {job : Job} {now : Int}

/-- Time passes, and what a record says stays consistent. -/
theorem IsConsistent.mono (h : job.IsConsistent now) {later : Int} (hlater : now ≤ later) :
    job.IsConsistent later :=
  { h with
    created := Int.le_trans h.created hlater
    started := fun start hstart =>
      ⟨(h.started start hstart).1, Int.le_trans (h.started start hstart).2 hlater⟩
    stopped := fun stop hstop =>
      have ⟨hmade, hpast, hstart⟩ := h.stopped stop hstop
      ⟨hmade, Int.le_trans hpast hlater, hstart⟩ }

theorem isConsistent_fresh (handle : Handle) (register : Int) (scope : Scope) (now : Int) :
    (fresh handle register scope now).IsConsistent now where
  finished := iff_of_false nofun nofun
  ended := iff_of_false nofun nofun
  failed := nofun
  unharmed := fun _ => rfl
  counted := ⟨Int.le_refl 0, Int.le_refl 0⟩
  completed := nofun
  pending := fun _ => ⟨rfl, rfl, rfl⟩
  begun := nofun
  created := Int.le_refl now
  started := nofun
  stopped := nofun

/-- A pending job that is taken has nothing counted and no end. -/
theorem IsConsistent.withStartOf (h : job.IsConsistent now) (hpending : job.status = .pending)
    (total : Nat) : ((job.started total now).withStartOf job).IsConsistent now := by
  have hactive : ¬ job.status.isActive = false := by
    rw [hpending]
    decide
  have hended : ¬ job.completedAt.isSome = true := fun hsome => hactive (h.ended.1 hsome)
  have herror := h.unharmed (by rw [hpending]; decide)
  obtain ⟨_, hprocessed, _⟩ := h.pending hpending
  refine ⟨iff_of_false (fun hfinished => hactive (h.finished.1 hfinished)) nofun,
    iff_of_false hended nofun, nofun, fun _ => herror, ⟨Int.le_of_eq hprocessed.symm, ?_⟩, nofun,
    nofun, fun _ => rfl, h.created, fun start hstart => ?_, fun stop hstop => ?_⟩
  · rw [show ((job.started total now).withStartOf job).processed = 0 from hprocessed]
    exact Int.natCast_nonneg total
  · cases hstart
    exact ⟨h.created, Int.le_refl now⟩
  · exact absurd (Option.isSome_of_eq_some hstop) hended

/-- A job in a worker's hands can be counted up to its total. -/
theorem IsConsistent.withCountOf (h : job.IsConsistent now) {own : Job}
    (hstatus : job.status = .running ∨ job.status = .failed)
    (hcounted : 0 ≤ own.processed ∧ own.processed ≤ job.total) :
    (own.withCountOf job).IsConsistent now :=
  { h with
    counted := hcounted
    completed := fun hcompleted => by
      rcases hstatus with hstatus | hstatus <;> cases hstatus.symm.trans hcompleted
    pending := fun hpending => by
      rcases hstatus with hstatus | hstatus <;> cases hstatus.symm.trans hpending }

/-- A job can be brought to any end, with an error if it fails and only then; it is completed only
once all its parcels have been counted. -/
theorem IsConsistent.withEndOf (h : job.IsConsistent now) {own : Job} {status : JobStatus}
    {error : Option String} (hover : status.isActive = false) (hown : own.error = none)
    (hfailed : status = .failed → ∃ text, error = some text ∧ text ≠ "")
    (hunharmed : status ≠ .failed → error = none)
    (hcompleted : status = .completed → job.processed = job.total ∧ job.startedAt.isSome = true) :
    ((own.ended status error now).withEndOf job).IsConsistent now where
  finished := iff_of_true rfl hover
  ended := iff_of_true rfl hover
  failed := fun hstatus => by
    obtain ⟨text, rfl, htext⟩ := hfailed hstatus
    exact ⟨text, rfl, htext⟩
  unharmed := fun hstatus => by
    change error.or own.error = none
    rw [hunharmed hstatus, hown]
    rfl
  counted := h.counted
  completed := fun hstatus => (hcompleted hstatus).1
  pending := fun hstatus => by
    cases (show status = .pending from hstatus)
    cases hover
  begun := fun hstatus => by
    rcases hstatus with hstatus | hstatus
    · cases (show status = .running from hstatus)
      cases hover
    · exact (hcompleted hstatus).2
  created := h.created
  started := h.started
  stopped := fun stop hstop => by
    cases hstop
    exact ⟨h.created, Int.le_refl now, fun start hstart => (h.started start hstart).2⟩

/-- What becomes of a job between requests: it counts no less, ends once, and is pending only at
first. A job that has been taken stays as it is, unless it is given up. -/
structure Proceeds (a b : Job) : Prop where
  processed : a.processed ≤ b.processed
  finished : a.finished = true → b.finished = true
  pending : b.status = .pending → a.status = .pending
  taken : a.status ≠ .pending → b.total = a.total ∧ b.processed = a.processed ∧
    b.startedAt = a.startedAt ∧ (b.status = a.status ∨ a.status = .running ∧ b.status = .failed)

theorem Proceeds.refl (a : Job) : a.Proceeds a :=
  ⟨Int.le_refl _, fun h => h, fun h => h, fun _ => ⟨rfl, rfl, rfl, .inl rfl⟩⟩

theorem Proceeds.trans {a b c : Job} (hab : a.Proceeds b) (hbc : b.Proceeds c) :
    a.Proceeds c where
  processed := Int.le_trans hab.processed hbc.processed
  finished := fun h => hbc.finished (hab.finished h)
  pending := fun h => hab.pending (hbc.pending h)
  taken := fun h => by
    obtain ⟨htotal, hprocessed, hstarted, hstatus⟩ := hab.taken h
    obtain ⟨htotal', hprocessed', hstarted', hstatus'⟩ :=
      hbc.taken fun hpending => h (hab.pending hpending)
    refine ⟨htotal'.trans htotal, hprocessed'.trans hprocessed, hstarted'.trans hstarted, ?_⟩
    rcases hstatus with hsame | ⟨hrunning, hfailed⟩
    · rwa [hsame] at hstatus'
    · rcases hstatus' with hsame | ⟨hrunning', _⟩
      · exact .inr ⟨hrunning, hsame.trans hfailed⟩
      · cases hfailed.symm.trans hrunning'

/-- A pending job has nothing that it could lose. -/
theorem proceeds_of_pending {a b : Job} {later : Int} (ha : a.IsConsistent now)
    (hpending : a.status = .pending) (hb : b.IsConsistent later) : a.Proceeds b where
  processed := by
    rw [(ha.pending hpending).2.1]
    exact hb.counted.1
  finished := fun hfinished => by
    have hover := ha.finished.1 hfinished
    rw [hpending] at hover
    cases hover
  pending := fun _ => hpending
  taken := fun htaken => absurd hpending htaken

theorem timeUp_ne_empty (job : Job) : job.timeUp ≠ "" := by
  unfold timeUp
  simp only [ne_eq, String.append_eq_empty_iff]
  rintro ⟨⟨⟨⟨hstart, _⟩, _⟩, _⟩, _⟩
  exact absurd hstart (by decide)

theorem errorOf_ne_empty (job : Job) (fault : Fault) : job.errorOf fault ≠ "" := by
  unfold errorOf
  split
  · exact timeUp_ne_empty job
  · exact fault.reason_ne_empty

end Job

namespace Session

/-- A session in which the records of all jobs are consistent. -/
def HasConsistentJobs (s : Session) : Prop :=
  ∀ row ∈ s.store.jobs.rows, row.val.IsConsistent s.clock

/-- What becomes of a session with consistent jobs: they stay consistent, the clock does not go
back, and every job that is not new comes from one that was there. -/
def KeepsJobsConsistent (move : Row Job → Row Job → Prop) (s t : Session) : Prop :=
  s.HasConsistentJobs →
    t.HasConsistentJobs ∧ s.clock ≤ t.clock ∧ Store.JobsFrom move s.store t.store

variable {move : Row Job → Row Job → Prop} {s t u : Session}

theorem HasConsistentJobs.of_subset (hs : s.HasConsistentJobs)
    (hrows : ∀ row ∈ t.store.jobs.rows, row ∈ s.store.jobs.rows) (hclock : s.clock ≤ t.clock) :
    t.HasConsistentJobs := fun row hrow => (hs row (hrows row hrow)).mono hclock

theorem keepsJobsConsistent_of_less (hmove : ∀ x, move x x) (hsome : s.store.SomeJobsOf t.store)
    (hclock : s.clock ≤ t.clock) : KeepsJobsConsistent move s t :=
  fun hs => ⟨hs.of_subset (fun _ hrow => hsome.rows.subset hrow) hclock, hclock,
    Store.jobsFrom_of_someJobsOf hmove hsome⟩

theorem keepsJobsConsistent_isJobLaw (hrefl : ∀ x, move x x)
    (htrans : ∀ x y z, y.id = x.id → move x y → move y z → move x z) :
    IsJobLaw (KeepsJobsConsistent move) where
  trans := by
    intro s t u hst htu hs
    obtain ⟨ht, hclock, hfrom⟩ := hst hs
    obtain ⟨hu, hclock', hfrom'⟩ := htu ht
    exact ⟨hu, Int.le_trans hclock hclock', hfrom.trans htrans hfrom'⟩
  less := fun hsome hclock _ =>
    keepsJobsConsistent_of_less hrefl hsome (Int.le_of_eq hclock.symm)
  undone := by
    intro s t u hst hsame hclock _ hs
    have hpassed := (hst hs).2.1
    rw [← hclock] at hpassed
    exact keepsJobsConsistent_of_less hrefl (Store.someJobsOf_of_jobs_eq hsame) hpassed hs

/-- A record that is saved consistently and as the law says leaves jobs consistent. -/
theorem keepsJobsConsistent_of_modify {id : Int} {save : Job → Job} (hmove : ∀ x, move x x)
    (hrows : t.store.jobs = s.store.jobs.modify id save) (hclock : t.clock = s.clock)
    (hsave : ∀ job, ⟨id, job⟩ ∈ s.store.jobs.rows → job.IsConsistent s.clock →
      (save job).IsConsistent s.clock ∧ move ⟨id, job⟩ ⟨id, save job⟩) :
    KeepsJobsConsistent move s t := by
  intro hs
  have hboth := fun job hjob => hsave job hjob (hs _ hjob)
  refine ⟨fun row hrow => ?_, Int.le_of_eq hclock.symm,
    Store.jobsFrom_modify hmove (fun job hjob => (hboth job hjob).2) hrows⟩
  rw [hrows] at hrow
  rw [hclock]
  rcases Table.mem_modify hrow with hold | ⟨_, job, hjob, hval⟩
  · exact hs row hold
  · rw [hval]
    exact (hboth job hjob).1

/-- The law for all jobs. -/
def AllProceed (old row : Row Job) : Prop := old.val.Proceeds row.val

/-- The law for all jobs but the one that a worker has in its hands. -/
def AllProceedBut (id : Int) (old row : Row Job) : Prop :=
  old.id ≠ id → old.val.Proceeds row.val

theorem allProceed_isJobLaw : IsJobLaw (KeepsJobsConsistent AllProceed) :=
  keepsJobsConsistent_isJobLaw (fun row => .refl row.val) fun _ _ _ _ => Job.Proceeds.trans

theorem allProceedBut_isJobLaw (id : Int) : IsJobLaw (KeepsJobsConsistent (AllProceedBut id)) :=
  keepsJobsConsistent_isJobLaw (fun row _ => .refl row.val) fun x y z hid hxy hyz hne =>
    (hxy hne).trans (hyz (by rwa [hid]))

/-- What is a law for all jobs is one for all but one. -/
theorem KeepsJobsConsistent.but (h : KeepsJobsConsistent AllProceed s t) (id : Int) :
    KeepsJobsConsistent (AllProceedBut id) s t := by
  intro hs
  obtain ⟨ht, hclock, hfrom⟩ := h hs
  exact ⟨ht, hclock, hfrom.imp fun _ _ _ _ _ hmoved _ => hmoved⟩

end Session

open Session (KeepsJobsConsistent AllProceed AllProceedBut allProceed_isJobLaw
  allProceedBut_isJobLaw keepsJobsConsistent_of_modify)

/-! ## Requests -/

namespace Job

variable {s : Session}

/-- A job in flight is given up consistently. -/
theorem keepsJobsConsistent_giveUp {row : Row Job} (hs : s.HasConsistentJobs)
    (hrow : row ∈ s.store.jobs.rows) (hactive : row.val.status.isActive = true) :
    FollowsAt (KeepsJobsConsistent AllProceed) s
      (complete row.id row.val .failed (some abandoned)) := by
  have herror : row.val.error = none := (hs row hrow).unharmed fun hfailed => by
    rw [hfailed] at hactive
    cases hactive
  refine allProceed_isJobLaw.followsAt_complete fun t hrows hclock _ =>
    keepsJobsConsistent_of_modify (fun x => .refl x.val) hrows hclock fun job hjob hjobs => ?_
  obtain rfl := Store.val_eq_of_mem hrow hjob
  refine ⟨hjobs.withEndOf rfl herror (fun _ => ⟨abandoned, rfl, by decide⟩)
    (fun hne => absurd rfl hne) nofun, ?_⟩
  refine ⟨Int.le_refl _, fun _ => rfl, nofun, fun htaken => ⟨rfl, rfl, rfl, .inr ⟨?_, rfl⟩⟩⟩
  cases hstatus : row.val.status with
  | running => rfl
  | pending => exact absurd hstatus htaken
  | _ =>
    rw [hstatus] at hactive
    cases hactive

theorem keepsJobsConsistent_request (register : Int) (scope : Scope) :
    Follows (KeepsJobsConsistent AllProceed) (request register scope) := by
  intro s hs
  refine followsAt_request allProceed_isJobLaw.isCourse
    (fun row hrow hactive => keepsJobsConsistent_giveUp hs hrow hactive) (fun t _ => ?_) hs
  refine allProceed_isJobLaw.followsAt_create fun u hrows hclock _ ht =>
    ⟨fun row hrow => ?_, Int.le_of_eq hclock.symm,
      Store.jobsFrom_insert (fun row => .refl row.val) hrows⟩
  rw [hrows] at hrow
  rw [hclock]
  rcases Table.mem_insert.1 hrow with hold | rfl
  · exact ht row hold
  · exact isConsistent_fresh _ _ _ _

theorem keepsJobsConsistent_cancel (handle : Text.Literal) :
    Follows (KeepsJobsConsistent AllProceed) (cancel handle) := by
  intro s hs
  refine followsAt_cancel allProceed_isJobLaw.isCourse (fun row _ _ => ?_)
    (fun row hrow hpending t hstore => ?_) hs
  · exact allProceed_isJobLaw.followsAt_saveJob fun t hrows hclock _ =>
      keepsJobsConsistent_of_modify (fun x => .refl x.val) hrows hclock fun job _ hjob =>
        ⟨{ hjob with }, ⟨Int.le_refl _, fun h => h, fun h => h,
          fun _ => ⟨rfl, rfl, rfl, .inl rfl⟩⟩⟩
  · have herror := (hs row hrow).unharmed (by rw [hpending]; decide)
    refine allProceed_isJobLaw.followsAt_complete fun u hrows hclock _ =>
      keepsJobsConsistent_of_modify (fun x => .refl x.val) hrows hclock fun job hjob hjobs => ?_
    -- The record that ends is the one in which the cancellation has just been asked for.
    rw [hstore] at hjob
    obtain rfl := Table.val_of_mem_modify hrow hjob
    have hended : ((Job.ended { row.val with cancelRequested := true } .cancelled none
        t.clock).withEndOf { row.val with cancelRequested := true }).IsConsistent t.clock :=
      hjobs.withEndOf rfl herror nofun (fun _ => rfl) nofun
    exact ⟨hended, proceeds_of_pending hjobs hpending hended⟩

end Job

end Clearance

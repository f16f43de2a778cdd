import Clearance.Proofs.Job.Consistency

/-!
# What a worker counts

From the moment a worker takes a job until it brings it to its end, the stored record of the job
counts what the worker's own record counts, whatever is done meanwhile. So the count never exceeds
the number of parcels, and is that number when the job is completed. Seen from outside, a run of a
pending job goes forward only, and leaves the other jobs to themselves.
-/

set_option autoImplicit false

namespace Clearance

open Proc
open Session (KeepsJobsConsistent AllProceed AllProceedBut allProceed_isJobLaw
  allProceedBut_isJobLaw keepsJobsConsistent_of_modify)

namespace Job

/-- Whether the stored record of the job that a worker holds, if it has not been deleted, counts
what the worker's own record does. The job may have been given up. -/
structure IsHeld (id : Int) (own : Job) (s : Session) : Prop where
  known : id ≤ s.store.jobs.lastId
  stored : ∀ job, ⟨id, job⟩ ∈ s.store.jobs.rows →
    (job.status = .running ∨ job.status = .failed) ∧ job.total = own.total ∧
      job.processed = own.processed ∧ job.startedAt.isSome = true

variable {s t : Session} {id : Int} {own : Job}

/-- Others leave the count of a job that is held. -/
theorem IsHeld.of_keeps (h : IsHeld id own s) (hs : s.HasConsistentJobs)
    (hkeeps : KeepsJobsConsistent AllProceed s t) : IsHeld id own t := by
  obtain ⟨_, _, hfrom⟩ := hkeeps hs
  refine ⟨Int.le_trans h.known hfrom.lastId, fun job hjob => ?_⟩
  obtain ⟨⟨_, old⟩, hold, rfl, hproceeds⟩ := hfrom.rows _ hjob h.known
  obtain ⟨hstatus, htotal, hprocessed, hstarted⟩ := h.stored old hold
  have htaken : old.status ≠ .pending := by
    rcases hstatus with hstatus | hstatus <;> rw [hstatus] <;> decide
  obtain ⟨htotal', hprocessed', hstarted', hstatus'⟩ := hproceeds.taken htaken
  refine ⟨?_, htotal'.trans htotal, hprocessed'.trans hprocessed, ?_⟩
  · rcases hstatus' with hsame | ⟨_, hfailed⟩
    · rw [show job.status = old.status from hsame]
      exact hstatus
    · exact .inr hfailed
  · rw [show job.startedAt = old.startedAt from hstarted']
    exact hstarted

/-- What is known of the count when a worker is through or has been stopped. -/
def Pass.IsCounted (id : Int) (s : Session) : Pass → Prop
  | through own => IsHeld id own s ∧ own.processed = own.total ∧ own.error = none
  | cancelled _ => True
  | stopped own _ _ => own.error = none

/-- What is known of the count after a visit. -/
def Visit.IsCounted (id : Int) (own : Job) (s : Session) : Visit → Prop
  | goesOn _ counted => counted = { own with processed := own.processed + 1 } ∧
      IsHeld id counted s
  | ends pass => pass.IsCounted id s

/-- The job that a worker holds comes to a consistent end. -/
theorem keepsJobsConsistent_end {status : JobStatus} {error : Option String}
    (hover : status.isActive = false) (hown : own.error = none)
    (hfailed : status = .failed → ∃ text, error = some text ∧ text ≠ "")
    (hunharmed : status ≠ .failed → error = none)
    (hcompleted : status = .completed → ∀ job, ⟨id, job⟩ ∈ s.store.jobs.rows →
      job.processed = job.total ∧ job.startedAt.isSome = true) :
    FollowsAt (KeepsJobsConsistent (AllProceedBut id)) s (complete id own status error) := by
  refine (allProceedBut_isJobLaw id).followsAt_complete fun t hrows hclock _ =>
    keepsJobsConsistent_of_modify (fun x _ => .refl x.val) hrows hclock fun job hjob hjobs =>
      ⟨hjobs.withEndOf hover hown hfailed hunharmed fun hstatus => hcompleted hstatus job hjob,
        fun hne => absurd rfl hne⟩

/-- A worker can count one more while parcels are left. -/
theorem keepsJobsConsistent_saveCount (h : IsHeld id own s)
    (hcount : 0 ≤ own.processed ∧ own.processed < own.total) :
    FollowsAt (KeepsJobsConsistent (AllProceedBut id)) s
      (saveCount id { own with processed := own.processed + 1 }) := by
  refine (allProceedBut_isJobLaw id).followsAt_saveJob fun t hrows hclock _ =>
    keepsJobsConsistent_of_modify (fun x _ => .refl x.val) hrows hclock fun job hjob hjobs =>
      ⟨?_, fun hne => absurd rfl hne⟩
  obtain ⟨hstatus, htotal, _, _⟩ := h.stored job hjob
  refine hjobs.withCountOf hstatus ?_
  dsimp only
  omega

theorem IsHeld.of_saveCount (h : IsHeld id own s) {counted : Job}
    (htotal : counted.total = own.total)
    (hrun : saveCount id counted s = (.ok (), t)) : IsHeld id counted t := by
  obtain ⟨outcome, hsave, hstore, _⟩ := execute_ok hrun
  rw [Store.eq_of_saveJob hsave] at hstore
  refine ⟨?_, fun job hjob => ?_⟩
  · rw [hstore]
    exact h.known
  · rw [hstore] at hjob
    obtain ⟨old, hold, rfl⟩ := Table.exists_of_mem_modify_self hjob
    obtain ⟨hstatus, hold, _, hstarted⟩ := h.stored old hold
    exact ⟨hstatus, hold.trans htotal.symm, rfl, hstarted⟩

section

variable {meanwhile : Meanwhile}
  (hbefore : ∀ k, Follows (KeepsJobsConsistent AllProceed) (meanwhile.before k))

include hbefore

/-- A visit counts its parcel or ends the way of the worker. -/
theorem exists_visit_counted (context : Screening.Context) (count : Nat) (parcel : Int)
    (hs : s.HasConsistentJobs) (hheld : IsHeld id own s) (herror : own.error = none)
    (hcount : 0 ≤ own.processed ∧ own.processed < own.total) :
    ∃ result t, visit context meanwhile id count own parcel s = (.ok result, t) ∧
      KeepsJobsConsistent (AllProceedBut id) s t ∧ result.IsCounted id own t := by
  obtain ⟨result, t, hvisit, hturn⟩ := exists_turn context meanwhile id count own parcel s
  refine ⟨result, t, hvisit, ?_⟩
  have hend : FollowsAt (KeepsJobsConsistent (AllProceedBut id)) s
      (complete id own .cancelled none) :=
    keepsJobsConsistent_end rfl herror nofun (fun _ => rfl) nofun
  have hscreen := follows_screenNext allProceed_isJobLaw.isCourse hbefore context own.scope count
    parcel s
  unfold FollowsAt at hend hscreen
  cases hturn with
  | unasked => exact ⟨(allProceedBut_isJobLaw id).isCourse.refl s, herror⟩
  | uncancelled _ hrun =>
    rw [hrun] at hend
    exact ⟨hend, herror⟩
  | cancelled _ hrun =>
    rw [hrun] at hend
    exact ⟨hend, trivial⟩
  | unscreened _ hrun =>
    rw [hrun] at hscreen
    exact ⟨hscreen.but id, herror⟩
  | @uncounted _ _ u _ _ hrun hcounted =>
    rw [hrun] at hscreen
    have hsave := keepsJobsConsistent_saveCount (hheld.of_keeps hs hscreen) hcount
    unfold FollowsAt at hsave
    rw [hcounted] at hsave
    exact ⟨(allProceedBut_isJobLaw id).trans (hscreen.but id) hsave, herror⟩
  | @counted _ u _ _ hrun hcounted =>
    rw [hrun] at hscreen
    have hheld' := hheld.of_keeps hs hscreen
    have hsave := keepsJobsConsistent_saveCount hheld' hcount
    unfold FollowsAt at hsave
    rw [hcounted] at hsave
    exact ⟨(allProceedBut_isJobLaw id).trans (hscreen.but id) hsave, rfl,
      hheld'.of_saveCount rfl hcounted⟩

/-- The worker's count and the parcels that are left make up the total all along. -/
theorem exists_pass_counted (context : Screening.Context) (count : Nat) (parcels : List Int)
    (hs : s.HasConsistentJobs) (hheld : IsHeld id own s) (herror : own.error = none)
    (hcount : 0 ≤ own.processed ∧ own.processed + parcels.length = own.total) :
    ∃ result t, pass context meanwhile id count own parcels s = (.ok result, t) ∧
      KeepsJobsConsistent (AllProceedBut id) s t ∧ result.IsCounted id t := by
  induction parcels generalizing count own s with
  | nil =>
    rw [List.length_nil] at hcount
    exact ⟨.through own, s, rfl, (allProceedBut_isJobLaw id).same rfl rfl rfl, hheld, by omega,
      herror⟩
  | cons parcel rest ih =>
    rw [List.length_cons] at hcount
    obtain ⟨result, t, hrun, hkeeps, hcounted⟩ :=
      exists_visit_counted hbefore context count parcel hs hheld herror (by omega)
    unfold pass
    rw [bind_of_ok hrun]
    cases result with
    | ends pass => exact ⟨pass, t, rfl, hkeeps, hcounted⟩
    | goesOn count counted =>
      obtain ⟨rfl, hheld'⟩ := hcounted
      obtain ⟨result, u, hrun', hkeeps', hcounted'⟩ :=
        ih count (hkeeps hs).1 hheld' herror (by dsimp only; omega)
      exact ⟨result, u, hrun', (allProceedBut_isJobLaw id).trans hkeeps hkeeps', hcounted'⟩

theorem exists_work_counted {row : Row Job} {parcels : List Int} (hs : s.HasConsistentJobs)
    (hheld : IsHeld row.id row.val s) (herror : row.val.error = none)
    (hprocessed : row.val.processed = 0) (htotal : row.val.total = parcels.length) :
    ∃ result t, work meanwhile row parcels s = (.ok result, t) ∧
      KeepsJobsConsistent (AllProceedBut row.id) s t ∧ result.IsCounted row.id t := by
  have hload : KeepsJobsConsistent AllProceed s (Screening.loadContext row.val.scope.hasWords
      row.val.scope.hasCodes s).2 := allProceed_isJobLaw.isCourse.loadContext _ _ s
  unfold work
  rw [orStop_apply]
  cases hrun : Screening.loadContext row.val.scope.hasWords row.val.scope.hasCodes s with
  | mk result t =>
    rw [hrun] at hload
    cases result with
    | error fault => exact ⟨_, t, rfl, hload.but row.id, herror⟩
    | ok context =>
      obtain ⟨result, u, hpass, hkeeps, hcounted⟩ := exists_pass_counted hbefore context 0 parcels
        (hload hs).1 (hheld.of_keeps hs hload) herror (by omega)
      exact ⟨result, u, hpass, (allProceedBut_isJobLaw row.id).trans (hload.but row.id) hkeeps,
        hcounted⟩

end

/-- Whatever a worker comes to, it brings its job to a consistent end. -/
theorem keepsJobsConsistent_conclude {result : Pass} (h : result.IsCounted id s) :
    FollowsAt (KeepsJobsConsistent (AllProceedBut id)) s (conclude id result) := by
  have course := (allProceedBut_isJobLaw id).isCourse
  cases result with
  | through own =>
    obtain ⟨hheld, hall, herror⟩ := h
    refine keepsJobsConsistent_end rfl herror nofun (fun _ => rfl) fun _ job hjob => ?_
    obtain ⟨_, htotal, hprocessed, hstarted⟩ := hheld.stored job hjob
    exact ⟨by omega, hstarted⟩
  | cancelled own => exact course.pure _ s
  | stopped own parcel fault =>
    refine course.bindAt (follows_tellOfFault course own parcel fault s) fun _ t _ => ?_
    exact keepsJobsConsistent_end rfl h (fun _ => ⟨_, rfl, errorOf_ne_empty own fault⟩)
      (fun hne => absurd rfl hne) nofun

/-- A pending job is taken consistently. -/
theorem keepsJobsConsistent_claim (handle : Option Handle) :
    Follows (KeepsJobsConsistent AllProceed) (claim handle) := by
  intro s
  refine followsAt_claim allProceed_isJobLaw.isCourse fun row hrow hpending total => ?_
  refine allProceed_isJobLaw.followsAt_saveJob fun t hrows hclock _ =>
    keepsJobsConsistent_of_modify (fun x => .refl x.val) hrows hclock fun job hjob hjobs => ?_
  obtain rfl := Store.val_eq_of_mem hrow hjob
  have htaken := hjobs.withStartOf hpending total
  exact ⟨htaken, proceeds_of_pending hjobs hpending htaken⟩

/-- What a worker has taken it holds, with nothing counted. -/
theorem isHeld_of_claim {handle : Option Handle} {row : Row Job} {parcels : List Int}
    (hs : s.HasConsistentJobs) (h : claim handle s = (.ok (row, some parcels), t)) :
    IsHeld row.id row.val t ∧ row.val.error = none ∧ row.val.processed = 0 ∧
      row.val.total = parcels.length := by
  obtain ⟨job, hjob, hpending, _, hown, hstore⟩ := claim_some h
  have hconsistent := hs _ hjob
  obtain ⟨_, hprocessed, _⟩ := hconsistent.pending hpending
  have herror := hconsistent.unharmed (by rw [hpending]; decide)
  rw [hown]
  refine ⟨⟨?_, fun stored hstored => ?_⟩, herror, hprocessed, rfl⟩
  · have hbound := s.store.jobs.bounded ⟨row.id, job⟩ hjob
    rw [hstore]
    exact hbound
  · rw [hstore, hown] at hstored
    obtain ⟨old, hold, rfl⟩ := Table.exists_of_mem_modify_self hstored
    obtain rfl := Store.val_eq_of_mem hjob hold
    exact ⟨.inl rfl, rfl, rfl, rfl⟩

/-- A run goes forward: its own job was pending before, so it has nothing to lose. -/
theorem keepsJobsConsistent_run {meanwhile : Meanwhile}
    (hbefore : ∀ k, Follows (KeepsJobsConsistent AllProceed) (meanwhile.before k))
    (handle : Option Handle) : Follows (KeepsJobsConsistent AllProceed) (run handle meanwhile) := by
  intro s hs
  have hclaim := keepsJobsConsistent_claim handle s
  unfold FollowsAt at hclaim
  unfold run
  rw [bind_apply]
  cases hrun : claim handle s with
  | mk result t =>
    rw [hrun] at hclaim
    cases result with
    | error fault => exact hclaim hs
    | ok taken =>
      obtain ⟨row, parcels⟩ := taken
      cases parcels with
      | none => exact hclaim hs
      | some parcels =>
        obtain ⟨hheld, herror, hprocessed, htotal⟩ := isHeld_of_claim hs hrun
        obtain ⟨job, hjob, hpending, _⟩ := claim_some hrun
        have hall : FollowsAt (KeepsJobsConsistent (AllProceedBut row.id)) t
            (row.val.tellOfStart >>= fun _ =>
              work meanwhile row parcels >>= conclude row.id) := by
          have course := (allProceedBut_isJobLaw row.id).isCourse
          refine course.bindAt (follows_tellOfStart course row.val t) fun _ u htold => ?_
          have hreported : KeepsJobsConsistent AllProceed t (row.val.tellOfStart t).2 :=
            follows_tellOfStart allProceed_isJobLaw.isCourse row.val t
          rw [htold] at hreported
          have ht := (hclaim hs).1
          obtain ⟨result, v, hwork, hkeeps, hcounted⟩ := exists_work_counted hbefore
            (hreported ht).1 (hheld.of_keeps ht hreported) herror hprocessed htotal
          refine course.bindAt ?_ fun found w hfound => ?_
          · unfold FollowsAt
            rw [hwork]
            exact hkeeps
          · rw [hwork] at hfound
            cases hfound
            exact keepsJobsConsistent_conclude hcounted
        obtain ⟨hend, hclock, hfrom⟩ :=
          (allProceedBut_isJobLaw row.id).trans (hclaim.but row.id) hall hs
        refine ⟨hend, hclock, hfrom.imp fun old hold later hlater hid hproceeds => ?_⟩
        by_cases hown : old.id = row.id
        · have hval := Store.val_eq_of_mem hold (hown ▸ hjob)
          exact proceeds_of_pending (hs old hold) (by rw [← hval]; exact hpending)
            (hend later hlater)
        · exact hproceeds hown

end Job

/-! ## Whatever is asked for -/

theorem keepsJobsConsistent_isCourse : Service.IsCourse
    (fun operation => operation.respectsStages = true ∧ operation.keepsTime = true)
    (KeepsJobsConsistent AllProceed) where
  toIsCourse := allProceed_isJobLaw.isCourse
  request := Job.keepsJobsConsistent_request
  cancel := Job.keepsJobsConsistent_cancel
  run := fun hbefore => Job.keepsJobsConsistent_run hbefore
  updateWord := fun _ _ _ _ => allProceed_isJobLaw.follows_updateWord _ _ _
  bumped := fun _ _ _ => allProceed_isJobLaw.same rfl rfl rfl
  evict := fun _ _ _ => allProceed_isJobLaw.same rfl rfl rfl
  advance := fun seconds hkeeps s => by
    have hforward : 0 ≤ seconds := of_decide_eq_true hkeeps.2
    refine Session.keepsJobsConsistent_of_less (fun row => .refl row.val)
      (Store.someJobsOf_of_jobs_eq rfl) ?_
    dsimp only
    omega
  markStarted := fun _ _ hrespects => nomatch hrespects.1

theorem hasConsistentJobs_start (backend : Word.Backend) (outages : Monitor.Outages) :
    (Session.start backend outages).HasConsistentJobs :=
  fun _ hrow => absurd hrow List.not_mem_nil

/-- Whatever has been asked for of an empty session, the records of all jobs are consistent. A job
that is still stored when more has been asked for has counted no fewer parcels then, and is finished
if it was. -/
theorem jobs_consistent (backend : Word.Backend) (outages : Monitor.Outages)
    (requests more : List Request)
    (hkeeps : ∀ operation ∈ Request.operationsOfAll (requests ++ more),
      operation.respectsStages = true ∧ operation.keepsTime = true) :
    let s := (Service.serveAll requests (Session.start backend outages)).2
    let t := (Service.serveAll more s).2
    (∀ row ∈ s.store.jobs.rows, row.val.IsConsistent s.clock) ∧
    ∀ row ∈ s.store.jobs.rows, ∀ later ∈ t.store.jobs.rows, later.id = row.id →
      row.val.processed ≤ later.val.processed ∧
      (row.val.finished = true → later.val.finished = true) := by
  intro s t
  rw [Request.operationsOfAll_append, List.forall_mem_append] at hkeeps
  have hs := (Service.follows_serveAll keepsJobsConsistent_isCourse requests hkeeps.1
    (Session.start backend outages) (hasConsistentJobs_start backend outages)).1
  have hfrom := (Service.follows_serveAll keepsJobsConsistent_isCourse more hkeeps.2 s hs).2.2
  refine ⟨hs, fun row hrow later hlater hid => ?_⟩
  have hbound := s.store.jobs.bounded row hrow
  obtain ⟨old, hold, holdId, hproceeds⟩ := hfrom.rows later hlater (by omega)
  obtain rfl := Table.eq_of_mem_of_id_eq hold hrow (holdId.trans hid)
  exact ⟨hproceeds.processed, hproceeds.finished⟩

/-- A job that is stopped by its time limit at the second of two parcels. -/
def timeUpRequests : List Request :=
  [.single (.addRegister ⟨"imported", Parcel.ozon⟩),
    .single (.addParcels 1 [.nothing] 2), .single (.start 1 (.text "full") false),
    .single (.advance 5),
    .work (.run (.text (Handle.ofCount 1).text)) (some [.mk 2
      [.single (.raise .softTimeLimit none)]])]

/-- The record says how far the job has come and why it has failed. -/
theorem jobs_consistent_timeUpRequests :
    let s := (Service.serveAll timeUpRequests (Session.start (.engine .null) .none)).2
    ∃ job : Job, job.status = .failed ∧ job.processed = 1 ∧ job.total = 2 ∧
      job.error = some "Time limit exceeded after 1/2 parcels" ∧ job.IsConsistent s.clock := by
  intro s
  have hkeeps : ∀ operation ∈ Request.operationsOfAll (timeUpRequests ++ []),
      operation.respectsStages = true ∧ operation.keepsTime = true := by
    simpa using List.all_eq_true.1 (show (Request.operationsOfAll (timeUpRequests ++ [])).all
      (fun operation => operation.respectsStages && operation.keepsTime) = true by rfl)
  have hfirst : (s.store.jobs.rows.head?.map fun row => (row.val.status, row.val.processed,
      row.val.total, row.val.error)) =
        some (.failed, 1, 2, some "Time limit exceeded after 1/2 parcels") := by
    decide +kernel
  obtain ⟨row, hrow, hval⟩ := Option.map_eq_some_iff.1 hfirst
  simp only [Prod.mk.injEq] at hval
  obtain ⟨hstatus, hprocessed, htotal, herror⟩ := hval
  have hjobs := (jobs_consistent (.engine .null) .none timeUpRequests [] hkeeps).1 row
    (List.mem_of_mem_head? hrow)
  exact ⟨row.val, hstatus, hprocessed, htotal, herror, hjobs⟩

end Clearance

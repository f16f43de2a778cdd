import Clearance.Proofs.Job.Counting

/-!
# Pending jobs

A job that nobody has taken yet has counted no parcel, and its cancellation has not been asked for:
to ask for it ends the job within one block.
-/

set_option autoImplicit false

namespace Clearance

open Proc

namespace Session

/-- A session in which the cancellation of no pending job is asked for. -/
def HasPendingUnasked (s : Session) : Prop :=
  ∀ row ∈ s.store.jobs.rows, row.val.status = .pending → row.val.cancelRequested = false

/-- What becomes of a session in which the cancellation of no pending job is asked for: it is still
so. -/
def KeepsPendingUnasked (s t : Session) : Prop := s.HasPendingUnasked → t.HasPendingUnasked

variable {s t : Session}

theorem keepsPendingUnasked_of_subset (hrows : ∀ row ∈ t.store.jobs.rows, row ∈ s.store.jobs.rows) :
    KeepsPendingUnasked s t :=
  fun hs row hrow => hs row (hrows row hrow)

theorem keepsPendingUnasked_isJobLaw : IsJobLaw KeepsPendingUnasked where
  trans := fun hst htu hs => htu (hst hs)
  less := fun hsome _ _ => keepsPendingUnasked_of_subset fun _ hrow => hsome.rows.subset hrow
  undone := by
    intro s t u _ hsame _ _
    apply keepsPendingUnasked_of_subset
    rw [hsame]
    exact fun _ hrow => hrow

end Session

open Session

namespace Job

variable {s : Session}

theorem keepsPendingUnasked_of_modify {t : Session} {id : Int} {save : Job → Job}
    (hrows : t.store.jobs = s.store.jobs.modify id save)
    (hsave : ∀ job, (save job).status = .pending →
      job.status = .pending ∧ (save job).cancelRequested = job.cancelRequested) :
    KeepsPendingUnasked s t := by
  intro hs row hrow hpending
  rw [hrows] at hrow
  rcases Table.mem_modify hrow with hold | ⟨_, job, hjob, hval⟩
  · exact hs row hold hpending
  · rw [hval] at hpending ⊢
    obtain ⟨hbefore, hsame⟩ := hsave job hpending
    rw [hsame]
    exact hs _ hjob hbefore

theorem keepsPendingUnasked_complete (id : Int) (job : Job) (status : JobStatus)
    (error : Option String) (hover : status.isActive = false) :
    Follows KeepsPendingUnasked (complete id job status error) := fun _ =>
  keepsPendingUnasked_isJobLaw.followsAt_complete fun _ hrows _ _ =>
    keepsPendingUnasked_of_modify hrows fun _ hpending => by
      change status = .pending at hpending
      rw [hpending] at hover
      cases hover

theorem keepsPendingUnasked_claim (handle : Option Handle) :
    Follows KeepsPendingUnasked (claim handle) := by
  intro s
  refine followsAt_claim keepsPendingUnasked_isJobLaw.isCourse fun row _ _ total => ?_
  exact keepsPendingUnasked_isJobLaw.followsAt_saveJob fun t hrows _ _ =>
    keepsPendingUnasked_of_modify hrows fun _ hpending => by
      change JobStatus.running = .pending at hpending
      cases hpending

theorem keepsPendingUnasked_saveCount (id : Int) (job : Job) :
    Follows KeepsPendingUnasked (saveCount id job) := fun _ =>
  keepsPendingUnasked_isJobLaw.followsAt_saveJob fun _ hrows _ _ =>
    keepsPendingUnasked_of_modify hrows fun _ hpending => ⟨hpending, rfl⟩

theorem keepsPendingUnasked_request (register : Int) (scope : Scope) :
    Follows KeepsPendingUnasked (request register scope) := by
  intro s
  refine followsAt_request keepsPendingUnasked_isJobLaw.isCourse
    (fun row _ _ => keepsPendingUnasked_complete _ _ _ _ rfl _) fun t _ => ?_
  refine keepsPendingUnasked_isJobLaw.followsAt_create fun u hrows _ _ ht row hrow hpending => ?_
  rw [hrows] at hrow
  rcases Table.mem_insert.1 hrow with hold | rfl
  · exact ht row hold hpending
  · rfl

/-- Where the cancellation of a job in flight is asked for and a pending job then ends, no pending
job is left with its cancellation asked for. -/
theorem hasPendingUnasked_of_ask {t u : Session} {row : Row Job} {answer : Bool}
    (hs : s.HasPendingUnasked) (hrow : row ∈ s.store.jobs.rows)
    (hask : execute (fun store => store.saveJob row.id [] fun stored =>
      { stored with cancelRequested := true }) s = (.ok (), t))
    (hend : (if row.val.status = JobStatus.pending then do
        let _ ← complete row.id { row.val with cancelRequested := true } JobStatus.cancelled none
        pure true
      else (pure true : Proc Bool)) t = (.ok answer, u)) : u.HasPendingUnasked := by
  obtain ⟨outcome, hsave, hstore, _⟩ := execute_ok hask
  rw [Store.eq_of_saveJob hsave] at hstore
  -- Only the job that is asked for can be pending with its cancellation asked for, until it ends.
  have hothers : ∀ other ∈ t.store.jobs.rows, other.id ≠ row.id →
      other.val.status = JobStatus.pending → other.val.cancelRequested = false := by
    intro other hother hne
    rw [hstore] at hother
    rcases Table.mem_modify hother with hold | ⟨hid, _⟩
    · exact hs other hold
    · exact absurd hid hne
  split at hend
  · obtain ⟨ended, v, hcomplete, hresult⟩ := bind_ok hend
    cases hresult
    intro other hother hpending
    rcases complete_cases row.id { row.val with cancelRequested := true } .cancelled none t with
      ⟨fault, w, hrun, _⟩ | ⟨w, hrun, hended⟩
    · rw [hrun] at hcomplete
      cases hcomplete
    · rw [hrun] at hcomplete
      cases hcomplete
      rw [hended] at hother
      by_cases hid : other.id = row.id
      · obtain ⟨id, val⟩ := other
        obtain rfl : id = row.id := hid
        obtain ⟨_, _, rfl⟩ := Table.exists_of_mem_modify_self hother
        cases hpending
      · rcases Table.mem_modify hother with hold | ⟨hsame, _⟩
        · exact hothers other hold hid hpending
        · exact absurd hsame hid
  · next hrunning =>
    cases hend
    intro other hother hpending
    refine hothers other hother (fun hid => hrunning ?_) hpending
    rw [hstore] at hother
    obtain ⟨id, val⟩ := other
    obtain rfl : id = row.id := hid
    rw [Table.val_of_mem_modify hrow hother] at hpending
    exact hpending

theorem keepsPendingUnasked_cancel (handle : Text.Literal) :
    Follows KeepsPendingUnasked (cancel handle) := by
  intro s hs
  unfold cancel
  cases Handle.ofLiteral? handle with
  | none => exact hs
  | some known =>
    dsimp only
    unfold atomic
    rcases atomicIf_cases (fun _ => true) _ s with ⟨result, hrun⟩ | ⟨a, t, hbody, _, hrun⟩
    · rw [hrun]
      exact hs
    · have ht : t.HasPendingUnasked := by
        obtain ⟨found, u, hquery, hrest⟩ := bind_ok hbody
        obtain ⟨hfound, rfl⟩ := query_ok hquery
        cases found with
        | none =>
          cases hrest
          exact hs
        | some row =>
          have hrow := Store.mem_of_jobOf? (Except.ok.inj hfound)
          dsimp only at hrest
          split at hrest
          · obtain ⟨_, v, hask, hend⟩ := bind_ok hrest
            exact hasPendingUnasked_of_ask (s := { s with inBlock := true }) hs hrow hask hend
          · cases hrest
            exact hs
      rcases hrun with ⟨_, hrun⟩ | ⟨_, _, hrun⟩
      · rw [hrun]
        exact ht
      · rw [hrun]
        unfold HasPendingUnasked
        rw [store_bumpAll]
        exact ht

end Job

theorem keepsPendingUnasked_isCourse :
    Service.IsCourse (fun operation => operation.respectsStages = true) KeepsPendingUnasked where
  toIsCourse := keepsPendingUnasked_isJobLaw.isCourse
  request := Job.keepsPendingUnasked_request
  cancel := Job.keepsPendingUnasked_cancel
  run := fun hbefore handle =>
    Job.follows_run keepsPendingUnasked_isJobLaw.isCourse Job.keepsPendingUnasked_claim
      Job.keepsPendingUnasked_saveCount Job.keepsPendingUnasked_complete hbefore handle
  updateWord := fun _ _ _ _ => keepsPendingUnasked_isJobLaw.follows_updateWord _ _ _
  bumped := fun _ _ _ => keepsPendingUnasked_isJobLaw.same rfl rfl rfl
  evict := fun _ _ _ => keepsPendingUnasked_isJobLaw.same rfl rfl rfl
  advance := fun _ _ _ => keepsPendingUnasked_of_subset fun _ hrow => hrow
  markStarted := fun _ _ hrespects => nomatch hrespects

/-- Whatever has been asked for of an empty session, a pending job has counted no parcel, and its
cancellation has not been asked for. -/
theorem pending_untouched (backend : Word.Backend) (outages : Monitor.Outages)
    (requests : List Request) (hkeeps : ∀ operation ∈ Request.operationsOfAll requests,
      operation.respectsStages = true ∧ operation.keepsTime = true) :
    ∀ row ∈ (Service.serveAll requests (Session.start backend outages)).2.store.jobs.rows,
      row.val.status = .pending → row.val.processed = 0 ∧ row.val.cancelRequested = false := by
  intro row hrow hpending
  have hconsistent := (Service.follows_serveAll keepsJobsConsistent_isCourse requests hkeeps
    (Session.start backend outages) (hasConsistentJobs_start backend outages)).1
  have hunasked := Service.follows_serveAll keepsPendingUnasked_isCourse requests
    (fun operation hoperation => (hkeeps operation hoperation).1) (Session.start backend outages)
    fun _ hrow => absurd hrow List.not_mem_nil
  exact ⟨((hconsistent row hrow).pending hpending).2.1, hunasked row hrow hpending⟩

end Clearance

import Clearance.Job.Progress
import Clearance.Proofs.Job.Monitoring
import Clearance.Proofs.Session.Keeping
import Clearance.Proofs.Store.Soundness

/-!
# What becomes of the record of a job

Requests make little of a stored job: one that is in flight may be given up, and a pending one may
be taken or cancelled. The record of an ended job stays as it is but for its request for
cancellation. Only the worker of a job does more, when it comes to its end.
-/

set_option autoImplicit false

namespace Clearance

namespace Job

/-- How a job has ended, as its record says: its stage, its error and when it was over. -/
def ending (job : Job) : JobStatus × Option String × Option Int :=
  (job.status, job.error, job.completedAt)

/-- What anybody but its own worker may make of a job. -/
def MayBecome (a b : Job) : Prop :=
  b.ending = a.ending ∨
    a.status.isActive = true ∧ b.status = .failed ∧ b.error = some abandoned ∨
    a.status = .pending ∧ (b.status = .running ∨ b.status = .cancelled)

theorem MayBecome.refl (a : Job) : a.MayBecome a := .inl rfl

theorem MayBecome.trans {a b c : Job} (hab : a.MayBecome b) (hbc : b.MayBecome c) :
    a.MayBecome c := by
  rcases hab with hsame | ⟨hactive, hfailed, herror⟩ | ⟨hpending, hstatus⟩
  · have hstatus : b.status = a.status := congrArg Prod.fst hsame
    rcases hbc with hsame' | ⟨hactive, hgiven⟩ | ⟨hpending, htaken⟩
    · exact .inl (hsame'.trans hsame)
    · exact .inr (.inl ⟨by rwa [← hstatus], hgiven⟩)
    · exact .inr (.inr ⟨by rwa [← hstatus], htaken⟩)
  · rcases hbc with hsame' | ⟨hactive', _⟩ | ⟨hpending, _⟩
    · have hstatus : c.status = b.status := congrArg Prod.fst hsame'
      have herror' : c.error = b.error := congrArg (·.2.1) hsame'
      exact .inr (.inl ⟨hactive, hstatus.trans hfailed, herror'.trans herror⟩)
    · rw [hfailed] at hactive'
      cases hactive'
    · rw [hfailed] at hpending
      cases hpending
  · rcases hbc with hsame' | ⟨_, hgiven⟩ | ⟨hpending', _⟩
    · have hstatus' : c.status = b.status := congrArg Prod.fst hsame'
      rw [← hstatus'] at hstatus
      exact .inr (.inr ⟨hpending, hstatus⟩)
    · exact .inr (.inl ⟨by rw [hpending]; rfl, hgiven⟩)
    · rw [hpending'] at hstatus
      rcases hstatus with hstatus | hstatus <;> cases hstatus

/-- The ending of a job that is over stays. -/
theorem MayBecome.ending_eq {a b : Job} (h : a.MayBecome b) (hover : a.status.isActive = false) :
    b.ending = a.ending := by
  rcases h with hsame | ⟨hactive, _⟩ | ⟨hpending, _⟩
  · exact hsame
  · rw [hover] at hactive
    cases hactive
  · rw [hpending] at hover
    cases hover

end Job

namespace Store

/-- Every job of a store is there in another, and has become what others than its worker may make
of it. -/
def JobsMove (before after : Store) : Prop :=
  ∀ row ∈ before.jobs.rows, ∃ later ∈ after.jobs.rows,
    later.id = row.id ∧ row.val.MayBecome later.val

instance : IsPreorder Store JobsMove where
  refl _ row hrow := ⟨row, hrow, rfl, .refl row.val⟩
  trans _ _ _ hab hbc row hrow := by
    obtain ⟨middle, hmiddle, hid, hmove⟩ := hab row hrow
    obtain ⟨later, hlater, hid', hmove'⟩ := hbc middle hmiddle
    exact ⟨later, hlater, hid'.trans hid, hmove.trans hmove'⟩

theorem jobsMove_of_jobs_eq {before after : Store} (h : after.jobs = before.jobs) :
    JobsMove before after := by
  intro row hrow
  rw [h]
  exact ⟨row, hrow, rfl, .refl row.val⟩

variable {store : Store} {id : Int} {numbers : List Int} {save : Job → Job}

/-- Saving a job changes its row and nothing else. -/
theorem eq_of_saveJob {change : Change Unit}
    (h : store.saveJob id numbers save = .ok change) :
    change = ⟨{ store with jobs := store.jobs.modify id save }, (), []⟩ := by
  unfold saveJob at h
  cases hguard : guardNumbers numbers with
  | error fault =>
    rw [hguard] at h
    cases h
  | ok _ =>
    rw [hguard] at h
    change (if store.jobs.has id then _ else _) = _ at h
    split at h
    · cases h
      rfl
    · cases h

theorem saveJob_of_has (hnumbers : numbers.all canHold = true) (hhas : store.jobs.has id = true) :
    store.saveJob id numbers save =
      .ok ⟨{ store with jobs := store.jobs.modify id save }, (), []⟩ := by
  unfold saveJob guardNumbers
  rw [if_pos hnumbers]
  change (if store.jobs.has id then _ else _) = _
  rw [if_pos hhas]
  rfl

theorem jobsMove_modify (h : ∀ job, ⟨id, job⟩ ∈ store.jobs.rows → job.MayBecome (save job)) :
    JobsMove store { store with jobs := store.jobs.modify id save } := by
  intro row hrow
  by_cases hid : row.id = id
  · subst hid
    exact ⟨_, Table.mem_modify_self hrow save, rfl, h row.val hrow⟩
  · exact ⟨row, Table.mem_modify_of_ne hrow hid save, rfl, .refl row.val⟩

theorem jobsMove_saveJob {change : Change Unit}
    (h : store.saveJob id numbers save = .ok change)
    (hsave : ∀ job, ⟨id, job⟩ ∈ store.jobs.rows → job.MayBecome (save job)) :
    JobsMove store change.store := by
  rw [eq_of_saveJob h]
  exact jobsMove_modify hsave

/-- The record under the id of a row is the row's. -/
theorem val_eq_of_mem {row : Row Job} (hrow : row ∈ store.jobs.rows) {job : Job}
    (hjob : ⟨row.id, job⟩ ∈ store.jobs.rows) : job = row.val :=
  congrArg Row.val (Table.eq_of_mem_of_id_eq hjob hrow rfl)

theorem mem_of_jobOf? {handle : Option Handle} {row : Row Job}
    (h : store.jobOf? handle = some row) : row ∈ store.jobs.rows :=
  List.mem_of_find?_eq_some h

/-- A job is found by its handle if no other job has the handle. -/
theorem jobOf?_of_mem {row : Row Job} (hrow : row ∈ store.jobs.rows) (hknown : ∀ other ∈
    store.jobs.rows, other.val.handle = row.val.handle → other = row) :
    store.jobOf? (some row.val.handle) = some row := by
  cases hfind : store.jobOf? (some row.val.handle) with
  | none =>
    have hnone := List.find?_eq_none.1 hfind row hrow
    rw [beq_self_eq_true] at hnone
    exact absurd rfl hnone
  | some other =>
    have hsame := List.find?_some hfind
    rw [beq_iff_eq] at hsame
    rw [hknown other (mem_of_jobOf? hfind) (Option.some.inj hsame)]

theorem mem_of_activeJob? {register : Int} {row : Row Job}
    (h : store.activeJob? register = some row) :
    row ∈ store.jobs.rows ∧ row.val.register = register ∧ row.val.status.isActive = true := by
  unfold activeJob? at h
  have hmem := List.mem_mergeSort.1 (List.mem_of_mem_head? h)
  obtain ⟨hrow, hactive⟩ := List.mem_filter.1 hmem
  rw [Bool.and_eq_true, beq_iff_eq] at hactive
  exact ⟨hrow, hactive.1, hactive.2⟩

end Store

namespace Job

open Proc

variable {s : Session}

/-! ## Requests -/

/-- Saving the end of a job moves it as its stages allow. -/
theorem keepsAt_complete {id : Int} {job : Job} {status : JobStatus} {error : Option String}
    (h : ∀ stored : Job, ⟨id, stored⟩ ∈ s.store.jobs.rows →
      stored.MayBecome ((job.ended status error s.clock).withEndOf stored)) :
    KeepsAt Store.JobsMove s (complete id job status error) := by
  unfold complete
  refine keepsAt_ask_bind (keepsAt_bind (keepsAt_execute fun outcome hsave => ?_) fun _ _ _ =>
    keepsAt_pure _)
  exact Store.jobsMove_saveJob hsave h

theorem keepsAt_isOverdue (job : Job) : KeepsAt Store.JobsMove s (isOverdue job) := by
  unfold isOverdue
  refine keepsAt_ask_bind (keepsAt_ask_bind ?_)
  split
  · exact keepsAt_pure _
  · exact keepsAt_fail _

theorem keepsAt_create (register : Int) (scope : Scope) :
    KeepsAt Store.JobsMove s (create register scope) := by
  unfold create
  refine keepsAt_bind (keepsAt_alter rfl) fun _ t _ => ?_
  refine keepsAt_ask_bind (keepsAt_ask_bind (keepsAt_bind (keepsAt_execute ?_) fun _ _ _ =>
    keepsAt_pure _))
  intro outcome hadd
  cases hadd
  intro row hrow
  exact ⟨row, List.mem_append_left _ hrow, rfl, .refl row.val⟩

theorem session_isOverdue (job : Job) : (isOverdue job s).2 = s := by
  unfold isOverdue
  rw [bind_apply]
  dsimp only [ask_apply]
  rw [bind_apply]
  dsimp only [ask_apply]
  cases job.isStale? s.timeLimit s.clock <;> rfl

/-- The job in flight that blocks a register may be given up. -/
theorem keepsAt_inFlight? (register : Int) :
    KeepsAt Store.JobsMove s (inFlight? register) := by
  unfold inFlight?
  refine keepsAt_query_bind fun found hfound => ?_
  cases found with
  | none => exact keepsAt_pure _
  | some row =>
    refine keepsAt_bind (keepsAt_isOverdue row.val) fun isStale t hoverdue => ?_
    have hsession := congrArg Prod.snd hoverdue
    rw [session_isOverdue] at hsession
    subst hsession
    split
    · refine keepsAt_bind (keepsAt_complete fun stored hstored => ?_) fun _ _ _ => keepsAt_pure _
      obtain ⟨hrow, _, hactive⟩ := Store.mem_of_activeJob? (Except.ok.inj hfound)
      rw [Store.val_eq_of_mem hrow hstored]
      exact .inr (.inl ⟨hactive, rfl, rfl⟩)
    · exact keepsAt_pure _

/-- Requesting a job gives up a job in flight at most. -/
theorem keepsAt_request (register : Int) (scope : Scope) :
    KeepsAt Store.JobsMove s (request register scope) := by
  unfold request atomic
  refine keepsAt_atomicIf (keepsAt_query_bind fun isThere _ => ?_)
  split
  · refine keepsAt_bind (keepsAt_inFlight? register) fun found t _ => ?_
    cases found with
    | some job =>
      dsimp only
      split
      · exact keepsAt_pure _
      · exact keepsAt_fail _
    | none => exact keepsAt_bind (keepsAt_create register scope) fun _ _ _ => keepsAt_pure _
  · exact keepsAt_fail _

/-- Cancelling a job ends it if it is pending, and otherwise asks for its end only. -/
theorem keepsAt_cancel (handle : Text.Literal) : KeepsAt Store.JobsMove s (cancel handle) := by
  unfold cancel
  split
  · exact keepsAt_pure _
  unfold atomic
  refine keepsAt_atomicIf (keepsAt_query_bind fun found hfound => ?_)
  cases found with
  | none => exact keepsAt_pure _
  | some row =>
    have hrow := Store.mem_of_jobOf? (Except.ok.inj hfound)
    dsimp only
    split
    · refine keepsAt_bind (keepsAt_execute fun outcome hsave => ?_) fun _ t hrun => ?_
      · exact Store.jobsMove_saveJob hsave fun _ _ => .inl rfl
      · split
        · next hpending =>
          refine keepsAt_bind (keepsAt_complete fun stored hstored => ?_) fun _ _ _ =>
            keepsAt_pure _
          -- The row that is ended now is the one that was asked to end just before.
          have hstatus : stored.status = .pending := by
            obtain ⟨outcome, hsave, hstore, _⟩ := execute_ok hrun
            rw [hstore, Store.eq_of_saveJob hsave] at hstored
            rw [Table.val_of_mem_modify hrow hstored]
            exact hpending
          exact .inr (.inr ⟨hstatus, .inr rfl⟩)
        · exact keepsAt_pure _
    · exact keepsAt_pure _

/-! ## What a worker does to the record -/

/-- A worker that brings a job to its end puts the end into the stored record, or nothing if that
is refused. -/
theorem complete_cases (id : Int) (job : Job) (status : JobStatus) (error : Option String)
    (s : Session) :
    (∃ fault t, complete id job status error s = (.error fault, t) ∧ t.store = s.store) ∨
      ∃ t, complete id job status error s = (.ok (job.ended status error s.clock), t) ∧
        t.store = { s.store with
          jobs := s.store.jobs.modify id (job.ended status error s.clock).withEndOf } := by
  unfold complete
  rw [bind_apply]
  dsimp only [ask_apply]
  rw [bind_apply]
  cases hrun : execute (fun store =>
      store.saveJob id [] (job.ended status error s.clock).withEndOf) s with
  | mk result t =>
    cases result with
    | error fault =>
      have hstore := store_of_execute_error hrun
      exact .inl ⟨fault, t, rfl, hstore⟩
    | ok _ =>
      obtain ⟨outcome, hsave, hstore, _⟩ := execute_ok hrun
      rw [Store.eq_of_saveJob hsave] at hstore
      exact .inr ⟨t, rfl, hstore⟩

theorem keepsAt_saveCount (id : Int) (job : Job) :
    KeepsAt Store.JobsMove s (saveCount id job) := by
  unfold saveCount
  exact keepsAt_execute fun outcome hsave => Store.jobsMove_saveJob hsave fun _ _ => .inl rfl

theorem keepsAt_claim (handle : Option Handle) : KeepsAt Store.JobsMove s (claim handle) := by
  unfold claim atomic
  refine keepsAt_atomicIf (keepsAt_query_bind fun found hfound => ?_)
  cases found with
  | none => exact keepsAt_fail _
  | some row =>
    have hrow := Store.mem_of_jobOf? (Except.ok.inj hfound)
    dsimp only
    split
    · next hpending =>
      refine keepsAt_query_bind fun parcels _ => keepsAt_ask_bind (keepsAt_bind
        (keepsAt_execute fun outcome hsave => ?_) fun _ _ _ => keepsAt_pure _)
      refine Store.jobsMove_saveJob hsave fun stored hstored => ?_
      rw [Store.val_eq_of_mem hrow hstored]
      exact .inr (.inr ⟨hpending, .inl rfl⟩)
    · exact keepsAt_pure _

/-- A worker takes a pending job with the parcels that are open then, and its own record is the one
whose start is saved. -/
theorem claim_some {handle : Option Handle} {row : Row Job} {parcels : List Int} {t : Session}
    (h : claim handle s = (.ok (row, some parcels), t)) :
    ∃ job, ⟨row.id, job⟩ ∈ s.store.jobs.rows ∧ job.status = .pending ∧
      parcels = s.store.openParcels job.register ∧
      row.val = job.started parcels.length s.clock ∧
      t.store = { s.store with jobs := s.store.jobs.modify row.id row.val.withStartOf } := by
  unfold claim at h
  obtain ⟨u, hbody, hstore⟩ := atomic_ok h
  obtain ⟨found, v, hquery, hrest⟩ := bind_ok hbody
  obtain ⟨hfound, rfl⟩ := query_ok hquery
  cases found with
  | none => cases hrest
  | some old =>
    have hold := Store.mem_of_jobOf? (Except.ok.inj hfound)
    dsimp only at hrest
    split at hrest
    · next hpending =>
      obtain ⟨opened, v, hparcels, hrest⟩ := bind_ok hrest
      obtain ⟨hopened, rfl⟩ := query_ok hparcels
      obtain ⟨now, v, hclock, hrest⟩ := bind_ok hrest
      cases hclock
      obtain ⟨_, v, hexecute, hresult⟩ := bind_ok hrest
      obtain ⟨outcome, hsave, hsaved, hwhole, _⟩ := execute_ok hexecute
      cases hresult
      rw [Store.eq_of_saveJob hsave] at hsaved
      exact ⟨old.val, hold, hpending, (Except.ok.inj hopened).symm, rfl,
        (hstore hwhole).trans hsaved⟩
    · cases hrest

/-- A job that a worker has taken was pending, and is running from then on. -/
theorem claim_taken {handle : Option Handle} {row : Row Job} {parcels : List Int} {t : Session}
    (h : claim handle s = (.ok (row, some parcels), t)) :
    (∃ job, ⟨row.id, job⟩ ∈ s.store.jobs.rows ∧ job.status = .pending) ∧
      ∃ job, ⟨row.id, job⟩ ∈ t.store.jobs.rows ∧ job.status = .running := by
  obtain ⟨job, hjob, hpending, _, hown, hstore⟩ := claim_some h
  have hstarted := Table.mem_modify_self hjob row.val.withStartOf
  refine ⟨⟨job, hjob, hpending⟩, row.val.withStartOf job, ?_, ?_⟩
  · rw [hstore]
    exact hstarted
  · unfold withStartOf
    rw [hown]
    rfl

end Job

end Clearance

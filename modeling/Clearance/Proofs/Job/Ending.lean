import Clearance.Proofs.Job.Settled
import Clearance.Proofs.Job.Turn

/-!
# How a run ends

Whatever is done meanwhile, a run of a pending job brings the job to its end as the last thing it
does, and returns the record that it saves then. It fails if the job cannot be taken, or if its end
cannot be saved.
-/

set_option autoImplicit false

namespace Clearance.Job

open Proc

/-- The worker's own record of the job at the end of its way. -/
def Pass.own : Pass → Job
  | through job => job
  | cancelled job => job
  | stopped job _ _ => job

/-- A job under an id and with a handle has been brought to its end in a session, and nothing has
been done since. -/
def HasEnded (id : Int) (handle : Handle) (job : Job) (t : Session) : Prop :=
  ∃ own status error s, status.isActive = false ∧ own.handle = handle ∧
    complete id own status error s = (.ok job, t)

variable {context : Screening.Context} {meanwhile : Meanwhile} {id : Int} {count : Nat}
  {own job : Job} {s t : Session}

theorem handle_of_complete {status : JobStatus} {error : Option String}
    (h : complete id own status error s = (.ok job, t)) : job.handle = own.handle := by
  rcases complete_cases id own status error s with ⟨fault, u, hrun, _⟩ | ⟨u, hrun, _⟩
  · rw [hrun] at h
    cases h
  · rw [hrun] at h
    cases h
    rfl

/-- The way of a worker through the parcels comes to an end, whatever fails. -/
theorem exists_pass (context : Screening.Context) (meanwhile : Meanwhile) (id : Int)
    (count : Nat) (own : Job) (parcels : List Int) (s : Session) :
    ∃ result t, pass context meanwhile id count own parcels s = (.ok result, t) := by
  induction parcels generalizing count own s with
  | nil => exact ⟨_, _, rfl⟩
  | cons parcel rest ih =>
    obtain ⟨visited, u, hvisit, _⟩ := exists_turn context meanwhile id count own parcel s
    rw [pass, bind_of_ok hvisit]
    cases visited with
    | goesOn count counted => exact ih count counted u
    | ends result => exact ⟨result, u, rfl⟩

theorem exists_work (meanwhile : Meanwhile) (row : Row Job) (parcels : List Int) (s : Session) :
    ∃ result t, work meanwhile row parcels s = (.ok result, t) := by
  unfold work
  rw [orStop_apply]
  cases Screening.loadContext row.val.scope.hasWords row.val.scope.hasCodes s with
  | mk loaded u =>
    cases loaded with
    | error fault => exact ⟨_, _, rfl⟩
    | ok context => exact exists_pass context meanwhile row.id 0 row.val parcels u

/-- A job that has been brought to its end is stored so. -/
theorem HasEnded.stored {handle : Handle} (h : HasEnded id handle job t) :
    ∃ val, ⟨id, val⟩ ∈ t.store.jobs.rows ∧ val.status.isActive = false := by
  obtain ⟨own, status, error, s, hover, _, hend⟩ := h
  unfold complete at hend
  obtain ⟨now, u, hask, hrest⟩ := bind_ok hend
  cases hask
  obtain ⟨_, v, hexecute, hresult⟩ := bind_ok hrest
  cases hresult
  obtain ⟨outcome, hsave, hstore, _⟩ := execute_ok hexecute
  have hhas : s.store.jobs.has id = true := by
    by_contra hgone
    unfold Store.saveJob at hsave
    rw [Bool.not_eq_true] at hgone
    rw [hgone] at hsave
    cases hsave
  obtain ⟨⟨_, old⟩, hold, rfl⟩ := Table.has_eq_true_iff.1 hhas
  rw [Store.eq_of_saveJob hsave] at hstore
  rw [hstore]
  exact ⟨_, Table.mem_modify_self hold _, hover⟩

theorem HasEnded.handle_eq {handle : Handle} (h : HasEnded id handle job t) :
    job.handle = handle := by
  obtain ⟨own, status, error, s, _, hown, hend⟩ := h
  exact (handle_of_complete hend).trans hown

/-- On its way through the parcels a worker keeps the handle, and the way ends with a cancellation
only if the job has been brought to this end. -/
theorem hasEnded_of_pass (parcels : List Int) {result : Pass}
    (h : pass context meanwhile id count own parcels s = (.ok result, t)) :
    result.own.handle = own.handle ∧
      ∀ last, result = .cancelled last → HasEnded id own.handle last t := by
  induction parcels generalizing count own s with
  | nil =>
    cases h
    exact ⟨rfl, fun last hlast => by cases hlast⟩
  | cons parcel rest ih =>
    obtain ⟨visited, u, hvisit, hturn⟩ := exists_turn context meanwhile id count own parcel s
    rw [pass, bind_of_ok hvisit] at h
    cases hturn with
    | unasked | uncancelled | unscreened | uncounted =>
      cases h
      exact ⟨rfl, fun last hlast => by cases hlast⟩
    | cancelled _ hend =>
      cases h
      refine ⟨handle_of_complete hend, fun last hlast => ?_⟩
      cases hlast
      exact ⟨own, .cancelled, none, s, rfl, rfl, hend⟩
    | counted =>
      dsimp only at h
      have hrest := ih h
      exact hrest

/-- What a worker comes to at the end of its way is the end of the job. -/
theorem hasEnded_of_conclude {handle : Handle} {result : Pass}
    (hown : result.own.handle = handle)
    (hcancelled : ∀ last, result = .cancelled last → HasEnded id handle last s)
    (h : conclude id result s = (.ok job, t)) : HasEnded id handle job t := by
  cases result with
  | through last => exact ⟨last, .completed, none, s, rfl, hown, h⟩
  | cancelled last =>
    cases h
    exact hcancelled job rfl
  | stopped last parcel fault =>
    obtain ⟨_, u, _, hend⟩ := bind_ok h
    exact ⟨last, .failed, some (last.errorOf fault), u, rfl, hown, hend⟩

theorem complete_of_conclude_error {result : Pass} {fault : Fault}
    (h : conclude id result s = (.error fault, t)) :
    ∃ own status error u, complete id own status error u = (.error fault, t) := by
  cases result with
  | through last => exact ⟨last, .completed, none, s, h⟩
  | cancelled last => cases h
  | stopped last parcel stop =>
    obtain ⟨events, htold⟩ := exists_tellOfFault last parcel stop s
    rw [conclude, bind_of_ok htold] at h
    exact ⟨last, .failed, some (last.errorOf stop), _, h⟩

theorem hasEnded_of_work {row : Row Job} {parcels : List Int} {result : Pass}
    (h : work meanwhile row parcels s = (.ok result, t)) :
    result.own.handle = row.val.handle ∧
      ∀ last, result = .cancelled last → HasEnded row.id row.val.handle last t := by
  unfold work at h
  rw [orStop_apply] at h
  cases hload : Screening.loadContext row.val.scope.hasWords row.val.scope.hasCodes s with
  | mk loaded u =>
    rw [hload] at h
    cases loaded with
    | error fault =>
      cases h
      exact ⟨rfl, fun last hlast => by cases hlast⟩
    | ok context => exact hasEnded_of_pass parcels h

/-- A worker that is given the handle of a pending job takes that job. -/
theorem claim_of_jobOf? {handle : Option Handle} {row taken : Row Job} {parcels : Option (List Int)}
    (hjob : s.store.jobOf? handle = some row) (hpending : row.val.status = .pending)
    (h : claim handle s = (.ok (taken, parcels), t)) :
    taken.id = row.id ∧ taken.val.handle = row.val.handle ∧ parcels.isSome = true := by
  unfold claim at h
  obtain ⟨u, hbody, _⟩ := atomic_ok h
  obtain ⟨found, v, hquery, hrest⟩ := bind_ok hbody
  obtain ⟨hfound, rfl⟩ := query_ok hquery
  cases hjob.symm.trans (Except.ok.inj hfound)
  dsimp only at hrest
  rw [if_pos hpending] at hrest
  obtain ⟨opened, v, _, hrest⟩ := bind_ok hrest
  obtain ⟨now, w, _, hrest⟩ := bind_ok hrest
  obtain ⟨_, x, _, hresult⟩ := bind_ok hrest
  cases hresult
  exact ⟨rfl, rfl, rfl⟩

section

variable {handle : Option Handle} {row : Row Job} (hjob : s.store.jobOf? handle = some row)
  (hpending : row.val.status = .pending)

include hjob hpending

/-- Whatever is done meanwhile, a run of a pending job returns the end to which it brings it. -/
theorem hasEnded_of_run (h : run handle meanwhile s = (.ok job, t)) :
    HasEnded row.id row.val.handle job t := by
  unfold run at h
  obtain ⟨⟨taken, parcels⟩, u, hclaim, hrest⟩ := bind_ok h
  obtain ⟨hid, hhandle, hsome⟩ := claim_of_jobOf? hjob hpending hclaim
  cases parcels with
  | none => cases hsome
  | some parcels =>
    obtain ⟨_, v, _, hrest⟩ := bind_ok hrest
    obtain ⟨result, w, hwork, hend⟩ := bind_ok hrest
    obtain ⟨hown, hcancelled⟩ := hasEnded_of_work hwork
    rw [← hid, ← hhandle]
    exact hasEnded_of_conclude hown hcancelled hend

/-- A run of a pending job fails as the job cannot be taken, or as its end cannot be saved. -/
theorem complete_of_run_error {fault : Fault} (h : run handle meanwhile s = (.error fault, t)) :
    claim handle s = (.error fault, t) ∨
      ∃ own status error u, complete row.id own status error u = (.error fault, t) := by
  unfold run at h
  rw [bind_apply] at h
  cases hclaim : claim handle s with
  | mk result u =>
    rw [hclaim] at h
    cases result with
    | error refusal =>
      cases h
      exact .inl rfl
    | ok found =>
      obtain ⟨taken, parcels⟩ := found
      obtain ⟨hid, _, hsome⟩ := claim_of_jobOf? hjob hpending hclaim
      cases parcels with
      | none => cases hsome
      | some parcels =>
        obtain ⟨events, htold⟩ := exists_tellOfStart taken.val u
        obtain ⟨passed, w, hwork⟩ :=
          exists_work meanwhile taken parcels { u with events := events }
        have hrest : (taken.val.tellOfStart >>= fun _ =>
            work meanwhile taken parcels >>= conclude taken.id) u = (.error fault, t) := h
        rw [bind_of_ok htold, bind_of_ok hwork] at hrest
        rw [← hid]
        exact .inr (complete_of_conclude_error hrest)

end

/-- A statement that is refused leaves a session as it was if this takes statements after it. -/
theorem eq_of_execute_error {α : Type} {change : Store → Except Fault (Change α)} {fault : Fault}
    (h : execute change s = (.error fault, t)) (hwhole : t.isBroken = false) : t = s := by
  unfold execute at h
  split at h
  · cases h
    rfl
  · next hnot =>
    split at h
    · cases h
      have hbroken := hwhole.trans (Bool.eq_false_iff.2 hnot).symm
      exact congrArg (fun isBroken => { s with isBroken := isBroken }) hbroken
    · split at h
      · cases h
      · split at h <;> cases h
        rfl

/-- Outside a block the end of a job is refused only if the job is stored no more. -/
theorem vanished_of_complete_error {status : JobStatus} {error : Option String} {fault : Fault}
    (h : complete id own status error s = (.error fault, t)) (ht : t.IsSettled)
    (hblock : t.inBlock = false) :
    fault = .vanished ∧ ∀ row ∈ t.store.jobs.rows, row.id ≠ id := by
  obtain ⟨hwhole, _, _⟩ := ht hblock
  have hexecute : execute (fun store => store.saveJob id []
      (own.ended status error s.clock).withEndOf) s = (.error fault, t) := by
    unfold complete at h
    rw [bind_of_ok (ask_apply _ s), bind_apply] at h
    cases hrun : execute (fun store => store.saveJob id []
        (own.ended status error s.clock).withEndOf) s with
    | mk result u =>
      rw [hrun] at h
      cases result <;> cases h
      rfl
  obtain rfl := eq_of_execute_error hexecute hwhole
  have hgone : t.store.jobs.has id = false := by
    by_contra hhas
    obtain ⟨⟨_, val⟩, hrow, rfl⟩ := Table.has_eq_true_iff.1 (Bool.not_eq_false _ ▸ hhas)
    rw [complete_of_mem ht hwhole hrow own status error] at h
    cases h
  have hrefused : t.store.saveJob id [] (own.ended status error t.clock).withEndOf =
      .error .vanished := by
    unfold Store.saveJob
    rw [hgone]
    rfl
  have hrun := @execute_of_error _ (fun store => store.saveJob id []
    (own.ended status error t.clock).withEndOf) t _ hwhole hrefused
  refine ⟨Except.error.inj (congrArg Prod.fst (hexecute.symm.trans hrun)), fun row hrow hid => ?_⟩
  rw [Table.has_eq_true_iff.2 ⟨row, hrow, hid⟩] at hgone
  cases hgone

end Clearance.Job

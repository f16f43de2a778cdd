import Clearance.Proofs.Job.Interleaving

/-!
# Running a job step by step

To run a job is to let one worker take its steps, with whatever is done before a parcel done between
two of them. So what holds of all ways through the moves holds of the jobs that are run, also of
those that are run while another job waits.
-/

set_option autoImplicit false

namespace Clearance.Job

open Proc

variable {α β : Type}

/-- Whether all that a procedure does to a session is done by moves, with workers of its own that
come to those that are there. -/
def IsInterlude (proc : Proc α) : Prop :=
  ∀ (s : Session) (workers : List Worker), ∃ more,
    Path ⟨s, workers⟩ ⟨(proc s).2, workers ++ more⟩

theorem isInterlude_of_move {proc : Proc α}
    (h : ∀ (s : Session) (workers : List Worker), Move ⟨s, workers⟩ ⟨(proc s).2, workers⟩) :
    IsInterlude proc := by
  intro s workers
  refine ⟨[], .single ?_⟩
  rw [List.append_nil]
  exact h s workers

theorem isInterlude_pure (a : α) : IsInterlude (pure a) := by
  intro s workers
  refine ⟨[], ?_⟩
  rw [List.append_nil]
  exact .refl

theorem isInterlude_bind {first : Proc α} {next : α → Proc β} (hfirst : IsInterlude first)
    (hnext : ∀ a, IsInterlude (next a)) : IsInterlude (first >>= next) := by
  intro s workers
  obtain ⟨more, hpath⟩ := hfirst s workers
  rw [bind_apply]
  cases hrun : first s with
  | mk result t =>
    rw [hrun] at hpath
    cases result with
    | error fault => exact ⟨more, hpath⟩
    | ok a =>
      obtain ⟨others, hrest⟩ := hnext a t (workers ++ more)
      rw [List.append_assoc] at hrest
      exact ⟨more ++ others, hpath.trans hrest⟩

theorem isInterlude_request (register : Int) (scope : Scope) :
    IsInterlude (request register scope) :=
  isInterlude_of_move fun s workers => .start s workers register scope

theorem isInterlude_cancel (handle : Text.Literal) : IsInterlude (cancel handle) :=
  isInterlude_of_move fun s workers => .cancel s workers handle

/-! ## A visit to a parcel -/

/-- Where a worker stands once its way through the parcels is over. -/
def Worker.ofPass (context : Screening.Context) (id : Int) : Pass → Worker
  | .through job => .reaching context id job []
  | .cancelled job => .finished (.ok job)
  | .stopped job parcel fault => .stopping id job parcel fault

/-- Where a worker stands once it has visited a parcel and `rest` is left. -/
def Worker.ofVisit (context : Screening.Context) (id : Int) (rest : List Int) : Visit → Worker
  | .goesOn _ job => .reaching context id job rest
  | .ends pass => ofPass context id pass

/-- A worker comes from one place to another in a session, while others may join behind it. -/
def Leads (worker : Worker) (s : Session) (later : Worker) (t : Session) : Prop :=
  ∀ left right, ∃ more, Path ⟨s, left ++ worker :: right⟩ ⟨t, left ++ later :: (right ++ more)⟩

variable {worker middle later : Worker} {s t u : Session}

theorem Leads.refl : Leads worker s worker s := by
  intro left right
  refine ⟨[], ?_⟩
  rw [List.append_nil]

theorem Leads.trans (h : Leads worker s middle t) (h' : Leads middle t later u) :
    Leads worker s later u := by
  intro left right
  obtain ⟨more, hpath⟩ := h left right
  obtain ⟨others, hrest⟩ := h' left (right ++ more)
  rw [List.append_assoc] at hrest
  exact ⟨more ++ others, hpath.trans hrest⟩

theorem leads_step (h : worker.step s = (.ok later, t)) : Leads worker s later t := by
  intro left right
  refine ⟨[], ?_⟩
  rw [List.append_nil]
  exact .single (.work left right h)

theorem leads_stop {fault : Fault} (h : worker.stopped? fault = some later) :
    Leads worker s later s := by
  intro left right
  refine ⟨[], ?_⟩
  rw [List.append_nil]
  exact .single (.stop s left right h)

theorem leads_interlude {proc : Proc α} (h : IsInterlude proc) (s : Session) :
    Leads worker s worker (proc s).2 := by
  intro left right
  obtain ⟨more, hpath⟩ := h s (left ++ worker :: right)
  rw [List.append_assoc, List.cons_append] at hpath
  exact ⟨more, hpath⟩

variable {context : Screening.Context} {meanwhile : Meanwhile}

/-- Screening the next parcel is a look whether it is there, an interlude and the screening. -/
theorem leads_screenNext (hbefore : ∀ k, IsInterlude (meanwhile.before k)) (id : Int) (job : Job)
    (parcel : Int) (rest : List Int) (count : Nat) (s : Session) :
    ∃ result t, screenNext context job.scope meanwhile count parcel s = (result, t) ∧
      Leads (.looking context id job parcel rest) s (match result with
        | .ok _ => .counting context id job parcel rest
        | .error fault => .stopping id job (some parcel) fault) t := by
  have hlook : ∀ isThere, (Proc.query fun store => .ok (store.parcels.has parcel)) s =
      (.ok isThere, s) → (Worker.looking context id job parcel rest).step s = (.ok (if isThere then
        .screening context id job parcel rest else .counting context id job parcel rest), s) := by
    intro isThere hquery
    rw [Worker.step, orStop_apply, hquery]
    rfl
  unfold screenNext
  rw [bind_apply]
  cases hquery : (Proc.query fun store => .ok (store.parcels.has parcel)) s with
  | mk result t =>
    cases result with
    | error fault =>
      have hstep : (Worker.looking context id job parcel rest).step s =
          (.ok (.stopping id job (some parcel) fault), t) := by
        rw [Worker.step, orStop_apply, hquery]
      exact ⟨_, t, rfl, leads_step hstep⟩
    | ok isThere =>
      obtain ⟨_, rfl⟩ := query_ok hquery
      have hfirst := leads_step (hlook isThere hquery)
      cases isThere with
      | false => exact ⟨_, _, rfl, hfirst⟩
      | true =>
        dsimp only
        rw [if_pos rfl, bind_apply]
        have hmeanwhile := @leads_interlude _ (.screening context id job parcel rest) _
          (hbefore (count + 1)) t
        cases hrun : meanwhile.before (count + 1) t with
        | mk result u =>
          rw [hrun] at hmeanwhile
          cases result with
          | error fault => exact ⟨_, u, rfl, (hfirst.trans hmeanwhile).trans (leads_stop rfl)⟩
          | ok _ =>
            dsimp only
            rw [bind_apply]
            rcases (meanwhile.strikes (count + 1)).screenWith_cases context job.scope parcel u with
              hcalm | ⟨_, fault, _, hstruck⟩
            · rw [hcalm]
              cases hscreen : Screening.screenWith context job.scope parcel u with
              | mk result v =>
                cases result with
                | error fault =>
                  refine ⟨_, v, rfl, (hfirst.trans hmeanwhile).trans (leads_step ?_)⟩
                  rw [Worker.step, orStop_apply, hscreen]
                | ok _ =>
                  refine ⟨_, v, rfl, (hfirst.trans hmeanwhile).trans (leads_step ?_)⟩
                  rw [Worker.step, orStop_apply, hscreen]
                  rfl
            · rw [hstruck]
              exact ⟨_, u, rfl, (hfirst.trans hmeanwhile).trans (leads_stop rfl)⟩

/-- A visit to a parcel is a way of the worker to where the visit leaves it. -/
theorem leads_visit (hbefore : ∀ k, IsInterlude (meanwhile.before k)) (id : Int) (job : Job)
    (parcel : Int) (rest : List Int) (count : Nat) (s : Session) :
    ∃ result t, visit context meanwhile id count job parcel s = (.ok result, t) ∧
      Leads (.reaching context id job (parcel :: rest)) s
        (Worker.ofVisit context id rest result) t := by
  obtain ⟨result, t, hvisit, hturn⟩ := exists_turn context meanwhile id count job parcel s
  refine ⟨result, t, hvisit, ?_⟩
  have hfirst : ∀ isToBe, isToBeCancelled id s = (.ok isToBe, s) →
      Leads (.reaching context id job (parcel :: rest)) s (if isToBe then
        .cancelling id job parcel else .looking context id job parcel rest) s := by
    intro isToBe hpoll
    refine leads_step ?_
    rw [Worker.step, orStop_apply, hpoll]
    rfl
  obtain ⟨screened, v, hscreened, hway⟩ := leads_screenNext hbefore id job parcel rest count s
  cases hturn with
  | unasked hpoll =>
    refine leads_step ?_
    rw [Worker.step, orStop_apply, hpoll]
    rfl
  | uncancelled hpoll hend | cancelled hpoll hend =>
    refine (hfirst true hpoll).trans (leads_step ?_)
    rw [if_pos rfl, Worker.step, orStop_apply, hend]
    rfl
  | unscreened hpoll hscreen =>
    rw [hscreen] at hscreened
    cases hscreened
    exact (hfirst false hpoll).trans hway
  | uncounted hpoll hscreen hsave | counted hpoll hscreen hsave =>
    rw [hscreen] at hscreened
    cases hscreened
    refine ((hfirst false hpoll).trans hway).trans (leads_step ?_)
    rw [Worker.step, orStop_apply, hsave]
    rfl

/-- The way through the parcels that are left is a way of the worker to where it leaves it. -/
theorem leads_pass (hbefore : ∀ k, IsInterlude (meanwhile.before k)) (id : Int) (job : Job)
    (parcels : List Int) (count : Nat) (s : Session) :
    ∃ result t, pass context meanwhile id count job parcels s = (.ok result, t) ∧
      Leads (.reaching context id job parcels) s (Worker.ofPass context id result) t := by
  induction parcels generalizing job count s with
  | nil => exact ⟨_, s, rfl, .refl⟩
  | cons parcel rest ih =>
    obtain ⟨result, t, hvisit, hway⟩ := leads_visit hbefore id job parcel rest count s
    unfold pass
    rw [bind_of_ok hvisit]
    cases result with
    | goesOn count counted =>
      obtain ⟨result, u, hpass, hrest⟩ := ih counted count t
      exact ⟨result, u, hpass, hway.trans hrest⟩
    | ends pass => exact ⟨pass, t, rfl, hway⟩

/-- All the work on a job is a way of the worker that has taken it. -/
theorem leads_work (hbefore : ∀ k, IsInterlude (meanwhile.before k)) (row : Row Job)
    (parcels : List Int) (s : Session) :
    ∃ context result t, work meanwhile row parcels s = (.ok result, t) ∧
      Leads (.loading row parcels) s (Worker.ofPass context row.id result) t := by
  unfold work
  rw [orStop_apply]
  cases hload : Screening.loadContext row.val.scope.hasWords row.val.scope.hasCodes s with
  | mk result t =>
    cases result with
    | error fault =>
      refine ⟨⟨none, none⟩, .stopped row.val none fault, t, rfl, leads_step ?_⟩
      rw [Worker.step, orStop_apply, hload]
      rfl
    | ok context =>
      have hfirst : Leads (.loading row parcels) s (.reaching context row.id row.val parcels) t := by
        refine leads_step ?_
        rw [Worker.step, orStop_apply, hload]
        rfl
      obtain ⟨result, u, hpass, hway⟩ := leads_pass hbefore row.id row.val parcels 0 t
      exact ⟨context, result, u, hpass, hfirst.trans hway⟩

/-- A step that saves the end of the job ends the worker with what comes of it. -/
theorem orStop_complete (id : Int) (job : Job) (status : JobStatus) (error : Option String)
    (s : Session) :
    orStop (fun fault => Worker.finished (.error fault)) (complete id job status error)
        (fun ended => pure (Worker.finished (.ok ended))) s =
      (.ok (.finished (complete id job status error s).1), (complete id job status error s).2) := by
  rw [orStop_apply]
  cases complete id job status error s with
  | mk result t => cases result <;> rfl

/-- A job is brought to its end from where the way through the parcels has left the worker. -/
theorem leads_conclude (context : Screening.Context) (id : Int) (result : Pass) (s : Session) :
    Leads (Worker.ofPass context id result) s (.finished (conclude id result s).1)
      (conclude id result s).2 := by
  cases result with
  | cancelled job => exact .refl
  | through job => exact leads_step (orStop_complete id job .completed none s)
  | stopped job parcel fault =>
    obtain ⟨events, htold⟩ := exists_tellOfFault job parcel fault s
    refine leads_step ?_
    rw [Worker.ofPass, Worker.step, conclude, bind_of_ok htold, bind_of_ok htold]
    exact orStop_complete id job .failed _ _

/-- A job that is run is the way of a worker from its start to its end. -/
theorem leads_run (hbefore : ∀ k, IsInterlude (meanwhile.before k)) (handle : Option Handle)
    (s : Session) : Leads (.waiting handle) s (.finished (run handle meanwhile s).1)
      (run handle meanwhile s).2 := by
  unfold run
  rw [bind_apply]
  cases hclaim : claim handle s with
  | mk result t =>
    cases result with
    | error fault =>
      refine leads_step ?_
      rw [Worker.step, orStop_apply, hclaim]
    | ok taken =>
      obtain ⟨row, parcels⟩ := taken
      cases parcels with
      | none =>
        refine leads_step ?_
        rw [Worker.step, orStop_apply, hclaim]
        rfl
      | some parcels =>
        obtain ⟨events, htold⟩ := exists_tellOfStart row.val t
        have hfirst : Leads (.waiting handle) s (.loading row parcels)
            { t with events := events } := by
          refine leads_step ?_
          rw [Worker.step, orStop_apply, hclaim]
          exact bind_of_ok htold
        obtain ⟨context, result, u, hwork, hway⟩ :=
          leads_work hbefore row parcels { t with events := events }
        refine (hfirst.trans hway).trans ?_
        dsimp only
        rw [bind_of_ok htold, bind_of_ok hwork]
        exact leads_conclude context row.id result u

/-- A job that is run while another waits is an interlude, if what is done before its own parcels
is. -/
theorem isInterlude_run (hbefore : ∀ k, IsInterlude (meanwhile.before k)) (handle : Option Handle) :
    IsInterlude (run handle meanwhile) := by
  intro s workers
  obtain ⟨more, hpath⟩ := leads_run hbefore handle s workers []
  exact ⟨_, .head (.engage s workers handle) hpath⟩

theorem isInterlude_start {before : Nat → Proc Unit} (hbefore : ∀ k, IsInterlude (before k))
    (register : Int) (scope : Scope) (runsNow : Bool) :
    IsInterlude (start register scope runsNow before) := by
  unfold start
  refine isInterlude_bind (isInterlude_request register scope) fun made => ?_
  obtain ⟨job, isNew⟩ := made
  dsimp only
  split
  · exact isInterlude_bind (isInterlude_run hbefore _) fun _ => isInterlude_pure _
  · exact isInterlude_pure _

/-- Time that passes is an interlude. -/
theorem isInterlude_advance (seconds : Int) :
    IsInterlude (alter fun s => { s with clock := s.clock + seconds }) :=
  isInterlude_of_move fun s workers => .advance s workers seconds

/-- A job that is run changes no ending of a job that was over before, whatever is requested,
cancelled and run meanwhile. -/
theorem ending_run (hbefore : ∀ k, IsInterlude (meanwhile.before k)) (handle : Option Handle)
    {s : Session} {row : Row Job} (hrow : row ∈ s.store.jobs.rows)
    (hover : row.val.status.isActive = false) :
    ∃ later ∈ (run handle meanwhile s).2.store.jobs.rows, later.id = row.id ∧
      later.val.ending = row.val.ending := by
  obtain ⟨more, hpath⟩ := isInterlude_run hbefore handle s []
  obtain ⟨job, hjob, _, hsame⟩ :=
    (hpath.isClosed ⟨⟨row.val, hrow, hover, rfl⟩, fun _ hmem => nomatch hmem⟩).record
  exact ⟨_, hjob, rfl, hsame⟩

end Clearance.Job

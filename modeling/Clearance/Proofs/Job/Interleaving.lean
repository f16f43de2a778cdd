import Mathlib.Logic.Relation
import Clearance.Proofs.Job.Settled

/-!
# Workers and requests, one after another

Workers run in one session, and between any two of their steps jobs are requested and cancelled and
time passes. The record of a job that is over stays as it is unless a worker still holds the job. A
job that is over and held has been given up because it ran for too long; its worker does not look at
the stored record, and puts its own end in place of the one that is there.
-/

set_option autoImplicit false

namespace Clearance.Job

open Proc

/-- A session and the workers that run in it. -/
structure System where
  session : Session
  workers : List Worker

/-- What may happen next: a worker takes a step or is stopped by an error, a worker is set to a job,
a job is requested or cancelled, or time passes. -/
inductive Move : System → System → Prop
  | work {s t : Session} {worker later : Worker} (left right : List Worker)
      (h : worker.step s = (.ok later, t)) :
      Move ⟨s, left ++ worker :: right⟩ ⟨t, left ++ later :: right⟩
  | stop {worker later : Worker} {fault : Fault} (s : Session) (left right : List Worker)
      (h : worker.stopped? fault = some later) :
      Move ⟨s, left ++ worker :: right⟩ ⟨s, left ++ later :: right⟩
  | engage (s : Session) (workers : List Worker) (handle : Option Handle) :
      Move ⟨s, workers⟩ ⟨s, workers ++ [.waiting handle]⟩
  | start (s : Session) (workers : List Worker) (register : Int) (scope : Scope) :
      Move ⟨s, workers⟩ ⟨(request register scope s).2, workers⟩
  | cancel (s : Session) (workers : List Worker) (handle : Text.Literal) :
      Move ⟨s, workers⟩ ⟨(cancel handle s).2, workers⟩
  | advance (s : Session) (workers : List Worker) (seconds : Int) :
      Move ⟨s, workers⟩ ⟨{ s with clock := s.clock + seconds }, workers⟩

/-- Any number of moves. -/
abbrev Path : System → System → Prop := Relation.ReflTransGen Move

/-- Every move leaves a settled session settled, and blocks as they are. -/
theorem Move.isSettled {σ τ : System} (h : Move σ τ) : σ.session.StaysSettled τ.session := by
  cases h with
  | @work s t worker later left right h =>
    have hs := staysSettled_step worker s
    unfold FollowsAt at hs
    rw [h] at hs
    exact hs
  | stop s => exact staysSettled_isCourse.refl s
  | engage s => exact staysSettled_isCourse.refl s
  | start s workers register scope => exact staysSettled_request register scope s
  | cancel s workers handle => exact staysSettled_cancel handle s
  | advance => exact Session.staysSettled_of_aside rfl rfl rfl rfl

theorem Path.isSettled {σ τ : System} (h : Path σ τ) : σ.session.StaysSettled τ.session := by
  induction h with
  | refl => exact staysSettled_isCourse.refl σ.session
  | tail _ hmove ih => exact ih.trans hmove.isSettled

theorem Worker.held?_of_stopped? {worker later : Worker} {fault : Fault}
    (h : worker.stopped? fault = some later) : later.held? = worker.held? := by
  cases worker <;> cases h <;> rfl

/-- What holds of all workers still does once one of them is replaced by another of which it
holds. -/
theorem forall_replaced {p : Worker → Prop} {worker later : Worker} {left right : List Worker}
    (h : ∀ other ∈ left ++ worker :: right, p other) (hlater : p later) :
    ∀ other ∈ left ++ later :: right, p other := by
  intro other hother
  rcases List.mem_append.1 hother with hother | hother
  · exact h other (List.mem_append_left _ hother)
  · rcases List.mem_cons.1 hother with rfl | hother
    · exact hlater
    · exact h other (List.mem_append_right _ (List.mem_cons_of_mem _ hother))

theorem mem_placed {worker : Worker} {left right : List Worker} :
    worker ∈ left ++ worker :: right :=
  List.mem_append_right _ List.mem_cons_self

theorem mem_placed_of_mem {worker other : Worker} {left right : List Worker}
    (h : other ∈ left ++ right) : other ∈ left ++ worker :: right :=
  ((List.sublist_cons_self worker right).append_left left).subset h

/-! ## An ending stays -/

/-- Whether a job is over with an ending and no worker holds it. -/
structure System.IsClosed (id : Int) (ending : JobStatus × Option String × Option Int)
    (σ : System) : Prop where
  record : ∃ job : Job, ⟨id, job⟩ ∈ σ.session.store.jobs.rows ∧ job.status.isActive = false ∧
    job.ending = ending
  free : ∀ worker ∈ σ.workers, worker.held? ≠ some id

variable {id : Int} {ending : JobStatus × Option String × Option Int}

/-- Where no job that is over is changed, a job that is over keeps its ending. -/
theorem record_of_jobsMove {before after : Store} (h : Store.JobsMove before after)
    (hrecord : ∃ job : Job, ⟨id, job⟩ ∈ before.jobs.rows ∧ job.status.isActive = false ∧
      job.ending = ending) :
    ∃ job : Job, ⟨id, job⟩ ∈ after.jobs.rows ∧ job.status.isActive = false ∧
      job.ending = ending := by
  obtain ⟨job, hjob, hover, rfl⟩ := hrecord
  obtain ⟨later, hlater, hid, hmove⟩ := h _ hjob
  have hsame := hmove.ending_eq hover
  have hstatus : later.val.status = job.status := congrArg Prod.fst hsame
  have hmem : ⟨id, later.val⟩ ∈ after.jobs.rows := by
    rw [← show later.id = id from hid]
    exact hlater
  exact ⟨later.val, hmem, by rw [hstatus, hover], hsame⟩

theorem Move.isClosed {σ τ : System} (h : Move σ τ) (hσ : σ.IsClosed id ending) :
    τ.IsClosed id ending := by
  obtain ⟨hrecord, hfree⟩ := hσ
  cases h with
  | @work s t worker later left right h =>
    obtain ⟨other, u, hrun, heffect⟩ := exists_step worker s
    rw [h] at hrun
    cases hrun
    cases heffect with
    | works hmove hheld =>
      refine ⟨record_of_jobsMove hmove hrecord, forall_replaced hfree ?_⟩
      rcases hheld with hheld | hheld
      · rw [hheld]
        exact hfree worker mem_placed
      · rw [hheld]
        exact nofun
    | takes taken _ hheld hmove hpending _ =>
      refine ⟨record_of_jobsMove hmove hrecord, forall_replaced hfree ?_⟩
      -- The job taken was pending, so it is another one.
      rw [hheld]
      rintro ⟨rfl⟩
      obtain ⟨job, hjob, hover, _⟩ := hrecord
      obtain ⟨pending, hmem, hstatus⟩ := hpending
      cases Store.val_eq_of_mem hmem hjob
      rw [hstatus] at hover
      cases hover
    | ends ended own hheld hnone _ _ hstore =>
      refine ⟨?_, forall_replaced hfree (by rw [hnone]; exact nofun)⟩
      -- The worker holds the job that it ends, so it is another one.
      obtain ⟨job, hjob, hover, hending⟩ := hrecord
      have hne : id ≠ ended := by
        rintro rfl
        exact hfree worker mem_placed hheld
      refine ⟨job, ?_, hover, hending⟩
      dsimp only
      rw [hstore]
      exact Table.mem_modify_of_ne hjob hne _
  | @stop worker later fault s left right h =>
    refine ⟨hrecord, forall_replaced hfree ?_⟩
    rw [Worker.held?_of_stopped? h]
    exact hfree worker mem_placed
  | engage s workers handle =>
    refine ⟨hrecord, fun other hother => ?_⟩
    rcases List.mem_append.1 hother with hother | hother
    · exact hfree other hother
    · rw [List.mem_singleton.1 hother]
      exact nofun
  | start s workers register scope =>
    exact ⟨record_of_jobsMove (keepsAt_request register scope) hrecord, hfree⟩
  | cancel s workers handle =>
    have hmove : Store.JobsMove s.store (Job.cancel handle s).2.store := keepsAt_cancel handle
    refine ⟨?_, hfree⟩
    dsimp only
    exact record_of_jobsMove hmove hrecord
  | advance => exact ⟨hrecord, hfree⟩

theorem Path.isClosed {σ τ : System} (h : Path σ τ) (hσ : σ.IsClosed id ending) :
    τ.IsClosed id ending := by
  induction h with
  | refl => exact hσ
  | tail _ hmove ih => exact hmove.isClosed ih

/-! ## What a worker holds -/

/-- Whether a job is running, or was given up because it ran for too long. -/
def IsTaken (job : Job) : Prop :=
  job.status = .running ∨ job.status = .failed ∧ job.error = some abandoned

theorem MayBecome.isTaken {a b : Job} (h : a.MayBecome b) (ha : a.IsTaken) : b.IsTaken := by
  rcases h with hsame | ⟨_, hgiven⟩ | ⟨hpending, _⟩
  · have hstatus : b.status = a.status := congrArg Prod.fst hsame
    have herror : b.error = a.error := congrArg (·.2.1) hsame
    unfold IsTaken
    rw [hstatus, herror]
    exact ha
  · exact .inr hgiven
  · rcases ha with hstatus | ⟨hstatus, _⟩ <;> rw [hpending] at hstatus <;> cases hstatus

/-- The jobs that workers hold are stored and have been taken, and no two workers hold one job. -/
structure System.IsSane (σ : System) : Prop where
  taken : ∀ worker ∈ σ.workers, ∀ id, worker.held? = some id →
    ∃ job : Job, ⟨id, job⟩ ∈ σ.session.store.jobs.rows ∧ job.IsTaken
  alone : (σ.workers.filterMap Worker.held?).Nodup

theorem taken_of_jobsMove {before after : Store} (h : Store.JobsMove before after)
    (htaken : ∃ job : Job, ⟨id, job⟩ ∈ before.jobs.rows ∧ job.IsTaken) :
    ∃ job : Job, ⟨id, job⟩ ∈ after.jobs.rows ∧ job.IsTaken := by
  obtain ⟨job, hjob, htaken⟩ := htaken
  obtain ⟨later, hlater, hid, hmove⟩ := h _ hjob
  have hmem : ⟨id, later.val⟩ ∈ after.jobs.rows := by
    rw [← show later.id = id from hid]
    exact hlater
  exact ⟨later.val, hmem, hmove.isTaken htaken⟩

/-- The ids that workers hold, that of one of them put first. -/
theorem held_perm (worker : Worker) (left right : List Worker) :
    ((left ++ worker :: right).filterMap Worker.held?).Perm
      (worker.held?.toList ++ (left ++ right).filterMap Worker.held?) := by
  have h := (List.perm_middle : (left ++ worker :: right).Perm _).filterMap Worker.held?
  rw [List.filterMap_cons] at h
  cases hheld : worker.held? with
  | none =>
    rw [hheld] at h
    exact h
  | some id =>
    rw [hheld] at h
    exact h

/-- A worker that holds no other job than it held leaves the workers apart. -/
theorem alone_replaced {worker later : Worker} {left right : List Worker}
    (h : ((left ++ worker :: right).filterMap Worker.held?).Nodup)
    (hheld : later.held? = worker.held? ∨ later.held? = none) :
    ((left ++ later :: right).filterMap Worker.held?).Nodup := by
  have hold := (held_perm worker left right).nodup_iff.1 h
  refine (held_perm later left right).nodup_iff.2 ?_
  rcases hheld with hheld | hheld
  · rwa [hheld]
  · rw [hheld]
    exact (List.nodup_append.1 hold).2.1

/-- A job that is held beside a worker is not the job that the worker holds. -/
theorem ne_of_held {worker other : Worker} {left right : List Worker} {own : Int}
    (h : ((left ++ worker :: right).filterMap Worker.held?).Nodup)
    (hheld : worker.held? = some own) (hother : other ∈ left ++ right)
    (hid : other.held? = some id) : id ≠ own := by
  have hold := (held_perm worker left right).nodup_iff.1 h
  rw [hheld] at hold
  rintro rfl
  exact (List.nodup_cons.1 hold).1 (List.mem_filterMap.2 ⟨other, hother, hid⟩)

/-- A move leaves what workers hold stored and taken. -/
theorem Move.taken {σ τ : System} (h : Move σ τ) (hσ : σ.IsSane) : ∀ worker ∈ τ.workers, ∀ id,
    worker.held? = some id →
      ∃ job : Job, ⟨id, job⟩ ∈ τ.session.store.jobs.rows ∧ job.IsTaken := by
  obtain ⟨htaken, halone⟩ := hσ
  cases h with
  | @work s t worker later left right h =>
    obtain ⟨other, u, hrun, heffect⟩ := exists_step worker s
    rw [h] at hrun
    cases hrun
    cases heffect with
    | works hmove hheld =>
      refine forall_replaced (fun other hother id hid =>
        taken_of_jobsMove hmove (htaken other hother id hid)) fun id hid => ?_
      rcases hheld with hheld | hheld
      · rw [hheld] at hid
        exact taken_of_jobsMove hmove (htaken worker mem_placed id hid)
      · rw [hheld] at hid
        cases hid
    | takes taken _ hheld hmove _ hrunning =>
      refine forall_replaced (fun other hother id hid =>
        taken_of_jobsMove hmove (htaken other hother id hid)) fun id hid => ?_
      rw [hheld] at hid
      cases hid
      obtain ⟨job, hjob, hstatus⟩ := hrunning
      exact ⟨job, hjob, .inl hstatus⟩
    | ends ended own hheld hnone _ _ hstore =>
      intro other hother id hid
      have hside : other ∈ left ++ right := by
        rcases List.mem_append.1 hother with hother | hother
        · exact List.mem_append_left _ hother
        · rcases List.mem_cons.1 hother with rfl | hother
          · rw [hnone] at hid
            cases hid
          · exact List.mem_append_right _ hother
      have hne := ne_of_held halone hheld hside hid
      obtain ⟨job, hjob, hjobTaken⟩ := htaken other (mem_placed_of_mem hside) id hid
      refine ⟨job, ?_, hjobTaken⟩
      dsimp only
      rw [hstore]
      exact Table.mem_modify_of_ne hjob hne _
  | @stop worker later fault s left right h =>
    refine forall_replaced htaken fun id hid => ?_
    rw [Worker.held?_of_stopped? h] at hid
    exact htaken worker mem_placed id hid
  | engage s workers handle =>
    intro other hother id hid
    rcases List.mem_append.1 hother with hother | hother
    · exact htaken other hother id hid
    · rw [List.mem_singleton.1 hother] at hid
      cases hid
  | start s workers register scope =>
    intro other hother id hid
    exact taken_of_jobsMove (keepsAt_request register scope) (htaken other hother id hid)
  | cancel s workers handle =>
    have hmove : Store.JobsMove s.store (Job.cancel handle s).2.store := keepsAt_cancel handle
    intro other hother id hid
    dsimp only
    exact taken_of_jobsMove hmove (htaken other hother id hid)
  | advance => exact htaken

/-- A move leaves no job to two workers. -/
theorem Move.alone {σ τ : System} (h : Move σ τ) (hσ : σ.IsSane) :
    (τ.workers.filterMap Worker.held?).Nodup := by
  obtain ⟨htaken, halone⟩ := hσ
  cases h with
  | @work s t worker later left right h =>
    obtain ⟨other, u, hrun, heffect⟩ := exists_step worker s
    rw [h] at hrun
    cases hrun
    cases heffect with
    | works _ hheld => exact alone_replaced halone hheld
    | ends _ _ _ hnone _ _ _ => exact alone_replaced halone (.inr hnone)
    | takes taken hnone hheld _ hpending _ =>
      have hold := (held_perm worker left right).nodup_iff.1 halone
      refine (held_perm later left right).nodup_iff.2 ?_
      rw [hnone] at hold
      rw [hheld]
      refine List.nodup_cons.2 ⟨fun hmem => ?_, hold⟩
      -- A job that another worker holds is not pending.
      obtain ⟨other, hother, hid⟩ := List.mem_filterMap.1 hmem
      obtain ⟨job, hjob, hjobTaken⟩ := htaken other (mem_placed_of_mem hother) taken hid
      obtain ⟨pending, hmem, hstatus⟩ := hpending
      cases Store.val_eq_of_mem hmem hjob
      rcases hjobTaken with hrunning | ⟨hfailed, _⟩
      · rw [hstatus] at hrunning
        cases hrunning
      · rw [hstatus] at hfailed
        cases hfailed
  | stop s left right h => exact alone_replaced halone (.inl (Worker.held?_of_stopped? h))
  | engage s workers handle =>
    have hnil : [Worker.waiting handle].filterMap Worker.held? = [] := rfl
    dsimp only
    rw [List.filterMap_append, hnil, List.append_nil]
    exact halone
  | start => exact halone
  | cancel => exact halone
  | advance => exact halone

theorem Path.isSane {σ τ : System} (h : Path σ τ) (hσ : σ.IsSane) : τ.IsSane := by
  induction h with
  | refl => exact hσ
  | tail _ hmove ih => exact ⟨hmove.taken ih, hmove.alone ih⟩

/-! ## An ending of a job that is held -/

/-- A worker's end puts its own time into the record. -/
theorem exists_overwritten {s : Session} {stored : Job} (hs : s.IsSettled)
    (hwhole : s.isBroken = false) (hstored : ⟨id, stored⟩ ∈ s.store.jobs.rows)
    {worker : Worker} (hworker : (∃ job parcel fault, worker = .stopping id job parcel fault) ∨
      ∃ context job, worker = .reaching context id job []) :
    ∃ later t own, worker.step s = (.ok later, t) ∧ own.completedAt = some s.clock ∧
      ⟨id, withEndOf own stored⟩ ∈ t.store.jobs.rows := by
  rcases hworker with ⟨job, parcel, fault, rfl⟩ | ⟨context, job, rfl⟩
  · obtain ⟨events, htold⟩ := exists_tellOfFault job parcel fault s
    obtain ⟨t, hrun, hstore⟩ := @exists_complete { s with events := events } id stored hs hwhole
      hstored job .failed (some (job.errorOf fault))
    refine ⟨.finished (.ok (job.ended .failed (some (job.errorOf fault)) s.clock)), t,
      job.ended .failed (some (job.errorOf fault)) s.clock, ?_, rfl, ?_⟩
    · rw [Worker.step, bind_of_ok htold, orStop_apply, hrun]
      rfl
    · rw [hstore]
      exact Table.mem_modify_self hstored _
  · obtain ⟨t, hrun, hstore⟩ := exists_complete hs hwhole hstored job .completed none
    refine ⟨.finished (.ok (job.ended .completed none s.clock)), t,
      job.ended .completed none s.clock, ?_, rfl, ?_⟩
    · rw [Worker.step, orStop_apply, hrun]
      rfl
    · rw [hstore]
      exact Table.mem_modify_self hstored _

/-- A worker that holds a job is stopped by an error wherever it stands, unless it is just reaching
a parcel or has been stopped already. -/
theorem Worker.stopped?_of_held {worker : Worker} (hheld : worker.held? = some id)
    (fault : Fault) :
    (∃ job parcel, worker.stopped? fault = some (.stopping id job parcel fault)) ∨
      (∃ job parcel earlier, worker = .stopping id job parcel earlier) ∨
      ∃ context job parcels, worker = .reaching context id job parcels := by
  cases worker with
  | waiting handle => cases hheld
  | finished result => cases hheld
  | loading row parcels =>
    cases hheld
    exact .inl ⟨row.val, none, rfl⟩
  | reaching context own job parcels =>
    cases hheld
    exact .inr (.inr ⟨context, job, parcels, rfl⟩)
  | cancelling own job parcel =>
    cases hheld
    exact .inl ⟨job, parcel, rfl⟩
  | looking context own job parcel rest =>
    cases hheld
    exact .inl ⟨job, parcel, rfl⟩
  | screening context own job parcel rest =>
    cases hheld
    exact .inl ⟨job, parcel, rfl⟩
  | counting context own job parcel rest =>
    cases hheld
    exact .inl ⟨job, parcel, rfl⟩
  | stopping own job parcel earlier =>
    cases hheld
    exact .inr (.inl ⟨job, parcel, earlier, rfl⟩)

/-- A worker that holds a job can come to its end at once, as an error may stop it. -/
theorem exists_path_end {s : Session} {stored : Job} (hs : s.IsSettled)
    (hwhole : s.isBroken = false) (hstored : ⟨id, stored⟩ ∈ s.store.jobs.rows) {worker : Worker}
    (hheld : worker.held? = some id) (left right : List Worker) :
    ∃ τ own, Path ⟨s, left ++ worker :: right⟩ τ ∧ own.completedAt = some s.clock ∧
      ⟨id, withEndOf own stored⟩ ∈ τ.session.store.jobs.rows := by
  have hend : ∀ worker : Worker, ((∃ job parcel fault, worker = .stopping id job parcel fault) ∨
      ∃ context job, worker = .reaching context id job []) →
      ∃ τ own, Path ⟨s, left ++ worker :: right⟩ τ ∧ own.completedAt = some s.clock ∧
        ⟨id, withEndOf own stored⟩ ∈ τ.session.store.jobs.rows := by
    intro worker hworker
    obtain ⟨later, t, own, hstep, htime, hrow⟩ := exists_overwritten hs hwhole hstored hworker
    exact ⟨_, own, .single (.work left right hstep), htime, hrow⟩
  have hstop : ∀ (worker : Worker) (job : Job) (parcel : Option Int),
      worker.stopped? (.raised .softTimeLimit none) =
        some (.stopping id job parcel (.raised .softTimeLimit none)) →
      ∃ τ own, Path ⟨s, left ++ worker :: right⟩ τ ∧ own.completedAt = some s.clock ∧
        ⟨id, withEndOf own stored⟩ ∈ τ.session.store.jobs.rows := by
    intro worker job parcel hstopped
    obtain ⟨τ, own, hpath, hrest⟩ := hend (.stopping id job parcel (.raised .softTimeLimit none))
      (.inl ⟨job, parcel, _, rfl⟩)
    exact ⟨τ, own, .head (.stop s left right hstopped) hpath, hrest⟩
  rcases Worker.stopped?_of_held hheld (.raised .softTimeLimit none) with
    ⟨job, parcel, hstopped⟩ | ⟨job, parcel, fault, rfl⟩ | ⟨context, job, parcels, rfl⟩
  · exact hstop worker job parcel hstopped
  · exact hend _ (.inl ⟨job, parcel, fault, rfl⟩)
  cases parcels with
  | nil => exact hend _ (.inr ⟨context, job, rfl⟩)
  | cons parcel rest =>
    -- No error is caught here before the next parcel has been reached.
    obtain ⟨isToBe, hpoll⟩ : ∃ isToBe, isToBeCancelled id s = (.ok isToBe, s) :=
      ⟨_, query_of_whole _ hwhole⟩
    have hstep : (Worker.reaching context id job (parcel :: rest)).step s = (.ok (if isToBe then
        .cancelling id job parcel else .looking context id job parcel rest), s) := by
      rw [Worker.step, orStop_apply, hpoll]
      rfl
    have hrest : ∃ τ own, Path ⟨s, left ++ (if isToBe then Worker.cancelling id job parcel
        else .looking context id job parcel rest) :: right⟩ τ ∧
          own.completedAt = some s.clock ∧
          ⟨id, withEndOf own stored⟩ ∈ τ.session.store.jobs.rows := by
      cases isToBe with
      | true => exact hstop _ job parcel rfl
      | false => exact hstop _ job parcel rfl
    obtain ⟨τ, own, hpath, hrow⟩ := hrest
    exact ⟨τ, own, .head (.work left right hstep) hpath, hrow⟩

/-- The ending of a job that is over and held can still be changed. -/
theorem exists_path_of_held {σ : System} (hs : σ.session.IsSettled)
    (hwhole : σ.session.isBroken = false) {worker : Worker} (hworker : worker ∈ σ.workers)
    (hheld : worker.held? = some id) {stored : Job}
    (hstored : ⟨id, stored⟩ ∈ σ.session.store.jobs.rows) :
    ∃ τ later, Path σ τ ∧ ⟨id, later⟩ ∈ τ.session.store.jobs.rows ∧
      later.ending ≠ stored.ending := by
  obtain ⟨s, workers⟩ := σ
  obtain ⟨left, right, rfl⟩ := List.append_of_mem hworker
  obtain ⟨seconds, htime⟩ : ∃ seconds, some (s.clock + seconds) ≠ stored.completedAt := by
    by_cases hnow : some s.clock = stored.completedAt
    · refine ⟨1, fun hlater => ?_⟩
      rw [← hnow, Option.some.injEq] at hlater
      omega
    · refine ⟨0, ?_⟩
      rwa [Int.add_zero]
  obtain ⟨τ, own, hpath, hown, hrow⟩ := @exists_path_end id { s with clock := s.clock + seconds }
    stored hs hwhole hstored worker hheld left right
  refine ⟨τ, _, .head (.advance s _ seconds) hpath, hrow, fun hsame => htime ?_⟩
  have hcompleted : (withEndOf own stored).completedAt = stored.completedAt :=
    congrArg (·.2.2) hsame
  rw [← hcompleted, ← hown]
  rfl

/-- Once a job is over, how it has ended is final just if no worker holds the job. A job that is
over and held has been given up because it ran for too long, and whatever its worker comes to in
the end takes the place of that. -/
theorem ending_final_iff_not_held {ρ σ : System} (hs : ρ.session.IsSettled)
    (hblock : ρ.session.inBlock = false) (hnone : ∀ worker ∈ ρ.workers, worker.held? = none)
    (hpath : Path ρ σ) {row : Row Job} (hrow : row ∈ σ.session.store.jobs.rows)
    (hover : row.val.status.isActive = false) :
    ((∀ τ, Path σ τ → ∃ later ∈ τ.session.store.jobs.rows, later.id = row.id ∧
        later.val.ending = row.val.ending) ↔
      ∀ worker ∈ σ.workers, worker.held? ≠ some row.id) ∧
    ((∃ worker ∈ σ.workers, worker.held? = some row.id) →
      row.val.status = .failed ∧ row.val.error = some abandoned) := by
  have hσ : σ.session.IsSettled := hpath.isSettled.2 hs
  have hwhole : σ.session.isBroken = false := (hσ (hpath.isSettled.1.trans hblock)).1
  have hsane : σ.IsSane := by
    refine hpath.isSane ⟨fun worker hworker id hheld => ?_, ?_⟩
    · rw [hnone worker hworker] at hheld
      cases hheld
    · rw [List.filterMap_eq_nil_iff.2 hnone]
      exact .nil
  refine ⟨⟨fun hfinal worker hworker hheld => ?_, fun hfree τ hτ => ?_⟩, ?_⟩
  · obtain ⟨τ, later, hτ, hlater, hchanged⟩ := exists_path_of_held hσ hwhole hworker hheld hrow
    obtain ⟨kept, hkept, hid, hsame⟩ := hfinal τ hτ
    have heq : kept = ⟨row.id, later⟩ := Table.eq_of_mem_of_id_eq hkept hlater hid
    rw [heq] at hsame
    exact hchanged hsame
  · obtain ⟨job, hjob, _, hsame⟩ := (hτ.isClosed ⟨⟨row.val, hrow, hover, rfl⟩, hfree⟩).record
    exact ⟨_, hjob, rfl, hsame⟩
  · rintro ⟨worker, hworker, hheld⟩
    obtain ⟨job, hjob, hrunning | hgiven⟩ := hsane.taken worker hworker row.id hheld
    · cases Store.val_eq_of_mem hrow hjob
      rw [hrunning] at hover
      cases hover
    · cases Store.val_eq_of_mem hrow hjob
      exact hgiven

/-! ## A job given up while its worker is at a parcel -/

/-- A number of steps of a worker, one after another. -/
def Worker.steps : Nat → Worker → Session → Worker × Session
  | 0, worker, s => (worker, s)
  | count + 1, worker, s => match worker.step s with
    | (.ok later, t) => later.steps count t
    | (.error _, t) => (worker, t)

theorem path_steps (count : Nat) (worker : Worker) (s : Session) (left right : List Worker) :
    Path ⟨s, left ++ worker :: right⟩
      ⟨(worker.steps count s).2, left ++ (worker.steps count s).1 :: right⟩ := by
  induction count generalizing worker s with
  | zero => exact .refl
  | succ count ih =>
    obtain ⟨later, t, hstep, _⟩ := exists_step worker s
    unfold Worker.steps
    rw [hstep]
    exact .head (.work left right hstep) (ih later t)

/-- The only worker of a session has taken some of its steps, and then time has passed and another
job has been requested. -/
def stalled (s : Session) (handle : Option Handle) (count : Nat) (seconds register : Int)
    (scope : Scope) : System :=
  let way := (Worker.waiting handle).steps count s
  ⟨(request register scope { way.2 with clock := way.2.clock + seconds }).2, [way.1]⟩

theorem path_stalled (s : Session) (handle : Option Handle) (count : Nat) (seconds register : Int)
    (scope : Scope) : Path ⟨s, []⟩ (stalled s handle count seconds register scope) := by
  have hengage : Path ⟨s, []⟩ ⟨s, [.waiting handle]⟩ := .single (.engage s [] handle)
  have hsteps := path_steps count (.waiting handle) s [] []
  exact ((hengage.trans hsteps).tail (.advance _ _ seconds)).tail (.start _ _ register scope)

/-- A session with one parcel and a pending job that screens its code. -/
def oneParcel : Session :=
  { Session.start (.engine .null) .none with
    store := { Store.empty with
      registers := Table.empty.insert ⟨"imported", Parcel.ozon⟩
      parcels := Table.empty.insert
        ⟨1, Parcel.ozon, 1, 1, some "2222222222", some "lamp", none, none, none⟩
      jobs := Table.empty.insert (fresh ⟨7⟩ 1 .codes 0) } }

/-- The job given up while its worker is about to screen the parcel. -/
def givenUp : System := stalled oneParcel (some ⟨7⟩) 4 7201 1 .codes

theorem isSettled_oneParcel : oneParcel.IsSettled := by
  intro _
  refine ⟨rfl, rfl, (Store.isSound_iff _).1 ?_⟩
  decide

theorem path_givenUp : Path ⟨oneParcel, []⟩ givenUp := path_stalled _ _ _ _ _ _

/-- A job that is given up while its worker is at a parcel is over, but not for good. -/
theorem not_final_givenUp : ∃ row ∈ givenUp.session.store.jobs.rows,
    row.val.ending = (.failed, some abandoned, some 7201) ∧
    ¬ ∀ τ, Path givenUp τ → ∃ later ∈ τ.session.store.jobs.rows, later.id = row.id ∧
      later.val.ending = row.val.ending := by
  have hfind : (givenUp.session.store.jobs.find? 1).map Job.ending =
      some (.failed, some abandoned, some 7201) := by decide +kernel
  obtain ⟨job, hjob, hending⟩ := Option.map_eq_some_iff.1 hfind
  have hrow : (⟨1, job⟩ : Row Job) ∈ givenUp.session.store.jobs.rows :=
    Table.find?_eq_some_iff.1 hjob
  have hover : job.status.isActive = false := by
    rw [show job.status = .failed from congrArg Prod.fst hending]
    rfl
  have hheld : ∀ worker ∈ givenUp.workers, worker.held? = some 1 := by
    have hall : (givenUp.workers.all fun worker => worker.held? == some 1) = true := by
      decide +kernel
    intro worker hworker
    exact beq_iff_eq.1 (List.all_eq_true.1 hall worker hworker)
  obtain ⟨worker, hworker⟩ : ∃ worker, worker ∈ givenUp.workers := ⟨_, List.mem_singleton_self _⟩
  refine ⟨_, hrow, hending, fun hfinal => ?_⟩
  have hiff := (@ending_final_iff_not_held ⟨oneParcel, []⟩ givenUp isSettled_oneParcel rfl
    (fun _ hmem => nomatch hmem) path_givenUp ⟨1, job⟩ hrow hover).1
  exact hiff.1 hfinal worker hworker (hheld worker hworker)

/-- The worker goes on and puts its own end in place of the error, as if nothing had been. -/
theorem ending_changes_after_givenUp : ∃ σ τ : System, Path ⟨oneParcel, []⟩ σ ∧ Path σ τ ∧
    (σ.session.store.jobs.find? 1).map Job.ending = some (.failed, some abandoned, some 7201) ∧
    (τ.session.store.jobs.find? 1).map Job.ending = some (.completed, none, some 7201) := by
  have hrest : ∀ σ : System, ∀ worker, σ.workers = [worker] →
      Path σ ⟨(worker.steps 3 σ.session).2, [(worker.steps 3 σ.session).1]⟩ := by
    rintro ⟨s, workers⟩ worker rfl
    exact path_steps 3 worker s [] []
  refine ⟨givenUp, _, path_givenUp, hrest givenUp _ rfl, ?_, ?_⟩
  · decide +kernel
  · decide +kernel

end Clearance.Job

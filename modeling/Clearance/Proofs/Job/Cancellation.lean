import Clearance.Proofs.Job.Flight
import Clearance.Proofs.Job.Front

/-!
# A job that is cancelled

A job whose cancellation is asked for while a parcel is screened goes on to the end of that parcel
and no further. The request and the worker save different parts of the record of the job, so the
worker finds the request when it asks before the next parcel; behind the last parcel nobody asks,
and the job is completed. A pending job is cancelled at once and is not run any more, and where no
job is in flight there is nothing to cancel.
-/

set_option autoImplicit false

namespace Clearance

open Proc
open Clearance.Screening (AllScreened contextOf)

namespace Job

variable {s t u : Session} {context : Screening.Context} {id parcel : Int} {own stored : Job}
  {done front rest : List Int} {meanwhile : Meanwhile} {count : Nat}

/-! ## What asking for a cancellation does -/

/-- A job in whose record the cancellation is asked for. -/
def withCancelAsked (job : Job) : Job := { job with cancelRequested := true }

section

variable {value : Text.Literal} {known : Handle} {row : Row Job} (hs : s.IsSettled)
  (hblock : s.inBlock = false) (hvalue : Handle.ofLiteral? value = some known)
  (hjob : s.store.jobOf? (some known) = some row)

include hs hblock hvalue hjob

theorem cancel_of_running (hrunning : row.val.status = .running) :
    cancel value s = (.ok true, { s with
      store := { s.store with jobs := s.store.jobs.modify row.id withCancelAsked } }) := by
  obtain ⟨hwhole, _, hsound⟩ := hs hblock
  have hhas : s.store.jobs.has row.id = true :=
    Table.has_eq_true_iff.2 ⟨row, Store.mem_of_jobOf? hjob, rfl⟩
  have hasked := @execute_of_ok _ (fun store => store.saveJob row.id [] withCancelAsked)
    { s with inBlock := true } _ _ hwhole (Store.saveJob_of_has rfl hhas) nofun
  unfold cancel
  rw [hvalue]
  refine atomic_of_ok hs hwhole ?_ fun _ => isSound_modify hsound fun _ => rfl
  rw [bind_of_ok (query_jobOf? hs hblock hjob)]
  dsimp only
  rw [if_pos (by rw [hrunning]; rfl)]
  refine (bind_of_ok hasked).trans ?_
  rw [if_neg (by rw [hrunning]; decide)]
  rfl

theorem cancel_of_pending (hpending : row.val.status = .pending) :
    cancel value s = (.ok true, { s with
      store := { s.store with
        jobs := (s.store.jobs.modify row.id withCancelAsked).modify row.id
          (row.val.withCancelAsked.ended .cancelled none s.clock).withEndOf } }) := by
  obtain ⟨hwhole, _, hsound⟩ := hs hblock
  have hrow := Store.mem_of_jobOf? hjob
  have hhas : s.store.jobs.has row.id = true := Table.has_eq_true_iff.2 ⟨row, hrow, rfl⟩
  have hasked := @execute_of_ok _ (fun store => store.saveJob row.id [] withCancelAsked)
    { s with inBlock := true } _ _ hwhole (Store.saveJob_of_has rfl hhas) nofun
  have hended := @complete_of_mem { s with
      inBlock := true
      store := { s.store with jobs := s.store.jobs.modify row.id withCancelAsked } } row.id
    row.val.withCancelAsked nofun hwhole (Table.mem_modify_self hrow withCancelAsked)
    row.val.withCancelAsked .cancelled none
  have hafter := @isSound_modify _ row.id
    (row.val.withCancelAsked.ended .cancelled none s.clock).withEndOf
    (@isSound_modify s.store row.id withCancelAsked hsound fun _ => rfl) fun _ => rfl
  unfold cancel
  rw [hvalue]
  refine atomic_of_ok hs hwhole ?_ fun _ => hafter
  rw [bind_of_ok (query_jobOf? hs hblock hjob)]
  dsimp only
  rw [if_pos (by rw [hpending]; rfl)]
  refine (bind_of_ok hasked).trans ?_
  rw [if_pos hpending]
  exact bind_of_ok hended

end

/-- Where the job of a handle is not in flight, or there is none, nothing is done. -/
theorem cancel_of_none {value : Text.Literal} (hs : s.IsSettled) (hwhole : s.isBroken = false)
    (hover : ∀ known row, Handle.ofLiteral? value = some known →
      s.store.jobOf? (some known) = some row → row.val.status.isActive = false) :
    cancel value s = (.ok false, s) := by
  unfold cancel
  cases hvalue : Handle.ofLiteral? value with
  | none => rfl
  | some known =>
    refine atomic_of_ok hs hwhole ?_ fun hblock => (hs hblock).2.2
    have hlook : query (fun store => .ok (store.jobOf? (some known))) { s with inBlock := true } =
        (.ok (s.store.jobOf? (some known)), { s with inBlock := true }) := query_of_whole _ hwhole
    rw [bind_of_ok hlook]
    cases hjob : s.store.jobOf? (some known) with
    | none => rfl
    | some row =>
      dsimp only
      rw [hover known row hvalue hjob, if_neg Bool.false_ne_true]
      rfl

/-! ## A worker whose job is to be cancelled -/

theorem visit_of_asksCancel (hs : s.IsSettled) (hwhole : s.isBroken = false)
    (hstored : ⟨id, stored⟩ ∈ s.store.jobs.rows) (hasks : stored.cancelRequested = true) :
    visit context meanwhile id count own parcel s =
      (.ok (.ends (.cancelled (own.ended .cancelled none s.clock))), { s with
        store := { s.store with
          jobs := s.store.jobs.modify id (own.ended .cancelled none s.clock).withEndOf } }) := by
  obtain ⟨isToBe, hpoll, hasked⟩ := exists_poll id hwhole
  have hyes : isToBe = true := hasked.2 ⟨⟨id, stored⟩, hstored, rfl, hasks⟩
  have hend := complete_of_mem hs hwhole hstored own .cancelled none
  unfold visit
  rw [orStop_apply, hpoll, hyes]
  dsimp only
  rw [if_pos rfl, orStop_apply, hend]
  rfl

/-- A worker whose job is to be cancelled screens no more parcels: it cancels the job, or completes
it if none are left. -/
theorem exists_conclude_of_asksCancel (hs : s.IsSettled) (hwhole : s.isBroken = false)
    (hstored : ⟨id, stored⟩ ∈ s.store.jobs.rows) (hasks : stored.cancelRequested = true)
    (context : Screening.Context) (meanwhile : Meanwhile) (count : Nat) (own : Job)
    {status : JobStatus} (hstatus : (if rest = [] then .completed else .cancelled) = status) :
    ∃ t, (pass context meanwhile id count own rest >>= conclude id) s =
        (.ok (own.ended status none s.clock), t) ∧
      t.transcript = s.transcript ∧ t.store = { s.store with
        jobs := s.store.jobs.modify id (own.ended status none s.clock).withEndOf } := by
  cases rest with
  | nil =>
    rw [← hstatus]
    exact ⟨_, complete_of_mem hs hwhole hstored own .completed none, rfl, rfl⟩
  | cons parcel rest =>
    have hvisit := @visit_of_asksCancel s context id parcel own stored meanwhile count hs hwhole
      hstored hasks
    rw [← hstatus, if_neg (List.cons_ne_nil parcel rest), pass, bind_apply, bind_of_ok hvisit]
    exact ⟨_, rfl, rfl, rfl⟩

/-! ## Asking while a parcel is screened -/

theorem serveInterludes_of_ne {k j : Nat} (hne : j ≠ k) (requests : List Request) :
    Service.serveInterludes [.mk k requests] j = pure () := by
  have hother : ((k : Int) == (j : Int)) = false := by
    rw [beq_eq_false_iff_ne]
    omega
  rw [Service.serveInterludes, Service.serveInterludes, Service.serveInterlude, hother]
  rfl

theorem serveInterludes_cancel {value : Text.Literal} {isInFlight : Bool}
    (hcancel : cancel value s = (.ok isInFlight, t)) (k : Nat) :
    Service.serveInterludes [.mk k [.single (.cancel value)]] k s =
      (.ok (), { t with transcript := t.transcript ++ [.cancelled isInFlight] }) := by
  have hperform : Service.perform (.cancel value) s = (.ok (.cancelled isInFlight), t) := by
    change (cancel value >>= fun answer => pure (Answer.cancelled answer)) s = _
    exact bind_of_ok hcancel
  have hserve : Service.serve (.single (.cancel value)) s = (.ok (.cancelled isInFlight), t) := by
    rw [Service.serve]
    exact bind_of_ok (attempt_of_eq hperform)
  have hmeanwhile : Service.serveMeanwhile [.single (.cancel value)] s =
      (.ok (), { t with transcript := t.transcript ++ [.cancelled isInFlight] }) := by
    rw [Service.serveMeanwhile, Service.serveMeanwhile]
    change (Service.serve (.single (.cancel value)) >>= fun answer =>
      Service.note answer >>= fun _ => pure ()) s = _
    rw [bind_of_ok hserve]
    rfl
  rw [Service.serveInterludes, Service.serveInterludes, Service.serveInterlude,
    beq_self_eq_true, if_pos rfl, bind_of_ok hmeanwhile]
  rfl

/-- Where a worker stands that has come through its first parcels, the jobs are still apart. -/
theorem ComesTo.hasJobsApart {handle : Option Handle} {row : Row Job}
    (h : ComesTo handle meanwhile s row own context front rest t u) (hapart : s.HasJobsApart)
    (hbefore : ∀ k, Follows Session.KeepsJobsApart (meanwhile.before k)) : u.HasJobsApart := by
  have course := Session.keepsJobsApart_isJobLaw.isCourse
  have hsetOut := h.setOut.follows course (keepsJobsApart_claim handle)
  have hpass : Follows Session.KeepsJobsApart (pass context meanwhile row.id 0 own front) :=
    follows_pass course keepsJobsApart_saveCount keepsJobsApart_complete hbefore context row.id 0
      own front
  have hpass := hpass t
  unfold FollowsAt at hpass
  rw [h.passed] at hpass
  exact (course.trans hsetOut hpass hapart).1

section

variable {handle : Option Handle} {row : Row Job}
  (h : ComesTo handle meanwhile s row own context front
  (parcel :: rest) t u) (hapart : u.HasJobsApart) {value : Text.Literal}
  (hvalue : Handle.ofLiteral? value = some own.handle) (hrunning : own.status = .running)

include h hapart hvalue hrunning

/-- Where the cancellation of a worker's job is asked for, it is stored, and no more than that is
done. -/
theorem ComesTo.exists_asked (k : Nat) :
    ∃ t' v, Service.serveInterludes [.mk k [.single (.cancel value)]] k u = (.ok (), v) ∧
      t'.store = t.store ∧ t'.IsSettled ∧ t'.inBlock = false ∧
      t'.transcript = s.transcript ++ [.cancelled true] ∧
      Underway context row.id (own.counting front.length).withCancelAsked front.reverse t' v := by
  obtain ⟨hu, hublock⟩ := h.underway.isSettled h.setOut.isSettled h.setOut.inBlock
  have hstored := h.underway.stored
  have hjob : u.store.jobOf? (some own.handle) = some ⟨row.id, own.counting front.length⟩ :=
    hapart.jobOf?_eq hstored
  have hcancel := cancel_of_running hu hublock hvalue hjob hrunning
  refine ⟨{ t with transcript := t.transcript ++ [.cancelled true] }, _,
    serveInterludes_cancel hcancel k, rfl, h.setOut.isSettled, h.setOut.inBlock,
    congrArg (· ++ _) h.setOut.transcript, ?_⟩
  constructor
  · rw [h.underway.session]
  · exact isSound_modify h.underway.sound fun _ => rfl
  · exact h.underway.screened.of_sameButJobs ⟨_, rfl⟩
  · exact Table.mem_modify_self hstored withCancelAsked

/-- A worker whose job is to be cancelled from the time at which it screens a parcel still screens
and counts that parcel. -/
theorem ComesTo.exists_visit_asked (hbefore : meanwhile = Service.serveInterludes
      [.mk (front.length + 1 : Nat) [.single (.cancel value)]])
    (hcontext : contextOf row.val.scope.hasWords row.val.scope.hasCodes s = .ok context)
    (hnew : parcel ∉ front)
    (hfinds : FindsAllRules context row.val.scope [parcel] s.store) :
    ∃ t' w, visit context meanwhile row.id front.length (own.counting front.length) parcel u =
        (.ok (.goesOn (front.length + 1) ((own.counting front.length).counting 1)), w) ∧
      t'.store = t.store ∧ w.IsSettled ∧ w.isBroken = false ∧
      w.transcript = s.transcript ++ [.cancelled true] ∧
      Underway context row.id ((own.counting front.length).counting 1).withCancelAsked
        (parcel :: front.reverse) t' w := by
  obtain ⟨t', v, hasked, hstore, ht', htblock', htranscript, hv⟩ :=
    h.exists_asked hapart hvalue hrunning (front.length + 1)
  have hcalm : meanwhile.strikes (front.length + 1) = .calm := by rw [hbefore]
  have hdone : meanwhile.before (front.length + 1) u = (.ok (), v) := by
    rw [hbefore]
    exact hasked
  obtain ⟨record, hrecord, _⟩ := h.canCount.stored parcel List.mem_cons_self
  have hfindsOne : Screening.FindsRules context (own.counting front.length).scope parcel record
      t.store := by
    rw [show (own.counting front.length).scope = row.val.scope from h.setOut.scope]
    exact (findsAllRules_iff h.setOut.store).2 hfinds parcel (List.mem_singleton_self parcel) record
      hrecord
  obtain ⟨w, hvisit, hw⟩ := visit_of_findsRules h.setOut.isSettled h.setOut.inBlock
    (fun index hindex code => Screening.nodup_of_contextOf hcontext hindex code) h.underway
    h.canCount (fun hold => hnew (List.mem_reverse.1 hold)) hrecord hfindsOne hcalm hdone
    ht' htblock' hstore hv rfl
  obtain ⟨hw', hwblock⟩ := hw.isSettled ht' htblock'
  refine ⟨t', w, hvisit, hstore, hw', (hw' hwblock).1, ?_, hw⟩
  rw [hw.session]
  exact htranscript

end

section

variable {handle : Option Handle} {row : Row Job} (hs : s.IsSettled) (hblock : s.inBlock = false)
  (hjob : s.store.jobOf? handle = some row) (hpending : row.val.status = .pending)
  (hprocessed : row.val.processed = 0) (hcancel : row.val.cancelRequested = false)
  (hcan : CanComplete s row.val.register row.val.scope) (hapart : s.HasJobsApart)
  {value : Text.Literal} (hvalue : Handle.ofLiteral? value = some row.val.handle)

include hs hblock hjob hpending hprocessed hcancel hcan hapart hvalue

/-- A job whose cancellation is asked for while a parcel is screened ends behind that parcel. -/
theorem run_of_cancel (hparcels : s.store.openParcels row.val.register = front ++ parcel :: rest) :
    ∃ job t, run handle (Service.serveInterludes
          [.mk (front.length + 1 : Nat) [.single (.cancel value)]]) s = (.ok job, t) ∧
      t.transcript = s.transcript ++ [.cancelled true] ∧
      IsLeftAfter s row (front ++ [parcel]) job t ∧
      job.status = if rest = [] then .completed else .cancelled := by
  generalize hown : row.val.started (s.store.openParcels row.val.register).length s.clock = own
  generalize hlater : Meanwhile.doing (Service.serveInterludes
    [.mk (front.length + 1 : Nat) [.single (.cancel value)]]) = meanwhile
  obtain ⟨hcount, context, hcontext, hfinds⟩ := (canComplete_iff hs hblock).1 hcan
  have hscreens : ∀ other ∈ front, ∃ outcome t,
      Screening.screen row.val.scope none other s = (.ok outcome, t) := by
    intro other hother
    apply hcan.screens
    rw [hparcels]
    exact List.mem_append_left _ hother
  have hcalm : ∀ j ≤ front.length, meanwhile.IsCalmAt j := by
    intro j hj
    rw [← hlater]
    refine ⟨serveInterludes_of_ne ?_ _, rfl⟩
    omega
  obtain ⟨t, u, h⟩ := exists_comesTo hs hblock hjob hpending hprocessed hcancel hcount hcontext
    hown hparcels hscreens hcalm
  have hfollows : ∀ k, Follows Session.KeepsJobsApart (meanwhile.before k) := by
    intro k
    rw [← hlater]
    exact Service.follows_serveInterludes keepsJobsApart_isCourse _
      (List.all_eq_true.1 (by rfl)) k
  have hnew : parcel ∉ front := not_mem_front_of_mem_rest hparcels List.mem_cons_self
  rw [hparcels] at hfinds
  have hfinds' : FindsAllRules context row.val.scope (front ++ [parcel]) s.store := by
    intro other hother
    apply hfinds
    rw [List.append_cons]
    exact List.mem_append_left rest hother
  have hlast : own.counting (front ++ [parcel]).length =
      (own.counting front.length).counting 1 := by
    rw [counting_counting, List.length_append]
    rfl
  have hown' : own.handle = row.val.handle ∧ own.status = .running := by
    rw [← hown]
    exact ⟨rfl, rfl⟩
  obtain ⟨hhandle, hrunning⟩ := hown'
  rw [← hhandle] at hvalue
  obtain ⟨t', w, hvisit, hstore, hw, hwhole, htranscript, hunder⟩ := h.exists_visit_asked
    (h.hasJobsApart hapart hfollows) hvalue hrunning hlater.symm hcontext hnew
    fun other hother => hfinds' other (List.mem_append_right front hother)
  generalize hstatus : (if rest = [] then JobStatus.completed else .cancelled) = status
  obtain ⟨x, hend, htranscript', hx⟩ := exists_conclude_of_asksCancel hw hwhole hunder.stored rfl
    context meanwhile (front.length + 1) ((own.counting front.length).counting 1) hstatus
  have hleft := h.setOut.isLeftAfter hs hblock hprocessed (fun _ => hcontext) hfinds' hlast
    hstore (by simp [or_comm]) hunder status none w.clock hx
  refine ⟨_, x, ?_, htranscript'.trans htranscript, hleft, rfl⟩
  rw [h.run, pass, bind_apply, bind_of_ok hvisit]
  exact hend

end

/-! ## A pending job that is cancelled -/

section

variable {value : Text.Literal} {known : Handle} {row : Row Job} (hs : s.IsSettled)
  (hblock : s.inBlock = false) (hvalue : Handle.ofLiteral? value = some known)
  (hjob : s.store.jobOf? (some known) = some row) (hpending : row.val.status = .pending)

include hs hblock hvalue hjob hpending

/-- A pending job that is cancelled is over at once. -/
theorem exists_cancelled :
    ∃ t, cancel value s = (.ok true, t) ∧ Store.SameButJobs s.store t.store ∧
      ∃ job, ⟨row.id, job⟩ ∈ t.store.jobs.rows ∧ job.status = .cancelled ∧ job.finished = true := by
  refine ⟨_, cancel_of_pending hs hblock hvalue hjob hpending, ⟨_, rfl⟩, ?_⟩
  have hasked := Table.mem_modify_self (Store.mem_of_jobOf? hjob) withCancelAsked
  exact ⟨_, Table.mem_modify_self hasked _, rfl, rfl⟩

/-- A pending job that has been cancelled is not run any more, whatever is asked for meanwhile. -/
theorem run_of_cancelled (hapart : s.HasJobsApart) (more : List Request)
    (hrespect : ∀ operation ∈ Request.operationsOfAll more, operation.respectsStages = true)
    {later : Row Job}
    (hlater : later ∈ (Service.serveAll more (cancel value s).2).2.store.jobs.rows)
    (hid : later.id = row.id) (meanwhile : Meanwhile) :
    run (some later.val.handle) meanwhile (Service.serveAll more (cancel value s).2).2 =
      (.ok later.val, (Service.serveAll more (cancel value s).2).2) := by
  obtain ⟨t, hrun, _, job, hstored, hstatus, _⟩ := exists_cancelled hs hblock hvalue hjob hpending
  have hsettled := staysSettled_cancel value s
  have hkeeps := keepsJobsApart_cancel value s
  unfold FollowsAt at hsettled hkeeps
  rw [hrun] at hsettled hkeeps hlater ⊢
  have hsettled' := hsettled.trans (Service.follows_serveAll
    Service.staysSettled_isCourse_service more (fun _ _ => trivial) t)
  obtain ⟨hapart', _, hfrom⟩ :=
    Service.follows_serveAll keepsJobsApart_isCourse more hrespect t (hkeeps hapart).1
  have hbound := t.store.jobs.bounded _ hstored
  obtain ⟨old, hold, holdId, hmove⟩ := hfrom.rows later hlater (by rw [hid]; exact hbound)
  have hne : later.val.status ≠ .pending := by
    intro hagain
    obtain rfl := Table.eq_of_mem_of_id_eq hold hstored (holdId.trans hid)
    have hstill := hmove.pending hagain
    rw [hstatus] at hstill
    cases hstill
  exact run_of_ne_pending (hsettled'.isSettled hs) (hsettled'.inBlock.trans hblock)
    (hapart'.jobOf?_eq hlater) hne meanwhile

end

/-! ## Cancelling a job -/

section

variable {value : Text.Literal} {known : Handle} {row : Row Job} (hs : s.IsSettled)
  (hblock : s.inBlock = false) (hvalue : Handle.ofLiteral? value = some known)
  (hjob : s.store.jobOf? (some known) = some row) (hpending : row.val.status = .pending)
  (hprocessed : row.val.processed = 0) (hcancel : row.val.cancelRequested = false)
  (hapart : s.HasJobsApart)

include hs hblock hvalue hjob hpending hprocessed hcancel hapart

/-- If the cancellation of a job is asked for while the `k`-th parcel is screened, and the job could
be completed otherwise, the answer is that the job is in flight; the first `k` parcels are screened,
the others are as they were, and the job is cancelled, or completed if there are no others. A
pending job is cancelled at once and not run any more, whatever is asked for meanwhile. Where no job
in flight has the handle, the answer says so and nothing is done. -/
theorem cancelled_before_next :
    (CanComplete s row.val.register row.val.scope →
      ∀ k, 1 ≤ k → k ≤ (s.store.openParcels row.val.register).length → ∃ job t,
        run (some known) (Service.serveInterludes [.mk k [.single (.cancel value)]]) s =
          (.ok job, t) ∧
        t.transcript = s.transcript ++ [.cancelled true] ∧
        IsLeftAfter s row ((s.store.openParcels row.val.register).take k) job t ∧
        job.processed = k ∧
        job.status = if k < (s.store.openParcels row.val.register).length then .cancelled
          else .completed) ∧
    (∃ t, cancel value s = (.ok true, t) ∧ Store.SameButJobs s.store t.store ∧
      (∃ job, ⟨row.id, job⟩ ∈ t.store.jobs.rows ∧ job.status = .cancelled ∧ job.finished = true) ∧
      ∀ more, (∀ operation ∈ Request.operationsOfAll more, operation.respectsStages = true) →
        let u := (Service.serveAll more t).2
        ∀ later ∈ u.store.jobs.rows, later.id = row.id →
          ∀ meanwhile, run (some later.val.handle) meanwhile u = (.ok later.val, u)) ∧
    ∀ (u : Session) (other : Text.Literal), u.IsSettled → u.isBroken = false →
      (∀ handle found, Handle.ofLiteral? other = some handle →
        u.store.jobOf? (some handle) = some found → found.val.status.isActive = false) →
      cancel other u = (.ok false, u) := by
  refine ⟨fun hcan k hlow hhigh => ?_, ?_, fun u other => cancel_of_none⟩
  · have hhandle : row.val.handle = known := by
      have hfound := List.find?_some hjob
      rw [beq_iff_eq] at hfound
      exact Option.some.inj hfound
    obtain ⟨j, rfl⟩ := Nat.exists_eq_succ_of_ne_zero (Nat.one_le_iff_ne_zero.1 hlow)
    have hlength : ((s.store.openParcels row.val.register).take j).length = j := by
      rw [List.length_take]
      omega
    have hparcels := (List.take_append_drop j (s.store.openParcels row.val.register)).symm
    rw [List.drop_eq_getElem_cons hhigh] at hparcels
    obtain ⟨job, t, hrun, htranscript, hleft, hstatus⟩ := run_of_cancel hs hblock hjob hpending
      hprocessed hcancel hcan hapart (hvalue.trans (congrArg some hhandle.symm)) hparcels
    rw [hlength] at hrun
    rw [List.take_append_getElem hhigh] at hleft
    refine ⟨job, t, hrun, htranscript, hleft, ?_, ?_⟩
    · rw [hleft.processed, List.length_take, Nat.min_eq_left hhigh]
    · rw [hstatus]
      by_cases hmore : j + 1 < (s.store.openParcels row.val.register).length
      · rw [if_pos hmore]
        apply if_neg
        rw [List.drop_eq_nil_iff]
        omega
      · rw [if_neg hmore]
        apply if_pos
        rw [List.drop_eq_nil_iff]
        omega
  · obtain ⟨t, hrun, hsame, hover⟩ := exists_cancelled hs hblock hvalue hjob hpending
    refine ⟨t, hrun, hsame, hover, ?_⟩
    intro more hrespect u later hlater hid meanwhile
    have hagain := @run_of_cancelled s value known row hs hblock hvalue hjob hpending hapart more
      hrespect later
    rw [hrun] at hagain
    exact hagain hlater hid meanwhile

end

/-- The third parcel is not screened if the cancellation is asked for at the second. -/
theorem cancelled_before_next_pendingSession :
    let value := Text.Literal.text (Handle.ofCount 1).text
    ∃ job t, run (some (Handle.ofCount 1))
        (Service.serveInterludes [.mk 2 [.single (.cancel value)]]) pendingSession = (.ok job, t) ∧
      t.transcript = [.cancelled true] ∧ job.status = .cancelled ∧
      t.store.parcels.rows.map (·.val.checkStatus) = [130, 130, 1] ∧
      IsLeftAfter pendingSession pendingJob [1, 2] job t := by
  intro value
  obtain ⟨hs, hblock, _⟩ := Service.isSettled_serveAll (.engine .null) .none pendingRequests
  have hrespect : ∀ operation ∈ Request.operationsOfAll pendingRequests,
      operation.respectsStages = true := List.all_eq_true.1 (by rfl)
  have hapart := (Service.follows_serveAll keepsJobsApart_isCourse pendingRequests hrespect
    (Session.start (.engine .null) .none) (hasJobsApart_start (.engine .null) .none)).1
  have hvalue : Handle.ofLiteral? value = some (Handle.ofCount 1) := by decide +kernel
  have hparcels := openParcels_pendingSession
  have hlength : (pendingSession.store.openParcels 1).length = 3 := by
    rw [hparcels]
    rfl
  have hempty : pendingSession.transcript = [] := by
    rw [← List.isEmpty_iff]
    decide +kernel
  have hleft : (run (some (Handle.ofCount 1)) (Service.serveInterludes
      [.mk 2 [.single (.cancel value)]]) pendingSession).2.store.parcels.rows.map
        (·.val.checkStatus) = [130, 130, 1] := by
    decide +kernel
  obtain ⟨hasked, _⟩ :=
    cancelled_before_next hs hblock hvalue jobOf?_pendingSession rfl rfl rfl hapart
  obtain ⟨job, t, hrun, htranscript, hjobs, _, hstatus⟩ :=
    hasked canComplete_pendingSession 2 (by decide) (hlength ▸ by decide)
  change run _ _ pendingSession = _ at hrun
  change t.transcript = pendingSession.transcript ++ _ at htranscript
  change IsLeftAfter pendingSession pendingJob ((pendingSession.store.openParcels 1).take 2) job t
    at hjobs
  change job.status = if 2 < (pendingSession.store.openParcels 1).length then _ else _ at hstatus
  rw [hempty] at htranscript
  rw [hparcels] at hjobs hstatus
  have hrun' : run (some (Handle.ofCount 1)) (Service.serveInterludes
      [.mk 2 [.single (.cancel value)]]) pendingSession = (.ok job, t) := hrun
  rw [hrun'] at hleft
  exact ⟨job, t, hrun', htranscript, hstatus, hleft, hjobs⟩

end Job

end Clearance

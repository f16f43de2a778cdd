import Clearance.Proofs.Job.Consistency
import Clearance.Proofs.Job.Ending
import Clearance.Proofs.Job.Front

/-!
# A job stopped by an error

An error at a parcel stops the job there, wherever in the screening of the parcel it strikes: the
parcels before keep what screening has made of them, that parcel and those behind it are as they
were, and the job ends as failed. So it does if the rules cannot be loaded. Whatever happens
meanwhile, a job that has been run to an end is running no more.
-/

set_option autoImplicit false

namespace Clearance

open Proc
open Clearance.Screening (FindsRules contextOf)

variable {s t u : Session} {fault : Fault}

namespace Job

variable {context : Screening.Context} {id parcel : Int} {own job : Job} {done : List Int}
  {meanwhile : Meanwhile} {count : Nat} {record : Parcel}

/-! ## The parcel at which a job is stopped -/

/-- A worker that comes to a parcel whose screening fails stops there, and has changed nothing. -/
theorem visit_of_fails (hs : s.IsSettled) (hblock : s.inBlock = false) {scope : Scope}
    (hscope : own.scope = scope)
    (hcontext : contextOf scope.hasWords scope.hasCodes s = .ok context)
    (hrecord : s.store.parcels.find? parcel = some record) (hopen : record.isOpen = true)
    (hbefore : meanwhile.before (count + 1) = pure ())
    (hfails : ((meanwhile.strikes (count + 1)).screen scope none parcel s).1 = .error fault)
    (hu : u.IsSettled) (hublock : u.inBlock = false)
    (hspares : s.store.Spares parcel u.store)
    (hrules : FindsRules context scope parcel record u.store ↔
      FindsRules context scope parcel record s.store) (hgoesOn : ¬ u.store.AsksCancel id) :
    visit context meanwhile id count own parcel u =
      (.ok (.ends (.stopped own (some parcel) fault)), u) := by
  have hwhole := (hu hublock).1
  obtain ⟨t, hload, ht, _⟩ :=
    Screening.exists_loadContext scope.hasWords scope.hasCodes (hs hblock).1
  rw [hcontext] at hload
  rw [Screening.Strikes.screen_of_load (meanwhile.strikes (count + 1)) parcel
    (show Screening.contextFor scope none s = (.ok context, t) from hload)] at hfails
  have hrecord' : t.store.parcels.find? parcel = some record := by rw [ht.store, hrecord]
  have hsame : t.store.SameParcel parcel u.store := by
    rw [ht.store]
    exact ⟨hspares.record, hspares.linkedRules⟩
  rw [← ht.store] at hrules
  have hscreen : (meanwhile.strikes (count + 1)).screenWith context scope parcel u =
      (.error fault, u) :=
    Screening.Strikes.screenWith_fails_alike (ht.isSettled hs) (ht.inBlock.trans hblock) hrecord'
      (Screening.not_isMarked_of_isOpen hopen)
      (fun index hindex => Screening.nodup_of_contextOf hcontext hindex record.code) hfails hu
      hublock hsame hrules
  have hthere : u.store.parcels.has parcel = true :=
    Table.has_of_find? (hspares.record.trans hrecord)
  have hnothing : meanwhile.before (count + 1) u = (.ok (), u) := by
    rw [hbefore]
    rfl
  rw [visit_of_not_asksCancel hwhole hgoesOn, orStop_apply, hscope,
    screenNext_of_before scope hwhole hthere hnothing, hscreen]

/-- The end of a stopped job that is stored is reported and saved. -/
theorem conclude_of_stopped {stored : Job} (hs : s.IsSettled) (hblock : s.inBlock = false)
    (hstored : ⟨id, stored⟩ ∈ s.store.jobs.rows) (own : Job) (parcel : Option Int)
    (fault : Fault) :
    ∃ t, conclude id (.stopped own parcel fault) s =
        (.ok (own.ended .failed (some (own.errorOf fault)) s.clock), t) ∧
      t.store = { s.store with
        jobs := s.store.jobs.modify id
          (own.ended .failed (some (own.errorOf fault)) s.clock).withEndOf } := by
  obtain ⟨hwhole, hpending, hsound⟩ := hs hblock
  obtain ⟨events, htold⟩ := exists_tellOfFault own parcel fault s
  have htoldSettled : Session.IsSettled { s with events := events } :=
    fun _ => ⟨hwhole, hpending, hsound⟩
  rw [conclude, bind_of_ok htold]
  exact exists_complete htoldSettled hwhole hstored own .failed (some (own.errorOf fault))

/-! ## A stopped job -/

/-- How a run ends that a fault has stopped once the parcels `front` were screened. -/
structure IsStopped (s : Session) (row : Row Job) (front : List Int) (fault : Fault) (job : Job)
    (t : Session) : Prop extends IsLeftAfter s row front job t where
  failed : job.status = .failed
  explained : ∃ text, job.error = some text ∧ text ≠ ""
  timeLimit : ∀ message, fault = .raised .softTimeLimit message →
    let total := (s.store.openParcels row.val.register).length
    job.error = some s!"Time limit exceeded after {front.length}/{total} parcels"
  error : (∀ message, fault ≠ .raised .softTimeLimit message) →
    job.error = some (if fault.text = "" then fault.kind else fault.text)

theorem IsLeftAfter.isStopped {row : Row Job} {front : List Int} {last : Job} {now : Int}
    (h : IsLeftAfter s row front (last.ended .failed (some (last.errorOf fault)) now) t) :
    IsStopped s row front fault (last.ended .failed (some (last.errorOf fault)) now) t where
  toIsLeftAfter := h
  failed := rfl
  explained := ⟨last.errorOf fault, rfl, errorOf_ne_empty last fault⟩
  timeLimit := by
    rintro message rfl
    have htotal : last.total = (s.store.openParcels row.val.register).length := h.total
    have hprocessed : last.processed = front.length := h.processed
    change some last.timeUp = _
    unfold timeUp
    rw [htotal, hprocessed]
    rfl
  error := by
    intro hother
    have hreason : last.errorOf fault = fault.reason := by
      unfold errorOf
      split
      · next message => exact absurd rfl (hother message)
      · rfl
    change some (last.errorOf fault) = _
    rw [hreason]
    unfold Fault.reason
    simp only [beq_iff_eq]

section

variable {handle : Option Handle} {row : Row Job} (hs : s.IsSettled) (hblock : s.inBlock = false)
  (hjob : s.store.jobOf? handle = some row) (hpending : row.val.status = .pending)
  (hprocessed : row.val.processed = 0) (hcancel : row.val.cancelRequested = false)
  (hcount : Store.canHold (s.store.openParcels row.val.register).length = true)

include hs hblock hjob hpending hprocessed hcount

/-- A job whose rules cannot be loaded is stopped before its first parcel. -/
theorem run_of_unloaded (hload : contextOf row.val.scope.hasWords row.val.scope.hasCodes s =
      .error fault) (meanwhile : Meanwhile) :
    ∃ job u, run handle meanwhile s = (.ok job, u) ∧ IsStopped s row [] fault job u := by
  obtain ⟨t, hout, hrun⟩ := exists_setOut hs hblock hjob hpending rfl hcount meanwhile
  rw [hload] at hrun
  obtain ⟨u, hend, hstore⟩ := conclude_of_stopped hout.isSettled hout.inBlock hout.stored
    (row.val.started (s.store.openParcels row.val.register).length s.clock) none fault
  have hstart : Underway ⟨none, none⟩ row.id
      (row.val.started (s.store.openParcels row.val.register).length s.clock) [] t t :=
    ⟨rfl, (hout.isSettled hout.inBlock).2.2, .nil _ _ _, hout.stored⟩
  have hleft := hout.isLeftAfter hs hblock hprocessed (fun hne => absurd rfl hne) nofun
    (counting_zero _) rfl (fun _ => Iff.rfl) hstart .failed _ _ hstore
  exact ⟨_, u, hrun.trans hend, hleft.isStopped⟩

include hcancel

/-- A job is stopped at a parcel whose screening fails, if each parcel before can be screened. -/
theorem run_of_fails {front rest : List Int}
    (hparcels : s.store.openParcels row.val.register = front ++ parcel :: rest)
    (hcontext : contextOf row.val.scope.hasWords row.val.scope.hasCodes s = .ok context)
    (hscreens : ∀ other ∈ front, ∃ outcome t,
      Screening.screen row.val.scope none other s = (.ok outcome, t))
    (hcalm : ∀ k ≤ front.length, meanwhile.IsCalmAt k)
    (hbefore : meanwhile.before (front.length + 1) = pure ())
    (hfails : ((meanwhile.strikes (front.length + 1)).screen row.val.scope none parcel s).1 =
      .error fault) :
    ∃ job u, run handle meanwhile s = (.ok job, u) ∧ IsStopped s row front fault job u := by
  generalize hown : row.val.started (s.store.openParcels row.val.register).length s.clock = own
  obtain ⟨t, u, h⟩ := exists_comesTo hs hblock hjob hpending hprocessed hcancel hcount hcontext
    hown hparcels hscreens hcalm
  have hscope := h.setOut.scope
  have hmem : parcel ∈ s.store.openParcels row.val.register := by
    rw [hparcels]
    simp
  have hnew : parcel ∉ front.reverse := by
    rw [List.mem_reverse]
    exact not_mem_front_of_mem_rest hparcels List.mem_cons_self
  obtain ⟨record, hrecord, _, hopen⟩ := Store.mem_openParcels_iff.1 hmem
  have hscreened : Screening.AllScreened context row.val.scope front.reverse s.store u.store := by
    have hlater := h.underway.screened
    rw [show (own.counting front.length).scope = row.val.scope from hscope] at hlater
    exact .trans_sameButJobs h.setOut.store hlater
  obtain ⟨hu, hublock⟩ := h.underway.isSettled h.setOut.isSettled h.setOut.inBlock
  have hvisit := visit_of_fails hs hblock
    (show (own.counting front.length).scope = row.val.scope from hscope) hcontext hrecord hopen
    hbefore hfails hu hublock (hscreened.spared parcel hnew) (hscreened.findsRules_iff hnew)
    (h.underway.not_asksCancel h.canCount.uncancelled)
  obtain ⟨w, hend, hended⟩ := conclude_of_stopped hu hublock h.underway.stored
    (own.counting front.length) (some parcel) fault
  have hleft := h.setOut.isLeftAfter hs hblock hprocessed (fun _ => hcontext) h.finds rfl rfl
    (fun _ => List.mem_reverse) h.underway .failed _ _ hended
  refine ⟨_, w, ?_, hleft.isStopped⟩
  rw [h.run, pass, bind_apply, bind_of_ok hvisit]
  exact hend

end

/-! ## A job that has been run is over -/

/-- Whether no job under an id is in flight. -/
def IsOver (id : Int) (store : Store) : Prop :=
  ∀ row ∈ store.jobs.rows, row.id = id → row.val.status.isActive = false

theorem isOver_of_complete {status : JobStatus} {error : Option String}
    (hover : status.isActive = false) (h : complete id own status error s = (.ok job, t)) :
    IsOver id t.store := by
  rintro ⟨_, val⟩ hrow rfl
  rcases complete_cases _ own status error s with ⟨fault, u, hrun, _⟩ | ⟨u, hrun, hstore⟩
  · rw [hrun] at h
    cases h
  · rw [hrun] at h
    cases h
    rw [hstore] at hrow
    obtain ⟨old, _, rfl⟩ := Table.exists_of_mem_modify_self hrow
    exact hover

/-- Whatever is done meanwhile, a pending job that has been run to an end is in flight no more. -/
theorem isOver_of_run {handle : Option Handle} {row : Row Job}
    (hjob : s.store.jobOf? handle = some row) (hpending : row.val.status = .pending)
    (h : run handle meanwhile s = (.ok job, t)) : IsOver row.id t.store := by
  obtain ⟨last, status, error, u, hover, _, hend⟩ := hasEnded_of_run hjob hpending h
  exact isOver_of_complete hover hend

/-! ## The end of a job that an error stops -/

section

variable {handle : Option Handle} {row : Row Job} (hs : s.IsSettled) (hblock : s.inBlock = false)
  (hjob : s.store.jobOf? handle = some row) (hpending : row.val.status = .pending)
  (hprocessed : row.val.processed = 0) (hcancel : row.val.cancelRequested = false)
  (hcount : Store.canHold (s.store.openParcels row.val.register).length = true)

include hs hblock hjob hpending hprocessed hcancel hcount

/-- If screening a parcel of a pending job fails, be it that an error strikes between two of its
statements, and nothing else happens until then, the parcels before keep what screening has made of
them, that parcel and those behind it are as they were, and the job ends as failed with what it has
counted and with an error that says why. If the rules cannot be loaded the job ends so before its
first parcel. However a pending job is run to an end, it is not running then. -/
theorem stopped_by_error :
    (∀ (front : List Int) (parcel : Int) (rest : List Int) (fault : Fault)
      (meanwhile : Meanwhile),
      s.store.openParcels row.val.register = front ++ parcel :: rest →
      (∃ context t, Screening.loadContext row.val.scope.hasWords row.val.scope.hasCodes s =
        (.ok context, t)) →
      (∀ other ∈ front, ∃ outcome t,
        Screening.screen row.val.scope none other s = (.ok outcome, t)) →
      (∀ k ≤ front.length, meanwhile.IsCalmAt k) →
      meanwhile.before (front.length + 1) = pure () →
      ((meanwhile.strikes (front.length + 1)).screen row.val.scope none parcel s).1 =
        .error fault →
      ∃ job t, run handle meanwhile s = (.ok job, t) ∧ IsStopped s row front fault job t ∧
        ∀ other ∈ parcel :: rest, s.store.Spares other t.store) ∧
    (∀ (fault : Fault) (t : Session) (meanwhile : Meanwhile),
      Screening.loadContext row.val.scope.hasWords row.val.scope.hasCodes s = (.error fault, t) →
      ∃ job u, run handle meanwhile s = (.ok job, u) ∧ IsStopped s row [] fault job u) ∧
    ∀ (u v : Session) (other : Option Handle) (next : Row Job) (meanwhile : Meanwhile)
      (job : Job), u.store.jobOf? other = some next → next.val.status = .pending →
      run other meanwhile u = (.ok job, v) →
      ∀ found ∈ v.store.jobs.rows, found.id = next.id → found.val.status ≠ .running := by
  have hwhole := (hs hblock).1
  refine ⟨?_, ?_, ?_⟩
  · rintro front parcel rest fault meanwhile hparcels ⟨context, t, hload⟩ hscreens hcalm hbefore
      hfails
    have hcontext := Screening.contextOf_of_load hload hwhole
    obtain ⟨job, u, hrun, hstopped⟩ := run_of_fails hs hblock hjob hpending hprocessed hcancel
      hcount hparcels hcontext hscreens hcalm hbefore hfails
    exact ⟨job, u, hrun, hstopped, fun other hother =>
      hstopped.others other (not_mem_front_of_mem_rest hparcels hother)⟩
  · intro fault t meanwhile hload
    obtain ⟨u, hloaded, _⟩ := Screening.exists_loadContext row.val.scope.hasWords
      row.val.scope.hasCodes hwhole
    rw [hload] at hloaded
    obtain ⟨hcontext, _⟩ := Prod.mk.inj hloaded
    exact run_of_unloaded hs hblock hjob hpending hprocessed hcount hcontext.symm meanwhile
  · intro u v other next meanwhile job hnext hstatus hrun found hfound hid hrunning
    have hover := isOver_of_run hnext hstatus hrun found hfound hid
    rw [hrunning] at hover
    cases hover

end

/-- A session like `pendingSession` in which the second parcel is linked to a keyword that does not
match it. -/
def penLinkedSession : Session :=
  (Service.serveAll (pendingRequests ++ [.single (.addKeyWord ⟨"pen", 11⟩ []),
    .single (.link 2 ⟨.keyWord, 1⟩)]) (Session.start (.engine .null) .none)).2

/-- The time is up in the second parcel, when it has been linked to the stop word and the link to
the keyword has been erased. -/
def timeUpInSecond : Meanwhile where
  before _ := pure ()
  strikes k := if k = 2 then Screening.timeUpAt (.links .codePrefix) else .calm

/-- The first parcel is linked to the stop word. The second is not, and has its keyword again. -/
theorem stopped_by_error_penLinkedSession :
    penLinkedSession.store.linkedRules .keyWord 2 = [1] ∧
    ∃ job t, run (some (Handle.ofCount 1)) timeUpInSecond penLinkedSession = (.ok job, t) ∧
      job.status = .failed ∧ job.error = some "Time limit exceeded after 1/3 parcels" ∧
      t.store.parcels.rows.map (·.val.checkStatus) = [130, 1, 1] ∧
      [1, 2, 3].map (t.store.linkedRules .stopWord) = [[1], [], []] ∧
      t.store.linkedRules .keyWord 2 = [1] ∧
      IsStopped penLinkedSession pendingJob [1] (.raised .softTimeLimit none) job t := by
  obtain ⟨hs, hblock, _⟩ := Service.isSettled_serveAll (.engine .null) .none
    (pendingRequests ++ [.single (.addKeyWord ⟨"pen", 11⟩ []), .single (.link 2 ⟨.keyWord, 1⟩)])
  have hrows : penLinkedSession.store.jobs.rows = [pendingJob] := by decide +kernel
  have hjob : penLinkedSession.store.jobOf? (some (Handle.ofCount 1)) = some pendingJob := by
    unfold Store.jobOf?
    rw [hrows]
    decide
  have hparcels : penLinkedSession.store.openParcels 1 = [1, 2, 3] := by decide +kernel
  have hcounts : Store.canHold (penLinkedSession.store.openParcels 1).length = true := by
    rw [hparcels]
    decide
  have hloads : ∃ context t,
      Screening.loadContext true true penLinkedSession = (.ok context, t) := by
    apply exists_ok
    decide +kernel
  have hfront : ∀ parcel ∈ [1], ∃ outcome t,
      Screening.screen .full none parcel penLinkedSession = (.ok outcome, t) := by
    rintro parcel hparcel
    obtain rfl := List.mem_singleton.1 hparcel
    apply exists_ok
    decide +kernel
  have hcalm : ∀ k ≤ 1, timeUpInSecond.IsCalmAt k := by
    intro k hk
    refine ⟨rfl, if_neg ?_⟩
    omega
  have hfails : ((timeUpInSecond.strikes 2).screen .full none 2 penLinkedSession).1 =
      .error (.raised .softTimeLimit none) := by
    decide +kernel
  have hleft : let left := (run (some (Handle.ofCount 1)) timeUpInSecond penLinkedSession).2.store
      left.parcels.rows.map (·.val.checkStatus) = [130, 1, 1] ∧
        [1, 2, 3].map (left.linkedRules .stopWord) = [[1], [], []] ∧
        left.linkedRules .keyWord 2 = [1] := by
    decide +kernel
  obtain ⟨hstopped, _⟩ := stopped_by_error hs hblock hjob rfl rfl rfl hcounts
  obtain ⟨job, t, hrun, hjobs, _⟩ := hstopped [1] 2 [3] (.raised .softTimeLimit none)
    timeUpInSecond hparcels hloads hfront hcalm rfl hfails
  have herror : job.error = some
      s!"Time limit exceeded after {1}/{(penLinkedSession.store.openParcels 1).length} parcels" :=
    hjobs.timeLimit none rfl
  rw [hparcels] at herror
  change run _ _ penLinkedSession = _ at hrun
  rw [hrun] at hleft
  exact ⟨by decide +kernel, job, t, hrun, hjobs.failed, herror, hleft.1, hleft.2.1,
    hleft.2.2, hjobs⟩

end Job

end Clearance

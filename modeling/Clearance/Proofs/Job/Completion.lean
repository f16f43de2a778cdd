import Clearance.Proofs.Job.Progression
import Clearance.Proofs.Service.Settled

/-!
# A job that is completed

Where nothing else is done meanwhile, a pending job is completed just if its parcels can be counted,
its rules be loaded and each of its parcels be screened alone. It leaves the parcels of the register
that are open as screening each of them alone would have left them.
-/

set_option autoImplicit false

namespace Clearance

open Proc
open Clearance.Screening (AllScreened FindsRules contextOf)

/-- A settled session that follows on another one without more than jobs having been changed. Time
may have passed. -/
structure Session.Resumes (s t : Session) : Prop where
  isSettled : t.IsSettled
  inBlock : t.inBlock = false
  store : s.store.SameButJobs t.store
  compiled : t.compiled = s.compiled
  generations : t.generations = s.generations
  backend : t.backend = s.backend

variable {s t : Session} {context : Screening.Context} {words codes : Bool}

/-- The context is the same if no time has passed or no counter is missing. -/
theorem Session.Resumes.contextOf (h : s.Resumes t)
    (hsame : t.clock = s.clock ∨ (words = true → ∀ vocabulary, s.HasCounter vocabulary)) :
    contextOf words codes t = contextOf words codes s := by
  have hrules := h.store.sameRules
  refine Screening.contextOf_congr (fun hwords vocabulary => ?_) h.backend hrules.prefixRules
  rcases hsame with hclock | hcounters
  · refine Session.matcherOf_congr (by rw [h.compiled]) ?_ (hrules.rules vocabulary)
    unfold Session.generation Session.seed
    rw [h.generations, hclock]
  · exact Session.matcherOf_of_counter (hcounters hwords vocabulary) h.compiled h.generations
      (hrules.rules vocabulary)

namespace Job

variable {scope : Scope} {parcels : List Int}

theorem findsAllRules_iff {before after : Store} (h : Store.SameButJobs before after) :
    FindsAllRules context scope parcels after ↔ FindsAllRules context scope parcels before := by
  have hnone := (AllScreened.nil context scope before).of_sameButJobs h
  unfold FindsAllRules
  simp only [fun parcel => (h.spares parcel).record, fun parcel record =>
    @AllScreened.findsRules_iff context scope parcel record before after [] hnone List.not_mem_nil]

/-- What is left by a worker that has come through the parcels of a job: those that were open are
screened, and the context is still the one with which that was done. -/
structure IsThrough (context : Screening.Context) (s : Session) (id : Int) (own : Job)
    (parcels : List Int) (t : Session) : Prop where
  isSettled : t.IsSettled
  inBlock : t.inBlock = false
  screened : AllScreened context own.scope parcels s.store t.store
  stored : ⟨id, own⟩ ∈ t.store.jobs.rows
  context : contextOf own.scope.hasWords own.scope.hasCodes t = .ok context
  counters : own.scope.hasWords = true → ∀ vocabulary, t.HasCounter vocabulary

variable {u : Session} {id : Int} {own last : Job}

theorem IsThrough.resumes (h : IsThrough context s id own parcels t) (ht : t.Resumes u)
    (hstored : ⟨id, last⟩ ∈ u.store.jobs.rows) (hscope : last.scope = own.scope) :
    IsThrough context s id last parcels u where
  isSettled := ht.isSettled
  inBlock := ht.inBlock
  screened := by
    rw [hscope]
    exact h.screened.of_sameButJobs ht.store
  stored := hstored
  context := by
    rw [hscope, ht.contextOf (.inr h.counters)]
    exact h.context
  counters := by
    rw [hscope]
    unfold Session.HasCounter
    rw [ht.generations]
    exact h.counters

theorem isThrough_of_underway {loaded : Session} (h : s.Resumes u) (hclock : u.clock = s.clock)
    (hcontext : contextOf own.scope.hasWords own.scope.hasCodes s = .ok context)
    (hload : u.Recompiles loaded)
    (hcounters : own.scope.hasWords = true → ∀ vocabulary, loaded.HasCounter vocabulary)
    (ht : Underway context id own parcels loaded t) : IsThrough context s id own parcels t := by
  have hloaded := hload.isSettled h.isSettled
  have hblock := hload.inBlock.trans h.inBlock
  have hrules := ht.screened.rules
  have hsession := ht.session
  have hsame : contextOf own.scope.hasWords own.scope.hasCodes t =
      contextOf own.scope.hasWords own.scope.hasCodes loaded := by
    refine Screening.contextOf_congr (fun _ vocabulary => ?_) (by rw [hsession]) hrules.prefixRules
    refine Session.matcherOf_congr ?_ ?_ (hrules.rules vocabulary)
    · rw [hsession]
    · rw [hsession]
      rfl
  have hsame' : contextOf own.scope.hasWords own.scope.hasCodes loaded =
      contextOf own.scope.hasWords own.scope.hasCodes u :=
    Screening.contextOf_congr (fun _ => hload.matchers) hload.backend (by rw [hload.store])
  refine ⟨(ht.isSettled hloaded hblock).1, (ht.isSettled hloaded hblock).2, ?_, ht.stored, ?_, ?_⟩
  · have hscreened := ht.screened
    rw [hload.store] at hscreened
    exact .trans_sameButJobs h.store hscreened
  · rw [hsame, hsame', h.contextOf (.inl hclock), hcontext]
  · rw [hsession]
    exact hcounters

/-- What comes of the work on a job that has been taken follows from the session before. -/
theorem work_of_resumes (h : s.Resumes u) (hclock : u.clock = s.clock)
    (hstored : ⟨id, own⟩ ∈ u.store.jobs.rows) (hcan : CanCount own parcels u) :
    (∃ context, contextOf own.scope.hasWords own.scope.hasCodes s = .ok context ∧
      FindsAllRules context own.scope parcels s.store ∧ ∃ t,
        work .nothing ⟨id, own⟩ parcels u =
          (.ok (.through (own.counting parcels.length)), t) ∧
        IsThrough context s id (own.counting parcels.length) parcels t) ∨
    (∀ context, contextOf own.scope.hasWords own.scope.hasCodes s = .ok context →
      ¬ FindsAllRules context own.scope parcels s.store) ∧ ∃ last parcel fault t,
        work .nothing ⟨id, own⟩ parcels u = (.ok (.stopped last parcel fault), t) := by
  have hcases := work_cases h.isSettled h.inBlock hstored hcan
  dsimp only at hcases
  rw [h.contextOf (.inl hclock)] at hcases
  simp only [findsAllRules_iff h.store] at hcases
  rcases hcases with ⟨context, hcontext, hall, loaded, t, hwork, hload, hcounters, ht⟩ | hstopped
  · exact .inl ⟨context, hcontext, hall, t, hwork,
      isThrough_of_underway h hclock hcontext hload hcounters ht⟩
  · exact .inr hstopped

/-- The job of a worker that is through is completed. -/
theorem IsThrough.exists_complete (h : IsThrough context s id own parcels t) :
    ∃ job u, conclude id (.through own) t = (.ok job, u) ∧
      job = own.ended .completed none t.clock ∧ IsThrough context s id job parcels u := by
  obtain ⟨hwhole, hpending, hsound⟩ := h.isSettled h.inBlock
  have hrun := complete_of_mem h.isSettled hwhole h.stored own .completed none
  refine ⟨_, _, hrun, rfl, h.resumes ⟨fun _ => ⟨hwhole, hpending, ?_⟩, h.inBlock, ⟨_, rfl⟩, rfl,
    rfl, rfl⟩ ?_ rfl⟩
  · exact isSound_modify hsound fun _ => rfl
  · exact Table.mem_modify_self h.stored (own.ended .completed none t.clock).withEndOf

section

variable {handle : Option Handle} {row : Row Job} (hs : s.IsSettled) (hblock : s.inBlock = false)
  (hjob : s.store.jobOf? handle = some row) (hpending : row.val.status = .pending)

include hs hblock hjob hpending

/-- A pending job is taken if its parcels can be counted. -/
theorem exists_claim {own : Job}
    (hown : row.val.started (s.store.openParcels row.val.register).length s.clock = own)
    (hcount : Store.canHold own.total = true) :
    ∃ t, claim handle s =
        (.ok (⟨row.id, own⟩, some (s.store.openParcels row.val.register)), t) ∧
      s.Resumes t ∧ t.clock = s.clock ∧ ⟨row.id, own⟩ ∈ t.store.jobs.rows := by
  obtain ⟨hwhole, hnone, hsound⟩ := hs hblock
  have hclaim := claim_of_canHold hs hblock hjob hpending hown hcount
  have hafter := @isSound_modify s.store row.id own.withStartOf hsound fun _ => rfl
  refine ⟨_, hclaim, ⟨fun _ => ⟨hwhole, hnone, hafter⟩, hblock, ⟨_, rfl⟩, rfl, rfl, rfl⟩, rfl, ?_⟩
  have hstored := Table.mem_modify_self (Store.mem_of_jobOf? hjob) own.withStartOf
  have hsame : own.withStartOf row.val = own := by
    rw [← hown]
    rfl
  rwa [hsame] at hstored

end

/-- Open parcels can be counted in any order by a worker that has just taken a job. -/
theorem canCount_of_perm {register : Int} (h : Store.SameButJobs s.store t.store)
    (hparcels : parcels.Perm (s.store.openParcels register)) (hprocessed : own.processed = 0)
    (hcount : Store.canHold (s.store.openParcels register).length = true)
    (hcancel : own.cancelRequested = false) : CanCount own parcels t where
  stored := by
    intro parcel hparcel
    obtain ⟨record, hrecord, _, hopen⟩ := Store.mem_openParcels_iff.1 (hparcels.mem_iff.1 hparcel)
    exact ⟨record, (h.spares parcel).record.trans hrecord, hopen⟩
  nodup := hparcels.nodup_iff.2 (s.store.nodup_openParcels register)
  processed := Int.le_of_eq hprocessed.symm
  counts := by
    rw [hprocessed, Int.zero_add, hparcels.length_eq]
    exact hcount
  uncancelled := hcancel

/-- The rules that are found for open parcels exist if each of these can be screened alone. -/
theorem findsAllRules_of_screens (hs : s.IsSettled) (hblock : s.inBlock = false) {register : Int}
    (hcontext : contextOf scope.hasWords scope.hasCodes s = .ok context)
    (hopen : ∀ parcel ∈ parcels, parcel ∈ s.store.openParcels register)
    (hscreens : ∀ parcel ∈ parcels, ∃ outcome t,
      Screening.screen scope none parcel s = (.ok outcome, t)) :
    FindsAllRules context scope parcels s.store := by
  intro parcel hparcel record hrecord
  obtain ⟨found, hfound, _, hopen⟩ := Store.mem_openParcels_iff.1 (hopen parcel hparcel)
  obtain rfl := Option.some.inj (hfound.symm.trans hrecord)
  obtain ⟨outcome, t, hscreen⟩ := hscreens parcel hparcel
  rcases Screening.screen_alone_cases hs hblock hrecord
      (Screening.not_isMarked_of_isOpen hopen) scope with
    ⟨other, _, _, _, hother, hfinds, _⟩ | ⟨⟨fault, u, hfails⟩, _⟩
  · rw [hcontext] at hother
    cases hother
    exact hfinds
  · rw [hfails] at hscreen
    cases hscreen

/-- Whether nothing stands in the way of a job: its parcels can be counted, the rules can be loaded,
and each parcel can be screened alone. -/
structure CanComplete (s : Session) (register : Int) (scope : Scope) : Prop where
  counts : Store.canHold (s.store.openParcels register).length = true
  loads : ∃ context t, Screening.loadContext scope.hasWords scope.hasCodes s = (.ok context, t)
  screens : ∀ parcel ∈ s.store.openParcels register, ∃ outcome t,
    Screening.screen scope none parcel s = (.ok outcome, t)

theorem canComplete_iff (hs : s.IsSettled) (hblock : s.inBlock = false) {register : Int} :
    CanComplete s register scope ↔ Store.canHold (s.store.openParcels register).length = true ∧
      ∃ context, contextOf scope.hasWords scope.hasCodes s = .ok context ∧
        FindsAllRules context scope (s.store.openParcels register) s.store := by
  have hwhole := (hs hblock).1
  constructor
  · rintro ⟨hcounts, ⟨context, t, hloads⟩, hscreens⟩
    have hcontext := Screening.contextOf_of_load hloads hwhole
    exact ⟨hcounts, context, hcontext,
      findsAllRules_of_screens hs hblock hcontext (fun _ hparcel => hparcel) hscreens⟩
  · rintro ⟨hcounts, context, hcontext, hall⟩
    obtain ⟨u, hload, _⟩ := Screening.exists_loadContext scope.hasWords scope.hasCodes hwhole
    rw [hcontext] at hload
    refine ⟨hcounts, ⟨context, u, hload⟩, fun parcel hparcel => ?_⟩
    obtain ⟨record, hrecord, _, hopen⟩ := Store.mem_openParcels_iff.1 hparcel
    rcases Screening.screen_alone_cases hs hblock hrecord
        (Screening.not_isMarked_of_isOpen hopen) scope with
      ⟨_, outcome, v, hscreen, _⟩ | ⟨_, hnone⟩
    · exact ⟨outcome, v, hscreen⟩
    · exact absurd (hall parcel hparcel record hrecord) (hnone context hcontext)

/-- What a job that is completed leaves, compared with the session before. -/
structure IsAsAlone (handle : Option Handle) (s : Session) (row : Row Job) (job : Job)
    (t : Session) : Prop where
  total : job.total = (s.store.openParcels row.val.register).length
  processed : job.processed = job.total
  stored : ⟨row.id, job⟩ ∈ t.store.jobs.rows
  /-- Each parcel that was open is as screening it alone leaves it. -/
  alone : ∀ parcel ∈ s.store.openParcels row.val.register, ∃ outcome u,
    Screening.screen row.val.scope none parcel s = (.ok outcome, u) ∧
    t.store.parcels.find? parcel = u.store.parcels.find? parcel ∧
    ∀ kind, t.store.linkedRules kind parcel = u.store.linkedRules kind parcel
  /-- Every other parcel is as it was. -/
  others : ∀ parcel, parcel ∉ s.store.openParcels row.val.register → s.store.Spares parcel t.store
  /-- In any other order the worker comes to the same verdicts. -/
  anyOrder : ∃ own u, claim handle s =
      (.ok (own, some (s.store.openParcels row.val.register)), u) ∧
    ∀ parcels : List Int, parcels.Perm (s.store.openParcels row.val.register) → ∃ last v,
      work .nothing own parcels u = (.ok (.through last), v) ∧
      t.store.SameVerdicts v.store
  openParcels : ∀ register, t.store.openParcels register = s.store.openParcels register
  /-- A job of the same kind for the same register that is run later changes no verdict. -/
  again : ∀ (u : Session) (other : Option Handle) (next : Row Job), t.Resumes u →
    u.store.jobOf? other = some next → next.val.register = row.val.register →
    next.val.scope = row.val.scope →
    t.store.SameVerdicts (run other .nothing u).2.store

/-- A job that is run once more finds the same parcels and the same rules. -/
theorem IsThrough.run_again {register : Int} {job : Job}
    (h : IsThrough context s id job (s.store.openParcels register) t) (hu : t.Resumes u)
    {other : Option Handle} {next : Row Job} (hnext : u.store.jobOf? other = some next)
    (hregister : next.val.register = register) (hscope : next.val.scope = job.scope) :
    t.store.SameVerdicts (run other .nothing u).2.store := by
  have hparcels : u.store.openParcels next.val.register = s.store.openParcels register := by
    obtain ⟨jobs, hjobs⟩ := hu.store
    rw [hregister, ← h.screened.openParcels register, hjobs]
    rfl
  have hjobs : ∀ a b, Store.SameButJobs a b → t.store.KeepsVerdictsOf a b := fun _ _ hsame =>
    (Store.sameVerdicts_of_spares hsame.spares).keeps
  have hkeeps : KeepsAt t.store.KeepsVerdictsOf u (run other .nothing) := by
    refine keepsAt_run hjobs (fun _ v => keepsAt_pure _) other ?_
    intro row parcels v w found x hclaim htold hload parcel hparcel y
    by_cases hpending : next.val.status = .pending
    · by_cases hcount : Store.canHold (next.val.started
          (u.store.openParcels next.val.register).length u.clock).total = true
      · obtain ⟨v', hclaim', hv, hclock, _⟩ :=
          exists_claim hu.isSettled hu.inBlock hnext hpending rfl hcount
        rw [hclaim] at hclaim'
        cases hclaim'
        obtain ⟨events, htold'⟩ := exists_tellOfStart _ v
        rw [htold'] at htold
        cases htold
        -- What the second worker loads is the context of the first one.
        have hcontext : contextOf job.scope.hasWords job.scope.hasCodes v = .ok context := by
          rw [hv.contextOf (.inl hclock), hu.contextOf (.inr h.counters)]
          exact h.context
        have hfound := Screening.contextOf_of_load hload (hv.isSettled hv.inBlock).1
        change contextOf next.val.scope.hasWords next.val.scope.hasCodes v = .ok found at hfound
        rw [hscope, hcontext] at hfound
        cases hfound
        rw [hparcels] at hparcel
        have hkept := h.screened.keepsAt_screenWith (s := y) hparcel
        rw [← hscope] at hkept
        exact hkept
      · have hrefused := claim_of_not_canHold hu.isSettled hu.inBlock hnext hpending rfl
          (Bool.eq_false_iff.2 hcount)
        rw [hrefused] at hclaim
        cases hclaim
    · have hleft := claim_of_ne_pending hu.isSettled hu.inBlock hnext hpending
      rw [hleft] at hclaim
      cases hclaim
  exact hkeeps (trans_of Store.SameVerdicts (refl_of Store.SameVerdicts t.store)
    (Store.sameVerdicts_of_spares hu.store.spares))

/-- Each parcel of a job is left as it is when it alone is screened in the session before. -/
theorem IsThrough.alone {job : Job} (h : IsThrough context s id job parcels t) (hs : s.IsSettled)
    (hblock : s.inBlock = false)
    (hcontext : contextOf job.scope.hasWords job.scope.hasCodes s = .ok context)
    (hall : FindsAllRules context job.scope parcels s.store) {parcel : Int}
    (hparcel : parcel ∈ parcels) :
    ∃ outcome u, Screening.screen job.scope none parcel s = (.ok outcome, u) ∧
      t.store.parcels.find? parcel = u.store.parcels.find? parcel ∧
      ∀ kind, t.store.linkedRules kind parcel = u.store.linkedRules kind parcel :=
  h.screened.alone hs hblock hcontext (fun record hrecord => hall parcel hparcel record hrecord)
    hparcel

section

variable {handle : Option Handle} {row : Row Job} (hs : s.IsSettled) (hblock : s.inBlock = false)
  (hjob : s.store.jobOf? handle = some row) (hpending : row.val.status = .pending)
  (hprocessed : row.val.processed = 0) (hcancel : row.val.cancelRequested = false)

include hs hblock hjob hpending hprocessed hcancel

/-- A job that can be completed is, and its worker has come through all its parcels. A job that
cannot be completed is not. -/
theorem run_cases :
    (CanComplete s row.val.register row.val.scope ∧ ∃ context job t,
      run handle .nothing s = (.ok job, t) ∧
      contextOf row.val.scope.hasWords row.val.scope.hasCodes s = .ok context ∧
      IsThrough context s row.id job (s.store.openParcels row.val.register) t ∧
      job.status = .completed ∧ job.scope = row.val.scope ∧
      job.total = (s.store.openParcels row.val.register).length ∧ job.processed = job.total) ∨
    ¬ CanComplete s row.val.register row.val.scope ∧ ∀ job t,
      run handle .nothing s = (.ok job, t) → job.status ≠ .completed := by
  rw [canComplete_iff hs hblock]
  generalize hown : row.val.started (s.store.openParcels row.val.register).length s.clock = own
  have htotal : own.total = (s.store.openParcels row.val.register).length := by
    rw [← hown]
    rfl
  have hscope : own.scope = row.val.scope := by
    rw [← hown]
    rfl
  have hzero : own.processed = 0 := by
    rw [← hown]
    exact hprocessed
  by_cases hcount : Store.canHold own.total = true
  · obtain ⟨u, hclaim, hu, hclock, hstored⟩ := exists_claim hs hblock hjob hpending hown hcount
    obtain ⟨events, htold⟩ := exists_tellOfStart own u
    have hreported : s.Resumes { u with events := events } := { hu with }
    have hcan : CanCount own (s.store.openParcels row.val.register)
        { u with events := events } := by
      refine canCount_of_perm hreported.store (.refl _) hzero (htotal ▸ hcount) ?_
      rw [← hown]
      exact hcancel
    have hrun : run handle .nothing s =
        (work .nothing ⟨row.id, own⟩ (s.store.openParcels row.val.register) >>=
          conclude row.id) { u with events := events } := by
      unfold run
      rw [bind_of_ok hclaim]
      exact bind_of_ok htold
    rw [hrun, ← htotal, ← hscope]
    rcases work_of_resumes hreported hclock hstored hcan with
      ⟨context, hcontext, hall, t, hwork, ht⟩ | ⟨hnot, last, parcel, fault, t, hwork⟩
    · obtain ⟨job, v, hend, hended, hv⟩ := ht.exists_complete
      refine .inl ⟨⟨hcount, context, hcontext, hall⟩, context, job, v, ?_, hcontext, hv, ?_⟩
      · rw [bind_of_ok hwork, hend]
      · subst hended
        refine ⟨rfl, rfl, rfl, ?_⟩
        change own.processed + _ = own.total
        rw [hzero, Int.zero_add, htotal]
    · refine .inr ⟨fun ⟨_, context, hcontext, hall⟩ => hnot context hcontext hall, ?_⟩
      intro job v hend
      rw [bind_of_ok hwork] at hend
      rw [status_of_stopped hend]
      decide
  · have hrefused := claim_of_not_canHold hs hblock hjob hpending hown (Bool.eq_false_iff.2 hcount)
    refine .inr ⟨fun ⟨hcounts, _⟩ => hcount (htotal ▸ hcounts), fun job t hrun => ?_⟩
    unfold run at hrun
    rw [bind_of_error hrefused] at hrun
    cases hrun

/-- The worker comes through the parcels of the job in any order, always to the same verdicts. -/
theorem anyOrder_of_isThrough {job : Job} (hcan : CanComplete s row.val.register row.val.scope)
    (hcontext : contextOf row.val.scope.hasWords row.val.scope.hasCodes s = .ok context)
    (hscope : job.scope = row.val.scope)
    (ht : IsThrough context s row.id job (s.store.openParcels row.val.register) t) :
    ∃ own u, claim handle s = (.ok (own, some (s.store.openParcels row.val.register)), u) ∧
      ∀ parcels : List Int, parcels.Perm (s.store.openParcels row.val.register) → ∃ last v,
        work .nothing own parcels u = (.ok (.through last), v) ∧
        t.store.SameVerdicts v.store := by
  obtain ⟨hcounts, found, hfound, hall⟩ := (canComplete_iff hs hblock).1 hcan
  rw [hcontext] at hfound
  cases hfound
  obtain ⟨u, hclaim, hu, hclock, hstored⟩ := exists_claim hs hblock hjob hpending rfl hcounts
  refine ⟨_, u, hclaim, fun parcels hperm => ?_⟩
  have hcount : CanCount (row.val.started (s.store.openParcels row.val.register).length s.clock)
      parcels u := canCount_of_perm hu.store hperm hprocessed hcounts hcancel
  rcases work_of_resumes hu hclock hstored hcount with
    ⟨other, hother, _, v, hwork, hv⟩ | ⟨hnot, _⟩
  · obtain rfl := Except.ok.inj (hother.symm.trans hcontext)
    refine ⟨_, v, hwork, ?_⟩
    have hscreened := ht.screened.congr fun _ => hperm.mem_iff
    rw [hscope] at hscreened
    exact hscreened.sameVerdicts hv.screened
  · exact absurd (fun parcel hparcel => hall parcel (hperm.mem_iff.1 hparcel)) (hnot context hcontext)

/-- A pending job that is run, with nothing done meanwhile, is completed just if its parcels can be
counted, the rules be loaded and each parcel be screened alone. A job that is completed has
processed all its parcels, and each of them is as screening it alone leaves it; the other parcels
are as they were, and the same parcels are open. The order of the parcels does not matter, and to
run a job of the kind once more changes no check status and no link. -/
theorem completed_as_alone :
    (CanComplete s row.val.register row.val.scope ↔ ∃ job t,
      run handle .nothing s = (.ok job, t) ∧ job.status = .completed) ∧
    ∀ job t, run handle .nothing s = (.ok job, t) → job.status = .completed →
      IsAsAlone handle s row job t := by
  rcases run_cases hs hblock hjob hpending hprocessed hcancel with
    ⟨hcan, context, job, t, hrun, hcontext, ht, hstatus, hscope, htotal, hprocessed'⟩ | ⟨hnot, hnone⟩
  · refine ⟨iff_of_true hcan ⟨job, t, hrun, hstatus⟩, fun other u hother _ => ?_⟩
    rw [hrun] at hother
    cases hother
    obtain ⟨_, found, hfound, hall⟩ := (canComplete_iff hs hblock).1 hcan
    obtain rfl := Except.ok.inj (hcontext.symm.trans hfound)
    have horder := anyOrder_of_isThrough hs hblock hjob hpending hprocessed hcancel hcan hcontext
      hscope ht
    refine ⟨htotal, hprocessed', ht.stored, fun parcel hparcel => ?_, ht.screened.spared, horder,
      ht.screened.openParcels, fun v another next hv hnext hregister hkind => ?_⟩
    · rw [← hscope] at hcontext hall ⊢
      exact ht.alone hs hblock hcontext hall hparcel
    · exact ht.run_again hv hnext hregister (hkind.trans hscope.symm)
  · exact ⟨iff_of_false hnot fun ⟨job, t, hrun, hstatus⟩ => hnone job t hrun hstatus,
      fun job t hrun hstatus => absurd hstatus (hnone job t hrun)⟩

end

/-- A register with a parcel that a stop word matches, one that has been approved, one that the
partner has marked and one without a code, and a job that is pending. -/
def sweepRequests : List Request :=
  let draft := { Store.ParcelEdit.nothing with code := some (some "2222222222") }
  [.single (.addRegister ⟨"imported", Parcel.ozon⟩), .single (.addStopWord ⟨"gun", 11⟩),
    .single (.addParcels 1 [{ draft with product := some (some "gun") },
      { draft with product := some (some "gun"), checkStatus := some 301 },
      { draft with checkStatus := some 200 }, .nothing] 1),
    .single (.start 1 (.text "full") false)]

/-- The two open parcels are decided, and the others are left as they are. -/
theorem completed_as_alone_sweepRequests :
    let s := (Service.serveAll sweepRequests (Session.start (.engine .null) .none)).2
    ∃ row job t, run (some row.val.handle) .nothing s = (.ok job, t) ∧
      job.status = .completed ∧ job.total = 2 ∧
      t.store.parcels.rows.map (·.val.checkStatus) = [130, 301, 200, 136] ∧
      IsAsAlone (some row.val.handle) s row job t := by
  intro s
  obtain ⟨hs, hblock, _⟩ := Service.isSettled_serveAll (.engine .null) .none sweepRequests
  have hrow : s.store.jobs.rows = [⟨1, fresh (Handle.ofCount 1) 1 .full 0⟩] := by
    decide +kernel
  have hjob : s.store.jobOf? (some (Handle.ofCount 1)) =
      some ⟨1, fresh (Handle.ofCount 1) 1 .full 0⟩ := by
    unfold Store.jobOf?
    rw [hrow]
    decide
  have hrun : ((run (some (Handle.ofCount 1)) .nothing s).1.toOption.map fun job =>
      (job.status, job.total)) = some (.completed, 2) := by
    decide +kernel
  have hparcels : (run (some (Handle.ofCount 1)) .nothing s).2.store.parcels.rows.map
      (·.val.checkStatus) = [130, 301, 200, 136] := by
    decide +kernel
  obtain ⟨_, hall⟩ := completed_as_alone hs hblock hjob rfl rfl rfl
  refine ⟨⟨1, fresh (Handle.ofCount 1) 1 .full 0⟩, ?_⟩
  change ∃ job t, run (some (Handle.ofCount 1)) .nothing s = (.ok job, t) ∧ _
  cases hresult : run (some (Handle.ofCount 1)) .nothing s with
  | mk result t =>
    rw [hresult] at hrun hparcels
    cases result with
    | error fault => cases hrun
    | ok job =>
      obtain ⟨hstatus, htotal⟩ := Prod.mk.inj (Option.some.inj hrun)
      exact ⟨job, t, rfl, hstatus, htotal, hparcels, hall job t hresult hstatus⟩

end Job

end Clearance

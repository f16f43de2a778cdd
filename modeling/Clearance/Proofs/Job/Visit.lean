import Clearance.Proofs.Job.Worker
import Clearance.Proofs.Screening.Full

/-!
# A visit to a parcel

The parcels of a job are chosen when a worker takes it: those that are closed then are spared by the
whole run. A parcel on the list is looked at again when the worker comes to it, but only for the
mark of the partner. One that has been approved meanwhile is screened like the others, and the
approval is lost.
-/

set_option autoImplicit false

namespace Clearance

open Proc
open Clearance.Parcel (CheckStatus)

namespace Store

/-- Two stores that differ at most in the jobs. -/
def SameButJobs (before after : Store) : Prop := ∃ jobs, after = { before with jobs := jobs }

instance : IsPreorder Store SameButJobs where
  refl store := ⟨store.jobs, rfl⟩
  trans := by
    rintro a _ _ ⟨_, rfl⟩ ⟨jobs, rfl⟩
    exact ⟨jobs, rfl⟩

theorem sameButJobs_saveJob {store : Store} {id : Int} {numbers : List Int} {save : Job → Job}
    {change : Change Unit} (h : store.saveJob id numbers save = .ok change) :
    SameButJobs store change.store := by
  rw [eq_of_saveJob h]
  exact ⟨_, rfl⟩

/-- Whether a parcel has the record and the links that it had. -/
structure Spares (parcel : Int) (before after : Store) : Prop where
  record : after.parcels.find? parcel = before.parcels.find? parcel
  links : ∀ kind, ((after.links kind).rows.filter fun row => row.val.parcel == parcel) =
    (before.links kind).rows.filter fun row => row.val.parcel == parcel

instance (parcel : Int) : IsPreorder Store (Spares parcel) where
  refl _ := ⟨rfl, fun _ => rfl⟩
  trans _ _ _ hab hbc := ⟨hbc.record.trans hab.record, fun kind =>
    (hbc.links kind).trans (hab.links kind)⟩

theorem SameButJobs.spares {before after : Store} (h : SameButJobs before after) (parcel : Int) :
    Spares parcel before after := by
  obtain ⟨jobs, rfl⟩ := h
  refine ⟨rfl, fun kind => ?_⟩
  cases kind <;> rfl

/-- What changes at most one parcel spares the others. -/
theorem spares_of_sameBut {parcel other : Int} {before after : Store}
    (h : Screening.SameBut other before after) (hne : parcel ≠ other) :
    Spares parcel before after := by
  constructor
  · refine Table.find?_congr h.parcels fun row hid => ?_
    rw [hid]
    exact bne_iff_ne.2 hne
  · intro kind
    have hfilter : ∀ rows : List (Row Link), (rows.filter fun row => row.val.parcel == parcel) =
        (rows.filter fun row => row.val.parcel != other).filter fun row =>
          row.val.parcel == parcel := by
      intro rows
      rw [List.filter_filter]
      refine List.filter_congr fun row _ => ?_
      by_cases hparcel : row.val.parcel = parcel
      · simp [hparcel, hne]
      · simp [hparcel]
    rw [hfilter, h.links kind, ← hfilter]

theorem Spares.linkedRules {parcel : Int} {before after : Store} (h : Spares parcel before after)
    (kind : LinkKind) : after.linkedRules kind parcel = before.linkedRules kind parcel := by
  unfold Store.linkedRules
  rw [h.links kind]

/-- Whether the cancellation of a job has been asked for. -/
def AsksCancel (store : Store) (id : Int) : Prop :=
  ∃ row ∈ store.jobs.rows, row.id = id ∧ row.val.cancelRequested = true

end Store

/-- No parcel is approved by screening it. -/
theorem Screening.checkStatus_outcomeOf_lt (context : Screening.Context) (scope : Scope) (id : Int)
    (record : Parcel) (store : Store) :
    (Screening.outcomeOf context scope id record store).checkStatus <
      CheckStatus.approved.number := by
  have hlow : ∀ invalid stopWords prefixes : Bool,
      (CheckStatus.ofFindings invalid stopWords prefixes).number < CheckStatus.approved.number := by
    decide
  exact hlow _ _ _

namespace Job

variable {s : Session} {context : Screening.Context} {scope : Scope} {id : Int} {parcel : Int}

theorem sameButJobs_complete (id : Int) (job : Job) (status : JobStatus) (error : Option String)
    (s : Session) : KeepsAt Store.SameButJobs s (complete id job status error) := by
  unfold complete
  refine keepsAt_ask_bind (keepsAt_bind (keepsAt_execute fun outcome hsave => ?_) fun _ _ _ =>
    keepsAt_pure _)
  exact Store.sameButJobs_saveJob hsave

theorem sameButJobs_saveCount (id : Int) (job : Job) (s : Session) :
    KeepsAt Store.SameButJobs s (saveCount id job) := by
  unfold saveCount
  exact keepsAt_execute fun outcome hsave => Store.sameButJobs_saveJob hsave

theorem sameButJobs_claim (handle : Option Handle) (s : Session) :
    KeepsAt Store.SameButJobs s (claim handle) := by
  unfold claim atomic
  refine keepsAt_atomicIf (keepsAt_query_bind fun found _ => ?_)
  cases found with
  | none => exact keepsAt_fail _
  | some row =>
    dsimp only
    split
    · exact keepsAt_query_bind fun parcels _ => keepsAt_ask_bind (keepsAt_bind
        (keepsAt_execute fun outcome hsave => Store.sameButJobs_saveJob hsave) fun _ _ _ =>
          keepsAt_pure _)
    · exact keepsAt_pure _

/-- The parcels of a job are those that are open when it is taken. -/
theorem parcels_of_claim {handle : Option Handle} {row : Row Job} {parcels : List Int} {t : Session}
    (h : claim handle s = (.ok (row, some parcels), t)) :
    parcels = s.store.openParcels row.val.register := by
  obtain ⟨job, _, _, hparcels, hown, _⟩ := claim_some h
  rw [hparcels, hown]
  rfl

/-- A worker that goes on has counted one parcel more, and its record is the same otherwise. -/
theorem counted_of_visit {meanwhile : Meanwhile} {count later : Nat} {job counted : Job}
    {t : Session}
    (h : visit context meanwhile id count job parcel s = (.ok (.goesOn later counted), t)) :
    counted = { job with processed := job.processed + 1 } := by
  obtain ⟨result, u, hvisit, hturn⟩ := exists_turn context meanwhile id count job parcel s
  rw [hvisit] at h
  cases h
  cases hturn
  rfl

/-! ## What a run keeps -/

theorem keepsAt_orStop {α β : Type} {rel : Store → Store → Prop} [IsPreorder Store rel]
    {stopped : Fault → β} {proc : Proc α} {next : α → Proc β} (hproc : KeepsAt rel s proc)
    (hnext : ∀ a t, KeepsAt rel t (next a)) : KeepsAt rel s (orStop stopped proc next) := by
  unfold KeepsAt at hproc ⊢
  rw [orStop_apply]
  cases hrun : proc s with
  | mk result t =>
    rw [hrun] at hproc
    cases result with
    | ok a => exact trans_of rel hproc (hnext a t)
    | error fault => exact hproc

theorem keepsAt_tellOfStart {rel : Store → Store → Prop} [IsPreorder Store rel] (job : Job)
    (s : Session) : KeepsAt rel s job.tellOfStart := by
  rw [tellOfStart_eq]
  exact keepsAt_alter rfl

theorem keepsAt_tellOfFault {rel : Store → Store → Prop} [IsPreorder Store rel] (job : Job)
    (parcel : Option Int) (fault : Fault) (s : Session) :
    KeepsAt rel s (job.tellOfFault parcel fault) := by
  rw [tellOfFault_eq]
  exact keepsAt_alter rfl

theorem keepsAt_conclude {rel : Store → Store → Prop} [IsPreorder Store rel]
    (hjobs : ∀ a b, Store.SameButJobs a b → rel a b) (id : Int) (result : Pass) :
    KeepsAt rel s (conclude id result) := by
  cases result with
  | through job => exact hjobs _ _ (sameButJobs_complete id job .completed none s)
  | cancelled job => exact keepsAt_pure _
  | stopped job parcel fault =>
    exact keepsAt_bind (keepsAt_tellOfFault job parcel fault s) fun _ t _ =>
      hjobs _ _ (sameButJobs_complete id job .failed _ t)

section

variable {rel : Store → Store → Prop} [IsPreorder Store rel] {meanwhile : Meanwhile}
  (hjobs : ∀ a b, Store.SameButJobs a b → rel a b)
  (hbefore : ∀ k t, KeepsAt rel t (meanwhile.before k))

include hjobs hbefore

/-- What changes of the jobs, the screening of one parcel and what is done before it keep, a visit
to the parcel keeps. -/
theorem keepsAt_visit {job : Job}
    (hscreen : ∀ t, KeepsAt rel t (Screening.screenWith context job.scope parcel)) (id : Int)
    (count : Nat) (s : Session) : KeepsAt rel s (visit context meanwhile id count job parcel) := by
  have hnext : ∀ t, KeepsAt rel t (screenNext context job.scope meanwhile count parcel) := by
    intro t
    unfold screenNext
    refine keepsAt_query_bind fun isThere _ => ?_
    split
    · exact keepsAt_bind (hbefore _ t) fun _ u _ =>
        keepsAt_bind (Screening.keepsAt_struck _ (hscreen u)) fun _ _ _ => keepsAt_pure _
    · exact keepsAt_pure _
  unfold visit
  refine keepsAt_orStop (keepsAt_query _) fun isToBe t => ?_
  split
  · exact keepsAt_orStop (hjobs _ _ (sameButJobs_complete id job .cancelled none t)) fun _ _ =>
      keepsAt_pure _
  · exact keepsAt_orStop (hnext t) fun count u =>
      keepsAt_orStop (hjobs _ _ (sameButJobs_saveCount id _ u)) fun _ _ => keepsAt_pure _

theorem keepsAt_pass (parcels : List Int) {job : Job} (hscreen : ∀ parcel ∈ parcels, ∀ t,
    KeepsAt rel t (Screening.screenWith context job.scope parcel)) (id : Int) (count : Nat)
    (s : Session) : KeepsAt rel s (pass context meanwhile id count job parcels) := by
  -- The worker's record changes from visit to visit, but not its scope.
  generalize hscope : job.scope = scope at hscreen
  induction parcels generalizing count job s with
  | nil => exact keepsAt_pure _
  | cons parcel rest ih =>
    have hvisit := @keepsAt_visit context parcel rel _ meanwhile hjobs hbefore job
      (by rw [hscope]; exact hscreen parcel List.mem_cons_self) id count s
    unfold pass
    refine keepsAt_bind hvisit fun visited t hrun => ?_
    cases visited with
    | goesOn count counted =>
      obtain rfl := counted_of_visit hrun
      exact ih count t hscope fun other hother => hscreen other (List.mem_cons_of_mem _ hother)
    | ends pass => exact keepsAt_pure _

/-- A run keeps what is kept wherever no more than the jobs change, and wherever a parcel is
screened that was open when the job was taken. -/
theorem keepsAt_run (handle : Option Handle) (hscreen : ∀ row parcels t u context v,
    claim handle s = (.ok (row, some parcels), t) → row.val.tellOfStart t = (.ok (), u) →
    Screening.loadContext row.val.scope.hasWords row.val.scope.hasCodes u = (.ok context, v) →
    ∀ parcel ∈ parcels, ∀ w,
      KeepsAt rel w (Screening.screenWith context row.val.scope parcel)) :
    KeepsAt rel s (run handle meanwhile) := by
  unfold run
  refine keepsAt_bind (hjobs _ _ (sameButJobs_claim handle s)) fun taken t hclaim => ?_
  obtain ⟨row, parcels⟩ := taken
  cases parcels with
  | none => exact keepsAt_pure _
  | some parcels =>
    refine keepsAt_bind (keepsAt_tellOfStart row.val t) fun _ u htold =>
      keepsAt_bind ?_ fun result v _ => keepsAt_conclude hjobs row.id result
    unfold work KeepsAt
    rw [orStop_apply]
    have hload := @Screening.keepsAt_loadContext rel _ u row.val.scope.hasWords
      row.val.scope.hasCodes
    unfold KeepsAt at hload
    cases hrun : Screening.loadContext row.val.scope.hasWords row.val.scope.hasCodes u with
    | mk result v =>
      rw [hrun] at hload
      cases result with
      | error fault => exact hload
      | ok context =>
        exact trans_of rel hload (keepsAt_pass hjobs hbefore parcels
          (hscreen row parcels t u context v hclaim htold hrun) row.id 0 v)

end

/-- A parcel that is not open when a job is taken is spared by the whole run, unless it is changed
by what is done before other parcels. -/
theorem spares_run {record : Parcel} {meanwhile : Meanwhile}
    (hparcel : s.store.parcels.find? parcel = some record) (hclosed : record.isOpen = false)
    (hbefore : ∀ k t, KeepsAt (Store.Spares parcel) t (meanwhile.before k))
    (handle : Option Handle) :
    s.store.Spares parcel (run handle meanwhile s).2.store := by
  refine keepsAt_run (fun _ _ hsame => hsame.spares parcel) hbefore handle ?_
  intro row parcels t u context v hclaim _ _ other hother w
  refine Screening.keepsAt_screenWith fun change hchange => ?_
  refine Store.spares_of_sameBut (Screening.sameBut_screenParcel hchange) ?_
  rintro rfl
  rw [parcels_of_claim hclaim] at hother
  obtain ⟨row, hrow, hid⟩ := List.mem_map.1 hother
  obtain ⟨hmem, hopen⟩ := List.mem_filter.1 hrow
  rw [Bool.and_eq_true] at hopen
  have hsame := Table.eq_of_mem_of_id_eq hmem (Table.find?_eq_some_iff.1 hparcel) hid
  rw [hsame, hclosed] at hopen
  cases hopen.2

/-! ## What a visit does -/

/-- A session that takes statements tells whether a job is to be cancelled. -/
theorem exists_poll (id : Int) (hwhole : s.isBroken = false) :
    ∃ isToBe, isToBeCancelled id s = (.ok isToBe, s) ∧
      (isToBe = true ↔ s.store.AsksCancel id) := by
  refine ⟨s.store.jobs.rows.any fun row => row.id == id && row.val.cancelRequested,
    query_of_whole _ hwhole, ?_⟩
  unfold Store.AsksCancel
  simp only [List.any_eq_true, Bool.and_eq_true, beq_iff_eq]

theorem isBroken_of_poll {fault : Fault} (h : isToBeCancelled id s = (.error fault, s)) :
    s.isBroken = true := by
  by_contra hbroken
  obtain ⟨isToBe, hpoll, _⟩ := exists_poll id (Bool.eq_false_iff.2 hbroken)
  rw [h] at hpoll
  cases hpoll

theorem asksCancel_of_poll {isToBe : Bool} (h : isToBeCancelled id s = (.ok isToBe, s)) :
    s.isBroken = false ∧ (isToBe = true ↔ s.store.AsksCancel id) := by
  by_cases hbroken : s.isBroken = true
  · unfold isToBeCancelled query at h
    rw [if_pos hbroken] at h
    cases h
  · have hwhole := Bool.eq_false_iff.2 hbroken
    obtain ⟨found, hpoll, hasked⟩ := exists_poll id hwhole
    rw [h] at hpoll
    cases hpoll
    exact ⟨hwhole, hasked⟩

/-- Where nothing is done before, the next parcel is screened if it is there. -/
theorem screenNext_apply (context : Screening.Context) (scope : Scope) (count : Nat) (parcel : Int)
    (hwhole : s.isBroken = false) :
    screenNext context scope .nothing count parcel s =
      if s.store.parcels.has parcel then match Screening.screenWith context scope parcel s with
        | (.ok _, t) => (.ok (count + 1), t)
        | (.error fault, t) => (.error fault, t)
      else (.ok count, s) := by
  have hlook : (Proc.query fun store => .ok (store.parcels.has parcel)) s =
      (.ok (s.store.parcels.has parcel), s) := query_of_whole _ hwhole
  unfold screenNext
  rw [bind_of_ok hlook]
  by_cases hthere : s.store.parcels.has parcel = true
  · rw [if_pos hthere, if_pos hthere]
    change (Screening.screenWith context scope parcel >>= fun _ => pure (count + 1)) s = _
    rw [bind_apply]
    cases Screening.screenWith context scope parcel s with
    | mk result t => cases result <;> rfl
  · rw [if_neg hthere, if_neg hthere]
    rfl

/-- What a visit to a parcel does to the store. -/
inductive Visited (context : Screening.Context) (scope : Scope) (id parcel : Int)
    (s t : Session) : Prop
  /-- The parcel is not screened, and no more than the jobs is changed. -/
  | skips (hsame : Store.SameButJobs s.store t.store) (hreason : s.store.AsksCancel id ∨
      ∃ fault, (Screening.screenWith context scope parcel s).1 = .error fault)
  /-- The parcel is screened, and after that no more than the jobs is changed. -/
  | screens (u : Session) (outcome : Screening.Outcome) (hgoesOn : ¬ s.store.AsksCancel id)
      (hscreen : Screening.screenWith context scope parcel s = (.ok outcome, u))
      (hsame : Store.SameButJobs u.store t.store)

/-- What a visit to a parcel that is stored can do. -/
theorem exists_visit (context : Screening.Context) (id : Int) (count : Nat) (job : Job)
    (hthere : s.store.parcels.has parcel = true) :
    ∃ result t, visit context .nothing id count job parcel s = (.ok result, t) ∧
      Visited context job.scope id parcel s t := by
  obtain ⟨result, t, hvisit, hturn⟩ :=
    exists_turn context .nothing id count job parcel s
  refine ⟨result, t, hvisit, ?_⟩
  have hends := sameButJobs_complete id job .cancelled none s
  have hcounts := sameButJobs_saveCount id { job with processed := job.processed + 1 }
  unfold KeepsAt at hends hcounts
  cases hturn with
  | unasked hpoll =>
    exact .skips (refl_of Store.SameButJobs s.store)
      (.inr (Screening.screenWith_of_isBroken context job.scope parcel (isBroken_of_poll hpoll)))
  | uncancelled hpoll hend | cancelled hpoll hend =>
    rw [hend] at hends
    exact .skips hends (.inl ((asksCancel_of_poll hpoll).2.1 rfl))
  | unscreened hpoll hscreen =>
    rw [screenNext_apply _ _ _ _ (asksCancel_of_poll hpoll).1, if_pos hthere] at hscreen
    cases hrun : Screening.screenWith context job.scope parcel s with
    | mk result u =>
      rw [hrun] at hscreen
      cases result with
      | ok outcome => cases hscreen
      | error fault =>
        cases hscreen
        have hfails := Screening.screenWith_of_error (congrArg Prod.fst hrun)
        obtain rfl := (Prod.mk.inj (hrun.symm.trans hfails)).2
        exact .skips (refl_of Store.SameButJobs t.store) (.inr ⟨_, by rw [hrun]⟩)
  | @uncounted _ _ u _ hpoll hscreen hsave | @counted _ u _ hpoll hscreen hsave =>
    obtain ⟨hwhole, hasked⟩ := asksCancel_of_poll hpoll
    rw [screenNext_apply _ _ _ _ hwhole, if_pos hthere] at hscreen
    have hsame := hcounts u
    rw [hsave] at hsame
    cases hrun : Screening.screenWith context job.scope parcel s with
    | mk result v =>
      rw [hrun] at hscreen
      cases result with
      | error fault => cases hscreen
      | ok outcome =>
        cases hscreen
        exact .screens u outcome (fun hasks => Bool.false_ne_true (hasked.2 hasks)) hrun hsame

/-! ## Approvals -/

/-- Where an approved parcel is screened and then no more than the jobs is changed, the approval is
lost, and the parcel has the links of the outcome. -/
theorem lost_of_screened {record : Parcel} {outcome : Screening.Outcome}
    {old middle after : Store} (hparcel : old.parcels.find? parcel = some record)
    (happroved : CheckStatus.approved.number ≤ record.checkStatus)
    (hlow : outcome.checkStatus < CheckStatus.approved.number)
    (hscreened : Screening.Screened parcel record outcome old middle)
    (hsame : Store.SameButJobs middle after) :
    ¬ old.Spares parcel after ∧ ∃ later, after.parcels.find? parcel = some later ∧
      later.checkStatus < CheckStatus.approved.number ∧
      ∀ kind, after.linkedRules kind parcel = outcome.rules kind := by
  have hrest := hsame.spares parcel
  have hlater := hrest.record.trans hscreened.parcel
  refine ⟨fun hspares => ?_, _, hlater, hlow, fun kind => ?_⟩
  · have hkept := (hspares.record.trans hparcel).symm.trans hlater
    have hstatus : record.checkStatus = outcome.checkStatus :=
      congrArg Parcel.checkStatus (Option.some.inj hkept)
    omega
  · rw [hrest.linkedRules kind]
    exact hscreened.links kind

/-- A parcel that is approved or marked when a worker comes to it is spared just if it is marked,
or the job is to be cancelled, or the screening fails. Otherwise the parcel has a status below the
approved ones and the links of the outcome after the visit, whatever had been decided about it. -/
theorem visit_spares_iff {record : Parcel} (count : Nat) (job : Job)
    (hparcel : s.store.parcels.find? parcel = some record)
    (hclosed : CheckStatus.approved.number ≤ record.checkStatus ∨
      record.checkStatus = CheckStatus.markedByPartner.number) :
    ∃ result t, visit context .nothing id count job parcel s = (.ok result, t) ∧
      (s.store.Spares parcel t.store ↔
        record.checkStatus = CheckStatus.markedByPartner.number ∨ s.store.AsksCancel id ∨
          ∃ fault, (Screening.screenWith context job.scope parcel s).1 = .error fault) ∧
      (¬ s.store.Spares parcel t.store → ∃ later,
        t.store.parcels.find? parcel = some later ∧
          later.checkStatus < CheckStatus.approved.number ∧
          ∀ kind, t.store.linkedRules kind parcel =
            (Screening.outcomeOf context job.scope parcel record s.store).rules kind) := by
  obtain ⟨result, t, hvisit, heffect⟩ :=
    exists_visit context id count job (Table.has_of_find? hparcel)
  refine ⟨result, t, hvisit, ?_⟩
  cases heffect with
  | skips hsame hreason =>
    have hspares := hsame.spares parcel
    exact ⟨⟨fun _ => .inr hreason, fun _ => hspares⟩, fun hnot => absurd hspares hnot⟩
  | screens u outcome hgoesOn hscreen hsame =>
    obtain ⟨change, hchange, hstore, _⟩ := Screening.screenWith_ok hscreen
    obtain ⟨found, hfound, hcases⟩ := Screening.screenParcel_ok hchange
    obtain rfl : found = record := Option.some.inj (hfound.symm.trans hparcel)
    rcases hcases with ⟨hmarked, hkept⟩ | ⟨hmarked, _, hscreened⟩
    · rw [hstore, hkept] at hsame
      have hspares := hsame.spares parcel
      exact ⟨⟨fun _ => .inl (beq_iff_eq.1 hmarked), fun _ => hspares⟩,
        fun hnot => absurd hspares hnot⟩
    · have hunmarked : found.checkStatus ≠ CheckStatus.markedByPartner.number :=
        beq_eq_false_iff_ne.1 hmarked
      have happroved := hclosed.resolve_right hunmarked
      rw [hstore] at hsame
      obtain ⟨hlost, hlater⟩ := lost_of_screened hparcel happroved
        (Screening.checkStatus_outcomeOf_lt _ _ _ _ _) hscreened hsame
      refine ⟨⟨fun hspares => absurd hspares hlost, ?_⟩, fun _ => hlater⟩
      rintro (hmark | hasks | ⟨fault, hfails⟩)
      · exact absurd hmark hunmarked
      · exact absurd hasks hgoesOn
      · rw [hscreen] at hfails
        cases hfails

/-! ## A parcel approved after the job was taken -/

/-- A session with a parcel, a stop word in its product name and a job that is pending. -/
def gunQueued : Session :=
  { Screening.gunSession with
    store := { Screening.gunSession.store with jobs := Table.empty.insert (fresh ⟨7⟩ 1 .full 0) } }

/-- The job taken, with the parcel on its list, and the parcel approved since. -/
def gunApproved : Session :=
  let taken := (claim (some ⟨7⟩) gunQueued).2
  { taken with
    store := { taken.store with
      parcels := taken.store.parcels.modify 1 fun parcel =>
        { parcel with checkStatus := CheckStatus.approved.number } } }

/-- The worker's own record of the job. -/
def gunJob : Job := (fresh ⟨7⟩ 1 .full 0).started 1 0

/-- The approved parcel is not spared. -/
theorem not_spared_gunApproved : ∃ result t,
    visit Screening.gunContext .nothing 1 0 gunJob 1 gunApproved = (.ok result, t) ∧
      ¬ gunApproved.store.Spares 1 t.store := by
  have hparcel : gunApproved.store.parcels.find? 1 =
      some { Screening.gunParcel with checkStatus := CheckStatus.approved.number } := by
    decide +kernel
  obtain ⟨result, t, hvisit, hiff, _⟩ := @visit_spares_iff gunApproved Screening.gunContext 1 1 _
    0 gunJob hparcel (.inl (Int.le_refl _))
  refine ⟨result, t, hvisit, fun hspares => ?_⟩
  rcases hiff.1 hspares with hmarked | ⟨row, hrow, _, hasks⟩ | ⟨fault, hfails⟩
  · exact absurd hmarked (by decide)
  · have hnone : (gunApproved.store.jobs.rows.any fun row => row.val.cancelRequested) = false := by
      decide +kernel
    rw [List.any_eq_true.2 ⟨row, hrow, hasks⟩] at hnone
    cases hnone
  · have hgoes : (Screening.screenWith Screening.gunContext gunJob.scope 1 gunApproved).1.isOk := by
      decide +kernel
    rw [hfails] at hgoes
    cases hgoes

/-- A parcel that was open when a worker took a job and has been approved since is blocked and
linked when the worker comes to it. -/
theorem approval_lost_gunApproved :
    (claim (some ⟨7⟩) gunQueued).1 = .ok (⟨1, gunJob⟩, some [1]) ∧
    (Screening.loadContext true true (claim (some ⟨7⟩) gunQueued).2).1 =
      .ok Screening.gunContext ∧
    (gunApproved.store.parcels.find? 1).map (·.checkStatus) = some CheckStatus.approved.number ∧
    gunApproved.store.linkedRules .stopWord 1 = [] ∧
    let after := (visit Screening.gunContext .nothing 1 0 gunJob 1 gunApproved).2.store
    (after.parcels.find? 1).map (·.checkStatus) = some CheckStatus.blockedByStopWord.number ∧
      after.linkedRules .stopWord 1 = [1] := by
  refine ⟨?_, ?_, ?_, ?_, ?_, ?_⟩
  · rfl
  · rfl
  · decide +kernel
  · decide +kernel
  · decide +kernel
  · decide +kernel

end Job

end Clearance

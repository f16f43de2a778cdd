import Clearance.Job.Progress
import Clearance.Job.Run
import Clearance.Proofs.Session.Accord

/-!
# Jobs in accord

Jobs read the registers, the parcels, the records of jobs and the clock, and for each parcel they do
what screening does. So the runs of a job in two sessions that differ in none of these are in accord
if loading the rules and screening a parcel are.
-/

set_option autoImplicit false

namespace Clearance.Job

open Proc
open Clearance.Screening (Context loadContext screenWith)

/-- A relation between sessions in which jobs of the scopes that are asked for run in accord, with
contexts that are alike for a scope. -/
structure IsAccord (rel : Session → Session → Prop) (asked : Scope → Prop)
    (alike : Scope → Context → Context → Prop) : Prop extends Proc.IsAccord rel where
  registers : ∀ {s t}, rel s t → t.store.registers = s.store.registers
  parcels : ∀ {s t}, rel s t → t.store.parcels = s.store.parcels
  jobs : ∀ {s t}, rel s t → t.store.jobs = s.store.jobs
  clock : ∀ {s t}, rel s t → t.clock = s.clock
  timeLimit : ∀ {s t}, rel s t → t.timeLimit = s.timeLimit
  made : ∀ {s t}, rel s t → t.jobs = s.jobs
  saved : ∀ {s t}, rel s t → ∀ jobs, rel { s with store := { s.store with jobs := jobs } }
    { t with store := { t.store with jobs := jobs } }
  counted : ∀ {s t}, rel s t → rel { s with jobs := s.jobs + 1 } { t with jobs := t.jobs + 1 }
  begun : ∀ job : Job, RunsAlike rel job.tellOfStart
  failed : ∀ (job : Job) (parcel : Option Int) (fault : Fault),
    RunsAlike rel (job.tellOfFault parcel fault)
  load : ∀ scope, asked scope → Accords rel (alike scope)
    (loadContext scope.hasWords scope.hasCodes) (loadContext scope.hasWords scope.hasCodes)
  screen : ∀ scope, asked scope → ∀ context context', alike scope context context' → ∀ id,
    Accords rel Eq (screenWith context scope id) (screenWith context' scope id)

/-- Whether a worker that goes on has a record of a job of a scope. -/
def Visit.IsOf (scope : Scope) : Visit → Prop
  | goesOn _ job => job.scope = scope
  | ends _ => True

variable {rel : Session → Session → Prop}

theorem accords_orStop {α β γ δ : Type} {same : α → β → Prop} {later : γ → δ → Prop}
    {stopped : Fault → γ} {stopped' : Fault → δ} {proc : Proc α} {proc' : Proc β}
    {next : α → Proc γ} {next' : β → Proc δ} (hproc : Accords rel same proc proc')
    (hstopped : ∀ fault, later (stopped fault) (stopped' fault))
    (hnext : ∀ a b, same a b → Accords rel later (next a) (next' b)) :
    Accords rel later (orStop stopped proc next) (orStop stopped' proc' next') := by
  intro s t h
  unfold orStop
  refine accordsAt_bind (accordsAt_attempt (hproc s t h)) fun result result' u v _ _ halike huv => ?_
  cases halike with
  | ok hab => exact hnext _ _ hab u v huv
  | error fault => exact accordsAt_pure (hstopped fault) huv

variable {asked : Scope → Prop} {alike : Scope → Context → Context → Prop}
  (accord : IsAccord rel asked alike)

include accord

/-! ## Records -/

/-- What is read of the registers, the parcels and the jobs is the same. -/
theorem accords_query {α : Type} {read : Store → Except Fault α}
    (hread : ∀ a b : Store, b.registers = a.registers → b.parcels = a.parcels → b.jobs = a.jobs →
      read b = read a) : RunsAlike rel (query read) := by
  intro s t h
  refine accord.queryAt h ?_
  rw [hread _ _ (accord.registers h) (accord.parcels h) (accord.jobs h)]
  exact .refl _

theorem accords_clock : RunsAlike rel (ask (·.clock)) := fun _ _ h =>
  accordsAt_ask (accord.clock h).symm h

theorem accords_saveJob (id : Int) (numbers : List Int) (save : Job → Job) :
    RunsAlike rel (execute fun store => store.saveJob id numbers save) := by
  intro s t h
  refine accord.executeAt h ?_
  unfold ChangesAlike Store.saveJob
  refine Alike.bind (Alike.refl (Store.guardNumbers numbers)) fun _ _ _ => ?_
  rw [accord.jobs h]
  split
  · exact .ok ⟨rfl, rfl, accord.saved h _⟩
  · exact .error _

theorem accords_complete (id : Int) (job : Job) (status : JobStatus) (error : Option String) :
    RunsAlike rel (complete id job status error) := by
  unfold complete
  exact (accords_clock accord).bindEq fun _ => (accords_saveJob accord _ _ _).bindEq fun _ _ _ h =>
    accordsAt_pure rfl h

theorem accords_jobOf? (handle : Option Handle) :
    RunsAlike rel (query fun store => .ok (store.jobOf? handle)) :=
  accords_query accord fun a b _ _ hjobs => by
    unfold Store.jobOf?
    rw [hjobs]

/-! ## Runs -/

/-- A job is claimed alike, and one that is taken is of a scope asked for if the job of the handle
is. -/
theorem accordsAt_claim {s t : Session} (h : rel s t) {handle : Option Handle}
    (hasked : ∀ row, s.store.jobOf? handle = some row → row.val.status = .pending →
      asked row.val.scope) :
    AccordsAt rel (fun taken taken' => taken = taken' ∧
        (taken.2.isSome = true → asked taken.1.val.scope)) s t (claim handle) (claim handle) := by
  unfold claim atomic
  refine accord.atomicIfAt h (fun _ _ _ => rfl) ?_
  refine accordsAt_bind (accords_jobOf? accord handle _ _ (accord.opened h)) ?_
  rintro found _ u v hfound _ rfl huv
  cases found with
  | none => exact accordsAt_fail _ huv
  | some row =>
    have hrow := Except.ok.inj (query_ok hfound).1
    dsimp only
    split
    · next hpending =>
      have hopen : RunsAlike rel (query fun store => .ok (store.openParcels row.val.register)) :=
        accords_query accord fun a b _ hparcels _ => by
          unfold Store.openParcels
          rw [hparcels]
      refine (hopen.bindEq fun parcels => (accords_clock accord).bindEq fun now =>
        (accords_saveJob accord _ _ _).bindEq fun _ _ _ h => ?_) u v huv
      exact accordsAt_pure ⟨rfl, fun _ => hasked row hrow hpending⟩ h
    · exact accordsAt_pure ⟨rfl, nofun⟩ huv

section

variable {before before' : Nat → Proc Unit}
  (hbefore : ∀ k, Accords rel Eq (before k) (before' k))
  {scope : Scope} (hscope : asked scope) {context context' : Context}
  (hcontext : alike scope context context')

include hbefore hscope hcontext

theorem accords_screenNext (count : Nat) (parcel : Int) :
    Accords rel Eq (screenNext context scope before count parcel)
      (screenNext context' scope before' count parcel) := by
  have hthere : RunsAlike rel (query fun store => .ok (store.parcels.has parcel)) :=
    accords_query accord fun a b _ hparcels _ => by rw [hparcels]
  unfold screenNext
  refine hthere.bindEq fun isThere => ?_
  split
  · exact (hbefore _).bindEq fun _ =>
      (accord.screen scope hscope context context' hcontext parcel).bindEq fun _ _ _ h =>
        accordsAt_pure rfl h
  · exact accords_pure rfl

theorem accords_visit (id : Int) (count : Nat) {job : Job} (hjob : job.scope = scope)
    (parcel : Int) : Accords rel (fun visited visited' => visited = visited' ∧ visited.IsOf scope)
      (visit context before id count job parcel) (visit context' before' id count job parcel) := by
  have hcancelled : RunsAlike rel (isToBeCancelled id) :=
    accords_query accord fun a b _ _ hjobs => by rw [hjobs]
  subst hjob
  unfold visit
  refine accords_orStop hcancelled (fun _ => ⟨rfl, trivial⟩) ?_
  rintro isToBe _ rfl
  split
  · refine accords_orStop (accords_complete accord _ _ _ _) (fun _ => ⟨rfl, trivial⟩) ?_
    rintro ended _ rfl
    exact accords_pure ⟨rfl, trivial⟩
  · refine accords_orStop (accords_screenNext accord hbefore hscope hcontext count parcel)
      (fun _ => ⟨rfl, trivial⟩) ?_
    rintro count _ rfl
    refine accords_orStop (accords_saveJob accord _ _ _) (fun _ => ⟨rfl, trivial⟩) ?_
    exact fun _ _ _ _ _ h => accordsAt_pure ⟨rfl, rfl⟩ h

/-- The worker's way through the parcels, one visit after another. -/
theorem accords_pass (id : Int) (count : Nat) {job : Job} (hjob : job.scope = scope)
    (parcels : List Int) : Accords rel Eq (pass context before id count job parcels)
      (pass context' before' id count job parcels) := by
  induction parcels generalizing count job with
  | nil => exact accords_pure rfl
  | cons parcel rest ih =>
    unfold pass
    refine (accords_visit accord hbefore hscope hcontext id count hjob parcel).bind ?_
    rintro visited _ ⟨rfl, hof⟩
    cases visited with
    | goesOn count counted => exact ih count hof
    | ends result => exact accords_pure rfl

end

/-- A job is brought to its end alike. -/
theorem accords_conclude (id : Int) (result : Pass) :
    RunsAlike rel (conclude id result) := by
  cases result with
  | through job => exact accords_complete accord _ _ _ _
  | cancelled job => exact accords_pure rfl
  | stopped job parcel fault =>
    exact (accord.failed job parcel fault).bindEq fun _ => accords_complete accord _ _ _ _

/-- Two runs of a job are in accord if it is of a scope asked for, as far as it is pending. -/
theorem accordsAt_run {before before' : Nat → Proc Unit}
    (hbefore : ∀ k, Accords rel Eq (before k) (before' k)) {s t : Session} (h : rel s t)
    {handle : Option Handle} (hasked : ∀ row, s.store.jobOf? handle = some row →
      row.val.status = .pending → asked row.val.scope) :
    AccordsAt rel Eq s t (run handle before) (run handle before') := by
  unfold run
  refine accordsAt_bind (accordsAt_claim accord h hasked) ?_
  rintro ⟨row, parcels⟩ _ u v _ _ ⟨rfl, hscope⟩ huv
  cases parcels with
  | none => exact accordsAt_pure rfl huv
  | some parcels =>
    have hload := accord.load row.val.scope (hscope rfl)
    have hwork : Accords rel Eq (work before row parcels) (work before' row parcels) :=
      accords_orStop hload (fun _ => rfl) fun context context' hcontext =>
        accords_pass accord hbefore (hscope rfl) hcontext row.id 0 rfl parcels
    exact ((accord.begun row.val).bindEq fun _ => hwork.bindEq fun result =>
      accords_conclude accord row.id result) u v huv

/-! ## Requests and cancellations -/

theorem accords_isOverdue (job : Job) : RunsAlike rel (isOverdue job) := by
  have hlimit : RunsAlike rel (ask (·.timeLimit)) := fun _ _ h =>
    accordsAt_ask (accord.timeLimit h).symm h
  unfold isOverdue
  refine hlimit.bindEq fun limit => (accords_clock accord).bindEq fun now => ?_
  split
  · exact accords_pure rfl
  · exact accords_fail _

theorem accords_inFlight? (register : Int) :
    RunsAlike rel (inFlight? register) := by
  have hactive : RunsAlike rel (query fun store => .ok (store.activeJob? register)) :=
    accords_query accord fun a b _ _ hjobs => by
      unfold Store.activeJob?
      rw [hjobs]
  unfold inFlight?
  refine hactive.bindEq fun found => ?_
  cases found with
  | none => exact accords_pure rfl
  | some row =>
    refine (accords_isOverdue accord row.val).bindEq fun isStale => ?_
    split
    · exact (accords_complete accord _ _ _ _).bindEq fun _ => accords_pure rfl
    · exact accords_pure rfl

theorem accords_create (register : Int) (scope : Scope) :
    RunsAlike rel (create register scope) := by
  have hcounted : RunsAlike rel (alter fun s => { s with jobs := s.jobs + 1 }) := fun _ _ h =>
    accordsAt_alter (accord.counted h)
  have hmade : RunsAlike rel (ask (·.jobs)) := fun _ _ h =>
    accordsAt_ask (accord.made h).symm h
  have hadd : ∀ job, RunsAlike rel (execute fun store => .ok (store.addJob job)) := by
    intro job s t h
    refine accord.executeAt h ?_
    unfold ChangesAlike Store.addJob
    rw [accord.jobs h]
    exact .ok ⟨rfl, rfl, accord.saved h _⟩
  unfold create
  exact hcounted.bindEq fun _ => hmade.bindEq fun _ => (accords_clock accord).bindEq fun _ =>
    (hadd _).bindEq fun _ => accords_pure rfl

theorem accords_request (register : Int) (scope : Scope) :
    RunsAlike rel (request register scope) := by
  have hthere : RunsAlike rel (query fun store => .ok (store.registers.has register)) :=
    accords_query accord fun a b hregisters _ _ => by rw [hregisters]
  intro s t h
  unfold request atomic
  refine accord.atomicIfAt h (fun _ _ _ => rfl) ?_
  refine (hthere.bindEq fun isThere => ?_) _ _ (accord.opened h)
  split
  · refine (accords_inFlight? accord register).bindEq fun found => ?_
    cases found with
    | none =>
      exact (accords_create accord register scope).bindEq fun _ => accords_pure rfl
    | some job =>
      dsimp only
      split
      · exact accords_pure rfl
      · exact accords_fail _
  · exact accords_fail _

/-- A job is requested alike, and run alike if the job then found under its handle is of a scope
asked for. -/
theorem accordsAt_start {before before' : Nat → Proc Unit}
    (hbefore : ∀ k, Accords rel Eq (before k) (before' k)) {s t : Session} (h : rel s t)
    {register : Int} {scope : Scope}
    (hasked : ∀ job u, request register scope s = (.ok (job, true), u) → ∀ row,
      u.store.jobOf? (some job.handle) = some row → row.val.status = .pending →
        asked row.val.scope) (runsNow : Bool) :
    AccordsAt rel Eq s t (start register scope runsNow before)
      (start register scope runsNow before') := by
  unfold start
  refine accordsAt_bind (accords_request accord register scope s t h) ?_
  rintro ⟨job, isNew⟩ _ u v hrequest _ rfl huv
  dsimp only
  by_cases hruns : (isNew && runsNow) = true
  · rw [if_pos hruns, if_pos hruns]
    have hnew : isNew = true := (Bool.and_eq_true_iff.1 hruns).1
    subst hnew
    refine accordsAt_bind (accordsAt_run accord hbefore huv (hasked job u hrequest)) ?_
    exact fun _ _ _ _ _ _ _ huv => accordsAt_pure rfl huv
  · rw [if_neg hruns, if_neg hruns]
    exact accordsAt_pure rfl huv

theorem accords_progress (handle : Text.Literal) :
    RunsAlike rel (progress handle) := by
  unfold progress
  split
  · exact accords_pure rfl
  · refine (accords_jobOf? accord _).bindEq fun found => ?_
    cases found <;> exact accords_pure rfl

theorem accords_cancel (handle : Text.Literal) : RunsAlike rel (cancel handle) := by
  intro s t h
  unfold cancel atomic
  split
  · exact accordsAt_pure rfl h
  refine accord.atomicIfAt h (fun _ _ _ => rfl) ?_
  refine ((accords_jobOf? accord _).bindEq fun found => ?_) _ _ (accord.opened h)
  cases found with
  | none => exact accords_pure rfl
  | some row =>
    dsimp only
    split
    · refine (accords_saveJob accord _ _ _).bindEq fun _ => ?_
      split
      · exact (accords_complete accord _ _ _ _).bindEq fun _ => accords_pure rfl
      · exact accords_pure rfl
    · exact accords_pure rfl

theorem accords_markStarted (handle : Option Handle) (total : Int) :
    RunsAlike rel (markStarted handle total) := by
  unfold markStarted
  refine (accords_jobOf? accord handle).bindEq fun found => ?_
  cases found with
  | none => exact accords_fail _
  | some row =>
    exact (accords_clock accord).bindEq fun _ =>
      (accords_saveJob accord _ _ _).bindEq fun _ => accords_pure rfl

end Clearance.Job

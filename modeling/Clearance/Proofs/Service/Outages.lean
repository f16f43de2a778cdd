import Clearance.Proofs.Job.Accord
import Clearance.Proofs.Service.Course

/-!
# Failing calls to the monitor

Calls to the monitor may fail, and nothing else depends on it: all that is answered and stored is as
if they had gone through. What is reported is what would have been reported then, in the same order,
without what the calls that fail would have reported.
-/

set_option autoImplicit false

namespace Clearance

open Proc

namespace Monitor

/-- Whether an event is still reported if some calls fail: a breadcrumb unless breadcrumbs cannot be
left, what belongs to a scope unless none can be opened, and an exception unless it cannot be
captured or there is no scope to capture it in. -/
def Event.isHeard (outages : Outages) : Event → Bool
  | breadcrumb _ => !outages.breadcrumb
  | scope | tag _ _ | extra _ _ => !outages.scope
  | exception _ _ => !outages.scope && !outages.capture

/-- Of the events that would be reported those that are. -/
def heard (outages : Outages) (events : List Event) : List Event :=
  events.filter (·.isHeard outages)

theorem heard_append (outages : Outages) (first second : List Event) :
    heard outages (first ++ second) = heard outages first ++ heard outages second :=
  List.filter_append first second

theorem heard_breadcrumb (outages : Outages) (register : Option Int) (message level : String)
    (extra : Fields) : heard outages (breadcrumb .none register message level extra) =
      breadcrumb outages register message level extra := by
  unfold breadcrumb heard Event.isHeard
  cases outages.breadcrumb <;> rfl

/-- What capturing an error reports with some calls failing is what is heard of it. -/
theorem heard_capture (outages : Outages) (kind text : String) (job : Option JobReport)
    (parcel : Option Int) : heard outages (capture .none kind text job parcel) =
      capture outages kind text job parcel := by
  unfold capture aboutParcel
  rw [heard_append, heard_breadcrumb]
  obtain ⟨crumb, scope, capture⟩ := outages
  cases job <;> cases parcel.filter (· != 0) <;> cases scope <;> cases capture <;> rfl

end Monitor

/-! ## Answers and sessions in which less is heard -/

mutual

/-- An answer with another reading of the events that it tells. -/
def Answer.readEvents (read : List Monitor.Event → List Monitor.Event) : Answer → Answer
  | .events reported => .events (read reported)
  | .block committed answers => .block committed (Answer.readAllEvents read answers)
  | .interrupted answer meanwhile =>
    .interrupted (answer.readEvents read) (Answer.readAllEvents read meanwhile)
  | answer => answer

/-- Answers with another reading of the events that they tell. -/
def Answer.readAllEvents (read : List Monitor.Event → List Monitor.Event) :
    List Answer → List Answer
  | [] => []
  | answer :: rest => answer.readEvents read :: Answer.readAllEvents read rest

end

namespace Answer

variable (read : List Monitor.Event → List Monitor.Event)

theorem readAllEvents_append (answers more : List Answer) :
    readAllEvents read (answers ++ more) =
      readAllEvents read answers ++ readAllEvents read more := by
  induction answers with
  | nil => rfl
  | cons answer rest ih => rw [List.cons_append, readAllEvents, readAllEvents, ih, List.cons_append]

theorem fault?_readEvents (answer : Answer) : (answer.readEvents read).fault? = answer.fault? := by
  cases answer with
  | interrupted answer meanwhile =>
    unfold readEvents fault?
    exact fault?_readEvents answer
  | _ => rfl

mutual

/-- Answers are told as they are if the events are. -/
theorem readEvents_self (answer : Answer) : answer.readEvents (fun told => told) = answer := by
  cases answer with
  | interrupted answer meanwhile =>
    unfold readEvents
    rw [readEvents_self answer, readAllEvents_self meanwhile]
  | block committed answers =>
    unfold readEvents
    rw [readAllEvents_self answers]
  | _ => rfl

theorem readAllEvents_self (answers : List Answer) :
    readAllEvents (fun told => told) answers = answers := by
  cases answers with
  | nil => rfl
  | cons answer rest =>
    unfold readAllEvents
    rw [readEvents_self answer, readAllEvents_self rest]

end

end Answer

/-- A session with some calls to the monitor failing, and what has been reported without what would
not have been heard then. -/
def Session.hushed (outages : Monitor.Outages) (read : List Monitor.Event → List Monitor.Event)
    (s : Session) : Session :=
  { s with
    outages := outages
    events := Monitor.heard outages s.events
    transcript := Answer.readAllEvents read s.transcript }

/-- Whether a session is another one, in which no calls fail, with some calls failing. -/
structure IsHushed (outages : Monitor.Outages) (read : List Monitor.Event → List Monitor.Event)
    (s t : Session) : Prop where
  whole : s.outages = .none
  hushed : t = s.hushed outages read

namespace IsHushed

variable {α : Type} {outages : Monitor.Outages} {read : List Monitor.Event → List Monitor.Event}
  {s t u v : Session}

theorem store (h : IsHushed outages read s t) : t.store = s.store := by
  rw [h.hushed]
  rfl

theorem isAccord (outages : Monitor.Outages) (read : List Monitor.Event → List Monitor.Event) :
    Proc.IsAccord (IsHushed outages read) where
  inBlock := fun ⟨_, h⟩ => by rw [h]; rfl
  isBroken := fun ⟨_, h⟩ => by rw [h]; rfl
  pending := fun ⟨_, h⟩ => by rw [h]; rfl
  isSound := fun ⟨_, h⟩ => by rw [h]; rfl
  broken := fun ⟨hnone, h⟩ _ => ⟨hnone, by rw [h]; rfl⟩
  opened := fun ⟨hnone, h⟩ => ⟨hnone, by rw [h]; rfl⟩
  closed := fun ⟨hnone, h⟩ => ⟨hnone, by rw [h]; rfl⟩
  queued := fun ⟨hnone, h⟩ _ => ⟨hnone, by rw [h]; rfl⟩
  bumped := fun ⟨hnone, h⟩ _ => ⟨hnone, by rw [h]; rfl⟩
  undone := fun ⟨_, h⟩ ⟨hnone, huv⟩ => ⟨hnone, by rw [h, huv]; rfl⟩

theorem sharesWords (outages : Monitor.Outages)
    (read : List Monitor.Event → List Monitor.Event) :
    Proc.SharesWords (IsHushed outages read) where
  toIsAccord := isAccord outages read
  clock := fun ⟨_, h⟩ => by rw [h]; rfl
  generations := fun ⟨_, h⟩ => by rw [h]; rfl
  compiled := fun ⟨_, h⟩ => by rw [h]; rfl
  compilations := fun ⟨_, h⟩ => by rw [h]; rfl
  backend := fun ⟨_, h⟩ => by rw [h]; rfl
  rules := fun ⟨_, h⟩ _ => by rw [h]; rfl
  regenerated := fun ⟨hnone, h⟩ _ => ⟨hnone, by rw [h]; rfl⟩
  kept := fun ⟨hnone, h⟩ _ => ⟨hnone, by rw [h]; rfl⟩
  recounted := fun ⟨hnone, h⟩ _ => ⟨hnone, by rw [h]; rfl⟩

/-- What is reported where no calls fail is reported otherwise as far as it is heard. -/
theorem accords_report {events : Monitor.Outages → List Monitor.Event}
    (hevents : ∀ outages, Monitor.heard outages (events .none) = events outages) :
    RunsAlike (IsHushed outages read) (Monitor.report events) := by
  rintro s _ ⟨hnone, rfl⟩
  refine accordsAt_alter ⟨hnone, ?_⟩
  unfold Session.hushed
  dsimp only
  rw [hnone, Monitor.heard_append, hevents]

theorem accords_execute (change : Store → Except Fault (Change α)) :
    RunsAlike (IsHushed outages read) (execute change) := by
  rintro s _ ⟨hnone, rfl⟩
  refine (isAccord outages read).executeAt ⟨hnone, rfl⟩ ?_
  refine (Alike.refl (change s.store)).mono ?_
  rintro outcome _ rfl
  exact ⟨rfl, rfl, hnone, rfl⟩

theorem accords_query (query : Store → Except Fault α) :
    RunsAlike (IsHushed outages read) (Proc.query query) := by
  rintro s _ ⟨hnone, rfl⟩
  exact (isAccord outages read).queryAt ⟨hnone, rfl⟩ (Alike.refl (query s.store))

/-- What follows a change that has no part in what is heard. -/
theorem accords_alter_bind {β : Type} {same : α → β → Prop} {change : Session → Session}
    {next : Proc α} {next' : Proc β} (hwhole : ∀ s, (change s).outages = s.outages)
    (hchange : ∀ s, change (s.hushed outages read) = (change s).hushed outages read)
    (hnext : Accords (IsHushed outages read) same next next') :
    Accords (IsHushed outages read) same (alter change >>= fun _ => next)
      (alter change >>= fun _ => next') := by
  have hchanged : RunsAlike (IsHushed outages read) (alter change) := by
    rintro s _ ⟨houtages, rfl⟩
    exact accordsAt_alter ⟨(hwhole s).trans houtages, hchange s⟩
  exact hchanged.bindEq fun _ => hnext

/-- What follows a value that does not tell what is heard. -/
theorem accords_ask_bind {β γ : Type} {same : β → γ → Prop} {value : Session → α}
    {next : α → Proc β} {next' : α → Proc γ}
    (hvalue : ∀ s, value (s.hushed outages read) = value s)
    (hnext : ∀ a, Accords (IsHushed outages read) same (next a) (next' a)) :
    Accords (IsHushed outages read) same (ask value >>= next) (ask value >>= next') := by
  have hasked : RunsAlike (IsHushed outages read) (ask value) := by
    rintro s _ ⟨hwhole, rfl⟩
    exact accordsAt_ask (hvalue s).symm ⟨hwhole, rfl⟩
  exact hasked.bindEq hnext

theorem accords_loadContext (words codes : Bool) :
    RunsAlike (IsHushed outages read) (Screening.loadContext words codes) :=
  Screening.accords_loadContext (isAccord outages read) words codes
    (fun _ => sharesWords outages read) fun _ _ _ h => by rw [h.store]

theorem accords_screenWith (context : Screening.Context) (scope : Scope) (id : Int) :
    RunsAlike (IsHushed outages read) (Screening.screenWith context scope id) := by
  intro s t h
  have accord := isAccord outages read
  rw [Screening.screenWith_eq]
  exact accord.atomicIfAt h (fun _ _ _ => rfl) (accords_execute _ _ _ (accord.opened h))

theorem isJobAccord (outages : Monitor.Outages)
    (read : List Monitor.Event → List Monitor.Event) :
    Job.IsAccord (IsHushed outages read) (fun _ => True) fun _ => Eq where
  toIsAccord := isAccord outages read
  registers := fun h => by rw [h.store]
  parcels := fun h => by rw [h.store]
  jobs := fun h => by rw [h.store]
  clock := (sharesWords outages read).clock
  timeLimit := fun ⟨_, h⟩ => by rw [h]; rfl
  made := fun ⟨_, h⟩ => by rw [h]; rfl
  saved := fun ⟨hnone, h⟩ _ => ⟨hnone, by rw [h]; rfl⟩
  counted := fun ⟨hnone, h⟩ => ⟨hnone, by rw [h]; rfl⟩
  begun := fun job => by
    rw [Job.tellOfStart_eq]
    exact accords_report fun outages => Monitor.heard_breadcrumb outages _ _ _ _
  failed := fun job parcel fault => by
    rw [Job.tellOfFault_eq]
    exact accords_report fun outages => Monitor.heard_capture outages _ _ _ _
  load := fun _ _ => accords_loadContext _ _
  screen := by
    rintro scope _ context _ rfl id
    exact accords_screenWith context scope id

theorem accords_run {before : Nat → Proc Unit}
    (hbefore : ∀ k, RunsAlike (IsHushed outages read) (before k))
    (handle : Option Handle) :
    RunsAlike (IsHushed outages read) (Job.run handle before) :=
  fun _ _ h => Job.accordsAt_run (isJobAccord outages read) hbefore h fun _ _ _ => trivial

theorem accords_start {before : Nat → Proc Unit}
    (hbefore : ∀ k, RunsAlike (IsHushed outages read) (before k))
    (register : Int) (scope : Scope) (runsNow : Bool) :
    RunsAlike (IsHushed outages read) (Job.start register scope runsNow before) := fun _ _ h =>
  Job.accordsAt_start (isJobAccord outages read) hbefore h (fun _ _ _ _ _ _ => trivial) runsNow

theorem accords_screenRegister {before : Nat → Proc Unit}
    (hbefore : ∀ k, RunsAlike (IsHushed outages read) (before k))
    (arguments : List String) :
    RunsAlike (IsHushed outages read) (CommandLine.screenRegister arguments before) := by
  have hfollow : ∀ options job,
      RunsAlike (IsHushed outages read) (CommandLine.follow options job before) := by
    intro options job
    have hreport : ∀ job : Job, RunsAlike (IsHushed outages read)
        (do Proc.lift (CommandLine.verdict options (← Job.progress (.text job.handle.text)))) :=
      fun job => (Job.accords_progress (isJobAccord outages read) _).bindEq fun _ =>
        accords_lift (.refl _)
    unfold CommandLine.follow
    split
    · exact (accords_run hbefore _).bindEq hreport
    · exact (accords_pure rfl).bindEq hreport
  have hperform : ∀ register options,
      RunsAlike (IsHushed outages read) (CommandLine.perform register options before) := by
    intro register options
    unfold CommandLine.perform
    refine (accords_attempt (accords_start hbefore _ _ _)).bindEq fun started => ?_
    cases started with
    | error fault => exact accords_pure rfl
    | ok job =>
      dsimp only
      split
      · refine (accords_attempt (hfollow options job)).bindEq fun followed => ?_
        cases followed <;> exact accords_pure rfl
      · exact accords_pure rfl
  unfold CommandLine.screenRegister
  split
  · exact accords_pure rfl
  · split
    · exact accords_pure rfl
    · exact hperform _ _

end IsHushed

/-! ## Operations -/

namespace Service

open IsHushed

variable {outages : Monitor.Outages} {read : List Monitor.Event → List Monitor.Event}

/-- Whether an answer is another one with the events read otherwise. -/
def Told (read : List Monitor.Event → List Monitor.Event) (answer answer' : Answer) : Prop :=
  answer' = answer.readEvents read

theorem accords_answer {α : Type} {proc : Proc α} {answer : α → Answer}
    (h : RunsAlike (IsHushed outages read) proc)
    (hanswer : ∀ a, (answer a).readEvents read = answer a) :
    Accords (IsHushed outages read) (Told read) (answer <$> proc) (answer <$> proc) :=
  fun s t hst => accordsAt_map (h s t hst) fun a _ hab => by rw [← hab]; exact (hanswer a).symm

/-- A reading that does not tell what has been reported is answered alike. -/
theorem accords_reading {reading : Store → Except Fault Answer}
    (hreading : ∀ store answer, reading store = .ok answer → answer.readEvents read = answer) :
    Accords (IsHushed outages read) (Told read) (query reading) (query reading) := by
  rintro s _ ⟨hwhole, rfl⟩
  refine (isAccord outages read).queryAt ⟨hwhole, rfl⟩ ?_
  show Alike (Told read) (reading s.store) (reading s.store)
  cases hresult : reading s.store with
  | ok answer => exact .ok (hreading s.store answer hresult).symm
  | error fault => exact .error fault

theorem accords_addCodes (keyWord : Int) (codes : List String) :
    RunsAlike (IsHushed outages read) (addCodes keyWord codes) := by
  induction codes with
  | nil => exact accords_pure rfl
  | cons code rest ih => exact (accords_execute _).bindEq fun _ => ih

theorem accords_addKeyWord (entry : WordEntry) (codes : List String) :
    RunsAlike (IsHushed outages read) (addKeyWord entry codes) :=
  (accords_execute _).bindEq fun id =>
    (accords_addCodes id codes).bindEq fun _ => accords_pure rfl

theorem accords_addExceptions (codePrefix : Int) (exceptions : List String) :
    RunsAlike (IsHushed outages read) (addExceptions codePrefix exceptions) := by
  induction exceptions with
  | nil => exact accords_pure rfl
  | cons code rest ih => exact (accords_execute _).bindEq fun _ => ih

theorem accords_addPrefix (entry : StoredPrefix) (exceptions : List String) :
    RunsAlike (IsHushed outages read) (addPrefix entry exceptions) :=
  (accords_execute _).bindEq fun id =>
    (accords_addExceptions id exceptions).bindEq fun _ => accords_pure rfl

theorem accords_addParcels (register : Int) (drafts : List Store.ParcelEdit) :
    RunsAlike (IsHushed outages read) (addParcels register drafts) := by
  unfold addParcels
  refine (accords_query _).bindEq fun found => ?_
  cases found with
  | none => exact accords_fail _
  | some own => exact accords_execute _

theorem accords_readGeneration (vocabulary : Word.Vocabulary) :
    RunsAlike (IsHushed outages read) (readGeneration vocabulary) :=
  (sharesWords outages read).accords_readGeneration vocabulary

theorem accords_compiled (vocabulary : Word.Vocabulary) :
    RunsAlike (IsHushed outages read) (compiled vocabulary) :=
  (sharesWords outages read).accords_compiled vocabulary

theorem accords_contextFor (scope : Scope) (given : Option Screening.Context) :
    RunsAlike (IsHushed outages read) (Screening.contextFor scope given) := by
  unfold Screening.contextFor
  cases given with
  | none => exact accords_loadContext _ _
  | some context =>
    dsimp only
    split
    · exact accords_pure rfl
    · exact accords_loadContext _ _

theorem accords_screen (scope : Scope) (given : Option Screening.Context) (id : Int) :
    RunsAlike (IsHushed outages read) (Screening.screen scope given id) :=
  (accords_contextFor scope given).bindEq fun context => accords_screenWith context scope id

/-- An operation is answered as if no calls failed; only of the events that are asked for there are
those alone that have been heard. -/
theorem accords_perform (operation : Operation)
    (hread : operation = .takeEvents → read = Monitor.heard outages) :
    Accords (IsHushed outages read) (Told read) (perform operation) (perform operation) := by
  have jobs := isJobAccord outages read
  cases operation with
  | addRegister register => exact accords_answer (accords_execute _) fun _ => rfl
  | addParcel register draft =>
    exact (accords_addParcels _ _).bindEq fun _ => accords_pure rfl
  | addParcels register drafts repeats =>
    refine accords_answer (accords_addParcels _ _) fun ids => ?_
    unfold Answer.ofIds
    split
    · rfl
    · split <;> rfl
  | updateParcel parcel edit => exact accords_answer (accords_execute _) fun _ => rfl
  | delete entity id => exact accords_answer (accords_execute _) fun _ => rfl
  | addStopWord entry => exact accords_answer (accords_execute _) fun _ => rfl
  | addKeyWord entry codes => exact accords_answer (accords_addKeyWord entry codes) fun _ => rfl
  | addKeyWordCode entry => exact accords_answer (accords_execute _) fun _ => rfl
  | saveKeyWordCode id edit => exact accords_answer (accords_execute _) fun _ => rfl
  | saveWord vocabulary id edit => exact accords_answer (accords_execute _) fun _ => rfl
  | updateWord vocabulary id edit => exact accords_answer (accords_execute _) fun _ => rfl
  | addOrder order => exact accords_answer (accords_execute _) fun _ => rfl
  | setOrder id enabled => exact accords_answer (accords_execute _) fun _ => rfl
  | addPrefix entry exceptions =>
    exact accords_answer (accords_addPrefix entry exceptions) fun _ => rfl
  | addCatalogueCode code validFrom validTo =>
    exact accords_answer ((accords_lift (.refl _)).bindEq fun _ =>
      (accords_lift (.refl _)).bindEq fun _ => accords_execute _) fun _ => rfl
  | link parcel target => exact accords_answer (accords_execute _) fun _ => rfl
  | showState =>
    show Accords _ _ showState showState
    refine accords_reading fun store answer h => ?_
    cases h
    rfl
  | advance seconds =>
    exact accords_alter_bind (fun _ => rfl) (fun _ => rfl)
      (accords_ask_bind (fun _ => rfl) fun _ => accords_pure rfl)
  | setTimeLimit seconds =>
    exact accords_alter_bind (fun _ => rfl) (fun _ => rfl) (accords_pure rfl)
  | setBackend backend =>
    refine accords_alter_bind (fun _ => rfl) (fun _ => rfl) ?_
    split
    · exact accords_pure rfl
    · exact accords_fail _
  | takeEvents =>
    obtain rfl := hread rfl
    rintro s _ ⟨hwhole, rfl⟩
    exact .of_runs rfl rfl (.ok rfl) ⟨hwhole, rfl⟩
  | raise kind message => exact accords_fail _
  | showMatcher vocabulary =>
    exact (accords_compiled vocabulary).bindEq fun _ => accords_ask_bind (fun _ => rfl) fun _ =>
      accords_alter_bind (fun _ => rfl) (fun _ => rfl)
        ((accords_readGeneration vocabulary).bindEq fun _ => accords_pure rfl)
  | matchText vocabulary text =>
    exact (accords_compiled vocabulary).bindEq fun _ => accords_pure rfl
  | generation vocabulary => exact accords_answer (accords_readGeneration vocabulary) fun _ => rfl
  | bump vocabulary =>
    exact accords_alter_bind (fun _ => rfl) (fun _ => rfl)
      (accords_answer (accords_readGeneration vocabulary) fun _ => rfl)
  | evict vocabulary =>
    exact accords_ask_bind (fun _ => rfl) fun _ =>
      accords_alter_bind (fun _ => rfl) (fun _ => rfl) (accords_pure rfl)
  | clearMatchers =>
    exact accords_alter_bind (fun _ => rfl) (fun _ => rfl) (accords_pure rfl)
  | classify codes =>
    exact (accords_query _).bindEq fun _ => accords_pure rfl
  | codesInForce day =>
    show Accords _ _ (codesInForce day) (codesInForce day)
    cases day with
    | none =>
      refine accords_ask_bind (fun _ => rfl) fun _ => accords_reading fun store answer h => ?_
      cases h
      rfl
    | some date =>
      refine (accords_lift (.refl _)).bindEq fun _ => accords_reading fun store answer h => ?_
      cases h
      rfl
  | priority parcel catalogue =>
    refine accords_ask_bind (fun _ => rfl) fun _ => accords_reading fun store answer h => ?_
    split at h
    · cases h
    · split at h <;> cases h
      rfl
  | next query cursor =>
    refine accords_ask_bind (fun _ => rfl) fun today => accords_reading fun store answer h => ?_
    cases hnext : Paging.next store today query cursor with
    | ok id =>
      rw [hnext] at h
      cases h
      rfl
    | error fault =>
      rw [hnext] at h
      cases h
  | walk query cursor limit =>
    refine accords_ask_bind (fun _ => rfl) fun today => accords_reading fun store answer h => ?_
    cases hwalk : Paging.walk store today query limit cursor with
    | ok way =>
      rw [hwalk] at h
      cases h
      rfl
    | error fault =>
      rw [hwalk] at h
      cases h
  | loadContext name words codes =>
    exact (accords_loadContext words codes).bindEq fun _ =>
      accords_alter_bind (fun _ => rfl) (fun _ => rfl) (accords_pure rfl)
  | screen parcel scope context =>
    exact accords_ask_bind (fun _ => rfl) fun _ => (accords_screen _ _ _).bindEq fun _ =>
      accords_pure rfl
  | openParcels register =>
    show Accords _ _ (openParcels register) (openParcels register)
    refine accords_reading fun store answer h => ?_
    split at h <;> cases h
    rfl
  | start register kind runsNow =>
    show Accords _ _ (start register kind runsNow) (start register kind runsNow)
    unfold start
    split
    · exact accords_fail _
    · exact (accords_start (fun _ => accords_pure rfl) _ _ _).bindEq fun _ => accords_pure rfl
  | progress handle => exact accords_answer (Job.accords_progress jobs handle) fun _ => rfl
  | cancel handle => exact accords_answer (Job.accords_cancel jobs handle) fun _ => rfl
  | showJob handle =>
    refine (accords_query _).bindEq fun found => ?_
    cases found with
    | none => exact accords_fail _
    | some row => exact (Job.accords_isOverdue jobs _).bindEq fun _ => accords_pure rfl
  | markStarted handle total => exact accords_answer (Job.accords_markStarted jobs _ _) fun _ => rfl

/-! ## Requests -/

theorem accords_answered {proc : Proc Answer}
    (h : Accords (IsHushed outages read) (Told read) proc proc) :
    Accords (IsHushed outages read) (Told read) (answered proc) (answered proc) := by
  intro s t hst
  unfold answered
  refine accordsAt_bind (accordsAt_attempt (h s t hst)) fun result result' u v _ _ halike huv => ?_
  cases halike with
  | ok htold => exact accordsAt_pure htold huv
  | error fault => exact accordsAt_pure rfl huv

theorem accords_doWork {before : Nat → Proc Unit}
    (hbefore : ∀ k, RunsAlike (IsHushed outages read) (before k)) (work : Work) :
    Accords (IsHushed outages read) (Told read) (doWork before work) (doWork before work) := by
  cases work with
  | run handle => exact accords_answer (accords_run hbefore _) fun _ => rfl
  | task handle => exact accords_answer (accords_run hbefore _) fun _ => rfl
  | command arguments =>
    exact (accords_screenRegister hbefore arguments).bindEq fun _ => accords_pure rfl

/-- Answers that were given before are put aside and put back alike. -/
theorem accords_interrupted {before : Nat → Proc Unit}
    (hbefore : ∀ k, RunsAlike (IsHushed outages read) (before k)) (work : Work) :
    Accords (IsHushed outages read) (Told read) (interrupted before work)
      (interrupted before work) := by
  have hasked : Accords (IsHushed outages read)
      (fun answers answers' => answers' = Answer.readAllEvents read answers)
      (ask (·.transcript)) (ask (·.transcript)) := by
    rintro s _ ⟨hwhole, rfl⟩
    exact accordsAt_ask rfl ⟨hwhole, rfl⟩
  unfold interrupted
  refine hasked.bind fun outer outer' houter => accords_alter_bind (fun _ => rfl) (fun _ => rfl) ?_
  refine (accords_answered (accords_doWork hbefore work)).bind fun answer answer' hanswer =>
    hasked.bind fun meanwhile meanwhile' hmeanwhile => ?_
  rintro s _ ⟨hwhole, rfl⟩
  subst houter hanswer hmeanwhile
  refine .of_runs rfl rfl (.ok ?_) ⟨hwhole, rfl⟩
  unfold Told
  rw [Answer.readEvents]

theorem hasNoFault_readAllEvents (answers : List Answer) :
    hasNoFault (Answer.readAllEvents read answers) = hasNoFault answers := by
  unfold hasNoFault
  induction answers with
  | nil => rfl
  | cons answer rest ih =>
    rw [Answer.readAllEvents, List.all_cons, List.all_cons, ih, Answer.fault?_readEvents]

theorem accords_note {answer answer' : Answer} (h : Told read answer answer') :
    Accords (IsHushed outages read) Eq (note answer) (note answer') := by
  rintro s _ ⟨hwhole, rfl⟩
  refine accordsAt_alter ⟨hwhole, ?_⟩
  unfold Session.hushed
  dsimp only
  rw [Answer.readAllEvents_append, h]
  rfl

mutual

/-- A request is served as if no calls failed, up to what is heard. -/
theorem accords_serve (request : Request) (hread : ∀ operation ∈ request.operations,
      operation = .takeEvents → read = Monitor.heard outages) :
    Accords (IsHushed outages read) (Told read) (serve request) (serve request) := by
  cases request with
  | single operation =>
    unfold serve
    refine accords_answered (accords_perform operation (hread operation ?_))
    unfold Request.operations
    exact List.mem_singleton_self operation
  | block requests =>
    unfold serve
    unfold Request.operations at hread
    refine accords_answered fun s t h => ?_
    refine accordsAt_map ((isAccord outages read).atomicIfAt h ?_
      (accords_serveUntilFault requests hread _ _ ((isAccord outages read).opened h))) ?_
    · rintro answers _ rfl
      exact hasNoFault_readAllEvents answers
    · rintro answers _ rfl
      unfold Told blockOf
      rw [Answer.readEvents, hasNoFault_readAllEvents]
  | work work interludes =>
    cases interludes with
    | none =>
      unfold serve
      exact accords_answered (accords_doWork (fun _ => accords_pure rfl) work)
    | some interludes =>
      unfold serve
      unfold Request.operations at hread
      exact accords_interrupted (fun k => accords_serveInterludes interludes hread k) work

theorem accords_serveUntilFault (requests : List Request)
    (hread : ∀ operation ∈ Request.operationsOfAll requests,
      operation = .takeEvents → read = Monitor.heard outages) :
    Accords (IsHushed outages read)
      (fun answers answers' => answers' = Answer.readAllEvents read answers)
      (serveUntilFault requests) (serveUntilFault requests) := by
  cases requests with
  | nil =>
    unfold serveUntilFault
    exact accords_pure rfl
  | cons request rest =>
    unfold Request.operationsOfAll at hread
    rw [List.forall_mem_append] at hread
    unfold serveUntilFault
    refine (accords_serve request hread.1).bind fun answer answer' htold => ?_
    subst htold
    rw [Answer.fault?_readEvents]
    split
    · exact accords_pure rfl
    · refine (accords_serveUntilFault rest hread.2).bind ?_
      rintro answers _ rfl
      exact accords_pure rfl

theorem accords_serveInterludes (interludes : List Interlude)
    (hread : ∀ operation ∈ Request.operationsMeanwhile interludes,
      operation = .takeEvents → read = Monitor.heard outages) (k : Nat) :
    RunsAlike (IsHushed outages read) (serveInterludes interludes k) := by
  cases interludes with
  | nil =>
    unfold serveInterludes
    exact accords_pure rfl
  | cons interlude rest =>
    unfold Request.operationsMeanwhile at hread
    rw [List.forall_mem_append] at hread
    unfold serveInterludes
    exact (accords_serveInterlude interlude hread.1 k).bindEq fun _ =>
      accords_serveInterludes rest hread.2 k

theorem accords_serveInterlude (interlude : Interlude)
    (hread : ∀ operation ∈ Request.operationsOfInterlude interlude,
      operation = .takeEvents → read = Monitor.heard outages) (k : Nat) :
    RunsAlike (IsHushed outages read) (serveInterlude interlude k) := by
  cases interlude with
  | mk position requests =>
    unfold Request.operationsOfInterlude at hread
    unfold serveInterlude
    split
    · exact accords_serveMeanwhile requests hread
    · exact accords_pure rfl

theorem accords_serveMeanwhile (requests : List Request)
    (hread : ∀ operation ∈ Request.operationsOfAll requests,
      operation = .takeEvents → read = Monitor.heard outages) :
    RunsAlike (IsHushed outages read) (serveMeanwhile requests) := by
  cases requests with
  | nil =>
    unfold serveMeanwhile
    exact accords_pure rfl
  | cons request rest =>
    unfold Request.operationsOfAll at hread
    rw [List.forall_mem_append] at hread
    unfold serveMeanwhile
    split
    · exact accords_fail _
    · exact (accords_serve request hread.1).bind fun _ _ htold =>
        (accords_note htold).bindEq fun _ => accords_serveMeanwhile rest hread.2

end

theorem accords_serveAll (requests : List Request)
    (hread : ∀ operation ∈ Request.operationsOfAll requests,
      operation = .takeEvents → read = Monitor.heard outages) :
    Accords (IsHushed outages read)
      (fun answers answers' => answers' = Answer.readAllEvents read answers)
      (serveAll requests) (serveAll requests) := by
  induction requests with
  | nil => exact accords_pure rfl
  | cons request rest ih =>
    unfold Request.operationsOfAll at hread
    rw [List.forall_mem_append] at hread
    unfold serveAll
    refine (accords_serve request hread.1).bind fun answer answer' htold => (ih hread.2).bind ?_
    rintro answers _ rfl
    subst htold
    exact accords_pure rfl

/-! ## Histories -/

/-- What comes of requests of which those for events read them as they are heard. -/
theorem serveAll_hushed (backend : Word.Backend) {outages : Monitor.Outages}
    {read : List Monitor.Event → List Monitor.Event} {requests : List Request}
    (hread : ∀ operation ∈ Request.operationsOfAll requests,
      operation = .takeEvents → read = Monitor.heard outages) :
    (serveAll requests (Session.start backend outages)).2 =
        (serveAll requests (Session.start backend .none)).2.hushed outages read ∧
      answers backend outages requests =
        Answer.readAllEvents read (answers backend .none requests) := by
  have hstart : IsHushed outages read (Session.start backend .none)
      (Session.start backend outages) := ⟨rfl, rfl⟩
  obtain ⟨hresult, hsessions⟩ := accords_serveAll requests hread _ _ hstart
  refine ⟨hsessions.hushed, ?_⟩
  unfold answers
  generalize (serveAll requests (Session.start backend .none)).1 = first at hresult ⊢
  generalize (serveAll requests (Session.start backend outages)).1 = second at hresult ⊢
  cases hresult with
  | ok hanswers => exact hanswers
  | error fault => rfl

/-- Whatever calls to the monitor fail, the same is stored after all requests, and answered to them
unless they ask for what has been reported. What is reported, now and in answers, is what would be
reported if no calls failed, in the same order and without what is not heard then. -/
theorem monitoring_apart (backend : Word.Backend) (outages other : Monitor.Outages)
    (requests : List Request) :
    let after := fun outages => (serveAll requests (Session.start backend outages)).2
    (after outages).store = (after other).store ∧
    ((∀ operation ∈ Request.operationsOfAll requests, operation ≠ .takeEvents) →
      answers backend outages requests = answers backend other requests) ∧
    answers backend outages requests =
      Answer.readAllEvents (Monitor.heard outages) (answers backend .none requests) ∧
    (after outages).events = Monitor.heard outages (after .none).events := by
  intro after
  have hall : ∀ outages,
      after outages = (after .none).hushed outages (Monitor.heard outages) ∧
      answers backend outages requests =
        Answer.readAllEvents (Monitor.heard outages) (answers backend .none requests) :=
    fun outages => serveAll_hushed backend fun _ _ _ => rfl
  have hstores : ∀ outages, (after outages).store = (after .none).store := by
    intro outages
    rw [(hall outages).1]
    rfl
  have hevents : (after outages).events = Monitor.heard outages (after .none).events := by
    rw [(hall outages).1]
    rfl
  refine ⟨(hstores outages).trans (hstores other).symm, fun hnone => ?_, (hall outages).2, hevents⟩
  have hsame : ∀ outages, answers backend outages requests = answers backend .none requests := by
    intro outages
    have hread := (@serveAll_hushed backend outages (fun told => told) requests
      fun operation hmem htaken => absurd htaken (hnone operation hmem)).2
    rwa [Answer.readAllEvents_self] at hread
  rw [hsame outages, hsame other]

/-- A job that fails as no engine comes of the backend. -/
def engineless : List Request :=
  [.single (.addRegister ⟨"R", "import"⟩), .single (.start 1 (.text "full") true)]

/-- The job fails in the same way where no breadcrumb can be left and no exception be captured. Of
its nine events the two breadcrumbs and the exception are missing then. -/
theorem monitoring_apart_engineless :
    let s := (serveAll engineless (Session.start .missingClass .none)).2
    let t := (serveAll engineless (Session.start .missingClass ⟨true, false, true⟩)).2
    t.store.jobs.rows.map (·.val.status) = [.failed] ∧ t.store = s.store ∧
      answers .missingClass ⟨true, false, true⟩ engineless =
        answers .missingClass .none engineless ∧
      s.events.length = 9 ∧ t.events = Monitor.heard ⟨true, false, true⟩ s.events ∧
      t.events.length = 6 := by
  intro s t
  obtain ⟨hstore, hanswers, _, hevents⟩ :=
    monitoring_apart .missingClass ⟨true, false, true⟩ .none engineless
  refine ⟨by decide +kernel, hstore, hanswers ?_, by decide +kernel, hevents, by decide +kernel⟩
  have hasked : Request.operationsOfAll engineless =
      [.addRegister ⟨"R", "import"⟩, .start 1 (.text "full") true] := by rfl
  rw [hasked]
  intro operation hmem htaken
  subst htaken
  simp at hmem

end Service

end Clearance

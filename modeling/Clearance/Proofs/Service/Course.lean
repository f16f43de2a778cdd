import Clearance.Proofs.Job.Course
import Clearance.Service.Serve

/-!
# Requests along the course of a session

Whatever is asked for, a request is made of edits, blocks, compilations and jobs. So a course that
jobs follow is followed by every request, with all that is served while a job waits, if it is
followed by the few operations that are none of these: the edit of a word in place, a generation
moved by hand, the loss of a counter, the passing of time, and a job marked as started by hand.
-/

set_option autoImplicit false

namespace Clearance

open Proc

namespace Request

mutual

/-- The operations that a request asks for, those of its blocks and interludes included. -/
def operations : Request → List Operation
  | .single operation => [operation]
  | .block requests => operationsOfAll requests
  | .work _ none => []
  | .work _ (some interludes) => operationsMeanwhile interludes

/-- The operations that requests ask for. -/
def operationsOfAll : List Request → List Operation
  | [] => []
  | request :: rest => request.operations ++ operationsOfAll rest

/-- The operations that interludes ask for. -/
def operationsMeanwhile : List Interlude → List Operation
  | [] => []
  | interlude :: rest => operationsOfInterlude interlude ++ operationsMeanwhile rest

/-- The operations that an interlude asks for. -/
def operationsOfInterlude : Interlude → List Operation
  | .mk _ requests => operationsOfAll requests

end

theorem operationsOfAll_append (requests more : List Request) :
    operationsOfAll (requests ++ more) = operationsOfAll requests ++ operationsOfAll more := by
  induction requests with
  | nil =>
    unfold operationsOfAll
    rfl
  | cons request rest ih =>
    rw [List.cons_append, operationsOfAll, operationsOfAll, ih, List.append_assoc]

end Request

/-- Whether an operation takes no job without looking at its stage. -/
def Operation.respectsStages : Operation → Bool
  | markStarted _ _ => false
  | _ => true

/-- Whether an operation does not turn back the clock. -/
def Operation.keepsTime : Operation → Bool
  | advance seconds => decide (0 ≤ seconds)
  | _ => true

namespace Service

/-- A course that jobs follow and, of some operations, those that are not made of edits, blocks,
compilations and jobs. -/
structure IsCourse (asked : Operation → Prop) (rel : Session → Session → Prop) : Prop
    extends Proc.IsCourse rel where
  request : ∀ register scope, Follows rel (Job.request register scope)
  cancel : ∀ handle, Follows rel (Job.cancel handle)
  run : ∀ {meanwhile : Job.Meanwhile}, (∀ k, Follows rel (meanwhile.before k)) →
    ∀ handle, Follows rel (Job.run handle meanwhile)
  updateWord : ∀ vocabulary id edit, asked (.updateWord vocabulary id edit) →
    Follows rel (execute fun store => store.updateWord vocabulary id edit)
  bumped : ∀ vocabulary, asked (.bump vocabulary) → ∀ s : Session, rel s (s.bump vocabulary)
  evict : ∀ vocabulary, asked (.evict vocabulary) → ∀ s : Session, rel s (s.evict vocabulary)
  advance : ∀ seconds, asked (.advance seconds) →
    ∀ s : Session, rel s { s with clock := s.clock + seconds }
  markStarted : ∀ handle total, asked (.markStarted handle total) →
    Follows rel (Job.markStarted (Handle.ofLiteral? handle) total)

variable {asked : Operation → Prop} {rel : Session → Session → Prop} (course : IsCourse asked rel)

include course

theorem follows_start {before : Nat → Proc Unit} (hbefore : ∀ k, Follows rel (before k))
    (register : Int) (scope : Scope) (runsNow : Bool) :
    Follows rel (Job.start register scope runsNow before) := by
  unfold Job.start
  refine course.bind (course.request register scope) fun made => ?_
  obtain ⟨job, isNew⟩ := made
  dsimp only
  split
  · exact course.bind (course.run hbefore _) fun _ => course.pure _
  · exact course.pure _

theorem follows_follow {before : Nat → Proc Unit} (hbefore : ∀ k, Follows rel (before k))
    (options : CommandLine.Options) (job : Job) :
    Follows rel (CommandLine.follow options job before) := by
  have hreport : ∀ job : Job, Follows rel (do
      Proc.lift (CommandLine.verdict options (← Job.progress (.text job.handle.text)))) :=
    fun job => course.bind (Job.follows_progress course.toIsCourse _) fun _ => course.lift _
  unfold CommandLine.follow
  split
  · exact course.bind (course.run hbefore _) fun job => hreport job
  · exact course.bind (course.pure job) fun job => hreport job

theorem follows_screenRegister {before : Nat → Proc Unit} (hbefore : ∀ k, Follows rel (before k))
    (arguments : List String) : Follows rel (CommandLine.screenRegister arguments before) := by
  have hperform : ∀ register options,
      Follows rel (CommandLine.perform register options before) := by
    intro register options
    unfold CommandLine.perform
    refine course.bind (follows_attempt (follows_start course hbefore _ _ _)) fun started => ?_
    cases started with
    | error fault => exact course.pure _
    | ok job =>
      dsimp only
      split
      · refine course.bind (follows_attempt (follows_follow course hbefore _ _)) fun followed => ?_
        cases followed <;> exact course.pure _
      · exact course.pure _
  unfold CommandLine.screenRegister
  split
  · exact course.pure _
  · split
    · exact course.pure _
    · exact hperform _ _

/-! ## Operations -/

/-- Rows added one by one are added by edits. -/
theorem follows_addKeyWord (entry : WordEntry) (codes : List String) :
    Follows rel (addKeyWord entry codes) := by
  have hcodes : ∀ (keyWord : Int) (codes : List String), Follows rel (addCodes keyWord codes) := by
    intro keyWord codes
    induction codes with
    | nil => exact course.pure _
    | cons code rest ih =>
      exact course.bind (course.edit (Store.isEdit_addKeyWordCode ⟨keyWord, code⟩)) fun _ => ih
  exact course.bind (course.edit (Store.isEdit_addWord _ _)) fun id =>
    course.bind (hcodes id codes) fun _ => course.pure _

theorem follows_addPrefix (entry : StoredPrefix) (exceptions : List String) :
    Follows rel (addPrefix entry exceptions) := by
  have hexceptions : ∀ (codePrefix : Int) (exceptions : List String),
      Follows rel (addExceptions codePrefix exceptions) := by
    intro codePrefix exceptions
    induction exceptions with
    | nil => exact course.pure _
    | cons code rest ih =>
      exact course.bind (course.edit (Store.isEdit_addException ⟨codePrefix, code⟩)) fun _ => ih
  exact course.bind (course.edit (Store.isEdit_addPrefix _)) fun id =>
    course.bind (hexceptions id exceptions) fun _ => course.pure _

theorem follows_addParcels (register : Int) (drafts : List Store.ParcelEdit) :
    Follows rel (addParcels register drafts) := by
  unfold addParcels
  refine course.bind (course.query _) fun found => ?_
  cases found with
  | none => exact course.fail _
  | some own => exact course.edit (Store.isEdit_addParcels _)

/-- Changing what has no part in the course, and then answering. -/
theorem follows_alter_bind {α : Type} {change : Session → Session} {next : Proc α}
    (h : ∀ s : Session, s.SameRecord (change s)) (hnext : Follows rel next) :
    Follows rel (alter change >>= fun _ => next) :=
  course.bind (course.alter h) fun _ => hnext

theorem follows_perform (operation : Operation) (h : asked operation) :
    Follows rel (perform operation) := by
  cases operation with
  | addRegister register => exact course.map _ (course.edit (Store.isEdit_addRegister register))
  | addParcel register draft =>
    exact course.bind (follows_addParcels course _ _) fun _ => course.pure _
  | addParcels register drafts repeats => exact course.map _ (follows_addParcels course _ _)
  | updateParcel parcel edit => exact course.map _ (course.edit (Store.isEdit_updateParcel _ _))
  | delete entity id => exact course.map _ (course.edit (Store.isEdit_delete entity id))
  | addStopWord entry => exact course.map _ (course.edit (Store.isEdit_addWord _ _))
  | addKeyWord entry codes => exact course.map _ (follows_addKeyWord course entry codes)
  | addKeyWordCode entry => exact course.map _ (course.edit (Store.isEdit_addKeyWordCode entry))
  | saveKeyWordCode id edit =>
    exact course.map _ (course.edit (Store.isEdit_saveKeyWordCode id edit))
  | saveWord vocabulary id edit => exact course.map _ (course.edit (Store.isEdit_saveWord _ _ _))
  | updateWord vocabulary id edit => exact course.map _ (course.updateWord _ _ _ h)
  | addOrder order => exact course.map _ (course.edit (Store.isEdit_addOrder order))
  | setOrder id enabled => exact course.map _ (course.edit (Store.isEdit_setOrder id enabled))
  | addPrefix entry exceptions => exact course.map _ (follows_addPrefix course entry exceptions)
  | addCatalogueCode code validFrom validTo =>
    exact course.map _ (course.bind (course.lift _) fun _ => course.bind (course.lift _) fun _ =>
      course.edit (Store.isEdit_addCatalogueCode _))
  | link parcel target => exact course.map _ (course.edit (Store.isEdit_addLink _ _))
  | showState => exact course.query _
  | advance seconds =>
    exact course.bind (fun s => course.advance seconds h s) fun _ =>
      course.bind (course.ask _) fun _ => course.pure _
  | setTimeLimit seconds =>
    exact follows_alter_bind course (fun _ => ⟨rfl, rfl, rfl, rfl, rfl, rfl, rfl, rfl⟩)
      (course.pure _)
  | setBackend backend =>
    refine follows_alter_bind course (fun _ => ⟨rfl, rfl, rfl, rfl, rfl, rfl, rfl, rfl⟩) ?_
    split
    · exact course.pure _
    · exact course.fail _
  | takeEvents =>
    exact course.bind (course.ask _) fun _ =>
      follows_alter_bind course (fun _ => ⟨rfl, rfl, rfl, rfl, rfl, rfl, rfl, rfl⟩) (course.pure _)
  | raise kind message => exact course.fail _
  | showMatcher vocabulary =>
    exact course.bind (course.compiled _) fun _ => course.bind (course.ask _) fun _ =>
      follows_alter_bind course (fun _ => ⟨rfl, rfl, rfl, rfl, rfl, rfl, rfl, rfl⟩)
        (course.bind (course.readGeneration _) fun _ => course.pure _)
  | matchText vocabulary text => exact course.bind (course.compiled _) fun _ => course.pure _
  | generation vocabulary => exact course.map _ (course.readGeneration _)
  | bump vocabulary =>
    exact course.bind (fun s => course.bumped vocabulary h s) fun _ =>
      course.map _ (course.readGeneration _)
  | evict vocabulary =>
    exact course.bind (course.ask _) fun _ =>
      course.bind (fun s => course.evict vocabulary h s) fun _ => course.pure _
  | clearMatchers => exact course.bind (fun s => course.cleared s) fun _ => course.pure _
  | classify codes => exact course.bind (course.query _) fun _ => course.pure _
  | codesInForce day =>
    show Follows rel (codesInForce day)
    cases day with
    | none => exact course.bind (course.ask _) fun _ => course.query _
    | some date => exact course.bind (course.lift _) fun _ => course.query _
  | priority parcel catalogue => exact course.bind (course.ask _) fun _ => course.query _
  | next query cursor => exact course.bind (course.ask _) fun _ => course.query _
  | walk query cursor limit => exact course.bind (course.ask _) fun _ => course.query _
  | loadContext name words codes =>
    exact course.bind (course.loadContext _ _) fun _ =>
      follows_alter_bind course (fun _ => ⟨rfl, rfl, rfl, rfl, rfl, rfl, rfl, rfl⟩) (course.pure _)
  | screen parcel scope context =>
    exact course.bind (course.ask _) fun _ => course.bind (course.screen _ _ _) fun _ =>
      course.pure _
  | openParcels register => exact course.query _
  | start register kind runsNow =>
    show Follows rel (start register kind runsNow)
    unfold start
    split
    · exact course.fail _
    · exact course.bind (follows_start course (fun _ => course.pure _) _ _ _) fun _ =>
        course.pure _
  | progress handle => exact course.map _ (Job.follows_progress course.toIsCourse handle)
  | cancel handle => exact course.map _ (course.cancel handle)
  | showJob handle =>
    refine course.bind (course.query _) fun found => ?_
    cases found with
    | none => exact course.fail _
    | some row => exact course.bind (Job.follows_isOverdue course.toIsCourse _) fun _ =>
        course.pure _
  | markStarted handle total => exact course.map _ (course.markStarted _ _ h)

/-! ## Requests -/

theorem followsAt_answered {proc : Proc Answer} {s : Session} (h : FollowsAt rel s proc) :
    FollowsAt rel s (answered proc) := by
  have hattempt : FollowsAt rel s (attempt proc) := h
  unfold answered
  refine course.bindAt hattempt fun result t _ => ?_
  cases result <;> exact course.pure _ t

theorem follows_answered {proc : Proc Answer} (h : Follows rel proc) :
    Follows rel (answered proc) := fun s => followsAt_answered course (h s)

theorem follows_doWork {before : Nat → Proc Unit} (hbefore : ∀ k, Follows rel (before k))
    (work : Work) : Follows rel (doWork before work) := by
  cases work with
  | run handle => exact course.map _ (course.run hbefore _)
  | task handle => exact course.map _ (course.run hbefore _)
  | command arguments =>
    exact course.bind (follows_screenRegister course hbefore arguments) fun _ => course.pure _

theorem follows_interrupted {before : Nat → Proc Unit} (hbefore : ∀ k, Follows rel (before k))
    (work : Work) : Follows rel (interrupted before work) :=
  course.bind (course.ask _) fun _ =>
    follows_alter_bind course (fun _ => ⟨rfl, rfl, rfl, rfl, rfl, rfl, rfl, rfl⟩)
      (course.bind (follows_answered course (follows_doWork course hbefore work)) fun _ =>
        course.bind (course.ask _) fun _ =>
          follows_alter_bind course (fun _ => ⟨rfl, rfl, rfl, rfl, rfl, rfl, rfl, rfl⟩)
            (course.pure _))

mutual

/-- Serving a request follows a course that the operations asked for follow. -/
theorem follows_serve (request : Request) (h : ∀ operation ∈ request.operations, asked operation) :
    Follows rel (serve request) := by
  cases request with
  | single operation =>
    unfold serve
    refine follows_answered course (follows_perform course operation (h operation ?_))
    unfold Request.operations
    exact List.mem_singleton_self operation
  | block requests =>
    unfold serve
    unfold Request.operations at h
    exact follows_answered course (course.map _ (course.atomicIf
      (follows_serveUntilFault requests h)))
  | work work interludes =>
    cases interludes with
    | none =>
      unfold serve
      exact follows_answered course (follows_doWork course (fun _ => course.pure _) work)
    | some interludes =>
      unfold serve
      unfold Request.operations at h
      exact follows_interrupted course (fun k => follows_serveInterludes interludes h k) work

theorem follows_serveUntilFault (requests : List Request)
    (h : ∀ operation ∈ Request.operationsOfAll requests, asked operation) :
    Follows rel (serveUntilFault requests) := by
  cases requests with
  | nil =>
    unfold serveUntilFault
    exact course.pure _
  | cons request rest =>
    unfold Request.operationsOfAll at h
    rw [List.forall_mem_append] at h
    unfold serveUntilFault
    refine course.bind (follows_serve request h.1) fun answer => ?_
    split
    · exact course.pure _
    · exact course.bind (follows_serveUntilFault rest h.2) fun _ => course.pure _

theorem follows_serveInterludes (interludes : List Interlude)
    (h : ∀ operation ∈ Request.operationsMeanwhile interludes, asked operation) (k : Nat) :
    Follows rel (serveInterludes interludes k) := by
  cases interludes with
  | nil =>
    unfold serveInterludes
    exact course.pure _
  | cons interlude rest =>
    unfold Request.operationsMeanwhile at h
    rw [List.forall_mem_append] at h
    unfold serveInterludes
    exact course.bind (follows_serveInterlude interlude h.1 k) fun _ =>
      follows_serveInterludes rest h.2 k

theorem follows_serveInterlude (interlude : Interlude)
    (h : ∀ operation ∈ Request.operationsOfInterlude interlude, asked operation) (k : Nat) :
    Follows rel (serveInterlude interlude k) := by
  cases interlude with
  | mk position requests =>
    unfold Request.operationsOfInterlude at h
    unfold serveInterlude
    split
    · exact follows_serveMeanwhile requests h
    · exact course.pure _

theorem follows_serveMeanwhile (requests : List Request)
    (h : ∀ operation ∈ Request.operationsOfAll requests, asked operation) :
    Follows rel (serveMeanwhile requests) := by
  cases requests with
  | nil =>
    unfold serveMeanwhile
    exact course.pure _
  | cons request rest =>
    unfold Request.operationsOfAll at h
    rw [List.forall_mem_append] at h
    unfold serveMeanwhile
    split
    · exact course.fail _
    · exact course.bind (follows_serve request h.1) fun _ =>
        course.bind (course.alter fun _ => ⟨rfl, rfl, rfl, rfl, rfl, rfl, rfl, rfl⟩) fun _ =>
          follows_serveMeanwhile rest h.2

end

/-- All sessions follow a course that the operations asked for follow. -/
theorem follows_serveAll (requests : List Request)
    (h : ∀ operation ∈ Request.operationsOfAll requests, asked operation) :
    Follows rel (serveAll requests) := by
  induction requests with
  | nil => exact course.pure _
  | cons request rest ih =>
    unfold Request.operationsOfAll at h
    rw [List.forall_mem_append] at h
    exact course.bind (follows_serve course request h.1) fun _ => course.bind (ih h.2) fun _ =>
      course.pure _

omit course

/-! ## Requests are always answered -/

/-- What is answered to a procedure that may fail. -/
def answerOf : Except Fault Answer → Answer
  | .ok answer => answer
  | .error fault => .failed fault

theorem answered_apply (proc : Proc Answer) (s : Session) :
    answered proc s = (.ok (answerOf (proc s).1), (proc s).2) := by
  have hattempt : attempt proc s = (.ok (proc s).1, (proc s).2) := rfl
  unfold answered
  rw [bind_of_ok hattempt]
  cases (proc s).1 <;> rfl

theorem exists_interrupted (before : Nat → Proc Unit) (work : Work) (s : Session) :
    ∃ answer t, interrupted before work s = (.ok answer, t) := by
  have hanswered := answered_apply (doWork before work) { s with transcript := [] }
  have hbegun : (alter fun s => { s with transcript := [] }) s =
      (.ok (), { s with transcript := [] }) := rfl
  unfold interrupted
  rw [bind_of_ok (ask_apply _ s), bind_of_ok hbegun, bind_of_ok hanswered]
  exact ⟨_, _, rfl⟩

theorem exists_serve (request : Request) (s : Session) :
    ∃ answer t, serve request s = (.ok answer, t) := by
  cases request with
  | single operation =>
    unfold serve
    exact ⟨_, _, answered_apply _ s⟩
  | block requests =>
    unfold serve
    exact ⟨_, _, answered_apply _ s⟩
  | work job interludes =>
    cases interludes with
    | none =>
      unfold serve
      exact ⟨_, _, answered_apply _ s⟩
    | some interludes =>
      unfold serve
      exact exists_interrupted _ job s

/-- Requests are served one after the other, whatever is answered. -/
theorem serveAll_cons_snd (request : Request) (rest : List Request) (s : Session) :
    (serveAll (request :: rest) s).2 = (serveAll rest (serve request s).2).2 := by
  obtain ⟨answer, t, hserve⟩ := exists_serve request s
  have hfirst : serveAll (request :: rest) s =
      (serveAll rest >>= fun answers => pure (answer :: answers)) t := by
    conv => lhs; unfold serveAll
    rw [bind_of_ok hserve]
  rw [hfirst, hserve, bind_apply]
  cases serveAll rest t with
  | mk result u => cases result <;> rfl

theorem serveAll_append_snd (requests more : List Request) (s : Session) :
    (serveAll (requests ++ more) s).2 = (serveAll more (serveAll requests s).2).2 := by
  induction requests generalizing s with
  | nil => rfl
  | cons request rest ih =>
    rw [List.cons_append, serveAll_cons_snd, ih, serveAll_cons_snd]

end Service

end Clearance

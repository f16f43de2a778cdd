import Clearance.Proofs.Job.Accord
import Clearance.Proofs.Job.Flight
import Clearance.Proofs.Screening.Halves

/-!
# Words and codes apart

Screening the words of a parcel has no part in the code prefixes, and screening its code none in the
words. What the rules of the other side are, whether they can be compiled at all, and what is kept
of them makes no difference to an outcome, to the links that are made or to a job. All that is taken
from the other side is which of its rules are linked to a parcel, and these links stay.
-/

set_option autoImplicit false

namespace Clearance

open Proc

/-! ## Stores that agree for a scope -/

namespace Store

/-- Whether the rules beside a scope are sound: every link that the scope does not renew has its
rule, and no such rule refers to one that is not there. -/
structure IsSoundBeside (scope : Scope) (store : Store) : Prop where
  links : ∀ kind, scope.renews kind = false → ∀ row ∈ (store.links kind).rows,
    store.hasRule kind row.val.rule = true
  keyWordCodes : scope.hasWords = false → ∀ row ∈ store.keyWordCodes.rows,
    store.keyWords.has row.val.keyWord = true
  exceptions : scope.hasCodes = false → ∀ row ∈ store.exceptions.rows,
    store.prefixes.has row.val.codePrefix = true
  prefixes : scope.hasCodes = false → ∀ row ∈ store.prefixes.rows, ∀ order,
    row.val.order = some order → store.orders.has order = true

theorem IsSound.beside {store : Store} (h : store.IsSound) (scope : Scope) :
    store.IsSoundBeside scope :=
  ⟨fun kind _ row hrow => (h.links kind row hrow).2, fun _ => h.keyWordCodes,
    fun _ => h.exceptions, fun _ => h.prefixes⟩

/-- Two stores with the same registers, parcels, jobs and links and the same rules of a scope. The
other rules may differ, as long as those are there that are linked to parcels. -/
structure AgreesFor (scope : Scope) (a b : Store) : Prop where
  registers : b.registers = a.registers
  parcels : b.parcels = a.parcels
  jobs : b.jobs = a.jobs
  links : ∀ kind, b.links kind = a.links kind
  words : scope.hasWords = true →
    b.stopWords = a.stopWords ∧ b.keyWords = a.keyWords ∧ b.keyWordCodes = a.keyWordCodes
  codes : scope.hasCodes = true →
    b.orders = a.orders ∧ b.prefixes = a.prefixes ∧ b.exceptions = a.exceptions
  beside : a.IsSoundBeside scope
  beside' : b.IsSoundBeside scope

variable {scope : Scope} {a b : Store}

theorem AgreesFor.symm (h : a.AgreesFor scope b) : b.AgreesFor scope a where
  registers := h.registers.symm
  parcels := h.parcels.symm
  jobs := h.jobs.symm
  links := fun kind => (h.links kind).symm
  words := fun hwords =>
    ⟨(h.words hwords).1.symm, (h.words hwords).2.1.symm, (h.words hwords).2.2.symm⟩
  codes := fun hcodes =>
    ⟨(h.codes hcodes).1.symm, (h.codes hcodes).2.1.symm, (h.codes hcodes).2.2.symm⟩
  beside := h.beside'
  beside' := h.beside

theorem AgreesFor.hasRule (h : a.AgreesFor scope b) {kind : LinkKind}
    (hrenews : scope.renews kind = true) (id : Int) : b.hasRule kind id = a.hasRule kind id := by
  cases kind with
  | stopWord =>
    unfold Store.hasRule
    rw [(h.words hrenews).1]
  | keyWord =>
    unfold Store.hasRule
    rw [(h.words hrenews).2.1]
  | codePrefix =>
    unfold Store.hasRule
    rw [(h.codes hrenews).2.1]

theorem AgreesFor.isSound_of_isSound (h : a.AgreesFor scope b) (hsound : a.IsSound) :
    b.IsSound where
  parcels := by
    rw [h.parcels, h.registers]
    exact hsound.parcels
  jobs := by
    rw [h.jobs, h.registers]
    exact hsound.jobs
  keyWordCodes := by
    cases hwords : scope.hasWords with
    | true =>
      rw [(h.words hwords).2.2, (h.words hwords).2.1]
      exact hsound.keyWordCodes
    | false => exact h.beside'.keyWordCodes hwords
  exceptions := by
    cases hcodes : scope.hasCodes with
    | true =>
      rw [(h.codes hcodes).2.2, (h.codes hcodes).2.1]
      exact hsound.exceptions
    | false => exact h.beside'.exceptions hcodes
  prefixes := by
    cases hcodes : scope.hasCodes with
    | true =>
      rw [(h.codes hcodes).2.1, (h.codes hcodes).1]
      exact hsound.prefixes
    | false => exact h.beside'.prefixes hcodes
  links := by
    intro kind row hrow
    have hold : row ∈ (a.links kind).rows := by rwa [h.links kind] at hrow
    obtain ⟨hparcel, hrule⟩ := hsound.links kind row hold
    rw [h.parcels]
    refine ⟨hparcel, ?_⟩
    cases hrenews : scope.renews kind with
    | true => rw [h.hasRule hrenews, hrule]
    | false => exact h.beside'.links kind hrenews row hrow

/-- Stores that agree are sound or not together. -/
theorem AgreesFor.isSound (h : a.AgreesFor scope b) : b.isSound = a.isSound := by
  rw [Bool.eq_iff_iff, Store.isSound_iff, Store.isSound_iff]
  exact ⟨h.symm.isSound_of_isSound, h.isSound_of_isSound⟩

/-- Links that the scope renews may be replaced in both stores alike. -/
theorem AgreesFor.setLinks (h : a.AgreesFor scope b) {kind : LinkKind}
    (hrenews : scope.renews kind = true) (links : Table Link) :
    (a.setLinks kind links).AgreesFor scope (b.setLinks kind links) := by
  have hbeside : ∀ {store : Store}, store.IsSoundBeside scope →
      (store.setLinks kind links).IsSoundBeside scope := by
    intro store hstore
    refine ⟨fun other hother row hrow => ?_, ?_, ?_, ?_⟩
    · have hne : other ≠ kind := by
        rintro rfl
        rw [hrenews] at hother
        cases hother
      rw [links_setLinks_of_ne store links hne] at hrow
      have hrule := hstore.links other hother row hrow
      cases kind <;> cases other <;> exact hrule
    · cases kind <;> exact hstore.keyWordCodes
    · cases kind <;> exact hstore.exceptions
    · cases kind <;> exact hstore.prefixes
  refine ⟨?_, ?_, ?_, fun other => ?_, ?_, ?_, hbeside h.beside, hbeside h.beside'⟩
  · cases kind <;> exact h.registers
  · cases kind <;> exact h.parcels
  · cases kind <;> exact h.jobs
  · by_cases hother : other = kind
    · subst hother
      rw [links_setLinks, links_setLinks]
    · rw [links_setLinks_of_ne a links hother, links_setLinks_of_ne b links hother]
      exact h.links other
  · cases kind <;> exact h.words
  · cases kind <;> exact h.codes

theorem IsSoundBeside.setRecords {store : Store} (h : store.IsSoundBeside scope)
    (parcels : Table Parcel) (jobs : Table Job) :
    IsSoundBeside scope { store with parcels := parcels, jobs := jobs } where
  links := by
    rintro (_ | _ | _)
    · exact h.links .stopWord
    · exact h.links .keyWord
    · exact h.links .codePrefix
  keyWordCodes := h.keyWordCodes
  exceptions := h.exceptions
  prefixes := h.prefixes

/-- Parcels and jobs may be replaced in both stores alike. -/
theorem AgreesFor.setRecords (h : a.AgreesFor scope b) (parcels : Table Parcel)
    (jobs : Table Job) : AgreesFor scope { a with parcels := parcels, jobs := jobs }
      { b with parcels := parcels, jobs := jobs } where
  registers := h.registers
  parcels := rfl
  jobs := rfl
  links := by
    rintro (_ | _ | _)
    · exact h.links .stopWord
    · exact h.links .keyWord
    · exact h.links .codePrefix
  words := h.words
  codes := h.codes
  beside := h.beside.setRecords parcels jobs
  beside' := h.beside'.setRecords parcels jobs

theorem AgreesFor.linkedRules (h : a.AgreesFor scope b) (kind : LinkKind) (parcel : Int) :
    b.linkedRules kind parcel = a.linkedRules kind parcel := by
  unfold Store.linkedRules
  rw [h.links kind]

theorem AgreesFor.rules (h : a.AgreesFor scope b) (hwords : scope.hasWords = true)
    (vocabulary : Word.Vocabulary) : b.rules vocabulary = a.rules vocabulary := by
  have hsame : b.words vocabulary = a.words vocabulary := by
    cases vocabulary with
    | stopWords => exact (h.words hwords).1
    | keyWords => exact (h.words hwords).2.1
  unfold Store.rules
  rw [hsame]

theorem AgreesFor.prefixRules (h : a.AgreesFor scope b) (hcodes : scope.hasCodes = true) :
    b.prefixRules = a.prefixRules := by
  obtain ⟨horders, hprefixes, hexceptions⟩ := h.codes hcodes
  unfold Store.prefixRules Store.isInUse Store.prefixRule
  rw [horders, hprefixes, hexceptions]

end Store

/-! ## Screening stores that agree -/

namespace Screening

variable {scope : Scope} {kept : LinkKind → Table Link} {a b : Store} {id : Int}

/-- Two stores that agree for a scope and have some links of the kinds that it does not renew. -/
structure AgreeKeeping (scope : Scope) (kept : LinkKind → Table Link) (a b : Store) : Prop where
  agrees : a.AgreesFor scope b
  kept : ∀ kind, scope.renews kind = false → a.links kind = kept kind

theorem AgreeKeeping.setLinks (h : AgreeKeeping scope kept a b) {kind : LinkKind}
    (hrenews : scope.renews kind = true) (links : Table Link) :
    AgreeKeeping scope kept (a.setLinks kind links) (b.setLinks kind links) := by
  refine ⟨h.agrees.setLinks hrenews links, fun other hother => ?_⟩
  have hne : other ≠ kind := by
    rintro rfl
    rw [hrenews] at hother
    cases hother
  rw [Store.links_setLinks_of_ne a links hne]
  exact h.kept other hother

theorem AgreeKeeping.setRecords (h : AgreeKeeping scope kept a b) (parcels : Table Parcel)
    (jobs : Table Job) : AgreeKeeping scope kept { a with parcels := parcels, jobs := jobs }
      { b with parcels := parcels, jobs := jobs } := by
  refine ⟨h.agrees.setRecords parcels jobs, ?_⟩
  rintro (_ | _ | _)
  · exact h.kept .stopWord
  · exact h.kept .keyWord
  · exact h.kept .codePrefix

theorem AgreeKeeping.setParcels (h : AgreeKeeping scope kept a b) (parcels : Table Parcel) :
    AgreeKeeping scope kept { a with parcels := parcels } { b with parcels := parcels } := by
  have hrecords := h.setRecords parcels a.jobs
  have hjobs : { b with parcels := parcels, jobs := a.jobs } = { b with parcels := parcels } := by
    rw [← h.agrees.jobs]
  rwa [hjobs] at hrecords

theorem AgreeKeeping.setJobs (h : AgreeKeeping scope kept a b) (jobs : Table Job) :
    AgreeKeeping scope kept { a with jobs := jobs } { b with jobs := jobs } := by
  have hrecords := h.setRecords a.parcels jobs
  have hparcels : { b with parcels := a.parcels, jobs := jobs } = { b with jobs := jobs } := by
    rw [← h.agrees.parcels]
  rwa [hparcels] at hrecords

theorem alike_replaceLinks (h : AgreeKeeping scope kept a b) {kind : LinkKind}
    (hrenews : scope.renews kind = true) (id : Int) (rules : List Int) :
    Alike (AgreeKeeping scope kept) (replaceLinks kind id rules a)
      (replaceLinks kind id rules b) := by
  unfold replaceLinks
  split
  · have herased := h.setLinks hrenews ((a.links kind).eraseIf fun row => row.val.parcel == id)
    refine .ok ?_
    unfold Store.eraseLinks
    rw [h.agrees.links kind, Store.links_setLinks, Store.links_setLinks]
    exact herased.setLinks hrenews _
  · exact .error _

theorem alike_screenWords (h : AgreeKeeping scope kept a b) {words : Option WordContext}
    (hwords : words.isSome = true → scope.hasWords = true) (id : Int) (record : Parcel) :
    Alike (fun x y => x.1 = y.1 ∧ x.2.1 = y.2.1 ∧ AgreeKeeping scope kept x.2.2 y.2.2)
      (screenWords words id record a) (screenWords words id record b) := by
  unfold screenWords
  cases words with
  | none =>
    exact .ok ⟨(h.agrees.linkedRules _ _).symm, (h.agrees.linkedRules _ _).symm, h⟩
  | some context =>
    have hstop : scope.renews .stopWord = true := hwords rfl
    have hkey : scope.renews .keyWord = true := hwords rfl
    refine (alike_replaceLinks h hstop id _).bind fun a b h => ?_
    refine (alike_replaceLinks h hkey id _).bind fun a b h => ?_
    exact .ok ⟨rfl, rfl, h⟩

theorem alike_screenCodes (h : AgreeKeeping scope kept a b)
    {prefixes : Option Commodity.PrefixIndex}
    (hcodes : prefixes.isSome = true → scope.hasCodes = true) (id : Int) (record : Parcel) :
    Alike (fun x y => x.1 = y.1 ∧ x.2.1 = y.2.1 ∧ AgreeKeeping scope kept x.2.2 y.2.2)
      (screenCodes prefixes id record a) (screenCodes prefixes id record b) := by
  unfold screenCodes
  cases prefixes with
  | none => exact .ok ⟨rfl, (h.agrees.linkedRules _ _).symm, h⟩
  | some index =>
    have hrenews : scope.renews .codePrefix = true := hcodes rfl
    refine (alike_replaceLinks h hrenews id _).bind fun a b h => ?_
    exact .ok ⟨rfl, rfl, h⟩

/-- Two contexts that are the same as far as a scope needs them. -/
def Context.SameFor (scope : Scope) (context context' : Context) : Prop :=
  (scope.hasWords = true → context.words = context'.words) ∧
    (scope.hasCodes = true → context.prefixes = context'.prefixes)

/-- A parcel is screened alike in stores that agree: with the same outcome, or the same fault. -/
theorem alike_screenParcel (h : AgreeKeeping scope kept a b) {context context' : Context}
    (hcontext : context.SameFor scope context') (id : Int) :
    Alike (fun x y => x.result = y.result ∧ y.touched = x.touched ∧
      AgreeKeeping scope kept x.store y.store)
      (screenParcel context scope id a) (screenParcel context' scope id b) := by
  have hwords : (if scope.hasWords then context'.words else none) =
      if scope.hasWords then context.words else none := by
    split
    · next hneeded => rw [hcontext.1 hneeded]
    · rfl
  have hprefixes : (if scope.hasCodes then context'.prefixes else none) =
      if scope.hasCodes then context.prefixes else none := by
    split
    · next hneeded => rw [hcontext.2 hneeded]
    · rfl
  unfold screenParcel
  rw [h.agrees.parcels, hwords, hprefixes]
  cases a.parcels.find? id with
  | none => exact .error _
  | some record =>
    dsimp only
    split
    · exact .ok ⟨rfl, rfl, h⟩
    · refine (alike_screenWords h ?_ id record).bind ?_
      · split
        · exact fun _ => ‹_›
        · exact nofun
      rintro ⟨stopWords, keyWords, a⟩ ⟨_, _, b⟩ ⟨rfl, rfl, h⟩
      refine (alike_screenCodes h ?_ id record).bind ?_
      · split
        · exact fun _ => ‹_›
        · exact nofun
      rintro ⟨invalid, codePrefixes, a⟩ ⟨_, _, b⟩ ⟨rfl, rfl, h⟩
      refine .ok ⟨rfl, rfl, ?_⟩
      dsimp only [setCheckStatus] at h ⊢
      split
      · exact h
      · rw [h.agrees.parcels]
        exact h.setParcels _

end Screening

/-! ## Sessions that agree for a scope -/

/-- Two sessions that agree for a scope: in the store, the block that is open and the time, and if
the scope has words, in what has been compiled of them and in the engine. What is told of them may
differ. -/
structure Session.AgreesFor (scope : Scope) (s t : Session) : Prop where
  store : s.store.AgreesFor scope t.store
  inBlock : t.inBlock = s.inBlock
  isBroken : t.isBroken = s.isBroken
  pending : t.pending = s.pending
  clock : t.clock = s.clock
  timeLimit : t.timeLimit = s.timeLimit
  jobs : t.jobs = s.jobs
  compiled : scope.hasWords = true → t.generations = s.generations ∧ t.compiled = s.compiled ∧
    t.compilations = s.compilations
  backend : scope.hasWords = true → t.backend = s.backend

namespace Screening

variable {scope : Scope} {kept : LinkKind → Table Link}

/-- Two sessions that agree for a scope, with some links of the kinds that it does not renew. -/
structure SessionsAgree (scope : Scope) (kept : LinkKind → Table Link) (s t : Session) : Prop where
  agrees : s.AgreesFor scope t
  kept : ∀ kind, scope.renews kind = false → s.store.links kind = kept kind

theorem SessionsAgree.stores {s t : Session} (h : SessionsAgree scope kept s t) :
    AgreeKeeping scope kept s.store t.store := ⟨h.agrees.store, h.kept⟩

theorem SessionsAgree.setStore {s t : Session} (h : SessionsAgree scope kept s t) {a b : Store}
    (hstores : AgreeKeeping scope kept a b) :
    SessionsAgree scope kept { s with store := a } { t with store := b } :=
  ⟨{ h.agrees with store := hstores.agrees }, hstores.kept⟩

theorem sessionsAgree_isAccord (scope : Scope) (kept : LinkKind → Table Link) :
    Proc.IsAccord (SessionsAgree scope kept) where
  inBlock := fun h => h.agrees.inBlock
  isBroken := fun h => h.agrees.isBroken
  pending := fun h => h.agrees.pending
  isSound := fun h => h.agrees.store.isSound
  broken := fun h _ => ⟨{ h.agrees with isBroken := rfl }, h.kept⟩
  opened := fun h => ⟨{ h.agrees with inBlock := rfl }, h.kept⟩
  closed := fun h => ⟨{ h.agrees with inBlock := rfl, pending := rfl }, h.kept⟩
  queued := fun h touched =>
    ⟨{ h.agrees with pending := congrArg (· ++ touched) h.agrees.pending }, h.kept⟩
  bumped := fun {s t} h vocabulary => by
    refine ⟨{ h.agrees with compiled := fun hwords => ?_ }, h.kept⟩
    obtain ⟨hgenerations, hcompiled, hcompilations⟩ := h.agrees.compiled hwords
    refine ⟨?_, hcompiled, hcompilations⟩
    unfold Session.bump Session.setGeneration Session.generation Session.seed
    rw [hgenerations, h.agrees.clock]
  undone := fun h huv => ⟨{ huv.agrees with
    store := h.agrees.store
    inBlock := h.agrees.inBlock
    isBroken := h.agrees.isBroken
    pending := h.agrees.pending }, h.kept⟩

theorem sessionsAgree_sharesWords (hwords : scope.hasWords = true)
    (kept : LinkKind → Table Link) : Proc.SharesWords (SessionsAgree scope kept) where
  toIsAccord := sessionsAgree_isAccord scope kept
  clock := fun h => h.agrees.clock
  generations := fun h => (h.agrees.compiled hwords).1
  compiled := fun h => (h.agrees.compiled hwords).2.1
  compilations := fun h => (h.agrees.compiled hwords).2.2
  backend := fun h => h.agrees.backend hwords
  rules := fun h => h.agrees.store.rules hwords
  regenerated := fun h _ =>
    ⟨{ h.agrees with compiled := fun hwords => ⟨rfl, (h.agrees.compiled hwords).2⟩ }, h.kept⟩
  kept := fun h _ => ⟨{ h.agrees with compiled := fun hwords =>
    ⟨(h.agrees.compiled hwords).1, rfl, (h.agrees.compiled hwords).2.2⟩ }, h.kept⟩
  recounted := fun h _ => ⟨{ h.agrees with compiled := fun hwords =>
    ⟨(h.agrees.compiled hwords).1, (h.agrees.compiled hwords).2.1, rfl⟩ }, h.kept⟩

theorem accords_loadContext_of_scope (scope : Scope) (kept : LinkKind → Table Link) :
    RunsAlike (SessionsAgree scope kept) (loadContext scope.hasWords scope.hasCodes) :=
  accords_loadContext (sessionsAgree_isAccord scope kept) _ _
    (fun hwords => sessionsAgree_sharesWords hwords kept)
    fun hcodes _ _ h => h.agrees.store.prefixRules hcodes

theorem accords_screenWith {context context' : Context} (hcontext : context.SameFor scope context')
    (id : Int) : Accords (SessionsAgree scope kept) Eq (screenWith context scope id)
      (screenWith context' scope id) := by
  intro s t h
  have accord := sessionsAgree_isAccord scope kept
  rw [screenWith_eq, screenWith_eq]
  refine accord.atomicIfAt h (fun _ _ _ => rfl) (accord.executeAt (accord.opened h) ?_)
  refine (alike_screenParcel h.stores hcontext id).mono fun outcome outcome' hsame => ?_
  exact ⟨hsame.1, hsame.2.1, (accord.opened h).setStore hsame.2.2⟩

/-- Jobs of a scope are run in accord. -/
theorem sessionsAgree_isJobAccord (scope : Scope) (kept : LinkKind → Table Link) :
    Job.IsAccord (SessionsAgree scope kept) (· = scope) Context.SameFor where
  toIsAccord := sessionsAgree_isAccord scope kept
  registers := fun h => h.agrees.store.registers
  parcels := fun h => h.agrees.store.parcels
  jobs := fun h => h.agrees.store.jobs
  clock := fun h => h.agrees.clock
  timeLimit := fun h => h.agrees.timeLimit
  made := fun h => h.agrees.jobs
  saved := fun h jobs => h.setStore (h.stores.setJobs jobs)
  counted := fun h => ⟨{ h.agrees with jobs := congrArg (· + 1) h.agrees.jobs }, h.kept⟩
  begun := fun job => by
    rw [Job.tellOfStart_eq]
    exact fun _ _ h => accordsAt_alter ⟨{ h.agrees with }, h.kept⟩
  failed := fun job parcel fault => by
    rw [Job.tellOfFault_eq]
    exact fun _ _ h => accordsAt_alter ⟨{ h.agrees with }, h.kept⟩
  load := by
    rintro _ rfl
    exact fun s t h => (accords_loadContext_of_scope _ kept s t h).mono fun context _ hsame => by
      rw [hsame]
      exact ⟨fun _ => rfl, fun _ => rfl⟩
  screen := by
    rintro _ rfl context context' hcontext id
    exact accords_screenWith hcontext id

/-! ## The context -/

/-- A context with nothing in it, which suffices for no scope. -/
def Context.empty : Context := ⟨none, none⟩

theorem contextFor_eq (scope : Scope) (given : Option Context) :
    contextFor scope given = contextFor scope (some (given.getD .empty)) := by
  cases given with
  | some context => rfl
  | none => cases scope <;> rfl

theorem Context.SameFor.suffices {context context' : Context} (h : context.SameFor scope context') :
    context'.suffices scope = context.suffices scope := by
  unfold Context.suffices
  cases scope with
  | full => rw [h.1 rfl, h.2 rfl]
  | words =>
    rw [h.1 rfl]
    rfl
  | codes =>
    rw [h.2 rfl]
    rfl

theorem accords_contextFor {given given' : Option Context}
    (hgiven : (given.getD .empty).SameFor scope (given'.getD .empty)) :
    Accords (SessionsAgree scope kept) (Context.SameFor scope) (contextFor scope given)
      (contextFor scope given') := by
  rw [contextFor_eq scope given, contextFor_eq scope given']
  intro s t h
  unfold contextFor
  dsimp only
  rw [hgiven.suffices]
  split
  · exact accordsAt_pure hgiven h
  · exact (sessionsAgree_isJobAccord scope kept).load scope rfl s t h

theorem accords_screen {given given' : Option Context}
    (hgiven : (given.getD .empty).SameFor scope (given'.getD .empty)) (id : Int) :
    Accords (SessionsAgree scope kept) Eq (screen scope given id) (screen scope given' id) :=
  (accords_contextFor hgiven).bind fun _ _ hcontext => accords_screenWith hcontext id

end Screening

/-! ## The job that is requested -/

namespace Job

theorem exists_of_create {register : Int} {scope : Scope} {s t : Session} {job : Job}
    (h : create register scope s = (.ok job, t)) :
    t.isBroken = false ∧ job.scope = scope ∧ ∃ row ∈ t.store.jobs.rows, row.val = job := by
  unfold create at h
  obtain ⟨_, u, halter, hrest⟩ := bind_ok h
  obtain ⟨count, v, hcount, hrest⟩ := bind_ok hrest
  obtain ⟨now, w, hclock, hrest⟩ := bind_ok hrest
  obtain ⟨row, x, hadd, hresult⟩ := bind_ok hrest
  obtain ⟨outcome, hchange, hstore, hwhole, _⟩ := execute_ok hadd
  cases hresult
  cases hchange
  refine ⟨hwhole, rfl, ⟨w.store.jobs.lastId + 1, _⟩, ?_, rfl⟩
  rw [hstore]
  exact Table.mem_insert.2 (.inr rfl)

/-- A new job is stored, and is of the scope requested. -/
theorem exists_of_request {register : Int} {scope : Scope} {s t : Session} {job : Job}
    (h : request register scope s = (.ok (job, true), t)) :
    job.scope = scope ∧ ∃ row ∈ t.store.jobs.rows, row.val = job := by
  unfold request at h
  obtain ⟨u, hbody, hkept⟩ := atomic_ok h
  obtain ⟨isThere, v, _, hrest⟩ := bind_ok hbody
  split at hrest
  · obtain ⟨found, w, _, hrest⟩ := bind_ok hrest
    cases found with
    | some own =>
      dsimp only at hrest
      split at hrest <;> cases hrest
    | none =>
      obtain ⟨new, x, hcreate, hresult⟩ := bind_ok hrest
      cases hresult
      obtain ⟨hwhole, hscope, row, hrow, hval⟩ := exists_of_create hcreate
      rw [hkept hwhole]
      exact ⟨hscope, row, hrow, hval⟩
  · cases hrest

/-- Where no two jobs have one handle, the handle of a new job is that of no other job. -/
theorem scope_of_request {register : Int} {scope : Scope} {s t : Session} {job : Job}
    (hs : s.HasJobsApart) (h : request register scope s = (.ok (job, true), t)) {row : Row Job}
    (hrow : t.store.jobOf? (some job.handle) = some row) : row.val.scope = scope := by
  have ht : t.HasJobsApart := by
    have hkept := (keepsJobsApart_request register scope s hs).1
    rwa [h] at hkept
  obtain ⟨hscope, own, hown, hval⟩ := exists_of_request h
  have hhandle : row.val.handle = own.val.handle := by
    have hfound := List.find?_some hrow
    rw [beq_iff_eq] at hfound
    rw [hval]
    exact Option.some.inj hfound
  rw [ht.known row (Store.mem_of_jobOf? hrow) own hown hhandle, hval, hscope]

end Job

/-! ## Runs apart -/

namespace Screening

/-- Two runs for a scope that come to the same result or the same fault and leave sessions that
agree, with the links that the scope does not renew as they were. -/
structure RunApart {α : Type} (scope : Scope) (s t : Session) (proc proc' : Proc α) : Prop where
  result : (proc' t).1 = (proc s).1
  agrees : (proc s).2.AgreesFor scope (proc' t).2
  links : ∀ kind, scope.renews kind = false →
    (proc s).2.store.links kind = s.store.links kind ∧
      (proc' t).2.store.links kind = t.store.links kind

theorem runApart_of_accordsAt {α : Type} {scope : Scope} {s t : Session} {proc proc' : Proc α}
    (hst : s.AgreesFor scope t)
    (h : AccordsAt (SessionsAgree scope s.store.links) Eq s t proc proc') :
    RunApart scope s t proc proc' := by
  refine ⟨h.result.eq.symm, h.sessions.agrees, fun kind hkind => ⟨h.sessions.kept kind hkind, ?_⟩⟩
  rw [h.sessions.agrees.store.links, h.sessions.kept kind hkind, hst.store.links]

/-- In two sessions that agree for a scope, screening a parcel for the scope comes to the same
outcome and the same links and check statuses, and so do jobs of the scope, that are run or
requested. What the rules of the other scope are, and whether they can be loaded, has no part in it,
and their links stay as they are. -/
theorem scopes_apart (scope : Scope) {s t : Session} (h : s.AgreesFor scope t) :
    (∀ given given' id, (given.getD .empty).SameFor scope (given'.getD .empty) →
      RunApart scope s t (screen scope given id) (screen scope given' id)) ∧
    ∀ before : Nat → Proc Unit,
      (∀ k, Accords (SessionsAgree scope s.store.links) Eq (before k) (before k)) →
      (∀ handle, (∀ row, s.store.jobOf? handle = some row → row.val.status = .pending →
          row.val.scope = scope) →
        RunApart scope s t (Job.run handle before) (Job.run handle before)) ∧
      (s.HasJobsApart → ∀ register runsNow, RunApart scope s t
        (Job.start register scope runsNow before) (Job.start register scope runsNow before)) := by
  have hrel : SessionsAgree scope s.store.links s t := ⟨h, fun _ _ => rfl⟩
  have accord := sessionsAgree_isJobAccord scope s.store.links
  refine ⟨fun given given' id hgiven => ?_, fun before hbefore => ⟨fun handle hscope => ?_,
    fun hapart register runsNow => ?_⟩⟩
  · exact runApart_of_accordsAt h (accords_screen hgiven id s t hrel)
  · exact runApart_of_accordsAt h (Job.accordsAt_run accord hbefore hrel hscope)
  · exact runApart_of_accordsAt h (Job.accordsAt_start accord hbefore hrel
      (fun _ _ hrequest _ hfound _ => Job.scope_of_request hapart hrequest hfound) runsNow)

/-- A register with a parcel that is linked to a stop word, and a code prefix. -/
def cartridgeRequests : List Request :=
  [.single (.addRegister ⟨"R", "import"⟩),
    .single (.addParcel 1 { Store.ParcelEdit.nothing with
      code := some (some "9306210000"), product := some (some "gun") }),
    .single (.addStopWord ⟨"gun", 11⟩), .single (.link 1 ⟨.stopWord, 1⟩),
    .single (.addPrefix ⟨⟨some "9306", none⟩, none⟩ [])]

/-- The same, with other words. -/
def rewordedRequests : List Request :=
  cartridgeRequests ++ [.single (.saveWord .stopWords 1 ⟨some "rifle", none⟩),
    .single (.addKeyWord ⟨"axe", 11⟩ ["1111111111"]), .single (.matchText .keyWords none)]

/-- A job for codes in a session whose other rules differ and whose engine cannot be loaded makes
the same link to the code prefix and leaves the link to the stop word. -/
theorem scopes_apart_rewordedRequests :
    let s := (Service.serveAll cartridgeRequests (Session.start (.engine .null) .none)).2
    let t := (Service.serveAll rewordedRequests (Session.start .missingClass .none)).2
    let run := Job.start 1 .codes true fun _ => pure ()
    s.AgreesFor .codes t ∧ s.HasJobsApart ∧ s.store.stopWords ≠ t.store.stopWords ∧
      t.backend.load.toOption = none ∧ RunApart .codes s t run run ∧
      ((run t).2.store.links .codePrefix).rows = [⟨1, ⟨1, 1⟩⟩] ∧
      ((run t).2.store.links .stopWord).rows = [⟨1, ⟨1, 1⟩⟩] := by
  intro s t run
  have hsound := (Service.isSettled_serveAll (.engine .null) .none cartridgeRequests).2.2.2
  have hsound' := (Service.isSettled_serveAll .missingClass .none rewordedRequests).2.2.2
  have hagrees : s.AgreesFor .codes t := by
    refine ⟨⟨?_, ?_, ?_, ?_, nofun, fun _ => ⟨?_, ?_, ?_⟩, hsound.beside _, hsound'.beside _⟩,
      ?_, ?_, ?_, ?_, ?_, ?_, nofun, nofun⟩
    · decide +kernel
    · decide +kernel
    · decide +kernel
    · rintro (_ | _ | _) <;> decide +kernel
    all_goals decide +kernel
  have hapart : s.HasJobsApart := (Service.follows_serveAll keepsJobsApart_isCourse
    cartridgeRequests (List.all_eq_true.1 (by rfl)) _ (hasJobsApart_start _ _)).1
  have hrun := ((scopes_apart .codes hagrees).2 (fun _ => pure ())
    fun _ => accords_pure rfl).2 hapart 1 true
  refine ⟨hagrees, hapart, by decide +kernel, by decide +kernel, hrun, by decide +kernel, ?_⟩
  rw [(hrun.links .stopWord rfl).2]
  decide +kernel

end Screening

end Clearance

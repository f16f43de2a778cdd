import Clearance.Job.Progress
import Clearance.Job.Run
import Clearance.Service.Request

/-!
# Doing what an operation asks for

Every operation is a procedure that comes to an answer. An operation of several statements leaves
behind what was done before the one that failed, unless it is done in a block.
-/

set_option autoImplicit false

namespace Clearance.Service

open Clearance.Word (Vocabulary)

/-- A parcel of a register as it is without a draft. -/
def plainParcel (id : Int) (kind : String) : Parcel where
  register := id
  kind := kind
  status := 1
  checkStatus := 1
  code := none
  product := none
  description := none
  tracking := none
  posting := none

/-- The parcels of drafts, in a register that has to exist. -/
def addParcels (register : Int) (drafts : List Store.ParcelEdit) : Proc (List Int) := do
  match ← Proc.query fun store => .ok (store.registers.find? register) with
  | none => Proc.fail (.missing .register)
  | some own =>
    let parcels := drafts.map fun draft => draft.apply (plainParcel register own.kind)
    Proc.execute fun store => store.addParcels parcels

/-- The codes of a keyword, one by one. -/
def addCodes (keyWord : Int) : List String → Proc Unit
  | [] => pure ()
  | code :: rest => do
    let _ ← Proc.execute fun store => store.addKeyWordCode ⟨keyWord, code⟩
    addCodes keyWord rest

/-- A keyword and its codes. -/
def addKeyWord (entry : WordEntry) (codes : List String) : Proc Int := do
  let id ← Proc.execute fun store => store.addWord .keyWords entry
  addCodes id codes
  pure id

/-- The exceptions of a code prefix, one by one. -/
def addExceptions (codePrefix : Int) : List String → Proc Unit
  | [] => pure ()
  | code :: rest => do
    let _ ← Proc.execute fun store => store.addException ⟨codePrefix, code⟩
    addExceptions codePrefix rest

/-- A code prefix and its exceptions. -/
def addPrefix (entry : StoredPrefix) (exceptions : List String) : Proc Int := do
  let id ← Proc.execute fun store => store.addPrefix entry
  addExceptions id exceptions
  pure id

/-- The day of a date. -/
def readDay (date : String) : Except Fault Commodity.Day :=
  (Commodity.Day.read date).mapError .unreadableDate

/-- The day of a date that may be missing. -/
def readDay? : Option String → Except Fault (Option Commodity.Day)
  | some date => (readDay date).map some
  | none => .ok none

/-- A new catalogue row. -/
def addCatalogueCode (code : String) (validFrom validTo : Option String) : Proc Int := do
  let first ← Proc.lift (readDay? validFrom)
  let last ← Proc.lift (readDay? validTo)
  Proc.execute fun store => .ok (store.addCatalogueCode ⟨code, first, last⟩)

/-- What is shown of a parcel. -/
def viewParcel (store : Store) (row : Row Parcel) : ParcelView where
  id := row.id
  checkStatus := row.val.checkStatus
  stopWords := (store.linkedRules .stopWord row.id).mergeSort
  keyWords := (store.linkedRules .keyWord row.id).mergeSort
  prefixes := (store.linkedRules .codePrefix row.id).mergeSort

/-- The parcels and jobs of the store. -/
def showState : Proc Answer :=
  Proc.query fun store =>
    .ok (.state (store.parcels.rows.map (viewParcel store)) (store.jobs.rows.map (·.val)))

/-- The backend configured, which stays so even if no engine comes of it. -/
def setBackend (backend : Word.Backend) : Proc Answer := do
  Proc.alter fun s => { s with backend := backend }
  match backend.load with
  | .ok engine => pure (.backend engine)
  | .error reason => Proc.fail (.noEngine reason)

/-- The events reported since they were asked for last. -/
def takeEvents : Proc Answer := do
  let events ← Proc.ask (·.events)
  Proc.alter fun s => { s with events := [] }
  pure (.events events)

/-- A compiled vocabulary shown. -/
def showMatcher (vocabulary : Vocabulary) : Proc Answer := do
  let compiled ← Proc.compiled vocabulary
  let last ← Proc.ask (·.shown.get vocabulary)
  Proc.alter fun s => { s with shown := s.shown.set vocabulary (some compiled.serial) }
  let matcher := compiled.matcher
  let generation ← Proc.readGeneration vocabulary
  pure (.matcher ⟨matcher.rules.map (·.id), matcher.skipped, matcher.morphology.map (·.id),
    last == some compiled.serial, generation⟩)

/-- A counter lost; whether there was one. -/
def evict (vocabulary : Vocabulary) : Proc Answer := do
  let existed ← Proc.ask fun s => (s.generations.get vocabulary).isSome
  Proc.alter (·.evict vocabulary)
  pure (.evicted existed)

/-- Codes classified by the code prefixes in use. -/
def classify (codes : List (Option String)) : Proc Answer := do
  let index ← Screening.loadCodes
  pure (.classes index.size (codes.map fun code => Commodity.classify code index))

/-- The codes of the catalogue in force: on a day one for each row, today each once. -/
def codesInForce (day : Option String) : Proc Answer := do
  let sorted := fun (codes : List String) => codes.mergeSort fun a b => !(b < a)
  match day with
  | some date =>
    let day ← Proc.lift (readDay date)
    Proc.query fun store => .ok (.codes (sorted (store.codesInForce day)))
  | none =>
    let day ← Proc.ask (·.today)
    Proc.query fun store => .ok (.codes (sorted (store.codesInForce day).eraseDups))

/-- The match priority of a parcel, by the catalogue given or by the codes in force. Every keyword
linked to the parcel is looked up; inside a block there may be a link to one that does not exist. -/
def priority (id : Int) (catalogue : Option (List String)) : Proc Answer := do
  let today ← Proc.ask (·.today)
  Proc.query fun store =>
    match store.parcels.find? id with
    | none => .error (.missing .parcel)
    | some parcel =>
      let known := catalogue.getD (store.codesInForce today)
      if (store.linkedRules .keyWord id).all (store.hasRule .keyWord) then
        .ok (.tier (Paging.tierOf store known.contains ⟨id, parcel⟩))
      else .error (.missing .keyWord)

/-- The parcel that follows another. -/
def next (query : Paging.Query) (cursor : Option Int) : Proc Answer := do
  let today ← Proc.ask (·.today)
  Proc.query fun store => (Paging.next store today query cursor).map Answer.next

/-- The parcels that follow one another. -/
def walk (query : Paging.Query) (cursor : Option Int) (limit : Nat) : Proc Answer := do
  let today ← Proc.ask (·.today)
  Proc.query fun store => (Paging.walk store today query limit cursor).map fun way =>
    .walked way.1 way.2

/-- A context loaded and kept under a name. -/
def loadContext (name : String) (words codes : Bool) : Proc Answer := do
  let context ← Screening.loadContext words codes
  Proc.alter fun s =>
    { s with contexts := (name, context) :: s.contexts.filter fun kept => kept.1 != name }
  pure (.context context.words.isSome context.prefixes.isSome)

/-- The check status of a record that is handed in with nothing but its id. -/
def unknownStatus : Int := -1

/-- A parcel screened. The links that a scope takes as they are come in no order of discovery and
are shown ascending. -/
def screen (parcel : Int) (scope : Scope) (context : Option String) : Proc Answer := do
  let kept ← Proc.ask fun s => context.bind fun name => s.contexts.lookup name
  let outcome ← Screening.screen scope kept parcel
  let ordered := fun (ids : List Int) => if scope.hasWords then ids else ids.mergeSort
  pure (.outcome
    { outcome with
      stopWords := ordered outcome.stopWords
      keyWords := ordered outcome.keyWords
      prefixes := outcome.prefixes.mergeSort }
    (if outcome.skipped then unknownStatus else outcome.checkStatus))

/-- The parcels that a job for a register would screen. -/
def openParcels (register : Int) : Proc Answer :=
  Proc.query fun store =>
    if Store.canHold register then .ok (.ids (store.openParcels register))
    else .error .outOfRange

/-- A job requested. -/
def start (register : Int) (kind : Text.Literal) (runsNow : Bool) : Proc Answer := do
  match Scope.ofLiteral? kind with
  | none => Proc.fail (.unknownJobKind kind.shown)
  | some scope => pure (.job (← Job.start register scope runsNow fun _ => pure ()))

/-- The stored record of a job. -/
def showJob (handle : Text.Literal) : Proc Answer := do
  match ← Proc.query fun store => .ok (store.jobOf? (Handle.ofLiteral? handle)) with
  | none => Proc.fail (.missing .job)
  | some row => pure (.storedJob row.val (← Job.isOverdue row.val))

/-- What an operation asks for, done. -/
def perform : Operation → Proc Answer
  | .addRegister register => .id <$> Proc.execute fun store => .ok (store.addRegister register)
  | .addParcel register draft => do
    let ids ← addParcels register [draft]
    pure (.id (ids.headD 0))
  | .addParcels register drafts repeats =>
    .ofIds <$> addParcels register (List.replicate repeats drafts).flatten
  | .updateParcel parcel edit => .rows <$> Proc.execute fun store => store.updateParcel parcel edit
  | .delete entity id => .left <$> Proc.execute fun store => store.delete entity id
  | .addStopWord entry => .id <$> Proc.execute fun store => store.addWord .stopWords entry
  | .addKeyWord entry codes => .id <$> addKeyWord entry codes
  | .addKeyWordCode entry => .id <$> Proc.execute fun store => store.addKeyWordCode entry
  | .saveKeyWordCode id edit => .rows <$> Proc.execute fun store => store.saveKeyWordCode id edit
  | .saveWord vocabulary id edit =>
    .rows <$> Proc.execute fun store => store.saveWord vocabulary id edit
  | .updateWord vocabulary id edit =>
    .rows <$> Proc.execute fun store => store.updateWord vocabulary id edit
  | .addOrder order => .id <$> Proc.execute fun store => .ok (store.addOrder order)
  | .setOrder id enabled => .rows <$> Proc.execute fun store => .ok (store.setOrder id enabled)
  | .addPrefix entry exceptions => .id <$> addPrefix entry exceptions
  | .addCatalogueCode code validFrom validTo => .id <$> addCatalogueCode code validFrom validTo
  | .link parcel target =>
    .id <$> Proc.execute fun store => store.addLink target.kind ⟨parcel, target.rule⟩
  | .showState => showState
  | .advance seconds => do
    Proc.alter fun s => { s with clock := s.clock + seconds }
    pure (.now (← Proc.ask (·.clock)))
  | .setTimeLimit seconds => do
    Proc.alter fun s => { s with timeLimit := seconds }
    pure (.timeLimit seconds)
  | .setBackend backend => setBackend backend
  | .takeEvents => takeEvents
  | .raise kind message => Proc.fail (.raised kind message)
  | .showMatcher vocabulary => showMatcher vocabulary
  | .matchText vocabulary text => do
    let compiled ← Proc.compiled vocabulary
    pure (.matched ((compiled.matcher.matching (text.getD "").toList).map (·.id)))
  | .generation vocabulary => .generation <$> Proc.readGeneration vocabulary
  | .bump vocabulary => do
    Proc.alter (·.bump vocabulary)
    .generation <$> Proc.readGeneration vocabulary
  | .evict vocabulary => evict vocabulary
  | .clearMatchers => do
    Proc.alter fun s => { s with compiled := .both none }
    pure .nothing
  | .classify codes => classify codes
  | .codesInForce day => codesInForce day
  | .priority parcel catalogue => priority parcel catalogue
  | .next query cursor => next query cursor
  | .walk query cursor limit => walk query cursor limit
  | .loadContext name words codes => loadContext name words codes
  | .screen parcel scope context => screen parcel scope context
  | .openParcels register => openParcels register
  | .start register kind runsNow => start register kind runsNow
  | .progress handle => .progress <$> Job.progress handle
  | .cancel handle => .cancelled <$> Job.cancel handle
  | .showJob handle => showJob handle
  | .markStarted handle total => .job <$> Job.markStarted (Handle.ofLiteral? handle) total

end Clearance.Service

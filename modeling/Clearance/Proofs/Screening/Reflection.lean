import Clearance.Paging.Next
import Clearance.Proofs.Screening.Full
import Clearance.Proofs.Screening.Loading
import Clearance.Proofs.Store.Edit
import Clearance.Service.Operation

/-!
# The check status and the links that are stored

A parcel may be screened again and again, in full or in part, with rules that are edited between two
screenings and with contexts that are out of date. What a part of a screening leaves alone it reads
from the store, so whatever came before, the outcome lists the links that are stored once the
screening has gone through, and the check status is the one that follows from them. No outcome marks
a parcel for the partner, and no edit of rules touches a parcel; so a parcel that is not marked at
first is never passed over.
-/

set_option autoImplicit false

namespace Clearance

open Proc
open Clearance.Parcel (CheckStatus)

/-- Whether a row of a kind is a rule or a part of one. -/
def Entity.isOfRules : Entity → Bool
  | .stopWord | .keyWord | .keyWordCode | .codeOrder | .codePrefix | .codePrefixException => true
  | _ => false

/-- Whether an operation edits rules and nothing but rules and the links to them. -/
def Operation.editsOnlyRules : Operation → Bool
  | addStopWord _ | addKeyWord _ _ | addKeyWordCode _ | saveKeyWordCode _ _ | saveWord _ _ _
  | updateWord _ _ _ | addOrder _ | setOrder _ _ | addPrefix _ _ => true
  | delete entity _ => entity.isOfRules
  | _ => false

/-- Whether a parcel has a link of a kind. -/
def Store.isLinked (store : Store) (kind : LinkKind) (parcel : Int) : Bool :=
  (store.links kind).rows.any fun row => row.val.parcel == parcel

/-- A parcel is linked just if there are rules linked to it. -/
theorem Store.isLinked_eq (store : Store) (kind : LinkKind) (parcel : Int) :
    store.isLinked kind parcel = !(store.linkedRules kind parcel).isEmpty := by
  rw [Bool.eq_iff_iff]
  simp [isLinked, linkedRules, List.filter_eq_nil_iff]

/-- The condition that a parcel is held for review. -/
def Paging.Filters.held : Filters := { Filters.none with withIssues := true }

theorem Paging.Filters.pass_held (parcel : Parcel) :
    held.pass parcel = CheckStatus.isHeld parcel.checkStatus := by
  have hblank : allowsCode .none parcel.code = true := rfl
  unfold pass passNumbers
  rw [show held.code = .none from rfl, hblank, Bool.and_true]
  rfl

/-- A status that is decided holds the parcel unless nothing was found. -/
theorem Parcel.CheckStatus.isHeld_ofFindings (invalid stopWords prefixes : Bool) :
    isHeld (ofFindings invalid stopWords prefixes).number = (invalid || stopWords || prefixes) := by
  revert invalid stopWords prefixes
  decide

/-- A status that is decided is never the partner's mark. -/
theorem Parcel.CheckStatus.ofFindings_ne_marked (invalid stopWords prefixes : Bool) :
    (ofFindings invalid stopWords prefixes).number ≠ markedByPartner.number := by
  revert invalid stopWords prefixes
  decide

/-! ## Edits of rules -/

namespace Store

/-- Whether two stores have the same parcels. -/
def SameParcels (before after : Store) : Prop := after.parcels = before.parcels

instance : IsPreorder Store SameParcels where
  refl _ := rfl
  trans _ _ _ hab hbc := hbc.trans hab

variable {store : Store} {vocabulary : Word.Vocabulary}

theorem sameParcels_setWords (store : Store) (vocabulary : Word.Vocabulary)
    (words : Table WordEntry) : SameParcels store (store.setWords vocabulary words) := by
  cases vocabulary <;> rfl

theorem sameParcels_addWord {entry : WordEntry} {outcome : Change Int}
    (h : store.addWord vocabulary entry = .ok outcome) : SameParcels store outcome.store := by
  obtain ⟨_, _, hadded⟩ := exists_of_bind h
  dsimp only at hadded
  split at hadded
  · cases hadded
  · cases hadded
    exact sameParcels_setWords store vocabulary _

theorem sameParcels_addKeyWordCode {entry : KeyWordCode} {outcome : Change Int}
    (h : store.addKeyWordCode entry = .ok outcome) : SameParcels store outcome.store := by
  obtain ⟨_, _, hadded⟩ := exists_of_bind h
  dsimp only at hadded
  split at hadded
  · cases hadded
  · cases hadded
    rfl

theorem sameParcels_saveKeyWordCode {id : Int} {edit : CodeEdit} {outcome : Change Nat}
    (h : store.saveKeyWordCode id edit = .ok outcome) : SameParcels store outcome.store := by
  obtain ⟨_, _, rfl⟩ := saveKeyWordCode_ok h
  rfl

theorem sameParcels_putWord {id : Int} {entry : WordEntry} {after : Store}
    (h : store.putWord vocabulary id entry = .ok after) : SameParcels store after := by
  obtain ⟨_, _, hput⟩ := exists_of_bind h
  dsimp only at hput
  split at hput
  · cases hput
  · cases hput
    exact sameParcels_setWords store vocabulary _

theorem sameParcels_saveWord {id : Int} {edit : WordEdit} {outcome : Change Nat}
    (h : store.saveWord vocabulary id edit = .ok outcome) : SameParcels store outcome.store := by
  unfold saveWord at h
  cases hfind : (store.words vocabulary).find? id with
  | none =>
    rw [hfind] at h
    cases h
  | some entry =>
    rw [hfind] at h
    obtain ⟨after, hput, hsaved⟩ := exists_of_bind h
    cases hsaved
    exact sameParcels_putWord hput

theorem sameParcels_updateWord {id : Int} {edit : WordEdit} {outcome : Change Nat}
    (h : store.updateWord vocabulary id edit = .ok outcome) : SameParcels store outcome.store := by
  unfold updateWord at h
  split at h
  · cases h
    rfl
  · obtain ⟨_, _, hupdated⟩ := exists_of_bind h
    cases hfind : (store.words vocabulary).find? id with
    | none =>
      rw [hfind] at hupdated
      cases hupdated
      rfl
    | some entry =>
      rw [hfind] at hupdated
      obtain ⟨after, hput, hsaved⟩ := exists_of_bind hupdated
      cases hsaved
      exact sameParcels_putWord hput

theorem sameParcels_addPrefix {entry : StoredPrefix} {outcome : Change Int}
    (h : store.addPrefix entry = .ok outcome) : SameParcels store outcome.store := by
  obtain ⟨_, _, hadded⟩ := exists_of_bind h
  cases hadded
  rfl

theorem sameParcels_addException {entry : PrefixException} {outcome : Change Int}
    (h : store.addException entry = .ok outcome) : SameParcels store outcome.store := by
  obtain ⟨_, _, hadded⟩ := exists_of_bind h
  cases hadded
  rfl

/-- Deleting a rule may take links away, but no parcel. -/
theorem sameParcels_delete {entity : Entity} (hrules : entity.isOfRules = true) {id : Int}
    {outcome : Change Nat} (h : store.delete entity id = .ok outcome) :
    SameParcels store outcome.store := by
  unfold delete at h
  split at h
  · cases h
    cases entity <;> first | rfl | cases hrules
  · cases h

end Store

namespace Service

variable {s : Session}

theorem sameParcels_addKeyWord (entry : WordEntry) (codes : List String) :
    KeepsAt Store.SameParcels s (addKeyWord entry codes) := by
  have hcodes : ∀ (keyWord : Int) (codes : List String) (t : Session),
      KeepsAt Store.SameParcels t (addCodes keyWord codes) := by
    intro keyWord codes
    induction codes with
    | nil => exact fun _ => keepsAt_pure ()
    | cons code rest ih =>
      exact fun _ => keepsAt_bind (keepsAt_execute fun _ => Store.sameParcels_addKeyWordCode)
        fun _ u _ => ih u
  exact keepsAt_bind (keepsAt_execute fun _ => Store.sameParcels_addWord) fun id t _ =>
    keepsAt_bind (hcodes id codes t) fun _ _ _ => keepsAt_pure id

theorem sameParcels_addPrefix (entry : StoredPrefix) (exceptions : List String) :
    KeepsAt Store.SameParcels s (addPrefix entry exceptions) := by
  have hexceptions : ∀ (codePrefix : Int) (exceptions : List String) (t : Session),
      KeepsAt Store.SameParcels t (addExceptions codePrefix exceptions) := by
    intro codePrefix exceptions
    induction exceptions with
    | nil => exact fun _ => keepsAt_pure ()
    | cons code rest ih =>
      exact fun _ => keepsAt_bind (keepsAt_execute fun _ => Store.sameParcels_addException)
        fun _ u _ => ih u
  exact keepsAt_bind (keepsAt_execute fun _ => Store.sameParcels_addPrefix) fun id t _ =>
    keepsAt_bind (hexceptions id exceptions t) fun _ _ _ => keepsAt_pure id

theorem keepsAt_map {α β : Type} {rel : Store → Store → Prop} {f : α → β} {proc : Proc α}
    (h : KeepsAt rel s proc) : KeepsAt rel s (f <$> proc) := by
  unfold KeepsAt at h ⊢
  rwa [map_apply]

/-- An edit of rules leaves the parcels alone, whatever it comes to. -/
theorem sameParcels_perform {operation : Operation} (hedits : operation.editsOnlyRules = true) :
    KeepsAt Store.SameParcels s (perform operation) := by
  cases operation with
  | addStopWord entry => exact keepsAt_map (keepsAt_execute fun _ => Store.sameParcels_addWord)
  | addKeyWord entry codes => exact keepsAt_map (sameParcels_addKeyWord entry codes)
  | addKeyWordCode entry =>
    exact keepsAt_map (keepsAt_execute fun _ => Store.sameParcels_addKeyWordCode)
  | saveKeyWordCode id edit =>
    exact keepsAt_map (keepsAt_execute fun _ => Store.sameParcels_saveKeyWordCode)
  | saveWord vocabulary id edit =>
    exact keepsAt_map (keepsAt_execute fun _ => Store.sameParcels_saveWord)
  | updateWord vocabulary id edit =>
    exact keepsAt_map (keepsAt_execute fun _ => Store.sameParcels_updateWord)
  | addOrder order =>
    refine keepsAt_map (keepsAt_execute fun outcome h => ?_)
    cases h
    rfl
  | setOrder id enabled =>
    refine keepsAt_map (keepsAt_execute fun outcome h => ?_)
    cases h
    rfl
  | addPrefix entry exceptions => exact keepsAt_map (sameParcels_addPrefix entry exceptions)
  | delete entity id =>
    exact keepsAt_map (keepsAt_execute fun _ => Store.sameParcels_delete hedits)
  | _ => cases hedits

end Service

namespace Screening

/-! ## One screening -/

variable {scope : Scope} {given : Option Context} {id : Int} {s t : Session}

theorem keepsAt_contextFor {rel : Store → Store → Prop} [IsPreorder Store rel] (scope : Scope)
    (given : Option Context) : KeepsAt rel s (contextFor scope given) := by
  unfold contextFor
  cases given with
  | none => exact keepsAt_loadContext _ _
  | some context =>
    dsimp only
    split
    · exact keepsAt_pure _
    · exact keepsAt_loadContext _ _

/-- A screening that goes through has done to the store what screening does with some context. -/
theorem exists_change_of_screen {outcome : Outcome}
    (h : screen scope given id s = (.ok outcome, t)) :
    ∃ context change, screenParcel context scope id s.store = .ok change ∧
      t.store = change.store ∧ change.result = outcome := by
  obtain ⟨context, u, hload, hscreen⟩ := bind_ok h
  have hkeeps : KeepsAt Eq s (contextFor scope given) := keepsAt_contextFor scope given
  unfold KeepsAt at hkeeps
  rw [hload] at hkeeps
  obtain ⟨change, hchange, hstore, hresult⟩ := screenWith_ok hscreen
  rw [← show s.store = u.store from hkeeps] at hchange
  exact ⟨context, change, hchange, hstore, hresult⟩

/-- A screening that fails leaves the store as it was. -/
theorem store_of_screen_error {fault : Fault} (h : screen scope given id s = (.error fault, t)) :
    t.store = s.store := by
  have hkeeps : KeepsAt Eq s (contextFor scope given) := keepsAt_contextFor scope given
  unfold KeepsAt at hkeeps
  unfold screen Strikes.screen at h
  rw [bind_apply] at h
  cases hload : contextFor scope given s with
  | mk result u =>
    rw [hload] at h hkeeps
    cases result with
    | error own =>
      cases h
      exact hkeeps.symm
    | ok context =>
      have hfails := screenWith_of_error (congrArg Prod.fst h)
      rw [show screenWith context scope id u = _ from h] at hfails
      rw [(Prod.mk.inj hfails).2, hkeeps]

/-- What is stored of a parcel agrees with an outcome and with itself: the outcome lists the links,
and the check status is the one that follows from the code, the stop words linked and the code
prefixes linked. The keywords have no part in it. -/
structure Reflects (id : Int) (outcome : Outcome) (store : Store) (record : Parcel) : Prop where
  parcel : store.parcels.find? id = some record
  own : outcome.parcel = id ∧ outcome.skipped = false
  links : ∀ kind, outcome.rules kind = store.linkedRules kind id
  invalidCode : outcome.invalidCode = !Commodity.hasCodeFormat record.code
  shown : outcome.checkStatus = record.checkStatus
  checkStatus : record.checkStatus = (CheckStatus.ofFindings
    (!Commodity.hasCodeFormat record.code) (store.isLinked .stopWord id)
    (store.isLinked .codePrefix id)).number
  held : Paging.Filters.held.pass record = true ↔ Commodity.hasCodeFormat record.code = false ∨
    store.isLinked .stopWord id = true ∨ store.isLinked .codePrefix id = true

theorem Screened.reflects {context : Context} {record : Parcel} {before after : Store}
    (h : Screened id record (outcomeOf context scope id record before) before after) :
    Reflects id (outcomeOf context scope id record before) after { record with
      checkStatus := (outcomeOf context scope id record before).checkStatus } := by
  have hstatus : (outcomeOf context scope id record before).checkStatus =
      (CheckStatus.ofFindings (!Commodity.hasCodeFormat record.code) (after.isLinked .stopWord id)
        (after.isLinked .codePrefix id)).number := by
    rw [Store.isLinked_eq, Store.isLinked_eq, h.links, h.links]
    rfl
  refine ⟨h.parcel, ⟨rfl, rfl⟩, fun kind => (h.links kind).symm, rfl, rfl, hstatus, ?_⟩
  rw [Paging.Filters.pass_held]
  dsimp only
  rw [hstatus, CheckStatus.isHeld_ofFindings]
  simp only [Bool.or_eq_true, Bool.not_eq_true', or_assoc]

/-- Whether a parcel is there and the partner has not marked it. -/
def IsUnmarked (id : Int) (store : Store) : Prop :=
  ∃ record, store.parcels.find? id = some record ∧ record.isMarked = false

/-- An outcome marks no parcel for the partner. -/
theorem Reflects.isUnmarked {outcome : Outcome} {store : Store} {record : Parcel}
    (h : Reflects id outcome store record) : IsUnmarked id store := by
  refine ⟨record, h.parcel, ?_⟩
  unfold Parcel.isMarked
  rw [h.checkStatus]
  exact beq_eq_false_iff_ne.2 (CheckStatus.ofFindings_ne_marked _ _ _)

theorem reflects_of_screen {outcome : Outcome} (hunmarked : IsUnmarked id s.store)
    (h : screen scope given id s = (.ok outcome, t)) :
    ∃ record, Reflects id outcome t.store record := by
  obtain ⟨context, change, hchange, hstore, hresult⟩ := exists_change_of_screen h
  obtain ⟨record, hparcel, ⟨hmarked, _⟩ | ⟨_, hof, hscreened⟩⟩ := screenParcel_ok hchange
  · obtain ⟨own, hown, hnot⟩ := hunmarked
    rw [hparcel] at hown
    cases hown
    rw [hnot] at hmarked
    cases hmarked
  · rw [hof] at hresult
    rw [← hresult, hstore]
    exact ⟨_, hscreened.reflects⟩

/-! ## Screenings and edits, one after another -/

/-- What is done over time: a parcel is screened, with a context given or without one, or rules are
edited. -/
inductive Step where
  | screening (scope : Scope) (given : Option Context)
  | edit (operation : Operation) (editsOnlyRules : operation.editsOnlyRules = true)

/-- The session after a step for a parcel, whatever the step comes to. -/
def Step.after (id : Int) (s : Session) : Step → Session
  | screening scope given => (screen scope given id s).2
  | edit operation _ => (Service.perform operation s).2

/-- The session after steps for a parcel. -/
def afterSteps (id : Int) (steps : List Step) (s : Session) : Session :=
  steps.foldl (Step.after id) s

theorem Step.isUnmarked_after (step : Step) (h : IsUnmarked id s.store) :
    IsUnmarked id (step.after id s).store := by
  cases step with
  | screening scope given =>
    show IsUnmarked id (screen scope given id s).2.store
    cases hscreen : screen scope given id s with
    | mk result t =>
      cases result with
      | ok outcome =>
        obtain ⟨record, hreflects⟩ := reflects_of_screen h hscreen
        exact hreflects.isUnmarked
      | error fault => rwa [store_of_screen_error hscreen]
  | edit operation hedits =>
    have hsame : KeepsAt Store.SameParcels s (Service.perform operation) :=
      Service.sameParcels_perform hedits
    unfold KeepsAt Store.SameParcels at hsame
    unfold IsUnmarked after
    rwa [hsame]

theorem isUnmarked_afterSteps (steps : List Step) (h : IsUnmarked id s.store) :
    IsUnmarked id (afterSteps id steps s).store := by
  induction steps generalizing s with
  | nil => exact h
  | cons step rest ih => exact ih (step.isUnmarked_after h)

/-- However often a parcel that is not marked has been screened, in full or in part, with rules
edited meanwhile or contexts out of date: once a screening goes through, the outcome lists the links
that are stored, the check status is the one that follows from them and the code, and the parcel is
held for review just if its code is invalid or a stop word or a code prefix is linked to it. -/
theorem screening_reflected {record : Parcel} (hparcel : s.store.parcels.find? id = some record)
    (hmarked : record.checkStatus ≠ CheckStatus.markedByPartner.number) (steps : List Step)
    (scope : Scope) (given : Option Context) {outcome : Outcome}
    (h : screen scope given id (afterSteps id steps s) = (.ok outcome, t)) :
    ∃ later, Reflects id outcome t.store later :=
  reflects_of_screen
    (isUnmarked_afterSteps steps ⟨record, hparcel, beq_eq_false_iff_ne.2 hmarked⟩) h

/-- A parcel is screened in full, and then its stop word is deleted. -/
def disarming : List Step := [.screening .full none, .edit (.delete .stopWord 1) rfl]

/-- A parcel that was blocked for a stop word, which has been deleted since: it is screened for its
code only, and is free of issues then as no stop word is linked to it any more. -/
theorem screening_reflected_disarming : gunSession.store.parcels.find? 1 = some gunParcel ∧
    gunParcel.checkStatus ≠ CheckStatus.markedByPartner.number ∧
    ∃ t later, screen .codes none 1 (afterSteps 1 disarming gunSession) =
        (.ok ⟨1, CheckStatus.noIssues.number, [], [], [], false, false⟩, t) ∧
      Reflects 1 ⟨1, CheckStatus.noIssues.number, [], [], [], false, false⟩ t.store later := by
  have hparcel : gunSession.store.parcels.find? 1 = some gunParcel := by decide
  have hmarked : gunParcel.checkStatus ≠ CheckStatus.markedByPartner.number := by decide
  have hresult : (screen .codes none 1 (afterSteps 1 disarming gunSession)).1 =
      .ok ⟨1, CheckStatus.noIssues.number, [], [], [], false, false⟩ := by decide +kernel
  cases hscreen : screen .codes none 1 (afterSteps 1 disarming gunSession) with
  | mk result t =>
    rw [hscreen] at hresult
    cases hresult
    obtain ⟨later, hreflects⟩ := screening_reflected hparcel hmarked disarming .codes none hscreen
    exact ⟨hparcel, hmarked, t, later, rfl, hreflects⟩

end Screening

end Clearance

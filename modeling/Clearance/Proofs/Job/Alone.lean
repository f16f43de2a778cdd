import Clearance.Proofs.Job.Visit
import Clearance.Proofs.Screening.Context

/-!
# Parcels that are screened one after another

Screening a parcel reads the rules, its own record and its own links, and changes no more than its
own check status and links. So a list of parcels that is screened in any order is left as each of
them is by screening it alone, and to screen one of them once more changes nothing.
-/

set_option autoImplicit false

namespace Clearance

open Proc
open Clearance.Parcel (CheckStatus)

namespace Store

/-- Two stores with the same words and code prefixes, and with parcels under the same ids. -/
structure SameRules (before after : Store) : Prop where
  stopWords : after.stopWords = before.stopWords
  keyWords : after.keyWords = before.keyWords
  orders : after.orders = before.orders
  prefixes : after.prefixes = before.prefixes
  exceptions : after.exceptions = before.exceptions
  parcelIds : after.parcels.ids = before.parcels.ids

variable {before middle after : Store}

instance : IsPreorder Store SameRules where
  refl _ := ⟨rfl, rfl, rfl, rfl, rfl, rfl⟩
  trans _ _ _ hab hbc := ⟨hbc.stopWords.trans hab.stopWords, hbc.keyWords.trans hab.keyWords,
    hbc.orders.trans hab.orders, hbc.prefixes.trans hab.prefixes,
    hbc.exceptions.trans hab.exceptions, hbc.parcelIds.trans hab.parcelIds⟩

theorem SameButJobs.sameRules (h : SameButJobs before after) : SameRules before after := by
  obtain ⟨jobs, rfl⟩ := h
  exact ⟨rfl, rfl, rfl, rfl, rfl, rfl⟩

theorem sameRules_of_sameBut {parcel : Int} (h : Screening.SameBut parcel before after) :
    SameRules before after :=
  ⟨h.stopWords, h.keyWords, h.orders, h.prefixes, h.exceptions, h.parcelIds⟩

theorem SameRules.rules (h : SameRules before after) (vocabulary : Word.Vocabulary) :
    after.rules vocabulary = before.rules vocabulary := by
  unfold Store.rules
  cases vocabulary with
  | stopWords => rw [Store.words, Store.words, h.stopWords]
  | keyWords => rw [Store.words, Store.words, h.keyWords]

theorem SameRules.prefixRules (h : SameRules before after) :
    after.prefixRules = before.prefixRules := by
  have hrule : after.prefixRule = before.prefixRule := by
    funext row
    unfold prefixRule
    rw [h.exceptions]
  have huse : after.isInUse = before.isInUse := by
    funext entry
    unfold isInUse
    rw [h.orders]
  unfold Store.prefixRules
  rw [hrule, huse, h.prefixes]

theorem SameRules.hasRule (h : SameRules before after) (kind : LinkKind) (id : Int) :
    after.hasRule kind id = before.hasRule kind id := by
  cases kind with
  | stopWord => exact congrArg (Table.has · id) h.stopWords
  | keyWord => exact congrArg (Table.has · id) h.keyWords
  | codePrefix => exact congrArg (Table.has · id) h.prefixes

/-- Whether every parcel has the record that it had and is linked to the rules to which it was. -/
structure SameVerdicts (before after : Store) : Prop where
  record : ∀ parcel, after.parcels.find? parcel = before.parcels.find? parcel
  rules : ∀ kind parcel, after.linkedRules kind parcel = before.linkedRules kind parcel

instance : IsPreorder Store SameVerdicts where
  refl _ := ⟨fun _ => rfl, fun _ _ => rfl⟩
  trans _ _ _ hab hbc := ⟨fun parcel => (hbc.record parcel).trans (hab.record parcel),
    fun kind parcel => (hbc.rules kind parcel).trans (hab.rules kind parcel)⟩

theorem sameVerdicts_of_spares (h : ∀ parcel, Spares parcel before after) :
    SameVerdicts before after :=
  ⟨fun parcel => (h parcel).record, fun kind parcel => (h parcel).linkedRules kind⟩

/-- Whether a store has the verdicts of an original one if another store has them. -/
def KeepsVerdictsOf (original before after : Store) : Prop :=
  original.SameVerdicts before → original.SameVerdicts after

instance (original : Store) : IsPreorder Store (KeepsVerdictsOf original) where
  refl _ h := h
  trans _ _ _ hab hbc h := hbc (hab h)

theorem SameVerdicts.keeps {original : Store} (h : SameVerdicts before after) :
    KeepsVerdictsOf original before after :=
  fun hbefore => trans_of SameVerdicts hbefore h

/-- Which parcels are open can be read off the records. -/
theorem openParcels_eq (store : Store) (register : Int) :
    store.openParcels register = store.parcels.ids.filter fun id =>
      (store.parcels.find? id).any fun record => record.register == register && record.isOpen := by
  unfold openParcels Table.ids
  rw [List.filter_map]
  congr 1
  refine List.filter_congr fun row hrow => ?_
  have hrecord : store.parcels.find? row.id = some row.val := Table.find?_eq_some_iff.2 hrow
  rw [Function.comp_apply, hrecord, Option.any_some]

theorem mem_openParcels_iff {store : Store} {register id : Int} :
    id ∈ store.openParcels register ↔ ∃ record, store.parcels.find? id = some record ∧
      record.register = register ∧ record.isOpen = true := by
  unfold openParcels
  simp only [List.mem_map, List.mem_filter, Bool.and_eq_true, beq_iff_eq]
  constructor
  · rintro ⟨row, ⟨hrow, hopen⟩, rfl⟩
    exact ⟨row.val, Table.find?_eq_some_iff.2 hrow, hopen⟩
  · rintro ⟨record, hrecord, hopen⟩
    exact ⟨⟨id, record⟩, ⟨Table.find?_eq_some_iff.1 hrecord, hopen⟩, rfl⟩

theorem nodup_openParcels (store : Store) (register : Int) :
    (store.openParcels register).Nodup := by
  have hids := store.parcels.ascending.filter fun row =>
    row.val.register == register && row.val.isOpen
  exact (List.pairwise_map.2 hids).imp Int.ne_of_lt

end Store

namespace Screening

variable {context : Context} {scope : Scope} {id : Int} {record : Parcel}
  {before middle after : Store}

/-- The outcome of screening a parcel is the same as long as the parcel is not screened, and once it
has been screened. -/
theorem outcomeOf_eq (status : Int) (hrules : ∀ kind,
      after.linkedRules kind id = before.linkedRules kind id ∨
        after.linkedRules kind id = (outcomeOf context scope id record before).rules kind) :
    outcomeOf context scope id { record with checkStatus := status } after =
      outcomeOf context scope id record before := by
  unfold outcomeOf at hrules ⊢
  generalize (if scope.hasWords then context.words else none) = words at hrules ⊢
  generalize (if scope.hasCodes then context.prefixes else none) = prefixes at hrules ⊢
  have hsame : rulesAfter words prefixes id { record with checkStatus := status } after =
      rulesAfter words prefixes id record before := by
    funext kind
    have hlinked := hrules kind
    cases kind with
    | stopWord =>
      cases words with
      | some words => rfl
      | none => exact hlinked.elim (fun h => h) fun h => h
    | keyWord =>
      cases words with
      | some words => rfl
      | none => exact hlinked.elim (fun h => h) fun h => h
    | codePrefix =>
      cases prefixes with
      | some prefixes => rfl
      | none => exact hlinked.elim (fun h => h) fun h => h
  rw [hsame]
  rfl

/-- No parcel is closed by screening it. -/
theorem isOpen_outcomeOf (context : Context) (scope : Scope) (id : Int) (record : Parcel)
    (store : Store) : CheckStatus.isOpen (outcomeOf context scope id record store).checkStatus := by
  have hopen : ∀ invalid stopWords prefixes : Bool,
      CheckStatus.isOpen (CheckStatus.ofFindings invalid stopWords prefixes).number = true := by
    decide
  exact hopen _ _ _

theorem not_isMarked_of_isOpen (h : record.isOpen = true) : record.isMarked = false := by
  unfold Parcel.isOpen CheckStatus.isOpen at h
  rw [Bool.and_eq_true, bne_iff_ne] at h
  exact beq_eq_false_iff_ne.2 h.2

/-- Whether the rules that are found for a parcel exist, as they need not if the vocabularies have
been compiled before a rule was deleted. -/
def FindsRules (context : Context) (scope : Scope) (id : Int) (record : Parcel) (store : Store) :
    Prop :=
  ∀ kind, ∀ rule ∈ (outcomeOf context scope id record store).rules kind,
    store.hasRule kind rule = true

/-- A store that is as another one is after the open parcels of a list have been screened: each of
them has the check status and the links that it has after screening it alone, and the other parcels
and the rules are as they were. -/
structure AllScreened (context : Context) (scope : Scope) (parcels : List Int)
    (before after : Store) : Prop where
  rules : Store.SameRules before after
  screened : ∀ id ∈ parcels, ∃ record, before.parcels.find? id = some record ∧
    record.isOpen = true ∧
    after.parcels.find? id = some { record with
      checkStatus := (outcomeOf context scope id record before).checkStatus } ∧
    ∀ kind, after.linkedRules kind id = (outcomeOf context scope id record before).rules kind
  spared : ∀ id, id ∉ parcels → before.Spares id after

namespace AllScreened

variable {parcels : List Int}

theorem nil (context : Context) (scope : Scope) (store : Store) :
    AllScreened context scope [] store store where
  rules := refl_of Store.SameRules store
  screened := nofun
  spared := fun id _ => refl_of (Store.Spares id) store

theorem of_sameButJobs (h : AllScreened context scope parcels before middle)
    (hjobs : Store.SameButJobs middle after) : AllScreened context scope parcels before after where
  rules := trans_of Store.SameRules h.rules hjobs.sameRules
  screened := fun id hid => by
    obtain ⟨record, hrecord, hopen, hafter, hlinks⟩ := h.screened id hid
    exact ⟨record, hrecord, hopen, (hjobs.spares id).record.trans hafter,
      fun kind => ((hjobs.spares id).linkedRules kind).trans (hlinks kind)⟩
  spared := fun id hid => trans_of (Store.Spares id) (h.spared id hid) (hjobs.spares id)

theorem trans_sameButJobs (hjobs : Store.SameButJobs before middle)
    (h : AllScreened context scope parcels middle after) :
    AllScreened context scope parcels before after where
  rules := trans_of Store.SameRules hjobs.sameRules h.rules
  screened := fun id hid => by
    obtain ⟨record, hrecord, hopen, hafter, hlinks⟩ := h.screened id hid
    have houtcome : outcomeOf context scope id record middle =
        outcomeOf context scope id record before :=
      outcomeOf_eq record.checkStatus fun kind => .inl ((hjobs.spares id).linkedRules kind)
    rw [houtcome] at hafter hlinks
    exact ⟨record, (hjobs.spares id).record.symm.trans hrecord, hopen, hafter, hlinks⟩
  spared := fun id hid => trans_of (Store.Spares id) (hjobs.spares id) (h.spared id hid)

/-- One more parcel is screened, which has not been screened before. -/
theorem cons (h : AllScreened context scope parcels before middle) (hnew : id ∉ parcels)
    (hrecord : before.parcels.find? id = some record) (hopen : record.isOpen = true)
    (hscreened : Screened id record (outcomeOf context scope id record middle) middle after) :
    AllScreened context scope (id :: parcels) before after := by
  have hspared := h.spared id hnew
  have houtcome : outcomeOf context scope id record middle =
      outcomeOf context scope id record before :=
    outcomeOf_eq record.checkStatus fun kind => .inl (hspared.linkedRules kind)
  have hothers : ∀ other, other ≠ id → middle.Spares other after := fun other hne =>
    Store.spares_of_sameBut hscreened.same hne
  rw [houtcome] at hscreened
  refine ⟨trans_of Store.SameRules h.rules (Store.sameRules_of_sameBut hscreened.same),
    fun other hother => ?_, fun other hother => ?_⟩
  · by_cases hid : other = id
    · subst hid
      exact ⟨record, hrecord, hopen, hscreened.parcel, hscreened.links⟩
    · obtain ⟨found, hfound, hopen, hmiddle, hlinks⟩ :=
        h.screened other ((List.mem_cons.1 hother).resolve_left hid)
      exact ⟨found, hfound, hopen, (hothers other hid).record.trans hmiddle,
        fun kind => ((hothers other hid).linkedRules kind).trans (hlinks kind)⟩
  · rw [List.mem_cons, not_or] at hother
    exact trans_of (Store.Spares other) (h.spared other hother.2) (hothers other hother.1)

variable (h : AllScreened context scope parcels before after)

include h

/-- The order in which parcels are screened does not matter. -/
theorem congr {others : List Int} (hsame : ∀ id, id ∈ others ↔ id ∈ parcels) :
    AllScreened context scope others before after where
  rules := h.rules
  screened := fun id hid => h.screened id ((hsame id).1 hid)
  spared := fun id hid => h.spared id (mt (hsame id).2 hid)

/-- Two stores in which the same parcels have been screened have the same verdicts. -/
theorem sameVerdicts {other : Store} (hother : AllScreened context scope parcels before other) :
    after.SameVerdicts other := by
  have hverdict : ∀ id, other.parcels.find? id = after.parcels.find? id ∧
      ∀ kind, other.linkedRules kind id = after.linkedRules kind id := by
    intro id
    by_cases hid : id ∈ parcels
    · obtain ⟨record, hrecord, _, hparcel, hlinks⟩ := h.screened id hid
      obtain ⟨found, hfound, _, hparcel', hlinks'⟩ := hother.screened id hid
      obtain rfl := Option.some.inj (hfound.symm.trans hrecord)
      exact ⟨hparcel'.trans hparcel.symm, fun kind => (hlinks' kind).trans (hlinks kind).symm⟩
    · have hspared := h.spared id hid
      have hspared' := hother.spared id hid
      exact ⟨hspared'.record.trans hspared.record.symm, fun kind =>
        (hspared'.linkedRules kind).trans (hspared.linkedRules kind).symm⟩
  exact ⟨fun id => (hverdict id).1, fun kind id => (hverdict id).2 kind⟩

/-- Open parcels stay open when they are screened, and no other parcel becomes one. -/
theorem openParcels (register : Int) :
    after.openParcels register = before.openParcels register := by
  rw [Store.openParcels_eq, Store.openParcels_eq, h.rules.parcelIds]
  refine List.filter_congr fun id _ => ?_
  by_cases hid : id ∈ parcels
  · obtain ⟨record, hrecord, hopen, hparcel, _⟩ := h.screened id hid
    have hstill := isOpen_outcomeOf context scope id record before
    rw [hrecord, hparcel, Option.any_some, Option.any_some, hopen, Parcel.isOpen, hstill]
  · rw [(h.spared id hid).record]

/-- Screening a parcel once more changes no verdict. -/
theorem keepsAt_screenWith {s : Session} (hid : id ∈ parcels) :
    KeepsAt after.KeepsVerdictsOf s (screenWith context scope id) := by
  refine Screening.keepsAt_screenWith fun change hchange hnow => ?_
  obtain ⟨record, hrecord, _, hparcel, hlinks⟩ := h.screened id hid
  obtain ⟨found, hfound, ⟨_, hstore⟩ | ⟨_, _, hscreened⟩⟩ := screenParcel_ok hchange
  · rw [hstore]
    exact hnow
  · obtain rfl := Option.some.inj (hfound.symm.trans ((hnow.record id).trans hparcel))
    have hagain := outcomeOf_eq (outcomeOf context scope id record before).checkStatus fun kind =>
      .inr ((hnow.rules kind id).trans (hlinks kind))
    rw [hagain] at hscreened
    have hothers : ∀ other, other ≠ id → s.store.Spares other change.store := fun other hne =>
      Store.spares_of_sameBut hscreened.same hne
    refine ⟨fun other => ?_, fun kind other => ?_⟩
    · by_cases hother : other = id
      · rw [hother, hscreened.parcel, hparcel]
      · exact (hothers other hother).record.trans (hnow.record other)
    · by_cases hother : other = id
      · rw [hother, hscreened.links kind, hlinks kind]
      · exact ((hothers other hother).linkedRules kind).trans (hnow.rules kind other)

/-- What is found for a parcel that has not been screened does not depend on the others. -/
theorem findsRules_iff (hnew : id ∉ parcels) :
    FindsRules context scope id record after ↔ FindsRules context scope id record before := by
  have houtcome : outcomeOf context scope id record after =
      outcomeOf context scope id record before :=
    outcomeOf_eq record.checkStatus fun kind => .inl ((h.spared id hnew).linkedRules kind)
  unfold FindsRules
  rw [houtcome]
  simp only [h.rules.hasRule]

end AllScreened

/-! ## A parcel screened alone -/

section

variable {s : Session} (hs : s.IsSettled) (hblock : s.inBlock = false)
  (hrecord : s.store.parcels.find? id = some record) (hmarked : record.isMarked = false)

include hs hblock hrecord hmarked

/-- Outside a block a parcel that is not marked is screened with a context just if the rules that
are found for it exist. -/
theorem screenWith_cases (scope : Scope) (hprefixes : ∀ index, context.prefixes = some index →
      (Commodity.classify record.code index).ids.Nodup) :
    (FindsRules context scope id record s.store ∧ ∃ after, screenWith context scope id s =
        (.ok (outcomeOf context scope id record s.store), { s with store := after }) ∧
      Screened id record (outcomeOf context scope id record s.store) s.store after ∧
      after.IsSound) ∨
    ¬ FindsRules context scope id record s.store ∧
      ∃ fault t, screenWith context scope id s = (.error fault, t) := by
  by_cases hrules : FindsRules context scope id record s.store
  · exact .inl ⟨hrules, screenWith_of_hasRule hs hblock hrecord hmarked
      (fun index hindex _ => hprefixes index hindex) hrules⟩
  · refine .inr ⟨hrules, ?_⟩
    unfold FindsRules at hrules
    simp only [not_forall, Bool.not_eq_true] at hrules
    obtain ⟨kind, rule, hrule, hmissing⟩ := hrules
    obtain ⟨fault, hfails⟩ := (screenWith_fails_iff hs hblock hrecord hmarked
      (fun index hindex _ => hprefixes index hindex)).2 ⟨kind, rule, hrule, hmissing⟩
    exact ⟨fault, _, Prod.ext hfails rfl⟩

/-- Where a rule that is found exists no more, screening the parcel fails and does nothing. -/
theorem screenWith_of_not_findsRules (hprefixes : ∀ index, context.prefixes = some index →
      (Commodity.classify record.code index).ids.Nodup)
    (hnot : ¬ FindsRules context scope id record s.store) :
    screenWith context scope id s = (.error .dangling, s) := by
  obtain ⟨hwhole, _, _⟩ := hs hblock
  obtain ⟨after, hchange, _⟩ := exists_screenParcel context scope hrecord hmarked
    fun index hindex _ => hprefixes index hindex
  have hbody := @execute_of_ok _ (screenParcel context scope id) { s with inBlock := true } _ _
    hwhole hchange nofun
  rcases screenWith_cases hs hblock hrecord hmarked scope hprefixes with
    ⟨hfinds, _⟩ | ⟨_, fault, t, hfails⟩
  · exact absurd hfinds hnot
  · -- The change is refused when the block ends, as the store would not be sound.
    rw [screenWith_eq] at hfails ⊢
    unfold atomic atomicIf at hfails ⊢
    rw [hbody] at hfails ⊢
    dsimp only at hfails ⊢
    rw [hwhole, hblock] at hfails ⊢
    simp only [Bool.not_true, Bool.or_self, Bool.false_eq_true, if_false] at hfails ⊢
    by_cases hsound : after.isSound = true
    · rw [if_pos hsound] at hfails
      cases hfails
    · rw [if_neg hsound]
      cases s
      cases hblock
      cases hwhole
      rfl

/-- Where the parcel is the same and the rules that are found for it exist alike, a screening fails
as it fails here, and does nothing. -/
theorem Strikes.screenWith_fails_alike {strikes : Strikes} {scope : Scope} {fault : Fault}
    (hprefixes : ∀ index, context.prefixes = some index →
      (Commodity.classify record.code index).ids.Nodup)
    (hfails : (strikes.screenWith context scope id s).1 = .error fault) {u : Session}
    (hu : u.IsSettled) (hublock : u.inBlock = false) (hsame : s.store.SameParcel id u.store)
    (hrules : FindsRules context scope id record u.store ↔
      FindsRules context scope id record s.store) :
    strikes.screenWith context scope id u = (.error fault, u) := by
  let inside : Session := { s with inBlock := true }
  let inside' : Session := { u with inBlock := true }
  have hboth : Session.SameParcel id inside inside' :=
    ⟨hsame, rfl, rfl, (hu hublock).1.trans (hs hblock).1.symm⟩
  have hstep := isStep_screenSteps strikes context scope id
  have halike := (hstep.alike inside inside' hboth).result.eq
  cases hbody : (screenSteps strikes context scope id inside).1 with
  | error own =>
    -- A statement fails, or an error strikes before one.
    have hrun : strikes.screenWith context scope id s = (.error own, s) :=
      hstep.undone.atomic_of_body hbody
    rw [hrun] at hfails
    cases hfails
    exact hstep.undone.atomic_of_body (halike.symm.trans hbody)
  | ok outcome =>
    -- All statements go through, and the end of the block refuses what they have done.
    rw [Strikes.screenWith_of_ok hbody] at hfails
    rw [Strikes.screenWith_of_ok (halike.symm.trans hbody)]
    have hnot : ¬ FindsRules context scope id record s.store := by
      rcases Screening.screenWith_cases hs hblock hrecord hmarked scope hprefixes with
        ⟨_, after, hrun, _⟩ | ⟨hnot, _⟩
      · rw [hrun] at hfails
        cases hfails
      · exact hnot
    rw [screenWith_of_not_findsRules hs hblock hrecord hmarked hprefixes hnot] at hfails
    cases hfails
    exact screenWith_of_not_findsRules hu hublock (hsame.record.trans hrecord) hmarked hprefixes
      (mt hrules.1 hnot)

/-- What screening a parcel alone comes to: it takes a context and the rules that it finds, and
leaves the parcel with the outcome. -/
theorem screen_alone_cases (scope : Scope) :
    (∃ context outcome t, screen scope none id s = (.ok outcome, t) ∧
      contextOf scope.hasWords scope.hasCodes s = .ok context ∧
      FindsRules context scope id record s.store ∧
      Screened id record (outcomeOf context scope id record s.store) s.store t.store) ∨
    (∃ fault t, screen scope none id s = (.error fault, t)) ∧
      ∀ context, contextOf scope.hasWords scope.hasCodes s = .ok context →
        ¬ FindsRules context scope id record s.store := by
  obtain ⟨u, hload, hsu, _⟩ := exists_loadContext scope.hasWords scope.hasCodes (hs hblock).1
  have hscreen : screen scope none id s =
      (loadContext scope.hasWords scope.hasCodes >>= fun context => screenWith context scope id) s :=
    rfl
  rw [hscreen, bind_apply, hload]
  cases hcontext : contextOf scope.hasWords scope.hasCodes s with
  | error fault => exact .inr ⟨⟨fault, u, rfl⟩, nofun⟩
  | ok context =>
    dsimp only
    have hrecord' : u.store.parcels.find? id = some record := by rw [hsu.store, hrecord]
    have hcases := screenWith_cases (hsu.isSettled hs) (hsu.inBlock.trans hblock) hrecord' hmarked
      scope fun _ hindex => nodup_of_contextOf hcontext hindex record.code
    rw [hsu.store] at hcases
    rcases hcases with ⟨hfinds, after, hrun, hscreened, _⟩ | ⟨hnot, fault, v, hrun⟩
    · exact .inl ⟨context, _, _, hrun, rfl, hfinds, hscreened⟩
    · refine .inr ⟨⟨fault, v, hrun⟩, fun other hother => ?_⟩
      cases hother
      exact hnot

end

/-- A parcel that has been screened among others is as screening it alone would have left it. -/
theorem AllScreened.alone {parcels : List Int} {s : Session}
    (h : AllScreened context scope parcels s.store after) (hs : s.IsSettled)
    (hblock : s.inBlock = false)
    (hcontext : contextOf scope.hasWords scope.hasCodes s = .ok context)
    (hfinds : ∀ record, s.store.parcels.find? id = some record →
      FindsRules context scope id record s.store) (hid : id ∈ parcels) :
    ∃ outcome u, screen scope none id s = (.ok outcome, u) ∧
      after.parcels.find? id = u.store.parcels.find? id ∧
      ∀ kind, after.linkedRules kind id = u.store.linkedRules kind id := by
  obtain ⟨record, hrecord, hopen, hafter, hlinks⟩ := h.screened id hid
  rcases screen_alone_cases hs hblock hrecord (not_isMarked_of_isOpen hopen) scope with
    ⟨other, outcome, u, hscreen, hother, _, hscreened⟩ | ⟨_, hnone⟩
  · rw [hcontext] at hother
    cases hother
    exact ⟨outcome, u, hscreen, hafter.trans hscreened.parcel.symm, fun kind =>
      (hlinks kind).trans (hscreened.links kind).symm⟩
  · exact absurd (hfinds record hrecord) (hnone context hcontext)

end Screening

end Clearance

import Clearance.Proofs.Session.Alike
import Clearance.Proofs.Store.Links
import Clearance.Screening.Loading

/-!
# The statements of a screening

A parcel is screened by up to seven statements in one block, and an error may strike between any two
of them, when links have been erased and new ones are not yet there. The end of the block undoes
what has been done until then. So a screening at which an error strikes leaves the session as it
was, and where none does the statements come to one change of the store.

Whether an error strikes depends on the way that the screening takes, and this on no more of the
store than the record and the links of the parcel.
-/

set_option autoImplicit false

namespace Clearance

variable {α β : Type}

namespace Proc

/-! ## What the end of a block undoes -/

/-- Whether the end of a block undoes all that a procedure does in it. -/
def IsUndone (proc : Proc α) : Prop := ∀ s, undo s (proc s).2 = s

theorem isUndone_query (read : Store → Except Fault α) : IsUndone (query read) := by
  intro s
  unfold query
  split <;> rfl

/-- A change that touches no vocabulary is a change of the store alone. -/
theorem isUndone_execute {change : Store → Except Fault (Change α)}
    (htouched : ∀ store outcome, change store = .ok outcome → outcome.touched = []) :
    IsUndone (execute change) := by
  intro s
  rcases execute_cases change s with ⟨_, _, hrun, _⟩ |
    ⟨outcome, _, hchange, ⟨_, hrun⟩ | ⟨_, _, hrun⟩⟩
  · rw [hrun]
    rfl
  · rw [hrun]
    rfl
  · rw [hrun, htouched _ _ hchange]
    rfl

theorem IsUndone.bind {first : Proc α} {next : α → Proc β} (hfirst : IsUndone first)
    (hnext : ∀ a, IsUndone (next a)) : IsUndone (first >>= next) := by
  intro s
  have hundone := hfirst s
  rw [bind_apply]
  cases hrun : first s with
  | mk result t =>
    rw [hrun] at hundone
    cases result with
    | error fault => exact hundone
    | ok a =>
      calc undo s (next a t).2 = undo s (undo t (next a t).2) := rfl
        _ = undo s t := by rw [hnext a t]
        _ = s := hundone

/-- The end of a block gives back the session there was before the block was begun. -/
theorem IsUndone.undo_body {body : Proc α} (h : IsUndone body) (s : Session) :
    undo s (body { s with inBlock := true }).2 = s := by
  have hinside := h { s with inBlock := true }
  calc undo s (body { s with inBlock := true }).2
      = undo s (undo { s with inBlock := true } (body { s with inBlock := true }).2) := rfl
    _ = s := by
      rw [hinside]
      rfl

/-- A block that fails, in a statement or in the end, leaves the session as it was. -/
theorem IsUndone.atomic_of_error {body : Proc α} (h : IsUndone body) {s : Session} {fault : Fault}
    (hfails : (atomic body s).1 = .error fault) : atomic body s = (.error fault, s) := by
  unfold atomic at hfails ⊢
  rcases atomicIf_cases (fun _ => true) body s with ⟨result, hrun⟩ |
    ⟨a, t, _, _, ⟨_, hrun⟩ | ⟨_, _, hrun⟩⟩
  · rw [hrun] at hfails ⊢
    rw [h.undo_body, show result = .error fault from hfails]
  · rw [hrun] at hfails
    cases hfails
  · rw [hrun] at hfails
    cases hfails

/-- A block whose statements fail leaves the session as it was. -/
theorem IsUndone.atomic_of_body {body : Proc α} (h : IsUndone body) {s : Session} {fault : Fault}
    (hfails : (body { s with inBlock := true }).1 = .error fault) :
    atomic body s = (.error fault, s) := by
  apply h.atomic_of_error
  cases hbody : body { s with inBlock := true } with
  | mk result t =>
    rw [hbody] at hfails
    rw [show result = .error fault from hfails] at hbody
    exact congrArg Prod.fst (atomicIf_of_error (fun _ => true) hbody)

end Proc

open Proc

/-! ## One parcel in two sessions -/

/-- Two stores that have the same record of a parcel and link it to the same rules. -/
structure Store.SameParcel (id : Int) (a b : Store) : Prop where
  record : b.parcels.find? id = a.parcels.find? id
  linked : ∀ kind, b.linkedRules kind id = a.linkedRules kind id

/-- Two sessions in an open block that have the same record of a parcel and link it to the same
rules. -/
structure Session.SameParcel (id : Int) (s t : Session) : Prop where
  store : s.store.SameParcel id t.store
  inBlock : s.inBlock = true
  inBlock' : t.inBlock = true
  isBroken : t.isBroken = s.isBroken

variable {id : Int}

theorem runsAlike_query {read : Store → Except Fault α}
    (hread : ∀ a b : Store, a.SameParcel id b → read b = read a) :
    RunsAlike (Session.SameParcel id) (query read) := by
  intro s t h
  by_cases hbroken : s.isBroken = true
  · exact .of_runs (query_of_isBroken read hbroken)
      (query_of_isBroken read (h.isBroken.trans hbroken)) (.error _) h
  · have hwhole := Bool.eq_false_iff.2 hbroken
    refine .of_runs (query_of_whole read hwhole)
      (query_of_whole read (h.isBroken.trans hwhole)) ?_ h
    rw [hread _ _ h.store]
    exact .refl _

theorem runsAlike_execute {change : Store → Except Fault (Change α)}
    (hchange : ∀ a b : Store, a.SameParcel id b → Alike
      (fun x y => x.result = y.result ∧ x.store.SameParcel id y.store) (change a) (change b)) :
    RunsAlike (Session.SameParcel id) (execute change) := by
  intro s t h
  by_cases hbroken : s.isBroken = true
  · exact .of_runs (execute_of_isBroken change hbroken)
      (execute_of_isBroken change (h.isBroken.trans hbroken)) (.error _) h
  have hwhole := Bool.eq_false_iff.2 hbroken
  have hwhole' := h.isBroken.trans hwhole
  have halike := hchange _ _ h.store
  generalize hfirst : change s.store = first at halike
  generalize hsecond : change t.store = second at halike
  cases halike with
  | error fault =>
    refine .of_runs (execute_of_error hwhole hfirst) (execute_of_error hwhole' hsecond)
      (.error fault) ⟨h.store, h.inBlock, h.inBlock', ?_⟩
    rw [h.inBlock, h.inBlock']
  | @ok outcome outcome' hsame =>
    refine ⟨?_, ?_⟩
    all_goals
      unfold execute
      rw [if_neg (by rw [hwhole]; exact Bool.false_ne_true),
        if_neg (by rw [hwhole']; exact Bool.false_ne_true), hfirst, hsecond]
      dsimp only
      rw [if_pos h.inBlock, if_pos h.inBlock']
    · exact .ok hsame.1
    · exact ⟨hsame.2, h.inBlock, h.inBlock', h.isBroken⟩

namespace Screening

/-! ## Steps at which an error may strike -/

/-- What is known of a step in the screening of a parcel at which an error may strike, and of the
same step where none does. -/
structure Strikes.IsStep (strikes : Strikes) (id : Int) (step plain : Proc α) : Prop where
  /-- The end of the block undoes it. -/
  undone : IsUndone step
  /-- It comes to what it comes to where no error strikes, or an error has struck. -/
  cases : ∀ s, step s = plain s ∨
    ∃ point fault, strikes point = some fault ∧ (step s).1 = .error fault
  /-- The record and the links of the parcel tell what it comes to. -/
  alike : RunsAlike (Session.SameParcel id) step

namespace Strikes.IsStep

variable {strikes : Strikes} {step plain : Proc α}

theorem of_alike (hundone : IsUndone step) (halike : RunsAlike (Session.SameParcel id) step) :
    strikes.IsStep id step step := ⟨hundone, fun _ => .inl rfl, halike⟩

theorem pure (a : α) : strikes.IsStep id (Pure.pure a : Proc α) (Pure.pure a) :=
  of_alike (fun _ => rfl) (accords_pure rfl)

theorem fail (fault : Fault) : strikes.IsStep id (Proc.fail fault : Proc α) (Proc.fail fault) :=
  of_alike (fun _ => rfl) (accords_fail fault)

theorem bind {next plainNext : α → Proc β} (hfirst : strikes.IsStep id step plain)
    (hnext : ∀ a, strikes.IsStep id (next a) (plainNext a)) :
    strikes.IsStep id (step >>= next) (plain >>= plainNext) where
  undone := hfirst.undone.bind fun a => (hnext a).undone
  cases := by
    intro s
    rcases hfirst.cases s with hsame | ⟨point, fault, hstrikes, hfails⟩
    · rw [bind_apply, bind_apply, hsame]
      cases plain s with
      | mk result t =>
        cases result with
        | error fault => exact .inl rfl
        | ok a => exact (hnext a).cases t
    · refine .inr ⟨point, fault, hstrikes, ?_⟩
      rw [bind_of_error (Prod.ext hfails rfl)]
  alike := hfirst.alike.bindEq fun a => (hnext a).alike

theorem meet (point : Point) : strikes.IsStep id (strikes.meet point) (Strikes.calm.meet point) := by
  cases hstrikes : strikes point with
  | none =>
    have hmeet : strikes.meet point = Pure.pure () := by
      unfold Strikes.meet
      rw [hstrikes]
    rw [hmeet]
    exact pure ()
  | some fault =>
    have hmeet : strikes.meet point = Proc.fail fault := by
      unfold Strikes.meet
      rw [hstrikes]
    rw [hmeet]
    exact ⟨fun _ => rfl, fun _ => .inr ⟨point, fault, hstrikes, rfl⟩, accords_fail fault⟩

end Strikes.IsStep

/-! ## Statements -/

variable {kind : LinkKind} {rules : List Int} {store after : Store}

theorem isStep_eraseLinks (strikes : Strikes) (kind : LinkKind) (id : Int) :
    strikes.IsStep id (eraseLinks kind id) (eraseLinks kind id) := by
  refine .of_alike (isUndone_execute fun _ _ h => by cases h; rfl) (runsAlike_execute ?_)
  refine fun a b h => .ok ⟨rfl, ?_, fun other => ?_⟩
  · cases kind <;> exact h.record
  · rw [linkedRules_eraseLinks, linkedRules_eraseLinks, h.linked]

theorem isStep_addLinks (strikes : Strikes) (kind : LinkKind) (id : Int) (rules : List Int) :
    strikes.IsStep id (addLinks kind id rules) (addLinks kind id rules) := by
  refine .of_alike (isUndone_execute fun store outcome h => ?_) (runsAlike_execute ?_)
  · split at h
    · cases h
      rfl
    · cases h
  · intro a b h
    rw [h.linked]
    split
    · refine .ok ⟨rfl, ?_, fun other => ?_⟩
      · cases kind <;> exact h.record
      · rw [linkedRules_insertAll, linkedRules_insertAll, h.linked]
    · exact .error _

theorem isStep_saveStatus (strikes : Strikes) (id status : Int) :
    strikes.IsStep id (saveStatus id status) (saveStatus id status) := by
  refine .of_alike (isUndone_execute fun store outcome h => ?_) (runsAlike_execute ?_)
  · split at h
    · cases h
      rfl
    · cases h
  · intro a b h
    have hthere : b.parcels.has id = a.parcels.has id := by
      rw [Table.has_eq_isSome, Table.has_eq_isSome, h.record]
    rw [hthere]
    split
    · refine .ok ⟨rfl, ?_, h.linked⟩
      dsimp only
      rw [Table.find?_modify_self, Table.find?_modify_self, h.record]
    · exact .error _

/-! ## Steps -/

section

variable (strikes : Strikes)

theorem isStep_relink (kind : LinkKind) (id : Int) (rules : List Int) :
    strikes.IsStep id (relink strikes kind id rules) (relink .calm kind id rules) := by
  unfold relink
  refine (Strikes.IsStep.meet _).bind fun _ => (isStep_eraseLinks strikes kind id).bind fun _ => ?_
  split
  · exact .pure ()
  · exact (Strikes.IsStep.meet _).bind fun _ => isStep_addLinks strikes kind id rules

theorem isStep_linked (kind : LinkKind) (id : Int) :
    strikes.IsStep id (linked strikes kind id) (linked .calm kind id) := by
  refine (Strikes.IsStep.meet _).bind fun _ =>
    .of_alike (isUndone_query _) (runsAlike_query fun a b h => ?_)
  rw [h.linked]

theorem isStep_renewWords (words : Option WordContext) (id : Int) (record : Parcel) :
    strikes.IsStep id (renewWords strikes words id record) (renewWords .calm words id record) := by
  cases words with
  | some context =>
    exact (isStep_relink strikes .stopWord id _).bind fun _ =>
      (isStep_relink strikes .keyWord id _).bind fun _ => .pure _
  | none =>
    exact (isStep_linked strikes .stopWord id).bind fun _ =>
      (isStep_linked strikes .keyWord id).bind fun _ => .pure _

theorem isStep_renewCodes (prefixes : Option Commodity.PrefixIndex) (id : Int) (record : Parcel) :
    strikes.IsStep id (renewCodes strikes prefixes id record)
      (renewCodes .calm prefixes id record) := by
  cases prefixes with
  | some index => exact (isStep_relink strikes .codePrefix id _).bind fun _ => .pure _
  | none => exact (isStep_linked strikes .codePrefix id).bind fun _ => .pure _

theorem isStep_renewStatus (id : Int) (record : Parcel) (status : Int) :
    strikes.IsStep id (renewStatus strikes id record status)
      (renewStatus .calm id record status) := by
  unfold renewStatus
  split
  · exact .pure ()
  · exact (Strikes.IsStep.meet _).bind fun _ => isStep_saveStatus strikes id status

theorem isStep_renew (context : Context) (scope : Scope) (id : Int) (record : Parcel) :
    strikes.IsStep id (renew strikes context scope id record)
      (renew .calm context scope id record) :=
  (isStep_renewWords strikes _ id record).bind fun _ =>
    (isStep_renewCodes strikes _ id record).bind fun _ =>
      (isStep_renewStatus strikes id record _).bind fun _ => (Strikes.IsStep.meet _).bind fun _ =>
        .pure _

/-- A whole screening is a step. -/
theorem isStep_screenSteps (context : Context) (scope : Scope) (id : Int) :
    strikes.IsStep id (screenSteps strikes context scope id)
      (screenSteps .calm context scope id) := by
  refine (Strikes.IsStep.meet _).bind fun _ => Strikes.IsStep.bind
    (.of_alike (isUndone_query _) (runsAlike_query fun a b h => ?_)) fun found => ?_
  · rw [h.record]
  · cases found with
    | none => exact .fail _
    | some record =>
      dsimp only
      split
      · exact (Strikes.IsStep.meet _).bind fun _ => .pure _
      · exact isStep_renew strikes context scope id record

end

/-! ## Where no error strikes -/

theorem meet_calm_bind (point : Point) (next : Unit → Proc α) :
    (Strikes.calm.meet point >>= next) = next () := rfl

/-- No row is added for no link. -/
theorem setLinks_insertAll_nil (store : Store) (kind : LinkKind) :
    store.setLinks kind ((store.links kind).insertAll []) = store := by
  rw [Table.insertAll_nil]
  cases kind <;> rfl

theorem parcels_screenWords {words : Option WordContext} {record : Parcel}
    {stopWords keyWords : List Int}
    (h : screenWords words id record store = .ok (stopWords, keyWords, after)) :
    after.parcels = store.parcels := by
  cases words with
  | none =>
    cases h
    rfl
  | some context =>
    obtain ⟨middle, hstop, hrest⟩ := Store.exists_of_bind h
    obtain ⟨last, hkey, hresult⟩ := Store.exists_of_bind hrest
    cases hresult
    exact (parcels_replaceLinks hkey).trans (parcels_replaceLinks hstop)

theorem parcels_screenCodes {prefixes : Option Commodity.PrefixIndex} {record : Parcel}
    {invalid : Bool} {codePrefixes : List Int}
    (h : screenCodes prefixes id record store = .ok (invalid, codePrefixes, after)) :
    after.parcels = store.parcels := by
  cases prefixes with
  | none =>
    cases h
    rfl
  | some index =>
    obtain ⟨last, hmatches, hresult⟩ := Store.exists_of_bind h
    cases hresult
    exact parcels_replaceLinks hmatches

section

variable {s : Session} (hblock : s.inBlock = true) (hwhole : s.isBroken = false)

include hblock hwhole

/-- A statement in a block that is not broken makes its change. -/
theorem execute_inside {change : Store → Except Fault (Change α)} {a : α}
    (h : change s.store = .ok ⟨after, a, []⟩) :
    execute change s = (.ok a, { s with store := after }) :=
  execute_of_ok hwhole h fun houtside => by
    rw [hblock] at houtside
    cases houtside

theorem eraseLinks_apply (kind : LinkKind) (id : Int) : eraseLinks kind id s =
    (.ok (), { s with store := s.store.eraseLinks kind fun link => link.parcel == id }) :=
  execute_inside hblock hwhole rfl

/-- A parcel without links of a kind is linked to rules that differ. -/
theorem addLinks_of_nodup (hnodup : rules.Nodup) (hnone : s.store.linkedRules kind id = []) :
    addLinks kind id rules s = (.ok (), { s with
      store := s.store.setLinks kind ((s.store.links kind).insertAll
        (rules.map fun rule => ⟨id, rule⟩)) }) := by
  refine execute_inside hblock hwhole ?_
  rw [if_pos ⟨hnodup, fun rule _ => by rw [hnone]; exact List.not_mem_nil⟩]

omit hblock in
theorem addLinks_of_repeated (kind : LinkKind) (id : Int) (hrepeated : ¬ rules.Nodup) :
    (addLinks kind id rules s).1 = .error .duplicate := by
  unfold addLinks
  rw [execute_of_error hwhole (if_neg fun hboth => hrepeated hboth.1)]

/-- Links are replaced by the two statements as by one change. -/
theorem relink_of_ok (h : replaceLinks kind id rules s.store = .ok after) :
    relink .calm kind id rules s = (.ok (), { s with store := after }) := by
  unfold replaceLinks at h
  split at h
  · next hnodup =>
    cases h
    unfold relink
    rw [meet_calm_bind, bind_of_ok (eraseLinks_apply hblock hwhole kind id)]
    cases rules with
    | nil =>
      rw [List.map_nil, setLinks_insertAll_nil]
      rfl
    | cons rule rest =>
      have hnone := linkedRules_eraseLinks s.store kind id kind
      rw [if_pos rfl] at hnone
      exact @addLinks_of_nodup _ _ _ { s with store := _ } hblock hwhole hnodup hnone
  · cases h

theorem relink_of_error {fault : Fault} (h : replaceLinks kind id rules s.store = .error fault) :
    (relink .calm kind id rules s).1 = .error fault := by
  unfold replaceLinks at h
  split at h
  · cases h
  · next hrepeated =>
    cases h
    unfold relink
    rw [meet_calm_bind, bind_of_ok (eraseLinks_apply hblock hwhole kind id)]
    cases rules with
    | nil => exact absurd List.nodup_nil hrepeated
    | cons rule rest =>
      let erased := s.store.eraseLinks kind fun link => link.parcel == id
      exact @addLinks_of_repeated _ { s with store := erased } hwhole kind id hrepeated

omit hblock in
theorem linked_apply (kind : LinkKind) (id : Int) :
    linked .calm kind id s = (.ok (s.store.linkedRules kind id), s) := by
  unfold linked
  rw [meet_calm_bind, query_of_whole _ hwhole]

theorem renewWords_of_ok {words : Option WordContext} {record : Parcel}
    {stopWords keyWords : List Int}
    (h : screenWords words id record s.store = .ok (stopWords, keyWords, after)) :
    renewWords .calm words id record s = (.ok (stopWords, keyWords), { s with store := after }) := by
  cases words with
  | none =>
    cases h
    unfold renewWords
    dsimp only
    rw [bind_of_ok (linked_apply hwhole .stopWord id),
      bind_of_ok (linked_apply hwhole .keyWord id)]
    rfl
  | some context =>
    obtain ⟨middle, hstop, hrest⟩ := Store.exists_of_bind h
    obtain ⟨last, hkey, hresult⟩ := Store.exists_of_bind hrest
    cases hresult
    unfold renewWords
    dsimp only
    rw [bind_of_ok (relink_of_ok hblock hwhole hstop),
      bind_of_ok (@relink_of_ok _ _ _ _ { s with store := middle } hblock hwhole hkey)]
    rfl

theorem renewCodes_of_ok {prefixes : Option Commodity.PrefixIndex} {record : Parcel}
    {invalid : Bool} {codePrefixes : List Int}
    (h : screenCodes prefixes id record s.store = .ok (invalid, codePrefixes, after)) :
    renewCodes .calm prefixes id record s =
      (.ok (invalid, codePrefixes), { s with store := after }) := by
  cases prefixes with
  | none =>
    cases h
    unfold renewCodes
    dsimp only
    rw [bind_of_ok (linked_apply hwhole .codePrefix id)]
    rfl
  | some index =>
    obtain ⟨last, hmatches, hresult⟩ := Store.exists_of_bind h
    cases hresult
    unfold renewCodes
    dsimp only
    rw [bind_of_ok (relink_of_ok hblock hwhole hmatches)]
    rfl

theorem renewCodes_of_error {prefixes : Option Commodity.PrefixIndex} {record : Parcel}
    {fault : Fault} (h : screenCodes prefixes id record s.store = .error fault) :
    (renewCodes .calm prefixes id record s).1 = .error fault := by
  cases prefixes with
  | none => cases h
  | some index =>
    cases hmatches : replaceLinks .codePrefix id (Commodity.classify record.code index).ids
        s.store with
    | ok last =>
      unfold screenCodes at h
      dsimp only at h
      rw [hmatches] at h
      cases h
    | error own =>
      unfold screenCodes at h
      dsimp only at h
      rw [hmatches] at h
      cases h
      unfold renewCodes
      dsimp only
      rw [bind_of_error (Prod.ext (relink_of_error hblock hwhole hmatches) rfl)]

theorem renewStatus_apply {record : Parcel} (hparcel : s.store.parcels.find? id = some record)
    (status : Int) : renewStatus .calm id record status s =
      (.ok (), { s with store := setCheckStatus id record status s.store }) := by
  unfold renewStatus setCheckStatus
  split
  · rfl
  · rw [meet_calm_bind]
    exact execute_inside hblock hwhole (if_pos (Table.has_of_find? hparcel))

/-- The statements for a parcel that is not marked come to what the change comes to. -/
theorem renew_of_ok {context : Context} {scope : Scope} {record : Parcel} {change : Change Outcome}
    (hparcel : s.store.parcels.find? id = some record) (hmarked : record.isMarked = false)
    (h : screenParcel context scope id s.store = .ok change) :
    renew .calm context scope id record s =
      (.ok change.result, { s with store := change.store }) := by
  unfold screenParcel at h
  rw [hparcel] at h
  dsimp only at h
  rw [if_neg (by rw [hmarked]; exact Bool.false_ne_true)] at h
  obtain ⟨⟨stopWords, keyWords, middle⟩, hwords, hrest⟩ := Store.exists_of_bind h
  obtain ⟨⟨invalid, codePrefixes, last⟩, hcodes, hresult⟩ := Store.exists_of_bind hrest
  cases hresult
  have hlast : last.parcels.find? id = some record := by
    rw [parcels_screenCodes hcodes, parcels_screenWords hwords, hparcel]
  unfold renew
  rw [bind_of_ok (renewWords_of_ok hblock hwhole hwords)]
  dsimp only
  rw [bind_of_ok (@renewCodes_of_ok _ _ { s with store := middle } hblock hwhole _ _ _ _ hcodes)]
  dsimp only
  rw [bind_of_ok (@renewStatus_apply _ { s with store := last } hblock hwhole _ hlast _)]
  rfl

theorem renew_of_error {context : Context} {scope : Scope} {record : Parcel} {fault : Fault}
    (hparcel : s.store.parcels.find? id = some record) (hmarked : record.isMarked = false)
    (h : screenParcel context scope id s.store = .error fault) :
    (renew .calm context scope id record s).1 = .error fault := by
  obtain ⟨middle, hwords, _⟩ :=
    exists_screenWords (if scope.hasWords then context.words else none) none id record s.store
  unfold screenParcel at h
  rw [hparcel] at h
  dsimp only at h
  rw [if_neg (by rw [hmarked]; exact Bool.false_ne_true), hwords] at h
  cases hcodes : screenCodes (if scope.hasCodes then context.prefixes else none) id record
      middle with
  | ok found =>
    change (screenCodes _ id record middle >>= _) = _ at h
    rw [hcodes] at h
    cases h
  | error own =>
    change (screenCodes _ id record middle >>= _) = _ at h
    rw [hcodes] at h
    cases h
    have hfails := @renewCodes_of_error _ { s with store := middle } hblock hwhole _ _ _ hcodes
    unfold renew
    rw [bind_of_ok (renewWords_of_ok hblock hwhole hwords)]
    dsimp only
    rw [bind_of_error (Prod.ext hfails rfl)]

omit hblock in
theorem screenSteps_apply (context : Context) (scope : Scope) (id : Int) :
    screenSteps .calm context scope id s = match s.store.parcels.find? id with
      | none => (.error (.missing .parcel), s)
      | some record =>
        if record.isMarked then (.ok ⟨id, record.checkStatus, [], [], [], false, true⟩, s)
        else renew .calm context scope id record s := by
  have hlook : (query fun store => .ok (store.parcels.find? id)) s =
      (.ok (s.store.parcels.find? id), s) := query_of_whole _ hwhole
  unfold screenSteps
  rw [meet_calm_bind, bind_of_ok hlook]
  cases s.store.parcels.find? id with
  | none => rfl
  | some record =>
    dsimp only
    split <;> rfl

omit hblock hwhole in
theorem screenSteps_of_isBroken (context : Context) (scope : Scope) (id : Int)
    (hbroken : s.isBroken = true) :
    screenSteps .calm context scope id s = (.error .blockBroken, s) := by
  have hlook : (query fun store => .ok (store.parcels.find? id)) s = (.error .blockBroken, s) :=
    query_of_isBroken _ hbroken
  unfold screenSteps
  rw [meet_calm_bind, bind_of_error hlook]

/-- The statements of a screening come to what the change comes to. -/
theorem screenSteps_of_ok {context : Context} {scope : Scope} {change : Change Outcome}
    (h : screenParcel context scope id s.store = .ok change) :
    screenSteps .calm context scope id s =
      (.ok change.result, { s with store := change.store }) := by
  rw [screenSteps_apply hwhole]
  cases hparcel : s.store.parcels.find? id with
  | none =>
    unfold screenParcel at h
    rw [hparcel] at h
    cases h
  | some record =>
    dsimp only
    by_cases hmarked : record.isMarked = true
    · rw [screenParcel_of_isMarked context scope hparcel hmarked] at h
      cases h
      rw [if_pos hmarked]
    · rw [if_neg hmarked]
      exact renew_of_ok hblock hwhole hparcel (Bool.eq_false_iff.2 hmarked) h

theorem screenSteps_of_error {context : Context} {scope : Scope} {fault : Fault}
    (h : screenParcel context scope id s.store = .error fault) :
    (screenSteps .calm context scope id s).1 = .error fault := by
  rw [screenSteps_apply hwhole]
  cases hparcel : s.store.parcels.find? id with
  | none =>
    unfold screenParcel at h
    rw [hparcel] at h
    cases h
    rfl
  | some record =>
    dsimp only
    by_cases hmarked : record.isMarked = true
    · rw [screenParcel_of_isMarked context scope hparcel hmarked] at h
      cases h
    · rw [if_neg hmarked]
      exact renew_of_error hblock hwhole hparcel (Bool.eq_false_iff.2 hmarked) h

end

/-! ## Blocks -/

theorem touched_screenParcel {context : Context} {scope : Scope} {change : Change Outcome}
    (h : screenParcel context scope id store = .ok change) : change.touched = [] := by
  obtain ⟨record, hparcel, ⟨hmarked, _⟩ | ⟨_, hof, _⟩⟩ := screenParcel_ok h
  · rw [screenParcel_of_isMarked context scope hparcel hmarked] at h
    cases h
    rfl
  · rw [hof]

/-- Where no error strikes, a screening in its block is one change of the store. -/
theorem screenWith_eq (context : Context) (scope : Scope) (id : Int) :
    screenWith context scope id = atomic (execute (screenParcel context scope id)) := by
  have hsteps : IsUndone (screenSteps .calm context scope id) :=
    (isStep_screenSteps .calm context scope id).undone
  have hchange : IsUndone (execute (screenParcel context scope id)) :=
    isUndone_execute fun _ _ h => touched_screenParcel h
  funext s
  change atomic (screenSteps .calm context scope id) s = _
  let inside : Session := { s with inBlock := true }
  by_cases hbroken : s.isBroken = true
  · have hfails := screenSteps_of_isBroken context scope id
      (show inside.isBroken = true from hbroken)
    have hrefused := execute_of_isBroken (screenParcel context scope id)
      (show inside.isBroken = true from hbroken)
    rw [hsteps.atomic_of_body (congrArg Prod.fst hfails),
      hchange.atomic_of_body (congrArg Prod.fst hrefused)]
  have hwhole : inside.isBroken = false := Bool.eq_false_iff.2 hbroken
  cases h : screenParcel context scope id s.store with
  | error fault =>
    have hrefused := @execute_of_error _ (screenParcel context scope id) inside fault hwhole h
    rw [hsteps.atomic_of_body (@screenSteps_of_error _ inside rfl hwhole _ _ _ h),
      hchange.atomic_of_body (congrArg Prod.fst hrefused)]
  | ok change =>
    obtain ⟨after, result, touched⟩ := change
    obtain rfl := touched_screenParcel h
    have hmade : execute (screenParcel context scope id) inside =
        (.ok result, { inside with store := after }) := execute_inside rfl hwhole h
    have hbody : screenSteps .calm context scope id inside =
        execute (screenParcel context scope id) inside :=
      (@screenSteps_of_ok _ inside rfl hwhole _ _ _ h).trans hmade.symm
    unfold atomic atomicIf
    rw [hbody]

variable {strikes : Strikes} {context : Context} {scope : Scope} {s t : Session}

theorem Strikes.screenWith_of_steps
    (h : screenSteps strikes context scope id { s with inBlock := true } =
      screenSteps .calm context scope id { s with inBlock := true }) :
    strikes.screenWith context scope id s = Screening.screenWith context scope id s := by
  unfold Strikes.screenWith Screening.screenWith Strikes.screenWith atomic atomicIf
  rw [h]

/-- Where the statements go through no error has struck. -/
theorem Strikes.screenWith_of_ok {outcome : Outcome}
    (h : (screenSteps strikes context scope id { s with inBlock := true }).1 = .ok outcome) :
    strikes.screenWith context scope id s = Screening.screenWith context scope id s := by
  rcases (isStep_screenSteps strikes context scope id).cases { s with inBlock := true } with
    hsame | ⟨_, fault, _, hfails⟩
  · exact Strikes.screenWith_of_steps hsame
  · rw [h] at hfails
    cases hfails

/-- A screening comes to what it comes to where no error strikes, or an error that strikes ends it
and the session is as it was. -/
theorem Strikes.screenWith_cases (strikes : Strikes) (context : Context) (scope : Scope) (id : Int)
    (s : Session) : strikes.screenWith context scope id s = Screening.screenWith context scope id s ∨
      ∃ point fault, strikes point = some fault ∧
        strikes.screenWith context scope id s = (.error fault, s) := by
  have hstep := isStep_screenSteps strikes context scope id
  rcases hstep.cases { s with inBlock := true } with hsame | ⟨point, fault, hstrikes, hfails⟩
  · exact .inl (Strikes.screenWith_of_steps hsame)
  · exact .inr ⟨point, fault, hstrikes, hstep.undone.atomic_of_body hfails⟩

/-- A screening that fails, wherever it does, leaves the session as it was. -/
theorem Strikes.screenWith_of_error {fault : Fault}
    (h : (strikes.screenWith context scope id s).1 = .error fault) :
    strikes.screenWith context scope id s = (.error fault, s) :=
  (isStep_screenSteps strikes context scope id).undone.atomic_of_error h

theorem screenWith_of_error {fault : Fault}
    (h : (screenWith context scope id s).1 = .error fault) :
    screenWith context scope id s = (.error fault, s) := Strikes.screenWith_of_error h

/-- The time is up at one place. -/
def timeUpAt (place : Point) : Strikes := fun point =>
  if point = place then some (.raised .softTimeLimit none) else none

end Screening

end Clearance

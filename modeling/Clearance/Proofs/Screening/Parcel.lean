import Clearance.Proofs.Commodity.Classification
import Clearance.Proofs.Store.Soundness
import Clearance.Proofs.Word.Finding
import Clearance.Screening.Screen

/-!
# What screening does to the store

Where no error strikes, the statements of a screening come to one change of the store. Whatever the
scope, once it is made the links of the parcel are those of the outcome and its check status is that
of the outcome, and of the rest of the store nothing has changed. What the scope decides is where
the links of the outcome come from: from the rules or from the links there were.
-/

set_option autoImplicit false

namespace Clearance

namespace Screening

/-! ## Screening in one change -/

/-- The links of a kind that a parcel has, replaced by links to some rules. A rule cannot be linked
twice. -/
def replaceLinks (kind : LinkKind) (parcel : Int) (rules : List Int) (store : Store) :
    Except Fault Store :=
  if rules.Nodup then
    let store := store.eraseLinks kind fun link => link.parcel == parcel
    let links := (store.links kind).insertAll (rules.map fun rule => ⟨parcel, rule⟩)
    .ok (store.setLinks kind links)
  else .error .duplicate

/-- The stop words and keywords of a parcel, and the store with the parcel linked to them: those
that match its texts, or those linked already if the context has no words to compare. -/
def screenWords (words : Option WordContext) (id : Int) (parcel : Parcel) (store : Store) :
    Except Fault (List Int × List Int × Store) :=
  match words with
  | some context => do
    let stopWords := foundIds context.engine context.stopWords parcel.texts
    let keyWords := foundIds context.engine context.keyWords parcel.texts
    let store ← replaceLinks .stopWord id stopWords store
    let store ← replaceLinks .keyWord id keyWords store
    pure (stopWords, keyWords, store)
  | none => .ok (store.linkedRules .stopWord id, store.linkedRules .keyWord id, store)

/-- Whether a parcel's code is invalid, its code prefixes, and the store with the parcel linked to
them: those that match its code, or those linked already if there are none to compare. -/
def screenCodes (prefixes : Option Commodity.PrefixIndex) (id : Int) (parcel : Parcel)
    (store : Store) : Except Fault (Bool × List Int × Store) :=
  match prefixes with
  | some index => do
    let result := Commodity.classify parcel.code index
    let store ← replaceLinks .codePrefix id result.ids store
    pure (result.verdict == .invalidFormat, result.ids, store)
  | none =>
    .ok (!Commodity.hasCodeFormat parcel.code, store.linkedRules .codePrefix id, store)

/-- A parcel's check status set, unless it is that already. -/
def setCheckStatus (id : Int) (parcel : Parcel) (status : Int) (store : Store) : Store :=
  if parcel.checkStatus == status then store
  else { store with
    parcels := store.parcels.modify id fun parcel => { parcel with checkStatus := status } }

/-- A parcel screened in one change. -/
def screenParcel (context : Context) (scope : Scope) (id : Int) (store : Store) :
    Except Fault (Change Outcome) :=
  match store.parcels.find? id with
  | none => .error (.missing .parcel)
  | some parcel =>
    if parcel.isMarked then
      .ok ⟨store, ⟨id, parcel.checkStatus, [], [], [], false, true⟩, []⟩
    else do
      let words := if scope.hasWords then context.words else none
      let prefixes := if scope.hasCodes then context.prefixes else none
      let (stopWords, keyWords, store) ← screenWords words id parcel store
      let (invalid, codePrefixes, store) ← screenCodes prefixes id parcel store
      let status :=
        Parcel.CheckStatus.ofFindings invalid (!stopWords.isEmpty) (!codePrefixes.isEmpty)
      pure ⟨setCheckStatus id parcel status.number store,
        ⟨id, status.number, stopWords, keyWords, codePrefixes, invalid, false⟩, []⟩

/-! ## The rest of the store -/

/-- Two stores that differ at most in the record and the links of one parcel. -/
structure SameBut (parcel : Int) (before after : Store) : Prop where
  registers : after.registers = before.registers
  stopWords : after.stopWords = before.stopWords
  keyWords : after.keyWords = before.keyWords
  keyWordCodes : after.keyWordCodes = before.keyWordCodes
  orders : after.orders = before.orders
  prefixes : after.prefixes = before.prefixes
  exceptions : after.exceptions = before.exceptions
  catalogue : after.catalogue = before.catalogue
  jobs : after.jobs = before.jobs
  parcelIds : after.parcels.ids = before.parcels.ids
  parcels : (after.parcels.rows.filter fun row => row.id != parcel) =
    before.parcels.rows.filter fun row => row.id != parcel
  links : ∀ kind, ((after.links kind).rows.filter fun row => row.val.parcel != parcel) =
    (before.links kind).rows.filter fun row => row.val.parcel != parcel

theorem SameBut.refl (parcel : Int) (store : Store) : SameBut parcel store store :=
  ⟨rfl, rfl, rfl, rfl, rfl, rfl, rfl, rfl, rfl, rfl, rfl, fun _ => rfl⟩

theorem SameBut.trans {parcel : Int} {a b c : Store} (hab : SameBut parcel a b)
    (hbc : SameBut parcel b c) : SameBut parcel a c where
  registers := hbc.registers.trans hab.registers
  stopWords := hbc.stopWords.trans hab.stopWords
  keyWords := hbc.keyWords.trans hab.keyWords
  keyWordCodes := hbc.keyWordCodes.trans hab.keyWordCodes
  orders := hbc.orders.trans hab.orders
  prefixes := hbc.prefixes.trans hab.prefixes
  exceptions := hbc.exceptions.trans hab.exceptions
  catalogue := hbc.catalogue.trans hab.catalogue
  jobs := hbc.jobs.trans hab.jobs
  parcelIds := hbc.parcelIds.trans hab.parcelIds
  parcels := hbc.parcels.trans hab.parcels
  links := fun kind => (hbc.links kind).trans (hab.links kind)

theorem SameBut.hasRule {parcel : Int} {before after : Store} (h : SameBut parcel before after)
    (kind : LinkKind) (id : Int) : after.hasRule kind id = before.hasRule kind id := by
  cases kind with
  | stopWord => exact congrArg (Table.has · id) h.stopWords
  | keyWord => exact congrArg (Table.has · id) h.keyWords
  | codePrefix => exact congrArg (Table.has · id) h.prefixes

/-! ## Links replaced -/

/-- The rules of a kind in an outcome. -/
def Outcome.rules (outcome : Outcome) : LinkKind → List Int
  | .stopWord => outcome.stopWords
  | .keyWord => outcome.keyWords
  | .codePrefix => outcome.prefixes

variable {kind : LinkKind} {parcel : Int} {rules : List Int} {store after : Store}

theorem parcel_of_mem_numbered {lastId : Int} {row : Row Link}
    (h : row ∈ Table.numbered lastId (rules.map fun rule => (⟨parcel, rule⟩ : Link))) :
    row.val.parcel = parcel := by
  obtain ⟨rule, _, hval⟩ := List.mem_map.1 (Table.mem_val_numbered h)
  rw [← hval]

/-- A parcel whose links of a kind are erased is linked to no rule of that kind. -/
theorem linkedRules_eraseLinks (store : Store) (kind : LinkKind) (parcel : Int)
    (other : LinkKind) :
    (store.eraseLinks kind fun link => link.parcel == parcel).linkedRules other parcel =
      if other = kind then [] else store.linkedRules other parcel := by
  unfold Store.eraseLinks Store.linkedRules
  by_cases hother : other = kind
  · subst hother
    have hnone : ((store.links other).rows.filter fun row =>
        row.val.parcel == parcel && !(row.val.parcel == parcel)) = [] :=
      List.filter_eq_nil_iff.2 fun row _ => by simp
    rw [if_pos rfl, Store.links_setLinks, Table.eraseIf, List.filter_filter, hnone, List.map_nil]
  · rw [if_neg hother, Store.links_setLinks_of_ne store _ hother]

/-- A parcel that is linked to more rules of a kind is linked to them in their order, behind those
that it was linked to before. -/
theorem linkedRules_insertAll (store : Store) (kind : LinkKind) (parcel : Int) (rules : List Int)
    (other : LinkKind) :
    (store.setLinks kind ((store.links kind).insertAll
        (rules.map fun rule => ⟨parcel, rule⟩))).linkedRules other parcel =
      store.linkedRules other parcel ++ if other = kind then rules else [] := by
  unfold Store.linkedRules
  by_cases hother : other = kind
  · subst hother
    have hnew : ((Table.numbered (store.links other).lastId
        (rules.map fun rule => (⟨parcel, rule⟩ : Link))).filter fun row =>
          row.val.parcel == parcel) =
        Table.numbered (store.links other).lastId (rules.map fun rule => ⟨parcel, rule⟩) :=
      List.filter_eq_self.2 fun row hrow => beq_iff_eq.2 (parcel_of_mem_numbered hrow)
    have hrules : ∀ rows : List (Row Link), rows.map (·.val.rule) =
        (rows.map (·.val)).map (·.rule) := fun rows => by rw [List.map_map]; rfl
    rw [if_pos rfl, Store.links_setLinks, Table.insertAll, List.filter_append, List.map_append,
      hnew, hrules (Table.numbered _ _), Table.map_val_numbered, List.map_map]
    congr 1
    exact List.map_id rules
  · rw [if_neg hother, Store.links_setLinks_of_ne store _ hother, List.append_nil]

/-- Links can be replaced by those to rules that differ. -/
theorem exists_replaceLinks (kind : LinkKind) (parcel : Int) (store : Store) (h : rules.Nodup) :
    ∃ after, replaceLinks kind parcel rules store = .ok after := by
  unfold replaceLinks
  rw [if_pos h]
  exact ⟨_, rfl⟩

/-- Replacing the links of a kind sets their table and no other: the links of other parcels stay,
and behind them come those of the parcel, one for each rule. -/
theorem eq_of_replaceLinks (h : replaceLinks kind parcel rules store = .ok after) :
    ∃ links : Table Link, after = store.setLinks kind links ∧
      links.rows = ((store.links kind).rows.filter fun row => row.val.parcel != parcel) ++
        Table.numbered (store.links kind).lastId (rules.map fun rule => ⟨parcel, rule⟩) := by
  unfold replaceLinks at h
  split at h
  · cases h
    refine ⟨(((store.links kind).eraseIf fun row => row.val.parcel == parcel).insertAll
      (rules.map fun rule => ⟨parcel, rule⟩)), ?_, rfl⟩
    cases kind <;> rfl
  · cases h

theorem links_replaceLinks_of_ne (h : replaceLinks kind parcel rules store = .ok after)
    {other : LinkKind} (hother : other ≠ kind) : after.links other = store.links other := by
  obtain ⟨links, rfl, _⟩ := eq_of_replaceLinks h
  exact Store.links_setLinks_of_ne store links hother

theorem linkedRules_replaceLinks_of_ne (h : replaceLinks kind parcel rules store = .ok after)
    {other : LinkKind} (hother : other ≠ kind) (id : Int) :
    after.linkedRules other id = store.linkedRules other id := by
  unfold Store.linkedRules
  rw [links_replaceLinks_of_ne h hother]

/-- The parcel is linked to the rules in their order. -/
theorem linkedRules_replaceLinks (h : replaceLinks kind parcel rules store = .ok after) :
    after.linkedRules kind parcel = rules := by
  unfold replaceLinks at h
  split at h
  · cases h
    rw [linkedRules_insertAll, linkedRules_eraseLinks, if_pos rfl, if_pos rfl, List.nil_append]
  · cases h

theorem sameBut_replaceLinks (h : replaceLinks kind parcel rules store = .ok after) :
    SameBut parcel store after := by
  obtain ⟨links, rfl, hrows⟩ := eq_of_replaceLinks h
  have hlinks : ∀ other, (((store.setLinks kind links).links other).rows.filter fun row =>
      row.val.parcel != parcel) =
        (store.links other).rows.filter fun row => row.val.parcel != parcel := by
    intro other
    by_cases hother : other = kind
    · subst hother
      have hnew : ((Table.numbered (store.links other).lastId
          (rules.map fun rule => (⟨parcel, rule⟩ : Link))).filter fun row =>
            row.val.parcel != parcel) = [] :=
        List.filter_eq_nil_iff.2 fun row hrow => by simp [parcel_of_mem_numbered hrow]
      rw [Store.links_setLinks, hrows, List.filter_append, hnew, List.append_nil,
        List.filter_filter]
      simp only [Bool.and_self]
    · rw [Store.links_setLinks_of_ne store links hother]
  cases kind <;> exact ⟨rfl, rfl, rfl, rfl, rfl, rfl, rfl, rfl, rfl, rfl, rfl, hlinks⟩

theorem parcels_replaceLinks (h : replaceLinks kind parcel rules store = .ok after) :
    after.parcels = store.parcels := by
  obtain ⟨links, rfl, _⟩ := eq_of_replaceLinks h
  cases kind <;> rfl

/-! ## The outcome -/

/-- The rules of a kind that a parcel is linked to once it has been screened: those found with what
there is to compare it with, or those linked before. -/
def rulesAfter (words : Option WordContext) (prefixes : Option Commodity.PrefixIndex) (id : Int)
    (parcel : Parcel) (store : Store) : LinkKind → List Int
  | .stopWord => match words with
    | some context => foundIds context.engine context.stopWords parcel.texts
    | none => store.linkedRules .stopWord id
  | .keyWord => match words with
    | some context => foundIds context.engine context.keyWords parcel.texts
    | none => store.linkedRules .keyWord id
  | .codePrefix => match prefixes with
    | some index => (Commodity.classify parcel.code index).ids
    | none => store.linkedRules .codePrefix id

/-- The outcome of screening a parcel, as it follows from the rules of each kind. -/
def outcomeWith (id : Int) (parcel : Parcel) (rules : LinkKind → List Int) : Outcome :=
  let invalid := !Commodity.hasCodeFormat parcel.code
  { parcel := id
    checkStatus := (Parcel.CheckStatus.ofFindings invalid (!(rules .stopWord).isEmpty)
      (!(rules .codePrefix).isEmpty)).number
    stopWords := rules .stopWord
    keyWords := rules .keyWord
    prefixes := rules .codePrefix
    invalidCode := invalid
    skipped := false }

/-- The outcome of screening a parcel that is not marked. -/
def outcomeOf (context : Context) (scope : Scope) (id : Int) (parcel : Parcel) (store : Store) :
    Outcome :=
  outcomeWith id parcel
    (rulesAfter (if scope.hasWords then context.words else none)
      (if scope.hasCodes then context.prefixes else none) id parcel store)

theorem rules_eq_rulesAfter (context : Context) (scope : Scope) (id : Int) (parcel : Parcel)
    (store : Store) (kind : LinkKind) :
    (outcomeOf context scope id parcel store).rules kind =
      rulesAfter (if scope.hasWords then context.words else none)
        (if scope.hasCodes then context.prefixes else none) id parcel store kind := by
  cases kind <;> rfl

/-- A store in which a parcel has been screened: it has the check status and the links of the
outcome, and the rest is as it was. -/
structure Screened (id : Int) (parcel : Parcel) (outcome : Outcome) (before after : Store) :
    Prop where
  same : SameBut id before after
  parcel : after.parcels.find? id = some { parcel with checkStatus := outcome.checkStatus }
  links : ∀ kind, after.linkedRules kind id = outcome.rules kind

variable {id : Int} {record : Parcel}

theorem exists_screenWords (words : Option WordContext)
    (prefixes : Option Commodity.PrefixIndex) (id : Int) (record : Parcel) (store : Store) :
    ∃ after, screenWords words id record store =
        .ok (rulesAfter words prefixes id record store .stopWord,
          rulesAfter words prefixes id record store .keyWord, after) ∧
      SameBut id store after ∧ after.parcels = store.parcels ∧
      after.linkedRules .stopWord id = rulesAfter words prefixes id record store .stopWord ∧
      after.linkedRules .keyWord id = rulesAfter words prefixes id record store .keyWord ∧
      after.linkedRules .codePrefix id = store.linkedRules .codePrefix id := by
  cases words with
  | none => exact ⟨store, rfl, .refl id store, rfl, rfl, rfl, rfl⟩
  | some context =>
    obtain ⟨middle, hstop⟩ := exists_replaceLinks .stopWord id store
      (nodup_foundIds context.engine context.stopWords record.texts)
    obtain ⟨after, hkey⟩ := exists_replaceLinks .keyWord id middle
      (nodup_foundIds context.engine context.keyWords record.texts)
    refine ⟨after, ?_, (sameBut_replaceLinks hstop).trans (sameBut_replaceLinks hkey),
      (parcels_replaceLinks hkey).trans (parcels_replaceLinks hstop), ?_,
      linkedRules_replaceLinks hkey, ?_⟩
    · unfold screenWords
      dsimp only
      rw [hstop]
      change (replaceLinks .keyWord id _ middle >>= _) = _
      rw [hkey]
      rfl
    · rw [linkedRules_replaceLinks_of_ne hkey (by decide)]
      exact linkedRules_replaceLinks hstop
    · rw [linkedRules_replaceLinks_of_ne hkey (by decide),
        linkedRules_replaceLinks_of_ne hstop (by decide)]

theorem exists_screenCodes (prefixes : Option Commodity.PrefixIndex)
    (h : ∀ index, prefixes = some index → (Commodity.classify record.code index).ids.Nodup)
    (words : Option WordContext) (id : Int) {before store : Store}
    (hlinked : store.linkedRules .codePrefix id = before.linkedRules .codePrefix id) :
    ∃ after, screenCodes prefixes id record store =
        .ok (!Commodity.hasCodeFormat record.code,
          rulesAfter words prefixes id record before .codePrefix, after) ∧
      SameBut id store after ∧ after.parcels = store.parcels ∧
      after.linkedRules .codePrefix id = rulesAfter words prefixes id record before .codePrefix ∧
      ∀ kind, kind ≠ .codePrefix → after.linkedRules kind id = store.linkedRules kind id := by
  cases prefixes with
  | none =>
    refine ⟨store, ?_, .refl id store, rfl, hlinked, fun _ _ => rfl⟩
    unfold screenCodes rulesAfter
    rw [hlinked]
  | some index =>
    obtain ⟨after, hmatches⟩ := exists_replaceLinks .codePrefix id store (h index rfl)
    refine ⟨after, ?_, sameBut_replaceLinks hmatches, parcels_replaceLinks hmatches,
      linkedRules_replaceLinks hmatches, fun kind hkind =>
        linkedRules_replaceLinks_of_ne hmatches hkind id⟩
    unfold screenCodes
    dsimp only
    rw [hmatches, ← Commodity.verdict_classify record.code index]
    rfl

/-- A check status that is set is the parcel's, and nothing else changes. -/
theorem screened_setCheckStatus {status : Int} {before : Store}
    (hparcel : store.parcels.find? id = some record) (hsame : SameBut id before store)
    (outcome : Outcome) (hstatus : outcome.checkStatus = status)
    (hlinks : ∀ kind, store.linkedRules kind id = outcome.rules kind) :
    Screened id record outcome before (setCheckStatus id record status store) := by
  subst hstatus
  unfold setCheckStatus
  split
  · next hstatus =>
    refine ⟨hsame, ?_, hlinks⟩
    rw [← beq_iff_eq.1 hstatus]
    exact hparcel
  · refine ⟨hsame.trans ⟨rfl, rfl, rfl, rfl, rfl, rfl, rfl, rfl, rfl, ?_, ?_, ?_⟩, ?_, ?_⟩
    · exact Table.ids_modify _ _ _
    · exact Table.filter_modify _ _ _
    · intro kind
      cases kind <;> rfl
    · dsimp only
      rw [Table.find?_modify_self, hparcel]
      rfl
    · intro kind
      rw [← hlinks kind]
      cases kind <;> rfl

/-- Screening leaves a marked parcel and everything else alone. -/
theorem screenParcel_of_isMarked (context : Context) (scope : Scope)
    (hparcel : store.parcels.find? id = some record) (hmarked : record.isMarked = true) :
    screenParcel context scope id store =
      .ok ⟨store, ⟨id, record.checkStatus, [], [], [], false, true⟩, []⟩ := by
  unfold screenParcel
  rw [hparcel]
  dsimp only
  rw [if_pos hmarked]

/-- Screening a parcel that is not marked comes to its outcome, and the store is as the outcome
says. That no prefix is found twice is for the index to see to. -/
theorem exists_screenParcel (context : Context) (scope : Scope)
    (hparcel : store.parcels.find? id = some record) (hmarked : record.isMarked = false)
    (hprefixes : ∀ index, context.prefixes = some index → scope.hasCodes = true →
      (Commodity.classify record.code index).ids.Nodup) :
    ∃ after, screenParcel context scope id store =
        .ok ⟨after, outcomeOf context scope id record store, []⟩ ∧
      Screened id record (outcomeOf context scope id record store) store after := by
  have hnodup : ∀ index, (if scope.hasCodes then context.prefixes else none) = some index →
      (Commodity.classify record.code index).ids.Nodup := by
    intro index hindex
    split at hindex
    · next hcodes => exact hprefixes index hindex hcodes
    · cases hindex
  obtain ⟨middle, hwords, hsame, hparcels, hstop, hkey, hcodes⟩ :=
    exists_screenWords (if scope.hasWords then context.words else none)
      (if scope.hasCodes then context.prefixes else none) id record store
  obtain ⟨last, hclassified, hsame', hparcels', hmatches, hothers⟩ :=
    exists_screenCodes _ hnodup (if scope.hasWords then context.words else none) id hcodes
  have hlast : last.parcels.find? id = some record := by rw [hparcels', hparcels, hparcel]
  refine ⟨_, ?_, screened_setCheckStatus hlast (hsame.trans hsame')
    (outcomeOf context scope id record store) rfl ?_⟩
  · unfold screenParcel
    rw [hparcel]
    dsimp only
    rw [if_neg (by rw [hmarked]; exact Bool.false_ne_true), hwords]
    change (screenCodes _ id record middle >>= _) = _
    rw [hclassified]
    rfl
  · intro kind
    cases kind with
    | stopWord => exact (hothers _ (by decide)).trans hstop
    | keyWord => exact (hothers _ (by decide)).trans hkey
    | codePrefix => exact hmatches

/-- A prefix that is found twice cannot be linked twice, and nothing is screened then. -/
theorem screenParcel_of_not_nodup (context : Context) {scope : Scope}
    {index : Commodity.PrefixIndex} (hparcel : store.parcels.find? id = some record)
    (hmarked : record.isMarked = false) (hcodes : scope.hasCodes = true)
    (hindex : context.prefixes = some index)
    (htwice : ¬ (Commodity.classify record.code index).ids.Nodup) :
    screenParcel context scope id store = .error .duplicate := by
  obtain ⟨middle, hwords, _⟩ :=
    exists_screenWords (if scope.hasWords then context.words else none) none id record store
  have hclassified : screenCodes (some index) id record middle = .error .duplicate := by
    unfold screenCodes replaceLinks
    dsimp only
    rw [if_neg htwice]
    rfl
  unfold screenParcel
  rw [hparcel]
  dsimp only
  rw [if_neg (by rw [hmarked]; exact Bool.false_ne_true), hwords, if_pos hcodes, hindex]
  change (screenCodes (some index) id record middle >>= _) = _
  rw [hclassified]
  rfl

/-- What it means that screening a parcel goes through. -/
theorem screenParcel_ok {context : Context} {scope : Scope} {change : Change Outcome}
    (h : screenParcel context scope id store = .ok change) :
    ∃ record, store.parcels.find? id = some record ∧
      (record.isMarked = true ∧ change.store = store ∨ record.isMarked = false ∧
        change = ⟨change.store, outcomeOf context scope id record store, []⟩ ∧
        Screened id record (outcomeOf context scope id record store) store change.store) := by
  cases hparcel : store.parcels.find? id with
  | none =>
    unfold screenParcel at h
    rw [hparcel] at h
    cases h
  | some record =>
    refine ⟨record, rfl, ?_⟩
    by_cases hmarked : record.isMarked = true
    · rw [screenParcel_of_isMarked context scope hparcel hmarked] at h
      cases h
      exact .inl ⟨hmarked, rfl⟩
    have hmarked : record.isMarked = false := Bool.eq_false_iff.2 hmarked
    by_cases hnodup : ∀ index, context.prefixes = some index → scope.hasCodes = true →
        (Commodity.classify record.code index).ids.Nodup
    · obtain ⟨after, hchange, hscreened⟩ := exists_screenParcel context scope hparcel hmarked hnodup
      rw [hchange] at h
      cases h
      exact .inr ⟨hmarked, rfl, hscreened⟩
    · simp only [not_forall] at hnodup
      obtain ⟨index, hindex, hcodes, htwice⟩ := hnodup
      rw [screenParcel_of_not_nodup context hparcel hmarked hcodes hindex htwice] at h
      cases h

theorem sameBut_screenParcel {context : Context} {scope : Scope} {change : Change Outcome}
    (h : screenParcel context scope id store = .ok change) : SameBut id store change.store := by
  obtain ⟨record, _, ⟨_, hstore⟩ | ⟨_, _, hscreened⟩⟩ := screenParcel_ok h
  · rw [hstore]
    exact .refl id store
  · exact hscreened.same

/-! ## Soundness -/

theorem mem_linkedRules {store : Store} {kind : LinkKind} {row : Row Link}
    (h : row ∈ (store.links kind).rows) : row.val.rule ∈ store.linkedRules kind row.val.parcel :=
  List.mem_map.2 ⟨row, List.mem_filter.2 ⟨h, beq_self_eq_true _⟩, rfl⟩

/-- A sound store stays sound if the parcel screened is linked to rules that exist. -/
theorem Screened.isSound {outcome : Outcome} {before : Store}
    (h : Screened id record outcome before after) (hsound : before.IsSound)
    (hparcel : before.parcels.find? id = some record)
    (hrules : ∀ kind, ∀ rule ∈ outcome.rules kind, before.hasRule kind rule = true) :
    after.IsSound := by
  have hparcels : ∀ other, after.parcels.has other = before.parcels.has other := by
    intro other
    have hids := congrArg (List.any · (· == other)) h.same.parcelIds
    unfold Table.ids at hids
    rw [List.any_map, List.any_map] at hids
    exact hids
  refine ⟨?_, ?_, ?_, ?_, ?_, ?_⟩
  · intro row hrow
    rw [h.same.registers]
    by_cases hid : row.id = id
    · subst hid
      have hrecord := Table.find?_eq_some_iff.1 h.parcel
      have hregister := hsound.parcels _ (Table.find?_eq_some_iff.1 hparcel)
      rw [Table.eq_of_mem_of_id_eq hrow hrecord rfl]
      exact hregister
    · have hmem : row ∈ before.parcels.rows.filter fun row => row.id != id := by
        rw [← h.same.parcels]
        exact List.mem_filter.2 ⟨hrow, bne_iff_ne.2 hid⟩
      exact hsound.parcels row (List.mem_filter.1 hmem).1
  · rw [h.same.jobs, h.same.registers]
    exact hsound.jobs
  · rw [h.same.keyWordCodes, h.same.keyWords]
    exact hsound.keyWordCodes
  · rw [h.same.exceptions, h.same.prefixes]
    exact hsound.exceptions
  · rw [h.same.prefixes, h.same.orders]
    exact hsound.prefixes
  · intro kind row hrow
    rw [hparcels, h.same.hasRule]
    by_cases hid : row.val.parcel = id
    · refine ⟨?_, hrules kind _ ?_⟩
      · rw [hid]
        exact Table.has_of_find? hparcel
      · rw [← h.links kind, ← hid]
        exact mem_linkedRules hrow
    · have hmem : row ∈ (before.links kind).rows.filter fun row => row.val.parcel != id := by
        rw [← h.same.links kind]
        exact List.mem_filter.2 ⟨hrow, bne_iff_ne.2 hid⟩
      exact hsound.links kind row (List.mem_filter.1 hmem).1

end Screening

end Clearance

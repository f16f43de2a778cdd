import Clearance.Proofs.Screening.Halves

/-!
# Screening as a whole or not at all

Screening a parcel replaces up to three tables of links before the references in them are looked at,
so a context that is outdated is found out only at the end, when the block is undone. No rule is
found twice, though: the words found are gathered by their ids, and the code prefixes come from one
file of the index. So of all that may be wrong with links only a rule that exists no more can be
wrong with those of an outcome.
-/

set_option autoImplicit false

namespace Clearance

open Proc

namespace Commodity

/-- The rules that are filed in an index. -/
def PrefixIndex.rules (index : PrefixIndex) : List PrefixRule := index.files.flatMap (·.2)

/-- The rules that a code is compared with are some of those filed. -/
theorem PrefixIndex.candidates_sublist (index : PrefixIndex) (code : List Char) :
    (index.candidates code).Sublist index.rules := by
  unfold candidates rules
  induction index.files with
  | nil => exact List.nil_sublist _
  | cons file rest ih =>
    obtain ⟨key, rules⟩ := file
    rw [List.lookup_cons, List.flatMap_cons]
    cases code.take keyLength == key with
    | true => exact List.sublist_append_left _ _
    | false => exact ih.trans (List.sublist_append_right _ _)

theorem matched_classify_sublist (code : Option String) (index : PrefixIndex) :
    (classify code index).matched.Sublist index.rules := by
  unfold classify
  cases code with
  | none => exact List.nil_sublist _
  | some text =>
    dsimp only
    split
    · exact List.filter_sublist.trans (index.candidates_sublist _)
    · exact List.nil_sublist _

end Commodity

namespace Screening

/-- Whether no two code prefixes of a context have one id. -/
def Context.HasDistinctIds (context : Context) : Prop :=
  ∀ index, context.prefixes = some index → (index.rules.map (·.id)).Nodup

/-- Whether a fault says why a parcel cannot be screened: there is no context to screen it with, or
no parcel, or a rule that is found for it exists no more. -/
inductive Refuses (scope : Scope) (given : Option Context) (id : Int) (s : Session) : Fault → Prop
  | unloaded {fault : Fault} : contextIn scope given s = .error fault → Refuses scope given id s fault
  | missing : s.store.parcels.find? id = none → Refuses scope given id s (.missing .parcel)
  | dangling {context : Context} {record : Parcel} : contextIn scope given s = .ok context →
      s.store.parcels.find? id = some record → record.isMarked = false →
      ¬ FindsRules context scope id record s.store → Refuses scope given id s .dangling

variable {scope : Scope} {given : Option Context} {context : Context} {id : Int} {record : Parcel}
  {s : Session}

theorem Context.HasDistinctIds.nodup_classify (h : context.HasDistinctIds)
    {index : Commodity.PrefixIndex} (hindex : context.prefixes = some index)
    (code : Option String) : (Commodity.classify code index).ids.Nodup :=
  (h index hindex).sublist ((Commodity.matched_classify_sublist code index).map _)

/-- The context that a scope is screened with finds no code prefix twice, be it given or loaded. -/
theorem nodup_of_contextIn (hgiven : ∀ context, given = some context → context.HasDistinctIds)
    (h : contextIn scope given s = .ok context) {index : Commodity.PrefixIndex}
    (hindex : context.prefixes = some index) (code : Option String) :
    (Commodity.classify code index).ids.Nodup := by
  unfold contextIn at h
  cases hown : given with
  | none =>
    rw [hown] at h
    exact nodup_of_contextOf h hindex code
  | some own =>
    rw [hown] at h
    dsimp only at h
    split at h
    · cases h
      exact (hgiven _ hown).nodup_classify hindex code
    · exact nodup_of_contextOf h hindex code

theorem isSome_of_partOf {α : Type} {asked : Bool} {part : Except Fault α} {found : Option α}
    (h : partOf asked part = .ok found) : found.isSome = asked := by
  unfold partOf at h
  cases asked with
  | false =>
    cases h
    rfl
  | true =>
    cases part with
    | error fault => cases h
    | ok own =>
      cases h
      rfl

/-- The context that a scope is screened with has all that the scope needs. -/
theorem suffices_of_contextIn (h : contextIn scope given s = .ok context) :
    context.suffices scope = true := by
  have hloaded : contextOf scope.hasWords scope.hasCodes s = .ok context →
      context.suffices scope = true := by
    intro hload
    unfold contextOf at hload
    obtain ⟨words, hwords, hrest⟩ := Store.exists_of_bind hload
    obtain ⟨prefixes, hprefixes, hcontext⟩ := Store.exists_of_bind hrest
    cases hcontext
    unfold Context.suffices
    rw [isSome_of_partOf hwords, isSome_of_partOf hprefixes, Bool.not_or_self, Bool.not_or_self]
    rfl
  unfold contextIn at h
  cases given with
  | none => exact hloaded h
  | some own =>
    dsimp only at h
    split at h
    · next hsuffices =>
      cases h
      exact hsuffices
    · exact hloaded h

/-- No rule is found twice for the links that a scope replaces. -/
theorem nodup_rules_outcomeOf
    (hgiven : ∀ context, given = some context → context.HasDistinctIds)
    (h : contextIn scope given s = .ok context) (record : Parcel) {kind : LinkKind}
    (hkind : scope.renews kind = true) :
    ((outcomeOf context scope id record s.store).rules kind).Nodup := by
  have hsuffices := suffices_of_contextIn h
  unfold Context.suffices at hsuffices
  rw [Bool.and_eq_true, Bool.or_eq_true, Bool.or_eq_true] at hsuffices
  have hwords : scope.hasWords = true → ∃ words, context.words = some words := by
    intro hscope
    rw [hscope] at hsuffices
    exact Option.isSome_iff_exists.1 (hsuffices.1.resolve_left nofun)
  rw [rules_eq_rulesAfter]
  cases kind with
  | stopWord =>
    have hscope : scope.hasWords = true := hkind
    obtain ⟨words, hsome⟩ := hwords hscope
    rw [if_pos hscope, hsome]
    exact nodup_foundIds words.engine words.stopWords record.texts
  | keyWord =>
    have hscope : scope.hasWords = true := hkind
    obtain ⟨words, hsome⟩ := hwords hscope
    rw [if_pos hscope, hsome]
    exact nodup_foundIds words.engine words.keyWords record.texts
  | codePrefix =>
    have hscope : scope.hasCodes = true := hkind
    rw [hscope] at hsuffices
    obtain ⟨index, hsome⟩ := Option.isSome_iff_exists.1 (hsuffices.2.resolve_left nofun)
    rw [if_pos hscope, hsome]
    exact nodup_of_contextIn hgiven h hsome record.code

/-! ## What screening comes to -/

theorem partOf_error {α : Type} {asked : Bool} {part : Except Fault α} {fault : Fault}
    (h : partOf asked part = .error fault) : part = .error fault := by
  unfold partOf at h
  cases asked with
  | false => cases h
  | true =>
    cases part with
    | error own =>
      cases h
      rfl
    | ok _ => cases h

/-- A context cannot be loaded for want of an engine or because a number cannot be read. -/
theorem contextOf_error {words codes : Bool} {fault : Fault}
    (h : contextOf words codes s = .error fault) :
    (∃ reason, fault = .noEngine reason) ∨ ∃ reason, fault = .unreadableNumber reason := by
  unfold contextOf at h
  cases hwords : partOf words (wordsOf s) with
  | error own =>
    rw [hwords] at h
    cases h
    have hengine := partOf_error hwords
    unfold wordsOf at hengine
    split at hengine
    · cases hengine
    · cases hengine
      exact .inl ⟨_, rfl⟩
  | ok _ =>
    cases hprefixes : partOf codes (codesOf s.store) with
    | error own =>
      rw [hwords, hprefixes] at h
      cases h
      have hnumber := partOf_error hprefixes
      unfold codesOf at hnumber
      split at hnumber
      · cases hnumber
      · cases hnumber
        exact .inr ⟨_, rfl⟩
    | ok _ =>
      rw [hwords, hprefixes] at h
      cases h

/-- What refuses to screen a parcel is never a link that is repeated. -/
theorem Refuses.ne_duplicate {fault : Fault} (h : Refuses scope given id s fault) :
    fault ≠ .duplicate := by
  cases h with
  | missing _ => nofun
  | dangling _ _ _ _ => nofun
  | unloaded hload =>
    have hfails : contextOf scope.hasWords scope.hasCodes s = .error fault := by
      unfold contextIn at hload
      cases given with
      | none => exact hload
      | some own =>
        dsimp only at hload
        split at hload
        · cases hload
        · exact hload
    obtain ⟨reason, rfl⟩ | ⟨reason, rfl⟩ := contextOf_error hfails <;> nofun

/-- Screening a parcel that does not exist fails. -/
theorem screenWith_of_missing (context : Context) (scope : Scope) (hwhole : s.isBroken = false)
    (h : s.store.parcels.find? id = none) :
    screenWith context scope id s = (.error (.missing .parcel), s) := by
  have hmissing : screenParcel context scope id s.store = .error (.missing .parcel) := by
    unfold screenParcel
    rw [h]
  let inside : Session := { s with inBlock := true }
  rw [screenWith_eq]
  exact atomic_of_error (@execute_of_error _ _ inside _ hwhole hmissing)

/-- A parcel is screened with the context that there is for it, and refused if there is none. -/
theorem Strikes.exists_screen (strikes : Strikes) (scope : Scope) (given : Option Context) (id : Int)
    (hwhole : s.isBroken = false) :
    ∃ u, s.Recompiles u ∧ strikes.screen scope given id s = match contextIn scope given s with
      | .ok context => strikes.screenWith context scope id u
      | .error fault => (.error fault, u) := by
  obtain ⟨u, hload, hsu⟩ := exists_contextFor scope given hwhole
  refine ⟨u, hsu, ?_⟩
  unfold Strikes.screen
  rw [bind_apply, hload]
  cases contextIn scope given s <;> rfl

/-- Whatever the context and whatever error strikes, a parcel is left alone or has what the outcome
says, or the store is as it was. -/
theorem Strikes.screen_ok_or_unchanged (strikes : Strikes) (scope : Scope) (given : Option Context)
    (id : Int) (hwhole : s.isBroken = false) :
    (∃ outcome t record, strikes.screen scope given id s = (.ok outcome, t) ∧
      s.store.parcels.find? id = some record ∧
      (record.isMarked = true ∧ t.store = s.store ∨
        record.isMarked = false ∧ Screened id record outcome s.store t.store)) ∨
    ∃ fault t, strikes.screen scope given id s = (.error fault, t) ∧ t.store = s.store := by
  obtain ⟨u, hsu, hrun⟩ := strikes.exists_screen scope given id hwhole
  cases hcontext : contextIn scope given s with
  | error fault =>
    rw [hcontext] at hrun
    exact .inr ⟨fault, u, hrun, hsu.store⟩
  | ok context =>
    rw [hcontext] at hrun
    dsimp only at hrun
    cases hscreen : strikes.screenWith context scope id u with
    | mk result t =>
      rw [hscreen] at hrun
      cases result with
      | error fault =>
        -- The end of the block has undone the statements before the one that failed.
        have hundone := Strikes.screenWith_of_error (congrArg Prod.fst hscreen)
        obtain rfl := (Prod.mk.inj (hscreen.symm.trans hundone)).2
        exact .inr ⟨fault, t, hrun, hsu.store⟩
      | ok outcome =>
        have hcalm : Screening.screenWith context scope id u = (.ok outcome, t) := by
          rcases strikes.screenWith_cases context scope id u with hsame | ⟨_, _, _, hstruck⟩
          · rw [← hsame, hscreen]
          · rw [hstruck] at hscreen
            cases hscreen
        obtain ⟨change, hchange, hstore, hresult⟩ := screenWith_ok hcalm
        rw [hsu.store] at hchange
        obtain ⟨record, hparcel, ⟨hmarked, hsame⟩ | ⟨hmarked, hof, hscreened⟩⟩ :=
          screenParcel_ok hchange
        · exact .inl ⟨outcome, t, record, hrun, hparcel, .inl ⟨hmarked, hstore.trans hsame⟩⟩
        · refine .inl ⟨outcome, t, record, hrun, hparcel, .inr ⟨hmarked, ?_⟩⟩
          rw [hof] at hresult
          rw [← hresult, hstore]
          exact hscreened

/-- Outside a block a parcel is refused for a reason, if no two code prefixes have one id. -/
theorem refuses_of_screen (hs : s.IsSettled) (hblock : s.inBlock = false)
    (hgiven : ∀ context, given = some context → context.HasDistinctIds) {fault : Fault}
    (hfails : (screen scope given id s).1 = .error fault) : Refuses scope given id s fault := by
  obtain ⟨u, hsu, hrun⟩ := Strikes.calm.exists_screen scope given id (hs hblock).1
  have hu := hsu.isSettled hs
  have hublock : u.inBlock = false := hsu.inBlock.trans hblock
  rw [show screen scope given id s = _ from hrun] at hfails
  cases hcontext : contextIn scope given s with
  | error own =>
    rw [hcontext] at hfails
    cases hfails
    exact .unloaded hcontext
  | ok context =>
    rw [hcontext] at hfails
    change (screenWith context scope id u).1 = _ at hfails
    cases hparcel : s.store.parcels.find? id with
    | none =>
      rw [screenWith_of_missing context scope (hu hublock).1 (by rw [hsu.store, hparcel])] at hfails
      cases hfails
      exact .missing hparcel
    | some record =>
      have hparcel' : u.store.parcels.find? id = some record := by rw [hsu.store, hparcel]
      by_cases hmarked : record.isMarked = true
      · have hspared : screenWith context scope id u =
            (.ok ⟨id, record.checkStatus, [], [], [], false, true⟩, u) := by
          rw [screenWith_eq]
          exact atomic_execute_of_ok hu (hu hublock).1
            (screenParcel_of_isMarked context scope hparcel' hmarked) fun hout => (hu hout).2.2
        rw [hspared] at hfails
        cases hfails
      · have hunmarked : record.isMarked = false := Bool.eq_false_iff.2 hmarked
        have hnodup : ∀ index, context.prefixes = some index →
            (Commodity.classify record.code index).ids.Nodup :=
          fun _ hindex => nodup_of_contextIn hgiven hcontext hindex record.code
        rcases screenWith_cases hu hublock hparcel' hunmarked scope hnodup with
          ⟨_, after, hscreened, _⟩ | ⟨hnot, _⟩
        · rw [hscreened] at hfails
          cases hfails
        · -- The links are made before it is known that a rule is missing, and are undone.
          rw [screenWith_of_not_findsRules hu hublock hparcel' hunmarked hnodup hnot] at hfails
          cases hfails
          rw [hsu.store] at hnot
          exact .dangling hcontext hparcel hunmarked hnot

/-- Outside a block a screening fails as an error strikes or for a reason. -/
theorem Strikes.struck_or_refuses {strikes : Strikes} (hs : s.IsSettled) (hblock : s.inBlock = false)
    (hgiven : ∀ context, given = some context → context.HasDistinctIds) {fault : Fault}
    (hfails : (strikes.screen scope given id s).1 = .error fault) :
    (∃ point, strikes point = some fault) ∨ Refuses scope given id s fault := by
  obtain ⟨u, hload, hsu⟩ := exists_contextFor scope given (hs hblock).1
  cases hcontext : contextIn scope given s with
  | error own =>
    rw [hcontext] at hload
    have hrun : strikes.screen scope given id s = (.error own, u) := bind_of_error hload
    rw [hrun] at hfails
    cases hfails
    exact .inr (.unloaded hcontext)
  | ok context =>
    rw [hcontext] at hload
    rw [strikes.screen_of_load id hload] at hfails
    rcases strikes.screenWith_cases context scope id u with hsame | ⟨point, own, hstrikes, hrun⟩
    · rw [hsame, ← Screening.screen_of_load id hload] at hfails
      exact .inr (refuses_of_screen hs hblock hgiven hfails)
    · rw [hrun] at hfails
      cases hfails
      exact .inl ⟨point, hstrikes⟩

/-- Screening a parcel outside a block, with any context and whatever error strikes between two of
its statements: the parcel is left alone or has what the outcome says, or screening fails and the
store is as it was. If no two code prefixes of the context have one id, no rule is found twice, and
unless an error strikes screening never fails for a link that is repeated but only for want of a
context, of the parcel, or of a rule that is found. -/
theorem screen_whole_or_not (hs : s.IsSettled) (hblock : s.inBlock = false) (scope : Scope)
    (given : Option Context) (id : Int) :
    (∀ strikes : Strikes,
      (∃ outcome t record, strikes.screen scope given id s = (.ok outcome, t) ∧
        s.store.parcels.find? id = some record ∧
        (record.isMarked = true ∧ t.store = s.store ∨
          record.isMarked = false ∧ Screened id record outcome s.store t.store)) ∨
      ∃ fault t, strikes.screen scope given id s = (.error fault, t) ∧ t.store = s.store) ∧
    ((∀ context, given = some context → context.HasDistinctIds) →
      (∀ context, contextIn scope given s = .ok context → ∀ record kind,
        scope.renews kind = true →
        ((outcomeOf context scope id record s.store).rules kind).Nodup) ∧
      ∀ (strikes : Strikes) (fault : Fault),
        (strikes.screen scope given id s).1 = .error fault →
        (∃ point, strikes point = some fault) ∨
          fault ≠ .duplicate ∧ Refuses scope given id s fault) := by
  refine ⟨fun strikes => strikes.screen_ok_or_unchanged scope given id (hs hblock).1,
    fun hgiven => ⟨?_, ?_⟩⟩
  · intro context hcontext record kind hkind
    exact nodup_rules_outcomeOf hgiven hcontext record hkind
  · intro strikes fault hfails
    rcases Strikes.struck_or_refuses hs hblock hgiven hfails with hstruck | hrefused
    · exact .inl hstruck
    · exact .inr ⟨hrefused.ne_duplicate, hrefused⟩

/-- A session like `crateSession` in which the stop word has been deleted. -/
def disarmedSession : Session :=
  { crateSession with store := crateSession.store.eraseStopWord 1 }

/-- The store that the statements of a screening of the parcel leave inside their block. -/
def insideDisarmed (strikes : Strikes) : Store :=
  (screenSteps strikes crateContext .full 1 { disarmedSession with inBlock := true }).2.store

/-- The context that was loaded before still finds the deleted stop word: the parcel is linked to it
and to its other rules, until the end of the block undoes that. So it does if the time is up when
the old link has been erased and the new one is not there. -/
theorem screen_disarmedSession : disarmedSession.IsSettled ∧ crateContext.HasDistinctIds ∧
    disarmedSession.store.linkedRules .codePrefix 1 = [2] ∧
    (insideDisarmed .calm).linkedRules .stopWord 1 = [1] ∧
    (insideDisarmed .calm).linkedRules .codePrefix 1 = [1] ∧
    (∃ t, screen .full (some crateContext) 1 disarmedSession = (.error .dangling, t) ∧
      t.store = disarmedSession.store ∧
      Refuses .full (some crateContext) 1 disarmedSession .dangling) ∧
    (insideDisarmed (timeUpAt (.newLinks .codePrefix))).linkedRules .codePrefix 1 = [] ∧
    ∃ t, (timeUpAt (.newLinks .codePrefix)).screen .full (some crateContext) 1 disarmedSession =
        (.error (.raised .softTimeLimit none), t) ∧ t.store = disarmedSession.store := by
  have hsound : disarmedSession.store.IsSound := by
    refine ⟨by decide, by decide, by decide, by decide, by decide, ?_⟩
    intro kind row hrow
    cases kind with
    | stopWord | keyWord => cases hrow
    | codePrefix =>
      obtain rfl := List.mem_singleton.1 hrow
      exact ⟨by decide, by decide⟩
  have hs : disarmedSession.IsSettled := fun _ => ⟨rfl, rfl, hsound⟩
  have hdistinct : crateContext.HasDistinctIds := by
    intro index hindex
    cases hindex
    decide
  have hfails : (screen .full (some crateContext) 1 disarmedSession).1 = .error .dangling := by
    decide +kernel
  have hstruck : ((timeUpAt (.newLinks .codePrefix)).screen .full (some crateContext) 1
      disarmedSession).1 = .error (.raised .softTimeLimit none) := by
    decide +kernel
  obtain ⟨hwhole, hreasons⟩ :=
    screen_whole_or_not hs rfl .full (some crateContext) 1
  have hunchanged : ∀ (strikes : Strikes) (fault : Fault),
      (strikes.screen .full (some crateContext) 1 disarmedSession).1 = .error fault →
      ∃ t, strikes.screen .full (some crateContext) 1 disarmedSession = (.error fault, t) ∧
        t.store = disarmedSession.store := by
    intro strikes fault herror
    rcases hwhole strikes with ⟨outcome, t, _, hok, _⟩ | ⟨own, t, hrun, hstore⟩
    · rw [hok] at herror
      cases herror
    · rw [hrun] at herror
      cases herror
      exact ⟨t, hrun, hstore⟩
  obtain ⟨t, hrun, hstore⟩ := hunchanged .calm .dangling hfails
  rcases (hreasons fun _ hown => Option.some.inj hown ▸ hdistinct).2 .calm _ hfails with
    ⟨_, hnone⟩ | ⟨_, hrefused⟩
  · cases hnone
  refine ⟨hs, hdistinct, by decide, ?_, ?_, ⟨t, hrun, hstore, hrefused⟩, ?_,
    hunchanged _ _ hstruck⟩
  · decide +kernel
  · decide +kernel
  · decide +kernel

end Screening

end Clearance

import Clearance.Proofs.Job.Alone
import Clearance.Proofs.Screening.Full

/-!
# Screening by halves

A scope of words or codes replaces some of a parcel's links and takes the others as they are, and
the check status follows from both. So the first of two halves may decide by links that are out of
date, and only the second one decides by those that both have made. What it comes to is the outcome
of full screening, in either order: the first half changes neither the texts nor the code of the
parcel, and it never marks it, so that the second half is not left out.
-/

set_option autoImplicit false

namespace Clearance

open Proc
open Clearance.Parcel (CheckStatus)

/-- Whether screening a scope replaces the links of a kind. -/
def Scope.renews (scope : Scope) : LinkKind → Bool
  | .stopWord => scope.hasWords
  | .keyWord => scope.hasWords
  | .codePrefix => scope.hasCodes

namespace Screening

/-- A context that compares parcels with the rules of a store as they are now, as far as a scope
needs them. -/
structure Context.IsCurrentFor (engine : Word.Engine) (store : Store) (scope : Scope)
    (context : Context) : Prop where
  words : scope.hasWords = true → context.words = some ⟨Word.compile (store.rules .stopWords),
    Word.compile (store.rules .keyWords), engine⟩
  prefixes : scope.hasCodes = true →
    ∃ rules, store.prefixRules = .ok rules ∧ context.prefixes = some (.ofList rules)

/-- The context with which a scope is screened in a session: the one given, if it suffices, or else
the one that is loaded. -/
def contextIn (scope : Scope) (given : Option Context) (s : Session) : Except Fault Context :=
  match given with
  | some context =>
    if context.suffices scope then .ok context else contextOf scope.hasWords scope.hasCodes s
  | none => contextOf scope.hasWords scope.hasCodes s

/-- Whether a session screens a scope with the rules of its store as they are now. -/
def HasCurrent (engine : Word.Engine) (scope : Scope) (given : Option Context) (s : Session) :
    Prop :=
  ∃ context, contextIn scope given s = .ok context ∧ context.IsCurrentFor engine s.store scope

variable {engine : Word.Engine} {scope other : Scope} {context whole : Context}
  {given given' : Option Context} {id : Int} {record : Parcel} {store middle after : Store}
  {s t : Session}

/-! ## The context -/

theorem Context.IsCurrentFor.isCurrent (h : context.IsCurrentFor engine store .full) :
    context.IsCurrent engine store :=
  ⟨h.words rfl, h.prefixes rfl⟩

theorem Context.IsCurrentFor.congr (h : context.IsCurrentFor engine store scope)
    (hrules : store.SameRules after) : context.IsCurrentFor engine after scope := by
  refine ⟨fun hwords => ?_, fun hcodes => ?_⟩
  · rw [hrules.rules, hrules.rules]
    exact h.words hwords
  · rw [hrules.prefixRules]
    exact h.prefixes hcodes

/-- The context is found without a change that has a part in it. -/
theorem exists_contextFor (scope : Scope) (given : Option Context) (hwhole : s.isBroken = false) :
    ∃ t, contextFor scope given s = (contextIn scope given s, t) ∧ s.Recompiles t := by
  obtain ⟨t, hload, hst, _⟩ := exists_loadContext scope.hasWords scope.hasCodes hwhole
  unfold contextFor contextIn
  cases given with
  | none => exact ⟨t, hload, hst⟩
  | some context =>
    dsimp only
    split
    · exact ⟨s, rfl, .refl s⟩
    · exact ⟨t, hload, hst⟩

/-- The context that a scope is screened with does not depend on the parcels. -/
theorem contextIn_congr (scope : Scope) (given : Option Context) (hst : s.Recompiles t)
    (hrules : s.store.SameRules after) :
    contextIn scope given { t with store := after } = contextIn scope given s := by
  have hload : contextOf scope.hasWords scope.hasCodes { t with store := after } =
      contextOf scope.hasWords scope.hasCodes s := by
    refine contextOf_congr (fun _ vocabulary => ?_) hst.backend hrules.prefixRules
    rw [← hst.matchers vocabulary]
    refine Session.matcherOf_congr rfl rfl ?_
    rw [hst.store]
    exact hrules.rules vocabulary
  unfold contextIn
  rw [hload]

/-! ## The outcome -/

/-- What a scope needs of a current context is what a context for all has. -/
theorem Context.IsCurrentFor.parts (hcontext : context.IsCurrentFor engine store scope)
    (hwhole : whole.IsCurrentFor engine store .full) :
    (scope.hasWords = true → context.words = whole.words) ∧
      (scope.hasCodes = true → context.prefixes = whole.prefixes) := by
  constructor
  · intro hwords
    rw [hcontext.words hwords, hwhole.words rfl]
  · intro hcodes
    obtain ⟨rules, hrules, hprefixes⟩ := hcontext.prefixes hcodes
    obtain ⟨rules', hrules', hprefixes'⟩ := hwhole.prefixes rfl
    obtain rfl : rules = rules' := Except.ok.inj (hrules.symm.trans hrules')
    rw [hprefixes, hprefixes']

/-- The outcome names the rules found for the links that a scope replaces, and those linked before
for the others. -/
theorem rules_outcomeOf (hcontext : context.IsCurrentFor engine store scope)
    (hwhole : whole.IsCurrentFor engine store .full) (id : Int) (record : Parcel)
    (kind : LinkKind) :
    (outcomeOf context scope id record store).rules kind =
      if scope.renews kind then (outcomeOf whole .full id record store).rules kind
      else store.linkedRules kind id := by
  obtain ⟨hwords, hcodes⟩ := hcontext.parts hwhole
  obtain ⟨rules, _, hprefixes⟩ := hwhole.prefixes rfl
  have hold : (outcomeOf context scope id record store).rules kind =
      rulesAfter (if scope.hasWords then whole.words else none)
        (if scope.hasCodes then whole.prefixes else none) id record store kind := by
    have hsome : (if scope.hasWords then context.words else none) =
        if scope.hasWords then whole.words else none := by
      split
      · next h => exact hwords h
      · rfl
    have hsome' : (if scope.hasCodes then context.prefixes else none) =
        if scope.hasCodes then whole.prefixes else none := by
      split
      · next h => exact hcodes h
      · rfl
    rw [← hsome, ← hsome']
    exact rules_eq_rulesAfter context scope id record store kind
  have hnew : (outcomeOf whole .full id record store).rules kind =
      rulesAfter whole.words whole.prefixes id record store kind :=
    rules_eq_rulesAfter whole .full id record store kind
  rw [hold, hnew, hwhole.words rfl, hprefixes]
  cases scope <;> cases kind <;> rfl

/-- An outcome follows from the code of the parcel and the rules it names. -/
theorem outcomeWith_ext {parcel parcel' : Parcel} {rules rules' : LinkKind → List Int}
    (hcode : parcel'.code = parcel.code)
    (hrules : ∀ kind, (outcomeWith id parcel' rules').rules kind =
      (outcomeWith id parcel rules).rules kind) :
    outcomeWith id parcel' rules' = outcomeWith id parcel rules := by
  have hnames : ∀ (parcel : Parcel) (rules : LinkKind → List Int) (kind : LinkKind),
      (outcomeWith id parcel rules).rules kind = rules kind := by
    intro parcel rules kind
    cases kind <;> rfl
  obtain rfl : rules' = rules := by
    funext kind
    rw [← hnames parcel' rules', ← hnames parcel rules, hrules]
  unfold outcomeWith
  rw [hcode]

/-- The second of two halves that replace all links between them comes to the outcome of full
screening. -/
theorem outcomeOf_second (hfirst : context.IsCurrentFor engine store scope) {later : Context}
    (hsecond : later.IsCurrentFor engine middle other)
    (hwhole : whole.IsCurrentFor engine store .full)
    (hall : ∀ kind, scope.renews kind = true ∨ other.renews kind = true)
    (hscreened : Screened id record (outcomeOf context scope id record store) store middle)
    (status : Int) :
    outcomeOf later other id { record with checkStatus := status } middle =
      outcomeOf whole .full id record store := by
  have hwhole' := hwhole.congr (Store.sameRules_of_sameBut hscreened.same)
  refine outcomeWith_ext rfl fun kind => ?_
  have hkind := rules_outcomeOf hsecond hwhole' id { record with checkStatus := status } kind
  rw [outcomeOf_congr hwhole.isCurrent middle status] at hkind
  refine hkind.trans ?_
  split
  · rfl
  · next hold =>
    have hfirst' := rules_outcomeOf hfirst hwhole id record kind
    rw [if_pos ((hall kind).resolve_right hold)] at hfirst'
    exact (hscreened.links kind).trans hfirst'

/-! ## In a session -/

/-- The rules found with a current context exist, and so do those linked in a sound store. -/
theorem findsRules_of_isCurrentFor (hcontext : context.IsCurrentFor engine store scope)
    (hwhole : whole.IsCurrentFor engine store .full) (hsound : store.IsSound) (id : Int)
    (record : Parcel) : FindsRules context scope id record store := by
  intro kind rule hrule
  rw [rules_outcomeOf hcontext hwhole] at hrule
  split at hrule
  · exact (isOf_outcomeOf hwhole.isCurrent id record).hasRule kind rule hrule
  · obtain ⟨row, hrow, rfl⟩ := List.mem_map.1 hrule
    exact (hsound.links kind row (List.mem_filter.1 hrow).1).2

/-- A parcel that is not marked is screened with the rules as they are now. -/
theorem screen_of_isCurrentFor (hin : contextIn scope given s = .ok context)
    (hcurrent : context.IsCurrentFor engine s.store scope)
    (hwhole : whole.IsCurrentFor engine s.store .full) (hs : s.IsSettled)
    (hunbroken : s.isBroken = false) (hparcel : s.store.parcels.find? id = some record)
    (hmarked : record.isMarked = false) :
    ∃ t after, s.Recompiles t ∧
      screen scope given id s =
        (.ok (outcomeOf context scope id record s.store), { t with store := after }) ∧
      Screened id record (outcomeOf context scope id record s.store) s.store after ∧
      Session.IsSettled { t with store := after } := by
  obtain ⟨t, hload, hst⟩ := exists_contextFor scope given hunbroken
  have ht := hst.isSettled hs
  have hparcel' : t.store.parcels.find? id = some record := by rw [hst.store, hparcel]
  have hnodup : ∀ index, context.prefixes = some index → scope.hasCodes = true →
      (Commodity.classify record.code index).ids.Nodup := by
    intro index hindex hcodes
    rw [(hcurrent.parts hwhole).2 hcodes] at hindex
    exact hwhole.isCurrent.nodup_prefixes record.code index hindex
  obtain ⟨after, hchange, hscreened⟩ := exists_screenParcel context scope hparcel' hmarked hnodup
  rw [hst.store] at hscreened
  have hafter : s.inBlock = false → after.IsSound := by
    intro hblock
    have hsound := (hs hblock).2.2
    exact hscreened.isSound hsound hparcel
      (findsRules_of_isCurrentFor hcurrent hwhole hsound id record)
  have hrun := atomic_execute_of_ok ht (hst.isBroken.trans hunbroken) hchange fun hblock =>
    hafter (hst.inBlock.symm.trans hblock)
  rw [hst.store] at hrun
  refine ⟨t, after, hst, ?_, hscreened, ?_⟩
  · rw [hin] at hload
    rw [screen_of_load id hload, screenWith_eq]
    exact hrun
  · intro hblock
    obtain ⟨hunbroken', hpending, _⟩ := ht hblock
    exact ⟨hunbroken', hpending, hafter (hst.inBlock.symm.trans hblock)⟩

/-- A marked parcel is left alone whatever the scope. -/
theorem screen_of_marked (hcontext : HasCurrent engine scope given s) (hs : s.IsSettled)
    (hunbroken : s.isBroken = false) (hparcel : s.store.parcels.find? id = some record)
    (hmarked : record.isMarked = true) :
    ∃ t, screen scope given id s =
        (.ok ⟨id, record.checkStatus, [], [], [], false, true⟩, t) ∧ s.Recompiles t := by
  obtain ⟨context, hin, _⟩ := hcontext
  obtain ⟨t, hload, hst⟩ := exists_contextFor scope given hunbroken
  have ht := hst.isSettled hs
  have hparcel' : t.store.parcels.find? id = some record := by rw [hst.store, hparcel]
  refine ⟨t, ?_, hst⟩
  rw [hin] at hload
  rw [screen_of_load id hload, screenWith_eq]
  exact atomic_execute_of_ok ht (hst.isBroken.trans hunbroken)
    (screenParcel_of_isMarked context scope hparcel' hmarked) fun hblock => (ht hblock).2.2

/-- The two halves of a screening, one after the other, leave a parcel that is not marked as full
screening does. -/
theorem screen_both (hfirst : HasCurrent engine scope given s)
    (hsecond : HasCurrent engine other given' s) (hwhole : whole.IsCurrentFor engine s.store .full)
    (hall : ∀ kind, scope.renews kind = true ∨ other.renews kind = true) (hs : s.IsSettled)
    (hunbroken : s.isBroken = false) (hparcel : s.store.parcels.find? id = some record)
    (hmarked : record.isMarked = false) :
    ∃ t, (screen scope given id >>= fun _ => screen other given' id) s =
        (.ok (outcomeOf whole .full id record s.store), t) ∧
      Screened id record (outcomeOf whole .full id record s.store) s.store t.store := by
  obtain ⟨context, hin, hcurrent⟩ := hfirst
  obtain ⟨later, hin', hcurrent'⟩ := hsecond
  obtain ⟨t, middle, hst, hrun, hscreened, hsettled⟩ :=
    screen_of_isCurrentFor hin hcurrent hwhole hs hunbroken hparcel hmarked
  have hrules := Store.sameRules_of_sameBut hscreened.same
  have hunmarked : { record with
      checkStatus := (outcomeOf context scope id record s.store).checkStatus }.isMarked = false :=
    not_isMarked_of_isOpen (isOpen_outcomeOf context scope id record s.store)
  have hlater := (contextIn_congr other given' hst hrules).trans hin'
  obtain ⟨u, after, _, hrun', hscreened', _⟩ := screen_of_isCurrentFor hlater
    (hcurrent'.congr hrules) (hwhole.congr hrules) hsettled (hst.isBroken.trans hunbroken)
    hscreened.parcel hunmarked
  dsimp only at hrun' hscreened'
  rw [outcomeOf_second hcurrent (hcurrent'.congr hrules) hwhole hall hscreened] at hrun' hscreened'
  refine ⟨{ u with store := after }, ?_, ?_⟩
  · rw [bind_of_ok hrun]
    exact hrun'
  · exact ⟨hscreened.same.trans hscreened'.same, hscreened'.parcel, hscreened'.links⟩

/-- Two stores in which a parcel has been screened to one outcome have the same verdicts. -/
theorem Screened.sameVerdicts {outcome : Outcome} {before : Store}
    (h : Screened id record outcome before middle) (h' : Screened id record outcome before after) :
    middle.SameVerdicts after := by
  refine ⟨fun parcel => ?_, fun kind parcel => ?_⟩
  · by_cases hid : parcel = id
    · rw [hid, h.parcel, h'.parcel]
    · rw [(Store.spares_of_sameBut h.same hid).record, (Store.spares_of_sameBut h'.same hid).record]
  · by_cases hid : parcel = id
    · rw [hid, h.links, h'.links]
    · rw [(Store.spares_of_sameBut h.same hid).linkedRules,
        (Store.spares_of_sameBut h'.same hid).linkedRules]

/-- Screening a parcel by its words and then by its codes, the other way round, and in full come to
one outcome and leave every parcel with the same check status and linked to the same rules, if all
of them compare it with the rules as they are now. -/
theorem screen_halves {words codes full : Option Context} (hs : s.IsSettled)
    (hunbroken : s.isBroken = false) (hparcel : s.store.parcels.find? id = some record)
    (hwords : HasCurrent engine .words words s) (hcodes : HasCurrent engine .codes codes s)
    (hfull : HasCurrent engine .full full s) :
    ∃ outcome a b u,
      (screen .words words id >>= fun _ => screen .codes codes id) s = (.ok outcome, a) ∧
      (screen .codes codes id >>= fun _ => screen .words words id) s = (.ok outcome, b) ∧
      screen .full full id s = (.ok outcome, u) ∧
      u.store.SameVerdicts a.store ∧ u.store.SameVerdicts b.store := by
  cases hmarked : record.isMarked with
  | true =>
    -- Every call leaves the store as it is, so that the parcel is still marked for the second one.
    have htwice : ∀ {scope other : Scope} {given given' : Option Context},
        HasCurrent engine scope given s → HasCurrent engine other given' s →
        ∃ t, (screen scope given id >>= fun _ => screen other given' id) s =
          (.ok ⟨id, record.checkStatus, [], [], [], false, true⟩, t) ∧ t.store = s.store := by
      intro scope other given given' hfirst hsecond
      obtain ⟨t, hrun, hst⟩ := screen_of_marked hfirst hs hunbroken hparcel hmarked
      obtain ⟨later, hin, hcurrent⟩ := hsecond
      have hin' := contextIn_congr other given' hst (refl_of Store.SameRules s.store)
      rw [← hst.store] at hin' hcurrent
      have hparcel' : t.store.parcels.find? id = some record := by rw [hst.store, hparcel]
      obtain ⟨u, hrun', htu⟩ := screen_of_marked ⟨later, hin'.trans hin, hcurrent⟩ (hst.isSettled hs)
        (hst.isBroken.trans hunbroken) hparcel' hmarked
      refine ⟨u, ?_, htu.store.trans hst.store⟩
      rw [bind_of_ok hrun]
      exact hrun'
    obtain ⟨a, hab, ha⟩ := htwice hwords hcodes
    obtain ⟨b, hba, hb⟩ := htwice hcodes hwords
    obtain ⟨u, hu, hsu⟩ := screen_of_marked hfull hs hunbroken hparcel hmarked
    refine ⟨_, a, b, u, hab, hba, hu, ?_, ?_⟩
    · rw [ha, hsu.store]
      exact refl_of Store.SameVerdicts s.store
    · rw [hb, hsu.store]
      exact refl_of Store.SameVerdicts s.store
  | false =>
    obtain ⟨whole, hin, hwhole⟩ := hfull
    obtain ⟨u, after, _, hu, hscreened, _⟩ :=
      screen_of_isCurrentFor hin hwhole hwhole hs hunbroken hparcel hmarked
    obtain ⟨a, hab, ha⟩ := screen_both hwords hcodes hwhole
      (fun kind => by cases kind <;> decide) hs hunbroken hparcel hmarked
    obtain ⟨b, hba, hb⟩ := screen_both hcodes hwords hwhole
      (fun kind => by cases kind <;> decide) hs hunbroken hparcel hmarked
    exact ⟨_, a, b, _, hab, hba, hu, hscreened.sameVerdicts ha, hscreened.sameVerdicts hb⟩

/-- A session like `crateSession` whose parcel has no stop word in its texts any more, but is still
linked to one, and to the other code prefix. -/
def penSession : Session :=
  { crateSession with
    store := { crateSession.store with
      parcels := Table.empty.insert { crateParcel with
        product := some "box"
        checkStatus := CheckStatus.blockedByBoth.number }
      stopWordLinks := Table.empty.insert ⟨1, 1⟩ } }

theorem hasCurrent_penSession (scope : Scope) : HasCurrent .null scope none penSession := by
  let words : WordContext := ⟨Word.compile (penSession.store.rules .stopWords),
    Word.compile (penSession.store.rules .keyWords), .null⟩
  let rules : List Commodity.PrefixRule :=
    [⟨1, "2222", 2222000000, 0, []⟩, ⟨2, "9306", 9306000000, 0, []⟩]
  cases scope with
  | full =>
    exact ⟨⟨some words, some (.ofList rules)⟩, rfl, fun _ => rfl, fun _ => ⟨rules, rfl, rfl⟩⟩
  | words => exact ⟨⟨some words, none⟩, rfl, fun _ => rfl, nofun⟩
  | codes => exact ⟨⟨none, some (.ofList rules)⟩, rfl, nofun, fun _ => ⟨rules, rfl, rfl⟩⟩

/-- The codes may be screened while an outdated link to a stop word is there: all three ways take
the outdated links away, link the parcel to its keyword and its code prefix, and set the check
status that follows. -/
theorem screen_halves_penSession : penSession.IsSettled ∧
    penSession.store.linkedRules .stopWord 1 = [1] ∧
    penSession.store.linkedRules .codePrefix 1 = [2] ∧
    ∃ outcome a b u,
      (screen .words none 1 >>= fun _ => screen .codes none 1) penSession = (.ok outcome, a) ∧
      (screen .codes none 1 >>= fun _ => screen .words none 1) penSession = (.ok outcome, b) ∧
      screen .full none 1 penSession = (.ok outcome, u) ∧
      outcome = ⟨1, CheckStatus.blockedByPrefix.number, [], [1], [1], false, false⟩ ∧
      ∀ after ∈ [a, b, u], after.store.linkedRules .stopWord 1 = [] ∧
        after.store.linkedRules .keyWord 1 = [1] ∧ after.store.linkedRules .codePrefix 1 = [1] ∧
        (after.store.parcels.find? 1).map (·.checkStatus) =
          some CheckStatus.blockedByPrefix.number := by
  have hsound : penSession.store.IsSound := by
    refine ⟨by decide, by decide, by decide, by decide, by decide, ?_⟩
    intro kind row hrow
    cases kind with
    | stopWord | codePrefix =>
      obtain rfl := List.mem_singleton.1 hrow
      exact ⟨by decide, by decide⟩
    | keyWord => cases hrow
  have hs : penSession.IsSettled := fun _ => ⟨rfl, rfl, hsound⟩
  obtain ⟨record, hparcel⟩ : ∃ record, penSession.store.parcels.find? 1 = some record := ⟨_, rfl⟩
  obtain ⟨outcome, a, b, u, hab, hba, hu, hsame, hsame'⟩ := screen_halves hs rfl hparcel
    (hasCurrent_penSession .words) (hasCurrent_penSession .codes) (hasCurrent_penSession .full)
  have houtcome : (screen .full none 1 penSession).1 =
      .ok ⟨1, CheckStatus.blockedByPrefix.number, [], [1], [1], false, false⟩ := by
    decide +kernel
  have hlinks : ∀ kind, (screen .full none 1 penSession).2.store.linkedRules kind 1 =
      (match kind with | .stopWord => [] | .keyWord | .codePrefix => [1]) := by
    intro kind
    cases kind <;> decide +kernel
  have hstatus : ((screen .full none 1 penSession).2.store.parcels.find? 1).map (·.checkStatus) =
      some CheckStatus.blockedByPrefix.number := by
    decide +kernel
  rw [hu] at houtcome hlinks hstatus
  refine ⟨hs, by decide, by decide, outcome, a, b, u, hab, hba, hu, Except.ok.inj houtcome, ?_⟩
  have hall : ∀ after : Session, u.store.SameVerdicts after.store →
      after.store.linkedRules .stopWord 1 = [] ∧ after.store.linkedRules .keyWord 1 = [1] ∧
        after.store.linkedRules .codePrefix 1 = [1] ∧
        (after.store.parcels.find? 1).map (·.checkStatus) =
          some CheckStatus.blockedByPrefix.number := by
    intro after hverdicts
    rw [hverdicts.rules, hverdicts.rules, hverdicts.rules, hverdicts.record]
    exact ⟨hlinks .stopWord, hlinks .keyWord, hlinks .codePrefix, hstatus⟩
  intro after hafter
  simp only [List.mem_cons, List.not_mem_nil, or_false] at hafter
  obtain rfl | rfl | rfl := hafter
  · exact hall after hsame
  · exact hall after hsame'
  · exact hall after (refl_of Store.SameVerdicts after.store)

end Screening

end Clearance

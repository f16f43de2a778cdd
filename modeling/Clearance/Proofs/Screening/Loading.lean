import Clearance.Proofs.Session.Settled

/-!
# What loading and screening keep

Loading a context only reads the store. Screening a parcel changes no more of it than the parcel's
check status and links, if it goes through, and nothing otherwise. Outside a block it goes through
unless the context is outdated and a rule that it finds exists no more.
-/

set_option autoImplicit false

namespace Clearance

open Proc

variable {rel : Store → Store → Prop} [IsPreorder Store rel] {s : Session}

theorem keepsAt_readGeneration (vocabulary : Word.Vocabulary) :
    KeepsAt rel s (readGeneration vocabulary) := by
  unfold readGeneration
  exact keepsAt_bind (keepsAt_alter rfl) fun _ t _ => keepsAt_of_store_eq rfl

theorem keepsAt_compileNow (vocabulary : Word.Vocabulary) :
    KeepsAt rel s (compileNow vocabulary) := by
  unfold compileNow
  refine keepsAt_bind (keepsAt_query _) fun rules t _ => keepsAt_ask_bind ?_
  exact keepsAt_bind (keepsAt_alter rfl) fun _ t _ => keepsAt_pure _

theorem keepsAt_compiled (vocabulary : Word.Vocabulary) :
    KeepsAt rel s (compiled vocabulary) := by
  unfold compiled
  refine keepsAt_bind (keepsAt_readGeneration vocabulary) fun generation t _ =>
    keepsAt_ask_bind ?_
  split
  · exact keepsAt_pure _
  · refine keepsAt_bind (keepsAt_compileNow vocabulary) fun fresh t _ =>
      keepsAt_bind (keepsAt_alter ?_) fun _ t _ => keepsAt_pure _
    split <;> rfl

namespace Screening

theorem keepsAt_loadWords : KeepsAt rel s loadWords := by
  unfold loadWords
  refine keepsAt_bind (keepsAt_compiled _) fun stopWords t _ =>
    keepsAt_bind (keepsAt_compiled _) fun keyWords t _ => keepsAt_ask_bind ?_
  split
  · exact keepsAt_pure _
  · exact keepsAt_fail _

/-- Loading a context leaves the store as it is. -/
theorem keepsAt_loadContext (words codes : Bool) : KeepsAt rel s (loadContext words codes) := by
  have hcodes : ∀ (t : Session) (wordContext : Option WordContext), KeepsAt rel t
      (loadCodes >>= fun prefixes => pure (⟨wordContext, some prefixes⟩ : Context)) :=
    fun t wordContext => keepsAt_bind (keepsAt_query _) fun _ _ _ => keepsAt_pure _
  unfold loadContext
  cases words with
  | false =>
    cases codes with
    | false => exact keepsAt_pure _
    | true => exact hcodes s none
  | true =>
    refine keepsAt_bind keepsAt_loadWords fun wordContext t _ => ?_
    cases codes with
    | false => exact keepsAt_pure _
    | true => exact hcodes t (some wordContext)

/-! ## Screening -/

/-- Screening a parcel in a session keeps what screening it in the store keeps. -/
theorem keepsAt_screenWith {context : Context} {scope : Scope} {id : Int}
    (h : ∀ change, screenParcel context scope id s.store = .ok change → rel s.store change.store) :
    KeepsAt rel s (screenWith context scope id) := by
  rw [screenWith_eq]
  exact keepsAt_atomicIf (keepsAt_execute h)

/-- A screening at which errors may strike keeps what it keeps where none does. -/
theorem keepsAt_struck (strikes : Strikes) {context : Context} {scope : Scope} {id : Int}
    (h : KeepsAt rel s (screenWith context scope id)) :
    KeepsAt rel s (strikes.screenWith context scope id) := by
  rcases strikes.screenWith_cases context scope id s with hsame | ⟨_, _, _, hrun⟩
  · unfold KeepsAt
    rwa [hsame]
  · exact keepsAt_of_store_eq (congrArg (fun run => run.2.store) hrun)

variable {context : Context} {scope : Scope} {id : Int}

/-- Once there is a context the parcel is screened with it. -/
theorem Strikes.screen_of_load {given : Option Context} {t : Session} (strikes : Strikes) (id : Int)
    (hload : contextFor scope given s = (.ok context, t)) :
    strikes.screen scope given id s = strikes.screenWith context scope id t := bind_of_ok hload

theorem screen_of_load {given : Option Context} {t : Session} (id : Int)
    (hload : contextFor scope given s = (.ok context, t)) :
    screen scope given id s = screenWith context scope id t := Strikes.screen_of_load .calm id hload

/-- What screening a parcel comes to is what it comes to in the store there was. -/
theorem screenWith_ok {outcome : Outcome} {t : Session}
    (h : screenWith context scope id s = (.ok outcome, t)) :
    ∃ change, screenParcel context scope id s.store = .ok change ∧ t.store = change.store ∧
      change.result = outcome := by
  rw [screenWith_eq] at h
  obtain ⟨u, hbody, hstore⟩ := atomic_ok h
  obtain ⟨change, hchange, hchanged, hwhole, hresult⟩ := execute_ok hbody
  exact ⟨change, hchange, (hstore hwhole).trans hchanged, hresult⟩

/-- Nothing is screened while a broken block is open. -/
theorem screenWith_of_isBroken (context : Context) (scope : Scope) (id : Int)
    (hbroken : s.isBroken = true) : ∃ fault, (screenWith context scope id s).1 = .error fault := by
  cases hrun : screenWith context scope id s with
  | mk result t =>
    cases result with
    | error fault => exact ⟨fault, rfl⟩
    | ok outcome =>
      rw [screenWith_eq] at hrun
      obtain ⟨u, hbody, _⟩ := atomic_ok hrun
      unfold execute at hbody
      rw [if_pos hbroken] at hbody
      cases hbody

section

variable {record : Parcel} (hs : s.IsSettled) (hblock : s.inBlock = false)
  (hparcel : s.store.parcels.find? id = some record) (hmarked : record.isMarked = false)
  (hprefixes : ∀ index, context.prefixes = some index → scope.hasCodes = true →
    (Commodity.classify record.code index).ids.Nodup)

include hs hblock hparcel hmarked hprefixes

/-- Outside a block a parcel that is not marked is screened if all rules that the context finds
exist. -/
theorem screenWith_of_hasRule
    (hrules : ∀ kind, ∀ rule ∈ (outcomeOf context scope id record s.store).rules kind,
      s.store.hasRule kind rule = true) :
    ∃ after, screenWith context scope id s =
        (.ok (outcomeOf context scope id record s.store), { s with store := after }) ∧
      Screened id record (outcomeOf context scope id record s.store) s.store after ∧
      after.IsSound := by
  obtain ⟨hwhole, _, hsound⟩ := hs hblock
  obtain ⟨after, hchange, hscreened⟩ := exists_screenParcel context scope hparcel hmarked hprefixes
  have hafter := hscreened.isSound hsound hparcel hrules
  refine ⟨after, ?_, hscreened, hafter⟩
  rw [screenWith_eq]
  exact atomic_execute_of_ok hs hwhole hchange fun _ => hafter

/-- Outside a block the screening of a parcel that is not marked fails just if the context finds a
rule that exists no more. -/
theorem screenWith_fails_iff :
    (∃ fault, (screenWith context scope id s).1 = .error fault) ↔
      ∃ kind, ∃ rule ∈ (outcomeOf context scope id record s.store).rules kind,
        s.store.hasRule kind rule = false := by
  constructor
  · rintro ⟨fault, hfails⟩
    by_contra hnone
    have hrules : ∀ kind, ∀ rule ∈ (outcomeOf context scope id record s.store).rules kind,
        s.store.hasRule kind rule = true := by
      intro kind rule hrule
      by_contra hmissing
      exact hnone ⟨kind, rule, hrule, Bool.eq_false_iff.2 hmissing⟩
    obtain ⟨after, hrun, _⟩ := screenWith_of_hasRule hs hblock hparcel hmarked hprefixes hrules
    rw [hrun] at hfails
    cases hfails
  · rintro ⟨kind, rule, hrule, hmissing⟩
    obtain ⟨after, hchange, hscreened⟩ :=
      exists_screenParcel context scope hparcel hmarked hprefixes
    cases hrun : screenWith context scope id s with
    | mk result t =>
      cases result with
      | error fault => exact ⟨fault, rfl⟩
      | ok outcome =>
        obtain ⟨change, hsame, hstore, _⟩ := screenWith_ok hrun
        rw [hchange] at hsame
        cases hsame
        have ht := staysSettled_isCourse.screenWith context scope id s
        unfold FollowsAt at ht
        rw [hrun] at ht
        have hafter : after.IsSound := by
          rw [← show t.store = after from hstore]
          exact (ht.isSettled hs (ht.inBlock.trans hblock)).2.2
        -- The parcel would be linked to the missing rule in a sound store.
        rw [← hscreened.links kind] at hrule
        obtain ⟨row, hrow, rfl⟩ := List.mem_map.1 hrule
        have hexists := (hafter.links kind row (List.mem_filter.1 hrow).1).2
        rw [hscreened.same.hasRule, hmissing] at hexists
        cases hexists

end

end Screening

end Clearance

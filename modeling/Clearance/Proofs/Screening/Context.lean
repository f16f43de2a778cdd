import Clearance.Proofs.Commodity.Classification
import Clearance.Proofs.Session.Compilation

/-!
# What a context is loaded from

A session determines the context that is loaded in it: what the vocabularies are compiled to, the
engine of the backend and the code prefixes in use. Loading changes none of these, so a context that
is loaded again is the same one.
-/

set_option autoImplicit false

namespace Clearance

open Proc

namespace Screening

/-- The words that a session has for a context. -/
def wordsOf (s : Session) : Except Fault WordContext :=
  match s.backend.load with
  | .ok engine => .ok ⟨s.matcherOf .stopWords, s.matcherOf .keyWords, engine⟩
  | .error reason => .error (.noEngine reason)

/-- The code prefixes that a store has for a context. -/
def codesOf (store : Store) : Except Fault Commodity.PrefixIndex :=
  match store.prefixRules with
  | .ok rules => .ok (.ofList rules)
  | .error fault => .error (.unreadableNumber fault)

/-- A part of a context, if it is asked for. -/
def partOf {α : Type} (asked : Bool) (part : Except Fault α) : Except Fault (Option α) :=
  if asked then some <$> part else pure none

/-- The context that a session determines. -/
def contextOf (words codes : Bool) (s : Session) : Except Fault Context := do
  let wordContext ← partOf words (wordsOf s)
  let prefixes ← partOf codes (codesOf s.store)
  pure ⟨wordContext, prefixes⟩

theorem exists_loadWords {s : Session} (hwhole : s.isBroken = false) :
    ∃ t, loadWords s = (wordsOf s, t) ∧ s.Recompiles t ∧ ∀ vocabulary, t.HasCounter vocabulary := by
  obtain ⟨stopWords, t, hstop, hstopMatcher, hst, hstopCounter⟩ := exists_compiled hwhole .stopWords
  obtain ⟨keyWords, u, hkey, hkeyMatcher, htu, hkeyCounter⟩ :=
    exists_compiled (hst.isBroken.trans hwhole) .keyWords
  have hsu := hst.trans htu
  refine ⟨u, ?_, hsu, fun vocabulary => ?_⟩
  · unfold loadWords wordsOf
    rw [bind_of_ok hstop, bind_of_ok hkey, bind_apply]
    dsimp only [ask_apply]
    rw [hsu.backend, hstopMatcher, hkeyMatcher, hst.matchers]
    cases s.backend.load <;> rfl
  · cases vocabulary with
    | stopWords => exact htu.counters _ hstopCounter
    | keyWords => exact hkeyCounter

/-- A context is loaded as the session determines it, and loading it changes nothing that has a part
in it. -/
theorem exists_loadContext (words codes : Bool) {s : Session} (hwhole : s.isBroken = false) :
    ∃ t, loadContext words codes s = (contextOf words codes s, t) ∧ s.Recompiles t ∧
      (words = true → ∀ vocabulary, t.HasCounter vocabulary) := by
  have hcodes : ∀ t : Session, s.Recompiles t → loadCodes t = (codesOf s.store, t) := by
    intro t hst
    have hquery := query_of_whole (fun store => match store.prefixRules with
      | .ok rules => .ok (Commodity.PrefixIndex.ofList rules)
      | .error fault => .error (.unreadableNumber fault)) (hst.isBroken.trans hwhole)
    rw [hst.store] at hquery
    exact hquery
  unfold loadContext contextOf
  cases words with
  | false =>
    refine ⟨s, ?_, .refl s, nofun⟩
    cases codes with
    | false => rfl
    | true =>
      change (loadCodes >>= fun prefixes => pure (⟨none, some prefixes⟩ : Context)) s = _
      rw [bind_apply, hcodes s (.refl s)]
      cases codesOf s.store <;> rfl
  | true =>
    obtain ⟨t, hwords, hst, hcounters⟩ := exists_loadWords hwhole
    refine ⟨t, ?_, hst, fun _ => hcounters⟩
    cases codes with
    | false =>
      change (loadWords >>= fun words => pure (⟨some words, none⟩ : Context)) s = _
      rw [bind_apply, hwords]
      cases wordsOf s <;> rfl
    | true =>
      change (loadWords >>= fun words => loadCodes >>= fun prefixes =>
        pure (⟨some words, some prefixes⟩ : Context)) s = _
      rw [bind_apply, hwords]
      cases wordsOf s with
      | error fault => rfl
      | ok words =>
        dsimp only
        rw [bind_apply, hcodes t hst]
        cases codesOf s.store <;> rfl

theorem contextOf_of_load {words codes : Bool} {s t : Session} {context : Context}
    (h : loadContext words codes s = (.ok context, t)) (hwhole : s.isBroken = false) :
    contextOf words codes s = .ok context := by
  obtain ⟨u, hload, _⟩ := exists_loadContext words codes hwhole
  rw [hload] at h
  exact congrArg Prod.fst h

theorem contextOf_congr {words codes : Bool} {s t : Session}
    (hmatchers : words = true → ∀ vocabulary, t.matcherOf vocabulary = s.matcherOf vocabulary)
    (hbackend : t.backend = s.backend) (hprefixes : t.store.prefixRules = s.store.prefixRules) :
    contextOf words codes t = contextOf words codes s := by
  have hcodes : codesOf t.store = codesOf s.store := by
    unfold codesOf
    rw [hprefixes]
  unfold contextOf
  rw [hcodes]
  cases words with
  | false => rfl
  | true =>
    have hwords : wordsOf t = wordsOf s := by
      unfold wordsOf
      rw [hbackend, hmatchers rfl, hmatchers rfl]
    rw [hwords]

/-- A context that is loaded finds no code prefix twice. -/
theorem nodup_of_contextOf {words codes : Bool} {s : Session} {context : Context}
    (h : contextOf words codes s = .ok context) {index : Commodity.PrefixIndex}
    (hindex : context.prefixes = some index) (code : Option String) :
    (Commodity.classify code index).ids.Nodup := by
  unfold contextOf at h
  obtain ⟨wordContext, _, hrest⟩ := Store.exists_of_bind h
  obtain ⟨prefixes, hprefixes, hcontext⟩ := Store.exists_of_bind hrest
  cases hcontext
  cases (show prefixes = some index from hindex)
  cases codes with
  | false => cases hprefixes
  | true =>
    unfold partOf codesOf at hprefixes
    cases hrules : s.store.prefixRules with
    | error fault =>
      rw [hrules] at hprefixes
      cases hprefixes
    | ok rules =>
      rw [hrules] at hprefixes
      cases hprefixes
      exact Store.nodup_ids_classify hrules code

end Screening

end Clearance

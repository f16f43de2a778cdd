import Clearance.Proofs.Session.Settled

/-!
# What compiling keeps

A session determines what a vocabulary is compiled to: the matcher that was kept for the present
generation, or else the one of the rules as they are stored. Compiling a vocabulary reads its
generation and may keep what it comes to, and neither changes what any vocabulary is compiled to.
-/

set_option autoImplicit false

namespace Clearance

open Proc

namespace Session

/-- The matcher that compiling a vocabulary comes to. -/
def matcherOf (s : Session) (vocabulary : Word.Vocabulary) : Word.Matcher :=
  match kept? vocabulary (s.generation vocabulary) s with
  | some compiled => compiled.matcher
  | none => Word.compile (s.store.rules vocabulary)

/-- Whether a vocabulary is kept for its present generation, so that it is not compiled anew. -/
def HasKept (s : Session) (vocabulary : Word.Vocabulary) : Prop :=
  (kept? vocabulary (s.generation vocabulary) s).isSome = true

/-- Whether the counter of a vocabulary is there. -/
def HasCounter (s : Session) (vocabulary : Word.Vocabulary) : Prop :=
  (s.generations.get vocabulary).isSome = true

/-- A session after vocabularies have been compiled, which has changed no matcher. -/
structure Recompiles (s t : Session) : Prop where
  store : t.store = s.store
  inBlock : t.inBlock = s.inBlock
  isBroken : t.isBroken = s.isBroken
  pending : t.pending = s.pending
  clock : t.clock = s.clock
  backend : t.backend = s.backend
  matchers : ∀ vocabulary, t.matcherOf vocabulary = s.matcherOf vocabulary
  counters : ∀ vocabulary, s.HasCounter vocabulary → t.HasCounter vocabulary

variable {s t u : Session}

theorem Recompiles.refl (s : Session) : Recompiles s s :=
  ⟨rfl, rfl, rfl, rfl, rfl, rfl, fun _ => rfl, fun _ h => h⟩

theorem Recompiles.trans (hst : Recompiles s t) (htu : Recompiles t u) : Recompiles s u where
  store := htu.store.trans hst.store
  inBlock := htu.inBlock.trans hst.inBlock
  isBroken := htu.isBroken.trans hst.isBroken
  pending := htu.pending.trans hst.pending
  clock := htu.clock.trans hst.clock
  backend := htu.backend.trans hst.backend
  matchers := fun vocabulary => (htu.matchers vocabulary).trans (hst.matchers vocabulary)
  counters := fun vocabulary h => htu.counters vocabulary (hst.counters vocabulary h)

theorem Recompiles.isSettled (h : Recompiles s t) (hs : s.IsSettled) : t.IsSettled := by
  intro hblock
  rw [h.isBroken, h.pending, h.store]
  exact hs (h.inBlock.symm.trans hblock)

theorem matcherOf_of_kept {vocabulary : Word.Vocabulary} {compiled : Compiled}
    (h : kept? vocabulary (s.generation vocabulary) s = some compiled) :
    s.matcherOf vocabulary = compiled.matcher := by
  unfold matcherOf
  rw [h]

theorem matcherOf_of_none {vocabulary : Word.Vocabulary}
    (h : kept? vocabulary (s.generation vocabulary) s = none) :
    s.matcherOf vocabulary = Word.compile (s.store.rules vocabulary) := by
  unfold matcherOf
  rw [h]

theorem matcherOf_of_not_hasKept {vocabulary : Word.Vocabulary} (h : ¬ s.HasKept vocabulary) :
    s.matcherOf vocabulary = Word.compile (s.store.rules vocabulary) :=
  matcherOf_of_none (Option.not_isSome_iff_eq_none.1 h)

theorem matcherOf_congr {vocabulary : Word.Vocabulary}
    (hcompiled : t.compiled.get vocabulary = s.compiled.get vocabulary)
    (hgeneration : t.generation vocabulary = s.generation vocabulary)
    (hrules : t.store.rules vocabulary = s.store.rules vocabulary) :
    t.matcherOf vocabulary = s.matcherOf vocabulary := by
  unfold matcherOf kept?
  rw [hcompiled, hgeneration, hrules]

/-- Whether the vocabularies that a session keeps are of no later generations than the present ones,
and compiled from the rules of a store if they are of the present ones. -/
def IsUpToDate (s : Session) (store : Store) : Prop :=
  ∀ vocabulary generation compiled, s.compiled.get vocabulary = some (generation, compiled) →
    generation ≤ s.generation vocabulary ∧
      (generation = s.generation vocabulary →
        compiled.matcher = Word.compile (store.rules vocabulary))

/-- A vocabulary that is kept for its present generation is compiled to the rules of every store for
which it is up to date. -/
theorem IsUpToDate.matcherOf_of_hasKept {store : Store} (h : s.IsUpToDate store)
    {vocabulary : Word.Vocabulary} (hkept : s.HasKept vocabulary) :
    s.matcherOf vocabulary = Word.compile (store.rules vocabulary) := by
  obtain ⟨compiled, hcompiled⟩ := Option.isSome_iff_exists.1 hkept
  rw [matcherOf_of_kept hcompiled]
  unfold kept? at hcompiled
  split at hcompiled
  · next own found hfound =>
    have hdate := (h vocabulary own found hfound).2
    split at hcompiled
    · next howns =>
      cases hcompiled
      rw [beq_iff_eq] at howns
      exact hdate howns
    · cases hcompiled
  · cases hcompiled

/-- A vocabulary is compiled to its rules as they are stored, if what is kept is up to date. -/
theorem IsUpToDate.matcherOf (h : s.IsUpToDate s.store) (vocabulary : Word.Vocabulary) :
    s.matcherOf vocabulary = Word.compile (s.store.rules vocabulary) := by
  by_cases hkept : s.HasKept vocabulary
  · exact h.matcherOf_of_hasKept hkept
  · exact matcherOf_of_not_hasKept hkept

/-- A kept vocabulary is used again while its counter is there, also when time has passed. -/
theorem matcherOf_of_counter {vocabulary : Word.Vocabulary} (hcounter : s.HasCounter vocabulary)
    (hcompiled : t.compiled = s.compiled) (hgenerations : t.generations = s.generations)
    (hrules : t.store.rules vocabulary = s.store.rules vocabulary) :
    t.matcherOf vocabulary = s.matcherOf vocabulary := by
  obtain ⟨now, hnow⟩ := Option.isSome_iff_exists.1 hcounter
  refine matcherOf_congr (by rw [hcompiled]) ?_ hrules
  unfold generation
  rw [hgenerations, hnow, Option.getD_some, Option.getD_some]

/-- A generation that is read stays as it is. -/
theorem generation_withGeneration (s : Session) (vocabulary other : Word.Vocabulary) :
    (s.withGeneration vocabulary).generation other = s.generation other := by
  by_cases hother : other = vocabulary
  · subst hother
    unfold withGeneration setGeneration generation
    dsimp only
    rw [Word.PerVocabulary.get_set_same, Option.getD_some]
  · unfold withGeneration setGeneration generation
    dsimp only
    rw [Word.PerVocabulary.get_set_of_ne _ _ hother]
    rfl

theorem recompiles_withGeneration (s : Session) (vocabulary : Word.Vocabulary) :
    Recompiles s (s.withGeneration vocabulary) := by
  refine ⟨rfl, rfl, rfl, rfl, rfl, rfl, fun other => ?_, fun other hother => ?_⟩
  · exact matcherOf_congr rfl (generation_withGeneration s vocabulary other) rfl
  · by_cases hsame : other = vocabulary
    · subst hsame
      simp [HasCounter, withGeneration, setGeneration]
    · unfold HasCounter withGeneration setGeneration
      rwa [Word.PerVocabulary.get_set_of_ne _ _ hsame]

/-- Keeping what has just been compiled for want of anything kept changes no matcher. -/
theorem recompiles_keeping {vocabulary : Word.Vocabulary} (serial count : Nat)
    (hnone : kept? vocabulary (s.generation vocabulary) s = none) :
    Recompiles s (keeping vocabulary (s.generation vocabulary)
      ⟨serial, Word.compile (s.store.rules vocabulary)⟩ { s with compilations := count }) := by
  unfold keeping
  by_cases hblock : s.inBlock = true
  · rw [if_pos hblock]
    exact ⟨rfl, rfl, rfl, rfl, rfl, rfl, fun _ => matcherOf_congr rfl rfl rfl, fun _ h => h⟩
  · rw [if_neg hblock]
    refine ⟨rfl, rfl, rfl, rfl, rfl, rfl, fun other => ?_, fun _ h => h⟩
    by_cases hother : other = vocabulary
    · subst hother
      rw [matcherOf_of_none hnone]
      have hkept : ∀ compiled : Compiled, kept? other (s.generation other)
          { s with compiled := s.compiled.set other (some (s.generation other, compiled)) } =
            some compiled := by
        intro compiled
        unfold kept?
        dsimp only
        rw [Word.PerVocabulary.get_set_same]
        exact if_pos (beq_self_eq_true (s.generation other))
      exact matcherOf_of_kept (hkept ⟨serial, Word.compile (s.store.rules other)⟩)
    · exact matcherOf_congr (Word.PerVocabulary.get_set_of_ne _ _ hother) rfl rfl

end Session

theorem exists_compiled {s : Session} (hwhole : s.isBroken = false)
    (vocabulary : Word.Vocabulary) : ∃ compiled t, Proc.compiled vocabulary s = (.ok compiled, t) ∧
      compiled.matcher = s.matcherOf vocabulary ∧ s.Recompiles t ∧ t.HasCounter vocabulary := by
  have hread := s.recompiles_withGeneration vocabulary
  have hcounter : (s.withGeneration vocabulary).HasCounter vocabulary := by
    simp [Session.HasCounter, Session.withGeneration, Session.setGeneration]
  rw [compiled_apply]
  dsimp only
  generalize s.withGeneration vocabulary = t at hread hcounter
  have hmatcher := hread.matchers vocabulary
  cases hkept : kept? vocabulary (t.generation vocabulary) t with
  | some compiled =>
    exact ⟨compiled, t, rfl, (Session.matcherOf_of_kept hkept).symm.trans hmatcher, hread, hcounter⟩
  | none =>
    have hkeep := Session.recompiles_keeping t.compilations (t.compilations + 1) hkept
    have hnow := compileNow_of_whole vocabulary (s := t) (hread.isBroken.trans hwhole)
    dsimp only
    rw [hnow]
    exact ⟨_, _, rfl, (Session.matcherOf_of_none hkept).symm.trans hmatcher, hread.trans hkeep,
      hkeep.counters vocabulary hcounter⟩

end Clearance

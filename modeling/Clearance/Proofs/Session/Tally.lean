import Clearance.Proofs.Session.Compilation
import Clearance.Proofs.Store.Rows
import Clearance.Service.Operation

/-!
# Counters tally rows

The counter of a vocabulary moves by one for each row of its rules that is saved or deleted, as soon
as that is final. While a block is open the rows are pending instead, and the counter stands still.
-/

set_option autoImplicit false

namespace Clearance

open Proc

namespace Session

/-- What becomes of a session when some rows of the rules of a vocabulary are saved or deleted.
Outside a block the counter moves by as many. While a block is open the counter stands still, and
the vocabulary is pending as many times more. -/
structure Tallies (vocabulary : Word.Vocabulary) (count : Nat) (s t : Session) : Prop where
  inBlock : t.inBlock = s.inBlock
  inside : s.inBlock = true →
    (∀ now, s.generations.get vocabulary = some now → t.generations.get vocabulary = some now) ∧
    ∃ more, t.pending = s.pending ++ more ∧ more.count vocabulary = count
  outside : s.inBlock = false → s.pending = [] → t.pending = [] ∧
    ∀ now, s.generations.get vocabulary = some now →
      t.generations.get vocabulary = some (now + count)

variable {vocabulary : Word.Vocabulary} {s t u : Session}

/-- What is done one after the other is counted together. -/
theorem Tallies.trans {count more : Nat} (hst : Tallies vocabulary count s t)
    (htu : Tallies vocabulary more t u) : Tallies vocabulary (count + more) s u := by
  refine ⟨htu.inBlock.trans hst.inBlock, fun hblock => ?_, fun hblock hpending => ?_⟩
  · obtain ⟨hstill, first, hfirst, hcount⟩ := hst.inside hblock
    obtain ⟨hstill', second, hsecond, hcount'⟩ := htu.inside (hst.inBlock.trans hblock)
    refine ⟨fun now hnow => hstill' now (hstill now hnow), first ++ second, ?_, ?_⟩
    · rw [hsecond, hfirst, List.append_assoc]
    · rw [List.count_append, hcount, hcount']
  · obtain ⟨hnone, hmoves⟩ := hst.outside hblock hpending
    obtain ⟨hnone', hmoves'⟩ := htu.outside (hst.inBlock.trans hblock) hnone
    refine ⟨hnone', fun now hnow => ?_⟩
    rw [hmoves' _ (hmoves now hnow), Int.natCast_add, Int.add_assoc]

/-- Nothing is counted where the counter stays and nothing is pending more than before. -/
theorem tallies_zero (hblock : t.inBlock = s.inBlock) (hpending : t.pending = s.pending)
    (hcounter : ∀ now, s.generations.get vocabulary = some now →
      t.generations.get vocabulary = some now) : Tallies vocabulary 0 s t := by
  refine ⟨hblock, fun _ => ⟨hcounter, [], ?_, rfl⟩, fun _ hnone => ⟨?_, fun now hnow => ?_⟩⟩
  · rw [hpending, List.append_nil]
  · rw [hpending, hnone]
  · rw [hcounter now hnow]
    simp

/-- A counter that is read stays as it is. -/
theorem counter_withGeneration {now : Int} (other : Word.Vocabulary)
    (h : s.generations.get vocabulary = some now) :
    (s.withGeneration other).generations.get vocabulary = some now := by
  unfold withGeneration setGeneration
  by_cases hsame : vocabulary = other
  · subst hsame
    simp [generation, h]
  · rw [Word.PerVocabulary.get_set_of_ne _ _ hsame]
    exact h

end Session

open Session (Tallies tallies_zero)

variable {α : Type} {vocabulary : Word.Vocabulary} {s : Session}

/-! ## Statements -/

/-- A statement that is refused counts nothing, and one that goes through as many rows as it touches
its vocabulary. -/
theorem tallies_execute (vocabulary : Word.Vocabulary)
    (change : Store → Except Fault (Change α)) (s : Session) :
    (execute change s).1.isOk = false ∧ (execute change s).2.store = s.store ∧
      Tallies vocabulary 0 s (execute change s).2 ∨
    ∃ outcome, change s.store = .ok outcome ∧ (execute change s).1.isOk = true ∧
      (execute change s).2.store = outcome.store ∧
      Tallies vocabulary (outcome.touched.count vocabulary) s (execute change s).2 := by
  rcases execute_cases change s with ⟨fault, isBroken, hrun, _⟩ |
    ⟨outcome, _, hchange, ⟨hblock, hrun⟩ | ⟨hblock, _, hrun⟩⟩
  · rw [hrun]
    exact .inl ⟨rfl, rfl, tallies_zero rfl rfl fun _ hnow => hnow⟩
  · rw [hrun]
    refine .inr ⟨outcome, hchange, rfl, rfl, rfl, fun _ => ⟨fun _ hnow => hnow, _, rfl, rfl⟩, ?_⟩
    intro houtside
    rw [hblock] at houtside
    cases houtside
  · rw [hrun]
    refine .inr ⟨outcome, hchange, rfl, Session.store_bumpAll _ _, ?_, fun hinside => ?_,
      fun _ hnone => ⟨?_, fun now hnow => ?_⟩⟩
    · exact Session.inBlock_bumpAll _ _
    · rw [hblock] at hinside
      cases hinside
    · exact (Session.pending_bumpAll _ _).trans hnone
    · exact Session.counter_bumpAll { s with store := outcome.store } hnow _

/-! ## Rows added -/

/-- Whether rows are counted as many as there are more of the rules of a vocabulary. -/
def AddsRows (vocabulary : Word.Vocabulary) (s t : Session) : Prop :=
  ∃ count, Tallies vocabulary count s t ∧
    t.store.ruleRows vocabulary = s.store.ruleRows vocabulary + count

theorem AddsRows.trans {s t u : Session} (hst : AddsRows vocabulary s t)
    (htu : AddsRows vocabulary t u) : AddsRows vocabulary s u := by
  obtain ⟨count, htallies, hrows⟩ := hst
  obtain ⟨more, htallies', hrows'⟩ := htu
  refine ⟨count + more, htallies.trans htallies', ?_⟩
  rw [hrows', hrows, Nat.add_assoc]

theorem addsRows_refl (s : Session) : AddsRows vocabulary s s :=
  ⟨0, tallies_zero rfl rfl fun _ hnow => hnow, rfl⟩

theorem addsRows_bind {β : Type} {first : Proc α} {next : α → Proc β}
    (hfirst : FollowsAt (AddsRows vocabulary) s first)
    (hnext : ∀ a t, first s = (.ok a, t) → FollowsAt (AddsRows vocabulary) t (next a)) :
    FollowsAt (AddsRows vocabulary) s (first >>= next) :=
  followsAt_bind (AddsRows vocabulary) AddsRows.trans hfirst hnext

theorem addsRows_execute {change : Store → Except Fault (Change α)}
    (h : Store.AddsRows vocabulary change) : Follows (AddsRows vocabulary) (execute change) := by
  intro s
  unfold FollowsAt
  rcases tallies_execute vocabulary change s with ⟨_, hstore, htallies⟩ |
    ⟨outcome, hchange, _, hstore, htallies⟩
  · exact ⟨0, htallies, by rw [hstore]; rfl⟩
  · refine ⟨_, htallies, ?_⟩
    rw [hstore]
    exact h s.store outcome hchange

/-- A keyword is added together with its codes, as far as these go through. -/
theorem addsRows_addKeyWord (entry : WordEntry) (codes : List String) :
    Follows (AddsRows vocabulary) (Service.addKeyWord entry codes) := by
  have hcodes : ∀ keyWord, Follows (AddsRows vocabulary) (Service.addCodes keyWord codes) := by
    intro keyWord
    induction codes with
    | nil => exact addsRows_refl
    | cons code rest ih =>
      intro s
      exact addsRows_bind (addsRows_execute (Store.addsRows_addKeyWordCode ⟨keyWord, code⟩) s)
        fun _ t _ => ih t
  intro s
  exact addsRows_bind (addsRows_execute (Store.addsRows_addWord entry) s) fun id t _ =>
    addsRows_bind (hcodes id t) fun _ u _ => addsRows_refl u

/-! ## Vocabularies compiled -/

/-- Compiling a vocabulary counts nothing. -/
theorem addsRows_compiled (other : Word.Vocabulary) :
    Follows (AddsRows vocabulary) (compiled other) := by
  intro s
  have hread : AddsRows vocabulary s (s.withGeneration other) :=
    ⟨0, tallies_zero rfl rfl fun _ hnow => Session.counter_withGeneration other hnow, rfl⟩
  unfold FollowsAt
  rw [compiled_apply]
  dsimp only
  generalize s.withGeneration other = t at hread
  cases kept? other (t.generation other) t with
  | some compiled => exact hread
  | none =>
    dsimp only
    by_cases hbroken : t.isBroken = true
    · rw [compileNow_of_isBroken other hbroken]
      exact hread
    · rw [compileNow_of_whole other (Bool.eq_false_iff.2 hbroken)]
      refine hread.trans ⟨0, ?_, ?_⟩
      all_goals dsimp only [keeping]
      · split <;> exact tallies_zero rfl rfl fun _ hnow => hnow
      · split <;> rfl

theorem addsRows_readGeneration (other : Word.Vocabulary) :
    Follows (AddsRows vocabulary) (readGeneration other) := fun _ =>
  ⟨0, tallies_zero rfl rfl fun _ hnow => Session.counter_withGeneration other hnow, rfl⟩

/-! ## Counters while a block is open -/

namespace Session

/-- Whether the counters that there are stand still while a block is open. -/
structure StandsStill (s t : Session) : Prop where
  inBlock : t.inBlock = s.inBlock
  counter : s.inBlock = true → ∀ vocabulary now, s.generations.get vocabulary = some now →
    t.generations.get vocabulary = some now

theorem StandsStill.trans {s t u : Session} (hst : StandsStill s t) (htu : StandsStill t u) :
    StandsStill s u :=
  ⟨htu.inBlock.trans hst.inBlock, fun hblock vocabulary now hnow =>
    htu.counter (hst.inBlock.trans hblock) vocabulary now (hst.counter hblock vocabulary now hnow)⟩

theorem standsStill_of_generations {s t : Session} (hblock : t.inBlock = s.inBlock)
    (hgenerations : t.generations = s.generations) : StandsStill s t := by
  refine ⟨hblock, fun _ vocabulary now hnow => ?_⟩
  rw [hgenerations]
  exact hnow

/-- Outside a block nothing is asked of the counters. -/
theorem standsStill_outside {s t : Session} (hblock : s.inBlock = false)
    (hblock' : t.inBlock = false) : StandsStill s t := by
  refine ⟨hblock'.trans hblock.symm, fun hinside => ?_⟩
  rw [hblock] at hinside
  cases hinside

end Session

open Session (StandsStill standsStill_of_generations standsStill_outside)

theorem standsStill_execute {α : Type} (change : Store → Except Fault (Change α)) :
    Follows StandsStill (execute change) := by
  intro s
  unfold FollowsAt
  rcases execute_cases change s with ⟨fault, isBroken, hrun, _⟩ |
    ⟨outcome, _, _, ⟨_, hrun⟩ | ⟨hblock, _, hrun⟩⟩
  · rw [hrun]
    exact standsStill_of_generations rfl rfl
  · rw [hrun]
    exact standsStill_of_generations rfl rfl
  · rw [hrun]
    exact standsStill_outside hblock ((Session.inBlock_bumpAll _ _).trans hblock)

theorem standsStill_isCourse : Proc.IsCourse StandsStill where
  trans := StandsStill.trans
  aside := fun hsame => standsStill_of_generations hsame.inBlock hsame.generations
  edit := fun _ => standsStill_execute _
  undone := fun h => ⟨rfl, fun _ => h.counter rfl⟩
  final := by
    intro s t hblock _ _ _
    exact standsStill_outside hblock (Session.inBlock_bumpAll _ _)
  generation := fun _ other =>
    ⟨rfl, fun _ _ _ hnow => Session.counter_withGeneration other hnow⟩
  kept := fun _ _ _ _ _ => standsStill_of_generations rfl rfl
  cleared := fun _ => standsStill_of_generations rfl rfl

/-! ## Blocks that nothing has broken -/

/-- Whether a procedure that goes through leaves no block broken that was not. -/
def Proc.LeavesWhole (proc : Proc α) : Prop :=
  ∀ s a t, s.isBroken = false → proc s = (.ok a, t) → t.isBroken = false

namespace Proc

variable {β : Type}

theorem leavesWhole_pure (a : α) : LeavesWhole (pure a : Proc α) := by
  intro s b t hwhole hrun
  cases hrun
  exact hwhole

theorem leavesWhole_bind {first : Proc α} {next : α → Proc β} (hfirst : LeavesWhole first)
    (hnext : ∀ a, LeavesWhole (next a)) : LeavesWhole (first >>= next) := by
  intro s b t hwhole hrun
  obtain ⟨a, u, hgoes, hrest⟩ := bind_ok hrun
  exact hnext a u b t (hfirst s a u hwhole hgoes) hrest

theorem leavesWhole_map (f : α → β) {proc : Proc α} (h : LeavesWhole proc) :
    LeavesWhole (f <$> proc) :=
  leavesWhole_bind h fun a => leavesWhole_pure (f a)

theorem leavesWhole_execute (change : Store → Except Fault (Change α)) :
    LeavesWhole (execute change) := by
  intro s a t _ hrun
  obtain ⟨_, _, _, hwhole, _⟩ := execute_ok hrun
  exact hwhole

theorem leavesWhole_of_isBroken_eq {proc : Proc α}
    (h : ∀ s, (proc s).2.isBroken = s.isBroken) : LeavesWhole proc := by
  intro s a t hwhole hrun
  have hsame := h s
  rw [hrun] at hsame
  exact hsame.trans hwhole

theorem leavesWhole_compiled (other : Word.Vocabulary) : LeavesWhole (compiled other) := by
  intro s a t hwhole hrun
  obtain ⟨_, u, hcompiled, _, hsame, _⟩ := exists_compiled hwhole other
  rw [hcompiled] at hrun
  cases hrun
  exact hsame.isBroken.trans hwhole

end Proc

end Clearance

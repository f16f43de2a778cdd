import Clearance.Proofs.Service.Settled
import Clearance.Proofs.Session.Compilation

/-!
# Kept vocabularies are up to date

A compiled vocabulary is kept with the generation that it was compiled for. Outside a block, one
that is of the present generation is compiled from the rules as they are stored: whatever changes
the rules moves the generation once it is final, what is undone has never been kept, and nothing is
kept while a block is open. The exceptions are an edit of a word in place, which moves nothing, and
the loss of a counter, after which a number may come back.
-/

set_option autoImplicit false

namespace Clearance

open Proc

namespace Session

/-- Whether the kept vocabularies are of no later generations than the present ones, and compiled
from the rules of a store if they are of the present ones. -/
def IsFreshFor (s : Session) (store : Store) : Prop :=
  ∀ vocabulary generation compiled, s.compiled.get vocabulary = some (generation, compiled) →
    ∃ now, s.generations.get vocabulary = some now ∧ generation ≤ now ∧
      (generation = now → compiled.matcher = Word.compile (store.rules vocabulary))

variable {s : Session} {store : Store}

theorem isFreshFor_start (backend : Word.Backend) (outages : Monitor.Outages) :
    (start backend outages).IsFreshFor store := by
  intro vocabulary generation compiled hkept
  cases vocabulary <;> cases hkept

/-- A counter that is set to no earlier number than it shows makes nothing kept fresh that is
not. -/
theorem IsFreshFor.setGeneration (h : s.IsFreshFor store) {vocabulary : Word.Vocabulary}
    {number : Int} (hnumber : ∀ now, s.generations.get vocabulary = some now → now ≤ number) :
    (s.setGeneration vocabulary number).IsFreshFor store := by
  intro other generation compiled hkept
  obtain ⟨now, hnow, hle, hsame⟩ := h other generation compiled hkept
  by_cases hother : other = vocabulary
  · subst hother
    have hlater := hnumber now hnow
    refine ⟨number, ?_, Int.le_trans hle hlater, fun heq => hsame (by omega)⟩
    unfold Session.setGeneration
    rw [Word.PerVocabulary.get_set_same]
  · refine ⟨now, ?_, hle, hsame⟩
    unfold Session.setGeneration
    rw [Word.PerVocabulary.get_set_of_ne _ _ hother]
    exact hnow

theorem generation_of_counter {vocabulary : Word.Vocabulary} {now : Int}
    (h : s.generations.get vocabulary = some now) : s.generation vocabulary = now := by
  unfold generation
  rw [h, Option.getD_some]

theorem IsFreshFor.withGeneration (h : s.IsFreshFor store) (vocabulary : Word.Vocabulary) :
    (s.withGeneration vocabulary).IsFreshFor store :=
  h.setGeneration fun _ hnow => Int.le_of_eq (generation_of_counter hnow).symm

theorem IsFreshFor.bump (h : s.IsFreshFor store) (vocabulary : Word.Vocabulary) :
    (s.bump vocabulary).IsFreshFor store := by
  refine h.setGeneration fun now hnow => ?_
  rw [generation_of_counter hnow]
  exact Int.le_of_lt (Int.lt_succ now)

/-- A counter never goes back, and moves on if its vocabulary is touched. -/
theorem exists_counter_bumpAll (touched : List Word.Vocabulary) {vocabulary : Word.Vocabulary}
    {now : Int} (h : s.generations.get vocabulary = some now) :
    ∃ later, (s.bumpAll touched).generations.get vocabulary = some later ∧ now ≤ later ∧
      (vocabulary ∈ touched → now < later) := by
  refine ⟨_, s.counter_bumpAll h touched, by omega, fun htouched => ?_⟩
  have hmentioned := List.count_pos_iff.2 htouched
  omega

/-- What is fresh for one store is fresh for another once the generations of all vocabularies in
which the two differ have moved. -/
theorem IsFreshFor.bumpAll {after : Store} {touched : List Word.Vocabulary}
    (h : s.IsFreshFor store)
    (hrules : ∀ vocabulary, vocabulary ∉ touched → after.rules vocabulary = store.rules vocabulary) :
    (s.bumpAll touched).IsFreshFor after := by
  intro vocabulary generation compiled hkept
  rw [compiled_bumpAll] at hkept
  obtain ⟨now, hnow, hle, hsame⟩ := h vocabulary generation compiled hkept
  obtain ⟨later, hlater, hmoved, hlt⟩ := exists_counter_bumpAll touched hnow
  refine ⟨later, hlater, Int.le_trans hle hmoved, fun heq => ?_⟩
  have huntouched : vocabulary ∉ touched := by
    intro htouched
    have := hlt htouched
    omega
  rw [hrules vocabulary huntouched]
  exact hsame (by omega)

/-- Whether the rules have changed of those vocabularies only that have become pending. -/
def ChangesPending (s t : Session) : Prop :=
  ∃ more, t.pending = s.pending ++ more ∧
    ∀ vocabulary, vocabulary ∉ more → t.store.rules vocabulary = s.store.rules vocabulary

theorem ChangesPending.trans {s t u : Session} (hst : ChangesPending s t)
    (htu : ChangesPending t u) : ChangesPending s u := by
  obtain ⟨more, hmore, hrules⟩ := hst
  obtain ⟨later, hlater, hrules'⟩ := htu
  refine ⟨more ++ later, ?_, fun vocabulary huntouched => ?_⟩
  · rw [hlater, hmore, List.append_assoc]
  · rw [List.mem_append, not_or] at huntouched
    exact (hrules' vocabulary huntouched.2).trans (hrules vocabulary huntouched.1)

theorem changesPending_of_eq {s t : Session} (hpending : t.pending = s.pending)
    (hstore : t.store = s.store) : ChangesPending s t := by
  refine ⟨[], ?_, fun _ _ => ?_⟩
  · rw [hpending, List.append_nil]
  · rw [hstore]

theorem ChangesPending.rules {s t : Session} (h : ChangesPending s t)
    {vocabulary : Word.Vocabulary} (huntouched : vocabulary ∉ t.pending) :
    t.store.rules vocabulary = s.store.rules vocabulary := by
  obtain ⟨more, hmore, hrules⟩ := h
  apply hrules
  rw [hmore, List.mem_append, not_or] at huntouched
  exact huntouched.2

/-- What becomes of a session in which kept vocabularies are fresh. Outside a block they stay fresh
for the store. Inside one they stay fresh for the store before the block, and the rules change of
the vocabularies only that are pending. -/
structure StaysFresh (s t : Session) : Prop where
  inBlock : t.inBlock = s.inBlock
  outside : s.inBlock = false → s.pending = [] → s.IsFreshFor s.store →
    t.pending = [] ∧ t.IsFreshFor t.store
  inside : s.inBlock = true → (∀ store, s.IsFreshFor store → t.IsFreshFor store) ∧
    ∃ more, t.pending = s.pending ++ more ∧
      ∀ vocabulary, vocabulary ∉ more → t.store.rules vocabulary = s.store.rules vocabulary

theorem StaysFresh.trans {s t u : Session} (hst : StaysFresh s t) (htu : StaysFresh t u) :
    StaysFresh s u := by
  refine ⟨htu.inBlock.trans hst.inBlock, fun hblock hpending hfresh => ?_, fun hblock => ?_⟩
  · obtain ⟨hpending', hfresh'⟩ := hst.outside hblock hpending hfresh
    exact htu.outside (hst.inBlock.trans hblock) hpending' hfresh'
  · obtain ⟨hfirst, hchanges⟩ := hst.inside hblock
    obtain ⟨hsecond, hchanges'⟩ := htu.inside (hst.inBlock.trans hblock)
    exact ⟨fun store h => hsecond store (hfirst store h), ChangesPending.trans hchanges hchanges'⟩

/-- Where neither the store nor a block is touched, freshness for every store is all that
matters. -/
theorem staysFresh_of_aside {s t : Session} (hblock : t.inBlock = s.inBlock)
    (hpending : t.pending = s.pending) (hstore : t.store = s.store)
    (hfresh : ∀ store, s.IsFreshFor store → t.IsFreshFor store) : StaysFresh s t := by
  refine ⟨hblock, fun _ hnone h => ⟨hpending.trans hnone, ?_⟩,
    fun _ => ⟨hfresh, changesPending_of_eq hpending hstore⟩⟩
  rw [hstore]
  exact hfresh _ h

/-- A block that is undone leaves what was kept as fresh as it was for the store before it. -/
theorem staysFresh_undo {s t : Session} (h : StaysFresh { s with inBlock := true } t) :
    StaysFresh s (undo s t) :=
  staysFresh_of_aside rfl rfl rfl (h.inside rfl).1

/-- A change that is final moves the generations of all vocabularies that it changes. -/
theorem staysFresh_bumpAll {s t : Session} {touched : List Word.Vocabulary}
    (hblock : s.inBlock = false) (hblock' : t.inBlock = false)
    (hpending : s.pending = [] → t.pending = [])
    (hfresh : s.IsFreshFor s.store → t.IsFreshFor s.store)
    (hrules : ∀ vocabulary, vocabulary ∉ touched →
      t.store.rules vocabulary = s.store.rules vocabulary) : StaysFresh s (t.bumpAll touched) := by
  refine ⟨?_, fun _ hnone h => ⟨?_, ?_⟩, fun hinside => ?_⟩
  · rw [inBlock_bumpAll, hblock', hblock]
  · rw [pending_bumpAll]
    exact hpending hnone
  · rw [store_bumpAll]
    exact (hfresh h).bumpAll hrules
  · rw [hblock] at hinside
    cases hinside

/-- A block that becomes final moves the generations of all vocabularies that it has changed. -/
theorem staysFresh_final {s t : Session} (hblock : s.inBlock = false)
    (h : StaysFresh { s with inBlock := true } t) :
    StaysFresh s ({ t with inBlock := false, pending := [] }.bumpAll t.pending) := by
  obtain ⟨hkept, hchanges⟩ := h.inside rfl
  apply staysFresh_bumpAll (t := { t with inBlock := false, pending := [] }) hblock rfl
  · exact fun _ => rfl
  · exact hkept s.store
  · exact fun _ huntouched => ChangesPending.rules hchanges huntouched

/-- A vocabulary that is compiled outside a block from the rules of the store is fresh. -/
theorem staysFresh_kept {s : Session} (vocabulary : Word.Vocabulary) (serial : Nat)
    (hblock : s.inBlock = false) (hcounter : (s.generations.get vocabulary).isSome = true) :
    StaysFresh s { s with compiled := s.compiled.set vocabulary (some (s.generation vocabulary,
      ⟨serial, Word.compile (s.store.rules vocabulary)⟩)) } := by
  refine ⟨rfl, fun _ hpending hfresh => ⟨hpending, ?_⟩, fun hinside => ?_⟩
  · intro other generation compiled hkept
    by_cases hother : other = vocabulary
    · subst hother
      dsimp only at hkept
      rw [Word.PerVocabulary.get_set_same] at hkept
      cases hkept
      obtain ⟨now, hnow⟩ := Option.isSome_iff_exists.1 hcounter
      exact ⟨now, hnow, Int.le_of_eq (generation_of_counter hnow), fun _ => rfl⟩
    · dsimp only at hkept
      rw [Word.PerVocabulary.get_set_of_ne _ _ hother] at hkept
      exact hfresh other generation compiled hkept
  · rw [hblock] at hinside
    cases hinside

end Session

open Session (StaysFresh staysFresh_of_aside staysFresh_bumpAll)

/-! ## Freshness along the course of a session -/

variable {α : Type}

/-- A statement keeps vocabularies fresh if it touches all of which it changes the rules. -/
theorem staysFresh_execute {change : Store → Except Fault (Change α)}
    (h : ∀ store outcome, change store = .ok outcome → ∀ vocabulary,
      vocabulary ∉ outcome.touched → outcome.store.rules vocabulary = store.rules vocabulary) :
    Follows StaysFresh (execute change) := by
  intro s
  unfold FollowsAt
  rcases execute_cases change s with ⟨fault, isBroken, hrun, _⟩ |
    ⟨outcome, _, hchange, ⟨hblock, hrun⟩ | ⟨hblock, _, hrun⟩⟩
  · rw [hrun]
    exact staysFresh_of_aside rfl rfl rfl fun _ hfresh => hfresh
  · rw [hrun]
    refine ⟨rfl, fun houtside => ?_, fun _ => ⟨fun _ hfresh => hfresh, outcome.touched, rfl, ?_⟩⟩
    · rw [hblock] at houtside
      cases houtside
    · exact h s.store outcome hchange
  · rw [hrun]
    exact staysFresh_bumpAll (t := { s with store := outcome.store }) hblock hblock id id
      (h s.store outcome hchange)

theorem staysFresh_isCourse : Proc.IsCourse StaysFresh where
  trans := StaysFresh.trans
  aside := by
    intro s t hsame
    refine staysFresh_of_aside hsame.inBlock hsame.pending hsame.store fun store hfresh => ?_
    unfold Session.IsFreshFor
    rw [hsame.compiled, hsame.generations]
    exact hfresh
  edit := fun hedit => staysFresh_execute fun store outcome hchange _ huntouched =>
    (hedit store outcome hchange).rules huntouched
  undone := Session.staysFresh_undo
  final := fun hblock h _ _ => Session.staysFresh_final hblock h
  generation := fun _ vocabulary =>
    staysFresh_of_aside rfl rfl rfl fun _ hfresh => hfresh.withGeneration vocabulary
  kept := fun _ vocabulary serial => Session.staysFresh_kept vocabulary serial
  cleared := by
    intro s
    refine staysFresh_of_aside rfl rfl rfl fun store _ vocabulary generation compiled hkept => ?_
    cases vocabulary <;> cases hkept

/-- The record of a job is nothing to the rules. -/
theorem Store.rules_of_saveJob {store : Store} {id : Int} {numbers : List Int} {save : Job → Job}
    {outcome : Change Unit} (h : store.saveJob id numbers save = .ok outcome)
    (vocabulary : Word.Vocabulary) : outcome.store.rules vocabulary = store.rules vocabulary := by
  rw [Store.eq_of_saveJob h]
  cases vocabulary <;> rfl

theorem Store.rules_addJob (store : Store) (job : Job) (vocabulary : Word.Vocabulary) :
    (store.addJob job).store.rules vocabulary = store.rules vocabulary := by
  cases vocabulary <;> rfl

theorem staysFresh_saveJob (id : Int) (numbers : List Int) (save : Job → Job) :
    Follows StaysFresh (execute fun store => store.saveJob id numbers save) :=
  staysFresh_execute fun _ _ hsave vocabulary _ => Store.rules_of_saveJob hsave vocabulary

theorem staysFresh_addJob (job : Job) :
    Follows StaysFresh (execute fun store => .ok (store.addJob job)) := by
  apply staysFresh_execute
  intro store outcome hadd vocabulary _
  cases hadd
  exact store.rules_addJob job vocabulary

/-- Whether an operation changes words only in a way that moves their generation, and loses no
counter. -/
def Operation.keepsCount : Operation → Bool
  | updateWord _ _ _ | evict _ => false
  | _ => true

theorem staysFresh_isCourse_service :
    Service.IsCourse (fun operation => operation.keepsCount = true) StaysFresh where
  toIsCourse := staysFresh_isCourse
  request := Job.follows_request staysFresh_isCourse staysFresh_saveJob staysFresh_addJob fun _ =>
    staysFresh_of_aside rfl rfl rfl fun _ hfresh => hfresh
  cancel := Job.follows_cancel staysFresh_isCourse staysFresh_saveJob
  run := fun hbefore => Job.follows_run_of_saves staysFresh_isCourse staysFresh_saveJob hbefore
  updateWord := fun _ _ _ hcounts => nomatch hcounts
  bumped := fun vocabulary _ _ =>
    staysFresh_of_aside rfl rfl rfl fun _ hfresh => hfresh.bump vocabulary
  evict := fun _ hcounts => nomatch hcounts
  advance := fun _ _ _ => staysFresh_of_aside rfl rfl rfl fun _ hfresh => hfresh
  markStarted := fun _ _ _ => Job.follows_markStarted staysFresh_isCourse staysFresh_saveJob _ _

/-! ## Vocabularies used again -/

theorem Session.IsFreshFor.isUpToDate {s : Session} {store : Store} (h : s.IsFreshFor store) :
    s.IsUpToDate store := by
  intro vocabulary generation compiled hkept
  obtain ⟨now, hnow, hle, hsame⟩ := h vocabulary generation compiled hkept
  rw [Session.generation_of_counter hnow]
  exact ⟨hle, hsame⟩

/-- Whatever has been asked for of an empty session, with blocks inside blocks that were kept or
undone, a vocabulary that is asked for outside a block comes compiled from the rules that are stored
now, unless words have been edited in place or a counter has been lost. -/
theorem compiled_fresh (backend : Word.Backend) (outages : Monitor.Outages)
    (requests : List Request)
    (hcounts : ∀ operation ∈ Request.operationsOfAll requests, operation.keepsCount = true)
    (vocabulary : Word.Vocabulary) :
    let s := (Service.serveAll requests (Session.start backend outages)).2
    s.inBlock = false ∧ ∃ compiled t, Proc.compiled vocabulary s = (.ok compiled, t) ∧
      compiled.matcher = Word.compile (s.store.rules vocabulary) := by
  intro s
  obtain ⟨_, hblock, hwhole, _⟩ := Service.isSettled_serveAll backend outages requests
  have hcourse := Service.follows_serveAll staysFresh_isCourse_service requests hcounts
    (Session.start backend outages)
  have hfresh := (hcourse.outside rfl rfl (Session.isFreshFor_start backend outages)).2
  obtain ⟨compiled, t, hrun, hmatcher, _⟩ := exists_compiled hwhole vocabulary
  exact ⟨hblock, compiled, t, hrun, hmatcher.trans (hfresh.isUpToDate.matcherOf vocabulary)⟩

/-- A stop word that is final, then one that is added and looked for in a block that fails. -/
def phantomRequests : List Request :=
  [.single (.addStopWord ⟨"gun", 11⟩), .single (.showMatcher .stopWords),
    .block [.single (.addStopWord ⟨"phantom", 11⟩), .single (.showMatcher .stopWords),
      .single (.raise .runtime (some "undone"))]]

/-- The word of the block that failed is not in the vocabulary that comes afterwards. -/
theorem compiled_phantomRequests :
    let s := (Service.serveAll phantomRequests (Session.start (.engine .null) .none)).2
    ∃ compiled t, Proc.compiled .stopWords s = (.ok compiled, t) ∧
      compiled.matcher = Word.compile [⟨1, some "gun", 11⟩] := by
  have hcounts : ∀ operation ∈ Request.operationsOfAll phantomRequests,
      operation.keepsCount = true := List.all_eq_true.1 (by rfl)
  have hrules : (Service.serveAll phantomRequests
      (Session.start (.engine .null) .none)).2.store.rules .stopWords =
        [⟨1, some "gun", 11⟩] := by
    decide +kernel
  obtain ⟨_, compiled, t, hrun, hmatcher⟩ :=
    compiled_fresh (.engine .null) .none phantomRequests hcounts .stopWords
  rw [hrules] at hmatcher
  exact ⟨compiled, t, hrun, hmatcher⟩

end Clearance

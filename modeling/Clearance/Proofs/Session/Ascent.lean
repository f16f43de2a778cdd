import Clearance.Proofs.Session.Freshness

/-!
# Generations that do not come back

A counter that is lost starts again from the clock. If the clock is not behind the counter when it
is lost, the counter starts from no earlier number, and the next change moves it on. So a generation
does not come back once its rules have changed, and no vocabulary is used again that was compiled
from others. If more changes have been made than thousandths of a second have passed, the clock is
behind the counter, and a loss brings numbers back that have been used.
-/

set_option autoImplicit false

namespace Clearance

open Proc

/-! ## Losses that the clock makes up for -/

/-- Whether an operation takes no generation back in the session in which it is served: words are
not edited in place, the clock is not turned back, and a counter is lost only if the clock is not
behind it. -/
def Operation.keepsPace (s : Session) : Operation → Bool
  | evict vocabulary => decide (s.generation vocabulary ≤ s.seed)
  | operation => operation.keepsCount && operation.keepsTime

namespace Request

mutual

/-- Whether the operations of a request take no generation back, each in the session in which it is
served. While a job waits no counter is lost. -/
def keepsPace : Request → Session → Bool
  | .single operation, s => operation.keepsPace s
  | .block requests, s => keepPaceUntilFault requests { s with inBlock := true }
  | .work job interludes, _ => (operations (.work job interludes)).all fun operation =>
      operation.keepsCount && operation.keepsTime

/-- Whether the requests of a block take no generation back, up to the first that fails. -/
def keepPaceUntilFault : List Request → Session → Bool
  | [], _ => true
  | request :: rest, s => keepsPace request s && match Service.serve request s with
    | (.ok answer, t) => answer.fault?.isSome || keepPaceUntilFault rest t
    | (.error _, _) => true

end

/-- Whether requests that are served one by one take no generation back. -/
def keepPace : List Request → Session → Bool
  | [], _ => true
  | request :: rest, s => request.keepsPace s && keepPace rest (Service.serve request s).2

end Request

/-! ## What a generation stands for -/

namespace Session

variable {s t : Session}

/-- A lost counter starts from a later number if time has passed. -/
theorem generation_le_of_clock_le {vocabulary : Word.Vocabulary}
    (hgenerations : t.generations = s.generations) (hclock : s.clock ≤ t.clock) :
    s.generation vocabulary ≤ t.generation vocabulary := by
  unfold generation
  rw [hgenerations]
  cases s.generations.get vocabulary with
  | some now => exact Int.le_refl now
  | none =>
    simp only [Option.getD_none, seed]
    omega

theorem generation_congr {vocabulary : Word.Vocabulary}
    (hgenerations : t.generations = s.generations) (hclock : t.clock = s.clock) :
    t.generation vocabulary = s.generation vocabulary := by
  unfold generation seed
  rw [hgenerations, hclock]

/-- A loss takes no generation back if the clock is not behind the counter that is lost. -/
theorem generation_le_evict {vocabulary : Word.Vocabulary}
    (h : s.generation vocabulary ≤ s.seed) (other : Word.Vocabulary) :
    s.generation other ≤ (s.evict vocabulary).generation other := by
  by_cases hother : other = vocabulary
  · subst hother
    have hlost : (s.evict other).generation other = s.seed := by
      simp [evict, generation, seed]
    rw [hlost]
    exact h
  · unfold evict generation
    rw [Word.PerVocabulary.get_set_of_ne _ _ hother]
    exact Int.le_refl _

/-- What is kept stays up to date while generations go up and nothing else is kept. -/
theorem IsUpToDate.mono {store : Store} (h : s.IsUpToDate store)
    (hcompiled : t.compiled = s.compiled)
    (hgeneration : ∀ vocabulary, s.generation vocabulary ≤ t.generation vocabulary) :
    t.IsUpToDate store := by
  intro vocabulary generation compiled hkept
  rw [hcompiled] at hkept
  obtain ⟨hle, hsame⟩ := h vocabulary generation compiled hkept
  have hup := hgeneration vocabulary
  refine ⟨Int.le_trans hle hup, fun heq => hsame ?_⟩
  omega

/-- Vocabularies stay up to date for a store in which others are changed whose generations move. -/
theorem IsUpToDate.bumpAll {store after : Store} {touched : List Word.Vocabulary}
    (h : s.IsUpToDate store) (hrules : ∀ vocabulary, vocabulary ∉ touched →
      after.rules vocabulary = store.rules vocabulary) : (s.bumpAll touched).IsUpToDate after := by
  intro vocabulary generation compiled hkept
  rw [compiled_bumpAll] at hkept
  obtain ⟨hle, hsame⟩ := h vocabulary generation compiled hkept
  rw [generation_bumpAll]
  refine ⟨by omega, fun hnow => ?_⟩
  have huntouched : vocabulary ∉ touched := by
    rw [← List.count_eq_zero]
    omega
  rw [hrules vocabulary huntouched]
  apply hsame
  omega

/-- What becomes of a session whose generations do not come back. Outside a block, one that is as it
was stands for the same rules, and what is kept stays up to date. Inside one, what is kept stays up
to date for the store before the block, and the rules change of the vocabularies only that are
pending. -/
structure Ascends (s t : Session) : Prop where
  inBlock : t.inBlock = s.inBlock
  generation : ∀ vocabulary, s.generation vocabulary ≤ t.generation vocabulary
  outside : s.inBlock = false → s.pending = [] → t.pending = [] ∧
    (∀ vocabulary, t.generation vocabulary = s.generation vocabulary →
      t.store.rules vocabulary = s.store.rules vocabulary) ∧
    (s.IsUpToDate s.store → t.IsUpToDate t.store)
  inside : s.inBlock = true →
    (∀ store, s.IsUpToDate store → t.IsUpToDate store) ∧ ChangesPending s t

theorem Ascends.trans {s t u : Session} (hst : Ascends s t) (htu : Ascends t u) : Ascends s u := by
  refine ⟨htu.inBlock.trans hst.inBlock,
    fun vocabulary => Int.le_trans (hst.generation vocabulary) (htu.generation vocabulary), ?_, ?_⟩
  · intro hblock hpending
    obtain ⟨hpending', hrules, hdate⟩ := hst.outside hblock hpending
    obtain ⟨hnone, hrules', hdate'⟩ := htu.outside (hst.inBlock.trans hblock) hpending'
    refine ⟨hnone, fun vocabulary hsame => ?_, fun h => hdate' (hdate h)⟩
    -- a generation that is as it was has not moved in between
    have hup := hst.generation vocabulary
    have hup' := htu.generation vocabulary
    rw [hrules' vocabulary (by omega), hrules vocabulary (by omega)]
  · intro hblock
    obtain ⟨hfirst, hchanges⟩ := hst.inside hblock
    obtain ⟨hsecond, hchanges'⟩ := htu.inside (hst.inBlock.trans hblock)
    exact ⟨fun store h => hsecond store (hfirst store h), hchanges.trans hchanges'⟩

/-- Where neither the store nor a block is touched, it matters only that generations go up and what
is kept stays up to date. -/
theorem ascends_of_aside {s t : Session} (hblock : t.inBlock = s.inBlock)
    (hpending : t.pending = s.pending) (hstore : t.store = s.store)
    (hgeneration : ∀ vocabulary, s.generation vocabulary ≤ t.generation vocabulary)
    (hdate : ∀ store, s.IsUpToDate store → t.IsUpToDate store) : Ascends s t := by
  refine ⟨hblock, hgeneration, fun _ hnone => ⟨hpending.trans hnone, fun _ _ => ?_, ?_⟩,
    fun _ => ⟨hdate, changesPending_of_eq hpending hstore⟩⟩
  · rw [hstore]
  · rw [hstore]
    exact hdate s.store

/-- Where nothing else happens than that generations go up, that is all that matters. -/
theorem ascends_of_generations {s t : Session} (hblock : t.inBlock = s.inBlock)
    (hpending : t.pending = s.pending) (hstore : t.store = s.store)
    (hcompiled : t.compiled = s.compiled)
    (hgeneration : ∀ vocabulary, s.generation vocabulary ≤ t.generation vocabulary) :
    Ascends s t :=
  ascends_of_aside hblock hpending hstore hgeneration fun _ h => h.mono hcompiled hgeneration

/-- A change that is final moves the generations of all vocabularies that it changes. -/
theorem ascends_bumpAll {s t : Session} {touched : List Word.Vocabulary}
    (hblock : s.inBlock = false) (hblock' : t.inBlock = false)
    (hpending : s.pending = [] → t.pending = [])
    (hgeneration : ∀ vocabulary, s.generation vocabulary ≤ t.generation vocabulary)
    (hdate : s.IsUpToDate s.store → t.IsUpToDate s.store)
    (hrules : ∀ vocabulary, vocabulary ∉ touched →
      t.store.rules vocabulary = s.store.rules vocabulary) : Ascends s (t.bumpAll touched) := by
  have hmoved := fun vocabulary => t.generation_bumpAll touched vocabulary
  refine ⟨?_, fun vocabulary => ?_, fun _ hnone => ⟨?_, fun vocabulary hsame => ?_, fun h => ?_⟩,
    ?_⟩
  · rw [inBlock_bumpAll, hblock', hblock]
  · have hup := hgeneration vocabulary
    rw [hmoved]
    omega
  · rw [pending_bumpAll]
    exact hpending hnone
  · have hup := hgeneration vocabulary
    rw [hmoved] at hsame
    rw [store_bumpAll]
    apply hrules
    rw [← List.count_eq_zero]
    omega
  · rw [store_bumpAll]
    exact (hdate h).bumpAll hrules
  · intro hinside
    rw [hblock] at hinside
    cases hinside

end Session

open Session (Ascends ascends_of_aside ascends_of_generations ascends_bumpAll)

/-! ## Generations along the course of a session -/

variable {α : Type}

/-- A statement moves the generations of all vocabularies of which it changes the rules. -/
theorem ascends_execute {change : Store → Except Fault (Change α)}
    (h : ∀ store outcome, change store = .ok outcome → ∀ vocabulary,
      vocabulary ∉ outcome.touched → outcome.store.rules vocabulary = store.rules vocabulary) :
    Follows Ascends (execute change) := by
  intro s
  unfold FollowsAt
  rcases execute_cases change s with ⟨fault, isBroken, hrun, _⟩ |
    ⟨outcome, _, hchange, ⟨hblock, hrun⟩ | ⟨hblock, _, hrun⟩⟩
  · rw [hrun]
    exact ascends_of_generations rfl rfl rfl rfl fun _ => Int.le_refl _
  · rw [hrun]
    refine ⟨rfl, fun _ => Int.le_refl _, fun houtside => ?_,
      fun _ => ⟨fun _ hdate => hdate, outcome.touched, rfl, h s.store outcome hchange⟩⟩
    rw [hblock] at houtside
    cases houtside
  · rw [hrun]
    exact ascends_bumpAll (t := { s with store := outcome.store }) hblock hblock id
      (fun _ => Int.le_refl _) id (h s.store outcome hchange)

theorem ascends_isCourse : Proc.IsCourse Ascends where
  trans := Ascends.trans
  aside := fun hsame => ascends_of_generations hsame.inBlock hsame.pending hsame.store hsame.compiled
    fun _ => Int.le_of_eq (Session.generation_congr hsame.generations hsame.clock).symm
  edit := fun hedit => ascends_execute fun store outcome hchange _ huntouched =>
    (hedit store outcome hchange).rules huntouched
  undone := fun h => ascends_of_aside rfl rfl rfl h.generation (h.inside rfl).1
  final := by
    intro s t hblock h _ _
    obtain ⟨hdate, hchanges⟩ := h.inside rfl
    apply ascends_bumpAll (t := { t with inBlock := false, pending := [] }) hblock rfl
    · exact fun _ => rfl
    · exact h.generation
    · exact hdate s.store
    · exact fun _ huntouched => hchanges.rules huntouched
  generation := fun s vocabulary => ascends_of_generations rfl rfl rfl rfl fun other =>
    Int.le_of_eq (s.generation_withGeneration vocabulary other).symm
  kept := by
    intro s vocabulary serial hblock _
    refine ⟨rfl, fun _ => Int.le_refl _, fun _ hpending => ⟨hpending, fun _ _ => rfl, ?_⟩, ?_⟩
    · intro hdate other generation compiled hkept
      by_cases hother : other = vocabulary
      · subst hother
        dsimp only at hkept
        rw [Word.PerVocabulary.get_set_same] at hkept
        cases hkept
        exact ⟨Int.le_refl _, fun _ => rfl⟩
      · dsimp only at hkept
        rw [Word.PerVocabulary.get_set_of_ne _ _ hother] at hkept
        exact hdate other generation compiled hkept
    · intro hinside
      rw [hblock] at hinside
      cases hinside
  cleared := by
    intro s
    refine ascends_of_aside rfl rfl rfl (fun _ => Int.le_refl _) ?_
    intro store _ vocabulary generation compiled hkept
    cases vocabulary <;> cases hkept

theorem ascends_saveJob (id : Int) (numbers : List Int) (save : Job → Job) :
    Follows Ascends (execute fun store => store.saveJob id numbers save) :=
  ascends_execute fun _ _ hsave vocabulary _ => Store.rules_of_saveJob hsave vocabulary

theorem ascends_addJob (job : Job) :
    Follows Ascends (execute fun store => .ok (store.addJob job)) := by
  apply ascends_execute
  intro store outcome hadd vocabulary _
  cases hadd
  exact store.rules_addJob job vocabulary

theorem ascends_isCourse_service : Service.IsCourse
    (fun operation => (operation.keepsCount && operation.keepsTime) = true) Ascends where
  toIsCourse := ascends_isCourse
  request := Job.follows_request ascends_isCourse ascends_saveJob ascends_addJob fun _ =>
    ascends_of_generations rfl rfl rfl rfl fun _ => Int.le_refl _
  cancel := Job.follows_cancel ascends_isCourse ascends_saveJob
  run := fun hbefore => Job.follows_run_of_saves ascends_isCourse ascends_saveJob hbefore
  updateWord := fun _ _ _ hkeeps => nomatch hkeeps
  bumped := by
    intro vocabulary _ s
    refine ascends_of_generations rfl rfl rfl rfl fun other => ?_
    have hmoved := s.generation_bumpAll [vocabulary] other
    have hone : s.bumpAll [vocabulary] = s.bump vocabulary := rfl
    rw [hone] at hmoved
    omega
  evict := fun _ hkeeps => nomatch hkeeps
  advance := by
    intro seconds hkeeps s
    have hforward : 0 ≤ seconds := of_decide_eq_true hkeeps
    refine ascends_of_generations rfl rfl rfl rfl fun _ =>
      Session.generation_le_of_clock_le rfl ?_
    dsimp only
    omega
  markStarted := fun _ _ _ => Job.follows_markStarted ascends_isCourse ascends_saveJob _ _

/-! ## Requests that keep pace -/

theorem Operation.keepsPace_of_keeps {operation : Operation} {s : Session}
    (h : operation.keepsPace s = true) :
    (operation.keepsCount && operation.keepsTime) = true ∨
      ∃ vocabulary, operation = .evict vocabulary ∧ s.generation vocabulary ≤ s.seed := by
  cases operation with
  | evict vocabulary => exact .inr ⟨vocabulary, rfl, of_decide_eq_true h⟩
  | _ => exact .inl h

theorem ascends_perform {operation : Operation} {s : Session}
    (h : operation.keepsPace s = true) : FollowsAt Ascends s (Service.perform operation) := by
  rcases Operation.keepsPace_of_keeps h with hkeeps | ⟨vocabulary, rfl, hbehind⟩
  · exact Service.follows_perform ascends_isCourse_service operation hkeeps s
  · exact ascends_of_generations rfl rfl rfl rfl (Session.generation_le_evict hbehind)

mutual

/-- The generations of a session do not come back while requests are served that keep pace. -/
theorem ascends_serve (request : Request) {s : Session} (h : request.keepsPace s = true) :
    FollowsAt Ascends s (Service.serve request) := by
  cases request with
  | single operation =>
    unfold Request.keepsPace at h
    unfold Service.serve
    exact Service.followsAt_answered ascends_isCourse_service (ascends_perform h)
  | block requests =>
    unfold Request.keepsPace at h
    unfold Service.serve
    refine Service.followsAt_answered ascends_isCourse_service ?_
    refine ascends_isCourse.bindAt ?_ fun _ t _ => ascends_isCourse.pure _ t
    exact ascends_isCourse.atomicIfAt (ascends_serveUntilFault requests h)
  | work job interludes =>
    unfold Request.keepsPace at h
    exact Service.follows_serve ascends_isCourse_service _ (List.all_eq_true.1 h) s

theorem ascends_serveUntilFault (requests : List Request) {s : Session}
    (h : Request.keepPaceUntilFault requests s = true) :
    FollowsAt Ascends s (Service.serveUntilFault requests) := by
  cases requests with
  | nil =>
    unfold Service.serveUntilFault
    exact ascends_isCourse.pure _ s
  | cons request rest =>
    unfold Request.keepPaceUntilFault at h
    rw [Bool.and_eq_true] at h
    unfold Service.serveUntilFault
    refine ascends_isCourse.bindAt (ascends_serve request h.1) fun answer t hserve => ?_
    have hrest := h.2
    rw [hserve] at hrest
    rw [Bool.or_eq_true] at hrest
    split
    · exact ascends_isCourse.pure _ t
    · next hgoes =>
      refine ascends_isCourse.bindAt (ascends_serveUntilFault rest ?_) fun _ u _ =>
        ascends_isCourse.pure _ u
      exact hrest.resolve_left hgoes

end

theorem ascends_serveAll {requests : List Request} {s : Session}
    (h : Request.keepPace requests s = true) : Ascends s (Service.serveAll requests s).2 := by
  induction requests generalizing s with
  | nil => exact ascends_isCourse.refl s
  | cons request rest ih =>
    rw [Request.keepPace, Bool.and_eq_true] at h
    rw [Service.serveAll_cons_snd]
    exact (ascends_serve request h.1).trans (ih h.2)

end Clearance

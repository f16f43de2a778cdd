import Mathlib.Order.Defs.Unbundled
import Clearance.Proofs.Store.Soundness
import Clearance.Session.Transaction

/-!
# What procedures keep

A procedure changes the store by statements only, and a block that fails is undone. So what each
statement keeps of the store, read as a relation between the store before and the store after, the
procedure keeps as well, whether it comes to a result or to a fault.
-/

set_option autoImplicit false

namespace Clearance

/-- Moving generations changes the counters only. -/
theorem Session.bumpAll_eq (session : Session) (vocabularies : List Word.Vocabulary) :
    ∃ generations, session.bumpAll vocabularies = { session with generations := generations } := by
  induction vocabularies generalizing session with
  | nil => exact ⟨session.generations, rfl⟩
  | cons vocabulary rest ih => exact ih (session.bump vocabulary)

/-- Moving one generation leaves the other as it is. -/
theorem Session.generation_bump_of_ne (session : Session) {vocabulary other : Word.Vocabulary}
    (h : other ≠ vocabulary) :
    (session.bump vocabulary).generation other = session.generation other := by
  unfold bump setGeneration generation
  rw [Word.PerVocabulary.get_set_of_ne _ _ h]
  rfl

/-- A generation moves by as many as there are mentions of its vocabulary. -/
theorem Session.generation_bumpAll (session : Session) (touched : List Word.Vocabulary)
    (vocabulary : Word.Vocabulary) : (session.bumpAll touched).generation vocabulary =
      session.generation vocabulary + touched.count vocabulary := by
  induction touched generalizing session with
  | nil => simp [bumpAll]
  | cons first rest ih =>
    have hfirst : session.bumpAll (first :: rest) = (session.bump first).bumpAll rest := rfl
    rw [hfirst, ih]
    by_cases hsame : first = vocabulary
    · subst hsame
      rw [generation_bump, List.count_cons_self]
      omega
    · rw [generation_bump_of_ne session (Ne.symm hsame), List.count_cons_of_ne hsame]

/-- A counter moves by as many as there are mentions of its vocabulary. -/
theorem Session.counter_bumpAll (session : Session) {vocabulary : Word.Vocabulary} {now : Int}
    (h : session.generations.get vocabulary = some now) (touched : List Word.Vocabulary) :
    (session.bumpAll touched).generations.get vocabulary =
      some (now + touched.count vocabulary) := by
  induction touched generalizing session now with
  | nil => simpa [bumpAll] using h
  | cons first rest ih =>
    have hfirst : session.bumpAll (first :: rest) = (session.bump first).bumpAll rest := rfl
    rw [hfirst]
    by_cases hsame : first = vocabulary
    · subst hsame
      have hmoved : (session.bump first).generations.get first = some (now + 1) := by
        simp [bump, setGeneration, generation, h]
      rw [ih _ hmoved, List.count_cons_self]
      congr 1
      omega
    · have hkept : (session.bump first).generations.get vocabulary = some now := by
        unfold bump setGeneration
        rw [Word.PerVocabulary.get_set_of_ne _ _ (Ne.symm hsame)]
        exact h
      rw [ih _ hkept, List.count_cons_of_ne hsame]

section

variable (session : Session) (vocabularies : List Word.Vocabulary)

@[simp] theorem Session.inBlock_bumpAll :
    (session.bumpAll vocabularies).inBlock = session.inBlock := by
  obtain ⟨generations, h⟩ := session.bumpAll_eq vocabularies
  rw [h]

@[simp] theorem Session.isBroken_bumpAll :
    (session.bumpAll vocabularies).isBroken = session.isBroken := by
  obtain ⟨generations, h⟩ := session.bumpAll_eq vocabularies
  rw [h]

@[simp] theorem Session.pending_bumpAll :
    (session.bumpAll vocabularies).pending = session.pending := by
  obtain ⟨generations, h⟩ := session.bumpAll_eq vocabularies
  rw [h]

@[simp] theorem Session.compiled_bumpAll :
    (session.bumpAll vocabularies).compiled = session.compiled := by
  obtain ⟨generations, h⟩ := session.bumpAll_eq vocabularies
  rw [h]

end

namespace Proc

variable {α β : Type}

/-- Whether a procedure that runs in a session leaves a store in a relation to the one before. -/
def KeepsAt (rel : Store → Store → Prop) (s : Session) (proc : Proc α) : Prop :=
  rel s.store (proc s).2.store

/-! ## Statements and blocks -/

/-- A statement is refused, and the store stays, or its change is made. -/
theorem execute_cases (change : Store → Except Fault (Change α)) (s : Session) :
    (∃ fault isBroken, execute change s = (.error fault, { s with isBroken := isBroken }) ∧
      (isBroken = true → s.isBroken = true ∨ s.inBlock = true)) ∨
    ∃ outcome, s.isBroken = false ∧ change s.store = .ok outcome ∧
      (s.inBlock = true ∧ execute change s = (.ok outcome.result,
          { s with store := outcome.store, pending := s.pending ++ outcome.touched }) ∨
        s.inBlock = false ∧ outcome.store.isSound = true ∧ execute change s =
          (.ok outcome.result, { s with store := outcome.store }.bumpAll outcome.touched)) := by
  unfold execute
  by_cases hbroken : s.isBroken = true
  · rw [if_pos hbroken]
    exact .inl ⟨.blockBroken, s.isBroken, rfl, .inl⟩
  rw [if_neg hbroken]
  have hwhole : s.isBroken = false := Bool.eq_false_iff.2 hbroken
  cases hchange : change s.store with
  | error fault =>
    refine .inl ⟨fault, s.inBlock && fault.breaksBlock, rfl, fun h => .inr ?_⟩
    rw [Bool.and_eq_true] at h
    exact h.1
  | ok outcome =>
    dsimp only
    by_cases hblock : s.inBlock = true
    · rw [if_pos hblock]
      exact .inr ⟨outcome, hwhole, rfl, .inl ⟨hblock, rfl⟩⟩
    rw [if_neg hblock]
    by_cases hsound : outcome.store.isSound = true
    · rw [if_pos hsound]
      exact .inr ⟨outcome, hwhole, rfl, .inr ⟨Bool.eq_false_iff.2 hblock, hsound, rfl⟩⟩
    · rw [if_neg hsound]
      exact .inl ⟨.dangling, s.isBroken, rfl, .inl⟩

/-- A statement that goes through has the result of its change and leaves the store that this makes,
and no broken block. -/
theorem execute_ok {change : Store → Except Fault (Change α)} {s t : Session} {a : α}
    (h : execute change s = (.ok a, t)) :
    ∃ outcome, change s.store = .ok outcome ∧ t.store = outcome.store ∧ t.isBroken = false ∧
      outcome.result = a := by
  rcases execute_cases change s with ⟨_, _, hrun, _⟩ |
    ⟨outcome, hwhole, hchange, ⟨_, hrun⟩ | ⟨_, _, hrun⟩⟩
  · rw [hrun] at h
    cases h
  · rw [hrun] at h
    cases h
    exact ⟨outcome, hchange, rfl, hwhole, rfl⟩
  · rw [hrun] at h
    cases h
    refine ⟨outcome, hchange, Session.store_bumpAll _ _, ?_, rfl⟩
    rw [Session.isBroken_bumpAll]
    exact hwhole

theorem execute_of_isBroken (change : Store → Except Fault (Change α)) {s : Session}
    (hbroken : s.isBroken = true) : execute change s = (.error .blockBroken, s) := by
  unfold execute
  rw [if_pos hbroken]

theorem execute_of_error {change : Store → Except Fault (Change α)} {s : Session} {fault : Fault}
    (hwhole : s.isBroken = false) (h : change s.store = .error fault) :
    execute change s = (.error fault, { s with isBroken := s.inBlock && fault.breaksBlock }) := by
  unfold execute
  rw [hwhole, h]
  rfl

/-- A change is made if it leaves a sound store, or is made in a block. -/
theorem execute_of_ok {change : Store → Except Fault (Change α)} {s : Session} {result : α}
    {after : Store} (hwhole : s.isBroken = false) (h : change s.store = .ok ⟨after, result, []⟩)
    (hsound : s.inBlock = false → after.IsSound) :
    execute change s = (.ok result, { s with store := after }) := by
  unfold execute
  rw [if_neg (by rw [hwhole]; exact Bool.false_ne_true), h]
  dsimp only
  by_cases hblock : s.inBlock = true
  · rw [if_pos hblock, List.append_nil]
  · have hafter := (Store.isSound_iff after).2 (hsound (Bool.eq_false_iff.2 hblock))
    rw [if_neg hblock, if_pos hafter]
    rfl

theorem query_of_isBroken (read : Store → Except Fault α) {s : Session} (h : s.isBroken = true) :
    query read s = (.error .blockBroken, s) := by
  unfold query
  rw [if_pos h]

theorem query_of_whole (read : Store → Except Fault α) {s : Session} (hwhole : s.isBroken = false) :
    query read s = (read s.store, s) := by
  unfold query
  rw [if_neg (by rw [hwhole]; exact Bool.false_ne_true)]

theorem query_ok {read : Store → Except Fault α} {s t : Session} {a : α}
    (h : query read s = (.ok a, t)) : read s.store = .ok a ∧ t = s := by
  unfold query at h
  split at h
  · cases h
  · obtain ⟨hread, rfl⟩ := Prod.mk.inj h
    exact ⟨hread, rfl⟩

theorem bind_ok {first : Proc α} {next : α → Proc β} {s t : Session} {b : β}
    (h : (first >>= next) s = (.ok b, t)) :
    ∃ a u, first s = (.ok a, u) ∧ next a u = (.ok b, t) := by
  rw [bind_apply] at h
  cases hrun : first s with
  | mk result u =>
    rw [hrun] at h
    cases result with
    | error fault => cases h
    | ok a => exact ⟨a, u, rfl, h⟩

theorem map_apply (f : α → β) (proc : Proc α) (s : Session) :
    (f <$> proc) s = ((proc s).1.map f, (proc s).2) := by
  rw [← bind_pure_comp, bind_apply]
  cases proc s with
  | mk result t => cases result <;> rfl

theorem exists_ok {proc : Proc α} {s : Session} (h : (proc s).1.toOption.isSome = true) :
    ∃ a t, proc s = (.ok a, t) := by
  cases hrun : proc s with
  | mk result t =>
    rw [hrun] at h
    cases result with
    | error fault => cases h
    | ok a => exact ⟨a, t, rfl⟩

/-- A block is undone, or what its body has done is kept. -/
theorem atomicIf_cases (keep : α → Bool) (body : Proc α) (s : Session) :
    (∃ result, atomicIf keep body s = (result, undo s (body { s with inBlock := true }).2)) ∨
    ∃ a t, body { s with inBlock := true } = (.ok a, t) ∧ t.isBroken = false ∧
      (s.inBlock = true ∧ atomicIf keep body s = (.ok a, t) ∨
        s.inBlock = false ∧ t.store.isSound = true ∧ atomicIf keep body s =
          (.ok a, { t with inBlock := false, pending := [] }.bumpAll t.pending)) := by
  unfold atomicIf
  dsimp only
  cases hbody : body { s with inBlock := true } with
  | mk result t =>
    cases result with
    | error fault => exact .inl ⟨_, rfl⟩
    | ok a =>
      dsimp only
      by_cases hkeep : (t.isBroken || !keep a) = true
      · rw [if_pos hkeep]
        exact .inl ⟨_, rfl⟩
      rw [if_neg hkeep]
      have hwhole : t.isBroken = false := by
        rw [Bool.not_eq_true, Bool.or_eq_false_iff] at hkeep
        exact hkeep.1
      by_cases hblock : s.inBlock = true
      · rw [if_pos hblock]
        exact .inr ⟨a, t, rfl, hwhole, .inl ⟨hblock, rfl⟩⟩
      rw [if_neg hblock]
      by_cases hsound : t.store.isSound = true
      · rw [if_pos hsound]
        exact .inr ⟨a, t, rfl, hwhole, .inr ⟨Bool.eq_false_iff.2 hblock, hsound, rfl⟩⟩
      · rw [if_neg hsound]
        exact .inl ⟨_, rfl⟩

theorem atomicIf_of_error (keep : α → Bool) {body : Proc α} {s t : Session} {fault : Fault}
    (hbody : body { s with inBlock := true } = (.error fault, t)) :
    atomicIf keep body s = (.error fault, undo s t) := by
  unfold atomicIf
  rw [hbody]

/-- What becomes of a block whose body comes to a result: it is undone if it is broken or the result
is not to be kept, or if what would be final is not sound. -/
theorem atomicIf_of_ok (keep : α → Bool) {body : Proc α} {s t : Session} {a : α}
    (hbody : body { s with inBlock := true } = (.ok a, t)) :
    (t.isBroken = true ∨ keep a = false) ∧ atomicIf keep body s = (.ok a, undo s t) ∨
    t.isBroken = false ∧ keep a = true ∧
      (s.inBlock = true ∧ atomicIf keep body s = (.ok a, t) ∨
        s.inBlock = false ∧
          (atomicIf keep body s =
              (.ok a, { t with inBlock := false, pending := [] }.bumpAll t.pending) ∨
            atomicIf keep body s = (.error .dangling, undo s t))) := by
  unfold atomicIf
  rw [hbody]
  dsimp only
  by_cases hundone : (t.isBroken || !keep a) = true
  · rw [if_pos hundone]
    simp only [Bool.or_eq_true, Bool.not_eq_true'] at hundone
    exact .inl ⟨hundone, rfl⟩
  · rw [if_neg hundone]
    simp only [Bool.or_eq_true, Bool.not_eq_true', not_or, Bool.not_eq_true,
      Bool.not_eq_false] at hundone
    refine .inr ⟨hundone.1, hundone.2, ?_⟩
    by_cases hblock : s.inBlock = true
    · exact .inl ⟨hblock, if_pos hblock⟩
    · rw [if_neg hblock]
      refine .inr ⟨Bool.eq_false_iff.2 hblock, ?_⟩
      by_cases hsound : t.store.isSound = true
      · exact .inl (if_pos hsound)
      · exact .inr (if_neg hsound)

/-- A block that comes to a result has the store of its body, unless the body has left it broken. -/
theorem atomic_ok {body : Proc α} {s t : Session} {a : α} (h : atomic body s = (.ok a, t)) :
    ∃ u, body { s with inBlock := true } = (.ok a, u) ∧
      (u.isBroken = false → t.store = u.store) := by
  unfold atomic atomicIf at h
  dsimp only at h
  cases hbody : body { s with inBlock := true } with
  | mk result u =>
    rw [hbody] at h
    cases result with
    | error fault => cases h
    | ok b =>
      dsimp only at h
      by_cases hbroken : u.isBroken = true
      · rw [hbroken] at h
        cases h
        refine ⟨_, rfl, fun hwhole => ?_⟩
        rw [hwhole] at hbroken
        cases hbroken
      rw [Bool.eq_false_iff.2 hbroken] at h
      split at h
      · next hundone => cases hundone
      · split at h
        · cases h
          exact ⟨_, rfl, fun _ => rfl⟩
        · split at h
          · cases h
            exact ⟨_, rfl, fun _ => Session.store_bumpAll _ _⟩
          · cases h

/-! ## Relations that are kept -/

variable {rel : Store → Store → Prop} {s : Session}

theorem keepsAt_ask_bind {value : Session → α} {next : α → Proc β}
    (h : KeepsAt rel s (next (value s))) : KeepsAt rel s (ask value >>= next) := h

variable [IsPreorder Store rel]

theorem keepsAt_of_store_eq {proc : Proc α} (h : (proc s).2.store = s.store) :
    KeepsAt rel s proc := by
  unfold KeepsAt
  rw [h]
  exact refl_of rel s.store

theorem keepsAt_pure (a : α) : KeepsAt rel s (pure a) := keepsAt_of_store_eq rfl

theorem keepsAt_fail (fault : Fault) : KeepsAt rel s (fail fault : Proc α) :=
  keepsAt_of_store_eq rfl

theorem keepsAt_query (read : Store → Except Fault α) : KeepsAt rel s (query read) := by
  apply keepsAt_of_store_eq
  unfold query
  split <;> rfl

theorem keepsAt_alter {change : Session → Session} (h : (change s).store = s.store) :
    KeepsAt rel s (alter change) := keepsAt_of_store_eq h

/-- What two procedures keep, one after the other keeps. -/
theorem keepsAt_bind {first : Proc α} {next : α → Proc β} (hfirst : KeepsAt rel s first)
    (hnext : ∀ a t, first s = (.ok a, t) → KeepsAt rel t (next a)) :
    KeepsAt rel s (first >>= next) := by
  unfold KeepsAt at hfirst ⊢
  rw [bind_apply]
  cases hrun : first s with
  | mk result t =>
    rw [hrun] at hfirst
    cases result with
    | error fault => exact hfirst
    | ok a => exact trans_of rel hfirst (hnext a t hrun)

/-- What follows a reading is known to run with what was read. -/
theorem keepsAt_query_bind {read : Store → Except Fault α} {next : α → Proc β}
    (h : ∀ a, read s.store = .ok a → KeepsAt rel s (next a)) :
    KeepsAt rel s (query read >>= next) := by
  refine keepsAt_bind (keepsAt_query read) fun a t hrun => ?_
  obtain ⟨hread, rfl⟩ := query_ok hrun
  exact h a hread

theorem keepsAt_execute {change : Store → Except Fault (Change α)}
    (h : ∀ outcome, change s.store = .ok outcome → rel s.store outcome.store) :
    KeepsAt rel s (execute change) := by
  unfold KeepsAt
  rcases execute_cases change s with ⟨_, _, hrun, _⟩ |
    ⟨outcome, _, hchange, ⟨_, hrun⟩ | ⟨_, _, hrun⟩⟩
  · rw [hrun]
    exact refl_of rel s.store
  · rw [hrun]
    exact h outcome hchange
  · rw [hrun, Session.store_bumpAll]
    exact h outcome hchange

/-- A block keeps what its body keeps. -/
theorem keepsAt_atomicIf {keep : α → Bool} {body : Proc α}
    (h : KeepsAt rel { s with inBlock := true } body) : KeepsAt rel s (atomicIf keep body) := by
  unfold KeepsAt at h ⊢
  rcases atomicIf_cases keep body s with ⟨_, hrun⟩ | ⟨a, t, hbody, _, ⟨_, hrun⟩ | ⟨_, _, hrun⟩⟩
  · rw [hrun]
    exact refl_of rel s.store
  · rw [hbody] at h
    rw [hrun]
    exact h
  · rw [hbody] at h
    rw [hrun, Session.store_bumpAll]
    exact h

end Proc

end Clearance

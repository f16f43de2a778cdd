import Clearance.Proofs.Screening.Statements
import Clearance.Proofs.Store.Edit

/-!
# The course of a session

Procedures are made of a few things: statements that edit the store, blocks, compilations, and
changes of what has no part in any of these. A relation between a session and what becomes of it
is a course if all of them follow it. What is made of them follows it then as well, and so a law of
all sessions needs to be proved of these few things only.
-/

set_option autoImplicit false

namespace Clearance

/-- Two sessions that differ at most in what is told and shown: the contexts kept, the events, the
answers, the configuration and the serial numbers. -/
structure Session.SameRecord (s t : Session) : Prop where
  store : t.store = s.store
  inBlock : t.inBlock = s.inBlock
  isBroken : t.isBroken = s.isBroken
  pending : t.pending = s.pending
  generations : t.generations = s.generations
  compiled : t.compiled = s.compiled
  clock : t.clock = s.clock
  jobs : t.jobs = s.jobs

namespace Proc

variable {α β : Type}

/-! ## What compiling comes to -/

/-- A vocabulary is compiled from the rules of the store as it is. -/
theorem compileNow_of_whole (vocabulary : Word.Vocabulary) {s : Session}
    (hwhole : s.isBroken = false) :
    compileNow vocabulary s = (.ok ⟨s.compilations, Word.compile (s.store.rules vocabulary)⟩,
      { s with compilations := s.compilations + 1 }) := by
  have hrules : query (fun store => .ok (store.rules vocabulary)) s =
      (.ok (s.store.rules vocabulary), s) := query_of_whole _ hwhole
  unfold compileNow
  rw [bind_of_ok hrules]
  rfl

theorem compileNow_of_isBroken (vocabulary : Word.Vocabulary) {s : Session}
    (hbroken : s.isBroken = true) : compileNow vocabulary s = (.error .blockBroken, s) := by
  unfold compileNow
  rw [bind_of_error (query_of_isBroken _ hbroken)]

/-- The session in which the vocabulary compiled last is kept, unless a block is open. -/
def keeping (vocabulary : Word.Vocabulary) (generation : Int) (fresh : Compiled) (s : Session) :
    Session :=
  if s.inBlock then s
  else { s with compiled := s.compiled.set vocabulary (some (generation, fresh)) }

/-- A vocabulary that was compiled for the present generation is used again, and else is compiled
now. A generation that is read is there from then on. -/
theorem compiled_apply (vocabulary : Word.Vocabulary) (s : Session) :
    compiled vocabulary s =
      let t := s.withGeneration vocabulary
      let generation := t.generation vocabulary
      match kept? vocabulary generation t with
      | some compiled => (.ok compiled, t)
      | none => match compileNow vocabulary t with
        | (.ok fresh, u) => (.ok fresh, keeping vocabulary generation fresh u)
        | (.error fault, u) => (.error fault, u) := by
  have hread : readGeneration vocabulary s =
      (.ok ((s.withGeneration vocabulary).generation vocabulary), s.withGeneration vocabulary) := rfl
  unfold compiled
  rw [bind_of_ok hread]
  dsimp only
  rw [bind_apply]
  dsimp only [ask_apply]
  cases kept? vocabulary ((s.withGeneration vocabulary).generation vocabulary)
      (s.withGeneration vocabulary) with
  | some compiled => rfl
  | none =>
    dsimp only
    rw [bind_apply]
    cases compileNow vocabulary (s.withGeneration vocabulary) with
    | mk result u => cases result <;> rfl

/-! ## Relations that sessions follow -/

/-- Whether a session stands in a relation to what a procedure makes of it. -/
def FollowsAt (rel : Session → Session → Prop) (s : Session) (proc : Proc α) : Prop :=
  rel s (proc s).2

/-- Whether every session stands in a relation to what a procedure makes of it. -/
def Follows (rel : Session → Session → Prop) (proc : Proc α) : Prop := ∀ s, FollowsAt rel s proc

/-- What follows is done in the session that the first procedure leaves with its result. -/
theorem followsAt_bind (rel : Session → Session → Prop)
    (htrans : ∀ {s t u}, rel s t → rel t u → rel s u) {first : Proc α} {next : α → Proc β}
    {s : Session} (hfirst : FollowsAt rel s first)
    (hnext : ∀ a t, first s = (.ok a, t) → FollowsAt rel t (next a)) :
    FollowsAt rel s (first >>= next) := by
  unfold FollowsAt at hfirst ⊢
  rw [bind_apply]
  cases hrun : first s with
  | mk result t =>
    rw [hrun] at hfirst
    cases result with
    | error fault => exact hfirst
    | ok a => exact htrans hfirst (hnext a t hrun)

theorem followsAt_map {rel : Session → Session → Prop} (f : α → β) {proc : Proc α} {s : Session}
    (h : FollowsAt rel s proc) : FollowsAt rel s (f <$> proc) := by
  unfold FollowsAt
  rw [map_apply]
  exact h

theorem follows_attempt {rel : Session → Session → Prop} {proc : Proc α} (h : Follows rel proc) :
    Follows rel (attempt proc) := h

/-- A relation that sessions stand in to what becomes of them, whatever statements, blocks and
compilations there are. -/
structure IsCourse (rel : Session → Session → Prop) : Prop where
  trans : ∀ {s t u}, rel s t → rel t u → rel s u
  aside : ∀ {s t : Session}, s.SameRecord t → rel s t
  edit : ∀ {α : Type} {change : Store → Except Fault (Change α)}, Store.IsEdit change →
    Follows rel (execute change)
  undone : ∀ {s t}, rel { s with inBlock := true } t → rel s (undo s t)
  final : ∀ {s t}, s.inBlock = false → rel { s with inBlock := true } t → t.isBroken = false →
    t.store.isSound = true → rel s ({ t with inBlock := false, pending := [] }.bumpAll t.pending)
  generation : ∀ s vocabulary, rel s (s.withGeneration vocabulary)
  kept : ∀ s vocabulary serial, s.inBlock = false → (s.generations.get vocabulary).isSome = true →
    rel s { s with compiled := s.compiled.set vocabulary (some (s.generation vocabulary,
      ⟨serial, Word.compile (s.store.rules vocabulary)⟩)) }
  cleared : ∀ s, rel s { s with compiled := .both none }

namespace IsCourse

variable {rel : Session → Session → Prop} (course : IsCourse rel)

include course

theorem refl (s : Session) : rel s s := course.aside ⟨rfl, rfl, rfl, rfl, rfl, rfl, rfl, rfl⟩

/-! ## How procedures are made -/

theorem pure (a : α) : Follows rel (Pure.pure a) := fun s => course.refl s

theorem fail (fault : Fault) : Follows rel (Proc.fail fault : Proc α) := fun s => course.refl s

theorem ask (value : Session → α) : Follows rel (Proc.ask value) := fun s => course.refl s

theorem lift (result : Except Fault α) : Follows rel (Proc.lift result) := fun s => course.refl s

theorem query (read : Store → Except Fault α) : Follows rel (Proc.query read) := by
  intro s
  unfold FollowsAt Proc.query
  split <;> exact course.refl s

theorem alter {change : Session → Session} (h : ∀ s : Session, s.SameRecord (change s)) :
    Follows rel (Proc.alter change) := fun s => course.aside (h s)

theorem bindAt {first : Proc α} {next : α → Proc β} {s : Session} (hfirst : FollowsAt rel s first)
    (hnext : ∀ a t, first s = (.ok a, t) → FollowsAt rel t (next a)) :
    FollowsAt rel s (first >>= next) := followsAt_bind rel course.trans hfirst hnext

theorem bind {first : Proc α} {next : α → Proc β} (hfirst : Follows rel first)
    (hnext : ∀ a, Follows rel (next a)) : Follows rel (first >>= next) :=
  fun s => course.bindAt (hfirst s) fun a t _ => hnext a t

/-- What follows a reading is known to run in the same session, with what was read. -/
theorem queryBindAt {read : Store → Except Fault α} {next : α → Proc β} {s : Session}
    (hnext : ∀ a, read s.store = .ok a → FollowsAt rel s (next a)) :
    FollowsAt rel s (Proc.query read >>= next) := by
  refine course.bindAt (course.query read s) fun a t hrun => ?_
  obtain ⟨hread, rfl⟩ := query_ok hrun
  exact hnext a hread

theorem map (f : α → β) {proc : Proc α} (h : Follows rel proc) : Follows rel (f <$> proc) :=
  course.bind h fun a => course.pure (f a)

theorem atomicIfAt {keep : α → Bool} {body : Proc α} {s : Session}
    (h : FollowsAt rel { s with inBlock := true } body) :
    FollowsAt rel s (Proc.atomicIf keep body) := by
  unfold FollowsAt at h ⊢
  rcases atomicIf_cases keep body s with ⟨_, hrun⟩ |
    ⟨a, t, hinside, hwhole, ⟨hblock, hrun⟩ | ⟨hblock, hsound, hrun⟩⟩
  · rw [hrun]
    exact course.undone h
  · rw [hinside] at h
    rw [hrun]
    have hsame : { s with inBlock := true } = s := by
      rw [← hblock]
    rwa [hsame] at h
  · rw [hinside] at h
    rw [hrun]
    exact course.final hblock h hwhole hsound

theorem atomicIf {keep : α → Bool} {body : Proc α} (h : Follows rel body) :
    Follows rel (Proc.atomicIf keep body) := fun s => course.atomicIfAt (h { s with inBlock := true })

theorem atomic {body : Proc α} (h : Follows rel body) : Follows rel (Proc.atomic body) :=
  course.atomicIf h

/-! ## Compilation -/

theorem readGeneration (vocabulary : Word.Vocabulary) :
    Follows rel (Proc.readGeneration vocabulary) :=
  course.bind (fun s => course.generation s vocabulary) fun _ => course.ask _

/-- A vocabulary is compiled from the rules of the store, and kept with the generation that has been
read just before. -/
theorem compiled (vocabulary : Word.Vocabulary) : Follows rel (Proc.compiled vocabulary) := by
  intro s
  have hread := course.generation s vocabulary
  unfold FollowsAt
  rw [compiled_apply]
  dsimp only
  generalize hstarted : s.withGeneration vocabulary = t at hread
  have hsome : (t.generations.get vocabulary).isSome = true := by
    rw [← hstarted]
    simp [Session.withGeneration, Session.setGeneration]
  cases kept? vocabulary (t.generation vocabulary) t with
  | some compiled => exact hread
  | none =>
    dsimp only
    by_cases hbroken : t.isBroken = true
    · rw [compileNow_of_isBroken vocabulary hbroken]
      exact hread
    · rw [compileNow_of_whole vocabulary (Bool.eq_false_iff.2 hbroken)]
      dsimp only [keeping]
      by_cases hblock : t.inBlock = true
      · rw [if_pos hblock]
        exact course.trans hread (course.aside ⟨rfl, rfl, rfl, rfl, rfl, rfl, rfl, rfl⟩)
      · rw [if_neg hblock]
        have hkept := course.kept t vocabulary t.compilations (Bool.eq_false_iff.2 hblock) hsome
        exact course.trans (course.trans hread hkept)
          (course.aside ⟨rfl, rfl, rfl, rfl, rfl, rfl, rfl, rfl⟩)

/-! ## Screening -/

theorem loadContext (words codes : Bool) : Follows rel (Screening.loadContext words codes) := by
  have hwords : Follows rel Screening.loadWords := by
    unfold Screening.loadWords
    refine course.bind (course.compiled _) fun stopWords =>
      course.bind (course.compiled _) fun keyWords => course.bind (course.ask _) fun backend => ?_
    split
    · exact course.pure _
    · exact course.fail _
  have hcodes : ∀ wordContext : Option Screening.WordContext, Follows rel
      (Screening.loadCodes >>= fun prefixes =>
        (Pure.pure ⟨wordContext, some prefixes⟩ : Proc Screening.Context)) :=
    fun wordContext => course.bind (course.query _) fun _ => course.pure _
  unfold Screening.loadContext
  cases words with
  | false =>
    cases codes with
    | false => exact course.pure _
    | true => exact hcodes none
  | true =>
    refine course.bind hwords fun wordContext => ?_
    cases codes with
    | false => exact course.pure _
    | true => exact hcodes (some wordContext)

theorem screenWith (context : Screening.Context) (scope : Scope) (id : Int) :
    Follows rel (Screening.screenWith context scope id) := by
  rw [Screening.screenWith_eq]
  exact course.atomic (course.edit (Store.isEdit_screenParcel context scope id))

/-- A screening at which an error strikes is followed as well, since it does nothing. -/
theorem struck (strikes : Screening.Strikes) (context : Screening.Context) (scope : Scope)
    (id : Int) : Follows rel (strikes.screenWith context scope id) := by
  intro s
  unfold FollowsAt
  rcases strikes.screenWith_cases context scope id s with hsame | ⟨_, _, _, hrun⟩
  · rw [hsame]
    exact course.screenWith context scope id s
  · rw [hrun]
    exact course.refl s

theorem screen (scope : Scope) (given : Option Screening.Context) (id : Int) :
    Follows rel (Screening.screen scope given id) := by
  have hcontext : Follows rel (Screening.contextFor scope given) := by
    unfold Screening.contextFor
    cases given with
    | none => exact course.loadContext _ _
    | some context =>
      dsimp only
      split
      · exact course.pure _
      · exact course.loadContext _ _
  exact course.bind hcontext fun context => course.screenWith context scope id

end IsCourse

end Proc

end Clearance

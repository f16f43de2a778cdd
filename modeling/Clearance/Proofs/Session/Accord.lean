import Clearance.Proofs.Session.Alike
import Clearance.Proofs.Session.Settled
import Clearance.Screening.Loading

/-!
# Statements and blocks in accord

Two runs of a statement or a block are in accord in sessions that differ neither in the block that
is open nor in whether what becomes final is sound. So are the compilations of a vocabulary, and
with them the loading of a context, where the sessions share the words as well.
-/

set_option autoImplicit false

namespace Clearance

variable {α β : Type}

namespace Proc

variable {rel : Session → Session → Prop} {same : α → β → Prop} {s t u v : Session}

/-! ## What statements and blocks come to -/

/-- What becomes of a change that can be made. -/
theorem execute_of_change {change : Store → Except Fault (Change α)} {outcome : Change α}
    (hwhole : s.isBroken = false) (h : change s.store = .ok outcome) : execute change s =
      if s.inBlock then (.ok outcome.result,
        { s with store := outcome.store, pending := s.pending ++ outcome.touched })
      else if outcome.store.isSound then
        (.ok outcome.result, { s with store := outcome.store }.bumpAll outcome.touched)
      else (.error .dangling, s) := by
  unfold execute
  rw [if_neg (by rw [hwhole]; exact Bool.false_ne_true), h]

/-- What becomes of a block whose body comes to a result. -/
theorem atomicIf_of_result (keep : α → Bool) {body : Proc α} {a : α}
    (hbody : body { s with inBlock := true } = (.ok a, t)) : atomicIf keep body s =
      if t.isBroken || !keep a then (.ok a, undo s t)
      else if s.inBlock then (.ok a, t)
      else if t.store.isSound then
        (.ok a, { t with inBlock := false, pending := [] }.bumpAll t.pending)
      else (.error .dangling, undo s t) := by
  unfold atomicIf
  rw [hbody]

/-! ## Relations in which statements and blocks run in accord -/

/-- A relation between sessions that blocks, generations and what becomes final do not break. -/
structure IsAccord (rel : Session → Session → Prop) : Prop where
  inBlock : ∀ {s t}, rel s t → t.inBlock = s.inBlock
  isBroken : ∀ {s t}, rel s t → t.isBroken = s.isBroken
  pending : ∀ {s t}, rel s t → t.pending = s.pending
  isSound : ∀ {s t}, rel s t → t.store.isSound = s.store.isSound
  broken : ∀ {s t}, rel s t → ∀ isBroken,
    rel { s with isBroken := isBroken } { t with isBroken := isBroken }
  opened : ∀ {s t}, rel s t → rel { s with inBlock := true } { t with inBlock := true }
  closed : ∀ {s t}, rel s t →
    rel { s with inBlock := false, pending := [] } { t with inBlock := false, pending := [] }
  queued : ∀ {s t}, rel s t → ∀ touched,
    rel { s with pending := s.pending ++ touched } { t with pending := t.pending ++ touched }
  bumped : ∀ {s t}, rel s t → ∀ vocabulary, rel (s.bump vocabulary) (t.bump vocabulary)
  undone : ∀ {s t u v}, rel s t → rel u v → rel (undo s u) (undo t v)

/-- Whether two changes of the stores of two sessions come to alike results, and the sessions stay
in a relation with the stores changed. -/
def ChangesAlike (rel : Session → Session → Prop) (same : α → β → Prop) (s t : Session) :
    Except Fault (Change α) → Except Fault (Change β) → Prop :=
  Alike fun outcome outcome' => same outcome.result outcome'.result ∧
    outcome'.touched = outcome.touched ∧
    rel { s with store := outcome.store } { t with store := outcome'.store }

namespace IsAccord

variable (accord : IsAccord rel)

include accord

theorem bumpedAll (h : rel s t) (touched : List Word.Vocabulary) :
    rel (s.bumpAll touched) (t.bumpAll touched) := by
  induction touched generalizing s t with
  | nil => exact h
  | cons vocabulary rest ih => exact ih (accord.bumped h vocabulary)

theorem queryAt {read : Store → Except Fault α} {read' : Store → Except Fault β} (h : rel s t)
    (hread : Alike same (read s.store) (read' t.store)) :
    AccordsAt rel same s t (query read) (query read') := by
  have hbroken := accord.isBroken h
  by_cases hwhole : s.isBroken = true
  · exact ⟨by unfold query; rw [hbroken, hwhole]; exact .error _,
      by unfold query; rw [hbroken, hwhole]; exact h⟩
  · rw [Bool.not_eq_true] at hwhole
    rw [hwhole] at hbroken
    exact ⟨by rw [query_of_whole _ hwhole, query_of_whole _ hbroken]; exact hread,
      by rw [query_of_whole _ hwhole, query_of_whole _ hbroken]; exact h⟩

/-- Two statements run in accord if their changes do. -/
theorem executeAt {change : Store → Except Fault (Change α)}
    {change' : Store → Except Fault (Change β)} (h : rel s t)
    (hchange : ChangesAlike rel same s t (change s.store) (change' t.store)) :
    AccordsAt rel same s t (execute change) (execute change') := by
  by_cases hbroken : s.isBroken = true
  · exact .of_runs (execute_of_isBroken change hbroken)
      (execute_of_isBroken change' ((accord.isBroken h).trans hbroken)) (.error .blockBroken) h
  have hwhole : s.isBroken = false := Bool.eq_false_iff.2 hbroken
  have hwhole' : t.isBroken = false := (accord.isBroken h).trans hwhole
  generalize hfirst : change s.store = first at hchange
  generalize hsecond : change' t.store = second at hchange
  cases hchange with
  | error fault =>
    have hrun' := execute_of_error hwhole' hsecond
    have hsame : (t.inBlock && fault.breaksBlock) = (s.inBlock && fault.breaksBlock) := by
      rw [accord.inBlock h]
    rw [hsame] at hrun'
    exact .of_runs (execute_of_error hwhole hfirst) hrun' (.error fault) (accord.broken h _)
  | @ok outcome outcome' halike =>
    obtain ⟨hresult, htouched, hstores⟩ := halike
    have hsame : outcome'.store.isSound = outcome.store.isSound := accord.isSound hstores
    have hrun := execute_of_change hwhole hfirst
    have hrun' := execute_of_change hwhole' hsecond
    rw [htouched] at hrun'
    by_cases hblock : s.inBlock = true
    · rw [if_pos hblock] at hrun
      rw [if_pos ((accord.inBlock h).trans hblock)] at hrun'
      exact .of_runs hrun hrun' (.ok hresult) (accord.queued hstores outcome.touched)
    rw [if_neg hblock] at hrun
    rw [if_neg (by rwa [accord.inBlock h]), hsame] at hrun'
    by_cases hsound : outcome.store.isSound = true
    · rw [if_pos hsound] at hrun hrun'
      exact .of_runs hrun hrun' (.ok hresult) (accord.bumpedAll hstores outcome.touched)
    · rw [if_neg hsound] at hrun hrun'
      exact .of_runs hrun hrun' (.error .dangling) h

/-- Two blocks run in accord if their bodies do and the same results are to be kept. -/
theorem atomicIfAt {keep : α → Bool} {keep' : β → Bool} {body : Proc α} {body' : Proc β}
    (h : rel s t) (hkeep : ∀ a b, same a b → keep' b = keep a)
    (hbody : AccordsAt rel same { s with inBlock := true } { t with inBlock := true } body body') :
    AccordsAt rel same s t (atomicIf keep body) (atomicIf keep' body') := by
  obtain ⟨hresult, hinside⟩ := hbody
  have hundo := accord.undone h hinside
  cases hfirst : body { s with inBlock := true } with
  | mk result u =>
    cases hsecond : body' { t with inBlock := true } with
    | mk result' v =>
      rw [hfirst, hsecond] at hresult hinside hundo
      cases hresult with
      | error fault =>
        exact .of_runs (atomicIf_of_error keep hfirst) (atomicIf_of_error keep' hsecond)
          (.error fault) hundo
      | @ok a b hab =>
        have hrun := atomicIf_of_result keep hfirst
        have hrun' := atomicIf_of_result keep' hsecond
        rw [hkeep a b hab] at hrun'
        by_cases hundone : (u.isBroken || !keep a) = true
        · rw [if_pos hundone] at hrun
          rw [if_pos (by rwa [accord.isBroken hinside])] at hrun'
          exact .of_runs hrun hrun' (.ok hab) hundo
        rw [if_neg hundone] at hrun
        rw [if_neg (by rwa [accord.isBroken hinside])] at hrun'
        by_cases hblock : s.inBlock = true
        · rw [if_pos hblock] at hrun
          rw [if_pos ((accord.inBlock h).trans hblock)] at hrun'
          exact .of_runs hrun hrun' (.ok hab) hinside
        rw [if_neg hblock] at hrun
        rw [if_neg (by rwa [accord.inBlock h]), accord.isSound hinside] at hrun'
        by_cases hsound : u.store.isSound = true
        · rw [if_pos hsound] at hrun hrun'
          have hpending := accord.pending hinside
          have hfinal := accord.bumpedAll (accord.closed hinside) u.pending
          rw [hpending] at hrun'
          exact .of_runs hrun hrun' (.ok hab) hfinal
        · rw [if_neg hsound] at hrun hrun'
          exact .of_runs hrun hrun' (.error .dangling) hundo

end IsAccord

/-! ## Compilation -/

/-- A relation in which sessions share the words, what has been compiled of them and the engine. -/
structure SharesWords (rel : Session → Session → Prop) : Prop extends IsAccord rel where
  clock : ∀ {s t}, rel s t → t.clock = s.clock
  generations : ∀ {s t}, rel s t → t.generations = s.generations
  compiled : ∀ {s t}, rel s t → t.compiled = s.compiled
  compilations : ∀ {s t}, rel s t → t.compilations = s.compilations
  backend : ∀ {s t}, rel s t → t.backend = s.backend
  rules : ∀ {s t}, rel s t → ∀ vocabulary, t.store.rules vocabulary = s.store.rules vocabulary
  regenerated : ∀ {s t}, rel s t → ∀ generations,
    rel { s with generations := generations } { t with generations := generations }
  kept : ∀ {s t}, rel s t → ∀ compiled,
    rel { s with compiled := compiled } { t with compiled := compiled }
  recounted : ∀ {s t}, rel s t → ∀ compilations,
    rel { s with compilations := compilations } { t with compilations := compilations }

namespace SharesWords

variable (shares : SharesWords rel)

include shares

theorem generation (h : rel s t) (vocabulary : Word.Vocabulary) :
    t.generation vocabulary = s.generation vocabulary := by
  unfold Session.generation Session.seed
  rw [shares.generations h, shares.clock h]

theorem accords_readGeneration (vocabulary : Word.Vocabulary) :
    RunsAlike rel (readGeneration vocabulary) := by
  have hread : RunsAlike rel (alter (·.withGeneration vocabulary)) := fun s t h => by
    refine accordsAt_alter ?_
    unfold Session.withGeneration Session.setGeneration
    rw [shares.generation h, shares.generations h]
    exact shares.regenerated h _
  unfold readGeneration
  exact hread.bindEq fun _ _ _ h => accordsAt_ask (shares.generation h vocabulary).symm h

theorem accords_compileNow (vocabulary : Word.Vocabulary) :
    RunsAlike rel (compileNow vocabulary) := by
  have hrules : RunsAlike rel (query fun store => .ok (store.rules vocabulary)) := fun s t h =>
    shares.queryAt h (.ok (shares.rules h vocabulary).symm)
  have hserial : RunsAlike rel (ask (·.compilations)) := fun s t h =>
    accordsAt_ask (shares.compilations h).symm h
  unfold compileNow
  refine hrules.bindEq fun rules => hserial.bindEq fun serial => ?_
  have hcount : RunsAlike rel (alter fun s => { s with compilations := serial + 1 }) := fun s t h =>
    accordsAt_alter (shares.recounted h _)
  exact hcount.bindEq fun _ => accords_pure rfl

/-- A vocabulary is taken as it was compiled in both runs, or compiled anew in both. -/
theorem accords_compiled (vocabulary : Word.Vocabulary) :
    RunsAlike rel (Proc.compiled vocabulary) := by
  unfold Proc.compiled
  refine (shares.accords_readGeneration vocabulary).bindEq fun generation => ?_
  have hkept : RunsAlike rel (ask (kept? vocabulary generation)) := fun s t h => by
    refine accordsAt_ask ?_ h
    unfold kept?
    rw [shares.compiled h]
  refine hkept.bindEq fun found => ?_
  cases found with
  | some compiled => exact accords_pure rfl
  | none =>
    refine (shares.accords_compileNow vocabulary).bindEq fun fresh => ?_
    have hkeep : RunsAlike rel (alter fun s => if s.inBlock then s
          else { s with compiled := s.compiled.set vocabulary (some (generation, fresh)) }) := by
      refine fun s t h => accordsAt_alter ?_
      by_cases hblock : s.inBlock = true
      · rw [if_pos hblock, if_pos ((shares.inBlock h).trans hblock)]
        exact h
      · rw [if_neg hblock, if_neg (by rwa [shares.inBlock h]), shares.compiled h]
        exact shares.kept h _
    exact hkeep.bindEq fun _ => accords_pure rfl

end SharesWords

end Proc

namespace Screening

open Proc

variable {rel : Session → Session → Prop}

theorem accords_loadWords (shares : SharesWords rel) : RunsAlike rel loadWords := by
  have hbackend : RunsAlike rel (ask (·.backend)) := fun _ _ h =>
    accordsAt_ask (shares.backend h).symm h
  unfold loadWords
  refine (shares.accords_compiled .stopWords).bindEq fun stopWords =>
    (shares.accords_compiled .keyWords).bindEq fun keyWords => hbackend.bindEq fun backend => ?_
  split
  · exact accords_pure rfl
  · exact accords_fail _

theorem accords_loadCodes (accord : Proc.IsAccord rel)
    (hrules : ∀ {s t}, rel s t → t.store.prefixRules = s.store.prefixRules) :
    RunsAlike rel loadCodes := by
  refine fun s t h => accord.queryAt h ?_
  rw [hrules h]
  exact .refl _

/-- The parts of a context are loaded alike if what they are loaded from is shared. -/
theorem accords_loadContext (accord : Proc.IsAccord rel) (words codes : Bool)
    (hwords : words = true → SharesWords rel)
    (hcodes : codes = true → ∀ {s t}, rel s t → t.store.prefixRules = s.store.prefixRules) :
    RunsAlike rel (loadContext words codes) := by
  have hpart : ∀ wordContext : Option WordContext, RunsAlike rel
      (do pure ⟨wordContext, ← if codes then do pure (some (← loadCodes)) else pure none⟩ :
        Proc Context) := by
    intro wordContext
    cases codes with
    | false => exact accords_pure rfl
    | true =>
      exact (accords_loadCodes accord (hcodes rfl)).bindEq fun _ => accords_pure rfl
  cases words with
  | false => exact hpart none
  | true =>
    exact (accords_loadWords (hwords rfl)).bindEq fun wordContext => hpart (some wordContext)

end Screening

end Clearance

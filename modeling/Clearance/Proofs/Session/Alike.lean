import Clearance.Proofs.Session.Keeping

/-!
# Two runs in accord

Two sessions may differ in what a procedure has no part in. The two runs of the procedure are in
accord if they come to results that are alike, or to the same fault, and leave sessions that differ
no more than those before. The two procedures need not be the same: what the one was told may differ
from what the other was told, as long as the results are alike.
-/

set_option autoImplicit false

namespace Clearance

variable {α β γ δ : Type}

/-- Whether two results are alike: both are faults, and the same one, or neither is. -/
inductive Alike (same : α → β → Prop) : Except Fault α → Except Fault β → Prop
  | ok {a : α} {b : β} (alike : same a b) : Alike same (.ok a) (.ok b)
  | error (fault : Fault) : Alike same (.error fault) (.error fault)

namespace Alike

variable {same : α → β → Prop} {first : Except Fault α} {second : Except Fault β}

theorem refl (result : Except Fault α) : Alike Eq result result := by
  cases result with
  | ok a => exact .ok rfl
  | error fault => exact .error fault

theorem mono {less : α → β → Prop} (h : Alike same first second)
    (hless : ∀ a b, same a b → less a b) : Alike less first second := by
  cases h with
  | ok hab => exact .ok (hless _ _ hab)
  | error fault => exact .error fault

/-- What is done after results that are alike comes to alike results again. -/
theorem bind {later : γ → δ → Prop} {next : α → Except Fault γ} {next' : β → Except Fault δ}
    (h : Alike same first second) (hnext : ∀ a b, same a b → Alike later (next a) (next' b)) :
    Alike later (first >>= next) (second >>= next') := by
  cases h with
  | ok hab => exact hnext _ _ hab
  | error fault => exact .error fault

theorem eq {first second : Except Fault α} (h : Alike Eq first second) : first = second := by
  cases h with
  | ok hab => rw [hab]
  | error fault => rfl

end Alike

namespace Proc

variable {rel : Session → Session → Prop} {same : α → β → Prop} {later : γ → δ → Prop}
  {s t u v : Session}

/-- Whether the run of one procedure in one session is in accord with that of another in another. -/
structure AccordsAt (rel : Session → Session → Prop) (same : α → β → Prop) (s t : Session)
    (proc : Proc α) (proc' : Proc β) : Prop where
  result : Alike same (proc s).1 (proc' t).1
  sessions : rel (proc s).2 (proc' t).2

/-- Whether two procedures run in accord wherever two sessions are in a relation. -/
def Accords (rel : Session → Session → Prop) (same : α → β → Prop) (proc : Proc α)
    (proc' : Proc β) : Prop := ∀ s t, rel s t → AccordsAt rel same s t proc proc'

/-- Whether a procedure comes to the same result, or to the same fault, wherever two sessions are in
a relation, and leaves them in it. -/
abbrev RunsAlike (rel : Session → Session → Prop) (proc : Proc α) : Prop := Accords rel Eq proc proc

/-- Two runs are in accord if what they come to is. -/
theorem AccordsAt.of_runs {proc : Proc α} {proc' : Proc β} {result : Except Fault α}
    {result' : Except Fault β} (hrun : proc s = (result, u)) (hrun' : proc' t = (result', v))
    (hresult : Alike same result result') (hsessions : rel u v) :
    AccordsAt rel same s t proc proc' := by
  constructor
  · rw [hrun, hrun']
    exact hresult
  · rw [hrun, hrun']
    exact hsessions

theorem AccordsAt.mono {less : α → β → Prop} {proc : Proc α} {proc' : Proc β}
    (h : AccordsAt rel same s t proc proc') (hless : ∀ a b, same a b → less a b) :
    AccordsAt rel less s t proc proc' := ⟨h.result.mono hless, h.sessions⟩

theorem accordsAt_pure {a : α} {b : β} (hab : same a b) (h : rel s t) :
    AccordsAt rel same s t (pure a) (pure b) := ⟨.ok hab, h⟩

theorem accordsAt_fail (fault : Fault) (h : rel s t) :
    AccordsAt rel same s t (fail fault : Proc α) (fail fault : Proc β) := ⟨.error fault, h⟩

theorem accordsAt_lift {first : Except Fault α} {second : Except Fault β}
    (halike : Alike same first second) (h : rel s t) :
    AccordsAt rel same s t (lift first) (lift second) := ⟨halike, h⟩

theorem accordsAt_ask {value : Session → α} {value' : Session → β}
    (hvalue : same (value s) (value' t)) (h : rel s t) :
    AccordsAt rel same s t (ask value) (ask value') := ⟨.ok hvalue, h⟩

theorem accordsAt_alter {change change' : Session → Session} (h : rel (change s) (change' t)) :
    AccordsAt rel Eq s t (alter change) (alter change') := ⟨.ok rfl, h⟩

/-- What follows is done with results that are alike, in the sessions that the two runs leave. -/
theorem accordsAt_bind {first : Proc α} {first' : Proc β} {next : α → Proc γ} {next' : β → Proc δ}
    (hfirst : AccordsAt rel same s t first first')
    (hnext : ∀ a b u v, first s = (.ok a, u) → first' t = (.ok b, v) → same a b → rel u v →
      AccordsAt rel later u v (next a) (next' b)) :
    AccordsAt rel later s t (first >>= next) (first' >>= next') := by
  obtain ⟨hresult, hsessions⟩ := hfirst
  cases hrun : first s with
  | mk result u =>
    cases hrun' : first' t with
    | mk result' v =>
      rw [hrun, hrun'] at hresult hsessions
      cases hresult with
      | ok hab =>
        have h := hnext _ _ u v hrun hrun' hab hsessions
        exact ⟨by rw [bind_of_ok hrun, bind_of_ok hrun']; exact h.result,
          by rw [bind_of_ok hrun, bind_of_ok hrun']; exact h.sessions⟩
      | error fault =>
        exact ⟨by rw [bind_of_error hrun, bind_of_error hrun']; exact .error fault,
          by rw [bind_of_error hrun, bind_of_error hrun']; exact hsessions⟩

theorem accords_pure {a : α} {b : β} (hab : same a b) : Accords rel same (pure a) (pure b) :=
  fun _ _ h => accordsAt_pure hab h

theorem accords_fail (fault : Fault) :
    Accords rel same (fail fault : Proc α) (fail fault : Proc β) := fun _ _ h =>
  accordsAt_fail fault h

theorem accords_lift {first : Except Fault α} {second : Except Fault β}
    (halike : Alike same first second) : Accords rel same (lift first) (lift second) :=
  fun _ _ h => accordsAt_lift halike h

theorem Accords.bind {first : Proc α} {first' : Proc β} {next : α → Proc γ} {next' : β → Proc δ}
    (hfirst : Accords rel same first first')
    (hnext : ∀ a b, same a b → Accords rel later (next a) (next' b)) :
    Accords rel later (first >>= next) (first' >>= next') := fun s t h =>
  accordsAt_bind (hfirst s t h) fun a b u v _ _ hab huv => hnext a b hab u v huv

/-- What follows a reading that both runs do alike. -/
theorem Accords.bindEq {first first' : Proc α} {next : α → Proc γ} {next' : α → Proc δ}
    (hfirst : Accords rel Eq first first') (hnext : ∀ a, Accords rel later (next a) (next' a)) :
    Accords rel later (first >>= next) (first' >>= next') := by
  refine hfirst.bind fun a b hab => ?_
  rw [← hab]
  exact hnext a

theorem accordsAt_map {f : α → γ} {f' : β → δ} {proc : Proc α} {proc' : Proc β}
    (h : AccordsAt rel same s t proc proc') (hf : ∀ a b, same a b → later (f a) (f' b)) :
    AccordsAt rel later s t (f <$> proc) (f' <$> proc') := by
  obtain ⟨hresult, hsessions⟩ := h
  refine ⟨?_, ?_⟩
  · rw [map_apply, map_apply]
    cases hrun : proc s with
    | mk result u =>
      cases hrun' : proc' t with
      | mk result' v =>
        rw [hrun, hrun'] at hresult
        cases hresult with
        | ok hab => exact .ok (hf _ _ hab)
        | error fault => exact .error fault
  · rw [map_apply, map_apply]
    exact hsessions

theorem accordsAt_attempt {proc : Proc α} {proc' : Proc β}
    (h : AccordsAt rel same s t proc proc') :
    AccordsAt rel (Alike same) s t (attempt proc) (attempt proc') := ⟨.ok h.result, h.sessions⟩

theorem accords_attempt {proc : Proc α} (h : RunsAlike rel proc) : RunsAlike rel (attempt proc) :=
  fun s t hst => (accordsAt_attempt (h s t hst)).mono fun _ _ halike => halike.eq

end Proc

end Clearance

import Clearance.Proofs.Session.Course

/-!
# What answers nothing

While a job waits before a parcel, requests are served and their answers are noted in the session.
Whatever a worker does on its own notes nothing, loading the rules included.
-/

set_option autoImplicit false

namespace Clearance

open Proc

/-- Whether a procedure adds nothing to the answers given while a job waits. -/
def Proc.IsQuiet {α : Type} (proc : Proc α) : Prop :=
  Follows (fun s t => t.transcript = s.transcript) proc

namespace Proc

variable {α β : Type}

theorem isQuiet_pure (a : α) : IsQuiet (pure a) := fun _ => rfl

theorem isQuiet_fail (fault : Fault) : IsQuiet (fail fault : Proc α) := fun _ => rfl

theorem isQuiet_query (read : Store → Except Fault α) : IsQuiet (query read) := by
  intro s
  unfold FollowsAt query
  split <;> rfl

theorem isQuiet_bind {first : Proc α} {next : α → Proc β} (hfirst : IsQuiet first)
    (hnext : ∀ a, IsQuiet (next a)) : IsQuiet (first >>= next) := by
  intro s
  exact followsAt_bind _ (fun hst htu => htu.trans hst) (hfirst s) fun a t _ => hnext a t

theorem isQuiet_compiled (vocabulary : Word.Vocabulary) : IsQuiet (compiled vocabulary) := by
  have hnow : IsQuiet (compileNow vocabulary) :=
    isQuiet_bind (isQuiet_query _) fun _ => isQuiet_bind (fun _ => rfl) fun _ =>
      isQuiet_bind (fun _ => rfl) fun _ => isQuiet_pure _
  refine isQuiet_bind (isQuiet_bind (fun _ => rfl) fun _ _ => rfl) fun generation =>
    isQuiet_bind (fun _ => rfl) fun kept => ?_
  cases kept with
  | some compiled => exact isQuiet_pure _
  | none =>
    refine isQuiet_bind hnow fun fresh => isQuiet_bind (fun s => ?_) fun _ => isQuiet_pure _
    unfold FollowsAt
    rw [alter_apply]
    split <;> rfl

end Proc

namespace Screening

/-- Loading a context answers nothing. -/
theorem isQuiet_loadContext (words codes : Bool) : IsQuiet (loadContext words codes) := by
  have hwords : IsQuiet loadWords := by
    refine isQuiet_bind (isQuiet_compiled _) fun _ => isQuiet_bind (isQuiet_compiled _) fun _ =>
      isQuiet_bind (fun _ => rfl) fun backend => ?_
    cases backend.load with
    | ok engine => exact isQuiet_pure _
    | error reason => exact isQuiet_fail _
  have hcodes : ∀ wordContext : Option WordContext,
      IsQuiet (loadCodes >>= fun prefixes => pure (⟨wordContext, some prefixes⟩ : Context)) :=
    fun _ => isQuiet_bind (isQuiet_query _) fun _ => isQuiet_pure _
  unfold loadContext
  cases words with
  | false =>
    cases codes with
    | false => exact isQuiet_pure _
    | true => exact hcodes none
  | true =>
    refine isQuiet_bind hwords fun words => ?_
    cases codes with
    | false => exact isQuiet_pure _
    | true => exact hcodes (some words)

end Screening

end Clearance

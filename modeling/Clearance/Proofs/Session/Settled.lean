import Clearance.Proofs.Session.Course

/-!
# Settled sessions

Outside a block nothing is pending in a session and its store is sound. A change made in a block of
its own either takes effect as a whole or leaves the session as it was. Procedures are made of
statements, blocks and changes of what is not stored, so they all leave a settled session settled.
-/

set_option autoImplicit false

namespace Clearance

/-- A session without an open block takes statements, has nothing pending and a sound store. -/
def Session.IsSettled (s : Session) : Prop :=
  s.inBlock = false → s.isBroken = false ∧ s.pending = [] ∧ s.store.IsSound

namespace Proc

variable {α : Type} {change : Store → Except Fault (Change α)} {s : Session}

/-- A change outside a block is final at once if it leaves a sound store. -/
theorem execute_final (change : Store → Except Fault (Change α)) {outcome : Change α}
    (hblock : s.inBlock = false) (hwhole : s.isBroken = false)
    (h : change s.store = .ok outcome) (hsound : outcome.store.IsSound) :
    execute change s =
      (.ok outcome.result, { s with store := outcome.store }.bumpAll outcome.touched) := by
  unfold execute
  rw [hwhole, h, hblock]
  simp [(Store.isSound_iff _).2 hsound]

/-- A change goes through if it leaves a sound store, or is made in a block. -/
theorem exists_execute (change : Store → Except Fault (Change α)) {outcome : Change α}
    (hwhole : s.isBroken = false) (h : change s.store = .ok outcome)
    (hsound : s.inBlock = false → outcome.store.IsSound) :
    ∃ t, execute change s = (.ok outcome.result, t) ∧ t.store = outcome.store := by
  by_cases hblock : s.inBlock = true
  · refine ⟨{ s with store := outcome.store, pending := s.pending ++ outcome.touched }, ?_, rfl⟩
    unfold execute
    rw [if_neg (by rw [hwhole]; exact Bool.false_ne_true), h]
    dsimp only
    rw [if_pos hblock]
  · have hoff := Bool.eq_false_iff.2 hblock
    exact ⟨_, execute_final change hoff hwhole h (hsound hoff), Session.store_bumpAll _ _⟩

/-- What a block comes to that leaves a sound store and touches no vocabulary. -/
theorem atomic_of_sound {body : Proc α} {result : α} {t : Session} (hs : s.IsSettled)
    (hbody : body { s with inBlock := true } = (.ok result, { t with inBlock := true }))
    (hblock : t.inBlock = s.inBlock) (hwhole : t.isBroken = false)
    (hpending : t.pending = s.pending)
    (hsound : s.inBlock = false → t.store.IsSound) : atomic body s = (.ok result, t) := by
  unfold atomic atomicIf
  rw [hbody]
  dsimp only
  rw [hwhole]
  cases hinside : s.inBlock with
  | true =>
    rw [hinside] at hblock
    cases t
    cases hblock
    cases hwhole
    rfl
  | false =>
    have hafter : t.store.isSound = true := (Store.isSound_iff t.store).2 (hsound hinside)
    rw [hinside] at hblock
    rw [(hs hinside).2.1] at hpending
    simp only [Bool.not_true, Bool.or_self, Bool.false_eq_true, if_false]
    rw [if_pos hafter]
    cases t
    cases hblock
    cases hpending
    cases hwhole
    rfl

/-- A block that leaves a sound store and touches no vocabulary has changed the store. -/
theorem atomic_of_ok {body : Proc α} {result : α} {after : Store} (hs : s.IsSettled)
    (hwhole : s.isBroken = false)
    (hbody : body { s with inBlock := true } =
      (.ok result, { s with inBlock := true, store := after }))
    (hsound : s.inBlock = false → after.IsSound) :
    atomic body s = (.ok result, { s with store := after }) :=
  atomic_of_sound hs hbody rfl hwhole rfl hsound

/-- A block that fails without having broken anything before leaves the session as it was. -/
theorem atomic_of_error {body : Proc α} {fault : Fault} {isBroken : Bool}
    (hbody : body { s with inBlock := true } =
      (.error fault, { s with inBlock := true, isBroken := isBroken })) :
    atomic body s = (.error fault, s) := by
  unfold atomic atomicIf
  rw [hbody]
  rfl

/-- A change made in a block of its own takes effect, if it leaves a sound store where the block is
not inside another. -/
theorem atomic_execute_of_ok {result : α} {after : Store} (hs : s.IsSettled)
    (hwhole : s.isBroken = false) (h : change s.store = .ok ⟨after, result, []⟩)
    (hsound : s.inBlock = false → after.IsSound) :
    atomic (execute change) s = (.ok result, { s with store := after }) :=
  atomic_of_ok hs hwhole (@execute_of_ok _ change { s with inBlock := true } _ _ hwhole h nofun)
    hsound

end Proc

/-! ## Sessions that stay settled -/

namespace Session

/-- What becomes of a settled session: the block that is open is the same, and the session is
settled again. -/
structure StaysSettled (s t : Session) : Prop where
  inBlock : t.inBlock = s.inBlock
  isSettled : s.IsSettled → t.IsSettled

theorem StaysSettled.trans {s t u : Session} (hst : StaysSettled s t) (htu : StaysSettled t u) :
    StaysSettled s u :=
  ⟨htu.inBlock.trans hst.inBlock, fun hs => htu.isSettled (hst.isSettled hs)⟩

/-- Where neither the store nor a block is touched, a settled session stays settled. -/
theorem staysSettled_of_aside {s t : Session} (hblock : t.inBlock = s.inBlock)
    (hbroken : t.isBroken = s.isBroken) (hpending : t.pending = s.pending)
    (hstore : t.store = s.store) : StaysSettled s t := by
  refine ⟨hblock, fun hs hoff => ?_⟩
  rw [hbroken, hpending, hstore]
  exact hs (hblock.symm.trans hoff)

/-- A block that becomes final leaves a sound store and nothing pending. -/
theorem staysSettled_final {s t : Session} (hblock : s.inBlock = false)
    (hwhole : t.isBroken = false) (hsound : t.store.isSound = true) :
    StaysSettled s ({ t with inBlock := false, pending := [] }.bumpAll t.pending) := by
  refine ⟨(inBlock_bumpAll _ _).trans hblock.symm, fun _ _ => ?_⟩
  rw [isBroken_bumpAll, pending_bumpAll, store_bumpAll]
  exact ⟨hwhole, rfl, (Store.isSound_iff _).1 hsound⟩

end Session

open Session (StaysSettled staysSettled_of_aside)

/-- Every statement leaves a settled session settled, as it takes effect outside a block only if the
store is sound. -/
theorem staysSettled_execute {α : Type} (change : Store → Except Fault (Change α)) :
    Proc.Follows StaysSettled (Proc.execute change) := by
  intro s
  unfold Proc.FollowsAt
  rcases Proc.execute_cases change s with ⟨fault, isBroken, hrun, hbroken⟩ |
    ⟨outcome, hwhole, _, ⟨hblock, hrun⟩ | ⟨hblock, hsound, hrun⟩⟩
  · rw [hrun]
    refine ⟨rfl, fun hs hoff => ⟨?_, (hs hoff).2⟩⟩
    cases isBroken with
    | false => rfl
    | true =>
      rcases hbroken rfl with hold | hold
      · rw [(hs hoff).1] at hold
        cases hold
      · rw [show s.inBlock = false from hoff] at hold
        cases hold
  · rw [hrun]
    refine ⟨rfl, fun _ hoff => ?_⟩
    rw [show s.inBlock = false from hoff] at hblock
    cases hblock
  · rw [hrun]
    refine ⟨Session.inBlock_bumpAll _ _, fun hs hoff => ?_⟩
    dsimp only at hoff ⊢
    rw [Session.inBlock_bumpAll] at hoff
    rw [Session.isBroken_bumpAll, Session.pending_bumpAll, Session.store_bumpAll]
    exact ⟨hwhole, (hs hoff).2.1, (Store.isSound_iff _).1 hsound⟩

theorem staysSettled_isCourse : Proc.IsCourse StaysSettled where
  trans := StaysSettled.trans
  aside := fun hsame =>
    staysSettled_of_aside hsame.inBlock hsame.isBroken hsame.pending hsame.store
  edit := fun _ => staysSettled_execute _
  undone := fun _ => staysSettled_of_aside rfl rfl rfl rfl
  final := fun hblock _ hwhole hsound => Session.staysSettled_final hblock hwhole hsound
  generation := fun _ _ => staysSettled_of_aside rfl rfl rfl rfl
  kept := fun _ _ _ _ _ => staysSettled_of_aside rfl rfl rfl rfl
  cleared := fun _ => staysSettled_of_aside rfl rfl rfl rfl

end Clearance

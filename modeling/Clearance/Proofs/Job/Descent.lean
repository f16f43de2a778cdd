import Clearance.Proofs.Job.Course

/-!
# Where stored jobs come from

A job is stored under an id that is not given out again. So the jobs of a store are new, or come
from jobs that were stored under the same ids before, and a law about jobs says what may have become
of their records. Such a law is followed by whatever does nothing to jobs but delete them.
-/

set_option autoImplicit false

namespace Clearance

open Proc

namespace Store

/-- Whether the jobs of a store that are not new come from jobs of another in a relation to them. -/
structure JobsFrom (move : Row Job → Row Job → Prop) (before after : Store) : Prop where
  lastId : before.jobs.lastId ≤ after.jobs.lastId
  rows : ∀ row ∈ after.jobs.rows, row.id ≤ before.jobs.lastId →
    ∃ old ∈ before.jobs.rows, old.id = row.id ∧ move old row

variable {move : Row Job → Row Job → Prop} {before after : Store}

theorem JobsFrom.trans {a b c : Store}
    (hmove : ∀ x y z, y.id = x.id → move x y → move y z → move x z)
    (hab : JobsFrom move a b) (hbc : JobsFrom move b c) : JobsFrom move a c := by
  refine ⟨Int.le_trans hab.lastId hbc.lastId, fun row hrow hid => ?_⟩
  have hlast := hab.lastId
  obtain ⟨middle, hmiddle, hmiddleId, hsecond⟩ := hbc.rows row hrow (by omega)
  obtain ⟨old, hold, holdId, hfirst⟩ := hab.rows middle hmiddle (by omega)
  exact ⟨old, hold, holdId.trans hmiddleId, hmove _ _ _ holdId.symm hfirst hsecond⟩

theorem JobsFrom.imp {other : Row Job → Row Job → Prop} (h : JobsFrom move before after)
    (himp : ∀ old ∈ before.jobs.rows, ∀ row ∈ after.jobs.rows, old.id = row.id → move old row →
      other old row) : JobsFrom other before after := by
  refine ⟨h.lastId, fun row hrow hid => ?_⟩
  obtain ⟨old, hold, holdId, hmoved⟩ := h.rows row hrow hid
  exact ⟨old, hold, holdId, himp old hold row hrow holdId hmoved⟩

theorem jobsFrom_of_someJobsOf (hmove : ∀ x, move x x) (h : SomeJobsOf before after) :
    JobsFrom move before after :=
  ⟨Int.le_of_eq h.lastId.symm, fun row hrow _ => ⟨row, h.rows.subset hrow, rfl, hmove row⟩⟩

theorem jobsFrom_modify {id : Int} {save : Job → Job} (hmove : ∀ x, move x x)
    (hsave : ∀ job, ⟨id, job⟩ ∈ before.jobs.rows → move ⟨id, job⟩ ⟨id, save job⟩)
    (h : after.jobs = before.jobs.modify id save) : JobsFrom move before after := by
  constructor
  · exact Int.le_of_eq (congrArg Table.lastId h).symm
  · intro row hrow _
    rw [h] at hrow
    rcases Table.mem_modify hrow with hold | ⟨rfl, job, hjob, hval⟩
    · exact ⟨row, hold, rfl, hmove row⟩
    · refine ⟨_, hjob, rfl, ?_⟩
      rw [show row = ⟨row.id, save job⟩ by rw [← hval]]
      exact hsave job hjob

theorem jobsFrom_insert {job : Job} (hmove : ∀ x, move x x)
    (h : after.jobs = before.jobs.insert job) : JobsFrom move before after := by
  constructor
  · rw [h]
    exact Int.le_of_lt (Int.lt_succ _)
  · intro row hrow hid
    rw [h] at hrow
    rcases Table.mem_insert.1 hrow with hold | rfl
    · exact ⟨row, hold, rfl, hmove row⟩
    · dsimp only at hid
      omega

/-- Where no job of a register is found in flight there is none. -/
theorem status_of_activeJob?_none {store : Store} {register : Int}
    (h : store.activeJob? register = none) {row : Row Job} (hrow : row ∈ store.jobs.rows)
    (hregister : row.val.register = register) : row.val.status.isActive = false := by
  by_contra hactive
  rw [Bool.not_eq_false] at hactive
  unfold activeJob? at h
  have hmem : row ∈ store.jobs.rows.filter fun row =>
      row.val.register == register && row.val.status.isActive :=
    List.mem_filter.2 ⟨hrow, by rw [hregister, hactive, beq_self_eq_true, Bool.and_self]⟩
  rw [List.head?_eq_none_iff] at h
  rw [← (List.mergeSort_perm _ Job.isAhead).mem_iff, h] at hmem
  cases hmem

end Store

/-! ## Laws about jobs -/

/-- A relation of sessions that is about the jobs, the clock and the number of jobs made. It allows
jobs to be deleted and numbers to be left out, and the jobs to be put back as they were while time
has passed. -/
structure Session.IsJobLaw (rel : Session → Session → Prop) : Prop where
  trans : ∀ {s t u}, rel s t → rel t u → rel s u
  less : ∀ {s t : Session}, s.store.SomeJobsOf t.store → t.clock = s.clock → s.jobs ≤ t.jobs →
    rel s t
  undone : ∀ {s t u : Session}, rel s t → u.store.jobs = s.store.jobs → u.clock = t.clock →
    u.jobs = t.jobs → rel s u

namespace Session.IsJobLaw

variable {rel : Session → Session → Prop} (law : IsJobLaw rel) {s : Session}

include law

theorem same {s t : Session} (hjobs : t.store.jobs = s.store.jobs) (hclock : t.clock = s.clock)
    (hmade : t.jobs = s.jobs) : rel s t :=
  law.less (Store.someJobsOf_of_jobs_eq hjobs) hclock (Nat.le_of_eq hmade.symm)

theorem followsAt_execute {α : Type} {change : Store → Except Fault (Change α)}
    (h : ∀ outcome t, change s.store = .ok outcome → t.store = outcome.store →
      t.clock = s.clock → t.jobs = s.jobs → rel s t) :
    FollowsAt rel s (execute change) := by
  unfold FollowsAt
  rcases execute_cases change s with ⟨fault, isBroken, hrun, _⟩ |
    ⟨outcome, _, hchange, ⟨_, hrun⟩ | ⟨_, _, hrun⟩⟩
  · rw [hrun]
    exact law.same rfl rfl rfl
  · rw [hrun]
    exact h outcome _ hchange rfl rfl rfl
  · rw [hrun]
    obtain ⟨generations, heq⟩ :=
      ({ s with store := outcome.store } : Session).bumpAll_eq outcome.touched
    dsimp only
    rw [heq]
    exact h outcome _ hchange rfl rfl rfl

/-- A statement that deletes jobs at most follows. -/
theorem follows_execute_of_less {α : Type} {change : Store → Except Fault (Change α)}
    (h : ∀ store outcome, change store = .ok outcome → store.SomeJobsOf outcome.store) :
    Follows rel (execute change) := by
  refine fun s => law.followsAt_execute fun outcome t hchange hstore hclock hjobs => ?_
  have hsome := h s.store outcome hchange
  rw [← hstore] at hsome
  exact law.less hsome hclock (Nat.le_of_eq hjobs.symm)

theorem follows_updateWord (vocabulary : Word.Vocabulary) (id : Int) (edit : Store.WordEdit) :
    Follows rel (execute fun store => store.updateWord vocabulary id edit) :=
  law.follows_execute_of_less fun _ _ h => (Store.edited_updateWord h).jobs

theorem isCourse : Proc.IsCourse rel where
  trans := law.trans
  aside := fun hsame => law.same (congrArg Store.jobs hsame.store) hsame.clock hsame.jobs
  edit := fun hedit => law.follows_execute_of_less fun store outcome hchange =>
    (hedit store outcome hchange).jobs
  undone := fun {s t} h => by
    have hbegun : rel s { s with inBlock := true } := law.same rfl rfl rfl
    exact law.undone (law.trans hbegun h) rfl rfl rfl
  final := fun {s t} _ h _ _ => by
    have hbegun : rel s { s with inBlock := true } := law.same rfl rfl rfl
    obtain ⟨generations, heq⟩ :=
      ({ t with inBlock := false, pending := [] } : Session).bumpAll_eq t.pending
    rw [heq]
    exact law.trans (law.trans hbegun h) (law.same rfl rfl rfl)
  generation := fun _ _ => law.same rfl rfl rfl
  kept := fun _ _ _ _ _ => law.same rfl rfl rfl
  cleared := fun _ => law.same rfl rfl rfl

/-! ## Statements about jobs -/

theorem followsAt_saveJob {id : Int} {numbers : List Int} {save : Job → Job}
    (h : ∀ t : Session, t.store.jobs = s.store.jobs.modify id save → t.clock = s.clock →
      t.jobs = s.jobs → rel s t) :
    FollowsAt rel s (execute fun store => store.saveJob id numbers save) := by
  refine law.followsAt_execute fun outcome t hsave hstore hclock hjobs => h t ?_ hclock hjobs
  rw [hstore, Store.eq_of_saveJob hsave]

theorem followsAt_complete {id : Int} {job : Job} {status : JobStatus} {error : Option String}
    (h : ∀ t : Session,
      t.store.jobs = s.store.jobs.modify id (job.ended status error s.clock).withEndOf →
      t.clock = s.clock → t.jobs = s.jobs → rel s t) :
    FollowsAt rel s (Job.complete id job status error) := by
  refine law.isCourse.bindAt (law.isCourse.ask _ s) fun now t hask => ?_
  cases hask
  exact law.isCourse.bindAt (law.followsAt_saveJob h) fun _ t _ => law.isCourse.pure _ t

theorem followsAt_create {register : Int} {scope : Scope}
    (h : ∀ t : Session, t.store.jobs = s.store.jobs.insert
        (Job.fresh (Handle.ofCount (s.jobs + 1)) register scope s.clock) → t.clock = s.clock →
      t.jobs = s.jobs + 1 → rel s t) :
    FollowsAt rel s (Job.create register scope) := by
  have hnumbered : rel s { s with jobs := s.jobs + 1 } :=
    law.less (Store.someJobsOf_of_jobs_eq rfl) rfl (Nat.le_succ s.jobs)
  unfold Job.create FollowsAt
  rw [bind_apply]
  dsimp only [alter_apply]
  rw [bind_apply]
  dsimp only [ask_apply]
  rw [bind_apply]
  dsimp only [ask_apply]
  rw [bind_apply]
  rcases execute_cases (fun store => .ok (store.addJob
      (Job.fresh (Handle.ofCount (s.jobs + 1)) register scope s.clock)))
      { s with jobs := s.jobs + 1 } with ⟨fault, isBroken, hrun, _⟩ |
    ⟨outcome, _, hadd, ⟨_, hrun⟩ | ⟨_, _, hrun⟩⟩
  · rw [hrun]
    exact law.trans hnumbered (law.same rfl rfl rfl)
  · rw [hrun]
    cases hadd
    exact h _ rfl rfl rfl
  · rw [hrun]
    cases hadd
    exact h _ rfl rfl rfl

end Session.IsJobLaw

/-! ## Freeing a register -/

namespace Job

/-- A register is free for a new job if none was in flight, or the one that was has been given
up. -/
theorem inFlight?_none {register : Int} {s t : Session}
    (h : inFlight? register s = (.ok none, t)) :
    (∀ row ∈ s.store.jobs.rows, row.val.register = register → row.val.status.isActive = false) ∧
        t = s ∨
      ∃ row ∈ s.store.jobs.rows, row.val.register = register ∧
        row.val.status.isActive = true ∧ t.store = { s.store with
          jobs := s.store.jobs.modify row.id
            (row.val.ended .failed (some abandoned) s.clock).withEndOf } := by
  unfold inFlight? at h
  obtain ⟨found, u, hquery, hrest⟩ := bind_ok h
  obtain ⟨hfound, rfl⟩ := query_ok hquery
  cases found with
  | none =>
    cases hrest
    exact .inl ⟨fun row hrow => Store.status_of_activeJob?_none (Except.ok.inj hfound) hrow, rfl⟩
  | some row =>
    obtain ⟨hrow, hregister, hactive⟩ := Store.mem_of_activeJob? (Except.ok.inj hfound)
    obtain ⟨isStale, v, hoverdue, hrest⟩ := bind_ok hrest
    have hsession := congrArg Prod.snd hoverdue
    rw [session_isOverdue] at hsession
    subst hsession
    split at hrest
    · obtain ⟨ended, v, hend, hrest⟩ := bind_ok hrest
      cases hrest
      refine .inr ⟨row, hrow, hregister, hactive, ?_⟩
      rcases complete_cases row.id row.val .failed (some abandoned) u with
        ⟨fault, w, hrun, _⟩ | ⟨w, hrun, hstore⟩
      · rw [hrun] at hend
        cases hend
      · rw [hrun] at hend
        cases hend
        exact hstore
    · cases hrest

end Job

end Clearance

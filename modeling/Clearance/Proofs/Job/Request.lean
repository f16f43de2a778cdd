import Clearance.Proofs.Job.Descent
import Clearance.Proofs.Job.Settled

/-!
# What a request for a job comes to

A job in flight is under way as long as it has not been in flight for longer than the time limit. A
register with a job under way takes no other kind of job, and answers a request for the same kind
with that job. A register without one gets a new job; a job in flight that has outrun the limit is
given up before. A request that is refused changes nothing.
-/

set_option autoImplicit false

namespace Clearance

open Proc

/-- A job has been in flight for longer than a limit, since it began or, if it has not begun, since
it was made. A job that is finished is in flight no more. -/
def Job.HasOutrun (job : Job) (limit now : Int) : Prop :=
  job.finished = false ∧ limit < now - job.startedAt.getD job.createdAt

instance (job : Job) (limit now : Int) : Decidable (job.HasOutrun limit now) :=
  inferInstanceAs (Decidable (_ ∧ _))

/-- A stored job is in flight for a register. -/
structure Store.IsInFlight (store : Store) (register : Int) (row : Row Job) : Prop where
  stored : row ∈ store.jobs.rows
  register : row.val.register = register
  active : row.val.status.isActive = true

namespace Session

/-- A job is in flight for a register and has not outrun the time limit. -/
structure IsUnderWay (s : Session) (register : Int) (row : Row Job) : Prop where
  inFlight : s.store.IsInFlight register row
  inTime : ¬row.val.HasOutrun s.timeLimit s.clock

/-- A request for a kind of job is refused: there is no such kind, there is no such register, or a
job of another kind is under way for it. -/
def Refuses (s : Session) (register : Int) (kind : Text.Literal) : Prop :=
  Scope.ofLiteral? kind = none ∨ s.store.registers.has register = false ∨
    ∃ row, s.IsUnderWay register row ∧ Scope.ofLiteral? kind ≠ some row.val.scope

/-- No register has two jobs in flight. -/
def HasOneInFlight (s : Session) : Prop :=
  ∀ register a b, s.store.IsInFlight register a → s.store.IsInFlight register b → a = b

/-- A job as it is when the jobs of a register that are in flight have been given up. -/
def abandon (s : Session) (register : Int) (row : Row Job) : Row Job :=
  if row.val.register = register ∧ row.val.status.isActive = true then
    ⟨row.id, row.val.ended .failed (some Job.abandoned) s.clock⟩
  else row

end Session

variable {s : Session} {register : Int} {row : Row Job}

theorem Session.register_abandon (s : Session) (register : Int) (row : Row Job) :
    (s.abandon register row).val.register = row.val.register := by
  unfold abandon
  split <;> rfl

/-- A job of another register is not given up. -/
theorem Session.abandon_of_ne (h : row.val.register ≠ register) :
    s.abandon register row = row :=
  if_neg fun hgiven => h hgiven.1

/-- Once what is in flight has been given up, nothing is. -/
theorem Session.not_active_abandon (h : row.val.register = register) :
    (s.abandon register row).val.status.isActive = false := by
  unfold abandon
  split
  · rfl
  · next hnot => exact Bool.eq_false_iff.2 fun hactive => hnot ⟨h, hactive⟩

/-! ## The job in flight -/

/-- The job found in flight is the one in flight. -/
theorem Session.HasOneInFlight.activeJob?_eq (hone : s.HasOneInFlight)
    (hrow : s.store.IsInFlight register row) : s.store.activeJob? register = some row := by
  cases hfound : s.store.activeJob? register with
  | none =>
    have hidle := Store.status_of_activeJob?_none hfound hrow.stored hrow.register
    rw [hrow.active] at hidle
    cases hidle
  | some other =>
    obtain ⟨hstored, hregister, hactive⟩ := Store.mem_of_activeJob? hfound
    rw [hone register other row ⟨hstored, hregister, hactive⟩ hrow]

/-- Where the time limit can be compared with a duration, it is found whether a job has outrun
it. -/
theorem Job.isOverdue_of_isCountable (hlimit : isCountable s.timeLimit = true) (job : Job) :
    isOverdue job s = (.ok (decide (job.HasOutrun s.timeLimit s.clock)), s) := by
  have hstale : job.isStale? s.timeLimit s.clock =
      some (decide (job.HasOutrun s.timeLimit s.clock)) := by
    unfold isStale?
    rw [if_pos hlimit]
    split
    · next hfinished =>
      rw [decide_eq_false]
      rintro ⟨hnot, _⟩
      rw [hfinished] at hnot
      cases hnot
    · next hnot =>
      have hiff : job.HasOutrun s.timeLimit s.clock ↔
          s.timeLimit < s.clock - job.startedAt.getD job.createdAt :=
        and_iff_right (Bool.eq_false_iff.2 hnot)
      rw [decide_eq_decide.2 hiff]
  unfold isOverdue
  rw [bind_apply]
  dsimp only [ask_apply]
  rw [bind_apply]
  dsimp only [ask_apply]
  rw [hstale]
  rfl

/-- Where it cannot be compared with a duration, nothing is found for a job that is not finished. -/
theorem Job.isOverdue_of_not_isCountable (hbeyond : isCountable s.timeLimit = false) {job : Job}
    (hopen : job.finished = false) : isOverdue job s = (.error .limitTooLong, s) := by
  have hstale : job.isStale? s.timeLimit s.clock = none := by
    unfold isStale?
    rw [hopen, hbeyond]
    rfl
  unfold isOverdue
  rw [bind_apply]
  dsimp only [ask_apply]
  rw [bind_apply]
  dsimp only [ask_apply]
  rw [hstale]
  rfl

theorem Job.inFlight?_of_isUnderWay (hone : s.HasOneInFlight) (hwhole : s.isBroken = false)
    (hlimit : isCountable s.timeLimit = true) (hrow : s.IsUnderWay register row) :
    inFlight? register s = (.ok (some row.val), s) := by
  have hfound : query (fun store => .ok (store.activeJob? register)) s = (.ok (some row), s) := by
    rw [← hone.activeJob?_eq hrow.inFlight]
    exact query_of_whole _ hwhole
  unfold inFlight?
  rw [bind_of_ok hfound]
  dsimp only
  rw [bind_of_ok (isOverdue_of_isCountable hlimit row.val), decide_eq_false hrow.inTime]
  rfl

/-- Where a register has no job in flight, giving up what is in flight does nothing. -/
theorem Session.map_abandon_of_free (hfree : ∀ row, ¬s.store.IsInFlight register row) :
    s.store.jobs.rows.map (s.abandon register) = s.store.jobs.rows := by
  calc s.store.jobs.rows.map (s.abandon register)
    _ = s.store.jobs.rows.map id := by
      apply List.map_congr_left
      intro row hrow
      exact if_neg fun ⟨hregister, hactive⟩ => hfree row ⟨hrow, hregister, hactive⟩
    _ = s.store.jobs.rows := List.map_id _

/-- Saving the end of the job in flight gives up what is in flight. -/
theorem Session.map_abandon_of_isInFlight (hone : s.HasOneInFlight)
    (hrow : s.store.IsInFlight register row) :
    s.store.jobs.rows.map (s.abandon register) = (s.store.jobs.modify row.id
      (row.val.ended .failed (some Job.abandoned) s.clock).withEndOf).rows := by
  apply List.map_congr_left
  intro other hother
  unfold abandon Table.changeRow
  by_cases hid : other.id = row.id
  · obtain rfl := Table.eq_of_mem_of_id_eq hother hrow.stored hid
    rw [if_pos ⟨hrow.register, hrow.active⟩, if_pos (beq_self_eq_true _)]
    rfl
  · rw [if_neg, if_neg (by rwa [beq_iff_eq])]
    rintro ⟨hregister, hactive⟩
    exact hid (congrArg Row.id (hone register other row ⟨hother, hregister, hactive⟩ hrow))

/-- Where no job of a register is under way, what is in flight is given up. -/
theorem Job.inFlight?_of_not_isUnderWay (hs : s.IsSettled) (hone : s.HasOneInFlight)
    (hwhole : s.isBroken = false) (hlimit : isCountable s.timeLimit = true)
    (hnone : ∀ row, ¬s.IsUnderWay register row) :
    ∃ jobs : Table Job, jobs.rows = s.store.jobs.rows.map (s.abandon register) ∧
      jobs.lastId = s.store.jobs.lastId ∧
      inFlight? register s = (.ok none, { s with store := { s.store with jobs := jobs } }) := by
  have hfound : query (fun store => .ok (store.activeJob? register)) s =
      (.ok (s.store.activeJob? register), s) := query_of_whole _ hwhole
  cases hactive : s.store.activeJob? register with
  | none =>
    refine ⟨s.store.jobs, ?_, rfl, ?_⟩
    · refine (Session.map_abandon_of_free fun row hrow => ?_).symm
      have hidle := Store.status_of_activeJob?_none hactive hrow.stored hrow.register
      rw [hrow.active] at hidle
      cases hidle
    · unfold inFlight?
      rw [bind_of_ok hfound, hactive]
      rfl
  | some row =>
    obtain ⟨hstored, hregister, hstatus⟩ := Store.mem_of_activeJob? hactive
    have hrow : s.store.IsInFlight register row := ⟨hstored, hregister, hstatus⟩
    have houtrun : row.val.HasOutrun s.timeLimit s.clock := by
      by_contra hnot
      exact hnone row ⟨hrow, hnot⟩
    refine ⟨_, (Session.map_abandon_of_isInFlight hone hrow).symm, rfl, ?_⟩
    unfold inFlight?
    rw [bind_of_ok hfound, hactive]
    dsimp only
    rw [bind_of_ok (isOverdue_of_isCountable hlimit row.val), decide_eq_true houtrun, if_pos rfl,
      bind_of_ok (complete_of_mem hs hwhole hstored row.val .failed (some abandoned))]
    rfl

/-! ## The new job -/

theorem Job.create_apply (hblock : s.inBlock = true) (hwhole : s.isBroken = false) (register : Int)
    (scope : Scope) : create register scope s =
      (.ok (fresh (Handle.ofCount (s.jobs + 1)) register scope s.clock), { s with
        jobs := s.jobs + 1
        store := { s.store with
          jobs := s.store.jobs.insert
            (fresh (Handle.ofCount (s.jobs + 1)) register scope s.clock) } }) := by
  have hadd := @execute_of_ok _ (fun store => .ok (store.addJob
    (fresh (Handle.ofCount (s.jobs + 1)) register scope s.clock)))
      { s with jobs := s.jobs + 1 } _ _ hwhole rfl (fun hout => by rw [hblock] at hout; cases hout)
  unfold create
  rw [bind_apply]
  dsimp only [alter_apply]
  rw [bind_apply]
  dsimp only [ask_apply]
  rw [bind_apply]
  dsimp only [ask_apply]
  rw [bind_of_ok hadd]
  rfl

/-! ## Requests -/

/-- A job that is requested and not run at once is as it was requested. -/
theorem Job.start_of_request {scope : Scope} {result : Except Fault (Job × Bool)} {t : Session}
    (hrequest : request register scope s = (result, t)) (before : Nat → Proc Unit) :
    start register scope false before s = (result.map fun made => made.1, t) := by
  unfold start
  rw [bind_apply, hrequest]
  cases result with
  | error fault => rfl
  | ok made =>
    obtain ⟨job, isNew⟩ := made
    cases isNew <;> rfl

section

variable (hs : s.IsSettled) (hone : s.HasOneInFlight) (hwhole : s.isBroken = false)
  (hlimit : Job.isCountable s.timeLimit = true) (scope : Scope)

include hwhole

theorem Job.query_hasRegister {isThere : Bool}
    (hregister : s.store.registers.has register = isThere) :
    query (fun store => .ok (store.registers.has register)) { s with inBlock := true } =
      (.ok isThere, { s with inBlock := true }) := by
  rw [← hregister]
  exact query_of_whole _ hwhole

theorem Job.request_of_missing (hmissing : s.store.registers.has register = false) :
    request register scope s = (.error (.missing .register), s) := by
  unfold request
  refine @atomic_of_error _ s _ _ s.isBroken ?_
  rw [bind_of_ok (query_hasRegister hwhole hmissing)]
  rfl

variable (hthere : s.store.registers.has register = true)

include hthere

include hs in
/-- Once no job is in flight a new one is made. -/
theorem Job.request_of_freed {jobs : Table Job} (hregisters : s.inBlock = false →
      ∀ row ∈ jobs.rows, s.store.registers.has row.val.register = true)
    (hfree : inFlight? register { s with inBlock := true } = (.ok none,
      { s with inBlock := true, store := { s.store with jobs := jobs } })) :
    request register scope s =
      (.ok (fresh (Handle.ofCount (s.jobs + 1)) register scope s.clock, true), { s with
        jobs := s.jobs + 1
        store := { s.store with
          jobs := jobs.insert
            (fresh (Handle.ofCount (s.jobs + 1)) register scope s.clock) } }) := by
  unfold request
  refine atomic_of_sound hs ?_ rfl hwhole rfl fun hblock => (hs hblock).2.2.withJobs ?_
  · rw [bind_of_ok (query_hasRegister hwhole hthere), if_pos rfl, bind_of_ok hfree]
    dsimp only
    have hcreate := @create_apply { s with
      inBlock := true
      store := { s.store with jobs := jobs } } rfl hwhole register scope
    rw [bind_of_ok hcreate]
    rfl
  · intro row hrow
    rcases Table.mem_insert.1 hrow with hold | rfl
    · exact hregisters hblock row hold
    · exact hthere

include hs in
/-- Where no job is in flight the time limit does not matter. -/
theorem Job.request_of_idle (hidle : s.store.activeJob? register = none) :
    request register scope s =
      (.ok (fresh (Handle.ofCount (s.jobs + 1)) register scope s.clock, true), { s with
        jobs := s.jobs + 1
        store := { s.store with
          jobs := s.store.jobs.insert
            (fresh (Handle.ofCount (s.jobs + 1)) register scope s.clock) } }) := by
  refine request_of_freed hs hwhole scope hthere (fun hblock => (hs hblock).2.2.jobs) ?_
  have hfound : query (fun store => .ok (store.activeJob? register)) { s with inBlock := true } =
      (.ok none, { s with inBlock := true }) := by
    rw [← hidle]
    exact query_of_whole _ hwhole
  unfold inFlight?
  rw [bind_of_ok hfound]
  rfl

/-- Where the time limit cannot be compared with a duration, no request is answered while a job is
in flight. -/
theorem Job.request_of_not_isCountable (hbeyond : isCountable s.timeLimit = false)
    (hactive : s.store.activeJob? register = some row) (hopen : row.val.finished = false) :
    request register scope s = (.error .limitTooLong, s) := by
  have hfound : query (fun store => .ok (store.activeJob? register)) { s with inBlock := true } =
      (.ok (some row), { s with inBlock := true }) := by
    rw [← hactive]
    exact query_of_whole _ hwhole
  have hoverdue := @isOverdue_of_not_isCountable { s with inBlock := true } hbeyond _ hopen
  have hfails : inFlight? register { s with inBlock := true } =
      (.error .limitTooLong, { s with inBlock := true }) := by
    unfold inFlight?
    rw [bind_of_ok hfound]
    dsimp only
    rw [bind_of_error hoverdue]
  unfold request
  refine @atomic_of_error _ s _ _ s.isBroken ?_
  rw [bind_of_ok (query_hasRegister hwhole hthere), if_pos rfl, bind_of_error hfails]

include hone hlimit

theorem Job.request_of_other (hrow : s.IsUnderWay register row) (hscope : row.val.scope ≠ scope) :
    request register scope s =
      (.error (.alreadyRunning register row.val.scope.name scope.name), s) := by
  have hfound := @inFlight?_of_isUnderWay { s with inBlock := true } register row hone hwhole hlimit
    ⟨hrow.inFlight, hrow.inTime⟩
  unfold request
  refine @atomic_of_error _ s _ _ s.isBroken ?_
  rw [bind_of_ok (query_hasRegister hwhole hthere), if_pos rfl, bind_of_ok hfound]
  dsimp only
  rw [if_neg hscope]
  rfl

include hs

theorem Job.request_of_same (hrow : s.IsUnderWay register row) (hscope : row.val.scope = scope) :
    request register scope s = (.ok (row.val, false), s) := by
  have hfound := @inFlight?_of_isUnderWay { s with inBlock := true } register row hone hwhole hlimit
    ⟨hrow.inFlight, hrow.inTime⟩
  unfold request
  refine atomic_of_sound hs ?_ rfl hwhole rfl fun hblock => (hs hblock).2.2
  rw [bind_of_ok (query_hasRegister hwhole hthere), if_pos rfl, bind_of_ok hfound]
  dsimp only
  rw [if_pos hscope]
  rfl

/-- Where no job is under way, what is in flight is given up and a new job is made. -/
theorem Job.request_of_not_isUnderWay (hnone : ∀ row, ¬s.IsUnderWay register row) :
    ∃ jobs : Table Job, jobs.rows = s.store.jobs.rows.map (s.abandon register) ++
        [⟨s.store.jobs.lastId + 1, fresh (Handle.ofCount (s.jobs + 1)) register scope s.clock⟩] ∧
      request register scope s =
        (.ok (fresh (Handle.ofCount (s.jobs + 1)) register scope s.clock, true),
          { s with jobs := s.jobs + 1, store := { s.store with jobs := jobs } }) := by
  obtain ⟨jobs, hrows, hlast, hfree⟩ := @inFlight?_of_not_isUnderWay { s with inBlock := true }
    register nofun hone hwhole hlimit fun row hrow => hnone row ⟨hrow.inFlight, hrow.inTime⟩
  refine ⟨_, ?_, request_of_freed hs hwhole scope hthere (fun hblock row hrow => ?_) hfree⟩
  · change jobs.rows ++ [⟨jobs.lastId + 1, _⟩] = _
    rw [hrows, hlast]
    rfl
  · rw [hrows] at hrow
    obtain ⟨old, hold, rfl⟩ := List.mem_map.1 hrow
    have hregister := Session.register_abandon { s with inBlock := true } register old
    rw [hregister]
    exact (hs hblock).2.2.jobs old hold

end

end Clearance

import Clearance.Proofs.Job.Request
import Clearance.Service.Operation

/-!
# Starting a job

What a request for a job comes to is decided by three things: whether the kind asked for is one,
whether the register exists, and what is under way for it. No request leaves a register with two
jobs in flight, and none that is refused leaves a trace.
-/

set_option autoImplicit false

namespace Clearance

open Proc

variable {s : Session} {register : Int}

/-- Starting a job without running it comes to what requesting it comes to. -/
theorem Service.start_of_request {kind : Text.Literal} {scope : Scope}
    (hkind : Scope.ofLiteral? kind = some scope) {result : Except Fault (Job × Bool)} {t : Session}
    (hrequest : Job.request register scope s = (result, t)) :
    start register kind false s = (result.map fun made => .job made.1, t) := by
  unfold start
  rw [hkind]
  dsimp only
  rw [bind_apply, Job.start_of_request hrequest]
  cases result <;> rfl

section

variable (hs : s.IsSettled) (hwhole : s.isBroken = false) (hone : s.HasOneInFlight)
  (hlimit : Job.isCountable s.timeLimit = true) (register : Int) (kind : Text.Literal)

include hwhole hone hlimit

/-- A request that has to be refused is refused, and changes nothing. -/
theorem Service.start_of_refuses (h : s.Refuses register kind) :
    ∃ fault, start register kind false s = (.error fault, s) := by
  cases hkind : Scope.ofLiteral? kind with
  | none =>
    refine ⟨.unknownJobKind kind.shown, ?_⟩
    unfold Service.start
    rw [hkind]
    rfl
  | some scope =>
    cases hthere : s.store.registers.has register with
    | false =>
      exact ⟨_, Service.start_of_request hkind (Job.request_of_missing hwhole scope hthere)⟩
    | true =>
      rcases h with hnone | hmissing | ⟨row, hrow, hother⟩
      · rw [hkind] at hnone
        cases hnone
      · rw [hthere] at hmissing
        cases hmissing
      · have hscope : row.val.scope ≠ scope := fun hsame => hother (hsame ▸ hkind)
        exact ⟨_, Service.start_of_request hkind
          (Job.request_of_other hone hwhole hlimit scope hthere hrow hscope)⟩

include hs

/-- A request that is not refused is answered with the job under way, or with a new one. -/
theorem Service.start_of_not_refuses (h : ¬s.Refuses register kind) :
    ∃ scope, Scope.ofLiteral? kind = some scope ∧
      ((∃ row, s.IsUnderWay register row ∧ row.val.scope = scope ∧
        start register kind false s = (.ok (.job row.val), s)) ∨
      (∀ own, ¬s.IsUnderWay register own) ∧ ∃ jobs : Table Job,
        jobs.rows = s.store.jobs.rows.map (s.abandon register) ++ [⟨s.store.jobs.lastId + 1,
          Job.fresh (Handle.ofCount (s.jobs + 1)) register scope s.clock⟩] ∧
        start register kind false s =
          (.ok (.job (Job.fresh (Handle.ofCount (s.jobs + 1)) register scope s.clock)),
            { s with jobs := s.jobs + 1, store := { s.store with jobs := jobs } })) := by
  unfold Session.Refuses at h
  rw [not_or, not_or, not_exists, Bool.not_eq_false] at h
  obtain ⟨hknown, hthere, hsame⟩ := h
  obtain ⟨scope, hkind⟩ := Option.ne_none_iff_exists'.1 hknown
  refine ⟨scope, hkind, ?_⟩
  by_cases hunderway : ∃ row, s.IsUnderWay register row
  · obtain ⟨row, hrow⟩ := hunderway
    have hscope : row.val.scope = scope := by
      by_contra hother
      exact hsame row ⟨hrow, fun hwanted => hother (Option.some.inj (hwanted.symm.trans hkind))⟩
    have hrequest := Job.request_of_same hs hone hwhole hlimit scope hthere hrow hscope
    exact .inl ⟨row, hrow, hscope, Service.start_of_request hkind hrequest⟩
  · have hnone := not_exists.1 hunderway
    obtain ⟨jobs, hrows, hrequest⟩ :=
      Job.request_of_not_isUnderWay hs hone hwhole hlimit scope hthere hnone
    exact .inr ⟨hnone, jobs, hrows, Service.start_of_request hkind hrequest⟩

end

/-- The new job is the only one in flight once what was in flight has been given up. -/
theorem isInFlight_iff_of_abandoned {store : Store} {row : Row Job}
    (hrows : store.jobs.rows = s.store.jobs.rows.map (s.abandon register) ++ [row])
    (hregister : row.val.register = register) (hactive : row.val.status.isActive = true)
    (other : Row Job) : store.IsInFlight register other ↔ other = row := by
  have hmem : row ∈ store.jobs.rows := by
    rw [hrows]
    exact List.mem_append_right _ (List.mem_singleton_self row)
  constructor
  · rintro ⟨hstored, hother, hflying⟩
    rw [hrows] at hstored
    rcases List.mem_append.1 hstored with hold | hnew
    · obtain ⟨old, _, rfl⟩ := List.mem_map.1 hold
      rw [Session.register_abandon] at hother
      rw [Session.not_active_abandon hother] at hflying
      cases hflying
    · exact List.mem_singleton.1 hnew
  · rintro rfl
    exact ⟨hmem, hregister, hactive⟩

/-- Giving up what is in flight for a register and adding a job for it leaves the jobs of other
registers as they are. -/
theorem mem_of_abandoned_iff {store : Store} {row other : Row Job}
    (hrows : store.jobs.rows = s.store.jobs.rows.map (s.abandon register) ++ [row])
    (hregister : row.val.register = register) (hother : other.val.register ≠ register) :
    other ∈ store.jobs.rows ↔ other ∈ s.store.jobs.rows := by
  rw [hrows, List.mem_append, List.mem_map, List.mem_singleton]
  constructor
  · rintro (⟨old, hold, rfl⟩ | rfl)
    · rw [Session.register_abandon] at hother
      rwa [Session.abandon_of_ne hother]
    · exact absurd hregister hother
  · intro hold
    exact .inl ⟨other, hold, Session.abandon_of_ne hother⟩

/-- A request for a job is decided by the kind asked for and by the job in flight for the register.
It is refused, and then nothing changes, if the kind or the register is unknown or a job of another
kind is under way. Otherwise it is answered with a job of that kind, the only one in flight for the
register from then on: the one under way, and then nothing changes either, or a new one, if none
is under way, and then the job in flight that has outrun the time limit is given up. Either way the
jobs of other registers stay as they are. -/
theorem Service.start_decides {s : Session} (hs : s.IsSettled) (hwhole : s.isBroken = false)
    (hone : s.HasOneInFlight) (hlimit : Job.isCountable s.timeLimit = true) (register : Int)
    (kind : Text.Literal) :
    let answer := (start register kind false s).1
    let t := (start register kind false s).2
    ((∃ fault, answer = .error fault) ↔ s.Refuses register kind) ∧
    (s.Refuses register kind → t = s) ∧
    (¬s.Refuses register kind → ∃ scope row, Scope.ofLiteral? kind = some scope ∧
      answer = .ok (.job row.val) ∧ row.val.scope = scope ∧
      (∀ other, t.store.IsInFlight register other ↔ other = row) ∧
      (s.IsUnderWay register row ∧ t = s ∨
        (∀ own, ¬s.IsUnderWay register own) ∧
          row.val = Job.fresh (Handle.ofCount (s.jobs + 1)) register scope s.clock ∧
          t.store.jobs.rows = s.store.jobs.rows.map (s.abandon register) ++ [row] ∧
          t.store = { s.store with jobs := t.store.jobs })) ∧
    ∀ row, row.val.register ≠ register → (row ∈ t.store.jobs.rows ↔ row ∈ s.store.jobs.rows) := by
  by_cases hrefuses : s.Refuses register kind
  · obtain ⟨fault, hstart⟩ := Service.start_of_refuses hwhole hone hlimit register kind hrefuses
    rw [hstart]
    exact ⟨iff_of_true ⟨fault, rfl⟩ hrefuses, fun _ => rfl, fun hnot => absurd hrefuses hnot,
      fun _ _ => Iff.rfl⟩
  · obtain ⟨scope, hkind, ⟨row, hrow, hscope, hstart⟩ | ⟨hnone, jobs, hrows, hstart⟩⟩ :=
      Service.start_of_not_refuses hs hwhole hone hlimit register kind hrefuses
    · rw [hstart]
      refine ⟨iff_of_false (fun ⟨_, h⟩ => nomatch h) hrefuses, fun h => absurd h hrefuses,
        fun _ => ⟨scope, row, hkind, rfl, hscope, fun other => ?_, .inl ⟨hrow, rfl⟩⟩,
        fun _ _ => Iff.rfl⟩
      constructor
      · exact fun hother => hone register other row hother hrow.inFlight
      · rintro rfl
        exact hrow.inFlight
    · rw [hstart]
      exact ⟨iff_of_false (fun ⟨_, h⟩ => nomatch h) hrefuses, fun h => absurd h hrefuses,
        fun _ => ⟨scope, _, hkind, rfl, rfl, isInFlight_iff_of_abandoned hrows rfl rfl,
          .inr ⟨hnone, rfl, hrows, rfl⟩⟩,
        fun _ hother => mem_of_abandoned_iff hrows rfl hother⟩

/-- Two registers with a job each. The first one has been running for a second too long. -/
def overdueSession : Session :=
  { Session.start (.engine .null) .none with
    store := { Store.empty with
      registers := Table.empty.insertAll [⟨"imported", Parcel.wbr⟩, ⟨"returned", Parcel.wbr⟩]
      jobs := Table.empty.insertAll
        [(Job.fresh (Handle.ofCount 1) 1 .full 0).started 3 10,
          Job.fresh (Handle.ofCount 2) 2 .codes 0] }
    clock := 7211
    jobs := 2 }

/-- The first job is given up for the new one, though it is of another kind, and the second one
stays pending. -/
theorem Service.start_overdueSession :
    overdueSession.IsSettled ∧ overdueSession.isBroken = false ∧ overdueSession.HasOneInFlight ∧
    Job.isCountable overdueSession.timeLimit = true ∧
    ¬overdueSession.Refuses 1 (.text "words") ∧
    ((Service.start 1 (.text "words") false overdueSession).2.store.jobs.rows.map
      (·.val.status)) = [.failed, .pending, .pending] := by
  have hrows : ∀ row ∈ overdueSession.store.jobs.rows,
      row = ⟨1, (Job.fresh (Handle.ofCount 1) 1 .full 0).started 3 10⟩ ∨
        row = ⟨2, Job.fresh (Handle.ofCount 2) 2 .codes 0⟩ := by decide +kernel
  have hsettled : overdueSession.IsSettled := by
    intro _
    refine ⟨rfl, rfl, (Store.isSound_iff _).1 ?_⟩
    decide +kernel
  have hone : overdueSession.HasOneInFlight := by
    rintro register a b ⟨ha, hregister, _⟩ ⟨hb, hregister', _⟩
    rcases hrows a ha with rfl | rfl <;> rcases hrows b hb with rfl | rfl
    · rfl
    · cases hregister.trans hregister'.symm
    · cases hregister.trans hregister'.symm
    · rfl
  have hnone : ∀ row, ¬overdueSession.IsUnderWay 1 row := by
    rintro row ⟨⟨hrow, hregister, _⟩, hintime⟩
    rcases hrows row hrow with rfl | rfl
    · exact hintime (by decide)
    · cases hregister
  have hlimit : Job.isCountable overdueSession.timeLimit = true := by decide
  have hallowed : ¬overdueSession.Refuses 1 (.text "words") := by
    rintro (hkind | hregister | ⟨row, hrow, _⟩)
    · cases hkind
    · revert hregister
      decide +kernel
    · exact hnone row hrow
  refine ⟨hsettled, rfl, hone, hlimit, hallowed, ?_⟩
  obtain ⟨scope, row, _, _, _, _, ⟨hrow, _⟩ | ⟨_, hfresh, hafter, _⟩⟩ :=
    (Service.start_decides hsettled rfl hone hlimit 1 (.text "words")).2.2.1 hallowed
  · exact absurd hrow (hnone row)
  · have hold : (overdueSession.store.jobs.rows.map (overdueSession.abandon 1)).map
        (·.val.status) = [.failed, .pending] := by decide +kernel
    rw [hafter, List.map_append, List.map_singleton, hfresh, hold]
    rfl

end Clearance

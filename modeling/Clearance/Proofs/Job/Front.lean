import Clearance.Proofs.Job.Completion
import Clearance.Proofs.Session.Quiet

/-!
# The first parcels of a job

A worker comes through the first of its parcels whatever waits for it at a later one: as long as
nothing happens at them and the rules found for them exist, they are screened and counted one after
another. Where the worker ends there, for whatever reason, those parcels are as screening each
of them alone would have left them, and all others are as they were.
-/

set_option autoImplicit false

namespace Clearance

open Proc
open Clearance.Screening (AllScreened FindsRules contextOf)

namespace Job

variable {s t u : Session} {context : Screening.Context} {id parcel : Int} {own stored : Job}
  {done parcels front rest : List Int} {meanwhile : Meanwhile} {count : Nat}

/-- A parcel that is still to come is not among the first ones. -/
theorem not_mem_front_of_mem_rest {register : Int}
    (h : s.store.openParcels register = front ++ rest) (hrest : parcel ∈ rest) :
    parcel ∉ front := by
  have hnodup := s.store.nodup_openParcels register
  rw [h] at hnodup
  intro hfront
  exact List.disjoint_of_nodup_append hnodup hfront hrest

/-! ## Setting out -/

/-- Where a worker stands that has taken a pending job and comes to its first parcel. -/
structure SetOut (handle : Option Handle) (s : Session) (row : Row Job) (own : Job) (t : Session) :
    Prop where
  started : row.val.started (s.store.openParcels row.val.register).length s.clock = own
  isSettled : t.IsSettled
  inBlock : t.inBlock = false
  store : Store.SameButJobs s.store t.store
  stored : ⟨row.id, own⟩ ∈ t.store.jobs.rows
  transcript : t.transcript = s.transcript
  /-- The worker follows every course that is followed where the job is taken. -/
  follows : ∀ {rel : Session → Session → Prop}, IsCourse rel → Follows rel (claim handle) → rel s t

theorem SetOut.scope {handle : Option Handle} {row : Row Job} (h : SetOut handle s row own t) :
    own.scope = row.val.scope := by
  rw [← h.started]
  rfl

section

variable {handle : Option Handle} {row : Row Job} (hs : s.IsSettled) (hblock : s.inBlock = false)
  (hjob : s.store.jobOf? handle = some row) (hpending : row.val.status = .pending)
  (hown : row.val.started (s.store.openParcels row.val.register).length s.clock = own)
  (hcount : Store.canHold own.total = true)

include hs hblock hjob hpending hown hcount

/-- A pending job that is run comes to its first parcel, or fails as its rules cannot be loaded. -/
theorem exists_setOut (meanwhile : Meanwhile) :
    ∃ t, SetOut handle s row own t ∧ run handle meanwhile s =
      match contextOf row.val.scope.hasWords row.val.scope.hasCodes s with
      | .ok context => (pass context meanwhile row.id 0 own
          (s.store.openParcels row.val.register) >>= conclude row.id) t
      | .error fault => conclude row.id (.stopped own none fault) t := by
  obtain ⟨u, hclaim, hu, hclock, hstored⟩ := exists_claim hs hblock hjob hpending hown hcount
  have hexact := claim_of_canHold hs hblock hjob hpending hown hcount
  have hscope : own.scope = row.val.scope := by
    rw [← hown]
    rfl
  obtain ⟨events, htold⟩ := exists_tellOfStart own u
  let v := { u with events := events }
  have hv : s.Resumes v := { hu with }
  obtain ⟨t, hload, hvt, _⟩ :=
    Screening.exists_loadContext own.scope.hasWords own.scope.hasCodes (hv.isSettled hv.inBlock).1
  have hcontext : contextOf own.scope.hasWords own.scope.hasCodes v =
      contextOf row.val.scope.hasWords row.val.scope.hasCodes s := by
    rw [hscope]
    exact hv.contextOf (.inl hclock)
  rw [hcontext] at hload
  refine ⟨t, ⟨hown, hvt.isSettled hv.isSettled, hvt.inBlock.trans hv.inBlock, ?_, ?_, ?_, ?_⟩, ?_⟩
  · rw [hvt.store]
    exact hv.store
  · rw [hvt.store]
    exact hstored
  · have hquiet := Screening.isQuiet_loadContext own.scope.hasWords own.scope.hasCodes v
    unfold FollowsAt at hquiet
    rw [hload] at hquiet
    rw [hexact] at hclaim
    cases hclaim
    exact hquiet
  · intro rel course hfollows
    have hfirst := hfollows s
    have hsecond := follows_tellOfStart course own u
    have hthird := course.loadContext own.scope.hasWords own.scope.hasCodes v
    unfold FollowsAt at hfirst hsecond hthird
    rw [hclaim] at hfirst
    rw [htold] at hsecond
    rw [hload] at hthird
    exact course.trans hfirst (course.trans hsecond hthird)
  · unfold run
    rw [bind_of_ok hclaim]
    dsimp only
    rw [bind_of_ok htold]
    unfold work
    rw [bind_apply, orStop_apply, hload]
    cases contextOf row.val.scope.hasWords row.val.scope.hasCodes s <;> rfl

end

/-! ## Through the first parcels -/

/-- Whether nothing is done before the `k`-th parcel and no error strikes while it is screened. -/
structure Meanwhile.IsCalmAt (meanwhile : Meanwhile) (k : Nat) : Prop where
  before : meanwhile.before k = pure ()
  strikes : meanwhile.strikes k = .calm

section

variable (hs : s.IsSettled) (hblock : s.inBlock = false)
  (hprefixes : ∀ index, context.prefixes = some index → ∀ code,
    (Commodity.classify code index).ids.Nodup)

include hs hblock hprefixes

/-- A worker comes through its first parcels if nothing happens at them and the rules found for them
exist, and goes on with the rest from there. -/
theorem exists_pass_front (hcan : CanCount own (front ++ rest) s)
    (hnew : ∀ parcel ∈ front, parcel ∉ done)
    (hfinds : FindsAllRules context own.scope front s.store)
    (hcalm : ∀ j, count < j → j ≤ count + front.length → meanwhile.IsCalmAt j)
    (h : Underway context id own done s t) :
    ∃ u, Underway context id (own.counting front.length) (front.reverse ++ done) s u ∧
      pass context meanwhile id count own front t =
        (.ok (.through (own.counting front.length)), u) ∧
      pass context meanwhile id count own (front ++ rest) t =
        pass context meanwhile id (count + front.length) (own.counting front.length) rest u := by
  induction front generalizing own done t count with
  | nil =>
    refine ⟨t, ?_, ?_, ?_⟩
    · change Underway context id (own.counting 0) done s t
      rwa [counting_zero]
    · change _ = (Except.ok (Pass.through (own.counting 0)), t)
      rw [counting_zero]
      rfl
    · change _ = pass context meanwhile id (count + 0) (own.counting 0) rest t
      rw [counting_zero, Nat.add_zero, List.nil_append]
  | cons parcel front ih =>
    obtain ⟨record, hrecord, _⟩ := hcan.stored parcel (by simp)
    have hnodup := hcan.nodup
    rw [List.cons_append, List.nodup_cons] at hnodup
    have hnow := hcalm (count + 1) (by omega) (by simp)
    have hpure : meanwhile.before (count + 1) t = (.ok (), t) := by
      rw [hnow.before]
      rfl
    obtain ⟨u, hvisit, hu⟩ := visit_of_findsRules hs hblock hprefixes h hcan
      (hnew parcel List.mem_cons_self) hrecord (hfinds parcel List.mem_cons_self record hrecord)
      hnow.strikes hpure hs hblock rfl h rfl
    have hnew' : ∀ other ∈ front, other ∉ parcel :: done := by
      intro other hother hmem
      rcases List.mem_cons.1 hmem with rfl | hmem
      · exact hnodup.1 (List.mem_append_left rest hother)
      · exact hnew other (List.mem_cons_of_mem parcel hother) hmem
    have hcalm' : ∀ j, count + 1 < j → j ≤ count + 1 + front.length → meanwhile.IsCalmAt j := by
      intro j hlow hhigh
      apply hcalm j (by omega)
      rw [List.length_cons]
      omega
    obtain ⟨v, hv, hthrough, hrest⟩ := ih hcan.tail hnew'
      (fun other hother => hfinds other (List.mem_cons_of_mem parcel hother)) hcalm' hu
    have hcounted : (own.counting 1).counting front.length =
        own.counting (parcel :: front).length := by
      rw [counting_counting, List.length_cons, Int.natCast_succ, Int.add_comm]
    have hplace : count + 1 + front.length = count + (parcel :: front).length := by
      rw [List.length_cons]
      omega
    rw [hcounted] at hv hthrough hrest
    rw [hplace] at hrest
    refine ⟨v, ?_, ?_, ?_⟩
    · rw [List.reverse_cons, List.append_assoc]
      exact hv
    · unfold pass
      rw [bind_of_ok hvisit]
      exact hthrough
    · rw [List.cons_append, pass, bind_of_ok hvisit]
      exact hrest

end

/-- Where a worker stands that has come through the parcels `front` of its job and goes on with the
rest: it has set out at `t` and has come to `u`. -/
structure ComesTo (handle : Option Handle) (meanwhile : Meanwhile) (s : Session) (row : Row Job)
    (own : Job) (context : Screening.Context) (front rest : List Int) (t u : Session) : Prop where
  setOut : SetOut handle s row own t
  finds : FindsAllRules context row.val.scope front s.store
  canCount : CanCount (own.counting front.length) rest t
  underway : Underway context row.id (own.counting front.length) front.reverse t u
  passed : pass context meanwhile row.id 0 own front t =
    (.ok (.through (own.counting front.length)), u)
  run : run handle meanwhile s =
    (pass context meanwhile row.id front.length (own.counting front.length) rest >>=
      conclude row.id) u

theorem CanCount.of_append (h : CanCount own (front ++ rest) s) :
    CanCount (own.counting front.length) rest s where
  stored := fun parcel hparcel => h.stored parcel (List.mem_append_right front hparcel)
  nodup := (List.nodup_append.1 h.nodup).2.1
  processed := Int.add_nonneg h.processed (Int.natCast_nonneg front.length)
  counts := by
    have hcounts := h.counts
    rw [List.length_append, Int.natCast_add, ← Int.add_assoc] at hcounts
    exact hcounts
  uncancelled := h.uncancelled

section

variable {handle : Option Handle} {row : Row Job} (hs : s.IsSettled) (hblock : s.inBlock = false)
  (hjob : s.store.jobOf? handle = some row) (hpending : row.val.status = .pending)
  (hprocessed : row.val.processed = 0) (hcancel : row.val.cancelRequested = false)
  (hcount : Store.canHold (s.store.openParcels row.val.register).length = true)
  (hcontext : contextOf row.val.scope.hasWords row.val.scope.hasCodes s = .ok context)
  (hown : row.val.started (s.store.openParcels row.val.register).length s.clock = own)

include hs hblock hjob hpending hprocessed hcancel hcount hcontext hown

/-- A pending job that is run comes through its first parcels, if each of them can be screened alone
and nothing happens at it. -/
theorem exists_comesTo (hparcels : s.store.openParcels row.val.register = front ++ rest)
    (hscreens : ∀ parcel ∈ front, ∃ outcome t,
      Screening.screen row.val.scope none parcel s = (.ok outcome, t))
    (hcalm : ∀ k ≤ front.length, meanwhile.IsCalmAt k) :
    ∃ t u, ComesTo handle meanwhile s row own context front rest t u := by
  have hcount' : Store.canHold own.total = true := by
    rw [← hown]
    exact hcount
  obtain ⟨t, hout, hrun⟩ := exists_setOut hs hblock hjob hpending hown hcount' meanwhile
  rw [hcontext, hparcels] at hrun
  have hfinds : FindsAllRules context row.val.scope front s.store := by
    have hopen : ∀ parcel ∈ front, parcel ∈ s.store.openParcels row.val.register := by
      intro parcel hparcel
      rw [hparcels]
      exact List.mem_append_left rest hparcel
    exact findsAllRules_of_screens hs hblock hcontext hopen hscreens
  have hcan : CanCount own (front ++ rest) t := by
    rw [← hparcels, ← hown]
    exact canCount_of_perm hout.store (.refl _) hprocessed hcount hcancel
  have hfinds' : FindsAllRules context own.scope front t.store := by
    rw [hout.scope]
    exact (findsAllRules_iff hout.store).2 hfinds
  have hstart : Underway context row.id own [] t t :=
    ⟨rfl, (hout.isSettled hout.inBlock).2.2, .nil context own.scope t.store, hout.stored⟩
  have hcalm' : ∀ j, 0 < j → j ≤ 0 + front.length → meanwhile.IsCalmAt j := by
    intro j _ hj
    apply hcalm
    omega
  obtain ⟨u, hu, hpassed, hrest⟩ := exists_pass_front hout.isSettled hout.inBlock
    (fun index hindex code => Screening.nodup_of_contextOf hcontext hindex code) hcan
    (fun _ _ => List.not_mem_nil) hfinds' hcalm' hstart
  rw [List.append_nil] at hu
  rw [Nat.zero_add] at hrest
  refine ⟨t, u, hout, hfinds, hcan.of_append, hu, hpassed, ?_⟩
  rw [bind_apply, ← hrest]
  exact hrun

end

/-! ## What is left -/

/-- What is left by a run that has screened the parcels `front` of a job and ended there: each of
them is as screening it alone leaves it, and every other parcel is as it was. The stored record of
the job is the worker's own, except that its cancellation may have been asked for meanwhile. -/
structure IsLeftAfter (s : Session) (row : Row Job) (front : List Int) (job : Job) (t : Session) :
    Prop where
  total : job.total = (s.store.openParcels row.val.register).length
  processed : job.processed = front.length
  finished : job.finished = true
  stored : ∃ asked, ⟨row.id, { job with cancelRequested := asked }⟩ ∈ t.store.jobs.rows
  alone : ∀ parcel ∈ front, ∃ outcome u,
    Screening.screen row.val.scope none parcel s = (.ok outcome, u) ∧
    t.store.parcels.find? parcel = u.store.parcels.find? parcel ∧
    ∀ kind, t.store.linkedRules kind parcel = u.store.linkedRules kind parcel
  others : ∀ parcel, parcel ∉ front → s.store.Spares parcel t.store

section

variable {handle : Option Handle} {row : Row Job}

/-- Where the end of a job is saved when a worker has come through the first parcels, no more than
these have been screened. -/
theorem SetOut.isLeftAfter (hout : SetOut handle s row own t) (hs : s.IsSettled)
    (hblock : s.inBlock = false)
    (hprocessed : row.val.processed = 0)
    (hcontext : front ≠ [] →
      contextOf row.val.scope.hasWords row.val.scope.hasCodes s = .ok context)
    (hfinds : FindsAllRules context row.val.scope front s.store) {last : Job}
    (hlast : own.counting front.length = last) {s' v : Session} {asked : Bool}
    (hbase : s'.store = t.store) (hdone : ∀ parcel, parcel ∈ done ↔ parcel ∈ front)
    (h : Underway context row.id { last with cancelRequested := asked } done s' u)
    (status : JobStatus) (error : Option String) (now : Int)
    (hend : v.store = { u.store with
      jobs := u.store.jobs.modify row.id (last.ended status error now).withEndOf }) :
    IsLeftAfter s row front (last.ended status error now) v := by
  have hscope : last.scope = row.val.scope := by
    rw [← hlast]
    exact hout.scope
  have hscreened : AllScreened context row.val.scope front s.store v.store := by
    have hmiddle := h.screened.congr fun parcel => (hdone parcel).symm
    rw [hbase] at hmiddle
    have hall := (AllScreened.trans_sameButJobs hout.store hmiddle).of_sameButJobs ⟨_, hend⟩
    rw [← hscope]
    exact hall
  constructor
  · rw [← hlast, ← hout.started]
    rfl
  · change last.processed = front.length
    rw [← hlast, ← hout.started]
    change row.val.processed + front.length = front.length
    omega
  · rfl
  · refine ⟨asked, ?_⟩
    rw [hend]
    exact Table.mem_modify_self h.stored (last.ended status error now).withEndOf
  · intro parcel hparcel
    exact hscreened.alone hs hblock (hcontext (List.ne_nil_of_mem hparcel))
      (fun record => hfinds parcel hparcel record) hparcel
  · exact hscreened.spared

end

/-! ## A pending job -/

/-- A register with two parcels that a stop word matches and one that none matches, and a pending
job for it. -/
def pendingRequests : List Request :=
  let draft := { Store.ParcelEdit.nothing with code := some (some "2222222222") }
  let gun := { draft with product := some (some "gun") }
  [.single (.addRegister ⟨"imported", Parcel.ozon⟩), .single (.addStopWord ⟨"gun", 11⟩),
    .single (.addParcels 1 [gun, gun, draft] 1), .single (.start 1 (.text "full") false)]

def pendingSession : Session :=
  (Service.serveAll pendingRequests (Session.start (.engine .null) .none)).2

def pendingJob : Row Job := ⟨1, fresh (Handle.ofCount 1) 1 .full 0⟩

theorem jobOf?_pendingSession :
    pendingSession.store.jobOf? (some (Handle.ofCount 1)) = some pendingJob := by
  have hrows : pendingSession.store.jobs.rows = [pendingJob] := by decide +kernel
  unfold Store.jobOf?
  rw [hrows]
  decide

theorem openParcels_pendingSession : pendingSession.store.openParcels 1 = [1, 2, 3] := by
  decide +kernel

theorem canComplete_pendingSession : CanComplete pendingSession 1 .full where
  counts := by
    rw [openParcels_pendingSession]
    decide
  loads := by
    apply exists_ok
    decide +kernel
  screens := by
    have hscreens : ∀ parcel ∈ [1, 2, 3],
        (Screening.screen .full none parcel pendingSession).1.toOption.isSome = true := by
      decide +kernel
    rw [openParcels_pendingSession]
    exact fun parcel hparcel => exists_ok (hscreens parcel hparcel)

end Job

end Clearance

import Clearance.Proofs.Job.Alone
import Clearance.Proofs.Job.Settled

/-!
# A worker on its way through the parcels

Where nothing else is done meanwhile, a worker that has taken a job screens and counts one parcel
after another, and its own record of the job is the stored one all the time. It comes through all
parcels just if the rules can be loaded and all that are found for the parcels exist.
-/

set_option autoImplicit false

namespace Clearance

open Proc
open Clearance.Screening (AllScreened FindsRules contextOf)

namespace Job

/-- The worker's record of a job with more parcels counted. -/
def counting (own : Job) (more : Int) : Job := { own with processed := own.processed + more }

theorem counting_zero (own : Job) : own.counting 0 = own := by
  unfold counting
  rw [Int.add_zero]

theorem counting_counting (own : Job) (more further : Int) :
    (own.counting more).counting further = own.counting (more + further) := by
  unfold counting
  rw [Int.add_assoc]

theorem canHold_of_le {m n : Int} (hm : 0 ≤ m) (hle : m ≤ n) (hn : Store.canHold n = true) :
    Store.canHold m = true := by
  unfold Store.canHold at hn ⊢
  simp only [decide_eq_true_eq] at hn ⊢
  omega

/-- Where a worker stands that has set out in a session and screened a list of parcels: nothing but
the store is different, and its record of the job is the stored one. -/
structure Underway (context : Screening.Context) (id : Int) (own : Job) (done : List Int)
    (s t : Session) : Prop where
  session : t = { s with store := t.store }
  sound : t.store.IsSound
  screened : AllScreened context own.scope done s.store t.store
  stored : ⟨id, own⟩ ∈ t.store.jobs.rows

/-- Whether parcels are open, and a worker can count them that nobody asks to cancel its job. -/
structure CanCount (own : Job) (parcels : List Int) (s : Session) : Prop where
  stored : ∀ parcel ∈ parcels, ∃ record, s.store.parcels.find? parcel = some record ∧
    record.isOpen = true
  nodup : parcels.Nodup
  processed : 0 ≤ own.processed
  counts : Store.canHold (own.processed + parcels.length) = true
  uncancelled : own.cancelRequested = false

variable {s t : Session} {context : Screening.Context} {id parcel : Int} {own stored : Job}
  {done parcels : List Int}

theorem CanCount.tail (h : CanCount own (parcel :: parcels) s) :
    CanCount (own.counting 1) parcels s where
  stored := fun other hother => h.stored other (List.mem_cons_of_mem parcel hother)
  nodup := (List.nodup_cons.1 h.nodup).2
  processed := Int.add_nonneg h.processed (by decide)
  counts := by
    have hcounts := h.counts
    rw [List.length_cons, Int.natCast_succ, Int.add_comm (parcels.length : Int),
      ← Int.add_assoc] at hcounts
    exact hcounts
  uncancelled := h.uncancelled

theorem Underway.isSettled (hs : s.IsSettled) (hblock : s.inBlock = false)
    (h : Underway context id own done s t) : t.IsSettled ∧ t.inBlock = false := by
  obtain ⟨hwhole, hpending, _⟩ := hs hblock
  have hsound := h.sound
  rw [h.session]
  exact ⟨fun _ => ⟨hwhole, hpending, hsound⟩, hblock⟩

theorem Underway.not_asksCancel (h : Underway context id own done s t)
    (hown : own.cancelRequested = false) : ¬ t.store.AsksCancel id := by
  rintro ⟨row, hrow, rfl, hasks⟩
  rw [← Store.val_eq_of_mem hrow h.stored, hown] at hasks
  cases hasks

/-- A parcel that has been screened is counted, and the count is saved in the stored record, which
need not be the worker's own. -/
theorem saveCount_of_mem (hs : s.IsSettled) (hblock : s.inBlock = false)
    (hstored : ⟨id, stored⟩ ∈ s.store.jobs.rows)
    (hcount : Store.canHold (own.processed + 1) = true) :
    ∃ after, saveCount id { own with processed := own.processed + 1 } s =
        (.ok (), { s with store := after }) ∧
      Store.SameButJobs s.store after ∧ after.IsSound ∧
      ⟨id, { stored with processed := own.processed + 1 }⟩ ∈ after.jobs.rows := by
  obtain ⟨hwhole, _, hsound⟩ := hs hblock
  have hhas : s.store.jobs.has id = true := Table.has_eq_true_iff.2 ⟨_, hstored, rfl⟩
  have hnumbers : [(own.counting 1).processed].all Store.canHold = true := by
    rw [List.all_cons, List.all_nil, Bool.and_true]
    exact hcount
  have hafter := @isSound_modify _ id (own.counting 1).withCountOf hsound fun _ => rfl
  refine ⟨_, execute_of_ok hwhole (Store.saveJob_of_has hnumbers hhas) fun _ => hafter, ⟨_, rfl⟩,
    hafter, ?_⟩
  exact Table.mem_modify_self hstored (own.counting 1).withCountOf

theorem screenNext_of_has {meanwhile : Meanwhile} {count : Nat} (context : Screening.Context)
    (scope : Scope) (hwhole : s.isBroken = false) (hthere : s.store.parcels.has parcel = true) :
    screenNext context scope meanwhile count parcel s =
      (meanwhile.before (count + 1) >>= fun _ =>
        (meanwhile.strikes (count + 1)).screenWith context scope parcel >>= fun _ =>
          pure (count + 1)) s := by
  have hlook : (Proc.query fun store => .ok (store.parcels.has parcel)) s = (.ok true, s) := by
    rw [query_of_whole _ hwhole, hthere]
  unfold screenNext
  rw [bind_of_ok hlook]
  rfl

/-- A parcel that is there is screened in what is left by that which is done before it. -/
theorem screenNext_of_before {meanwhile : Meanwhile} {count : Nat} (scope : Scope)
    (hwhole : s.isBroken = false) (hthere : s.store.parcels.has parcel = true)
    (hbefore : meanwhile.before (count + 1) s = (.ok (), t)) :
    screenNext context scope meanwhile count parcel s =
      match (meanwhile.strikes (count + 1)).screenWith context scope parcel t with
      | (.ok _, u) => (.ok (count + 1), u)
      | (.error fault, u) => (.error fault, u) := by
  rw [screenNext_of_has context scope hwhole hthere, bind_of_ok hbefore, bind_apply]
  cases (meanwhile.strikes (count + 1)).screenWith context scope parcel t with
  | mk result u => cases result <;> rfl

/-- Where a job is not to be cancelled, a visit comes to what screening the parcel comes to. -/
theorem visit_of_not_asksCancel {meanwhile : Meanwhile} {count : Nat}
    (hwhole : s.isBroken = false) (hgoesOn : ¬ s.store.AsksCancel id) :
    visit context meanwhile id count own parcel s =
      orStop (fun fault => .ends (.stopped own (some parcel) fault))
        (screenNext context own.scope meanwhile count parcel) (fun later =>
          orStop (fun fault => .ends (.stopped { own with processed := own.processed + 1 }
              (some parcel) fault)) (saveCount id { own with processed := own.processed + 1 })
            fun _ => pure (.goesOn later { own with processed := own.processed + 1 })) s := by
  obtain ⟨isToBe, hpoll, hasked⟩ := exists_poll id hwhole
  have hno : isToBe = false := Bool.eq_false_iff.2 fun hyes => hgoesOn (hasked.1 hyes)
  unfold visit
  rw [orStop_apply, hpoll, hno]
  rfl

section

variable (hs : s.IsSettled) (hblock : s.inBlock = false)
  (hprefixes : ∀ index, context.prefixes = some index → ∀ code,
    (Commodity.classify code index).ids.Nodup)

include hs hblock hprefixes

/-- A visit to a parcel that has not been screened yet screens and counts it, if no error strikes
and the rules that are found for it exist. What is done before the parcel may change the stored
record of the job. -/
theorem visit_of_findsRules {meanwhile : Meanwhile} {count : Nat} {record : Parcel}
    {s' t' : Session} (h : Underway context id own done s t)
    (hcan : CanCount own (parcel :: parcels) s) (hnew : parcel ∉ done)
    (hrecord : s.store.parcels.find? parcel = some record)
    (hfinds : FindsRules context own.scope parcel record s.store)
    (hcalm : meanwhile.strikes (count + 1) = .calm)
    (hbefore : meanwhile.before (count + 1) t = (.ok (), t')) (hs' : s'.IsSettled)
    (hblock' : s'.inBlock = false) (hsame : s'.store = s.store)
    (h' : Underway context id stored done s' t') (hscope : stored.scope = own.scope) :
    ∃ u, visit context meanwhile id count own parcel t =
        (.ok (.goesOn (count + 1) (own.counting 1)), u) ∧
      Underway context id { stored with processed := own.processed + 1 } (parcel :: done) s' u := by
  obtain ⟨ht, htblock⟩ := h.isSettled hs hblock
  obtain ⟨ht', htblock'⟩ := h'.isSettled hs' hblock'
  have hscreened' := h'.screened
  rw [hsame, hscope] at hscreened'
  have hopen : record.isOpen = true := by
    obtain ⟨found, hfound, hopen⟩ := hcan.stored parcel List.mem_cons_self
    rwa [Option.some.inj (hfound.symm.trans hrecord)] at hopen
  have hthere : t.store.parcels.find? parcel = some record :=
    (h.screened.spared parcel hnew).record.trans hrecord
  have hthere' : t'.store.parcels.find? parcel = some record :=
    (hscreened'.spared parcel hnew).record.trans hrecord
  have hrules := (hscreened'.findsRules_iff hnew).2 hfinds
  obtain ⟨after, hscreen, hscreened, hafter⟩ := Screening.screenWith_of_hasRule ht' htblock' hthere'
    (Screening.not_isMarked_of_isOpen hopen) (fun index hindex _ => hprefixes index hindex _) hrules
  have hstored : ⟨id, stored⟩ ∈ after.jobs.rows := by
    rw [hscreened.same.jobs]
    exact h'.stored
  have hcount : Store.canHold (own.processed + 1) = true := by
    have hall := hcan.counts
    rw [List.length_cons] at hall
    refine canHold_of_le (Int.add_nonneg hcan.processed (by decide)) ?_ hall
    omega
  obtain ⟨last, hsave, hjobs, hlast, hcounted⟩ := @saveCount_of_mem { t' with store := after } id
    own stored (fun _ => ⟨(ht' htblock').1, (ht' htblock').2.1, hafter⟩) htblock' hstored hcount
  have hstruck : (meanwhile.strikes (count + 1)).screenWith context own.scope parcel t' =
      (.ok (Screening.outcomeOf context own.scope parcel record t'.store),
        { t' with store := after }) := by
    rw [hcalm]
    exact hscreen
  refine ⟨{ t' with store := last }, ?_, ?_, hlast, ?_, hcounted⟩
  · rw [visit_of_not_asksCancel (ht htblock).1 (h.not_asksCancel hcan.uncancelled), orStop_apply,
      screenNext_of_before own.scope (ht htblock).1 (Table.has_of_find? hthere) hbefore, hstruck]
    dsimp only
    rw [orStop_apply, hsave]
    rfl
  · rw [h'.session]
  · have hall := (hscreened'.cons hnew hrecord hopen hscreened).of_sameButJobs hjobs
    rw [hsame, show ({ stored with processed := own.processed + 1 } : Job).scope = own.scope from
      hscope]
    exact hall

/-- A visit to a parcel that has not been screened yet screens it if the rules that are found for it
exist, and stops the worker otherwise. -/
theorem visit_cases (h : Underway context id own done s t) {record : Parcel}
    (hcan : CanCount own (parcel :: parcels) s) (hnew : parcel ∉ done)
    (hrecord : s.store.parcels.find? parcel = some record) (count : Nat) :
    (FindsRules context own.scope parcel record s.store ∧ ∃ u,
      visit context .nothing id count own parcel t =
        (.ok (.goesOn (count + 1) (own.counting 1)), u) ∧
      Underway context id (own.counting 1) (parcel :: done) s u) ∨
    ¬ FindsRules context own.scope parcel record s.store ∧ ∃ fault u,
      visit context .nothing id count own parcel t =
        (.ok (.ends (.stopped own (some parcel) fault)), u) := by
  by_cases hfinds : FindsRules context own.scope parcel record s.store
  · exact .inl ⟨hfinds, visit_of_findsRules hs hblock hprefixes h hcan hnew hrecord hfinds rfl rfl
      hs hblock rfl h rfl⟩
  · obtain ⟨ht, htblock⟩ := h.isSettled hs hblock
    have hopen : record.isOpen = true := by
      obtain ⟨found, hfound, hopen⟩ := hcan.stored parcel List.mem_cons_self
      rwa [Option.some.inj (hfound.symm.trans hrecord)] at hopen
    have hthere : t.store.parcels.find? parcel = some record :=
      (h.screened.spared parcel hnew).record.trans hrecord
    rcases Screening.screenWith_cases ht htblock hthere (Screening.not_isMarked_of_isOpen hopen)
        own.scope fun index hindex => hprefixes index hindex record.code with
      ⟨hfound, _⟩ | ⟨_, fault, u, hscreen⟩
    · exact absurd ((h.screened.findsRules_iff hnew).1 hfound) hfinds
    · have hstruck : (Meanwhile.nothing.strikes (count + 1)).screenWith context own.scope parcel t =
          (.error fault, u) := hscreen
      refine .inr ⟨hfinds, fault, u, ?_⟩
      rw [visit_of_not_asksCancel (ht htblock).1 (h.not_asksCancel hcan.uncancelled), orStop_apply,
        screenNext_of_before own.scope (ht htblock).1 (Table.has_of_find? hthere) rfl, hstruck]

/-- Whether the rules that are found for parcels exist. -/
def FindsAllRules (context : Screening.Context) (scope : Scope) (parcels : List Int)
    (store : Store) : Prop :=
  ∀ parcel ∈ parcels, ∀ record, store.parcels.find? parcel = some record →
    FindsRules context scope parcel record store

/-- A worker comes through the parcels just if all rules that are found for them exist. -/
theorem pass_cases (hcan : CanCount own parcels s)
    (hnew : ∀ parcel ∈ parcels, parcel ∉ done) (h : Underway context id own done s t)
    (count : Nat) :
    (FindsAllRules context own.scope parcels s.store ∧ ∃ u,
      pass context .nothing id count own parcels t =
        (.ok (.through (own.counting parcels.length)), u) ∧
      Underway context id (own.counting parcels.length) (parcels.reverse ++ done) s u) ∨
    ¬ FindsAllRules context own.scope parcels s.store ∧ ∃ last parcel fault u,
      pass context .nothing id count own parcels t =
        (.ok (.stopped last parcel fault), u) := by
  induction parcels generalizing own done t count with
  | nil =>
    refine .inl ⟨nofun, t, ?_, ?_⟩
    · change _ = (Except.ok (Pass.through (own.counting 0)), t)
      rw [counting_zero]
      rfl
    · change Underway context id (own.counting 0) done s t
      rwa [counting_zero]
  | cons parcel rest ih =>
    obtain ⟨record, hrecord, _⟩ := hcan.stored parcel List.mem_cons_self
    have hnot := (List.nodup_cons.1 hcan.nodup).1
    unfold pass
    rcases visit_cases hs hblock hprefixes h hcan (hnew parcel List.mem_cons_self) hrecord count with
      ⟨hfinds, u, hvisit, hu⟩ | ⟨hmissing, fault, u, hvisit⟩
    · have hrest : ∀ other ∈ rest, other ∉ parcel :: done := by
        intro other hother hmem
        rcases List.mem_cons.1 hmem with rfl | hmem
        · exact hnot hother
        · exact hnew other (List.mem_cons_of_mem parcel hother) hmem
      have hall : FindsAllRules context own.scope (parcel :: rest) s.store ↔
          FindsAllRules context (own.counting 1).scope rest s.store := by
        refine ⟨fun hall other hother => hall other (List.mem_cons_of_mem parcel hother), ?_⟩
        intro hall other hother found hfound
        rcases List.mem_cons.1 hother with rfl | hother
        · rwa [← Option.some.inj (hfound.symm.trans hrecord)] at hfinds
        · exact hall other hother found hfound
      have hcount : (own.counting 1).counting rest.length =
          own.counting (parcel :: rest).length := by
        rw [counting_counting, List.length_cons, Int.natCast_succ, Int.add_comm]
      rw [bind_of_ok hvisit, hall, ← hcount, List.reverse_cons, List.append_assoc]
      exact ih hcan.tail hrest hu (count + 1)
    · rw [bind_of_ok hvisit]
      refine .inr ⟨fun hall => hmissing ?_, own, some parcel, fault, u, rfl⟩
      exact hall parcel List.mem_cons_self record hrecord

end

section

variable (hs : s.IsSettled) (hblock : s.inBlock = false)

include hs hblock

/-- A worker that has taken a job comes through its parcels just if the rules can be loaded and all
that are found for the parcels exist. -/
theorem work_cases {row : Row Job} (hstored : row ∈ s.store.jobs.rows)
    (hcan : CanCount row.val parcels s) :
    (∃ context, contextOf row.val.scope.hasWords row.val.scope.hasCodes s = .ok context ∧
      FindsAllRules context row.val.scope parcels s.store ∧ ∃ u t,
        work .nothing row parcels s =
          (.ok (.through (row.val.counting parcels.length)), t) ∧
        s.Recompiles u ∧
        (row.val.scope.hasWords = true → ∀ vocabulary, u.HasCounter vocabulary) ∧
        Underway context row.id (row.val.counting parcels.length) parcels u t) ∨
    (∀ context, contextOf row.val.scope.hasWords row.val.scope.hasCodes s = .ok context →
      ¬ FindsAllRules context row.val.scope parcels s.store) ∧ ∃ last parcel fault t,
        work .nothing row parcels s = (.ok (.stopped last parcel fault), t) := by
  obtain ⟨u, hload, hsu, hcounters⟩ := Screening.exists_loadContext row.val.scope.hasWords
    row.val.scope.hasCodes (hs hblock).1
  unfold work
  rw [orStop_apply, hload]
  cases hcontext : contextOf row.val.scope.hasWords row.val.scope.hasCodes s with
  | error fault => exact .inr ⟨nofun, row.val, none, fault, u, rfl⟩
  | ok context =>
    have hprefixes : ∀ index, context.prefixes = some index → ∀ code,
        (Commodity.classify code index).ids.Nodup :=
      fun index hindex code => Screening.nodup_of_contextOf hcontext hindex code
    have hu := hsu.isSettled hs
    have hublock := hsu.inBlock.trans hblock
    have hcan' : CanCount row.val parcels u := { hcan with
      stored := by
        rw [hsu.store]
        exact hcan.stored }
    have hstart : Underway context row.id row.val [] u u :=
      ⟨rfl, (hu hublock).2.2, .nil context row.val.scope u.store, by rwa [hsu.store]⟩
    dsimp only
    rcases pass_cases hu hublock hprefixes hcan' (fun _ _ => List.not_mem_nil) hstart 0 with
      ⟨hall, t, hpass, ht⟩ | ⟨hnot, last, parcel, fault, t, hpass⟩
    · rw [hsu.store] at hall
      refine .inl ⟨context, rfl, hall, u, t, hpass, hsu, hcounters, ?_⟩
      refine { ht with screened := ht.screened.congr fun parcel => ?_ }
      rw [List.append_nil, List.mem_reverse]
    · rw [hsu.store] at hnot
      refine .inr ⟨fun other hother => ?_, last, parcel, fault, t, hpass⟩
      cases hother
      exact hnot

end

/-- A worker that has been stopped does not complete its job. -/
theorem status_of_stopped {last job : Job} {parcel : Option Int} {fault : Fault}
    (h : conclude id (.stopped last parcel fault) s = (.ok job, t)) : job.status = .failed := by
  obtain ⟨_, u, _, hend⟩ := bind_ok h
  rcases complete_cases id last .failed (some (last.errorOf fault)) u with
    ⟨fault, v, hrun, _⟩ | ⟨v, hrun, _⟩
  · rw [hrun] at hend
    cases hend
  · rw [hrun] at hend
    cases hend
    rfl

end Job

end Clearance

import Clearance.Proofs.Service.Amid
import Clearance.Proofs.Service.Settled
import Clearance.Proofs.Session.Tally

/-!
# Counters tally what is final

Rows of rules are created, saved and deleted one by one or in blocks, which may be inside one
another. What is done in a block counts once the outermost block is final, and never if the block or
one around it is undone. So outside a block the counter of a vocabulary has moved by as many rows as
have been saved or deleted for good, and while a block is open it stands still.
-/

set_option autoImplicit false

namespace Clearance

open Proc
open Session (Tallies tallies_zero StandsStill standsStill_of_generations)

/-! ## How many rows are saved or deleted -/

/-- Whether an operation creates or saves a rule, deletes a row with all that depends on it, fails,
or only looks for the rules. -/
def Operation.editsRules : Operation → Bool
  | addStopWord _ | addKeyWord _ _ | addKeyWordCode _ | saveKeyWordCode _ _ | saveWord _ _ _
  | delete _ _ | raise _ _ | showMatcher _ | matchText _ _ | generation _ => true
  | _ => false

/-- How many rows of the rules of a vocabulary an operation saves or deletes in a session: the word
or the code of a keyword that is saved, or as many rows as there are more or fewer. -/
def Operation.rowsChanged (vocabulary : Word.Vocabulary) (operation : Operation) (s : Session) :
    Nat :=
  let saves := fun saved =>
    if saved = vocabulary ∧ (Service.perform operation s).1.isOk = true then 1 else 0
  match operation with
  | saveWord saved _ _ => saves saved
  | saveKeyWordCode _ _ => saves .keyWords
  | _ => ((Service.perform operation s).2.store.ruleRows vocabulary -
      s.store.ruleRows vocabulary : Int).natAbs

/-- Whether an answer is that of a block which has not been undone. -/
def Answer.isCommitted : Answer → Bool
  | block committed _ => committed
  | _ => false

namespace Request

mutual

/-- Whether a request is for rules to be edited, in blocks or not. -/
def editsRules : Request → Bool
  | .single operation => operation.editsRules
  | .block requests => editRules requests
  | .work _ _ => false

/-- Whether requests are for rules to be edited. -/
def editRules : List Request → Bool
  | [] => true
  | request :: rest => editsRules request && editRules rest

end

mutual

/-- How many rows of the rules of a vocabulary a request saves or deletes for good, as far as the
block is concerned that is open when it is served. A block that is undone comes to none. -/
def rowsKept (vocabulary : Word.Vocabulary) : Request → Session → Nat
  | .single operation, s => operation.rowsChanged vocabulary s
  | .block requests, s =>
    if (Service.answerOf (Service.serve (.block requests) s).1).isCommitted then
      rowsKeptByAll vocabulary requests { s with inBlock := true }
    else 0
  | .work _ _, _ => 0

/-- How many rows requests save or delete that are served one after the other. -/
def rowsKeptByAll (vocabulary : Word.Vocabulary) : List Request → Session → Nat
  | [], _ => 0
  | request :: rest, s =>
    rowsKept vocabulary request s + rowsKeptByAll vocabulary rest (Service.serve request s).2

end

end Request

variable {vocabulary : Word.Vocabulary} {s t : Session}

/-! ## Operations -/

theorem AddsRows.tallies (h : AddsRows vocabulary s t) : Tallies vocabulary
    ((t.store.ruleRows vocabulary - s.store.ruleRows vocabulary : Int).natAbs) s t := by
  obtain ⟨count, htallies, hrows⟩ := h
  have hcount : (t.store.ruleRows vocabulary - s.store.ruleRows vocabulary : Int).natAbs =
      count := by
    omega
  rwa [hcount]

/-- What is shown of a compiled vocabulary counts nothing. -/
theorem addsRows_showMatcher (other : Word.Vocabulary) :
    Follows (AddsRows vocabulary) (Service.showMatcher other) := by
  intro s
  unfold Service.showMatcher
  refine addsRows_bind (addsRows_compiled other s) fun compiled t _ => ?_
  refine addsRows_bind (addsRows_refl t) fun last u _ => ?_
  refine addsRows_bind ⟨0, tallies_zero rfl rfl fun _ hnow => hnow, rfl⟩ fun _ v _ => ?_
  exact addsRows_bind (addsRows_readGeneration other v) fun _ w _ => addsRows_refl w

theorem tallies_delete (entity : Entity) (id : Int) (s : Session) :
    let t := (execute (fun store => store.delete entity id) s).2
    Tallies vocabulary
      ((t.store.ruleRows vocabulary - s.store.ruleRows vocabulary : Int).natAbs) s t := by
  intro t
  rcases tallies_execute vocabulary (fun store => store.delete entity id) s with
    ⟨_, hstore, htallies⟩ | ⟨outcome, hdelete, _, hstore, htallies⟩
  · have hrows : (t.store.ruleRows vocabulary - s.store.ruleRows vocabulary : Int).natAbs = 0 := by
      rw [show t.store = s.store from hstore]
      omega
    rwa [hrows]
  · have hcount := Store.ruleRows_delete vocabulary hdelete
    have hrows : (t.store.ruleRows vocabulary - s.store.ruleRows vocabulary : Int).natAbs =
        outcome.touched.count vocabulary := by
      rw [show t.store = outcome.store from hstore]
      omega
    rwa [hrows]

/-- A statement that saves a row is counted once if it goes through. -/
theorem tallies_save {change : Store → Except Fault (Change Nat)} {saved : Word.Vocabulary}
    (hsaves : ∀ store outcome, change store = .ok outcome → outcome.touched = [saved])
    (s : Session) :
    let save : Proc Answer := .rows <$> execute change
    Tallies vocabulary (if saved = vocabulary ∧ (save s).1.isOk = true then 1 else 0) s
      (save s).2 := by
  intro save
  have hsave : save s = ((execute change s).1.map .rows, (execute change s).2) := map_apply _ _ s
  have hisOk : ∀ result : Except Fault Nat, (result.map Answer.rows).isOk = result.isOk := by
    intro result
    cases result <;> rfl
  rw [hsave, hisOk]
  rcases tallies_execute vocabulary change s with
    ⟨hfails, _, htallies⟩ | ⟨outcome, hchange, hgoes, _, htallies⟩
  · rw [hfails]
    simpa using htallies
  · rw [hsaves s.store outcome hchange] at htallies
    rw [hgoes]
    simpa [List.count_singleton] using htallies

/-- An operation is counted for the rows that it saves or deletes. -/
theorem tallies_perform {operation : Operation} (h : operation.editsRules = true)
    (vocabulary : Word.Vocabulary) (s : Session) : Tallies vocabulary
      (operation.rowsChanged vocabulary s) s (Service.perform operation s).2 := by
  cases operation with
  | addStopWord entry =>
    exact AddsRows.tallies (followsAt_map _ (addsRows_execute (Store.addsRows_addWord entry) s))
  | addKeyWord entry codes =>
    exact AddsRows.tallies (followsAt_map _ (addsRows_addKeyWord entry codes s))
  | addKeyWordCode entry =>
    exact AddsRows.tallies
      (followsAt_map _ (addsRows_execute (Store.addsRows_addKeyWordCode entry) s))
  | saveKeyWordCode id edit =>
    exact tallies_save (fun _ _ hsave => (Store.ruleRows_saveKeyWordCode vocabulary hsave).2) s
  | saveWord saved id edit =>
    exact tallies_save (fun _ _ hsave => (Store.ruleRows_saveWord vocabulary hsave).2) s
  | delete entity id =>
    have hperform : Service.perform (.delete entity id) s =
        (((execute fun store => store.delete entity id) s).1.map .left,
          ((execute fun store => store.delete entity id) s).2) := map_apply _ _ s
    unfold Operation.rowsChanged
    dsimp only
    rw [hperform]
    exact tallies_delete entity id s
  | raise kind message => exact AddsRows.tallies (addsRows_refl s)
  | showMatcher other => exact AddsRows.tallies (addsRows_showMatcher other s)
  | matchText other text =>
    exact AddsRows.tallies (addsRows_bind (addsRows_compiled other s) fun _ t _ => addsRows_refl t)
  | generation other => exact AddsRows.tallies (followsAt_map _ (addsRows_readGeneration other s))
  | _ => cases h

/-- An operation on rules that does not fail leaves no block broken. -/
theorem leavesWhole_perform {operation : Operation} (h : operation.editsRules = true) :
    LeavesWhole (Service.perform operation) := by
  have hcodes : ∀ keyWord codes, LeavesWhole (Service.addCodes keyWord codes) := by
    intro keyWord codes
    induction codes with
    | nil => exact leavesWhole_pure _
    | cons code rest ih => exact leavesWhole_bind (leavesWhole_execute _) fun _ => ih
  cases operation with
  | addStopWord entry => exact leavesWhole_map _ (leavesWhole_execute _)
  | addKeyWord entry codes =>
    exact leavesWhole_map _ (leavesWhole_bind (leavesWhole_execute _) fun id =>
      leavesWhole_bind (hcodes id codes) fun _ => leavesWhole_pure _)
  | addKeyWordCode entry => exact leavesWhole_map _ (leavesWhole_execute _)
  | saveKeyWordCode id edit => exact leavesWhole_map _ (leavesWhole_execute _)
  | saveWord saved id edit => exact leavesWhole_map _ (leavesWhole_execute _)
  | delete entity id => exact leavesWhole_map _ (leavesWhole_execute _)
  | raise kind message => exact leavesWhole_of_isBroken_eq fun _ => rfl
  | showMatcher other =>
    exact leavesWhole_bind (leavesWhole_compiled other) fun _ =>
      leavesWhole_of_isBroken_eq fun _ => rfl
  | matchText other text =>
    exact leavesWhole_bind (leavesWhole_compiled other) fun _ => leavesWhole_pure _
  | generation other => exact leavesWhole_of_isBroken_eq fun _ => rfl
  | _ => cases h

/-! ## Requests -/

/-- A block in which rows are counted that is undone comes to none. -/
theorem tallies_undo {count : Nat} (h : Tallies vocabulary count { s with inBlock := true } t) :
    Tallies vocabulary 0 s (undo s t) :=
  tallies_zero rfl rfl (h.inside rfl).1

/-- A block that becomes final moves the counter by as many rows as have been counted in it. -/
theorem tallies_final {count : Nat} (hblock : s.inBlock = false)
    (h : Tallies vocabulary count { s with inBlock := true } t) : Tallies vocabulary count s
      ({ t with inBlock := false, pending := [] }.bumpAll t.pending) := by
  obtain ⟨hstill, more, hmore, hcount⟩ := h.inside rfl
  refine ⟨?_, fun hinside => ?_, fun _ hnone => ⟨?_, fun now hnow => ?_⟩⟩
  · exact (Session.inBlock_bumpAll _ _).trans hblock.symm
  · rw [hblock] at hinside
    cases hinside
  · exact Session.pending_bumpAll _ _
  · have hpending : t.pending = more := by
      rw [hmore, hnone]
      exact List.nil_append more
    rw [← hcount, ← hpending]
    exact Session.counter_bumpAll { t with inBlock := false, pending := [] } (hstill now hnow)
      t.pending

/-- How a block is answered whose requests have been served: as committed, unless it is undone. Only
one that was broken before is undone without a fault. -/
theorem serve_block_of_ok {requests : List Request} {answers : List Answer}
    (hbody : Service.serveUntilFault requests { s with inBlock := true } = (.ok answers, t)) :
    (∃ answer, Service.serve (.block requests) s = (.ok answer, undo s t) ∧
      (answer.isCommitted = true → Service.hasNoFault answers = true ∧ t.isBroken = true)) ∨
    t.isBroken = false ∧ Service.hasNoFault answers = true ∧
      (s.inBlock = true ∧ Service.serve (.block requests) s = (.ok (.block true answers), t) ∨
        s.inBlock = false ∧ Service.serve (.block requests) s = (.ok (.block true answers),
          { t with inBlock := false, pending := [] }.bumpAll t.pending)) := by
  rw [Service.serve, Service.answered_apply, map_apply]
  rcases atomicIf_of_ok Service.hasNoFault hbody with ⟨hundone, hrun⟩ |
    ⟨hwhole, hnone, ⟨hblock, hrun⟩ | ⟨hblock, hrun | hrun⟩⟩
  · rw [hrun]
    refine .inl ⟨Service.blockOf answers, rfl, fun hnone => ⟨hnone, ?_⟩⟩
    have hkeep : Service.hasNoFault answers = true := hnone
    rw [hkeep] at hundone
    rcases hundone with hbroken | hfails
    · exact hbroken
    · cases hfails
  · rw [hrun]
    refine .inr ⟨hwhole, hnone, .inl ⟨hblock, ?_⟩⟩
    rw [← hnone]
    rfl
  · rw [hrun]
    refine .inr ⟨hwhole, hnone, .inr ⟨hblock, ?_⟩⟩
    rw [← hnone]
    rfl
  · rw [hrun]
    refine .inl ⟨.failed .dangling, rfl, fun hcommitted => ?_⟩
    cases hcommitted

mutual

/-- A request is counted for the rows that it saves or deletes for good, and if it does not fail, no
block is broken. -/
theorem tallies_serve (vocabulary : Word.Vocabulary) (request : Request) {s : Session}
    (hedits : request.editsRules = true) (hwhole : s.isBroken = false) :
    Tallies vocabulary (request.rowsKept vocabulary s) s (Service.serve request s).2 ∧
    ∀ answer t, Service.serve request s = (.ok answer, t) → answer.fault?.isNone = true →
      t.isBroken = false := by
  cases request with
  | single operation =>
    unfold Request.editsRules at hedits
    unfold Request.rowsKept Service.serve
    rw [Service.answered_apply]
    refine ⟨tallies_perform hedits vocabulary s, fun answer t hrun hgoes => ?_⟩
    cases hperform : Service.perform operation s with
    | mk result u =>
      rw [hperform] at hrun
      cases result with
      | error fault =>
        cases hrun
        cases hgoes
      | ok own =>
        cases hrun
        exact leavesWhole_perform hedits s own u hwhole hperform
  | block requests =>
    unfold Request.editsRules at hedits
    obtain ⟨answers, t, hbody, ⟨count, hcount⟩, hkept⟩ :=
      tallies_serveUntilFault vocabulary requests (s := { s with inBlock := true }) hedits hwhole
    have hcommitted : (Answer.block true answers).isCommitted = true := rfl
    rw [Request.rowsKept]
    rcases serve_block_of_ok hbody with ⟨answer, hserve, hundone⟩ |
      ⟨hwhole', hnone, ⟨hblock, hserve⟩ | ⟨hblock, hserve⟩⟩
    · have hnot : ¬ answer.isCommitted = true := by
        intro hcommitted
        obtain ⟨hnone, hbroken⟩ := hundone hcommitted
        rw [(hkept hnone).1] at hbroken
        cases hbroken
      rw [hserve, Service.answerOf, if_neg hnot]
      refine ⟨tallies_undo hcount, fun answer u hsame _ => ?_⟩
      cases hsame
      exact hwhole
    · rw [hserve, Service.answerOf, if_pos hcommitted]
      refine ⟨?_, fun answer u hsame _ => ?_⟩
      · have hinside : { s with inBlock := true } = s := by
          rw [← hblock]
        have hrows := (hkept hnone).2
        rwa [hinside] at hrows ⊢
      · cases hsame
        exact hwhole'
    · rw [hserve, Service.answerOf, if_pos hcommitted]
      refine ⟨tallies_final hblock (hkept hnone).2, fun answer u hsame _ => ?_⟩
      cases hsame
      exact (Session.isBroken_bumpAll _ _).trans hwhole'
  | work job interludes =>
    unfold Request.editsRules at hedits
    cases hedits

theorem tallies_serveUntilFault (vocabulary : Word.Vocabulary) (requests : List Request)
    {s : Session} (hedits : Request.editRules requests = true) (hwhole : s.isBroken = false) :
    ∃ answers t, Service.serveUntilFault requests s = (.ok answers, t) ∧
      (∃ count, Tallies vocabulary count s t) ∧
      (Service.hasNoFault answers = true → t.isBroken = false ∧
        Tallies vocabulary (Request.rowsKeptByAll vocabulary requests s) s t) := by
  cases requests with
  | nil =>
    unfold Service.serveUntilFault Request.rowsKeptByAll
    have hnothing : Tallies vocabulary 0 s s := tallies_zero rfl rfl fun _ hnow => hnow
    exact ⟨[], s, rfl, ⟨0, hnothing⟩, fun _ => ⟨hwhole, hnothing⟩⟩
  | cons request rest =>
    unfold Request.editRules at hedits
    rw [Bool.and_eq_true] at hedits
    obtain ⟨htallies, hwhole'⟩ := tallies_serve vocabulary request hedits.1 hwhole
    obtain ⟨answer, t, hserve⟩ := Service.exists_serve request s
    unfold Service.serveUntilFault Request.rowsKeptByAll
    rw [bind_of_ok hserve]
    rw [hserve] at htallies ⊢
    by_cases hfails : answer.fault?.isSome = true
    · rw [if_pos hfails]
      refine ⟨[answer], t, rfl, ⟨_, htallies⟩, fun hnone => ?_⟩
      rw [Service.hasNoFault, List.all_cons, Bool.and_eq_true] at hnone
      rw [Option.isNone_iff_eq_none.1 hnone.1] at hfails
      cases hfails
    · rw [if_neg hfails]
      have hgoes : answer.fault?.isNone = true := by
        simpa using hfails
      obtain ⟨answers, u, hrest, ⟨count, hcount⟩, hkept⟩ :=
        tallies_serveUntilFault vocabulary rest hedits.2 (hwhole' answer t hserve hgoes)
      rw [bind_of_ok hrest]
      refine ⟨answer :: answers, u, rfl, ⟨_, htallies.trans hcount⟩, fun hnone => ?_⟩
      rw [Service.hasNoFault, List.all_cons, Bool.and_eq_true] at hnone
      obtain ⟨hwhole'', hmore⟩ := hkept hnone.2
      exact ⟨hwhole'', htallies.trans hmore⟩

end

theorem tallies_serveAll (vocabulary : Word.Vocabulary) {requests : List Request}
    (hedits : Request.editRules requests = true) {s : Session} (hs : s.IsSettled)
    (hblock : s.inBlock = false) : Tallies vocabulary
      (Request.rowsKeptByAll vocabulary requests s) s (Service.serveAll requests s).2 := by
  induction requests generalizing s with
  | nil => exact tallies_zero rfl rfl fun _ hnow => hnow
  | cons request rest ih =>
    unfold Request.editRules at hedits
    rw [Bool.and_eq_true] at hedits
    obtain ⟨hblock', hsettled⟩ := Service.follows_serve Service.staysSettled_isCourse_service request
      (fun _ _ => trivial) s
    rw [Service.serveAll_cons_snd, Request.rowsKeptByAll]
    exact (tallies_serve vocabulary request hedits.1 (hs hblock).1).1.trans
      (ih hedits.2 (hsettled hs) (hblock'.trans hblock))

/-! ## Inside a block -/

/-- Whether an operation neither moves a counter by hand nor loses one. -/
def Operation.leavesCounters : Operation → Bool
  | bump _ | evict _ => false
  | _ => true

theorem standsStill_isCourse_service :
    Service.IsCourse (fun operation => operation.leavesCounters = true) StandsStill where
  toIsCourse := standsStill_isCourse
  request := Job.follows_request standsStill_isCourse (fun _ _ _ => standsStill_execute _)
    (fun _ => standsStill_execute _) fun _ => standsStill_of_generations rfl rfl
  cancel := Job.follows_cancel standsStill_isCourse fun _ _ _ => standsStill_execute _
  run := Job.follows_run_of_saves standsStill_isCourse fun _ _ _ => standsStill_execute _
  updateWord := fun _ _ _ _ => standsStill_execute _
  bumped := fun _ hleaves => nomatch hleaves
  evict := fun _ hleaves => nomatch hleaves
  advance := fun _ _ _ => standsStill_of_generations rfl rfl
  markStarted := fun _ _ _ =>
    Job.follows_markStarted standsStill_isCourse (fun _ _ _ => standsStill_execute _) _ _

/-! ## Counters -/

/-- After rules have been created, saved and deleted in any nesting of blocks, the counter of a
vocabulary that was there has moved by exactly as many rows of its rules as have been saved or
deleted for good. It shows the same number throughout a block that begins then, whatever is done in
it. -/
theorem counter_eq_rowsKept {s : Session} (hs : s.IsSettled) (hblock : s.inBlock = false)
    {vocabulary : Word.Vocabulary} {now : Int}
    (hcounter : s.generations.get vocabulary = some now) {requests : List Request}
    (hedits : Request.editRules requests = true) :
    let t := (Service.serveAll requests s).2
    t.inBlock = false ∧
    t.generations.get vocabulary =
      some (now + Request.rowsKeptByAll vocabulary requests s) ∧
    ∀ u, Service.IsAmid (fun operation => operation.leavesCounters = true) t u →
      u.generations.get vocabulary = t.generations.get vocabulary := by
  intro t
  have htallies := tallies_serveAll vocabulary hedits hs hblock
  have hmoved := (htallies.outside hblock (hs hblock).2.1).2 now hcounter
  refine ⟨htallies.inBlock.trans hblock, hmoved, fun u hamid => ?_⟩
  have hstill := hamid.follows standsStill_isCourse_service fun h => h.inBlock
  rw [hmoved]
  exact hstill.counter rfl vocabulary _ hmoved

/-- A keyword with two codes, added in a block in which another is undone; then one of the codes
saved again; then the keyword deleted in a block that is undone, and deleted for good. -/
def tallyRequests : List Request :=
  [.block [.single (.addKeyWord ⟨"gun", 11⟩ ["1111111111", "2222222222"]),
      .block [.single (.addKeyWord ⟨"axe", 11⟩ []), .single (.raise .runtime (some "undone"))]],
    .single (.saveKeyWordCode 2 ⟨none, some "3333333333"⟩),
    .block [.single (.delete .keyWord 1), .single (.raise .runtime (some "undone"))],
    .single (.delete .keyWord 1)]

/-- A session in which the counter of the keywords is there. -/
def tallySession : Session :=
  (Service.serveAll [.single (.generation .keyWords)] (Session.start (.engine .null) .none)).2

/-- Three rows are created and deleted for good, and one of them is saved in between: the counter
has moved by seven. -/
theorem counter_tallyRequests : tallySession.generations.get .keyWords = some 1705320000000 ∧
    (Service.serveAll tallyRequests tallySession).2.generations.get .keyWords =
      some 1705320000007 := by
  obtain ⟨hs, hblock, _⟩ := Service.isSettled_serveAll (.engine .null) .none
    [.single (.generation .keyWords)]
  have hcounter : tallySession.generations.get .keyWords = some 1705320000000 := by
    decide +kernel
  have hrows : Request.rowsKeptByAll .keyWords tallyRequests tallySession = 7 := by
    decide +kernel
  have hedits : Request.editRules tallyRequests = true := by
    decide +kernel
  have hmoved := (@counter_eq_rowsKept tallySession hs hblock .keyWords _ hcounter _ hedits).2.1
  rw [hrows] at hmoved
  refine ⟨hcounter, hmoved.trans ?_⟩
  decide

end Clearance

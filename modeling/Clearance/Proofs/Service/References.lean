import Clearance.Proofs.Job.Settled
import Clearance.Proofs.Service.Settled
import Clearance.Proofs.Store.Dependency

/-!
# References and links

Whatever has been done to an empty session, by requests, by screenings with contexts that may be
outdated and by workers between whose steps others act: as long as no block is open, every row that
another one refers to is there and no parcel is linked to one rule twice. A deletion takes away the
rows that depend on the row deleted, and no others.
-/

set_option autoImplicit false

namespace Clearance

open Proc
open Session (StaysSettled)

/-! ## Links stay different -/

/-- Whether links that differ in a session still do in what becomes of it. -/
def Session.KeepsDistinct (s t : Session) : Prop :=
  s.store.HasDistinctLinks → t.store.HasDistinctLinks

theorem Session.keepsDistinct_of_links_eq {s t : Session}
    (hlinks : ∀ kind, t.store.links kind = s.store.links kind) : s.KeepsDistinct t :=
  fun h => h.congr hlinks

open Session (KeepsDistinct keepsDistinct_of_links_eq)

/-- A statement keeps links different if its change does. -/
theorem keepsDistinct_execute {α : Type} {change : Store → Except Fault (Change α)}
    (h : ∀ store outcome, change store = .ok outcome → store.HasDistinctLinks →
      outcome.store.HasDistinctLinks) : Follows KeepsDistinct (execute change) := by
  intro s
  unfold FollowsAt
  rcases execute_cases change s with ⟨_, _, hrun, _⟩ |
    ⟨outcome, _, hchange, ⟨_, hrun⟩ | ⟨_, _, hrun⟩⟩
  · rw [hrun]
    exact id
  · rw [hrun]
    exact h s.store outcome hchange
  · rw [hrun]
    unfold KeepsDistinct
    rw [Session.store_bumpAll]
    exact h s.store outcome hchange

theorem keepsDistinct_saveJob (id : Int) (numbers : List Int) (save : Job → Job) :
    Follows KeepsDistinct (execute fun store => store.saveJob id numbers save) := by
  refine keepsDistinct_execute fun store outcome hsave h => h.congr fun kind => ?_
  rw [Store.eq_of_saveJob hsave]
  cases kind <;> rfl

theorem keepsDistinct_isCourse : Proc.IsCourse KeepsDistinct where
  trans := fun hst htu h => htu (hst h)
  aside := fun hsame => keepsDistinct_of_links_eq fun kind => by rw [hsame.store]
  edit := fun hedit => keepsDistinct_execute fun store outcome hchange =>
    (hedit store outcome hchange).links
  undone := fun _ => id
  final := fun _ h _ _ => by
    unfold KeepsDistinct at h ⊢
    rw [Session.store_bumpAll]
    exact h
  generation := fun _ _ => id
  kept := fun _ _ _ _ _ => id
  cleared := fun _ => id

namespace Service

theorem keepsDistinct_isCourse_service : Service.IsCourse (fun _ => True) KeepsDistinct where
  toIsCourse := keepsDistinct_isCourse
  request := Job.follows_request keepsDistinct_isCourse keepsDistinct_saveJob
    (fun job => keepsDistinct_execute fun store outcome hadd h => h.congr fun kind => by
      cases hadd
      cases kind <;> rfl)
    fun _ => id
  cancel := Job.follows_cancel keepsDistinct_isCourse keepsDistinct_saveJob
  run := Job.follows_run_of_saves keepsDistinct_isCourse keepsDistinct_saveJob
  updateWord := fun _ _ _ _ => keepsDistinct_execute fun _ _ hupdate =>
    (Store.edited_updateWord hupdate).links
  bumped := fun _ _ _ => id
  evict := fun _ _ _ => id
  advance := fun _ _ _ => id
  markStarted := fun _ _ _ =>
    Job.follows_markStarted keepsDistinct_isCourse keepsDistinct_saveJob _ _

/-! ## Sessions that are reached -/

/-- Whether a session comes of an empty one by requests, by screenings with any contexts and by
steps of workers, in any order. -/
inductive IsReached : Session → Prop
  | started (backend : Word.Backend) (outages : Monitor.Outages) :
    IsReached (Session.start backend outages)
  | served {s : Session} (reached : IsReached s) (request : Request) :
    IsReached (serve request s).2
  | screened {s : Session} (reached : IsReached s) (scope : Scope)
    (given : Option Screening.Context) (parcel : Int) :
    IsReached (Screening.screen scope given parcel s).2
  | worked {s : Session} (reached : IsReached s) (worker : Job.Worker) :
    IsReached (worker.step s).2

theorem isReached_serveAll {s : Session} (reached : IsReached s) (requests : List Request) :
    IsReached (serveAll requests s).2 := by
  induction requests generalizing s with
  | nil => exact reached
  | cons request rest ih =>
    rw [serveAll_cons_snd]
    exact ih (reached.served request)

/-- In a session that is reached no block is open, and its links differ. -/
theorem IsReached.isSettled {s : Session} (reached : IsReached s) :
    s.IsSettled ∧ s.inBlock = false ∧ s.store.HasDistinctLinks := by
  have hgoes : ∀ {s t : Session}, StaysSettled s t → KeepsDistinct s t →
      s.IsSettled ∧ s.inBlock = false ∧ s.store.HasDistinctLinks →
      t.IsSettled ∧ t.inBlock = false ∧ t.store.HasDistinctLinks :=
    fun hst hlinks ⟨hs, hblock, h⟩ => ⟨hst.isSettled hs, hst.inBlock.trans hblock, hlinks h⟩
  induction reached with
  | started backend outages =>
    exact ⟨Session.isSettled_start backend outages, rfl, Store.hasDistinctLinks_empty⟩
  | served _ request ih =>
    exact hgoes (follows_serve staysSettled_isCourse_service request (fun _ _ => trivial) _)
      (follows_serve keepsDistinct_isCourse_service request (fun _ _ => trivial) _) ih
  | screened _ scope given parcel ih =>
    exact hgoes (staysSettled_isCourse.screen scope given parcel _)
      (keepsDistinct_isCourse.screen scope given parcel _) ih
  | worked _ worker ih =>
    exact hgoes (Job.staysSettled_step worker _)
      (Job.follows_step_of_saves keepsDistinct_isCourse keepsDistinct_saveJob worker _) ih

/-! ## Deletion -/

/-- A row that is there is deleted with all that depends on it, in a block or outside. -/
theorem perform_delete_of_hasRow {s : Session} (hs : s.IsSettled) (hwhole : s.isBroken = false)
    {entity : Entity} {id : Int} (hrow : s.store.hasRow entity id = true) :
    ∃ t, perform (.delete entity id) s =
        (.ok (.left ((s.store.erase entity id).count entity)), t) ∧
      t.store = s.store.erase entity id := by
  have hdelete : s.store.delete entity id = .ok ⟨s.store.erase entity id,
      (s.store.erase entity id).count entity, s.store.touchedByErasing entity id⟩ := by
    unfold Store.delete
    rw [if_pos hrow]
  have hsound : s.inBlock = false → (s.store.erase entity id).IsSound := fun hblock =>
    Store.isSound_erase (hs hblock).2.2 ⟨entity, id⟩
  obtain ⟨t, hrun, hstore⟩ :=
    exists_execute (fun store => store.delete entity id) hwhole hdelete hsound
  have hperform : perform (.delete entity id) s =
      (Answer.left <$> execute fun store => store.delete entity id) s := rfl
  rw [hperform, map_apply, hrun]
  exact ⟨t, rfl, hstore⟩

/-- As long as no block is open, every row that is referred to is there, and no parcel is linked to
one rule twice; and deleting a row deletes the rows that depend on it, directly or through a chain
of rows, and no others. -/
theorem referred_exists_and_links_differ :
    (∀ s, IsReached s → s.IsSettled ∧ s.inBlock = false ∧ s.isBroken = false ∧
      s.store.IsSound ∧ s.store.HasDistinctLinks) ∧
    ∀ s : Session, s.IsSettled → s.isBroken = false → ∀ entity id,
      s.store.hasRow entity id = true → ∃ left t,
        perform (.delete entity id) s = (.ok (.left left), t) ∧
        ∀ kind row, row ∈ (t.store.table kind).rows ↔
          row ∈ (s.store.table kind).rows ∧
            ¬ s.store.DependsOn ⟨kind, row.id⟩ ⟨entity, id⟩ := by
  constructor
  · intro s reached
    obtain ⟨hs, hblock, hdistinct⟩ := reached.isSettled
    obtain ⟨hwhole, _, hsound⟩ := hs hblock
    exact ⟨hs, hblock, hwhole, hsound, hdistinct⟩
  · intro s hs hwhole entity id hrow
    obtain ⟨t, hdelete, hstore⟩ := perform_delete_of_hasRow hs hwhole hrow
    refine ⟨_, t, hdelete, fun kind row => ?_⟩
    rw [hstore]
    exact Store.mem_erase_iff s.store ⟨entity, id⟩ kind row

/-- A register with a parcel that is linked to a stop word. -/
def linkRequests : List Request :=
  [.single (.addRegister ⟨"R", "import"⟩), .single (.addParcel 1 .nothing),
    .single (.addStopWord ⟨"gun", 11⟩), .single (.link 1 ⟨.stopWord, 1⟩)]

/-- The link depends on the register through the parcel and is deleted with it, the stop word is
not. -/
theorem delete_register_linkRequests :
    let s := (serveAll linkRequests (Session.start (.engine .null) .none)).2
    let link : Row Link := ⟨1, ⟨1, 1⟩⟩
    s.inBlock = false ∧ s.store.IsSound ∧ s.store.HasDistinctLinks ∧
      link ∈ s.store.stopWordLinks.rows ∧ ∃ left t,
        perform (.delete .register 1) s = (.ok (.left left), t) ∧
          link ∉ t.store.stopWordLinks.rows ∧ ⟨1, ⟨"gun", 11⟩⟩ ∈ t.store.stopWords.rows := by
  intro s link
  obtain ⟨hreached, hdeleted⟩ := referred_exists_and_links_differ
  obtain ⟨hs, hblock, hwhole, hsound, hdistinct⟩ :=
    hreached s (isReached_serveAll (.started _ _) linkRequests)
  have hregister : s.store.hasRow .register 1 = true := by decide +kernel
  have hlink : link ∈ s.store.stopWordLinks.rows := by decide +kernel
  have hparcel : ∃ row ∈ s.store.parcels.rows, row.id = 1 ∧ row.val.register = 1 := by
    decide +kernel
  have hword : ⟨1, ⟨"gun", 11⟩⟩ ∈ s.store.stopWords.rows := by decide +kernel
  obtain ⟨left, t, hdelete, hrows⟩ := hdeleted s hs hwhole .register 1 hregister
  refine ⟨hblock, hsound, hdistinct, hlink, left, t, hdelete, fun hleft => ?_, ?_⟩
  · refine ((hrows .stopWordLink link).1 hleft).2 ?_
    obtain ⟨row, hrow, hid, hown⟩ := hparcel
    refine .head (b := ⟨.parcel, 1⟩) ⟨link, hlink, rfl, .head _⟩ ?_
    exact (Store.dependsOn_parcel _ _ _).2 (.inr ⟨row, hrow, hid, by rw [hown]⟩)
  · refine (hrows .stopWord ⟨1, ⟨"gun", 11⟩⟩).2 ⟨hword, ?_⟩
    rw [Store.dependsOn_stopWord]
    simp

end Service

end Clearance

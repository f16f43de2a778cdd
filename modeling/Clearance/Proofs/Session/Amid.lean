import Clearance.Proofs.Service.Amid
import Clearance.Proofs.Session.Freshness

/-!
# Vocabularies compiled inside a block

The generation of a vocabulary moves only when a change of its words is final. So a vocabulary that
was kept before a block began is used again inside it, however the block has changed the words in
the meantime, and only one that was not kept is compiled from the words as the block sees them. What
a block makes of its own changes therefore depends on what was asked for before it.
-/

set_option autoImplicit false

namespace Clearance

open Proc

/-- Compiling keeps the rules as they are given. -/
theorem Word.compile_inj {rules rules' : List Word.Rule} :
    Word.compile rules = Word.compile rules' ↔ rules = rules' := by
  constructor
  · intro h
    exact congrArg Word.Matcher.rules h
  · intro h
    rw [h]

/-- Inside a block a vocabulary that is kept for its present generation is compiled to the words
there were before the block began, and any other to the words as the block sees them. So it follows
the changes of the block just if it is not kept or there are none. -/
theorem compiled_amid_block (backend : Word.Backend) (outages : Monitor.Outages)
    (requests : List Request)
    (hcounts : ∀ operation ∈ Request.operationsOfAll requests, operation.keepsCount = true)
    {t : Session} (ht : Service.IsAmid (fun operation => operation.keepsCount = true)
      (Service.serveAll requests (Session.start backend outages)).2 t)
    (hwhole : t.isBroken = false) (vocabulary : Word.Vocabulary) :
    let s := (Service.serveAll requests (Session.start backend outages)).2
    ∃ compiled u, Proc.compiled vocabulary t = (.ok compiled, u) ∧
      (t.HasKept vocabulary → compiled.matcher = Word.compile (s.store.rules vocabulary)) ∧
      (compiled.matcher = Word.compile (t.store.rules vocabulary) ↔
        ¬ t.HasKept vocabulary ∨ t.store.rules vocabulary = s.store.rules vocabulary) := by
  intro s
  have hcourse := Service.follows_serveAll staysFresh_isCourse_service requests hcounts
    (Session.start backend outages)
  have hs : s.IsFreshFor s.store :=
    (hcourse.outside rfl rfl (Session.isFreshFor_start backend outages)).2
  have hinside := (ht.follows staysFresh_isCourse_service fun h => h.inBlock).inside rfl
  have hfresh : t.IsUpToDate s.store := (hinside.1 s.store hs).isUpToDate
  obtain ⟨compiled, u, hrun, hmatcher, _⟩ := exists_compiled hwhole vocabulary
  refine ⟨compiled, u, hrun, fun hkept => hmatcher.trans (hfresh.matcherOf_of_hasKept hkept), ?_⟩
  rw [hmatcher]
  by_cases hkept : t.HasKept vocabulary
  · rw [hfresh.matcherOf_of_hasKept hkept, Word.compile_inj]
    constructor
    · intro hsame
      exact .inr hsame.symm
    · intro hsame
      exact (hsame.resolve_left (not_not_intro hkept)).symm
  · rw [Session.matcherOf_of_not_hasKept hkept]
    exact ⟨fun _ => .inl hkept, fun _ => rfl⟩

/-! ## A word added in a block -/

/-- A register with a parcel that holds a phantom item. -/
def phantomParcelRequests : List Request :=
  [.single (.addRegister ⟨"R", "wbr"⟩),
    .single (.addParcel 1 { Store.ParcelEdit.nothing with product := some (some "phantom item") })]

/-- A stop word that the parcel holds. -/
def addPhantom : Request := .single (.addStopWord ⟨"phantom", 11⟩)

/-- The session in which a block is open that has added the stop word, once requests have been
served. -/
def phantomAmid (requests : List Request) : Session :=
  (Service.serve addPhantom
    { (Service.serveAll requests (Session.start (.engine .null) .none)).2 with inBlock := true }).2

theorem isAmid_phantomAmid (requests : List Request)
    (hadds : ((Service.serve addPhantom
      { (Service.serveAll requests (Session.start (.engine .null) .none)).2 with
        inBlock := true }).1.toOption.any fun answer => answer.fault?.isNone) = true) :
    Service.IsAmid (fun operation => operation.keepsCount = true)
      (Service.serveAll requests (Session.start (.engine .null) .none)).2 (phantomAmid requests) := by
  cases hserve : Service.serve addPhantom
      { (Service.serveAll requests (Session.start (.engine .null) .none)).2 with
        inBlock := true } with
  | mk result t =>
    rw [hserve] at hadds
    cases result with
    | error fault => cases hadds
    | ok answer =>
      have hcounts : ∀ operation ∈ addPhantom.operations, operation.keepsCount = true :=
        List.all_eq_true.1 (by rfl)
      unfold phantomAmid
      rw [hserve]
      exact .served .begun hcounts hserve hadds

/-- The requests after which the stop words have been compiled. -/
def phantomWarmRequests : List Request :=
  phantomParcelRequests ++ [.single (.matchText .stopWords (some "phantom item"))]

/-- With no stop words kept, the block is given its own; with those kept from before, it is not. -/
theorem compiled_phantomAmid :
    (∃ compiled u, Proc.compiled .stopWords (phantomAmid phantomParcelRequests) = (.ok compiled, u) ∧
      compiled.matcher = Word.compile [⟨1, some "phantom", 11⟩]) ∧
    ∃ compiled u, Proc.compiled .stopWords (phantomAmid phantomWarmRequests) = (.ok compiled, u) ∧
      compiled.matcher = Word.compile [] := by
  have hcold : (phantomAmid phantomParcelRequests).store.rules .stopWords =
      [⟨1, some "phantom", 11⟩] := by
    decide +kernel
  have hbefore : (Service.serveAll phantomWarmRequests
      (Session.start (.engine .null) .none)).2.store.rules .stopWords = [] := by
    decide +kernel
  constructor
  · obtain ⟨compiled, u, hrun, _, hiff⟩ := compiled_amid_block (.engine .null) .none
      phantomParcelRequests (List.all_eq_true.1 (by rfl))
      (isAmid_phantomAmid phantomParcelRequests (by decide +kernel)) (by decide +kernel) .stopWords
    refine ⟨compiled, u, hrun, ?_⟩
    rw [← hcold]
    exact hiff.2 (.inl (by unfold Session.HasKept; decide +kernel))
  · obtain ⟨compiled, u, hrun, hkept, _⟩ := compiled_amid_block (.engine .null) .none
      phantomWarmRequests (List.all_eq_true.1 (by rfl))
      (isAmid_phantomAmid phantomWarmRequests (by decide +kernel)) (by decide +kernel) .stopWords
    refine ⟨compiled, u, hrun, ?_⟩
    rw [← hbefore]
    exact hkept (by unfold Session.HasKept; decide +kernel)

/-- Inside the block the stop words kept from before come without the one that the block has added.
So a parcel that is screened there is linked to that word if no stop words were kept, and is not if
they were. -/
theorem links_phantomBlock :
    let warm := phantomAmid phantomWarmRequests
    let after := fun requests : List Request =>
      (Service.serveAll (requests ++ [.block [addPhantom, .single (.screen 1 .full none)]])
        (Session.start (.engine .null) .none)).2.store
    warm.store.rules .stopWords = [⟨1, some "phantom", 11⟩] ∧
      (Proc.compiled .stopWords warm).1.toOption.map (·.matcher) = some (Word.compile []) ∧
      (after phantomParcelRequests).linkedRules .stopWord 1 = [1] ∧
      (after phantomWarmRequests).linkedRules .stopWord 1 = [] := by
  refine ⟨?_, ?_, ?_, ?_⟩ <;> decide +kernel

end Clearance

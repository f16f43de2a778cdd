import Clearance.Proofs.Store.Links

/-!
# What editing leaves alone

Every statement that is not about jobs in particular leaves the words of a vocabulary as they are
unless it says that it touches the vocabulary, takes jobs away at most, and links no parcel to a
rule twice. The only statement that changes words without saying so is the edit of a word in place,
which still leaves the jobs and the links alone.
-/

set_option autoImplicit false

namespace Clearance.Store

/-- A store whose jobs are some of those that there were. -/
structure SomeJobsOf (before after : Store) : Prop where
  rows : after.jobs.rows.Sublist before.jobs.rows
  lastId : after.jobs.lastId = before.jobs.lastId

theorem someJobsOf_of_jobs_eq {before after : Store} (h : after.jobs = before.jobs) :
    SomeJobsOf before after := by
  constructor
  · rw [h]
  · rw [h]

/-- What an edit makes of a store: only the words of the vocabularies touched are changed, jobs are
taken away at most, and links that differ still do. -/
structure Edited (before : Store) (touched : List Word.Vocabulary) (after : Store) : Prop where
  words : ∀ vocabulary, vocabulary ∉ touched → after.words vocabulary = before.words vocabulary
  jobs : SomeJobsOf before after
  links : before.HasDistinctLinks → after.HasDistinctLinks

theorem Edited.rules {before after : Store} {touched : List Word.Vocabulary}
    (h : Edited before touched after) {vocabulary : Word.Vocabulary}
    (hsame : vocabulary ∉ touched) : after.rules vocabulary = before.rules vocabulary := by
  unfold Store.rules
  rw [h.words vocabulary hsame]

/-- An edit that changes neither words nor jobs nor links. -/
theorem edited_of_eq {before after : Store} (touched : List Word.Vocabulary)
    (hwords : ∀ vocabulary, after.words vocabulary = before.words vocabulary)
    (hjobs : after.jobs = before.jobs) (hlinks : ∀ kind, after.links kind = before.links kind) :
    Edited before touched after :=
  ⟨fun vocabulary _ => hwords vocabulary, someJobsOf_of_jobs_eq hjobs, fun h => h.congr hlinks⟩

/-- Whether a statement, where it goes through, is an edit. -/
def IsEdit {α : Type} (change : Store → Except Fault (Change α)) : Prop :=
  ∀ store outcome, change store = .ok outcome → Edited store outcome.touched outcome.store

/-! ## New rows -/

theorem isEdit_addRegister (register : Register) :
    IsEdit fun store => .ok (store.addRegister register) := by
  intro store outcome h
  cases h
  exact edited_of_eq _ (fun vocabulary => by cases vocabulary <;> rfl) rfl
    fun kind => by cases kind <;> rfl

theorem isEdit_addParcels (parcels : List Parcel) :
    IsEdit fun store => store.addParcels parcels := by
  intro store outcome h
  obtain ⟨_, _, hadded⟩ := exists_of_bind h
  cases hadded
  exact edited_of_eq _ (fun vocabulary => by cases vocabulary <;> rfl) rfl
    fun kind => by cases kind <;> rfl

theorem isEdit_addKeyWordCode (entry : KeyWordCode) :
    IsEdit fun store => store.addKeyWordCode entry := by
  intro store outcome h
  obtain ⟨_, _, hadded⟩ := exists_of_bind h
  dsimp only at hadded
  split at hadded
  · cases hadded
  · cases hadded
    exact edited_of_eq _ (fun vocabulary => by cases vocabulary <;> rfl) rfl
      fun kind => by cases kind <;> rfl

theorem isEdit_addOrder (order : CodeOrder) : IsEdit fun store => .ok (store.addOrder order) := by
  intro store outcome h
  cases h
  exact edited_of_eq _ (fun vocabulary => by cases vocabulary <;> rfl) rfl
    fun kind => by cases kind <;> rfl

theorem isEdit_addPrefix (entry : StoredPrefix) : IsEdit fun store => store.addPrefix entry := by
  intro store outcome h
  obtain ⟨_, _, hadded⟩ := exists_of_bind h
  cases hadded
  exact edited_of_eq _ (fun vocabulary => by cases vocabulary <;> rfl) rfl
    fun kind => by cases kind <;> rfl

theorem isEdit_addException (entry : PrefixException) :
    IsEdit fun store => store.addException entry := by
  intro store outcome h
  obtain ⟨_, _, hadded⟩ := exists_of_bind h
  cases hadded
  exact edited_of_eq _ (fun vocabulary => by cases vocabulary <;> rfl) rfl
    fun kind => by cases kind <;> rfl

theorem isEdit_addCatalogueCode (row : Commodity.CatalogueCode) :
    IsEdit fun store => .ok (store.addCatalogueCode row) := by
  intro store outcome h
  cases h
  exact edited_of_eq _ (fun vocabulary => by cases vocabulary <;> rfl) rfl
    fun kind => by cases kind <;> rfl

theorem isEdit_addLink (kind : LinkKind) (link : Link) :
    IsEdit fun store => store.addLink kind link := by
  intro store outcome h
  obtain ⟨_, _, hadded⟩ := exists_of_bind h
  dsimp only at hadded
  split at hadded
  · cases hadded
  · cases hadded
    next hnew =>
    refine ⟨fun vocabulary _ => ?_, someJobsOf_of_jobs_eq ?_, fun hdistinct =>
      hasDistinctLinks_addLink hdistinct (Bool.eq_false_iff.2 hnew)⟩
    · cases kind <;> cases vocabulary <;> rfl
    · cases kind <;> rfl

/-! ## Codes of keywords -/

theorem putKeyWordCode_ok {store after : Store} {id : Int} {entry : KeyWordCode}
    (h : store.putKeyWordCode id entry = .ok after) :
    after = { store with keyWordCodes := store.keyWordCodes.modify id fun _ => entry } := by
  obtain ⟨_, _, hput⟩ := exists_of_bind h
  split at hput
  · cases hput
  · cases hput
    rfl

/-- A code of a keyword that is saved was stored, and the keywords are touched once. -/
theorem saveKeyWordCode_ok {store : Store} {id : Int} {edit : CodeEdit} {outcome : Change Nat}
    (h : store.saveKeyWordCode id edit = .ok outcome) :
    ∃ entry, store.keyWordCodes.find? id = some entry ∧ outcome =
      ⟨{ store with keyWordCodes := store.keyWordCodes.modify id fun _ => edit.apply entry }, 1,
        [.keyWords]⟩ := by
  unfold saveKeyWordCode at h
  cases hfind : store.keyWordCodes.find? id with
  | none =>
    rw [hfind] at h
    cases h
  | some entry =>
    rw [hfind] at h
    obtain ⟨after, hput, hsaved⟩ := exists_of_bind h
    cases hsaved
    exact ⟨entry, rfl, by rw [putKeyWordCode_ok hput]⟩

theorem isEdit_saveKeyWordCode (id : Int) (edit : CodeEdit) :
    IsEdit fun store => store.saveKeyWordCode id edit := by
  intro store outcome h
  obtain ⟨_, _, rfl⟩ := saveKeyWordCode_ok h
  exact edited_of_eq _ (fun vocabulary => by cases vocabulary <;> rfl) rfl
    fun kind => by cases kind <;> rfl

/-! ## Words -/

/-- Words that are set are those of one vocabulary, and the jobs and links stay. -/
theorem edited_setWords (store : Store) (vocabulary : Word.Vocabulary) (words : Table WordEntry) :
    Edited store [vocabulary] (store.setWords vocabulary words) := by
  refine ⟨fun other hother => ?_, someJobsOf_of_jobs_eq ?_, fun h => h.congr fun kind => ?_⟩
  · have hne : other ≠ vocabulary := by simpa using hother
    cases vocabulary <;> cases other <;> first | rfl | exact absurd rfl hne
  · cases vocabulary <;> rfl
  · cases vocabulary <;> cases kind <;> rfl

theorem isEdit_addWord (vocabulary : Word.Vocabulary) (entry : WordEntry) :
    IsEdit fun store => store.addWord vocabulary entry := by
  intro store outcome h
  obtain ⟨_, _, hadded⟩ := exists_of_bind h
  dsimp only at hadded
  split at hadded
  · cases hadded
  · cases hadded
    exact edited_setWords store vocabulary _

theorem edited_putWord {store after : Store} {vocabulary : Word.Vocabulary} {id : Int}
    {entry : WordEntry} (h : store.putWord vocabulary id entry = .ok after) :
    Edited store [vocabulary] after := by
  obtain ⟨_, _, hput⟩ := exists_of_bind h
  dsimp only at hput
  split at hput
  · cases hput
  · cases hput
    exact edited_setWords store vocabulary _

theorem isEdit_saveWord (vocabulary : Word.Vocabulary) (id : Int) (edit : WordEdit) :
    IsEdit fun store => store.saveWord vocabulary id edit := by
  intro store outcome h
  dsimp only at h
  unfold saveWord at h
  cases hfind : (store.words vocabulary).find? id with
  | none =>
    rw [hfind] at h
    cases h
  | some entry =>
    rw [hfind] at h
    obtain ⟨after, hput, hsaved⟩ := exists_of_bind h
    cases hsaved
    exact edited_putWord hput

/-- The edit of a word in place is an edit that does not say what it touches. -/
theorem edited_updateWord {store : Store} {vocabulary : Word.Vocabulary} {id : Int}
    {edit : WordEdit} {outcome : Change Nat}
    (h : store.updateWord vocabulary id edit = .ok outcome) :
    Edited store [vocabulary] outcome.store := by
  have hsame : Edited store [vocabulary] store :=
    edited_of_eq _ (fun _ => rfl) rfl fun _ => rfl
  unfold updateWord at h
  split at h
  · cases h
    exact hsame
  · obtain ⟨_, _, hupdated⟩ := exists_of_bind h
    cases hfind : (store.words vocabulary).find? id with
    | none =>
      rw [hfind] at hupdated
      cases hupdated
      exact hsame
    | some entry =>
      rw [hfind] at hupdated
      obtain ⟨after, hput, hsaved⟩ := exists_of_bind hupdated
      cases hsaved
      exact edited_putWord hput

/-! ## Other rows changed or deleted -/

theorem isEdit_updateParcel (id : Int) (edit : ParcelEdit) :
    IsEdit fun store => store.updateParcel id edit := by
  intro store outcome h
  dsimp only at h
  unfold updateParcel at h
  split at h
  · cases h
    exact edited_of_eq _ (fun _ => rfl) rfl fun _ => rfl
  · obtain ⟨_, _, hupdated⟩ := exists_of_bind h
    cases hupdated
    exact edited_of_eq _ (fun vocabulary => by cases vocabulary <;> rfl) rfl
      fun kind => by cases kind <;> rfl

theorem isEdit_setOrder (id : Int) (enabled : Bool) :
    IsEdit fun store => .ok (store.setOrder id enabled) := by
  intro store outcome h
  cases h
  exact edited_of_eq _ (fun vocabulary => by cases vocabulary <;> rfl) rfl
    fun kind => by cases kind <;> rfl

/-- A deletion takes words from the vocabulary that it touches, the jobs of a register or one job,
and links. -/
theorem edited_erase (store : Store) (entity : Entity) (id : Int) :
    Edited store (store.touchedByErasing entity id) (store.erase entity id) := by
  constructor
  · intro vocabulary hsame
    cases entity with
    | stopWord =>
      cases vocabulary with
      | stopWords => exact absurd List.mem_cons_self hsame
      | keyWords => rfl
    | keyWord =>
      cases vocabulary with
      | stopWords => rfl
      | keyWords =>
        refine absurd ?_ hsame
        exact List.mem_replicate.2 ⟨Nat.succ_ne_zero _, rfl⟩
    | _ => cases vocabulary <;> rfl
  · cases entity with
    | register => exact ⟨List.filter_sublist, rfl⟩
    | job => exact ⟨List.filter_sublist, rfl⟩
    | _ => exact someJobsOf_of_jobs_eq rfl
  · exact fun h => h.of_sublist (links_erase_sublist store entity id)

theorem isEdit_delete (entity : Entity) (id : Int) : IsEdit fun store => store.delete entity id := by
  intro store outcome h
  dsimp only at h
  unfold delete at h
  split at h
  · cases h
    exact edited_erase store entity id
  · cases h

theorem isEdit_screenParcel (context : Screening.Context) (scope : Scope) (id : Int) :
    IsEdit (Screening.screenParcel context scope id) := by
  intro store outcome h
  have hsame := Screening.sameBut_screenParcel h
  refine ⟨fun vocabulary _ => ?_, someJobsOf_of_jobs_eq hsame.jobs, fun hdistinct =>
    Screening.hasDistinctLinks_screenParcel hdistinct h⟩
  cases vocabulary with
  | stopWords => exact hsame.stopWords
  | keyWords => exact hsame.keyWords

end Clearance.Store

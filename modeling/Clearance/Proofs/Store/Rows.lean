import Clearance.Proofs.Store.Edit
import Clearance.Proofs.Store.Table

/-!
# Rows of rules

The rules of a vocabulary are stored in rows, those of keywords together with the codes that the
keywords imply. A statement that adds or deletes such rows touches their vocabulary once for each of
them, the codes deleted together with a keyword included, and one that saves a word touches its
vocabulary once.
-/

set_option autoImplicit false

namespace Clearance.Store

/-- How many rows there are of the rules of a vocabulary. -/
def ruleRows (store : Store) : Word.Vocabulary → Nat
  | .stopWords => store.stopWords.size
  | .keyWords => store.keyWords.size + store.keyWordCodes.size

variable {α : Type}

/-- Whether a statement, where it goes through, touches a vocabulary once for each row that there
are more of its rules. -/
def AddsRows (vocabulary : Word.Vocabulary) (change : Store → Except Fault (Change α)) : Prop :=
  ∀ store outcome, change store = .ok outcome →
    outcome.store.ruleRows vocabulary =
      store.ruleRows vocabulary + outcome.touched.count vocabulary

variable {vocabulary other : Word.Vocabulary}

theorem ruleRows_setWords_insert (store : Store) (entry : WordEntry) :
    (store.setWords other ((store.words other).insert entry)).ruleRows vocabulary =
      store.ruleRows vocabulary + [other].count vocabulary := by
  cases other <;> cases vocabulary <;>
    simp [ruleRows, setWords, words, Table.size_insert, Nat.add_right_comm]

theorem ruleRows_setWords_modify (store : Store) (id : Int) (change : WordEntry → WordEntry) :
    (store.setWords other ((store.words other).modify id change)).ruleRows vocabulary =
      store.ruleRows vocabulary := by
  cases other <;> cases vocabulary <;> simp [ruleRows, setWords, words, Table.size_modify]

theorem addsRows_addWord (entry : WordEntry) :
    AddsRows vocabulary fun store => store.addWord other entry := by
  intro store outcome h
  obtain ⟨_, _, hadded⟩ := exists_of_bind h
  dsimp only at hadded
  split at hadded
  · cases hadded
  · cases hadded
    exact ruleRows_setWords_insert store entry

theorem addsRows_addKeyWordCode (entry : KeyWordCode) :
    AddsRows vocabulary fun store => store.addKeyWordCode entry := by
  intro store outcome h
  obtain ⟨_, _, hadded⟩ := exists_of_bind h
  dsimp only at hadded
  split at hadded
  · cases hadded
  · cases hadded
    cases vocabulary with
    | stopWords => rfl
    | keyWords => simp [ruleRows, Table.size_insert, Nat.add_assoc]

/-- A word saved is one row, and there are as many as before. -/
theorem ruleRows_saveWord (vocabulary : Word.Vocabulary) {store : Store} {id : Int}
    {edit : WordEdit} {outcome : Change Nat} (h : store.saveWord other id edit = .ok outcome) :
    outcome.store.ruleRows vocabulary = store.ruleRows vocabulary ∧ outcome.touched = [other] := by
  unfold saveWord at h
  cases hfind : (store.words other).find? id with
  | none =>
    rw [hfind] at h
    cases h
  | some entry =>
    rw [hfind] at h
    obtain ⟨after, hput, hsaved⟩ := exists_of_bind h
    cases hsaved
    obtain ⟨_, _, hmodified⟩ := exists_of_bind hput
    dsimp only at hmodified
    split at hmodified
    · cases hmodified
    · cases hmodified
      exact ⟨ruleRows_setWords_modify store id _, rfl⟩

/-- A code of a keyword saved is one row, and there are as many as before. -/
theorem ruleRows_saveKeyWordCode (vocabulary : Word.Vocabulary) {store : Store} {id : Int}
    {edit : CodeEdit} {outcome : Change Nat} (h : store.saveKeyWordCode id edit = .ok outcome) :
    outcome.store.ruleRows vocabulary = store.ruleRows vocabulary ∧
      outcome.touched = [.keyWords] := by
  obtain ⟨_, _, rfl⟩ := saveKeyWordCode_ok h
  cases vocabulary <;> simp [ruleRows, Table.size_modify]

theorem keyWords_eraseLinks (store : Store) (kind : LinkKind) (gone : Link → Bool) :
    (store.eraseLinks kind gone).keyWords = store.keyWords := by
  cases kind <;> rfl

theorem keyWordCodes_eraseLinks (store : Store) (kind : LinkKind) (gone : Link → Bool) :
    (store.eraseLinks kind gone).keyWordCodes = store.keyWordCodes := by
  cases kind <;> rfl

/-- What is deleted touches a vocabulary once for each row that there are fewer of its rules. -/
theorem ruleRows_delete (vocabulary : Word.Vocabulary) {store : Store} {entity : Entity} {id : Int}
    {outcome : Change Nat} (h : store.delete entity id = .ok outcome) :
    outcome.store.ruleRows vocabulary + outcome.touched.count vocabulary =
      store.ruleRows vocabulary := by
  unfold delete at h
  split at h
  · next hrow =>
    cases h
    dsimp only
    cases entity with
    | stopWord =>
      have hfound : store.stopWords.has id = true := hrow
      have hone := Table.countP_id hfound
      have hwords := store.stopWords.size_eraseIf fun row => row.id == id
      rw [hone] at hwords
      cases vocabulary with
      | stopWords => exact hwords
      | keyWords => rfl
    | keyWord =>
      have hfound : store.keyWords.has id = true := hrow
      have hone := Table.countP_id hfound
      have hwords := store.keyWords.size_eraseIf fun row => row.id == id
      have hcodes := store.keyWordCodes.size_eraseIf fun row => row.val.keyWord == id
      have htouched : store.touchedByErasing .keyWord id = List.replicate
        ((store.keyWordCodes.rows.countP fun row => row.val.keyWord == id) + 1) .keyWords := rfl
      rw [htouched, List.count_replicate]
      cases vocabulary with
      | stopWords => rfl
      | keyWords =>
        simp only [ruleRows, erase, eraseKeyWord, keyWords_eraseLinks, keyWordCodes_eraseLinks,
          beq_self_eq_true, if_true]
        omega
    | keyWordCode =>
      have hfound : store.keyWordCodes.has id = true := hrow
      have hone := Table.countP_id hfound
      have hcodes := store.keyWordCodes.size_eraseIf fun row => row.id == id
      have htouched : store.touchedByErasing .keyWordCode id = [.keyWords] := rfl
      rw [htouched]
      cases vocabulary with
      | stopWords => rfl
      | keyWords =>
        simp only [ruleRows, erase, List.count_singleton_self]
        omega
    | _ => cases vocabulary <;> rfl
  · cases h

end Clearance.Store

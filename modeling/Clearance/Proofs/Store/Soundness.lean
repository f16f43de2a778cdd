import Clearance.Proofs.Store.Table

/-!
# What soundness says

A store is sound just if every reference in it leads to a row: from parcels and jobs to registers,
from the codes of keywords to keywords, from exceptions to code prefixes, from code prefixes to
orders, and from links to parcels and rules.
-/

set_option autoImplicit false

namespace Clearance.Store

/-- The references of a store, kind by kind. -/
structure IsSound (store : Store) : Prop where
  parcels : ∀ row ∈ store.parcels.rows, store.registers.has row.val.register = true
  jobs : ∀ row ∈ store.jobs.rows, store.registers.has row.val.register = true
  keyWordCodes : ∀ row ∈ store.keyWordCodes.rows, store.keyWords.has row.val.keyWord = true
  exceptions : ∀ row ∈ store.exceptions.rows, store.prefixes.has row.val.codePrefix = true
  prefixes : ∀ row ∈ store.prefixes.rows, ∀ order, row.val.order = some order →
    store.orders.has order = true
  links : ∀ kind, ∀ row ∈ (store.links kind).rows, store.parcels.has row.val.parcel = true ∧
    store.hasRule kind row.val.rule = true

theorem linksAreSound_iff (store : Store) (kind : LinkKind) :
    store.linksAreSound store.parcels.idSet kind = true ↔
      ∀ row ∈ (store.links kind).rows, store.parcels.has row.val.parcel = true ∧
        store.hasRule kind row.val.rule = true := by
  unfold linksAreSound
  simp only [Table.contains_idSet, contains_ruleIds, List.all_eq_true, Bool.and_eq_true]

/-- What is computed with search trees is soundness. -/
theorem isSound_iff (store : Store) : store.isSound = true ↔ store.IsSound := by
  unfold isSound
  simp only [Bool.and_eq_true, linksAreSound_iff, Table.contains_idSet, List.all_eq_true]
  constructor
  · rintro ⟨⟨⟨⟨⟨⟨⟨hparcels, hjobs⟩, hcodes⟩, hexceptions⟩, hprefixes⟩, hstop⟩, hkey⟩, hprefix⟩
    refine ⟨hparcels, hjobs, hcodes, hexceptions, ?_, ?_⟩
    · intro row hrow order horder
      have h := hprefixes row hrow
      rw [horder] at h
      exact h
    · rintro (_ | _ | _)
      · exact hstop
      · exact hkey
      · exact hprefix
  · rintro ⟨hparcels, hjobs, hcodes, hexceptions, hprefixes, hlinks⟩
    refine ⟨⟨⟨⟨⟨⟨⟨hparcels, hjobs⟩, hcodes⟩, hexceptions⟩, ?_⟩, hlinks .stopWord⟩, hlinks .keyWord⟩,
      hlinks .codePrefix⟩
    intro row hrow
    cases horder : row.val.order with
    | none => rfl
    | some order => exact hprefixes row hrow order horder

/-- A sound store stays sound with other jobs, as long as their registers exist. -/
theorem IsSound.withJobs {store : Store} (h : store.IsSound) {jobs : Table Job}
    (hjobs : ∀ row ∈ jobs.rows, store.registers.has row.val.register = true) :
    ({ store with jobs := jobs } : Store).IsSound where
  parcels := h.parcels
  jobs := hjobs
  keyWordCodes := h.keyWordCodes
  exceptions := h.exceptions
  prefixes := h.prefixes
  links := by
    rintro (_ | _ | _)
    · exact h.links .stopWord
    · exact h.links .keyWord
    · exact h.links .codePrefix

/-- A word added leaves a store sound. -/
theorem IsSound.insertWord {store : Store} (h : store.IsSound) (vocabulary : Word.Vocabulary)
    (entry : WordEntry) :
    (store.setWords vocabulary ((store.words vocabulary).insert entry)).IsSound := by
  cases vocabulary with
  | stopWords =>
    refine ⟨h.parcels, h.jobs, h.keyWordCodes, h.exceptions, h.prefixes, fun kind row hrow => ?_⟩
    obtain ⟨hparcel, hrule⟩ := h.links kind row (by cases kind <;> exact hrow)
    refine ⟨hparcel, ?_⟩
    cases kind with
    | stopWord => exact Table.has_insert entry hrule
    | _ => exact hrule
  | keyWords =>
    refine ⟨h.parcels, h.jobs, fun row hrow => ?_, h.exceptions, h.prefixes, fun kind row hrow => ?_⟩
    · exact Table.has_insert entry (h.keyWordCodes row hrow)
    · obtain ⟨hparcel, hrule⟩ := h.links kind row (by cases kind <;> exact hrow)
      refine ⟨hparcel, ?_⟩
      cases kind with
      | keyWord => exact Table.has_insert entry hrule
      | _ => exact hrule

end Clearance.Store

import Mathlib.Logic.Relation
import Clearance.Proofs.Store.Soundness
import Clearance.Store.Deletion

/-!
# What depends on a row

A row refers to others: a parcel to its register, a link to its parcel and its rule, and so on. A
row depends on another one if it refers to it, directly or through a chain of rows. A store is sound
if every row that is referred to is there, and deleting a row deletes just what depends on it.
-/

set_option autoImplicit false

namespace Clearance

/-- What a row of a kind records. -/
abbrev Entity.Content : Entity → Type
  | register => Register
  | parcel => Parcel
  | stopWord | keyWord => WordEntry
  | keyWordCode => KeyWordCode
  | codeOrder => CodeOrder
  | codePrefix => StoredPrefix
  | codePrefixException => PrefixException
  | catalogueCode => Commodity.CatalogueCode
  | stopWordLink | keyWordLink | codePrefixLink => Link
  | job => Job

/-- Where a row stands: its kind and its id. -/
structure RowKey where
  entity : Entity
  id : Int
  deriving DecidableEq, Repr

/-- The rows that a row of a kind refers to. -/
def Entity.references : (entity : Entity) → entity.Content → List RowKey
  | parcel, (content : Parcel) => [⟨.register, content.register⟩]
  | job, (content : Job) => [⟨.register, content.register⟩]
  | keyWordCode, (content : KeyWordCode) => [⟨.keyWord, content.keyWord⟩]
  | codePrefix, (content : StoredPrefix) => content.order.toList.map (⟨.codeOrder, ·⟩)
  | codePrefixException, (content : PrefixException) => [⟨.codePrefix, content.codePrefix⟩]
  | stopWordLink, (content : Link) => [⟨.parcel, content.parcel⟩, ⟨.stopWord, content.rule⟩]
  | keyWordLink, (content : Link) => [⟨.parcel, content.parcel⟩, ⟨.keyWord, content.rule⟩]
  | codePrefixLink, (content : Link) => [⟨.parcel, content.parcel⟩, ⟨.codePrefix, content.rule⟩]
  | register, _ | stopWord, _ | keyWord, _ | codeOrder, _ | catalogueCode, _ => []

namespace Store

/-- The rows of a kind. -/
def table (store : Store) : (entity : Entity) → Table entity.Content
  | .register => store.registers
  | .parcel => store.parcels
  | .stopWord => store.stopWords
  | .keyWord => store.keyWords
  | .keyWordCode => store.keyWordCodes
  | .codeOrder => store.orders
  | .codePrefix => store.prefixes
  | .codePrefixException => store.exceptions
  | .catalogueCode => store.catalogue
  | .stopWordLink => store.stopWordLinks
  | .keyWordLink => store.keyWordLinks
  | .codePrefixLink => store.prefixLinks
  | .job => store.jobs

theorem hasRow_eq_has (store : Store) (entity : Entity) (id : Int) :
    store.hasRow entity id = (store.table entity).has id := by
  cases entity <;> rfl

/-- Whether a row refers to another one. -/
def Refers (store : Store) (a b : RowKey) : Prop :=
  ∃ row ∈ (store.table a.entity).rows, row.id = a.id ∧ b ∈ a.entity.references row.val

/-- Whether a row is another one or depends on it, directly or through a chain of rows. -/
def DependsOn (store : Store) : RowKey → RowKey → Prop := Relation.ReflTransGen store.Refers

/-- A store is sound just if every row that is referred to is there. -/
theorem isSound_iff_refers (store : Store) :
    store.IsSound ↔ ∀ a b, store.Refers a b → store.hasRow b.entity b.id = true := by
  constructor
  · rintro hsound ⟨entity, id⟩ b ⟨row, hrow, _, hb⟩
    cases entity with
    | parcel =>
      obtain rfl := List.mem_singleton.1 hb
      exact hsound.parcels row hrow
    | job =>
      obtain rfl := List.mem_singleton.1 hb
      exact hsound.jobs row hrow
    | keyWordCode =>
      obtain rfl := List.mem_singleton.1 hb
      exact hsound.keyWordCodes row hrow
    | codePrefixException =>
      obtain rfl := List.mem_singleton.1 hb
      exact hsound.exceptions row hrow
    | codePrefix =>
      obtain ⟨order, horder, rfl⟩ := List.mem_map.1 hb
      exact hsound.prefixes row hrow order (Option.mem_toList.1 horder)
    | stopWordLink =>
      obtain ⟨hparcel, hrule⟩ := hsound.links .stopWord row hrow
      obtain rfl | rfl := by simpa [Entity.references] using hb
      · exact hparcel
      · exact hrule
    | keyWordLink =>
      obtain ⟨hparcel, hrule⟩ := hsound.links .keyWord row hrow
      obtain rfl | rfl := by simpa [Entity.references] using hb
      · exact hparcel
      · exact hrule
    | codePrefixLink =>
      obtain ⟨hparcel, hrule⟩ := hsound.links .codePrefix row hrow
      obtain rfl | rfl := by simpa [Entity.references] using hb
      · exact hparcel
      · exact hrule
    | _ => cases hb
  · intro h
    constructor
    · exact fun row hrow => h ⟨.parcel, row.id⟩ ⟨.register, _⟩ ⟨row, hrow, rfl, .head _⟩
    · exact fun row hrow => h ⟨.job, row.id⟩ ⟨.register, _⟩ ⟨row, hrow, rfl, .head _⟩
    · exact fun row hrow => h ⟨.keyWordCode, row.id⟩ ⟨.keyWord, _⟩ ⟨row, hrow, rfl, .head _⟩
    · exact fun row hrow => h ⟨.codePrefixException, row.id⟩ ⟨.codePrefix, _⟩
        ⟨row, hrow, rfl, .head _⟩
    · exact fun row hrow order horder => h ⟨.codePrefix, row.id⟩ ⟨.codeOrder, order⟩
        ⟨row, hrow, rfl, List.mem_map.2 ⟨order, Option.mem_toList.2 horder, rfl⟩⟩
    · rintro (_ | _ | _) row hrow
      · exact ⟨h ⟨.stopWordLink, row.id⟩ ⟨.parcel, _⟩ ⟨row, hrow, rfl, .head _⟩,
          h ⟨.stopWordLink, row.id⟩ ⟨.stopWord, _⟩ ⟨row, hrow, rfl, .tail _ (.head _)⟩⟩
      · exact ⟨h ⟨.keyWordLink, row.id⟩ ⟨.parcel, _⟩ ⟨row, hrow, rfl, .head _⟩,
          h ⟨.keyWordLink, row.id⟩ ⟨.keyWord, _⟩ ⟨row, hrow, rfl, .tail _ (.head _)⟩⟩
      · exact ⟨h ⟨.codePrefixLink, row.id⟩ ⟨.parcel, _⟩ ⟨row, hrow, rfl, .head _⟩,
          h ⟨.codePrefixLink, row.id⟩ ⟨.codePrefix, _⟩ ⟨row, hrow, rfl, .tail _ (.head _)⟩⟩

/-! ## Chains of rows -/

theorem dependsOn_iff (store : Store) (a b : RowKey) : store.DependsOn a b ↔ a = b ∨
    ∃ row ∈ (store.table a.entity).rows, row.id = a.id ∧
      ∃ c ∈ a.entity.references row.val, store.DependsOn c b := by
  unfold DependsOn
  rw [Relation.ReflTransGen.cases_head_iff]
  constructor
  · rintro (rfl | ⟨c, ⟨row, hrow, hid, hc⟩, hcb⟩)
    · exact .inl rfl
    · exact .inr ⟨row, hrow, hid, c, hc, hcb⟩
  · rintro (rfl | ⟨row, hrow, hid, c, hc, hcb⟩)
    · exact .inl rfl
    · exact .inr ⟨c, ⟨row, hrow, hid, hc⟩, hcb⟩

/-- A stored row depends on what the rows that it refers to depend on. -/
theorem dependsOn_of_mem {store : Store} {entity : Entity} {row : Row entity.Content}
    (hrow : row ∈ (store.table entity).rows) (b : RowKey) :
    store.DependsOn ⟨entity, row.id⟩ b ↔ ⟨entity, row.id⟩ = b ∨
      ∃ c ∈ entity.references row.val, store.DependsOn c b := by
  rw [dependsOn_iff]
  constructor
  · rintro (h | ⟨other, hother, hid, hc⟩)
    · exact .inl h
    · rw [Table.eq_of_mem_of_id_eq hother hrow hid] at hc
      exact .inr hc
  · rintro (h | hc)
    · exact .inl h
    · exact .inr ⟨row, hrow, rfl, hc⟩

/-- A row of a kind that refers to nothing depends on itself only. -/
theorem dependsOn_of_free {store : Store} {entity : Entity}
    (h : ∀ content, entity.references content = []) (id : Int) (b : RowKey) :
    store.DependsOn ⟨entity, id⟩ b ↔ ⟨entity, id⟩ = b := by
  rw [dependsOn_iff]
  simp [h]

section

variable (store : Store) (id : Int) (b : RowKey)

@[simp] theorem dependsOn_register : store.DependsOn ⟨.register, id⟩ b ↔ ⟨.register, id⟩ = b :=
  dependsOn_of_free (fun _ => rfl) id b

@[simp] theorem dependsOn_stopWord : store.DependsOn ⟨.stopWord, id⟩ b ↔ ⟨.stopWord, id⟩ = b :=
  dependsOn_of_free (fun _ => rfl) id b

@[simp] theorem dependsOn_keyWord : store.DependsOn ⟨.keyWord, id⟩ b ↔ ⟨.keyWord, id⟩ = b :=
  dependsOn_of_free (fun _ => rfl) id b

@[simp] theorem dependsOn_codeOrder : store.DependsOn ⟨.codeOrder, id⟩ b ↔ ⟨.codeOrder, id⟩ = b :=
  dependsOn_of_free (fun _ => rfl) id b

@[simp] theorem dependsOn_parcel : store.DependsOn ⟨.parcel, id⟩ b ↔ ⟨.parcel, id⟩ = b ∨
    ∃ row ∈ store.parcels.rows, row.id = id ∧ ⟨.register, row.val.register⟩ = b := by
  rw [dependsOn_iff]
  simp [Entity.references, table]

/-- What a prefix depends on through the order that it is filed under is that order. -/
theorem exists_references_codePrefix (content : StoredPrefix) :
    (∃ c ∈ Entity.codePrefix.references content, store.DependsOn c b) ↔
      ∃ order, content.order = some order ∧ ⟨.codeOrder, order⟩ = b := by
  constructor
  · rintro ⟨c, hc, hcb⟩
    obtain ⟨order, horder, rfl⟩ := List.mem_map.1 hc
    exact ⟨order, Option.mem_toList.1 horder, (dependsOn_codeOrder store order b).1 hcb⟩
  · rintro ⟨order, horder, rfl⟩
    exact ⟨_, List.mem_map.2 ⟨order, Option.mem_toList.2 horder, rfl⟩, .refl⟩

@[simp] theorem dependsOn_codePrefix : store.DependsOn ⟨.codePrefix, id⟩ b ↔
    ⟨.codePrefix, id⟩ = b ∨ ∃ row ∈ store.prefixes.rows, row.id = id ∧
      ∃ order, row.val.order = some order ∧ ⟨.codeOrder, order⟩ = b := by
  rw [dependsOn_iff]
  exact or_congr_right (exists_congr fun row => and_congr_right fun _ =>
    and_congr_right fun _ => exists_references_codePrefix store b row.val)

end

/-! ## Deletion -/

/-- Deleting a row leaves the rows that do not depend on it, just as they were. -/
theorem mem_erase_iff (store : Store) (erased : RowKey) (entity : Entity)
    (row : Row entity.Content) :
    row ∈ ((store.erase erased.entity erased.id).table entity).rows ↔
      row ∈ (store.table entity).rows ∧ ¬ store.DependsOn ⟨entity, row.id⟩ erased := by
  refine Iff.trans ?_ (and_congr_right fun hrow => not_congr (dependsOn_of_mem hrow erased).symm)
  obtain ⟨kind, id⟩ := erased
  cases kind with
  | register =>
    cases entity
    case parcel =>
      refine Table.mem_eraseIf.trans (and_congr_right fun (hrow : row ∈ store.parcels.rows) => ?_)
      rw [Table.contains_ids_filter hrow]
      simp [Entity.references]
    all_goals simp [erase, eraseRegister, eraseParcels, eraseLinks, setLinks, links, table,
      Entity.references, Table.mem_eraseIf]
    all_goals exact fun _ => forall₂_congr fun _ _ => imp_not_comm
  | parcel =>
    cases entity <;> simp [erase, eraseParcels, eraseLinks, setLinks, links, table,
      Entity.references, Table.mem_eraseIf]
  | stopWord =>
    cases entity <;> simp [erase, eraseStopWord, eraseLinks, setLinks, links, table,
      Entity.references, Table.mem_eraseIf]
  | keyWord =>
    cases entity <;> simp [erase, eraseKeyWord, eraseLinks, setLinks, links, table,
      Entity.references, Table.mem_eraseIf]
  | codeOrder =>
    cases entity
    case codePrefix =>
      refine Table.mem_eraseIf.trans (and_congr_right fun (hrow : row ∈ store.prefixes.rows) => ?_)
      rw [Table.contains_ids_filter hrow, exists_references_codePrefix]
      simp
    all_goals simp [erase, eraseOrder, erasePrefixes, eraseLinks, setLinks, links, table,
      Entity.references, Table.mem_eraseIf]
    all_goals exact fun _ => forall₂_congr fun _ _ => imp_not_comm
  | codePrefix =>
    cases entity <;> simp [erase, erasePrefixes, eraseLinks, setLinks, links, table,
      Entity.references, Table.mem_eraseIf]
  | _ => cases entity <;> simp [erase, table, Entity.references, Table.mem_eraseIf]

/-- A sound store is sound without a row and all that depends on it. -/
theorem isSound_erase {store : Store} (hsound : store.IsSound) (erased : RowKey) :
    (store.erase erased.entity erased.id).IsSound := by
  rw [isSound_iff_refers] at hsound ⊢
  rintro ⟨entity, id⟩ b ⟨row, hrow, hid, hb⟩
  obtain ⟨hold, hfree⟩ := (mem_erase_iff store erased entity row).1 hrow
  have hrefers : store.Refers ⟨entity, row.id⟩ b := ⟨row, hold, rfl, hb⟩
  have hthere := hsound _ b hrefers
  rw [hasRow_eq_has, Table.has_eq_true_iff] at hthere ⊢
  obtain ⟨other, hother, hotherId⟩ := hthere
  refine ⟨other,
    (mem_erase_iff store erased b.entity other).2 ⟨hother, fun hdepends => ?_⟩, hotherId⟩
  -- What refers to a row that is deleted is deleted with it.
  rw [hotherId] at hdepends
  exact hfree (.head hrefers hdepends)

end Store

end Clearance

import Clearance.Proofs.Screening.Parcel
import Clearance.Store.Deletion

/-!
# Links that differ

No parcel is linked to one rule twice: a link that is there already is refused, and screening a
parcel takes its links of a kind away before it makes new ones, to rules that differ. Deleting rows
only takes links away.
-/

set_option autoImplicit false

namespace Clearance

/-- What goes through in two parts goes through in each of them. -/
theorem Store.exists_of_bind {α β : Type} {first : Except Fault α} {next : α → Except Fault β}
    {b : β} (h : (first >>= next) = .ok b) : ∃ a, first = .ok a ∧ next a = .ok b := by
  cases first with
  | error fault => cases h
  | ok a => exact ⟨a, rfl, h⟩

/-- Whether in each table of links no parcel is linked to one rule twice. -/
def Store.HasDistinctLinks (store : Store) : Prop :=
  ∀ kind, ((store.links kind).rows.map (·.val)).Nodup

namespace Store

variable {store after : Store}

theorem hasDistinctLinks_empty : empty.HasDistinctLinks := by
  intro kind
  cases kind <;> exact List.nodup_nil

/-- Links that are taken away leave others that differ. -/
theorem HasDistinctLinks.of_sublist (h : store.HasDistinctLinks)
    (hlinks : ∀ kind, (after.links kind).rows.Sublist (store.links kind).rows) :
    after.HasDistinctLinks := fun kind => (h kind).sublist ((hlinks kind).map _)

theorem HasDistinctLinks.congr (h : store.HasDistinctLinks)
    (hlinks : ∀ kind, after.links kind = store.links kind) : after.HasDistinctLinks :=
  h.of_sublist fun kind => by rw [hlinks]

theorem hasDistinctLinks_setLinks (h : store.HasDistinctLinks) (kind : LinkKind)
    {links : Table Link} (hlinks : (links.rows.map (·.val)).Nodup) :
    (store.setLinks kind links).HasDistinctLinks := by
  intro other
  by_cases hother : other = kind
  · subst hother
    rwa [links_setLinks]
  · rw [links_setLinks_of_ne store links hother]
    exact h other

theorem hasDistinctLinks_addLink (h : store.HasDistinctLinks) {kind : LinkKind} {link : Link}
    (hnew : (store.links kind).rows.any (fun row => row.val == link) = false) :
    (store.setLinks kind ((store.links kind).insert link)).HasDistinctLinks := by
  apply hasDistinctLinks_setLinks h kind
  have hrows : ((store.links kind).insert link).rows.map (·.val) =
      (store.links kind).rows.map (·.val) ++ [link] := List.map_append
  rw [hrows, List.nodup_append]
  refine ⟨h kind, List.nodup_singleton link, ?_⟩
  intro old hold new hlink heq
  rw [List.mem_singleton] at hlink
  obtain ⟨row, hrow, rfl⟩ := List.mem_map.1 hold
  have hany : (store.links kind).rows.any (fun row => row.val == link) = true :=
    List.any_eq_true.2 ⟨row, hrow, beq_iff_eq.2 (heq.trans hlink)⟩
  rw [hnew] at hany
  cases hany

/-- Deleting a row takes links away at most. -/
theorem links_erase_sublist (store : Store) (entity : Entity) (id : Int) (kind : LinkKind) :
    ((store.erase entity id).links kind).rows.Sublist (store.links kind).rows := by
  cases entity <;> cases kind <;> first | exact List.filter_sublist | exact List.Sublist.refl _

end Store

namespace Screening

variable {kind : LinkKind} {id : Int} {rules : List Int} {record : Parcel} {store after : Store}

/-- The links of a parcel are replaced by links that differ from each other and from those of the
other parcels. -/
theorem hasDistinctLinks_replaceLinks (h : store.HasDistinctLinks)
    (hreplace : replaceLinks kind id rules store = .ok after) : after.HasDistinctLinks := by
  have hnodup : rules.Nodup := by
    unfold replaceLinks at hreplace
    split at hreplace
    · next hrules => exact hrules
    · cases hreplace
  obtain ⟨links, rfl, hrows⟩ := eq_of_replaceLinks hreplace
  apply Store.hasDistinctLinks_setLinks h kind
  rw [hrows, List.map_append, Table.map_val_numbered, List.nodup_append]
  refine ⟨(h kind).sublist (List.filter_sublist.map _), ?_, ?_⟩
  · exact hnodup.map fun a b hab => congrArg Link.rule hab
  · intro old hold new hnew heq
    obtain ⟨row, hrow, rfl⟩ := List.mem_map.1 hold
    obtain ⟨rule, _, rfl⟩ := List.mem_map.1 hnew
    have hother := (List.mem_filter.1 hrow).2
    rw [heq] at hother
    simp at hother

theorem hasDistinctLinks_screenWords (h : store.HasDistinctLinks) {words : Option WordContext}
    {stopWords keyWords : List Int}
    (hscreen : screenWords words id record store = .ok (stopWords, keyWords, after)) :
    after.HasDistinctLinks := by
  cases words with
  | none =>
    cases hscreen
    exact h
  | some context =>
    obtain ⟨middle, hstop, hrest⟩ := Store.exists_of_bind hscreen
    obtain ⟨last, hkey, hresult⟩ := Store.exists_of_bind hrest
    cases hresult
    exact hasDistinctLinks_replaceLinks (hasDistinctLinks_replaceLinks h hstop) hkey

theorem hasDistinctLinks_screenCodes (h : store.HasDistinctLinks)
    {prefixes : Option Commodity.PrefixIndex} {invalid : Bool} {codePrefixes : List Int}
    (hscreen : screenCodes prefixes id record store = .ok (invalid, codePrefixes, after)) :
    after.HasDistinctLinks := by
  cases prefixes with
  | none =>
    cases hscreen
    exact h
  | some index =>
    obtain ⟨last, hmatches, hresult⟩ := Store.exists_of_bind hscreen
    cases hresult
    exact hasDistinctLinks_replaceLinks h hmatches

/-- However a parcel is screened, its links differ after it if they did before. -/
theorem hasDistinctLinks_screenParcel (h : store.HasDistinctLinks) {context : Context}
    {scope : Scope} {change : Change Outcome}
    (hscreen : screenParcel context scope id store = .ok change) :
    change.store.HasDistinctLinks := by
  unfold screenParcel at hscreen
  split at hscreen
  · cases hscreen
  · split at hscreen
    · cases hscreen
      exact h
    · obtain ⟨⟨stopWords, keyWords, middle⟩, hwords, hrest⟩ := Store.exists_of_bind hscreen
      obtain ⟨⟨invalid, codePrefixes, last⟩, hcodes, hresult⟩ := Store.exists_of_bind hrest
      cases hresult
      have hlast := hasDistinctLinks_screenCodes (hasDistinctLinks_screenWords h hwords) hcodes
      refine hlast.congr fun kind => ?_
      dsimp only [setCheckStatus]
      split <;> cases kind <;> rfl

end Screening

end Clearance

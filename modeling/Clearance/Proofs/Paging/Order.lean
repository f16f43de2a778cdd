import Mathlib.Data.List.Sort
import Mathlib.Data.Prod.Lex
import Mathlib.Data.String.Basic
import Clearance.Paging.Next

/-!
# The order of places

Places are ordered lexicographically: by the number of the key, by its text character for character
and by the id. `Place.rank` puts a place into that linear order, and the comparisons that paging
makes are its order relation. Both ways in which paging finds the first of some places, by sorting
them and by keeping the best one so far, come to their least element in the direction asked for.
-/

set_option autoImplicit false

namespace Clearance.Paging

namespace Place

/-- A place in the lexicographic order of numbers, texts by code points, and ids. -/
def rank (place : Place) : ℤ ×ₗ List Char ×ₗ ℤ :=
  toLex (place.key.number, toLex (place.key.text.toList, place.id))

theorem rank_lt_iff (a b : Place) :
    a.rank < b.rank ↔ a.key.number < b.key.number ∨ a.key.number = b.key.number ∧
      (a.key.text < b.key.text ∨ a.key.text = b.key.text ∧ a.id < b.id) := by
  unfold rank
  rw [Prod.Lex.toLex_lt_toLex, Prod.Lex.toLex_lt_toLex, String.lt_iff_toList_lt,
    String.toList_inj]

/-- Two places of one rank are one place. -/
theorem rank_injective : Function.Injective rank := by
  rintro ⟨⟨n, text⟩, id⟩ ⟨⟨m, other⟩, jd⟩ h
  have h := Prod.ext_iff.1 (toLex_inj.1 h)
  have h' := Prod.ext_iff.1 (toLex_inj.1 h.2)
  obtain rfl : n = m := h.1
  obtain rfl : text = other := String.toList_inj.1 h'.1
  obtain rfl : id = jd := h'.2
  rfl

theorem before_iff (a b : Place) : a.before b = true ↔ a.rank < b.rank := by
  rw [rank_lt_iff]
  simp only [before, Bool.or_eq_true, Bool.and_eq_true, decide_eq_true_eq, beq_iff_eq]

theorem precedes_iff (descending : Bool) (a b : Place) :
    a.precedes descending b = true ↔ if descending then b.rank < a.rank else a.rank < b.rank := by
  unfold precedes
  cases descending <;> simp only [Bool.false_eq_true, if_true, if_false, before_iff]

theorem precedes_trans {descending : Bool} {a b c : Place} (hab : a.precedes descending b = true)
    (hbc : b.precedes descending c = true) : a.precedes descending c = true := by
  rw [precedes_iff] at hab hbc ⊢
  cases descending with
  | false => exact lt_trans hab hbc
  | true => exact lt_trans hbc hab

theorem not_precedes_self (descending : Bool) (a : Place) : a.precedes descending a = false := by
  rw [← Bool.not_eq_true, precedes_iff]
  cases descending <;> exact lt_irrefl _

theorem not_precedes_of_precedes {descending : Bool} {a b : Place}
    (h : a.precedes descending b = true) : b.precedes descending a = false := by
  by_contra hba
  have := precedes_trans h (Bool.not_eq_false _ ▸ hba)
  rw [not_precedes_self] at this
  cases this

/-- Of two places that differ one precedes the other. -/
theorem precedes_total (descending : Bool) (a b : Place) :
    a = b ∨ a.precedes descending b = true ∨ b.precedes descending a = true := by
  rw [precedes_iff, precedes_iff]
  rcases lt_trichotomy a.rank b.rank with h | h | h
  · cases descending
    · exact .inr (.inl h)
    · exact .inr (.inr h)
  · exact .inl (rank_injective h)
  · cases descending
    · exact .inr (.inr h)
    · exact .inr (.inl h)

end Place

/-! ## The first of some places -/

/-- A first of some places: none of none, else one of them that precedes all others. -/
def IsFirst (descending : Bool) (places : List Place) : Option Place → Prop
  | none => places = []
  | some first => first ∈ places ∧
    ∀ other ∈ places, other = first ∨ first.precedes descending other = true

/-- Places have one first, which depends on which places there are and not on their order. -/
theorem IsFirst.unique {descending : Bool} {places others : List Place} {p q : Option Place}
    (hp : IsFirst descending places p) (hq : IsFirst descending others q)
    (h : ∀ place, place ∈ places ↔ place ∈ others) : p = q := by
  cases p with
  | none =>
    obtain rfl : places = [] := hp
    cases q with
    | none => rfl
    | some q => exact absurd ((h q).2 hq.1) List.not_mem_nil
  | some p =>
    cases q with
    | none =>
      obtain rfl : others = [] := hq
      exact absurd ((h p).1 hp.1) List.not_mem_nil
    | some q =>
      rcases hp.2 q ((h q).2 hq.1) with rfl | hpq
      · rfl
      · rcases hq.2 p ((h p).1 hp.1) with rfl | hqp
        · rfl
        · rw [Place.not_precedes_of_precedes hpq] at hqp
          cases hqp

/-- The head of places in order is the first of them. -/
theorem isFirst_head? {descending : Bool} {places : List Place}
    (h : places.Pairwise fun a b => a.precedes descending b = true) :
    IsFirst descending places places.head? := by
  cases places with
  | nil => rfl
  | cons place rest =>
    refine ⟨List.mem_cons_self, fun other hother => ?_⟩
    rcases List.mem_cons.1 hother with rfl | hother
    · exact .inl rfl
    · exact .inr (List.rel_of_pairwise_cons h hother)

/-- Sorting leaves no place behind one that it precedes. -/
theorem pairwise_sorted (descending : Bool) (places : List Place) :
    (places.mergeSort fun a b => !b.precedes descending a).Pairwise
      fun a b => b.precedes descending a = false := by
  have htrans : ∀ a b c : Place, !b.precedes descending a → !c.precedes descending b →
      !c.precedes descending a := by
    intro a b c hab hbc
    rw [Bool.not_eq_true'] at hab hbc ⊢
    by_contra hca
    rw [Bool.not_eq_false] at hca
    rcases Place.precedes_total descending b c with rfl | h | h
    · rw [hca] at hab
      cases hab
    · rw [Place.precedes_trans h hca] at hab
      cases hab
    · rw [h] at hbc
      cases hbc
  have htotal : ∀ a b : Place, !b.precedes descending a || !a.precedes descending b := by
    intro a b
    cases h : b.precedes descending a with
    | false => rfl
    | true => simp [Place.not_precedes_of_precedes h]
  have hsorted := List.pairwise_mergeSort htrans htotal places
  exact hsorted.imp fun h => by rwa [Bool.not_eq_true'] at h

/-- Sorting finds the first place. -/
theorem isFirst_firstSorted (descending : Bool) (places : List Place) :
    IsFirst descending places (firstSorted descending places) := by
  unfold firstSorted
  have hsorted := pairwise_sorted descending places
  have hperm := List.mergeSort_perm places fun a b => !b.precedes descending a
  cases hlist : places.mergeSort fun a b => !b.precedes descending a with
  | nil =>
    rw [hlist] at hperm
    exact hperm.symm.eq_nil
  | cons first rest =>
    rw [hlist] at hperm hsorted
    refine ⟨hperm.subset List.mem_cons_self, fun other hother => ?_⟩
    rcases List.mem_cons.1 (hperm.symm.subset hother) with rfl | hother
    · exact .inl rfl
    · have hnot := List.rel_of_pairwise_cons hsorted hother
      rcases Place.precedes_total descending first other with rfl | h | h
      · exact .inl rfl
      · exact .inr h
      · rw [h] at hnot
        cases hnot

/-- One more place looked at leaves the first of all places looked at so far. -/
theorem isFirst_keepBetter {descending : Bool} {seen : List Place} {best : Option Place}
    (h : IsFirst descending seen best) (place : Place) :
    IsFirst descending (seen ++ [place]) (keepBetter descending best place) := by
  cases best with
  | none =>
    obtain rfl : seen = [] := h
    exact ⟨List.mem_singleton_self _, fun other hother => .inl (List.mem_singleton.1 hother)⟩
  | some best =>
    simp only [keepBetter]
    by_cases hbetter : place.precedes descending best = true
    · rw [if_pos hbetter]
      refine ⟨List.mem_append_right _ (List.mem_singleton_self _), fun other hother => ?_⟩
      rcases List.mem_append.1 hother with hother | hother
      · rcases h.2 other hother with rfl | hother
        · exact .inr hbetter
        · exact .inr (Place.precedes_trans hbetter hother)
      · exact .inl (List.mem_singleton.1 hother)
    · rw [if_neg hbetter]
      refine ⟨List.mem_append_left _ h.1, fun other hother => ?_⟩
      rcases List.mem_append.1 hother with hother | hother
      · exact h.2 other hother
      · obtain rfl := List.mem_singleton.1 hother
        rcases Place.precedes_total descending other best with rfl | hbefore | hbefore
        · exact .inl rfl
        · exact absurd hbefore hbetter
        · exact .inr hbefore

/-- Keeping the best place so far finds the first one, whatever order the places come in. -/
theorem isFirst_firstKept (descending : Bool) (places : List Place) :
    IsFirst descending places (firstKept descending places) := by
  have hfold : ∀ (rest seen : List Place) (best : Option Place), IsFirst descending seen best →
      IsFirst descending (seen ++ rest) (rest.foldl (keepBetter descending) best) := by
    intro rest
    induction rest with
    | nil =>
      intro seen best h
      rwa [List.append_nil]
    | cons place rest ih =>
      intro seen best h
      have := ih (seen ++ [place]) _ (isFirst_keepBetter h place)
      rwa [List.append_assoc, List.singleton_append] at this
  exact hfold places [] none rfl

/-- Both ways find the first place. -/
theorem isFirst_firstUnder (field : SortField) (descending : Bool) (places : List Place) :
    IsFirst descending places (firstUnder field descending places) := by
  unfold firstUnder
  split
  · exact isFirst_firstKept descending places
  · exact isFirst_firstSorted descending places

end Clearance.Paging

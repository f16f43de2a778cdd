import Clearance.Proofs.Paging.Position

/-!
# The walk through the parcels of a query

A walk that starts before the first parcel and goes on from each parcel found comes to every parcel
that the query asks for exactly once, in the order of positions, and ends with the call after the
last of them. What carries it is that the parcels found so far and those still to come are, put
together, the parcels asked for in order: the place behind which the next one is looked for is
worked out anew in every call, and it is the place of the last parcel found.

The store refuses two kinds of queries: a register's number beyond what it can hold, and a code too
long to be searched for.
-/

set_option autoImplicit false

namespace Clearance.Paging

variable {store : Store} {today : Commodity.Day} {query : Query} {field : SortField}

/-- The parcels that a query asks for, the one with the least position first. -/
def listing (store : Store) (today : Commodity.Day) (query : Query) (field : SortField) :
    List (Row Parcel) :=
  (asked store query).mergeSort fun a b =>
    decide (position store today field a ≤ position store today field b)

/-- Why the store may refuse a query. -/
def Query.IsRefusedFor (query : Query) (fault : Fault) : Prop :=
  fault = .outOfRange ∧ Store.canHold query.register = false ∨
    fault = .searchTooLong ∧ query.filters.isOverlong = true

theorem listing_perm (store : Store) (today : Commodity.Day) (query : Query) (field : SortField) :
    (listing store today query field).Perm (asked store query) :=
  List.mergeSort_perm _ _

/-- A listing holds the parcels that a query asks for. -/
theorem mem_listing_iff {row : Row Parcel} :
    row ∈ listing store today query field ↔ IsAsked store query row := by
  rw [(listing_perm store today query field).mem_iff, mem_asked_iff]

/-- No two parcels of a listing have one id. -/
theorem pairwise_id_listing :
    (listing store today query field).Pairwise fun a b => a.id ≠ b.id := by
  have hasked : (asked store query).Pairwise fun a b => a.id ≠ b.id :=
    ((store.parcels.ascending.filter _).filter _).imp fun h => Int.ne_of_lt h
  exact ((listing_perm store today query field).pairwise_iff fun h => h.symm).2 hasked

/-- A listing is in strict order, as no two parcels have one position. -/
theorem pairwise_listing : (listing store today query field).Pairwise fun a b =>
    position store today field a < position store today field b := by
  have hsorted : (listing store today query field).Pairwise fun a b =>
      position store today field a ≤ position store today field b := by
    have htrans : ∀ a b c : Row Parcel,
        decide (position store today field a ≤ position store today field b) →
        decide (position store today field b ≤ position store today field c) →
        decide (position store today field a ≤ position store today field c) := by
      intro a b c hab hbc
      rw [decide_eq_true_eq] at hab hbc ⊢
      exact le_trans hab hbc
    have htotal : ∀ a b : Row Parcel,
        decide (position store today field a ≤ position store today field b) ||
        decide (position store today field b ≤ position store today field a) := by
      intro a b
      rw [Bool.or_eq_true, decide_eq_true_eq, decide_eq_true_eq]
      exact le_total _ _
    exact (List.pairwise_mergeSort htrans htotal (asked store query)).imp of_decide_eq_true
  refine (hsorted.and pairwise_id_listing).imp ?_
  rintro a b ⟨hle, hid⟩
  exact lt_of_le_of_ne hle fun hposition => hid (congrArg Position.id hposition)

/-! ## One call -/

/-- A cursor is the last of some parcels found, and it is looked up among all of its kind and
register. -/
theorem lookup_getLast? {found : List (Row Parcel)}
    (h : ∀ row ∈ found, row ∈ parcelsOf store query.kind query.register) :
    ((found.getLast?.map (·.id)).bind fun id =>
      (parcelsOf store query.kind query.register).find? fun row => row.id == id) =
        found.getLast? := by
  cases hlast : found.getLast? with
  | none => rfl
  | some row =>
    have hascending : Row.Ascending (parcelsOf store query.kind query.register) :=
      store.parcels.ascending.filter _
    exact Row.find?_of_mem hascending (h row (List.mem_of_getLast? hlast))

/-- Behind the last of the places found lie those still to come. -/
theorem mem_behind_iff {descending : Bool} {found rest places : List Place}
    (hperm : (found ++ rest).Perm places)
    (hsorted : (found ++ rest).Pairwise fun a b => a.precedes descending b = true) (place : Place) :
    place ∈ behind descending found.getLast? places ↔ place ∈ rest := by
  rcases List.eq_nil_or_concat found with rfl | ⟨init, last, rfl⟩
  · exact hperm.symm.mem_iff
  · rw [List.concat_eq_append] at hperm hsorted ⊢
    rw [List.getLast?_concat, behind, List.mem_filter, ← hperm.mem_iff]
    have hsplit := List.pairwise_append.1 hsorted
    constructor
    · rintro ⟨hmem, hlast⟩
      rcases List.mem_append.1 hmem with hmem | hmem
      · rcases List.mem_append.1 hmem with hmem | hmem
        · have := (List.pairwise_append.1 hsplit.1).2.2 place hmem last (List.mem_singleton_self _)
          rw [Place.not_precedes_of_precedes this] at hlast
          cases hlast
        · obtain rfl := List.mem_singleton.1 hmem
          rw [Place.not_precedes_self] at hlast
          cases hlast
      · exact hmem
    · intro hmem
      refine ⟨List.mem_append_right _ hmem, hsplit.2.2 last ?_ place hmem⟩
      exact List.mem_append_right _ (List.mem_singleton_self _)

/-- With the parcels asked for in order, cut into those found and those still to come, the next
parcel is the first still to come. -/
theorem next?_of_split (hfield : SortField.resolve? query.kind query.sort = some field)
    {found rest : List (Row Parcel)} (hperm : (found ++ rest).Perm (asked store query))
    (hsorted : (found ++ rest).Pairwise fun a b =>
      query.Leads (position store today field a) (position store today field b)) :
    next? store today query (found.getLast?.map (·.id)) = rest.head?.map (·.id) := by
  have hfound : ∀ row ∈ found, row ∈ parcelsOf store query.kind query.register := by
    intro row hrow
    exact (List.mem_filter.1 (hperm.subset (List.mem_append_left _ hrow))).1
  have hplaces := hperm.map (placeOn store today field)
  have hordered : ((found ++ rest).map (placeOn store today field)).Pairwise fun a b =>
      a.precedes (isDescending query.order) b = true :=
    List.pairwise_map.2 (hsorted.imp precedes_placeOn_iff.2)
  rw [List.map_append] at hplaces hordered
  have hfirst : firstUnder field (isDescending query.order)
      (behind (isDescending query.order) (found.map (placeOn store today field)).getLast?
        ((asked store query).map (placeOn store today field))) =
      (rest.map (placeOn store today field)).head? :=
    (isFirst_firstUnder field _ _).unique
      (isFirst_head? (List.pairwise_append.1 hordered).2.1) (mem_behind_iff hplaces hordered)
  have hids : (rest.map (placeOn store today field)).head?.map (·.id) = rest.head?.map (·.id) := by
    cases rest <;> rfl
  unfold next?
  rw [hfield]
  dsimp only
  rw [lookup_getLast? hfound, ← List.getLast?_map, ← hids]
  exact congrArg (Option.map (·.id)) hfirst

/-- A call answers what `next?` says unless the store refuses the query. -/
theorem next_eq_or_refused (hfield : SortField.resolve? query.kind query.sort = some field)
    (cursor : Option Int) :
    next store today query cursor = .ok (next? store today query cursor) ∨
      ∃ fault, next store today query cursor = .error fault ∧ query.IsRefusedFor fault := by
  unfold next
  rw [hfield]
  dsimp only
  split
  · next h =>
    rw [Bool.and_eq_true, Bool.not_eq_true'] at h
    exact .inr ⟨_, rfl, .inl ⟨rfl, h.2⟩⟩
  · split
    · next h =>
      rw [Bool.and_eq_true] at h
      exact .inr ⟨_, rfl, .inr ⟨rfl, h.1⟩⟩
    · exact .inl rfl

/-! ## The walk -/

/-- A walk from the last parcel found goes through those still to come, one with each call. -/
theorem walk_of_split (hfield : SortField.resolve? query.kind query.sort = some field)
    {found rest : List (Row Parcel)} (hperm : (found ++ rest).Perm (asked store query))
    (hsorted : (found ++ rest).Pairwise fun a b =>
      query.Leads (position store today field a) (position store today field b)) (limit : Nat) :
    walk store today query limit (found.getLast?.map (·.id)) =
        .ok ((rest.map (·.id)).take limit, decide (rest.length < limit)) ∨
      ∃ fault, walk store today query limit (found.getLast?.map (·.id)) = .error fault ∧
        query.IsRefusedFor fault := by
  induction limit generalizing found rest with
  | zero => exact .inl rfl
  | succ limit ih =>
    unfold walk
    rcases next_eq_or_refused hfield (found.getLast?.map (·.id)) with hnext | ⟨fault, hnext, hwhy⟩
    · rw [hnext, next?_of_split hfield hperm hsorted]
      cases rest with
      | nil => exact .inl rfl
      | cons row rest =>
        -- The parcel just found moves from those still to come to those found.
        have happend : found ++ row :: rest = (found ++ [row]) ++ rest := by simp
        rw [happend] at hperm hsorted
        have hlast : ((found ++ [row]).getLast?.map (·.id)) = some row.id := by simp
        have hrest := ih hperm hsorted
        rw [hlast] at hrest
        simp only [List.head?_cons, Option.map_some]
        rcases hrest with hrest | ⟨fault, hrest, hwhy⟩
        · left
          change (walk store today query limit (some row.id) >>= fun way =>
            pure (row.id :: way.1, way.2)) = _
          rw [hrest]
          simp [pure, bind, Except.bind, Except.pure]
        · right
          refine ⟨fault, ?_, hwhy⟩
          change (walk store today query limit (some row.id) >>= fun way =>
            pure (row.id :: way.1, way.2)) = _
          rw [hrest]
          rfl
    · right
      refine ⟨fault, ?_, hwhy⟩
      rw [hnext]
      rfl

/-- A listing, or what it is read backwards, is in the direction that a query asks for. -/
theorem pairwise_directed {rows : List (Row Parcel)}
    (h : rows.Pairwise fun a b => position store today field a < position store today field b) :
    (if IsBackward query.order then rows.reverse else rows).Pairwise fun a b =>
      query.Leads (position store today field a) (position store today field b) := by
  unfold Query.Leads
  split
  · exact List.pairwise_reverse.2 h
  · exact h

/-- A walk that starts before the first parcel and goes on from each parcel found, one call after
another, comes to the parcels of the kind and register that meet all conditions, each exactly once
and in the order of their positions; it ends with the call after the last of them. Walked through in
descending order they come exactly backwards. -/
theorem walk_lists_parcels (store : Store) (today : Commodity.Day) (query : Query)
    (field : SortField) (hfield : field.IsNamed query.kind query.sort) :
    ∃ rows : List (Row Parcel),
      (∀ row, row ∈ rows ↔ row ∈ store.parcels.rows ∧ query.Asks row.val) ∧
      (rows.map (·.id)).Nodup ∧
      (rows.Pairwise fun a b => position store today field a < position store today field b) ∧
      ∀ (order : Option String) (limit : Nat),
        let way := walk store today { query with order := order } limit none
        let ids := (if IsBackward order then rows.reverse else rows).map (·.id)
        way = .ok (ids.take limit, decide (ids.length < limit)) ∨
          ∃ fault, way = .error fault ∧ query.IsRefusedFor fault := by
  refine ⟨listing store today query field, fun _ => mem_listing_iff,
    List.pairwise_map.2 pairwise_id_listing, pairwise_listing, fun order limit => ?_⟩
  let asking : Query := { query with order := order }
  have hasking : SortField.resolve? asking.kind asking.sort = some field :=
    resolve?_eq_some_iff.2 hfield
  have hlisting : (listing store today query field).Pairwise fun a b =>
      position store today field a < position store today field b := pairwise_listing
  have hdirected := @pairwise_directed store today asking field _ hlisting
  have hperm : (if IsBackward order then (listing store today query field).reverse
      else listing store today query field).Perm (asked store asking) := by
    split
    · exact (List.reverse_perm _).trans (listing_perm store today query field)
    · exact listing_perm store today query field
  -- Nothing has been found yet, so all parcels are still to come.
  have hwalk := @walk_of_split store today asking field hasking [] _ hperm hdirected limit
  rw [← List.length_map (·.id)] at hwalk
  exact hwalk

/-- Three parcels of a register. The second one has no code, and the last one has a code that comes
before that of the first one. -/
def threeParcels : Store :=
  let coded (code : Option String) : Parcel := ⟨1, Parcel.wbr, 1, 1, code, none, none, none, none⟩
  { Store.empty with
    parcels := Table.empty.insertAll
      [coded (some "2222222222"), coded none, coded (some "1111111111")] }

/-- The parcels of the first register by their codes. -/
def byCode : Query := ⟨Parcel.wbr, 1, .none, some " commodityCODE", some "asc"⟩

/-- Four calls go through three parcels by their codes, the one without a code first. In descending
order they come backwards. -/
theorem walk_of_threeParcels : SortField.IsNamed .code byCode.kind byCode.sort ∧
    walk threeParcels 0 byCode 4 none = .ok ([2, 3, 1], true) ∧
    walk threeParcels 0 { byCode with order := some "DESC " } 4 none = .ok ([1, 3, 2], true) := by
  let coded (id : Int) (code : Option String) : Row Parcel :=
    ⟨id, 1, Parcel.wbr, 1, 1, code, none, none, none, none⟩
  let listed := [coded 2 none, coded 3 (some "1111111111"), coded 1 (some "2222222222")]
  have hfield : SortField.IsNamed .code byCode.kind byCode.sort :=
    ⟨by decide, nofun, nofun, by decide +kernel⟩
  obtain ⟨rows, hrows, hnodup, hordered, hwalk⟩ :=
    walk_lists_parcels threeParcels 0 byCode .code hfield
  have hasked : (asked threeParcels byCode).Perm listed := by decide +kernel
  have hlisted : rows = listed := by
    have hperm : rows.Perm (asked threeParcels byCode) :=
      (List.perm_ext_iff_of_nodup hnodup.of_map (by decide +kernel)).2 fun row => by
        rw [hrows, mem_asked_iff, IsAsked]
    refine (hperm.trans hasked).eq_of_pairwise ?_ hordered (by decide +kernel)
    exact fun a b _ _ hab hba => absurd hba hab.asymm
  obtain rfl := hlisted
  have hway (order : Option String) : walk threeParcels 0 { byCode with order := order } 4 none =
      .ok ((if IsBackward order then listed.reverse else listed).map (·.id), true) := by
    rcases hwalk order 4 with hway | ⟨fault, _, ⟨_, hrefused⟩ | ⟨_, hrefused⟩⟩
    · rw [hway]
      split <;> rfl
    · exact absurd hrefused (by decide)
    · exact absurd hrefused (by decide +kernel)
  refine ⟨hfield, ?_, ?_⟩
  · rw [show byCode = { byCode with order := some "asc" } from rfl, hway,
      if_neg (by decide +kernel)]
    rfl
  · rw [hway, if_pos (by decide +kernel)]
    rfl

end Clearance.Paging

import Clearance.Proofs.Paging.Journey

/-!
# The parcel that comes after a cursor

A cursor stands at the position of the parcel that it names, as long as this is one of the kind and
register asked for; whether it passes the filters does not matter. One call answers with the first
of the parcels asked for that lie ahead of the cursor in the direction asked for. A cursor that
names no such parcel has all of them ahead.

It does not matter how the call finds that parcel. It comes to the same as listing all parcels asked
for in order and taking the first one ahead, also where keys are computed one by one and only the
best place is kept.
-/

set_option autoImplicit false

namespace Clearance.Paging

/-- A cursor names a parcel of the kind and register that a query asks for. -/
structure Names (store : Store) (query : Query) (cursor : Option Int) (row : Row Parcel) :
    Prop where
  stored : row ∈ store.parcels.rows
  named : cursor = some row.id
  kind : row.val.kind = query.kind
  register : row.val.register = query.register

/-- A parcel comes before another one in the direction that a query asks for. -/
def ComesBefore (store : Store) (today : Commodity.Day) (query : Query) (field : SortField)
    (row other : Row Parcel) : Prop :=
  query.Leads (position store today field row) (position store today field other)

instance (store : Store) (today : Commodity.Day) (query : Query) (field : SortField)
    (row other : Row Parcel) : Decidable (ComesBefore store today query field row other) :=
  inferInstanceAs (Decidable (query.Leads _ _))

/-- A parcel lies ahead of a cursor if it comes after the one that the cursor names. -/
def LiesAhead (store : Store) (today : Commodity.Day) (query : Query) (field : SortField)
    (cursor : Option Int) (row : Row Parcel) : Prop :=
  ∀ anchor, Names store query cursor anchor → ComesBefore store today query field anchor row

/-- The first of the parcels asked for that lie ahead of a cursor. -/
structure IsFirstAhead (store : Store) (today : Commodity.Day) (query : Query) (field : SortField)
    (cursor : Option Int) (row : Row Parcel) : Prop where
  asked : IsAsked store query row
  ahead : LiesAhead store today query field cursor row
  first : ∀ other, IsAsked store query other → LiesAhead store today query field cursor other →
    other = row ∨ ComesBefore store today query field row other

/-- The parcels asked for in the direction asked for. -/
def directed (store : Store) (today : Commodity.Day) (query : Query) (field : SortField) :
    List (Row Parcel) :=
  if IsBackward query.order then (listing store today query field).reverse
  else listing store today query field

variable {store : Store} {today : Commodity.Day} {query : Query} {field : SortField}
variable {cursor : Option Int} {row other : Row Parcel}

/-! ## Parcels in order -/

/-- What comes after a parcel ahead of the cursor is ahead of the cursor too. -/
theorem LiesAhead.of_comesBefore (h : LiesAhead store today query field cursor row)
    (hbefore : ComesBefore store today query field row other) :
    LiesAhead store today query field cursor other :=
  fun anchor hanchor => (h anchor hanchor).trans hbefore

theorem mem_directed_iff : row ∈ directed store today query field ↔ IsAsked store query row := by
  unfold directed
  split
  · rw [List.mem_reverse, mem_listing_iff]
  · exact mem_listing_iff

theorem pairwise_directed_comesBefore :
    (directed store today query field).Pairwise (ComesBefore store today query field) :=
  pairwise_directed pairwise_listing

/-! ## The position of a cursor -/

/-- The parcel that a cursor names is the one looked up under the cursor's id. -/
theorem names_iff : Names store query cursor row ↔
    (cursor.bind fun id => (parcelsOf store query.kind query.register).find?
      fun row => row.id == id) = some row := by
  have hascending : Row.Ascending (parcelsOf store query.kind query.register) :=
    store.parcels.ascending.filter _
  constructor
  · rintro ⟨hstored, rfl, hkind, hregister⟩
    exact Row.find?_of_mem hascending (mem_parcelsOf_iff.2 ⟨hstored, hkind, hregister⟩)
  · intro hfound
    obtain ⟨id, rfl, hfound⟩ := Option.bind_eq_some_iff.1 hfound
    obtain ⟨hstored, hkind, hregister⟩ := mem_parcelsOf_iff.1 (List.mem_of_find?_eq_some hfound)
    have hid := List.find?_some hfound
    rw [beq_iff_eq] at hid
    exact ⟨hstored, hid ▸ rfl, hkind, hregister⟩

/-- A cursor names no more than one parcel. -/
theorem Names.unique (hrow : Names store query cursor row)
    (hother : Names store query cursor other) : row = other :=
  Option.some.inj ((names_iff.1 hrow).symm.trans (names_iff.1 hother))

theorem Names.liesAhead_iff {anchor : Row Parcel} (h : Names store query cursor anchor) :
    LiesAhead store today query field cursor row ↔
      ComesBefore store today query field anchor row :=
  ⟨fun hahead => hahead anchor h, fun hbefore _ hother => h.unique hother ▸ hbefore⟩

/-- The first parcel ahead of a cursor is the first one that comes after the one it names. -/
theorem Names.isFirstAhead_iff {anchor : Row Parcel} (h : Names store query cursor anchor) :
    IsFirstAhead store today query field cursor row ↔
      row ∈ asked store query ∧ ComesBefore store today query field anchor row ∧
        ∀ other ∈ asked store query, ComesBefore store today query field anchor other →
          other = row ∨ ComesBefore store today query field row other := by
  simp only [mem_asked_iff]
  constructor
  · rintro ⟨hasked, hahead, hfirst⟩
    exact ⟨hasked, h.liesAhead_iff.1 hahead, fun other hother hafter =>
      hfirst other hother (h.liesAhead_iff.2 hafter)⟩
  · rintro ⟨hasked, hafter, hfirst⟩
    exact ⟨hasked, h.liesAhead_iff.2 hafter, fun other hother hahead =>
      hfirst other hother (h.liesAhead_iff.1 hahead)⟩

theorem liesAhead_iff_isBehind : LiesAhead store today query field cursor row ↔
    IsBehind query (cursor.bind (positionAt ⟨store, today⟩ query field))
      (position store today field row) := by
  have hposition : cursor.bind (positionAt ⟨store, today⟩ query field) =
      (cursor.bind fun id => (parcelsOf store query.kind query.register).find?
        fun row => row.id == id).map (position store today field) := by
    cases cursor with
    | none => rfl
    | some id => exact positionAt_eq ⟨store, today⟩ query field id
  rw [hposition]
  constructor
  · intro hahead from? hfrom?
    obtain ⟨anchor, hanchor, rfl⟩ := Option.map_eq_some_iff.1 hfrom?
    exact hahead anchor (names_iff.2 hanchor)
  · intro hbehind anchor hanchor
    exact hbehind _ (Option.map_eq_some_iff.2 ⟨anchor, names_iff.1 hanchor, rfl⟩)

/-! ## The answer of a call -/

theorem IsFirstAhead.unique (hrow : IsFirstAhead store today query field cursor row)
    (hother : IsFirstAhead store today query field cursor other) : row = other := by
  rcases hother.first row hrow.asked hrow.ahead with hsame | hbefore
  · exact hsame
  · rcases hrow.first other hother.asked hother.ahead with hsame | hafter
    · exact hsame.symm
    · exact absurd hafter hbefore.asymm

/-- A call is refused, or it answers with none if there is no parcel ahead and else with the first
one. -/
theorem next_outcome (hfield : SortField.resolve? query.kind query.sort = some field)
    (cursor : Option Int) :
    (∃ fault, next store today query cursor = .error fault ∧ query.IsRefusedFor fault) ∨
    (next store today query cursor = .ok none ∧
      ∀ row, IsAsked store query row → ¬LiesAhead store today query field cursor row) ∨
    ∃ row, next store today query cursor = .ok (some row.id) ∧
      IsFirstAhead store today query field cursor row := by
  rcases @next_eq_or_refused store today query field hfield cursor with hok | hrefused
  · right
    rcases next_cases hfield ⟨store, today⟩ cursor with ⟨fault, herror⟩ | ⟨hnone, hall⟩ |
      ⟨row, hrow, hsome, hahead, hfirst⟩
    · have herror : next store today query cursor = .error fault := herror
      rw [hok] at herror
      cases herror
    · exact .inl ⟨hnone, fun row hrow hahead => hall row hrow (liesAhead_iff_isBehind.1 hahead)⟩
    · refine .inr ⟨row, hsome, hrow, liesAhead_iff_isBehind.2 hahead, ?_⟩
      intro other hother hother'
      exact hfirst other hother (liesAhead_iff_isBehind.1 hother')
  · exact .inl hrefused

/-- A list in order is cut where a property begins that passes on to all that comes later. -/
theorem exists_split_of_pairwise {α : Type} {r : α → α → Prop} {p : α → Prop} {rows : List α}
    (hordered : rows.Pairwise r) (hpasses : ∀ a b, r a b → p a → p b) :
    ∃ passed coming, passed ++ coming = rows ∧ (∀ a ∈ passed, ¬p a) ∧ ∀ a ∈ coming, p a := by
  induction hordered with
  | nil => exact ⟨[], [], rfl, nofun, nofun⟩
  | @cons a rows hfirst _ ih =>
    by_cases ha : p a
    · refine ⟨[], a :: rows, rfl, nofun, fun b hb => ?_⟩
      rcases List.mem_cons.1 hb with rfl | hb
      · exact ha
      · exact hpasses a b (hfirst b hb) ha
    · obtain ⟨passed, coming, rfl, hpassed, hcoming⟩ := ih
      refine ⟨a :: passed, coming, rfl, fun b hb => ?_, hcoming⟩
      rcases List.mem_cons.1 hb with rfl | hb
      · exact ha
      · exact hpassed b hb

/-- Of the parcels in order the first one that lies ahead is the first of all that do. -/
theorem isFirstAhead_of_split {passed coming : List (Row Parcel)}
    (hsplit : passed ++ row :: coming = directed store today query field)
    (hpassed : ∀ other ∈ passed, ¬LiesAhead store today query field cursor other)
    (hrow : LiesAhead store today query field cursor row) :
    IsFirstAhead store today query field cursor row := by
  have hordered := @pairwise_directed_comesBefore store today query field
  rw [← hsplit] at hordered
  have hafter := (List.pairwise_cons.1 (List.pairwise_append.1 hordered).2.1).1
  refine ⟨mem_directed_iff.1 (hsplit ▸ List.mem_append_right _ List.mem_cons_self), hrow, ?_⟩
  intro other hother hahead
  have hmem : other ∈ passed ++ row :: coming := hsplit ▸ mem_directed_iff.2 hother
  rcases List.mem_append.1 hmem with hmem | hmem
  · exact absurd hahead (hpassed other hmem)
  · exact (List.mem_cons.1 hmem).imp_right (hafter other)

/-- A call that is not refused answers with a parcel just if it is the first one ahead. -/
theorem next_eq_some_iff (hfield : SortField.resolve? query.kind query.sort = some field)
    (hok : ∀ fault, next store today query cursor ≠ .error fault) (hrow : IsAsked store query row) :
    next store today query cursor = .ok (some row.id) ↔
      IsFirstAhead store today query field cursor row := by
  rcases @next_outcome store today query field hfield cursor with ⟨fault, herror, _⟩ |
    ⟨hnone, hall⟩ | ⟨first, hfirst, hahead⟩
  · exact absurd herror (hok fault)
  · rw [hnone]
    exact ⟨nofun, fun h => absurd h.ahead (hall row hrow)⟩
  · rw [hfirst]
    constructor
    · intro hid
      have hid : first.id = row.id := Option.some.inj (Except.ok.inj hid)
      rwa [← hahead.asked.eq_of_id_eq hrow hid]
    · intro h
      rw [hahead.unique h]

/-- A call that is not refused answers with none just if no parcel lies ahead. -/
theorem next_eq_none_iff (hfield : SortField.resolve? query.kind query.sort = some field)
    (hok : ∀ fault, next store today query cursor ≠ .error fault) :
    next store today query cursor = .ok none ↔
      ∀ row, IsAsked store query row → ¬LiesAhead store today query field cursor row := by
  rcases @next_outcome store today query field hfield cursor with ⟨fault, herror, _⟩ |
    ⟨hnone, hall⟩ | ⟨first, hfirst, hahead⟩
  · exact absurd herror (hok fault)
  · exact ⟨fun _ => hall, fun _ => hnone⟩
  · rw [hfirst]
    exact ⟨nofun, fun hall => absurd hahead.ahead (hall first hahead.asked)⟩

/-- A call that is not refused answers with the parcel at which those ahead begin. -/
theorem next_of_split (hfield : SortField.resolve? query.kind query.sort = some field)
    (hok : ∀ fault, next store today query cursor ≠ .error fault)
    {passed coming : List (Row Parcel)}
    (hsplit : passed ++ coming = directed store today query field)
    (hpassed : ∀ row ∈ passed, ¬LiesAhead store today query field cursor row)
    (hcoming : ∀ row ∈ coming, LiesAhead store today query field cursor row) :
    next store today query cursor = .ok (coming.head?.map (·.id)) := by
  cases coming with
  | nil =>
    refine (next_eq_none_iff hfield hok).2 fun row hrow => hpassed row ?_
    rw [List.append_nil] at hsplit
    rw [hsplit]
    exact mem_directed_iff.2 hrow
  | cons row rest =>
    have hfirst := isFirstAhead_of_split hsplit hpassed (hcoming row List.mem_cons_self)
    exact (next_eq_some_iff hfield hok hfirst.asked).2 hfirst

/-- One call, from whatever cursor: unless the store refuses the query, it answers with the first of
the parcels asked for that lie ahead of the cursor, and with none just if there is none. That is the
one found by putting all parcels asked for in order and passing over those not ahead, and the first
of all if the cursor names no parcel of the kind and register. -/
theorem next_is_immediate_successor (store : Store) (today : Commodity.Day) (query : Query)
    (field : SortField) (hfield : field.IsNamed query.kind query.sort) (cursor : Option Int) :
    let answer := next store today query cursor
    (∃ fault, answer = .error fault ∧ query.IsRefusedFor fault) ∨
    ((∀ row, IsAsked store query row → (answer = .ok (some row.id) ↔
        IsFirstAhead store today query field cursor row)) ∧
      (answer = .ok none ↔
        ∀ row, IsAsked store query row → ¬LiesAhead store today query field cursor row) ∧
      ∃ passed coming : List (Row Parcel),
        (∀ row, row ∈ passed ++ coming ↔ IsAsked store query row) ∧
        (passed ++ coming).Pairwise (ComesBefore store today query field) ∧
        (∀ row ∈ passed, ¬LiesAhead store today query field cursor row) ∧
        (∀ row ∈ coming, LiesAhead store today query field cursor row) ∧
        answer = .ok (coming.head?.map (·.id)) ∧
        ((∀ anchor, ¬Names store query cursor anchor) → passed = [])) := by
  intro answer
  have hfound := resolve?_eq_some_iff.2 hfield
  by_cases hok : ∀ fault, next store today query cursor ≠ .error fault
  · right
    have hpasses : ∀ row other, ComesBefore store today query field row other →
        LiesAhead store today query field cursor row →
          LiesAhead store today query field cursor other :=
      fun _ _ hbefore hahead => hahead.of_comesBefore hbefore
    obtain ⟨passed, coming, hsplit, hpassed, hcoming⟩ :=
      exists_split_of_pairwise (@pairwise_directed_comesBefore store today query field) hpasses
    refine ⟨fun row hrow => next_eq_some_iff hfound hok hrow, next_eq_none_iff hfound hok,
      passed, coming, ?_, ?_, hpassed, hcoming, next_of_split hfound hok hsplit hpassed hcoming, ?_⟩
    · rw [hsplit]
      exact fun row => mem_directed_iff
    · rw [hsplit]
      exact pairwise_directed_comesBefore
    · intro hnames
      refine List.eq_nil_iff_forall_not_mem.2 fun row hrow => hpassed row hrow ?_
      exact fun anchor hanchor => absurd hanchor (hnames anchor)
  · left
    obtain ⟨fault, herror⟩ := not_forall.1 hok
    have herror := not_not.1 herror
    rcases @next_eq_or_refused store today query field hfound cursor with hnext | hrefused
    · rw [hnext] at herror
      cases herror
    · exact hrefused

/-- Four parcels of a register. The first three match alike and the last one matches best; the third
one is approved. -/
def mixedParcels : Store :=
  let plain : Parcel := ⟨1, Parcel.wbr, 1, 1, none, none, none, none, none⟩
  { Store.empty with
    parcels := Table.empty.insertAll
      [plain, plain, { plain with checkStatus := 301 }, { plain with code := some "1111111111" }]
    keyWords := Table.empty.insertAll [⟨"gun", 1⟩]
    keyWordCodes := Table.empty.insertAll [⟨1, "1111111111"⟩]
    keyWordLinks := Table.empty.insertAll [⟨4, 1⟩] }

/-- The new parcels of the first register, those that match worst first. -/
def newByPriorityBackward : Query := { newByPriority with order := some "Desc" }

/-- The last parcel matches best, so it is followed by the first one, and it comes last in
descending order. The approved parcel is not asked for, and yet only what comes after it is. -/
theorem next_mixedParcels :
    SortField.IsNamed .priority newByPriority.kind newByPriority.sort ∧
    next mixedParcels 0 newByPriority (some 4) = .ok (some 1) ∧
    next mixedParcels 0 newByPriorityBackward (some 3) = .ok (some 2) ∧
    next mixedParcels 0 newByPriorityBackward (some 1) = .ok (some 4) := by
  have hfield : SortField.IsNamed .priority newByPriority.kind newByPriority.sort :=
    ⟨by decide, nofun, nofun, by decide +kernel⟩
  let plain (id : Int) : Row Parcel := ⟨id, 1, Parcel.wbr, 1, 1, none, none, none, none, none⟩
  let matched : Row Parcel := ⟨4, 1, Parcel.wbr, 1, 1, some "1111111111", none, none, none, none⟩
  let approved : Row Parcel := ⟨3, 1, Parcel.wbr, 1, 301, none, none, none, none, none⟩
  have hfirst {query : Query} (hquery : query.kind = Parcel.wbr ∧ query.register = 1 ∧
      query.sort = some "matchPriority" ∧ query.filters.code = none) {cursor : Option Int}
      {row : Row Parcel} (hrow : IsFirstAhead mixedParcels 0 query .priority cursor row) :
      next mixedParcels 0 query cursor = .ok (some row.id) := by
    obtain ⟨hkind, hregister, hsort, hcode⟩ := hquery
    have hnamed : SortField.IsNamed .priority query.kind query.sort := by
      rw [hkind, hsort]
      exact hfield
    rcases next_is_immediate_successor mixedParcels 0 query .priority hnamed cursor with
      ⟨fault, _, ⟨_, hrefused⟩ | ⟨_, hrefused⟩⟩ | ⟨hfirst, _⟩
    · rw [hregister] at hrefused
      exact absurd hrefused (by decide)
    · unfold Filters.isOverlong at hrefused
      rw [hcode] at hrefused
      exact absurd hrefused (by decide +kernel)
    · exact (hfirst row hrow.asked).2 hrow
  have hmatched : Names mixedParcels newByPriority (some 4) matched :=
    names_iff.2 (by decide +kernel)
  have happroved : Names mixedParcels newByPriorityBackward (some 3) approved :=
    names_iff.2 (by decide +kernel)
  have hplain : Names mixedParcels newByPriorityBackward (some 1) (plain 1) :=
    names_iff.2 (by decide +kernel)
  refine ⟨hfield, ?_, ?_, ?_⟩
  · have hrow : IsFirstAhead mixedParcels 0 newByPriority .priority (some 4) (plain 1) :=
      hmatched.isFirstAhead_iff.2 (by decide +kernel)
    exact hfirst (by decide) hrow
  · have hrow : IsFirstAhead mixedParcels 0 newByPriorityBackward .priority (some 3) (plain 2) :=
      happroved.isFirstAhead_iff.2 (by decide +kernel)
    exact hfirst (by decide) hrow
  · have hrow : IsFirstAhead mixedParcels 0 newByPriorityBackward .priority (some 1) matched :=
      hplain.isFirstAhead_iff.2 (by decide +kernel)
    exact hfirst (by decide) hrow

end Clearance.Paging

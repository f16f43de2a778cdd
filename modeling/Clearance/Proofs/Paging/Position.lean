import Mathlib.Data.Sum.Order
import Clearance.Proofs.Paging.Order
import Clearance.Proofs.Parcel.Priority

/-!
# What a query for the next parcel means

The field by which a query sorts is named in any mix of cases and with any blanks around it; two of
the fields are for parcels of one kind only. The parcels asked for are those of the kind and
register that meet every condition. They stand in lexicographic order: by what the field says of
them, which is a number or the letters of a text, and then by their ids. A text that is missing has
no letters, and match priority is the number of the tier in the ranking table.

The keys, places and comparisons that paging works with come to just this order.
-/

set_option autoImplicit false

namespace Clearance.Paging

/-! ## Fields, directions and conditions -/

/-- A text names a field by which parcels of a kind can be sorted. -/
structure SortField.IsNamed (field : SortField) (kind : String) (sort : Option String) : Prop where
  known : kind = Parcel.wbr ∨ kind = Parcel.ozon
  tracking : field = .tracking → kind = Parcel.wbr
  posting : field = .posting → kind = Parcel.ozon
  name : Text.lower (Text.strip (sort.getD "").toList) = Text.lower field.name.toList

/-- An order runs from the last parcel to the first if it says `desc`, in any mix of cases and with
any blanks around it. -/
def IsBackward (order : Option String) : Prop :=
  ∃ text ∈ order, Text.lower (Text.strip text.toList) = "desc".toList

instance (order : Option String) : Decidable (IsBackward order) :=
  inferInstanceAs (Decidable (∃ text ∈ order, _))

/-- A parcel meets all conditions. A condition on the code asks for a part of it, unless there are
only blanks. -/
structure Filters.Admit (filters : Filters) (parcel : Parcel) : Prop where
  status : ∀ n ∈ filters.status, parcel.status = n
  checkStatus : ∀ n ∈ filters.checkStatus, parcel.checkStatus = n
  code : ∀ wanted ∈ filters.code, Text.strip wanted.toList ≠ [] →
    ∃ code ∈ parcel.code, Text.isFound (Text.strip wanted.toList) code.toList = true
  held : filters.withIssues = true →
    Parcel.CheckStatus.hasIssues.number ≤ parcel.checkStatus ∧
      parcel.checkStatus < Parcel.CheckStatus.noIssues.number

/-- A parcel is of the kind and register that a query asks for and meets all its conditions. -/
structure Query.Asks (query : Query) (parcel : Parcel) : Prop where
  kind : parcel.kind = query.kind
  register : parcel.register = query.register
  conditions : query.filters.Admit parcel

/-- A stored parcel that a query asks for. -/
def IsAsked (store : Store) (query : Query) (row : Row Parcel) : Prop :=
  row ∈ store.parcels.rows ∧ query.Asks row.val

/-! ## Positions -/

/-- What a field says of a stored parcel: a number, or the letters of a text. -/
def sortKey (store : Store) (day : Commodity.Day) (row : Row Parcel) : SortField → ℤ ⊕ₗ List Char
  | .id => Sum.inlₗ row.id
  | .status => Sum.inlₗ row.val.status
  | .checkStatus => Sum.inlₗ row.val.checkStatus
  | .code => Sum.inrₗ (row.val.code.getD "").toList
  | .tracking => Sum.inrₗ (row.val.tracking.getD "").toList
  | .posting => Sum.inrₗ (row.val.posting.getD "").toList
  | .priority => Sum.inlₗ (store.tierOn day row.id row.val).number

/-- Where parcels stand: by what a field says of them, and then by their ids. -/
abbrev Position : Type := (ℤ ⊕ₗ List Char) ×ₗ ℤ

instance : DecidableEq Position := inferInstanceAs (DecidableEq ((ℤ ⊕ List Char) × ℤ))

/-- Where a stored parcel stands under a field. -/
def position (store : Store) (day : Commodity.Day) (field : SortField) (row : Row Parcel) :
    Position :=
  toLex (sortKey store day row field, row.id)

/-- The id of the parcel at a position. -/
def Position.id (position : Position) : Int := (ofLex position).2

/-- A position comes before another one in the direction that a query asks for. -/
def Query.Leads (query : Query) (a b : Position) : Prop :=
  if IsBackward query.order then b < a else a < b

instance (query : Query) (a b : Position) : Decidable (query.Leads a b) := by
  unfold Query.Leads
  infer_instance

/-- The parcels that a query asks for, as paging picks them out. -/
def asked (store : Store) (query : Query) : List (Row Parcel) :=
  (parcelsOf store query.kind query.register).filter fun row => query.filters.pass row.val

/-- A parcel's place with the catalogue as it is in force on a day. -/
def placeOn (store : Store) (day : Commodity.Day) (field : SortField) (row : Row Parcel) : Place :=
  placeOf store (store.codesInForce day).contains field row

variable {store other : Store} {day later : Commodity.Day} {query : Query} {field : SortField}
variable {a b c : Position} {row row' : Row Parcel}

/-! ## Fields, directions and conditions as paging reads them -/

theorem lower_name_injective {field field' : SortField}
    (h : Text.lower field.name.toList = Text.lower field'.name.toList) : field = field' := by
  revert h
  cases field <;> cases field' <;> decide +kernel

theorem find?_name_eq_some_iff {wanted : List Char} :
    (SortField.all.find? fun field => Text.lower field.name.toList == wanted) = some field ↔
      wanted = Text.lower field.name.toList := by
  constructor
  · intro h
    have hname := List.find?_some h
    exact (beq_iff_eq.1 hname).symm
  · rintro rfl
    have hmem : field ∈ SortField.all := by cases field <;> decide
    cases hfound : SortField.all.find? fun other =>
        Text.lower other.name.toList == Text.lower field.name.toList with
    | none => exact absurd (List.find?_eq_none.1 hfound field hmem) (by simp)
    | some other =>
      have hname := List.find?_some hfound
      rw [lower_name_injective (beq_iff_eq.1 hname)]

theorem mem_kinds_iff {kind : String} : kind ∈ field.kinds ↔
    (kind = Parcel.wbr ∨ kind = Parcel.ozon) ∧ (field = .tracking → kind = Parcel.wbr) ∧
      (field = .posting → kind = Parcel.ozon) := by
  cases field <;> simp +contextual [SortField.kinds]

/-- The field found is the one that is named. -/
theorem resolve?_eq_some_iff {kind : String} {sort : Option String} :
    SortField.resolve? kind sort = some field ↔ field.IsNamed kind sort := by
  unfold SortField.resolve?
  dsimp only
  constructor
  · intro h
    split at h
    · next found hfound =>
      split at h
      · next hkind =>
        obtain rfl := Option.some.inj h
        obtain ⟨hknown, htracking, hposting⟩ := mem_kinds_iff.1 (List.contains_iff_mem.1 hkind)
        exact ⟨hknown, htracking, hposting, find?_name_eq_some_iff.1 hfound⟩
      · cases h
    · cases h
  · rintro ⟨hknown, htracking, hposting, hname⟩
    have hfound : (SortField.all.find? fun field =>
        Text.lower field.name.toList == normalized sort) = some field :=
      find?_name_eq_some_iff.2 hname
    have hkind := List.contains_iff_mem.2 (mem_kinds_iff.2 ⟨hknown, htracking, hposting⟩)
    rw [hfound]
    dsimp only
    rw [if_pos hkind]

theorem isDescending_iff {order : Option String} :
    isDescending order = true ↔ IsBackward order := by
  unfold isDescending normalized IsBackward
  rw [beq_iff_eq]
  cases order with
  | none => simp; decide +kernel
  | some text => simp

theorem allows_iff {wanted : Option Int} {actual : Int} :
    Filters.allows wanted actual = true ↔ ∀ n ∈ wanted, actual = n := by
  unfold Filters.allows
  cases wanted with
  | none => simp
  | some n => simpa using eq_comm

theorem allowsCode_iff {wanted actual : Option String} : Filters.allowsCode wanted actual = true ↔
    ∀ text ∈ wanted, Text.strip text.toList ≠ [] →
      ∃ code ∈ actual, Text.isFound (Text.strip text.toList) code.toList = true := by
  unfold Filters.allowsCode
  cases wanted with
  | none => simp
  | some text =>
    rw [Option.getD_some, Bool.or_eq_true, List.isEmpty_iff]
    cases actual with
    | none => simp
    | some code => simp [← or_iff_not_imp_left]

/-- The parcels that pass are those that meet every condition. -/
theorem pass_iff {filters : Filters} {parcel : Parcel} :
    filters.pass parcel = true ↔ filters.Admit parcel := by
  unfold Filters.pass Filters.passNumbers Parcel.CheckStatus.isHeld
  rw [Bool.and_eq_true, Bool.and_eq_true, Bool.and_eq_true, allows_iff, allows_iff, allowsCode_iff,
    Bool.or_eq_true, Bool.not_eq_true', decide_eq_true_eq, ← Bool.not_eq_true,
    ← imp_iff_not_or]
  exact ⟨fun ⟨⟨⟨hstatus, hcheck⟩, hheld⟩, hcode⟩ => ⟨hstatus, hcheck, hcode, hheld⟩,
    fun ⟨hstatus, hcheck, hcode, hheld⟩ => ⟨⟨⟨hstatus, hcheck⟩, hheld⟩, hcode⟩⟩

theorem mem_parcelsOf_iff {kind : String} {register : Int} : row ∈ parcelsOf store kind register ↔
    row ∈ store.parcels.rows ∧ row.val.kind = kind ∧ row.val.register = register := by
  unfold parcelsOf
  rw [List.mem_filter, Bool.and_eq_true, beq_iff_eq, beq_iff_eq]

theorem mem_asked_iff : row ∈ asked store query ↔ IsAsked store query row := by
  unfold asked IsAsked
  rw [List.mem_filter, mem_parcelsOf_iff, pass_iff]
  exact ⟨fun ⟨⟨hrow, hkind, hregister⟩, hpass⟩ => ⟨hrow, hkind, hregister, hpass⟩,
    fun ⟨hrow, hkind, hregister, hpass⟩ => ⟨⟨hrow, hkind, hregister⟩, hpass⟩⟩

/-! ## Positions as paging compares them -/

theorem tierOf_eq_tierOn : tierOf store (store.codesInForce day).contains row =
    store.tierOn day row.id row.val :=
  Store.tierOf_eq day row.val

/-- One place comes before another just if the positions do. -/
theorem before_placeOn_iff : (placeOn store day field row).before (placeOn other later field row') =
    true ↔ position store day field row < position other later field row' := by
  rw [Place.before_iff]
  unfold Place.rank placeOn placeOf position
  rw [Prod.Lex.toLex_lt_toLex, Prod.Lex.toLex_lt_toLex, Prod.Lex.toLex_lt_toLex]
  cases field with
  | id | status | checkStatus => simp [keyOf, sortKey]
  | code | tracking | posting => simp [keyOf, sortKey]
  | priority => simp [keyOf, sortKey, tierOf_eq_tierOn]

theorem precedes_placeOn_iff : (placeOn store day field row).precedes (isDescending query.order)
    (placeOn other later field row') = true ↔
      query.Leads (position store day field row) (position other later field row') := by
  unfold Place.precedes Query.Leads
  by_cases h : IsBackward query.order
  · rw [if_pos (isDescending_iff.2 h), if_pos h, before_placeOn_iff]
  · rw [if_neg (mt isDescending_iff.1 h), if_neg h, before_placeOn_iff]

namespace Query.Leads

theorem trans (hab : query.Leads a b) (hbc : query.Leads b c) : query.Leads a c := by
  unfold Leads at hab hbc ⊢
  split at hab
  · next h =>
    rw [if_pos h] at hbc ⊢
    exact hbc.trans hab
  · next h =>
    rw [if_neg h] at hbc ⊢
    exact hab.trans hbc

theorem irrefl (a : Position) : ¬query.Leads a a := by
  unfold Leads
  split <;> exact lt_irrefl a

theorem asymm (hab : query.Leads a b) : ¬query.Leads b a := fun hba => irrefl a (hab.trans hba)

end Query.Leads

end Clearance.Paging

import Mathlib.Data.List.Chain
import Clearance.Proofs.Paging.Walk
import Clearance.Proofs.Store.Table

/-!
# A walk while the store changes

Each call of a walk is made at its own moment, and between two calls anything may happen to the
store and to the day: parcels may come and go, be screened, and pass the filters now and then. A
call knows no more of those before it than the id it is given.

As long as the parcel returned last keeps its position until the next call, the position behind
which that call looks is the one at which the parcel was returned. So the positions returned only
ever move on, in the direction asked for, and a parcel that keeps its position and is asked for all
along is neither passed over nor returned again.
-/

set_option autoImplicit false

namespace Clearance.Paging

/-- What a call of a walk meets: the store and the day. -/
structure Moment where
  store : Store
  today : Commodity.Day

/-- A call of a walk: the moment at which it was made and its answer. -/
structure Call where
  moment : Moment
  answer : Except Fault (Option Int)

/-- The parcel that a call returned. -/
def Call.found? (call : Call) : Option Int :=
  match call.answer with
  | .ok found => found
  | .error _ => none

/-- The calls of a walk from a cursor, one at each moment. It goes on from the parcel returned, and
ends with the call that returns none or is refused. -/
def journey (query : Query) (cursor : Option Int) (moments : List Moment) : List Call :=
  match moments with
  | [] => []
  | moment :: later =>
    let call : Call := ⟨moment, next moment.store moment.today query cursor⟩
    match call.found? with
    | some id => call :: journey query (some id) later
    | none => [call]

/-- The ids that the calls of a walk returned and whether one of them returned none, or the fault
with which one of them was refused. -/
def gathered : List Call → Except Fault (List Int × Bool)
  | [] => .ok ([], false)
  | ⟨_, .error fault⟩ :: _ => .error fault
  | ⟨_, .ok none⟩ :: _ => .ok ([], true)
  | ⟨_, .ok (some id)⟩ :: later => (gathered later).map fun way => (id :: way.1, way.2)

/-- How often the calls of a walk returned a parcel. -/
def timesReturned (id : Int) (calls : List Call) : Nat :=
  calls.countP fun call => call.found? == some id

/-- Where the parcel under an id stands at a moment, if it is one of the kind and register. -/
def positionAt (moment : Moment) (query : Query) (field : SortField) (id : Int) :
    Option Position :=
  (moment.store.parcels.rows.find? fun row =>
    row.id = id ∧ row.val.kind = query.kind ∧ row.val.register = query.register).map
      (position moment.store moment.today field)

/-- The parcel that a call returned is still there at the moment of the next one, of the same kind
and register and with the same key. -/
def IsKeptUntil (query : Query) (field : SortField) (call later : Call) : Prop :=
  ∀ id ∈ call.found?,
    positionAt later.moment query field id = positionAt call.moment query field id

instance (query : Query) (field : SortField) (call later : Call) :
    Decidable (IsKeptUntil query field call later) :=
  inferInstanceAs (Decidable (∀ id ∈ call.found?, _))

/-- At every call of a walk there is a parcel asked for at a position. -/
def IsAskedThroughout (query : Query) (field : SortField) (kept : Position) (calls : List Call) :
    Prop :=
  ∀ call ∈ calls, ∃ row, IsAsked call.moment.store query row ∧
    position call.moment.store call.moment.today field row = kept

instance (query : Query) (field : SortField) (kept : Position) (calls : List Call) :
    Decidable (IsAskedThroughout query field kept calls) :=
  decidable_of_iff (∀ call ∈ calls, ∃ row ∈ asked call.moment.store query,
    position call.moment.store call.moment.today field row = kept) (by
      simp only [mem_asked_iff, IsAskedThroughout])

/-- A position lies behind an anchor, as every position does if there is none. -/
def IsBehind (query : Query) (anchor : Option Position) (reached : Position) : Prop :=
  ∀ from? ∈ anchor, query.Leads from? reached

variable {query : Query} {field : SortField} {moment : Moment} {reached : Position}

theorem journey_of_found (moment : Moment) {cursor : Option Int} {id : Int} {later : List Moment}
    (h : next moment.store moment.today query cursor = .ok (some id)) :
    journey query cursor (moment :: later) =
      ⟨moment, .ok (some id)⟩ :: journey query (some id) later := by
  rw [journey, h]
  rfl

theorem journey_of_none (moment : Moment) {cursor : Option Int} {later : List Moment}
    (h : next moment.store moment.today query cursor = .ok none) :
    journey query cursor (moment :: later) = [⟨moment, .ok none⟩] := by
  rw [journey, h]
  rfl

theorem journey_of_refused (moment : Moment) {cursor : Option Int} {fault : Fault}
    {later : List Moment} (h : next moment.store moment.today query cursor = .error fault) :
    journey query cursor (moment :: later) = [⟨moment, .error fault⟩] := by
  rw [journey, h]
  rfl

/-- A walk through a store that stays as it is makes its calls at moments that are all alike. -/
theorem gathered_journey (store : Store) (today : Commodity.Day) (query : Query) (limit : Nat)
    (cursor : Option Int) :
    gathered (journey query cursor (List.replicate limit ⟨store, today⟩)) =
      walk store today query limit cursor := by
  induction limit generalizing cursor with
  | zero => rfl
  | succ limit ih =>
    rw [List.replicate_succ]
    unfold walk
    cases hnext : next store today query cursor with
    | error fault =>
      rw [journey_of_refused ⟨store, today⟩ hnext]
      rfl
    | ok found =>
      cases found with
      | none =>
        rw [journey_of_none ⟨store, today⟩ hnext]
        rfl
      | some id =>
        rw [journey_of_found ⟨store, today⟩ hnext, gathered, ih (some id)]
        change _ = walk store today query limit (some id) >>= fun way => pure (id :: way.1, way.2)
        cases walk store today query limit (some id) <;> rfl

/-! ## One call -/

/-- No other parcel has the id of one asked for. -/
theorem IsAsked.eq_of_id_eq {store : Store} {row other : Row Parcel} (hrow : IsAsked store query row)
    (hother : IsAsked store query other) (hid : row.id = other.id) : row = other :=
  Table.eq_of_mem_of_id_eq hrow.1 hother.1 hid

/-- The position under an id is that of the parcel that a call looks up under it. -/
theorem positionAt_eq (moment : Moment) (query : Query) (field : SortField) (id : Int) :
    positionAt moment query field id =
      ((parcelsOf moment.store query.kind query.register).find? fun row => row.id == id).map
        (position moment.store moment.today field) := by
  unfold positionAt parcelsOf
  rw [List.find?_filter]
  congr 2
  funext row
  rw [Bool.eq_iff_iff]
  simp only [decide_eq_true_eq, Bool.and_eq_true, beq_iff_eq]
  exact and_comm

/-- A parcel asked for is looked up under its id. -/
theorem IsAsked.positionAt {row : Row Parcel} (field : SortField)
    (h : IsAsked moment.store query row) : positionAt moment query field row.id =
      some (position moment.store moment.today field row) := by
  have hrow : row ∈ parcelsOf moment.store query.kind query.register :=
    mem_parcelsOf_iff.2 ⟨h.1, h.2.kind, h.2.register⟩
  have hascending : Row.Ascending (parcelsOf moment.store query.kind query.register) :=
    moment.store.parcels.ascending.filter _
  rw [positionAt_eq, Row.find?_of_mem hascending hrow]
  rfl

theorem mem_of_mem_behind {descending : Bool} {anchor : Option Place} {places : List Place}
    {place : Place} (h : place ∈ behind descending anchor places) : place ∈ places := by
  cases anchor with
  | none => exact h
  | some from? => exact (List.mem_filter.1 h).1

/-- What lies behind the place of a cursor stands behind its position. -/
theorem mem_behind_iff_isBehind {cursor : Option Int} {row : Row Parcel} {places : List Place}
    (moment : Moment) (field : SortField) :
    placeOn moment.store moment.today field row ∈ behind (isDescending query.order)
        ((cursor.bind fun id => (parcelsOf moment.store query.kind query.register).find?
          fun row => row.id == id).map (placeOn moment.store moment.today field)) places ↔
      placeOn moment.store moment.today field row ∈ places ∧
        IsBehind query (cursor.bind (positionAt moment query field))
          (position moment.store moment.today field row) := by
  have hanchor : cursor.bind (positionAt moment query field) =
      (cursor.bind fun id => (parcelsOf moment.store query.kind query.register).find?
        fun row => row.id == id).map (position moment.store moment.today field) := by
    cases cursor with
    | none => rfl
    | some id => exact positionAt_eq moment query field id
  rw [hanchor]
  unfold behind IsBehind
  cases cursor.bind fun id => (parcelsOf moment.store query.kind query.register).find?
      fun row => row.id == id with
  | none => simp
  | some anchor => simp [List.mem_filter, precedes_placeOn_iff]

/-- A call is refused, or returns none as no parcel asked for is behind the position of the cursor,
or returns the first of those that are. -/
theorem next_cases (hfield : SortField.resolve? query.kind query.sort = some field)
    (moment : Moment) (cursor : Option Int) :
    (∃ fault, next moment.store moment.today query cursor = .error fault) ∨
    (next moment.store moment.today query cursor = .ok none ∧
      ∀ row, IsAsked moment.store query row →
        ¬IsBehind query (cursor.bind (positionAt moment query field))
          (position moment.store moment.today field row)) ∨
    ∃ row, IsAsked moment.store query row ∧
      next moment.store moment.today query cursor = .ok (some row.id) ∧
      IsBehind query (cursor.bind (positionAt moment query field))
        (position moment.store moment.today field row) ∧
      ∀ other, IsAsked moment.store query other →
        IsBehind query (cursor.bind (positionAt moment query field))
          (position moment.store moment.today field other) →
        other = row ∨ query.Leads (position moment.store moment.today field row)
          (position moment.store moment.today field other) := by
  rcases @next_eq_or_refused moment.store moment.today query field hfield cursor with
    hnext | ⟨fault, hnext, _⟩
  · right
    let placed := placeOn moment.store moment.today field
    let anchor := (cursor.bind fun id =>
      (parcelsOf moment.store query.kind query.register).find? fun row => row.id == id).map placed
    have hfirst := isFirst_firstUnder field (isDescending query.order)
      (behind (isDescending query.order) anchor ((asked moment.store query).map placed))
    have hnext? : next? moment.store moment.today query cursor =
        (firstUnder field (isDescending query.order) (behind (isDescending query.order) anchor
          ((asked moment.store query).map placed))).map (·.id) := by
      unfold next?
      rw [hfield]
      rfl
    have hbehind {row : Row Parcel} (hrow : IsAsked moment.store query row)
        (hposition : IsBehind query (cursor.bind (positionAt moment query field))
          (position moment.store moment.today field row)) :
        placed row ∈ behind (isDescending query.order) anchor
          ((asked moment.store query).map placed) :=
      (mem_behind_iff_isBehind moment field).2
        ⟨List.mem_map_of_mem (mem_asked_iff.2 hrow), hposition⟩
    rw [hnext, hnext?]
    cases hfound : firstUnder field (isDescending query.order) (behind (isDescending query.order)
        anchor ((asked moment.store query).map placed)) with
    | none =>
      rw [hfound] at hfirst
      refine .inl ⟨rfl, fun row hrow hposition => ?_⟩
      have hmem := hbehind hrow hposition
      rw [show behind _ _ _ = [] from hfirst] at hmem
      cases hmem
    | some first =>
      rw [hfound] at hfirst
      obtain ⟨hmem, hleast⟩ := hfirst
      obtain ⟨row, hrow, rfl⟩ := List.mem_map.1 (mem_of_mem_behind hmem)
      have hrow := mem_asked_iff.1 hrow
      refine .inr ⟨row, hrow, rfl, ((mem_behind_iff_isBehind moment field).1 hmem).2, ?_⟩
      intro other hother hposition
      rcases hleast _ (hbehind hother hposition) with h | h
      · exact .inl (hother.eq_of_id_eq hrow (congrArg Place.id h))
      · exact .inr (precedes_placeOn_iff.1 h)
  · exact .inl ⟨fault, hnext⟩

/-! ## All calls -/

variable {cursor : Option Int} {anchor : Option Position} {moments : List Moment}

/-- A parcel returned at a position and kept until the next call is the anchor of that call. -/
theorem anchor_of_kept {id : Int} {call : Call} (hfound : call.found? = some id)
    (hposition : positionAt call.moment query field id = some reached)
    (hkept : (call :: journey query (some id) moments).IsChain (IsKeptUntil query field)) :
    ∀ later ∈ moments.head?, (some id).bind (positionAt later query field) = some reached := by
  intro later hlater
  cases moments with
  | nil => cases hlater
  | cons moment moments =>
    obtain rfl := Option.some.inj hlater
    have hfirst : ∃ answer rest, journey query (some id) (moment :: moments) =
        ⟨moment, answer⟩ :: rest := by
      unfold journey
      dsimp only
      split
      · exact ⟨_, _, rfl⟩
      · exact ⟨_, _, rfl⟩
    obtain ⟨answer, rest, hrest⟩ := hfirst
    rw [hrest] at hkept
    have hstep := (List.isChain_cons_cons.1 hkept).1 id hfound
    exact hstep.trans hposition

/-- The positions at which parcels are returned lie behind that of the cursor, one behind another. -/
theorem exists_positions (hfield : SortField.resolve? query.kind query.sort = some field)
    (hanchor : ∀ moment ∈ moments.head?, cursor.bind (positionAt moment query field) = anchor)
    (hkept : (journey query cursor moments).IsChain (IsKeptUntil query field)) :
    ∃ positions : List Position,
      (journey query cursor moments).filterMap (fun call =>
        call.found?.map (positionAt call.moment query field)) = positions.map some ∧
      (∀ reached ∈ positions, IsBehind query anchor reached) ∧
      positions.Pairwise query.Leads := by
  induction moments generalizing cursor anchor with
  | nil => exact ⟨[], rfl, by simp, .nil⟩
  | cons moment moments ih =>
    have hfrom := hanchor moment rfl
    rcases next_cases hfield moment cursor with ⟨fault, hnext⟩ | ⟨hnext, _⟩ |
      ⟨row, hrow, hnext, hbehind, _⟩
    · rw [journey_of_refused moment hnext]
      exact ⟨[], rfl, by simp, .nil⟩
    · rw [journey_of_none moment hnext]
      exact ⟨[], rfl, by simp, .nil⟩
    · rw [journey_of_found moment hnext] at hkept ⊢
      rw [hfrom] at hbehind
      have hposition := hrow.positionAt field
      have hfound : (⟨moment, .ok (some row.id)⟩ : Call).found? = some row.id := rfl
      have hlater := anchor_of_kept hfound hposition hkept
      obtain ⟨positions, hpositions, hall, hordered⟩ := ih hlater hkept.tail
      refine ⟨position moment.store moment.today field row :: positions, ?_, ?_, ?_⟩
      · rw [List.map_cons, ← hpositions, ← hposition]
        rfl
      · intro reached hmem
        rcases List.mem_cons.1 hmem with rfl | hmem
        · exact hbehind
        · intro from? hfrom?
          exact (hbehind from? hfrom?).trans (hall reached hmem _ rfl)
      · exact List.pairwise_cons.2 ⟨fun reached hmem => hall reached hmem _ rfl, hordered⟩

theorem isBehind_some_iff {from? : Position} :
    IsBehind query (some from?) reached ↔ query.Leads from? reached :=
  ⟨fun h => h from? rfl, fun h _ hsome => Option.some.inj hsome ▸ h⟩

theorem timesReturned_cons_self (id : Int) (moment : Moment) (calls : List Call) :
    timesReturned id (⟨moment, .ok (some id)⟩ :: calls) = timesReturned id calls + 1 := by
  unfold timesReturned
  apply List.countP_cons_of_pos
  exact beq_self_eq_true _

theorem timesReturned_cons_of_ne {id : Int} {call : Call} (h : call.found? ≠ some id)
    (calls : List Call) : timesReturned id (call :: calls) = timesReturned id calls := by
  unfold timesReturned
  apply List.countP_cons_of_neg
  simpa using h

/-- A parcel that is not behind the position of the cursor is not returned. One behind it is
returned once at most, and once indeed if the calls go on until one of them returns none. -/
theorem timesReturned_journey (hfield : SortField.resolve? query.kind query.sort = some field)
    (hanchor : ∀ moment ∈ moments.head?, cursor.bind (positionAt moment query field) = anchor)
    (hkept : (journey query cursor moments).IsChain (IsKeptUntil query field))
    (hasked : IsAskedThroughout query field reached (journey query cursor moments)) :
    (¬IsBehind query anchor reached → timesReturned reached.id (journey query cursor moments) = 0) ∧
    (IsBehind query anchor reached →
      timesReturned reached.id (journey query cursor moments) ≤ 1 ∧
      ((∃ call ∈ journey query cursor moments, call.answer = .ok none) →
        timesReturned reached.id (journey query cursor moments) = 1)) := by
  induction moments generalizing cursor anchor with
  | nil =>
    refine ⟨fun _ => rfl, fun _ => ⟨Nat.zero_le 1, ?_⟩⟩
    rintro ⟨call, hcall, _⟩
    cases hcall
  | cons moment moments ih =>
    have hfrom := hanchor moment rfl
    rcases next_cases hfield moment cursor with ⟨fault, hnext⟩ | ⟨hnext, hnone⟩ |
      ⟨row, hrow, hnext, hbehind, hleast⟩
    · rw [journey_of_refused moment hnext]
      have hzero : timesReturned reached.id [⟨moment, .error fault⟩] = 0 := rfl
      refine ⟨fun _ => hzero, fun _ => ⟨by omega, ?_⟩⟩
      rintro ⟨call, hcall, hanswer⟩
      obtain rfl := List.mem_singleton.1 hcall
      cases hanswer
    · rw [journey_of_none moment hnext] at hasked ⊢
      have hzero : timesReturned reached.id [⟨moment, .ok none⟩] = 0 := rfl
      refine ⟨fun _ => hzero, fun hreached => ?_⟩
      obtain ⟨row, hrow, rfl⟩ := hasked _ (List.mem_singleton_self _)
      rw [← hfrom] at hreached
      exact absurd hreached (hnone row hrow)
    · rw [journey_of_found moment hnext] at hkept hasked ⊢
      rw [hfrom] at hbehind hleast
      have hposition := hrow.positionAt field
      have hfound : (⟨moment, .ok (some row.id)⟩ : Call).found? = some row.id := rfl
      have hlater := anchor_of_kept hfound hposition hkept
      obtain ⟨hnever, honce⟩ := ih hlater hkept.tail fun call hcall =>
        hasked call (List.mem_cons_of_mem _ hcall)
      obtain ⟨other, hother, hat⟩ : ∃ other, IsAsked moment.store query other ∧
          position moment.store moment.today field other = reached := hasked _ List.mem_cons_self
      have hid : other.id = reached.id := congrArg Position.id hat
      by_cases hsame : other = row
      · -- This call returns the parcel, and no later one does: it is not behind itself.
        subst hsame
        rw [hat] at hbehind hnever
        have hrest := hnever (mt isBehind_some_iff.1 (Query.Leads.irrefl reached))
        have hone := timesReturned_cons_self other.id moment (journey query (some other.id) moments)
        rw [hid] at hrest hone ⊢
        rw [hrest] at hone
        exact ⟨fun hnot => absurd hbehind hnot, fun _ => ⟨hone.le, fun _ => hone⟩⟩
      · have hne : row.id ≠ reached.id := fun hne =>
          hsame (hother.eq_of_id_eq hrow (hid.trans hne.symm))
        have hother' : (⟨moment, .ok (some row.id)⟩ : Call).found? ≠ some reached.id :=
          fun h => hne (Option.some.inj h)
        have hskip : timesReturned reached.id
            (⟨moment, .ok (some row.id)⟩ :: journey query (some row.id) moments) =
              timesReturned reached.id (journey query (some row.id) moments) :=
          timesReturned_cons_of_ne hother' _
        rw [hskip]
        constructor
        · intro hnot
          apply hnever
          rw [isBehind_some_iff]
          exact fun hafter => hnot fun from? hfrom? => (hbehind from? hfrom?).trans hafter
        · intro hreached
          have hafter : query.Leads (position moment.store moment.today field row) reached := by
            rw [← hat] at hreached ⊢
            exact (hleast other hother hreached).resolve_left hsame
          obtain ⟨hmost, hall⟩ := honce (isBehind_some_iff.2 hafter)
          refine ⟨hmost, ?_⟩
          rintro ⟨call, hcall, hanswer⟩
          rcases List.mem_cons.1 hcall with rfl | hcall
          · cases hanswer
          · exact hall ⟨call, hcall, hanswer⟩

/-- A walk that starts without a cursor and goes on from each parcel returned, while the store and
the day change at will between the calls: as long as no parcel returned loses its position before
the next call, the positions at which parcels are returned are strictly monotone in the direction
asked for, and a parcel that is asked for at one position throughout is returned at most once, and
exactly once if a call returns none in the end. -/
theorem journey_among_changes (query : Query) (field : SortField)
    (hfield : field.IsNamed query.kind query.sort) (moments : List Moment)
    (hkept : (journey query none moments).IsChain (IsKeptUntil query field)) :
    (∃ positions : List Position,
      (journey query none moments).filterMap (fun call =>
        call.found?.map (positionAt call.moment query field)) = positions.map some ∧
      positions.Pairwise fun a b => if IsBackward query.order then b < a else a < b) ∧
    ∀ kept : Position, IsAskedThroughout query field kept (journey query none moments) →
      timesReturned kept.id (journey query none moments) ≤ 1 ∧
      ((journey query none moments).getLast?.map (·.answer) = some (.ok none) →
        timesReturned kept.id (journey query none moments) = 1) := by
  have hfound := resolve?_eq_some_iff.2 hfield
  have hanchor : ∀ moment ∈ moments.head?,
      (none : Option Int).bind (positionAt moment query field) = none := fun _ _ => rfl
  constructor
  · obtain ⟨positions, hpositions, _, hordered⟩ := exists_positions hfound hanchor hkept
    exact ⟨positions, hpositions, hordered⟩
  · intro kept hasked
    obtain ⟨hmost, honce⟩ := (timesReturned_journey hfound hanchor hkept hasked).2
      (fun _ h => by cases h)
    refine ⟨hmost, fun hlast => honce ?_⟩
    obtain ⟨call, hcall, hanswer⟩ := Option.map_eq_some_iff.1 hlast
    exact ⟨call, List.mem_of_getLast? hcall, hanswer⟩

/-- The parcels of the first register with the check status 1, those that match best first. -/
def newByPriority : Query :=
  ⟨Parcel.wbr, 1, ⟨none, some 1, none, false⟩, some "matchPriority", some "asc"⟩

/-- What five calls meet. The second parcel has a keyword that points to its own code and the third
one a keyword only; the first one has none. After the first call the parcel returned is approved, so
that it is not asked for any longer, and a fourth one has come, with a keyword only. After the
second call the second parcel is gone and the fourth one has lost its keyword. -/
def busyMoments : List Moment :=
  let plain : Parcel := ⟨1, Parcel.wbr, 1, 1, none, none, none, none, none⟩
  let matched : Parcel := { plain with code := some "1111111111" }
  let calm : Store :=
    { Store.empty with
      parcels := Table.empty.insertAll [plain, matched, plain]
      keyWords := Table.empty.insertAll [⟨"gun", 1⟩]
      keyWordCodes := Table.empty.insertAll [⟨1, "1111111111"⟩]
      keyWordLinks := Table.empty.insertAll [⟨2, 1⟩, ⟨3, 1⟩] }
  let crowded : Store :=
    { calm with
      parcels := Table.empty.insertAll [plain, { matched with checkStatus := 301 }, plain, plain]
      keyWordLinks := calm.keyWordLinks.insert ⟨4, 1⟩ }
  let thinned : Store :=
    { crowded with
      parcels := crowded.parcels.eraseIf fun row => row.id == 2
      keyWordLinks := crowded.keyWordLinks.eraseIf fun row => row.val.parcel != 3 }
  [⟨calm, 0⟩, ⟨crowded, 0⟩, ⟨thinned, 1⟩, ⟨thinned, 1⟩, ⟨thinned, 2⟩]

/-- The second parcel comes before the third one and that one before the first one, which is
returned once; the fourth one is returned where it stands in the end. -/
theorem journey_busyMoments :
    (journey newByPriority none busyMoments).map (·.found?) =
      [some 2, some 3, some 1, some 4, none] ∧
    SortField.IsNamed .priority newByPriority.kind newByPriority.sort ∧
    (journey newByPriority none busyMoments).IsChain (IsKeptUntil newByPriority .priority) ∧
    (journey newByPriority none busyMoments).filterMap (fun call =>
        call.found?.map (positionAt call.moment newByPriority .priority)) =
      [some (toLex (Sum.inlₗ 1, 2)), some (toLex (Sum.inlₗ 5, 3)), some (toLex (Sum.inlₗ 8, 1)),
        some (toLex (Sum.inlₗ 8, 4))] ∧
    timesReturned 1 (journey newByPriority none busyMoments) = 1 := by
  have hfield : SortField.IsNamed .priority newByPriority.kind newByPriority.sort :=
    ⟨by decide, nofun, nofun, by decide +kernel⟩
  have hkept : (journey newByPriority none busyMoments).IsChain
      (IsKeptUntil newByPriority .priority) := by decide +kernel
  have hasked : IsAskedThroughout newByPriority .priority (toLex (Sum.inlₗ 8, 1))
      (journey newByPriority none busyMoments) := by decide +kernel
  have hlast : (journey newByPriority none busyMoments).getLast?.map (·.answer) =
      some (.ok none) := by rfl
  have honce := (journey_among_changes newByPriority .priority hfield busyMoments hkept).2
    (toLex (Sum.inlₗ 8, 1)) hasked
  exact ⟨by decide +kernel, hfield, hkept, by decide +kernel, honce.2 hlast⟩

end Clearance.Paging

import Mathlib.Data.Finset.Card
import Mathlib.Data.Finset.Dedup
import Clearance.Proofs.Session.Settled
import Clearance.Service.Operation

/-!
# Match priority by its table

The tier of a parcel is the row of the ranking table that four things pick: whether a keyword is
linked to the parcel, how many codes its keywords carry between them, whether its own code is one of
these, and whether the catalogue has a row with its own code in force that day. Of the keywords the
set of their codes is all that counts, however the codes are spread over them. More codes in force,
or the own code put to a keyword, lead to the same tier or to a better one.
-/

set_option autoImplicit false

namespace Clearance

/-! ## The table -/

/-- The tier of a row of the ranking table, from whether there are keywords, how many codes they
carry, whether the own code is among these, and whether it is in the catalogue. -/
def Parcel.Tier.inTable : Bool → Nat → Bool → Bool → Parcel.Tier
  | true, 1, true, _ => .singleMatch
  | true, _ + 2, true, _ => .multipleMatch
  | true, 1, false, true => .singleKnown
  | true, _ + 2, false, true => .multipleKnown
  | true, 1, false, false => .singleUnknown
  | true, _ + 2, false, false => .multipleUnknown
  | false, _, _, true => .onlyKnown
  | _, _, _, _ => .noMatch

/-- The own code of a parcel without the blank space around it; empty if there is none. -/
def Parcel.ownCode (parcel : Parcel) : String :=
  String.ofList (Text.strip (parcel.code.getD "").toList)

namespace Store

/-- Whether a keyword is linked to a parcel. -/
def IsLinked (store : Store) (parcel keyWord : Int) : Prop :=
  ∃ row ∈ store.keyWordLinks.rows, row.val = ⟨parcel, keyWord⟩

/-- Whether any keyword is linked to a parcel. -/
def HasKeyWords (store : Store) (parcel : Int) : Prop :=
  ∃ row ∈ store.keyWordLinks.rows, row.val.parcel = parcel

instance (store : Store) (parcel keyWord : Int) : Decidable (store.IsLinked parcel keyWord) :=
  inferInstanceAs (Decidable (∃ row ∈ store.keyWordLinks.rows, row.val = ⟨parcel, keyWord⟩))

instance (store : Store) (parcel : Int) : Decidable (store.HasKeyWords parcel) :=
  inferInstanceAs (Decidable (∃ row ∈ store.keyWordLinks.rows, row.val.parcel = parcel))

/-- The codes that the keywords linked to a parcel carry, as a set. -/
def carriedCodes (store : Store) (parcel : Int) : Finset String :=
  ((store.keyWordCodes.rows.filter fun row => store.IsLinked parcel row.val.keyWord).map
    (·.val.code)).toFinset

/-- Whether the catalogue has a row with a code that is in force on a day. -/
def IsInForce (store : Store) (day : Commodity.Day) (code : String) : Prop :=
  ∃ row ∈ store.catalogue.rows, row.val.code = code ∧
    (∀ first ∈ row.val.validFrom, first ≤ day) ∧ ∀ last ∈ row.val.validTo, day < last

instance (store : Store) (day : Commodity.Day) (code : String) :
    Decidable (store.IsInForce day code) :=
  inferInstanceAs (Decidable (∃ row ∈ store.catalogue.rows, row.val.code = code ∧
    (∀ first ∈ row.val.validFrom, first ≤ day) ∧ ∀ last ∈ row.val.validTo, day < last))

/-- The tier of a stored parcel on a day, by the ranking table. -/
def tierOn (store : Store) (day : Commodity.Day) (id : Int) (parcel : Parcel) : Parcel.Tier :=
  Parcel.Tier.inTable (store.HasKeyWords id) (store.carriedCodes id).card
    (decide (parcel.ownCode ≠ "" ∧ parcel.ownCode ∈ store.carriedCodes id))
    (decide (parcel.ownCode ≠ "" ∧ store.IsInForce day parcel.ownCode))

end Store

namespace Parcel.Tier

theorem one_le_number (tier : Tier) : 1 ≤ tier.number := by cases tier <;> decide

theorem two_le_number {tier : Tier} (h : tier ≠ .singleMatch) : 2 ≤ tier.number := by
  cases tier <;> first | exact absurd rfl h | decide

theorem eq_of_inTable_eq_singleMatch {isLinked isAmong isKnown : Bool} {count : Nat}
    (h : inTable isLinked count isAmong isKnown = .singleMatch) : count = 1 ∧ isAmong = true := by
  unfold inTable at h
  split at h <;> first | exact ⟨rfl, rfl⟩ | cases h

/-- A code that is known leads to no worse tier than one that is not. -/
theorem number_inTable_le_of_known (isLinked : Bool) (count : Nat) (isAmong : Bool)
    {isKnown wasKnown : Bool} (h : wasKnown = true → isKnown = true) :
    (inTable isLinked count isAmong isKnown).number ≤
      (inTable isLinked count isAmong wasKnown).number := by
  cases wasKnown with
  | true => rw [h rfl]
  | false =>
    cases isKnown with
    | false => exact Nat.le_refl _
    | true =>
      rcases count with _ | _ | count <;> cases isLinked <;> cases isAmong <;>
        simp [inTable, number]

/-- The own code among those of the keywords leads to no worse tier than before, if it was among
them already or is one more. -/
theorem number_inTable_le_of_among (wasLinked wasAmong wasKnown isKnown : Bool) {before after : Nat}
    (hsome : after ≠ 0) (hsame : wasAmong = true → after = before) :
    (inTable true after true isKnown).number ≤
      (inTable wasLinked before wasAmong wasKnown).number := by
  match after with
  | 0 => exact absurd rfl hsome
  | 1 => exact one_le_number _
  | n + 2 =>
    -- the best tier of all had one code only, the own one
    refine two_le_number fun hbest => ?_
    obtain ⟨hone, hwas⟩ := eq_of_inTable_eq_singleMatch hbest
    have := hsame hwas
    omega

end Parcel.Tier

/-! ## A list of codes as a set -/

/-- The first occurrences in a list are as many as it has members. -/
theorem length_eraseDups {α : Type} [DecidableEq α] (l : List α) :
    l.eraseDups.length = l.toFinset.card := by
  -- what follows the head loses the further occurrences of it first
  induction hlength : l.length using Nat.strong_induction_on generalizing l with
  | _ n ih =>
    cases l with
    | nil => rfl
    | cons head rest =>
      have hshort : (rest.filter fun other => !other == head).length < n := by
        have := List.length_filter_le (fun other => !other == head) rest
        rw [List.length_cons] at hlength
        omega
      have hset : (head :: rest).toFinset =
          insert head (rest.filter fun other => !other == head).toFinset := by
        ext other
        by_cases h : other = head <;> simp [h]
      have hnew : head ∉ (rest.filter fun other => !other == head).toFinset := by simp
      rw [List.eraseDups_cons, List.length_cons, ih _ hshort _ rfl, hset,
        Finset.card_insert_of_notMem hnew]

/-- Ranking a parcel reads the ranking table. -/
theorem Parcel.rank_eq (parcel : Parcel) (linked : List (List String)) (known : String → Bool) :
    Parcel.rank parcel.code linked known =
      Tier.inTable (!linked.isEmpty) linked.flatten.toFinset.card
        (parcel.ownCode != "" && linked.flatten.contains parcel.ownCode)
        (parcel.ownCode != "" && known parcel.ownCode) := by
  have hlength := length_eraseDups linked.flatten
  have hcontains : linked.flatten.eraseDups.contains parcel.ownCode =
      linked.flatten.contains parcel.ownCode := by
    rw [Bool.eq_iff_iff, List.contains_iff_mem, List.contains_iff_mem, List.mem_eraseDups]
  unfold rank
  dsimp only
  rw [← ownCode, hcontains, ← hlength]
  cases linked with
  | nil => cases hknown : parcel.ownCode != "" && known parcel.ownCode <;> rfl
  | cons codes rest =>
    rw [List.isEmpty_cons, if_neg Bool.false_ne_true]
    generalize (parcel.ownCode != "" && (codes :: rest).flatten.contains parcel.ownCode) = isAmong
    generalize (parcel.ownCode != "" && known parcel.ownCode) = isKnown
    -- no code, one code, or more
    cases (codes :: rest).flatten.eraseDups with
    | nil => rfl
    | cons first others =>
      cases others with
      | nil => cases isAmong <;> cases isKnown <;> rfl
      | cons second others => cases isAmong <;> cases isKnown <;> rfl

/-! ## What the table reads from the store -/

theorem Commodity.CatalogueCode.isInForce_iff (row : CatalogueCode) (day : Day) :
    row.isInForce day = true ↔
      (∀ first ∈ row.validFrom, first ≤ day) ∧ ∀ last ∈ row.validTo, day < last := by
  unfold isInForce
  rw [Bool.and_eq_true]
  cases row.validFrom <;> cases row.validTo <;> simp

namespace Store

variable {store : Store} {id : Int}

theorem mem_linkedKeyWords {keyWord : Int} :
    keyWord ∈ store.linkedRules .keyWord id ↔ store.IsLinked id keyWord := by
  unfold linkedRules
  rw [List.mem_map]
  constructor
  · rintro ⟨row, hrow, rfl⟩
    rw [List.mem_filter, beq_iff_eq] at hrow
    refine ⟨row, hrow.1, ?_⟩
    rw [← hrow.2]
  · rintro ⟨row, hrow, hval⟩
    refine ⟨row, List.mem_filter.2 ⟨hrow, ?_⟩, ?_⟩
    · rw [hval, beq_self_eq_true]
    · rw [hval]

theorem mem_carriedCodes {code : String} : code ∈ store.carriedCodes id ↔
    ∃ keyWord, store.IsLinked id keyWord ∧ ∃ row ∈ store.keyWordCodes.rows,
      row.val = ⟨keyWord, code⟩ := by
  simp only [carriedCodes, List.mem_toFinset, List.mem_map, List.mem_filter, decide_eq_true_eq]
  constructor
  · rintro ⟨row, ⟨hrow, hlinked⟩, rfl⟩
    exact ⟨row.val.keyWord, hlinked, row, hrow, rfl⟩
  · rintro ⟨keyWord, hlinked, row, hrow, hval⟩
    refine ⟨row, ⟨hrow, ?_⟩, ?_⟩ <;> rw [hval]
    exact hlinked

/-- The codes that a parcel's keywords imply one by one are those that they carry together. -/
theorem toFinset_flatten_impliedCodes :
    (store.impliedCodes id).flatten.toFinset = store.carriedCodes id := by
  ext code
  simp only [impliedCodes, List.mem_toFinset, List.mem_flatten, List.mem_map, mem_linkedKeyWords,
    mem_carriedCodes]
  constructor
  · rintro ⟨_, ⟨keyWord, hlinked, rfl⟩, hcode⟩
    obtain ⟨row, hrow, rfl⟩ := List.mem_map.1 hcode
    rw [List.mem_filter, beq_iff_eq] at hrow
    refine ⟨keyWord, hlinked, row, hrow.1, ?_⟩
    rw [← hrow.2]
  · rintro ⟨keyWord, hlinked, row, hrow, hval⟩
    refine ⟨_, ⟨keyWord, hlinked, rfl⟩, List.mem_map.2 ⟨row, List.mem_filter.2 ⟨hrow, ?_⟩, ?_⟩⟩
    · rw [hval, beq_self_eq_true]
    · rw [hval]

theorem not_isEmpty_impliedCodes :
    (!(store.impliedCodes id).isEmpty) = decide (store.HasKeyWords id) := by
  rw [Bool.eq_iff_iff, decide_eq_true_iff]
  simp [impliedCodes, linkedRules, links, HasKeyWords]

theorem contains_codesInForce (day : Commodity.Day) (code : String) :
    (store.codesInForce day).contains code = decide (store.IsInForce day code) := by
  rw [Bool.eq_iff_iff, List.contains_iff_mem, decide_eq_true_iff]
  unfold codesInForce
  rw [List.mem_map]
  constructor
  · rintro ⟨row, hrow, hcode⟩
    rw [List.mem_filter] at hrow
    exact ⟨row, hrow.1, hcode, (Commodity.CatalogueCode.isInForce_iff row.val day).1 hrow.2⟩
  · rintro ⟨row, hrow, hcode, hdays⟩
    refine ⟨row, List.mem_filter.2 ⟨hrow, ?_⟩, hcode⟩
    exact (Commodity.CatalogueCode.isInForce_iff row.val day).2 hdays

/-- The tier that is computed is that of the table. -/
theorem tierOf_eq (day : Commodity.Day) (parcel : Parcel) :
    Paging.tierOf store (store.codesInForce day).contains ⟨id, parcel⟩ =
      store.tierOn day id parcel := by
  have hamong : (store.impliedCodes id).flatten.contains parcel.ownCode =
      decide (parcel.ownCode ∈ store.carriedCodes id) := by
    rw [Bool.eq_iff_iff, List.contains_iff_mem, decide_eq_true_iff,
      ← toFinset_flatten_impliedCodes, List.mem_toFinset]
  unfold Paging.tierOf tierOn
  rw [Parcel.rank_eq, not_isEmpty_impliedCodes, toFinset_flatten_impliedCodes, hamong,
    contains_codesInForce]
  have hown : (parcel.ownCode != "") = decide (parcel.ownCode ≠ "") := by
    rw [Bool.eq_iff_iff, bne_iff_ne, decide_eq_true_iff]
  rw [hown, ← Bool.decide_and, ← Bool.decide_and]

/-! ## What adds to the codes that are carried -/

/-- The codes of a keyword, as a set. -/
def codesOf (store : Store) (keyWord : Int) : Finset String :=
  ((store.keyWordCodes.rows.filter fun row => row.val.keyWord == keyWord).map (·.val.code)).toFinset

variable {before after : Store}

theorem IsLinked.hasKeyWords {keyWord : Int} (h : store.IsLinked id keyWord) :
    store.HasKeyWords id := by
  obtain ⟨row, hrow, hval⟩ := h
  exact ⟨row, hrow, congrArg Link.parcel hval⟩

theorem mem_codesOf {keyWord : Int} {code : String} : code ∈ store.codesOf keyWord ↔
    ∃ row ∈ store.keyWordCodes.rows, row.val = ⟨keyWord, code⟩ := by
  simp only [codesOf, List.mem_toFinset, List.mem_map, List.mem_filter, beq_iff_eq]
  constructor
  · rintro ⟨row, ⟨hrow, rfl⟩, rfl⟩
    exact ⟨row, hrow, rfl⟩
  · rintro ⟨row, hrow, hval⟩
    refine ⟨row, ⟨hrow, ?_⟩, ?_⟩ <;> rw [hval]

/-- What a new code of a keyword comes to. -/
theorem addKeyWordCode_ok {entry : KeyWordCode} {outcome : Change Int}
    (h : before.addKeyWordCode entry = .ok outcome) :
    outcome.store = { before with keyWordCodes := before.keyWordCodes.insert entry } := by
  obtain ⟨_, _, hadded⟩ := exists_of_bind h
  dsimp only at hadded
  split at hadded
  · cases hadded
  · cases hadded
    rfl

/-- What a new link to a keyword comes to. -/
theorem addKeyWordLink_ok {link : Link} {outcome : Change Int}
    (h : before.addLink .keyWord link = .ok outcome) :
    outcome.store = { before with keyWordLinks := before.keyWordLinks.insert link } := by
  obtain ⟨_, _, hadded⟩ := exists_of_bind h
  dsimp only at hadded
  split at hadded
  · cases hadded
  · cases hadded
    rfl

/-- A code put to a keyword of a parcel is one more of the codes carried. -/
theorem carriedCodes_insertCode {keyWord : Int} (hlinked : before.IsLinked id keyWord)
    (code : String) : carriedCodes { before with
      keyWordCodes := before.keyWordCodes.insert ⟨keyWord, code⟩ } id =
        insert code (before.carriedCodes id) := by
  ext other
  rw [Finset.mem_insert, mem_carriedCodes, mem_carriedCodes]
  constructor
  · rintro ⟨keyWord', hlinked', row, hrow, hval⟩
    rcases Table.mem_insert.1 hrow with hold | rfl
    · exact .inr ⟨keyWord', hlinked', row, hold, hval⟩
    · cases hval
      exact .inl rfl
  · rintro (rfl | ⟨keyWord', hlinked', row, hrow, hval⟩)
    · exact ⟨keyWord, hlinked, _, Table.mem_insert.2 (.inr rfl), rfl⟩
    · exact ⟨keyWord', hlinked', row, Table.mem_insert.2 (.inl hrow), hval⟩

/-- After a new link the keywords of a parcel are the old ones and the one linked to it. -/
theorem isLinked_insertLink {keyWord other : Int} :
    IsLinked { before with keyWordLinks := before.keyWordLinks.insert ⟨id, keyWord⟩ } id other ↔
      other = keyWord ∨ before.IsLinked id other := by
  constructor
  · rintro ⟨row, hrow, hval⟩
    rcases Table.mem_insert.1 hrow with hold | rfl
    · exact .inr ⟨row, hold, hval⟩
    · cases hval
      exact .inl rfl
  · rintro (rfl | ⟨row, hrow, hval⟩)
    · exact ⟨_, Table.mem_insert.2 (.inr rfl), rfl⟩
    · exact ⟨row, Table.mem_insert.2 (.inl hrow), hval⟩

/-- A keyword linked to a parcel adds its codes to those carried. -/
theorem carriedCodes_insertLink (keyWord : Int) :
    carriedCodes { before with keyWordLinks := before.keyWordLinks.insert ⟨id, keyWord⟩ } id =
      before.codesOf keyWord ∪ before.carriedCodes id := by
  ext code
  rw [Finset.mem_union, mem_carriedCodes, mem_carriedCodes, mem_codesOf]
  constructor
  · rintro ⟨other, hlinked, hrow⟩
    rcases isLinked_insertLink.1 hlinked with rfl | hlinked
    · exact .inl hrow
    · exact .inr ⟨other, hlinked, hrow⟩
  · rintro (hrow | ⟨other, hlinked, hrow⟩)
    · exact ⟨keyWord, isLinked_insertLink.2 (.inl rfl), hrow⟩
    · exact ⟨other, isLinked_insertLink.2 (.inr hlinked), hrow⟩

/-! ## What leads to no worse tier -/

variable {day later : Commodity.Day} {other : Int} {parcel twin : Parcel}

/-- Parcels with one own code have one tier, however their keywords spread the codes. -/
theorem tierOn_congr (hown : twin.ownCode = parcel.ownCode)
    (hlinked : before.HasKeyWords id ↔ after.HasKeyWords other)
    (hcodes : after.carriedCodes other = before.carriedCodes id)
    (hknown : before.IsInForce day parcel.ownCode ↔ after.IsInForce later parcel.ownCode) :
    after.tierOn later other twin = before.tierOn day id parcel := by
  unfold tierOn
  rw [hown, hcodes]
  simp only [hlinked, hknown]

/-- Codes that come into force lead to no worse tier. -/
theorem number_tierOn_le_of_inForce (hown : twin.ownCode = parcel.ownCode)
    (hlinked : before.HasKeyWords id ↔ after.HasKeyWords other)
    (hcodes : after.carriedCodes other = before.carriedCodes id)
    (hknown : before.IsInForce day parcel.ownCode → after.IsInForce later parcel.ownCode) :
    (after.tierOn later other twin).number ≤ (before.tierOn day id parcel).number := by
  unfold tierOn
  rw [hown, hcodes]
  simp only [hlinked]
  refine Parcel.Tier.number_inTable_le_of_known _ _ _ fun hwas => ?_
  rw [decide_eq_true_iff] at hwas ⊢
  exact ⟨hwas.1, hknown hwas.2⟩

/-- The own code as one more of the codes carried leads to no worse tier. -/
theorem number_tierOn_le_of_insert (hown : twin.ownCode = parcel.ownCode)
    (hblank : parcel.ownCode ≠ "") (hlinked : after.HasKeyWords other)
    (hcodes : after.carriedCodes other = insert parcel.ownCode (before.carriedCodes id)) :
    (after.tierOn later other twin).number ≤ (before.tierOn day id parcel).number := by
  have hamong : twin.ownCode ≠ "" ∧ twin.ownCode ∈ after.carriedCodes other := by
    rw [hown, hcodes]
    exact ⟨hblank, Finset.mem_insert_self _ _⟩
  have hsame
      (hwas : decide (parcel.ownCode ≠ "" ∧ parcel.ownCode ∈ before.carriedCodes id) = true) :
      (after.carriedCodes other).card = (before.carriedCodes id).card := by
    rw [decide_eq_true_iff] at hwas
    rw [hcodes, Finset.insert_eq_of_mem hwas.2]
  unfold tierOn
  rw [decide_eq_true hlinked, decide_eq_true hamong]
  exact Parcel.Tier.number_inTable_le_of_among _ _ _ _
    (Finset.card_ne_zero_of_mem hamong.2) hsame

end Store

/-! ## The priority answered -/

/-- In a session that takes statements there is a parcel under an id, and every keyword that is
linked to it. -/
structure Session.HasParcel (s : Session) (id : Int) (parcel : Parcel) : Prop where
  isWhole : s.isBroken = false
  stored : s.store.parcels.find? id = some parcel
  keyWords : ∀ keyWord, s.store.IsLinked id keyWord → s.store.keyWords.has keyWord = true

/-- Whether the match priority answered for a parcel in a session is a tier. -/
def Session.HasTier (s : Session) (id : Int) (tier : Parcel.Tier) : Prop :=
  Service.priority id none s = (.ok (.tier tier), s)

namespace Session

variable {s t : Session} {id : Int} {parcel : Parcel}

/-- Outside a block every keyword that is linked to a parcel is there. -/
theorem IsSettled.hasParcel (hs : s.IsSettled) (hblock : s.inBlock = false)
    (hstored : s.store.parcels.find? id = some parcel) : s.HasParcel id parcel := by
  obtain ⟨hwhole, -, hsound⟩ := hs hblock
  refine ⟨hwhole, hstored, ?_⟩
  rintro keyWord ⟨row, hrow, hval⟩
  have hrule := (hsound.links .keyWord row hrow).2
  rw [hval] at hrule
  exact hrule

/-- A parcel that is stored has the tier of the table. -/
theorem HasParcel.hasTier (h : s.HasParcel id parcel) :
    s.HasTier id (s.store.tierOn s.today id parcel) := by
  have hall : (s.store.linkedRules .keyWord id).all (s.store.hasRule .keyWord) = true :=
    List.all_eq_true.2 fun keyWord hlinked =>
      h.keyWords keyWord (Store.mem_linkedKeyWords.1 hlinked)
  unfold HasTier Service.priority
  rw [Proc.bind_of_ok (Proc.ask_apply _ s), Proc.query_of_whole _ h.isWhole, h.stored]
  dsimp only
  rw [if_pos hall, ← Store.tierOf_eq]
  rfl

/-- A statement that goes through leaves the day as it is. -/
theorem today_of_execute {α : Type} {change : Store → Except Fault (Change α)} {a : α}
    (h : Proc.execute change s = (.ok a, t)) : t.today = s.today := by
  rcases Proc.execute_cases change s with
    ⟨_, _, hrun, _⟩ | ⟨outcome, _, _, ⟨_, hrun⟩ | ⟨_, _, hrun⟩⟩
  · rw [hrun] at h
    cases h
  · rw [hrun] at h
    cases h
    rfl
  · obtain ⟨generations, hbump⟩ :=
      Session.bumpAll_eq { s with store := outcome.store } outcome.touched
    rw [hrun, hbump] at h
    cases h
    rfl

/-- What a statement that answers with an id comes to, if it goes through. -/
theorem exists_of_execute_id {change : Store → Except Fault (Change Int)} {answer : Answer}
    (h : (Answer.id <$> Proc.execute change) s = (.ok answer, t)) :
    ∃ outcome, change s.store = .ok outcome ∧ t.store = outcome.store ∧ t.isBroken = false ∧
      t.today = s.today := by
  obtain ⟨id, u, hrun, hrest⟩ := Proc.bind_ok h
  cases hrest
  obtain ⟨outcome, hchange, hstore, hwhole, -⟩ := Proc.execute_ok hrun
  exact ⟨outcome, hchange, hstore, hwhole, today_of_execute hrun⟩

/-- A parcel stays while a keyword is given a code. -/
theorem HasParcel.addKeyWordCode (h : s.HasParcel id parcel) {entry : KeyWordCode} {answer : Answer}
    (hrun : Service.perform (.addKeyWordCode entry) s = (.ok answer, t)) :
    t.HasParcel id parcel ∧
      t.store = { s.store with keyWordCodes := s.store.keyWordCodes.insert entry } := by
  obtain ⟨outcome, hchange, hstore, hwhole, -⟩ := exists_of_execute_id hrun
  rw [Store.addKeyWordCode_ok hchange] at hstore
  refine ⟨⟨hwhole, ?_, ?_⟩, hstore⟩ <;> rw [hstore]
  · exact h.stored
  · exact h.keyWords

/-- A parcel stays while a keyword that is there is linked to it. -/
theorem HasParcel.link (h : s.HasParcel id parcel) {keyWord : Int} {answer : Answer}
    (hkeyWord : s.store.keyWords.has keyWord = true)
    (hrun : Service.perform (.link id ⟨.keyWord, keyWord⟩) s = (.ok answer, t)) :
    t.HasParcel id parcel ∧
      t.store = { s.store with keyWordLinks := s.store.keyWordLinks.insert ⟨id, keyWord⟩ } := by
  obtain ⟨outcome, hchange, hstore, hwhole, -⟩ := exists_of_execute_id hrun
  rw [Store.addKeyWordLink_ok hchange] at hstore
  refine ⟨⟨hwhole, ?_, ?_⟩, hstore⟩ <;> rw [hstore]
  · exact h.stored
  · intro other hlinked
    rcases Store.isLinked_insertLink.1 hlinked with rfl | hlinked
    · exact hkeyWord
    · exact h.keyWords other hlinked

end Session

/-- The match priority of a stored parcel is the tier of the ranking table. Any other parcel at any
other moment with the same own code, known or not alike, and with keywords that carry the same codes
between them has the same tier; with more codes in force it has no worse one. Putting the own code
to a linked keyword, or linking a keyword that carries this code only, leads to no worse tier. -/
theorem Session.priority_by_table {s : Session} {id : Int} {parcel : Parcel}
    (h : s.HasParcel id parcel) :
    let tier := s.store.tierOn s.today id parcel
    s.HasTier id tier ∧
    (∀ (t : Session) (other : Int) (twin : Parcel), t.HasParcel other twin →
      twin.ownCode = parcel.ownCode →
      (s.store.HasKeyWords id ↔ t.store.HasKeyWords other) →
      t.store.carriedCodes other = s.store.carriedCodes id →
      (s.store.IsInForce s.today parcel.ownCode ↔ t.store.IsInForce t.today parcel.ownCode) →
      t.HasTier other tier) ∧
    (∀ (t : Session) (other : Int) (twin : Parcel), t.HasParcel other twin →
      twin.ownCode = parcel.ownCode →
      (s.store.HasKeyWords id ↔ t.store.HasKeyWords other) →
      t.store.carriedCodes other = s.store.carriedCodes id →
      (∀ code, s.store.IsInForce s.today code → t.store.IsInForce t.today code) →
      ∃ after : Parcel.Tier, t.HasTier other after ∧ after.number ≤ tier.number) ∧
    (∀ (keyWord : Int) (answer : Answer) (t : Session), parcel.ownCode ≠ "" →
      s.store.IsLinked id keyWord →
      Service.perform (.addKeyWordCode ⟨keyWord, parcel.ownCode⟩) s = (.ok answer, t) →
      ∃ after : Parcel.Tier, t.HasTier id after ∧ after.number ≤ tier.number) ∧
    (∀ (keyWord : Int) (answer : Answer) (t : Session), parcel.ownCode ≠ "" →
      s.store.keyWords.has keyWord = true → s.store.codesOf keyWord = {parcel.ownCode} →
      Service.perform (.link id ⟨.keyWord, keyWord⟩) s = (.ok answer, t) →
      ∃ after : Parcel.Tier, t.HasTier id after ∧ after.number ≤ tier.number) := by
  refine ⟨h.hasTier, ?_, ?_, ?_, ?_⟩
  · intro t other twin htwin hown hlinked hcodes hknown
    have htier := htwin.hasTier
    rwa [Store.tierOn_congr hown hlinked hcodes hknown] at htier
  · intro t other twin htwin hown hlinked hcodes hforce
    exact ⟨_, htwin.hasTier, Store.number_tierOn_le_of_inForce hown hlinked hcodes (hforce _)⟩
  · intro keyWord answer t hblank hlinked hrun
    obtain ⟨hparcel, hstore⟩ := h.addKeyWordCode hrun
    refine ⟨_, hparcel.hasTier, Store.number_tierOn_le_of_insert rfl hblank ?_ ?_⟩ <;> rw [hstore]
    · exact hlinked.hasKeyWords
    · exact Store.carriedCodes_insertCode hlinked _
  · intro keyWord answer t hblank hkeyWord honly hrun
    obtain ⟨hparcel, hstore⟩ := h.link hkeyWord hrun
    refine ⟨_, hparcel.hasTier, Store.number_tierOn_le_of_insert rfl hblank ?_ ?_⟩ <;> rw [hstore]
    · exact (Store.isLinked_insertLink.2 (.inl rfl)).hasKeyWords
    · rw [Store.carriedCodes_insertLink, honly, Finset.insert_eq]

/-- A parcel that declares a code. -/
def Parcel.declaring (code : String) : Parcel :=
  ⟨1, Parcel.wbr, 1, 1, some code, none, none, none, none⟩

/-- Two parcels that declare one code. Their keywords carry the same two other codes, and the own
one is in force from the second day on. -/
def twins : Store :=
  { Store.empty with
    registers := Table.empty.insert ⟨"imported", Parcel.wbr⟩
    parcels := Table.empty.insertAll
      [Parcel.declaring "3333333333", Parcel.declaring " 3333333333 "]
    keyWords := Table.empty.insertAll [⟨"gun", 1⟩, ⟨"toy", 1⟩, ⟨"toy gun", 1⟩, ⟨"doll", 1⟩]
    keyWordCodes := Table.empty.insertAll [⟨1, "1111111111"⟩, ⟨2, "2222222222"⟩,
      ⟨3, "2222222222"⟩, ⟨3, "1111111111"⟩, ⟨4, "3333333333"⟩]
    catalogue := Table.empty.insert ⟨"3333333333", some 19738, none⟩
    keyWordLinks := Table.empty.insertAll [⟨1, 1⟩, ⟨1, 2⟩, ⟨2, 3⟩] }

/-- The session with the two parcels some seconds after its start. -/
def twinsAt (seconds : Int) : Session :=
  { Session.start (.engine .null) .none with
    clock := seconds
    store := twins }

theorem hasParcel_twinsAt (seconds : Int) {id : Int} {parcel : Parcel}
    (hstored : twins.parcels.find? id = some parcel) : (twinsAt seconds).HasParcel id parcel := by
  have hsound : twins.IsSound := (Store.isSound_iff _).1 (by decide +kernel)
  exact Session.IsSettled.hasParcel (fun _ => ⟨rfl, rfl, hsound⟩) rfl hstored

/-- Both parcels have the last tier of those with several codes. A day later the first one has none
worse, nor if the own code is put to a keyword of it or the keyword with this code linked to it. -/
theorem Session.priority_of_twins :
    (twinsAt 0).HasTier 1 .multipleUnknown ∧ (twinsAt 0).HasTier 2 .multipleUnknown ∧
    (∃ after : Parcel.Tier, (twinsAt 86400).HasTier 1 after ∧ after.number ≤ 6) ∧
    (∃ after : Parcel.Tier, (Service.perform (.addKeyWordCode ⟨1, "3333333333"⟩)
      (twinsAt 0)).2.HasTier 1 after ∧ after.number ≤ 6) ∧
    ∃ after : Parcel.Tier, (Service.perform (.link 1 ⟨.keyWord, 4⟩) (twinsAt 0)).2.HasTier 1 after ∧
      after.number ≤ 6 := by
  have hfirst (seconds : Int) : (twinsAt seconds).HasParcel 1 (Parcel.declaring "3333333333") :=
    hasParcel_twinsAt seconds (by decide +kernel)
  have hsecond : (twinsAt 0).HasParcel 2 (Parcel.declaring " 3333333333 ") :=
    hasParcel_twinsAt 0 (by decide +kernel)
  have htier : (twinsAt 0).store.tierOn (twinsAt 0).today 1 (Parcel.declaring "3333333333") =
      .multipleUnknown := by decide +kernel
  have hall := Session.priority_by_table (hfirst 0)
  dsimp only at hall
  rw [htier] at hall
  obtain ⟨hone, htwin, hforce, hcode, hlink⟩ := hall
  have hblank : (Parcel.declaring "3333333333").ownCode ≠ "" := by decide +kernel
  refine ⟨hone, htwin _ _ _ hsecond (by decide +kernel) (by decide +kernel) (by decide +kernel)
    (by decide +kernel), hforce _ _ _ (hfirst 86400) rfl .rfl rfl ?_, ?_, ?_⟩
  · have hopen : ∀ row ∈ twins.catalogue.rows, row.val.validTo = none := by decide +kernel
    rintro code ⟨row, hrow, hrowCode, hfrom, -⟩
    refine ⟨row, hrow, hrowCode, fun first h => (hfrom first h).trans (by decide +kernel), ?_⟩
    rw [hopen row hrow]
    exact fun last h => nomatch h
  · have hcoded : (Service.perform (.addKeyWordCode ⟨1, "3333333333"⟩)
        (twinsAt 0)).1.toOption.isSome = true := by decide +kernel
    obtain ⟨answer, t, hrun⟩ := Proc.exists_ok hcoded
    rw [hrun]
    exact hcode 1 answer t hblank (by decide +kernel) hrun
  · have hlinked : (Service.perform (.link 1 ⟨.keyWord, 4⟩) (twinsAt 0)).1.toOption.isSome =
        true := by decide +kernel
    obtain ⟨answer, t, hrun⟩ := Proc.exists_ok hlinked
    rw [hrun]
    exact hlink 4 answer t hblank (by decide +kernel) (by decide +kernel) hrun

end Clearance

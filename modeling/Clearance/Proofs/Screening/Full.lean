import Clearance.Proofs.Screening.Parcel
import Clearance.Proofs.Session.Settled
import Clearance.Screening.Loading

/-!
# Full screening

Screening a parcel with a context compiled from the rules of the store links it to exactly the rules
that match it and sets the check status that follows from these links. Nothing outside the parcel
changes, and nothing that was linked or decided before has a part in it, except that a parcel which
the partner has marked is left alone.
-/

set_option autoImplicit false

namespace Clearance.Screening

open Clearance.Parcel (CheckStatus)

/-- A context that compares parcels with the rules of a store as they are now, and with what an
engine reports. -/
structure Context.IsCurrent (engine : Word.Engine) (store : Store) (context : Context) : Prop where
  words : context.words = some ⟨Word.compile (store.rules .stopWords),
    Word.compile (store.rules .keyWords), engine⟩
  prefixes : ∃ rules, store.prefixRules = .ok rules ∧ context.prefixes = some (.ofList rules)

/-- An outcome that names exactly the rules of a store that match a parcel, each of them once, and
the check status that follows from them. -/
structure Outcome.IsOf (engine : Word.Engine) (store : Store) (parcel : Parcel)
    (outcome : Outcome) : Prop where
  nodup : ∀ kind, (outcome.rules kind).Nodup
  stopWords : ∀ rule, rule ∈ outcome.stopWords ↔
    Word.IsFound engine (store.rules .stopWords) parcel.texts rule
  keyWords : ∀ rule, rule ∈ outcome.keyWords ↔
    Word.IsFound engine (store.rules .keyWords) parcel.texts rule
  prefixes : ∀ rule, rule ∈ outcome.prefixes ↔ store.IsMatched parcel.code rule
  noPrefix : Commodity.hasCodeFormat parcel.code = false → outcome.prefixes = []
  checkStatus : outcome.checkStatus = (CheckStatus.ofFindings
    (!Commodity.hasCodeFormat parcel.code) (!outcome.stopWords.isEmpty)
    (!outcome.prefixes.isEmpty)).number

/-! ## The rules found exist -/

theorem mem_rules_iff {store : Store} {vocabulary : Word.Vocabulary} {rule : Word.Rule} :
    rule ∈ store.rules vocabulary ↔ ∃ row ∈ (store.words vocabulary).rows,
      rule = ⟨row.id, some row.val.word, row.val.matchType⟩ := by
  unfold Store.rules
  simp only [List.mem_map, List.mem_mergeSort, eq_comm]

theorem has_of_isFound {engine : Word.Engine} {store : Store} {vocabulary : Word.Vocabulary}
    {texts : List String} {id : Int}
    (h : Word.IsFound engine (store.rules vocabulary) texts id) :
    (store.words vocabulary).has id = true := by
  obtain ⟨rule, hrule, rfl⟩ := List.mem_map.1 h.mem_ids
  obtain ⟨row, hrow, rfl⟩ := mem_rules_iff.1 hrule
  exact Table.has_eq_true_iff.2 ⟨row, hrow, rfl⟩

/-- An outcome names rules that exist. -/
theorem Outcome.IsOf.hasRule {engine : Word.Engine} {store : Store} {parcel : Parcel}
    {outcome : Outcome} (h : outcome.IsOf engine store parcel) (kind : LinkKind) :
    ∀ rule ∈ outcome.rules kind, store.hasRule kind rule = true := by
  intro rule hrule
  cases kind with
  | stopWord => exact has_of_isFound ((h.stopWords rule).1 hrule)
  | keyWord => exact has_of_isFound ((h.keyWords rule).1 hrule)
  | codePrefix =>
    obtain ⟨row, hrow, hid, _⟩ := (h.prefixes rule).1 hrule
    exact Table.has_eq_true_iff.2 ⟨row, hrow, hid⟩

/-! ## The outcome with a current context -/

variable {engine : Word.Engine} {context : Context} {store : Store} {id : Int} {record : Parcel}

theorem Context.IsCurrent.suffices (h : context.IsCurrent engine store) (scope : Scope) :
    context.suffices scope = true := by
  obtain ⟨rules, _, hprefixes⟩ := h.prefixes
  unfold Context.suffices
  rw [h.words, hprefixes]
  simp

theorem Context.IsCurrent.nodup_prefixes (h : context.IsCurrent engine store)
    (code : Option String) :
    ∀ index, context.prefixes = some index → (Commodity.classify code index).ids.Nodup := by
  obtain ⟨rules, hrules, hprefixes⟩ := h.prefixes
  intro index hindex
  obtain rfl := Option.some.inj (hprefixes.symm.trans hindex)
  exact Store.nodup_ids_classify hrules code

theorem isOf_outcomeOf (h : context.IsCurrent engine store) (id : Int) (record : Parcel) :
    (outcomeOf context .full id record store).IsOf engine store record := by
  obtain ⟨rules, hrules, hprefixes⟩ := h.prefixes
  have hstop : (outcomeOf context .full id record store).stopWords =
      foundIds engine (Word.compile (store.rules .stopWords)) record.texts := by
    simp [outcomeOf, outcomeWith, rulesAfter, Scope.hasWords, h.words]
  have hkey : (outcomeOf context .full id record store).keyWords =
      foundIds engine (Word.compile (store.rules .keyWords)) record.texts := by
    simp [outcomeOf, outcomeWith, rulesAfter, Scope.hasWords, h.words]
  have hmatches : (outcomeOf context .full id record store).prefixes =
      (Commodity.classify record.code (.ofList rules)).ids := by
    simp [outcomeOf, outcomeWith, rulesAfter, Scope.hasCodes, hprefixes]
  have hmatched : ∀ rule, rule ∈ (outcomeOf context .full id record store).prefixes ↔
      store.IsMatched record.code rule := by
    intro rule
    rw [hmatches]
    exact Store.mem_ids_classify_iff hrules
  refine ⟨?_, ?_, ?_, hmatched, ?_, rfl⟩
  · intro kind
    cases kind with
    | stopWord =>
      show (outcomeOf context .full id record store).stopWords.Nodup
      rw [hstop]
      exact nodup_foundIds _ _ _
    | keyWord =>
      show (outcomeOf context .full id record store).keyWords.Nodup
      rw [hkey]
      exact nodup_foundIds _ _ _
    | codePrefix =>
      show (outcomeOf context .full id record store).prefixes.Nodup
      rw [hmatches]
      exact Store.nodup_ids_classify hrules record.code
  · intro rule
    rw [hstop]
    exact mem_foundIds_iff
  · intro rule
    rw [hkey]
    exact mem_foundIds_iff
  · intro hcode
    apply List.eq_nil_iff_forall_not_mem.2
    intro rule hrule
    have hformat := ((hmatched rule).1 hrule).hasCodeFormat
    rw [hcode] at hformat
    cases hformat

/-- With all rules at hand the outcome follows from the texts and the code of a parcel alone. -/
theorem outcomeOf_congr (h : context.IsCurrent engine store) (other : Store) (status : Int) :
    outcomeOf context .full id { record with checkStatus := status } other =
      outcomeOf context .full id record store := by
  obtain ⟨rules, _, hprefixes⟩ := h.prefixes
  unfold outcomeOf
  rw [h.words, hprefixes]
  have hrules : rulesAfter (some ⟨Word.compile (store.rules .stopWords),
        Word.compile (store.rules .keyWords), engine⟩) (some (.ofList rules)) id
          { record with checkStatus := status } other =
      rulesAfter (some ⟨Word.compile (store.rules .stopWords),
        Word.compile (store.rules .keyWords), engine⟩) (some (.ofList rules)) id record store := by
    funext kind
    cases kind <;> rfl
  simp only [Scope.hasWords, Scope.hasCodes, if_true]
  rw [hrules]
  rfl

/-! ## In a session -/

variable {s : Session}

theorem screen_eq_screenWith (h : context.IsCurrent engine s.store) (scope : Scope) (id : Int) :
    screen scope (some context) id s = screenWith context scope id s := by
  unfold screen Strikes.screen contextFor
  dsimp only
  rw [if_pos (h.suffices scope)]
  rfl

theorem screen_of_isMarked (h : context.IsCurrent engine s.store) (scope : Scope)
    (hs : s.IsSettled) (hwhole : s.isBroken = false)
    (hparcel : s.store.parcels.find? id = some record) (hmarked : record.isMarked = true) :
    screen scope (some context) id s =
      (.ok ⟨id, record.checkStatus, [], [], [], false, true⟩, s) := by
  rw [screen_eq_screenWith h, screenWith_eq]
  exact Proc.atomic_execute_of_ok hs hwhole (screenParcel_of_isMarked context scope hparcel hmarked)
    fun hblock => (hs hblock).2.2

theorem screen_of_not_isMarked (h : context.IsCurrent engine s.store) (hs : s.IsSettled)
    (hwhole : s.isBroken = false) (hparcel : s.store.parcels.find? id = some record)
    (hmarked : record.isMarked = false) :
    ∃ after, screen .full (some context) id s =
        (.ok (outcomeOf context .full id record s.store), { s with store := after }) ∧
      Screened id record (outcomeOf context .full id record s.store) s.store after := by
  obtain ⟨after, hchange, hscreened⟩ := exists_screenParcel context .full hparcel hmarked
    fun index hindex _ => h.nodup_prefixes record.code index hindex
  refine ⟨after, ?_, hscreened⟩
  rw [screen_eq_screenWith h, screenWith_eq]
  refine Proc.atomic_execute_of_ok hs hwhole hchange fun hblock => ?_
  exact hscreened.isSound (hs hblock).2.2 hparcel (isOf_outcomeOf h id record).hasRule

/-- A parcel screened in full with the rules of the store. If the partner has marked it nothing at
all changes. Otherwise the parcel is linked to the rules that match it, each of them once, has the
check status that follows, and nothing else is different; and the same comes of it wherever the
rules and the parcel are these, whatever the parcel was linked to and its check status was. -/
theorem screen_full (hcontext : context.IsCurrent engine s.store) (hs : s.IsSettled)
    (hwhole : s.isBroken = false) (hparcel : s.store.parcels.find? id = some record) :
    (record.checkStatus = CheckStatus.markedByPartner.number →
      screen .full (some context) id s =
        (.ok ⟨id, record.checkStatus, [], [], [], false, true⟩, s)) ∧
    (record.checkStatus ≠ CheckStatus.markedByPartner.number → ∃ outcome after,
      screen .full (some context) id s = (.ok outcome, { s with store := after }) ∧
      outcome.IsOf engine s.store record ∧ Screened id record outcome s.store after ∧
      ∀ (t : Session) (status : Int), status ≠ CheckStatus.markedByPartner.number →
        context.IsCurrent engine t.store → t.IsSettled → t.isBroken = false →
        t.store.parcels.find? id = some { record with checkStatus := status } →
        ∃ later, screen .full (some context) id t = (.ok outcome, { t with store := later }) ∧
          Screened id record outcome t.store later) := by
  constructor
  · intro hmarked
    exact screen_of_isMarked hcontext .full hs hwhole hparcel (beq_iff_eq.2 hmarked)
  · intro hmarked
    obtain ⟨after, hscreen, hscreened⟩ := screen_of_not_isMarked hcontext hs hwhole hparcel
      (beq_eq_false_iff_ne.2 hmarked)
    refine ⟨_, after, hscreen, isOf_outcomeOf hcontext id record, hscreened, ?_⟩
    intro t status hstatus hcurrent ht hwhole hfind
    obtain ⟨later, hlater, hrescreened⟩ := screen_of_not_isMarked hcurrent ht hwhole hfind
      (beq_eq_false_iff_ne.2 hstatus)
    rw [outcomeOf_congr hcontext] at hlater hrescreened
    exact ⟨later, hlater, hrescreened.same, hrescreened.parcel, hrescreened.links⟩

/-- A parcel with a stop word for a product and a keyword in its description, which has been blocked
for a code prefix. -/
def crateParcel : Parcel :=
  ⟨1, Parcel.wbr, 1, CheckStatus.blockedByPrefix.number, some "2222222222", some "gun",
    some "a pen, red", none, none⟩

/-- A session with that parcel, a stop word, a keyword and two code prefixes. The parcel is linked
to the one that its code no longer has. -/
def crateSession : Session :=
  { Session.start (.engine .null) .none with
    store := { Store.empty with
      registers := Table.empty.insert ⟨"imported", Parcel.wbr⟩
      parcels := Table.empty.insert crateParcel
      stopWords := Table.empty.insert ⟨"gun", 11⟩
      keyWords := Table.empty.insert ⟨"pen", 21⟩
      prefixes := (Table.empty.insert ⟨⟨some "2222", none⟩, none⟩).insert
        ⟨⟨some "9306", none⟩, none⟩
      prefixLinks := Table.empty.insert ⟨1, 2⟩ } }

/-- The rules of that session. -/
def crateContext : Context :=
  ⟨some ⟨Word.compile (crateSession.store.rules .stopWords),
    Word.compile (crateSession.store.rules .keyWords), .null⟩,
    some (.ofList [⟨1, "2222", 2222000000, 0, []⟩, ⟨2, "9306", 9306000000, 0, []⟩])⟩

theorem isSettled_crateSession : crateSession.IsSettled := by
  refine fun _ => ⟨rfl, rfl, ⟨by decide, by decide, by decide, by decide, by decide, ?_⟩⟩
  intro kind row hrow
  cases kind with
  | stopWord => cases hrow
  | keyWord => cases hrow
  | codePrefix =>
    obtain rfl := List.mem_singleton.1 hrow
    exact ⟨by decide, by decide⟩

/-- The parcel is linked to its stop word, its keyword and its code prefix, and no longer to the one
that its code does not have. -/
theorem screen_crateParcel : crateSession.store.linkedRules .codePrefix 1 = [2] ∧
    ∃ outcome after, screen .full (some crateContext) 1 crateSession =
        (.ok outcome, { crateSession with store := after }) ∧
      outcome.IsOf .null crateSession.store crateParcel ∧
      after.linkedRules .stopWord 1 = [1] ∧ after.linkedRules .keyWord 1 = [1] ∧
      after.linkedRules .codePrefix 1 = [1] ∧ after.parcels.find? 1 = some { crateParcel with
        checkStatus := CheckStatus.blockedByBoth.number } := by
  have hcontext : crateContext.IsCurrent .null crateSession.store := ⟨rfl, _, rfl, rfl⟩
  have hparcel : crateSession.store.parcels.find? 1 = some crateParcel := by decide
  have houtcome : (screen .full (some crateContext) 1 crateSession).1 =
      .ok ⟨1, CheckStatus.blockedByBoth.number, [1], [1], [1], false, false⟩ := by
    decide +kernel
  obtain ⟨outcome, after, hscreen, hof, hscreened, _⟩ :=
    (screen_full hcontext isSettled_crateSession rfl hparcel).2 (by decide)
  rw [hscreen] at houtcome
  cases houtcome
  exact ⟨by decide, _, after, hscreen, hof, hscreened.links .stopWord, hscreened.links .keyWord,
    hscreened.links .codePrefix, hscreened.parcel⟩

/-! ## A smaller session -/

/-- A parcel whose product is a stop word. -/
def gunParcel : Parcel := ⟨1, Parcel.ozon, 1, 1, some "2222222222", some "gun", none, none, none⟩

/-- A session with one parcel and one stop word. -/
def gunSession : Session :=
  { Session.start (.engine .null) .none with
    store := { Store.empty with
      registers := Table.empty.insert ⟨"imported", Parcel.ozon⟩
      parcels := Table.empty.insert gunParcel
      stopWords := Table.empty.insert ⟨"gun", 11⟩ } }

/-- The rules of that session. -/
def gunContext : Context :=
  ⟨some ⟨Word.compile (gunSession.store.rules .stopWords),
    Word.compile (gunSession.store.rules .keyWords), .null⟩, some (.ofList [])⟩

end Clearance.Screening

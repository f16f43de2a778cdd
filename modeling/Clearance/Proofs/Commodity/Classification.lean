import Mathlib.Data.List.Basic
import Clearance.Commodity.Classification
import Clearance.Store.Basic

/-!
# Which prefix rules classification matches

A code is compared with the rules that have its first two characters, in the order in which they
were filed; filing loses none of these and adds none. Classification therefore matches what the
rules say one by one, and a code that is not ten ASCII digits is matched by none.
-/

set_option autoImplicit false

namespace Clearance.Commodity

namespace PrefixIndex

/-- Whether a rule is filed under the first two characters of a code. -/
def isFiledFor (code : List Char) (rule : PrefixRule) : Bool :=
  decide (keyLength ≤ rule.code.toList.length) &&
    rule.code.toList.take keyLength == code.take keyLength

/-- Filing a rule puts it at the end of its file and leaves the other files as they are. -/
theorem lookup_fileUnder (key other : List Char) (rule : PrefixRule)
    (files : List (List Char × List PrefixRule)) :
    ((fileUnder key rule files).lookup other).getD [] =
      (files.lookup other).getD [] ++ (if key == other then [rule] else []) := by
  induction files with
  | nil =>
    simp only [fileUnder, List.lookup_cons, List.lookup_nil]
    rw [Bool.beq_comm]
    cases key == other <;> rfl
  | cons file rest ih =>
    obtain ⟨own, rules⟩ := file
    unfold fileUnder
    by_cases hown : own = key
    · subst hown
      rw [if_pos (beq_self_eq_true own), List.lookup_cons, List.lookup_cons]
      rw [@Bool.beq_comm _ _ _ other own]
      cases own == other <;> simp
    · rw [if_neg (by simpa using hown), List.lookup_cons, List.lookup_cons]
      by_cases hother : other = own
      · subst hother
        have hkey : (key == other) = false := by simpa using Ne.symm hown
        simp [hkey]
      · have hne : (other == own) = false := by simpa using hother
        rw [hne]
        exact ih

theorem candidates_add (index : PrefixIndex) (rule : PrefixRule) (code : List Char) :
    (index.add rule).candidates code =
      index.candidates code ++ (if isFiledFor code rule then [rule] else []) := by
  unfold add isFiledFor candidates
  dsimp only
  by_cases hshort : rule.code.toList.length < keyLength
  · have hlong : ¬ keyLength ≤ rule.code.toList.length := by omega
    rw [if_pos hshort, decide_eq_false hlong]
    simp
  · have hlong : keyLength ≤ rule.code.toList.length := by omega
    rw [if_neg hshort, decide_eq_true hlong, Bool.true_and]
    exact lookup_fileUnder _ _ _ _

/-- The candidates for a code are the rules with its first two characters, in their order. -/
theorem candidates_ofList (rules : List PrefixRule) (code : List Char) :
    (ofList rules).candidates code = rules.filter (isFiledFor code) := by
  have hfold : ∀ index : PrefixIndex, (rules.foldl add index).candidates code =
      index.candidates code ++ rules.filter (isFiledFor code) := by
    induction rules with
    | nil =>
      intro index
      rw [List.foldl_nil, List.filter_nil, List.append_nil]
    | cons rule rest ih =>
      intro index
      rw [List.foldl_cons, ih, candidates_add, List.append_assoc, List.filter_cons]
      split <;> rfl
  exact hfold empty

end PrefixIndex

/-- Whether classification matches a rule with a code: the code is ten digits, the rule has its
first two, covers it and is not excepted. -/
def PrefixRule.isMatchedBy (rule : PrefixRule) (code : Option String) : Bool :=
  match code with
  | none => false
  | some text => isCode text.toList && PrefixIndex.isFiledFor text.toList rule &&
      rule.matchesCode text.toList

/-- A rule without a code is filed nowhere. -/
theorem PrefixRule.not_isMatchedBy_of_empty {rule : PrefixRule} (h : rule.code = "")
    (code : Option String) : rule.isMatchedBy code = false := by
  cases code with
  | none => rfl
  | some text =>
    have hfiled : PrefixIndex.isFiledFor text.toList rule = false := by
      unfold PrefixIndex.isFiledFor
      rw [h]
      rfl
    unfold isMatchedBy
    dsimp only
    rw [hfiled, Bool.and_false, Bool.false_and]

/-- Classification matches the rules that are matched one by one. -/
theorem matched_classify (code : Option String) (rules : List PrefixRule) :
    (classify code (.ofList rules)).matched = rules.filter fun rule => rule.isMatchedBy code := by
  cases code with
  | none => exact (List.filter_eq_nil_iff.2 fun _ _ h => by cases h).symm
  | some text =>
    unfold classify PrefixRule.isMatchedBy
    dsimp only
    cases hcode : isCode text.toList with
    | false => simp
    | true =>
      rw [if_pos rfl, PrefixIndex.candidates_ofList, List.filter_filter]
      apply List.filter_congr
      intro rule _
      rw [Bool.true_and, Bool.and_comm]

/-- A code is found invalid just if it is not ten digits. -/
theorem verdict_classify (code : Option String) (index : PrefixIndex) :
    ((classify code index).verdict == .invalidFormat) = !hasCodeFormat code := by
  cases code with
  | none => rfl
  | some text =>
    unfold classify hasCodeFormat
    dsimp only
    cases isCode text.toList with
    | false => rfl
    | true =>
      rw [if_pos rfl]
      dsimp only
      split <;> rfl

end Clearance.Commodity

namespace Clearance.Store

open Clearance.Commodity

/-- The rule of a stored code prefix has the prefix's id and code. -/
theorem eq_of_prefixRule {store : Store} {row : Row StoredPrefix} {rule : PrefixRule}
    (h : store.prefixRule row = .ok rule) :
    rule.id = row.id ∧ rule.code = row.val.codePrefix.code.getD "" := by
  unfold prefixRule PrefixRule.ofCodePrefix at h
  cases hbounds : row.val.codePrefix.bounds with
  | error fault =>
    rw [hbounds] at h
    cases h
  | ok bounds =>
    rw [hbounds] at h
    cases h
    exact ⟨rfl, rfl⟩

theorem id_of_prefixRule {store : Store} {row : Row StoredPrefix} {rule : PrefixRule}
    (h : store.prefixRule row = .ok rule) : rule.id = row.id :=
  (eq_of_prefixRule h).1

/-- The rules that are read from rows are those of the rows, one for each and in their order. -/
theorem map_prefixRule_of_mapM {store : Store} {rows : List (Row StoredPrefix)}
    {rules : List PrefixRule} (h : rows.mapM store.prefixRule = .ok rules) :
    rows.map store.prefixRule = rules.map .ok := by
  induction rows generalizing rules with
  | nil =>
    cases h
    rfl
  | cons row rest ih =>
    rw [List.mapM_cons] at h
    cases hrow : store.prefixRule row with
    | error fault =>
      rw [hrow] at h
      cases h
    | ok rule =>
      cases hrest : rest.mapM store.prefixRule with
      | error fault =>
        rw [hrow, hrest] at h
        cases h
      | ok others =>
        rw [hrow, hrest] at h
        cases h
        rw [List.map_cons, List.map_cons, hrow, ih hrest]

variable {store : Store} {rules : List PrefixRule}

/-- The rules in use are those of the stored prefixes that are in use and have a code. -/
theorem mem_prefixRules_iff (h : store.prefixRules = .ok rules) {rule : PrefixRule} :
    rule ∈ rules ↔ ∃ row ∈ store.prefixes.rows, (store.isInUse row.val = true ∧
      row.val.codePrefix.code ≠ some "") ∧ store.prefixRule row = .ok rule := by
  have hmap := map_prefixRule_of_mapM h
  have hinjective : Function.Injective (Except.ok : PrefixRule → Except Text.NumeralFault _) :=
    fun _ _ heq => Except.ok.inj heq
  rw [← List.mem_map_of_injective hinjective, ← hmap, List.mem_map]
  constructor
  · rintro ⟨row, hrow, hrule⟩
    obtain ⟨hmem, huse⟩ := List.mem_filter.1 hrow
    rw [Bool.and_eq_true, bne_iff_ne] at huse
    exact ⟨row, hmem, huse, hrule⟩
  · rintro ⟨row, hmem, huse, hrule⟩
    refine ⟨row, List.mem_filter.2 ⟨hmem, ?_⟩, hrule⟩
    rwa [Bool.and_eq_true, bne_iff_ne]

/-- No two rules in use have one id. -/
theorem nodup_ids_prefixRules (h : store.prefixRules = .ok rules) : (rules.map (·.id)).Nodup := by
  have hids : ∀ rows : List (Row StoredPrefix), ∀ rules : List PrefixRule,
      rows.map store.prefixRule = rules.map .ok → rules.map (·.id) = rows.map (·.id) := by
    intro rows
    induction rows with
    | nil =>
      intro rules hmap
      rw [List.map_eq_nil_iff.1 hmap.symm]
      rfl
    | cons row rest ih =>
      intro rules hmap
      cases rules with
      | nil => cases hmap
      | cons rule others =>
        obtain ⟨hrow, hrest⟩ := List.cons.inj hmap
        rw [List.map_cons, List.map_cons, id_of_prefixRule hrow, ih others hrest]
  rw [hids _ _ (map_prefixRule_of_mapM h)]
  exact List.pairwise_map.2 ((store.prefixes.ascending.filter _).imp fun hlt => Int.ne_of_lt hlt)

/-- Whether a stored code prefix in use is matched with a code. -/
def IsMatched (store : Store) (code : Option String) (id : Int) : Prop :=
  ∃ row ∈ store.prefixes.rows, row.id = id ∧ store.isInUse row.val = true ∧
    ∃ rule, store.prefixRule row = .ok rule ∧ rule.isMatchedBy code = true

/-- With the rules in use classification finds the stored code prefixes that are matched. A prefix
whose code is empty is filed nowhere, so it does no harm that it has no rule. -/
theorem mem_ids_classify_iff (h : store.prefixRules = .ok rules) {code : Option String} {id : Int} :
    id ∈ (classify code (.ofList rules)).ids ↔ store.IsMatched code id := by
  unfold Classification.ids IsMatched
  rw [matched_classify, List.mem_map]
  constructor
  · rintro ⟨rule, hrule, rfl⟩
    obtain ⟨hmem, hmatched⟩ := List.mem_filter.1 hrule
    obtain ⟨row, hrow, ⟨huse, _⟩, hread⟩ := (mem_prefixRules_iff h).1 hmem
    exact ⟨row, hrow, (id_of_prefixRule hread).symm, huse, rule, hread, hmatched⟩
  · rintro ⟨row, hrow, rfl, huse, rule, hread, hmatched⟩
    have hcode : row.val.codePrefix.code ≠ some "" := by
      intro hempty
      have hrule := (eq_of_prefixRule hread).2
      rw [hempty] at hrule
      rw [PrefixRule.not_isMatchedBy_of_empty hrule] at hmatched
      cases hmatched
    have hmem := (mem_prefixRules_iff h).2 ⟨row, hrow, ⟨huse, hcode⟩, hread⟩
    exact ⟨rule, List.mem_filter.2 ⟨hmem, hmatched⟩, id_of_prefixRule hread⟩

theorem nodup_ids_classify (h : store.prefixRules = .ok rules) (code : Option String) :
    (classify code (.ofList rules)).ids.Nodup := by
  unfold Classification.ids
  rw [matched_classify]
  exact (nodup_ids_prefixRules h).sublist (List.filter_sublist.map _)

/-- A code that is not ten digits is matched by no code prefix. -/
theorem IsMatched.hasCodeFormat {code : Option String} {id : Int} (h : store.IsMatched code id) :
    Commodity.hasCodeFormat code = true := by
  obtain ⟨_, _, _, _, rule, _, hmatched⟩ := h
  cases code with
  | none => cases hmatched
  | some text =>
    unfold PrefixRule.isMatchedBy at hmatched
    rw [Bool.and_eq_true, Bool.and_eq_true] at hmatched
    exact hmatched.1.1

end Clearance.Store

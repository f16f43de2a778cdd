import Mathlib.Data.List.Nodup
import Clearance.Screening.Context

/-!
# Which rules are found

A rule matches a text by its own strategy, whatever other rules it is compiled with. The ids found
in several texts are, each once, those of the rules that match one of the texts that are not empty
and those that the engine reports for one of these and that some rule has.
-/

set_option autoImplicit false

namespace Clearance.Word

open Clearance.Text

namespace Rule

/-- Whether a rule matches a text by its own strategy. -/
def matchesText (rule : Rule) (text : List Char) : Bool :=
  match rule.bucket with
  | .symbols folded => holds folded (casefold text)
  | .pattern pattern => pattern.occursIn text
  | .morphology | .unusable => false

/-- Whether a rule finds something in a text; in an empty text none does. -/
def findsIn (rule : Rule) (text : List Char) : Bool :=
  !text.isEmpty && rule.matchesText text

theorem findsIn_iff {rule : Rule} {text : List Char} :
    rule.findsIn text = true ↔ text ≠ [] ∧ rule.matchesText text = true := by
  simp [findsIn]

/-- A rule that finds something looks for symbols or for a pattern. -/
theorem asSymbols?_or_asPattern?_of_findsIn {rule : Rule} {text : List Char}
    (h : rule.findsIn text = true) :
    rule.asSymbols?.isSome = true ∨ rule.asPattern?.isSome = true := by
  obtain ⟨_, hmatches⟩ := findsIn_iff.1 h
  unfold matchesText at hmatches
  unfold asSymbols? asPattern?
  cases hbucket : rule.bucket with
  | symbols folded => exact .inl rfl
  | pattern pattern => exact .inr rfl
  | morphology => simp [hbucket] at hmatches
  | unusable => simp [hbucket] at hmatches

theorem eq_of_asSymbols? {rule : Rule} {form : Rule × List Char}
    (h : rule.asSymbols? = some form) : form.1 = rule := by
  unfold asSymbols? at h
  split at h
  · cases h
    rfl
  · cases h

theorem eq_of_asPattern? {rule : Rule} {form : Rule × Pattern}
    (h : rule.asPattern? = some form) : form.1 = rule := by
  unfold asPattern? at h
  split at h
  · cases h
    rfl
  · cases h

end Rule

section

variable {α : Type} {compiled : Rule → Option (Rule × α)}
  (hcompiled : ∀ {rule form}, compiled rule = some form → form.1 = rule)

include hcompiled

/-- Selecting among the compiled forms of some rules selects among the rules. -/
theorem map_filter_filterMap (selects : Rule × α → Bool) (rules : List Rule) :
    ((rules.filterMap compiled).filter selects).map (·.1) =
      rules.filter fun rule => (compiled rule).any selects := by
  induction rules with
  | nil => rfl
  | cons rule rest ih =>
    cases hform : compiled rule with
    | none =>
      rw [List.filterMap_cons_none hform, List.filter_cons_of_neg (by simp [hform]), ih]
    | some form =>
      rw [List.filterMap_cons_some hform, List.filter_cons, List.filter_cons, hform, Option.any_some]
      split
      · rw [List.map_cons, ih, hcompiled hform]
      · exact ih

theorem map_filterMap_eq_filter (rules : List Rule) :
    (rules.filterMap compiled).map (·.1) = rules.filter fun rule => (compiled rule).isSome := by
  have hall := map_filter_filterMap hcompiled (fun _ => true) rules
  rw [List.filter_true] at hall
  rw [hall]
  apply List.filter_congr
  intro rule _
  cases compiled rule <;> rfl

end

/-- A compiled list of rules matches a text by those of its rules that find something in it: first
those that look for symbols, then those that look for a pattern. -/
theorem matching_compile (rules : List Rule) (text : List Char) :
    (compile rules).matching text =
      rules.filter (fun rule => rule.asSymbols?.isSome && rule.findsIn text) ++
        rules.filter (fun rule => rule.asPattern?.isSome && rule.findsIn text) := by
  unfold Matcher.matching
  by_cases htext : text = []
  · simp [htext, Rule.findsIn]
  have hfinds : ∀ rule : Rule, rule.findsIn text = rule.matchesText text := by
    simp [Rule.findsIn, htext]
  rw [if_neg (by simpa using htext)]
  simp only [compile, hfinds]
  rw [map_filter_filterMap Rule.eq_of_asSymbols?, map_filter_filterMap Rule.eq_of_asPattern?]
  congr 1
  · apply List.filter_congr
    intro rule _
    unfold Rule.asSymbols? Rule.matchesText
    cases rule.bucket <;> simp
  · apply List.filter_congr
    intro rule _
    unfold Rule.asPattern? Rule.matchesText
    cases rule.bucket <;> simp

/-- A compiled list of rules matches a text by those of its rules that match it. -/
theorem mem_matching_iff {rules : List Rule} {text : List Char} {rule : Rule} :
    rule ∈ (compile rules).matching text ↔
      rule ∈ rules ∧ text ≠ [] ∧ rule.matchesText text = true := by
  rw [matching_compile, List.mem_append, List.mem_filter, List.mem_filter, ← and_or_left,
    Bool.and_eq_true, Bool.and_eq_true, ← or_and_right, ← Rule.findsIn_iff]
  exact and_congr_right fun _ =>
    and_iff_right_of_imp Rule.asSymbols?_or_asPattern?_of_findsIn

/-- A rule with a pattern matches the texts in which the pattern occurs. -/
theorem mem_matching_iff_of_pattern {rules : List Rule} {text : List Char} {rule : Rule}
    {pattern : Pattern} (hrule : rule ∈ rules) (hbucket : rule.bucket = .pattern pattern) :
    rule ∈ (compile rules).matching text ↔ text ≠ [] ∧ pattern.occursIn text = true := by
  rw [mem_matching_iff, Rule.matchesText, hbucket]
  exact and_iff_right hrule

/-! ## Each id once -/

theorem nodup_ids_keep {found : List Rule} (h : (found.map (·.id)).Nodup) (rule : Rule) :
    ((keep found rule).map (·.id)).Nodup := by
  unfold keep
  split
  · exact h
  · next hnew =>
    have hmem : rule.id ∉ found.map (·.id) := by
      intro hmem
      obtain ⟨other, hother, hid⟩ := List.mem_map.1 hmem
      exact hnew (List.any_eq_true.2 ⟨other, hother, beq_iff_eq.2 hid⟩)
    rw [List.map_append, List.map_singleton, ← List.concat_eq_append]
    exact h.concat hmem

theorem mem_ids_keep_iff {found : List Rule} {rule : Rule} {id : Int} :
    id ∈ (keep found rule).map (·.id) ↔ id ∈ found.map (·.id) ∨ id = rule.id := by
  unfold keep
  split
  · next hold =>
    obtain ⟨other, hother, hid⟩ := List.any_eq_true.1 hold
    refine ⟨.inl, ?_⟩
    rintro (h | rfl)
    · exact h
    · exact List.mem_map.2 ⟨other, hother, beq_iff_eq.1 hid⟩
  · rw [List.map_append, List.mem_append, List.map_singleton, List.mem_singleton]

theorem nodup_ids_foldl_keep {found : List Rule} (h : (found.map (·.id)).Nodup)
    (rules : List Rule) : ((rules.foldl keep found).map (·.id)).Nodup := by
  induction rules generalizing found with
  | nil => exact h
  | cons rule rest ih => exact ih (nodup_ids_keep h rule)

theorem mem_ids_foldl_keep_iff {found rules : List Rule} {id : Int} :
    id ∈ (rules.foldl keep found).map (·.id) ↔
      id ∈ found.map (·.id) ∨ id ∈ rules.map (·.id) := by
  induction rules generalizing found with
  | nil => simp
  | cons rule rest ih =>
    rw [List.foldl_cons, ih, mem_ids_keep_iff, List.map_cons, List.mem_cons, or_assoc]

/-! ## The ids found -/

/-- A reported id stands for a rule just if some rule has it. -/
theorem isSome_resolve?_iff {matcher : Matcher} {id : Int} :
    (∃ rule, matcher.resolve? id = some rule) ↔ id ∈ matcher.rules.map (·.id) := by
  unfold Matcher.resolve?
  rw [← Option.isSome_iff_exists, List.find?_isSome, List.mem_map]
  constructor
  · rintro ⟨rule, hmem, hid⟩
    exact ⟨rule, List.mem_reverse.1 hmem, beq_iff_eq.1 hid⟩
  · rintro ⟨rule, hmem, hid⟩
    exact ⟨rule, List.mem_reverse.2 hmem, beq_iff_eq.2 hid⟩

theorem id_of_resolve? {matcher : Matcher} {id : Int} {rule : Rule}
    (h : matcher.resolve? id = some rule) : rule.id = id := by
  unfold Matcher.resolve? at h
  have hid := List.find?_some h
  exact beq_iff_eq.1 hid

/-- A text shows the ids of the rules that match it and those that are reported for it and that some
rule has. -/
theorem mem_ids_rulesIn_iff {rules : List Rule} {report : List Char → List Int}
    {text : List Char} {id : Int} :
    id ∈ (rulesIn (compile rules) report text).map (·.id) ↔
      id ∈ ((compile rules).matching text).map (·.id) ∨
        id ∈ report text ∧ id ∈ rules.map (·.id) := by
  unfold rulesIn
  rw [List.map_append, List.mem_append]
  apply or_congr_right
  constructor
  · intro h
    obtain ⟨rule, hrule, rfl⟩ := List.mem_map.1 h
    obtain ⟨reported, hreported, hresolve⟩ := List.mem_filterMap.1 hrule
    obtain rfl := id_of_resolve? hresolve
    exact ⟨hreported, isSome_resolve?_iff.1 ⟨rule, hresolve⟩⟩
  · rintro ⟨hreported, hmem⟩
    obtain ⟨rule, hresolve⟩ := (@isSome_resolve?_iff (compile rules) id).2 hmem
    exact List.mem_map.2
      ⟨rule, List.mem_filterMap.2 ⟨id, hreported, hresolve⟩, id_of_resolve? hresolve⟩

theorem nodup_ids_findRules (matcher : Matcher) (report : List Char → List Int)
    (texts : List (List Char)) : ((findRules matcher report texts).map (·.id)).Nodup :=
  nodup_ids_foldl_keep (by simp) _

/-- The ids found in some texts are those that one of the texts shows. -/
theorem mem_ids_findRules_iff {rules : List Rule} {report : List Char → List Int}
    {texts : List (List Char)} {id : Int} :
    id ∈ (findRules (compile rules) report texts).map (·.id) ↔
      ∃ text ∈ texts, text ≠ [] ∧ (id ∈ ((compile rules).matching text).map (·.id) ∨
        id ∈ report text ∧ id ∈ rules.map (·.id)) := by
  unfold findRules
  rw [mem_ids_foldl_keep_iff, List.map_nil, List.map_flatMap, List.mem_flatMap]
  simp only [List.not_mem_nil, false_or, mem_ids_rulesIn_iff, List.mem_filter, Bool.not_eq_true',
    List.isEmpty_eq_false_iff, and_assoc]

/-- Whether an id is found in some texts by a list of rules and an engine: a rule that has it
matches one of the texts, or the engine reports it for one of them and some rule has it. Empty
texts are not looked at. -/
def IsFound (engine : Engine) (rules : List Rule) (texts : List String) (id : Int) : Prop :=
  ∃ text ∈ texts, text ≠ "" ∧
    ((∃ rule ∈ rules, rule.id = id ∧ rule.matchesText text.toList = true) ∨
      id ∈ engine.report (rules.filter Rule.isMorphology) text.toList ∧ id ∈ rules.map (·.id))

/-- A found id belongs to a rule. -/
theorem IsFound.mem_ids {engine : Engine} {rules : List Rule} {texts : List String} {id : Int}
    (h : IsFound engine rules texts id) : id ∈ rules.map (·.id) := by
  obtain ⟨text, _, _, ⟨rule, hmem, hid, _⟩ | ⟨_, hmem⟩⟩ := h
  · exact List.mem_map.2 ⟨rule, hmem, hid⟩
  · exact hmem

end Clearance.Word

namespace Clearance.Screening

open Clearance.Word

theorem nodup_foundIds (engine : Engine) (matcher : Matcher) (texts : List String) :
    (foundIds engine matcher texts).Nodup :=
  nodup_ids_findRules _ _ _

/-- The ids found with compiled rules are those that the rules and the engine find. -/
theorem mem_foundIds_iff {engine : Engine} {rules : List Rule} {texts : List String} {id : Int} :
    id ∈ foundIds engine (compile rules) texts ↔ IsFound engine rules texts id := by
  unfold foundIds
  rw [mem_ids_findRules_iff]
  constructor
  · rintro ⟨letters, hletters, hne, hfound⟩
    obtain ⟨text, htext, rfl⟩ := List.mem_map.1 hletters
    refine ⟨text, htext, fun hempty => hne (String.toList_eq_nil_iff.2 hempty),
      hfound.imp_left ?_⟩
    intro hid
    obtain ⟨rule, hrule, rfl⟩ := List.mem_map.1 hid
    obtain ⟨hmem, _, hmatches⟩ := mem_matching_iff.1 hrule
    exact ⟨rule, hmem, rfl, hmatches⟩
  · rintro ⟨text, htext, hne, hfound⟩
    have hletters : text.toList ≠ [] := fun h => hne (String.toList_eq_nil_iff.1 h)
    refine ⟨text.toList, List.mem_map_of_mem htext, hletters, hfound.imp_left ?_⟩
    rintro ⟨rule, hrule, rfl, hmatches⟩
    exact List.mem_map_of_mem (mem_matching_iff.2 ⟨hrule, hletters, hmatches⟩)

end Clearance.Screening

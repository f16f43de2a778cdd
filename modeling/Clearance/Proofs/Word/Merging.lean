import Clearance.Proofs.Word.Finding

/-!
# Merging what several texts show

The rules found in several texts are rules of the compiled list, each id once, and their ids are
those that the texts show: the ids of the rules that match a text, and those that are reported for
it and that some rule has. Texts behind the others only add rules at the end. Where no two rules
share an id, the rules found do not depend on the order of the texts or of the reports, nor on how
often a text is given, and more texts never lose a rule.
-/

set_option autoImplicit false

namespace Clearance.Word

open Clearance.Text

variable {rules found : List Rule} {rule : Rule} {report : List Char → List Int}
  {texts : List (List Char)}

/-! ## What is kept -/

theorem mem_of_mem_keep {other : Rule} (h : rule ∈ keep found other) :
    rule ∈ found ∨ rule = other := by
  unfold keep at h
  split at h
  · exact .inl h
  · rwa [List.mem_append, List.mem_singleton] at h

/-- Only rules that are found are kept. -/
theorem mem_of_mem_foldl_keep (h : rule ∈ rules.foldl keep found) :
    rule ∈ found ∨ rule ∈ rules := by
  induction rules generalizing found with
  | nil => exact .inl h
  | cons other rest ih =>
    rcases ih h with hkept | hrest
    · rcases mem_of_mem_keep hkept with hfound | rfl
      · exact .inl hfound
      · exact .inr List.mem_cons_self
    · exact .inr (List.mem_cons_of_mem other hrest)

theorem prefix_keep (found : List Rule) (rule : Rule) : found <+: keep found rule := by
  unfold keep
  split
  · exact List.prefix_rfl
  · exact List.prefix_append found [rule]

/-- What is kept stays in its place. -/
theorem prefix_foldl_keep (found rules : List Rule) : found <+: rules.foldl keep found := by
  induction rules generalizing found with
  | nil => exact List.prefix_rfl
  | cons rule rest ih => exact (prefix_keep found rule).trans (ih (keep found rule))

/-! ## What is found -/

theorem mem_of_resolve? {matcher : Matcher} {id : Int} (h : matcher.resolve? id = some rule) :
    rule ∈ matcher.rules :=
  List.mem_reverse.1 (List.mem_of_find?_eq_some h)

/-- Whatever is found is a rule of the compiled list. -/
theorem mem_of_mem_findRules (h : rule ∈ findRules (compile rules) report texts) :
    rule ∈ rules := by
  rcases mem_of_mem_foldl_keep h with hnone | hshown
  · cases hnone
  · obtain ⟨text, _, hrule⟩ := List.mem_flatMap.1 hshown
    rcases List.mem_append.1 hrule with hmatches | hreported
    · exact (mem_matching_iff.1 hmatches).1
    · obtain ⟨id, _, hresolve⟩ := List.mem_filterMap.1 hreported
      exact mem_of_resolve? hresolve

/-- Texts behind the others only add rules at the end. -/
theorem prefix_findRules_append (matcher : Matcher) (report : List Char → List Int)
    (texts more : List (List Char)) :
    findRules matcher report texts <+: findRules matcher report (texts ++ more) := by
  unfold findRules
  rw [List.filter_append, List.flatMap_append, List.foldl_append]
  exact prefix_foldl_keep _ _

/-- Where no two rules share an id, a rule is found just if its id is. -/
theorem mem_findRules_iff_of_nodup (hdistinct : (rules.map (·.id)).Nodup) :
    rule ∈ findRules (compile rules) report texts ↔
      rule ∈ rules ∧ rule.id ∈ (findRules (compile rules) report texts).map (·.id) := by
  constructor
  · intro h
    exact ⟨mem_of_mem_findRules h, List.mem_map_of_mem h⟩
  · rintro ⟨hrule, hid⟩
    obtain ⟨other, hother, heq⟩ := List.mem_map.1 hid
    obtain rfl := List.inj_on_of_nodup_map hdistinct (mem_of_mem_findRules hother) hrule heq
    exact hother

/-- More texts and more reports show more ids. -/
theorem ids_findRules_mono {more : List (List Char)} {other : List Char → List Int}
    (htexts : texts ⊆ more) (hreport : ∀ text, report text ⊆ other text) :
    (findRules (compile rules) report texts).map (·.id) ⊆
      (findRules (compile rules) other more).map (·.id) := by
  intro id hid
  obtain ⟨text, htext, hne, hshown⟩ := mem_ids_findRules_iff.1 hid
  exact mem_ids_findRules_iff.2 ⟨text, htexts htext, hne,
    hshown.imp_right fun ⟨hreported, hmem⟩ => ⟨hreport text hreported, hmem⟩⟩

/-- Where no two rules share an id, more texts and more reports find more rules. -/
theorem findRules_mono (hdistinct : (rules.map (·.id)).Nodup) {more : List (List Char)}
    {other : List Char → List Int} (htexts : texts ⊆ more)
    (hreport : ∀ text, report text ⊆ other text) :
    findRules (compile rules) report texts ⊆ findRules (compile rules) other more := by
  intro rule hrule
  obtain ⟨hmem, hid⟩ := (mem_findRules_iff_of_nodup hdistinct).1 hrule
  exact (mem_findRules_iff_of_nodup hdistinct).2 ⟨hmem, ids_findRules_mono htexts hreport hid⟩

/-- The rules found in some texts are rules of the compiled list, no two with one id, and their ids
are those of the rules that match one of the texts that are not empty and those reported for one of
these that some rule has. Texts behind the others only add rules at the end. Where no two rules
share an id, the same texts and reports in another order or given several times find the same
rules, and more texts lose none. -/
theorem findRules_merges (rules : List Rule) (report : List Char → List Int)
    (texts : List (List Char)) :
    (∀ rule ∈ findRules (compile rules) report texts, rule ∈ rules) ∧
    ((findRules (compile rules) report texts).map (·.id)).Nodup ∧
    (∀ id, id ∈ (findRules (compile rules) report texts).map (·.id) ↔
      ∃ text ∈ texts, text ≠ [] ∧ (id ∈ ((compile rules).matching text).map (·.id) ∨
        id ∈ report text ∧ id ∈ rules.map (·.id))) ∧
    (∀ more, findRules (compile rules) report texts <+:
      findRules (compile rules) report (texts ++ more)) ∧
    ((rules.map (·.id)).Nodup →
      (∀ others other, (∀ text, text ∈ others ↔ text ∈ texts) →
        (∀ text id, id ∈ other text ↔ id ∈ report text) → ∀ rule,
          rule ∈ findRules (compile rules) other others ↔
            rule ∈ findRules (compile rules) report texts) ∧
      ∀ more, texts ⊆ more → ∀ rule ∈ findRules (compile rules) report texts,
        rule ∈ findRules (compile rules) report more) := by
  refine ⟨fun _ => mem_of_mem_findRules, nodup_ids_findRules _ _ _,
    fun _ => mem_ids_findRules_iff, prefix_findRules_append _ _ _, fun hdistinct => ⟨?_, ?_⟩⟩
  · intro others other htexts hreports rule
    constructor
    · exact fun h => findRules_mono hdistinct (fun text => (htexts text).1)
        (fun text id => (hreports text id).1) h
    · exact fun h => findRules_mono hdistinct (fun text => (htexts text).2)
        (fun text id => (hreports text id).2) h
  · intro more htexts rule hrule
    exact findRules_mono hdistinct htexts (fun _ => List.Subset.refl _) hrule

/-- A word, some symbols and a word left to the engine. -/
def pocketRules : List Rule := [⟨1, some "pen", 11⟩, ⟨2, some "knife", 1⟩, ⟨3, some "guns", 41⟩]

/-- What an engine reports that knows guns: some ids for a text with a gun in it. -/
def gunReport (ids : List Int) (text : List Char) : List Int :=
  if holds "gun".toList text then ids else []

/-- Three texts find three rules: the pen by its word in the first one, the knife by its symbols and
the guns by the report in the last one. In another order, with one text given twice and the ids
reported the other way round, they find the same rules. -/
theorem findRules_pocketRules : (pocketRules.map (·.id)).Nodup ∧
    (findRules (compile pocketRules) (gunReport [3, 9])
      ["a pen".toList, [], "penknife, gun".toList]).map (·.id) = [1, 2, 3] ∧
    (∀ rule, rule ∈ findRules (compile pocketRules) (gunReport [9, 3])
        ["penknife, gun".toList, [], "a pen".toList, "penknife, gun".toList] ↔
      rule ∈ findRules (compile pocketRules) (gunReport [3, 9])
        ["a pen".toList, [], "penknife, gun".toList]) ∧
    ∀ rule ∈ findRules (compile pocketRules) (gunReport [3, 9]) ["a pen".toList],
      rule ∈ findRules (compile pocketRules) (gunReport [3, 9])
        ["penknife, gun".toList, "a pen".toList] := by
  have hdistinct : (pocketRules.map (·.id)).Nodup := by decide
  refine ⟨hdistinct, by decide +kernel, ?_, ?_⟩
  · refine ((findRules_merges pocketRules (gunReport [3, 9]) _).2.2.2.2 hdistinct).1 _ _ ?_ ?_
    · intro text
      simp only [List.mem_cons, List.not_mem_nil, or_false]
      tauto
    · intro text id
      unfold gunReport
      split
      · simp only [List.mem_cons, List.not_mem_nil, or_false]
        exact or_comm
      · rfl
  · refine ((findRules_merges pocketRules (gunReport [3, 9]) _).2.2.2.2 hdistinct).2 _ ?_
    exact List.subset_cons_self _ _

/-- Where two rules share an id, a text in front of the others may find the other rule. -/
example : findRules (compile [⟨1, some "pen", 11⟩, ⟨1, some "knife", 11⟩]) (fun _ => [])
      ["knife".toList] = [⟨1, some "knife", 11⟩] ∧
    findRules (compile [⟨1, some "pen", 11⟩, ⟨1, some "knife", 11⟩]) (fun _ => [])
      ["pen".toList, "knife".toList] = [⟨1, some "pen", 11⟩] := by
  decide +kernel

end Clearance.Word

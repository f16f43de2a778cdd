import Mathlib.Data.List.FinRange
import Clearance.Proofs.Word.Finding

/-!
# Every rule is compiled by itself

Compilation puts every entry of a list of rules into exactly one bucket, and keeps the order of the
list in each. Which bucket it is, and whether the entry matches a text, depends on the entry alone:
the matches of a text are the entries that match it when compiled by themselves, first those that
look for symbols, then those that look for a pattern. So it does not matter which other rules stand
before, behind or between them. As a list may hold one rule several times, its entries are told by
their places.
-/

set_option autoImplicit false

namespace Clearance.Word

open Clearance.Text

variable {rules : List Rule} {rule : Rule} {text : List Char}

/-! ## The bucket of a rule -/

namespace Rule

/-- Whether a rule looks for symbols: that is its strategy, and it has some. -/
def LooksForSymbols (rule : Rule) : Prop := rule.strategy = .symbols ∧ rule.letters ≠ []

/-- Whether a rule looks for a pattern: a word that is not blank, or a phrase with tokens. -/
def LooksForPattern (rule : Rule) : Prop :=
  rule.strategy = .word ∧ strip rule.letters ≠ [] ∨
    rule.strategy = .phrase ∧ tokens (strip rule.letters) ≠ []

/-- The bucket of a rule follows from its strategy and its letters. -/
theorem bucket_iff (rule : Rule) :
    (rule.asSymbols?.isSome = true ↔ rule.LooksForSymbols) ∧
    (rule.asPattern?.isSome = true ↔ rule.LooksForPattern) ∧
    (rule.bucket = .morphology ↔ rule.isMorphology = true) := by
  rw [isMorphology_iff]
  unfold asSymbols? asPattern? bucket wordBucket phraseBucket LooksForSymbols LooksForPattern
  cases rule.strategy with
  | morphology => simp
  | symbols => by_cases h : rule.letters = [] <;> simp [h]
  | word => by_cases h : strip rule.letters = [] <;> simp [h]
  | phrase => by_cases h : tokens (strip rule.letters) = [] <;> simp [h]
  | unknown => simp

/-- A rule is in exactly one bucket. -/
theorem one_bucket (rule : Rule) :
    rule.asSymbols?.isSome.toNat + rule.asPattern?.isSome.toNat + rule.isMorphology.toNat +
      (rule.bucket == .unusable).toNat = 1 := by
  have hmorphology : rule.isMorphology = (rule.bucket == .morphology) := by
    rw [Bool.eq_iff_iff, beq_iff_eq, rule.bucket_iff.2.2]
  rw [hmorphology]
  unfold asSymbols? asPattern?
  cases rule.bucket with
  | symbols folded => rfl
  | pattern pattern => rfl
  | morphology => rfl
  | unusable => rfl

/-- A rule that is compiled by itself is the one match of a text if it finds something there. -/
theorem matching_singleton_iff :
    (compile [rule]).matching text = [rule] ↔ rule.findsIn text = true := by
  constructor
  · intro h
    have hmem : rule ∈ (compile [rule]).matching text := by
      rw [h]
      exact List.mem_singleton_self rule
    exact findsIn_iff.2 (mem_matching_iff.1 hmem).2
  · intro h
    have hone := rule.one_bucket
    rw [matching_compile]
    rcases asSymbols?_or_asPattern?_of_findsIn h with hsymbols | hpattern
    · have hnot : rule.asPattern?.isSome = false := by
        rw [hsymbols, Bool.toNat_true] at hone
        rw [← Bool.toNat_eq_zero]
        omega
      simp [hsymbols, hnot, h]
    · have hnot : rule.asSymbols?.isSome = false := by
        rw [hpattern, Bool.toNat_true] at hone
        rw [← Bool.toNat_eq_zero]
        omega
      simp [hpattern, hnot, h]

end Rule

/-! ## Places -/

/-- The places of a list at which rules with a property stand. -/
def placesOf (rules : List Rule) (keeps : Rule → Bool) : List (Fin rules.length) :=
  (List.finRange rules.length).filter fun place => keeps (rules.get place)

variable {keeps selects : Rule → Bool}

theorem mem_placesOf_iff {place : Fin rules.length} :
    place ∈ placesOf rules keeps ↔ keeps (rules.get place) = true := by
  simp [placesOf]

theorem pairwise_placesOf (rules : List Rule) (keeps : Rule → Bool) :
    (placesOf rules keeps).Pairwise (· < ·) :=
  (List.pairwise_lt_finRange rules.length).filter _

theorem count_placesOf (place : Fin rules.length) :
    (placesOf rules keeps).count place = (keeps (rules.get place)).toNat := by
  have hnodup : (placesOf rules keeps).Nodup := (List.nodup_finRange rules.length).filter _
  rw [hnodup.count]
  cases hkeeps : keeps (rules.get place) with
  | true => rw [if_pos (mem_placesOf_iff.2 hkeeps), Bool.toNat_true]
  | false =>
    rw [if_neg fun hmem => Bool.false_ne_true (hkeeps.symm.trans (mem_placesOf_iff.1 hmem)),
      Bool.toNat_false]

/-- At the places stand the rules with the property, in their order. -/
theorem map_get_placesOf (rules : List Rule) (keeps : Rule → Bool) :
    (placesOf rules keeps).map rules.get = rules.filter keeps := by
  calc (placesOf rules keeps).map rules.get
    _ = ((List.finRange rules.length).map rules.get).filter keeps := by
      rw [List.filter_map]
      rfl
    _ = rules.filter keeps := by rw [List.map_get_finRange]

theorem placesOf_sublist (rules : List Rule) (keeps selects : Rule → Bool) :
    (placesOf rules fun rule => keeps rule && selects rule).Sublist (placesOf rules keeps) := by
  unfold placesOf
  apply List.monotone_filter_right
  intro place hplace
  exact (Bool.and_eq_true _ _ ▸ hplace).1

/-- Every place is that of one bucket. -/
theorem perm_placesOf (rules : List Rule) :
    (placesOf rules (·.asSymbols?.isSome) ++ placesOf rules (·.asPattern?.isSome) ++
      placesOf rules Rule.isMorphology ++ placesOf rules fun rule => rule.bucket == .unusable).Perm
        (List.finRange rules.length) := by
  rw [List.perm_iff_count]
  intro place
  rw [List.count_append, List.count_append, List.count_append, count_placesOf, count_placesOf,
    count_placesOf, count_placesOf, (List.nodup_finRange rules.length).count,
    if_pos (List.mem_finRange place)]
  exact (rules.get place).one_bucket

/-! ## The entries of a compiled list -/

theorem map_symbols_compile (rules : List Rule) : (compile rules).symbols.map (·.1) =
    (placesOf rules (·.asSymbols?.isSome)).map rules.get := by
  rw [map_get_placesOf]
  exact map_filterMap_eq_filter Rule.eq_of_asSymbols? rules

theorem map_patterns_compile (rules : List Rule) : (compile rules).patterns.map (·.1) =
    (placesOf rules (·.asPattern?.isSome)).map rules.get := by
  rw [map_get_placesOf]
  exact map_filterMap_eq_filter Rule.eq_of_asPattern? rules

theorem morphology_compile (rules : List Rule) :
    (compile rules).morphology = (placesOf rules Rule.isMorphology).map rules.get :=
  (map_get_placesOf rules Rule.isMorphology).symm

theorem skipped_compile (rules : List Rule) : (compile rules).skipped =
    (placesOf rules fun rule => rule.bucket == .unusable).length := by
  rw [← List.length_map rules.get, map_get_placesOf]
  exact List.countP_eq_length_filter

/-- The sizes of the buckets add up to that of the list. -/
theorem sizes_compile (rules : List Rule) :
    (compile rules).symbols.length + (compile rules).patterns.length +
      (compile rules).morphology.length + (compile rules).skipped = rules.length := by
  have hsizes := (perm_placesOf rules).length_eq
  simp only [List.length_append, List.length_finRange] at hsizes
  have hsymbols := congrArg List.length (map_symbols_compile rules)
  have hpatterns := congrArg List.length (map_patterns_compile rules)
  rw [List.length_map, List.length_map] at hsymbols hpatterns
  rw [hsymbols, hpatterns, morphology_compile, List.length_map, skipped_compile, hsizes]

/-- The places of the rules that find something in a text. -/
theorem exists_matching_places (rules : List Rule) (text : List Char) :
    ∃ first last : List (Fin rules.length),
      first.Sublist (placesOf rules (·.asSymbols?.isSome)) ∧
      last.Sublist (placesOf rules (·.asPattern?.isSome)) ∧ (first ++ last).Nodup ∧
      (compile rules).matching text = (first ++ last).map rules.get ∧
      ∀ place, place ∈ first ++ last ↔ (rules.get place).findsIn text = true := by
  have hfirst := placesOf_sublist rules (·.asSymbols?.isSome) (·.findsIn text)
  have hlast := placesOf_sublist rules (·.asPattern?.isSome) (·.findsIn text)
  refine ⟨_, _, hfirst, hlast, ?_, ?_, ?_⟩
  · have hall := (perm_placesOf rules).nodup_iff.2 (List.nodup_finRange rules.length)
    rw [List.append_assoc _ (placesOf rules Rule.isMorphology)] at hall
    exact (List.nodup_append.1 hall).1.sublist (hfirst.append hlast)
  · rw [List.map_append, map_get_placesOf, map_get_placesOf, matching_compile]
  · intro place
    rw [List.mem_append, mem_placesOf_iff, mem_placesOf_iff, Bool.and_eq_true, Bool.and_eq_true,
      ← or_and_right]
    exact and_iff_right_of_imp Rule.asSymbols?_or_asPattern?_of_findsIn

/-- Compilation puts every entry of a list of rules into exactly one bucket, in the order of the
list: among the symbols if it looks for symbols, among the patterns if it looks for a pattern, among
the rules left to the engine if that is its strategy, and else among those that are skipped; so the
sizes add up to that of the list. The matches of a text are the entries that match it when compiled
by themselves, each once, first those of the symbols and then those of the patterns, both in the
order of the list. So a rule matches a text with any other rules as it does with these. -/
theorem entries_compiled_apart (rules : List Rule) (text : List Char) :
    (∃ symbols patterns morphology unusable : List (Fin rules.length),
      (symbols ++ patterns ++ morphology ++ unusable).Perm (List.finRange rules.length) ∧
      (∀ places ∈ [symbols, patterns, morphology, unusable], places.Pairwise (· < ·)) ∧
      (compile rules).symbols.map (·.1) = symbols.map rules.get ∧
      (compile rules).patterns.map (·.1) = patterns.map rules.get ∧
      (compile rules).morphology = morphology.map rules.get ∧
      (compile rules).skipped = unusable.length ∧
      (∀ place, (place ∈ symbols ↔ (rules.get place).LooksForSymbols) ∧
        (place ∈ patterns ↔ (rules.get place).LooksForPattern) ∧
        (place ∈ morphology ↔ (rules.get place).isMorphology = true)) ∧
      ∃ first last : List (Fin rules.length),
        first.Sublist symbols ∧ last.Sublist patterns ∧ (first ++ last).Nodup ∧
        (compile rules).matching text = (first ++ last).map rules.get ∧
        ∀ place, place ∈ first ++ last ↔
          (compile [rules.get place]).matching text = [rules.get place]) ∧
    (compile rules).symbols.length + (compile rules).patterns.length +
      (compile rules).morphology.length + (compile rules).skipped = rules.length ∧
    ∀ rule ∈ rules, ∀ others, rule ∈ others →
      (rule ∈ (compile others).matching text ↔ rule ∈ (compile rules).matching text) := by
  refine ⟨?_, sizes_compile rules, ?_⟩
  · obtain ⟨first, last, hfirst, hlast, hnodup, hmatching, hfinds⟩ :=
      exists_matching_places rules text
    refine ⟨_, _, _, _, perm_placesOf rules, ?_, map_symbols_compile rules,
      map_patterns_compile rules, morphology_compile rules, skipped_compile rules, ?_, first, last,
      hfirst, hlast, hnodup, hmatching, ?_⟩
    · simp [pairwise_placesOf]
    · intro place
      rw [mem_placesOf_iff, mem_placesOf_iff, mem_placesOf_iff]
      exact ⟨(Rule.bucket_iff _).1, (Rule.bucket_iff _).2.1, Iff.rfl⟩
    · intro place
      rw [hfinds, Rule.matching_singleton_iff]
  · intro rule hrule others hother
    rw [mem_matching_iff, mem_matching_iff]
    exact and_congr_left fun _ => iff_of_true hother hrule

/-- Symbols that are looked for anywhere. -/
def knifeSymbols : Rule := ⟨1, some "Knife", 1⟩

/-- A word, symbols twice, a blank word, a phrase without a word, an unknown strategy and a word
left to the engine. -/
def mixedRules : List Rule :=
  [⟨2, some "pen", 11⟩, knifeSymbols, ⟨3, some "  ", 11⟩, ⟨4, none, 21⟩, ⟨5, some "pen", 12⟩,
    ⟨6, some "guns", 41⟩, knifeSymbols]

/-- Of seven entries two look for symbols and one for a pattern, one is left to the engine and three
are skipped. The knife is found with the other rules as it is with the word alone, and with the
other rules it is found twice, as it stands twice among them. -/
theorem entries_mixedRules : knifeSymbols ∈ mixedRules ∧
    knifeSymbols ∈ [⟨2, some "pen", 11⟩, knifeSymbols] ∧
    (compile mixedRules).symbols.length + (compile mixedRules).patterns.length +
      (compile mixedRules).morphology.length + (compile mixedRules).skipped = 7 ∧
    (knifeSymbols ∈ (compile [⟨2, some "pen", 11⟩, knifeSymbols]).matching "a pen-knife".toList ↔
      knifeSymbols ∈ (compile mixedRules).matching "a pen-knife".toList) ∧
    (compile mixedRules).matching "a pen-knife".toList = [knifeSymbols, knifeSymbols] ∧
    (compile mixedRules).matching "knife, pen".toList =
      [knifeSymbols, knifeSymbols, ⟨2, some "pen", 11⟩] := by
  have hmixed : knifeSymbols ∈ mixedRules := by decide
  have hpair : knifeSymbols ∈ [⟨2, some "pen", 11⟩, knifeSymbols] := by decide
  obtain ⟨_, hsizes, hapart⟩ := entries_compiled_apart mixedRules "a pen-knife".toList
  exact ⟨hmixed, hpair, hsizes, hapart knifeSymbols hmixed _ hpair, by decide +kernel,
    by decide +kernel⟩

end Clearance.Word

import Clearance.Proofs.Text.Occurrence
import Clearance.Proofs.Word.Finding

/-!
# Whole words

A word rule looks for its word, blank characters at its ends cut off, as a whole: it matches a text
that can be cut around a piece that is the word up to case, such that no word character touches the
piece. Any character may be in the word, also boundary characters inside it and at its ends, and the
piece may lie anywhere, also across another one that a word character touches.
-/

set_option autoImplicit false

namespace Clearance.Word

open Clearance.Text

variable {rule : Rule} {rules : List Rule} {text : List Char}

/-- A word that is not blank is looked for without the blank characters at its ends. -/
theorem bucket_of_word (hword : rule.strategy = .word) (hne : strip rule.letters ≠ []) :
    rule.bucket = .pattern (.word (strip rule.letters)) := by
  unfold Rule.bucket wordBucket
  rw [hword]
  simp [hne]

/-- A word has no occurrence in the empty text. -/
theorem ne_nil_of_hasWord {word : List Char} (hne : word ≠ []) (h : hasWord word text = true) :
    text ≠ [] := by
  obtain ⟨before, front, after, rfl, hsame, _⟩ := hasWord_iff.1 h
  intro hempty
  obtain ⟨_, hrest⟩ := List.append_eq_nil_iff.1 hempty
  obtain ⟨rfl, _⟩ := List.append_eq_nil_iff.1 hrest
  exact hne (List.forall₂_nil_right_iff.1 hsame)

/-- A word rule that is not blank matches a text just if the text has a piece that is the stripped
word, character by character up to case, and what stands before the piece is empty or ends in a
boundary character, and what stands behind it is empty or begins with one. -/
theorem word_matches_bounded_pieces (hrule : rule ∈ rules) (hword : rule.strategy = .word)
    (hletter : ∃ c ∈ rule.letters, isBlank c = false) (text : List Char) :
    rule ∈ (compile rules).matching text ↔
      ∃ before piece after, text = before ++ (piece ++ after) ∧
        SameWord (strip rule.letters) piece ∧
        (∀ c ∈ before.getLast?, isBoundary c = true) ∧ ∀ c ∈ after.head?, isBoundary c = true := by
  have hne : strip rule.letters ≠ [] := by
    obtain ⟨c, hc, hother⟩ := hletter
    intro hempty
    rw [strip_eq_nil_iff.1 hempty c hc] at hother
    cases hother
  have hoccurs : rule ∈ (compile rules).matching text ↔
      hasWord (strip rule.letters) text = true := by
    rw [mem_matching_iff_of_pattern hrule (bucket_of_word hword hne)]
    exact and_iff_right_of_imp (ne_nil_of_hasWord hne)
  rw [hoccurs, hasWord_iff]
  simp only [EndsBounded, boundedAhead_iff]

/-- A word that ends in boundary characters, with blank characters around it. -/
def plusRule : Rule := ⟨1, some " C++ ", 11⟩

/-- The word is found behind a place where a word character touches it, and not if one touches it
everywhere. -/
theorem matching_plusRule : plusRule.strategy = .word ∧
    (∃ c ∈ plusRule.letters, isBlank c = false) ∧
    plusRule ∈ (compile [plusRule]).matching "ac++, (c++)".toList ∧
    plusRule ∉ (compile [plusRule]).matching "c++x".toList := by
  have hrule : plusRule ∈ [plusRule] := List.mem_singleton_self plusRule
  have hword : plusRule.strategy = .word := by decide
  have hletter : ∃ c ∈ plusRule.letters, isBlank c = false :=
    ⟨'C', by decide +kernel, by decide +kernel⟩
  refine ⟨hword, hletter, ?_, by decide +kernel⟩
  apply (word_matches_bounded_pieces hrule hword hletter _).2
  refine ⟨"ac++, (".toList, "c++".toList, ")".toList, by decide +kernel, by decide +kernel, ?_, ?_⟩
  · have hlast : "ac++, (".toList.getLast? = some '(' := by decide +kernel
    rw [hlast]
    rintro _ ⟨⟩
    decide +kernel
  · have hhead : ")".toList.head? = some ')' := by decide +kernel
    rw [hhead]
    rintro _ ⟨⟩
    decide +kernel

end Clearance.Word

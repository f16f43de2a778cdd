import Clearance.Proofs.Text.Occurrence
import Clearance.Proofs.Word.Finding

/-!
# Phrases are matched token by token

A phrase rule is compiled to the tokens of its word. It matches a text in which these tokens come
one after another among the tokens of the text, whatever separates them, and matches no other text
that keeps its boundaries. A phrase without tokens cannot be used: it is counted as skipped and
matches nothing.
-/

set_option autoImplicit false

namespace Clearance.Word

open Clearance.Text

variable {rule : Rule} {rules : List Rule}

theorem bucket_of_phrase (hphrase : rule.strategy = .phrase) : rule.bucket =
    if tokens rule.letters = [] then .unusable
    else .pattern (.phrase (tokens rule.letters)) := by
  unfold Rule.bucket phraseBucket
  rw [hphrase]
  dsimp only
  rw [tokens_strip]
  simp only [List.isEmpty_iff]

/-- A phrase with tokens matches a text just if its tokens occur there. -/
theorem mem_matching_phrase_iff (hrule : rule ∈ rules) (hphrase : rule.strategy = .phrase)
    (hne : tokens rule.letters ≠ []) {text : List Char} :
    rule ∈ (compile rules).matching text ↔ hasTokens (tokens rule.letters) text = true := by
  have hbucket := bucket_of_phrase hphrase
  rw [if_neg hne] at hbucket
  rw [mem_matching_iff_of_pattern hrule hbucket]
  constructor
  · rintro ⟨_, hoccurs⟩
    exact hoccurs
  · intro hoccurs
    refine ⟨?_, hoccurs⟩
    -- No token occurs in the empty text, as none is empty.
    rintro rfl
    obtain ⟨token, more, htokens⟩ := List.exists_cons_of_ne_nil hne
    have hmem : token ∈ tokens rule.letters := by
      rw [htokens]
      exact List.mem_cons_self
    have htoken : token ≠ [] := ne_nil_of_mem_tokens hmem
    obtain ⟨c, letters, rfl⟩ := List.exists_cons_of_ne_nil htoken
    rw [htokens] at hoccurs
    cases more <;> cases hoccurs

/-- The iota written below a letter separates words and passes for the letter iota. -/
theorem not_keepsBoundaries_ypogegrammeni : ¬KeepsBoundaries ['\u0345'] := by
  intro hkeeps
  have hother := hkeeps '\u0345' List.mem_cons_self (by decide +kernel) 'ι' (by decide +kernel)
  revert hother
  decide +kernel

/-- A phrase rule with tokens matches every text among whose tokens its own come one after another,
equal up to case, and of the texts that keep their boundaries no other. The iota written below a
letter is a boundary that a text does not keep. A phrase rule without tokens is skipped and matches
no text. -/
theorem phrase_matches_token_runs (hrule : rule ∈ rules) (hphrase : rule.strategy = .phrase)
    (text : List Char) :
    (tokens rule.letters ≠ [] →
      (IsRunOf (tokens rule.letters) text → rule ∈ (compile rules).matching text) ∧
      (KeepsBoundaries text → rule ∈ (compile rules).matching text →
        IsRunOf (tokens rule.letters) text)) ∧
    ¬KeepsBoundaries ['\u0345'] ∧
    (tokens rule.letters = [] →
      (compile (rule :: rules)).skipped = (compile rules).skipped + 1 ∧
      rule ∉ (compile rules).matching text) := by
  refine ⟨?_, not_keepsBoundaries_ypogegrammeni, ?_⟩
  · intro hne
    have hmatching := @mem_matching_phrase_iff rule rules hrule hphrase hne text
    constructor
    · intro hrun
      exact hmatching.2 (hasTokens_of_isRunOf hne hrun)
    · intro hkeeps hmatches
      exact isRunOf_of_hasTokens (fun _ htoken => ne_nil_of_mem_tokens htoken)
        (fun _ htoken => isWordChar_of_mem_tokens htoken) hkeeps (hmatching.1 hmatches)
  · intro hempty
    have hbucket := bucket_of_phrase hphrase
    rw [if_pos hempty] at hbucket
    constructor
    · have hskipped : (rule.bucket == .unusable) = true := by rw [hbucket]; rfl
      exact @List.countP_cons_of_pos _ (fun rule : Rule => rule.bucket == .unusable) _ _ hskipped
    · rw [mem_matching_iff]
      rintro ⟨_, _, hmatches⟩
      unfold Rule.matchesText at hmatches
      rw [hbucket] at hmatches
      cases hmatches

/-- A phrase of two tokens with much between and around them. -/
def knifeSet : Rule := ⟨1, some " Pen-knife,  SET!", 21⟩

/-- The tokens come one after another in the first text, and apart in the second. -/
theorem matching_knifeSet : knifeSet.strategy = .phrase ∧
    knifeSet ∈ (compile [knifeSet]).matching "1 pen-knife / set (blue)".toList ∧
    KeepsBoundaries "pen-knife and set".toList ∧
    knifeSet ∉ (compile [knifeSet]).matching "pen-knife and set".toList := by
  have hrule : knifeSet ∈ [knifeSet] := List.mem_singleton_self knifeSet
  have hphrase : knifeSet.strategy = .phrase := by decide
  have hsequence : tokens knifeSet.letters = ["Pen-knife".toList, "SET".toList] := by
    decide +kernel
  have hne : tokens knifeSet.letters ≠ [] := by
    rw [hsequence]
    exact List.cons_ne_nil _ _
  have hascii : ("pen-knife and set".toList.all fun c => decide (c.toNat < 0x80)) = true := by
    decide +kernel
  have hkeeps : KeepsBoundaries "pen-knife and set".toList :=
    keepsBoundaries_of_ascii fun c hc => of_decide_eq_true (List.all_eq_true.1 hascii c hc)
  refine ⟨hphrase, ?_, hkeeps, ?_⟩
  · refine ((phrase_matches_token_runs hrule hphrase _).1 hne).1
      ⟨["pen-knife".toList, "set".toList], ?_, ["1".toList], ["blue".toList], ?_⟩
    · decide +kernel
    · decide +kernel
  · intro hmatches
    have htokens : tokens "pen-knife and set".toList =
        ["pen-knife".toList, "and".toList, "set".toList] := by decide +kernel
    obtain ⟨run, hsame, hrun⟩ :=
      ((phrase_matches_token_runs hrule hphrase _).1 hne).2 hkeeps hmatches
    rw [hsequence] at hsame
    rw [htokens, List.infix_cons_iff, List.infix_cons_iff] at hrun
    obtain ⟨knife, _, hknife, hmore, rfl⟩ := List.forall₂_cons_left_iff.1 hsame
    obtain ⟨set, _, hset, _, rfl⟩ := List.forall₂_cons_left_iff.1 hmore
    rcases hrun with hfirst | hsecond | hthird
    · obtain ⟨_, hrest⟩ := List.cons_prefix_cons.1 hfirst
      obtain ⟨rfl, _⟩ := List.cons_prefix_cons.1 hrest
      revert hset
      decide +kernel
    · obtain ⟨rfl, _⟩ := List.cons_prefix_cons.1 hsecond
      revert hknife
      decide +kernel
    · exact absurd hthird.length_le (by simp)

/-- A text without a token is matched where its boundary passes for the letter. -/
example : tokens ['\u0345'] = [] ∧ hasTokens (tokens ['ι']) ['\u0345'] = true := by
  decide +kernel

end Clearance.Word

import Clearance.Proofs.Word.Phrase
import Clearance.Proofs.Word.Whole

/-!
# A whole word relaxed to a phrase

The same word can be looked for as a whole or as a phrase. As a whole it keeps what stands between
and around its tokens; as a phrase it gives this up for any gap. So the phrase matches wherever the
whole word does, if no boundary character of the word passes for a letter: else the whole word could
stand where the phrase needs a gap and finds none. What the text has for boundaries does not matter.
A word without boundary characters is a phrase of one token, and nothing is given up.
-/

set_option autoImplicit false

namespace Clearance.Word

open Clearance.Text

variable {rule relaxed : Rule} {rules others : List Rule}

/-- A word rule and a phrase rule have the same word, and the word has a token. If it keeps its
boundaries (the iota written below a letter is one that is not kept), the phrase rule matches every
text that the word rule matches; if the stripped word is made of word characters, the two match the
same texts. The text may hold any characters. -/
theorem word_relaxes_to_phrase (hrule : rule ∈ rules) (hrelaxed : relaxed ∈ others)
    (hword : rule.strategy = .word) (hphrase : relaxed.strategy = .phrase)
    (hletters : relaxed.letters = rule.letters) (hne : tokens rule.letters ≠ []) :
    (KeepsBoundaries rule.letters → ∀ text,
      rule ∈ (compile rules).matching text → relaxed ∈ (compile others).matching text) ∧
    ((∀ c ∈ strip rule.letters, isWordChar c = true) → ∀ text,
      rule ∈ (compile rules).matching text ↔ relaxed ∈ (compile others).matching text) ∧
    ¬KeepsBoundaries ['\u0345'] := by
  -- Both rules are compiled from the stripped word.
  rw [← tokens_strip] at hne
  have hstripped : strip rule.letters ≠ [] := by
    intro hempty
    rw [hempty] at hne
    exact hne rfl
  have hwhole := fun text => @mem_matching_iff_of_pattern rules text rule _ hrule
    (bucket_of_word hword hstripped)
  have hsequence : tokens relaxed.letters = tokens (strip rule.letters) := by
    rw [hletters, tokens_strip]
  have htokens := fun text => @mem_matching_phrase_iff relaxed others hrelaxed hphrase
    (hsequence ▸ hne) text
  simp only [hsequence] at htokens
  refine ⟨?_, ?_, not_keepsBoundaries_ypogegrammeni⟩
  · intro hkeeps text hmatches
    obtain ⟨_, hoccurs⟩ := (hwhole text).1 hmatches
    exact (htokens text).2 (hasTokens_of_hasWord (keepsBoundaries_strip hkeeps) hne hoccurs)
  · intro hinside text
    rw [hwhole, htokens, hasTokens_of_word hstripped hinside]
    exact and_iff_right_of_imp (ne_nil_of_hasWord hstripped)

/-- A word looked for as a whole. -/
def asWhole (word : String) : Rule := ⟨1, some word, 11⟩

/-- A word looked for as a phrase. -/
def asPhrase (word : String) : Rule := ⟨2, some word, 21⟩

/-- A word of two tokens with brackets and a mark is found as a phrase where it is found as a whole.
A word with a hyphen, blank characters around it, is found as a phrase only as a whole. -/
theorem relaxed_penKnife :
    (asWhole " (Pen) knife! ").strategy = .word ∧ (asPhrase " (Pen) knife! ").strategy = .phrase ∧
    (asPhrase " (Pen) knife! ").letters = (asWhole " (Pen) knife! ").letters ∧
    tokens (asWhole " (Pen) knife! ").letters ≠ [] ∧
    KeepsBoundaries (asWhole " (Pen) knife! ").letters ∧
    asWhole " (Pen) knife! " ∈
      (compile [asWhole " (Pen) knife! "]).matching "a (PEN) KNIFE!".toList ∧
    asPhrase " (Pen) knife! " ∈
      (compile [asPhrase " (Pen) knife! "]).matching "a (PEN) KNIFE!".toList ∧
    tokens (asWhole " Pen-knife ").letters ≠ [] ∧
    (∀ c ∈ strip (asWhole " Pen-knife ").letters, isWordChar c = true) ∧
    asPhrase " Pen-knife " ∈
      (compile [asPhrase " Pen-knife "]).matching "a pen-KNIFE!".toList ∧
    asPhrase " Pen-knife " ∉
      (compile [asPhrase " Pen-knife "]).matching "a pen knife!".toList := by
  have hrelaxes := fun word : String =>
    @word_relaxes_to_phrase (asWhole word) (asPhrase word) [asWhole word] [asPhrase word]
      (List.mem_singleton_self _) (List.mem_singleton_self _) rfl rfl rfl
  have hmarked : tokens (asWhole " (Pen) knife! ").letters ≠ [] := by decide +kernel
  have hascii : (" (Pen) knife! ".toList.all fun c => decide (c.toNat < 0x80)) = true := by
    decide +kernel
  have hkeeps : KeepsBoundaries (asWhole " (Pen) knife! ").letters :=
    keepsBoundaries_of_ascii fun c hc => of_decide_eq_true (List.all_eq_true.1 hascii c hc)
  have hmatches : asWhole " (Pen) knife! " ∈
      (compile [asWhole " (Pen) knife! "]).matching "a (PEN) KNIFE!".toList := by decide +kernel
  have hhyphen : tokens (asWhole " Pen-knife ").letters ≠ [] := by decide +kernel
  have hall : (strip (asWhole " Pen-knife ").letters).all isWordChar = true := by decide +kernel
  have hinside : ∀ c ∈ strip (asWhole " Pen-knife ").letters, isWordChar c = true :=
    List.all_eq_true.1 hall
  obtain ⟨_, hsame, _⟩ := hrelaxes " Pen-knife " hhyphen
  refine ⟨rfl, rfl, rfl, hmarked, hkeeps, hmatches, ?_, hhyphen, hinside, ?_, ?_⟩
  · exact (hrelaxes " (Pen) knife! " hmarked).1 hkeeps _ hmatches
  · exact (hsame hinside _).1 (by decide +kernel)
  · intro hfound
    have hwhole := (hsame hinside _).2 hfound
    revert hwhole
    decide +kernel

/-- A phrase has matches that the whole word has not. A whole word has matches that the phrase has
not, if a boundary of the word passes for a letter of the text. -/
example :
    hasWord "(pen) knife".toList "pen knife".toList = false ∧
    hasTokens (tokens "(pen) knife".toList) "pen knife".toList = true ∧
    hasWord "α\u0345β".toList "αιβ".toList = true ∧
    hasTokens (tokens "α\u0345β".toList) "αιβ".toList = false := by
  decide +kernel

end Clearance.Word

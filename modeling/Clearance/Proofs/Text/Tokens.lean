import Mathlib.Data.List.Basic
import Mathlib.Data.List.TakeWhile
import Clearance.Text.Blank
import Clearance.Text.Occurrence

/-!
# Where the tokens of a text stand

The tokens of a text are the pieces between its boundary characters, the empty ones left out. So a
text that is cut next to a boundary character has the tokens of its two parts, and every token
stands in its text between boundary characters or the ends of the text. Blank characters are
boundaries, and cutting them off at the ends of a text leaves its tokens as they are.
-/

set_option autoImplicit false

namespace Clearance.Text

theorem tokensFrom_eq_filter (begun text : List Char) :
    tokensFrom begun text =
      (List.splitOnPPrepend isBoundary text begun.reverse).filter fun piece => !piece.isEmpty := by
  induction text generalizing begun with
  | nil =>
    rw [List.splitOnPPrepend_nil, List.reverse_reverse, tokensFrom]
    cases begun <;> rfl
  | cons c rest ih =>
    rw [List.splitOnPPrepend_cons_eq_if, tokensFrom]
    cases hc : isWordChar c with
    | true =>
      have hinside : isBoundary c = false := (not_isBoundary_iff c).2 hc
      have hbegun : c :: begun.reverse = (begun ++ [c]).reverse := by simp
      rw [if_pos rfl, ih, hbegun, hinside, if_neg Bool.false_ne_true]
    | false =>
      have hbound : isBoundary c = true := by rw [isBoundary, hc, Bool.not_false]
      rw [hbound, if_neg Bool.false_ne_true, if_pos rfl, List.reverse_reverse, List.filter_cons,
        ih, List.reverse_nil, ← List.splitOnP_eq_splitOnPPrepend]
      cases begun <;> rfl

/-- The tokens are the pieces between boundary characters, the empty ones left out. -/
theorem tokens_eq_filter_splitOnP (text : List Char) :
    tokens text = (text.splitOnP isBoundary).filter fun piece => !piece.isEmpty :=
  tokensFrom_eq_filter [] text

theorem isWordChar_of_mem_tokens {text token : List Char} (h : token ∈ tokens text) :
    ∀ c ∈ token, isWordChar c = true := fun _ hc =>
  isWordChar_of_mem_tokensFrom (fun _ hbegun => absurd hbegun List.not_mem_nil) h hc

theorem ne_nil_of_mem_tokens {text token : List Char} (h : token ∈ tokens text) : token ≠ [] :=
  ne_nil_of_mem_tokensFrom h

/-! ## A text cut into two -/

/-- No word character stands at the end of a text. -/
def EndsBounded (text : List Char) : Prop := ∀ c ∈ text.getLast?, isBoundary c = true

variable {before after gap word text : List Char} {c : Char}

theorem endsBounded_nil : EndsBounded [] := nofun

theorem tokens_append_cons (hc : isBoundary c = true) :
    tokens (before ++ c :: after) = tokens before ++ tokens after := by
  rw [tokens_eq_filter_splitOnP, List.splitOnP_append_cons before after hc, List.filter_append,
    ← tokens_eq_filter_splitOnP, ← tokens_eq_filter_splitOnP]

theorem tokens_append_of_endsBounded (h : EndsBounded before) :
    tokens (before ++ after) = tokens before ++ tokens after := by
  rcases List.eq_nil_or_concat before with rfl | ⟨init, last, rfl⟩
  · rfl
  · have hlast : isBoundary last = true := h last (by simp)
    rw [List.concat_eq_append, List.append_assoc, List.singleton_append, tokens_append_cons hlast,
      tokens_append_cons hlast]
    change _ = tokens init ++ [] ++ _
    rw [List.append_nil]

theorem tokens_append_of_boundedAhead (h : boundedAhead after = true) :
    tokens (before ++ after) = tokens before ++ tokens after := by
  cases after with
  | nil =>
    rw [List.append_nil]
    exact (List.append_nil _).symm
  | cons c rest =>
    have hrest : tokens (c :: rest) = tokens rest := @tokens_append_cons [] rest c h
    rw [tokens_append_cons h, hrest]

theorem tokens_of_gap (h : ∀ c ∈ gap, isBoundary c = true) : tokens gap = [] := by
  induction gap with
  | nil => rfl
  | cons c rest ih =>
    have hrest := ih fun d hd => h d (List.mem_cons_of_mem c hd)
    have hc := @tokens_append_cons [] rest c (h c List.mem_cons_self)
    rw [hrest] at hc
    exact hc

theorem tokens_of_word (hne : word ≠ []) (hword : ∀ c ∈ word, isWordChar c = true) :
    tokens word = [word] := by
  have hinside : ∀ c ∈ word, isBoundary c = false := fun c hc =>
    (not_isBoundary_iff c).2 (hword c hc)
  rw [tokens_eq_filter_splitOnP, List.splitOnP_eq_singleton hinside]
  cases word with
  | nil => exact absurd rfl hne
  | cons c rest => rfl

theorem endsBounded_of_gap (h : ∀ c ∈ gap, isBoundary c = true) : EndsBounded gap :=
  fun c hc => h c (List.mem_of_getLast? hc)

theorem boundedAhead_of_gap (h : ∀ c ∈ gap, isBoundary c = true) : boundedAhead gap = true := by
  cases gap with
  | nil => rfl
  | cons c rest => exact h c List.mem_cons_self

theorem boundedAhead_iff : boundedAhead text = true ↔ ∀ c ∈ text.head?, isBoundary c = true := by
  cases text with
  | nil => simp [boundedAhead]
  | cons c rest => simp [boundedAhead]

theorem endsBounded_cons :
    EndsBounded (c :: text) ↔ (text = [] → isBoundary c = true) ∧ EndsBounded text := by
  unfold EndsBounded
  cases text with
  | nil => simp
  | cons d rest => simp [List.getLast?_cons_cons]

theorem EndsBounded.append (hne : after ≠ []) (h : EndsBounded after) :
    EndsBounded (before ++ after) := by
  unfold EndsBounded
  rw [List.getLast?_append_of_ne_nil before hne]
  exact h

theorem endsBounded_append_gap (hbefore : EndsBounded before)
    (hgap : ∀ c ∈ gap, isBoundary c = true) : EndsBounded (before ++ gap) := by
  rcases eq_or_ne gap [] with rfl | hne
  · rwa [List.append_nil]
  · exact (endsBounded_of_gap hgap).append hne

/-- A word between boundaries is a token. -/
theorem tokens_around (hbefore : EndsBounded before) (hne : word ≠ [])
    (hword : ∀ c ∈ word, isWordChar c = true) (hafter : boundedAhead after = true) :
    tokens (before ++ (word ++ after)) = tokens before ++ word :: tokens after := by
  rw [tokens_append_of_endsBounded hbefore, tokens_append_of_boundedAhead hafter,
    tokens_of_word hne hword, List.singleton_append]

/-- No word begins where a text is bounded. -/
theorem not_boundedAhead_of_word (hne : word ≠ []) (hword : ∀ c ∈ word, isWordChar c = true) :
    boundedAhead (word ++ after) = false := by
  cases word with
  | nil => exact absurd rfl hne
  | cons c rest => exact (not_isBoundary_iff c).2 (hword c List.mem_cons_self)

/-- What stands between the end of one word and the next is not empty. -/
theorem ne_nil_of_boundedAhead (hahead : boundedAhead (gap ++ (word ++ after)) = true)
    (hword : word ∈ tokens (gap ++ (word ++ after))) : gap ≠ [] := by
  rintro rfl
  rw [List.nil_append, not_boundedAhead_of_word (ne_nil_of_mem_tokens hword)
    (isWordChar_of_mem_tokens hword)] at hahead
  cases hahead

/-! ## The place of a token -/

theorem boundedAhead_dropWhile (text : List Char) :
    boundedAhead (text.dropWhile isWordChar) = true := by
  cases hrest : text.dropWhile isWordChar with
  | nil => rfl
  | cons c rest =>
    have hhead := List.head_dropWhile_not isWordChar (l := text) (by simp [hrest])
    simp only [hrest, List.head_cons] at hhead
    simp [boundedAhead, isBoundary, hhead]

/-- Behind the gap at the front of a text stands a word, if anything does. -/
theorem takeWhile_dropWhile_ne_nil (h : text.dropWhile isBoundary ≠ []) :
    (text.dropWhile isBoundary).takeWhile isWordChar ≠ [] := by
  have hhead := List.head_dropWhile_not isBoundary h
  rw [not_isBoundary_iff] at hhead
  obtain ⟨c, rest, hrest⟩ := List.exists_cons_of_ne_nil h
  have hc : isWordChar c = true := by simpa only [hrest, List.head_cons] using hhead
  rw [hrest, List.takeWhile_cons, if_pos hc]
  exact List.cons_ne_nil _ _

/-- The first token stands behind a gap. -/
theorem exists_of_tokens_eq_cons {first : List Char} {rest : List (List Char)}
    (h : tokens text = first :: rest) :
    ∃ gap after, text = gap ++ (first ++ after) ∧ (∀ c ∈ gap, isBoundary c = true) ∧
      boundedAhead after = true ∧ tokens after = rest := by
  let gap := text.takeWhile isBoundary
  let body := text.dropWhile isBoundary
  have hgap : ∀ c ∈ gap, isBoundary c = true := fun c hc => List.mem_takeWhile_imp hc
  have htext : gap ++ body = text := List.takeWhile_append_dropWhile
  have hbody : tokens body = first :: rest := by
    rw [← htext, tokens_append_of_endsBounded (endsBounded_of_gap hgap), tokens_of_gap hgap] at h
    exact h
  let word := body.takeWhile isWordChar
  let after := body.dropWhile isWordChar
  have hword : ∀ c ∈ word, isWordChar c = true := fun c hc => List.mem_takeWhile_imp hc
  have hsplit : word ++ after = body := List.takeWhile_append_dropWhile
  have hafter : boundedAhead after = true := boundedAhead_dropWhile body
  have hne : word ≠ [] := by
    apply takeWhile_dropWhile_ne_nil
    intro hempty
    rw [show body = [] from hempty] at hbody
    cases hbody
  have htokens : word :: tokens after = first :: rest := by
    rw [← hbody, ← hsplit]
    exact (@tokens_around [] after word endsBounded_nil hne hword hafter).symm
  obtain ⟨rfl, hrest⟩ := List.cons.inj htokens
  exact ⟨gap, after, by rw [hsplit, htext], hgap, hafter, hrest⟩

/-- Every token stands in its text between boundaries, with the tokens that come after it behind. -/
theorem exists_of_tokens_eq_append {token : List Char} {firsts rest : List (List Char)}
    (h : tokens text = firsts ++ token :: rest) :
    ∃ before after, text = before ++ (token ++ after) ∧ EndsBounded before ∧
      boundedAhead after = true ∧ tokens after = rest := by
  induction firsts generalizing text with
  | nil =>
    obtain ⟨gap, after, htext, hgap, hafter, hrest⟩ := exists_of_tokens_eq_cons h
    exact ⟨gap, after, htext, endsBounded_of_gap hgap, hafter, hrest⟩
  | cons first firsts ih =>
    obtain ⟨gap, behind, rfl, _, hbehind, hmore⟩ := exists_of_tokens_eq_cons h
    obtain ⟨before, after, rfl, hbefore, hafter, hrest⟩ := ih hmore
    have htoken : token ∈ tokens (before ++ (token ++ after)) := by
      rw [hmore]
      exact List.mem_append_right _ List.mem_cons_self
    -- The two tokens do not touch.
    have hne : before ≠ [] := ne_nil_of_boundedAhead hbehind htoken
    refine ⟨gap ++ (first ++ before), after, by simp, ?_, hafter, hrest⟩
    rw [← List.append_assoc]
    exact hbefore.append hne

/-! ## Blank characters at the ends -/

theorem isBoundary_of_isBlank (h : isBlank c = true) : isBoundary c = true := by
  have hall : ∀ n ∈ [0x09, 0x0A, 0x0B, 0x0C, 0x0D, 0x1C, 0x1D, 0x1E, 0x1F, 0x20, 0x85, 0xA0,
      0x1680, 0x2000, 0x2001, 0x2002, 0x2003, 0x2004, 0x2005, 0x2006, 0x2007, 0x2008, 0x2009,
      0x200A, 0x2028, 0x2029, 0x202F, 0x205F, 0x3000], isBoundary (Char.ofNat n) = true := by
    decide +kernel
  rw [← Char.ofNat_toNat c]
  apply hall
  simp only [isBlank, Bool.or_eq_true, Bool.and_eq_true, decide_eq_true_eq, beq_iff_eq] at h
  simp only [List.mem_cons, List.not_mem_nil, or_false]
  omega

/-- Only blank characters are cut off at the end of a text. -/
theorem exists_stripEnd (text : List Char) :
    ∃ back, text = stripEnd text ++ back ∧ ∀ c ∈ back, isBlank c = true := by
  refine ⟨(text.reverse.takeWhile isBlank).reverse, ?_, ?_⟩
  · rw [stripEnd, ← List.reverse_append, List.takeWhile_append_dropWhile, List.reverse_reverse]
  · intro c hc
    exact List.mem_takeWhile_imp (List.mem_reverse.1 hc)

/-- Only blank characters are cut off at the ends of a text. -/
theorem exists_strip (text : List Char) :
    ∃ front back, text = front ++ (strip text ++ back) ∧ (∀ c ∈ front, isBlank c = true) ∧
      ∀ c ∈ back, isBlank c = true := by
  obtain ⟨back, hback, hblank⟩ := exists_stripEnd (text.dropWhile isBlank)
  refine ⟨text.takeWhile isBlank, back, ?_, fun c hc => List.mem_takeWhile_imp hc, hblank⟩
  rw [strip, ← hback, List.takeWhile_append_dropWhile]

/-- Nothing is left of a blank text, and something of any other. -/
theorem strip_eq_nil_iff : strip text = [] ↔ ∀ c ∈ text, isBlank c = true := by
  constructor
  · intro hempty
    obtain ⟨front, back, htext, hfront, hback⟩ := exists_strip text
    rw [hempty, List.nil_append] at htext
    intro c hc
    rw [htext] at hc
    exact (List.mem_append.1 hc).elim (hfront c) (hback c)
  · intro hblank
    rw [strip, List.dropWhile_eq_nil_iff.2 hblank]
    rfl

theorem tokens_strip (text : List Char) : tokens (strip text) = tokens text := by
  obtain ⟨front, back, htext, hfront, hback⟩ := exists_strip text
  have hgap : ∀ gap : List Char, (∀ c ∈ gap, isBlank c = true) → ∀ c ∈ gap, isBoundary c = true :=
    fun gap hblank c hc => isBoundary_of_isBlank (hblank c hc)
  have hahead := boundedAhead_of_gap (hgap back hback)
  calc tokens (strip text)
    _ = tokens front ++ (tokens (strip text) ++ tokens back) := by
      rw [tokens_of_gap (hgap front hfront), tokens_of_gap (hgap back hback), List.append_nil,
        List.nil_append]
    _ = tokens (front ++ (strip text ++ back)) := by
      rw [tokens_append_of_endsBounded (endsBounded_of_gap (hgap front hfront)),
        tokens_append_of_boundedAhead hahead]
    _ = tokens text := by rw [← htext]

end Clearance.Text

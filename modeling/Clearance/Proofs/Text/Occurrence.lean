import Mathlib.Data.List.Forall2
import Clearance.Proofs.Text.Tokens

/-!
# What an occurrence says of the tokens

A word stands at the front of a text if the text can be cut behind a word that is the same up to
case, and a phrase stands in a text if the text can be cut into such words with gaps between them.
A phrase whose tokens come one after another among the tokens of a text occurs in it. The other way
round a boundary character of the text may pass for a letter of a token; where none does, an
occurrence shows the tokens of the phrase among those of the text. A word of which no boundary
character passes for a letter shows its tokens wherever it occurs, with gaps where it has gaps.
-/

set_option autoImplicit false

namespace Clearance.Text

/-- Two words that are the same up to case, letter by letter. -/
def SameWord : List Char → List Char → Prop := List.Forall₂ fun a b => sameLetter a b = true

instance (word other : List Char) : Decidable (SameWord word other) :=
  inferInstanceAs (Decidable (List.Forall₂ (fun a b => sameLetter a b = true) word other))

/-- Some tokens come one after another among the tokens of a text, up to case. -/
def IsRunOf (sequence : List (List Char)) (text : List Char) : Prop :=
  ∃ run, List.Forall₂ SameWord sequence run ∧ run <:+: tokens text

/-- No boundary character of a text passes for a word character. -/
def KeepsBoundaries (text : List Char) : Prop :=
  ∀ c ∈ text, isBoundary c = true → ∀ d, isWordChar d = true → sameLetter d c = false

variable {word token text : List Char} {sequence : List (List Char)}

/-! ## Cutting a text at what stands in it -/

theorem afterWord?_eq_some_iff {rest : List Char} :
    afterWord? word text = some rest ↔ ∃ front, text = front ++ rest ∧ SameWord word front := by
  unfold SameWord
  induction word generalizing text with
  | nil => simp [afterWord?]
  | cons p word ih =>
    simp only [List.forall₂_cons_left_iff]
    cases text with
    | nil =>
      constructor
      · rintro ⟨⟩
      · rintro ⟨_, htext, c, front, _, _, rfl⟩
        cases htext
    | cons c text =>
      unfold afterWord?
      split
      · next hletter =>
        rw [ih]
        constructor
        · rintro ⟨front, rfl, hword⟩
          exact ⟨c :: front, rfl, c, front, hletter, hword, rfl⟩
        · rintro ⟨_, htext, d, front, _, hword, rfl⟩
          exact ⟨front, (List.cons.inj htext).2, hword⟩
      · next hletter =>
        constructor
        · rintro ⟨⟩
        · rintro ⟨_, htext, d, front, hother, _, rfl⟩
          obtain ⟨rfl, _⟩ := List.cons.inj htext
          exact absurd hother hletter

theorem overGap_iff {next : List Char → Bool} :
    overGap next text = true ↔ ∃ gap rest, text = gap ++ rest ∧ gap ≠ [] ∧
      (∀ c ∈ gap, isBoundary c = true) ∧ next rest = true := by
  induction text with
  | nil =>
    constructor
    · rintro ⟨⟩
    · rintro ⟨gap, rest, htext, hne, _⟩
      exact absurd (List.append_eq_nil_iff.1 htext.symm).1 hne
  | cons c text ih =>
    rw [overGap, Bool.and_eq_true, Bool.or_eq_true, ih]
    constructor
    · rintro ⟨hc, hnext | ⟨gap, rest, rfl, _, hgap, hnext⟩⟩
      · exact ⟨[c], text, rfl, List.cons_ne_nil c [], by simpa using hc, hnext⟩
      · exact ⟨c :: gap, rest, rfl, List.cons_ne_nil c gap, by simpa using ⟨hc, hgap⟩, hnext⟩
    · rintro ⟨gap, rest, htext, hne, hgap, hnext⟩
      obtain ⟨d, more, rfl⟩ := List.exists_cons_of_ne_nil hne
      obtain ⟨rfl, rfl⟩ := List.cons.inj htext
      refine ⟨hgap c List.mem_cons_self, ?_⟩
      cases more with
      | nil => exact .inl hnext
      | cons d more => exact .inr ⟨d :: more, rest, rfl, List.cons_ne_nil d more,
          fun e he => hgap e (List.mem_cons_of_mem c he), hnext⟩

theorem somewhereBounded_iff {here : List Char → Bool} {bounded : Bool} :
    somewhereBounded here bounded text = true ↔ ∃ before after, text = before ++ after ∧
      (before = [] → bounded = true) ∧ EndsBounded before ∧ here after = true := by
  induction text generalizing bounded with
  | nil =>
    rw [somewhereBounded, Bool.and_eq_true]
    constructor
    · rintro ⟨hbounded, hhere⟩
      exact ⟨[], [], rfl, fun _ => hbounded, endsBounded_nil, hhere⟩
    · rintro ⟨before, after, htext, hbounded, _, hhere⟩
      obtain ⟨rfl, rfl⟩ := List.append_eq_nil_iff.1 htext.symm
      exact ⟨hbounded rfl, hhere⟩
  | cons c text ih =>
    rw [somewhereBounded, Bool.or_eq_true, Bool.and_eq_true, ih]
    constructor
    · rintro (⟨hbounded, hhere⟩ | ⟨before, after, rfl, hc, hends, hhere⟩)
      · exact ⟨[], c :: text, rfl, fun _ => hbounded, endsBounded_nil, hhere⟩
      · exact ⟨c :: before, after, rfl, nofun, endsBounded_cons.2 ⟨hc, hends⟩, hhere⟩
    · rintro ⟨before, after, htext, hbounded, hends, hhere⟩
      cases before with
      | nil =>
        rw [List.nil_append] at htext
        exact .inl ⟨hbounded rfl, htext ▸ hhere⟩
      | cons d before =>
        obtain ⟨rfl, rfl⟩ := List.cons.inj htext
        obtain ⟨hc, hends⟩ := endsBounded_cons.1 hends
        exact .inr ⟨before, after, rfl, hc, hends, hhere⟩

theorem wordHere_iff : wordHere word text = true ↔
    ∃ front after, text = front ++ after ∧ SameWord word front ∧ boundedAhead after = true := by
  rw [wordHere]
  constructor
  · intro h
    split at h
    · next rest hafter =>
      obtain ⟨front, rfl, hword⟩ := afterWord?_eq_some_iff.1 hafter
      exact ⟨front, rest, rfl, hword, h⟩
    · cases h
  · rintro ⟨front, after, rfl, hword, hafter⟩
    rw [afterWord?_eq_some_iff.2 ⟨front, rfl, hword⟩]
    exact hafter

/-- A word has a bounded occurrence in a text if the text can be cut around it, next to boundary
characters or at its ends. -/
theorem hasWord_iff : hasWord word text = true ↔
    ∃ before front after, text = before ++ (front ++ after) ∧ SameWord word front ∧
      EndsBounded before ∧ boundedAhead after = true := by
  rw [hasWord, somewhereBounded_iff]
  constructor
  · rintro ⟨before, _, rfl, _, hbefore, hhere⟩
    obtain ⟨front, after, rfl, hword, hafter⟩ := wordHere_iff.1 hhere
    exact ⟨before, front, after, rfl, hword, hbefore, hafter⟩
  · rintro ⟨before, front, after, rfl, hword, hbefore, hafter⟩
    exact ⟨before, front ++ after, rfl, fun _ => rfl, hbefore,
      wordHere_iff.2 ⟨front, after, rfl, hword, hafter⟩⟩

/-- A phrase of several tokens stands at the front of a text if the text can be cut behind its first
token and behind a gap, and the other tokens stand there. -/
theorem tokensHere_cons_iff {next : List Char} : tokensHere (token :: next :: sequence) text = true ↔
    ∃ front gap after, text = front ++ (gap ++ after) ∧ SameWord token front ∧ gap ≠ [] ∧
      (∀ c ∈ gap, isBoundary c = true) ∧ tokensHere (next :: sequence) after = true := by
  rw [tokensHere]
  constructor
  · intro h
    split at h
    · next rest hrest =>
      obtain ⟨front, rfl, htoken⟩ := afterWord?_eq_some_iff.1 hrest
      obtain ⟨gap, after, rfl, hne, hgap, hnext⟩ := overGap_iff.1 h
      exact ⟨front, gap, after, rfl, htoken, hne, hgap, hnext⟩
    · cases h
  · rintro ⟨front, gap, after, rfl, htoken, hne, hgap, hnext⟩
    rw [afterWord?_eq_some_iff.2 ⟨front, rfl, htoken⟩]
    exact overGap_iff.2 ⟨gap, after, rfl, hne, hgap, hnext⟩

/-! ## From tokens to an occurrence -/

/-- Tokens that come one after another stand where the first of them does. -/
theorem tokensHere_of_run {front after : List Char} {run rest : List (List Char)}
    (htoken : SameWord token front) (hafter : boundedAhead after = true)
    (hrun : List.Forall₂ SameWord sequence run) (htokens : tokens after = run ++ rest) :
    tokensHere (token :: sequence) (front ++ after) = true := by
  induction sequence generalizing token front after run with
  | nil => exact wordHere_iff.2 ⟨front, after, rfl, htoken, hafter⟩
  | cons next more ih =>
    obtain ⟨second, run, hnext, hmore, rfl⟩ := List.forall₂_cons_left_iff.1 hrun
    obtain ⟨gap, behind, rfl, hgap, hbehind, hrest⟩ := exists_of_tokens_eq_cons htokens
    have hsecond : second ∈ tokens (gap ++ (second ++ behind)) := by
      rw [htokens]
      exact List.mem_cons_self
    have hne : gap ≠ [] := ne_nil_of_boundedAhead hafter hsecond
    exact tokensHere_cons_iff.2 ⟨front, gap, _, rfl, htoken, hne, hgap,
      ih hnext hbehind hmore hrest⟩

/-- A phrase whose tokens come one after another among those of a text occurs in the text. -/
theorem hasTokens_of_isRunOf (hne : sequence ≠ []) (h : IsRunOf sequence text) :
    hasTokens sequence text = true := by
  obtain ⟨run, hrun, firsts, lasts, htokens⟩ := h
  obtain ⟨token, more, rfl⟩ := List.exists_cons_of_ne_nil hne
  obtain ⟨front, run, htoken, hmore, rfl⟩ := List.forall₂_cons_left_iff.1 hrun
  rw [List.append_assoc, List.cons_append] at htokens
  obtain ⟨before, after, htext, hbefore, hafter, hrest⟩ :=
    exists_of_tokens_eq_append htokens.symm
  exact somewhereBounded_iff.2 ⟨before, front ++ after, htext, fun _ => rfl, hbefore,
    tokensHere_of_run htoken hafter hmore hrest⟩

/-! ## From an occurrence to tokens -/

/-- What passes for a word in a text that keeps its boundaries is a word. -/
theorem isWordChar_of_sameWord {front : List Char} (h : SameWord word front)
    (hword : ∀ c ∈ word, isWordChar c = true) (hkeeps : KeepsBoundaries text)
    (hfront : ∀ c ∈ front, c ∈ text) : ∀ c ∈ front, isWordChar c = true := by
  unfold SameWord at h
  induction h with
  | nil => exact nofun
  | @cons d c word front hletter _ ih =>
    have hc : isWordChar c = true := by
      by_contra hnot
      have hboundary : isBoundary c = true := by rw [isBoundary, Bool.eq_false_iff.2 hnot]; rfl
      rw [hkeeps c (hfront c List.mem_cons_self) hboundary d (hword d List.mem_cons_self)]
        at hletter
      cases hletter
    intro e he
    rcases List.mem_cons.1 he with rfl | he
    · exact hc
    · exact ih (fun e he => hword e (List.mem_cons_of_mem _ he))
        (fun e he => hfront e (List.mem_cons_of_mem _ he)) e he

/-- What passes for a word and stands bounded at the front of a text that keeps its boundaries is
the first token. -/
theorem tokens_of_sameWord {front rest : List Char} (hne : word ≠ [])
    (hword : ∀ c ∈ word, isWordChar c = true) (hsame : SameWord word front)
    (hkeeps : KeepsBoundaries (front ++ rest)) (hrest : boundedAhead rest = true) :
    tokens (front ++ rest) = front :: tokens rest := by
  have hfront : front ≠ [] := by
    rintro rfl
    exact hne (List.forall₂_nil_right_iff.1 hsame)
  have hletters := isWordChar_of_sameWord hsame hword hkeeps fun c hc =>
    List.mem_append_left rest hc
  exact @tokens_around [] rest front endsBounded_nil hfront hletters hrest

/-- Where tokens stand at the front of a text that keeps its boundaries, they come first among its
tokens. -/
theorem exists_run_of_tokensHere (hne : ∀ token ∈ sequence, token ≠ [])
    (hwords : ∀ token ∈ sequence, ∀ c ∈ token, isWordChar c = true) (hkeeps : KeepsBoundaries text)
    (h : tokensHere sequence text = true) :
    ∃ run rest, List.Forall₂ SameWord sequence run ∧ tokens text = run ++ rest := by
  induction sequence generalizing text with
  | nil => exact ⟨[], tokens text, .nil, rfl⟩
  | cons token more ih =>
    have htoken : token ≠ [] := hne token List.mem_cons_self
    have hword := hwords token List.mem_cons_self
    cases more with
    | nil =>
      obtain ⟨front, rest, rfl, hsame, hrest⟩ := wordHere_iff.1 h
      exact ⟨[front], tokens rest, .cons hsame .nil,
        tokens_of_sameWord htoken hword hsame hkeeps hrest⟩
    | cons next more =>
      obtain ⟨front, gap, behind, rfl, hsame, hgapne, hgap, hnext⟩ := tokensHere_cons_iff.1 h
      have hahead : boundedAhead (gap ++ behind) = true := by
        obtain ⟨c, gap, rfl⟩ := List.exists_cons_of_ne_nil hgapne
        exact hgap c List.mem_cons_self
      have hkeeps' : KeepsBoundaries behind := fun c hc =>
        hkeeps c (List.mem_append_right _ (List.mem_append_right _ hc))
      obtain ⟨run, last, hrun, hbehind⟩ := ih
        (fun other hother => hne other (List.mem_cons_of_mem _ hother))
        (fun other hother => hwords other (List.mem_cons_of_mem _ hother)) hkeeps' hnext
      refine ⟨front :: run, last, .cons hsame hrun, ?_⟩
      rw [tokens_of_sameWord htoken hword hsame hkeeps hahead,
        tokens_append_of_endsBounded (endsBounded_of_gap hgap), tokens_of_gap hgap, hbehind]
      rfl

/-- An occurrence of a phrase in a text that keeps its boundaries shows its tokens among those of
the text. -/
theorem isRunOf_of_hasTokens (hne : ∀ token ∈ sequence, token ≠ [])
    (hwords : ∀ token ∈ sequence, ∀ c ∈ token, isWordChar c = true) (hkeeps : KeepsBoundaries text)
    (h : hasTokens sequence text = true) : IsRunOf sequence text := by
  obtain ⟨before, after, rfl, _, hbefore, hhere⟩ := somewhereBounded_iff.1 h
  have hkeeps' : KeepsBoundaries after := fun c hc => hkeeps c (List.mem_append_right _ hc)
  obtain ⟨run, rest, hrun, htokens⟩ := exists_run_of_tokensHere hne hwords hkeeps' hhere
  refine ⟨run, hrun, tokens before, rest, ?_⟩
  rw [tokens_append_of_endsBounded hbefore, htokens, List.append_assoc]

/-! ## From a word to its tokens -/

variable {other : List Char}

/-- What passes for two words in a row can be cut between them. -/
theorem exists_of_sameWord_append (h : SameWord (word ++ other) text) :
    ∃ front back, text = front ++ back ∧ SameWord word front ∧ SameWord other back := by
  have hfront := List.forall₂_take word.length h
  have hback := List.forall₂_drop word.length h
  rw [List.take_left] at hfront
  rw [List.drop_left] at hback
  exact ⟨text.take word.length, text.drop word.length, (List.take_append_drop _ text).symm,
    hfront, hback⟩

theorem keepsBoundaries_append :
    KeepsBoundaries (word ++ other) ↔ KeepsBoundaries word ∧ KeepsBoundaries other :=
  List.forall_mem_append

theorem keepsBoundaries_strip (h : KeepsBoundaries text) : KeepsBoundaries (strip text) := by
  obtain ⟨front, back, htext, _, _⟩ := exists_strip text
  rw [htext] at h
  obtain ⟨_, hrest⟩ := keepsBoundaries_append.1 h
  exact (keepsBoundaries_append.1 hrest).1

/-- Only a boundary passes for a boundary that is kept. -/
theorem isBoundary_of_sameLetter {c d : Char} (hkeeps : KeepsBoundaries text) (hc : c ∈ text)
    (hboundary : isBoundary c = true) (hsame : sameLetter c d = true) : isBoundary d = true := by
  by_contra hnot
  have hletter : isWordChar d = true := (not_isBoundary_iff d).1 (Bool.eq_false_iff.2 hnot)
  have hother := hkeeps c hc hboundary d hletter
  rw [sameLetter_symm hsame] at hother
  cases hother

/-- Only a gap passes for a gap that keeps its boundaries. -/
theorem isBoundary_of_sameWord {gap piece : List Char} (hkeeps : KeepsBoundaries gap)
    (hgap : ∀ c ∈ gap, isBoundary c = true) (h : SameWord gap piece) :
    ∀ d ∈ piece, isBoundary d = true := by
  unfold SameWord at h
  induction h with
  | nil => exact nofun
  | @cons c d gap piece hsame _ ih =>
    have hd := isBoundary_of_sameLetter hkeeps List.mem_cons_self (hgap c List.mem_cons_self) hsame
    have hrest := ih (fun e he => hkeeps e (List.mem_cons_of_mem c he))
      (fun e he => hgap e (List.mem_cons_of_mem c he))
    exact List.forall_mem_cons.2 ⟨hd, hrest⟩

/-- What passes for a text that is bounded and keeps its boundaries is bounded too. -/
theorem boundedAhead_of_sameWord {piece after : List Char} (hkeeps : KeepsBoundaries text)
    (h : SameWord text piece) (htext : boundedAhead text = true)
    (hafter : boundedAhead after = true) : boundedAhead (piece ++ after) = true := by
  cases h with
  | nil => exact hafter
  | cons hsame _ => exact isBoundary_of_sameLetter hkeeps List.mem_cons_self htext hsame

/-- What passes for a word that keeps its boundaries can be cut as the word can: behind a gap and
behind the first token. The gap is not empty if the word begins with a boundary. -/
theorem exists_of_sameWord_of_tokens {piece : List Char} (hkeeps : KeepsBoundaries word)
    (hsame : SameWord word piece) (htokens : tokens word = token :: sequence) :
    ∃ gap front back rest, piece = gap ++ (front ++ back) ∧ (∀ c ∈ gap, isBoundary c = true) ∧
      (boundedAhead word = true → gap ≠ []) ∧ SameWord token front ∧ SameWord rest back ∧
      KeepsBoundaries rest ∧ boundedAhead rest = true ∧ tokens rest = sequence := by
  have hmem : token ∈ tokens word := by
    rw [htokens]
    exact List.mem_cons_self
  obtain ⟨start, rest, rfl, hstart, hrest, hmore⟩ := exists_of_tokens_eq_cons htokens
  obtain ⟨hkeepsStart, hkeepsToken⟩ := keepsBoundaries_append.1 hkeeps
  obtain ⟨_, hkeepsRest⟩ := keepsBoundaries_append.1 hkeepsToken
  obtain ⟨gap, _, rfl, hgap, hbehind⟩ := exists_of_sameWord_append hsame
  obtain ⟨front, back, rfl, hfront, hback⟩ := exists_of_sameWord_append hbehind
  refine ⟨gap, front, back, rest, rfl, isBoundary_of_sameWord hkeepsStart hstart hgap, ?_, hfront,
    hback, hkeepsRest, hrest, hmore⟩
  rintro hahead rfl
  exact ne_nil_of_boundedAhead hahead hmem (List.forall₂_nil_right_iff.1 hgap)

/-- Behind what passes for a token, what passes for the rest of a word shows the other tokens. -/
theorem tokensHere_of_sameWord {front rest back after : List Char} (htoken : SameWord token front)
    (hkeeps : KeepsBoundaries rest) (hrest : boundedAhead rest = true) (hback : SameWord rest back)
    (hafter : boundedAhead after = true) (htokens : tokens rest = sequence) :
    tokensHere (token :: sequence) (front ++ (back ++ after)) = true := by
  -- On the tokens still to come, which are those of `rest`, what the word has behind `token`.
  induction sequence generalizing token front rest back with
  | nil =>
    exact wordHere_iff.2 ⟨front, back ++ after, rfl, htoken,
      boundedAhead_of_sameWord hkeeps hback hrest hafter⟩
  | cons next more ih =>
    obtain ⟨gap, second, last, behind, rfl, hgap, hne, hsecond, hlast, hkeepsBehind, hbehind,
      hmore⟩ := exists_of_sameWord_of_tokens hkeeps hback htokens
    rw [List.append_assoc, List.append_assoc]
    exact tokensHere_cons_iff.2 ⟨front, gap, _, rfl, htoken, hne hrest, hgap,
      ih hsecond hkeepsBehind hbehind hlast hmore⟩

/-- Where a word that keeps its boundaries occurs, its tokens occur, whatever boundaries the text
keeps. -/
theorem hasTokens_of_hasWord (hkeeps : KeepsBoundaries word) (hne : tokens word ≠ [])
    (h : hasWord word text = true) : hasTokens (tokens word) text = true := by
  obtain ⟨before, piece, after, rfl, hsame, hbefore, hafter⟩ := hasWord_iff.1 h
  obtain ⟨token, sequence, htokens⟩ := List.exists_cons_of_ne_nil hne
  obtain ⟨gap, front, back, rest, rfl, hgap, _, hfront, hback, hkeepsRest, hrest, hmore⟩ :=
    exists_of_sameWord_of_tokens hkeeps hsame htokens
  rw [htokens]
  refine somewhereBounded_iff.2 ⟨before ++ gap, front ++ (back ++ after), ?_, fun _ => rfl,
    endsBounded_append_gap hbefore hgap,
    tokensHere_of_sameWord hfront hkeepsRest hrest hback hafter hmore⟩
  simp only [List.append_assoc]

/-- A word of word characters is its only token. -/
theorem hasTokens_of_word (hne : word ≠ []) (hword : ∀ c ∈ word, isWordChar c = true) :
    hasTokens (tokens word) text = hasWord word text := by
  rw [tokens_of_word hne hword]
  rfl

/-! ## Texts in ASCII keep their boundaries -/

/-- A code point keeps its place, or a run moves it. -/
theorem mapRuns_eq_or (runs : List Run) (n : Nat) :
    mapRuns runs n = n ∨ ∃ run ∈ runs, run.first ≤ n ∧ n ≤ run.last ∧
      mapRuns runs n = run.image + (n - run.first) := by
  induction runs with
  | nil => exact .inl rfl
  | cons run rest ih =>
    unfold mapRuns
    split
    · exact .inl rfl
    · next hfirst =>
      split
      · next hrun =>
        rw [Bool.and_eq_true, decide_eq_true_eq] at hrun
        exact .inr ⟨run, List.mem_cons_self, Nat.not_lt.1 hfirst, hrun.1, rfl⟩
      · exact ih.imp_right fun ⟨other, hother, hmoved⟩ =>
          ⟨other, List.mem_cons_of_mem run hother, hmoved⟩

/-- Beyond ASCII a character in lower case is beyond ASCII too, or a letter. -/
theorem toNat_lowerChar {c : Char} (h : 0x80 ≤ c.toNat) :
    0x80 ≤ (lowerChar c).toNat ∨ isWordChar (lowerChar c) = true := by
  have hruns : ∀ run ∈ lowerRuns, run.first = run.last ∧
        isWordChar (Char.ofNat run.image) = true ∨
      0x80 ≤ run.image ∧ (run.image + (run.last - run.first)).isValidChar ∧
        (run.image + (run.last - run.first) < 0xD800 ∨ 0xE000 ≤ run.image) := by decide +kernel
  have hlower : lowerChar c = Char.ofNat (mapRuns lowerRuns c.toNat) := by
    unfold lowerChar
    rw [if_neg (Nat.not_lt.2 h)]
  rcases mapRuns_eq_or lowerRuns c.toNat with hsame | ⟨run, hrun, hfirst, hlast, hmoved⟩
  · rw [hlower, hsame, Char.ofNat_toNat]
    exact .inl h
  · rw [hlower, hmoved]
    rcases hruns run hrun with ⟨hsingle, hletter⟩ | ⟨himage, hvalid, hside⟩
    · right
      rwa [show c.toNat - run.first = 0 by omega, Nat.add_zero]
    · left
      have hchar : (run.image + (c.toNat - run.first)).isValidChar := by
        unfold Nat.isValidChar at hvalid ⊢
        omega
      rw [Char.ofNat, dif_pos hchar]
      change 0x80 ≤ run.image + (c.toNat - run.first)
      omega

/-- What stands for a word character and its other case is beyond ASCII, or a word character. -/
theorem caseKey_of_isWordChar {c : Char} (h : isWordChar c = true) :
    0x80 ≤ caseKey c ∨ isWordChar (Char.ofNat (caseKey c)) = true := by
  have hmergers : ∀ merger ∈ caseMergers, 0x80 ≤ merger.1 ∧
      (0x80 ≤ merger.2 ∨ isWordChar (Char.ofNat merger.2) = true) := by decide +kernel
  have hascii : ∀ n < 0x80, isWordChar (Char.ofNat n) = true →
      isWordChar (lowerChar (Char.ofNat n)) = true := by decide +kernel
  have hlower : 0x80 ≤ (lowerChar c).toNat ∨ isWordChar (lowerChar c) = true := by
    by_cases hc : c.toNat < 0x80
    · right
      have hletter := hascii c.toNat hc
      rw [Char.ofNat_toNat] at hletter
      exact hletter h
    · exact toNat_lowerChar (Nat.not_lt.1 hc)
  unfold caseKey
  dsimp only
  cases hlookup : caseMergers.lookup (lowerChar c).toNat with
  | none =>
    rw [Option.getD_none, Char.ofNat_toNat]
    exact hlower
  | some merged =>
    obtain ⟨_, _, hmem, _⟩ := List.lookup_eq_some_iff.1 hlookup
    have hmerger : ((lowerChar c).toNat, merged) ∈ caseMergers := by
      rw [hmem]
      exact List.mem_append_right _ List.mem_cons_self
    exact (hmergers _ hmerger).2

/-- In a text of ASCII characters no boundary passes for a word character. -/
theorem keepsBoundaries_of_ascii (h : ∀ c ∈ text, c.toNat < 0x80) : KeepsBoundaries text := by
  have hascii : ∀ n < 0x80, isBoundary (Char.ofNat n) = true →
      caseKey (Char.ofNat n) = n := by decide +kernel
  intro c hc hboundary d hd
  have hkey := hascii c.toNat (h c hc)
  rw [Char.ofNat_toNat] at hkey
  have hkey := hkey hboundary
  by_contra hsame
  rw [Bool.not_eq_false, sameLetter_iff, hkey] at hsame
  have hletter := caseKey_of_isWordChar hd
  rw [hsame, Char.ofNat_toNat] at hletter
  rcases hletter with hbeyond | hletter
  · exact absurd (h c hc) (Nat.not_lt.2 hbeyond)
  · rw [isBoundary, hletter] at hboundary
    cases hboundary

end Clearance.Text

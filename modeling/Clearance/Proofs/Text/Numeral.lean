import Mathlib.Data.Nat.Digits.Defs
import Clearance.Text.Numeral

/-!
# Reading numerals

A numeral is made of characters that write a digit each. A text of sixteenths is read as the number
that its digits write, and whatever text is read comes to a number of no more digits than the text
has characters. A text without a hyphen is never read as a negative number.
-/

set_option autoImplicit false

namespace Clearance.Text

variable {base : Nat}

/-- A number is read from its first digit on; the library's digits begin with the last one. -/
theorem ofDigits_eq (base : Nat) (digits : List Nat) :
    ofDigits base digits = Nat.ofDigits base digits.reverse := by
  have hstep : (fun (value digit : Nat) => value * base + digit) =
      fun value digit => (digit : Nat) + base * value := by
    funext value digit
    rw [Nat.mul_comm, Nat.add_comm]
  rw [Nat.ofDigits_eq_foldr, List.foldr_reverse]
  exact congrArg (fun step => List.foldl step 0 digits) hstep

theorem ofDigits_append (base : Nat) (front back : List Nat) :
    ofDigits base (front ++ back) =
      ofDigits base front * base ^ back.length + ofDigits base back := by
  rw [ofDigits_eq, ofDigits_eq, ofDigits_eq, List.reverse_append, Nat.ofDigits_append,
    List.length_reverse, Nat.mul_comm, Nat.add_comm]

theorem ofDigits_replicate_zero (base count : Nat) :
    ofDigits base (List.replicate count 0) = 0 := by
  rw [ofDigits_eq, List.reverse_replicate, Nat.ofDigits_replicate_zero]

theorem ofDigits_lt_pow {digits : List Nat} (hbase : 1 < base)
    (hdigits : ∀ digit ∈ digits, digit < base) : ofDigits base digits < base ^ digits.length := by
  rw [ofDigits_eq, ← List.length_reverse]
  exact Nat.ofDigits_lt_base_pow_length hbase fun digit hdigit =>
    hdigits digit (List.mem_reverse.1 hdigit)

/-! ## Characters that write digits -/

/-- The digit that a character writes. -/
def digitOf (c : Char) : Nat := (digitValue? c).getD 0

/-- A character writes a digit of a base. -/
def IsDigitOf (base : Nat) (c : Char) : Prop := ∃ digit < base, digitValue? c = some digit

theorem IsDigitOf.digitValue?_eq {c : Char} (h : IsDigitOf base c) :
    digitValue? c = some (digitOf c) := by
  obtain ⟨digit, _, hvalue⟩ := h
  rw [digitOf, hvalue]
  rfl

theorem IsDigitOf.digitOf_lt {c : Char} (h : IsDigitOf base c) : digitOf c < base := by
  obtain ⟨digit, hsmall, hvalue⟩ := h
  rw [digitOf, hvalue]
  exact hsmall

/-- A character that writes no digit is none of those that do. -/
theorem IsDigitOf.ne {c other : Char} (h : IsDigitOf base c)
    (hother : digitValue? other = none) : c ≠ other := by
  rintro rfl
  obtain ⟨digit, _, hvalue⟩ := h
  rw [hother] at hvalue
  cases hvalue

theorem IsDigitOf.bounds {c : Char} (h : IsDigitOf base c) :
    '0'.toNat ≤ c.toNat ∧ c.toNat ≤ 'z'.toNat := by
  obtain ⟨digit, _, hvalue⟩ := h
  by_contra hbeyond
  have hnot : ∀ low high : Char, '0' ≤ low → high ≤ 'z' →
      (decide (low ≤ c) && decide (c ≤ high)) = false := by
    intro low high hlow hhigh
    rw [Bool.and_eq_false_iff, decide_eq_false_iff_not, decide_eq_false_iff_not,
      ← not_and_or]
    exact fun ⟨hc, hc'⟩ => hbeyond ⟨Char.le_trans hlow hc, Char.le_trans hc' hhigh⟩
  unfold digitValue? at hvalue
  rw [hnot '0' '9' (by decide) (by decide), hnot 'a' 'z' (by decide) (by decide),
    hnot 'A' 'Z' (by decide) (by decide)] at hvalue
  cases hvalue

theorem IsDigitOf.not_isNumeralSpace {c : Char} (h : IsDigitOf base c) :
    isNumeralSpace c = false := by
  have hspace : c ≠ ' ' := h.ne (by decide)
  have hlow : 48 ≤ c.toNat := h.bounds.1
  unfold isNumeralSpace
  rw [beq_eq_false_iff_ne.2 hspace, Bool.false_or, Bool.and_eq_false_iff]
  exact .inr (decide_eq_false (by omega))

/-! ## Texts of digits -/

theorem plainNumeral_of_digits {text : List Char} (h : ∀ c ∈ text, IsDigitOf base c) :
    plainNumeral text = text := by
  refine if_pos (List.all_eq_true.2 fun c hc => decide_eq_true ?_)
  exact Nat.lt_of_le_of_lt (h c hc).bounds.2 (by decide)

theorem dropWhile_isNumeralSpace_of_digits {text : List Char}
    (h : ∀ c ∈ text, IsDigitOf base c) : text.dropWhile isNumeralSpace = text := by
  cases text with
  | nil => rfl
  | cons c rest =>
    exact List.dropWhile_cons_of_neg (by simp [(h c List.mem_cons_self).not_isNumeralSpace])

theorem trimNumeral_of_digits {text : List Char} (h : ∀ c ∈ text, IsDigitOf base c) :
    trimNumeral text = text := by
  unfold trimNumeral
  rw [dropWhile_isNumeralSpace_of_digits h,
    dropWhile_isNumeralSpace_of_digits fun c hc => h c (List.mem_reverse.1 hc),
    List.reverse_reverse]

/-- A text of digits is read to its end. -/
theorem leadingDigits_of_digits {text : List Char} (h : ∀ c ∈ text, IsDigitOf base c) :
    leadingDigits base false text = (text.map digitOf, false, []) := by
  induction text with
  | nil => rfl
  | cons c rest ih =>
    have hc := h c List.mem_cons_self
    have hline : (c == '_') = false := beq_eq_false_iff_ne.2 (hc.ne (by decide))
    rw [leadingDigits, hline, if_neg Bool.false_ne_true, hc.digitValue?_eq]
    dsimp only
    rw [if_pos hc.digitOf_lt, ih fun c hc => h c (List.mem_cons_of_mem _ hc)]
    rfl

/-- No sixteenth is the letter of the mark `0x`. -/
theorem IsDigitOf.ne_x {c : Char} (h : IsDigitOf 16 c) : c ≠ 'x' ∧ c ≠ 'X' := by
  obtain ⟨digit, hsmall, hvalue⟩ := h
  constructor
  · rintro rfl
    cases hvalue
    exact absurd hsmall (by decide)
  · rintro rfl
    cases hvalue
    exact absurd hsmall (by decide)

theorem readDigits_of_digits {text : List Char} (h : ∀ c ∈ text, IsDigitOf 16 c)
    (hsome : text ≠ []) : readDigits 16 text = .value (ofDigits 16 (text.map digitOf)) := by
  unfold readDigits
  extract_lets body
  have hbody : body = text := by
    unfold body
    split
    · next x rest =>
      obtain ⟨hsmall, hlarge⟩ := (h x (by simp)).ne_x
      rw [beq_eq_false_iff_ne.2 hsmall, beq_eq_false_iff_ne.2 hlarge]
      rfl
    · rfl
  obtain ⟨c, rest, rfl⟩ := List.exists_cons_of_ne_nil hsome
  have hline : c ≠ '_' := (h c List.mem_cons_self).ne (by decide)
  rw [hbody, leadingDigits_of_digits h, List.head?_cons, if_neg (by simpa using hline)]
  rfl

/-- A text of sixteenths is read as the number that they write. -/
theorem readInt_of_digits {text : List Char} (h : ∀ c ∈ text, IsDigitOf 16 c)
    (hsome : text ≠ []) :
    readInt 16 (String.ofList text) = .ok (ofDigits 16 (text.map digitOf) : Nat) := by
  unfold readInt
  rw [String.toList_ofList, plainNumeral_of_digits h, trimNumeral_of_digits h]
  obtain ⟨c, rest, rfl⟩ := List.exists_cons_of_ne_nil hsome
  have hplus : c ≠ '+' := (h c List.mem_cons_self).ne (by decide)
  have hminus : c ≠ '-' := (h c List.mem_cons_self).ne (by decide)
  split
  next negative body hsplit =>
  split at hsplit
  · next heq => exact absurd (List.cons.inj heq).1 hplus
  · next heq => exact absurd (List.cons.inj heq).1 hminus
  · cases hsplit
    rw [readDigits_of_digits h hsome]
    rfl

/-! ## The digits of a number -/

theorem digit_of_digitChar {digit : Nat} (h : digit < 16) :
    digitValue? digit.digitChar = some digit ∧ digit.digitChar.toLower = digit.digitChar := by
  revert digit
  decide

/-- The sixteenths of a number write digits, in small letters. -/
theorem isDigitOf_of_mem_toDigits {value : Nat} :
    ∀ c ∈ Nat.toDigits 16 value, IsDigitOf 16 c ∧ c.toLower = c := by
  induction value using Nat.strongRecOn with
  | ind value ih =>
    intro c hc
    have hlast : ∀ digit < 16, IsDigitOf 16 digit.digitChar ∧
        digit.digitChar.toLower = digit.digitChar := fun digit hdigit =>
      ⟨⟨digit, hdigit, (digit_of_digitChar hdigit).1⟩, (digit_of_digitChar hdigit).2⟩
    by_cases hsmall : value < 16
    · rw [Nat.toDigits_of_lt_base hsmall, List.mem_singleton] at hc
      exact hc ▸ hlast value hsmall
    · rw [Nat.toDigits_of_base_le (by decide) (Nat.not_lt.1 hsmall), List.mem_append,
        List.mem_singleton] at hc
      rcases hc with hfront | rfl
      · exact ih (value / 16) (by omega) c hfront
      · exact hlast _ (Nat.mod_lt _ (by decide))

/-- The sixteenths of a number write it. -/
theorem ofDigits_toDigits (value : Nat) :
    ofDigits 16 ((Nat.toDigits 16 value).map digitOf) = value := by
  have hlast : ∀ digit < 16, ofDigits 16 ([digit.digitChar].map digitOf) = digit := by
    intro digit hdigit
    rw [List.map_singleton, digitOf, (digit_of_digitChar hdigit).1]
    exact Nat.zero_add digit
  induction value using Nat.strongRecOn with
  | ind value ih =>
    by_cases hsmall : value < 16
    · rw [Nat.toDigits_of_lt_base hsmall, hlast value hsmall]
    · rw [Nat.toDigits_of_base_le (by decide) (Nat.not_lt.1 hsmall), List.map_append,
        ofDigits_append, ih (value / 16) (by omega), hlast _ (Nat.mod_lt _ (by decide))]
      exact Nat.div_add_mod' value 16

/-! ## What is read is bounded by the text -/

theorem leadingDigits_bounded (base : Nat) (underscored : Bool) (text : List Char) :
    (leadingDigits base underscored text).1.length ≤ text.length ∧
      ∀ digit ∈ (leadingDigits base underscored text).1, digit < base := by
  fun_induction leadingDigits base underscored text with
  | case1 => simp
  | case2 | case5 | case6 => simp
  | case3 underscored c rest _ _ ih => exact ⟨Nat.le_succ_of_le ih.1, ih.2⟩
  | case4 underscored c rest _ v _ hsmall digits last left hrest ih =>
    rw [hrest] at ih
    exact ⟨Nat.succ_le_succ ih.1, List.forall_mem_cons.2 ⟨hsmall, ih.2⟩⟩

theorem readDigits_lt {text : List Char} {n : Nat} (hbase : 1 < base)
    (h : readDigits base text = .value n) : n < base ^ text.length := by
  unfold readDigits at h
  extract_lets body at h
  have hbody : body.length ≤ text.length := by
    unfold body
    split
    · next x rest =>
      split
      · split
        · simp only [List.length_cons]; omega
        · simp only [List.length_cons]; omega
      · exact Nat.le_refl _
    · exact Nat.le_refl _
  obtain ⟨hlength, hsmall⟩ := leadingDigits_bounded base false body
  split at h
  · cases h
  · split at h
    next digits underscored left hdigits =>
    rw [hdigits] at hlength hsmall
    split at h
    · cases h
    · split at h
      · cases h
      · split at h
        · cases h
          have hfewer : digits.length ≤ text.length := Nat.le_trans hlength hbody
          exact Nat.lt_of_lt_of_le (ofDigits_lt_pow hbase hsmall)
            (Nat.pow_le_pow_right (by omega) hfewer)
        · cases h

theorem length_plainNumeral_le (text : List Char) : (plainNumeral text).length ≤ text.length := by
  have hchars : ∀ text : List Char, (plainNumeralChars text).length ≤ text.length := by
    intro text
    fun_induction plainNumeralChars text with
    | case1 => exact Nat.le_refl 0
    | case2 c rest plain _ ih => exact Nat.succ_le_succ ih
    | case3 c rest _ => exact Nat.succ_le_succ (Nat.zero_le _)
  unfold plainNumeral
  split
  · exact Nat.le_refl _
  · exact hchars text

/-- A hyphen of a numeral in plain ASCII was one before. -/
theorem hyphen_of_mem_plainNumeral {text : List Char} (h : '-' ∈ plainNumeral text) :
    '-' ∈ text := by
  have hchar : ∀ c, plainNumeralChar? c = some '-' → c = '-' := by
    intro c hplain
    unfold plainNumeralChar? at hplain
    split at hplain
    · exact Option.some.inj hplain
    · split at hplain
      · cases hplain
      · obtain ⟨v, hv, hdigit⟩ := Option.map_eq_some_iff.1 hplain
        have hisDigit := Nat.isDigit_digitChar (n := v)
        rw [hdigit, decide_eq_true (decimalValue?_lt hv)] at hisDigit
        cases hisDigit
  have hchars : ∀ text : List Char, '-' ∈ plainNumeralChars text → '-' ∈ text := by
    intro text hmem
    fun_induction plainNumeralChars text with
    | case1 => cases hmem
    | case2 c rest plain hplain ih =>
      rcases List.mem_cons.1 hmem with rfl | hrest
      · exact hchar c hplain ▸ List.mem_cons_self
      · exact List.mem_cons_of_mem _ (ih hrest)
    | case3 c rest _ => cases List.mem_singleton.1 hmem
  unfold plainNumeral at h
  split at h
  · exact h
  · exact hchars text h

theorem trimNumeral_sublist (text : List Char) : (trimNumeral text).Sublist text := by
  unfold trimNumeral
  have hend := (List.dropWhile_sublist isNumeralSpace
    (l := (text.dropWhile isNumeralSpace).reverse)).reverse
  rw [List.reverse_reverse] at hend
  exact hend.trans (List.dropWhile_sublist isNumeralSpace)

/-- What is read from a text without a hyphen is no less than zero, and has no more digits than the
text has characters. -/
theorem readInt_bounded {text : String} {value : Int} (hbase : 1 < base)
    (hhyphen : '-' ∉ text.toList) (h : readInt base text = .ok value) :
    0 ≤ value ∧ value < (base ^ text.toList.length : Nat) := by
  have hlength : (trimNumeral (plainNumeral text.toList)).length ≤ text.toList.length :=
    (trimNumeral_sublist _).length_le.trans (length_plainNumeral_le _)
  have hsigned : '-' ∉ trimNumeral (plainNumeral text.toList) := fun hmem =>
    hhyphen (hyphen_of_mem_plainNumeral ((trimNumeral_sublist _).mem hmem))
  have hread : ∀ {body : List Char} {n : Nat}, readDigits base body = .value n →
      body.length ≤ text.toList.length → n < base ^ text.toList.length := by
    intro body n hn hbody
    exact Nat.lt_of_lt_of_le (readDigits_lt hbase hn) (Nat.pow_le_pow_right (by omega) hbody)
  unfold readInt at h
  split at h
  next negative body hsplit =>
  have hbody : negative = false ∧ body.length ≤ text.toList.length := by
    split at hsplit
    · next rest heq =>
      cases hsplit
      rw [heq, List.length_cons] at hlength
      exact ⟨rfl, by omega⟩
    · next rest heq =>
      rw [heq] at hsigned
      exact absurd List.mem_cons_self hsigned
    · cases hsplit
      exact ⟨rfl, hlength⟩
  obtain ⟨rfl, hbody⟩ := hbody
  split at h
  · next n hn =>
    cases h
    exact ⟨Int.natCast_nonneg n, Int.ofNat_lt.2 (hread hn hbody)⟩
  · cases h
  · cases h

end Clearance.Text

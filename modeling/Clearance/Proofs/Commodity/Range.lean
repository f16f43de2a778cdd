import Clearance.Proofs.Commodity.Scan

/-!
# Literal prefixes and ranges say the same

A code prefix of one to ten digits matches the codes that begin with it. As a range it goes from
these digits filled up with zeros to these digits filled up with nines, and matches the same codes.
A range in general matches the codes that stand between its two ends, both filled up with zeros, in
the order of texts. Exceptions take their codes out of either alike. A code prefix with any other
character in it is no range and stands at the front of no code.
-/

set_option autoImplicit false

namespace Clearance.Commodity

open Clearance.Text

/-- What a code may begin with: one to ten digits. -/
structure IsCodeFront (text : String) : Prop where
  ne_empty : text ≠ ""
  length_le : text.length ≤ codeLength
  isDigit : ∀ c ∈ text.toList, c.isDigit = true

/-- The last code that begins with some digits: nines behind them. -/
def lastCode (front : String) : String := String.ofList (front.toList.rightpad codeLength '9')

/-- A code has an exception if one that is not empty stands at its front. -/
def HasException (exceptions : List String) (code : List Char) : Prop :=
  ∃ exception ∈ exceptions, exception ≠ "" ∧ exception.toList <+: code

variable {front first last : String} {given interval : Option String} {low high : Nat}
  {code : List Char}

instance (exceptions : List String) (code : List Char) :
    Decidable (HasException exceptions code) :=
  inferInstanceAs (Decidable (∃ exception ∈ exceptions, _))

theorem startsWith_eq_true_iff {letters : List Char} :
    startsWith letters code = true ↔ letters <+: code := by
  rw [startsWith_iff]
  exact exists_congr fun rest => eq_comm

theorem isCode_iff : isCode code = true ↔
    code.length = codeLength ∧ ∀ c ∈ code, c.isDigit = true := by
  simp [isCode]

theorem isCodeFront_iff : IsCodeFront front ↔
    (front != "" && decide (front.length ≤ codeLength) && front.toList.all Char.isDigit) = true := by
  rw [Bool.and_eq_true, Bool.and_eq_true, bne_iff_ne, decide_eq_true_eq, List.all_eq_true]
  exact ⟨fun h => ⟨⟨h.ne_empty, h.length_le⟩, h.isDigit⟩, fun h => ⟨h.1.1, h.1.2, h.2⟩⟩

instance (text : String) : Decidable (IsCodeFront text) :=
  decidable_of_iff _ isCodeFront_iff.symm

/-! ## Padded values -/

theorem IsCodeFront.isDigit_filled (h : IsCodeFront front) :
    ∀ c ∈ filled (some front), c.isDigit = true :=
  isDigit_rightpad codeLength h.isDigit rfl

theorem IsCodeFront.length_filled (h : IsCodeFront front) :
    (filled (some front)).length = codeLength :=
  Commodity.length_filled h.length_le

/-- A code of one to ten digits has the value that it writes when filled up with zeros. -/
theorem IsCodeFront.paddedValue_eq (h : IsCodeFront front) :
    paddedValue (some front) = .ok (codeValue (filled (some front))) := by
  have hne : front.toList ≠ [] := fun hnil => h.ne_empty (String.toList_eq_nil_iff.1 hnil)
  have hdigits := h.isDigit_filled
  have hlength := h.length_filled
  unfold paddedValue
  unfold filled at hdigits hlength ⊢
  dsimp only
  rw [if_neg, if_neg]
  · rw [hlength]
    decide
  · rw [Bool.or_eq_true, List.isEmpty_iff, Bool.not_eq_true', ← Bool.not_eq_true,
      List.all_eq_true]
    rintro (hnil | hother)
    · exact hne hnil
    · exact hother hdigits

theorem toList_lastCode (front : String) :
    (lastCode front).toList = front.toList.rightpad codeLength '9' :=
  String.toList_ofList

theorem IsCodeFront.length_lastCode (h : IsCodeFront front) :
    (lastCode front).length = codeLength := by
  have hfront := h.length_le
  rw [← String.length_toList, toList_lastCode, List.length_rightpad, String.length_toList]
  omega

/-- The last code is a code front too. -/
theorem IsCodeFront.isCodeFront_lastCode (h : IsCodeFront front) : IsCodeFront (lastCode front) := by
  refine ⟨?_, h.length_lastCode.le, ?_⟩
  · intro hempty
    have hlength := h.length_lastCode
    rw [hempty] at hlength
    cases hlength
  · rw [toList_lastCode]
    exact isDigit_rightpad codeLength h.isDigit rfl

/-- The last code has ten digits, so nothing is filled up. -/
theorem IsCodeFront.filled_lastCode (h : IsCodeFront front) :
    filled (some (lastCode front)) = (lastCode front).toList := by
  have hlength := h.length_lastCode
  rw [← String.length_toList] at hlength
  simp [filled, List.rightpad, hlength]

/-- A code with a character that is no digit has no value. -/
theorem paddedValue_of_not_isDigit (h : ∃ c ∈ front.toList, c.isDigit = false) :
    paddedValue (some front) = .ok 0 := by
  obtain ⟨c, hc, hother⟩ := h
  unfold paddedValue
  dsimp only
  rw [if_pos]
  have hall : (front.toList.rightpad codeLength '0').all Char.isDigit = false :=
    List.all_eq_false.2 ⟨c, List.mem_append_left _ hc, by rw [hother]; exact Bool.false_ne_true⟩
  rw [Option.getD_some, hall, Bool.not_false, Bool.or_true]

/-- A code that is not longer than a numeral may be has a value. -/
theorem exists_paddedValue (h : (interval.getD "").length ≤ maxDigits) :
    ∃ value, paddedValue interval = .ok value := by
  unfold paddedValue
  dsimp only
  split
  · exact ⟨0, rfl⟩
  · have hshort : ¬ maxDigits < ((interval.getD "").toList.rightpad codeLength '0').length := by
      rw [List.length_rightpad, String.length_toList]
      have hten : codeLength ≤ maxDigits := by decide
      omega
    rw [if_neg hshort]
    exact ⟨_, rfl⟩

/-! ## Rules of configured code prefixes -/

namespace PrefixRule

/-- A code prefix whose code and interval code have values has a rule with these as bounds. -/
theorem exists_ofCodePrefix (hlow : paddedValue given = .ok low)
    (hhigh : paddedValue interval = .ok high) (id : Int) (exceptions : List String) :
    ∃ rule, ofCodePrefix id ⟨given, interval⟩ exceptions = .ok rule ∧ rule.code = given.getD "" ∧
      rule.low = low ∧ rule.high = high ∧
      rule.exceptions = exceptions.filter fun exception => !exception.toList.isEmpty := by
  have hbounds : CodePrefix.bounds ⟨given, interval⟩ = .ok ⟨low, high⟩ :=
    CodePrefix.bounds_eq_ok_iff.2 ⟨hlow, hhigh⟩
  unfold ofCodePrefix
  rw [hbounds]
  exact ⟨_, rfl, rfl, rfl, rfl, rfl⟩

/-- A code prefix that has a rule has an interval code with a value. -/
theorem exists_paddedValue_interval {id : Int} {exceptions : List String} {rule : PrefixRule}
    (h : ofCodePrefix id ⟨given, interval⟩ exceptions = .ok rule) :
    ∃ high, paddedValue interval = .ok high := by
  unfold ofCodePrefix at h
  cases hbounds : CodePrefix.bounds ⟨given, interval⟩ with
  | error fault =>
    rw [hbounds] at h
    cases h
  | ok bounds => exact ⟨bounds.high, (CodePrefix.bounds_eq_ok_iff.1 hbounds).2⟩

variable {rule : PrefixRule}

theorem covers_of_not_hasRange (h : rule.hasRange = false) (code : List Char) :
    rule.covers code = startsWith rule.code.toList code := by
  unfold covers
  rw [h, if_neg Bool.false_ne_true]

theorem covers_of_hasRange (h : rule.hasRange = true) (hlow : rule.low = low)
    (hhigh : rule.high = high) (code : List Char) :
    rule.covers code = true ↔ low ≤ codeValue code ∧ codeValue code ≤ high := by
  unfold covers
  rw [if_pos h, decide_eq_true_eq, hlow, hhigh, Int.ofNat_le, Int.ofNat_le]

theorem hasRange_iff (hlow : rule.low = low) (hhigh : rule.high = high) :
    rule.hasRange = true ↔ low ≠ 0 ∧ high ≠ 0 := by
  unfold hasRange
  rw [Bool.and_eq_true, bne_iff_ne, bne_iff_ne, hlow, hhigh, Int.natCast_ne_zero,
    Int.natCast_ne_zero]

theorem isExcepted_iff {exceptions : List String}
    (h : rule.exceptions = exceptions.filter fun exception => !exception.toList.isEmpty) :
    rule.isExcepted code = true ↔ HasException exceptions code := by
  unfold isExcepted HasException
  rw [List.any_eq_true, h]
  constructor
  · rintro ⟨exception, hmem, hstarts⟩
    rw [Bool.and_eq_true, Bool.not_eq_true', List.isEmpty_eq_false_iff] at hstarts
    refine ⟨exception, (List.mem_filter.1 hmem).1, ?_, startsWith_eq_true_iff.1 hstarts.2⟩
    exact fun hempty => hstarts.1 (String.toList_eq_nil_iff.2 hempty)
  · rintro ⟨exception, hmem, hne, hfront⟩
    have hfilled : (!exception.toList.isEmpty) = true := by
      rw [Bool.not_eq_true', List.isEmpty_eq_false_iff]
      exact fun hnil => hne (String.toList_eq_nil_iff.1 hnil)
    refine ⟨exception, List.mem_filter.2 ⟨hmem, hfilled⟩, ?_⟩
    rw [hfilled, Bool.true_and]
    exact startsWith_eq_true_iff.2 hfront

/-- A rule matches what it covers, but for its exceptions. -/
theorem matchesCode_iff {exceptions : List String} {covered : Prop}
    (hcovers : rule.covers code = true ↔ covered)
    (h : rule.exceptions = exceptions.filter fun exception => !exception.toList.isEmpty) :
    rule.matchesCode code = true ↔ covered ∧ ¬HasException exceptions code := by
  unfold matchesCode
  rw [Bool.and_eq_true, hcovers, Bool.not_eq_true', ← Bool.not_eq_true, isExcepted_iff h]

end PrefixRule

/-! ## Literal prefixes as ranges -/

/-- The codes that begin with some digits are those from the digits filled up with zeros to the last
code that begins with them. -/
theorem IsCodeFront.prefix_iff (h : IsCodeFront front) (hcode : isCode code = true) :
    front.toList <+: code ↔ codeValue (filled (some front)) ≤ codeValue code ∧
      codeValue code ≤ codeValue (lastCode front).toList := by
  obtain ⟨hlength, hdigits⟩ := isCode_iff.1 hcode
  have hfront : front.toList.length ≤ code.length := by
    rw [hlength, String.length_toList]
    exact h.length_le
  rw [← startsWith_eq_true_iff, startsWith_iff_between h.isDigit hdigits hfront, hlength,
    toList_lastCode]
  rfl

/-- Digits with an interval code without a value make a literal prefix. It matches the codes that
begin with the digits, but for its exceptions. -/
theorem IsCodeFront.exists_literal (h : IsCodeFront front) (hinterval : paddedValue interval = .ok 0)
    (id : Int) (exceptions : List String) :
    ∃ literal, PrefixRule.ofCodePrefix id ⟨some front, interval⟩ exceptions = .ok literal ∧
      literal.hasRange = false ∧ ∀ code,
        literal.matchesCode code = true ↔ front.toList <+: code ∧ ¬HasException exceptions code := by
  obtain ⟨literal, hliteral, hfront, hlow, hhigh, hkept⟩ :=
    PrefixRule.exists_ofCodePrefix h.paddedValue_eq hinterval id exceptions
  have hnot : literal.hasRange = false := by
    rw [← Bool.not_eq_true, PrefixRule.hasRange_iff hlow hhigh]
    exact fun hboth => hboth.2 rfl
  refine ⟨literal, hliteral, hnot, fun code => PrefixRule.matchesCode_iff ?_ hkept⟩
  rw [PrefixRule.covers_of_not_hasRange hnot, hfront, startsWith_eq_true_iff]
  rfl

/-- Two ends with a value make a range. It matches the codes between its ends, both filled up with
zeros, in the order of texts, but for its exceptions. -/
theorem exists_range (hfirst : IsCodeFront first) (hlast : IsCodeFront last)
    (hlow : paddedValue (some first) ≠ .ok 0) (hhigh : paddedValue (some last) ≠ .ok 0) (id : Int)
    (exceptions : List String) :
    ∃ range, PrefixRule.ofCodePrefix id ⟨some first, some last⟩ exceptions = .ok range ∧
      range.hasRange = true ∧ ∀ code, isCode code = true →
        (range.matchesCode code = true ↔
          (filled (some first) ≤ code ∧ code ≤ filled (some last)) ∧
            ¬HasException exceptions code) := by
  rw [hfirst.paddedValue_eq] at hlow
  rw [hlast.paddedValue_eq] at hhigh
  obtain ⟨range, hrange, _, hrangelow, hrangehigh, hkept⟩ :=
    PrefixRule.exists_ofCodePrefix hfirst.paddedValue_eq hlast.paddedValue_eq id exceptions
  have his : range.hasRange = true := (PrefixRule.hasRange_iff hrangelow hrangehigh).2
    ⟨fun hzero => hlow (congrArg Except.ok hzero), fun hzero => hhigh (congrArg Except.ok hzero)⟩
  refine ⟨range, hrange, his, fun code hcode => PrefixRule.matchesCode_iff ?_ hkept⟩
  obtain ⟨hlength, hdigits⟩ := isCode_iff.1 hcode
  rw [PrefixRule.covers_of_hasRange his hrangelow hrangehigh,
    le_iff_codeValue_le hfirst.isDigit_filled hdigits,
    le_iff_codeValue_le hdigits hlast.isDigit_filled]
  · rw [hlength, hlast.length_filled]
  · rw [hlength, hfirst.length_filled]

/-- Digits that are not all zero have a value, and so has the last code that begins with them. -/
theorem IsCodeFront.paddedValue_ne_zero (h : IsCodeFront front)
    (hdigit : ∃ c ∈ front.toList, c ≠ '0') :
    paddedValue (some front) ≠ .ok 0 ∧ paddedValue (some (lastCode front)) ≠ .ok 0 := by
  obtain ⟨c, hc, hne⟩ := hdigit
  have hlast := h.isCodeFront_lastCode
  rw [h.paddedValue_eq, hlast.paddedValue_eq]
  have hmem : c ∈ filled (some (lastCode front)) := by
    rw [h.filled_lastCode, toList_lastCode]
    exact List.mem_append_left _ hc
  exact ⟨fun hzero => codeValue_ne_zero h.isDigit_filled ⟨c, List.mem_append_left _ hc, hne⟩
      (Except.ok.inj hzero),
    fun hzero => codeValue_ne_zero hlast.isDigit_filled ⟨c, hmem, hne⟩ (Except.ok.inj hzero)⟩

/-- Digits that are not all zero match the same codes as a literal prefix and as the range to the
last code that begins with them: those that begin with the digits. -/
theorem IsCodeFront.exists_literal_range (h : IsCodeFront front)
    (hdigit : ∃ c ∈ front.toList, c ≠ '0') (hinterval : paddedValue interval = .ok 0) (id : Int)
    (exceptions : List String) (hcode : isCode code = true) :
    ∃ literal range, PrefixRule.ofCodePrefix id ⟨some front, interval⟩ exceptions = .ok literal ∧
      PrefixRule.ofCodePrefix id ⟨some front, some (lastCode front)⟩ exceptions = .ok range ∧
      literal.hasRange = false ∧ range.hasRange = true ∧
      (literal.matchesCode code = true ↔
        front.toList <+: code ∧ ¬HasException exceptions code) ∧
      (range.matchesCode code = true ↔
        front.toList <+: code ∧ ¬HasException exceptions code) := by
  have hlast := h.isCodeFront_lastCode
  obtain ⟨hlow, hhigh⟩ := h.paddedValue_ne_zero hdigit
  obtain ⟨literal, hliteral, hnot, hmatches⟩ := h.exists_literal hinterval id exceptions
  obtain ⟨range, hrange, his, hbetween⟩ := exists_range h hlast hlow hhigh id exceptions
  refine ⟨literal, range, hliteral, hrange, hnot, his, hmatches code, ?_⟩
  obtain ⟨hlength, hdigits⟩ := isCode_iff.1 hcode
  rw [hbetween code hcode, h.prefix_iff hcode, ← h.filled_lastCode,
    le_iff_codeValue_le h.isDigit_filled hdigits, le_iff_codeValue_le hdigits hlast.isDigit_filled]
  · rw [hlength, hlast.length_filled]
  · rw [hlength, h.length_filled]

/-- A rule whose code has a character that is no digit matches no code. -/
theorem PrefixRule.not_matchesCode_of_not_isDigit (h : ∃ c ∈ front.toList, c.isDigit = false)
    {id : Int} {exceptions : List String} {rule : PrefixRule}
    (hrule : ofCodePrefix id ⟨some front, interval⟩ exceptions = .ok rule)
    (hcode : isCode code = true) : rule.matchesCode code = false := by
  obtain ⟨high, hhigh⟩ := exists_paddedValue_interval hrule
  obtain ⟨other, hother, hfront, hlow, hhigh', _⟩ :=
    exists_ofCodePrefix (paddedValue_of_not_isDigit h) hhigh id exceptions
  obtain rfl := Except.ok.inj (hother.symm.trans hrule)
  have hliteral : other.hasRange = false := by
    rw [← Bool.not_eq_true, hasRange_iff hlow hhigh']
    exact fun hrange => hrange.1 rfl
  have hcovers : other.covers code = false := by
    rw [covers_of_not_hasRange hliteral, hfront, ← Bool.not_eq_true]
    intro hstarts
    obtain ⟨c, hc, hother⟩ := h
    obtain ⟨rest, hrest⟩ := (startsWith_iff _ _).1 hstarts
    have hmem : c ∈ code := by
      rw [hrest]
      exact List.mem_append_left rest hc
    rw [(isCode_iff.1 hcode).2 c hmem] at hother
    cases hother
  unfold matchesCode
  rw [hcovers, Bool.false_and]

/-- A code begins with one to ten digits just if its number lies between that of the digits filled
up with zeros, which is their lower bound as a code prefix, and that of the digits filled up with
nines. Digits that are not all zero match the codes that begin with them, but for the exceptions,
both as a literal prefix and as the range to the last of these codes. A range whose ends are not
zero matches the codes between its ends, filled up with zeros, in the order of texts, but for the
exceptions. A rule whose code has a character that is no digit exists, unless its interval code is
too long for a numeral, and matches no code. -/
theorem literal_and_range_alike (hcode : isCode code = true) :
    (∀ front, IsCodeFront front →
      paddedValue (some front) = .ok (codeValue (filled (some front))) ∧
      (front.toList <+: code ↔ codeValue (filled (some front)) ≤ codeValue code ∧
        codeValue code ≤ codeValue (lastCode front).toList) ∧
      ((∃ c ∈ front.toList, c ≠ '0') → ∀ id exceptions interval, paddedValue interval = .ok 0 →
        ∃ literal range,
          PrefixRule.ofCodePrefix id ⟨some front, interval⟩ exceptions = .ok literal ∧
          PrefixRule.ofCodePrefix id ⟨some front, some (lastCode front)⟩ exceptions = .ok range ∧
          literal.hasRange = false ∧ range.hasRange = true ∧
          (literal.matchesCode code = true ↔
            front.toList <+: code ∧ ¬HasException exceptions code) ∧
          (range.matchesCode code = true ↔
            front.toList <+: code ∧ ¬HasException exceptions code))) ∧
    (∀ first last, IsCodeFront first → IsCodeFront last → paddedValue (some first) ≠ .ok 0 →
      paddedValue (some last) ≠ .ok 0 → ∀ id exceptions, ∃ range,
        PrefixRule.ofCodePrefix id ⟨some first, some last⟩ exceptions = .ok range ∧
        range.hasRange = true ∧
        (range.matchesCode code = true ↔
          (filled (some first) ≤ code ∧ code ≤ filled (some last)) ∧
            ¬HasException exceptions code)) ∧
    ∀ front, (∃ c ∈ front.toList, c.isDigit = false) → ∀ id interval exceptions,
      ((interval.getD "").length ≤ maxDigits →
        ∃ rule, PrefixRule.ofCodePrefix id ⟨some front, interval⟩ exceptions = .ok rule) ∧
      ∀ rule, PrefixRule.ofCodePrefix id ⟨some front, interval⟩ exceptions = .ok rule →
        rule.matchesCode code = false := by
  refine ⟨?_, ?_, ?_⟩
  · intro front hfront
    refine ⟨hfront.paddedValue_eq, hfront.prefix_iff hcode, ?_⟩
    intro hdigit id exceptions interval hinterval
    exact hfront.exists_literal_range hdigit hinterval id exceptions hcode
  · intro first last hfirst hlast hlow hhigh id exceptions
    obtain ⟨range, hrange, his, hmatches⟩ := exists_range hfirst hlast hlow hhigh id exceptions
    exact ⟨range, hrange, his, hmatches code hcode⟩
  · intro front hother id interval exceptions
    constructor
    · intro hshort
      obtain ⟨high, hhigh⟩ := exists_paddedValue hshort
      obtain ⟨rule, hrule, _⟩ :=
        PrefixRule.exists_ofCodePrefix (paddedValue_of_not_isDigit hother) hhigh id exceptions
      exact ⟨rule, hrule⟩
    · intro rule hrule
      exact PrefixRule.not_matchesCode_of_not_isDigit hother hrule hcode

/-- The code of a turkey. -/
def turkey : List Char := "0207250000".toList

/-- The code of a turkey begins with a zero. The literal prefix and the range of its first digits
match it both, and neither does where the exception is at its front. A range from one place to
another matches it too, one that ends before it does not, and a code prefix with a digit of another
script matches nothing. -/
theorem literal_and_range_turkey : isCode turkey = true ∧ IsCodeFront "0207" ∧
    lastCode "0207" = "0207999999" ∧
    (∃ literal range,
      PrefixRule.ofCodePrefix 1 ⟨some "0207", none⟩ ["02071"] = .ok literal ∧
      PrefixRule.ofCodePrefix 1 ⟨some "0207", some (lastCode "0207")⟩ ["02071"] = .ok range ∧
      literal.matchesCode turkey = true ∧ range.matchesCode turkey = true) ∧
    (∃ literal range,
      PrefixRule.ofCodePrefix 1 ⟨some "0207", none⟩ ["02072"] = .ok literal ∧
      PrefixRule.ofCodePrefix 1 ⟨some "0207", some (lastCode "0207")⟩ ["02072"] = .ok range ∧
      literal.matchesCode turkey = false ∧ range.matchesCode turkey = false) ∧
    (∃ range, PrefixRule.ofCodePrefix 2 ⟨some "0203", some "021"⟩ [] = .ok range ∧
      range.matchesCode turkey = true) ∧
    (∃ range, PrefixRule.ofCodePrefix 2 ⟨some "0203", some "0207"⟩ [] = .ok range ∧
      range.matchesCode turkey = false) ∧
    ∃ rule, PrefixRule.ofCodePrefix 3 ⟨some "020７", some "0208"⟩ [] = .ok rule ∧
      rule.matchesCode turkey = false := by
  have hcode : isCode turkey = true := by decide +kernel
  have hpoultry : IsCodeFront "0207" := by decide +kernel
  have hpork : IsCodeFront "0203" := by decide +kernel
  have hmeat : IsCodeFront "021" := by decide +kernel
  obtain ⟨hfronts, hranges, hothers⟩ := literal_and_range_alike hcode
  have hpairs := (hfronts "0207" hpoultry).2.2 ⟨'2', by decide +kernel, by decide⟩ 1
  refine ⟨hcode, hpoultry, by decide +kernel, ?_, ?_, ?_, ?_, ?_⟩
  · obtain ⟨literal, range, hliteral, hrange, -, -, hfront, hbetween⟩ := hpairs ["02071"] none rfl
    exact ⟨literal, range, hliteral, hrange, hfront.2 (by decide +kernel),
      hbetween.2 (by decide +kernel)⟩
  · obtain ⟨literal, range, hliteral, hrange, -, -, hfront, hbetween⟩ := hpairs ["02072"] none rfl
    refine ⟨literal, range, hliteral, hrange, ?_, ?_⟩
    · rw [← Bool.not_eq_true, hfront]
      decide +kernel
    · rw [← Bool.not_eq_true, hbetween]
      decide +kernel
  · obtain ⟨range, hrange, -, hmatches⟩ := hranges "0203" "021" hpork hmeat (by decide +kernel)
      (by decide +kernel) 2 []
    exact ⟨range, hrange, hmatches.2 (by decide +kernel)⟩
  · obtain ⟨range, hrange, -, hmatches⟩ := hranges "0203" "0207" hpork hpoultry (by decide +kernel)
      (by decide +kernel) 2 []
    refine ⟨range, hrange, ?_⟩
    rw [← Bool.not_eq_true, hmatches]
    decide +kernel
  · obtain ⟨hexists, hmatches⟩ :=
      hothers "020７" ⟨'７', by decide +kernel, by decide +kernel⟩ 3 (some "0208") []
    obtain ⟨rule, hrule⟩ := hexists (by decide +kernel)
    exact ⟨rule, hrule, hmatches rule hrule⟩

end Clearance.Commodity

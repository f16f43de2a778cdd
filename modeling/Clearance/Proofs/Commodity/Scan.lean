import Clearance.Proofs.Commodity.CodeValue
import Clearance.Proofs.Commodity.Classification

/-!
# What filing keeps from being compared

A code is compared only with the rules filed under its own first two characters. A rule that is a
literal prefix of two characters or more has these in common with every code that it matches. A
range has them in common with the codes in it as long as both its ends, filled up with zeros, begin
alike. So among such rules filing changes nothing: classification matches what comparing the code
with every rule would.
-/

set_option autoImplicit false

namespace Clearance.Commodity

/-- A code filled up with zeros. -/
def filled (code : Option String) : List Char := (code.getD "").toList.rightpad codeLength '0'

/-- A rule with the code and the bounds of a configured code prefix, which neither its code nor its
interval code is too long for. If it is a range, both ends begin alike. -/
structure PrefixRule.IsAligned (rule : PrefixRule) (source : CodePrefix) : Prop where
  code : source.code = some rule.code
  bounds : ∃ bounds, source.bounds = .ok bounds ∧ rule.low = bounds.low ∧ rule.high = bounds.high
  atLeast : keyLength ≤ rule.code.length
  atMost : rule.code.length ≤ codeLength
  interval : (source.intervalCode.getD "").length ≤ codeLength
  ends : rule.hasRange = true →
    (filled source.code).take keyLength = (filled source.intervalCode).take keyLength

variable {rule : PrefixRule} {source : CodePrefix} {code : List Char}

/-- A bound other than zero is the number that the code writes when filled up. -/
theorem isDigit_of_paddedValue {code : Option String} {value : Nat}
    (h : paddedValue code = .ok value) (hvalue : value ≠ 0) :
    (∀ c ∈ filled code, c.isDigit = true) ∧ value = codeValue (filled code) := by
  unfold paddedValue at h
  dsimp only at h
  split at h
  · cases h
    exact absurd rfl hvalue
  · next hnot =>
    split at h
    · cases h
    · cases h
      rw [Bool.or_eq_true, not_or, Bool.not_eq_true', Bool.not_eq_false, List.all_eq_true] at hnot
      exact ⟨hnot.2, rfl⟩

/-- A code prefix has bounds if both its codes have values, and has these as bounds. -/
theorem CodePrefix.bounds_eq_ok_iff {bounds : Bounds} : source.bounds = .ok bounds ↔
    paddedValue source.code = .ok bounds.low ∧ paddedValue source.intervalCode = .ok bounds.high := by
  unfold CodePrefix.bounds
  constructor
  · intro h
    cases hlow : paddedValue source.code with
    | error fault =>
      rw [hlow] at h
      cases h
    | ok low =>
      cases hhigh : paddedValue source.intervalCode with
      | error fault =>
        rw [hlow, hhigh] at h
        cases h
      | ok high =>
        rw [hlow, hhigh] at h
        cases h
        exact ⟨rfl, rfl⟩
  · rintro ⟨hlow, hhigh⟩
    rw [hlow, hhigh]
    rfl

theorem length_filled {code : Option String} (h : (code.getD "").length ≤ codeLength) :
    (filled code).length = codeLength := by
  unfold filled
  rw [List.length_rightpad, String.length_toList]
  exact max_eq_left h

theorem take_filled {text : String} {count : Nat} (h : count ≤ text.length) :
    (filled (some text)).take count = text.toList.take count := by
  unfold filled
  rw [List.rightpad, List.take_append_of_le_length]
  · rfl
  · rwa [← String.length_toList] at h

/-- The ends of a range are the numbers that the code and the interval code write when filled up. -/
theorem PrefixRule.IsAligned.ends_eq (h : rule.IsAligned source) (hrange : rule.hasRange = true) :
    (∀ c ∈ filled source.code, c.isDigit = true) ∧ rule.low = codeValue (filled source.code) ∧
    (∀ c ∈ filled source.intervalCode, c.isDigit = true) ∧
      rule.high = codeValue (filled source.intervalCode) := by
  obtain ⟨bounds, hbounds, hlow, hhigh⟩ := h.bounds
  unfold hasRange at hrange
  rw [Bool.and_eq_true, bne_iff_ne, bne_iff_ne, hlow, hhigh] at hrange
  obtain ⟨hcode, hinterval⟩ := CodePrefix.bounds_eq_ok_iff.1 hbounds
  obtain ⟨hlowdigits, hlowvalue⟩ := isDigit_of_paddedValue hcode (Int.natCast_ne_zero.1 hrange.1)
  obtain ⟨hhighdigits, hhighvalue⟩ :=
    isDigit_of_paddedValue hinterval (Int.natCast_ne_zero.1 hrange.2)
  exact ⟨hlowdigits, hlowvalue ▸ hlow, hhighdigits, hhighvalue ▸ hhigh⟩

/-- A rule whose ends begin alike begins like every code that it matches. -/
theorem PrefixRule.IsAligned.take_eq (h : rule.IsAligned source) (hcode : isCode code = true)
    (hmatches : rule.matchesCode code = true) :
    rule.code.toList.take keyLength = code.take keyLength := by
  unfold isCode at hcode
  rw [Bool.and_eq_true, beq_iff_eq, List.all_eq_true] at hcode
  obtain ⟨hlength, hdigits⟩ := hcode
  unfold matchesCode covers at hmatches
  rw [Bool.and_eq_true] at hmatches
  obtain ⟨hcovers, _⟩ := hmatches
  have hfront : (filled source.code).take keyLength = rule.code.toList.take keyLength := by
    rw [h.code]
    exact take_filled h.atLeast
  split at hcovers
  · next hrange =>
    obtain ⟨hlowdigits, hlow, hhighdigits, hhigh⟩ := h.ends_eq hrange
    rw [decide_eq_true_eq, hlow, hhigh, Int.ofNat_le, Int.ofNat_le] at hcovers
    have hlowlength : (filled source.code).length = code.length := by
      rw [hlength]
      exact length_filled (by rw [h.code]; exact h.atMost)
    have hhighlength : (filled source.intervalCode).length = code.length := by
      rw [hlength]
      exact length_filled h.interval
    rw [← hfront]
    exact take_eq_of_between hlowdigits hhighdigits hdigits hlowlength hhighlength (h.ends hrange)
      hcovers.1 hcovers.2
  · obtain ⟨rest, rfl⟩ := (Text.startsWith_iff _ _).1 hcovers
    rw [List.take_append_of_le_length]
    rw [String.length_toList]
    exact h.atLeast

/-- The rules that classification matches with a code of ten digits are, in their order, those that
have at least two characters, begin with the first two of the code and match it. A rule whose ends
begin alike has the first two characters of every code that it matches, so if that holds of all
rules, classification matches all that match the code. -/
theorem classify_eq_scan (rules : List PrefixRule) (text : String)
    (hcode : isCode text.toList = true) :
    (classify (some text) (.ofList rules)).matched = (rules.filter fun rule =>
      decide (keyLength ≤ rule.code.length) &&
        rule.code.toList.take keyLength == text.toList.take keyLength &&
          rule.matchesCode text.toList) ∧
    (∀ rule source, PrefixRule.IsAligned rule source → rule.matchesCode text.toList = true →
      rule.code.toList.take keyLength = text.toList.take keyLength) ∧
    ((∀ rule ∈ rules, ∃ source, rule.IsAligned source) →
      (classify (some text) (.ofList rules)).matched =
        rules.filter fun rule => rule.matchesCode text.toList) := by
  have hmatched : (classify (some text) (.ofList rules)).matched = rules.filter fun rule =>
      decide (keyLength ≤ rule.code.length) &&
        rule.code.toList.take keyLength == text.toList.take keyLength &&
          rule.matchesCode text.toList := by
    rw [matched_classify]
    apply List.filter_congr
    intro rule _
    unfold PrefixRule.isMatchedBy PrefixIndex.isFiledFor
    dsimp only
    rw [hcode, Bool.true_and, String.length_toList]
  have hfront : ∀ rule source, PrefixRule.IsAligned rule source →
      rule.matchesCode text.toList = true →
        rule.code.toList.take keyLength = text.toList.take keyLength :=
    fun _ _ haligned hmatches => haligned.take_eq hcode hmatches
  refine ⟨hmatched, hfront, fun haligned => ?_⟩
  rw [hmatched]
  apply List.filter_congr
  intro rule hrule
  obtain ⟨source, hsource⟩ := haligned rule hrule
  cases hmatches : rule.matchesCode text.toList with
  | false => exact Bool.and_false _
  | true =>
    rw [decide_eq_true hsource.atLeast, hfront rule source hsource hmatches, beq_self_eq_true]
    rfl

/-- A range of codes with one of them left out. -/
def beverages : PrefixRule := ⟨1, "2203", 2203000000, 2208000000, ["220410"]⟩

/-- A range is found by the first two digits of its lower end, and a code left out is not. -/
theorem classify_beverages :
    beverages.IsAligned ⟨some "2203", some "2208"⟩ ∧
    isCode "2204210000".toList = true ∧ isCode "2204100000".toList = true ∧
    (classify (some "2204210000") (.ofList [beverages])).matched = [beverages] ∧
    (classify (some "2204100000") (.ofList [beverages])).matched = [] := by
  have haligned : beverages.IsAligned ⟨some "2203", some "2208"⟩ :=
    ⟨rfl, ⟨⟨2203000000, 2208000000⟩, by rfl, rfl, rfl⟩, by decide, by decide, by decide,
      fun _ => rfl⟩
  have hall : ∀ rule ∈ [beverages], ∃ source, rule.IsAligned source := by
    intro rule hrule
    rw [List.mem_singleton.1 hrule]
    exact ⟨_, haligned⟩
  have hcode : isCode "2204210000".toList = true := by decide +kernel
  have hexcepted : isCode "2204100000".toList = true := by decide +kernel
  refine ⟨haligned, hcode, hexcepted, ?_, ?_⟩
  · rw [(classify_eq_scan [beverages] "2204210000" hcode).2.2 hall]
    decide +kernel
  · rw [(classify_eq_scan [beverages] "2204100000" hexcepted).2.2 hall]
    decide +kernel

end Clearance.Commodity

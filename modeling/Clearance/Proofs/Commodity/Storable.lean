import Clearance.Proofs.Commodity.Range

/-!
# Codes that may be stored

A text may be stored as a code if it is ten decimal digits of any system, and a line end behind them
does not count. A commodity code is ten ASCII digits. So every commodity code may be stored, and a
text that may be stored is a commodity code just if it is ASCII throughout and ends in no line end.
-/

set_option autoImplicit false

namespace Clearance

theorem Text.isDecimal_iff {c : Char} : isDecimal c = true ↔
    ∃ origin ∈ decimalZeros, origin ≤ c.toNat ∧ c.toNat < origin + 10 := by
  simp [isDecimal, decimalValue?]

/-- The decimal digits among the ASCII characters are the ASCII digits. -/
theorem Text.isDigit_iff_isDecimal {c : Char} :
    c.isDigit = true ↔ isDecimal c = true ∧ c.toNat < 0x80 := by
  have hzero : ∀ origin ∈ decimalZeros, origin < 0x80 → origin = '0'.toNat := by decide
  rw [Commodity.isDigit_iff, isDecimal_iff]
  constructor
  · rintro ⟨hlow, hhigh⟩
    have hnine : '9'.toNat = '0'.toNat + 9 := rfl
    have hvalue : '0'.toNat = 0x30 := rfl
    exact ⟨⟨'0'.toNat, by decide, hlow, by omega⟩, by omega⟩
  · rintro ⟨⟨origin, horigin, hlow, hhigh⟩, hsmall⟩
    obtain rfl := hzero origin horigin (by omega)
    exact ⟨hlow, Nat.le_of_lt_succ hhigh⟩

namespace Commodity

/-- A text may be stored just if it is ten decimal digits of any system, with or without a line end
behind them. -/
theorem isStorable_iff {text : List Char} : isStorable text = true ↔
    ∃ digits, digits.length = codeLength ∧ (∀ c ∈ digits, Text.isDecimal c = true) ∧
      (text = digits ∨ text = digits ++ ['\n']) := by
  unfold isStorable
  simp only [Bool.and_eq_true, Bool.or_eq_true, beq_iff_eq, List.all_eq_true, List.isEmpty_iff]
  constructor
  · rintro ⟨⟨hlength, hdigits⟩, hrest⟩
    refine ⟨text.take codeLength, hlength, hdigits, ?_⟩
    have hsplit := List.take_append_drop codeLength text
    rcases hrest with hnone | hline
    · rw [hnone, List.append_nil] at hsplit
      exact .inl hsplit.symm
    · rw [hline] at hsplit
      exact .inr hsplit.symm
  · rintro ⟨digits, hlength, hdigits, rfl | rfl⟩
    · rw [List.take_of_length_le hlength.le, List.drop_of_length_le hlength.le]
      exact ⟨⟨hlength, hdigits⟩, .inl rfl⟩
    · rw [List.take_left' hlength, List.drop_left' hlength]
      exact ⟨⟨hlength, hdigits⟩, .inr rfl⟩

/-- The texts that may be stored as codes are ten decimal digits each, of any system and with a line
end behind them or without. Among them the commodity codes are those that are ASCII throughout and
end in no line end. -/
theorem codes_among_storable (text : List Char) :
    (isStorable text = true ↔ ∃ digits, digits.length = codeLength ∧
      (∀ c ∈ digits, Text.isDecimal c = true) ∧ (text = digits ∨ text = digits ++ ['\n'])) ∧
    (isCode text = true ↔ isStorable text = true ∧ (∀ c ∈ text, c.toNat < 0x80) ∧
      text.getLast? ≠ some '\n') := by
  refine ⟨isStorable_iff, ?_⟩
  rw [isCode_iff, isStorable_iff]
  constructor
  · rintro ⟨hlength, hdigits⟩
    refine ⟨⟨text, hlength, fun c hc => (Text.isDigit_iff_isDecimal.1 (hdigits c hc)).1, .inl rfl⟩,
      fun c hc => (Text.isDigit_iff_isDecimal.1 (hdigits c hc)).2, fun hline => ?_⟩
    exact absurd (hdigits '\n' (List.mem_of_getLast? hline)) (by decide)
  · rintro ⟨⟨digits, hlength, hdecimal, rfl | rfl⟩, hascii, hline⟩
    · exact ⟨hlength, fun c hc => Text.isDigit_iff_isDecimal.2 ⟨hdecimal c hc, hascii c hc⟩⟩
    · exact absurd List.getLast?_concat hline

/-- A line end behind a commodity code, and digits of another system, may be stored and are no
commodity codes. -/
theorem storable_not_code :
    isStorable "1234567890\n".toList = true ∧ isCode "1234567890\n".toList = false ∧
      isStorable "１２３４５６７８９０".toList = true ∧ isCode "１２３４５６７８９０".toList = false := by
  decide

end Commodity

end Clearance

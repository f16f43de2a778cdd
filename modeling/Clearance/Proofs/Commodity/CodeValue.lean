import Mathlib.Data.Char
import Mathlib.Data.List.Lex
import Mathlib.Data.Nat.Digits.Defs
import Clearance.Commodity.Code
import Clearance.Proofs.Text.Numeral
import Clearance.Text.Search

/-!
# The number that a code writes

Digits written one behind another are the digits of a number to the base ten, the first one
weighing most. So of codes of one length no two write the same number, cutting off the last digits
is division by a power of ten, and a code between two others that begin alike begins like them.
Codes of one length stand in the order of their numbers, and those that begin with some digits are
the ones from these filled up with zeros to these filled up with nines.
-/

set_option autoImplicit false

namespace Clearance

namespace Commodity

variable {code low high : List Char}

theorem isDigit_iff {c : Char} : c.isDigit = true ↔ '0'.toNat ≤ c.toNat ∧ c.toNat ≤ '9'.toNat := by
  unfold Char.isDigit
  rw [Bool.and_eq_true, decide_eq_true_eq, decide_eq_true_eq]
  rfl

theorem digit_lt_ten {c : Char} (h : c.isDigit = true) : c.toNat - '0'.toNat < 10 := by
  have hhigh := (isDigit_iff.1 h).2
  have hzero : '0'.toNat = 48 := rfl
  have hnine : '9'.toNat = 57 := rfl
  omega

theorem codeValue_append (front back : List Char) :
    codeValue (front ++ back) = codeValue front * 10 ^ back.length + codeValue back := by
  unfold codeValue
  rw [List.map_append, Text.ofDigits_append, List.length_map]

theorem codeValue_lt (h : ∀ c ∈ code, c.isDigit = true) : codeValue code < 10 ^ code.length := by
  have hdigits : ∀ digit ∈ code.map fun c => c.toNat - '0'.toNat, digit < 10 := by
    intro digit hdigit
    obtain ⟨c, hc, rfl⟩ := List.mem_map.1 hdigit
    exact digit_lt_ten (h c hc)
  have hlt := Text.ofDigits_lt_pow (by decide) hdigits
  rwa [List.length_map] at hlt

/-- Cutting off the last digits of a code divides its number. -/
theorem codeValue_take (h : ∀ c ∈ code, c.isDigit = true) (count : Nat) :
    codeValue (code.take count) = codeValue code / 10 ^ (code.length - count) := by
  have hlt := codeValue_lt fun c hc => h c (List.mem_of_mem_drop (i := count) hc)
  have hsplit := codeValue_append (code.take count) (code.drop count)
  rw [List.take_append_drop] at hsplit
  rw [List.length_drop] at hlt hsplit
  rw [hsplit, Nat.mul_comm, Nat.mul_add_div (by positivity), Nat.div_eq_of_lt hlt, Nat.add_zero]

/-- A code is made of its digits. -/
theorem map_digit_eq (h : ∀ c ∈ code, c.isDigit = true) :
    (code.map fun c => c.toNat - '0'.toNat).map (fun digit => Char.ofNat ('0'.toNat + digit)) =
      code := by
  rw [List.map_map]
  calc code.map ((fun digit => Char.ofNat ('0'.toNat + digit)) ∘ fun c => c.toNat - '0'.toNat)
    _ = code.map id := by
      apply List.map_congr_left
      intro c hc
      have hzero := (isDigit_iff.1 (h c hc)).1
      rw [Function.comp_apply, Nat.add_sub_cancel' hzero, Char.ofNat_toNat, id]
    _ = code := List.map_id code

/-- No two codes of one length write the same number. -/
theorem eq_of_codeValue_eq (hlow : ∀ c ∈ low, c.isDigit = true)
    (hhigh : ∀ c ∈ high, c.isDigit = true) (hlength : low.length = high.length)
    (h : codeValue low = codeValue high) : low = high := by
  unfold codeValue at h
  rw [Text.ofDigits_eq, Text.ofDigits_eq] at h
  have hdigits := Nat.ofDigits_inj_of_len_eq (by decide : 1 < 10) (by simpa using hlength)
    (by simpa using fun c hc => digit_lt_ten (hlow c hc))
    (by simpa using fun c hc => digit_lt_ten (hhigh c hc)) h
  rw [← map_digit_eq hlow, ← map_digit_eq hhigh, List.reverse_inj.1 hdigits]

/-- A code between two others that begin alike begins like them. -/
theorem take_eq_of_between {count : Nat} (hlow : ∀ c ∈ low, c.isDigit = true)
    (hhigh : ∀ c ∈ high, c.isDigit = true) (hcode : ∀ c ∈ code, c.isDigit = true)
    (hlowlength : low.length = code.length) (hhighlength : high.length = code.length)
    (halike : low.take count = high.take count) (habove : codeValue low ≤ codeValue code)
    (hbelow : codeValue code ≤ codeValue high) : low.take count = code.take count := by
  have hlowfront := codeValue_take hlow count
  have hhighfront := codeValue_take hhigh count
  have hcodefront := codeValue_take hcode count
  rw [hlowlength] at hlowfront
  rw [hhighlength, ← halike] at hhighfront
  have hle : codeValue (low.take count) ≤ codeValue (code.take count) := by
    rw [hlowfront, hcodefront]
    exact Nat.div_le_div_right habove
  have hge : codeValue (code.take count) ≤ codeValue (low.take count) := by
    rw [hhighfront, hcodefront]
    exact Nat.div_le_div_right hbelow
  refine eq_of_codeValue_eq (fun c hc => hlow c (List.mem_of_mem_take hc))
    (fun c hc => hcode c (List.mem_of_mem_take hc)) ?_ (Nat.le_antisymm hle hge)
  rw [List.length_take, List.length_take, hlowlength]

/-! ## The order of codes -/

theorem codeValue_cons (c : Char) (rest : List Char) :
    codeValue (c :: rest) = (c.toNat - '0'.toNat) * 10 ^ rest.length + codeValue rest := by
  have hfirst : codeValue [c] = c.toNat - '0'.toNat := by simp [codeValue, Text.ofDigits]
  rw [← List.singleton_append, codeValue_append, hfirst]

theorem codeValue_cons_lt {c d : Char} {rest other : List Char} (hlt : c < d)
    (hc : c.isDigit = true) (hrest : ∀ c ∈ rest, c.isDigit = true)
    (hlength : rest.length = other.length) : codeValue (c :: rest) < codeValue (d :: other) := by
  have hdigit : c.toNat - '0'.toNat + 1 ≤ d.toNat - '0'.toNat := by
    have hzero := (isDigit_iff.1 hc).1
    have hnumbers : c.toNat < d.toNat := hlt
    omega
  rw [codeValue_cons, codeValue_cons, hlength]
  calc (c.toNat - '0'.toNat) * 10 ^ other.length + codeValue rest
    _ < (c.toNat - '0'.toNat) * 10 ^ other.length + 10 ^ other.length := by
      rw [← hlength]
      exact Nat.add_lt_add_left (codeValue_lt hrest) _
    _ = (c.toNat - '0'.toNat + 1) * 10 ^ other.length := by ring
    _ ≤ (d.toNat - '0'.toNat) * 10 ^ other.length := Nat.mul_le_mul_right _ hdigit
    _ ≤ (d.toNat - '0'.toNat) * 10 ^ other.length + codeValue other := Nat.le_add_right _ _

theorem lt_iff_codeValue_lt (hlow : ∀ c ∈ low, c.isDigit = true)
    (hhigh : ∀ c ∈ high, c.isDigit = true) (hlength : low.length = high.length) :
    low < high ↔ codeValue low < codeValue high := by
  induction low generalizing high with
  | nil =>
    obtain rfl := List.length_eq_zero_iff.1 hlength.symm
    simp
  | cons c rest ih =>
    cases high with
    | nil => simp at hlength
    | cons d other =>
      simp only [List.length_cons, Nat.add_right_cancel_iff] at hlength
      simp only [List.mem_cons, forall_eq_or_imp] at hlow hhigh
      rw [List.cons_lt_cons_iff]
      rcases Nat.lt_trichotomy c.toNat d.toNat with hlt | heq | hgt
      · have hvalues := codeValue_cons_lt hlt hlow.1 hlow.2 hlength
        exact iff_of_true (.inl hlt) hvalues
      · obtain rfl := Char.toNat_inj.1 heq
        rw [codeValue_cons, codeValue_cons, hlength, Nat.add_lt_add_iff_left,
          ← ih hlow.2 hhigh.2 hlength]
        simp
      · have hvalues := codeValue_cons_lt hgt hhigh.1 hhigh.2 hlength.symm
        apply iff_of_false
        · rintro (hlt | ⟨rfl, _⟩)
          · exact Nat.lt_asymm hlt hgt
          · exact Nat.lt_irrefl _ hgt
        · exact hvalues.not_gt

/-- Codes of one length stand in the order of their numbers. -/
theorem le_iff_codeValue_le (hlow : ∀ c ∈ low, c.isDigit = true)
    (hhigh : ∀ c ∈ high, c.isDigit = true) (hlength : low.length = high.length) :
    low ≤ high ↔ codeValue low ≤ codeValue high := by
  rw [← not_lt, lt_iff_codeValue_lt hhigh hlow hlength.symm, not_lt]

/-! ## The codes that begin alike -/

theorem isDigit_rightpad {front : List Char} {filler : Char} (width : Nat)
    (hfront : ∀ c ∈ front, c.isDigit = true) (hfiller : filler.isDigit = true) :
    ∀ c ∈ front.rightpad width filler, c.isDigit = true := by
  intro c hc
  rcases List.mem_append.1 hc with hc | hc
  · exact hfront c hc
  · rwa [List.eq_of_mem_replicate hc]

theorem codeValue_replicate_zero (width : Nat) : codeValue (List.replicate width '0') = 0 := by
  unfold codeValue
  rw [List.map_replicate]
  exact Text.ofDigits_replicate_zero 10 width

/-- Only zeros write zero. -/
theorem codeValue_ne_zero (hcode : ∀ c ∈ code, c.isDigit = true) (h : ∃ c ∈ code, c ≠ '0') :
    codeValue code ≠ 0 := by
  obtain ⟨c, hc, hne⟩ := h
  intro hzero
  rw [← codeValue_replicate_zero code.length] at hzero
  have hzeros : ∀ c ∈ List.replicate code.length '0', c.isDigit = true := by
    intro c hc
    rw [List.eq_of_mem_replicate hc]
    rfl
  have heq := eq_of_codeValue_eq hcode hzeros (by rw [List.length_replicate]) hzero
  rw [heq] at hc
  exact hne (List.eq_of_mem_replicate hc)

theorem codeValue_replicate_nine (width : Nat) :
    codeValue (List.replicate width '9') = 10 ^ width - 1 := by
  induction width with
  | zero => rfl
  | succ width ih =>
    have hnine : '9'.toNat - '0'.toNat = 9 := rfl
    have hpos : 0 < 10 ^ width := by positivity
    rw [List.replicate_succ, codeValue_cons, ih, List.length_replicate, hnine, Nat.pow_succ]
    omega

/-- The codes that begin with some digits are those from these filled up with zeros to these filled
up with nines. -/
theorem startsWith_iff_between {front : List Char} (hfront : ∀ c ∈ front, c.isDigit = true)
    (hcode : ∀ c ∈ code, c.isDigit = true) (hlength : front.length ≤ code.length) :
    Text.startsWith front code = true ↔
      codeValue (front.rightpad code.length '0') ≤ codeValue code ∧
        codeValue code ≤ codeValue (front.rightpad code.length '9') := by
  let width := code.length - front.length
  have hpos : 0 < 10 ^ width := by positivity
  have hlow : codeValue (front.rightpad code.length '0') = codeValue front * 10 ^ width := by
    rw [List.rightpad, codeValue_append, codeValue_replicate_zero, List.length_replicate,
      Nat.add_zero]
  have hhigh : codeValue (front.rightpad code.length '9') =
      codeValue front * 10 ^ width + 10 ^ width - 1 := by
    rw [List.rightpad, codeValue_append, codeValue_replicate_nine, List.length_replicate,
      Nat.add_sub_assoc hpos]
  rw [hlow, hhigh, ← Nat.div_eq_iff hpos, ← codeValue_take hcode, Text.startsWith,
    List.isPrefixOf_iff_prefix, List.prefix_iff_eq_take]
  constructor
  · intro htake
    rw [← htake]
  · intro hvalue
    refine eq_of_codeValue_eq hfront (fun c hc => hcode c (List.mem_of_mem_take hc)) ?_ hvalue.symm
    rw [List.length_take, Nat.min_eq_left hlength]

end Commodity

end Clearance

import Mathlib.Algebra.Group.Nat.Defs
import Clearance.Job.Handle

/-!
# Handles of different jobs

The handle of a job ends in the decimal digits of its count, which are hexadecimal digits of the
handle. They are no number that is easily computed from the count, but they still tell it: no two
counts come to the same handle.
-/

set_option autoImplicit false

namespace Clearance.Handle

/-- The decimal digits of a number, read in base sixteen. -/
def reread (count : Nat) : Nat :=
  Text.ofDigits 16 ((Nat.toDigits 10 count).map fun c => c.toNat - '0'.toNat)

theorem toNat_digitChar {digit : Nat} (h : digit < 10) :
    (Nat.digitChar digit).toNat - '0'.toNat = digit := by
  revert digit
  decide

theorem reread_of_lt {count : Nat} (h : count < 10) : reread count = count := by
  unfold reread
  rw [Nat.toDigits_of_lt_base h, List.map_singleton, toNat_digitChar h]
  unfold Text.ofDigits
  rw [List.foldl_cons, List.foldl_nil, Nat.zero_mul, Nat.zero_add]

theorem reread_of_le {count : Nat} (h : 10 ≤ count) :
    reread count = reread (count / 10) * 16 + count % 10 := by
  have hdigit : count % 10 < 10 := Nat.mod_lt _ (by decide)
  unfold reread
  rw [Nat.toDigits_of_base_le (by decide) h, List.map_append, List.map_singleton,
    toNat_digitChar hdigit]
  unfold Text.ofDigits
  rw [List.foldl_append, List.foldl_cons, List.foldl_nil]

theorem le_reread (count : Nat) : count ≤ reread count := by
  induction count using Nat.strongRecOn with
  | ind count ih =>
    by_cases hsmall : count < 10
    · exact Nat.le_of_eq (reread_of_lt hsmall).symm
    · rw [reread_of_le (by omega)]
      have := ih (count / 10) (by omega)
      omega

theorem reread_lt {count width : Nat} (h : count < 10 ^ width) : reread count < 16 ^ width := by
  induction width generalizing count with
  | zero =>
    rw [Nat.pow_zero] at h ⊢
    rw [reread_of_lt (by omega)]
    exact h
  | succ width ih =>
    rw [Nat.pow_succ] at h ⊢
    by_cases hsmall : count < 10
    · have hpos := Nat.pow_pos (n := width) (show 0 < 16 by decide)
      rw [reread_of_lt hsmall]
      omega
    · have hrest := ih (show count / 10 < 10 ^ width by omega)
      rw [reread_of_le (Nat.not_lt.1 hsmall)]
      omega

/-- A count of at most thirty-one digits comes to a handle. -/
theorem ofCount_lt_bound {count : Nat} (h : count < 10 ^ 31) : (ofCount count).value < bound := by
  have hread := reread_lt h
  have hbound : 0x40008000000000000000 + 16 ^ 31 ≤ bound := by decide
  change 0x40008000000000000000 + reread count < bound
  omega

/-- The last digit of a count is the last digit of the number that is read, and those before it are
told by the rest. -/
theorem reread_injective {a b : Nat} (h : reread a = reread b) : a = b := by
  induction a using Nat.strongRecOn generalizing b with
  | ind a ih =>
    have hleast := le_reread (a / 10)
    have hleast' := le_reread (b / 10)
    by_cases hsmall : a < 10
    · have ha := reread_of_lt hsmall
      by_cases hsmall' : b < 10
      · have hb := reread_of_lt hsmall'
        omega
      · have hb := reread_of_le (Nat.not_lt.1 hsmall')
        omega
    · have ha := reread_of_le (Nat.not_lt.1 hsmall)
      by_cases hsmall' : b < 10
      · have hb := reread_of_lt hsmall'
        omega
      · have hb := reread_of_le (Nat.not_lt.1 hsmall')
        have hrest := ih (a / 10) (by omega) (show reread (a / 10) = reread (b / 10) by omega)
        omega

/-- Different counts have different handles. -/
theorem ofCount_injective {a b : Nat} (h : ofCount a = ofCount b) : a = b :=
  reread_injective (Nat.add_left_cancel (congrArg Handle.value h))

end Clearance.Handle

/-!
# Code points in ranges

A character property of the Unicode standard is given by ascending ranges of code points, and a
character mapping by ascending runs: a run maps every `step`-th code point from `first` to `last`,
and moves them all by the same distance. Both are searched from the front and the search ends at
the first range that begins beyond the code point.
-/

set_option autoImplicit false

namespace Clearance.Text

/-- Whether a code point lies in one of the ascending ranges. -/
def inRanges : List (Nat × Nat) → Nat → Bool
  | [], _ => false
  | (low, high) :: rest, n => if n < low then false else n ≤ high || inRanges rest n

/-- Every `step`-th code point from `first` to `last`; `first` is mapped to `image`. -/
structure Run where
  first : Nat
  last : Nat
  step : Nat
  image : Nat

/-- The image of a code point under ascending runs; one that lies in no run keeps its place. -/
def mapRuns : List Run → Nat → Nat
  | [], n => n
  | run :: rest, n =>
    if n < run.first then n
    else if n ≤ run.last && (n - run.first) % run.step == 0 then run.image + (n - run.first)
    else mapRuns rest n

/-- A code point in one of the ranges lies between the ends of a range of the list. -/
theorem exists_range_of_inRanges {ranges : List (Nat × Nat)} {n : Nat}
    (h : inRanges ranges n = true) : ∃ r ∈ ranges, r.1 ≤ n ∧ n ≤ r.2 := by
  induction ranges with
  | nil => simp [inRanges] at h
  | cons r rest ih =>
    obtain ⟨low, high⟩ := r
    simp only [inRanges] at h
    split at h
    · simp at h
    · next hlow =>
      simp only [Bool.or_eq_true, decide_eq_true_eq] at h
      rcases h with h | h
      · exact ⟨(low, high), by simp, by simp; omega, h⟩
      · obtain ⟨r, hr, hn⟩ := ih h
        exact ⟨r, by simp [hr], hn⟩

end Clearance.Text

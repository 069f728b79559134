import Mathlib.Tactic.Common

/-!
# Exact operations on integers of fixed width

Sums and conversions wrap around. Each of them yields the mathematical value exactly if that value
fits into the type of the result.

## Main results

* `add_exact_iff`: a sum of 64 bits
* `toInt32_exact_iff`, `toInt32_add_exact_iff`: a conversion to 32 bits, and a sum after it
* `toUInt32_exact_iff`: the same for unsigned numbers
-/
namespace FixedWidth

/-- A balanced remainder is the number itself exactly if the number lies in its range. -/
theorem bmod_eq_self_iff {x : Int} {m : Nat} (positive : 0 < m) :
    x.bmod m = x ↔ -(m / 2 : Int) ≤ x ∧ x < (m + 1) / 2 := by
  constructor
  · intro same
    exact ⟨same ▸ Int.le_bmod positive, same ▸ Int.bmod_lt positive⟩
  · rintro ⟨lower, upper⟩
    exact Int.bmod_eq_of_le lower upper

/-- A sum of two 64-bit numbers is exact if and only if it needs no more than 64 bits. -/
theorem add_exact_iff {x y : Int64} :
    (x + y).toInt = x.toInt + y.toInt ↔
      -9223372036854775808 ≤ x.toInt + y.toInt ∧ x.toInt + y.toInt ≤ 9223372036854775807 := by
  rw [Int64.toInt_add, bmod_eq_self_iff (by decide)]
  omega

/-- Cutting to 32 bits keeps the number if and only if it needs no more than 32 bits. -/
theorem toInt32_exact_iff {x : Int64} :
    x.toInt32.toInt = x.toInt ↔ -2147483648 ≤ x.toInt ∧ x.toInt ≤ 2147483647 := by
  rw [Int64.toInt_toInt32, bmod_eq_self_iff (by decide)]
  omega

/-- A conversion followed by a sum: what the conversion cuts off, the sum does not bring back. -/
theorem toInt32_add_exact_iff {x : Int64} {y : Int32} :
    (x.toInt32 + y).toInt = x.toInt + y.toInt ↔
      -2147483648 ≤ x.toInt + y.toInt ∧ x.toInt + y.toInt ≤ 2147483647 := by
  rw [Int32.toInt_add, Int64.toInt_toInt32, Int.bmod_add_bmod, bmod_eq_self_iff (by decide)]
  omega

theorem toUInt64_exact {x : Int64} (positive : 0 ≤ x) : (x.toUInt64.toNat : Int) = x.toInt := by
  rw [Int64.toNat_toUInt64_of_le positive, ← Int64.toNat_toInt]
  exact Int.toNat_of_nonneg (Int64.le_iff_toInt_le.mp positive)

/-- A number that is not negative, as an unsigned one of half the width. -/
theorem toUInt32_exact_iff {x : Int64} (positive : 0 ≤ x) :
    (x.toUInt64.toUInt32.toNat : Int) = x.toInt ↔ x.toInt ≤ 4294967295 := by
  have value := toUInt64_exact positive
  rw [UInt64.toNat_toUInt32]
  omega

end FixedWidth

import Mathlib.Algebra.Order.BigOperators.Group.List
import Mathlib.Algebra.Order.Field.Basic
import Colony.Proofs.Rational

/-!
# Means in exact numbers

Over the rationals a mean is a sum over a count.  It does not depend on the
order of the numbers, nor on how often all of them are listed; it grows with
each of them and lies between any bounds that all of them lie between.
-/

namespace Colony

variable {xs ys : List Rat} {low high : Rat}

theorem mean_rat (xs : List Rat) : Scalar.mean xs = xs.sum / xs.length := by
  rw [Scalar.mean, total_rat]

theorem mean_perm (perm : xs.Perm ys) : Scalar.mean xs = Scalar.mean ys := by
  rw [mean_rat, mean_rat, perm.sum_eq, perm.length_eq]

theorem mean_repeated {m : Nat} (some : 1 ≤ m) (xs : List Rat) :
    Scalar.mean (List.replicate m xs).flatten = Scalar.mean xs := by
  have nonzero : (m : Rat) ≠ 0 := Nat.cast_ne_zero.mpr (Nat.one_le_iff_ne_zero.mp some)
  have sum : (List.replicate m xs).flatten.sum = m * xs.sum := by
    rw [List.sum_flatten, List.map_replicate, List.sum_replicate, nsmul_eq_mul]
  have length : ((List.replicate m xs).flatten.length : Rat) = m * xs.length := by
    rw [List.length_flatten, List.map_replicate, List.sum_replicate_nat, Nat.cast_mul]
  rw [mean_rat, mean_rat, sum, length, mul_div_mul_left _ _ nonzero]

theorem mean_mono (le : List.Forall₂ (· ≤ ·) xs ys) : Scalar.mean xs ≤ Scalar.mean ys := by
  rw [mean_rat, mean_rat, le.length_eq]
  exact div_le_div_of_nonneg_right le.sum_le_sum (Nat.cast_nonneg _)

section Bounds

variable (some : xs ≠ [])
include some

theorem length_pos_rat : 0 < (xs.length : Rat) :=
  Nat.cast_pos.mpr (List.length_pos_iff.mpr some)

theorem mean_le_of_forall (le : ∀ x ∈ xs, x ≤ high) : Scalar.mean xs ≤ high := by
  have sum : xs.sum ≤ xs.length • high := List.sum_le_card_nsmul xs high le
  rw [mean_rat, div_le_iff₀ (length_pos_rat some), mul_comm, ← nsmul_eq_mul]
  exact sum

theorem le_mean_of_forall (le : ∀ x ∈ xs, low ≤ x) : low ≤ Scalar.mean xs := by
  have sum : xs.length • low ≤ xs.sum := List.card_nsmul_le_sum xs low le
  rw [mean_rat, le_div_iff₀ (length_pos_rat some), mul_comm, ← nsmul_eq_mul]
  exact sum

end Bounds

end Colony

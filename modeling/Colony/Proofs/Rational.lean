import Mathlib.Algebra.BigOperators.Ring.List
import Mathlib.Algebra.Field.Rat
import Mathlib.Algebra.Order.Ring.Rat
import Colony.Economy.Ledger
import Colony.Proofs.Order
import Colony.Scalar.Rational

/-!
# Rules in exact numbers

Over the rationals the sums of the rules are the sums of algebra.
-/

namespace Colony

theorem total_rat (xs : List Rat) : Scalar.total xs = xs.sum := by
  have zero : (Scalar.ofWhole 0 : Rat) = 0 := Int.cast_zero
  rw [Scalar.total, zero]
  exact List.sum_eq_foldl.symm

@[simp] theorem checked_rat (q : Rat) : Scalar.checked q = .ok q := rfl

@[simp] theorem confined_rat (q : Rat) : Scalar.confined q = .ok (Scalar.unit q) := rfl

theorem atLeast_rat (low x : Rat) : Scalar.atLeast low x = max low x := by
  rw [Scalar.atLeast, max_def]
  split_ifs <;> grind

theorem atLeast_zero_rat (x : Rat) : 0 ≤ Scalar.atLeast 0 x :=
  Scalar.le_atLeast Scalar.defined_zero x

theorem unit_nonneg_rat (x : Rat) : 0 ≤ Scalar.unit x :=
  Scalar.le_clamp Scalar.zero_lt_one (Scalar.rounded x)

theorem unit_unit_rat (x : Rat) : Scalar.unit (Scalar.unit x) = Scalar.unit x :=
  Scalar.clamp_clamp Scalar.zero_lt_one x

theorem clamp_rat (low high x : Rat) : Scalar.clamp low high x = max low (min high x) := by
  have most : Scalar.atMost high x = min high x := by
    simp only [Scalar.atMost, min_def, ← not_lt, ite_not]
  rw [Scalar.clamp, most, atLeast_rat]

theorem unit_rat (x : Rat) : Scalar.unit x = max 0 (min 1 x) := clamp_rat 0 1 x

theorem unit_le_one_rat (x : Rat) : Scalar.unit x ≤ 1 :=
  Scalar.clamp_le Scalar.zero_lt_one (Scalar.rounded x)

theorem unit_mono_rat {x y : Rat} (le : x ≤ y) : Scalar.unit x ≤ Scalar.unit y := by
  rw [unit_rat, unit_rat]
  exact max_le_max le_rfl (min_le_min le_rfl le)

theorem add_sub_rat (x y : Rat) : x + (y - x) = y := add_sub_cancel x y

namespace Economy

theorem mineralProduction_rat (mines : List (Mine Rat)) :
    mineralProduction mines = (mines.map (·.yieldRate)).sum := total_rat _

theorem mineralDemand_rat (c : Config Rat) (refineries : List (Refinery Rat)) :
    mineralDemand c refineries = (refineries.map (·.efficiency)).sum * c.mineralPerRefinery := by
  rw [mineralDemand, total_rat]
  exact refineries.sum_map_mul_right (·.efficiency) c.mineralPerRefinery

theorem rapidlumProduction_rat (c : Config Rat) (refineries : List (Refinery Rat)) :
    rapidlumProduction c refineries =
      (refineries.map (·.efficiency)).sum * c.rapidlumPerRefinery := by
  rw [rapidlumProduction, total_rat]
  exact refineries.sum_map_mul_right (·.efficiency) c.rapidlumPerRefinery

end Economy

end Colony

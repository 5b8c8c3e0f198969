import Mathlib.Order.Nat
import Colony.Decimal.Nearest

/-!
# Larger whole numbers have no smaller bits

The bits of the binary number nearest to a whole one grow with it: among
numbers with one leading place the significand does, and every significand is
between the hidden bit and twice that, so that the next place takes over.  A
whole number that is too large for a binary number is therefore not brought
back by a factor.
-/

namespace Colony.Decimal

theorem roundQuotient_le (num den : Nat) : roundQuotient num den ≤ num / den + 1 := by
  simp only [roundQuotient]
  split <;> omega

theorem le_roundQuotient (num den : Nat) : num / den ≤ roundQuotient num den := by
  simp only [roundQuotient]
  split <;> omega

theorem roundQuotient_mono {num num' : Nat} (den : Nat) (le : num ≤ num') :
    roundQuotient num den ≤ roundQuotient num' den := by
  have quotients : num / den ≤ num' / den := Nat.div_le_div_right le
  rcases quotients.lt_or_eq with less | same
  · calc
      roundQuotient num den ≤ num / den + 1 := roundQuotient_le num den
      _ ≤ num' / den := less
      _ ≤ roundQuotient num' den := le_roundQuotient num' den
  · -- With one quotient, the larger number has the larger remainder.
    have parts := Nat.div_add_mod num den
    have parts' := Nat.div_add_mod num' den
    rw [same] at parts
    simp only [roundQuotient, same]
    split <;> split <;> omega

/-! ## Whole numbers -/

/-- The significand of the binary number nearest to a whole one, its leading bit included. -/
def wholeSignificand (n : Nat) : Nat :=
  roundQuotient (n * Nat.pow 2 (52 - n.log2)) (Nat.pow 2 (n.log2 - 52))

section Whole

variable {n : Nat} (positive : n ≠ 0)
include positive

theorem binaryExponent_whole : binaryExponent n 1 = n.log2 := by
  have place : (n.log2 : Int) - Nat.log2 1 = n.log2 := Int.sub_zero _
  have reached : 1 * Nat.pow 2 (n.log2 : Int).toNat ≤ n * Nat.pow 2 (-(n.log2 : Int)).toNat := by
    rw [Int.toNat_natCast, Int.toNat_neg_natCast, Nat.one_mul]
    exact (Nat.log2_self_le positive).trans_eq (Nat.mul_one n).symm
  simp only [binaryExponent, place]
  exact if_pos reached

theorem decimalBits_whole :
    decimalBits n 0 = min infinityBits ((n.log2 + 1022) * hiddenBit + wholeSignificand n) := by
  have places : max ((n.log2 : Int) - 52) (-1074) = (n.log2 : Int) - 52 := by omega
  have down : (-((n.log2 : Int) - 52)).toNat = 52 - n.log2 := by omega
  have up : ((n.log2 : Int) - 52).toNat = n.log2 - 52 := by omega
  have exponent : ((n.log2 : Int) - 52 + 1074).toNat = n.log2 + 1022 := by omega
  have near : decimalBits n 0 = nearestBits n 1 := by
    have large : ¬ ((n.log2 : Int) + 1101 < -3 * 0) := by omega
    rw [decimalBits, if_neg positive, if_neg (by decide), if_neg large]
    exact congrArg (nearestBits · 1) (Nat.mul_one n)
  rw [near, nearestBits, if_neg positive, binaryExponent_whole positive]
  simp only [places, down, up, exponent, wholeSignificand, Nat.one_mul, Nat.pow_eq]

theorem wholeSignificand_bounds :
    hiddenBit ≤ wholeSignificand n ∧ wholeSignificand n ≤ 2 * hiddenBit := by
  have scale : 2 ^ n.log2 * 2 ^ (52 - n.log2) = hiddenBit * 2 ^ (n.log2 - 52) := by
    have hidden : hiddenBit = 2 ^ 52 := rfl
    rw [hidden, ← Nat.pow_add, ← Nat.pow_add]
    congr 1
    omega
  have room : 0 < 2 ^ (n.log2 - 52) := Nat.two_pow_pos _
  have least : hiddenBit ≤ n * 2 ^ (52 - n.log2) / 2 ^ (n.log2 - 52) := by
    rw [Nat.le_div_iff_mul_le room, ← scale]
    exact Nat.mul_le_mul_right _ (Nat.log2_self_le positive)
  have most : n * 2 ^ (52 - n.log2) / 2 ^ (n.log2 - 52) < 2 * hiddenBit := by
    rw [Nat.div_lt_iff_lt_mul room, Nat.mul_assoc, ← scale, ← Nat.mul_assoc, ← Nat.pow_succ']
    exact Nat.mul_lt_mul_of_pos_right Nat.lt_log2_self (Nat.two_pow_pos _)
  exact ⟨least.trans (le_roundQuotient _ _), (roundQuotient_le _ _).trans most⟩

end Whole

theorem decimalBits_mono {m n : Nat} (le : m ≤ n) : decimalBits m 0 ≤ decimalBits n 0 := by
  rcases Nat.eq_zero_or_pos m with rfl | positive
  · exact Nat.zero_le _
  · have positive' : n ≠ 0 := by omega
    have places : m.log2 ≤ n.log2 :=
      (Nat.le_log2 positive').mpr ((Nat.log2_self_le positive.ne').trans le)
    rw [decimalBits_whole positive.ne', decimalBits_whole positive']
    refine Nat.le_min.mpr ⟨Nat.min_le_left _ _, (Nat.min_le_right _ _).trans ?_⟩
    rcases places.lt_or_eq with fewer | same
    · have upper := (wholeSignificand_bounds positive.ne').2
      have lower := (wholeSignificand_bounds positive').1
      have carried : (m.log2 + 1 + 1022) * hiddenBit ≤ (n.log2 + 1022) * hiddenBit :=
        Nat.mul_le_mul_right _ (by omega)
      rw [Nat.add_right_comm, Nat.add_one_mul] at carried
      omega
    · refine Nat.add_le_add (by rw [same]) ?_
      rw [wholeSignificand, wholeSignificand, same]
      exact roundQuotient_mono _ (Nat.mul_le_mul_right _ le)

theorem decimalBits_le_infinityBits (n : Nat) : decimalBits n 0 ≤ infinityBits := by
  rcases Nat.eq_zero_or_pos n with rfl | positive
  · exact Nat.zero_le _
  · rw [decimalBits_whole positive.ne']
    exact Nat.min_le_left _ _

/-- A whole number beyond all binary ones stays beyond them when it grows. -/
theorem decimalBits_eq_infinityBits {m n : Nat} (le : m ≤ n)
    (infinite : decimalBits m 0 = infinityBits) : decimalBits n 0 = infinityBits :=
  Nat.le_antisymm (decimalBits_le_infinityBits n) (infinite ▸ decimalBits_mono le)

end Colony.Decimal

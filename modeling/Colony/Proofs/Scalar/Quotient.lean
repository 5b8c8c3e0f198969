import Colony.Proofs.Scalar.Counting
import Colony.Proofs.Scalar.Sign

/-!
# Quotients below one

A number without a minus that is less than another goes into it less than
once, and the quotient stays below one when it is rounded: the greatest
significand has a place below one, and no quotient of two significands lies
between them.
-/

namespace Colony

namespace Amount

open Float.Model Float.Model.UnpackedFloat

/-! ## Rounding -/

/-- The greatest significand. -/
def greatest : Nat := 2 ^ 53 - 1

theorem targetExponent_le {m j : Nat} {e : Int} (place : e + j = -53)
    (small : m ≤ greatest * 2 ^ j) :
    Format.binary64.targetExponent (totalExponent m e) ≤ -53 := by
  have less : m < 2 ^ (53 + j) := by
    rw [pow_add]
    refine lt_of_le_of_lt small (Nat.mul_lt_mul_of_pos_right (by decide) (by positivity))
  have bits : m.log2 < 53 + j := by
    rcases Nat.eq_zero_or_pos m with rfl | positive
    · simp
    · exact (Nat.log2_lt positive.ne').mpr less
  simp only [Format.targetExponent, totalExponent, Format.mantissaBits, Format.minExponent]
  omega

theorem mantissa_shiftRight (em : ExtendedMantissa) (k : Nat) :
    (em >>> k).mantissa = em.mantissa / 2 ^ k := by
  change (k.repeat ExtendedMantissa.shiftRightOne em).mantissa = _
  induction k with
  | zero => simp [Nat.repeat]
  | succ k ih =>
      rw [Nat.repeat, ExtendedMantissa.shiftRightOne, ih, Nat.div_div_eq_div_mul, ← pow_succ]

theorem roundedMantissa_le (em : ExtendedMantissa) : em.roundedMantissa ≤ em.mantissa + 1 := by
  obtain ⟨m, round, sticky⟩ := em
  cases round <;> cases sticky <;>
    simp [ExtendedMantissa.roundedMantissa, ExtendedMantissa.accuracy, Accuracy.roundToNearestEven]
  omega

/-- Rounding does not pass a bound that has a place: at most the bound before, at most it after. -/
theorem roundedMantissa_shiftRight_le {q j k : Nat} {acc : Accuracy}
    (small : q ≤ greatest * 2 ^ (j + k)) (exact : q = greatest * 2 ^ (j + k) → acc = .exact) :
    (ExtendedMantissa.ofMantissaAndAccuracy q acc >>> k).roundedMantissa ≤ greatest * 2 ^ j := by
  have kept : (ExtendedMantissa.ofMantissaAndAccuracy q acc).mantissa = q := by
    cases acc with
    | exact => rfl
    | inexact order => cases order <;> rfl
  have product : greatest * 2 ^ (j + k) = greatest * 2 ^ j * 2 ^ k := by rw [pow_add, mul_assoc]
  have shifted := mantissa_shiftRight (ExtendedMantissa.ofMantissaAndAccuracy q acc) k
  rw [kept] at shifted
  have bound : q / 2 ^ k ≤ greatest * 2 ^ j := by
    refine Nat.div_le_of_le_mul ?_
    rwa [mul_comm, ← product]
  rcases bound.lt_or_eq with less | full
  · calc
      _ ≤ (ExtendedMantissa.ofMantissaAndAccuracy q acc >>> k).mantissa + 1 := roundedMantissa_le _
      _ ≤ greatest * 2 ^ j := by rw [shifted]; exact less
  · have whole : q = greatest * 2 ^ j * 2 ^ k := by
      refine le_antisymm (product ▸ small) ?_
      rw [← full]
      exact Nat.div_mul_le_self q (2 ^ k)
    obtain rfl := exact (whole.trans product.symm)
    have em : ExtendedMantissa.ofMantissaAndAccuracy q .exact =
        ⟨greatest * 2 ^ j * 2 ^ k, false, false⟩ := by rw [← whole]; rfl
    rw [em, shiftRight_mul_two_pow]
    exact le_refl _

/-- A finite number whose exponent leaves it below one. -/
def Small (u : UnpackedFloat) : Prop :=
  u = .zero .positive ∨ ∃ m e positive, u = .finite .positive m e positive ∧ e ≤ -53

theorem small_roundWithAccuracy {q j : Nat} {e : Int} {acc : Accuracy} (place : e + j = -53)
    (small : q ≤ greatest * 2 ^ j) (exact : q = greatest * 2 ^ j → acc = .exact) :
    Small (UnpackedFloat.roundWithAccuracy .binary64 .positive q e acc) := by
  have target := targetExponent_le place small
  obtain ⟨k, shift⟩ : ∃ k, k = (Format.binary64.targetExponent (totalExponent q e) - e).toNat :=
    ⟨_, rfl⟩
  obtain ⟨i, split⟩ : ∃ i, j = i + k := ⟨j - k, by omega⟩
  subst split
  have place' : e + k + i = -53 := by omega
  have rounded := roundedMantissa_shiftRight_le small exact
  have target' := targetExponent_le place' rounded
  simp only [UnpackedFloat.roundWithAccuracy, shiftToTargetExponent, shiftToExponent, ← shift]
  split
  · exact .inl rfl
  · refine .inr ⟨_, _, _, rfl, ?_⟩
    omega

theorem mul_two_pow_lt_one {m : Nat} {e : Int} (fits : m < 2 ^ 53) (low : e ≤ -53) :
    (m : Rat) * 2 ^ e < 1 := by
  have room : (0 : Rat) < 2 ^ (53 : Int) := by positivity
  have significand : (m : Rat) < 2 ^ (53 : Int) := by exact_mod_cast fits
  have exponent : (2 : Rat) ^ e ≤ 2 ^ (-53 : Int) := zpow_le_zpow_right₀ (by norm_num) low
  calc
    (m : Rat) * 2 ^ e ≤ m * 2 ^ (-53 : Int) := by gcongr
    _ < 2 ^ (53 : Int) * 2 ^ (-53 : Int) := by gcongr
    _ = 1 := by rw [← zpow_add₀ (by norm_num)]; norm_num

/-- Below the exponent of one, bits without a sign stand for less than one. -/
theorem exists_exactOf_of_low {b : BitVec 64} (plus : signField b = .positive)
    (low : exponentField b ≤ 1022) :
    ∃ q : Rat, 0 ≤ q ∧ q < 1 ∧ exactOf (UnpackedFloat.unpack .binary64 b) = .finite q := by
  have small : fractionField b < 2 ^ 52 := Nat.mod_lt _ (by decide)
  have finite : ¬ exponentField b = 2047 := by omega
  have value {m : Nat} {e : Int} (positive : 0 < m) (fits : m < 2 ^ 53) (low : e ≤ -53) :
      ∃ q : Rat, 0 ≤ q ∧ q < 1 ∧ exactOf (.finite .positive m e positive) = .finite q :=
    ⟨m * 2 ^ e, by positivity, mul_two_pow_lt_one fits low, rfl⟩
  rw [unpack_eq, plus, if_neg finite]
  split
  · split
    · exact ⟨0, le_refl 0, zero_lt_one, rfl⟩
    · exact value _ (by omega) (by decide)
  · exact value _ (by omega) (by omega)

/-- What a small number becomes when it is written and read again. -/
theorem Small.exactOf_unpack_pack {u : UnpackedFloat} (h : Small u) :
    ∃ q : Rat, 0 ≤ q ∧ q < 1 ∧
      exactOf (UnpackedFloat.unpack .binary64 (UnpackedFloat.pack .binary64 u)) = .finite q := by
  rcases h with rfl | ⟨m, e, positive, rfl, low⟩
  · exact ⟨0, le_refl 0, zero_lt_one, rfl⟩
  · have written : ∃ E : BitVec 11, ∃ M : BitVec 52, E.toNat ≤ 1022 ∧
        UnpackedFloat.pack .binary64 (.finite .positive m e positive) =
          packComponents .binary64 .positive E M := by
      have bias : Format.binary64.exponentBias = 1023 := by decide
      have biased : (e + Format.binary64.exponentBias + (52 : Nat)).toNat ≤ 1022 := by
        rw [bias]
        omega
      have finite : ¬ 2 ^ Format.binary64.exponentBits ≤
          (e + Format.binary64.exponentBias + (52 : Nat)).toNat + 1 := by
        have width : 2 ^ Format.binary64.exponentBits = 2048 := by decide
        omega
      simp only [UnpackedFloat.pack, if_neg finite]
      split
      · refine ⟨_, _, ?_, rfl⟩
        rw [BitVec.toNat_ofNat]
        exact (Nat.mod_le _ _).trans biased
      · exact ⟨_, _, Nat.zero_le _, rfl⟩
    obtain ⟨E, M, least, packed⟩ := written
    rw [packed]
    exact exists_exactOf_of_low (signField_packComponents _ E M)
      ((exponentField_packComponents _ E M).trans_le least)

/-- The significands of finite numbers on a common exponent. -/
theorem exists_common {m n : Nat} {e f : Int} (less : (m : Rat) * 2 ^ e < n * 2 ^ f) :
    ∃ a b : Nat, (a : Int) - b = e - f ∧ (a = 0 ∨ b = 0) ∧ m * 2 ^ a < n * 2 ^ b := by
  refine ⟨(e - min e f).toNat, (f - min e f).toNat, by omega, by omega, ?_⟩
  have room : (0 : Rat) < 2 ^ min e f := by positivity
  have scaled (k : Nat) (g : Int) (above : min e f ≤ g) :
      ((k * 2 ^ (g - min e f).toNat : Nat) : Rat) * 2 ^ min e f = k * 2 ^ g := by
    have split : g = ((g - min e f).toNat : Int) + min e f := by omega
    conv_rhs => rw [split, zpow_add₀ (by norm_num), zpow_natCast]
    push_cast
    ring
  have cast :
      ((m * 2 ^ (e - min e f).toNat : Nat) : Rat) < (n * 2 ^ (f - min e f).toNat : Nat) := by
    refine lt_of_mul_lt_mul_right ?_ room.le
    rwa [scaled m e (min_le_left e f), scaled n f (min_le_right e f)]
  exact_mod_cast cast

/-- A quotient below one is so by a place of the greatest significand at least. -/
theorem mul_le_greatest_mul {x y : Nat} (less : x < y) (fits : x ≤ greatest ∨ y ≤ 2 ^ 53) :
    x * 2 ^ 53 ≤ greatest * y := by
  unfold greatest at *
  omega

theorem mul_two_pow_le_greatest_mul {m n a b s j : Nat} (fits : m < 2 ^ 53) (fits' : n < 2 ^ 53)
    (either : a = 0 ∨ b = 0) (below : m * 2 ^ a < n * 2 ^ b) (widths : s + b = a + 53 + j) :
    m * 2 ^ s ≤ greatest * 2 ^ j * n := by
  have rounded : m * 2 ^ a * 2 ^ 53 ≤ greatest * (n * 2 ^ b) := by
    refine mul_le_greatest_mul below ?_
    rcases either with rfl | rfl
    · left
      unfold greatest
      omega
    · right
      omega
  refine Nat.le_of_mul_le_mul_right (c := 2 ^ b) ?_ (by positivity)
  calc
    m * 2 ^ s * 2 ^ b = m * 2 ^ a * 2 ^ 53 * 2 ^ j := by
      rw [mul_assoc, ← pow_add, widths, pow_add, pow_add]
      ring
    _ ≤ greatest * (n * 2 ^ b) * 2 ^ j := Nat.mul_le_mul_right _ rounded
    _ = greatest * 2 ^ j * n * 2 ^ b := by ring

theorem log2_mul_two_pow {m : Nat} (positive : 0 < m) (a : Nat) :
    (m * 2 ^ a).log2 = m.log2 + a := by
  rw [Nat.log2_eq_iff (by positivity)]
  have low := Nat.log2_self_le positive.ne'
  have high : m < 2 ^ (m.log2 + 1) := Nat.lt_log2_self
  refine ⟨?_, ?_⟩
  · rw [pow_add]
    exact Nat.mul_le_mul_right _ low
  · rw [show m.log2 + a + 1 = m.log2 + 1 + a by omega, pow_add]
    exact Nat.mul_lt_mul_of_pos_right high (by positivity)

/-- The quotient is cut off at a place far enough below one, and is at most the greatest significand
there; where it is that, nothing was cut off. -/
theorem small_div {m n : Nat} {e f : Int} (positive : 0 < m) (positive' : 0 < n)
    (fits : m < 2 ^ 53) (fits' : n < 2 ^ 53) (less : (m : Rat) * 2 ^ e < n * 2 ^ f) :
    Small ((UnpackedFloat.finite .positive m e positive).div .binary64
      (.finite .positive n f positive')) := by
  obtain ⟨a, b, apart, either, below⟩ := exists_common less
  have totals : totalExponent m e - totalExponent n f ≤ 0 := by
    have logs : (m * 2 ^ a).log2 ≤ (n * 2 ^ b).log2 :=
      (Nat.le_log2 (by positivity)).mpr ((Nat.log2_self_le (by positivity)).trans below.le)
    rw [log2_mul_two_pow positive, log2_mul_two_pow positive'] at logs
    simp only [totalExponent]
    omega
  have target : Format.binary64.targetExponent (totalExponent m e - totalExponent n f) ≤ -53 := by
    simp only [Format.targetExponent, Format.mantissaBits, Format.minExponent]
    omega
  obtain ⟨t, atTarget⟩ : ∃ t, t = min (e - f)
      (Format.binary64.targetExponent (totalExponent m e - totalExponent n f)) := ⟨_, rfl⟩
  obtain ⟨s, shift⟩ : ∃ s, s = (e - f - t).toNat := ⟨_, rfl⟩
  obtain ⟨j, place⟩ : ∃ j : Nat, t + j = -53 := ⟨(-53 - t).toNat, by omega⟩
  have scaled : m * 2 ^ s ≤ greatest * 2 ^ j * n :=
    mul_two_pow_le_greatest_mul fits fits' either below (by omega)
  have divided : divCore .binary64 m e n f =
      (m * 2 ^ s / n, t, accuracyOfFraction (m * 2 ^ s % n) n) := by
    simp only [divCore, ← atTarget, ← shift, Nat.shiftLeft_eq]
  simp only [UnpackedFloat.div, divided]
  refine small_roundWithAccuracy place (Nat.div_le_of_le_mul (scaled.trans_eq (mul_comm _ _))) ?_
  intro full
  have none : m * 2 ^ s % n = 0 := by
    have parts := Nat.div_add_mod (m * 2 ^ s) n
    rw [full, mul_comm] at parts
    omega
  rw [none]
  rfl

/-! ## Numbers -/

/-- Whether a significand, if there is one, has its 53 places. -/
def Placed : UnpackedFloat → Prop
  | .finite _ m _ _ => m < 2 ^ 53
  | .notANumber => True
  | .infinity _ => True
  | .zero _ => True

theorem placed_unpack (b : BitVec 64) : Placed (UnpackedFloat.unpack .binary64 b) := by
  have small : fractionField b < 2 ^ 52 := Nat.mod_lt _ (by decide)
  have placed {s : Sign} {m : Nat} {e : Int} {positive : 0 < m} (fits : m < 2 ^ 53) :
      Placed (.finite s m e positive) := fits
  rw [unpack_eq]
  split
  · split <;> trivial
  · split
    · split
      · trivial
      · exact placed (by omega)
    · exact placed (by omega)

theorem exactOf_unpack_pack_zero (s : Sign) :
    exactOf (UnpackedFloat.unpack .binary64 (UnpackedFloat.pack .binary64 (.zero s))) =
      .finite 0 := by
  cases s <;> rfl

/-- A number that is not below zero and is less than another is a part of it below one. -/
theorem exists_exactOf_div {u v : UnpackedFloat} (placed : Placed u) (placed' : Placed v)
    (upright : Upright u) (less : (exactOf u).before (exactOf v) = true) :
    ∃ q : Rat, 0 ≤ q ∧ q < 1 ∧ exactOf (UnpackedFloat.unpack .binary64
      (UnpackedFloat.pack .binary64 (u.div .binary64 v))) = .finite q := by
  cases u with
  | notANumber => cases less
  | infinity s =>
      cases upright
      cases v <;> cases less
  | zero s =>
      cases v with
      | notANumber => cases less
      | infinity s' => exact ⟨0, le_refl 0, one_pos, exactOf_unpack_pack_zero _⟩
      | zero s' => simp [exactOf, Exact.before] at less
      | finite s' n f positive' => exact ⟨0, le_refl 0, one_pos, exactOf_unpack_pack_zero _⟩
  | finite s m e positive =>
      have above : (0 : Rat) < m * 2 ^ e := by positivity
      cases upright
      cases v with
      | notANumber => cases less
      | infinity s' => exact ⟨0, le_refl 0, one_pos, exactOf_unpack_pack_zero _⟩
      | zero s' =>
          have below : (m : Rat) * 2 ^ e < 0 := of_decide_eq_true less
          exact absurd below above.le.not_gt
      | finite s' n f positive' =>
          cases s' with
          | negative =>
              have below : (m : Rat) * 2 ^ e < -(n * 2 ^ f) := of_decide_eq_true less
              have other : (0 : Rat) < n * 2 ^ f := by positivity
              linarith
          | positive =>
              have apart : (m : Rat) * 2 ^ e < n * 2 ^ f := of_decide_eq_true less
              exact (small_div positive positive' placed placed' apart).exactOf_unpack_pack

/-! ## Amounts -/

variable {x y : Amount}

theorem divisor_pos (nonneg : ¬ x < 0) (less : x < y) : 0 < y :=
  Scalar.lt_of_le_of_lt
    (Scalar.le_of_not_lt (.of_lt_left less) Scalar.defined_zero nonneg) less

theorem quotient_in_range (binary : x.IsBinary) (binary' : y.IsBinary) (nonneg : ¬ x < 0)
    (less : x < y) : 0 ≤ x / y ∧ x / y < 1 := by
  obtain ⟨a, rfl⟩ := binary
  obtain ⟨b, rfl⟩ := binary'
  have left : Scalar.exact (Amount.binary a) = exactOf a.toModel.unpack := binaryExact_eq a
  have right : Scalar.exact (Amount.binary b) = exactOf b.toModel.unpack := binaryExact_eq b
  rw [Scalar.lt_iff_exact, left, right] at less
  obtain ⟨q, least, most, exact⟩ := exists_exactOf_div (placed_unpack _) (placed_unpack _)
    ((binary_not_neg_iff a).mp nonneg) less
  have quotient : Scalar.exact (Amount.binary a / Amount.binary b) = .finite q :=
    (binaryExact_eq (a / b)).trans exact
  refine ⟨?_, ?_⟩
  · rw [Scalar.le_iff_exact, Scalar.exact_zero, quotient]
    rcases least.eq_or_lt with rfl | above
    · rfl
    · simp [Exact.before, above]
  · rw [Scalar.lt_iff_exact, Scalar.exact_one, quotient]
    exact decide_eq_true most

theorem zero_before_positive {m : Nat} {e : Int} (positive : 0 < m) :
    (Exact.finite 0).before (exactOf (.finite .positive m e positive)) = true := by
  have above : (0 : Rat) < m * 2 ^ e := by positivity
  exact decide_eq_true above

theorem natCast_eq (n : Nat) :
    (n : Amount) = .binary (Float.ofBits (Decimal.decimalBits n 0).toUInt64) := by
  have read : (n : Amount) = .ofNumeral (.decimal false n 0) := rfl
  rw [read, ofNumeral, binaryOfNumeral, Numeral.bits, Numeral.withSign,
    if_neg Bool.false_ne_true]

theorem decimalBits_one : Decimal.decimalBits 1 0 = 0x3ff0000000000000 := by decide +kernel

/-- A count of one or more is above zero, however large. -/
theorem natCast_pos {n : Nat} (positive : 0 < n) : (0 : Amount) < (n : Amount) := by
  have small := Decimal.decimalBits_le_infinityBits n
  have large : 0x3ff0000000000000 ≤ Decimal.decimalBits n 0 :=
    decimalBits_one ▸ Decimal.decimalBits_mono positive
  rw [natCast_eq, Scalar.lt_iff_exact, Scalar.exact_zero]
  generalize Decimal.decimalBits n 0 = bits at small large
  have exact : Scalar.exact (Amount.binary (Float.ofBits bits.toUInt64)) =
      exactOf (UnpackedFloat.unpack .binary64 bits.toUInt64.toBitVec) := by
    rw [← unpack_ofBits small]
    exact binaryExact_eq _
  have field : exponentField bits.toUInt64.toBitVec ≠ 0 := by
    rw [exponentField, toNat_toUInt64 small]
    unfold Decimal.infinityBits at small
    omega
  have fraction : exponentField bits.toUInt64.toBitVec = 2047 →
      fractionField bits.toUInt64.toBitVec = 0 := by
    rw [exponentField, fractionField, toNat_toUInt64 small]
    unfold Decimal.infinityBits at small
    omega
  rw [exact, unpack_eq, signField_ofNat small, if_neg field]
  split
  · rename_i last
    rw [if_pos (fraction last)]
    rfl
  · exact zero_before_positive _

end Amount

end Colony

import Mathlib
import Colony.Scalar.Amount
import Colony.Scalar.Rational

/-!
# Counting by ones

A counter starts at zero and goes on by one.  In exact numbers it holds how
often it counted.  A binary number does so up to `2 ^ 53`, the first whole
number whose successor has no place: every sum on the way is exact.
-/

namespace Colony

namespace Scalar

variable {α : Type} [Scalar α]

def counted (n : Nat) : α := (· + 1)^[n] 0

theorem counted_succ (n : Nat) : (counted (n + 1) : α) = counted n + 1 :=
  Function.iterate_succ_apply' _ n 0

theorem counted_rat (n : Nat) : (counted n : Rat) = n := by
  induction n with
  | zero => rfl
  | succ n ih => rw [counted_succ, ih, Nat.cast_succ]

end Scalar

/-! ## Binary numbers -/

namespace Amount

open Float.Model Float.Model.UnpackedFloat

/-- A binary number that stands for a positive whole one, its significand of 53 bits. -/
def IsWhole (u : UnpackedFloat) (n : Nat) : Prop :=
  ∃ significand shift : Nat, ∃ positive : 0 < significand,
    2 ^ 52 ≤ significand ∧ significand < 2 ^ 53 ∧ shift ≤ 53 ∧
      significand * 2 ^ shift = n * 2 ^ 52 ∧
      u = .finite .positive significand ((shift : Int) - 52) positive

theorem shiftRight_mul_two_pow (m k : Nat) :
    (⟨m * 2 ^ k, false, false⟩ : ExtendedMantissa) >>> k = ⟨m, false, false⟩ := by
  change k.repeat ExtendedMantissa.shiftRightOne _ = _
  induction k generalizing m with
  | zero => simp [Nat.repeat]
  | succ k ih =>
      have double : m * 2 ^ (k + 1) = m * 2 * 2 ^ k := by ring
      rw [Nat.repeat, double, ih]
      simp [ExtendedMantissa.shiftRightOne]

theorem shiftToTargetExponent_of_normal {significand : Nat} (large : 2 ^ 52 ≤ significand)
    (small : significand < 2 ^ 53) (shift : Nat) :
    shiftToTargetExponent .binary64 significand ((shift : Int) - 52) .exact =
      (⟨significand, false, false⟩, (shift : Int) - 52) := by
  have bits : significand.log2 = 52 := by
    rw [Nat.log2_eq_iff (by omega)]
    exact ⟨large, small⟩
  have target : Format.binary64.targetExponent (totalExponent significand ((shift : Int) - 52)) =
      (shift : Int) - 52 := by
    simp only [Format.targetExponent, totalExponent, bits, Format.mantissaBits, Format.minExponent]
    omega
  simp [shiftToTargetExponent, target, shiftToExponent, ExtendedMantissa.ofMantissaAndAccuracy,
    HShiftRight.hShiftRight, Nat.repeat]

theorem round_of_normal {significand : Nat} (large : 2 ^ 52 ≤ significand)
    (small : significand < 2 ^ 53) (shift : Nat) (positive : 0 < significand) :
    UnpackedFloat.round .binary64 .positive (significand * 2 ^ shift) (-52) =
      .finite .positive significand ((shift : Int) - 52) positive := by
  have bits : (significand * 2 ^ shift).log2 = 52 + shift := by
    have room : 0 < 2 ^ shift := by positivity
    rw [Nat.log2_eq_iff (by positivity), pow_add, add_right_comm, pow_add]
    exact ⟨Nat.mul_le_mul_right _ large, Nat.mul_lt_mul_of_pos_right small room⟩
  have target : Format.binary64.targetExponent (totalExponent (significand * 2 ^ shift) (-52)) =
      (shift : Int) - 52 := by
    simp only [Format.targetExponent, totalExponent, bits, Format.mantissaBits, Format.minExponent]
    omega
  have kept : decreaseExponent (significand * 2 ^ shift) (-52) ((shift : Int) - 52) =
      (significand * 2 ^ shift, -52) := by
    have none : (-52 - ((shift : Int) - 52)).toNat = 0 := by omega
    simp [decreaseExponent, none]
  have shifted : shiftToTargetExponent .binary64 (significand * 2 ^ shift) (-52) .exact =
      (⟨significand, false, false⟩, (shift : Int) - 52) := by
    have amount : ((shift : Int) - 52 - -52).toNat = shift := by omega
    have exponent : (-52 : Int) + shift = shift - 52 := by omega
    simp only [shiftToTargetExponent, target, shiftToExponent, amount, exponent,
      ExtendedMantissa.ofMantissaAndAccuracy, shiftRight_mul_two_pow]
  have again := shiftToTargetExponent_of_normal large small shift
  have filled : ¬ significand = 0 := by omega
  simp only [UnpackedFloat.round, target, kept, roundWithAccuracy, shifted,
    ExtendedMantissa.roundedMantissa, ExtendedMantissa.accuracy, Accuracy.roundToNearestEven,
    again, filled, dite_false]

theorem exists_significand {n : Nat} (positive : 0 < n) (small : n ≤ 2 ^ 53) :
    ∃ significand shift : Nat, 2 ^ 52 ≤ significand ∧ significand < 2 ^ 53 ∧ shift ≤ 53 ∧
      significand * 2 ^ shift = n * 2 ^ 52 := by
  have nonzero : n * 2 ^ 52 ≠ 0 := by omega
  have low : 52 ≤ (n * 2 ^ 52).log2 := (Nat.le_log2 nonzero).mpr (by omega)
  have high : (n * 2 ^ 52).log2 < 106 := (Nat.log2_lt nonzero).mpr (by omega)
  obtain ⟨shift, bits⟩ := Nat.exists_eq_add_of_le' low
  obtain ⟨atLeast, below⟩ := (Nat.log2_eq_iff nonzero).mp bits
  have divides : 2 ^ shift ∣ n * 2 ^ 52 := by
    rcases Nat.lt_or_ge shift 53 with fits | full
    · exact Dvd.dvd.mul_left (pow_dvd_pow 2 (by omega)) n
    · have last : shift = 53 := by omega
      subst last
      have top : n = 2 ^ 53 := by omega
      exact ⟨2 ^ 52, by rw [top]⟩
  obtain ⟨significand, product⟩ := divides
  have room : 0 < 2 ^ shift := by positivity
  rw [pow_add, product, mul_comm (2 ^ shift), mul_comm (2 ^ shift)] at atLeast
  rw [add_assoc, pow_add, product] at below
  exact ⟨significand, shift, Nat.le_of_mul_le_mul_right atLeast room,
    Nat.lt_of_mul_lt_mul_left below, by omega, by rw [product, mul_comm]⟩

theorem isWhole_round {n : Nat} (positive : 0 < n) (small : n ≤ 2 ^ 53) :
    IsWhole (UnpackedFloat.round .binary64 .positive (n * 2 ^ 52) (-52)) n := by
  obtain ⟨significand, shift, large, less, inRange, product⟩ := exists_significand positive small
  refine ⟨significand, shift, by omega, large, less, inRange, product, ?_⟩
  rw [← product]
  exact round_of_normal large less shift _

/-! ### Bits -/

section Bits

variable {significand shift : Nat} (large : 2 ^ 52 ≤ significand) (small : significand < 2 ^ 53)
variable (inRange : shift ≤ 53) (positive : 0 < significand)
include large small inRange

theorem pack_of_normal :
    UnpackedFloat.pack .binary64 (.finite .positive significand ((shift : Int) - 52) positive) =
      packComponents .binary64 .positive (BitVec.ofNat 11 (1023 + shift))
        (BitVec.ofNat 52 significand) := by
  have bits : significand.log2 = 52 := by
    rw [Nat.log2_eq_iff (by omega)]
    exact ⟨large, small⟩
  have biased : ((shift : Int) - 52 + Format.binary64.exponentBias + (52 : Nat)).toNat =
      1023 + shift := by
    have bias : Format.binary64.exponentBias = 1023 := by decide
    rw [bias]
    omega
  have finite : ¬ 2 ^ Format.binary64.exponentBits ≤ 1023 + shift + 1 := by
    have width : 2 ^ Format.binary64.exponentBits = 2048 := by decide
    omega
  simp only [UnpackedFloat.pack, biased, if_neg finite, bits, Format.mantissaBits]
  rfl

theorem unpack_pack_of_normal :
    UnpackedFloat.unpack .binary64 (UnpackedFloat.pack .binary64
      (.finite .positive significand ((shift : Int) - 52) positive)) =
      .finite .positive significand ((shift : Int) - 52) positive := by
  rw [pack_of_normal large small inRange]
  have exponent : (BitVec.ofNat 11 (1023 + shift)).toNat = 1023 + shift := by
    rw [BitVec.toNat_ofNat]
    omega
  have notLast : BitVec.ofNat 11 (1023 + shift) ≠ -1#11 := by
    intro last
    have := congrArg BitVec.toNat last
    simp at this
    omega
  have notFirst : BitVec.ofNat 11 (1023 + shift) ≠ 0#11 := by
    intro first
    have := congrArg BitVec.toNat first
    simp at this
    omega
  have mantissa : (1#1 ++ BitVec.ofNat 52 significand).toNat = significand := by
    rw [BitVec.toNat_append, BitVec.toNat_ofNat, ← Nat.shiftLeft_add_eq_or_of_lt (by omega)]
    simp
    omega
  simp only [UnpackedFloat.unpack, unpackMantissa_packComponents, unpackExponent_packComponents,
    unpackSign_packComponents, Sign.ofBitVec_toBitVec, notLast, notFirst, if_false, exponent,
    mantissa]
  congr 1
  have bias : Format.binary64.exponentBias = 1023 := by decide
  rw [bias]
  omega

theorem toNat_pack_of_normal :
    (UnpackedFloat.pack .binary64
      (.finite .positive significand ((shift : Int) - 52) positive)).toNat =
      (1023 + shift) * 2 ^ 52 + (significand - 2 ^ 52) := by
  have upper : (Sign.positive.toBitVec ++ BitVec.ofNat 11 (1023 + shift)).toNat = 1023 + shift := by
    have sign : Sign.positive.toBitVec = 0#1 := rfl
    rw [sign, BitVec.toNat_append, BitVec.toNat_ofNat]
    simp
    omega
  rw [pack_of_normal large small inRange, packComponents, BitVec.toNat_append, upper,
    BitVec.toNat_ofNat, ← Nat.shiftLeft_add_eq_or_of_lt (by omega), Nat.shiftLeft_eq]
  omega

theorem ofBits_of_normal :
    let read := Decimal.Binary.ofBits ((1023 + shift) * 2 ^ 52 + (significand - 2 ^ 52))
    read.significand = significand ∧ read.exponent = (shift : Int) - 52 := by
  have field : ((1023 + shift) * 2 ^ 52 + (significand - 2 ^ 52)) / Decimal.hiddenBit % 0x800 =
      1023 + shift := by
    unfold Decimal.hiddenBit
    omega
  have fraction : ((1023 + shift) * 2 ^ 52 + (significand - 2 ^ 52)) % Decimal.hiddenBit =
      significand - 2 ^ 52 := by
    unfold Decimal.hiddenBit
    omega
  have normal : ¬ 1023 + shift = 0 := by omega
  simp only [Decimal.Binary.ofBits, field, fraction, normal, if_false]
  unfold Decimal.hiddenBit
  omega

end Bits

/-! ### Sums -/

theorem isWhole_add_one {u : UnpackedFloat} {n : Nat} (h : IsWhole u n) (small : n < 2 ^ 53) :
    IsWhole (u.add .binary64 (.finite .positive (2 ^ 52) (-52) (by decide))) (n + 1) := by
  obtain ⟨significand, shift, positive, large, less, inRange, product, rfl⟩ := h
  have least : min ((shift : Int) - 52) (-52) = -52 := by omega
  have aligned : decreaseExponent significand ((shift : Int) - 52) (-52) = (n * 2 ^ 52, -52) := by
    have amount : ((shift : Int) - 52 - -52).toNat = shift := by omega
    have exponent : (shift : Int) - 52 - shift = -52 := by omega
    rw [← product, ← Nat.shiftLeft_eq]
    simp only [decreaseExponent, amount, exponent]
  have one : decreaseExponent (2 ^ 52) (-52) (-52) = (2 ^ 52, -52) := rfl
  have sum : Sign.positive.apply ((n * 2 ^ 52 : Nat) : Int) +
      Sign.positive.apply ((2 ^ 52 : Nat) : Int) =
      ((n + 1) * 2 ^ 52 : Nat) := by
    simp only [Sign.apply]
    push_cast
    ring
  have more : compare (((n + 1) * 2 ^ 52 : Nat) : Int) 0 = .gt := by
    rw [Int.compare_eq_gt]
    positivity
  have rounded := isWhole_round (Nat.succ_pos n) small
  simpa only [UnpackedFloat.add, least, aligned, one, sum, UnpackedFloat.normalize, more,
    Int.toNat_natCast]
    using rounded

theorem unpack_add_one {x : Float} {n : Nat} (h : IsWhole x.toModel.unpack n) (small : n < 2 ^ 53) :
    IsWhole (x + 1.0).toModel.unpack (n + 1) := by
  have sum := isWhole_add_one h small
  have packed :
      (x + 1.0).toModel.unpack = UnpackedFloat.unpack .binary64 (UnpackedFloat.pack .binary64
      (x.toModel.unpack.add .binary64 (.finite .positive (2 ^ 52) (-52) (by decide)))) := rfl
  rw [packed]
  generalize x.toModel.unpack.add .binary64
    (.finite .positive (2 ^ 52) (-52) (by decide)) = u at sum
  obtain ⟨significand, shift, positive, large, less, inRange, product, rfl⟩ := sum
  rw [unpack_pack_of_normal large less inRange]
  exact ⟨significand, shift, positive, large, less, inRange, product, rfl⟩

theorem mkRat_of_eq_mul {a b n : Nat} (positive : 0 < b) (scaled : a = n * b) :
    mkRat (a : Int) b = n := by
  have divisor : (b : Rat) ≠ 0 := by exact_mod_cast positive.ne'
  rw [scaled, Rat.mkRat_eq_div, Int.cast_natCast, Nat.cast_mul, mul_div_assoc, div_self divisor,
    mul_one]

theorem exact_of_isWhole {x : Float} {n : Nat} (h : IsWhole x.toModel.unpack n) :
    binaryExact x = .finite n := by
  obtain ⟨significand, shift, positive, large, less, inRange, product, unpacked⟩ := h
  have bits : x.toBits.toNat = (1023 + shift) * 2 ^ 52 + (significand - 2 ^ 52) := by
    rw [← toNat_pack_of_normal large less inRange positive, ← unpacked]
    exact congrArg BitVec.toNat (pack_unpack_of_valid x.toModel.valid).symm
  obtain ⟨significandRead, exponentRead⟩ := ofBits_of_normal large less inRange
  have unsigned : ((1023 + shift) * 2 ^ 52 + (significand - 2 ^ 52)) % Decimal.signBit =
      (1023 + shift) * 2 ^ 52 + (significand - 2 ^ 52) := by
    unfold Decimal.signBit
    omega
  have finite : (1023 + shift) * 2 ^ 52 + (significand - 2 ^ 52) < Decimal.infinityBits := by
    unfold Decimal.infinityBits
    omega
  have nonneg : ¬ Decimal.signBit ≤ (1023 + shift) * 2 ^ 52 + (significand - 2 ^ 52) := by
    unfold Decimal.signBit
    omega
  simp only [binaryExact, bits, unsigned, finite, nonneg, significandRead,
    exponentRead, if_true, decide_false,
    Bool.false_eq_true, if_false]
  have scaled : significand * 2 ^ ((shift : Int) - 52).toNat =
      n * 2 ^ (-((shift : Int) - 52)).toNat := by
    rcases Nat.lt_or_ge shift 53 with fits | full
    · have up : ((shift : Int) - 52).toNat = 0 := by omega
      have down : (-((shift : Int) - 52)).toNat = 52 - shift := by omega
      have split : 2 ^ 52 = 2 ^ (52 - shift) * 2 ^ shift := by
        rw [← pow_add, Nat.sub_add_cancel (by omega)]
      rw [split, ← mul_assoc] at product
      rw [up, down, pow_zero, mul_one]
      exact Nat.eq_of_mul_eq_mul_right (by positivity) product
    · have last : shift = 53 := by omega
      subst last
      have up : (((53 : Nat) : Int) - 52).toNat = 1 := rfl
      have down : (-(((53 : Nat) : Int) - 52)).toNat = 0 := rfl
      rw [up, down]
      omega
  rw [Nat.pow_eq, Nat.pow_eq, ← Nat.cast_mul, mkRat_of_eq_mul (Nat.pow_pos (by decide)) scaled]

theorem counted_isWhole {n : Nat} (small : n < 2 ^ 53) :
    ∃ x, (Scalar.counted (n + 1) : Amount) = .binary x ∧ IsWhole x.toModel.unpack (n + 1) := by
  induction n with
  | zero =>
      refine ⟨0.0 + 1.0, rfl, 2 ^ 52, 0, by decide, by decide, by decide, by decide, rfl, ?_⟩
      rfl
  | succ n ih =>
      obtain ⟨x, same, whole⟩ := ih (by omega)
      refine ⟨x + 1.0, ?_, unpack_add_one whole (by omega)⟩
      rw [Scalar.counted_succ, same]
      rfl

theorem exact_counted {n : Nat} (small : n ≤ 2 ^ 53) :
    Scalar.exact (Scalar.counted n : Amount) = .finite n := by
  cases n with
  | zero => exact Scalar.exact_zero
  | succ n =>
      obtain ⟨x, same, whole⟩ := counted_isWhole small
      rw [same]
      exact exact_of_isWhole whole

end Amount

end Colony

import Mathlib
import Colony.Proofs.Order
import Colony.Proofs.Scalar.Overflow

/-!
# The sign of a binary number

A binary number is a sign, an exponent and a fraction, and stands for an exact
number by them.  One that is not below zero has no minus, or is a zero, or is
undefined.  Sums and products of such numbers are such numbers again, for
rounding keeps the sign; so is what a whole number rounds to, and with that the
sums and products of any amounts that are not below zero.
-/

namespace Colony

namespace Amount

open Float.Model Float.Model.UnpackedFloat

/-! ## Bits -/

def isNegative : Sign → Bool
  | .negative => true
  | .positive => false

/-- What an unpacked number stands for. -/
def exactOf : UnpackedFloat → Exact
  | .notANumber => .undefined
  | .infinity s => .infinite (isNegative s)
  | .zero _ => .finite 0
  | .finite s m e _ =>
      .finite (if isNegative s then -((m : Rat) * 2 ^ e) else (m : Rat) * 2 ^ e)

section Fields

variable (b : BitVec 64)

def exponentField : Nat := b.toNat / 2 ^ 52 % 2 ^ 11

def fractionField : Nat := b.toNat % 2 ^ 52

def signField : Sign := if b.toNat < 2 ^ 63 then .positive else .negative

theorem toNat_unpackMantissa : (@unpackMantissa .binary64 b).toNat = fractionField b := by
  simp only [unpackMantissa, BitVec.toNat_cast, BitVec.extractLsb_toNat]
  simp [fractionField]

theorem toNat_unpackExponent : (@unpackExponent .binary64 b).toNat = exponentField b := by
  simp only [unpackExponent, BitVec.toNat_cast, BitVec.extractLsb_toNat]
  simp [exponentField, Nat.shiftRight_eq_div_pow]

theorem ofBitVec_unpackSign : Sign.ofBitVec (@unpackSign .binary64 b) = signField b := by
  have bound : b.toNat < 2 ^ 64 := b.isLt
  have toNat : (@unpackSign .binary64 b).toNat = b.toNat / 2 ^ 63 := by
    simp only [unpackSign, BitVec.toNat_cast, BitVec.extractLsb_toNat]
    simp only [Nat.shiftRight_eq_div_pow]
    norm_num
    omega
  have zero : @unpackSign .binary64 b = 0#1 ↔ b.toNat < 2 ^ 63 := by
    rw [← BitVec.toNat_inj, toNat]
    simp
  simp only [Sign.ofBitVec, signField, zero]

end Fields

theorem signField_packComponents (s : Sign) (e : BitVec 11) (m : BitVec 52) :
    signField (packComponents .binary64 s e m) = s := by
  rw [← ofBitVec_unpackSign, unpackSign_packComponents, Sign.ofBitVec_toBitVec]

theorem exponentField_packComponents (s : Sign) (e : BitVec 11) (m : BitVec 52) :
    exponentField (packComponents .binary64 s e m) = e.toNat := by
  rw [← toNat_unpackExponent, unpackExponent_packComponents]

theorem unpack_eq (b : BitVec 64) : UnpackedFloat.unpack .binary64 b =
    if exponentField b = 2047 then
      if fractionField b = 0 then .infinity (signField b) else .notANumber
    else if exponentField b = 0 then
      if h : fractionField b = 0 then .zero (signField b)
      else .finite (signField b) (fractionField b) (-1074) (Nat.pos_of_ne_zero h)
    else
      .finite (signField b) (2 ^ 52 + fractionField b) (exponentField b - 1075)
        (by positivity) := by
  have last : @unpackExponent .binary64 b = -1#11 ↔ exponentField b = 2047 := by
    rw [← BitVec.toNat_inj, toNat_unpackExponent]
    rfl
  have first : @unpackExponent .binary64 b = 0#11 ↔ exponentField b = 0 := by
    rw [← BitVec.toNat_inj, toNat_unpackExponent]
    rfl
  have none : @unpackMantissa .binary64 b = 0#52 ↔ fractionField b = 0 := by
    rw [← BitVec.toNat_inj, toNat_unpackMantissa]
    rfl
  have small : fractionField b < 2 ^ 52 := Nat.mod_lt _ (by decide)
  have leading : (1#1 ++ @unpackMantissa .binary64 b).toNat = 2 ^ 52 + fractionField b := by
    rw [BitVec.toNat_append, toNat_unpackMantissa, ← Nat.shiftLeft_add_eq_or_of_lt small]
    rfl
  have bias : Format.binary64.exponentBias = 1023 := by decide
  simp only [UnpackedFloat.unpack, last, first, none, leading, ofBitVec_unpackSign,
    toNat_unpackMantissa, toNat_unpackExponent, bias]
  split
  · rfl
  · split
    · rename_i zero
      simp [zero]
    · norm_num

theorem mkRat_two_pow (m : Nat) (e : Int) :
    mkRat ((m : Int) * (Nat.pow 2 e.toNat : Nat)) (Nat.pow 2 (-e).toNat) = (m : Rat) * 2 ^ e := by
  rw [Rat.mkRat_eq_div, Nat.pow_eq, Nat.pow_eq]
  push_cast
  rcases Int.le_total 0 e with up | down
  · obtain ⟨n, rfl⟩ := Int.eq_ofNat_of_zero_le up
    simp
  · obtain ⟨n, same⟩ := Int.eq_ofNat_of_zero_le (Int.neg_nonneg_of_nonpos down)
    obtain rfl : e = -(n : Int) := by omega
    simp [div_eq_mul_inv]

theorem binaryExact_eq (x : Float) : binaryExact x = exactOf x.toModel.unpack := by
  have bits : x.toBits.toNat = x.toModel.toBits.toBitVec.toNat := rfl
  have unpacked : x.toModel.unpack = UnpackedFloat.unpack .binary64 x.toModel.toBits.toBitVec := rfl
  rw [binaryExact, bits, unpacked, unpack_eq]
  generalize x.toModel.toBits.toBitVec = b
  have bound : b.toNat < 2 ^ 64 := b.isLt
  have fieldRead : b.toNat % Decimal.signBit / Decimal.hiddenBit % 0x800 = exponentField b := by
    unfold Decimal.signBit Decimal.hiddenBit exponentField
    omega
  have fractionRead : b.toNat % Decimal.signBit % Decimal.hiddenBit = fractionField b := by
    unfold Decimal.signBit Decimal.hiddenBit fractionField
    omega
  have finite : b.toNat % Decimal.signBit < Decimal.infinityBits ↔ exponentField b ≠ 2047 := by
    unfold Decimal.signBit Decimal.infinityBits exponentField
    omega
  have infinite : b.toNat % Decimal.signBit = Decimal.infinityBits ↔
      exponentField b = 2047 ∧ fractionField b = 0 := by
    unfold Decimal.signBit Decimal.infinityBits exponentField fractionField
    omega
  have negative : decide (Decimal.signBit ≤ b.toNat) = isNegative (signField b) := by
    unfold signField Decimal.signBit
    split
    · exact decide_eq_false (by omega)
    · exact decide_eq_true (by omega)
  simp only [Decimal.Binary.ofBits, fieldRead, fractionRead, finite, infinite, negative]
  by_cases last : exponentField b = 2047
  · by_cases zero : fractionField b = 0 <;> simp [last, zero, exactOf]
  · by_cases first : exponentField b = 0
    · rw [if_pos last, if_pos first, if_neg last, if_pos first]
      simp only [mkRat_two_pow]
      by_cases zero : fractionField b = 0
      · simp [zero, exactOf]
      · simp [zero, exactOf]
    · rw [if_pos last, if_neg first, if_neg last, if_neg first]
      simp only [mkRat_two_pow]
      rfl

/-! ### Bits without a sign -/

section Unsigned

variable {bits : Nat} (small : bits ≤ Decimal.infinityBits)
include small

theorem toNat_toUInt64 : bits.toUInt64.toBitVec.toNat = bits := by
  unfold Decimal.infinityBits at small
  change bits % 2 ^ 64 = bits
  omega

theorem signField_ofNat : signField bits.toUInt64.toBitVec = .positive := by
  have below : bits < 2 ^ 63 := by
    unfold Decimal.infinityBits at small
    omega
  rw [signField, toNat_toUInt64 small, if_pos below]

/-- Up to those of infinity, bits are those of a number, and it is kept as it is. -/
theorem unpack_ofBits : (Float.ofBits bits.toUInt64).toModel.unpack =
    UnpackedFloat.unpack .binary64 bits.toUInt64.toBitVec := by
  have valid : Format.binary64.Valid bits.toUInt64.toBitVec := by
    refine ⟨fun last some => absurd ?_ some⟩
    rw [← BitVec.toNat_inj, toNat_unpackExponent] at last
    rw [← BitVec.toNat_inj, toNat_unpackMantissa]
    have top : exponentField bits.toUInt64.toBitVec = 2047 := last
    unfold exponentField at top
    unfold fractionField
    rw [toNat_toUInt64 small] at *
    unfold Decimal.infinityBits at small
    change bits % 2 ^ 52 = 0
    omega
  have read : (Float.ofBits bits.toUInt64).toModel.unpack = UnpackedFloat.unpack .binary64
      (UnpackedFloat.pack .binary64 (UnpackedFloat.unpack .binary64 bits.toUInt64.toBitVec)) := rfl
  rw [read, pack_unpack_of_valid valid]

end Unsigned

/-! ## Signs -/

/-- Not below zero: undefined, a zero of either sign, or with a plus. -/
def Upright : UnpackedFloat → Prop
  | .notANumber => True
  | .infinity s => s = .positive
  | .zero _ => True
  | .finite s _ _ _ => s = .positive

theorem not_before_zero_iff (u : UnpackedFloat) :
    (exactOf u).before (.finite 0) = false ↔ Upright u := by
  cases u with
  | notANumber => simp [exactOf, Exact.before, Upright]
  | infinity s => cases s <;> simp [exactOf, Exact.before, Upright, isNegative]
  | zero s => simp [exactOf, Exact.before, Upright]
  | finite s m e positive =>
      have above : (0 : Rat) < m * 2 ^ e := by positivity
      cases s
      · simp [exactOf, Exact.before, Upright, isNegative, above]
      · simp [exactOf, Exact.before, Upright, isNegative, above.le]

namespace Upright

variable {u v : UnpackedFloat}

theorem of_signField {b : BitVec 64} (plus : signField b = .positive) :
    Upright (UnpackedFloat.unpack .binary64 b) := by
  rw [unpack_eq, plus]
  split
  · split
    · rfl
    · trivial
  · split
    · split
      · trivial
      · rfl
    · rfl

theorem unpack_pack (h : Upright u) :
    Upright (UnpackedFloat.unpack .binary64 (UnpackedFloat.pack .binary64 u)) := by
  have plus (e : BitVec 11) (m : BitVec 52) :
      Upright (UnpackedFloat.unpack .binary64 (packComponents .binary64 .positive e m)) :=
    of_signField (signField_packComponents .positive e m)
  cases u with
  | notANumber => exact plus _ _
  | infinity s =>
      cases h
      exact plus _ _
  | zero s => cases s <;> trivial
  | finite s m e positive =>
      cases h
      simp only [UnpackedFloat.pack]
      split
      · exact plus _ _
      · split
        · exact plus _ _
        · exact plus _ _

theorem roundWithAccuracy (spec : Format) (m : Nat) (e : Int) (acc : Accuracy) :
    Upright (UnpackedFloat.roundWithAccuracy spec .positive m e acc) := by
  simp only [UnpackedFloat.roundWithAccuracy]
  split
  · trivial
  · rfl

theorem normalize (spec : Format) {m : Int} (nonneg : 0 ≤ m) (e : Int) (s : Sign) :
    Upright (UnpackedFloat.normalize spec m e s) := by
  unfold UnpackedFloat.normalize
  split
  · rename_i below
    rw [Int.compare_eq_lt] at below
    omega
  · trivial
  · exact roundWithAccuracy spec _ _ _

theorem add (h : Upright u) (h' : Upright v) : Upright (u.add .binary64 v) := by
  cases u with
  | notANumber => trivial
  | infinity s =>
      cases h
      cases v with
      | notANumber => trivial
      | infinity s' =>
          cases h'
          rfl
      | zero s' => rfl
      | finite s' m' e' positive' => rfl
  | zero s =>
      cases v with
      | notANumber => trivial
      | infinity s' => exact h'
      | zero s' => cases s <;> cases s' <;> trivial
      | finite s' m' e' positive' => exact h'
  | finite s m e positive =>
      cases h
      cases v with
      | notANumber => trivial
      | infinity s' => exact h'
      | zero s' => rfl
      | finite s' m' e' positive' =>
          cases h'
          refine normalize _ ?_ _ _
          exact Int.add_nonneg (Int.natCast_nonneg _) (Int.natCast_nonneg _)

theorem mul (h : Upright u) (h' : Upright v) : Upright (u.mul .binary64 v) := by
  cases u with
  | notANumber => trivial
  | infinity s =>
      cases h
      cases v with
      | notANumber => trivial
      | infinity s' =>
          cases h'
          rfl
      | zero s' => trivial
      | finite s' m' e' positive' =>
          cases h'
          rfl
  | zero s => cases v <;> trivial
  | finite s m e positive =>
      cases h
      cases v with
      | notANumber => trivial
      | infinity s' =>
          cases h'
          rfl
      | zero s' => trivial
      | finite s' m' e' positive' =>
          cases h'
          exact roundWithAccuracy _ _ _ _

end Upright

/-! ## Amounts -/

variable {x y : Amount}

theorem binary_not_neg_iff (b : Float) : ¬ Amount.binary b < 0 ↔ Upright b.toModel.unpack := by
  have exact : (Scalar.exact (Amount.binary b)) = exactOf b.toModel.unpack := binaryExact_eq b
  rw [Scalar.lt_iff_exact, Scalar.exact_zero, exact, Bool.not_eq_true, not_before_zero_iff]

theorem overflow_not_neg : ¬ Amount.overflow < 0 := fun below => by cases below

theorem whole_not_neg {n : Int} (nonneg : 0 ≤ n) : ¬ Amount.whole n < 0 := by
  rw [Scalar.lt_iff_exact, Scalar.exact_zero, Bool.not_eq_true]
  refine decide_eq_false (not_lt.mpr ?_)
  exact_mod_cast nonneg

theorem inBinary_not_neg {f : Float → Float → Float}
    (closed : ∀ a b : Float, Upright a.toModel.unpack → Upright b.toModel.unpack →
      Upright (f a b).toModel.unpack)
    (nonneg : ¬ x.rounded < 0) (nonneg' : ¬ y.rounded < 0) : ¬ inBinary f x y < 0 := by
  unfold inBinary
  split
  · rename_i a b left right
    rw [left, binary_not_neg_iff] at nonneg
    rw [right, binary_not_neg_iff] at nonneg'
    exact (binary_not_neg_iff _).mpr (closed a b nonneg nonneg')
  · exact overflow_not_neg

theorem upright_of_binaryOfWhole? {n : Int} (nonneg : 0 ≤ n) {b : Float}
    (rounds : binaryOfWhole? n = some b) : Upright b.toModel.unpack := by
  have plus : decide (n < 0) = false := decide_eq_false (by omega)
  simp only [binaryOfWhole?] at rounds
  split at rounds
  · cases rounds
  · obtain rfl := Option.some.inj rounds
    rw [plus, Numeral.withSign, if_neg Bool.false_ne_true]
    have small := Decimal.decimalBits_le_infinityBits n.natAbs
    rw [unpack_ofBits small]
    exact .of_signField (signField_ofNat small)

theorem whole_nonneg {n : Int} (whole : x.whole? = some n) (nonneg : ¬ x < 0) : 0 ≤ n := by
  cases x with
  | whole m =>
      obtain rfl := Option.some.inj whole
      rw [Scalar.lt_iff_exact, Scalar.exact_zero, Bool.not_eq_true] at nonneg
      have least := of_decide_eq_false nonneg
      exact_mod_cast not_lt.mp least
  | flag b =>
      obtain rfl := Option.some.inj whole
      cases b <;> decide
  | binary b => cases whole
  | overflow => cases whole

/-- A whole number that is not below zero is rounded to bits without a sign. -/
theorem rounded_not_neg (nonneg : ¬ x < 0) : ¬ x.rounded < 0 := by
  cases whole : x.whole? with
  | some n =>
      simp only [rounded, whole]
      cases rounds : binaryOfWhole? n with
      | none => exact overflow_not_neg
      | some b =>
          exact (binary_not_neg_iff b).mpr
            (upright_of_binaryOfWhole? (whole_nonneg whole nonneg) rounds)
  | none =>
      simp only [rounded, whole]
      exact nonneg

theorem calculate_not_neg {g : Int → Int → Int} {f : Float → Float → Float}
    (wholes : ∀ m n : Int, 0 ≤ m → 0 ≤ n → 0 ≤ g m n)
    (fractions : ∀ a b : Float, Upright a.toModel.unpack → Upright b.toModel.unpack →
      Upright (f a b).toModel.unpack)
    (nonneg : ¬ x < 0) (nonneg' : ¬ y < 0) : ¬ calculate g f x y < 0 := by
  unfold calculate
  split
  · rename_i m n left right
    exact whole_not_neg (wholes m n (whole_nonneg left nonneg) (whole_nonneg right nonneg'))
  · exact inBinary_not_neg fractions (rounded_not_neg nonneg) (rounded_not_neg nonneg')

theorem add_not_neg (nonneg : ¬ x < 0) (nonneg' : ¬ y < 0) : ¬ x + y < 0 :=
  calculate_not_neg (fun _ _ => Int.add_nonneg) (fun _ _ left right => (left.add right).unpack_pack)
    nonneg nonneg'

theorem mul_not_neg (nonneg : ¬ x < 0) (nonneg' : ¬ y < 0) : ¬ x * y < 0 :=
  calculate_not_neg (fun _ _ => Int.mul_nonneg) (fun _ _ left right => (left.mul right).unpack_pack)
    nonneg nonneg'

theorem total_not_neg {values : List Amount} (nonneg : ∀ x ∈ values, ¬ x < 0) :
    ¬ Scalar.total values < 0 := by
  have summed (sum : Amount) (least : ¬ sum < 0) : ¬ values.foldl (· + ·) sum < 0 := by
    induction values generalizing sum with
    | nil => exact least
    | cons x values ih =>
        exact ih (fun y member => nonneg y (List.mem_cons_of_mem x member)) _
          (add_not_neg least (nonneg x List.mem_cons_self))
  exact summed _ (whole_not_neg le_rfl)

end Amount

end Colony

import Colony.Scalar

/-!
# Exact rationals as scalars

No operation rounds or overflows here, so laws of arithmetic carry over to the
rules.  The rationals have no infinity: a numeral for one, or for no number,
reads as 0.
-/

namespace Colony

def rationalOfNumeral : Numeral → Rat
  | .decimal negative digits exponent =>
      let value : Rat := mkRat (digits * Nat.pow 10 exponent.toNat) (Nat.pow 10 (-exponent).toNat)
      if negative then -value else value
  | .infinite _ => 0
  | .undefined => 0

instance instScalarRat : Scalar Rat where
  zero := 0
  one := 1
  add := (· + ·)
  sub := (· - ·)
  mul := (· * ·)
  div := (· / ·)
  neg := (- ·)
  lt := (· < ·)
  le := (· ≤ ·)
  natCast n := (n : Rat)
  ofScientific digits negative exponent := OfScientific.ofScientific digits negative exponent
  decLt := inferInstance
  decLe := inferInstance
  ofNumeral := rationalOfNumeral
  ofWhole n := (n : Rat)
  ofFlag b := if b then 1 else 0
  rounded q := q
  overflown _ := false
  exact := .finite
  text q := toString q.num ++ "/" ++ toString q.den
  rounded_zero := rfl
  rounded_one := rfl
  rounded_rounded _ := rfl
  overflown_zero := rfl
  overflown_one := rfl
  overflown_whole_zero := rfl
  overflown_natCast _ := rfl
  rounded_add _ _ _ := rfl
  rounded_div _ _ := rfl
  overflown_add _ _ _ _ _ := rfl
  overflown_div _ _ _ _ := rfl
  exact_zero := rfl
  exact_one := rfl
  lt_iff_exact x y := by simp [Exact.before]
  le_iff_exact x y := by simp [Exact.before, Exact.same, Rat.le_iff_lt_or_eq]

@[simp] theorem rounded_rat (q : Rat) : Scalar.rounded q = q := rfl

@[simp] theorem overflown_rat (q : Rat) : Scalar.overflown q = false := rfl

end Colony

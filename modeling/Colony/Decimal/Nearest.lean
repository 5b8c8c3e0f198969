import Colony.Decimal.Numeral

/-!
# Nearest binary number

A binary number of 64 bits has a significand of 53 bits and exponents from
-1074 on.  `nearestBits` gives the bits of the one nearest to a quotient of
natural numbers, a tie going to the even significand; a quotient too large
gives the bits of infinity.
-/

namespace Colony.Decimal

/-- The leading bit of a normal significand, which is not written. -/
def hiddenBit : Nat := 0x10000000000000

def infinityBits : Nat := 0x7ff0000000000000

def undefinedBits : Nat := 0x7ff8000000000000

def signBit : Nat := 0x8000000000000000

/-- The exponent `e` with `2 ^ e ≤ num / den < 2 ^ (e + 1)`. -/
def binaryExponent (num den : Nat) : Int :=
  let e : Int := (num.log2 : Int) - den.log2
  if den * Nat.pow 2 e.toNat ≤ num * Nat.pow 2 (-e).toNat then e else e - 1

def roundQuotient (num den : Nat) : Nat :=
  let q := num / den
  let r := num % den
  if den < 2 * r ∨ (den = 2 * r ∧ q % 2 = 1) then q + 1 else q

def nearestBits (num den : Nat) : Nat :=
  if num = 0 then 0
  else
    let q := max (binaryExponent num den - 52) (-1074)
    let significand := roundQuotient (num * Nat.pow 2 (-q).toNat) (den * Nat.pow 2 q.toNat)
    min infinityBits ((q + 1074).toNat * hiddenBit + significand)

/-- The magnitude of `digits * 10 ^ exponent`.

Beyond `10 ^ 400` it is infinite, and below `2 ^ (-1100)` it is zero, whatever
the digits: these bounds keep the powers small. -/
def decimalBits (digits : Nat) (exponent : Int) : Nat :=
  if digits = 0 then 0
  else if 400 < exponent then infinityBits
  else if (digits.log2 : Int) + 1101 < -3 * exponent then 0
  else nearestBits (digits * Nat.pow 10 exponent.toNat) (Nat.pow 10 (-exponent).toNat)

end Colony.Decimal

namespace Colony.Numeral

open Colony.Decimal

def withSign (negative : Bool) (bits : Nat) : Nat := if negative then signBit + bits else bits

def bits : Numeral → Nat
  | .decimal negative digits exponent => withSign negative (decimalBits digits exponent)
  | .infinite negative => withSign negative infinityBits
  | .undefined => undefinedBits

end Colony.Numeral


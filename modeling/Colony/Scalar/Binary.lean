import Colony.Decimal.Layout
import Colony.Decimal.Nearest
import Colony.Scalar

/-!
# Binary numbers

Numbers of 64 bits, as they are read from numerals, seen as exact numbers and
written as text.
-/

namespace Colony

def binaryOfNumeral (n : Numeral) : Float := Float.ofBits n.bits.toUInt64

/-- The binary number nearest to a whole one, unless that is infinite. -/
def binaryOfWhole? (n : Int) : Option Float :=
  let magnitude := Decimal.decimalBits n.natAbs 0
  if magnitude = Decimal.infinityBits then none
  else some (Float.ofBits (Numeral.withSign (n < 0) magnitude).toUInt64)

def binaryExact (x : Float) : Exact :=
  let bits := x.toBits.toNat
  let negative : Bool := Decimal.signBit ≤ bits
  let magnitude := bits % Decimal.signBit
  if magnitude < Decimal.infinityBits then
    let b := Decimal.Binary.ofBits magnitude
    let value := mkRat (b.significand * Nat.pow 2 b.exponent.toNat) (Nat.pow 2 (-b.exponent).toNat)
    .finite (if negative then -value else value)
  else if magnitude = Decimal.infinityBits then .infinite negative
  else .undefined

/-- The sign is written also before zero and infinity, never before an undefined number. -/
def binaryText (x : Float) : String :=
  let bits := x.toBits.toNat
  let sign := if Decimal.signBit ≤ bits then "-" else ""
  let magnitude := bits % Decimal.signBit
  if magnitude = 0 then sign ++ "0.0"
  else if magnitude < Decimal.infinityBits then
    sign ++ Decimal.plain.write (Decimal.shortest (.ofBits magnitude))
  else if magnitude = Decimal.infinityBits then sign ++ "inf"
  else "nan"

end Colony

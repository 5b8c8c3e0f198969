import Colony.Decimal.Nearest

/-!
# Shortest decimal of a binary number

A binary number `m * 2 ^ q` stands for every real that rounds to it, an
interval whose ends belong to it when `m` is even.  `shortest` gives the
decimal with the fewest digits inside that interval, and of two such the
nearer to the number itself.
-/

namespace Colony.Decimal

/-- The number `digits * 10 ^ exponent`, its last digit not zero. -/
structure Shortest where
  digits : Nat
  exponent : Int
  deriving DecidableEq, Repr

/-- A positive binary number and the half widths of its interval, in quarters of `2 ^ q`. -/
structure Binary where
  significand : Nat
  exponent : Int
  below : Nat
  above : Nat
  deriving DecidableEq, Repr

/-- Reads the 63 bits of a positive finite number.

Just above a power of two the neighbour below is only half as far away. -/
def Binary.ofBits (bits : Nat) : Binary :=
  let field : Nat := bits / hiddenBit % 0x800
  let fraction : Nat := bits % hiddenBit
  if field = 0 then ⟨fraction, -1074, 2, 2⟩
  else ⟨hiddenBit + fraction, (field : Int) - 1075, if fraction = 0 ∧ 1 < field then 1 else 2, 2⟩

/-- A common scale for the quarters of a binary unit and a power of ten. -/
structure Scale where
  ten : Nat
  quarter : Nat

def Scale.of (tenExponent binaryExponent : Int) : Scale :=
  let two := binaryExponent - 2
  { ten := Nat.pow 10 tenExponent.toNat * Nat.pow 2 (-two).toNat
    quarter := Nat.pow 2 two.toNat * Nat.pow 10 (-tenExponent).toNat }

def Binary.covers (b : Binary) (digits : Nat) (exponent : Int) : Bool :=
  let scale := Scale.of exponent b.exponent
  let value := digits * scale.ten
  let low := (4 * b.significand - b.below) * scale.quarter
  let high := (4 * b.significand + b.above) * scale.quarter
  if b.significand % 2 = 0 then low ≤ value && value ≤ high else low < value && value < high

/-- The larger `e` with `10 ^ e ≤ m * 2 ^ q`, close to `0.30103` times the binary exponent. -/
def Binary.tenExponent (b : Binary) : Int :=
  let guess := Int.fdiv (((b.significand.log2 : Int) + b.exponent) * 30103) 100000
  let fits := fun e : Int =>
    let scale := Scale.of e b.exponent
    scale.ten ≤ 4 * b.significand * scale.quarter
  if fits (guess + 1) then guess + 1 else if fits guess then guess else guess - 1

/-- The decimal on the grid of `10 ^ exponent` that covers the number, if one does. -/
def Binary.onGrid? (b : Binary) (exponent : Int) : Option Nat :=
  let scale := Scale.of exponent b.exponent
  let value := 4 * b.significand * scale.quarter
  let lower := value / scale.ten
  let rest := value % scale.ten
  match b.covers lower exponent, b.covers (lower + 1) exponent with
  | true, true =>
      if 2 * rest < scale.ten ∨ (2 * rest = scale.ten ∧ lower % 2 = 0) then some lower
      else some (lower + 1)
  | true, false => some lower
  | false, true => some (lower + 1)
  | false, false => none

def strip : Nat → Nat → Int → Shortest
  | 0, digits, exponent => ⟨digits, exponent⟩
  | fuel + 1, digits, exponent =>
      if digits % 10 = 0 then strip fuel (digits / 10) (exponent + 1) else ⟨digits, exponent⟩

/-- Seventeen digits always suffice, so the search ends with a hit. -/
def shortest (b : Binary) : Shortest :=
  let top := b.tenExponent
  let hit := (List.range 17).findSome? fun (count : Nat) =>
    let exponent := top - (count : Int)
    (b.onGrid? exponent).map fun digits => strip 20 digits exponent
  hit.getD ⟨0, 0⟩

end Colony.Decimal

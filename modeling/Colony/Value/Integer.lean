import Colony.Decimal.Numeral
import Colony.Failure

/-!
# Whole numbers from values

`toInt` turns a value into a whole number where that makes sense: numbers are
cut off towards zero, texts and bytes are read.  `order` compares a value
with a whole number exactly.
-/

namespace Colony

/-- The whole part of an exact number, cut off towards zero. -/
def Exact.whole {α : Type} : Exact → Answer α Int
  | .finite q => .ok (Int.tdiv q.num q.den)
  | .infinite _ => .error .overflow
  | .undefined => .error .badValue

/-- How an exact number compares with a whole one; an undefined number does not. -/
def Exact.order (n : Int) : Exact → Option Ordering
  | .finite q => some (if q < n then .lt else if n < q then .gt else .eq)
  | .infinite negative => some (if negative then .lt else .gt)
  | .undefined => none

namespace Value

variable {α : Type} [Scalar α]

/-- Bytes hold a number in ASCII or none at all. -/
def asciiChars? (bs : List UInt8) : Option (List Char) :=
  if bs.all (· < 128) then some (bs.map fun b => Char.ofNat b.toNat) else none

def toInt : Value α → Answer α Int
  | .bool b => .ok (if b then 1 else 0)
  | .int n => .ok n
  | .num x => (Scalar.exact x).whole
  | .text s => (Decimal.readInteger? s.toList).elim (.error .badValue) .ok
  | .torn _ => .error .badValue
  | .bytes bs => ((asciiChars? bs).bind Decimal.readInteger?).elim (.error .badValue) .ok
  | _ => .error .wrongKind

/-- How a value compares with a whole number; only numbers compare. -/
def order (v : Value α) (n : Int) : Answer α (Option Ordering) :=
  match v.number? with
  | some x => .ok (x.order n)
  | none => .error .wrongKind

def exceeds (v : Value α) (n : Int) : Answer α Bool := (v.order n).map (· == some .gt)

def isAtMost (v : Value α) (n : Int) : Answer α Bool :=
  (v.order n).map fun o => o == some .lt || o == some .eq

end Value

end Colony

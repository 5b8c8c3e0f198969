import Colony.Decimal.Shortest

/-!
# Layout of a decimal

The digits of a decimal are written positionally while the point falls near
them, and with an exponent otherwise.  A `Layout` holds the choices a writer
makes; `plain` is the layout used in messages and keys.
-/

namespace Colony.Decimal

structure Layout where
  /-- The least place of the point, counted from the first digit, that is written positionally. -/
  lowest : Int
  highest : Int
  /-- Written after a whole number that has neither point nor exponent. -/
  wholeMark : String
  exponentMark : String
  /-- The least count of digits in an exponent. -/
  exponentWidth : Nat

/-- Positional from `0.0001` up to sixteen digits before the point. -/
def plain : Layout := ⟨-3, 16, ".0", "e", 2⟩

def zeros (n : Nat) : String := String.ofList (List.replicate n '0')

def padLeft (width : Nat) (digits : String) : String := zeros (width - digits.length) ++ digits

def exponentText (layout : Layout) (e : Int) : String :=
  layout.exponentMark ++ (if e < 0 then "-" else "+") ++
    padLeft layout.exponentWidth (toString e.natAbs)

def positional (layout : Layout) (digits : String) (point : Int) : String :=
  if point ≤ 0 then "0." ++ zeros (-point).toNat ++ digits
  else if digits.length ≤ point.toNat then
    digits ++ zeros (point.toNat - digits.length) ++ layout.wholeMark
  else
    String.ofList (digits.toList.take point.toNat) ++ "." ++
      String.ofList (digits.toList.drop point.toNat)

def scientific (layout : Layout) (digits : String) (point : Int) : String :=
  let head := String.ofList (digits.toList.take 1)
  let tail := digits.toList.drop 1
  head ++ (if tail.isEmpty then "" else "." ++ String.ofList tail) ++
    exponentText layout (point - 1)

def Layout.write (layout : Layout) (d : Shortest) : String :=
  let digits := toString d.digits
  let point := d.exponent + digits.length
  if layout.lowest ≤ point ∧ point ≤ layout.highest then positional layout digits point
  else scientific layout digits point

end Colony.Decimal

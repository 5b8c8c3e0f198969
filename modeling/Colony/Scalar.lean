import Colony.Decimal.Numeral

/-!
# Scalars

All quantities of the colony are scalars: morale, trauma, weights, stocks,
probabilities.  The rules are written once for any type with the arithmetic
and comparisons they need.  A program runs them on amounts, where fractions
round, whole numbers do not, and a comparison with an undefined number fails;
the exact rationals obey the laws of arithmetic.
-/

namespace Colony

/-- A scalar seen as an exact number, or as one of the values that are none. -/
inductive Exact where
  | finite (q : Rat)
  | infinite (negative : Bool)
  | undefined
  deriving DecidableEq

namespace Exact

def ofBool (b : Bool) : Exact := .finite (if b then 1 else 0)

/-- The order of exact numbers, infinities at its ends.  An undefined number does not compare. -/
def before : Exact → Exact → Bool
  | .finite x, .finite y => x < y
  | .infinite negative, .infinite other => negative && !other
  | .infinite negative, .finite _ => negative
  | .finite _, .infinite negative => !negative
  | _, _ => false

def same (x y : Exact) : Bool := x == y && x != .undefined

end Exact

class Scalar (α : Type) extends Zero α, One α, Add α, Sub α, Mul α, Div α, Neg α, LT α, LE α,
    NatCast α, OfScientific α where
  decLt : DecidableLT α
  decLe : DecidableLE α
  ofNumeral : Numeral → α
  ofWhole : Int → α
  ofFlag : Bool → α
  /-- The scalar among those that fractions are taken from. -/
  rounded : α → α
  /-- Whether a whole number was too large for the arithmetic of fractions. -/
  overflown : α → Bool
  exact : α → Exact
  /-- The shortest decimal that reads back as the scalar, where there is one. -/
  text : α → String
  rounded_zero : rounded 0 = 0
  rounded_one : rounded 1 = 1
  rounded_rounded (x : α) : rounded (rounded x) = rounded x
  overflown_zero : overflown 0 = false
  overflown_one : overflown 1 = false
  overflown_whole_zero : overflown (rounded (ofWhole 0)) = false
  overflown_natCast (n : Nat) : overflown (rounded (n : α)) = false
  /-- A fraction makes the whole sum one, and so does any division. -/
  rounded_add (x y : α) : rounded y = y → rounded (x + y) = x + y
  rounded_div (x y : α) : rounded (x / y) = x / y
  overflown_add (x y : α) : rounded y = y → overflown (rounded x) = false →
    overflown y = false → overflown (x + y) = false
  overflown_div (x y : α) : overflown (rounded x) = false → overflown (rounded y) = false →
    overflown (x / y) = false
  exact_zero : exact 0 = .finite 0
  exact_one : exact 1 = .finite 1
  /-- Comparisons look at the exact numbers alone. -/
  lt_iff_exact (x y : α) : x < y ↔ (exact x).before (exact y) = true
  le_iff_exact (x y : α) : x ≤ y ↔ ((exact x).before (exact y) || (exact x).same (exact y)) = true

variable {α : Type} [Scalar α]

instance Scalar.decidableLT : DecidableLT α := Scalar.decLt

instance Scalar.decidableLE : DecidableLE α := Scalar.decLe

namespace Scalar

/-- The smaller of a bound and a value; a value that does not compare gives the bound. -/
def atMost (high value : α) : α := if value < high then value else high

/-- The larger of a bound and a value; a value that does not compare gives the bound. -/
def atLeast (low value : α) : α := if low < value then value else low

/-- Confines a value to a range; where the bounds cross, the lower one wins. -/
def clamp (low high value : α) : α := atLeast low (atMost high value)

def unit (value : α) : α := clamp 0 1 (rounded value)

/-- A sum starts from a whole zero, which it is where there is nothing to add. -/
def total (values : List α) : α := values.foldl (· + ·) (ofWhole 0)

/-- The mean of some values; without any it is zero by zero. -/
def mean (values : List α) : α := total values / (values.length : α)

/-- A confined value is a bound or lies strictly between them, by comparisons alone. -/
theorem unit_cases (value : α) :
    unit value = 0 ∨ unit value = 1 ∨ (0 < unit value ∧ unit value < 1) := by
  unfold unit clamp atLeast atMost
  by_cases below : rounded value < 1
  · by_cases above : 0 < rounded value
    · simp [below, above]
    · simp [below, above]
  · by_cases above : (0 : α) < 1
    · simp [below, above]
    · simp [below, above]

end Scalar

end Colony

import Colony.Scalar.Binary

/-!
# Amounts

The scalar a program runs on.  An amount is a whole number of any size, a
truth value, or a binary number with a fraction.  Sums and products of whole
numbers are whole and exact.  Where a binary number takes part, and in every
quotient, whole numbers are first rounded to binary ones; one that is too
large for that overflows, and so does all arithmetic with what overflowed.
Comparisons never round.
-/

namespace Colony

inductive Amount where
  | whole (n : Int)
  | flag (b : Bool)
  | binary (x : Float)
  | overflow
  deriving Inhabited

namespace Amount

def whole? : Amount → Option Int
  | .whole n => some n
  | .flag b => some (if b then 1 else 0)
  | .binary _ => none
  | .overflow => none

def rounded (x : Amount) : Amount :=
  match x.whole? with
  | some n => (binaryOfWhole? n).elim .overflow .binary
  | none => x

/-- Calculates in binary numbers. -/
def inBinary (f : Float → Float → Float) (x y : Amount) : Amount :=
  match x.rounded, y.rounded with
  | .binary a, .binary b => .binary (f a b)
  | _, _ => .overflow

/-- Calculates in whole numbers if there are no others. -/
def calculate (g : Int → Int → Int) (f : Float → Float → Float) (x y : Amount) : Amount :=
  match x.whole?, y.whole? with
  | some m, some n => .whole (g m n)
  | _, _ => inBinary f x y

def opposite : Amount → Amount
  | .whole n => .whole (-n)
  | .flag b => .whole (if b then -1 else 0)
  | .binary x => .binary (-x)
  | .overflow => .overflow

def overflown : Amount → Bool
  | .overflow => true
  | _ => false

def exact : Amount → Exact
  | .whole n => .finite n
  | .flag b => .ofBool b
  | .binary x => binaryExact x
  | .overflow => .undefined

/-- Truth values have words of their own; what overflowed is no number. -/
def text : Amount → String
  | .whole n => toString n
  | .flag b => if b then "True" else "False"
  | .binary x => binaryText x
  | .overflow => "nan"

def ofNumeral (n : Numeral) : Amount := .binary (binaryOfNumeral n)

/-- The binary number nearest to an amount; beyond the largest that is infinity. -/
def toBinary (x : Amount) : Float :=
  match x.rounded with
  | .binary b => b
  | _ => binaryOfNumeral (.infinite (x.exact.before (.finite 0)))

theorem rounded_rounded (x : Amount) : x.rounded.rounded = x.rounded := by
  have binary : ∀ read : Option Float,
      (read.elim Amount.overflow Amount.binary).rounded =
        read.elim Amount.overflow Amount.binary := by
    intro read
    cases read <;> rfl
  cases x with
  | whole n => exact binary (binaryOfWhole? n)
  | flag b => exact binary (binaryOfWhole? _)
  | binary x => rfl
  | overflow => rfl

theorem rounded_inBinary (f : Float → Float → Float) (x y : Amount) :
    (inBinary f x y).rounded = inBinary f x y := by
  unfold inBinary
  split <;> rfl

theorem whole?_of_rounded {x : Amount} (fraction : x.rounded = x) : x.whole? = none := by
  rw [← fraction, rounded]
  split
  · rename_i n whole
    cases binaryOfWhole? n <;> rfl
  · assumption

/-- What a calculation in binary numbers always has, one with a rounded amount has too. -/
theorem calculate_of_rounded {P : Amount → Prop} {x y : Amount} {f : Float → Float → Float}
    (fraction : y.rounded = y) (h : P (inBinary f x y)) (g : Int → Int → Int) :
    P (calculate g f x y) := by
  have same : calculate g f x y = inBinary f x y := by
    unfold calculate
    rw [whole?_of_rounded fraction]
    cases x.whole? <;> rfl
  rwa [same]

theorem overflown_inBinary {x y : Amount} (hx : x.rounded.overflown = false)
    (hy : y.rounded.overflown = false) (f : Float → Float → Float) :
    (inBinary f x y).overflown = false := by
  have fraction {x : Amount} (h : x.rounded.overflown = false) : ∃ b, x.rounded = .binary b := by
    have none := whole?_of_rounded x.rounded_rounded
    cases known : x.rounded with
    | whole n => simp [known, whole?] at none
    | flag b => simp [known, whole?] at none
    | binary b => exact ⟨b, rfl⟩
    | overflow => simp [known, overflown] at h
  obtain ⟨a, left⟩ := fraction hx
  obtain ⟨b, right⟩ := fraction hy
  simp only [inBinary, left, right, overflown]

end Amount

instance instScalarAmount : Scalar Amount where
  zero := .binary 0.0
  one := .binary 1.0
  add := .calculate (· + ·) (· + ·)
  sub := .calculate (· - ·) (· - ·)
  mul := .calculate (· * ·) (· * ·)
  div := .inBinary (· / ·)
  neg := Amount.opposite
  lt x y := x.exact.before y.exact = true
  le x y := (x.exact.before y.exact || x.exact.same y.exact) = true
  natCast n := .ofNumeral (.decimal false n 0)
  ofScientific digits negative exponent :=
    .ofNumeral (.decimal false digits (if negative then -exponent else exponent))
  decLt _ _ := inferInstanceAs (Decidable (_ = true))
  decLe _ _ := inferInstanceAs (Decidable (_ = true))
  ofNumeral := Amount.ofNumeral
  ofWhole := Amount.whole
  ofFlag := Amount.flag
  rounded := Amount.rounded
  overflown := Amount.overflown
  exact := Amount.exact
  text := Amount.text
  rounded_zero := rfl
  rounded_one := rfl
  rounded_rounded := Amount.rounded_rounded
  overflown_zero := rfl
  overflown_one := rfl
  overflown_whole_zero := rfl
  overflown_natCast _ := rfl
  rounded_add x y fraction :=
    Amount.calculate_of_rounded (P := fun sum => sum.rounded = sum) fraction
      (Amount.rounded_inBinary _ x y) _
  rounded_div := Amount.rounded_inBinary _
  overflown_add x y fraction hx hy :=
    Amount.calculate_of_rounded (P := fun sum => sum.overflown = false) fraction
      (Amount.overflown_inBinary hx (fraction.symm ▸ hy) _) _
  overflown_div _ _ hx hy := Amount.overflown_inBinary hx hy _
  exact_zero := by decide +kernel
  exact_one := by decide +kernel
  lt_iff_exact _ _ := .rfl
  le_iff_exact _ _ := .rfl

end Colony

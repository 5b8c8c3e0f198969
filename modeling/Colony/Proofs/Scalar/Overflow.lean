import Colony.Proofs.Answer
import Colony.Proofs.Decimal.Nearest
import Colony.Proofs.Order
import Colony.Scalar.Amount

/-!
# What overflows

Binary numbers are closed under arithmetic.  Arithmetic that a binary number
takes part in gives a binary number or overflows.  A whole number that is too
large to round overflows any such arithmetic, and so does each multiple of it
but zero.
-/

namespace Colony

namespace Amount

def IsBinary (x : Amount) : Prop := ∃ b, x = .binary b

/-- An amount that arithmetic of fractions can take up. -/
def Fits (x : Amount) : Prop := x.rounded.IsBinary

theorem rounded_cases (x : Amount) : x.rounded.IsBinary ∨ x.rounded = .overflow := by
  cases x with
  | whole n =>
      cases fits : binaryOfWhole? n with
      | some b => exact .inl ⟨b, by simp [rounded, whole?, fits]⟩
      | none => exact .inr (by simp [rounded, whole?, fits])
  | flag b =>
      cases fits : binaryOfWhole? (if b then 1 else 0) with
      | some b => exact .inl ⟨b, by simp [rounded, whole?, fits]⟩
      | none => exact .inr (by simp [rounded, whole?, fits])
  | binary b => exact .inl ⟨b, rfl⟩
  | overflow => exact .inr rfl

namespace IsBinary

variable {x y : Amount}

theorem zero : (0 : Amount).IsBinary := ⟨_, rfl⟩

theorem one : (1 : Amount).IsBinary := ⟨_, rfl⟩

theorem natCast (n : Nat) : (n : Amount).IsBinary := ⟨_, rfl⟩

theorem fits (h : x.IsBinary) : x.Fits := by
  obtain ⟨b, rfl⟩ := h
  exact ⟨b, rfl⟩

theorem overflown (h : x.IsBinary) : Scalar.overflown x = false := by
  obtain ⟨b, rfl⟩ := h
  rfl

end IsBinary

namespace Fits

variable {x y : Amount}

theorem inBinary (hx : x.Fits) (hy : y.Fits) (f : Float → Float → Float) :
    (inBinary f x y).IsBinary := by
  obtain ⟨a, rx⟩ := hx
  obtain ⟨b, ry⟩ := hy
  exact ⟨f a b, by rw [Amount.inBinary, rx, ry]⟩

/-- A calculation that a binary number takes part in is one in binary numbers. -/
theorem calculate (hx : x.Fits) (hy : y.Fits) (binary : x.IsBinary ∨ y.IsBinary)
    (g : Int → Int → Int) (f : Float → Float → Float) : (calculate g f x y).IsBinary := by
  have same : Amount.calculate g f x y = Amount.inBinary f x y := by
    rcases binary with ⟨a, rfl⟩ | ⟨b, rfl⟩
    · rfl
    · cases x <;> rfl
  rw [same]
  exact hx.inBinary hy f

end Fits

namespace IsBinary

variable {x y : Amount}

theorem add (h : x.IsBinary) (hy : y.Fits) : (x + y).IsBinary := h.fits.calculate hy (.inl h) _ _

theorem mul (h : x.IsBinary) (hy : y.Fits) : (x * y).IsBinary := h.fits.calculate hy (.inl h) _ _

theorem sub (h : x.IsBinary) (hy : y.Fits) : (x - y).IsBinary := h.fits.calculate hy (.inl h) _ _

theorem add_left (hx : x.Fits) (h : y.IsBinary) : (x + y).IsBinary :=
  hx.calculate h.fits (.inr h) _ _

theorem div (h : x.IsBinary) (hy : y.IsBinary) : (x / y).IsBinary := h.fits.inBinary hy.fits _

/-- What was confined is binary: an amount that overflowed is not between 0 and 1. -/
theorem unit (x : Amount) : (Scalar.unit x).IsBinary := by
  have confined (value : Amount) (h : value < 1 → value.IsBinary) :
      (Scalar.clamp 0 1 value).IsBinary := by
    unfold Scalar.clamp Scalar.atLeast Scalar.atMost
    by_cases below : value < 1
    · by_cases above : 0 < value
      · simpa [below, above] using h below
      · simpa [below, above] using zero
    · simpa [below, Scalar.zero_lt_one] using one
  refine confined x.rounded fun below => ?_
  rcases x.rounded_cases with binary | overflown
  · exact binary
  · rw [overflown] at below
    cases below

theorem foldl {values : List Amount} (h : ∀ x ∈ values, x.IsBinary) {sum : Amount}
    (start : sum.IsBinary) : (values.foldl (· + ·) sum).IsBinary := by
  induction values generalizing sum with
  | nil => exact start
  | cons x values ih =>
      exact ih (fun y member => h y (List.mem_cons_of_mem x member))
        (start.add (h x List.mem_cons_self).fits)

end IsBinary

/-- What a sum of binary numbers is: binary too, or a whole zero where there are none. -/
def Summed (x : Amount) : Prop := x = .whole 0 ∨ x.IsBinary

theorem fits_whole_zero : (Amount.whole 0).Fits := ⟨_, rfl⟩

theorem Summed.fits {x : Amount} (h : x.Summed) : x.Fits := by
  rcases h with rfl | binary
  · exact fits_whole_zero
  · exact binary.fits

theorem Summed.total {values : List Amount} (h : ∀ x ∈ values, x.IsBinary) :
    (Scalar.total values).Summed := by
  cases values with
  | nil => exact .inl rfl
  | cons x values =>
      exact .inr (IsBinary.foldl (fun y member => h y (List.mem_cons_of_mem x member))
        (IsBinary.add_left fits_whole_zero (h x List.mem_cons_self)))

theorem IsBinary.mean {values : List Amount} (h : ∀ x ∈ values, x.IsBinary) :
    (Scalar.mean values).IsBinary :=
  (Summed.total h).fits.inBinary (natCast values.length).fits _

/-! ## Overflow -/

variable {x y : Amount}

theorem rounded_of_not_fits (unfit : ¬ x.Fits) : x.rounded = .overflow :=
  x.rounded_cases.resolve_left unfit

theorem overflow_not_fits : ¬ (overflow : Amount).Fits := fun ⟨_, same⟩ => by cases same

theorem inBinary_of_not_fits (unfit : ¬ x.Fits ∨ ¬ y.Fits) (f : Float → Float → Float) :
    inBinary f x y = .overflow := by
  rcases unfit with unfit | unfit
  · rw [inBinary, rounded_of_not_fits unfit]
  · rw [inBinary, rounded_of_not_fits unfit]
    cases x.rounded <;> rfl

theorem whole?_inBinary (f : Float → Float → Float) (x y : Amount) :
    (inBinary f x y).whole? = none := by
  rw [inBinary]
  split <;> rfl

theorem calculate_eq_inBinary (fraction : x.whole? = none ∨ y.whole? = none)
    (g : Int → Int → Int) (f : Float → Float → Float) : calculate g f x y = inBinary f x y := by
  rw [calculate]
  split
  · rename_i m n left right
    rcases fraction with none | none
    · rw [none] at left
      cases left
    · rw [none] at right
      cases right
  · rfl

/-- Arithmetic of fractions that does not overflow takes up both of its amounts. -/
theorem fits_of_calculate {g : Int → Int → Int} {f : Float → Float → Float}
    (fraction : x.whole? = none ∨ y.whole? = none)
    (kept : Scalar.overflown (calculate g f x y) = false) : x.Fits ∧ y.Fits := by
  rw [calculate_eq_inBinary fraction] at kept
  by_contra unfit
  rw [inBinary_of_not_fits (not_and_or.mp unfit)] at kept
  cases kept

theorem whole?_add (fraction : x.whole? = none) (y : Amount) : (x + y).whole? = none := by
  have sum : x + y = inBinary (· + ·) x y := calculate_eq_inBinary (.inl fraction) _ _
  rw [sum, whole?_inBinary]

theorem whole?_add_left (x : Amount) (fraction : y.whole? = none) : (x + y).whole? = none := by
  have sum : x + y = inBinary (· + ·) x y := calculate_eq_inBinary (.inr fraction) _ _
  rw [sum, whole?_inBinary]

theorem whole?_mul (fraction : x.whole? = none) (y : Amount) : (x * y).whole? = none := by
  have product : x * y = inBinary (· * ·) x y := calculate_eq_inBinary (.inl fraction) _ _
  rw [product, whole?_inBinary]

/-- With a first value that is not whole a sum is not, whatever else it adds up. -/
theorem whole?_total {value : Amount} (fraction : value.whole? = none) (values : List Amount) :
    (Scalar.total (value :: values)).whole? = none := by
  have summed (sum : Amount) (start : sum.whole? = none) :
      (values.foldl (· + ·) sum).whole? = none := by
    induction values generalizing sum with
    | nil => exact start
    | cons value values ih => exact ih _ (whole?_add start value)
  exact summed _ (whole?_add_left _ fraction)

namespace IsBinary

theorem of_whole? (fraction : x.whole? = none) (kept : Scalar.overflown x = false) :
    x.IsBinary := by
  cases x with
  | whole n => cases fraction
  | flag b => cases fraction
  | binary b => exact ⟨b, rfl⟩
  | overflow => cases kept

theorem whole? (h : x.IsBinary) : x.whole? = none := by
  obtain ⟨b, rfl⟩ := h
  rfl

/-- What overflowed is not above zero, so a yield is binary. -/
theorem atLeast_rounded (x : Amount) : (Scalar.atLeast 0 (Scalar.rounded x)).IsBinary := by
  unfold Scalar.atLeast
  split
  · rename_i above
    rcases x.rounded_cases with binary | overflown
    · exact binary
    · have same : (Scalar.rounded x : Amount) = .overflow := overflown
      rw [same] at above
      cases above
  · exact zero

/-- What can be added to a binary number is binary or can be rounded to one. -/
theorem fits_of_add (h : x.IsBinary) (kept : Scalar.overflown (x + y) = false) : y.Fits :=
  (fits_of_calculate (.inl h.whole?) kept).2

end IsBinary

theorem fits_iff : x.Fits ↔ Scalar.overflown (Scalar.rounded x) = false := by
  constructor
  · rintro ⟨b, same⟩
    have rounds : Scalar.rounded x = .binary b := same
    rw [rounds]
    rfl
  · intro kept
    rcases x.rounded_cases with binary | overflown
    · exact binary
    · have rounds : Scalar.rounded x = .overflow := overflown
      rw [rounds] at kept
      cases kept

theorem exists_confined_iff : (∃ y, Scalar.confined x = .ok y) ↔ x.Fits := by
  rw [fits_iff]
  constructor
  · rintro ⟨y, confined⟩
    exact (Scalar.confined_eq_ok_iff.mp confined).1
  · intro kept
    exact ⟨Scalar.unit x, Scalar.confined_eq_ok_iff.mpr ⟨kept, rfl⟩⟩

theorem IsBinary.of_confined (confined : Scalar.confined x = .ok y) : y.IsBinary :=
  (Scalar.confined_eq_ok_iff.mp confined).2 ▸ .unit x

/-! ## Whole numbers too large to round -/

theorem fits_iff_of_whole? {n : Int} (whole : x.whole? = some n) :
    x.Fits ↔ (binaryOfWhole? n).isSome = true := by
  have rounds : x.rounded = (binaryOfWhole? n).elim .overflow .binary := by
    simp only [rounded, whole]
  rw [Fits, rounds]
  cases binaryOfWhole? n with
  | none =>
      constructor
      · rintro ⟨b, same⟩
        cases same
      · intro rounded
        cases rounded
  | some b => exact ⟨fun _ => rfl, fun _ => ⟨b, rfl⟩⟩

theorem isSome_binaryOfWhole? (n : Int) :
    (binaryOfWhole? n).isSome = true ↔ Decimal.decimalBits n.natAbs 0 ≠ Decimal.infinityBits := by
  simp only [binaryOfWhole?]
  split <;> simp [*]

theorem isSome_binaryOfWhole?_of_mul {m n : Int} (factor : m ≠ 0)
    (fits : (binaryOfWhole? (m * n)).isSome = true) : (binaryOfWhole? n).isSome = true := by
  rw [isSome_binaryOfWhole?] at fits ⊢
  have larger : n.natAbs ≤ (m * n).natAbs := by
    rw [Int.natAbs_mul]
    exact Nat.le_mul_of_pos_left _ (Int.natAbs_pos.mpr factor)
  exact fun infinite => fits (Decimal.decimalBits_eq_infinityBits larger infinite)

/-- Of the multiples of a factor that cannot be rounded, only a whole zero can. -/
theorem mul_eq_zero_of_not_fits (unfit : ¬ y.Fits) (fits : (x * y).Fits) :
    x.whole? = some 0 ∧ x * y = .whole 0 := by
  have product : x * y = calculate (· * ·) (· * ·) x y := rfl
  have notInBinary : x * y ≠ inBinary (· * ·) x y := fun same => by
    rw [same, inBinary_of_not_fits (.inr unfit)] at fits
    exact overflow_not_fits fits
  cases left : x.whole? with
  | none => exact absurd (calculate_eq_inBinary (.inl left) _ _) notInBinary
  | some m =>
      cases right : y.whole? with
      | none => exact absurd (calculate_eq_inBinary (.inr right) _ _) notInBinary
      | some n =>
          have multiple : x * y = .whole (m * n) := by
            rw [product, calculate, left, right]
          have zero : m = 0 := by
            by_contra factor
            rw [multiple, fits_iff_of_whole? rfl] at fits
            rw [fits_iff_of_whole? right] at unfit
            exact unfit (isSome_binaryOfWhole?_of_mul factor fits)
          rw [multiple, zero, Int.zero_mul]
          exact ⟨rfl, rfl⟩

end Amount

end Colony

import Colony.Failure

/-!
# Fractions

A fraction is a scalar that rounding leaves alone and that has not overflowed.
What has been confined is one, sums and quotients of fractions are fractions,
and so is the mean of confined values, whatever the scalars are.
-/

namespace Colony.Scalar

variable {α : Type} [Scalar α] {x y : α}

structure Fraction (x : α) : Prop where
  rounded : rounded x = x
  fits : overflown x = false

namespace Fraction

theorem zero : Fraction (0 : α) := ⟨rounded_zero, overflown_zero⟩

theorem one : Fraction (1 : α) := ⟨rounded_one, overflown_one⟩

theorem of_confined (confined : Scalar.confined x = .ok y) : Fraction y := by
  obtain ⟨fits, rfl⟩ := confined_eq_ok_iff.mp confined
  have within : Fraction (Scalar.rounded x) := ⟨rounded_rounded x, fits⟩
  unfold unit clamp atLeast atMost
  by_cases below : Scalar.rounded x < 1
  · by_cases above : 0 < Scalar.rounded x
    · simpa [below, above] using within
    · simpa [below, above] using zero
  · by_cases above : (0 : α) < 1
    · simpa [below, above] using one
    · simpa [below, above] using zero

theorem add (hx : overflown (Scalar.rounded x) = false) (hy : Fraction y) : Fraction (x + y) :=
  ⟨rounded_add x y hy.rounded, overflown_add x y hy.rounded hx hy.fits⟩

theorem overflown_rounded (h : Fraction x) : overflown (Scalar.rounded x) = false := by
  rw [h.rounded, h.fits]

end Fraction

theorem overflown_total {values : List α} (fractions : ∀ x ∈ values, Fraction x) :
    overflown (rounded (total values)) = false := by
  have summed (sum : α) (start : overflown (rounded sum) = false) :
      overflown (rounded (values.foldl (· + ·) sum)) = false := by
    induction values generalizing sum with
    | nil => exact start
    | cons x values ih =>
        obtain ⟨first, rest⟩ := List.forall_mem_cons.mp fractions
        exact ih rest _ (Fraction.add start first).overflown_rounded
  exact summed _ overflown_whole_zero

theorem Fraction.mean {values : List α} (fractions : ∀ x ∈ values, Fraction x) :
    Fraction (mean values) :=
  ⟨rounded_div _ _, overflown_div _ _ (overflown_total fractions) (overflown_natCast _)⟩

end Colony.Scalar

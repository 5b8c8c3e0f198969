import Mathlib.Order.Defs.LinearOrder
import Mathlib.Algebra.Order.Ring.Unbundled.Rat
import Colony.Scalar

/-!
# The order of scalars

Comparisons of scalars look at their exact numbers alone.  So the scalars that
have a number are ordered as their numbers are, whatever the arithmetic does,
and an undefined scalar is neither below nor above anything.
-/

namespace Colony

/-! ## Exact numbers -/

namespace Exact

theorem before_irrefl (x : Exact) : x.before x = false := by
  cases x <;> simp [before]

theorem before_trans {x y z : Exact} (h : x.before y = true) (h' : y.before z = true) :
    x.before z = true := by
  cases x <;> cases y <;> cases z <;> simp_all [before]
  exact h.trans h'

theorem same_of_not_before {x y : Exact} (hx : x ≠ .undefined) (hy : y ≠ .undefined)
    (h : x.before y = false) (h' : y.before x = false) : x.same y = true := by
  cases x <;> cases y <;> simp_all [before, same]
  · exact le_antisymm h' h
  · rename_i b c
    cases b <;> cases c <;> simp_all

theorem eq_of_same {x y : Exact} (h : x.same y = true) : x = y := by
  simp only [same, Bool.and_eq_true, beq_iff_eq] at h
  exact h.1

theorem same_self {x : Exact} (hx : x ≠ .undefined) : x.same x = true := by
  simp [same, hx]

end Exact

/-! ## Scalars -/

namespace Scalar

variable {α : Type} [Scalar α] {x y z : α}

/-- A scalar that is a number, finite or not. -/
def Defined (x : α) : Prop := exact x ≠ .undefined

theorem Defined.of_lt_left (h : x < y) : Defined x := by
  intro undefined
  rw [lt_iff_exact, undefined] at h
  simp [Exact.before] at h

theorem Defined.of_lt_right (h : x < y) : Defined y := by
  intro undefined
  rw [lt_iff_exact, undefined] at h
  cases hx : exact x <;> simp [hx, Exact.before] at h

theorem lt_or_exact_eq_of_le (h : x ≤ y) : x < y ∨ (exact x = exact y ∧ Defined x) := by
  rw [le_iff_exact, Bool.or_eq_true, ← lt_iff_exact] at h
  refine h.imp id fun same => ⟨Exact.eq_of_same same, ?_⟩
  intro undefined
  simp [Exact.same, undefined] at same

theorem Defined.of_le_left (h : x ≤ y) : Defined x :=
  (lt_or_exact_eq_of_le h).elim of_lt_left And.right

theorem Defined.of_le_right (h : x ≤ y) : Defined y := by
  rcases lt_or_exact_eq_of_le h with less | ⟨same, defined⟩
  · exact of_lt_right less
  · rw [Defined, ← same]
    exact defined

theorem defined_zero : Defined (0 : α) := by simp [Defined, exact_zero]

theorem zero_lt_one : (0 : α) < 1 := by
  rw [lt_iff_exact, exact_zero, exact_one]
  decide

theorem lt_irrefl (x : α) : ¬ x < x := by
  simp [lt_iff_exact, Exact.before_irrefl]

theorem lt_trans (h : x < y) (h' : y < z) : x < z := by
  rw [lt_iff_exact] at *
  exact Exact.before_trans h h'

theorem le_of_lt (h : x < y) : x ≤ y := by
  rw [le_iff_exact, (lt_iff_exact x y).mp h]
  rfl

theorem le_refl (h : Defined x) : x ≤ x := by
  rw [le_iff_exact, Exact.same_self h, Bool.or_true]

theorem lt_of_lt_of_le (h : x < y) (h' : y ≤ z) : x < z := by
  rcases lt_or_exact_eq_of_le h' with less | ⟨same, -⟩
  · exact lt_trans h less
  · rw [lt_iff_exact] at *
    rwa [← same]

theorem lt_of_le_of_lt (h : x ≤ y) (h' : y < z) : x < z := by
  rcases lt_or_exact_eq_of_le h with less | ⟨same, -⟩
  · exact lt_trans less h'
  · rw [lt_iff_exact] at *
    rwa [same]

theorem le_trans (h : x ≤ y) (h' : y ≤ z) : x ≤ z := by
  rcases lt_or_exact_eq_of_le h with less | ⟨same, -⟩
  · exact le_of_lt (lt_of_lt_of_le less h')
  · rw [le_iff_exact] at *
    rwa [same]

theorem le_of_not_lt (hx : Defined x) (hy : Defined y) (h : ¬ x < y) : y ≤ x := by
  rw [lt_iff_exact, Bool.not_eq_true] at h
  rw [le_iff_exact, Bool.or_eq_true]
  cases h' : (exact y).before (exact x) with
  | true => exact .inl rfl
  | false => exact .inr (Exact.same_of_not_before hy hx h' h)

/-- A value confined to a proper range is a bound or lies strictly between them. -/
theorem clamp_cases {low high : α} (proper : low < high) (value : α) :
    clamp low high value = low ∨ clamp low high value = high ∨
      (low < clamp low high value ∧ clamp low high value < high) := by
  unfold clamp atLeast atMost
  by_cases below : value < high
  · by_cases above : low < value
    · simp [below, above]
    · simp [below, above]
  · simp [below, proper]

theorem le_atLeast {low : α} (defined : Defined low) (value : α) : low ≤ atLeast low value := by
  unfold atLeast
  split
  · rename_i above
    exact le_of_lt above
  · exact le_refl defined

theorem le_clamp {low high : α} (proper : low < high) (value : α) :
    low ≤ clamp low high value := by
  rcases clamp_cases proper value with least | greatest | ⟨above, -⟩
  · rw [least]
    exact le_refl (.of_lt_left proper)
  · rw [greatest]
    exact le_of_lt proper
  · exact le_of_lt above

theorem clamp_le {low high : α} (proper : low < high) (value : α) :
    clamp low high value ≤ high := by
  rcases clamp_cases proper value with least | greatest | ⟨-, below⟩
  · rw [least]
    exact le_of_lt proper
  · rw [greatest]
    exact le_refl (.of_lt_right proper)
  · exact le_of_lt below

theorem clamp_clamp {low high : α} (proper : low < high) (value : α) :
    clamp low high (clamp low high value) = clamp low high value := by
  rcases clamp_cases proper value with least | greatest | ⟨above, below⟩
  · rw [least]
    simp [clamp, atLeast, atMost, proper, lt_irrefl]
  · rw [greatest]
    simp [clamp, atLeast, atMost, proper, lt_irrefl]
  · generalize clamp low high value = confined at above below
    simp [clamp, atLeast, atMost, above, below]

theorem defined_unit (value : α) : Defined (unit value) :=
  .of_le_left (clamp_le zero_lt_one (rounded value))

end Scalar

end Colony

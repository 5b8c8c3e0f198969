/-!
# Insertion sort

`sort before xs` orders a list by a strict comparison and keeps the order of
entries that compare neither way.  It recurses on the list itself, so it
also evaluates inside proofs.
-/

namespace Colony

variable {α : Type}

def insertSorted (before : α → α → Bool) (x : α) : List α → List α
  | [] => [x]
  | y :: ys => if before y x then y :: insertSorted before x ys else x :: y :: ys

def sort (before : α → α → Bool) : List α → List α
  | [] => []
  | x :: xs => insertSorted before x (sort before xs)

/-- Texts in the order of their code points. -/
def textBefore (s t : String) : Bool := decide (s < t)

theorem insertSorted_perm (before : α → α → Bool) (x : α) (xs : List α) :
    (insertSorted before x xs).Perm (x :: xs) := by
  induction xs with
  | nil => exact .refl _
  | cons y ys ih =>
      unfold insertSorted
      split
      · exact (ih.cons y).trans (.swap x y ys)
      · exact .refl _

theorem sort_perm (before : α → α → Bool) (xs : List α) : (sort before xs).Perm xs := by
  induction xs with
  | nil => exact .refl _
  | cons x xs ih => exact (insertSorted_perm before x _).trans (ih.cons x)

theorem length_sort (before : α → α → Bool) (xs : List α) :
    (sort before xs).length = xs.length :=
  (sort_perm before xs).length_eq

theorem mem_sort {before : α → α → Bool} {x : α} {xs : List α} : x ∈ sort before xs ↔ x ∈ xs :=
  (sort_perm before xs).mem_iff

end Colony

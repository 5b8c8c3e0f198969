import Mathlib.Data.List.Basic
import Mathlib.Data.String.Basic
import Colony.Sorting

/-!
# Sorted lists

Sorting by a comparison that is a strict order on the entries of a list gives
the one list of these entries in which each is before all that follow.  In such
a list the place of an entry is the number of entries before it.
-/

namespace Colony

variable {α : Type} {before : α → α → Bool}

/-- A comparison that orders the entries of a list strictly; it may leave some unordered. -/
structure StrictOn (before : α → α → Bool) (xs : List α) : Prop where
  irrefl : ∀ x ∈ xs, before x x = false
  trans : ∀ x ∈ xs, ∀ y ∈ xs, ∀ z ∈ xs, before x y = true → before y z = true → before x z = true

namespace StrictOn

variable {xs ys : List α}

theorem of_subset (h : StrictOn before xs) (subset : ys ⊆ xs) : StrictOn before ys where
  irrefl x member := h.irrefl x (subset member)
  trans x hx y hy z hz := h.trans x (subset hx) y (subset hy) z (subset hz)

theorem asymm (h : StrictOn before xs) {x y : α} (hx : x ∈ xs) (hy : y ∈ xs)
    (first : before x y = true) : before y x = false := by
  by_contra second
  have cycle := h.trans x hx y hy x hx first (eq_true_of_ne_false second)
  rw [h.irrefl x hx] at cycle
  exact Bool.false_ne_true cycle

end StrictOn

theorem pairwise_insertSorted {x : α} {xs : List α} (strict : StrictOn before (x :: xs))
    (comparable : ∀ y ∈ xs, before x y = true ∨ before y x = true)
    (sorted : xs.Pairwise fun y z => before y z = true) :
    (insertSorted before x xs).Pairwise fun y z => before y z = true := by
  induction xs with
  | nil => exact List.pairwise_singleton _ x
  | cons y ys ih =>
      obtain ⟨least, rest⟩ := List.pairwise_cons.mp sorted
      unfold insertSorted
      split
      · rename_i earlier
        have inserted := ih
          (strict.of_subset (List.cons_subset_cons x (List.subset_cons_self y ys)))
          (fun z member => comparable z (List.mem_cons_of_mem y member)) rest
        refine List.pairwise_cons.mpr ⟨fun z member => ?_, inserted⟩
        rcases List.mem_cons.mp ((insertSorted_perm before x ys).mem_iff.mp member) with
          rfl | old
        · exact earlier
        · exact least z old
      · rename_i notEarlier
        have first : before x y = true :=
          (comparable y List.mem_cons_self).resolve_right notEarlier
        refine List.pairwise_cons.mpr ⟨fun z member => ?_, sorted⟩
        rcases List.mem_cons.mp member with rfl | old
        · exact first
        · exact strict.trans x List.mem_cons_self y (List.mem_cons_of_mem x List.mem_cons_self) z
            (List.mem_cons_of_mem x member) first (least z old)

theorem pairwise_sort {xs : List α} (strict : StrictOn before xs)
    (comparable : xs.Pairwise fun x y => before x y = true ∨ before y x = true) :
    (sort before xs).Pairwise fun x y => before x y = true := by
  induction xs with
  | nil => exact List.Pairwise.nil
  | cons x xs ih =>
      obtain ⟨first, rest⟩ := List.pairwise_cons.mp comparable
      have sorted := ih (strict.of_subset (List.subset_cons_self x xs)) rest
      refine pairwise_insertSorted (strict.of_subset ?_) (fun y member => ?_) sorted
      · exact List.cons_subset_cons x (sort_perm before xs).subset
      · exact first y (mem_sort.mp member)

/-- Entries that are compared as what they come from are sorted as that. -/
theorem sort_map {β : Type} {f : α → β} {before' : β → β → Bool}
    (same : ∀ x y, before' (f x) (f y) = before x y) (xs : List α) :
    sort before' (xs.map f) = (sort before xs).map f := by
  have inserted : ∀ x ys,
      insertSorted before' (f x) (ys.map f) = (insertSorted before x ys).map f := by
    intro x ys
    induction ys with
    | nil => rfl
    | cons y ys ih =>
        simp only [List.map_cons, insertSorted, same]
        split <;> simp [ih]
  induction xs with
  | nil => rfl
  | cons x xs ih => rw [List.map_cons, sort, ih, inserted, sort]

section Sorted

variable {xs ys : List α} (strict : StrictOn before xs)
variable (sorted : xs.Pairwise fun x y => before x y = true)
include strict sorted

/-- The first `k` entries are those with fewer than `k` entries before them. -/
theorem mem_take_iff {k : Nat} {x : α} :
    x ∈ xs.take k ↔ x ∈ xs ∧ xs.countP (before · x) < k := by
  induction xs generalizing k with
  | nil => simp
  | cons y ys ih =>
      obtain ⟨least, rest⟩ := List.pairwise_cons.mp sorted
      have inRest := @ih (strict.of_subset (List.subset_cons_self y ys)) rest
      cases k with
      | zero => simp
      | succ k =>
          rw [List.take_succ_cons, List.mem_cons, List.mem_cons, List.countP_cons, inRest]
          by_cases later : x ∈ ys
          · have earlier := least x later
            have ne : x ≠ y := by
              rintro rfl
              exact Bool.false_ne_true ((strict.irrefl x List.mem_cons_self).symm.trans earlier)
            simp [later, earlier, ne]
          · -- Outside the rest, only the head is in question, and nothing is before it.
            have noneBefore : ∀ z ∈ ys, before z y = false := fun z member =>
              strict.asymm List.mem_cons_self (List.mem_cons_of_mem y member) (least z member)
            simp only [later, false_and, or_false]
            constructor
            · rintro rfl
              refine ⟨rfl, ?_⟩
              have count : ys.countP (before · x) = 0 :=
                List.countP_eq_zero.mpr fun z member => by simp [noneBefore z member]
              simp [count, strict.irrefl x List.mem_cons_self]
            · exact And.left

theorem eq_of_perm_of_sorted (sorted' : ys.Pairwise fun x y => before x y = true)
    (perm : xs.Perm ys) : xs = ys := by
  refine List.Perm.eq_of_pairwise (fun x y hx hy first second => ?_) sorted sorted' perm
  rw [strict.asymm hx (perm.mem_iff.mpr hy) first] at second
  exact absurd second Bool.false_ne_true

end Sorted

/-! ## Entries in the order of their keys -/

/-- Entries are compared by their keys. -/
def ByKey {β κ : Type} [LT κ] (key : β → κ) (before : β → β → Bool) : Prop :=
  ∀ x y, before x y = true ↔ key x < key y

namespace ByKey

variable {β κ : Type} [LinearOrder κ] {key : β → κ} {before : β → β → Bool}
variable (compared : ByKey key before)
include compared

theorem strictOn (xs : List β) : StrictOn before xs where
  irrefl x _ := by simp [Bool.eq_false_iff, compared x x]
  trans x _ y _ z _ first second :=
    (compared x z).mpr (((compared x y).mp first).trans ((compared y z).mp second))

theorem pairwise_sort {xs : List β} (distinct : (xs.map key).Nodup) :
    (sort before xs).Pairwise fun x y => before x y = true := by
  refine Colony.pairwise_sort (compared.strictOn xs)
    ((List.pairwise_map.mp distinct).imp fun {x y} ne => ?_)
  exact (lt_or_gt_of_ne ne).imp (compared x y).mpr (compared y x).mpr

theorem sort_eq_of_perm {xs ys : List β} (distinct : (xs.map key).Nodup) (perm : xs.Perm ys) :
    sort before xs = sort before ys :=
  eq_of_perm_of_sorted (compared.strictOn _) (compared.pairwise_sort distinct)
    (compared.pairwise_sort ((perm.map key).nodup_iff.mp distinct))
    ((sort_perm _ _).trans (perm.trans (sort_perm _ _).symm))

theorem sort_of_sorted {xs : List β} (sorted : xs.Pairwise fun x y => key x < key y) :
    sort before xs = xs := by
  have distinct : (xs.map key).Nodup := List.pairwise_map.mpr (sorted.imp ne_of_lt)
  exact eq_of_perm_of_sorted (compared.strictOn _) (compared.pairwise_sort distinct)
    (sorted.imp fun {x y} first => (compared x y).mpr first) (sort_perm _ xs)

/-- Where keys come more than once, the sorted list ascends all the same. -/
theorem pairwise_sort_le (xs : List β) :
    (sort before xs).Pairwise fun x y => key x ≤ key y := by
  have inserted : ∀ (x : β) (ys : List β), (ys.Pairwise fun y z => key y ≤ key z) →
      (insertSorted before x ys).Pairwise fun y z => key y ≤ key z := by
    intro x ys sorted
    induction ys with
    | nil => exact List.pairwise_singleton _ x
    | cons y ys ih =>
        obtain ⟨least, rest⟩ := List.pairwise_cons.mp sorted
        unfold insertSorted
        split
        · rename_i earlier
          refine List.pairwise_cons.mpr ⟨fun z member => ?_, ih rest⟩
          rcases List.mem_cons.mp ((insertSorted_perm _ x ys).mem_iff.mp member) with rfl | old
          · exact le_of_lt ((compared y z).mp earlier)
          · exact least z old
        · rename_i notEarlier
          have first : key x ≤ key y := le_of_not_gt fun earlier =>
            notEarlier ((compared y x).mpr earlier)
          refine List.pairwise_cons.mpr ⟨fun z member => ?_, sorted⟩
          rcases List.mem_cons.mp member with rfl | old
          · exact first
          · exact first.trans (least z old)
  induction xs with
  | nil => exact .nil
  | cons x xs ih => exact inserted x _ ih

end ByKey

theorem ByKey.text {β : Type} (text : β → String) :
    ByKey text fun x y => textBefore (text x) (text y) := fun x y => by simp [textBefore]

end Colony

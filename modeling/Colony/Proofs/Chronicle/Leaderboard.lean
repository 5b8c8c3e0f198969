import Mathlib.Data.List.Nodup
import Mathlib.Data.List.Perm.Subperm
import Mathlib.Data.String.Basic
import Colony.Chronicle.Leaderboard
import Colony.Proofs.Order
import Colony.Proofs.Sorting

/-!
# The order of a leaderboard

Standings whose scores are numbers are ordered strictly, by their scores and
then by their keys.  So the highest of them, no two of one key, are those with
few others ahead; and a board that is kept in order stays so when a standing is
put in its place and the board is cut to size.
-/

namespace Colony.Leaderboard

variable {α : Type} [Scalar α]

/-! ## The order of standings -/

section Ahead

variable {e f g : Standing α}

theorem ahead_iff :
    ahead e f = true ↔ f.score < e.score ∨ (¬ e.score < f.score ∧ e.key < f.key) := by
  simp [ahead, textBefore]

theorem ahead_irrefl (e : Standing α) : ahead e e = false := by
  simp [ahead, textBefore, Scalar.lt_irrefl]

theorem ahead_trans (he : Scalar.Defined e.score) (hf : Scalar.Defined f.score)
    (hg : Scalar.Defined g.score) (first : ahead e f = true) (second : ahead f g = true) :
    ahead e g = true := by
  rw [ahead_iff] at *
  rcases first with higher | ⟨notLower, key⟩
  · have above : f.score ≤ e.score := Scalar.le_of_lt higher
    rcases second with higher' | ⟨notLower', -⟩
    · exact .inl (Scalar.lt_of_lt_of_le higher' above)
    · exact .inl (Scalar.lt_of_le_of_lt (Scalar.le_of_not_lt hf hg notLower') higher)
  · have above : f.score ≤ e.score := Scalar.le_of_not_lt he hf notLower
    rcases second with higher' | ⟨notLower', key'⟩
    · exact .inl (Scalar.lt_of_lt_of_le higher' above)
    · have above' : g.score ≤ f.score := Scalar.le_of_not_lt hf hg notLower'
      refine .inr ⟨fun lower => ?_, lt_trans key key'⟩
      exact Scalar.lt_irrefl _ (Scalar.lt_of_lt_of_le lower (Scalar.le_trans above' above))

theorem ahead_or_ahead (ne : e.key ≠ f.key) : ahead e f = true ∨ ahead f e = true := by
  rw [ahead_iff, ahead_iff]
  by_cases lower : e.score < f.score
  · exact .inr (.inl lower)
  · by_cases higher : f.score < e.score
    · exact .inl (.inl higher)
    · rcases lt_or_gt_of_ne ne with key | key
      · exact .inl (.inr ⟨lower, key⟩)
      · exact .inr (.inr ⟨higher, key⟩)

end Ahead

/-- Standings whose scores are numbers and no two of which have one key. -/
structure Proper (board : Leaderboard α) : Prop where
  defined : ∀ e ∈ board, Scalar.Defined e.score
  keys : (board.map (·.key)).Nodup

namespace Proper

variable {board : Leaderboard α}

theorem of_perm {other : Leaderboard α} (h : Proper board) (perm : other.Perm board) :
    Proper other where
  defined e member := h.defined e (perm.mem_iff.mp member)
  keys := (perm.map _).nodup_iff.mpr h.keys

theorem of_sublist {other : Leaderboard α} (h : Proper board) (sublist : other.Sublist board) :
    Proper other where
  defined e member := h.defined e (sublist.subset member)
  keys := h.keys.sublist (sublist.map _)

theorem strict (h : Proper board) : StrictOn ahead board where
  irrefl e _ := ahead_irrefl e
  trans e he f hf g hg := ahead_trans (h.defined e he) (h.defined f hf) (h.defined g hg)

theorem sorted (h : Proper board) : (sort ahead board).Pairwise fun e f => ahead e f = true :=
  pairwise_sort h.strict ((List.pairwise_map.mp h.keys).imp ahead_or_ahead)

theorem eq_of_key (h : Proper board) {e f : Standing α} (he : e ∈ board) (hf : f ∈ board)
    (same : e.key = f.key) : e = f :=
  List.inj_on_of_nodup_map h.keys he hf same

end Proper

/-! ## The highest -/

def top (k : Nat) (standings : Leaderboard α) : Leaderboard α := (sort ahead standings).take k

section Top

variable {k : Nat} {standings : Leaderboard α} (proper : Proper standings)
include proper

theorem mem_top {e : Standing α} :
    e ∈ top k standings ↔ e ∈ standings ∧ standings.countP (ahead · e) < k := by
  have perm := sort_perm ahead standings
  rw [top, mem_take_iff (proper.of_perm perm).strict proper.sorted, mem_sort, perm.countP_eq]

/-- Whoever is ahead of one of the highest is one of them too. -/
theorem mem_top_of_ahead {e f : Standing α} (he : e ∈ top k standings) (hf : f ∈ standings)
    (first : ahead f e = true) : f ∈ top k standings := by
  rw [mem_top proper] at *
  refine ⟨hf, lt_of_le_of_lt (List.countP_mono_left fun g hg earlier => ?_) he.2⟩
  exact proper.strict.trans g hg f hf e he.1 earlier first

omit proper in
theorem length_top : (top k standings).length = min k standings.length := by
  rw [top, List.length_take, length_sort]

theorem proper_top : Proper (top k standings) :=
  (proper.of_perm (sort_perm ahead standings)).of_sublist (List.take_sublist k _)

theorem sorted_top : (top k standings).Pairwise fun e f => ahead e f = true :=
  proper.sorted.sublist (List.take_sublist k _)

end Top

/-! ## Adding a standing -/

theorem mem_place {e f : Standing α} {board : Leaderboard α} :
    f ∈ place e board ↔ f = e ∨ (f ∈ board ∧ f.key ≠ e.key) := by
  rw [place, mem_sort, List.mem_append, without, List.mem_filter, List.mem_singleton]
  simp only [bne_iff_ne]
  exact or_comm

theorem Proper.place {board : Leaderboard α} (h : Proper board) {e : Standing α}
    (defined : Scalar.Defined e.score) : Proper (board.place e) := by
  have others : Proper (board.without e.key) := h.of_sublist List.filter_sublist
  have appended : Proper (board.without e.key ++ [e]) := by
    constructor
    · intro f member
      rcases List.mem_append.mp member with old | new
      · exact others.defined f old
      · rw [List.mem_singleton.mp new]
        exact defined
    · rw [List.map_append, List.nodup_append]
      refine ⟨others.keys, List.nodup_singleton _, ?_⟩
      intro key old key' new same
      obtain ⟨f, member, rfl⟩ := List.mem_map.mp old
      rw [List.map_singleton, List.mem_singleton] at new
      have other : f.key ≠ e.key := by simpa using (List.mem_filter.mp member).2
      exact other (same.trans new)
  exact appended.of_perm (sort_perm ahead _)

theorem Proper.sorted_place {board : Leaderboard α} (h : Proper board) {e : Standing α}
    (defined : Scalar.Defined e.score) :
    (board.place e).Pairwise fun f g => ahead f g = true := by
  have perm := (sort_perm ahead (board.without e.key ++ [e])).symm
  exact ((h.place defined).of_perm perm).sorted

theorem Proper.length_le_place {board : Leaderboard α} (h : Proper board) (e : Standing α) :
    board.length ≤ (board.place e).length := by
  have once : board.countP (·.key == e.key) ≤ 1 := by
    have count := List.nodup_iff_count_le_one.mp h.keys e.key
    rwa [List.count, List.countP_map] at count
  have split : board.length = board.countP (·.key == e.key) + (board.without e.key).length := by
    rw [without, ← List.countP_eq_length_filter]
    simpa [bne, beq_eq_decide] using board.length_eq_countP_add_countP (·.key == e.key)
  rw [Leaderboard.place, length_sort, List.length_append, List.length_singleton, split]
  omega

/-- A board as it is kept, of a size of `k` at most. -/
structure Kept (k : Nat) (board : Leaderboard α) : Prop extends Proper board where
  inOrder : board.Pairwise fun e f => ahead e f = true
  length_le : board.length ≤ k

theorem Kept.nil (k : Nat) : Kept k ([] : Leaderboard α) where
  defined _ member := absurd member List.not_mem_nil
  keys := List.nodup_nil
  inOrder := List.Pairwise.nil
  length_le := Nat.zero_le k

section Add

variable {k : Nat} {board : Leaderboard α} {e : Standing α}

theorem add_eq_take (positive : 0 < k) : board.add k e = (board.place e).take k := by
  unfold add cut best
  split
  · simp
  · rename_i fits
    rw [List.take_of_length_le]
    omega

theorem Kept.add (positive : 0 < k) (h : Kept k board) (defined : Scalar.Defined e.score) :
    Kept k (board.add k e) := by
  rw [add_eq_take positive]
  have proper : Proper ((board.place e).take k) :=
    (h.toProper.place defined).of_sublist (List.take_sublist k _)
  refine ⟨proper, ?_, List.length_take_le k _⟩
  exact (h.toProper.sorted_place defined).sublist (List.take_sublist k _)

/-- Adding keeps whoever has fewer than `k` others ahead. -/
theorem Proper.mem_add (h : Proper board) (positive : 0 < k) (defined : Scalar.Defined e.score)
    {f : Standing α} :
    f ∈ board.add k e ↔ f ∈ board.place e ∧ (board.place e).countP (ahead · f) < k := by
  rw [add_eq_take positive]
  exact mem_take_iff (h.place defined).strict (h.sorted_place defined)

end Add

end Colony.Leaderboard

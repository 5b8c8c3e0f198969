import Mathlib.Data.List.Induction
import Colony.Proofs.Chronicle.Leaderboard
import Colony.Proofs.Chronicle.Telling
import Colony.Scalar.Amount

/-!
# Sizes below one

A ring and a board that have to be cut are cut to their size as it is given,
although they are only cut when they hold more than one entry.  So with a size
of zero or less the cut takes a board to nothing or a ring nowhere at all, and
each such size behaves in its own way; of them, only minus one does what one
does.
-/

namespace Colony

variable {ε : Type}

/-! ## Rings -/

namespace Ring

def filled (size : Int) (es : List ε) : Ring ε := es.foldl (fun r e => r.push size e) {}

end Ring

/-! ## Leaderboards -/

variable {α : Type} [Scalar α]

namespace Leaderboard

def added (size : Int) (es : List (Standing α)) : Leaderboard α :=
  es.foldl (fun board e => board.add size e) []

section Added

variable {size : Int} {board : Leaderboard α}

theorem added_concat (size : Int) (es : List (Standing α)) (e : Standing α) :
    added size (es ++ [e]) = (added size es).add size e := by
  rw [added, List.foldl_append]
  rfl

theorem length_place (e : Standing α) (board : Leaderboard α) :
    (board.place e).length = (board.without e.key).length + 1 := by
  rw [place, length_sort, List.length_append, List.length_singleton]

end Added

end Leaderboard

end Colony

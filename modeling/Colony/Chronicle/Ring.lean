import Colony.Value.Integer

/-!
# The ring of recent entries

A ring keeps the newest entries, oldest first, and counts all that were ever
pushed.  A size above zero keeps that many entries once there are more of
them.  At size zero nothing is ever dropped, and a size below zero drops that
many of the oldest entries, each time there are at least two.
-/

namespace Colony

structure Ring (ε : Type) where
  kept : List ε := []
  total : Nat := 0
  deriving Inhabited

namespace Ring

variable {ε α : Type} [Scalar α]

def newest (size : Int) (xs : List ε) : List ε :=
  if 0 < size then xs.drop (xs.length - size.toNat) else xs.drop (-size).toNat

def append (e : ε) (r : Ring ε) : Ring ε := ⟨r.kept ++ [e], r.total + 1⟩

def cut (size : Int) (r : Ring ε) : Ring ε :=
  if max 1 size < r.kept.length then { r with kept := newest size r.kept } else r

def push (size : Int) (e : ε) (r : Ring ε) : Ring ε := (r.append e).cut size

/-- Pushes under a size that has yet to be read; the entry stays also if that fails. -/
def pushSized (size : Value α) (e : ε) (r : Ring ε) : Answer α Unit × Ring ε :=
  match size.toInt with
  | .ok n => (.ok (), r.push n e)
  | .error failure => (.error failure, r.append e)

theorem total_cut (size : Int) (r : Ring ε) : (r.cut size).total = r.total := by
  unfold cut
  split <;> rfl

theorem total_push (size : Int) (e : ε) (r : Ring ε) : (r.push size e).total = r.total + 1 :=
  total_cut size (r.append e)

/-- A size of at least one keeps that many of the newest entries, or all if there are fewer. -/
theorem kept_cut {size : Int} (positive : 0 < size) (r : Ring ε) :
    (r.cut size).kept = r.kept.drop (r.kept.length - size.toNat) := by
  unfold cut
  split
  · simp [newest, positive]
  · rename_i short
    have fits : r.kept.length - size.toNat = 0 := by omega
    rw [fits, List.drop_zero]

end Ring

end Colony

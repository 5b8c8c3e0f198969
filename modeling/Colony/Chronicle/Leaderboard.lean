import Colony.Sorting
import Colony.Value.Entries
import Colony.Value.Integer

/-!
# Leaderboards

A leaderboard lists the highest scores first, equal ones in the order of
their keys, and has one entry for each key: a later score replaces an earlier
one, higher or not.  A size of at least one bounds the list.  A size of zero
or less first allows one entry; when there are more, zero keeps none of them
and a negative size drops that many from the end.
-/

namespace Colony

structure Standing (α : Type) where
  key : String
  score : α
  payload : List (Value α × Value α) := []

/-- A bid for a standing, its score and its payload still to be read. -/
structure Bid (α : Type) where
  key : String
  score : α
  payload : Value α := .null

/-- The standing that a bid asks for, its score among fractions; the score is read first. -/
def Bid.standing {α : Type} [Scalar α] (b : Bid α) : Answer α (Standing α) := do
  let score ← Scalar.checked (Scalar.rounded b.score)
  let payload ← b.payload.toEntries
  return ⟨b.key, score, payload⟩

abbrev Leaderboard (α : Type) := List (Standing α)

namespace Leaderboard

variable {α : Type} [Scalar α]

def ahead (e f : Standing α) : Bool :=
  decide (f.score < e.score) || (!decide (e.score < f.score) && textBefore e.key f.key)

def without (key : String) (board : Leaderboard α) : Leaderboard α :=
  board.filter (·.key != key)

/-- Puts a standing in its place, in exchange for an earlier one of its key. -/
def place (e : Standing α) (board : Leaderboard α) : Leaderboard α :=
  sort ahead (board.without e.key ++ [e])

def best (size : Int) (board : Leaderboard α) : Leaderboard α :=
  if 0 ≤ size then board.take size.toNat else board.take (board.length - (-size).toNat)

def cut (size : Int) (board : Leaderboard α) : Leaderboard α :=
  if max 1 size < board.length then best size board else board

def add (size : Int) (e : Standing α) (board : Leaderboard α) : Leaderboard α :=
  cut size (place e board)

/-- Adds under a size that has yet to be read; the standing stays also if that fails. -/
def addSized (size : Value α) (e : Standing α) (board : Leaderboard α) :
    Answer α Unit × Leaderboard α :=
  match size.toInt with
  | .ok n => (.ok (), board.add n e)
  | .error failure => (.error failure, board.place e)

/-- Adds what a bid asks for.  If that cannot be read, the key of the bid has no standing left. -/
def addBid (size : Value α) (bid : Bid α) (board : Leaderboard α) :
    Answer α Unit × Leaderboard α :=
  match bid.standing with
  | .ok e => board.addSized size e
  | .error failure => (.error failure, board.without bid.key)

end Leaderboard

end Colony

import Colony.Chronicle.Severity

/-!
# Notes

What an operation has to tell a chronicle is gathered in notes, in the order in
which they are written.  Whoever holds a chronicle can write them there at the
end; the live form of an operation writes each as it comes to it.
-/

namespace Colony

/-- The subject of events that concern no single person. -/
def systemId : String := "system"

structure Draft (α : Type) where
  kind : String
  severity : Severity := .info
  npcId : Value α := .text systemId
  tick : Int := 0
  payload : List (Points × Value α) := []

inductive Note (α : Type) where
  | count (name : String)
  | gauge (name : String) (value : Value α)
  | event (draft : Draft α)
  | rank (board key : String) (score : α) (payload : List (Value α × Value α))

end Colony

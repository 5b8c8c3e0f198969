import Colony.Chance.Streams

/-!
# Sources of rolls

A roll comes from a stream, or from a list of values of which the last
repeats for ever.
-/

namespace Colony.Chance

/-- At least one value, to be given out in turn. -/
structure Listed (α : Type) where
  head : α
  rest : List α

def Listed.next {α : Type} (l : Listed α) : Listed α :=
  match l.rest with
  | [] => l
  | value :: rest => ⟨value, rest⟩

inductive Origin (α : Type) where
  | stream (streams : Streams) (name : Points) (scope : Scope α)
  | listed (values : Listed α)

structure Source (α : Type) where
  origin : Origin α
  asked : Nat := 0

variable {α : Type} [Scalar α]

def Origin.roll : Origin α → Outcome (Origin α) α α
  | .stream streams name scope =>
      (streams.draw name scope).within (.stream · name scope)
  | .listed values => .done values.head (.listed values.next)

def Source.roll (s : Source α) : Outcome (Source α) α α :=
  s.origin.roll.within fun origin => ⟨origin, s.asked + 1⟩

end Colony.Chance

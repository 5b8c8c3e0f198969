import Colony.Value.Text

/-!
# Failures

Every way in which an operation of the colony can fail, as its cause.
`message` words the causes that the colony itself names; a value that cannot
be converted has a cause but no wording of its own.  A cause stands for itself
also where its message would hold a whole number too long to be written.
-/

namespace Colony

inductive Failure (α : Type) where
  | npcNotFound (id : String)
  | unknownRole (given : Value α)
  | heartInactive
  | tooFewParticipants (required : Value α) (provided : Nat)
  | keyWithoutParts
  | keyWithoutField (key : String)
  | unknownSection (name : String)
  | unknownField (owner name : String)
  | notAnAssignment (given : String)
  /-- A value of a kind that the operation does not take. -/
  | wrongKind
  /-- A value of the right kind that denotes nothing, or a number too long to be written. -/
  | badValue
  /-- A text with half of a surrogate pair inside where bytes are needed. -/
  | unencodable
  /-- A whole number too large for fractions, or an infinite value where whole ones are needed. -/
  | overflow
  deriving Inhabited

namespace Failure

variable {α : Type} [Scalar α]

def message : Failure α → Option String
  | .npcNotFound id => some ("NPC " ++ Text.quoted id ++ " not found")
  | .unknownRole given => given.written?.map ("Unknown NPC role: " ++ ·)
  | .heartInactive => some "cannot cleanse: Plague Heart is not active"
  | .tooFewParticipants required provided =>
      required.written?.map fun least =>
        "cannot cleanse: insufficient participants (minimum " ++ least ++
          " warriors/guards required, got " ++ toString provided ++ ")"
  | .keyWithoutField key => some ("Config key '" ++ key ++ "' must be of the form section.field")
  | .unknownSection name => some ("Config 'EngineConfig' has no section '" ++ name ++ "'")
  | .unknownField owner name => some ("Config '" ++ owner ++ "' has no field '" ++ name ++ "'")
  | .notAnAssignment given =>
      some ("Overrides must be of the form key=value, received '" ++ given ++ "'")
  | .keyWithoutParts => none
  | .wrongKind => none
  | .badValue => none
  | .unencodable => none
  | .overflow => none

end Failure

abbrev Answer (α β : Type) := Except (Failure α) β

namespace Scalar

variable {α : Type} [Scalar α]

/-- A result of arithmetic, unless it overflowed. -/
def checked (x : α) : Answer α α := if overflown x then .error .overflow else .ok x

/-- Confines a value to the range from 0 to 1, unless it overflows on the way. -/
def confined (x : α) : Answer α α := (checked (rounded x)).map (clamp 0 1)

theorem checked_eq_ok_iff {x y : α} : checked x = .ok y ↔ overflown x = false ∧ x = y := by
  unfold checked
  cases overflown x <;> simp

theorem checked_eq_error_iff {x : α} {failure : Failure α} :
    checked x = .error failure ↔ overflown x = true ∧ failure = .overflow := by
  unfold checked
  cases overflown x <;> simp [eq_comm]

theorem confined_eq_ok_iff {x y : α} :
    confined x = .ok y ↔ overflown (rounded x) = false ∧ unit x = y := by
  unfold confined checked
  cases overflown (rounded x) <;> simp [Except.map, unit]

theorem confined_eq_error_iff {x : α} {failure : Failure α} :
    confined x = .error failure ↔ overflown (rounded x) = true ∧ failure = .overflow := by
  unfold confined checked
  cases overflown (rounded x) <;> simp [Except.map, eq_comm]

end Scalar

end Colony

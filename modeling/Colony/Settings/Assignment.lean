import Colony.Settings.Override
import Colony.Text.Blank
import Colony.Text.Lower

/-!
# Assignments

Overrides may be written as texts of the form `key=value`.  The value is read
as a whole number, else as a numeral, else as a truth value, and stays a text
where it is none of these.
-/

namespace Colony.Settings

variable {α : Type} [Scalar α]

def readValue (raw : String) : Value α :=
  match Decimal.readInteger? raw.toList with
  | some n => .int n
  | none =>
      match Decimal.readNumeral? raw.toList with
      | some numeral => .num (Scalar.ofNumeral numeral)
      | none =>
          let word := Text.lower raw
          if word = "true" then .bool true
          else if word = "false" then .bool false
          else .text raw

def readAssignment (pair : String) : Answer α (String × Value α) :=
  match Text.splitFirst? '=' pair.toList with
  | some (key, raw) =>
      .ok (Text.trim (String.ofList key), readValue (Text.trim (String.ofList raw)))
  | none => .error (.notAnAssignment pair)

/-- Reads assignments in turn.  A repeated key keeps its place and takes the last value. -/
def readAssignments (pairs : List String) : Answer α (List (String × Value α)) :=
  (pairs.mapM readAssignment).map Table.ofList

def assignAll (pairs : List String) (s : Settings α) : Outcome (Settings α) α Unit :=
  match readAssignments pairs with
  | .ok overrides => s.overrideAll overrides
  | .error failure => .fail failure s

end Colony.Settings

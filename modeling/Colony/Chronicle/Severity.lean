import Colony.Value.Integer

/-!
# Severity of events
-/

namespace Colony

inductive Severity where
  | info
  | warning
  | critical
  | catastrophic
  deriving DecidableEq, Repr, Inhabited

namespace Severity

def all : List Severity := [info, warning, critical, catastrophic]

def level : Severity → Nat
  | info => 1
  | warning => 2
  | critical => 3
  | catastrophic => 4

def name : Severity → String
  | info => "INFO"
  | warning => "WARNING"
  | critical => "CRITICAL"
  | catastrophic => "CATASTROPHIC"

variable {α : Type} [Scalar α]

def ofIntensity (intensity : α) : Severity :=
  if 0.9 ≤ intensity then catastrophic
  else if 0.7 ≤ intensity then critical
  else if 0.4 ≤ intensity then warning
  else info

/-- The severity whose level a value equals, as a number of whichever kind. -/
def ofValue (v : Value α) : Answer α Severity :=
  (all.find? fun s => Value.sameNumber v (.int s.level)).elim (.error .badValue) .ok

end Severity

end Colony

import Colony.Failure
import Colony.Text.Blank
import Colony.Text.Lower

/-!
# Roles

Each NPC has one of three roles.  A role is read from a text in any case,
with blanks around it.
-/

namespace Colony

inductive Role where
  | worker
  | warrior
  | guard
  deriving DecidableEq, Repr, Inhabited

namespace Role

def name : Role → String
  | worker => "worker"
  | warrior => "warrior"
  | guard => "guard"

def all : List Role := [worker, warrior, guard]

/-- The roles that join a cleansing, in the order in which they line up. -/
def combat : List Role := [warrior, guard]

def ofText? (s : String) : Option Role :=
  let word := Text.lower (Text.trim s)
  all.find? fun role => role.name == word

variable {α : Type}

def ofValue? : Value α → Option Role
  | .text s => ofText? s
  | _ => none

def ofValue (v : Value α) : Answer α Role := (ofValue? v).elim (.error (.unknownRole v)) .ok

theorem ofValue_eq_ok_iff {v : Value α} {role : Role} :
    ofValue v = .ok role ↔ ofValue? v = some role := by
  unfold ofValue
  cases ofValue? v <;> simp

theorem ofValue_eq_error_iff {v : Value α} {failure : Failure α} :
    ofValue v = .error failure ↔ ofValue? v = none ∧ failure = .unknownRole v := by
  unfold ofValue
  cases ofValue? v <;> simp [eq_comm]

end Role

end Colony

import Colony.Cleansing.Party
import Colony.Outcome

/-!
# Cleansing operations

An operation needs an awake Plague Heart and enough participants.  Then one
roll decides: the party succeeds if the roll does not exceed its success rate.
-/

namespace Colony.Cleansing

structure Verdict (α : Type) where
  success : Bool
  rate : α
  participants : List String
  rolled : α
  factors : Factors α

variable {σ α : Type} [Scalar α]

/-- The conditions for a roll; the heart is looked at first. -/
def allow (c : Config α) (party : List (Participant α)) (heart : Bool) : Answer α Unit :=
  if heart then do
    if ← c.minParticipants.exceeds party.length then
      .error (.tooFewParticipants c.minParticipants party.length)
    else .ok ()
  else .error .heartInactive

def chance (c : Config α) (party : List (Participant α)) (heart : Bool) :
    Answer α (α × Factors α) := do
  allow c party heart
  weigh c party

def resolve (party : List (Participant α)) (rate : α) (parts : Factors α) (rolled : α) :
    Verdict α :=
  { success := rolled ≤ rate
    rate := rate
    participants := party.map (·.npcId)
    rolled := rolled
    factors := parts }

def attempts : String := "cleansing.attempts"

def successes : String := "cleansing.successes"

def resolution (v : Verdict α) : Draft α :=
  { kind := "CLEANSING_RESOLVED"
    severity := if v.success then .info else .warning
    payload :=
      [("success", .bool v.success),
       ("success_rate", .num v.rate),
       ("rolled_value", .num v.rolled),
       ("participants", .list (v.participants.map .text))] }

def verdictNotes (v : Verdict α) : List (Note α) :=
  [.count attempts] ++ (if v.success then [.count successes] else []) ++ [.event (resolution v)]

def execute (c : Config α) (party : List (Participant α)) (heart : Bool)
    (roll : σ → Outcome σ α α) (s : σ) : Outcome σ α (Verdict α) :=
  (Outcome.of (chance c party heart) s).andThen fun chance s =>
    (roll s).andThen fun rolled next =>
      let verdict := resolve party chance.1 chance.2 rolled
      { answer := .ok verdict, notes := verdictNotes verdict, state := next }

end Colony.Cleansing

import Colony.Failure

/-!
# The chance of a cleansing party

A party succeeds or fails as a whole.  Its success rate starts from a base,
grows with the mean morale and the mean confidence of its members, falls with
their mean trauma, and stays within a range; every figure of a member counts
between 0 and 1.  An empty party has the least rate.  Only a figure, a weight
or a base too large to calculate with leaves a party without a rate.
-/

namespace Colony.Cleansing

structure Config (α : Type) where
  base : α
  moraleWeight : α
  traumaWeight : α
  confidenceWeight : α
  leastRate : α
  greatestRate : α
  minParticipants : Value α

structure Participant (α : Type) where
  npcId : String
  role : String
  trauma : α
  morale : α
  confidence : α

structure Factors (α : Type) where
  base : α
  meanMorale : α
  moraleShare : α
  meanTrauma : α
  traumaPenalty : α
  meanConfidence : α
  confidenceShare : α

variable {α : Type} [Scalar α]

/-- A warrior without trauma, halfway in morale and confidence. -/
def Participant.fresh (id : String) : Participant α := ⟨id, "warrior", 0, 0.5, 0.5⟩

/-- The mean of a figure, each confined to the range from 0 to 1. -/
def mean (figure : Participant α → α) (party : List (Participant α)) : Answer α α :=
  (party.mapM fun p => Scalar.confined (figure p)).map Scalar.mean

def factors (c : Config α) (party : List (Participant α)) : Answer α (Factors α) :=
  if party.isEmpty then .ok ⟨c.base, 0, 0, 0, 0, 0, 0⟩
  else do
    let morale ← mean (·.morale) party
    let trauma ← mean (·.trauma) party
    let confidence ← mean (·.confidence) party
    return {
      base := c.base
      meanMorale := morale
      moraleShare := morale * c.moraleWeight
      meanTrauma := trauma
      traumaPenalty := trauma * c.traumaWeight
      meanConfidence := confidence
      confidenceShare := confidence * c.confidenceWeight }

def Factors.raw (f : Factors α) : α :=
  f.base + f.moraleShare - f.traumaPenalty + f.confidenceShare

/-- The rate that factors give; without anybody that is the least one. -/
def rateFrom (c : Config α) (party : List (Participant α)) (f : Factors α) : Answer α α :=
  if party.isEmpty then .ok c.leastRate
  else (Scalar.checked f.raw).map (Scalar.clamp c.leastRate c.greatestRate)

/-- The success rate of a party, with the factors it comes from. -/
def weigh (c : Config α) (party : List (Participant α)) : Answer α (α × Factors α) := do
  let parts ← factors c party
  let rate ← rateFrom c party parts
  return (rate, parts)

end Colony.Cleansing

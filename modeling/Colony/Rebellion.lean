import Colony.Npc.Action
import Colony.Outcome

/-!
# Readiness to rebel

The probability that an NPC rebels grows with its trauma and falls with its
efficiency and morale, each confined to the range from 0 to 1 and weighed.
Three thresholds tell whether the rebellion is considered, halts the work or
vetoes it; a threshold has to be exceeded, not just reached.  An assessment
fails only where a figure, a weight or the base is too large to calculate with.
-/

namespace Colony.Rebellion

structure Config (α : Type) where
  base : α
  traumaWeight : α
  efficiencyWeight : α
  moraleWeight : α
  considerationThreshold : α
  haltThreshold : α
  vetoThreshold : α

structure Factors (α : Type) where
  base : α
  trauma : α
  efficiency : α
  morale : α

structure Assessment (α : Type) where
  npcId : String
  probability : α
  considered : Bool
  halts : Bool
  vetoes : Bool
  factors : Factors α

variable {σ α : Type} [Scalar α]

def Factors.total (f : Factors α) : α := f.base + f.trauma + f.efficiency + f.morale

def factors (c : Config α) (p : Profile α) : Answer α (Factors α) := do
  return {
    base := c.base
    trauma := (← Scalar.confined p.trauma) * c.traumaWeight
    efficiency := (1 - (← Scalar.confined p.efficiency)) * c.efficiencyWeight
    morale := (1 - (← Scalar.confined p.morale)) * c.moraleWeight }

def assess (c : Config α) (p : Profile α) : Answer α (Assessment α) := do
  let parts ← factors c p
  let probability ← Scalar.confined parts.total
  return {
    npcId := p.npcId
    probability := probability
    considered := c.considerationThreshold < probability
    halts := c.haltThreshold < probability
    vetoes := c.vetoThreshold < probability
    factors := parts }

def boardName : String := "rebellion.highest"

def payload (a : Assessment α) : List (Value α × Value α) := [(.text "halt", .bool a.halts)]

def rankNote (a : Assessment α) : Note α := .rank boardName a.npcId a.probability (payload a)

/-- Assesses several profiles and then ranks them, unless an assessment fails. -/
def survey (c : Config α) (profiles : List (Profile α)) (s : σ) :
    Outcome σ α (List (Assessment α)) :=
  match profiles.mapM (assess c) with
  | .ok assessments => { answer := .ok assessments, notes := assessments.map rankNote, state := s }
  | .error failure => .fail failure s

end Colony.Rebellion

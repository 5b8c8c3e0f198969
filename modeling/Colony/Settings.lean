import Colony.Chronicle
import Colony.Cleansing.Party
import Colony.Economy
import Colony.Npc.Roster
import Colony.Rebellion
import Colony.Settings.Knob

/-!
# Settings

The settings of a colony are a seed and a value for every knob.  A knob takes
any value; the parts of the colony read theirs as numbers where they need
numbers.
-/

namespace Colony

structure Settings (α : Type) where
  seed : Int
  value : Settings.Knob → Value α

namespace Settings

variable {α : Type} [Scalar α]

def standard : Settings α := ⟨0, Knob.standard⟩

def set (knob : Knob) (v : Value α) (s : Settings α) : Settings α :=
  { s with value := fun other => if other = knob then v else s.value other }

omit [Scalar α] in
theorem value_set_self (knob : Knob) (v : Value α) (s : Settings α) :
    (s.set knob v).value knob = v := by
  simp [set]

omit [Scalar α] in
theorem value_set_of_ne {knob other : Knob} (ne : other ≠ knob) (v : Value α) (s : Settings α) :
    (s.set knob v).value other = s.value other := by
  simp [set, ne]

/-! ## Reading the settings -/

def scalar (s : Settings α) (knob : Knob) : Answer α α :=
  (s.value knob).scalar?.elim (.error .wrongKind) .ok

def chronicle (s : Settings α) : Chronicle.Config α :=
  { enabled := s.value .eventsEnabled
    capacity := s.value .eventCapacity
    recentLimit := s.value .recentLimit
    boardSize := s.value .boardSize }

def rebellion (s : Settings α) : Answer α (Rebellion.Config α) := do
  return {
    base := ← s.scalar .rebellionBase
    traumaWeight := ← s.scalar .rebellionTrauma
    efficiencyWeight := ← s.scalar .rebellionEfficiency
    moraleWeight := ← s.scalar .rebellionMorale
    considerationThreshold := ← s.scalar .considerationThreshold
    haltThreshold := ← s.scalar .haltThreshold
    vetoThreshold := ← s.scalar .vetoThreshold }

def plague (s : Settings α) : Answer α (Plague.Config α) := do
  return {
    growth := ← s.scalar .growthRate
    decay := ← s.scalar .decayRate
    heartThreshold := ← s.scalar .heartThreshold
    clearThreshold := ← s.scalar .clearThreshold
    throttle := ← s.scalar .throttleAmount
    rebellionTrigger := ← s.scalar .rebellionTrigger
    traumaTrigger := ← s.scalar .traumaTrigger
    warningLevel := ← s.scalar .warningLevel }

def economy (s : Settings α) : Answer α (Economy.Config α) := do
  return {
    simProduction := ← s.scalar .simProduction
    mineralPerRefinery := ← s.scalar .mineralPerRefinery
    rapidlumPerRefinery := ← s.scalar .rapidlumPerRefinery }

def cleansing (s : Settings α) : Answer α (Cleansing.Config α) := do
  return {
    base := ← s.scalar .cleansingBase
    moraleWeight := ← s.scalar .cleansingMorale
    traumaWeight := ← s.scalar .cleansingTrauma
    confidenceWeight := ← s.scalar .cleansingConfidence
    leastRate := ← s.scalar .leastRate
    greatestRate := ← s.scalar .greatestRate
    minParticipants := s.value .minParticipants }

def roster (s : Settings α) : Answer α (Roster.Defaults α) := do
  return {
    efficiency := ← s.scalar .defaultEfficiency
    morale := ← s.scalar .defaultMorale
    role := s.value .defaultRole }

end Settings

end Colony

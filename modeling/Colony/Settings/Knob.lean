import Colony.Npc.Role

/-!
# Knobs

A knob is one setting of the colony.  It is named by its section and its
field and starts at a standard value.
-/

namespace Colony.Settings

inductive Group where
  | rebellion
  | infestation
  | resources
  | cleansing
  | behavior
  | telemetry
  | rng
  deriving DecidableEq, Repr, Inhabited

namespace Group

def all : List Group :=
  [rebellion, infestation, resources, cleansing, behavior, telemetry, rng]

def name : Group → String
  | rebellion => "rebellion"
  | infestation => "infestation"
  | resources => "resources"
  | cleansing => "cleansing"
  | behavior => "behavior"
  | telemetry => "telemetry"
  | rng => "rng"

/-- How messages call the settings of a group. -/
def title : Group → String
  | rebellion => "RebellionConfig"
  | infestation => "InfestationConfig"
  | resources => "ResourceConfig"
  | cleansing => "CleansingConfig"
  | behavior => "BehaviorConfig"
  | telemetry => "TelemetryConfig"
  | rng => "RNGConfig"

def ofName? (name : String) : Option Group := all.find? (·.name == name)

end Group

inductive Knob where
  | rebellionBase
  | rebellionTrauma
  | rebellionEfficiency
  | rebellionMorale
  | considerationThreshold
  | haltThreshold
  | vetoThreshold
  | growthRate
  | decayRate
  | heartThreshold
  | clearThreshold
  | throttleAmount
  | rebellionTrigger
  | traumaTrigger
  | warningLevel
  | simProduction
  | mineralPerRefinery
  | rapidlumPerRefinery
  | cleansingBase
  | cleansingMorale
  | cleansingTrauma
  | cleansingConfidence
  | leastRate
  | greatestRate
  | minParticipants
  | defaultEfficiency
  | defaultMorale
  | defaultRole
  | eventsEnabled
  | eventCapacity
  | recentLimit
  | boardSize
  | salt
  deriving DecidableEq, Repr, Inhabited

namespace Knob

def inGroup : Group → List Knob
  | .rebellion =>
      [rebellionBase, rebellionTrauma, rebellionEfficiency, rebellionMorale,
       considerationThreshold, haltThreshold, vetoThreshold]
  | .infestation =>
      [growthRate, decayRate, heartThreshold, clearThreshold,
       throttleAmount, rebellionTrigger, traumaTrigger, warningLevel]
  | .resources =>
      [simProduction, mineralPerRefinery, rapidlumPerRefinery]
  | .cleansing =>
      [cleansingBase, cleansingMorale, cleansingTrauma, cleansingConfidence,
       leastRate, greatestRate, minParticipants]
  | .behavior =>
      [defaultEfficiency, defaultMorale, defaultRole]
  | .telemetry =>
      [eventsEnabled, eventCapacity, recentLimit, boardSize]
  | .rng =>
      [salt]

def field : Knob → String
  | rebellionBase => "base_probability"
  | rebellionTrauma => "trauma_weight"
  | rebellionEfficiency => "efficiency_weight"
  | rebellionMorale => "morale_weight"
  | considerationThreshold => "consideration_threshold"
  | haltThreshold => "halt_threshold"
  | vetoThreshold => "veto_threshold"
  | growthRate => "accumulation_rate"
  | decayRate => "decay_rate"
  | heartThreshold => "plague_heart_threshold"
  | clearThreshold => "clear_threshold"
  | throttleAmount => "throttle_amount"
  | rebellionTrigger => "rebellion_trigger"
  | traumaTrigger => "trauma_trigger"
  | warningLevel => "warning_level"
  | simProduction => "base_sim_production"
  | mineralPerRefinery => "refinery_mineral_consumption"
  | rapidlumPerRefinery => "refinery_rapidlum_production"
  | cleansingBase => "base_success_rate"
  | cleansingMorale => "morale_weight"
  | cleansingTrauma => "trauma_penalty_weight"
  | cleansingConfidence => "confidence_weight"
  | leastRate => "min_success_rate"
  | greatestRate => "max_success_rate"
  | minParticipants => "min_participants"
  | defaultEfficiency => "default_work_efficiency"
  | defaultMorale => "default_morale"
  | defaultRole => "default_role"
  | eventsEnabled => "enabled"
  | eventCapacity => "capacity"
  | recentLimit => "default_recent_limit"
  | boardSize => "topk"
  | salt => "salt"

def ofField? (group : Group) (field : String) : Option Knob :=
  (inGroup group).find? (·.field == field)

def standard {α : Type} [Scalar α] : Knob → Value α
  | rebellionBase => .num 0.05
  | rebellionTrauma => .num 0.30
  | rebellionEfficiency => .num 0.30
  | rebellionMorale => .num 0.20
  | considerationThreshold => .num 0.20
  | haltThreshold => .num 0.35
  | vetoThreshold => .num 0.80
  | growthRate => .num 2.0
  | decayRate => .num 1.0
  | heartThreshold => .num 100.0
  | clearThreshold => .num 75.0
  | throttleAmount => .num 0.50
  | rebellionTrigger => .num 0.35
  | traumaTrigger => .num 0.40
  | warningLevel => .num 50.0
  | simProduction => .num 1.0
  | mineralPerRefinery => .num 10.0
  | rapidlumPerRefinery => .num 5.0
  | cleansingBase => .num 0.50
  | cleansingMorale => .num 0.25
  | cleansingTrauma => .num 0.30
  | cleansingConfidence => .num 0.15
  | leastRate => .num 0.20
  | greatestRate => .num 0.85
  | minParticipants => .int 2
  | defaultEfficiency => .num 0.5
  | defaultMorale => .num 0.5
  | defaultRole => .text Role.worker.name
  | eventsEnabled => .bool true
  | eventCapacity => .int 500
  | recentLimit => .int 50
  | boardSize => .int 10
  | salt => .text "epoch-rng-v1"

end Knob

end Colony.Settings

import Colony.World

/-!
# The population as a whole

A refresh assesses everybody and hands the mean readiness to rebel to the
economy.  Advancing the world refreshes once and then ticks the economy with
the mean trauma.
-/

namespace Colony.World

variable {α : Type} [Scalar α]

def survey (w : World α) : Outcome (World α) α (List (Rebellion.Assessment α)) :=
  Rebellion.survey w.rebellion (w.roster.npcs.map w.profileOf) w

/-- The mean probability of rebellion and the mean trauma; without anybody both are zero. -/
def figures (assessments : List (Rebellion.Assessment α)) (w : World α) : α × α :=
  if w.roster.npcs.isEmpty then (0, 0)
  else
    (Scalar.mean (assessments.map (·.probability)),
     Scalar.mean (w.roster.npcs.map fun npc => w.traumaOf npc.id))

/-- Tells the economy the figures of the population, unless an assessment fails. -/
def refresh (w : World α) : Outcome (World α) α (α × α) :=
  w.survey.andThen fun assessments next =>
    let figures := next.figures assessments
    (next.onEconomy (·.setPopulation figures.1 (.int next.roster.npcs.length))).andThen
      fun _ told => .done figures told

def advance (times : Value α) (w : World α) : Outcome (World α) α (Economy.Status α) :=
  w.refresh.andThen fun figures next => next.onEconomy (·.advance times (some figures.2))

end Colony.World

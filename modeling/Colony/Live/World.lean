import Colony.Live.Engines
import Colony.World.Deed
import Colony.World.Deployment
import Colony.World.Population

/-!
# The world live

The world and its engines write to one chronicle.
-/

namespace Colony.World

open Live (act answer subject event onlyIf)

variable {α β : Type} [Scalar α]

def onEconomyLive (op : Live (Economy α) α β) : Live (World α) α β :=
  op.within (·.economy) (fun economy w => { w with economy := economy }) fun _ => true

def applyLive (npc : Npc α) (deed : Deed α) (effect : Deed.Effect α) :
    Live (World α) α (Deed.Effect α) := do
  act fun w => w.store npc effect.profile
  let stored ← subject
  onlyIf effect.after.halts
    (event (rebellionTriggered deed stored.economy.status.tickCount effect.after))
  return effect

def performLive (deed : Deed α) : Live (World α) α (Deed.Effect α) := do
  let npc ← act (onRoster (·.register deed.npcId))
  let w ← subject
  let effect ← answer (w.effectOn npc deed)
  if deed.dryRun then return effect else applyLive npc deed effect

def refreshLive : Live (World α) α (α × α) := do
  let w ← subject
  let assessments ← Rebellion.surveyLive w.rebellion (w.roster.npcs.map w.profileOf)
  let figures := w.figures assessments
  act (onEconomy (·.setPopulation figures.1 (.int w.roster.npcs.length)))
  return figures

def advanceLive (times : Value α) : Live (World α) α (Economy.Status α) := do
  let figures ← refreshLive
  onEconomyLive (Economy.advanceLive times (some figures.2))

/-- The next roll of a script, before which it may have the plague cleansed. -/
def readLive (script : Script α) : Live (World α) α α := do
  onlyIf script.cleanseFirst (onEconomyLive Economy.cleanseLive)
  act (readRoll script)

def rollLive : Live (World α) α α := do
  let w ← subject
  w.script.elim (act drawRoll) readLive

def deployLive (given : Option (List (Cleansing.Participant α))) :
    Live (World α) α (Cleansing.Verdict α) := do
  let w ← subject
  if w.economy.plague.heart then
    let verdict ← Cleansing.executeLive w.cleansing (given.getD w.party) true rollLive
    let rolled ← subject
    onlyIf (verdict.success && rolled.economy.plague.heart) (onEconomyLive Economy.cleanseLive)
    return verdict
  else answer (.error .heartInactive)

end Colony.World

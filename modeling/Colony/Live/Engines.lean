import Colony.Cleansing.Operation
import Colony.Economy
import Colony.Live
import Colony.Rebellion

/-!
# The engines live

The operations of the engines, each writing to the chronicle where it has
something to tell.  The economy hands its own chronicle on to its plague,
unless the plague came with none.
-/

namespace Colony

open Live (act answer subject count gauge event rank onlyIf each)

variable {σ α : Type} [Scalar α]

/-! ## The plague -/

namespace Plague

def tellHeart (c : Config α) (r : TickReport α) (tick : Int) : Live σ α Unit :=
  if r.heart then do
    count activations
    event (awakeningEvent c r tick)
  else event (clearingEvent c r tick)

def tellTick (c : Config α) (r : TickReport α) (tick : Int) : Live σ α Unit := do
  gauge counterGauge (.num r.after)
  gauge throttleGauge (.num (throttleFor c r.heart))
  onlyIf (r.before ≤ c.warningLevel ∧ c.warningLevel < r.after) (event (warningEvent r tick))
  onlyIf r.heartChanged (tellHeart c r tick)

def tickLive (c : Config α) (rebellion trauma : α) (number : Value α) :
    Live (State α) α (TickReport α) := do
  let r ← act (move c rebellion trauma)
  let n ← answer number.toInt
  Live.modify (·.numbered n)
  tellTick c r n
  return r

def cleanseLive : Live (State α) α Unit := do
  let before ← subject
  if before.heart then
    Live.modify cleansed
    gauge counterGauge (.num 0)
    gauge throttleGauge (.num 1)
    event (cleansingEvent before)
  else answer (.error .heartInactive)

end Plague

/-! ## Readiness to rebel -/

namespace Rebellion

def surveyLive (c : Config α) (profiles : List (Profile α)) : Live σ α (List (Assessment α)) := do
  let assessments ← answer (profiles.mapM (assess c))
  each (fun a => rank boardName ⟨a.npcId, a.probability, .dict (payload a)⟩) assessments
  return assessments

end Rebellion

/-! ## Cleansing -/

namespace Cleansing

def tellVerdict (v : Verdict α) : Live σ α Unit := do
  count attempts
  onlyIf v.success (count successes)
  event (resolution v)

def executeLive (c : Config α) (party : List (Participant α)) (heart : Bool) (roll : Live σ α α) :
    Live σ α (Verdict α) := do
  let chance ← answer (chance c party heart)
  let rolled ← roll
  let verdict := resolve party chance.1 chance.2 rolled
  tellVerdict verdict
  return verdict

end Cleansing

/-! ## The economy -/

namespace Economy

def onPlagueLive {β : Type} (op : Live (Plague.State α) α β) : Live (Economy α) α β :=
  op.within (·.plague) (fun plague e => { e with plague := plague }) (·.plagueHeard)

def tickPlagueLive (rebellion trauma : α) (number : Value α) :
    Live (Economy α) α (Plague.TickReport α) := do
  let e ← subject
  onPlagueLive (Plague.tickLive e.plagueConfig rebellion trauma number)

def cleanseLive : Live (Economy α) α Unit := onPlagueLive Plague.cleanseLive

def tellStatus (s : Status α) : Live σ α Unit := do
  count tickCounter
  each (fun r => gauge (stockGauge r) (.num (s.stocks.get r).quantity)) Resource.all

def concludeLive : Live (Economy α) α (Status α) := do
  Live.modify counted
  let done ← subject
  tellStatus done.status
  return done.status

def settleLive : Live (Economy α) α (Status α) := do
  Live.modify withPlague
  act fun e => e.onStocks (Stocks.tick (effectiveThrottle e.plague.throttle))
  concludeLive

def tickLive (trauma : Option α) : Live (Economy α) α (Status α) := do
  act fun e => e.onStocks (Stocks.rate e.config e.mines e.refineries)
  let rated ← subject
  let trauma ← answer (rated.traumaFor trauma)
  let _ ← tickPlagueLive rated.status.rebellion trauma (.int (rated.status.tickCount + 1))
  settleLive

def ticksLive (trauma : Option α) : Nat → Live (Economy α) α (Status α)
  | 0 => tickLive trauma
  | more + 1 => do
      let _ ← tickLive trauma
      ticksLive trauma more

def advanceLive (times : Value α) (trauma : Option α) : Live (Economy α) α (Status α) := do
  let n ← answer times.toInt
  ticksLive trauma (n - 1).toNat

def openMineLive (yieldRate : α) : Live (Economy α) α String := do
  let e ← subject
  let mine : Mine α := ⟨e.nextNumber, yieldRate⟩
  Live.modify (·.withMine mine)
  event (mineAddedEvent mine e.status.tickCount)
  return mine.id

def openRefineryLive (efficiency : α) : Live (Economy α) α String := do
  let e ← subject
  let refinery : Refinery α := ⟨e.nextNumber, efficiency⟩
  Live.modify (·.withRefinery refinery)
  event (refineryAddedEvent refinery e.status.tickCount)
  return refinery.id

def addMineLive (yieldRate : α) : Live (Economy α) α String := do
  let yieldRate ← answer (Scalar.checked (Scalar.rounded yieldRate))
  openMineLive (Scalar.atLeast 0 yieldRate)

def addRefineryLive (efficiency : α) : Live (Economy α) α String := do
  let efficiency ← answer (Scalar.confined efficiency)
  openRefineryLive efficiency

end Economy

end Colony

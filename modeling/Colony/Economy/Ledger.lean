import Colony.Economy.Stock
import Colony.Outcome

/-!
# The ledger of one tick

Production is throttled, consumption is not.  Every stock first gains its
production.  Then the refineries draw mineral; where it runs short they draw
what there is, and keep only as much of their rapidlum as that share
yields.  No stock stays below zero.  Rates and quantities are written one
after the other; one that overflows ends the tick, and those before it stay.
-/

namespace Colony.Economy

structure Config (α : Type) where
  simProduction : α
  /-- Mineral drawn and rapidlum made by a refinery of full efficiency. -/
  mineralPerRefinery : α
  rapidlumPerRefinery : α

variable {α : Type} [Scalar α]

def mineralProduction (mines : List (Mine α)) : α := Scalar.total (mines.map (·.yieldRate))

def mineralDemand (c : Config α) (refineries : List (Refinery α)) : α :=
  Scalar.total (refineries.map fun r => r.efficiency * c.mineralPerRefinery)

def rapidlumProduction (c : Config α) (refineries : List (Refinery α)) : α :=
  Scalar.total (refineries.map fun r => r.efficiency * c.rapidlumPerRefinery)

/-- The rates as the sites give them, before any throttle. -/
def Stocks.withRates (c : Config α) (mines : List (Mine α)) (refineries : List (Refinery α))
    (s : Stocks α) : Stocks α :=
  { sim := { s.sim with production := c.simProduction }
    rapidlum := { s.rapidlum with production := rapidlumProduction c refineries }
    mineral := { s.mineral with
      production := mineralProduction mines
      consumption := mineralDemand c refineries } }

/-- Writes the rates: what the mines yield, what the refineries draw, what they make, the rest. -/
def Stocks.rate (c : Config α) (mines : List (Mine α)) (refineries : List (Refinery α))
    (s : Stocks α) : Outcome (Stocks α) α Unit :=
  let mined := { s with mineral := { s.mineral with production := mineralProduction mines } }
  let demand := mineralDemand c refineries
  if Scalar.overflown demand then .fail .overflow mined
  else if Scalar.overflown (rapidlumProduction c refineries) then
    .fail .overflow { mined with mineral := { mined.mineral with consumption := demand } }
  else .done () (s.withRates c mines refineries)

def Stocks.gain (throttle : α) (resource : Resource) (s : Stocks α) : Outcome (Stocks α) α Unit :=
  let stock := s.get resource
  let quantity := stock.quantity + stock.production * throttle
  if Scalar.overflown quantity then .fail .overflow s
  else .done () (s.set resource { stock with quantity := quantity })

def Stocks.produce (throttle : α) (s : Stocks α) : Outcome (Stocks α) α Unit :=
  (s.gain throttle .sim).andThen fun _ s =>
    (s.gain throttle .rapidlum).andThen fun _ s => s.gain throttle .mineral

/-- Draws the mineral and takes back the rapidlum that was made without any. -/
def Stocks.refine (throttle : α) (s : Stocks α) : Stocks α :=
  if s.mineral.quantity < s.mineral.consumption then
    let share := s.mineral.quantity / s.mineral.consumption
    let made := s.rapidlum.production * throttle
    { s with
      rapidlum := { s.rapidlum with quantity := s.rapidlum.quantity - made + made * share }
      mineral := { s.mineral with quantity := s.mineral.quantity - s.mineral.quantity } }
  else
    { s with
      mineral := { s.mineral with quantity := s.mineral.quantity - s.mineral.consumption } }

def Stock.floor (s : Stock α) : Stock α := if s.quantity < 0 then { s with quantity := 0 } else s

def Stocks.floor (s : Stocks α) : Stocks α := ⟨s.sim.floor, s.rapidlum.floor, s.mineral.floor⟩

def Stocks.tick (throttle : α) (s : Stocks α) : Outcome (Stocks α) α Unit :=
  (s.produce throttle).andThen fun _ s => .done () (s.refine throttle).floor

/-- A throttle of zero or less does not throttle. -/
def effectiveThrottle (throttle : α) : α := if throttle ≤ 0 then 1 else throttle

end Colony.Economy

import Colony.Economy.Ledger
import Colony.Plague

/-!
# The economy

The economy runs the stocks, the mines and refineries, and the plague that
throttles them.  Each of its ticks takes up the rates of the sites, moves the
plague and lets the stocks feel the throttle at once.
-/

namespace Colony

namespace Economy

structure Status (α : Type) where
  stocks : Stocks α
  mines : Nat
  refineries : Nat
  rebellion : α
  activeNpcs : Nat
  tickCount : Nat
  infestation : α
  heart : Bool
  throttle : α

end Economy

structure Economy (α : Type) where
  config : Economy.Config α
  plagueConfig : Plague.Config α
  /-- Whether the notes of the plague are passed on. -/
  plagueHeard : Bool
  plague : Plague.State α
  mines : List (Economy.Mine α)
  refineries : List (Economy.Refinery α)
  nextNumber : Nat
  status : Economy.Status α

namespace Economy

variable {α β : Type} [Scalar α]

def Status.fresh (c : Config α) : Status α :=
  { stocks := ⟨⟨0, c.simProduction, 0⟩, ⟨0, 0, 0⟩, ⟨0, 0, 0⟩⟩
    mines := 0
    refineries := 0
    rebellion := 0
    activeNpcs := 0
    tickCount := 0
    infestation := 0
    heart := false
    throttle := 1 }

def new (config : Config α) (plagueConfig : Plague.Config α) (plagueHeard : Bool := true) :
    Economy α :=
  { config := config
    plagueConfig := plagueConfig
    plagueHeard := plagueHeard
    plague := .fresh
    mines := []
    refineries := []
    nextNumber := 1
    status := .fresh config }

/-! ## The plague within -/

def onPlague (operation : Plague.State α → Outcome (Plague.State α) α β) (e : Economy α) :
    Outcome (Economy α) α β :=
  let outcome := operation e.plague
  { answer := outcome.answer
    notes := if e.plagueHeard then outcome.notes else []
    state := { e with plague := outcome.state } }

def tickPlague (rebellion trauma : α) (number : Value α) (e : Economy α) :
    Outcome (Economy α) α (Plague.TickReport α) :=
  e.onPlague (Plague.tickAs e.plagueConfig rebellion trauma number)

def cleanse (e : Economy α) : Outcome (Economy α) α Unit :=
  e.onPlague Plague.cleanse

/-! ## Ticks -/

/-- Without a figure for the trauma, whoever does not rebel counts as traumatised. -/
def traumaFor (given : Option α) (e : Economy α) : Answer α α :=
  match given with
  | some trauma => Scalar.confined trauma
  | none => .ok (1 - e.status.rebellion)

def tickCounter : String := "simulation.ticks"

def stockGauge (r : Resource) : String := "simulation." ++ r.name

def tickNotes (s : Status α) : List (Note α) :=
  .count tickCounter ::
    Resource.all.map fun r => .gauge (stockGauge r) (.num (s.stocks.get r).quantity)

def onStocks (operation : Stocks α → Outcome (Stocks α) α β) (e : Economy α) :
    Outcome (Economy α) α β :=
  (operation e.status.stocks).within fun stocks =>
    { e with status := { e.status with stocks := stocks } }

def withPlague (e : Economy α) : Economy α :=
  { e with
    status :=
      { e.status with
        infestation := e.plague.counter
        heart := e.plague.heart
        throttle := e.plague.throttle } }

def counted (e : Economy α) : Economy α :=
  { e with status := { e.status with tickCount := e.status.tickCount + 1 } }

def conclude (e : Economy α) : Outcome (Economy α) α (Status α) :=
  { answer := .ok e.counted.status, notes := tickNotes e.counted.status, state := e.counted }

/-- The stocks' part of a tick, once the plague has moved. -/
def settle (e : Economy α) : Outcome (Economy α) α (Status α) :=
  (e.withPlague.onStocks (Stocks.tick (effectiveThrottle e.plague.throttle))).andThen
    fun _ settled => settled.conclude

/-- The part of a tick after the rates are written, with the trauma as a fraction. -/
def feel (trauma : α) (e : Economy α) : Outcome (Economy α) α (Status α) :=
  let number : Int := e.status.tickCount + 1
  (e.onPlague (Plague.tick e.plagueConfig e.status.rebellion trauma number)).andThen
    fun _ moved => moved.settle

def tick (trauma : Option α) (e : Economy α) : Outcome (Economy α) α (Status α) :=
  (e.onStocks (Stocks.rate e.config e.mines e.refineries)).andThen fun _ rated =>
    (Outcome.of (rated.traumaFor trauma) rated).andThen fun trauma rated => rated.feel trauma

/-- One tick and then as many more. -/
def ticks (trauma : Option α) : Nat → Economy α → Outcome (Economy α) α (Status α)
  | 0, e => e.tick trauma
  | more + 1, e => (e.tick trauma).andThen fun _ next => next.ticks trauma more

/-- Ticks as often as asked, at least once. -/
def advance (times : Value α) (trauma : Option α) (e : Economy α) :
    Outcome (Economy α) α (Status α) :=
  match times.toInt with
  | .ok n => e.ticks trauma (n - 1).toNat
  | .error failure => .fail failure e

/-! ## Sites and population -/

def mineAddedEvent (mine : Mine α) (tick : Nat) : Draft α :=
  { kind := "MINE_ADDED"
    tick := tick
    payload := [("mine_id", .text mine.id), ("yield_rate", .num mine.yieldRate)] }

def withMine (mine : Mine α) (e : Economy α) : Economy α :=
  { e with
    mines := e.mines ++ [mine]
    nextNumber := e.nextNumber + 1
    status := { e.status with mines := e.mines.length + 1 } }

def openMine (yieldRate : α) (e : Economy α) : Outcome (Economy α) α String :=
  let mine : Mine α := ⟨e.nextNumber, yieldRate⟩
  { answer := .ok mine.id
    notes := [.event (mineAddedEvent mine e.status.tickCount)]
    state := e.withMine mine }

def refineryAddedEvent (refinery : Refinery α) (tick : Nat) : Draft α :=
  { kind := "REFINERY_ADDED"
    tick := tick
    payload := [("refinery_id", .text refinery.id), ("efficiency", .num refinery.efficiency)] }

def withRefinery (refinery : Refinery α) (e : Economy α) : Economy α :=
  { e with
    refineries := e.refineries ++ [refinery]
    nextNumber := e.nextNumber + 1
    status := { e.status with refineries := e.refineries.length + 1 } }

def openRefinery (efficiency : α) (e : Economy α) : Outcome (Economy α) α String :=
  let refinery : Refinery α := ⟨e.nextNumber, efficiency⟩
  { answer := .ok refinery.id
    notes := [.event (refineryAddedEvent refinery e.status.tickCount)]
    state := e.withRefinery refinery }

/-- Adds a mine.  A yield below zero, or one that is no number, counts as none. -/
def addMine (yieldRate : α) (e : Economy α) : Outcome (Economy α) α String :=
  (Outcome.of (Scalar.checked (Scalar.rounded yieldRate)) e).andThen fun yieldRate e =>
    e.openMine (Scalar.atLeast 0 yieldRate)

def addRefinery (efficiency : α) (e : Economy α) : Outcome (Economy α) α String :=
  (Outcome.of (Scalar.confined efficiency) e).andThen fun efficiency e =>
    e.openRefinery efficiency

def withRebellion (rebellion : α) (e : Economy α) : Economy α :=
  { e with status := { e.status with rebellion := rebellion } }

def withNpcs (count : Nat) (e : Economy α) : Economy α :=
  { e with status := { e.status with activeNpcs := count } }

/-- Takes over the population's figures.

The probability is set before the count is read, and stays if that fails. -/
def setPopulation (rebellion : α) (npcs : Value α) (e : Economy α) : Outcome (Economy α) α Unit :=
  (Outcome.of (Scalar.confined rebellion) e).andThen fun rebellion e =>
    let set := e.withRebellion rebellion
    (Outcome.of npcs.toInt set).andThen fun n set => .done () (set.withNpcs n.toNat)

def quantity (resource : Value α) (s : Status α) : Answer α α :=
  match resource with
  | .text name =>
      (Resource.ofName? name).elim (.error .badValue) fun r => .ok (s.stocks.get r).quantity
  | _ => .error .badValue

end Economy

end Colony

import Colony.Outcome

/-!
# The plague

The plague has a counter between zero and a ceiling.  A tick raises the
counter while the population is both rebellious and traumatised, and lowers
it otherwise.  At the ceiling the Plague Heart awakens and throttles
production; it falls asleep only once the counter is below a second, lower
threshold, so that it does not flicker around a single value.
-/

namespace Colony.Plague

structure Config (α : Type) where
  growth : α
  decay : α
  /-- The ceiling of the counter, where the heart awakens. -/
  heartThreshold : α
  clearThreshold : α
  throttle : α
  rebellionTrigger : α
  traumaTrigger : α
  warningLevel : α

structure State (α : Type) where
  counter : α
  heart : Bool
  throttle : α
  lastTick : Int

structure TickReport (α : Type) where
  before : α
  after : α
  grew : Bool
  heartChanged : Bool
  heart : Bool

variable {α : Type} [Scalar α]

def State.fresh : State α := ⟨0, false, 1, 0⟩

/-! ## Ticks -/

def grows (c : Config α) (rebellion trauma : α) : Bool :=
  decide (c.rebellionTrigger < rebellion) && decide (c.traumaTrigger < trauma)

def movedCounter (c : Config α) (grew : Bool) (counter : α) : α :=
  if grew then counter + c.growth else counter - c.decay

def nextCounter (c : Config α) (grew : Bool) (counter : α) : α :=
  Scalar.clamp 0 c.heartThreshold (movedCounter c grew counter)

def nextHeart (c : Config α) (heart : Bool) (counter : α) : Bool :=
  if heart then !decide (counter < c.clearThreshold) else decide (c.heartThreshold ≤ counter)

def throttleFor (c : Config α) (heart : Bool) : α := if heart then c.throttle else 1

/-- The state after a tick whose number is not yet noted. -/
def advance (c : Config α) (rebellion trauma : α) (s : State α) : State α :=
  let counter := nextCounter c (grows c rebellion trauma) s.counter
  let heart := nextHeart c s.heart counter
  { s with counter := counter, heart := heart, throttle := throttleFor c heart }

def report (c : Config α) (rebellion trauma : α) (s : State α) : TickReport α :=
  let next := advance c rebellion trauma s
  { before := s.counter
    after := next.counter
    grew := grows c rebellion trauma
    heartChanged := s.heart != next.heart
    heart := next.heart }

/-! ## Notes -/

def counterGauge : String := "infestation.counter"

def throttleGauge : String := "infestation.throttle"

def activations : String := "infestation.plague_heart_activations"

def warningEvent (r : TickReport α) (tick : Int) : Draft α :=
  { kind := "INFESTATION_WARNING", severity := .warning, tick := tick,
    payload := [("level", .num r.after)] }

def awakeningEvent (c : Config α) (r : TickReport α) (tick : Int) : Draft α :=
  { kind := "PLAGUE_HEART_ACTIVATED", severity := .critical, tick := tick,
    payload := [("level", .num r.after), ("throttle", .num (throttleFor c r.heart))] }

def clearingEvent (c : Config α) (r : TickReport α) (tick : Int) : Draft α :=
  { kind := "PLAGUE_HEART_CLEARED", tick := tick,
    payload := [("level", .num r.after), ("throttle", .num (throttleFor c r.heart))] }

def cleansingEvent (s : State α) : Draft α :=
  { kind := "INFESTATION_CLEANSED", tick := s.lastTick,
    payload := [("previous_level", .num s.counter)] }

def warningNotes (c : Config α) (r : TickReport α) (tick : Int) : List (Note α) :=
  if r.before ≤ c.warningLevel ∧ c.warningLevel < r.after then [.event (warningEvent r tick)]
  else []

def heartNotes (c : Config α) (r : TickReport α) (tick : Int) : List (Note α) :=
  if r.heartChanged then
    if r.heart then [.count activations, .event (awakeningEvent c r tick)]
    else [.event (clearingEvent c r tick)]
  else []

def tickNotes (c : Config α) (r : TickReport α) (tick : Int) : List (Note α) :=
  [.gauge counterGauge (.num r.after), .gauge throttleGauge (.num (throttleFor c r.heart))] ++
    warningNotes c r tick ++ heartNotes c r tick

/-! ## Operations -/

/-- The part of a tick before its number is read: counter, heart and throttle move. -/
def move (c : Config α) (rebellion trauma : α) (s : State α) :
    Outcome (State α) α (TickReport α) :=
  if Scalar.overflown (movedCounter c (grows c rebellion trauma) s.counter) then
    .fail .overflow s
  else .done (report c rebellion trauma s) (advance c rebellion trauma s)

def State.numbered (number : Int) (s : State α) : State α := { s with lastTick := number }

/-- The rest of a tick: its number is kept, and what it did is told. -/
def conclude (c : Config α) (r : TickReport α) (number : Int) (s : State α) :
    Outcome (State α) α (TickReport α) :=
  { answer := .ok r, notes := tickNotes c r number, state := s.numbered number }

def tick (c : Config α) (rebellion trauma : α) (number : Int) (s : State α) :
    Outcome (State α) α (TickReport α) :=
  (move c rebellion trauma s).andThen fun r moved => conclude c r number moved

/-- A tick whose number has yet to be read.

If that fails, the counter and the heart have moved already; the number noted
last stays, and nobody is told. -/
def tickAs (c : Config α) (rebellion trauma : α) (number : Value α) (s : State α) :
    Outcome (State α) α (TickReport α) :=
  (move c rebellion trauma s).andThen fun r moved =>
    (Outcome.of number.toInt moved).andThen fun n moved => conclude c r n moved

def cleansed (s : State α) : State α := { s with counter := 0, heart := false, throttle := 1 }

def cleanseNotes (s : State α) : List (Note α) :=
  [.gauge counterGauge (.num 0), .gauge throttleGauge (.num 1), .event (cleansingEvent s)]

def cleanse (s : State α) : Outcome (State α) α Unit :=
  if s.heart then { answer := .ok (), notes := cleanseNotes s, state := cleansed s }
  else .fail .heartInactive s

end Colony.Plague

import Colony.Proofs.Operation
import Colony.Scalar.Rational

/-!
# Ticks in exact numbers

Exact numbers do not overflow, so a tick always takes place as a whole.  Its
state is given here as one expression, and a run is taken apart into the ticks
it makes.
-/

namespace Colony.Economy

/-! ## One tick -/

section Exact

variable (c : Config Rat) (mines : List (Mine Rat)) (refineries : List (Refinery Rat))
variable (throttle : Rat) (s : Stocks Rat)

theorem Stocks.rate_rat :
    s.rate c mines refineries = .done () (s.withRates c mines refineries) := by
  simp [Stocks.rate]

def Stocks.produced : Stocks Rat :=
  { sim := { s.sim with quantity := s.sim.quantity + s.sim.production * throttle }
    rapidlum :=
      { s.rapidlum with quantity := s.rapidlum.quantity + s.rapidlum.production * throttle }
    mineral := { s.mineral with quantity := s.mineral.quantity + s.mineral.production * throttle } }

theorem Stocks.produce_rat : s.produce throttle = .done () (s.produced throttle) := by
  simp [Stocks.produce, Stocks.gain, Stocks.produced, Stocks.get, Stocks.set]

theorem Stocks.tick_rat :
    s.tick throttle = .done () ((s.produced throttle).refine throttle).floor := by
  rw [Stocks.tick, Stocks.produce_rat, Outcome.done_andThen]

theorem tick_plague_rat (config : Plague.Config Rat) (rebellion trauma : Rat) (number : Int)
    (p : Plague.State Rat) :
    Plague.tick config rebellion trauma number p =
      Plague.conclude config (Plague.report config rebellion trauma p) number
        (Plague.advance config rebellion trauma p) := by
  simp [Plague.tick, Plague.move]

end Exact

theorem addMine_rat (yieldRate : Rat) (e : Economy Rat) :
    e.addMine yieldRate = e.openMine (Scalar.atLeast 0 (Scalar.rounded yieldRate)) := rfl

theorem addRefinery_rat (efficiency : Rat) (e : Economy Rat) :
    e.addRefinery efficiency = e.openRefinery (Scalar.unit efficiency) := rfl

theorem setPopulation_rat (rebellion : Rat) (npcs : Value Rat) (e : Economy Rat) :
    e.setPopulation rebellion npcs =
      (Outcome.of npcs.toInt (e.withRebellion (Scalar.unit rebellion))).andThen fun n set =>
        .done () (set.withNpcs n.toNat) := rfl

variable (trauma : Option Rat) (e : Economy Rat)

/-- The figure for the trauma that a tick goes by. -/
def feltTrauma : Rat := trauma.elim (1 - e.status.rebellion) Scalar.unit

theorem traumaFor_rat : e.traumaFor trauma = .ok (e.feltTrauma trauma) := by
  cases trauma <;> rfl

def nextPlague : Plague.State Rat :=
  { Plague.advance e.plagueConfig e.status.rebellion (e.feltTrauma trauma) e.plague with
    lastTick := e.status.tickCount + 1 }

def nextStocks (throttle : Rat) : Stocks Rat :=
  (((e.status.stocks.withRates e.config e.mines e.refineries).produced throttle).refine
    throttle).floor

def ticked : Economy Rat :=
  let plague := e.nextPlague trauma
  { e with
    plague := plague
    status :=
      { e.status with
        stocks := e.nextStocks (effectiveThrottle plague.throttle)
        tickCount := e.status.tickCount + 1
        infestation := plague.counter
        heart := plague.heart
        throttle := plague.throttle } }

theorem tick_rat :
    ∃ notes, e.tick trauma = ⟨.ok (e.ticked trauma).status, notes, e.ticked trauma⟩ := by
  simp only [tick, onStocks, Stocks.rate_rat, Outcome.within, Outcome.done, Outcome.andThen,
    Outcome.of, traumaFor_rat, feel, onPlague, tick_plague_rat, Plague.conclude, settle,
    withPlague, Stocks.tick_rat, conclude]
  exact ⟨_, rfl⟩

theorem answer_tick : (e.tick trauma).answer = .ok (e.ticked trauma).status := by
  obtain ⟨notes, tick⟩ := e.tick_rat trauma
  rw [tick]

theorem state_tick : (e.tick trauma).state = e.ticked trauma := by
  obtain ⟨notes, tick⟩ := e.tick_rat trauma
  rw [tick]

theorem state_ticks_succ (more : Nat) :
    (e.ticks trauma (more + 1)).state = ((e.ticked trauma).ticks trauma more).state := by
  obtain ⟨notes, tick⟩ := e.tick_rat trauma
  rw [ticks, tick]
  rfl

/-! ## The ticks of a run -/

/-- A tick that was made, as the economy before and after it. -/
structure Tick (α : Type) where
  before : Economy α
  after : Economy α

variable {α : Type} [Scalar α]

/-- One tick and then as many more, up to the first that fails. -/
def ticksFrom (trauma : Option α) : Nat → Economy α → List (Tick α)
  | 0, e => [⟨e, (e.tick trauma).state⟩]
  | more + 1, e =>
      ⟨e, (e.tick trauma).state⟩ ::
        match (e.tick trauma).answer with
        | .ok _ => ticksFrom trauma more (e.tick trauma).state
        | .error _ => []

def Operation.ticks : Operation α → Economy α → List (Tick α)
  | .tick trauma, e => ticksFrom trauma 0 e
  | .advance times trauma, e =>
      match times.toInt with
      | .ok n => ticksFrom trauma (n - 1).toNat e
      | .error _ => []
  | .addMine _, _ => []
  | .addRefinery _, _ => []
  | .setPopulation _ _, _ => []
  | .cleanse, _ => []

def history : List (Operation α) → Economy α → List (Tick α)
  | [], _ => []
  | op :: ops, e => op.ticks e ++ history ops (op.perform e).state

theorem ticksFrom_zero_rat :
    ticksFrom trauma 0 e = [⟨e, e.ticked trauma⟩] := by
  rw [ticksFrom, state_tick]

theorem ticksFrom_succ_rat (more : Nat) :
    ticksFrom trauma (more + 1) e =
      ⟨e, e.ticked trauma⟩ :: ticksFrom trauma more (e.ticked trauma) := by
  rw [ticksFrom, answer_tick, state_tick]

/-- An operation makes at least one tick and nothing else, or none and keeps stocks and count. -/
theorem Operation.ticks_cases (op : Operation α) (e : Economy α) :
    (∃ trauma more, op.ticks e = ticksFrom trauma more e ∧
      (op.perform e).state = (e.ticks trauma more).state) ∨
    (op.ticks e = [] ∧ (op.perform e).state.status.stocks = e.status.stocks ∧
      (op.perform e).state.status.tickCount = e.status.tickCount) := by
  cases op with
  | addMine yieldRate =>
      refine .inr ⟨rfl, ?_⟩
      rcases addMine_cases yieldRate e with ⟨-, same⟩ | ⟨-, same⟩
      all_goals
        rw [Operation.perform, same]
        exact ⟨rfl, rfl⟩
  | addRefinery efficiency =>
      refine .inr ⟨rfl, ?_⟩
      rcases addRefinery_cases efficiency e with ⟨-, same⟩ | ⟨-, same⟩
      all_goals
        rw [Operation.perform, same]
        exact ⟨rfl, rfl⟩
  | setPopulation rebellion npcs =>
      refine .inr ⟨rfl, ?_⟩
      rcases setPopulation_cases rebellion npcs e with
        ⟨-, same⟩ | ⟨-, ⟨failure, -, same⟩ | ⟨n, -, same⟩⟩
      all_goals
        rw [Operation.perform, same]
        exact ⟨rfl, rfl⟩
  | tick trauma => exact .inl ⟨trauma, 0, rfl, rfl⟩
  | advance times trauma =>
      simp only [Operation.ticks, Operation.perform, Outcome.map, Economy.advance]
      cases times.toInt with
      | ok n => exact .inl ⟨trauma, (n - 1).toNat, rfl, rfl⟩
      | error failure => exact .inr ⟨rfl, rfl, rfl⟩
  | cleanse => exact .inr ⟨rfl, rfl, rfl⟩

theorem tickCount_ticks (more : Nat) :
    (e.ticks trauma more).state.status.tickCount =
      e.status.tickCount + (ticksFrom trauma more e).length := by
  induction more generalizing e with
  | zero =>
      rw [ticks, state_tick, ticksFrom_zero_rat]
      rfl
  | succ more ih =>
      have counted : (e.ticked trauma).status.tickCount = e.status.tickCount + 1 := rfl
      rw [state_ticks_succ, ih, ticksFrom_succ_rat, List.length_cons, counted]
      omega

/-- No tick of a run is left out of its history. -/
theorem tickCount_after (ops : List (Operation Rat)) :
    (after Operation.perform ops e).status.tickCount =
      e.status.tickCount + (history ops e).length := by
  induction ops generalizing e with
  | nil => rfl
  | cons op ops ih =>
      have rest := ih (op.perform e).state
      rw [history, List.length_append, ← Nat.add_assoc]
      rcases op.ticks_cases e with ⟨trauma, more, ticks, state⟩ | ⟨none, -, kept⟩
      · rw [ticks, ← tickCount_ticks, ← state]
        exact rest
      · rw [none, List.length_nil, Nat.add_zero, ← kept]
        exact rest

end Colony.Economy

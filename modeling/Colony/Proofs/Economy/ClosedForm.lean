import Colony.Proofs.Economy.Mining
import Colony.Proofs.Economy.Solvent

/-!
# A tick in figures

In exact numbers, what a tick leaves can be said without its stages, from the
stocks and sites before it and from the throttle that the plague sets in the
tick itself.  The mineral supplied is what was there and what the mines yield
under that throttle; the refineries ask for their full demand, and where they
get a share of it they make that share of their rapidlum.  No stock ever comes
to be floored.
-/

namespace Colony.Economy

/-! ## The figures -/

section Figures

variable (c : Config Rat) (trauma : Option Rat) (e : Economy Rat)

/-- The plague as a tick of the economy leaves it. -/
def plagueIn : Plague.State Rat :=
  (Plague.tick e.plagueConfig e.status.rebellion (e.feltTrauma trauma) (e.status.tickCount + 1)
    e.plague).state

def throttleIn : Rat := effectiveThrottle (e.plagueIn trauma).throttle

def yieldOf : Rat := (e.mines.map (·.yieldRate)).sum

def workOf : Rat := (e.refineries.map (·.efficiency)).sum

def supplyIn : Rat := e.status.stocks.mineral.quantity + e.throttleIn trauma * e.yieldOf

def demandOf : Rat := e.workOf * c.mineralPerRefinery

def shareIn : Rat :=
  if e.demandOf c ≤ e.supplyIn trauma then 1 else e.supplyIn trauma / e.demandOf c

/-- A tick in figures of the economy before it. -/
structure InFigures : Prop where
  answered : (e.tick trauma).answer = .ok (e.tick trauma).state.status
  throttle : (e.tick trauma).state.status.throttle = (e.plagueIn trauma).throttle
  mineral : (e.tick trauma).state.status.stocks.mineral.quantity =
    max 0 (e.supplyIn trauma - e.demandOf c)
  rapidlum : (e.tick trauma).state.status.stocks.rapidlum.quantity =
    e.status.stocks.rapidlum.quantity +
      e.throttleIn trauma * e.workOf * c.rapidlumPerRefinery * e.shareIn c trauma
  sim : (e.tick trauma).state.status.stocks.sim.quantity =
    e.status.stocks.sim.quantity + e.throttleIn trauma * c.simProduction
  mined : (e.tick trauma).state.status.stocks.mineral.production = e.yieldOf
  demanded : (e.tick trauma).state.status.stocks.mineral.consumption = e.demandOf c
  made : (e.tick trauma).state.status.stocks.rapidlum.production =
    e.workOf * c.rapidlumPerRefinery
  base : (e.tick trauma).state.status.stocks.sim.production = c.simProduction
  counted : (e.tick trauma).state.status.tickCount = e.status.tickCount + 1
  rapidlum_le : e.status.stocks.rapidlum.quantity ≤
    (e.tick trauma).state.status.stocks.rapidlum.quantity
  sim_le : e.status.stocks.sim.quantity ≤ (e.tick trauma).state.status.stocks.sim.quantity
  /-- The stocks are those that the refineries leave, before any is floored. -/
  unfloored : (e.tick trauma).state.status.stocks =
    (e.producing trauma).state.refine (e.throttleIn trauma)

theorem plagueIn_eq : e.plagueIn trauma = e.nextPlague trauma := by
  rw [plagueIn, tick_plague_rat]
  rfl

theorem throttleIn_pos : 0 < e.throttleIn trauma := effectiveThrottle_pos _

/-- The stocks of the economy once its rates are taken up. -/
def ratedStocks : Stocks Rat := e.status.stocks.withRates e.config e.mines e.refineries

theorem stocks_tick : (e.tick trauma).state.status.stocks =
    ((e.ratedStocks.produced (e.throttleIn trauma)).refine (e.throttleIn trauma)).floor := by
  rw [state_tick, throttleIn, plagueIn_eq]
  rfl

theorem state_producing :
    (e.producing trauma).state = e.ratedStocks.produced (e.throttleIn trauma) := by
  have moved : (e.moving trauma).state.plague = e.plagueIn trauma := by
    rw [moving, onStocks, Stocks.rate_rat]
    simp only [Outcome.within, Outcome.done, Outcome.andThen, traumaFor_rat, Outcome.of]
    rfl
  rw [producing, moved, stocks_moving, rating, Stocks.rate_rat, Stocks.produce_rat]
  rfl

end Figures

/-! ## The stocks -/

namespace Stocks

theorem sim_refined (throttle : Rat) (s : Stocks Rat) :
    ((s.produced throttle).refine throttle).sim.quantity =
      s.sim.quantity + s.sim.production * throttle := by
  unfold refine
  split <;> rfl

/-- Neither producing nor refining touches the rates. -/
theorem rates_refined (throttle : Rat) (s : Stocks Rat) :
    ((s.produced throttle).refine throttle).sim.production = s.sim.production ∧
      ((s.produced throttle).refine throttle).rapidlum.production = s.rapidlum.production ∧
      ((s.produced throttle).refine throttle).mineral.production = s.mineral.production ∧
      ((s.produced throttle).refine throttle).mineral.consumption = s.mineral.consumption := by
  unfold refine
  split <;> exact ⟨rfl, rfl, rfl, rfl⟩

theorem Rated.floor_refined {a b throttle : Rat} {s : Stocks Rat} (h : s.Rated a b)
    (positive : 0 < throttle) (sim : 0 ≤ s.sim.quantity) (base : 0 ≤ s.sim.production) :
    ((s.produced throttle).refine throttle).floor = (s.produced throttle).refine throttle := by
  have held : 0 ≤ ((s.produced throttle).refine throttle).sim.quantity := by
    rw [sim_refined]
    exact add_nonneg sim (mul_nonneg base positive.le)
  simp only [floor, Stock.floor_of_nonneg held,
    Stock.floor_of_nonneg (h.rapidlum_refined_nonneg positive),
    Stock.floor_of_nonneg (s.mineral_refined_nonneg throttle)]

end Stocks

/-! ## The rates -/

section Rates

variable {c : Config Rat} (trauma : Option Rat) {e : Economy Rat}

theorem mineral_ratedStocks (e : Economy Rat) : e.ratedStocks.mineral.production = e.yieldOf :=
  mineralProduction_rat e.mines

theorem supply_ratedStocks :
    e.ratedStocks.mineral.quantity + e.ratedStocks.mineral.production * e.throttleIn trauma =
      e.supplyIn trauma := by
  rw [mineral_ratedStocks, mul_comm]
  rfl

variable (config : e.config = c)
include config

theorem sim_ratedStocks : e.ratedStocks.sim.production = c.simProduction := by
  rw [← config]
  rfl

theorem rapidlum_ratedStocks :
    e.ratedStocks.rapidlum.production = e.workOf * c.rapidlumPerRefinery := by
  rw [← config]
  exact rapidlumProduction_rat e.config e.refineries

theorem demand_ratedStocks : e.ratedStocks.mineral.consumption = e.demandOf c := by
  rw [← config]
  exact mineralDemand_rat e.config e.refineries

theorem share_ratedStocks :
    e.ratedStocks.share (e.throttleIn trauma) = e.shareIn c trauma := by
  simp only [Stocks.share, shareIn, supply_ratedStocks, demand_ratedStocks config, ← not_le,
    ite_not]

end Rates

/-! ## Every run -/

/-- What every run keeps: sites and stocks are sound, the sim included. -/
structure Stocked (c : Config Rat) (e : Economy Rat) : Prop extends Sound c e where
  sim : 0 ≤ e.status.stocks.sim.quantity

namespace Stocked

variable {c : Config Rat} {e : Economy Rat}

theorem new (c : Config Rat) (plague : Plague.Config Rat) (heard : Bool) :
    Stocked c (Economy.new c plague heard) where
  toSound := .new c plague heard
  sim := le_refl 0

variable (mineralCost : 0 ≤ c.mineralPerRefinery) (rapidlumYield : 0 ≤ c.rapidlumPerRefinery)
include mineralCost rapidlumYield

theorem tick (h : Stocked c e) (trauma : Option Rat) : Stocked c (e.tick trauma).state where
  toSound := h.toSound.ticks mineralCost rapidlumYield trauma 0
  sim := by
    rw [stocks_tick, Stocks.sim_settled]
    exact le_max_left _ _

theorem ticks (h : Stocked c e) (trauma : Option Rat) (more : Nat) :
    Stocked c (e.ticks trauma more).state := by
  induction more generalizing e with
  | zero => exact h.tick mineralCost rapidlumYield trauma
  | succ more ih =>
      rw [state_ticks_succ, ← state_tick]
      exact ih (h.tick mineralCost rapidlumYield trauma)

theorem perform (h : Stocked c e) (call : Call Rat) : Stocked c (call.perform e).state := by
  cases call with
  | own op =>
      refine ⟨h.toSound.perform mineralCost rapidlumYield op, ?_⟩
      rcases op.ticks_cases e with ⟨trauma, more, -, state⟩ | ⟨-, kept, -⟩
      · exact state ▸ (h.ticks mineralCost rapidlumYield trauma more).sim
      · exact (congrArg (·.sim.quantity) kept).symm ▸ h.sim
  | within op =>
      exact ⟨⟨h.config, h.yields, h.efficiencies, h.mineral, h.rapidlum⟩, h.sim⟩

theorem after (h : Stocked c e) (calls : List (Call Rat)) :
    Stocked c (after Call.perform calls e) :=
  after_induction (P := Stocked c) (fun call _ kept => kept.perform mineralCost rapidlumYield call)
    calls h

theorem rated (h : Stocked c e) :
    e.ratedStocks.Rated c.mineralPerRefinery c.rapidlumPerRefinery :=
  h.toSound.rated mineralCost rapidlumYield

variable (base : 0 ≤ c.simProduction)
include base

/-- Nothing is below zero, so the stocks after a tick are those that the refineries leave. -/
theorem stocks_tick (h : Stocked c e) (trauma : Option Rat) :
    (e.tick trauma).state.status.stocks =
      (e.ratedStocks.produced (e.throttleIn trauma)).refine (e.throttleIn trauma) := by
  have produced : 0 ≤ e.ratedStocks.sim.production := by rwa [sim_ratedStocks h.config]
  rw [Economy.stocks_tick]
  exact (h.rated mineralCost rapidlumYield).floor_refined (e.throttleIn_pos trauma) h.sim produced

theorem mineral_tick (h : Stocked c e) (trauma : Option Rat) :
    (e.tick trauma).state.status.stocks.mineral.quantity =
      max 0 (e.supplyIn trauma - e.demandOf c) := by
  rw [h.stocks_tick mineralCost rapidlumYield base, Stocks.mineral_refined, Stocks.drawn,
    supply_ratedStocks, demand_ratedStocks h.config]
  rcases le_total (e.supplyIn trauma) (e.demandOf c) with short | enough
  · rw [min_eq_left short, sub_self, max_eq_left (sub_nonpos.mpr short)]
  · rw [min_eq_right enough, max_eq_right (sub_nonneg.mpr enough)]

theorem rapidlum_tick (h : Stocked c e) (trauma : Option Rat) :
    (e.tick trauma).state.status.stocks.rapidlum.quantity =
      e.status.stocks.rapidlum.quantity +
        e.throttleIn trauma * e.workOf * c.rapidlumPerRefinery * e.shareIn c trauma := by
  have stock : e.ratedStocks.rapidlum.quantity = e.status.stocks.rapidlum.quantity := rfl
  rw [h.stocks_tick mineralCost rapidlumYield base, Stocks.rapidlum_refined, stock,
    rapidlum_ratedStocks h.config, share_ratedStocks trauma h.config]
  ring

theorem sim_tick (h : Stocked c e) (trauma : Option Rat) :
    (e.tick trauma).state.status.stocks.sim.quantity =
      e.status.stocks.sim.quantity + e.throttleIn trauma * c.simProduction := by
  rw [h.stocks_tick mineralCost rapidlumYield base, Stocks.sim_refined, sim_ratedStocks h.config,
    mul_comm]
  rfl

theorem inFigures (h : Stocked c e) (trauma : Option Rat) : InFigures c trauma e := by
  have positive := e.throttleIn_pos trauma
  have stocks := h.stocks_tick mineralCost rapidlumYield base trauma
  have rapidlum := h.rapidlum_tick mineralCost rapidlumYield base trauma
  have sim := h.sim_tick mineralCost rapidlumYield base trauma
  obtain ⟨simRate, rapidlumRate, minedRate, demandRate⟩ :=
    e.ratedStocks.rates_refined (e.throttleIn trauma)
  constructor
  case answered => rw [answer_tick, state_tick]
  case throttle =>
    rw [state_tick, plagueIn_eq]
    rfl
  case mineral => exact h.mineral_tick mineralCost rapidlumYield base trauma
  case rapidlum => exact rapidlum
  case sim => exact sim
  case mined => rw [stocks, minedRate, mineral_ratedStocks]
  case demanded => rw [stocks, demandRate, demand_ratedStocks h.config]
  case made => rw [stocks, rapidlumRate, rapidlum_ratedStocks h.config]
  case base => rw [stocks, simRate, sim_ratedStocks h.config]
  case counted =>
    rw [state_tick]
    rfl
  case rapidlum_le =>
    have share := (h.rated mineralCost rapidlumYield).share_nonneg positive
    rw [share_ratedStocks trauma h.config] at share
    rw [rapidlum]
    exact le_add_of_nonneg_right
      (mul_nonneg (mul_nonneg (mul_nonneg positive.le h.sum_efficiencies_nonneg) rapidlumYield)
        share)
  case sim_le =>
    rw [sim]
    exact le_add_of_nonneg_right (mul_nonneg positive.le base)
  case unfloored => rw [stocks, state_producing]

end Stocked

/-- Whatever was done before, to the economy or to the plague it shares, a tick is given by its
figures. -/
theorem tick_in_figures (c : Config Rat) (plague : Plague.Config Rat) (heard : Bool)
    (base : 0 ≤ c.simProduction) (mineralCost : 0 ≤ c.mineralPerRefinery)
    (rapidlumYield : 0 ≤ c.rapidlumPerRefinery) (calls : List (Call Rat))
    (trauma : Option Rat) :
    InFigures c trauma (after Call.perform calls (Economy.new c plague heard)) :=
  have stocked := (Stocked.new c plague heard).after mineralCost rapidlumYield calls
  stocked.inFigures mineralCost rapidlumYield base trauma

/-- The heart awakens in a tick that is short of mineral, and the tick is throttled at once. -/
theorem tick_in_figures_awakening :
    let c : Config Rat := { simProduction := 1, mineralPerRefinery := 10, rapidlumPerRefinery := 5 }
    let plague : Plague.Config Rat :=
      { growth := 2
        decay := 1
        heartThreshold := 5
        clearThreshold := 1
        throttle := 0.5
        rebellionTrigger := 0.35
        traumaTrigger := 0.5
        warningLevel := 2 }
    let calls : List (Call Rat) :=
      [.own (.addMine 4), .own (.addRefinery 1), .own (.setPopulation 0.9 (.int 1)),
       .own (.tick (some 0.9)), .within (.tick 0.9 0.9 .null), .own (.addMine 12)]
    let e := after Call.perform calls (Economy.new c plague)
    (0 ≤ c.simProduction ∧ 0 ≤ c.mineralPerRefinery ∧ 0 ≤ c.rapidlumPerRefinery) ∧
      InFigures c (some 0.9) e ∧
      (e.throttleIn (some 0.9), e.supplyIn (some 0.9), e.shareIn c (some 0.9)) = (0.5, 8, 0.8) ∧
      e.status.stocks.rapidlum.quantity = 2 ∧
      (e.tick (some 0.9)).state.status.stocks.rapidlum.quantity = 4 := by
  intro c plague calls e
  have base : 0 ≤ c.simProduction := by decide +kernel
  have mineralCost : 0 ≤ c.mineralPerRefinery := by decide +kernel
  have rapidlumYield : 0 ≤ c.rapidlumPerRefinery := by decide +kernel
  refine ⟨⟨base, mineralCost, rapidlumYield⟩, ?_, ?_, ?_, ?_⟩
  · exact tick_in_figures c plague true base mineralCost rapidlumYield calls (some 0.9)
  · decide +kernel
  · decide +kernel
  · decide +kernel

end Colony.Economy

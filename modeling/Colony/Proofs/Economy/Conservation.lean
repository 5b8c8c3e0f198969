import Mathlib.Algebra.BigOperators.Ring.List
import Mathlib.Algebra.Order.Ring.Rat
import Mathlib.Tactic.FieldSimp
import Mathlib.Tactic.Linarith
import Mathlib.Tactic.Positivity
import Mathlib.Tactic.Ring
import Colony.Proofs.Economy.Tick
import Colony.Proofs.Rational

/-!
# Conservation of material

In exact numbers no mineral is lost and no rapidlum comes from nothing.  Each
tick makes rapidlum in proportion to the mineral it draws and to its throttle,
also where mineral runs short.  So over a whole run the rapidlum in stock is
what the ticks made of the mineral they drew, and while nothing is throttled
every unit mined is still in stock or has been refined.
-/

namespace Colony.Economy

theorem effectiveThrottle_pos (throttle : Rat) : 0 < effectiveThrottle throttle := by
  unfold effectiveThrottle
  split
  · exact one_pos
  · rename_i positive
    exact lt_of_not_ge positive

/-! ## The stocks of one tick -/

theorem Stock.floor_of_nonneg {s : Stock Rat} (nonneg : 0 ≤ s.quantity) : s.floor = s := by
  have notBelow : ¬ s.quantity < 0 := not_lt.mpr nonneg
  simp [Stock.floor, notBelow]

theorem Stock.consumption_floor (s : Stock Rat) : s.floor.consumption = s.consumption := by
  unfold Stock.floor
  split <;> rfl

theorem Stocks.consumption_refine (throttle : Rat) (s : Stocks Rat) :
    (s.refine throttle).mineral.consumption = s.mineral.consumption := by
  unfold Stocks.refine
  split <;> rfl

/-- Stocks whose rates are taken up, and that make `b` rapidlum of `a` mineral. -/
structure Stocks.Rated (a b : Rat) (s : Stocks Rat) : Prop where
  ratio : a * s.rapidlum.production = b * s.mineral.consumption
  mineral : 0 ≤ s.mineral.quantity
  mined : 0 ≤ s.mineral.production
  demand : 0 ≤ s.mineral.consumption
  rapidlum : 0 ≤ s.rapidlum.quantity
  made : 0 ≤ s.rapidlum.production

/-- What the refineries draw in a tick: what they ask for, or else all there is. -/
def Stocks.drawn (throttle : Rat) (s : Stocks Rat) : Rat :=
  min (s.mineral.quantity + s.mineral.production * throttle) s.mineral.consumption

/-- The part of what the refineries ask for that they get, which is all of it unless they run
short. -/
def Stocks.share (throttle : Rat) (s : Stocks Rat) : Rat :=
  if s.mineral.quantity + s.mineral.production * throttle < s.mineral.consumption then
    (s.mineral.quantity + s.mineral.production * throttle) / s.mineral.consumption
  else 1

/-- The mineral left is what was there and what was mined, less what was drawn. -/
theorem Stocks.mineral_refined (throttle : Rat) (s : Stocks Rat) :
    ((s.produced throttle).refine throttle).mineral.quantity =
      s.mineral.quantity + s.mineral.production * throttle - s.drawn throttle := by
  by_cases short : s.mineral.quantity + s.mineral.production * throttle < s.mineral.consumption
  · have all : s.drawn throttle = s.mineral.quantity + s.mineral.production * throttle :=
      min_eq_left short.le
    rw [all]
    simp [Stocks.produced, Stocks.refine, short]
  · have asked : s.drawn throttle = s.mineral.consumption := min_eq_right (not_lt.mp short)
    rw [asked]
    simp [Stocks.produced, Stocks.refine, short]

theorem Stocks.mineral_refined_nonneg (throttle : Rat) (s : Stocks Rat) :
    0 ≤ ((s.produced throttle).refine throttle).mineral.quantity := by
  rw [Stocks.mineral_refined]
  exact sub_nonneg.mpr (min_le_left _ _)

theorem Stocks.mineral_settled (throttle : Rat) (s : Stocks Rat) :
    ((s.produced throttle).refine throttle).floor.mineral.quantity =
      s.mineral.quantity + s.mineral.production * throttle - s.drawn throttle := by
  rw [Stocks.floor, Stock.floor_of_nonneg (s.mineral_refined_nonneg throttle),
    Stocks.mineral_refined]

/-- Of what the refineries can make in a tick they make the share that is supplied. -/
theorem Stocks.rapidlum_refined (throttle : Rat) (s : Stocks Rat) :
    ((s.produced throttle).refine throttle).rapidlum.quantity =
      s.rapidlum.quantity + s.rapidlum.production * throttle * s.share throttle := by
  by_cases short : s.mineral.quantity + s.mineral.production * throttle < s.mineral.consumption
  · simp only [Stocks.produced, Stocks.refine, Stocks.share, short, if_true]
    ring
  · simp only [Stocks.produced, Stocks.refine, Stocks.share, short, if_false]
    ring

section Settle

variable {a b throttle : Rat} {s : Stocks Rat}

theorem Stocks.Rated.stock_nonneg (h : s.Rated a b) (positive : 0 < throttle) :
    0 ≤ s.mineral.quantity + s.mineral.production * throttle := by
  have := mul_nonneg h.mined positive.le
  linarith [h.mineral]

theorem Stocks.Rated.drawn_nonneg (h : s.Rated a b) (positive : 0 < throttle) :
    0 ≤ s.drawn throttle :=
  le_min (h.stock_nonneg positive) h.demand

theorem Stocks.Rated.share_nonneg (h : s.Rated a b) (positive : 0 < throttle) :
    0 ≤ s.share throttle := by
  unfold Stocks.share
  split
  · exact div_nonneg (h.stock_nonneg positive) h.demand
  · exact zero_le_one

theorem Stocks.Rated.drawn_eq (h : s.Rated a b) (positive : 0 < throttle) :
    s.drawn throttle = s.mineral.consumption * s.share throttle := by
  have stock := h.stock_nonneg positive
  by_cases short : s.mineral.quantity + s.mineral.production * throttle < s.mineral.consumption
  · have asked : s.mineral.consumption ≠ 0 := (lt_of_le_of_lt stock short).ne'
    rw [Stocks.share, if_pos short, mul_div_cancel₀ _ asked]
    exact min_eq_left short.le
  · rw [Stocks.share, if_neg short, mul_one]
    exact min_eq_right (not_lt.mp short)

theorem Stocks.Rated.gained_nonneg (h : s.Rated a b) (positive : 0 < throttle) :
    0 ≤ s.rapidlum.production * throttle * s.share throttle :=
  mul_nonneg (mul_nonneg h.made positive.le) (h.share_nonneg positive)

theorem Stocks.Rated.rapidlum_refined_nonneg (h : s.Rated a b) (positive : 0 < throttle) :
    0 ≤ ((s.produced throttle).refine throttle).rapidlum.quantity := by
  rw [Stocks.rapidlum_refined]
  exact add_nonneg h.rapidlum (h.gained_nonneg positive)

theorem Stocks.Rated.rapidlum_settled (h : s.Rated a b) (positive : 0 < throttle) :
    ((s.produced throttle).refine throttle).floor.rapidlum.quantity =
      s.rapidlum.quantity + s.rapidlum.production * throttle * s.share throttle := by
  rw [Stocks.floor, Stock.floor_of_nonneg (h.rapidlum_refined_nonneg positive),
    Stocks.rapidlum_refined]

theorem Stocks.Rated.rapidlum_settled_nonneg (h : s.Rated a b) (positive : 0 < throttle) :
    0 ≤ ((s.produced throttle).refine throttle).floor.rapidlum.quantity := by
  rw [h.rapidlum_settled positive]
  exact add_nonneg h.rapidlum (h.gained_nonneg positive)

/-- The rapidlum gained stands to the mineral drawn as the two rates do, throttled. -/
theorem Stocks.Rated.rapidlum_gained (h : s.Rated a b) (positive : 0 < throttle) :
    a * (((s.produced throttle).refine throttle).floor.rapidlum.quantity - s.rapidlum.quantity) =
      b * (throttle * s.drawn throttle) := by
  calc
    a * (((s.produced throttle).refine throttle).floor.rapidlum.quantity - s.rapidlum.quantity) =
        a * s.rapidlum.production * throttle * s.share throttle := by
      rw [h.rapidlum_settled positive]
      ring
    _ = b * (throttle * s.drawn throttle) := by
      rw [h.ratio, h.drawn_eq positive]
      ring

end Settle

/-! ## The ticks of a run -/

namespace Tick

variable {α : Type} [Scalar α] (t : Tick α)

def throttle : α := effectiveThrottle t.after.status.throttle

def mined : α := t.throttle * mineralProduction t.before.mines

/-- The mineral that was there or mined and is gone. -/
def consumed : α :=
  t.before.status.stocks.mineral.quantity + t.mined - t.after.status.stocks.mineral.quantity

def rapidlumGained : α :=
  t.after.status.stocks.rapidlum.quantity - t.before.status.stocks.rapidlum.quantity

end Tick

/-- The mineral gone in a tick is what the refineries drew. -/
theorem consumed_eq (e : Economy Rat) (trauma : Option Rat) :
    (⟨e, e.ticked trauma⟩ : Tick Rat).consumed =
      (e.status.stocks.withRates e.config e.mines e.refineries).drawn
        (effectiveThrottle (e.ticked trauma).status.throttle) := by
  have rest : (e.ticked trauma).status.stocks.mineral.quantity =
      e.status.stocks.mineral.quantity +
        mineralProduction e.mines * effectiveThrottle (e.ticked trauma).status.throttle -
        (e.status.stocks.withRates e.config e.mines e.refineries).drawn
          (effectiveThrottle (e.ticked trauma).status.throttle) :=
    Stocks.mineral_settled _ _
  rw [Tick.consumed, Tick.mined, Tick.throttle, rest]
  ring

/-- What every run under a configuration keeps: sites yield and work, and stocks hold, no less than
nothing. -/
structure Sound (c : Config Rat) (e : Economy Rat) : Prop where
  config : e.config = c
  yields : ∀ m ∈ e.mines, 0 ≤ m.yieldRate
  efficiencies : ∀ r ∈ e.refineries, 0 ≤ r.efficiency
  mineral : 0 ≤ e.status.stocks.mineral.quantity
  rapidlum : 0 ≤ e.status.stocks.rapidlum.quantity

namespace Sound

variable {c : Config Rat} {e : Economy Rat}

theorem new (c : Config Rat) (plague : Plague.Config Rat) (heard : Bool) :
    Sound c (Economy.new c plague heard) where
  config := rfl
  yields := by simp [Economy.new]
  efficiencies := by simp [Economy.new]
  mineral := le_refl 0
  rapidlum := le_refl 0

theorem sum_yields_nonneg (h : Sound c e) : 0 ≤ (e.mines.map (·.yieldRate)).sum := by
  refine List.sum_nonneg ?_
  simpa using h.yields

theorem sum_efficiencies_nonneg (h : Sound c e) : 0 ≤ (e.refineries.map (·.efficiency)).sum := by
  refine List.sum_nonneg ?_
  simpa using h.efficiencies

variable (mineralCost : 0 ≤ c.mineralPerRefinery) (rapidlumYield : 0 ≤ c.rapidlumPerRefinery)
include mineralCost rapidlumYield

theorem rated (h : Sound c e) :
    (e.status.stocks.withRates e.config e.mines e.refineries).Rated c.mineralPerRefinery
      c.rapidlumPerRefinery := by
  have works := h.sum_efficiencies_nonneg
  rw [h.config]
  refine ⟨?_, h.mineral, ?_, ?_, h.rapidlum, ?_⟩
  · simp only [Stocks.withRates, mineralDemand_rat, rapidlumProduction_rat]
    ring
  · rw [Stocks.withRates, mineralProduction_rat]
    exact h.sum_yields_nonneg
  · rw [Stocks.withRates, mineralDemand_rat]
    exact mul_nonneg works mineralCost
  · rw [Stocks.withRates, rapidlumProduction_rat]
    exact mul_nonneg works rapidlumYield

theorem ticked (h : Sound c e) (trauma : Option Rat) : Sound c (e.ticked trauma) := by
  have positive := effectiveThrottle_pos (e.ticked trauma).status.throttle
  have rated := h.rated mineralCost rapidlumYield
  have left : (e.ticked trauma).status.stocks.mineral.quantity = _ - _ :=
    Stocks.mineral_settled _ _
  refine ⟨h.config, h.yields, h.efficiencies, ?_, rated.rapidlum_settled_nonneg positive⟩
  rw [left]
  exact sub_nonneg.mpr (min_le_left _ _)

theorem ticks (h : Sound c e) (trauma : Option Rat) (more : Nat) :
    Sound c (e.ticks trauma more).state := by
  induction more generalizing e with
  | zero =>
      rw [Economy.ticks, state_tick]
      exact h.ticked mineralCost rapidlumYield trauma
  | succ more ih =>
      rw [state_ticks_succ]
      exact ih (h.ticked mineralCost rapidlumYield trauma)

theorem perform (h : Sound c e) (op : Operation Rat) : Sound c (op.perform e).state := by
  cases op with
  | addMine yieldRate =>
      refine ⟨h.config, ?_, h.efficiencies, h.mineral, h.rapidlum⟩
      intro mine member
      rcases List.mem_append.mp member with earlier | opened
      · exact h.yields mine earlier
      · rw [List.mem_singleton.mp opened]
        exact atLeast_zero_rat yieldRate
  | addRefinery efficiency =>
      refine ⟨h.config, h.yields, ?_, h.mineral, h.rapidlum⟩
      intro refinery member
      rcases List.mem_append.mp member with earlier | opened
      · exact h.efficiencies refinery earlier
      · rw [List.mem_singleton.mp opened]
        exact unit_nonneg_rat efficiency
  | setPopulation rebellion npcs =>
      simp only [Operation.perform, Outcome.map, Economy.setPopulation]
      cases npcs.toInt <;> exact ⟨h.config, h.yields, h.efficiencies, h.mineral, h.rapidlum⟩
  | tick trauma => exact h.ticks mineralCost rapidlumYield trauma 0
  | advance times trauma =>
      simp only [Operation.perform, Outcome.map, Economy.advance]
      cases times.toInt with
      | ok n => exact h.ticks mineralCost rapidlumYield trauma _
      | error failure => exact h
  | cleanse => exact ⟨h.config, h.yields, h.efficiencies, h.mineral, h.rapidlum⟩

theorem balanced (h : Sound c e) (trauma : Option Rat) :
    let t : Tick Rat := ⟨e, e.ticked trauma⟩
    0 ≤ t.consumed ∧ t.consumed ≤ t.after.status.stocks.mineral.consumption ∧
      c.mineralPerRefinery * t.rapidlumGained =
        c.rapidlumPerRefinery * (t.throttle * t.consumed) := by
  intro t
  have positive := effectiveThrottle_pos t.after.status.throttle
  have rated := h.rated mineralCost rapidlumYield
  have consumed : t.consumed = _ := consumed_eq e trauma
  have demand : t.after.status.stocks.mineral.consumption =
      (e.status.stocks.withRates e.config e.mines e.refineries).mineral.consumption :=
    (Stock.consumption_floor _).trans (Stocks.consumption_refine _ _)
  refine ⟨?_, ?_, ?_⟩
  · rw [consumed]
    exact rated.drawn_nonneg positive
  · rw [consumed, demand]
    exact min_le_right _ _
  · rw [consumed]
    exact rated.rapidlum_gained positive

theorem mem_ticksFrom (h : Sound c e) (trauma : Option Rat) (more : Nat) :
    ∀ t ∈ ticksFrom trauma more e, ∃ e trauma, Sound c e ∧ t = ⟨e, e.ticked trauma⟩ := by
  induction more generalizing e with
  | zero =>
      rw [ticksFrom_zero_rat]
      rintro t member
      exact ⟨e, trauma, h, List.mem_singleton.mp member⟩
  | succ more ih =>
      rw [ticksFrom_succ_rat]
      rintro t member
      rcases List.mem_cons.mp member with first | later
      · exact ⟨e, trauma, h, first⟩
      · exact ih (h.ticked mineralCost rapidlumYield trauma) t later

theorem mem_history (h : Sound c e) (ops : List (Operation Rat)) :
    ∀ t ∈ history ops e, ∃ e trauma, Sound c e ∧ t = ⟨e, e.ticked trauma⟩ := by
  induction ops generalizing e with
  | nil => simp [history]
  | cons op ops ih =>
      intro t member
      rcases List.mem_append.mp member with now | later
      · rcases op.ticks_cases e with ⟨trauma, more, ticks, -⟩ | ⟨none, -⟩
        · exact h.mem_ticksFrom mineralCost rapidlumYield trauma more t (ticks ▸ now)
        · simp [none] at now
      · exact ih (h.perform mineralCost rapidlumYield op) t later

end Sound

/-! ## Whole runs -/

section Telescope

variable (figure : Stocks Rat → Rat)

def Tick.change (t : Tick Rat) : Rat :=
  figure t.after.status.stocks - figure t.before.status.stocks

theorem figure_ticks (trauma : Option Rat) (more : Nat) (e : Economy Rat) :
    figure (e.ticks trauma more).state.status.stocks =
      figure e.status.stocks + ((ticksFrom trauma more e).map (Tick.change figure)).sum := by
  induction more generalizing e with
  | zero => simp [ticksFrom_zero_rat, Tick.change, Economy.ticks, state_tick]
  | succ more ih =>
      rw [state_ticks_succ, ih, ticksFrom_succ_rat, List.map_cons, List.sum_cons, Tick.change]
      ring

/-- Only ticks change the stocks, so a figure of them is the sum of its changes. -/
theorem figure_after (ops : List (Operation Rat)) (e : Economy Rat) :
    figure (after Operation.perform ops e).status.stocks =
      figure e.status.stocks + ((history ops e).map (Tick.change figure)).sum := by
  induction ops generalizing e with
  | nil => simp [after, history]
  | cons op ops ih =>
      have rest := ih (op.perform e).state
      rw [history, List.map_append, List.sum_append, ← add_assoc]
      rcases op.ticks_cases e with ⟨trauma, more, ticks, state⟩ | ⟨none, kept, -⟩
      · rw [ticks, ← figure_ticks, ← state]
        exact rest
      · rw [none, List.map_nil, List.sum_nil, add_zero, ← kept]
        exact rest

end Telescope

/-- What a run makes and draws, tick by tick and altogether. -/
structure Conserved (c : Config Rat) (made : List (Tick Rat)) (s : Status Rat) : Prop where
  counted : s.tickCount = made.length
  drawn : ∀ t ∈ made, 0 ≤ t.consumed ∧ t.consumed ≤ t.after.status.stocks.mineral.consumption
  refined : ∀ t ∈ made, c.mineralPerRefinery * t.rapidlumGained =
    c.rapidlumPerRefinery * (t.throttle * t.consumed)
  rapidlum : c.mineralPerRefinery * s.stocks.rapidlum.quantity =
    c.rapidlumPerRefinery * (made.map fun t => t.throttle * t.consumed).sum
  unthrottled : (∀ t ∈ made, t.throttle = 1) →
    c.mineralPerRefinery * s.stocks.rapidlum.quantity +
        c.rapidlumPerRefinery * s.stocks.mineral.quantity =
      c.rapidlumPerRefinery * (made.map (·.mined)).sum

theorem Sound.conserved {c : Config Rat} {e : Economy Rat} (h : Sound c e)
    (mineralCost : 0 ≤ c.mineralPerRefinery) (rapidlumYield : 0 ≤ c.rapidlumPerRefinery)
    (started : e.status.tickCount = 0) (noMineral : e.status.stocks.mineral.quantity = 0)
    (noRapidlum : e.status.stocks.rapidlum.quantity = 0) (ops : List (Operation Rat)) :
    Conserved c (history ops e) (after Operation.perform ops e).status := by
  have balanced : ∀ t ∈ history ops e, 0 ≤ t.consumed ∧
      t.consumed ≤ t.after.status.stocks.mineral.consumption ∧
      c.mineralPerRefinery * t.rapidlumGained =
        c.rapidlumPerRefinery * (t.throttle * t.consumed) := by
    intro t member
    obtain ⟨e, trauma, sound, rfl⟩ := h.mem_history mineralCost rapidlumYield ops t member
    exact sound.balanced mineralCost rapidlumYield trauma
  have rapidlum := figure_after (·.rapidlum.quantity) ops e
  have mineral := figure_after (·.mineral.quantity) ops e
  rw [noRapidlum, zero_add] at rapidlum
  rw [noMineral, zero_add] at mineral
  have refined : c.mineralPerRefinery *
        (after Operation.perform ops e).status.stocks.rapidlum.quantity =
      c.rapidlumPerRefinery * ((history ops e).map fun t => t.throttle * t.consumed).sum := by
    rw [rapidlum, ← List.sum_map_mul_left, ← List.sum_map_mul_left]
    exact congrArg List.sum (List.map_congr_left fun t member => (balanced t member).2.2)
  have counted := tickCount_after e ops
  rw [started, Nat.zero_add] at counted
  refine ⟨counted, fun t member => ⟨(balanced t member).1, (balanced t member).2.1⟩,
    fun t member => (balanced t member).2.2, refined, fun unthrottled => ?_⟩
  -- Without a throttle the mineral left and the mineral drawn are what was mined.
  have unused : (after Operation.perform ops e).status.stocks.mineral.quantity +
        ((history ops e).map fun t => t.throttle * t.consumed).sum =
      ((history ops e).map (·.mined)).sum := by
    rw [mineral, ← List.sum_map_add]
    refine congrArg List.sum (List.map_congr_left fun t member => ?_)
    rw [unthrottled t member, Tick.consumed, Tick.change]
    ring
  rw [refined, ← mul_add, add_comm, unused]

theorem material_conserved (c : Config Rat) (plague : Plague.Config Rat) (heard : Bool)
    (mineralCost : 0 ≤ c.mineralPerRefinery) (rapidlumYield : 0 ≤ c.rapidlumPerRefinery)
    (ops : List (Operation Rat)) :
    Conserved c (history ops (Economy.new c plague heard))
      (after Operation.perform ops (Economy.new c plague heard)).status :=
  (Sound.new c plague heard).conserved mineralCost rapidlumYield rfl rfl rfl ops

/-- Three ticks, each of them short of mineral and the later ones throttled as well. -/
theorem material_conserved_in_shortage :
    let c : Config Rat := { simProduction := 1, mineralPerRefinery := 10, rapidlumPerRefinery := 5 }
    let plague : Plague.Config Rat :=
      { growth := 2
        decay := 1
        heartThreshold := 3
        clearThreshold := 1
        throttle := 0.5
        rebellionTrigger := 0.35
        traumaTrigger := 0.5
        warningLevel := 2 }
    let start := Economy.new c plague
    let ops : List (Operation Rat) :=
      [.addMine 4, .addRefinery 1, .setPopulation 0.9 (.int 1), .tick (some 0.9),
       .advance (.int 2) (some 0.8)]
    0 ≤ c.mineralPerRefinery ∧ 0 ≤ c.rapidlumPerRefinery ∧
      (history ops start).map (fun t => (t.throttle, t.consumed)) = [(1, 4), (0.5, 2), (0.5, 2)] ∧
      Conserved c (history ops start) (after Operation.perform ops start).status := by
  intro c plague start ops
  have mineralCost : 0 ≤ c.mineralPerRefinery := by decide +kernel
  have rapidlumYield : 0 ≤ c.rapidlumPerRefinery := by decide +kernel
  refine ⟨mineralCost, rapidlumYield, ?_, ?_⟩
  · decide +kernel
  · exact material_conserved c plague true mineralCost rapidlumYield ops

end Colony.Economy

import Colony.Proofs.Economy.Conservation

/-!
# More mining

Two economies under one configuration go through the same operations, but in
the second the mines yield no less, and there may be more of them.  In exact
numbers the second is then behind in nothing: after every tick its plague is in
the same state, it has as much sim, and no less mineral and rapidlum.  One
economy may run short where the other does not, so the rapidlum made is compared
by the share of the mineral asked for that the refineries get.
-/

namespace Colony.Economy

/-! ## The stocks of one tick -/

theorem Stock.quantity_floor (s : Stock Rat) : s.floor.quantity = max 0 s.quantity := by
  rw [Stock.floor, max_comm, max_def]
  split_ifs <;> grind

namespace Stocks

/-- The second stocks are behind in no resource, and ahead in none but mineral and rapidlum. -/
structure Behind (s s' : Stocks Rat) : Prop where
  sim : s'.sim.quantity = s.sim.quantity
  rapidlum : s.rapidlum.quantity ≤ s'.rapidlum.quantity
  mineral : s.mineral.quantity ≤ s'.mineral.quantity

section Settle

variable {a b throttle : Rat} {s s' : Stocks Rat}

theorem sim_settled (throttle : Rat) (s : Stocks Rat) :
    ((s.produced throttle).refine throttle).floor.sim.quantity =
      max 0 (s.sim.quantity + s.sim.production * throttle) := by
  have kept : ((s.produced throttle).refine throttle).sim = (s.produced throttle).sim := by
    unfold refine
    split <;> rfl
  rw [floor, Stock.quantity_floor, kept]
  rfl

/-- Where more is in stock, the refineries get no smaller share of the same demand. -/
theorem Rated.share_mono (h : s.Rated a b)
    (asked : s'.mineral.consumption = s.mineral.consumption)
    (more : s.mineral.quantity + s.mineral.production * throttle ≤
      s'.mineral.quantity + s'.mineral.production * throttle) :
    s.share throttle ≤ s'.share throttle := by
  rw [share, share, asked]
  by_cases short : s.mineral.quantity + s.mineral.production * throttle < s.mineral.consumption
  · rw [if_pos short]
    split
    · exact div_le_div_of_nonneg_right more h.demand
    · exact div_le_one_of_le₀ short.le h.demand
  · have supplied : ¬ s'.mineral.quantity + s'.mineral.production * throttle <
        s.mineral.consumption := fun short' => short (lt_of_le_of_lt more short')
    rw [if_neg short, if_neg supplied]

theorem Rated.behind_settled (h : s.Rated a b) (h' : s'.Rated a b) (positive : 0 < throttle)
    (behind : s.Behind s') (sim : s'.sim.production = s.sim.production)
    (made : s'.rapidlum.production = s.rapidlum.production)
    (asked : s'.mineral.consumption = s.mineral.consumption)
    (mined : s.mineral.production ≤ s'.mineral.production) :
    ((s.produced throttle).refine throttle).floor.Behind
      ((s'.produced throttle).refine throttle).floor := by
  have more : s.mineral.quantity + s.mineral.production * throttle ≤
      s'.mineral.quantity + s'.mineral.production * throttle :=
    add_le_add behind.mineral (mul_le_mul_of_nonneg_right mined positive.le)
  refine ⟨?_, ?_, ?_⟩
  · rw [sim_settled, sim_settled, behind.sim, sim]
  · have capacity : 0 ≤ s.rapidlum.production * throttle := mul_nonneg h.made positive.le
    rw [h.rapidlum_settled positive, h'.rapidlum_settled positive, made]
    exact add_le_add behind.rapidlum
      (mul_le_mul_of_nonneg_left (h.share_mono asked more) capacity)
  · -- What is left is what exceeds the demand, and both economies have the same.
    rw [mineral_settled, mineral_settled, drawn, drawn, asked]
    rcases le_total (s.mineral.quantity + s.mineral.production * throttle)
      s.mineral.consumption with short | supplied
    · rw [min_eq_left short, sub_self]
      exact sub_nonneg.mpr (min_le_left _ _)
    · rw [min_eq_right supplied, min_eq_right (supplied.trans more)]
      exact sub_le_sub_right more _

end Settle

end Stocks

/-! ## Two economies -/

/-- The second economy differs from the first in its mines, which yield no less, and in stocks that
are behind in nothing. -/
structure Behind (e e' : Economy Rat) : Prop where
  config : e'.config = e.config
  plagueConfig : e'.plagueConfig = e.plagueConfig
  plague : e'.plague = e.plague
  efficiencies : e'.refineries.map (·.efficiency) = e.refineries.map (·.efficiency)
  rebellion : e'.status.rebellion = e.status.rebellion
  tickCount : e'.status.tickCount = e.status.tickCount
  yields : (e.mines.map (·.yieldRate)).sum ≤ (e'.mines.map (·.yieldRate)).sum
  stocks : e.status.stocks.Behind e'.status.stocks

namespace Behind

variable {c : Config Rat} {e e' : Economy Rat}

theorem refl (e : Economy Rat) : Behind e e :=
  ⟨rfl, rfl, rfl, rfl, rfl, rfl, le_rfl, rfl, le_rfl, le_rfl⟩

theorem addMine (h : Behind e e') {yieldRate yieldRate' : Rat} (more : yieldRate ≤ yieldRate') :
    Behind (e.addMine yieldRate).state (e'.addMine yieldRate').state := by
  have yields : ((e.addMine yieldRate).state.mines.map (·.yieldRate)).sum ≤
      ((e'.addMine yieldRate').state.mines.map (·.yieldRate)).sum := by
    simp only [addMine_rat, openMine, withMine, List.map_append, List.sum_append,
      List.map_singleton, List.sum_singleton, atLeast_rat, rounded_rat]
    exact add_le_add h.yields (max_le_max le_rfl more)
  exact { h with yields := yields }

theorem extraMine (h : Behind e e') (yieldRate : Rat) :
    Behind e (e'.addMine yieldRate).state := by
  have yields : (e.mines.map (·.yieldRate)).sum ≤
      ((e'.addMine yieldRate).state.mines.map (·.yieldRate)).sum := by
    simp only [addMine_rat, openMine, withMine, List.map_append, List.sum_append,
      List.map_singleton, List.sum_singleton]
    linarith [h.yields, atLeast_zero_rat (Scalar.rounded yieldRate)]
  exact { h with yields := yields }

theorem nextPlague (h : Behind e e') (trauma : Option Rat) :
    e'.nextPlague trauma = e.nextPlague trauma := by
  simp only [Economy.nextPlague, feltTrauma, h.plagueConfig, h.plague, h.rebellion, h.tickCount]

variable (mineralCost : 0 ≤ c.mineralPerRefinery) (rapidlumYield : 0 ≤ c.rapidlumPerRefinery)
include mineralCost rapidlumYield

theorem ticked (h : Behind e e') (sound : Sound c e) (sound' : Sound c e')
    (trauma : Option Rat) : Behind (e.ticked trauma) (e'.ticked trauma) := by
  have plague : e'.nextPlague trauma = e.nextPlague trauma := h.nextPlague trauma
  have stocks : (e.ticked trauma).status.stocks.Behind (e'.ticked trauma).status.stocks := by
    simp only [Economy.ticked, plague]
    refine (sound.rated mineralCost rapidlumYield).behind_settled
      (sound'.rated mineralCost rapidlumYield) (effectiveThrottle_pos _)
      ⟨h.stocks.sim, h.stocks.rapidlum, h.stocks.mineral⟩ ?_ ?_ ?_ ?_
    · simp only [Stocks.withRates, h.config]
    · simp only [Stocks.withRates, rapidlumProduction_rat, h.config, h.efficiencies]
    · simp only [Stocks.withRates, mineralDemand_rat, h.config, h.efficiencies]
    · simp only [Stocks.withRates, mineralProduction_rat]
      exact h.yields
  have count : (e'.ticked trauma).status.tickCount = (e.ticked trauma).status.tickCount :=
    congrArg (· + 1) h.tickCount
  exact { h with plague := plague, tickCount := count, stocks := stocks }

theorem ticks (h : Behind e e') (sound : Sound c e) (sound' : Sound c e')
    (trauma : Option Rat) (more : Nat) :
    List.Forall₂ (fun t t' => Behind t.after t'.after) (ticksFrom trauma more e)
        (ticksFrom trauma more e') ∧
      Behind (e.ticks trauma more).state (e'.ticks trauma more).state := by
  have next := h.ticked mineralCost rapidlumYield sound sound' trauma
  induction more generalizing e e' with
  | zero =>
      rw [ticksFrom_zero_rat, ticksFrom_zero_rat, Economy.ticks, Economy.ticks, state_tick,
        state_tick]
      exact ⟨.cons next .nil, next⟩
  | succ more ih =>
      have soundNext := sound.ticked mineralCost rapidlumYield trauma
      have soundNext' := sound'.ticked mineralCost rapidlumYield trauma
      obtain ⟨made, last⟩ := ih next soundNext soundNext'
        (next.ticked mineralCost rapidlumYield soundNext soundNext' trauma)
      rw [ticksFrom_succ_rat, ticksFrom_succ_rat, state_ticks_succ, state_ticks_succ]
      exact ⟨.cons next made, last⟩

theorem perform (h : Behind e e') (sound : Sound c e) (sound' : Sound c e')
    (op : Operation Rat) :
    List.Forall₂ (fun t t' => Behind t.after t'.after) (op.ticks e) (op.ticks e') ∧
      Behind (op.perform e).state (op.perform e').state := by
  cases op with
  | addMine yieldRate => exact ⟨.nil, h.addMine le_rfl⟩
  | addRefinery efficiency =>
      have efficiencies : (e'.addRefinery efficiency).state.refineries.map (·.efficiency) =
          (e.addRefinery efficiency).state.refineries.map (·.efficiency) := by
        simp only [addRefinery_rat, openRefinery, withRefinery, List.map_append, h.efficiencies,
          List.map_singleton]
      exact ⟨.nil, { h with efficiencies := efficiencies }⟩
  | setPopulation rebellion npcs =>
      refine ⟨.nil, ?_⟩
      simp only [Operation.perform, Outcome.map, setPopulation_rat]
      cases npcs.toInt with
      | error failure => exact { h with rebellion := rfl }
      | ok n => exact { h with rebellion := rfl }
  | tick trauma => exact h.ticks mineralCost rapidlumYield sound sound' trauma 0
  | advance times trauma =>
      simp only [Operation.ticks, Operation.perform, Outcome.map, Economy.advance]
      cases times.toInt with
      | ok n => exact h.ticks mineralCost rapidlumYield sound sound' trauma _
      | error failure => exact ⟨.nil, h⟩
  | cleanse =>
      have plague : e'.cleanse.state.plague = e.cleanse.state.plague :=
        congrArg (fun p => (Plague.cleanse p).state) h.plague
      exact ⟨.nil, { h with plague := plague }⟩

end Behind

/-! ## Two runs -/

/-- The second run is the first but for mines, which yield no less, and of which there are no
fewer. -/
inductive Outmined : List (Operation Rat) → List (Operation Rat) → Prop where
  | nil : Outmined [] []
  | same (op : Operation Rat) {ops ops' : List (Operation Rat)} (rest : Outmined ops ops') :
      Outmined (op :: ops) (op :: ops')
  | richer {yieldRate yieldRate' : Rat} (more : yieldRate ≤ yieldRate')
      {ops ops' : List (Operation Rat)} (rest : Outmined ops ops') :
      Outmined (.addMine yieldRate :: ops) (.addMine yieldRate' :: ops')
  | extra (yieldRate : Rat) {ops ops' : List (Operation Rat)} (rest : Outmined ops ops') :
      Outmined ops (.addMine yieldRate :: ops')

theorem Behind.history {c : Config Rat} (mineralCost : 0 ≤ c.mineralPerRefinery)
    (rapidlumYield : 0 ≤ c.rapidlumPerRefinery) {ops ops' : List (Operation Rat)}
    (outmined : Outmined ops ops') {e e' : Economy Rat} (h : Behind e e') (sound : Sound c e)
    (sound' : Sound c e') :
    List.Forall₂ (fun t t' => Behind t.after t'.after) (history ops e) (history ops' e') := by
  induction outmined generalizing e e' with
  | nil => exact .nil
  | same op rest ih =>
      obtain ⟨made, next⟩ := h.perform mineralCost rapidlumYield sound sound' op
      exact List.rel_append made (ih next (sound.perform mineralCost rapidlumYield op)
        (sound'.perform mineralCost rapidlumYield op))
  | @richer yieldRate yieldRate' more _ _ rest ih =>
      exact ih (h.addMine more)
        (sound.perform mineralCost rapidlumYield (.addMine yieldRate))
        (sound'.perform mineralCost rapidlumYield (.addMine yieldRate'))
  | extra yieldRate rest ih =>
      exact ih (h.extraMine yieldRate) sound
        (sound'.perform mineralCost rapidlumYield (.addMine yieldRate))

/-- After every tick the plague and the sim are those of the run with less mining, and mineral and
rapidlum are no less. -/
theorem more_mining_never_hurts (c : Config Rat) (plague : Plague.Config Rat) (heard : Bool)
    (mineralCost : 0 ≤ c.mineralPerRefinery) (rapidlumYield : 0 ≤ c.rapidlumPerRefinery)
    {ops ops' : List (Operation Rat)} (outmined : Outmined ops ops') :
    List.Forall₂ (fun t t' => Behind t.after t'.after)
      (history ops (Economy.new c plague heard)) (history ops' (Economy.new c plague heard)) :=
  (Behind.refl _).history mineralCost rapidlumYield outmined (.new c plague heard)
    (.new c plague heard)

/-- The first run is short of mineral at both ticks; a second mine opened after the first tick ends
that in the second run. -/
theorem more_mining_never_hurts_in_shortage :
    let c : Config Rat := { simProduction := 1, mineralPerRefinery := 10, rapidlumPerRefinery := 5 }
    let plague : Plague.Config Rat :=
      { growth := 2
        decay := 1
        heartThreshold := 3
        clearThreshold := 1
        throttle := 0.5
        rebellionTrigger := 0.35
        traumaTrigger := 0.5
        warningLevel := 2 }
    let start := Economy.new c plague
    let ops : List (Operation Rat) :=
      [.addMine 2, .addRefinery 1, .setPopulation 0.9 (.int 1), .tick (some 0.9),
       .tick (some 0.8)]
    let ops' : List (Operation Rat) :=
      [.addMine 4, .addRefinery 1, .setPopulation 0.9 (.int 1), .tick (some 0.9), .addMine 30,
       .tick (some 0.8)]
    (0 ≤ c.mineralPerRefinery ∧ 0 ≤ c.rapidlumPerRefinery ∧ Outmined ops ops') ∧
      List.Forall₂ (fun t t' => Behind t.after t'.after) (history ops start) (history ops' start) ∧
      ((history ops start).map fun t => t.after.status.stocks.rapidlum.quantity) = [1, 1.25] ∧
      ((history ops' start).map fun t => t.after.status.stocks.rapidlum.quantity) = [2, 4.5] := by
  intro c plague start ops ops'
  have mineralCost : 0 ≤ c.mineralPerRefinery := by decide +kernel
  have rapidlumYield : 0 ≤ c.rapidlumPerRefinery := by decide +kernel
  have outmined : Outmined ops ops' :=
    .richer (by decide +kernel) (.same _ (.same _ (.same _ (.extra _ (.same _ .nil)))))
  refine ⟨⟨mineralCost, rapidlumYield, outmined⟩, ?_, ?_, ?_⟩
  · exact more_mining_never_hurts c plague true mineralCost rapidlumYield outmined
  · decide +kernel
  · decide +kernel

end Colony.Economy

import Colony.Proofs.Economy.Levels
import Colony.Proofs.Economy.Mirror
import Colony.Proofs.Economy.Tick

/-!
# No stock below zero

Mines do not yield less than nothing and no throttle is below zero, so a tick
only adds to the mineral before it looks whether mineral runs short, and floors
every stock after.  A tick that fails has changed no stock, or has added a zero
to the sim.  So no stock is ever below zero, and wherever mineral runs short
more than nothing is asked for: the refineries' share is a part of one.
-/

namespace Colony.Economy

/-! ## Up to the question -/

section Moving

variable {α : Type} [Scalar α] {e : Economy α} {trauma : Option α}

/-- What a tick writes first, the rates. -/
def rating (e : Economy α) : Outcome (Stocks α) α Unit :=
  e.status.stocks.rate e.config e.mines e.refineries

/-- The plague moves after the rates are written and leaves the stocks alone. -/
theorem stocks_moving (trauma : Option α) :
    (e.moving trauma).state.status.stocks = e.rating.state :=
  Outcome.state_andThen (P := fun moved : Economy α => moved.status.stocks = e.rating.state) rfl
    fun _ _ kept => Outcome.state_andThen
      (P := fun moved : Economy α => moved.status.stocks = e.rating.state) kept fun _ _ kept => kept

theorem sites_moving (trauma : Option α) :
    (e.moving trauma).state.mines = e.mines ∧
      (e.moving trauma).state.refineries = e.refineries := by
  let SameSites (moved : Economy α) : Prop :=
    moved.mines = e.mines ∧ moved.refineries = e.refineries
  refine Outcome.state_andThen (P := SameSites) ⟨rfl, rfl⟩ fun _ rated kept => ?_
  exact Outcome.state_andThen (P := SameSites) kept fun _ _ kept => kept

theorem answer_rating {report : Plague.TickReport α}
    (moved : (e.moving trauma).answer = .ok report) : e.rating.answer = .ok () :=
  (Outcome.answer_andThen_eq_ok.mp moved).elim fun _ rated => rated.1

/-- What the sites and the base produce in a tick. -/
def producing (trauma : Option α) (e : Economy α) : Outcome (Stocks α) α Unit :=
  (e.moving trauma).state.status.stocks.produce
    (effectiveThrottle (e.moving trauma).state.plague.throttle)

/-- These are the stocks at which a tick looks whether mineral runs short. -/
structure Examines (trauma : Option α) (e : Economy α) (s : Stocks α) : Prop where
  moved : ∃ report, (e.moving trauma).answer = .ok report
  produced : (e.producing trauma).answer = .ok ()
  stocks : (e.producing trauma).state = s

/-- The stocks it has looked at are those the tick refines. -/
theorem Examines.stocks_tick {s : Stocks α} (h : e.Examines trauma s) :
    (e.tick trauma).state.status.stocks =
      (s.refine (effectiveThrottle (e.moving trauma).state.plague.throttle)).floor := by
  obtain ⟨report, moved⟩ := h.moved
  have settled : ((e.moving trauma).state.status.stocks.tick
      (effectiveThrottle (e.moving trauma).state.plague.throttle)).state =
        (s.refine (effectiveThrottle (e.moving trauma).state.plague.throttle)).floor := by
    rw [← h.stocks]
    exact Outcome.state_andThen_of_ok h.produced _
  rw [tick_eq, Outcome.state_andThen_of_ok moved, ← settled]
  exact Outcome.state_andThen (P := fun settled : Economy α => settled.status.stocks = _) rfl
    fun _ _ kept => kept

/-- A tick answers where it comes to that question, and only there. -/
theorem answer_tick_iff : (∃ status, (e.tick trauma).answer = .ok status) ↔
    e.Examines trauma (e.producing trauma).state := by
  rw [tick_eq]
  constructor
  · rintro ⟨status, answered⟩
    obtain ⟨report, moved, settled⟩ := Outcome.answer_andThen_eq_ok.mp answered
    obtain ⟨_, placed, -⟩ := Outcome.answer_andThen_eq_ok.mp settled
    have ticked : ((e.moving trauma).state.status.stocks.tick
        (effectiveThrottle (e.moving trauma).state.plague.throttle)).answer = .ok () := placed
    obtain ⟨_, produced, -⟩ := Outcome.answer_andThen_eq_ok.mp ticked
    exact ⟨⟨report, moved⟩, produced, rfl⟩
  · rintro ⟨⟨report, moved⟩, produced, -⟩
    have ticked : ((e.moving trauma).state.status.stocks.tick
        (effectiveThrottle (e.moving trauma).state.plague.throttle)).answer = .ok () :=
      Outcome.answer_andThen_eq_ok.mpr ⟨(), produced, rfl⟩
    exact ⟨_, Outcome.answer_andThen_eq_ok.mpr
      ⟨report, moved, Outcome.answer_andThen_eq_ok.mpr ⟨(), ticked, rfl⟩⟩⟩

end Moving

/-! ## Runs -/

/-- What every run keeps of the economy: no mine yields, and no stock holds, less than nothing. -/
structure Solvent (e : Economy Amount) : Prop where
  yields : ∀ m ∈ e.mines, m.yieldRate.Held
  works : ∀ r ∈ e.refineries, r.efficiency.IsBinary
  stocks : e.status.stocks.Solvent

namespace Solvent

variable {e : Economy Amount} {trauma : Option Amount}

theorem new (config : Config Amount) (plagueConfig : Plague.Config Amount) (heard : Bool) :
    Solvent (Economy.new config plagueConfig heard) where
  yields := by simp [Economy.new]
  works := by simp [Economy.new]
  stocks := fun r => by cases r <;> exact Amount.held_zero

variable (h : e.Solvent)
include h

theorem of_same {next : Economy Amount} (mines : next.mines = e.mines)
    (refineries : next.refineries = e.refineries)
    (levels : next.status.stocks.levels = e.status.stocks.levels) : next.Solvent :=
  ⟨mines ▸ h.yields, refineries ▸ h.works, h.stocks.of_levels levels⟩

theorem moving (trauma : Option Amount) : (e.moving trauma).state.Solvent := by
  have levels := (Stocks.rate_cases e.config e.mines e.refineries e.status.stocks).2.1
  obtain ⟨mines, refineries⟩ := sites_moving (e := e) trauma
  refine h.of_same mines refineries ?_
  rw [stocks_moving]
  exact levels

theorem taken_moving {report : Plague.TickReport Amount}
    (moved : (e.moving trauma).answer = .ok report) :
    (e.moving trauma).state.status.stocks.Taken e.config e.refineries := by
  rw [stocks_moving]
  exact Stocks.taken_rate h.yields h.works (answer_rating moved)

theorem tick (trauma : Option Amount) : (e.tick trauma).state.Solvent := by
  rw [tick_eq]
  cases moved : (e.moving trauma).answer with
  | error failure =>
      rw [Outcome.andThen, moved]
      exact h.moving trauma
  | ok report =>
      rw [Outcome.state_andThen_of_ok moved]
      have ready := h.moving trauma
      have settled := ready.stocks.tick (h.taken_moving moved)
        (effectiveThrottle (e.moving trauma).state.plague.throttle)
      exact Outcome.state_andThen (P := Solvent) ⟨ready.yields, ready.works, settled⟩
        fun _ _ kept => kept.of_same rfl rfl rfl

theorem tested {s : Stocks Amount} (examined : e.Examines trauma s) : s.Tested := by
  obtain ⟨report, moved⟩ := examined.moved
  rw [← examined.stocks]
  exact (h.moving trauma).stocks.tested (h.taken_moving moved) (effectiveThrottle_not_neg _)
    examined.produced

theorem ticks (trauma : Option Amount) (more : Nat) : (e.ticks trauma more).state.Solvent := by
  induction more generalizing e with
  | zero => exact h.tick trauma
  | succ more ih => exact Outcome.state_andThen (h.tick trauma) fun _ _ kept => ih kept

theorem perform (op : Operation Amount) : (op.perform e).state.Solvent := by
  cases op with
  | addMine yieldRate =>
      rcases addMine_cases yieldRate e with ⟨-, same⟩ | ⟨-, same⟩
      · rw [Operation.perform, same]
        refine ⟨fun mine member => ?_, h.works, h.stocks⟩
        rcases List.mem_append.mp member with earlier | opened
        · exact h.yields mine earlier
        · rw [List.mem_singleton.mp opened]
          exact ⟨.atLeast_rounded yieldRate, atLeast_not_neg _⟩
      · rw [Operation.perform, same]
        exact h
  | addRefinery efficiency =>
      rcases addRefinery_cases efficiency e with ⟨-, same⟩ | ⟨-, same⟩
      · rw [Operation.perform, same]
        refine ⟨h.yields, fun refinery member => ?_, h.stocks⟩
        rcases List.mem_append.mp member with earlier | opened
        · exact h.works refinery earlier
        · rw [List.mem_singleton.mp opened]
          exact .unit efficiency
      · rw [Operation.perform, same]
        exact h
  | setPopulation rebellion npcs =>
      rcases setPopulation_cases rebellion npcs e with
        ⟨-, same⟩ | ⟨-, ⟨failure, -, same⟩ | ⟨n, -, same⟩⟩
      all_goals
        rw [Operation.perform, same]
        exact h.of_same rfl rfl rfl
  | tick trauma => exact h.tick trauma
  | advance times trauma =>
      simp only [Operation.perform, Outcome.map, Economy.advance]
      cases times.toInt with
      | ok n => exact h.ticks trauma _
      | error failure => exact h
  | cleanse => exact h.of_same rfl rfl rfl

theorem after (ops : List (Operation Amount)) : (after Operation.perform ops e).Solvent :=
  after_induction (P := Solvent) (fun op _ kept => kept.perform op) ops h

theorem ticksFrom (trauma : Option Amount) (more : Nat) :
    ∀ t ∈ Economy.ticksFrom trauma more e, t.before.Solvent := by
  induction more generalizing e with
  | zero =>
      intro t member
      rw [List.mem_singleton.mp member]
      exact h
  | succ more ih =>
      intro t member
      rw [Economy.ticksFrom, List.mem_cons] at member
      rcases member with rfl | later
      · exact h
      · split at later
        · exact ih (h.tick trauma) t later
        · cases later

/-- Every tick of a run starts from stocks that are not below zero, those within an advance too. -/
theorem history (ops : List (Operation Amount)) : ∀ t ∈ history ops e, t.before.Solvent := by
  induction ops generalizing e with
  | nil => simp [Economy.history]
  | cons op ops ih =>
      intro t member
      rcases List.mem_append.mp member with now | later
      · rcases op.ticks_cases e with ⟨trauma, more, ticks, -⟩ | ⟨none, -⟩
        · rw [ticks] at now
          exact h.ticksFrom trauma more t now
        · rw [none] at now
          cases now
      · exact ih (h.perform op) t later

end Solvent

end Colony.Economy

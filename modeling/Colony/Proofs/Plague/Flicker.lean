import Mathlib.Tactic.Linarith
import Mathlib.Tactic.Ring
import Colony.Proofs.Plague.Band
import Colony.Proofs.Rational

/-!
# The heart does not flicker

In exact numbers a tick moves the counter by at most one rate.  The two
thresholds lie apart, so a heart that awakens stays awake for as many ticks as
the decay needs to cross the gap, and one that a tick puts to sleep stays
asleep for as many as the growth needs.  From an empty counter the ceiling is
reached after exactly as many growing ticks as the growth needs to fill it.
-/

namespace Colony.Plague

section Counting

variable {α : Type} [Scalar α]

def Operation.isTick : Operation α → Bool
  | .tick _ _ _ => true
  | .cleanse => false

def Operation.accumulates (c : Config α) : Operation α → Bool
  | .tick rebellion trauma _ => grows c rebellion trauma
  | .cleanse => false

def ticksIn (ops : List (Operation α)) : Nat := ops.countP (·.isTick)

omit [Scalar α] in
theorem ticksIn_cons (op : Operation α) (ops : List (Operation α)) :
    ticksIn (op :: ops) = ticksIn [op] + ticksIn ops := by
  simp [ticksIn, List.countP_cons, Nat.add_comm]

def Awakens (c : Config α) (op : Operation α) (s : State α) : Prop :=
  s.heart = false ∧ (op.perform c s).state.heart = true

def FallsAsleep (c : Config α) (op : Operation α) (s : State α) : Prop :=
  s.heart = true ∧ (op.perform c s).state.heart = false

end Counting

variable {c : Config Rat} {s : State Rat} {op : Operation Rat} {ops : List (Operation Rat)}

/-! ## One operation -/

theorem nextCounter_rat (c : Config Rat) (grew : Bool) (x : Rat) :
    nextCounter c grew x =
      max 0 (min c.heartThreshold (if grew then x + c.growth else x - c.decay)) := by
  rw [nextCounter, clamp_rat, movedCounter]

theorem nextCounter_growing (positive : 0 < c.heartThreshold) (growth : 0 ≤ c.growth) {x : Rat}
    (nonneg : 0 ≤ x) : nextCounter c true x = min c.heartThreshold (x + c.growth) := by
  rw [nextCounter_rat, if_pos rfl]
  exact max_eq_right (le_min positive.le (by linarith))

/-- Once the ceiling is reached, nothing that is added counts. -/
theorem filled_further (growth : 0 ≤ c.growth) (x : Rat) (k : Nat) :
    min c.heartThreshold (min c.heartThreshold (x + c.growth) + k * c.growth) =
      min c.heartThreshold (x + (k + 1 : Nat) * c.growth) := by
  have more : 0 ≤ (k : Rat) * c.growth := by positivity
  rw [Nat.cast_succ]
  rcases le_total c.heartThreshold (x + c.growth) with full | room
  · rw [min_eq_left full, min_eq_left (by linarith), min_eq_left (by linarith)]
  · rw [min_eq_right room]
    congr 1
    ring

/-- No tick overflows, so the plague moves also where the number of the tick cannot be read. -/
theorem state_tick_rat (c : Config Rat) (rebellion trauma : Rat) (number : Value Rat)
    (s : State Rat) :
    ∃ last, ((Operation.tick rebellion trauma number).perform c s).state =
      { advance c rebellion trauma s with lastTick := last } := by
  simp only [Operation.perform, Outcome.map, tickAs, move, overflown_rat, Bool.false_eq_true,
    if_false, Outcome.done_andThen]
  cases number.toInt with
  | error failure => exact ⟨s.lastTick, rfl⟩
  | ok n => exact ⟨n, rfl⟩

theorem counter_tick_rat (c : Config Rat) (rebellion trauma : Rat) (number : Value Rat)
    (s : State Rat) :
    ((Operation.tick rebellion trauma number).perform c s).state.counter =
      nextCounter c (grows c rebellion trauma) s.counter := by
  obtain ⟨last, moved⟩ := state_tick_rat c rebellion trauma number s
  rw [moved]
  rfl

theorem heart_tick_rat (c : Config Rat) (rebellion trauma : Rat) (number : Value Rat)
    (s : State Rat) :
    let next := ((Operation.tick rebellion trauma number).perform c s).state
    next.heart = nextHeart c s.heart next.counter := by
  obtain ⟨last, moved⟩ := state_tick_rat c rebellion trauma number s
  rw [moved]
  rfl

theorem counter_cleanse_le (h : Band c s) :
    ((Operation.cleanse).perform c s).state.counter ≤ s.counter := by
  rcases state_cleanse s with kept | ⟨-, emptied⟩
  · exact le_of_eq (congrArg State.counter kept)
  · have empty : ((Operation.cleanse).perform c s).state.counter = 0 :=
      congrArg State.counter emptied
    rw [empty]
    exact h.nonneg

theorem awakens_iff :
    Awakens c op s ↔ op.isTick = true ∧ s.heart = false ∧
      c.heartThreshold ≤ (op.perform c s).state.counter := by
  cases op with
  | tick rebellion trauma number =>
      simp only [Awakens, heart_tick_rat, Operation.isTick, true_and]
      refine and_congr_right fun asleep => ?_
      simp [asleep, nextHeart]
  | cleanse =>
      constructor
      · rintro ⟨asleep, awake⟩
        simp [Operation.perform, Outcome.map, Plague.cleanse, asleep] at awake
      · rintro ⟨tick, -⟩
        cases tick

theorem counter_lt_of_fallsAsleep (tick : op.isTick = true) (h : FallsAsleep c op s) :
    (op.perform c s).state.counter < c.clearThreshold := by
  cases op with
  | tick rebellion trauma number =>
      obtain ⟨awake, asleep⟩ := h
      rw [heart_tick_rat, awake] at asleep
      simpa [nextHeart] using asleep
  | cleanse => cases tick

section Rates

variable (growth : 0 < c.growth) (decay : 0 < c.decay)
include growth decay

theorem counter_perform_le (h : Band c s) (op : Operation Rat) :
    (op.perform c s).state.counter ≤ s.counter + ticksIn [op] * c.growth := by
  have nonneg : 0 ≤ s.counter := h.nonneg
  cases op with
  | tick rebellion trauma number =>
      rw [counter_tick_rat, nextCounter_rat]
      simp only [ticksIn, List.countP_singleton, Operation.isTick, if_true, Nat.cast_one, one_mul]
      refine max_le (by linarith) (min_le_of_right_le ?_)
      split <;> linarith
  | cleanse => simpa [ticksIn, Operation.isTick] using counter_cleanse_le h

theorem le_counter_perform (h : Band c s) (tick : op.isTick = true) :
    s.counter - c.decay ≤ (op.perform c s).state.counter := by
  have ceiling : s.counter ≤ c.heartThreshold := h.le_ceiling
  cases op with
  | tick rebellion trauma number =>
      rw [counter_tick_rat, nextCounter_rat]
      refine le_max_of_le_right (le_min (by linarith) ?_)
      split <;> linarith
  | cleanse => cases tick

end Rates

/-! ## Runs -/

section Runs

variable (positive : 0 < c.heartThreshold) (ordered : c.clearThreshold ≤ c.heartThreshold)
variable (growth : 0 < c.growth) (decay : 0 < c.decay)
include positive ordered growth decay

theorem counter_after_le (h : Band c s) (ops : List (Operation Rat)) :
    (after (Operation.perform c) ops s).counter ≤ s.counter + ticksIn ops * c.growth := by
  induction ops generalizing s with
  | nil => simp [ticksIn]
  | cons op ops ih =>
      have first := counter_perform_le growth decay h op
      have rest := ih (h.perform positive ordered op)
      rw [after_cons, ticksIn_cons, Nat.cast_add, add_mul]
      linarith

theorem le_counter_after (h : Band c s) (ticks : ∀ op ∈ ops, op.isTick = true) :
    s.counter - ops.length * c.decay ≤ (after (Operation.perform c) ops s).counter := by
  induction ops generalizing s with
  | nil => simp
  | cons op ops ih =>
      have first := le_counter_perform growth decay h (ticks op (by simp))
      have rest := ih (h.perform positive ordered op) fun op member => ticks op (by simp [member])
      rw [after_cons, List.length_cons, Nat.cast_succ, add_mul, one_mul]
      linarith

/-- Whatever a run does, the heart is awake only if the ticks made so far could fill the counter.
The induction carries the number of ticks made before. -/
theorem le_of_awake {made : Nat} (h : Band c s) (filled : s.counter ≤ made * c.growth)
    (before : s.heart = true → c.heartThreshold ≤ made * c.growth) (ops : List (Operation Rat))
    (awake : (after (Operation.perform c) ops s).heart = true) :
    c.heartThreshold ≤ (made + ticksIn ops : Nat) * c.growth := by
  induction ops generalizing s made with
  | nil => simpa [ticksIn] using before awake
  | cons op ops ih =>
      have first := counter_perform_le growth decay h op
      have more : 0 ≤ (ticksIn [op] : Rat) * c.growth := by positivity
      have split : ((made + ticksIn [op] : Nat) : Rat) * c.growth =
          made * c.growth + ticksIn [op] * c.growth := by
        rw [Nat.cast_add, add_mul]
      have filled' : (op.perform c s).state.counter ≤ (made + ticksIn [op] : Nat) * c.growth := by
        linarith
      have before' (awake : (op.perform c s).state.heart = true) :
          c.heartThreshold ≤ (made + ticksIn [op] : Nat) * c.growth := by
        cases asleep : s.heart with
        | false =>
            obtain ⟨-, -, reached⟩ := awakens_iff.mp ⟨asleep, awake⟩
            exact reached.trans filled'
        | true =>
            have reached := before asleep
            linarith
      have rest := ih (h.perform positive ordered op) filled' before' awake
      rwa [ticksIn_cons, ← Nat.add_assoc]

omit decay in
theorem counter_after_growing (h : Band c s) (grow : ∀ op ∈ ops, op.accumulates c = true) :
    (after (Operation.perform c) ops s).counter =
      min c.heartThreshold (s.counter + ops.length * c.growth) := by
  induction ops generalizing s with
  | nil =>
      have ceiling : s.counter ≤ c.heartThreshold := h.le_ceiling
      simp [ceiling]
  | cons op ops ih =>
      have first : (op.perform c s).state.counter =
          min c.heartThreshold (s.counter + c.growth) := by
        have grew := grow op (by simp)
        cases op with
        | tick rebellion trauma number =>
            have grew : grows c rebellion trauma = true := grew
            rw [counter_tick_rat, grew, nextCounter_growing positive growth.le h.nonneg]
        | cleanse => cases grew
      have rest := ih (h.perform positive ordered op) fun op member => grow op (by simp [member])
      rw [after_cons, rest, first, List.length_cons, filled_further growth.le]

end Runs

/-! ## Transitions are apart -/

/-- How far apart the transitions are of a run that goes on from a state. -/
structure Apart (c : Config Rat) (s : State Rat) : Prop where
  awake : ∀ (wake sleep : Operation Rat) (between : List (Operation Rat)),
    (∀ op ∈ between, op.isTick = true) → sleep.isTick = true → Awakens c wake s →
      FallsAsleep c sleep (after (Operation.perform c) (wake :: between) s) →
        c.heartThreshold - c.clearThreshold < (between.length + 1 : Nat) * c.decay
  asleep : ∀ (sleep wake : Operation Rat) (between : List (Operation Rat)),
    sleep.isTick = true → FallsAsleep c sleep s →
      Awakens c wake (after (Operation.perform c) (sleep :: between) s) →
        c.heartThreshold - c.clearThreshold < (ticksIn between + 1 : Nat) * c.growth

/-- What it takes to awaken the heart from an empty counter. -/
structure FillsUp (c : Config Rat) (s : State Rat) : Prop where
  waits : ∀ ops, (after (Operation.perform c) ops s).heart = true →
    c.heartThreshold ≤ ticksIn ops * c.growth
  grown : ∀ ops, (∀ op ∈ ops, op.accumulates c = true) →
    (after (Operation.perform c) ops s).counter = min c.heartThreshold (ops.length * c.growth) ∧
    ((after (Operation.perform c) ops s).heart = true ↔
      c.heartThreshold ≤ ops.length * c.growth)

section Theorem

variable (positive : 0 < c.heartThreshold) (ordered : c.clearThreshold ≤ c.heartThreshold)
variable (growth : 0 < c.growth) (decay : 0 < c.decay)
include positive ordered growth decay

theorem Band.apart (h : Band c s) : Apart c s where
  awake wake sleep between ticks tick awakens falls := by
    obtain ⟨-, -, reached⟩ := awakens_iff.mp awakens
    have low := counter_lt_of_fallsAsleep tick falls
    have started := h.perform positive ordered wake
    have allTicks : ∀ op ∈ between ++ [sleep], op.isTick = true := by
      simpa [or_imp, forall_and] using ⟨ticks, tick⟩
    have drop := le_counter_after positive ordered growth decay started allTicks
    simp only [after, List.foldl_append, List.foldl_cons, List.foldl_nil, List.length_append,
      List.length_singleton] at drop low
    linarith
  asleep sleep wake between tick falls awakens := by
    obtain ⟨waking, -, reached⟩ := awakens_iff.mp awakens
    have low := counter_lt_of_fallsAsleep tick falls
    have started := h.perform positive ordered sleep
    have climb := counter_after_le positive ordered growth decay started (between ++ [wake])
    have counted : ticksIn (between ++ [wake]) = ticksIn between + 1 := by
      simp [ticksIn, waking]
    rw [counted] at climb
    simp only [after, List.foldl_append, List.foldl_cons, List.foldl_nil] at climb reached
    linarith

theorem Band.fillsUp (h : Band c s) (empty : s.counter = 0) (sleeps : s.heart = false) :
    FillsUp c s := by
  have waits : ∀ ops, (after (Operation.perform c) ops s).heart = true →
      c.heartThreshold ≤ ticksIn ops * c.growth := by
    intro ops awake
    have unfilled : s.counter ≤ (0 : Nat) * c.growth := by simp [empty]
    have filled := le_of_awake positive ordered growth decay h unfilled (by simp [sleeps]) ops awake
    simpa using filled
  refine ⟨waits, fun ops grow => ?_⟩
  have counter := counter_after_growing positive ordered growth h grow
  rw [empty, zero_add] at counter
  have banded := after_induction (fun op _ => Band.perform positive ordered op) ops h
  have all : ticksIn ops = ops.length := by
    refine List.countP_eq_length.mpr fun op member => ?_
    have grew := grow op member
    cases op with
    | tick rebellion trauma number => rfl
    | cleanse => cases grew
  refine ⟨counter, fun awake => all ▸ waits ops awake, fun full => ?_⟩
  by_contra asleep
  have below := (banded.asleep (eq_false_of_ne_true asleep)).1
  rw [counter, min_eq_left full] at below
  exact lt_irrefl _ below

end Theorem

/-- A heart that awakens stays awake for more ticks than the decay needs to cross the gap between
the thresholds, and one that a tick puts to sleep stays asleep for more than the growth needs.
From the start, or after a cleansing, it awakens with the tick at which the growth has filled the
counter, and never before. -/
theorem transitions_apart (c : Config Rat) (positive : 0 < c.heartThreshold)
    (ordered : c.clearThreshold ≤ c.heartThreshold) (growth : 0 < c.growth) (decay : 0 < c.decay)
    (ops : List (Operation Rat)) :
    let s := after (Operation.perform c) ops .fresh
    Apart c s ∧ FillsUp c .fresh ∧
      (s.heart = true → FillsUp c ((Operation.cleanse).perform c s).state) := by
  intro s
  have fresh : Band c .fresh := .of_empty positive rfl rfl rfl
  have banded : Band c s := after_induction (fun op _ => Band.perform positive ordered op) ops fresh
  refine ⟨banded.apart positive ordered growth decay,
    fresh.fillsUp positive ordered growth decay rfl rfl, fun awake => ?_⟩
  have emptied : ((Operation.cleanse).perform c s).state = cleansed s := by
    simp [Operation.perform, Outcome.map, Plague.cleanse, awake]
  have cleansedBand := banded.perform positive ordered .cleanse
  rw [emptied] at cleansedBand ⊢
  exact cleansedBand.fillsUp positive ordered growth decay rfl rfl

/-- The heart awakens on the second tick, bears a calm one whose number cannot be read, and falls
asleep on the next. -/
theorem transitions_apart_by_two :
    let c : Config Rat :=
      { growth := 2
        decay := 1
        heartThreshold := 3
        clearThreshold := 2
        throttle := 0.5
        rebellionTrigger := 0.35
        traumaTrigger := 0.4
        warningLevel := 2 }
    let wake : Operation Rat := .tick 0.9 0.9 (.int 2)
    let calm : Operation Rat := .tick 0.1 0.9 .null
    let s := after (Operation.perform c) [.tick 0.9 0.9 (.int 1)] .fresh
    (0 < c.heartThreshold ∧ c.clearThreshold ≤ c.heartThreshold ∧ 0 < c.growth ∧ 0 < c.decay) ∧
      Awakens c wake s ∧ FallsAsleep c calm (after (Operation.perform c) [wake, calm] s) ∧
      c.heartThreshold - c.clearThreshold < (1 + 1 : Nat) * c.decay ∧
      FillsUp c ((Operation.cleanse).perform c
        (after (Operation.perform c) [.tick 0.9 0.9 (.int 1), wake] .fresh)).state := by
  intro c wake calm s
  have positive : 0 < c.heartThreshold := by decide +kernel
  have ordered : c.clearThreshold ≤ c.heartThreshold := by decide +kernel
  have growth : 0 < c.growth := by decide +kernel
  have decay : 0 < c.decay := by decide +kernel
  have awakens : Awakens c wake s := ⟨by decide +kernel, by decide +kernel⟩
  have falls : FallsAsleep c calm (after (Operation.perform c) [wake, calm] s) :=
    ⟨by decide +kernel, by decide +kernel⟩
  obtain ⟨apart, -, -⟩ := transitions_apart c positive ordered growth decay
    [.tick 0.9 0.9 (.int 1)]
  obtain ⟨-, -, emptied⟩ := transitions_apart c positive ordered growth decay
    [.tick 0.9 0.9 (.int 1), wake]
  refine ⟨⟨positive, ordered, growth, decay⟩, awakens, falls, ?_, emptied awakens.2⟩
  exact apart.awake wake calm [calm] (by decide) rfl awakens falls

end Colony.Plague

import Colony.Proofs.Plague.Flicker

/-!
# Worse populations

Two plagues under one configuration tick side by side, and the population of
the second is at no tick less rebellious or less traumatised than that of the
first.  In exact numbers the second plague is then never the milder one: its
counter is at least as high, and its heart is awake whenever that of the first
is.  The heart remembers, but the counter decides which way it can turn, so the
two facts carry each other from tick to tick.
-/

namespace Colony.Plague

variable {c : Config Rat} {s s' : State Rat}

/-- A tick of a population that is no less rebellious and no less traumatised.  The numbers of the
ticks play no part. -/
inductive Operation.Worsens : Operation Rat → Operation Rat → Prop where
  | tick {rebellion rebellion' trauma trauma' : Rat} (number number' : Value Rat)
      (rebels : rebellion ≤ rebellion') (hurt : trauma ≤ trauma') :
      Worsens (.tick rebellion trauma number) (.tick rebellion' trauma' number')

/-- The second plague is at least as bad as the first. -/
structure NoMilder (s s' : State Rat) : Prop where
  counter : s.counter ≤ s'.counter
  heart : s.heart = true → s'.heart = true

/-! ## One tick -/

theorem grows_mono {rebellion rebellion' trauma trauma' : Rat} (rebels : rebellion ≤ rebellion')
    (hurt : trauma ≤ trauma') (grew : grows c rebellion trauma = true) :
    grows c rebellion' trauma' = true := by
  simp only [grows, Bool.and_eq_true, decide_eq_true_eq] at grew ⊢
  exact ⟨lt_of_lt_of_le grew.1 rebels, lt_of_lt_of_le grew.2 hurt⟩

section Rates

variable (growth : 0 ≤ c.growth) (decay : 0 ≤ c.decay)
include growth decay

/-- A counter that is behind stays behind: it never grows while the other one decays. -/
theorem nextCounter_mono {grew grew' : Bool} (more : grew = true → grew' = true) {x y : Rat}
    (behind : x ≤ y) : nextCounter c grew x ≤ nextCounter c grew' y := by
  have moved : (if grew then x + c.growth else x - c.decay) ≤
      if grew' then y + c.growth else y - c.decay := by
    cases grew with
    | true =>
        rw [more rfl, if_pos rfl, if_pos rfl]
        linarith
    | false =>
        cases grew' with
        | true =>
            simp only [Bool.false_eq_true, if_false, if_true]
            linarith
        | false =>
            simp only [Bool.false_eq_true, if_false]
            linarith
  rw [nextCounter_rat, nextCounter_rat]
  exact max_le_max le_rfl (min_le_min le_rfl moved)

end Rates

/-- The first heart is awake because its counter is not below the clear threshold or has reached the
ceiling, and then neither is the second counter. -/
theorem nextHeart_mono (ordered : c.clearThreshold ≤ c.heartThreshold) {heart heart' : Bool}
    (more : heart = true → heart' = true) {x y : Rat} (behind : x ≤ y)
    (awake : nextHeart c heart x = true) : nextHeart c heart' y = true := by
  have cleared : c.clearThreshold ≤ y := by
    have defined : Scalar.Defined x := Exact.noConfusion
    exact (Band.clear_le_of_nextHeart ordered defined awake).trans behind
  cases heart' with
  | true => simpa [nextHeart] using cleared
  | false =>
      cases heart with
      | true => cases more rfl
      | false =>
          have reached : c.heartThreshold ≤ x := by simpa [nextHeart] using awake
          simpa [nextHeart] using reached.trans behind

theorem NoMilder.perform (ordered : c.clearThreshold ≤ c.heartThreshold) (growth : 0 ≤ c.growth)
    (decay : 0 ≤ c.decay) (h : NoMilder s s') {op op' : Operation Rat} (worse : op.Worsens op') :
    NoMilder (op.perform c s).state (op'.perform c s').state := by
  cases worse with
  | @tick rebellion rebellion' trauma trauma' number number' rebels hurt =>
      have counter : ((Operation.tick rebellion trauma number).perform c s).state.counter ≤
          ((Operation.tick rebellion' trauma' number').perform c s').state.counter := by
        rw [counter_tick_rat, counter_tick_rat]
        exact nextCounter_mono growth decay (grows_mono rebels hurt) h.counter
      refine ⟨counter, ?_⟩
      rw [heart_tick_rat, heart_tick_rat]
      exact nextHeart_mono ordered h.heart counter

/-! ## Runs -/

theorem NoMilder.transcript (ordered : c.clearThreshold ≤ c.heartThreshold)
    (growth : 0 ≤ c.growth) (decay : 0 ≤ c.decay) (h : NoMilder s s')
    {ops ops' : List (Operation Rat)} (worse : List.Forall₂ Operation.Worsens ops ops') :
    List.Forall₂ (fun step step' => NoMilder step.2 step'.2)
      (transcript (Operation.perform c) ops s) (transcript (Operation.perform c) ops' s') := by
  induction worse generalizing s s' with
  | nil => exact .nil
  | cons first _ ih =>
      have next := h.perform ordered growth decay first
      exact .cons next (ih next)

/-- After every tick, also one whose number cannot be read, the plague of the worse population is at
least as bad.  Where the ceiling is, be it below zero, plays no part. -/
theorem never_milder (c : Config Rat) (ordered : c.clearThreshold ≤ c.heartThreshold)
    (growth : 0 ≤ c.growth) (decay : 0 ≤ c.decay) {ops ops' : List (Operation Rat)}
    (worse : List.Forall₂ Operation.Worsens ops ops') :
    List.Forall₂ (fun step step' => NoMilder step.2 step'.2)
      (transcript (Operation.perform c) ops .fresh)
      (transcript (Operation.perform c) ops' .fresh) :=
  NoMilder.transcript ordered growth decay ⟨le_rfl, id⟩ worse

/-- Two slightly worse ticks awaken a heart that sleeps in the first run, and a calm one whose
number cannot be read leaves it awake. -/
theorem never_milder_awake :
    let c : Config Rat :=
      { growth := 2
        decay := 1
        heartThreshold := 3
        clearThreshold := 2
        throttle := 0.5
        rebellionTrigger := 0.35
        traumaTrigger := 0.4
        warningLevel := 2 }
    let ops : List (Operation Rat) :=
      [.tick 0.9 0.4 (.int 1), .tick 0.5 0.5 (.int 2), .tick 0.2 0.1 (.int 3)]
    let ops' : List (Operation Rat) :=
      [.tick 0.9 0.5 (.int 7), .tick 0.5 0.5 .null, .tick 0.3 0.9 .null]
    (c.clearThreshold ≤ c.heartThreshold ∧ 0 ≤ c.growth ∧ 0 ≤ c.decay) ∧
      List.Forall₂ Operation.Worsens ops ops' ∧
      List.Forall₂ (fun step step' => NoMilder step.2 step'.2)
        (transcript (Operation.perform c) ops .fresh)
        (transcript (Operation.perform c) ops' .fresh) ∧
      (after (Operation.perform c) ops .fresh).heart = false ∧
      (after (Operation.perform c) ops' .fresh).heart = true := by
  intro c ops ops'
  have ordered : c.clearThreshold ≤ c.heartThreshold := by decide +kernel
  have growth : 0 ≤ c.growth := by decide +kernel
  have decay : 0 ≤ c.decay := by decide +kernel
  have worse : List.Forall₂ Operation.Worsens ops ops' :=
    .cons (.tick _ _ (by decide +kernel) (by decide +kernel))
      (.cons (.tick _ _ (by decide +kernel) (by decide +kernel))
        (.cons (.tick _ _ (by decide +kernel) (by decide +kernel)) .nil))
  refine ⟨⟨ordered, growth, decay⟩, worse, never_milder c ordered growth decay worse, ?_, ?_⟩
  · decide +kernel
  · decide +kernel

end Colony.Plague

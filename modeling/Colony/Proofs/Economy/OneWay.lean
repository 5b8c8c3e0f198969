import Colony.Proofs.Economy.Mirror
import Colony.Proofs.Economy.Tick
import Colony.Proofs.Plague.Flicker

/-!
# Advancing drives the plague one way

While the economy is advanced, its population stays as it was told last, so
every tick of the advance moves the plague the same way.  In exact numbers the
counter climbs to the ceiling or sinks to zero at an even pace, and the heart
turns at most once, the way the counter goes.  That needs the band of the
plague: a heart that is awake is not below the clear threshold, so a climb does
not put it to sleep, and one that sleeps is not at the ceiling, so a decline
does not awaken it.
-/

namespace Colony

/-! ## Hearts that have turned -/

namespace Plague

variable {c : Config Rat} {s : State Rat}

theorem nextCounter_decaying (decay : 0 ≤ c.decay) {x : Rat} (below : x ≤ c.heartThreshold) :
    nextCounter c false x = max 0 (x - c.decay) := by
  have room : x - c.decay ≤ c.heartThreshold := by linarith
  rw [nextCounter_rat, if_neg Bool.false_ne_true, min_eq_right room]

/-- Once the counter is empty, nothing that is taken away counts. -/
theorem drained_further (decay : 0 ≤ c.decay) (x : Rat) (k : Nat) :
    max 0 (max 0 (x - c.decay) - k * c.decay) = max 0 (x - (k + 1 : Nat) * c.decay) := by
  have more : 0 ≤ (k : Rat) * c.decay := by positivity
  rw [Nat.cast_succ]
  rcases le_total (x - c.decay) 0 with empty | left
  · rw [max_eq_left empty, max_eq_left (by linarith), max_eq_left (by linarith)]
  · rw [max_eq_right left]
    congr 1
    ring

/-- A heart that is the way a tick drives it stays that way. -/
theorem Band.heart_settled (positive : 0 < c.heartThreshold) (growth : 0 ≤ c.growth)
    (decay : 0 ≤ c.decay) (h : Band c s) {grew : Bool} (settled : s.heart = grew) :
    nextHeart c s.heart (nextCounter c grew s.counter) = grew := by
  have ceiling : s.counter ≤ c.heartThreshold := h.le_ceiling
  rw [settled]
  cases grew with
  | true =>
      have clear : c.clearThreshold ≤ s.counter := (h.awake settled).1
      have higher : c.clearThreshold ≤ min c.heartThreshold (s.counter + c.growth) :=
        clear.trans (le_min ceiling (by linarith))
      rw [nextCounter_growing positive growth h.nonneg]
      simpa [nextHeart] using higher
  | false =>
      have below : s.counter < c.heartThreshold := (h.asleep settled).1
      have lower : max 0 (s.counter - c.decay) < c.heartThreshold :=
        max_lt positive (by linarith)
      rw [nextCounter_decaying decay ceiling]
      simpa [nextHeart] using lower

end Plague

namespace Economy

/-! ## What a call keeps -/

/-- An economy whose plague is within its band, which every call keeps. -/
structure Banded (c : Plague.Config Rat) (e : Economy Rat) : Prop where
  config : e.plagueConfig = c
  band : Plague.Band c e.plague

namespace Banded

variable {c : Plague.Config Rat} {e : Economy Rat}
variable (positive : 0 < c.heartThreshold) (ordered : c.clearThreshold ≤ c.heartThreshold)
include positive ordered

theorem ticked (h : Banded c e) (trauma : Option Rat) : Banded c (e.ticked trauma) := by
  refine ⟨h.config, ?_⟩
  have moved :=
    Plague.Band.advance positive ordered e.status.rebellion (e.feltTrauma trauma) e.plague
  rw [← h.config] at moved ⊢
  exact moved.withLastTick _

theorem ticks (h : Banded c e) (trauma : Option Rat) (more : Nat) :
    Banded c (e.ticks trauma more).state := by
  induction more generalizing e with
  | zero =>
      rw [Economy.ticks, state_tick]
      exact h.ticked positive ordered trauma
  | succ more ih =>
      rw [state_ticks_succ]
      exact ih (h.ticked positive ordered trauma)

theorem within (h : Banded c e) (op : Plague.Operation Rat) :
    Banded c ((Call.within op).perform e).state := by
  have kept := h.band.perform positive ordered op
  rw [← h.config] at kept ⊢
  exact ⟨rfl, kept⟩

theorem perform (h : Banded c e) (call : Call Rat) : Banded c (call.perform e).state := by
  cases call with
  | within op => exact h.within positive ordered op
  | own op =>
      cases op with
      | addMine yieldRate => exact ⟨h.config, h.band⟩
      | addRefinery efficiency => exact ⟨h.config, h.band⟩
      | setPopulation rebellion npcs =>
          simp only [Call.perform, Operation.perform, Outcome.map, setPopulation_rat]
          cases npcs.toInt with
          | error failure => exact ⟨h.config, h.band⟩
          | ok n => exact ⟨h.config, h.band⟩
      | tick trauma => exact h.ticks positive ordered trauma 0
      | advance times trauma =>
          simp only [Call.perform, Operation.perform, Outcome.map, Economy.advance]
          cases times.toInt with
          | ok n => exact h.ticks positive ordered trauma _
          | error failure => exact h
      | cleanse => exact h.within positive ordered .cleanse

end Banded

/-! ## The ticks of an advance -/

variable {c : Plague.Config Rat} {e : Economy Rat}

/-- The way every tick of an advance moves the plague, for no tick changes the population. -/
def drives (trauma : Option Rat) (e : Economy Rat) : Bool :=
  Plague.grows e.plagueConfig e.status.rebellion (e.feltTrauma trauma)

theorem drives_ticked (trauma : Option Rat) (e : Economy Rat) :
    (e.ticked trauma).drives trauma = e.drives trauma := by
  cases trauma <;> rfl

theorem length_ticksFrom (trauma : Option Rat) (more : Nat) (e : Economy Rat) :
    (ticksFrom trauma more e).length = more + 1 := by
  induction more generalizing e with
  | zero => rw [ticksFrom_zero_rat, List.length_singleton]
  | succ more ih => rw [ticksFrom_succ_rat, List.length_cons, ih]

theorem answer_ticks (trauma : Option Rat) (more : Nat) (e : Economy Rat) :
    (e.ticks trauma more).answer = .ok (e.ticks trauma more).state.status := by
  induction more generalizing e with
  | zero => rw [ticks, answer_tick, state_tick]
  | succ more ih =>
      have rest := ih (e.ticked trauma)
      rw [ticks, Outcome.answer_andThen_of_ok (answer_tick trauma e),
        Outcome.state_andThen_of_ok (answer_tick trauma e), state_tick]
      exact rest

theorem mirrors_ticks (trauma : Option Rat) (more : Nat) (e : Economy Rat) :
    Mirrors (e.ticks trauma more).state.status (e.ticks trauma more).state.plague := by
  induction more generalizing e with
  | zero =>
      rw [ticks, state_tick]
      exact ⟨rfl, rfl, rfl⟩
  | succ more ih =>
      rw [state_ticks_succ]
      exact ih (e.ticked trauma)

section Rates

variable (positive : 0 < c.heartThreshold) (ordered : c.clearThreshold ≤ c.heartThreshold)
variable (growth : 0 ≤ c.growth) (decay : 0 ≤ c.decay)

theorem Banded.counter_ticked (h : Banded c e) (trauma : Option Rat) :
    (e.ticked trauma).plague.counter = Plague.nextCounter c (e.drives trauma) e.plague.counter := by
  rw [← h.config]
  rfl

include positive ordered

include growth in
theorem Banded.counter_growing (h : Banded c e) {trauma : Option Rat}
    (grows : e.drives trauma = true) (more : Nat) :
    (e.ticks trauma more).state.plague.counter =
      min c.heartThreshold (e.plague.counter + (more + 1 : Nat) * c.growth) := by
  induction more generalizing e with
  | zero =>
      rw [Economy.ticks, state_tick, h.counter_ticked, grows,
        Plague.nextCounter_growing positive growth h.band.nonneg, Nat.zero_add, Nat.cast_one,
        one_mul]
  | succ more ih =>
      rw [state_ticks_succ,
        ih (h.ticked positive ordered trauma) ((drives_ticked trauma e).trans grows),
        h.counter_ticked, grows, Plague.nextCounter_growing positive growth h.band.nonneg,
        Plague.filled_further growth]

include decay in
theorem Banded.counter_decaying (h : Banded c e) {trauma : Option Rat}
    (decays : e.drives trauma = false) (more : Nat) :
    (e.ticks trauma more).state.plague.counter =
      max 0 (e.plague.counter - (more + 1 : Nat) * c.decay) := by
  induction more generalizing e with
  | zero =>
      rw [Economy.ticks, state_tick, h.counter_ticked, decays,
        Plague.nextCounter_decaying decay h.band.le_ceiling, Nat.zero_add, Nat.cast_one,
        one_mul]
  | succ more ih =>
      rw [state_ticks_succ,
        ih (h.ticked positive ordered trauma) ((drives_ticked trauma e).trans decays),
        h.counter_ticked, decays, Plague.nextCounter_decaying decay h.band.le_ceiling,
        Plague.drained_further decay]

include growth decay

omit ordered in
theorem Banded.heart_ticked (h : Banded c e) {trauma : Option Rat}
    (settled : e.plague.heart = e.drives trauma) :
    (e.ticked trauma).plague.heart = e.drives trauma := by
  have stays := h.band.heart_settled positive growth decay settled
  rw [← h.config] at stays
  exact stays

theorem Banded.settled_ticksFrom (h : Banded c e) {trauma : Option Rat}
    (settled : e.plague.heart = e.drives trauma) (more : Nat) :
    ∀ t ∈ ticksFrom trauma more e,
      t.before.plague.heart = e.drives trauma ∧ t.after.plague.heart = e.drives trauma := by
  have turned := h.heart_ticked positive growth decay settled
  induction more generalizing e with
  | zero =>
      rw [ticksFrom_zero_rat, List.forall_mem_singleton]
      exact ⟨settled, turned⟩
  | succ more ih =>
      have next := h.ticked positive ordered trauma
      have same := drives_ticked trauma e
      rw [← same] at turned
      have rest := ih next turned (next.heart_ticked positive growth decay turned)
      rw [same] at turned rest
      rw [ticksFrom_succ_rat, List.forall_mem_cons]
      exact ⟨⟨settled, turned⟩, rest⟩

end Rates

def Tick.turns {α : Type} (t : Tick α) : Bool := t.before.plague.heart != t.after.plague.heart

section Turns

variable (positive : 0 < c.heartThreshold) (ordered : c.clearThreshold ≤ c.heartThreshold)
variable (growth : 0 ≤ c.growth) (decay : 0 ≤ c.decay)
include positive growth decay

theorem Banded.heart_of_turns (h : Banded c e) {trauma : Option Rat}
    (turns : (⟨e, e.ticked trauma⟩ : Tick Rat).turns = true) :
    (e.ticked trauma).plague.heart = e.drives trauma := by
  have changed : e.plague.heart ≠ (e.ticked trauma).plague.heart := bne_iff_ne.mp turns
  by_contra other
  -- Of two hearts that differ, the one before the tick was already where the tick drives it.
  have settled : e.plague.heart = e.drives trauma :=
    (Bool.eq_not.mpr changed).trans (Bool.eq_not.mpr (Ne.symm other)).symm
  exact other (h.heart_ticked positive growth decay settled)

include ordered

theorem Banded.turns_ticksFrom (h : Banded c e) (trauma : Option Rat) (more : Nat) :
    (ticksFrom trauma more e).countP (·.turns) ≤ 1 ∧
      ∀ t ∈ ticksFrom trauma more e, t.turns = true → t.after.plague.heart = e.drives trauma := by
  induction more generalizing e with
  | zero =>
      rw [ticksFrom_zero_rat, List.forall_mem_singleton]
      exact ⟨List.countP_le_length, h.heart_of_turns positive growth decay⟩
  | succ more ih =>
      have next := h.ticked positive ordered trauma
      have first : (⟨e, e.ticked trauma⟩ : Tick Rat).turns = true →
          (e.ticked trauma).plague.heart = e.drives trauma :=
        h.heart_of_turns positive growth decay
      obtain ⟨once, way⟩ := ih next
      rw [drives_ticked] at way
      rw [ticksFrom_succ_rat, List.forall_mem_cons, List.countP_cons]
      refine ⟨?_, first, way⟩
      split
      · rename_i turns
        -- The heart has turned, so it stays for all ticks after this one.
        have settled := (first turns).trans (drives_ticked trauma e).symm
        have rest := next.settled_ticksFrom positive ordered growth decay settled more
        have still : (ticksFrom trauma more (e.ticked trauma)).countP (·.turns) = 0 := by
          refine List.countP_eq_zero.mpr fun t member turned => ?_
          obtain ⟨before, after⟩ := rest t member
          exact bne_iff_ne.mp turned (before.trans after.symm)
        omega
      · exact once

end Turns

/-! ## One way -/

/-- The population is rebellious and traumatised enough for the plague to grow. -/
def Ripe (trauma : Option Rat) (e : Economy Rat) : Prop :=
  e.plagueConfig.rebellionTrigger < e.status.rebellion ∧
    e.plagueConfig.traumaTrigger <
      trauma.elim (1 - e.status.rebellion) fun given => max 0 (min 1 given)

theorem drives_iff_ripe {trauma : Option Rat} : e.drives trauma = true ↔ e.Ripe trauma := by
  rw [drives, Plague.grows, Bool.and_eq_true, decide_eq_true_iff, decide_eq_true_iff]
  cases trauma with
  | none => rfl
  | some given =>
      rw [feltTrauma, Option.elim_some, unit_rat]
      rfl

/-- What advancing by some ticks comes to. -/
structure OneWay (times : Value Rat) (n : Nat) (trauma : Option Rat) (e : Economy Rat) : Prop where
  answer : (e.advance times trauma).answer = .ok (e.advance times trauma).state.status
  shown : Mirrors (e.advance times trauma).state.status (e.advance times trauma).state.plague
  tickCount : (e.advance times trauma).state.status.tickCount = e.status.tickCount + n
  grown : e.Ripe trauma → (e.advance times trauma).state.plague.counter =
    min e.plagueConfig.heartThreshold (e.plague.counter + n * e.plagueConfig.growth)
  decayed : ¬ e.Ripe trauma → (e.advance times trauma).state.plague.counter =
    max 0 (e.plague.counter - n * e.plagueConfig.decay)
  made : ((Operation.advance times trauma).ticks e).length = n
  turnsOnce : ((Operation.advance times trauma).ticks e).countP (·.turns) ≤ 1
  awakens : ∀ t ∈ (Operation.advance times trauma).ticks e,
    t.before.plague.heart = false → t.after.plague.heart = true → e.Ripe trauma
  fallsAsleep : ∀ t ∈ (Operation.advance times trauma).ticks e,
    t.before.plague.heart = true → t.after.plague.heart = false → ¬ e.Ripe trauma

theorem Banded.oneWay {c : Plague.Config Rat} (positive : 0 < c.heartThreshold)
    (ordered : c.clearThreshold ≤ c.heartThreshold) (growth : 0 ≤ c.growth) (decay : 0 ≤ c.decay)
    {e : Economy Rat} (h : Banded c e) {times : Value Rat} {more : Nat}
    (read : times.toInt = .ok (more + 1 : Nat)) (trauma : Option Rat) :
    OneWay times (more + 1) trauma e := by
  have count : (((more + 1 : Nat) : Int) - 1).toNat = more := by omega
  have advanced : e.advance times trauma = e.ticks trauma more := by
    simp only [Economy.advance, read, count]
  have made : (Operation.advance times trauma).ticks e = ticksFrom trauma more e := by
    simp only [Operation.ticks, read, count]
  obtain ⟨once, way⟩ := h.turns_ticksFrom positive ordered growth decay trauma more
  have turned (t : Tick Rat) (member : t ∈ ticksFrom trauma more e)
      (changed : t.before.plague.heart ≠ t.after.plague.heart) :
      t.after.plague.heart = e.drives trauma := way t member (bne_iff_ne.mpr changed)
  refine {
    answer := ?_
    shown := ?_
    tickCount := ?_
    grown := fun ripe => ?_
    decayed := fun unripe => ?_
    made := ?_
    turnsOnce := ?_
    awakens := fun t member asleep awake => ?_
    fallsAsleep := fun t member awake asleep ripe => ?_ }
  · rw [advanced]
    exact answer_ticks trauma more e
  · rw [advanced]
    exact mirrors_ticks trauma more e
  · rw [advanced, tickCount_ticks, length_ticksFrom]
  · rw [advanced, h.config]
    exact h.counter_growing positive ordered growth (drives_iff_ripe.mpr ripe) more
  · have decays : e.drives trauma = false := by
      rw [← Bool.not_eq_true, drives_iff_ripe]
      exact unripe
    rw [advanced, h.config]
    exact h.counter_decaying positive ordered decay decays more
  · rw [made]
    exact length_ticksFrom trauma more e
  · rw [made]
    exact once
  · rw [made] at member
    have driven := turned t member (by rw [asleep, awake]; decide)
    exact drives_iff_ripe.mp (driven.symm.trans awake)
  · rw [made] at member
    have driven := turned t member (by rw [awake, asleep]; decide)
    rw [asleep, drives_iff_ripe.mpr ripe] at driven
    cases driven

/-- Whatever has been called before, advancing by `n` ticks makes `n` of them, moves the counter by
`n` steps up to the ceiling or down to zero, and turns the heart once at most, that way. -/
theorem advance_one_way (config : Config Rat) (c : Plague.Config Rat) (heard : Bool)
    (positive : 0 < c.heartThreshold) (ordered : c.clearThreshold ≤ c.heartThreshold)
    (growth : 0 ≤ c.growth) (decay : 0 ≤ c.decay) (calls : List (Call Rat)) {times : Value Rat}
    {n : Nat} (read : times.toInt = .ok (n : Int)) (some : 1 ≤ n) (trauma : Option Rat) :
    let e := after Call.perform calls (Economy.new config c heard)
    e.plagueConfig = c ∧ OneWay times n trauma e := by
  intro e
  have start : Banded c (Economy.new config c heard) :=
    ⟨rfl, .of_empty positive rfl rfl rfl⟩
  have reached : Banded c e :=
    after_induction (fun call _ known => known.perform positive ordered call) calls start
  obtain ⟨more, rfl⟩ := Nat.exists_eq_add_of_le' some
  exact ⟨reached.config, reached.oneWay positive ordered growth decay read trauma⟩

/-- A tick of the plague alone leaves the counter half way up; of the three ticks that follow, the
first fills it and awakens the heart. -/
theorem advance_one_way_up :
    let config : Config Rat :=
      { simProduction := 1, mineralPerRefinery := 10, rapidlumPerRefinery := 5 }
    let c : Plague.Config Rat :=
      { growth := 2
        decay := 1
        heartThreshold := 3
        clearThreshold := 1
        throttle := 0.5
        rebellionTrigger := 0.35
        traumaTrigger := 0.5
        warningLevel := 2 }
    let calls : List (Call Rat) :=
      [.own (.setPopulation 0.9 (.int 1)), .within (.tick 0.9 0.9 (.int 5))]
    let e := after Call.perform calls (Economy.new config c)
    (0 < c.heartThreshold ∧ c.clearThreshold ≤ c.heartThreshold ∧ 0 ≤ c.growth ∧ 0 ≤ c.decay) ∧
      ((.int 3 : Value Rat).toInt = .ok 3 ∧ 1 ≤ 3) ∧
      (e.plagueConfig = c ∧ OneWay (.int 3) 3 (some 0.8) e) ∧
      (e.plague.counter = 2 ∧ e.plague.heart = false) ∧
      ((e.advance (.int 3) (some 0.8)).state.plague.counter = 3 ∧
        (e.advance (.int 3) (some 0.8)).state.plague.heart = true) := by
  intro config c calls e
  have positive : 0 < c.heartThreshold := by decide +kernel
  have ordered : c.clearThreshold ≤ c.heartThreshold := by decide +kernel
  have growth : 0 ≤ c.growth := by decide +kernel
  have decay : 0 ≤ c.decay := by decide +kernel
  have read : (.int 3 : Value Rat).toInt = .ok 3 := rfl
  refine ⟨⟨positive, ordered, growth, decay⟩, ⟨read, by decide⟩, ?_, ?_, ?_⟩
  · exact advance_one_way config c true positive ordered growth decay calls read (by decide) _
  · decide +kernel
  · decide +kernel

end Economy

end Colony

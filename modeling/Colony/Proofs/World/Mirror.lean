import Mathlib.Algebra.Ring.Int.Defs
import Colony.Proofs.Economy.Mirror
import Colony.Proofs.Economy.Tick
import Colony.Proofs.World.Registry
import Colony.Proofs.World.Start
import Colony.Scalar.Amount

/-!
# The mirror in the world

Whatever is done in a world comes down to single steps of its economy: a
refresh sets the population's figures, advancing ticks until a tick fails, and
a deployment that succeeds cleanses the plague once.  So what is known of a run
of steps holds of the world.
-/

namespace Colony

variable {σ α β : Type} [Scalar α]

/-! ## Steps of the economy -/

namespace Economy

/-- The single steps that an operation takes; those of advancing end with the first tick that
fails. -/
def Operation.steps : Operation α → Economy α → List (Operation α)
  | .advance times trauma, e =>
      match times.toInt with
      | .ok n => (ticksFrom trauma (n - 1).toNat e).map fun _ => .tick trauma
      | .error _ => []
  | .addMine yieldRate, _ => [.addMine yieldRate]
  | .addRefinery efficiency, _ => [.addRefinery efficiency]
  | .setPopulation rebellion npcs, _ => [.setPopulation rebellion npcs]
  | .tick trauma, _ => [.tick trauma]
  | .cleanse, _ => [.cleanse]

theorem after_ticksFrom (trauma : Option α) (more : Nat) (e : Economy α) :
    after Operation.perform ((ticksFrom trauma more e).map fun _ => .tick trauma) e =
      (e.ticks trauma more).state := by
  induction more generalizing e with
  | zero => rfl
  | succ more ih =>
      rw [ticksFrom, List.map_cons, after_cons]
      have first : ((Operation.tick trauma).perform e).state = (e.tick trauma).state := rfl
      rw [first, ticks, Outcome.andThen]
      cases (e.tick trauma).answer with
      | error failure => rfl
      | ok status => exact ih (e.tick trauma).state

theorem Operation.after_steps (op : Operation α) (e : Economy α) :
    after Operation.perform (op.steps e) e = (op.perform e).state := by
  cases op with
  | addMine yieldRate => rfl
  | addRefinery efficiency => rfl
  | setPopulation rebellion npcs => rfl
  | tick trauma => rfl
  | advance times trauma =>
      simp only [steps, perform, Outcome.map, Economy.advance]
      cases times.toInt with
      | ok n => exact after_ticksFrom trauma _ e
      | error failure => rfl
  | cleanse => rfl

theorem Operation.isStep_of_mem_steps (op : Operation α) (e : Economy α) :
    ∀ step ∈ op.steps e, step.isStep = true := by
  intro step member
  cases op with
  | addMine yieldRate => rw [List.mem_singleton.mp member]; rfl
  | addRefinery efficiency => rw [List.mem_singleton.mp member]; rfl
  | setPopulation rebellion npcs => rw [List.mem_singleton.mp member]; rfl
  | tick trauma => rw [List.mem_singleton.mp member]; rfl
  | advance times trauma =>
      simp only [steps] at member
      split at member
      · obtain ⟨tick, -, rfl⟩ := List.mem_map.mp member
        rfl
      · cases member
  | cleanse => rw [List.mem_singleton.mp member]; rfl

end Economy

/-! ## Steps of the world -/

namespace World

variable {w : World α}

def refreshSteps (w : World α) : List (Economy.Operation α) :=
  match w.refresh.answer with
  | .ok figures => [.setPopulation figures.1 (.int w.roster.npcs.length)]
  | .error _ => []

/-- Whatever a deployment does on its way, a heart that it finds awake and leaves asleep has been
cleansed. -/
def deploySteps (party : Option (List (Cleansing.Participant α))) (w : World α) :
    List (Economy.Operation α) :=
  if w.economy.plague.heart && !(w.deploy party).state.economy.plague.heart then [.cleanse] else []

def Operation.steps : Operation α → World α → List (Economy.Operation α)
  | .refresh, w => w.refreshSteps
  | .advance times, w =>
      w.refreshSteps ++
        match w.refresh.answer with
        | .ok figures => (Economy.Operation.advance times (some figures.2)).steps
            w.refresh.state.economy
        | .error _ => []
  | .economy op, w => op.steps w.economy
  | .deploy party, w => w.deploySteps party
  | .register _, _ => []
  | .enlist _ _, _ => []
  | .addEfficiency _ _, _ => []
  | .addMorale _ _, _ => []
  | .assign _ _, _ => []
  | .setTrauma _ _, _ => []
  | .assess _, _ => []
  | .act _, _ => []
  | .follow _ _, _ => []

theorem after_refreshSteps (w : World α) :
    after Economy.Operation.perform w.refreshSteps w.economy = w.refresh.state.economy := by
  unfold refreshSteps
  rcases w.refresh_cases with ⟨failure, -, failed⟩ | ⟨all, assessed, told⟩
  · rw [failed]
    rfl
  · rw [told]
    exact congrArg Outcome.state (setPopulation_of_assessed assessed)

/-! ### Deployments -/

/-- The plague is as it was or has been cleansed once, and nothing else has changed. -/
def CleansedOnce (e next : Economy α) : Prop :=
  next = e ∨ e.plague.heart = true ∧ next = { e with plague := Plague.cleansed e.plague }

theorem cleansedOnce_cleanse {e next : Economy α} (h : CleansedOnce e next) :
    CleansedOnce e next.cleanse.state := by
  rcases h with rfl | ⟨awake, rfl⟩
  · cases awake : next.plague.heart with
    | false =>
        rw [Economy.cleanse_of_asleep awake]
        exact .inl rfl
    | true => exact .inr ⟨awake, (Economy.cleanse_of_awake awake).2⟩
  · rw [Economy.cleanse_of_asleep rfl]
    exact .inr ⟨awake, rfl⟩

theorem cleansedOnce_deploy (party : Option (List (Cleansing.Participant α))) (w : World α) :
    CleansedOnce w.economy (w.deploy party).state.economy :=
  deploy_induction (P := fun v => CleansedOnce w.economy v.economy) (fun _ _ kept => kept)
    (fun _ _ kept => kept) (fun _ kept => cleansedOnce_cleanse kept) (.inl rfl) party

theorem after_deploySteps (party : Option (List (Cleansing.Participant α))) (w : World α) :
    after Economy.Operation.perform (w.deploySteps party) w.economy =
      (w.deploy party).state.economy := by
  unfold deploySteps
  rcases cleansedOnce_deploy party w with same | ⟨awake, emptied⟩
  · simp [same]
  · have asleep : (w.deploy party).state.economy.plague.heart = false := by
      rw [emptied]
      rfl
    rw [awake, asleep, emptied]
    exact (Economy.cleanse_of_awake awake).2

/-! ### All operations -/

theorem economy_advance (times : Value α) (w : World α) :
    (w.advance times).state.economy = match w.refresh.answer with
      | .ok figures => (w.refresh.state.economy.advance times (some figures.2)).state
      | .error _ => w.refresh.state.economy := by
  rw [advance, Outcome.andThen]
  cases w.refresh.answer <;> rfl

theorem Operation.after_steps (op : Operation α) (w : World α) :
    after Economy.Operation.perform (op.steps w) w.economy = (op.perform w).state.economy := by
  cases op with
  | register id => rfl
  | enlist id role => rfl
  | addEfficiency id delta => rfl
  | addMorale id delta => rfl
  | assign id task => rfl
  | setTrauma id trauma => exact (OnlyPeople.setTrauma id trauma w).economy
  | assess id => exact (OnlyPeople.assess id w).economy
  | act deed => exact (OnlyPeople.perform deed w).economy
  | refresh => exact w.after_refreshSteps
  | advance times =>
      have left : ((Operation.advance times).perform w).state.economy = _ :=
        economy_advance times w
      rw [steps, after_append, after_refreshSteps, left]
      cases w.refresh.answer with
      | error failure => rfl
      | ok figures => exact Economy.Operation.after_steps _ _
  | economy op => exact op.after_steps w.economy
  | deploy party => exact after_deploySteps party w
  | follow rolls cleanseFirst => rfl

theorem Operation.isStep_of_mem_steps (op : Operation α) (w : World α) :
    ∀ step ∈ op.steps w, step.isStep = true := by
  have refreshed : ∀ step ∈ w.refreshSteps, step.isStep = true := by
    intro step member
    unfold refreshSteps at member
    split at member
    · rw [List.mem_singleton.mp member]
      rfl
    · cases member
  have deployed {party : Option (List (Cleansing.Participant α))} :
      ∀ step ∈ w.deploySteps party, step.isStep = true := by
    intro step member
    unfold deploySteps at member
    split at member
    · rw [List.mem_singleton.mp member]
      rfl
    · cases member
  intro step member
  cases op with
  | register id => cases member
  | enlist id role => cases member
  | addEfficiency id delta => cases member
  | addMorale id delta => cases member
  | assign id task => cases member
  | setTrauma id trauma => cases member
  | assess id => cases member
  | act deed => cases member
  | refresh => exact refreshed step member
  | advance times =>
      rcases List.mem_append.mp member with first | rest
      · exact refreshed step first
      · split at rest
        · exact Economy.Operation.isStep_of_mem_steps _ _ step rest
        · cases rest
  | economy op => exact op.isStep_of_mem_steps w.economy step member
  | deploy party => exact deployed step member
  | follow rolls cleanseFirst => cases member

/-! ## Runs -/

end World

/-- Whether an operation takes place, which it does unless its notes cannot be written. -/
def Observed.takesPlace (operation : σ → Outcome σ α β) (o : Observed σ α) : Bool :=
  match o.chronicle with
  | none => true
  | some c =>
      match (c.hearAll (operation o.subject).notes).1 with
      | .ok _ => true
      | .error _ => false

theorem Observed.subject_run (operation : σ → Outcome σ α β) (o : Observed σ α) :
    (o.run operation).2.subject =
      if o.takesPlace operation then (operation o.subject).state else o.subject := by
  obtain ⟨s, chronicle⟩ := o
  cases chronicle with
  | none => rfl
  | some c =>
      rcases heard : c.hearAll (operation s).notes with ⟨written, next⟩
      simp only [run, takesPlace, heard]
      cases written <;> rfl

namespace World

def stepsOf : List (Operation α) → Observed (World α) α → List (Economy.Operation α)
  | [], _ => []
  | op :: ops, o =>
      (if o.takesPlace op.perform then op.steps o.subject else []) ++
        stepsOf ops (o.run op.perform).2

theorem after_stepsOf (ops : List (Operation α)) (o : Observed (World α) α) :
    after Economy.Operation.perform (stepsOf ops o) o.subject.economy =
      (o.after Operation.perform ops).subject.economy := by
  induction ops generalizing o with
  | nil => rfl
  | cons op ops ih =>
      have first : after Economy.Operation.perform
          (if o.takesPlace op.perform then op.steps o.subject else []) o.subject.economy =
          (o.run op.perform).2.subject.economy := by
        rw [Observed.subject_run]
        split
        · exact op.after_steps o.subject
        · rfl
      rw [stepsOf, after_append, first, ih]
      rfl

theorem isStep_of_mem_stepsOf (ops : List (Operation α)) (o : Observed (World α) α) :
    ∀ step ∈ stepsOf ops o, step.isStep = true := by
  induction ops generalizing o with
  | nil => exact fun step none => absurd none List.not_mem_nil
  | cons op ops ih =>
      intro step member
      rcases List.mem_append.mp member with first | rest
      · split at first
        · exact op.isStep_of_mem_steps o.subject step first
        · cases first
      · exact ih _ step rest

/-- The economy of a world has gone through the steps of the run, and shows of the plague what the
last tick that moved it has left. -/
theorem shows_after_run {settings : Settings α} {start : Observed (World α) α}
    (started : World.start settings = .ok start) (ops : List (Operation α)) :
    (start.after Operation.perform ops).subject.economy =
        after Economy.Operation.perform (stepsOf ops start) start.subject.economy ∧
      Economy.Shows start.subject.economy (stepsOf ops start) := by
  refine ⟨(after_stepsOf ops start).symm, ?_⟩
  obtain ⟨w, c, -, made, rfl⟩ := start_eq_ok.mp started
  obtain ⟨config, plague, -, -, fresh⟩ := (fresh_of_new made).economy
  have steps := isStep_of_mem_stepsOf ops (⟨w, some c⟩ : Observed (World α) α)
  simp only [fresh]
  exact Economy.shows_of_new config plague true steps

/-- A heart that awakens and is cleansed is still shown, until the next tick. -/
theorem shows_after_run_cleansed :
    let settings : Settings Amount := Settings.standard.set .growthRate (.num 100.0)
    let ops : List (Operation Amount) :=
      [.economy (.setPopulation 0.9 (.int 1)), .economy (.tick (some 0.9)), .economy .cleanse]
    ∃ start, World.start settings = .ok start ∧
      let last := (start.after Operation.perform ops).subject.economy
      last = after Economy.Operation.perform (stepsOf ops start) start.subject.economy ∧
      Economy.Shows start.subject.economy (stepsOf ops start) ∧
      (last.status.heart = true ∧ last.plague.heart = false ∧
        last.plague.lastTick = 1 ∧ last.status.tickCount = 1) := by
  intro settings ops
  have behind : ((World.start settings).toOption.map fun start =>
      let last := (start.after Operation.perform ops).subject.economy
      (last.status.heart, last.plague.heart, last.plague.lastTick, last.status.tickCount)) =
      some (true, false, 1, 1) := by
    decide +kernel
  obtain ⟨start, started, facts⟩ := Answer.toOption_map_eq_some.mp behind
  simp only [Prod.mk.injEq] at facts
  obtain ⟨same, shows⟩ := shows_after_run started ops
  exact ⟨start, started, same, shows, facts⟩

/-- Where production and throttle are whole numbers, the product may be too large for the stocks.
The plague has moved by then and bears a number that is never counted. -/
theorem number_ahead_of_count :
    let settings : Settings Amount :=
      ((Settings.standard.set .simProduction (.int (10 ^ 308))).set .throttleAmount (.int 2)).set
        .growthRate (.num 100.0)
    let ops : List (Operation Amount) :=
      [.economy (.setPopulation 0.9 (.int 1)), .economy (.tick (some 0.9))]
    ∃ start, World.start settings = .ok start ∧
      let last := (start.after Operation.perform ops).subject.economy
      last.plague.lastTick = 1 ∧ last.status.tickCount = 0 ∧
        last.plague.lastTick ≠ last.status.tickCount := by
  intro settings ops
  have torn : ((World.start settings).toOption.map fun start =>
      let last := (start.after Operation.perform ops).subject.economy
      (last.plague.lastTick, last.status.tickCount)) = some (1, 0) := by
    decide +kernel
  obtain ⟨start, started, facts⟩ := Answer.toOption_map_eq_some.mp torn
  simp only [Prod.mk.injEq] at facts
  refine ⟨start, started, facts.1, facts.2, ?_⟩
  rw [facts.1, facts.2]
  decide

end World

end Colony

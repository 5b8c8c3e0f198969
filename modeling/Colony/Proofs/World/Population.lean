import Mathlib.Algebra.Field.Rat
import Mathlib.Algebra.Order.Ring.Rat
import Colony.Proofs.Economy.OneWay
import Colony.Proofs.Mean
import Colony.Proofs.Npc.Roster
import Colony.Proofs.Rebellion.Monotone
import Colony.Proofs.World.Isolation
import Colony.Proofs.World.Mirror
import Colony.Proofs.World.Party
import Colony.Proofs.World.Range
import Colony.Proofs.World.Split

/-!
# The population in exact numbers

A refresh finds the means of what is answered about each NPC alone, and both
means lie between 0 and 1.  So nothing is lost where they are confined on their
way to the plague, and a population that is calm in one of the two does not
feed it.
-/

namespace Colony

/-! ## What ticks do to the plague -/

namespace Plague

variable {c : Config Rat} {x : Rat}

theorem nextCounter_nonneg (c : Config Rat) (grew : Bool) (x : Rat) : 0 ≤ nextCounter c grew x := by
  rw [nextCounter_rat]
  exact le_max_left _ _

/-- Whatever the thresholds are, a counter that does not grow does not rise. -/
theorem nextCounter_le (decay : 0 ≤ c.decay) (nonneg : 0 ≤ x) : nextCounter c false x ≤ x := by
  rw [nextCounter_rat, if_neg Bool.false_ne_true]
  exact max_le nonneg ((min_le_right _ _).trans (by linarith))

/-- Ticks at the same figures, numbered from the first one on. -/
def ticksAt (rebellion trauma : Rat) (first count : Nat) : List (Operation Rat) :=
  (List.range' first count).map fun number => .tick rebellion trauma (.int number)

end Plague

namespace Economy

variable {e : Economy Rat}

theorem plague_ticked (trauma : Option Rat) (e : Economy Rat) :
    (e.ticked trauma).plague = ((Plague.Operation.tick e.status.rebellion (e.feltTrauma trauma)
      (.int (e.status.tickCount + 1 : Nat))).perform e.plagueConfig e.plague).state := by
  simp only [Plague.Operation.perform, Outcome.map, Plague.tickAs, Plague.move, overflown_rat,
    Bool.false_eq_true, if_false, Outcome.done_andThen]
  rfl

theorem plague_ticks (trauma : Rat) (more : Nat) (e : Economy Rat) :
    (e.ticks (some trauma) more).state.plague =
      after (Plague.Operation.perform e.plagueConfig)
        (Plague.ticksAt e.status.rebellion (Scalar.unit trauma) (e.status.tickCount + 1) (more + 1))
        e.plague := by
  induction more generalizing e with
  | zero =>
      rw [ticks, state_tick, plague_ticked]
      rfl
  | succ more ih =>
      rw [state_ticks_succ, ih, plague_ticked]
      rfl

theorem plague_advance {times : Value Rat} {n : Int} (read : times.toInt = .ok n) (trauma : Rat)
    (e : Economy Rat) :
    (e.advance times (some trauma)).state.plague =
      after (Plague.Operation.perform e.plagueConfig)
        (Plague.ticksAt e.status.rebellion (Scalar.unit trauma) (e.status.tickCount + 1)
          (max 1 n).toNat) e.plague := by
  have count : (n - 1).toNat + 1 = (max 1 n).toNat := by omega
  rw [advance, read, ← count]
  exact plague_ticks trauma _ e

section Calm

variable (decay : 0 ≤ e.plagueConfig.decay) (nonneg : 0 ≤ e.plague.counter)
include decay nonneg

theorem counter_ticked_le {trauma : Option Rat} (decays : e.drives trauma = false) :
    (e.ticked trauma).plague.counter ≤ e.plague.counter := by
  have moved : (e.ticked trauma).plague.counter =
      Plague.nextCounter e.plagueConfig (e.drives trauma) e.plague.counter := rfl
  rw [moved, decays]
  exact Plague.nextCounter_le decay nonneg

theorem counter_ticks_le {trauma : Option Rat} (decays : e.drives trauma = false) (more : Nat) :
    (e.ticks trauma more).state.plague.counter ≤ e.plague.counter := by
  induction more generalizing e with
  | zero =>
      rw [ticks, state_tick]
      exact counter_ticked_le decay nonneg decays
  | succ more ih =>
      have rest := ih (e := e.ticked trauma) decay (Plague.nextCounter_nonneg _ _ _)
        ((drives_ticked trauma e).trans decays)
      rw [state_ticks_succ]
      exact rest.trans (counter_ticked_le decay nonneg decays)

theorem counter_advance_le {trauma : Option Rat} (decays : e.drives trauma = false)
    (times : Value Rat) : (e.advance times trauma).state.plague.counter ≤ e.plague.counter := by
  unfold advance
  cases times.toInt with
  | ok n => exact counter_ticks_le decay nonneg decays _
  | error failure => exact le_rfl

end Calm

theorem Operation.counter_nonneg (op : Operation Rat) {e : Economy Rat}
    (nonneg : 0 ≤ e.plague.counter) : 0 ≤ (op.perform e).state.plague.counter := by
  have ticks (trauma : Option Rat) (more : Nat) (e : Economy Rat) :
      0 ≤ (e.ticks trauma more).state.plague.counter := by
    induction more generalizing e with
    | zero =>
        rw [Economy.ticks, state_tick]
        exact Plague.nextCounter_nonneg _ _ _
    | succ more ih =>
        rw [state_ticks_succ]
        exact ih (e.ticked trauma)
  cases op with
  | addMine yieldRate => exact nonneg
  | addRefinery efficiency => exact nonneg
  | setPopulation rebellion npcs =>
      rw [perform, Outcome.map, setPopulation_rat]
      cases npcs.toInt <;> exact nonneg
  | tick trauma => exact ticks trauma 0 e
  | advance times trauma =>
      simp only [perform, Outcome.map, Economy.advance]
      cases times.toInt with
      | ok n => exact ticks trauma _ e
      | error failure => exact nonneg
  | cleanse =>
      have cleansed : ((Operation.cleanse).perform e).state.plague =
          (Plague.cleanse e.plague).state := rfl
      rw [cleansed]
      rcases Plague.state_cleanse e.plague with same | ⟨-, emptied⟩
      · rw [same]
        exact nonneg
      · rw [emptied]
        exact le_rfl

end Economy

/-! ## Means of the population -/

theorem Scalar.InUnit.nonneg_rat {x : Rat} (h : Scalar.InUnit x) : 0 ≤ x := by
  rcases h with rfl | rfl | ⟨above, -⟩
  · exact le_rfl
  · exact zero_le_one
  · exact above.le

theorem Scalar.InUnit.le_one_rat {x : Rat} (h : Scalar.InUnit x) : x ≤ 1 := by
  rcases h with rfl | rfl | ⟨-, below⟩
  · exact zero_le_one
  · exact le_rfl
  · exact below.le

theorem unit_of_within {x : Rat} (nonneg : 0 ≤ x) (le_one : x ≤ 1) : Scalar.unit x = x := by
  rw [unit_rat, min_eq_right le_one, max_eq_right nonneg]

namespace World

section Means

variable {w w' : World Rat}

/-- How ready an NPC is to rebel, by its record and trauma. -/
def readiness (w : World Rat) (npc : Npc Rat) : Rat :=
  (Rebellion.assessed w.rebellion (w.profileOf npc)).probability

def meanReadiness (w : World Rat) : Rat := Scalar.mean (w.roster.npcs.map w.readiness)

def meanTrauma (w : World Rat) : Rat :=
  Scalar.mean (w.roster.npcs.map fun npc => w.traumaOf npc.id)

theorem assessments_rat (w : World Rat) :
    w.assessments =
      .ok (w.roster.npcs.map fun npc => Rebellion.assessed w.rebellion (w.profileOf npc)) := by
  rw [assessments, Answer.mapM_eq_ok, List.forall₂_map_left_iff, List.forall₂_map_right_iff]
  exact List.forall₂_same.mpr fun npc _ => rfl

section Populated

variable (populated : w.roster.npcs ≠ [])
include populated

theorem meanReadiness_within : 0 ≤ w.meanReadiness ∧ w.meanReadiness ≤ 1 := by
  have some : w.roster.npcs.map w.readiness ≠ [] := List.map_eq_nil_iff.not.mpr populated
  exact ⟨le_mean_of_forall some (List.forall_mem_map.mpr fun npc _ => unit_nonneg_rat _),
    mean_le_of_forall some (List.forall_mem_map.mpr fun npc _ => unit_le_one_rat _)⟩

theorem meanTrauma_within (ranged : w.Ranged) : 0 ≤ w.meanTrauma ∧ w.meanTrauma ≤ 1 := by
  have some : (w.roster.npcs.map fun npc => w.traumaOf npc.id) ≠ [] :=
    List.map_eq_nil_iff.not.mpr populated
  have within (npc : Npc Rat) := ranged.traumaOf npc.id
  exact ⟨le_mean_of_forall some (List.forall_mem_map.mpr fun npc _ => (within npc).nonneg_rat),
    mean_le_of_forall some (List.forall_mem_map.mpr fun npc _ => (within npc).le_one_rat)⟩

theorem refresh_rat :
    w.refresh.answer = .ok (w.meanReadiness, w.meanTrauma) ∧
      w.refresh.state = w.told w.meanReadiness := by
  have confined : Scalar.unit w.meanReadiness = w.meanReadiness :=
    unit_of_within (meanReadiness_within populated).1 (meanReadiness_within populated).2
  have manned : w.roster.npcs.isEmpty = false := List.isEmpty_eq_false_iff.mpr populated
  have found : w.figures (w.roster.npcs.map fun npc =>
      Rebellion.assessed w.rebellion (w.profileOf npc)) = (w.meanReadiness, w.meanTrauma) := by
    simp only [figures, manned, Bool.false_eq_true, if_false, List.map_map]
    rfl
  rcases refresh_cases w with ⟨failure, failed, -⟩ | ⟨all, assessed, refreshed⟩
  · rw [assessments_rat] at failed
    cases failed
  · rw [assessments_rat] at assessed
    cases assessed
    rw [refreshed, found, confined]
    exact ⟨rfl, rfl⟩

theorem economy_advance_rat (times : Value Rat) :
    (w.advance times).state.economy =
      ((w.told w.meanReadiness).economy.advance times (some w.meanTrauma)).state := by
  obtain ⟨answer, state⟩ := refresh_rat populated
  rw [economy_advance, answer, state]

theorem drives_told (ranged : w.Ranged) :
    (w.told w.meanReadiness).economy.drives (some w.meanTrauma) =
      Plague.grows w.economy.plagueConfig w.meanReadiness w.meanTrauma := by
  obtain ⟨nonneg, le_one⟩ := meanTrauma_within populated ranged
  have trauma : (w.told w.meanReadiness).economy.feltTrauma (some w.meanTrauma) = w.meanTrauma :=
    unit_of_within nonneg le_one
  rw [Economy.drives, trauma]
  rfl

/-- One of the two figures of a calm population does not pass its trigger. -/
theorem not_grows_of_calm
    (calm : (∀ npc ∈ w.roster.npcs, w.traumaOf npc.id ≤ w.economy.plagueConfig.traumaTrigger) ∨
      ∀ npc ∈ w.roster.npcs, w.readiness npc ≤ w.economy.plagueConfig.rebellionTrigger) :
    Plague.grows w.economy.plagueConfig w.meanReadiness w.meanTrauma = false := by
  have bounded {figure : Npc Rat → Rat} {trigger : Rat}
      (below : ∀ npc ∈ w.roster.npcs, figure npc ≤ trigger) :
      Scalar.mean (w.roster.npcs.map figure) ≤ trigger :=
    mean_le_of_forall (List.map_eq_nil_iff.not.mpr populated) (List.forall_mem_map.mpr below)
  rw [Plague.grows, Bool.and_eq_false_iff, decide_eq_false_iff_not, decide_eq_false_iff_not,
    not_lt, not_lt]
  exact calm.symm.imp bounded bounded

end Populated

/-- Neither mean depends on the order in which the NPCs were registered. -/
theorem means_of_perm (rebellion : w'.rebellion = w.rebellion)
    (perm : w'.roster.npcs.Perm w.roster.npcs)
    (trauma : ∀ id, w'.trauma.get? id = w.trauma.get? id) :
    w'.meanReadiness = w.meanReadiness ∧ w'.meanTrauma = w.meanTrauma := by
  have traumas : (fun npc : Npc Rat => w'.traumaOf npc.id) = fun npc => w.traumaOf npc.id := by
    funext npc
    rw [traumaOf, traumaOf, trauma]
  have readiness : w'.readiness = w.readiness := by
    funext npc
    simp only [World.readiness, profileOf, congrFun traumas npc, rebellion]
  rw [meanReadiness, meanTrauma, readiness, traumas]
  exact ⟨mean_perm (perm.map _), mean_perm (perm.map _)⟩

theorem assess_listed (distinct : w.roster.ids.Nodup) {npc : Npc Rat}
    (listed : npc ∈ w.roster.npcs) :
    w.assess npc.id = .done (Rebellion.assessed w.rebellion (w.profileOf npc)) w := by
  have registered : w.roster.register npc.id = .ok (npc, w.roster) :=
    Roster.register_of_known ((Roster.find?_eq_some_iff distinct).mpr ⟨listed, rfl⟩)
  exact assess_of_registered registered rfl

end Means

/-! ## Runs in exact numbers -/

theorem Operation.rebellion_perform {α : Type} [Scalar α] (op : Operation α) (w : World α) :
    (op.perform w).state.rebellion = w.rebellion := by
  -- Some identifier is not the one that the operation names.
  have unnamed : ∃ id, op.named? ≠ some id := by
    by_contra all
    simp only [not_exists, not_not] at all
    exact absurd ((all "").symm.trans (all "a")) (by simp)
  obtain ⟨id, unnamed⟩ := unnamed
  exact (op.alike_perform unnamed w).rebellion

theorem rebellion_after {α : Type} [Scalar α] (ops : List (Operation α))
    (o : Observed (World α) α) :
    (o.after Operation.perform ops).subject.rebellion = o.subject.rebellion :=
  Observed.subject_after_induction (P := fun w : World α => w.rebellion = o.subject.rebellion)
    (fun op w same => (op.rebellion_perform w).trans same) ops rfl

/-- What is known of a world that a run has reached. -/
structure Reached (o : Observed (World Rat) Rat) : Prop where
  sized : o.Sized
  distinct : o.subject.roster.ids.Nodup
  ranged : o.subject.Ranged
  nonneg : 0 ≤ o.subject.economy.plague.counter

theorem reached_after {settings : Settings Rat} {k : Int}
    (size : (settings.value .boardSize).toInt = .ok k) {start : Observed (World Rat) Rat}
    (started : World.start settings = .ok start) (ops : List (Operation Rat)) :
    Reached (start.after Operation.perform ops) := by
  have distinct := nodup_ids_after started ops
  obtain ⟨w, c, opened, made, rfl⟩ := start_eq_ok.mp started
  have fresh := fresh_of_new made
  have sized : c.Sized := by
    obtain ⟨capacity, -, empty⟩ := Answer.bind_eq_ok.mp opened
    cases empty
    exact ⟨k, size⟩
  refine ⟨?_, distinct, ?_, ?_⟩
  · exact Observed.after_induction (P := Observed.Sized)
      (fun op o sized => (sized.run op.perform).2.2) ops (.of_some sized w)
  · exact Observed.subject_after_induction (P := Ranged) (fun op w ranged => (op.ranged ranged).1)
      ops (ranged_of_fresh fresh)
  · obtain ⟨config, plague, -, -, economy⟩ := fresh.economy
    rw [← after_stepsOf]
    refine Colony.after_induction (P := fun e : Economy Rat => 0 ≤ e.plague.counter)
      (fun op e nonneg => op.counter_nonneg nonneg) _ ?_
    simp only [economy]
    exact le_rfl

/-! ## Refreshing -/

/-- The figures of a population, and what is made of them. -/
structure Refreshes (o : Observed (World Rat) Rat) (r t : Rat) : Prop where
  rebellion : ∃ all, List.Forall₂ (fun npc a => o.run (·.assess npc.id) = (.ok a, o))
      o.subject.roster.npcs all ∧
    r = (all.map (·.probability)).sum / o.subject.roster.size
  trauma : t = (o.subject.roster.npcs.map fun npc => o.subject.traumaOf npc.id).sum /
    o.subject.roster.size
  rebellion_within : 0 ≤ r ∧ r ≤ 1
  trauma_within : 0 ≤ t ∧ t ≤ 1
  answer : (o.run (·.refresh)).1 = .ok (r, t)
  told : (o.run (·.refresh)).2.subject = o.subject.told r
  again : ((o.run (·.refresh)).2.run (·.refresh)).1 = .ok (r, t) ∧
    ((o.run (·.refresh)).2.run (·.refresh)).2.subject = (o.run (·.refresh)).2.subject
  ticked : ∀ times n, times.toInt = .ok n →
    (o.run (·.advance times)).2.subject.economy.plague =
      after (Plague.Operation.perform o.subject.economy.plagueConfig)
        (Plague.ticksAt r t (o.subject.economy.status.tickCount + 1) (max 1 n).toNat)
        o.subject.economy.plague
  calm : 0 ≤ o.subject.economy.plagueConfig.decay →
    ((∀ npc ∈ o.subject.roster.npcs,
        o.subject.traumaOf npc.id ≤ o.subject.economy.plagueConfig.traumaTrigger) ∨
      ∀ npc ∈ o.subject.roster.npcs, ∀ a, (o.run (·.assess npc.id)).1 = .ok a →
        a.probability ≤ o.subject.economy.plagueConfig.rebellionTrigger) →
    ∀ times, (o.run (·.advance times)).2.subject.economy.plague.counter ≤
      o.subject.economy.plague.counter

namespace Reached

variable {o : Observed (World Rat) Rat}

theorem run_assess (h : Reached o) {npc : Npc Rat} (listed : npc ∈ o.subject.roster.npcs) :
    o.run (·.assess npc.id) =
      (.ok (Rebellion.assessed o.subject.rebellion (o.subject.profileOf npc)), o) := by
  have answered := assess_listed h.distinct listed
  have silent : (o.subject.assess npc.id).notes = [] := by
    rw [answered]
    rfl
  rw [Observed.run_silent silent, answered]
  rfl

section Populated

variable (h : Reached o) (populated : o.subject.roster.npcs ≠ [])
include h populated

theorem run_refresh :
    (o.run (·.refresh)).1 = .ok (o.subject.meanReadiness, o.subject.meanTrauma) ∧
      (o.run (·.refresh)).2.subject = o.subject.told o.subject.meanReadiness := by
  obtain ⟨answer, state, -⟩ := h.sized.run (·.refresh)
  obtain ⟨refreshed, left⟩ := refresh_rat populated
  exact ⟨answer.trans refreshed, state.trans left⟩

/-- A second refresh looks at the same people, whose figures the first has not touched. -/
theorem run_refresh_again :
    let once := (o.run (·.refresh)).2
    (once.run (·.refresh)).1 = .ok (o.subject.meanReadiness, o.subject.meanTrauma) ∧
      (once.run (·.refresh)).2.subject = once.subject := by
  intro once
  have told : once.subject = o.subject.told o.subject.meanReadiness :=
    (h.run_refresh populated).2
  obtain ⟨answer, state, -⟩ := (h.sized.run (·.refresh)).2.2.run (·.refresh)
  obtain ⟨refreshed, left⟩ :=
    refresh_rat (w := o.subject.told o.subject.meanReadiness) populated
  rw [told] at answer state ⊢
  exact ⟨answer.trans refreshed, state.trans left⟩

theorem economy_run_advance (times : Value Rat) :
    (o.run (·.advance times)).2.subject.economy =
      ((o.subject.told o.subject.meanReadiness).economy.advance times
        (some o.subject.meanTrauma)).state := by
  rw [(h.sized.run _).2.1, economy_advance_rat populated]

theorem refreshes : Refreshes o o.subject.meanReadiness o.subject.meanTrauma where
  rebellion := by
    refine ⟨o.subject.roster.npcs.map fun npc =>
      Rebellion.assessed o.subject.rebellion (o.subject.profileOf npc), ?_, ?_⟩
    · rw [List.forall₂_map_right_iff]
      exact List.forall₂_same.mpr fun npc listed => h.run_assess listed
    · rw [meanReadiness, mean_rat, List.map_map, List.length_map]
      rfl
  trauma := by
    rw [meanTrauma, mean_rat, List.length_map]
    rfl
  rebellion_within := meanReadiness_within populated
  trauma_within := meanTrauma_within populated h.ranged
  answer := (h.run_refresh populated).1
  told := (h.run_refresh populated).2
  again := h.run_refresh_again populated
  ticked times n read := by
    obtain ⟨nonneg, le_one⟩ := meanTrauma_within populated h.ranged
    rw [h.economy_run_advance populated, Economy.plague_advance read,
      unit_of_within nonneg le_one]
    rfl
  calm decay calm times := by
    have still := not_grows_of_calm populated (calm.imp_right fun below npc listed =>
      below npc listed _ (congrArg Prod.fst (h.run_assess listed)))
    have decays := (drives_told populated h.ranged).trans still
    rw [h.economy_run_advance populated]
    exact Economy.counter_advance_le (e := (o.subject.told o.subject.meanReadiness).economy)
      decay h.nonneg decays times

end Populated

end Reached

/-- What a refresh finds does not depend on the order of registration, and is what the plague is
moved by.  The size of the boards may be any whole number; one that is no number would stop every
refresh at the first standing. -/
theorem population_refreshes {settings : Settings Rat} {k : Int}
    (size : (settings.value .boardSize).toInt = .ok k) {start : Observed (World Rat) Rat}
    (started : World.start settings = .ok start) (ops : List (Operation Rat))
    (populated : 0 < (start.after Operation.perform ops).subject.roster.size) :
    let o := start.after Operation.perform ops
    ∃ r t, Refreshes o r t ∧ ∀ ops' : List (Operation Rat),
      let o' := start.after Operation.perform ops'
      o'.subject.roster.npcs.Perm o.subject.roster.npcs →
      (∀ id, o'.subject.trauma.get? id = o.subject.trauma.get? id) → Refreshes o' r t := by
  intro o
  have somebody : o.subject.roster.npcs ≠ [] := List.length_pos_iff.mp populated
  refine ⟨_, _, (reached_after size started ops).refreshes somebody, ?_⟩
  intro ops' o' perm trauma
  have rebellion : o'.subject.rebellion = o.subject.rebellion :=
    (rebellion_after ops' start).trans (rebellion_after ops start).symm
  obtain ⟨sameReadiness, sameTrauma⟩ := means_of_perm rebellion perm trauma
  have somebody' : o'.subject.roster.npcs ≠ [] := by
    intro nobody
    rw [nobody] at perm
    exact somebody perm.symm.eq_nil
  have refreshes := (reached_after size started ops').refreshes somebody'
  rwa [sameReadiness, sameTrauma] at refreshes

/-- A plague that has grown for five ticks, and a population that has become calm since. -/
theorem population_refreshes_calmed :
    let settings : Settings Rat := .standard
    let ops : List (Operation Rat) :=
      [.register "a", .register "b", .setTrauma "a" 0.9, .advance (.int 5), .setTrauma "a" 0.4]
    let ops' : List (Operation Rat) := [.register "b", .setTrauma "a" 0.4, .register "a"]
    (settings.value .boardSize).toInt = .ok 10 ∧
      ∃ start, World.start settings = .ok start ∧
        let o := start.after Operation.perform ops
        let o' := start.after Operation.perform ops'
        0 < o.subject.roster.size ∧ Refreshes o 0.36 0.2 ∧ Refreshes o' 0.36 0.2 ∧
          o.subject.economy.plague.counter = 10 ∧
          ∀ times, (o.run (·.advance times)).2.subject.economy.plague.counter ≤ 10 := by
  intro settings ops ops'
  have size : (settings.value .boardSize).toInt = .ok 10 := rfl
  have reached : ((World.start settings).toOption.map fun start =>
      let o := start.after Operation.perform ops
      let w' := (start.after Operation.perform ops').subject
      decide (0 < o.subject.roster.size ∧ w'.roster.npcs.Perm o.subject.roster.npcs ∧
        w'.trauma = o.subject.trauma ∧ (o.run (·.refresh)).1.toOption = some (0.36, 0.2) ∧
        o.subject.economy.plague.counter = 10 ∧ 0 ≤ o.subject.economy.plagueConfig.decay ∧
        ∀ npc ∈ o.subject.roster.npcs,
          o.subject.traumaOf npc.id ≤ o.subject.economy.plagueConfig.traumaTrigger)) =
      some true := by
    decide +kernel
  obtain ⟨start, started, facts⟩ := Answer.toOption_map_eq_some.mp reached
  obtain ⟨populated, perm, trauma, answer, counter, decay, calm⟩ := of_decide_eq_true facts
  obtain ⟨r, t, refreshes, reordered⟩ := population_refreshes size started ops populated
  rw [refreshes.answer] at answer
  cases answer
  refine ⟨size, start, started, populated, refreshes, reordered ops' perm ?_, counter, ?_⟩
  · intro id
    rw [trauma]
  · rw [← counter]
    exact refreshes.calm decay (.inl calm)

end World

end Colony

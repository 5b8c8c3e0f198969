import Colony.Live.World
import Colony.Proofs.Answer
import Colony.Proofs.Run
import Colony.Proofs.Scalar.Fraction

/-!
# Operations

The operations of each engine and of the world, as values, so that a run is a
list of them.  Queries that only read a state are left out where their answer
is a part of that state.  Each operation has an outcome, with notes, and a live
form that writes for itself.
-/

namespace Colony

variable {α : Type} [Scalar α]

/-! ## The plague -/

namespace Plague

inductive Operation (α : Type) where
  | tick (rebellion trauma : α) (number : Value α)
  | cleanse

/-- A tick answers with its report; a cleansing has nothing to tell. -/
def Operation.perform (c : Config α) :
    Operation α → State α → Outcome (State α) α (Option (TickReport α))
  | .tick rebellion trauma number, s => (tickAs c rebellion trauma number s).map some
  | .cleanse, s => (Plague.cleanse s).map fun _ => none

def Operation.live (c : Config α) : Operation α → Live (State α) α (Option (TickReport α))
  | .tick rebellion trauma number => do return some (← tickLive c rebellion trauma number)
  | .cleanse => do
      cleanseLive
      return none

end Plague

/-! ## Readiness to rebel -/

namespace Rebellion

inductive Operation (α : Type) where
  | assess (profile : Profile α)
  | act (action : Action α) (profile : Profile α)
  | survey (profiles : List (Profile α))

inductive Reply (α : Type) where
  | assessed (all : List (Assessment α))
  | changed (profile : Profile α)

/-- The engine holds nothing but its configuration. -/
def Operation.perform (c : Config α) : Operation α → Unit → Outcome Unit α (Reply α)
  | .assess profile, s => (Outcome.of (Rebellion.assess c profile) s).map fun a => .assessed [a]
  | .act action profile, s => (Outcome.of (profile.after action) s).map .changed
  | .survey profiles, s => (Rebellion.survey c profiles s).map .assessed

def Operation.live (c : Config α) : Operation α → Live Unit α (Reply α)
  | .assess profile => do return .assessed [← Live.answer (Rebellion.assess c profile)]
  | .act action profile => do return .changed (← Live.answer (profile.after action))
  | .survey profiles => do return .assessed (← surveyLive c profiles)

end Rebellion

/-! ## The roster -/

namespace Roster

inductive Operation (α : Type) where
  | register (id : String)
  | enlist (id : String) (role : Value α)
  | addEfficiency (id : String) (delta : α)
  | addMorale (id : String) (delta : α)
  | assign (id : String) (task : Value α)
  | inRole (role : Value α)

inductive Reply (α : Type) where
  | npc (npc : Npc α)
  | npcs (npcs : List (Npc α))

def Operation.perform : Operation α → Roster α → Outcome (Roster α) α (Reply α)
  | .register id, r => (Outcome.ofAnswer r (r.register id)).map .npc
  | .enlist id role, r => (Outcome.ofAnswer r (r.enlistAs id role)).map .npc
  | .addEfficiency id delta, r => (Outcome.ofAnswer r (r.addEfficiency id delta)).map .npc
  | .addMorale id delta, r => (Outcome.ofAnswer r (r.addMorale id delta)).map .npc
  | .assign id task, r => (Outcome.ofAnswer r (r.assign id task)).map .npc
  | .inRole role, r => (Outcome.of (r.inRoleOf role) r).map .npcs

end Roster

/-! ## Cleansing -/

namespace Cleansing

inductive Operation (α : Type) where
  | rate (party : List (Participant α))
  | execute (party : List (Participant α)) (heart : Bool)
  | follow (source : Chance.Source α)

inductive Reply (α : Type) where
  | rated (rate : α) (factors : Factors α)
  | resolved (verdict : Verdict α)
  | following

def Operation.perform (c : Config α) :
    Operation α → Chance.Source α → Outcome (Chance.Source α) α (Reply α)
  | .rate party, s => (Outcome.of (weigh c party) s).map fun r => .rated r.1 r.2
  | .execute party heart, s => (Cleansing.execute c party heart Chance.Source.roll s).map .resolved
  | .follow source, _ => .done .following source

def Operation.live (c : Config α) : Operation α → Live (Chance.Source α) α (Reply α)
  | .rate party => do
      let rated ← Live.answer (weigh c party)
      return .rated rated.1 rated.2
  | .execute party heart => do
      return .resolved (← executeLive c party heart (Live.act Chance.Source.roll))
  | .follow source => do
      Live.modify fun _ => source
      return .following

end Cleansing

/-! ## The economy -/

namespace Economy

theorem addMine_cases (yieldRate : α) (e : Economy α) :
    (Scalar.overflown (Scalar.rounded yieldRate) = false ∧
        e.addMine yieldRate = e.openMine (Scalar.atLeast 0 (Scalar.rounded yieldRate))) ∨
      (Scalar.overflown (Scalar.rounded yieldRate) = true ∧
        e.addMine yieldRate = .fail .overflow e) :=
  Outcome.of_checked_andThen_cases _ e _

theorem addRefinery_cases (efficiency : α) (e : Economy α) :
    (Scalar.overflown (Scalar.rounded efficiency) = false ∧
        e.addRefinery efficiency = e.openRefinery (Scalar.unit efficiency)) ∨
      (Scalar.overflown (Scalar.rounded efficiency) = true ∧
        e.addRefinery efficiency = .fail .overflow e) :=
  Outcome.of_confined_andThen_cases _ e _

theorem setPopulation_cases (rebellion : α) (npcs : Value α) (e : Economy α) :
    (Scalar.overflown (Scalar.rounded rebellion) = true ∧
        e.setPopulation rebellion npcs = .fail .overflow e) ∨
      (Scalar.overflown (Scalar.rounded rebellion) = false ∧
        ((∃ failure, npcs.toInt = .error failure ∧ e.setPopulation rebellion npcs =
            .fail failure (e.withRebellion (Scalar.unit rebellion))) ∨
          ∃ n, npcs.toInt = .ok n ∧ e.setPopulation rebellion npcs =
            .done () ((e.withRebellion (Scalar.unit rebellion)).withNpcs n.toNat))) := by
  rcases Outcome.of_confined_andThen_cases rebellion e fun rebellion e =>
      (Outcome.of npcs.toInt (e.withRebellion rebellion)).andThen fun n set =>
        .done () (set.withNpcs n.toNat) with ⟨fits, same⟩ | ⟨large, same⟩
  · refine .inr ⟨fits, ?_⟩
    rw [setPopulation, same]
    cases npcs.toInt with
    | error failure => exact .inl ⟨failure, rfl, rfl⟩
    | ok n => exact .inr ⟨n, rfl, rfl⟩
  · exact .inl ⟨large, same⟩

/-- The economy is the only one to tick its plague, so a tick of the plague alone is not among
these. -/
inductive Operation (α : Type) where
  | addMine (yieldRate : α)
  | addRefinery (efficiency : α)
  | setPopulation (rebellion : α) (npcs : Value α)
  | tick (trauma : Option α)
  | advance (times : Value α) (trauma : Option α)
  | cleanse

inductive Reply (α : Type) where
  | site (id : String)
  | status (s : Status α)
  | done

def Operation.perform : Operation α → Economy α → Outcome (Economy α) α (Reply α)
  | .addMine yieldRate, e => (e.addMine yieldRate).map .site
  | .addRefinery efficiency, e => (e.addRefinery efficiency).map .site
  | .setPopulation rebellion npcs, e => (e.setPopulation rebellion npcs).map fun _ => .done
  | .tick trauma, e => (e.tick trauma).map .status
  | .advance times trauma, e => (e.advance times trauma).map .status
  | .cleanse, e => e.cleanse.map fun _ => .done

def Operation.live : Operation α → Live (Economy α) α (Reply α)
  | .addMine yieldRate => do return .site (← addMineLive yieldRate)
  | .addRefinery efficiency => do return .site (← addRefineryLive efficiency)
  | .setPopulation rebellion npcs => do
      Live.act (Economy.setPopulation rebellion npcs)
      return .done
  | .tick trauma => do return .status (← tickLive trauma)
  | .advance times trauma => do return .status (← advanceLive times trauma)
  | .cleanse => do
      cleanseLive
      return .done

/-- Whoever holds an economy can also call the plague within it. -/
inductive Call (α : Type) where
  | own (op : Operation α)
  | within (op : Plague.Operation α)

def Call.perform : Call α → Economy α → Outcome (Economy α) α Unit
  | .own op, e => (op.perform e).map fun _ => ()
  | .within op, e => (e.onPlague (op.perform e.plagueConfig)).map fun _ => ()

end Economy

/-! ## The world -/

/-- An assessment compares a confined sum with the thresholds. -/
theorem Rebellion.of_assess {c : Config α} {p : Profile α} {a : Assessment α}
    (assessed : assess c p = .ok a) :
    factors c p = .ok a.factors ∧ Scalar.confined a.factors.total = .ok a.probability ∧
      a.npcId = p.npcId ∧ a.halts = decide (c.haltThreshold < a.probability) := by
  obtain ⟨parts, weighed, rest⟩ := Answer.bind_eq_ok.mp assessed
  obtain ⟨probability, confined, built⟩ := Answer.bind_eq_ok.mp rest
  cases built
  exact ⟨weighed, confined, rfl, rfl⟩

namespace World

/-- Everybody on the roster as they are assessed, in the order in which they were registered. -/
def assessments (w : World α) : Answer α (List (Rebellion.Assessment α)) :=
  (w.roster.npcs.map w.profileOf).mapM (Rebellion.assess w.rebellion)

/-- The world once its economy has been told the figures of the population. -/
def told (rebellion : α) (w : World α) : World α :=
  { w with economy := (w.economy.withRebellion rebellion).withNpcs w.roster.npcs.length }

/-- The mean probability of rebellion can always be taken over. -/
theorem fraction_figures {w : World α} {all : List (Rebellion.Assessment α)}
    (assessed : w.assessments = .ok all) : Scalar.Fraction (w.figures all).1 := by
  unfold figures
  split
  · exact .zero
  · refine Scalar.Fraction.mean fun x member => ?_
    obtain ⟨a, listed, rfl⟩ := List.mem_map.mp member
    obtain ⟨profile, -, found⟩ := Answer.exists_of_mem_mapM assessed listed
    exact .of_confined (Rebellion.of_assess found).2.1

theorem survey_of_ok {w : World α} {all : List (Rebellion.Assessment α)}
    (assessed : w.assessments = .ok all) :
    w.survey = ⟨.ok all, all.map Rebellion.rankNote, w⟩ := by
  unfold assessments at assessed
  simp only [survey, Rebellion.survey, assessed]

theorem survey_of_error {w : World α} {failure : Failure α}
    (failed : w.assessments = .error failure) : w.survey = .fail failure w := by
  unfold assessments at failed
  simp only [survey, Rebellion.survey, failed]

theorem setPopulation_of_assessed {w : World α} {all : List (Rebellion.Assessment α)}
    (assessed : w.assessments = .ok all) :
    w.economy.setPopulation (w.figures all).1 (.int w.roster.npcs.length) =
      .done () (w.told (Scalar.unit (w.figures all).1)).economy := by
  have fits := (fraction_figures assessed).overflown_rounded
  obtain ⟨large, -⟩ | ⟨-, ⟨failure, failed, -⟩ | ⟨n, read, set⟩⟩ :=
    Economy.setPopulation_cases (w.figures all).1 (.int w.roster.npcs.length) w.economy
  · rw [fits] at large
    cases large
  · cases failed
  · cases read
    exact set

/-- A refresh fails without a trace if an assessment does, and otherwise tells the economy. -/
theorem refresh_cases (w : World α) :
    (∃ failure, w.assessments = .error failure ∧ w.refresh = .fail failure w) ∨
      ∃ all, w.assessments = .ok all ∧
        w.refresh = ⟨.ok (w.figures all), all.map Rebellion.rankNote,
          w.told (Scalar.unit (w.figures all).1)⟩ := by
  cases assessed : w.assessments with
  | error failure =>
      refine .inl ⟨failure, rfl, ?_⟩
      rw [refresh, survey_of_error assessed, Outcome.fail_andThen]
  | ok all =>
      refine .inr ⟨all, rfl, ?_⟩
      simp [refresh, survey_of_ok assessed, Outcome.andThen, onEconomy,
        setPopulation_of_assessed assessed, Outcome.within, Outcome.done, told]

inductive Operation (α : Type) where
  | register (id : String)
  | enlist (id : String) (role : Value α)
  | addEfficiency (id : String) (delta : α)
  | addMorale (id : String) (delta : α)
  | assign (id : String) (task : Value α)
  | setTrauma (id : String) (trauma : α)
  | assess (id : String)
  | act (deed : Deed α)
  | refresh
  | advance (times : Value α)
  | economy (op : Economy.Operation α)
  | deploy (party : Option (List (Cleansing.Participant α)))
  | follow (rolls : Chance.Listed α) (cleanseFirst : Bool)

inductive Reply (α : Type) where
  | npc (npc : Npc α)
  | assessment (a : Rebellion.Assessment α)
  | effect (e : Deed.Effect α)
  | figures (rebellion trauma : α)
  | economy (reply : Economy.Reply α)
  | verdict (v : Cleansing.Verdict α)
  | done

def Operation.perform : Operation α → World α → Outcome (World α) α (Reply α)
  | .register id, w => (w.onRoster (·.register id)).map .npc
  | .enlist id role, w => (w.onRoster (·.enlistAs id role)).map .npc
  | .addEfficiency id delta, w => (w.onRoster (·.addEfficiency id delta)).map .npc
  | .addMorale id delta, w => (w.onRoster (·.addMorale id delta)).map .npc
  | .assign id task, w => (w.onRoster (·.assign id task)).map .npc
  | .setTrauma id trauma, w => (w.setTrauma id trauma).map fun _ => .done
  | .assess id, w => (w.assess id).map .assessment
  | .act deed, w => (w.perform deed).map .effect
  | .refresh, w => w.refresh.map fun figures => .figures figures.1 figures.2
  | .advance times, w => (w.advance times).map fun status => .economy (.status status)
  | .economy op, w => (w.onEconomy op.perform).map .economy
  | .deploy party, w => (w.deploy party).map .verdict
  | .follow rolls cleanseFirst, w => .done .done (w.follow rolls cleanseFirst)

def Operation.live : Operation α → Live (World α) α (Reply α)
  | .register id => do return .npc (← Live.act (onRoster (·.register id)))
  | .enlist id role => do return .npc (← Live.act (onRoster (·.enlistAs id role)))
  | .addEfficiency id delta => do
      return .npc (← Live.act (onRoster (·.addEfficiency id delta)))
  | .addMorale id delta => do return .npc (← Live.act (onRoster (·.addMorale id delta)))
  | .assign id task => do return .npc (← Live.act (onRoster (·.assign id task)))
  | .setTrauma id trauma => do
      Live.act (World.setTrauma id trauma)
      return .done
  | .assess id => do return .assessment (← Live.act (World.assess id))
  | .act deed => do return .effect (← performLive deed)
  | .refresh => do
      let figures ← refreshLive
      return .figures figures.1 figures.2
  | .advance times => do return .economy (.status (← advanceLive times))
  | .economy op => do return .economy (← onEconomyLive op.live)
  | .deploy party => do return .verdict (← deployLive party)
  | .follow rolls cleanseFirst => do
      Live.modify (World.follow rolls cleanseFirst)
      return .done

end World

end Colony

import Colony.Proofs.Chance.Independence
import Colony.Proofs.Cleansing.Rate
import Colony.Proofs.World.Notes
import Colony.Proofs.World.Registry

/-!
# Deployments resolve once

While rolls come from the world's own stream, a deployment that is refused or
finds no rate for its party leaves no trace, and any other rolls exactly once.
So the deployments that resolve take the draws of that stream in turn, whatever
happens between them, and each is decided by its roll alone.
-/

namespace Colony

variable {α β γ : Type} [Scalar α]

namespace World

/-! ## The source of rolls -/

def rollKey : Points := Points.ofString "cleansing.roll|\x7b\x7d"

theorem counterKey_roll : Chance.counterKey rollStream ([] : Chance.Scope α) = .ok rollKey := rfl

/-- The value of the next roll, if its text can be digested. -/
def nextRoll (w : World α) : Answer α α := w.streams.value rollKey (w.streams.count rollKey)

/-- The world once the next roll has been counted. -/
def rolled (w : World α) : World α := { w with streams := w.streams.counted rollKey }

theorem draw_roll (w : World α) :
    w.streams.draw rollStream ([] : Chance.Scope α) = .of w.nextRoll w.rolled.streams :=
  Chance.Streams.draw_of_key counterKey_roll w.streams

theorem roll_of_unscripted {w : World α} (builtIn : w.script = none) :
    w.roll = .of w.nextRoll w.rolled := by
  have drawn : w.roll = w.drawRoll := by simp only [roll, builtIn]
  rw [drawn, drawRoll, draw_roll]
  rfl

theorem nextRoll_of_legible {w : World α} (legible : w.streams.Legible) :
    ∃ roll, w.nextRoll = .ok roll :=
  legible.value _ _

/-- A roll that is answered has a legible source. -/
theorem legible_of_nextRoll {w : World α} {roll : α} (next : w.nextRoll = .ok roll) :
    w.streams.Legible := by
  obtain ⟨text, digested, -⟩ := Chance.Streams.value_eq_ok_iff.mp next
  exact digested.legible.1

theorem not_legible_of_nextRoll {w : World α} {failure : Failure α}
    (none : w.nextRoll = .error failure) : ¬ w.streams.Legible := by
  intro legible
  obtain ⟨roll, next⟩ := nextRoll_of_legible legible
  rw [none] at next
  cases next

/-- Two worlds that roll alike and resolve alike. -/
structure RollsAlike (w next : World α) : Prop where
  streams : next.streams = w.streams
  script : next.script = w.script
  cleansing : next.cleansing = w.cleansing

namespace RollsAlike

variable {w : World α}

omit [Scalar α] in
theorem refl (w : World α) : RollsAlike w w := ⟨rfl, rfl, rfl⟩

omit [Scalar α] in
theorem andThen {o : Outcome (World α) α β} {next : β → World α → Outcome (World α) α γ}
    (first : RollsAlike w o.state) (rest : ∀ b v, RollsAlike w v → RollsAlike w (next b v).state) :
    RollsAlike w (o.andThen next).state :=
  Outcome.state_andThen first rest

omit [Scalar α] in
theorem of_onlyPeople {next : World α} (people : OnlyPeople w next) : RollsAlike w next := by
  obtain ⟨roster, trauma, rfl⟩ := people
  exact ⟨rfl, rfl, rfl⟩

theorem refresh (w : World α) : RollsAlike w w.refresh.state := by
  rcases w.refresh_cases with ⟨failure, -, failed⟩ | ⟨all, -, told⟩
  · rw [failed]
    exact .refl w
  · rw [told]
    exact ⟨rfl, rfl, rfl⟩

theorem advance (times : Value α) (w : World α) : RollsAlike w (w.advance times).state :=
  andThen (refresh w) fun _ _ known => ⟨known.streams, known.script, known.cleansing⟩

end RollsAlike

def Operation.deploys : Operation α → Bool
  | .deploy _ => true
  | _ => false

def Operation.follows : Operation α → Bool
  | .follow _ _ => true
  | _ => false

theorem Operation.rollsAlike {op : Operation α} (idle : op.deploys = false)
    (keeps : op.follows = false) (w : World α) : RollsAlike w (op.perform w).state := by
  cases op with
  | register id => exact ⟨rfl, rfl, rfl⟩
  | enlist id role => exact ⟨rfl, rfl, rfl⟩
  | addEfficiency id delta => exact ⟨rfl, rfl, rfl⟩
  | addMorale id delta => exact ⟨rfl, rfl, rfl⟩
  | assign id task => exact ⟨rfl, rfl, rfl⟩
  | setTrauma id trauma => exact .of_onlyPeople (.setTrauma id trauma w)
  | assess id => exact .of_onlyPeople (.assess id w)
  | act deed => exact .of_onlyPeople (.perform deed w)
  | refresh => exact .refresh w
  | advance times => exact .advance times w
  | economy op => exact ⟨rfl, rfl, rfl⟩
  | deploy party => cases idle
  | follow rolls cleanseFirst => cases keeps

/-! ## One deployment -/

section Deploy

variable {given : Option (List (Cleansing.Participant α))} {w : World α}

theorem deploy_of_asleep (asleep : w.economy.plague.heart = false) :
    w.deploy given = .fail .heartInactive w := by
  simp only [deploy, asleep]
  rfl

theorem deploy_of_no_chance (awake : w.economy.plague.heart = true) {failure : Failure α}
    (none : Cleansing.chance w.cleansing (given.getD w.party) true = .error failure) :
    w.deploy given = .fail failure w := by
  simp only [deploy, awake, Cleansing.execute, none]
  rfl

/-- How a deployment of a given rate comes out on a roll. -/
def verdictOn (given : Option (List (Cleansing.Participant α))) (rated : α × Cleansing.Factors α)
    (roll : α) (w : World α) : Cleansing.Verdict α :=
  Cleansing.resolve (given.getD w.party) rated.1 rated.2 roll

def cleansed (w : World α) : World α :=
  { w with economy := { w.economy with plague := Plague.cleansed w.economy.plague } }

section Executed

variable {party : List (Cleansing.Participant α)} {rated : α × Cleansing.Factors α}

theorem execute_of_roll (builtIn : w.script = none)
    (chance : Cleansing.chance w.cleansing party true = .ok rated) {roll : α}
    (next : w.nextRoll = .ok roll) :
    Cleansing.execute w.cleansing party true World.roll w =
      let verdict := Cleansing.resolve party rated.1 rated.2 roll
      { answer := .ok verdict, notes := Cleansing.verdictNotes verdict, state := w.rolled } := by
  simp only [Cleansing.execute, chance, Outcome.of_ok_andThen, roll_of_unscripted builtIn, next]

theorem execute_of_no_roll (builtIn : w.script = none)
    (chance : Cleansing.chance w.cleansing party true = .ok rated) {failure : Failure α}
    (none : w.nextRoll = .error failure) :
    Cleansing.execute w.cleansing party true World.roll w = .fail failure w.rolled := by
  simp only [Cleansing.execute, chance, Outcome.of_ok_andThen, roll_of_unscripted builtIn, none,
    Outcome.of_error_andThen]

end Executed

/-- A heart that is awake is cleansed; only one that sleeps makes a cleansing fail. -/
theorem cleanse_of_awake (awake : w.economy.plague.heart = true) :
    w.economy.cleanse.answer = .ok () ∧ w.cleanseIfAwake.answer = .ok () ∧
      w.cleanseIfAwake.state = w.cleansed := by
  have emptied : Plague.cleanse w.economy.plague =
      ⟨.ok (), Plague.cleanseNotes w.economy.plague, Plague.cleansed w.economy.plague⟩ := by
    rw [Plague.cleanse, if_pos awake]
  refine ⟨?_, ?_, ?_⟩
  · rw [Economy.cleanse, Economy.onPlague, emptied]
  · rw [cleanseIfAwake, if_pos awake, onEconomy, Economy.cleanse, Economy.onPlague, emptied]
    rfl
  · rw [cleanseIfAwake, if_pos awake, onEconomy, Economy.cleanse, Economy.onPlague, emptied]
    rfl

section Rated

variable {rated : α × Cleansing.Factors α} (builtIn : w.script = none)
  (awake : w.economy.plague.heart = true)
  (chance : Cleansing.chance w.cleansing (given.getD w.party) true = .ok rated)
include builtIn awake chance

theorem deploy_of_roll {roll : α} (next : w.nextRoll = .ok roll) :
    (w.deploy given).answer = .ok (w.verdictOn given rated roll) ∧
      (w.deploy given).state =
        if (w.verdictOn given rated roll).success then w.rolled.cleansed else w.rolled := by
  obtain ⟨-, answered, clean⟩ := cleanse_of_awake (w := w.rolled) awake
  have executed := execute_of_roll builtIn chance next
  have resolved : (Cleansing.execute w.cleansing (given.getD w.party) true World.roll w).answer =
      .ok (w.verdictOn given rated roll) := congrArg Outcome.answer executed
  have left : (Cleansing.execute w.cleansing (given.getD w.party) true World.roll w).state =
      w.rolled := congrArg Outcome.state executed
  rw [deploy, if_pos awake, Outcome.answer_andThen_of_ok resolved,
    Outcome.state_andThen_of_ok resolved, left]
  split
  · rw [Outcome.answer_andThen_of_ok answered, Outcome.state_andThen_of_ok answered, clean]
    exact ⟨rfl, rfl⟩
  · exact ⟨rfl, rfl⟩

theorem deploy_of_no_roll {failure : Failure α} (none : w.nextRoll = .error failure) :
    w.deploy given = .fail failure w.rolled := by
  rw [deploy, if_pos awake, execute_of_no_roll builtIn chance none, Outcome.fail_andThen]

end Rated

end Deploy

/-! ## What a deployment comes to -/

def deployed (given : Option (List (Cleansing.Participant α))) (o : Observed (World α) α) :
    Answer α (Reply α) × Observed (World α) α :=
  o.run (Operation.perform (.deploy given))

theorem deployed_eq (given : Option (List (Cleansing.Participant α))) (o : Observed (World α) α) :
    (deployed given o).1 = (o.subject.deploy given).answer.map .verdict ∧
      (deployed given o).2.subject = (o.subject.deploy given).state :=
  Observed.run_unranked ((unranked_deploy given o.subject).map Reply.verdict)

theorem deployed_of_fail {given : Option (List (Cleansing.Participant α))}
    {o : Observed (World α) α} {failure : Failure α}
    (failed : o.subject.deploy given = .fail failure o.subject) :
    deployed given o = (.error failure, o) := by
  have performed : Operation.perform (.deploy given) o.subject = .fail failure o.subject := by
    rw [Operation.perform, failed]
    rfl
  exact Observed.run_of_fail performed

/-- A deployment that resolved: by the next roll alone, and with nothing but the plague to feel
it. -/
structure Resolved (given : Option (List (Cleansing.Participant α))) (o : Observed (World α) α)
    (verdict : Cleansing.Verdict α) : Prop where
  answer : (deployed given o).1 = .ok (.verdict verdict)
  rate : Cleansing.chance o.subject.cleansing (given.getD o.subject.party) true =
    .ok (verdict.rate, verdict.factors)
  drawn : o.subject.streams.draw rollStream ([] : Chance.Scope α) =
    .of (.ok verdict.rolled) (deployed given o).2.subject.streams
  counted : (deployed given o).2.subject.streams = o.subject.streams.counted rollKey
  decided : verdict.success = true ↔ verdict.rolled ≤ verdict.rate
  cleansed : verdict.success = true →
    (deployed given o).2.subject.economy.plague = ⟨0, false, 1, o.subject.economy.plague.lastTick⟩
  /-- The heart is still awake when the roll has been made. -/
  cleansable : (Cleansing.execute o.subject.cleansing (given.getD o.subject.party) true roll
    o.subject).state.economy.cleanse.answer = .ok ()
  spared : verdict.success = false →
    (deployed given o).2.subject.economy.plague = o.subject.economy.plague
  kept : (deployed given o).2.subject =
    { o.subject with
      streams := (deployed given o).2.subject.streams
      economy :=
        { o.subject.economy with plague := (deployed given o).2.subject.economy.plague } }

section Deployed

variable {o : Observed (World α) α} {rated : α × Cleansing.Factors α}

theorem resolved {given : Option (List (Cleansing.Participant α))}
    (builtIn : o.subject.script = none) (awake : o.subject.economy.plague.heart = true)
    (chance : Cleansing.chance o.subject.cleansing (given.getD o.subject.party) true = .ok rated)
    {roll : α} (next : o.subject.nextRoll = .ok roll) :
    Resolved given o (o.subject.verdictOn given rated roll) := by
  obtain ⟨answer, state⟩ := deploy_of_roll builtIn awake chance next
  obtain ⟨shown, left⟩ := deployed_eq given o
  have cleansable := (cleanse_of_awake (w := o.subject.rolled) awake).1
  have after : (deployed given o).2.subject =
      if (o.subject.verdictOn given rated roll).success then o.subject.rolled.cleansed
      else o.subject.rolled := left.trans state
  have counted : (deployed given o).2.subject.streams = o.subject.rolled.streams := by
    rw [after]
    split <;> rfl
  refine ⟨by rw [shown, answer]; rfl, chance, ?_, counted, decide_eq_true_iff, ?_, ?_, ?_, ?_⟩
  · rw [draw_roll, next, counted]
    rfl
  · intro success
    rw [after, if_pos success]
    rfl
  · rw [execute_of_roll builtIn chance next]
    exact cleansable
  · intro failed
    rw [after, failed]
    rfl
  · rw [after]
    split <;> rfl

/-- A roll that fails has counted, and decides nothing. -/
theorem deployed_of_no_roll {given : Option (List (Cleansing.Participant α))} {failure : Failure α}
    (builtIn : o.subject.script = none) (awake : o.subject.economy.plague.heart = true)
    (chance : Cleansing.chance o.subject.cleansing (given.getD o.subject.party) true = .ok rated)
    (none : o.subject.nextRoll = .error failure) :
    (deployed given o).1 = .error failure ∧ (deployed given o).2.subject = o.subject.rolled := by
  obtain ⟨shown, left⟩ := deployed_eq given o
  rw [deploy_of_no_roll builtIn awake chance none] at shown left
  exact ⟨shown, left⟩

/-- A deployment fails without a trace before its roll, or its roll counts and fails, or it
resolves. -/
theorem deployed_cases (builtIn : o.subject.script = none)
    (given : Option (List (Cleansing.Participant α))) :
    (∃ failure, deployed given o = (.error failure, o)) ∨
      (∃ failure, o.subject.nextRoll = .error failure ∧
        (deployed given o).1 = .error failure ∧ (deployed given o).2.subject = o.subject.rolled) ∨
      ∃ verdict, Resolved given o verdict := by
  cases awake : o.subject.economy.plague.heart with
  | false => exact .inl ⟨_, deployed_of_fail (deploy_of_asleep awake)⟩
  | true =>
      cases chance : Cleansing.chance o.subject.cleansing (given.getD o.subject.party) true with
      | error failure => exact .inl ⟨failure, deployed_of_fail (deploy_of_no_chance awake chance)⟩
      | ok rated =>
          cases next : o.subject.nextRoll with
          | error failure =>
              exact .inr (.inl ⟨failure, rfl, deployed_of_no_roll builtIn awake chance next⟩)
          | ok roll => exact .inr (.inr ⟨_, resolved builtIn awake chance next⟩)

end Deployed

/-! ## Runs -/

def Reply.verdict? : Reply α → Option (Cleansing.Verdict α)
  | .verdict v => some v
  | .npc _ => none
  | .assessment _ => none
  | .effect _ => none
  | .figures _ _ => none
  | .economy _ => none
  | .done => none

def verdictIn (answer : Answer α (Reply α)) : Option (Cleansing.Verdict α) :=
  answer.toOption.bind Reply.verdict?

omit [Scalar α] in
theorem verdictIn_map {answer : Answer α β} {f : β → Reply α}
    (other : ∀ b, (f b).verdict? = none) : verdictIn (answer.map f) = none := by
  cases answer with
  | error failure => rfl
  | ok b => exact other b

theorem Operation.verdictIn_of_idle {op : Operation α} (idle : op.deploys = false) (w : World α) :
    verdictIn (op.perform w).answer = none := by
  cases op with
  | register id => exact verdictIn_map fun _ => rfl
  | enlist id role => exact verdictIn_map fun _ => rfl
  | addEfficiency id delta => exact verdictIn_map fun _ => rfl
  | addMorale id delta => exact verdictIn_map fun _ => rfl
  | assign id task => exact verdictIn_map fun _ => rfl
  | setTrauma id trauma => exact verdictIn_map fun _ => rfl
  | assess id => exact verdictIn_map fun _ => rfl
  | act deed => exact verdictIn_map fun _ => rfl
  | refresh => exact verdictIn_map fun _ => rfl
  | advance times => exact verdictIn_map fun _ => rfl
  | economy op => exact verdictIn_map fun _ => rfl
  | deploy party => cases idle
  | follow rolls cleanseFirst => rfl

/-- A step of a run gives no verdict and leaves the source of rolls alone, or gives none since its
roll counts and fails, or takes one roll from it and decides by that. -/
inductive StepsInTurn (op : Operation α) (o : Observed (World α) α) : Prop where
  | idle (silent : verdictIn (o.run op.perform).1 = none)
      (alike : RollsAlike o.subject (o.run op.perform).2.subject)
  | illegible (silent : verdictIn (o.run op.perform).1 = none) {failure : Failure α}
      (failed : o.subject.nextRoll = .error failure)
      (alike : RollsAlike o.subject.rolled (o.run op.perform).2.subject)
  | resolved {verdict : Cleansing.Verdict α}
      (given : verdictIn (o.run op.perform).1 = some verdict)
      (next : o.subject.nextRoll = .ok verdict.rolled)
      (alike : RollsAlike o.subject.rolled (o.run op.perform).2.subject)

theorem stepsInTurn_of_idle {op : Operation α} (idle : op.deploys = false)
    (keeps : op.follows = false) (o : Observed (World α) α) : StepsInTurn op o := by
  rcases Observed.run_cases op.perform o with ⟨answer, state⟩ | ⟨failure, answer, state⟩
  · refine .idle ?_ ?_
    · rw [answer]
      exact Operation.verdictIn_of_idle idle o.subject
    · rw [state]
      exact Operation.rollsAlike idle keeps o.subject
  · refine .idle ?_ ?_
    · rw [answer]
      rfl
    · rw [state]
      exact .refl o.subject

theorem stepsInTurn_deploy {o : Observed (World α) α} (builtIn : o.subject.script = none)
    (given : Option (List (Cleansing.Participant α))) : StepsInTurn (.deploy given) o := by
  rcases deployed_cases builtIn given with
    ⟨failure, stopped⟩ | ⟨failure, failed, answer, state⟩ | ⟨verdict, resolved⟩
  · have same : o.run (Operation.perform (.deploy given)) = (.error failure, o) := stopped
    refine .idle ?_ ?_
    · rw [same]
      rfl
    · rw [same]
      exact .refl o.subject
  · have same : (o.run (Operation.perform (.deploy given))).1 = .error failure := answer
    have left : (o.run (Operation.perform (.deploy given))).2.subject = o.subject.rolled := state
    refine .illegible ?_ failed ?_
    · rw [same]
      rfl
    · rw [left]
      exact .refl o.subject.rolled
  · have shown : verdictIn (deployed given o).1 = some verdict := by
      rw [resolved.answer]
      rfl
    have drawn := resolved.drawn
    rw [draw_roll] at drawn
    have kept := resolved.kept
    exact .resolved shown (congrArg Outcome.answer drawn)
      ⟨resolved.counted, congrArg (·.script) kept, congrArg (·.cleansing) kept⟩

theorem stepsInTurn {op : Operation α} {o : Observed (World α) α}
    (builtIn : o.subject.script = none) (keeps : op.follows = false) : StepsInTurn op o := by
  cases op with
  | deploy given => exact stepsInTurn_deploy builtIn given
  | _ => exact stepsInTurn_of_idle rfl keeps o

/-! ### Whatever the rolls come to -/

/-- What a run keeps of a world that rolls by its own stream. -/
structure StaysBuiltIn (w next : World α) : Prop where
  script : next.script = none
  cleansing : next.cleansing = w.cleansing
  legible : next.streams.Legible ↔ w.streams.Legible

theorem StepsInTurn.staysBuiltIn {op : Operation α} {o : Observed (World α) α}
    (h : StepsInTurn op o) (builtIn : o.subject.script = none) :
    StaysBuiltIn o.subject (o.run op.perform).2.subject := by
  cases h with
  | idle silent alike => exact ⟨alike.script.trans builtIn, alike.cleansing, by rw [alike.streams]⟩
  | illegible silent failed alike =>
      exact ⟨alike.script.trans builtIn, alike.cleansing, by rw [alike.streams]; rfl⟩
  | resolved given next alike =>
      exact ⟨alike.script.trans builtIn, alike.cleansing, by rw [alike.streams]; rfl⟩

section Calls

variable (times : Nat) (s : Chance.Service α)

end Calls

end World

end Colony

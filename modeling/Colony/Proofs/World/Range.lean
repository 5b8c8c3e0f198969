import Colony.Proofs.Cleansing.Rate
import Colony.Proofs.Table
import Colony.Proofs.World.HeadCount

/-!
# Figures that stay in range

Whatever the settings and whatever is added, set or done, a figure that counts
between 0 and 1 is one of the two or lies strictly between them, so it is
always a number.  Nothing but comparisons is needed for that: each figure is
confined wherever it is written.
-/

namespace Colony

variable {α : Type}

/-! ## Figures -/

namespace Scalar

variable [Scalar α] {x y : α}

def InUnit (x : α) : Prop := x = 0 ∨ x = 1 ∨ (0 < x ∧ x < 1)

theorem inUnit_zero : InUnit (0 : α) := .inl rfl

theorem inUnit_unit (x : α) : InUnit (unit x) := unit_cases x

theorem InUnit.defined (h : InUnit x) : Defined x := by
  rcases h with rfl | rfl | ⟨above, -⟩
  · exact defined_zero
  · exact .of_lt_right zero_lt_one
  · exact .of_lt_right above

theorem InUnit.of_confined (h : confined x = .ok y) : InUnit y := by
  rw [← (confined_eq_ok_iff.mp h).2]
  exact inUnit_unit x

end Scalar

variable [Scalar α]

open Scalar (InUnit)

/-! ## The roster -/

structure Npc.Ranged (npc : Npc α) : Prop where
  efficiency : InUnit npc.efficiency
  morale : InUnit npc.morale

namespace Npc

variable {npc changed : Npc α}

theorem Ranged.shiftEfficiency (h : npc.Ranged) {delta : α}
    (shifted : npc.shiftEfficiency delta = .ok changed) : changed.Ranged := by
  obtain ⟨efficiency, confined, rfl⟩ := Answer.map_eq_ok.mp shifted
  exact ⟨.of_confined confined, h.morale⟩

theorem Ranged.shiftMorale (h : npc.Ranged) {delta : α}
    (shifted : npc.shiftMorale delta = .ok changed) : changed.Ranged := by
  obtain ⟨morale, confined, rfl⟩ := Answer.map_eq_ok.mp shifted
  exact ⟨h.efficiency, .of_confined confined⟩

theorem Ranged.withTask (h : npc.Ranged) {task : Value α}
    (given : npc.withTask task = .ok changed) : changed.Ranged := by
  obtain ⟨text, -, rfl⟩ := withTask_eq_ok.mp given
  exact ⟨h.efficiency, h.morale⟩

end Npc

namespace Roster

def Ranged (r : Roster α) : Prop := ∀ npc ∈ r.npcs, npc.Ranged

section Operations

variable {r next : Roster α} {npc : Npc α} {id : String} (h : r.Ranged)
include h

theorem Ranged.of_find? (found : r.find? id = some npc) : npc.Ranged :=
  h npc (List.mem_of_find?_eq_some found)

theorem Ranged.change {f : Npc α → Npc α} (keeps : ∀ npc : Npc α, npc.Ranged → (f npc).Ranged)
    (id : String) : (r.change id f).Ranged := by
  intro npc member
  obtain ⟨old, listed, rfl⟩ := List.mem_map.mp member
  split
  · exact keeps old (h old listed)
  · exact h old listed

theorem Ranged.enter {role : Role} (entered : r.enter id role = .ok (npc, next)) :
    npc.Ranged ∧ next.Ranged := by
  obtain ⟨newcomer, made, pair⟩ := Answer.map_eq_ok.mp entered
  obtain ⟨efficiency, confined, made⟩ := Answer.bind_eq_ok.mp made
  obtain ⟨morale, confined', made⟩ := Answer.bind_eq_ok.mp made
  cases made
  cases pair
  have new : (⟨id, role, efficiency, morale, []⟩ : Npc α).Ranged :=
    ⟨.of_confined confined, .of_confined confined'⟩
  refine ⟨new, fun other member => ?_⟩
  rcases List.mem_append.mp member with old | last
  · exact h other old
  · rw [List.mem_singleton.mp last]
    exact new

theorem Ranged.register (registered : r.register id = .ok (npc, next)) :
    npc.Ranged ∧ next.Ranged := by
  unfold Roster.register at registered
  split at registered
  · rename_i found
    cases registered
    exact ⟨h.of_find? found, h⟩
  · obtain ⟨role, -, entered⟩ := Answer.bind_eq_ok.mp registered
    exact h.enter entered

theorem Ranged.enlistAs {given : Value α} (enlisted : r.enlistAs id given = .ok (npc, next)) :
    npc.Ranged ∧ next.Ranged := by
  obtain ⟨role, -, enlisted⟩ := Answer.bind_eq_ok.mp enlisted
  unfold enlist at enlisted
  split at enlisted
  · rename_i old found
    cases enlisted
    have known := h.of_find? found
    refine ⟨⟨known.efficiency, known.morale⟩, h.change ?_ id⟩
    exact fun _ known => ⟨known.efficiency, known.morale⟩
  · exact h.enter enlisted

theorem Ranged.update {f : Npc α → Answer α (Npc α)}
    (keeps : ∀ npc changed : Npc α, npc.Ranged → f npc = .ok changed → changed.Ranged)
    (updated : r.update id f = .ok (npc, next)) : npc.Ranged ∧ next.Ranged := by
  obtain ⟨old, found, made, rfl⟩ := update_eq_ok.mp updated
  have ranged := keeps old npc (h.of_find? found) made
  exact ⟨ranged, h.change (fun _ _ => ranged) id⟩

end Operations

end Roster

/-! ## Readiness to rebel -/

structure Profile.Ranged (p : Profile α) : Prop where
  trauma : InUnit p.trauma
  efficiency : InUnit p.efficiency
  morale : InUnit p.morale

/-- An action confines whatever profile it is given. -/
theorem Profile.ranged_of_after {action : Action α} {p next : Profile α}
    (acted : p.after action = .ok next) : next.Ranged := by
  obtain ⟨intensity, -, acted⟩ := Answer.bind_eq_ok.mp acted
  obtain ⟨trauma, confined, acted⟩ := Answer.bind_eq_ok.mp acted
  obtain ⟨efficiency, confined', acted⟩ := Answer.bind_eq_ok.mp acted
  obtain ⟨morale, confined'', acted⟩ := Answer.bind_eq_ok.mp acted
  cases acted
  exact ⟨.of_confined confined, .of_confined confined', .of_confined confined''⟩

theorem Rebellion.inUnit_assess {c : Rebellion.Config α} {p : Profile α}
    {a : Rebellion.Assessment α} (assessed : Rebellion.assess c p = .ok a) :
    InUnit a.probability :=
  .of_confined (Rebellion.of_assess assessed).2.1

structure Deed.Effect.Ranged (e : Deed.Effect α) : Prop where
  profile : e.profile.Ranged
  before : InUnit e.before.probability
  after : InUnit e.after.probability

/-! ## The economy -/

/-- Only what tells the economy the figures of the population changes the readiness to rebel. -/
theorem Economy.Operation.inUnit_rebellion (op : Economy.Operation α) {e : Economy α}
    (h : InUnit e.status.rebellion) : InUnit (op.perform e).state.status.rebellion := by
  cases op with
  | addMine yieldRate =>
      rcases Economy.addMine_cases yieldRate e with ⟨-, same⟩ | ⟨-, same⟩ <;>
      · rw [perform, same]
        exact h
  | addRefinery efficiency =>
      rcases Economy.addRefinery_cases efficiency e with ⟨-, same⟩ | ⟨-, same⟩ <;>
      · rw [perform, same]
        exact h
  | setPopulation rebellion npcs =>
      rcases Economy.setPopulation_cases rebellion npcs e with
        ⟨-, same⟩ | ⟨-, ⟨failure, -, same⟩ | ⟨n, -, same⟩⟩
      · rw [perform, same]
        exact h
      · rw [perform, same]
        exact Scalar.inUnit_unit rebellion
      · rw [perform, same]
        exact Scalar.inUnit_unit rebellion
  | tick trauma => exact (Economy.populationKept_tick trauma e).rebellion ▸ h
  | advance times trauma => exact (Economy.populationKept_advance times trauma e).rebellion ▸ h
  | cleanse => exact h

section Ticks

variable {trauma : Option α} {e : Economy α} {s : Economy.Status α}

theorem Economy.rebellion_of_answer_tick (answered : (e.tick trauma).answer = .ok s) :
    s.rebellion = e.status.rebellion := by
  obtain ⟨_, -, answered⟩ := Outcome.answer_andThen_eq_ok.mp answered
  obtain ⟨_, -, answered⟩ := Outcome.answer_andThen_eq_ok.mp answered
  obtain ⟨_, -, answered⟩ := Outcome.answer_andThen_eq_ok.mp answered
  obtain ⟨_, -, answered⟩ := Outcome.answer_andThen_eq_ok.mp answered
  cases answered
  rfl

theorem Economy.rebellion_of_answer_ticks {more : Nat}
    (answered : (e.ticks trauma more).answer = .ok s) : s.rebellion = e.status.rebellion := by
  induction more generalizing e with
  | zero => exact rebellion_of_answer_tick answered
  | succ more ih =>
      obtain ⟨_, -, answered⟩ := Outcome.answer_andThen_eq_ok.mp answered
      exact (ih answered).trans (populationKept_tick trauma e).rebellion

theorem Economy.rebellion_of_answer_advance {times : Value α}
    (answered : (e.advance times trauma).answer = .ok s) : s.rebellion = e.status.rebellion := by
  unfold advance at answered
  split at answered
  · exact rebellion_of_answer_ticks answered
  · cases answered

end Ticks

def Economy.Reply.Ranged : Economy.Reply α → Prop
  | .site _ => True
  | .status s => InUnit s.rebellion
  | .done => True

theorem Economy.Operation.ranged_answer {op : Economy.Operation α} {e : Economy α}
    (h : InUnit e.status.rebellion) {reply : Economy.Reply α}
    (answered : (op.perform e).answer = .ok reply) : reply.Ranged := by
  cases op with
  | addMine yieldRate =>
      obtain ⟨_, -, rfl⟩ := Answer.map_eq_ok.mp answered
      trivial
  | addRefinery efficiency =>
      obtain ⟨_, -, rfl⟩ := Answer.map_eq_ok.mp answered
      trivial
  | setPopulation rebellion npcs =>
      obtain ⟨_, -, rfl⟩ := Answer.map_eq_ok.mp answered
      trivial
  | tick trauma =>
      obtain ⟨s, given, rfl⟩ := Answer.map_eq_ok.mp answered
      rwa [Economy.Reply.Ranged, Economy.rebellion_of_answer_tick given]
  | advance times trauma =>
      obtain ⟨s, given, rfl⟩ := Answer.map_eq_ok.mp answered
      rwa [Economy.Reply.Ranged, Economy.rebellion_of_answer_advance given]
  | cleanse =>
      obtain ⟨_, -, rfl⟩ := Answer.map_eq_ok.mp answered
      trivial

/-! ## The world -/

namespace World

structure Ranged (w : World α) : Prop where
  roster : w.roster.Ranged
  trauma : ∀ entry ∈ w.trauma, InUnit entry.2
  rebellion : InUnit w.economy.status.rebellion

def Reply.Ranged : Reply α → Prop
  | .npc listed => listed.Ranged
  | .assessment a => InUnit a.probability
  | .effect e => e.Ranged
  | .figures _ _ => True
  | .economy reply => reply.Ranged
  | .verdict _ => True
  | .done => True

section Steps

variable {w : World α}

theorem Ranged.withRoster (h : w.Ranged) {roster : Roster α} (ranged : roster.Ranged) :
    { w with roster := roster }.Ranged :=
  ⟨ranged, h.trauma, h.rebellion⟩

theorem Ranged.withEconomy (h : w.Ranged) {economy : Economy α}
    (ranged : InUnit economy.status.rebellion) : { w with economy := economy }.Ranged :=
  ⟨h.roster, h.trauma, ranged⟩

theorem Ranged.setTrauma (h : w.Ranged) (id : String) (trauma : α) :
    (w.setTrauma id trauma).state.Ranged := by
  rcases Outcome.of_confined_andThen_cases trauma w fun trauma w =>
      .done () { w with trauma := w.trauma.put id trauma } with ⟨-, same⟩ | ⟨-, same⟩
  · rw [World.setTrauma, same]
    exact ⟨h.roster, Table.forall_put h.trauma id (Scalar.inUnit_unit trauma), h.rebellion⟩
  · rw [World.setTrauma, same]
    exact h

theorem Ranged.traumaOf (h : w.Ranged) (id : String) : InUnit (w.traumaOf id) := by
  unfold World.traumaOf
  cases found : w.trauma.get? id with
  | none => exact Scalar.inUnit_zero
  | some trauma => exact Table.of_get? h.trauma found

/-- An operation on the roster that keeps it in range and answers with somebody in range. -/
theorem Ranged.onRoster (h : w.Ranged) {operation : Roster α → Answer α (Npc α × Roster α)}
    (keeps : ∀ npc next, operation w.roster = .ok (npc, next) → npc.Ranged ∧ next.Ranged) :
    (w.onRoster operation).state.Ranged ∧
      ∀ reply, ((w.onRoster operation).map Reply.npc).answer = .ok reply → reply.Ranged := by
  cases result : operation w.roster with
  | error failure =>
      rw [onRoster_of_error result]
      exact ⟨h, fun reply answered => by cases answered⟩
  | ok pair =>
      obtain ⟨npc, next⟩ := pair
      obtain ⟨ranged, ranged'⟩ := keeps npc next result
      rw [onRoster_of_ok result]
      refine ⟨h.withRoster ranged', fun reply answered => ?_⟩
      cases answered
      exact ranged

theorem Ranged.register (h : w.Ranged) (id : String) :
    (w.onRoster (·.register id)).state.Ranged :=
  (h.onRoster fun _ _ => h.roster.register).1

theorem Ranged.assess (h : w.Ranged) (id : String) : (w.assess id).state.Ranged :=
  Outcome.state_andThen (h.register id) fun _ _ ranged => ranged

theorem inUnit_of_assess {id : String} {a : Rebellion.Assessment α}
    (answered : (w.assess id).answer = .ok a) : InUnit a.probability := by
  obtain ⟨npc, -, assessed⟩ := Outcome.answer_andThen_eq_ok.mp answered
  exact Rebellion.inUnit_assess assessed

theorem ranged_effectOn {npc : Npc α} {deed : Deed α} {e : Deed.Effect α}
    (effect : w.effectOn npc deed = .ok e) : e.Ranged := by
  obtain ⟨before, assessed, made⟩ := Answer.bind_eq_ok.mp effect
  obtain ⟨changed, acted, made⟩ := Answer.bind_eq_ok.mp made
  obtain ⟨after, assessed', made⟩ := Answer.bind_eq_ok.mp made
  cases made
  exact ⟨Profile.ranged_of_after acted, Rebellion.inUnit_assess assessed,
    Rebellion.inUnit_assess assessed'⟩

/-- What is written back is confined once more. -/
theorem Ranged.store (h : w.Ranged) (npc : Npc α) (profile : Profile α) :
    (w.store npc profile).state.Ranged := by
  refine Outcome.state_andThen (P := World.Ranged) ?_ fun _ v ranged =>
    Outcome.state_andThen (P := World.Ranged) ?_ fun _ u ranged => ranged.setTrauma _ _
  · refine (h.onRoster fun _ _ => ?_).1
    exact h.roster.update fun _ _ known => known.shiftEfficiency
  · refine (ranged.onRoster fun _ _ => ?_).1
    exact ranged.roster.update fun _ _ known => known.shiftMorale

theorem Ranged.perform (h : w.Ranged) (deed : Deed α) : (w.perform deed).state.Ranged := by
  refine Outcome.state_andThen (h.register deed.npcId) fun npc next ranged => ?_
  refine Outcome.state_andThen (P := World.Ranged) ranged fun effect last ranged => ?_
  split
  · exact ranged
  · exact Outcome.state_andThen (ranged.store npc effect.profile) fun _ _ stored => stored

theorem ranged_of_perform {deed : Deed α} {e : Deed.Effect α}
    (answered : (w.perform deed).answer = .ok e) : e.Ranged := by
  obtain ⟨npc, -, answered⟩ := Outcome.answer_andThen_eq_ok.mp answered
  obtain ⟨effect, made, answered⟩ := Outcome.answer_andThen_eq_ok.mp answered
  have same : effect = e := by
    split at answered
    · exact Except.ok.inj answered
    · obtain ⟨_, -, answered⟩ := Outcome.answer_andThen_eq_ok.mp answered
      exact Except.ok.inj answered
  exact same ▸ ranged_effectOn made

theorem Ranged.refresh (h : w.Ranged) : w.refresh.state.Ranged := by
  rcases w.refresh_cases with ⟨failure, -, failed⟩ | ⟨all, -, told⟩
  · rw [failed]
    exact h
  · rw [told]
    exact h.withEconomy (Scalar.inUnit_unit _)

theorem Ranged.advance (h : w.Ranged) (times : Value α) : (w.advance times).state.Ranged := by
  refine Outcome.state_andThen h.refresh fun figures next ranged => ranged.withEconomy ?_
  exact (Economy.populationKept_advance times _ next.economy).rebellion ▸ ranged.rebellion

theorem Ranged.status_of_advance (h : w.Ranged) {times : Value α} {s : Economy.Status α}
    (answered : (w.advance times).answer = .ok s) : InUnit s.rebellion := by
  obtain ⟨figures, -, answered⟩ := Outcome.answer_andThen_eq_ok.mp answered
  exact (Economy.rebellion_of_answer_advance answered).symm ▸ h.refresh.rebellion

theorem Ranged.deploy (h : w.Ranged) (party : Option (List (Cleansing.Participant α))) :
    (w.deploy party).state.Ranged :=
  deploy_induction (fun _ _ ranged => ⟨ranged.roster, ranged.trauma, ranged.rebellion⟩)
    (fun _ _ ranged => ⟨ranged.roster, ranged.trauma, ranged.rebellion⟩)
    (fun _ ranged => ⟨ranged.roster, ranged.trauma, ranged.rebellion⟩) h party

end Steps

/-! ### Operations and runs -/

/-- An operation keeps the world in range and answers in range. -/
theorem Operation.ranged (op : Operation α) {w : World α} (h : w.Ranged) :
    (op.perform w).state.Ranged ∧
      ∀ reply, (op.perform w).answer = .ok reply → reply.Ranged := by
  cases op with
  | register id => exact h.onRoster fun _ _ => h.roster.register
  | enlist id role => exact h.onRoster fun _ _ => h.roster.enlistAs
  | addEfficiency id delta =>
      exact h.onRoster fun _ _ => h.roster.update fun _ _ known => known.shiftEfficiency
  | addMorale id delta =>
      exact h.onRoster fun _ _ => h.roster.update fun _ _ known => known.shiftMorale
  | assign id task =>
      exact h.onRoster fun _ _ => h.roster.update fun _ _ known => known.withTask
  | setTrauma id trauma =>
      refine ⟨h.setTrauma id trauma, fun reply answered => ?_⟩
      obtain ⟨_, -, rfl⟩ := Answer.map_eq_ok.mp answered
      trivial
  | assess id =>
      refine ⟨h.assess id, fun reply answered => ?_⟩
      obtain ⟨a, given, rfl⟩ := Answer.map_eq_ok.mp answered
      exact inUnit_of_assess given
  | act deed =>
      refine ⟨h.perform deed, fun reply answered => ?_⟩
      obtain ⟨e, given, rfl⟩ := Answer.map_eq_ok.mp answered
      exact ranged_of_perform given
  | refresh =>
      refine ⟨h.refresh, fun reply answered => ?_⟩
      obtain ⟨figures, -, rfl⟩ := Answer.map_eq_ok.mp answered
      trivial
  | advance times =>
      refine ⟨h.advance times, fun reply answered => ?_⟩
      obtain ⟨s, given, rfl⟩ := Answer.map_eq_ok.mp answered
      exact h.status_of_advance given
  | economy op =>
      refine ⟨h.withEconomy (op.inUnit_rebellion h.rebellion), fun reply answered => ?_⟩
      obtain ⟨told, given, rfl⟩ := Answer.map_eq_ok.mp answered
      exact Economy.Operation.ranged_answer h.rebellion given
  | deploy party =>
      refine ⟨h.deploy party, fun reply answered => ?_⟩
      obtain ⟨verdict, -, rfl⟩ := Answer.map_eq_ok.mp answered
      trivial
  | follow rolls cleanseFirst =>
      refine ⟨⟨h.roster, h.trauma, h.rebellion⟩, fun reply answered => ?_⟩
      cases answered
      trivial

/-- The same under a chronicle, which may make an operation fail and then leaves the world. -/
theorem Operation.ranged_run (op : Operation α) {o : Observed (World α) α}
    (h : o.subject.Ranged) :
    (o.run op.perform).2.subject.Ranged ∧
      ∀ reply, (o.run op.perform).1 = .ok reply → reply.Ranged := by
  obtain ⟨state, answer⟩ := op.ranged h
  rcases Observed.run_cases op.perform o with ⟨same, same'⟩ | ⟨failure, fails, same'⟩
  · rw [same, same']
    exact ⟨state, answer⟩
  · rw [fails, same']
    exact ⟨h, fun reply answered => by cases answered⟩

theorem ranged_of_fresh {settings : Settings α} {w : World α} (fresh : Fresh settings w) :
    w.Ranged := by
  obtain ⟨config, plague, -, -, economy⟩ := fresh.economy
  refine ⟨fun npc member => ?_, fun entry member => ?_, ?_⟩
  · rw [fresh.nobody] at member
    cases member
  · rw [fresh.trauma] at member
    cases member
  · rw [economy]
    exact Scalar.inUnit_zero

end World

def Rebellion.Reply.Ranged : Rebellion.Reply α → Prop
  | .assessed all => ∀ a ∈ all, InUnit a.probability
  | .changed profile => profile.Ranged

/-- Also the engine alone answers in range, whatever profiles it is given. -/
theorem Rebellion.Operation.ranged_answer {c : Rebellion.Config α} {op : Rebellion.Operation α}
    {reply : Rebellion.Reply α} (answered : (op.perform c ()).answer = .ok reply) :
    reply.Ranged := by
  cases op with
  | assess profile =>
      obtain ⟨a, given, rfl⟩ := Answer.map_eq_ok.mp answered
      intro other member
      rw [List.mem_singleton.mp member]
      exact inUnit_assess given
  | act action profile =>
      obtain ⟨next, given, rfl⟩ := Answer.map_eq_ok.mp answered
      exact Profile.ranged_of_after given
  | survey profiles =>
      obtain ⟨all, given, rfl⟩ := Answer.map_eq_ok.mp answered
      unfold Rebellion.survey at given
      split at given
      · rename_i assessments assessed
        cases given
        intro a member
        obtain ⟨profile, -, assessed⟩ := Answer.exists_of_mem_mapM assessed member
        exact inUnit_assess assessed
      · cases given

/-- Whatever the settings are and whatever is done, no figure of the world leaves its range and
none is answered out of range; the head count is the one taken over last. -/
theorem World.figures_in_range {settings : Settings α} {start : Observed (World α) α}
    (started : World.start settings = .ok start) (ops : List (World.Operation α)) :
    let o := start.after World.Operation.perform ops
    o.subject.Ranged ∧
      o.subject.economy.status.activeNpcs = World.lastHeadCount 0 ops start ∧
      (∀ (op : World.Operation α) (reply : World.Reply α),
        (o.run op.perform).1 = .ok reply → reply.Ranged) ∧
      ∀ (op : Rebellion.Operation α) (reply : Rebellion.Reply α),
        (op.perform o.subject.rebellion ()).answer = .ok reply → reply.Ranged := by
  obtain ⟨w, c, -, made, rfl⟩ := World.start_eq_ok.mp started
  have fresh := World.fresh_of_new made
  have ranged := Observed.after_induction (P := fun o : Observed (World α) α => o.subject.Ranged)
    (fun op o h => (op.ranged_run h).1) ops (o := ⟨w, some c⟩) (World.ranged_of_fresh fresh)
  have nobody : w.economy.status.activeNpcs = 0 := by
    obtain ⟨config, plague, -, -, economy⟩ := fresh.economy
    rw [economy]
    rfl
  refine ⟨ranged, ?_, fun op => (op.ranged_run ranged).2, fun op reply answered => ?_⟩
  · rw [World.activeNpcs_after, nobody]
  · exact Rebellion.Operation.ranged_answer answered

/-- Defaults, weights and deltas that are no numbers, an infinite trauma and intensity; somebody
who is registered after the refresh is not counted. -/
theorem World.figures_in_range_of_undefined :
    let undefined : Amount := Scalar.ofNumeral .undefined
    let infinite : Amount := Scalar.ofNumeral (.infinite false)
    let settings : Settings Amount :=
      ((Settings.standard.set .defaultMorale (.num undefined)).set .rebellionTrauma
        (.num undefined)).set .defaultEfficiency (.num infinite)
    let ops : List (World.Operation Amount) :=
      [.register "a", .addMorale "a" undefined, .setTrauma "a" infinite,
       .act { npcId := "a", actionId := "x", action := ⟨.punishment, infinite⟩ }, .refresh,
       .register "b"]
    ∃ start, World.start settings = .ok start ∧
      let o := start.after World.Operation.perform ops
      o.subject.Ranged ∧ o.subject.economy.status.activeNpcs = World.lastHeadCount 0 ops start ∧
        o.subject.economy.status.activeNpcs = 1 ∧ o.subject.roster.size = 2 := by
  intro undefined infinite settings ops
  have counted : ((World.start settings).toOption.map fun start =>
      let o := start.after World.Operation.perform ops
      (o.subject.economy.status.activeNpcs, o.subject.roster.size)) = some (1, 2) := by
    decide +kernel
  obtain ⟨start, started, same⟩ := Answer.toOption_map_eq_some.mp counted
  obtain ⟨ranged, headCount, -⟩ := World.figures_in_range started ops
  exact ⟨start, started, ranged, headCount, congrArg Prod.fst same, congrArg Prod.snd same⟩

/-! ## Refreshes that answer -/

/-- A base and weights that arithmetic of fractions can take up, be they numbers or not. -/
structure Rebellion.Config.Measured (c : Rebellion.Config Amount) : Prop where
  base : c.base.Fits
  traumaWeight : c.traumaWeight.Fits
  efficiencyWeight : c.efficiencyWeight.Fits
  moraleWeight : c.moraleWeight.Fits

/-- What is in range can be rounded. -/
theorem Scalar.InUnit.fits {x : Amount} (h : InUnit x) : x.Fits := by
  rcases h with rfl | rfl | ⟨above, below⟩
  · exact Amount.IsBinary.zero.fits
  · exact Amount.IsBinary.one.fits
  · cases x with
    | whole n =>
        rw [lt_iff_exact, exact_zero] at above
        rw [lt_iff_exact, exact_one] at below
        have positive : (0 : Rat) < n := of_decide_eq_true above
        have small : (n : Rat) < 1 := of_decide_eq_true below
        norm_cast at positive small
        omega
    | flag b => cases b <;> exact ⟨_, rfl⟩
    | binary b => exact ⟨b, rfl⟩
    | overflow => cases above

theorem Rebellion.Config.Measured.exists_assess {c : Rebellion.Config Amount} (h : c.Measured)
    {p : Profile Amount} (ranged : p.Ranged) : ∃ a, Rebellion.assess c p = .ok a := by
  obtain ⟨trauma, confinedTrauma⟩ := Amount.exists_confined_iff.mpr ranged.trauma.fits
  obtain ⟨efficiency, confinedEfficiency⟩ := Amount.exists_confined_iff.mpr ranged.efficiency.fits
  obtain ⟨morale, confinedMorale⟩ := Amount.exists_confined_iff.mpr ranged.morale.fits
  have weighed : Rebellion.factors c p = .ok ⟨c.base, trauma * c.traumaWeight,
      (1 - efficiency) * c.efficiencyWeight, (1 - morale) * c.moraleWeight⟩ := by
    simp only [Rebellion.factors, confinedTrauma, confinedEfficiency, confinedMorale]
    rfl
  have lack {x y : Amount} (confined : Scalar.confined x = .ok y) : (1 - y).IsBinary :=
    Amount.IsBinary.one.sub (Amount.IsBinary.of_confined confined).fits
  have ofTrauma := (Amount.IsBinary.of_confined confinedTrauma).mul h.traumaWeight
  have ofEfficiency := (lack confinedEfficiency).mul h.efficiencyWeight
  have ofMorale := (lack confinedMorale).mul h.moraleWeight
  have total := ((ofTrauma.add_left h.base).add ofEfficiency.fits).add ofMorale.fits
  obtain ⟨probability, confined⟩ := Amount.exists_confined_iff.mpr total.fits
  exact ⟨_, Answer.bind_eq_ok.mpr ⟨_, weighed, Answer.bind_eq_ok.mpr ⟨probability, confined, rfl⟩⟩⟩

theorem World.Ranged.profileOf {w : World α} (h : w.Ranged) {npc : Npc α}
    (listed : npc ∈ w.roster.npcs) : (w.profileOf npc).Ranged :=
  ⟨h.traumaOf npc.id, (h.roster npc listed).efficiency, (h.roster npc listed).morale⟩

/-- Where the weights can be calculated with and the boards have a size, every refresh answers. -/
theorem World.refresh_answers {o : Observed (World Amount) Amount}
    (measured : o.subject.rebellion.Measured) (ranged : o.subject.Ranged)
    (sized : ∀ c ∈ o.chronicle, c.Sized) : ∃ figures, (o.run (·.refresh)).1 = .ok figures := by
  have answered : ∃ figures, o.subject.refresh.answer = .ok figures := by
    rcases o.subject.refresh_cases with ⟨failure, failed, -⟩ | ⟨all, -, told⟩
    · obtain ⟨all, assessed⟩ : ∃ all, o.subject.assessments = .ok all := by
        refine Answer.exists_mapM fun p member => ?_
        obtain ⟨npc, listed, rfl⟩ := List.mem_map.mp member
        exact measured.exists_assess (ranged.profileOf listed)
      rw [assessed] at failed
      cases failed
    · exact ⟨_, by rw [told]⟩
  obtain ⟨figures, answered⟩ := answered
  refine ⟨figures, ?_⟩
  obtain ⟨w, chronicle⟩ := o
  cases chronicle with
  | none => exact answered
  | some c =>
      rw [Observed.run_of_written ((sized c rfl).answer_hearAll _)]
      exact answered

end Colony

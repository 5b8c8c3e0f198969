import Colony.Proofs.World.Notes
import Colony.Proofs.World.Registry
import Colony.Scalar.Amount

/-!
# Deeds that are only tried

A deed starts by registering its NPC, tried or not.  Trying it leaves behind
just that: nothing for an NPC on the roster, a newcomer otherwise.  Whoever was
registered before may be tried upon without anybody noticing.
-/

namespace Colony

variable {α : Type} [Scalar α]

namespace Roster

theorem register_of_known {id : String} {r : Roster α} {npc : Npc α}
    (known : r.find? id = some npc) : r.register id = .ok (npc, r) := by
  simp only [register, known]

theorem register_of_unknown {id : String} {r next : Roster α} {npc : Npc α}
    (unknown : r.find? id = none) (registered : r.register id = .ok (npc, next)) :
    npc.id = id ∧ next = r.add npc := by
  simp only [register, unknown] at registered
  obtain ⟨role, -, entered⟩ := Answer.bind_eq_ok.mp registered
  exact add_of_enter entered

omit [Scalar α] in
theorem find?_add (other : String) (npc : Npc α) (r : Roster α) :
    (r.add npc).find? other = (r.find? other).or (if npc.id = other then some npc else none) := by
  simp only [find?, add, List.find?_append, List.find?_cons, List.find?_nil]
  by_cases here : npc.id = other
  · simp [here]
  · simp [here, beq_eq_false_iff_ne.mpr here]

/-- Whoever is registered is on the roster afterwards; nobody else is touched. -/
theorem find?_register {id : String} {r next : Roster α} {npc : Npc α}
    (registered : r.register id = .ok (npc, next)) :
    npc.id = id ∧ next.find? id = some npc ∧
      ∀ other, other ≠ id → next.find? other = r.find? other := by
  cases known : r.find? id with
  | some found =>
      rw [register_of_known known] at registered
      cases registered
      exact ⟨id_of_find? known, known, fun _ _ => rfl⟩
  | none =>
      obtain ⟨rfl, rfl⟩ := register_of_unknown known registered
      refine ⟨rfl, by simp [find?_add, known], fun other ne => ?_⟩
      simp [find?_add, ne.symm]

end Roster

def Deed.tried (deed : Deed α) : Deed α := { deed with dryRun := true }

namespace World

section Registered

variable {w : World α} {npc : Npc α} {roster : Roster α} {before after : Rebellion.Assessment α}
variable {changed : Profile α}

theorem assess_of_registered {id : String} (registered : w.roster.register id = .ok (npc, roster))
    (assessed :
      Rebellion.assess w.rebellion (profileOf npc { w with roster := roster }) = .ok before) :
    w.assess id = .done before { w with roster := roster } := by
  rw [assess, onRoster_of_ok registered, Outcome.done_andThen]
  exact congrArg (Outcome.of · { w with roster := roster }) assessed

theorem effectOn_of_assessed (deed : Deed α)
    (assessed : Rebellion.assess w.rebellion (w.profileOf npc) = .ok before)
    (acted : (w.profileOf npc).after deed.action = .ok changed)
    (reassessed : Rebellion.assess w.rebellion changed = .ok after) :
    w.effectOn npc deed = .ok ⟨npc.id, changed, before, after, !deed.dryRun⟩ := by
  simp only [effectOn, assessed, acted, reassessed, bind, Except.bind]
  rfl

theorem perform_of_registered (deed : Deed α) {effect : Deed.Effect α}
    (registered : w.roster.register deed.npcId = .ok (npc, roster))
    (found : effectOn npc deed { w with roster := roster } = .ok effect) :
    w.perform deed =
      if deed.dryRun then .done effect { w with roster := roster }
      else apply npc deed effect { w with roster := roster } := by
  rw [perform, onRoster_of_ok registered, Outcome.done_andThen, found]
  rfl

end Registered

/-- Trying a deed writes nothing down and leaves the world as registering does. -/
theorem perform_tried (deed : Deed α) (w : World α) :
    (w.perform deed.tried).notes = [] ∧
      (w.perform deed.tried).state = (w.onRoster (·.register deed.npcId)).state := by
  have same : deed.tried.npcId = deed.npcId := rfl
  have dry : deed.tried.dryRun = true := rfl
  rw [perform, same]
  cases registered : w.roster.register deed.npcId with
  | error failure =>
      rw [onRoster_of_error registered]
      exact ⟨rfl, rfl⟩
  | ok pair =>
      rw [onRoster_of_ok registered, Outcome.done_andThen]
      cases effectOn pair.1 deed.tried { w with roster := pair.2 } with
      | error failure => exact ⟨rfl, rfl⟩
      | ok effect =>
          rw [Outcome.of_ok_andThen, if_pos dry]
          exact ⟨rfl, rfl⟩

/-- What is left of a deed that was only tried: at most a newcomer on the roster. -/
structure Trial (deed : Deed α) (o next : Observed (World α) α) : Prop where
  registered : next = (o.run (Operation.perform (.register deed.npcId))).2
  elsewhere : next = { o with subject := { o.subject with roster := next.subject.roster } }
  roster : next.subject.roster = o.subject.roster ∨
    o.subject.roster.find? deed.npcId = none ∧
      ∃ npc, npc.id = deed.npcId ∧ next.subject.roster = o.subject.roster.add npc
  untouched_iff : next = o ↔
    (∃ npc, o.subject.roster.find? deed.npcId = some npc) ∨
      ∃ failure, o.subject.roster.register deed.npcId = .error failure

theorem state_register_cases (id : String) (w : World α) :
    let registered := (w.onRoster (·.register id)).state
    (registered = w ∧ ((∃ npc, w.roster.find? id = some npc) ∨
        ∃ failure, w.roster.register id = .error failure)) ∨
      w.roster.find? id = none ∧ ∃ npc, npc.id = id ∧
        w.roster.register id = .ok (npc, w.roster.add npc) ∧
        registered = { w with roster := w.roster.add npc } := by
  intro registered
  cases known : w.roster.find? id with
  | some npc =>
      refine .inl ⟨?_, .inl ⟨npc, rfl⟩⟩
      simp only [registered, onRoster_of_ok (Roster.register_of_known known)]
      rfl
  | none =>
      cases answer : w.roster.register id with
      | error failure =>
          refine .inl ⟨?_, .inr ⟨failure, rfl⟩⟩
          simp only [registered, onRoster_of_error answer]
          rfl
      | ok pair =>
          obtain ⟨npc, roster⟩ := pair
          obtain ⟨named, rfl⟩ := Roster.register_of_unknown known answer
          refine .inr ⟨rfl, npc, named, rfl, ?_⟩
          simp only [registered, onRoster_of_ok answer]
          rfl

theorem tried_registers (deed : Deed α) (o : Observed (World α) α) :
    Trial deed o (o.run (Operation.perform (.act deed.tried))).2 := by
  obtain ⟨silent, same⟩ := perform_tried deed o.subject
  have silent' : (Operation.perform (.act deed.tried) o.subject).notes = [] := silent
  have quiet : (Operation.perform (.register deed.npcId) o.subject).notes = [] := by
    simp only [Operation.perform, onRoster]
    cases o.subject.roster.register deed.npcId <;> rfl
  have tried : (o.run (Operation.perform (.act deed.tried))).2 =
      { o with subject := (o.subject.onRoster (·.register deed.npcId)).state } := by
    rw [Observed.run_silent silent', ← same]
    rfl
  have registered : (o.run (Operation.perform (.register deed.npcId))).2 =
      { o with subject := (o.subject.onRoster (·.register deed.npcId)).state } := by
    rw [Observed.run_silent quiet]
    rfl
  rw [tried]
  rcases state_register_cases deed.npcId o.subject with
    ⟨kept, reason⟩ | ⟨unknown, npc, named, entered, added⟩
  · rw [kept] at registered ⊢
    exact ⟨registered.symm, rfl, .inl rfl, fun _ => reason, fun _ => rfl⟩
  · rw [added] at registered ⊢
    refine ⟨registered.symm, rfl, .inr ⟨unknown, npc, named, rfl⟩, fun same => ?_, fun known => ?_⟩
    · have grown := congrArg (fun o => o.subject.roster.npcs.length) same
      simp [Roster.add] at grown
    · rcases known with ⟨npc, known⟩ | ⟨failure, refused⟩
      · rw [unknown] at known
        cases known
      · rw [entered] at refused
        cases refused

def Reply.rebellion? : Reply α → Option α
  | .figures rebellion _ => some rebellion
  | .npc _ => none
  | .assessment _ => none
  | .effect _ => none
  | .economy _ => none
  | .verdict _ => none
  | .done => none

/-- A stranger who was only tried upon counts in the next refresh. -/
theorem tried_counts :
    let deed : Deed Amount :=
      { npcId := "stranger", actionId := "beaten", action := ⟨.punishment, 1⟩, dryRun := true }
    ∃ start, World.start (.standard : Settings Amount) = .ok start ∧
      (start.run (Operation.perform (.act deed))).2 ≠ start ∧
      ((start.run (Operation.perform (.act deed))).2.run (Operation.perform .refresh)).1 ≠
        (start.run (Operation.perform .refresh)).1 := by
  intro deed
  let rebels : Answer Amount (Reply Amount) → Bool := fun answer =>
    (answer.toOption.bind Reply.rebellion?).any fun rebellion => decide (0 < rebellion)
  have felt : ((World.start (.standard : Settings Amount)).toOption.map fun start =>
      (rebels ((start.run (Operation.perform (.act deed))).2.run (Operation.perform .refresh)).1,
        rebels (start.run (Operation.perform .refresh)).1)) = some (true, false) := by
    decide +kernel
  cases started : World.start (.standard : Settings Amount) with
  | error failure => simp [started, Except.toOption] at felt
  | ok start =>
      simp only [started, Except.toOption, Option.map_some, Option.some.injEq,
        Prod.mk.injEq] at felt
      refine ⟨start, rfl, fun same => ?_, fun same => ?_⟩
      · rw [same, felt.2] at felt
        cases felt.1
      · rw [same, felt.2] at felt
        cases felt.1

end World

end Colony

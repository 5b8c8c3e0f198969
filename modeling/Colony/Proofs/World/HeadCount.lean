import Colony.Proofs.World.Conversion
import Colony.Proofs.World.Split

/-!
# The head count

The economy is told how many there are.  A refresh that answers counts the
roster, and a count may be set from outside; nothing else touches it.  So after
any run it is the count that was taken over last.
-/

namespace Colony

variable {α β : Type} [Scalar α]

theorem Observed.state_run_map {σ γ : Type} (operation : σ → Outcome σ α β) (f : β → γ)
    (o : Observed σ α) : (o.run fun s => (operation s).map f).2 = (o.run operation).2 := by
  obtain ⟨s, chronicle⟩ := o
  cases chronicle with
  | none => rfl
  | some c =>
      simp only [run, Outcome.map]
      split <;> rfl

namespace World

/-- The head count that an operation takes over, if it does: a refresh that answers counts the
roster, and the economy may be told a count from outside. -/
def Operation.headCount (op : Operation α) (o : Observed (World α) α) : Option Nat :=
  match op with
  | .refresh | .advance _ => (o.run (·.refresh)).1.toOption.map fun _ => o.subject.roster.size
  | .economy (.setPopulation rebellion npcs) =>
      if Scalar.overflown (Scalar.rounded rebellion) then none
      else npcs.toInt.toOption.map Int.toNat
  | _ => none

/-- The head count taken over last in a run, or else the one before it. -/
def lastHeadCount (before : Nat) : List (Operation α) → Observed (World α) α → Nat
  | [], _ => before
  | op :: ops, o => lastHeadCount ((op.headCount o).getD before) ops (o.run op.perform).2

theorem activeNpcs_refresh (w : World α) :
    w.refresh.state.economy.status.activeNpcs =
      (w.refresh.answer.toOption.map fun _ => w.roster.size).getD
        w.economy.status.activeNpcs := by
  rcases w.refresh_cases with ⟨failure, -, failed⟩ | ⟨all, -, told⟩
  · rw [failed]
    rfl
  · rw [told]
    rfl

theorem activeNpcs_advance (times : Value α) (w : World α) :
    (w.advance times).state.economy.status.activeNpcs =
      w.refresh.state.economy.status.activeNpcs := by
  refine Outcome.state_andThen (P := fun v : World α =>
    v.economy.status.activeNpcs = w.refresh.state.economy.status.activeNpcs) rfl ?_
  intro figures next same
  exact (Economy.populationKept_advance times _ next.economy).activeNpcs.trans same

theorem activeNpcs_run_refresh (o : Observed (World α) α) :
    (o.run (·.refresh)).2.subject.economy.status.activeNpcs =
      ((o.run (·.refresh)).1.toOption.map fun _ => o.subject.roster.size).getD
        o.subject.economy.status.activeNpcs := by
  rcases Observed.run_cases (·.refresh) o with ⟨answer, state⟩ | ⟨failure, fails, kept⟩
  · rw [answer, state]
    exact activeNpcs_refresh o.subject
  · rw [fails, kept]
    rfl

/-- An advance leaves the head count that its refresh leaves, also where it fails later. -/
theorem activeNpcs_run_advance (times : Value α) (o : Observed (World α) α) :
    (o.run (·.advance times)).2.subject.economy.status.activeNpcs =
      (o.run (·.refresh)).2.subject.economy.status.activeNpcs := by
  obtain ⟨w, chronicle⟩ := o
  cases chronicle with
  | none => exact activeNpcs_advance times w
  | some c =>
      cases written : (c.hearAll w.refresh.notes).1 with
      | ok done =>
          rw [Observed.run_of_written written,
            Observed.run_of_written (answer_hearAll_advance written times)]
          exact activeNpcs_advance times w
      | error failure =>
          obtain ⟨heard, unheard⟩ := run_advance_of_unwritten written times
          rw [unheard, Observed.run_of_unwritten written]

def Counts (n : Nat) (w : World α) : Prop := w.economy.status.activeNpcs = n

theorem Counts.addMine {n : Nat} {w : World α} (h : w.Counts n) (yieldRate : α) :
    (w.onEconomy (·.addMine yieldRate)).state.Counts n := by
  rcases Economy.addMine_cases yieldRate w.economy with ⟨-, same⟩ | ⟨-, same⟩ <;>
  · simp only [onEconomy, same]
    exact h

theorem Counts.addRefinery {n : Nat} {w : World α} (h : w.Counts n) (efficiency : α) :
    (w.onEconomy (·.addRefinery efficiency)).state.Counts n := by
  rcases Economy.addRefinery_cases efficiency w.economy with ⟨-, same⟩ | ⟨-, same⟩ <;>
  · simp only [onEconomy, same]
    exact h

theorem activeNpcs_setPopulation (rebellion : α) (npcs : Value α) (e : Economy α) :
    (e.setPopulation rebellion npcs).state.status.activeNpcs =
      (if Scalar.overflown (Scalar.rounded rebellion) then none
        else npcs.toInt.toOption.map Int.toNat).getD e.status.activeNpcs := by
  obtain ⟨large, same⟩ | ⟨fits, ⟨failure, unread, same⟩ | ⟨n, read, same⟩⟩ :=
    Economy.setPopulation_cases rebellion npcs e
  · rw [same, large]
    rfl
  · rw [same, fits, unread]
    rfl
  · rw [same, fits, read]
    rfl

theorem notes_setPopulation (rebellion : α) (npcs : Value α) (e : Economy α) :
    (e.setPopulation rebellion npcs).notes = [] := by
  obtain ⟨-, same⟩ | ⟨-, ⟨failure, -, same⟩ | ⟨n, -, same⟩⟩ :=
    Economy.setPopulation_cases rebellion npcs e <;>
  · rw [same]
    rfl

section Uncounted

variable {n : Nat} {w : World α} (h : w.Counts n)
include h

omit [Scalar α] in
theorem Counts.onlyPeople {next : World α} (people : OnlyPeople w next) : next.Counts n := by
  rw [Counts, ← people.economy]
  exact h

theorem Counts.deploy (party : Option (List (Cleansing.Participant α))) :
    (w.deploy party).state.Counts n :=
  deploy_induction (P := Counts n) (fun _ _ same => same) (fun _ _ same => same)
    (fun _ same => same) h party

end Uncounted

/-- Under a chronicle an operation either takes place or leaves the world. -/
theorem Counts.run {n : Nat} {operation : World α → Outcome (World α) α β}
    {o : Observed (World α) α} (h : o.subject.Counts n)
    (state : (operation o.subject).state.Counts n) : (o.run operation).2.subject.Counts n :=
  Observed.subject_run_induction (P := Counts n) h state

/-- The head count after an operation is the one that it took over, or else the one before. -/
theorem Operation.activeNpcs_run (op : Operation α) (o : Observed (World α) α) :
    (o.run op.perform).2.subject.economy.status.activeNpcs =
      (op.headCount o).getD o.subject.economy.status.activeNpcs := by
  have before : o.subject.Counts o.subject.economy.status.activeNpcs := rfl
  cases op with
  | register id => exact before.run before
  | enlist id role => exact before.run before
  | addEfficiency id delta => exact before.run before
  | addMorale id delta => exact before.run before
  | assign id task => exact before.run before
  | setTrauma id trauma => exact before.run (before.onlyPeople (.setTrauma id trauma o.subject))
  | assess id => exact before.run (before.onlyPeople (.assess id o.subject))
  | act deed => exact before.run (before.onlyPeople (.perform deed o.subject))
  | refresh =>
      have same : (o.run Operation.refresh.perform).2 = (o.run (·.refresh)).2 :=
        Observed.state_run_map _ _ o
      rw [same]
      exact activeNpcs_run_refresh o
  | advance times =>
      have same : (o.run (Operation.advance times).perform).2 = (o.run (·.advance times)).2 :=
        Observed.state_run_map _ _ o
      rw [same, activeNpcs_run_advance]
      exact activeNpcs_run_refresh o
  | economy op =>
      cases op with
      | addMine yieldRate => exact before.run (before.addMine yieldRate)
      | addRefinery efficiency => exact before.run (before.addRefinery efficiency)
      | setPopulation rebellion npcs =>
          have silent : ((Operation.economy (.setPopulation rebellion npcs)).perform
              o.subject).notes = [] := notes_setPopulation rebellion npcs o.subject.economy
          rw [Observed.run_silent silent]
          exact activeNpcs_setPopulation rebellion npcs o.subject.economy
      | tick trauma =>
          exact before.run (Economy.populationKept_tick trauma o.subject.economy).activeNpcs
      | advance times trauma =>
          exact before.run
            (Economy.populationKept_advance times trauma o.subject.economy).activeNpcs
      | cleanse => exact before.run before
  | deploy party => exact before.run (before.deploy party)
  | follow rolls cleanseFirst => exact before.run before

/-- Induction on the run, with whatever head count it starts from. -/
theorem activeNpcs_after (ops : List (Operation α)) (o : Observed (World α) α) :
    (o.after Operation.perform ops).subject.economy.status.activeNpcs =
      lastHeadCount o.subject.economy.status.activeNpcs ops o := by
  induction ops generalizing o with
  | nil => rfl
  | cons op ops ih =>
      rw [lastHeadCount, ← op.activeNpcs_run o]
      exact ih (o.run op.perform).2

end World

end Colony

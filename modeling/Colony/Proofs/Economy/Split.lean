import Colony.Proofs.World.Notes

/-!
# Ticking in parts

To advance the economy by some ticks and then by some more is to advance it by
all of them at once: what is answered, what is told and what is left are the
same, and so is the failure where a tick fails.
-/

namespace Colony

variable {σ α β γ : Type} [Scalar α]

namespace Observed

/-- One operation and then another, unless the first fails. -/
def runThen (first : σ → Outcome σ α β) (second : σ → Outcome σ α γ) (o : Observed σ α) :
    Answer α γ × Observed σ α :=
  match o.run first with
  | (.ok _, next) => next.run second
  | (.error failure, next) => (.error failure, next)

theorem runThen_of_ok {first : σ → Outcome σ α β} {o next : Observed σ α} {b : β}
    (done : o.run first = (.ok b, next)) (second : σ → Outcome σ α γ) :
    o.runThen first second = next.run second := by
  rw [runThen, done]

theorem runThen_of_error {first : σ → Outcome σ α β} {o next : Observed σ α}
    {failure : Failure α} (failed : o.run first = (.error failure, next))
    (second : σ → Outcome σ α γ) : o.runThen first second = (.error failure, next) := by
  rw [runThen, failed]

theorem run_of_written {operation : σ → Outcome σ α β} {s : σ} {c : Chronicle α}
    (written : (c.hearAll (operation s).notes).1 = .ok ()) :
    (⟨s, some c⟩ : Observed σ α).run operation =
      ((operation s).answer, ⟨(operation s).state, some (c.hearAll (operation s).notes).2⟩) := by
  have heard : c.hearAll (operation s).notes = (.ok (), (c.hearAll (operation s).notes).2) :=
    Prod.ext written rfl
  simp only [run]
  rw [heard]

theorem run_of_unwritten {operation : σ → Outcome σ α β} {s : σ} {c : Chronicle α}
    {failure : Failure α} (unwritten : (c.hearAll (operation s).notes).1 = .error failure) :
    (⟨s, some c⟩ : Observed σ α).run operation =
      (.error failure, ⟨s, some (c.hearAll (operation s).notes).2⟩) := by
  have heard : c.hearAll (operation s).notes =
      (.error failure, (c.hearAll (operation s).notes).2) := Prod.ext unwritten rfl
  simp only [run]
  rw [heard]

theorem run_andThen {first : σ → Outcome σ α β} {second : σ → Outcome σ α γ}
    (unranked : ∀ s, (first s).Unranked) (unranked' : ∀ s, (second s).Unranked)
    (o : Observed σ α) :
    o.run (fun s => (first s).andThen fun _ next => second next) = o.runThen first second := by
  obtain ⟨s, chronicle⟩ := o
  have both : ((first s).andThen fun _ next => second next).Unranked :=
    (unranked s).andThen fun _ next => unranked' next
  cases chronicle with
  | none =>
      simp only [runThen, run, Outcome.andThen]
      cases (first s).answer <;> rfl
  | some c =>
      have start := Chronicle.answer_hearAll_of_unranked (unranked s) c
      have run := run_of_written start
      rw [run_of_written (Chronicle.answer_hearAll_of_unranked both c)]
      cases done : (first s).answer with
      | error failure =>
          rw [done] at run
          rw [runThen_of_error run]
          simp only [Outcome.andThen, done]
      | ok b =>
          have rest := Chronicle.answer_hearAll_of_unranked (unranked' (first s).state)
            (c.hearAll (first s).notes).2
          rw [done] at run
          rw [runThen_of_ok run, run_of_written rest]
          simp only [Outcome.andThen, done, Chronicle.hearAll_append start]

end Observed

namespace Economy

variable {m n : Int}

theorem ticks_add (trauma : Option α) (more others : Nat) (e : Economy α) :
    (e.ticks trauma more).andThen (fun _ next => next.ticks trauma others) =
      e.ticks trauma (more + others + 1) := by
  induction more generalizing e with
  | zero =>
      rw [Nat.zero_add]
      rfl
  | succ more ih =>
      have count : more + 1 + others + 1 = more + others + 1 + 1 := by omega
      rw [ticks, Outcome.andThen_assoc, count, ticks]
      simp only [ih]

theorem advance_add (more : 1 ≤ m) (others : 1 ≤ n) (trauma : Option α) (e : Economy α) :
    (e.advance (.int m) trauma).andThen (fun _ next => next.advance (.int n) trauma) =
      e.advance (.int (m + n)) trauma := by
  have count : (m - 1).toNat + (n - 1).toNat + 1 = (m + n - 1).toNat := by omega
  have whole := ticks_add trauma (m - 1).toNat (n - 1).toNat e
  rw [count] at whole
  exact whole

theorem run_advance_add (more : 1 ≤ m) (others : 1 ≤ n) (trauma : Option α)
    (o : Observed (Economy α) α) :
    o.runThen (·.advance (.int m) trauma) (·.advance (.int n) trauma) =
      o.run (·.advance (.int (m + n)) trauma) := by
  have unranked (k : Int) (e : Economy α) : (e.advance (.int k) trauma).Unranked :=
    unranked_advance (.int k) trauma e
  rw [← Observed.run_andThen (unranked m) (unranked n)]
  simp only [advance_add more others]

/-! ## What ticks leave alone -/

/-- The figures of the population are as they were. -/
structure PopulationKept (e next : Economy α) : Prop where
  rebellion : next.status.rebellion = e.status.rebellion
  activeNpcs : next.status.activeNpcs = e.status.activeNpcs

theorem populationKept_tick (trauma : Option α) (e : Economy α) :
    PopulationKept e (e.tick trauma).state := by
  refine Outcome.state_andThen (P := PopulationKept e) ⟨rfl, rfl⟩ fun _ rated kept => ?_
  refine Outcome.state_andThen (P := PopulationKept e) kept fun _ read kept => ?_
  refine Outcome.state_andThen (P := PopulationKept e) ⟨kept.rebellion, kept.activeNpcs⟩
    fun _ moved kept => ?_
  exact Outcome.state_andThen (P := PopulationKept e) ⟨kept.rebellion, kept.activeNpcs⟩
    fun _ settled kept => ⟨kept.rebellion, kept.activeNpcs⟩

theorem populationKept_ticks (trauma : Option α) (more : Nat) (e : Economy α) :
    PopulationKept e (e.ticks trauma more).state := by
  induction more generalizing e with
  | zero => exact populationKept_tick trauma e
  | succ more ih =>
      refine Outcome.state_andThen (populationKept_tick trauma e) fun _ next kept => ?_
      have rest := ih next
      exact ⟨rest.rebellion.trans kept.rebellion, rest.activeNpcs.trans kept.activeNpcs⟩

theorem populationKept_advance (times : Value α) (trauma : Option α) (e : Economy α) :
    PopulationKept e (e.advance times trauma).state := by
  unfold advance
  split
  · exact populationKept_ticks trauma _ e
  · exact ⟨rfl, rfl⟩

end Economy

end Colony

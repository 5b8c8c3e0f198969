import Colony.Proofs.Economy.Split
import Colony.Proofs.World.Highest

/-!
# Advancing in parts

The world refreshes its population each time it is advanced.  Ticks change
nothing that a refresh looks at, nor the figures that it sets, so the second of
two refreshes with nothing but ticks in between finds what the first found and
leaves the world as it is.  Hence it makes no difference to the world whether
it is advanced in one go or in two.
-/

namespace Colony

variable {α : Type} [Scalar α]

/-! ## Notes that can be written -/

namespace Chronicle

theorem answer_hear_congr {c d : Chronicle α} (same : c.boardSize = d.boardSize) (note : Note α) :
    (c.hear note).1 = (d.hear note).1 := by
  cases note with
  | count name => rfl
  | gauge name value => rfl
  | event draft => rfl
  | rank board key score payload =>
      simp only [hear, rank, onBoard, Leaderboard.addSized, same]
      split <;> rfl

theorem answer_hearAll_congr {c d : Chronicle α} (same : c.boardSize = d.boardSize)
    (notes : List (Note α)) : (c.hearAll notes).1 = (d.hearAll notes).1 := by
  induction notes generalizing c d with
  | nil => rfl
  | cons note notes ih =>
      have first := answer_hear_congr same note
      have rest := ih (c := (c.hear note).2) (d := (d.hear note).2)
        (by rw [boardSize_hear, boardSize_hear, same])
      rw [hearAll, hearAll]
      generalize c.hear note = heard at first rest
      generalize d.hear note = heard' at first rest
      obtain ⟨written, next⟩ := heard
      obtain ⟨written', next'⟩ := heard'
      cases first
      cases written with
      | ok done => exact rest
      | error failure => rfl

theorem boardSize_hearAll (notes : List (Note α)) (c : Chronicle α) :
    (c.hearAll notes).2.boardSize = c.boardSize := by
  induction notes generalizing c with
  | nil => rfl
  | cons note notes ih =>
      rw [hearAll, ← boardSize_hear note c]
      split
      · rename_i next heard
        rw [ih, heard]
      · rename_i failure next heard
        rw [heard]

end Chronicle

namespace World

variable {w : World α} {m n : Int}

/-! ## A second refresh -/

omit [Scalar α] in
theorem eq_of_populationKept {rebellion : α} {npcs : Nat} {e next : Economy α}
    (kept : ((e.withRebellion rebellion).withNpcs npcs).PopulationKept next) :
    (next.withRebellion rebellion).withNpcs npcs = next := by
  obtain ⟨sameRebellion, sameNpcs⟩ := kept
  have sameRebellion : next.status.rebellion = rebellion := sameRebellion
  have sameNpcs : next.status.activeNpcs = npcs := sameNpcs
  rw [Economy.withNpcs, Economy.withRebellion, ← sameRebellion, ← sameNpcs]

theorem refresh_again {figures : α × α} (refreshed : w.refresh.answer = .ok figures)
    {economy : Economy α} (kept : w.refresh.state.economy.PopulationKept economy) :
    { w with economy := economy }.refresh =
      ⟨.ok figures, w.refresh.notes, { w with economy := economy }⟩ := by
  have people : assessments { w with economy := economy } = w.assessments := rfl
  rcases w.refresh_cases with ⟨failure, -, failed⟩ | ⟨all, assessed, done⟩
  · rw [failed] at refreshed
    cases refreshed
  · rw [done] at refreshed kept ⊢
    cases refreshed
    rcases refresh_cases { w with economy := economy } with
      ⟨failure, failed, -⟩ | ⟨all', found, again⟩
    · rw [people, assessed] at failed
      cases failed
    · rw [people, assessed] at found
      cases found
      have still : told (Scalar.unit (w.figures all).1) { w with economy := economy } =
          { w with economy := economy } :=
        congrArg (fun economy => { w with economy := economy }) (eq_of_populationKept kept)
      have same : figures all { w with economy := economy } = w.figures all := rfl
      rw [again, same, still]

/-! ## Advancing -/

theorem advance_of_refreshed {figures : α × α} (refreshed : w.refresh.answer = .ok figures)
    (times : Value α) :
    w.advance times =
      (let o := w.refresh.state.economy.advance times (some figures.2)
       ⟨o.answer, w.refresh.notes ++ o.notes, { w with economy := o.state }⟩) := by
  rcases w.refresh_cases with ⟨failure, -, failed⟩ | ⟨all, -, done⟩
  · rw [failed] at refreshed
    cases refreshed
  · rw [done] at refreshed
    cases refreshed
    rw [advance, done]
    rfl

theorem refresh_advance {figures : α × α} (refreshed : w.refresh.answer = .ok figures)
    (times : Value α) :
    (w.advance times).state.refresh =
      ⟨.ok figures, w.refresh.notes, (w.advance times).state⟩ := by
  rw [advance_of_refreshed refreshed]
  exact refresh_again refreshed (Economy.populationKept_advance times _ _)

theorem exists_refreshed {times : Value α} {status : Economy.Status α}
    (advanced : (w.advance times).answer = .ok status) :
    ∃ figures, w.refresh.answer = .ok figures := by
  cases refreshed : w.refresh.answer with
  | error failure =>
      simp only [advance, Outcome.andThen, refreshed] at advanced
      cases advanced
  | ok figures => exact ⟨figures, rfl⟩

theorem advance_add (more : 1 ≤ m) (others : 1 ≤ n) (w : World α) :
    let parts := (w.advance (.int m)).andThen fun _ next => next.advance (.int n)
    parts.answer = (w.advance (.int (m + n))).answer ∧
      parts.state = (w.advance (.int (m + n))).state := by
  intro parts
  cases refreshed : w.refresh.answer with
  | error failure =>
      have fails (times : Value α) : w.advance times =
          ⟨.error failure, w.refresh.notes, w.refresh.state⟩ := by
        rw [advance, Outcome.andThen, refreshed]
      simp only [parts, fails]
      exact ⟨rfl, rfl⟩
  | ok figures =>
      have whole := Economy.advance_add more others (some figures.2) w.refresh.state.economy
      have again := refresh_advance refreshed (.int m)
      have second : (w.advance (.int m)).state.advance (.int n) = _ :=
        advance_of_refreshed (by rw [again]) (.int n)
      rw [again] at second
      simp only [parts, Outcome.andThen, second]
      rw [advance_of_refreshed refreshed, advance_of_refreshed refreshed, ← whole]
      simp only [Outcome.andThen]
      cases (w.refresh.state.economy.advance (.int m) (some figures.2)).answer <;> exact ⟨rfl, rfl⟩

/-! ## Under a chronicle -/

section Heard

variable {c : Chronicle α}

theorem answer_hearAll_advance (written : (c.hearAll w.refresh.notes).1 = .ok ())
    (times : Value α) : (c.hearAll (w.advance times).notes).1 = .ok () := by
  cases refreshed : w.refresh.answer with
  | error failure =>
      have silent : (w.advance times).notes = w.refresh.notes := by
        simp only [advance, Outcome.andThen, refreshed]
      rw [silent, written]
  | ok figures =>
      rw [advance_of_refreshed refreshed]
      simp only
      rw [Chronicle.hearAll_append written]
      exact Chronicle.answer_hearAll_of_unranked (Economy.unranked_advance _ _ _) _

theorem run_advance_of_unwritten {failure : Failure α}
    (unwritten : (c.hearAll w.refresh.notes).1 = .error failure) (times : Value α) :
    ∃ heard, (⟨w, some c⟩ : Observed (World α) α).run (·.advance times) =
      (.error failure, ⟨w, some heard⟩) := by
  have stops : c.hearAll (w.advance times).notes = c.hearAll w.refresh.notes := by
    cases refreshed : w.refresh.answer with
    | error failure => simp only [advance, Outcome.andThen, refreshed]
    | ok figures =>
        rw [advance_of_refreshed refreshed]
        exact Chronicle.hearAll_append_of_error unwritten _
  have heard : c.hearAll (w.advance times).notes =
      (.error failure, (c.hearAll w.refresh.notes).2) := by
    rw [stops]
    exact Prod.ext unwritten rfl
  refine ⟨(c.hearAll w.refresh.notes).2, ?_⟩
  simp only [Observed.run]
  rw [heard]

end Heard

/-- Advancing in two parts answers and leaves what advancing in one does; only the chronicle has
heard of one refresh more. -/
theorem run_advance_add (more : 1 ≤ m) (others : 1 ≤ n) (o : Observed (World α) α) :
    let parts := o.runThen (·.advance (.int m)) (·.advance (.int n))
    let whole := o.run (·.advance (.int (m + n)))
    parts.1 = whole.1 ∧ parts.2.subject = whole.2.subject := by
  obtain ⟨w, chronicle⟩ := o
  have add := advance_add more others w
  cases chronicle with
  | none =>
      simp only [Observed.runThen, Observed.run]
      simp only [Outcome.andThen] at add
      cases done : (w.advance (.int m)).answer with
      | error failure => rwa [done] at add
      | ok status => rwa [done] at add
  | some c =>
      cases written : (c.hearAll w.refresh.notes).1 with
      | error failure =>
          obtain ⟨heard, first⟩ := run_advance_of_unwritten written (.int m)
          obtain ⟨heard', once⟩ := run_advance_of_unwritten written (.int (m + n))
          rw [Observed.runThen_of_error first, once]
          exact ⟨rfl, rfl⟩
      | ok done =>
          have first := Observed.run_of_written (answer_hearAll_advance written (.int m))
          rw [Observed.run_of_written (answer_hearAll_advance written (.int (m + n)))]
          simp only [Outcome.andThen] at add
          cases answered : (w.advance (.int m)).answer with
          | error failure =>
              rw [answered] at add first
              rwa [Observed.runThen_of_error first]
          | ok status =>
              obtain ⟨figures, refreshed⟩ := exists_refreshed answered
              -- The second refresh ranks what the first has ranked, on boards of the same size.
              have again : ((c.hearAll (w.advance (.int m)).notes).2.hearAll
                  (w.advance (.int m)).state.refresh.notes).1 = .ok () := by
                rw [refresh_advance refreshed, ← written]
                exact Chronicle.answer_hearAll_congr (Chronicle.boardSize_hearAll _ c) _
              rw [answered] at add first
              rw [Observed.runThen_of_ok first,
                Observed.run_of_written (answer_hearAll_advance again (.int n))]
              exact add

end World

/-- From no state does it make a difference whether ticks are made in one go or in two, the
failures of ticks included: not to the economy and what hears it, and not to the world. -/
theorem advance_split {m n : Int} (more : 1 ≤ m) (others : 1 ≤ n) :
    (∀ (trauma : Option α) (o : Observed (Economy α) α),
      o.runThen (·.advance (.int m) trauma) (·.advance (.int n) trauma) =
        o.run (·.advance (.int (m + n)) trauma)) ∧
    ∀ o : Observed (World α) α,
      let parts := o.runThen (·.advance (.int m)) (·.advance (.int n))
      let whole := o.run (·.advance (.int (m + n)))
      parts.1 = whole.1 ∧ parts.2.subject = whole.2.subject :=
  ⟨fun trauma o => Economy.run_advance_add more others trauma o,
    fun o => World.run_advance_add more others o⟩

/-- Two ticks and three make five, in an economy with a mine and in the world around it. -/
theorem advance_split_two_three :
    (1 ≤ (2 : Int) ∧ 1 ≤ (3 : Int)) ∧
    ∃ start, World.start (.standard : Settings Amount) = .ok start ∧
      let ops := [.register "a", .setTrauma "a" 0.9, .economy (.addMine 4.0)]
      let o := start.after World.Operation.perform ops
      let economy : Observed (Economy Amount) Amount := ⟨o.subject.economy, o.chronicle⟩
      economy.runThen (·.advance (.int 2) (some 0.9)) (·.advance (.int 3) (some 0.9)) =
        economy.run (·.advance (.int (2 + 3)) (some 0.9)) ∧
      let parts := o.runThen (·.advance (.int 2)) (·.advance (.int 3))
      let whole := o.run (·.advance (.int (2 + 3)))
      parts.1 = whole.1 ∧ parts.2.subject = whole.2.subject ∧
        whole.2.subject.economy.status.tickCount = 5 := by
  have two : 1 ≤ (2 : Int) := by decide
  have three : 1 ≤ (3 : Int) := by decide
  have five : ((World.start (.standard : Settings Amount)).toOption.map fun start =>
      let ops := [.register "a", .setTrauma "a" 0.9, .economy (.addMine 4.0)]
      ((start.after World.Operation.perform ops).run
        (·.advance (.int (2 + 3)))).2.subject.economy.status.tickCount) = some 5 := by
    decide +kernel
  obtain ⟨economy, world⟩ := advance_split two three (α := Amount)
  obtain ⟨start, started, counted⟩ := Answer.toOption_map_eq_some.mp five
  obtain ⟨answer, subject⟩ := world (start.after World.Operation.perform _)
  exact ⟨⟨two, three⟩, start, started, economy _ _, answer, subject, counted⟩

end Colony

import Colony.Proofs.Chronicle.Ranking
import Colony.Proofs.World.Notes
import Colony.Proofs.World.Registry
import Colony.Proofs.World.Start
import Colony.Scalar.Amount

/-!
# The readiest to rebel

A refresh puts everybody's standing on the leaderboard in the order in which
they were registered.  The board then lists as many of the current standings as
it can hold, in order.  They are the highest unless one of the highest was
crowded out on the way by standings left from earlier.
-/

namespace Colony

variable {σ α : Type} [Scalar α]

/-! ## Standings -/

def Rebellion.Assessment.standing (a : Rebellion.Assessment α) : Standing α :=
  { key := a.npcId, score := a.probability, payload := [(.text "halt", .bool a.halts)] }

def Standing.note (e : Standing α) : Note α :=
  .rank Rebellion.boardName e.key e.score e.payload

namespace World

def standing (w : World α) (npc : Npc α) : Answer α (Standing α) :=
  (Rebellion.assess w.rebellion (w.profileOf npc)).map (·.standing)

/-- Everybody's standing as it is now, in the order in which they were registered. -/
def standings (w : World α) : Answer α (Leaderboard α) := w.roster.npcs.mapM w.standing

theorem standing_eq_ok {w : World α} {npc : Npc α} {e : Standing α}
    (h : w.standing npc = .ok e) : e.key = npc.id ∧ Scalar.Defined e.score := by
  obtain ⟨assessment, assessed, rfl⟩ := Answer.map_eq_ok.mp h
  obtain ⟨-, confined, named, -⟩ := Rebellion.of_assess assessed
  have defined : Scalar.Defined assessment.probability := by
    rw [← (Scalar.confined_eq_ok_iff.mp confined).2]
    exact Scalar.defined_unit _
  exact ⟨named, defined⟩

theorem keys_standings {w : World α} {standings : Leaderboard α}
    (h : w.standings = .ok standings) : standings.map (·.key) = w.roster.ids := by
  have pairs := Answer.mapM_eq_ok.mp h
  rw [Roster.ids]
  clear h
  generalize w.roster.npcs = npcs at pairs
  induction pairs with
  | nil => rfl
  | cons first _ ih =>
      rw [List.map_cons, List.map_cons, ih, (standing_eq_ok first).1]

theorem proper_standings {w : World α} {standings : Leaderboard α}
    (distinct : w.roster.ids.Nodup) (h : w.standings = .ok standings) :
    Leaderboard.Proper standings where
  defined e member := by
    obtain ⟨npc, -, assessed⟩ := Answer.exists_of_mem_mapM h member
    exact (standing_eq_ok assessed).2
  keys := by
    rw [keys_standings h]
    exact distinct

/-! ## What is told of them -/

theorem standings_eq_map (w : World α) :
    w.standings = w.assessments.map (List.map (·.standing)) := by
  rw [assessments, List.mapM_map]
  exact Answer.mapM_map _ _ _

/-- A refresh writes down everybody's standing and tells the economy, or it fails without a
trace. -/
theorem refresh_ranks (w : World α) :
    (∃ standings figures rebellion, w.standings = .ok standings ∧
      w.refresh = ⟨.ok figures, standings.map Standing.note, w.told rebellion⟩) ∨
    ∃ failure, w.standings = .error failure ∧ w.refresh = .fail failure w := by
  rw [standings_eq_map]
  rcases w.refresh_cases with ⟨failure, assessed, failed⟩ | ⟨all, assessed, told⟩
  · rw [assessed]
    exact .inr ⟨failure, rfl, failed⟩
  · rw [assessed]
    have notes : all.map Rebellion.rankNote = (all.map (·.standing)).map Standing.note := by
      rw [List.map_map]
      rfl
    exact .inl ⟨_, _, _, rfl, by rw [← notes]; exact told⟩

/-- What an operation writes puts nobody on a board, or everybody as they stand at its start. -/
theorem Operation.notes_cases (op : Operation α) (w : World α) :
    (op.perform w).Unranked ∨
      ∃ standings rest, w.standings = .ok standings ∧
        (op.perform w).notes = standings.map Standing.note ++ rest ∧
        ∀ note ∈ rest, ¬ note.Ranks := by
  have roster {β γ : Type} (f : β → γ) (operation : Roster α → Answer α (β × Roster α)) :
      ((w.onRoster operation).map f).Unranked :=
    ((Outcome.Unranked.ofAnswer _ _).within _).map f
  cases op with
  | register id => exact .inl (roster _ _)
  | enlist id role => exact .inl (roster _ _)
  | addEfficiency id delta => exact .inl (roster _ _)
  | addMorale id delta => exact .inl (roster _ _)
  | assign id task => exact .inl (roster _ _)
  | setTrauma id trauma => exact .inl ((unranked_setTrauma id trauma w).map _)
  | assess id => exact .inl ((unranked_assess id w).map _)
  | act deed => exact .inl ((unranked_perform deed w).map _)
  | refresh =>
      rcases w.refresh_ranks with ⟨standings, figures, rebellion, now, told⟩ | ⟨failure, -, failed⟩
      · refine .inr ⟨standings, [], now, ?_, fun _ none => absurd none List.not_mem_nil⟩
        simp only [Operation.perform, told, Outcome.map, List.append_nil]
      · simp only [Operation.perform, failed]
        exact .inl (.of_notes_nil rfl)
  | advance times =>
      simp only [Operation.perform, World.advance]
      rcases w.refresh_ranks with ⟨standings, figures, rebellion, now, told⟩ | ⟨failure, -, failed⟩
      · rw [told]
        exact .inr ⟨standings, _, now, rfl, Economy.unranked_advance _ _ _⟩
      · rw [failed]
        exact .inl (.of_notes_nil rfl)
  | economy op => exact .inl (((Economy.Operation.unranked op w.economy).within _).map _)
  | deploy party => exact .inl ((unranked_deploy party w).map _)
  | follow rolls cleanseFirst => exact .inl (.of_notes_nil rfl)

end World

/-! ## The board in the chronicle -/

namespace Chronicle

/-- The board of a name; before anybody is put there, nobody stands on it. -/
def board (name : String) (c : Chronicle α) : Leaderboard α := (c.boards.get? name).getD []

def Holds (k : Nat) (c : Chronicle α) : Prop := c.boardSize.toInt = .ok (k : Int)

variable {k : Nat} {c : Chronicle α}

theorem Holds.sized (h : c.Holds k) : c.Sized := ⟨k, h⟩

theorem Holds.hear (h : c.Holds k) (note : Note α) : (c.hear note).2.Holds k := by
  rw [Holds, boardSize_hear]
  exact h

theorem Holds.board_hear (h : c.Holds k) (e : Standing α) :
    (c.hear e.note).2.board Rebellion.boardName =
      (c.board Rebellion.boardName).add k e := by
  have read : c.boardSize.toInt = .ok (k : Int) := h
  simp only [Standing.note, Chronicle.hear, rank, onBoard, Leaderboard.addSized, read, board]
  rw [Table.get?_put_self]
  rfl

theorem Holds.board_hearAll (h : c.Holds k) (standings : Leaderboard α) :
    (c.hearAll (standings.map Standing.note)).2.board Rebellion.boardName =
      Leaderboard.rankAll k standings (c.board Rebellion.boardName) := by
  induction standings generalizing c with
  | nil => rfl
  | cons e standings ih =>
      rw [List.map_cons, h.sized.hearAll_cons, ih (h.hear e.note), h.board_hear]
      rfl

theorem Holds.board_cases (h : c.Holds k) (op : World.Operation α) (w : World α) :
    let heard := (c.hearAll (op.perform w).notes).2
    heard.board Rebellion.boardName = c.board Rebellion.boardName ∨
      ∃ standings, w.standings = .ok standings ∧
        heard.board Rebellion.boardName =
          Leaderboard.rankAll k standings (c.board Rebellion.boardName) := by
  intro heard
  rcases op.notes_cases w with unranked | ⟨standings, rest, now, notes, unranked⟩
  · exact .inl (by rw [board, h.sized.boards_hearAll unranked, board])
  · refine .inr ⟨standings, now, ?_⟩
    have first := h.sized.answer_hearAll (standings.map Standing.note)
    have next : (c.hearAll (standings.map Standing.note)).2.Sized := by
      rw [Sized, h.sized.boardSize_hearAll]
      exact h.sized
    rw [← h.board_hearAll, board, board]
    simp only [heard, notes, h.sized.hearAll_append]
    rw [next.boards_hearAll unranked]

end Chronicle

/-! ## Runs of a world -/

namespace World

/-- What a world keeps of its leaderboard: those who stand there are registered. -/
structure Ranked (k : Nat) (w : World α) (c : Chronicle α) : Prop where
  holds : c.Holds k
  distinct : w.roster.ids.Nodup
  kept : Leaderboard.Kept k (c.board Rebellion.boardName)
  known : ∀ e ∈ c.board Rebellion.boardName, e.key ∈ w.roster.ids

namespace Ranked

variable {k : Nat} {w : World α} {c : Chronicle α}

theorem holds_hearAll (h : Ranked k w c) (notes : List (Note α)) :
    (c.hearAll notes).2.Holds k := by
  rw [Chronicle.Holds, h.holds.sized.boardSize_hearAll]
  exact h.holds

theorem perform (positive : 0 < k) (h : Ranked k w c) (op : Operation α) :
    Ranked k (op.perform w).state (c.hearAll (op.perform w).notes).2 := by
  have extended := op.extends_roster w
  refine ⟨h.holds_hearAll _, extended.nodup h.distinct, ?_, ?_⟩
  · rcases h.holds.board_cases op w with same | ⟨standings, now, ranked⟩
    · rw [same]
      exact h.kept
    · rw [ranked]
      exact h.kept.rankAll positive (proper_standings h.distinct now).defined
  · intro e member
    rcases h.holds.board_cases op w with same | ⟨standings, now, ranked⟩
    · rw [same] at member
      exact extended.subset (h.known e member)
    · rw [ranked] at member
      rcases Leaderboard.mem_of_mem_rankAll positive member with put | ⟨stood, -⟩
      · refine extended.subset ?_
        rw [← keys_standings now]
        exact List.mem_map_of_mem put
      · exact extended.subset (h.known e stood)

theorem of_start {settings : Settings α} {start : Observed (World α) α}
    (size : (settings.value .boardSize).toInt = .ok (k : Int))
    (started : World.start settings = .ok start) :
    ∃ w c, start = ⟨w, some c⟩ ∧ Ranked k w c := by
  obtain ⟨w, c, opened, made, rfl⟩ := start_eq_ok.mp started
  obtain ⟨capacity, -, empty⟩ := Answer.bind_eq_ok.mp opened
  cases empty
  have nobody : w.roster.ids = [] := by rw [Roster.ids, (fresh_of_new made).nobody, List.map_nil]
  have distinct : w.roster.ids.Nodup := by
    rw [nobody]
    exact List.nodup_nil
  exact ⟨w, _, rfl, size, distinct, .nil k, fun e none => absurd none List.not_mem_nil⟩

theorem after (positive : 0 < k) (h : Ranked k w c) (ops : List (Operation α)) :
    ∃ w' c', (⟨w, some c⟩ : Observed (World α) α).after Operation.perform ops = ⟨w', some c'⟩ ∧
      Ranked k w' c' := by
  refine Observed.after_induction (P := fun o => ∃ w c, o = ⟨w, some c⟩ ∧ Ranked k w c)
    ?_ ops ⟨w, c, rfl, h⟩
  rintro op o ⟨w, c, rfl, h⟩
  exact ⟨_, _, congrArg Prod.snd (Observed.run_some h.holds.sized (op.perform) w),
    h.perform positive op⟩

end Ranked

def highest (o : Observed (World α) α) : Leaderboard α :=
  o.chronicle.elim [] (·.board Rebellion.boardName)

/-- What comes of a refresh: its answer, and the world and its chronicle after it. -/
def refreshed (o : Observed (World α) α) : Answer α (Reply α) × Observed (World α) α :=
  o.run (Operation.perform .refresh)

structure RanksOnRefresh (k : Nat) (o : Observed (World α) α) : Prop where
  distinct : o.subject.roster.ids.Nodup
  unmoved : (refreshed o).2.subject.standings = o.subject.standings
  ranked : ∀ standings, o.subject.standings = .ok standings →
    (∃ rebellion trauma, (refreshed o).1 = .ok (.figures rebellion trauma)) ∧
      standings.map (·.key) = o.subject.roster.ids ∧
      Leaderboard.Refreshed k (highest o) standings (highest (refreshed o).2)
  failed : ∀ failure, o.subject.standings = .error failure →
    (refreshed o).1 = .error failure ∧ highest (refreshed o).2 = highest o

theorem Ranked.ranksOnRefresh {k : Nat} {w : World α} {c : Chronicle α} (positive : 0 < k)
    (h : Ranked k w c) : RanksOnRefresh k ⟨w, some c⟩ := by
  have run := Observed.run_some h.holds.sized (Operation.perform .refresh) w
  refine ⟨h.distinct, ?_, fun standings now => ?_, fun failure now => ?_⟩
  · simp only [refreshed, run, Operation.perform]
    rcases w.refresh_ranks with ⟨_, figures, rebellion, -, told⟩ | ⟨_, -, failed⟩
    · rw [told]
      rfl
    · rw [failed]
      rfl
  · rcases w.refresh_ranks with ⟨_, figures, rebellion, same, told⟩ | ⟨_, failed, -⟩
    · rw [now] at same
      cases same
      have known : ∀ e ∈ c.board Rebellion.boardName, ∃ f ∈ standings, e.key = f.key := by
        intro e member
        have registered := h.known e member
        rw [← keys_standings now] at registered
        obtain ⟨f, current, key⟩ := List.mem_map.mp registered
        exact ⟨f, current, key.symm⟩
      refine ⟨⟨figures.1, figures.2, ?_⟩, keys_standings now, ?_⟩
      · simp only [refreshed, run, Operation.perform, told]
        rfl
      · simp only [refreshed, run, Operation.perform, told, highest, Option.elim, Outcome.map]
        rw [h.holds.board_hearAll]
        exact Leaderboard.refreshed positive h.kept (proper_standings h.distinct now) known
    · rw [now] at failed
      cases failed
  · rcases w.refresh_ranks with ⟨_, figures, rebellion, same, -⟩ | ⟨_, same, failed⟩
    · rw [now] at same
      cases same
    · rw [now] at same
      cases same
      simp only [refreshed, run, Operation.perform, failed]
      exact ⟨rfl, rfl⟩

/-- Right after a refresh the board lists as many current standings as it holds, in order, and it
lists the highest just if none of them was crowded out. -/
theorem highest_after_refresh {settings : Settings α} {k : Nat} (positive : 0 < k)
    (size : (settings.value .boardSize).toInt = .ok (k : Int)) {start : Observed (World α) α}
    (started : World.start settings = .ok start) (ops : List (Operation α)) :
    RanksOnRefresh k (start.after Operation.perform ops) := by
  obtain ⟨w, c, rfl, ranked⟩ := Ranked.of_start size started
  obtain ⟨w', c', reached, ranked'⟩ := ranked.after positive ops
  rw [reached]
  exact ranked'.ranksOnRefresh positive

/-- Somebody whose standing was high and has fallen, ranked last, crowds out the readiest. -/
theorem highest_crowded_out :
    let settings : Settings Amount := Settings.standard.set .boardSize (.int 1)
    let ops : List (Operation Amount) :=
      [.register "b", .register "a", .setTrauma "a" 1, .refresh, .setTrauma "a" 0,
       .setTrauma "b" 0.5]
    ∃ start standings, World.start settings = .ok start ∧
      (start.after Operation.perform ops).subject.standings = .ok standings ∧
      highest (refreshed (start.after Operation.perform ops)).2 ≠ Leaderboard.top 1 standings := by
  intro settings ops
  have keys : ((World.start settings).toOption.map fun start =>
      ((highest (refreshed (start.after Operation.perform ops)).2).map (·.key),
        (start.after Operation.perform ops).subject.standings.toOption.map fun standings =>
          (Leaderboard.top 1 standings).map (·.key))) = some (["a"], some ["b"]) := by
    decide +kernel
  cases started : World.start settings with
  | error failure => simp [started, Except.toOption] at keys
  | ok start =>
      cases now : (start.after Operation.perform ops).subject.standings with
      | error failure => simp [started, now, Except.toOption] at keys
      | ok standings =>
          refine ⟨start, standings, rfl, now, fun same => ?_⟩
          simp only [started, now, same, Except.toOption, Option.map_some, Option.some.injEq,
            Prod.mk.injEq] at keys
          obtain ⟨onBoard, onTop⟩ := keys
          rw [onBoard] at onTop
          exact absurd onTop (by decide)

/-- Three people on a board for two, one of them registered after the first refresh. -/
theorem highest_after_refresh_of_three :
    let settings : Settings Amount := Settings.standard.set .boardSize (.int 2)
    let ops : List (Operation Amount) :=
      [.register "b", .enlist "a" (.text "guard"), .setTrauma "a" 1, .refresh, .register "c",
       .setTrauma "c" 0.5]
    0 < 2 ∧ (settings.value .boardSize).toInt = .ok ((2 : Nat) : Int) ∧
      ∃ start, World.start settings = .ok start ∧
        RanksOnRefresh 2 (start.after Operation.perform ops) := by
  intro settings ops
  have positive : 0 < 2 := by decide
  have size : (settings.value .boardSize).toInt = .ok ((2 : Nat) : Int) := rfl
  obtain ⟨start, started⟩ : ∃ start, World.start settings = .ok start := ⟨_, rfl⟩
  exact ⟨positive, size, start, started, highest_after_refresh positive size started ops⟩

end World

end Colony

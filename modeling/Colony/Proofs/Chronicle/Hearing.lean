import Colony.Proofs.Run

/-!
# Hearing notes

A chronicle whose boards have a readable size can write every note.  Only the
notes that rank somebody touch its boards, and no note changes its size.
-/

namespace Colony

variable {σ α β ω : Type} [Scalar α]

namespace Chronicle

def Sized (c : Chronicle α) : Prop := ∃ size, c.boardSize.toInt = .ok size

/-- Settings from which a chronicle with a readable size can be made. -/
structure Config.Sized (config : Config α) : Prop where
  capacity : ∃ n, config.capacity.toInt = .ok n
  boardSize : ∃ n, config.boardSize.toInt = .ok n

theorem Config.Sized.new {config : Config α} (h : config.Sized) :
    ∃ c, Chronicle.new config = .ok c ∧ c.Sized := by
  obtain ⟨capacity, read⟩ := h.capacity
  refine ⟨{
    enabled := config.enabled.holds
    capacity := max 1 capacity
    recentLimit := config.recentLimit
    boardSize := config.boardSize }, ?_, h.boardSize⟩
  rw [Chronicle.new, read]
  rfl

omit [Scalar α] in
theorem boardSize_record (draft : Draft α) (c : Chronicle α) :
    (c.record draft).2.boardSize = c.boardSize := by
  unfold record
  split <;> rfl

omit [Scalar α] in
theorem boards_record (draft : Draft α) (c : Chronicle α) :
    (c.record draft).2.boards = c.boards := by
  unfold record
  split <;> rfl

theorem boardSize_hear (note : Note α) (c : Chronicle α) :
    (c.hear note).2.boardSize = c.boardSize := by
  cases note with
  | count name => rfl
  | gauge name value => rfl
  | event draft => exact boardSize_record draft c
  | rank board key score payload => rfl

theorem Sized.answer_hear {c : Chronicle α} (h : c.Sized) (note : Note α) :
    (c.hear note).1 = .ok () := by
  obtain ⟨size, read⟩ := h
  cases note with
  | count name => rfl
  | gauge name value => rfl
  | event draft => rfl
  | rank board key score payload =>
      simp [hear, rank, onBoard, Leaderboard.addSized, read]

theorem hearAll_cons {note : Note α} {c : Chronicle α} (written : (c.hear note).1 = .ok ())
    (notes : List (Note α)) : c.hearAll (note :: notes) = (c.hear note).2.hearAll notes := by
  have heard : c.hear note = (.ok (), (c.hear note).2) := Prod.ext written rfl
  rw [hearAll, heard]

/-- Notes after others are written where those have all been written. -/
theorem hearAll_append {first : List (Note α)} {c : Chronicle α}
    (written : (c.hearAll first).1 = .ok ()) (last : List (Note α)) :
    c.hearAll (first ++ last) = (c.hearAll first).2.hearAll last := by
  induction first generalizing c with
  | nil => rfl
  | cons note first ih =>
      rw [List.cons_append, hearAll]
      rw [hearAll] at written ⊢
      split
      · rename_i next heard
        rw [heard] at written
        exact ih written
      · rename_i failure next unwritten
        rw [unwritten] at written
        cases written

/-- Nothing is written after a note that cannot be. -/
theorem hearAll_append_of_error {first : List (Note α)} {c : Chronicle α} {f : Failure α}
    (unwritten : (c.hearAll first).1 = .error f) (last : List (Note α)) :
    c.hearAll (first ++ last) = c.hearAll first := by
  induction first generalizing c with
  | nil => cases unwritten
  | cons note first ih =>
      rw [List.cons_append, hearAll, hearAll]
      rw [hearAll] at unwritten
      split
      · rename_i next heard
        rw [heard] at unwritten
        exact ih unwritten
      · rfl

theorem Sized.hearAll_cons {c : Chronicle α} (h : c.Sized) (note : Note α)
    (notes : List (Note α)) :
    c.hearAll (note :: notes) = (c.hear note).2.hearAll notes :=
  Chronicle.hearAll_cons (h.answer_hear note) notes

theorem Sized.hear {c : Chronicle α} (h : c.Sized) (note : Note α) : (c.hear note).2.Sized := by
  rw [Sized, boardSize_hear]
  exact h

theorem Sized.answer_hearAll {c : Chronicle α} (h : c.Sized) (notes : List (Note α)) :
    (c.hearAll notes).1 = .ok () := by
  induction notes generalizing c with
  | nil => rfl
  | cons note notes ih =>
      rw [h.hearAll_cons]
      exact ih (h.hear note)

theorem Sized.boardSize_hearAll {c : Chronicle α} (h : c.Sized) (notes : List (Note α)) :
    (c.hearAll notes).2.boardSize = c.boardSize := by
  induction notes generalizing c with
  | nil => rfl
  | cons note notes ih => rw [h.hearAll_cons, ih (h.hear note), boardSize_hear]

theorem Sized.hearAll_append {c : Chronicle α} (h : c.Sized) (first last : List (Note α)) :
    c.hearAll (first ++ last) = (c.hearAll first).2.hearAll last :=
  Chronicle.hearAll_append (h.answer_hearAll first) last

end Chronicle

def Note.Ranks : Note α → Prop
  | .rank .. => True
  | .count _ => False
  | .gauge _ _ => False
  | .event _ => False

namespace Chronicle

theorem boards_hear {note : Note α} (unranked : ¬ note.Ranks) (c : Chronicle α) :
    (c.hear note).2.boards = c.boards := by
  cases note with
  | count name => rfl
  | gauge name value => rfl
  | event draft => exact boards_record draft c
  | rank board key score payload => exact absurd trivial unranked

theorem answer_hear_of_unranked {note : Note α} (unranked : ¬ note.Ranks) (c : Chronicle α) :
    (c.hear note).1 = .ok () := by
  cases note with
  | count name => rfl
  | gauge name value => rfl
  | event draft => rfl
  | rank board key score payload => exact absurd trivial unranked

/-- Only a note that ranks somebody needs a readable size to be written. -/
theorem answer_hearAll_of_unranked {notes : List (Note α)}
    (unranked : ∀ note ∈ notes, ¬ note.Ranks) (c : Chronicle α) :
    (c.hearAll notes).1 = .ok () := by
  induction notes generalizing c with
  | nil => rfl
  | cons note notes ih =>
      have first := answer_hear_of_unranked (unranked note List.mem_cons_self) c
      rw [hearAll_cons first]
      exact ih (fun note member => unranked note (List.mem_cons_of_mem _ member)) _

theorem Sized.boards_hearAll {c : Chronicle α} (h : c.Sized) {notes : List (Note α)}
    (unranked : ∀ note ∈ notes, ¬ note.Ranks) : (c.hearAll notes).2.boards = c.boards := by
  induction notes generalizing c with
  | nil => rfl
  | cons note notes ih =>
      rw [h.hearAll_cons, ih (h.hear note) fun note member =>
        unranked note (List.mem_cons_of_mem _ member)]
      exact boards_hear (unranked note List.mem_cons_self) c

end Chronicle

namespace Observed

def Sized (o : Observed σ α) : Prop := ∀ c, o.chronicle = some c → c.Sized

theorem Sized.of_none (s : σ) : (⟨s, none⟩ : Observed σ α).Sized := by
  intro c given
  cases given

theorem Sized.of_some {c : Chronicle α} (h : c.Sized) (s : σ) :
    (⟨s, some c⟩ : Observed σ α).Sized := by
  intro d given
  cases given
  exact h

theorem run_some {c : Chronicle α} (h : c.Sized) (operation : σ → Outcome σ α β) (s : σ) :
    (⟨s, some c⟩ : Observed σ α).run operation =
      ((operation s).answer, ⟨(operation s).state, some (c.hearAll (operation s).notes).2⟩) := by
  have heard : c.hearAll (operation s).notes = (.ok (), (c.hearAll (operation s).notes).2) :=
    Prod.ext (h.answer_hearAll _) rfl
  simp only [run]
  rw [heard]

/-- An operation takes place, or its notes cannot be written and its subject stays. -/
theorem run_cases (operation : σ → Outcome σ α β) (o : Observed σ α) :
    ((o.run operation).1 = (operation o.subject).answer ∧
      (o.run operation).2.subject = (operation o.subject).state) ∨
    ∃ failure, (o.run operation).1 = .error failure ∧
      (o.run operation).2.subject = o.subject := by
  obtain ⟨s, chronicle⟩ := o
  cases chronicle with
  | none => exact .inl ⟨rfl, rfl⟩
  | some c =>
      simp only [run]
      split
      · exact .inl ⟨rfl, rfl⟩
      · rename_i failure _ _
        exact .inr ⟨failure, rfl, rfl⟩

/-- What holds of a subject and of what an operation leaves of it holds after the run. -/
theorem subject_run_induction {P : σ → Prop} {operation : σ → Outcome σ α β} {o : Observed σ α}
    (stays : P o.subject) (moves : P (operation o.subject).state) :
    P (o.run operation).2.subject := by
  rcases run_cases operation o with ⟨-, same⟩ | ⟨failure, -, same⟩
  · rw [same]
    exact moves
  · rw [same]
    exact stays

theorem subject_after_induction {perform : ω → σ → Outcome σ α β} {P : σ → Prop}
    (step : ∀ op s, P s → P (perform op s).state) (ops : List ω) {o : Observed σ α}
    (start : P o.subject) : P (o.after perform ops).subject :=
  after_induction (P := fun o => P o.subject)
    (fun op o kept => subject_run_induction kept (step op o.subject kept)) ops start

theorem run_silent {operation : σ → Outcome σ α β} {o : Observed σ α}
    (silent : (operation o.subject).notes = []) :
    o.run operation =
      ((operation o.subject).answer, { o with subject := (operation o.subject).state }) := by
  obtain ⟨s, chronicle⟩ := o
  cases chronicle with
  | none => rfl
  | some c =>
      simp only [run]
      rw [silent]
      rfl

theorem run_of_fail {operation : σ → Outcome σ α β} {o : Observed σ α} {failure : Failure α}
    (failed : operation o.subject = .fail failure o.subject) :
    o.run operation = (.error failure, o) := by
  have silent : (operation o.subject).notes = [] := by
    rw [failed]
    rfl
  rw [run_silent silent, failed]
  rfl

theorem run_unranked {operation : σ → Outcome σ α β} {o : Observed σ α}
    (unranked : ∀ note ∈ (operation o.subject).notes, ¬ note.Ranks) :
    (o.run operation).1 = (operation o.subject).answer ∧
      (o.run operation).2.subject = (operation o.subject).state := by
  obtain ⟨s, chronicle⟩ := o
  cases chronicle with
  | none => exact ⟨rfl, rfl⟩
  | some c =>
      have heard : c.hearAll (operation s).notes = (.ok (), (c.hearAll (operation s).notes).2) :=
        Prod.ext (Chronicle.answer_hearAll_of_unranked unranked c) rfl
      simp only [run]
      rw [heard]
      exact ⟨rfl, rfl⟩

/-- A chronicle that can write every note is not felt by the operation that is told to it. -/
theorem Sized.run {o : Observed σ α} (h : o.Sized) (operation : σ → Outcome σ α β) :
    (o.run operation).1 = (operation o.subject).answer ∧
      (o.run operation).2.subject = (operation o.subject).state ∧ (o.run operation).2.Sized := by
  obtain ⟨s, chronicle⟩ := o
  cases chronicle with
  | none => exact ⟨rfl, rfl, .of_none _⟩
  | some c =>
      have sized := h c rfl
      rw [run_some sized]
      refine ⟨rfl, rfl, .of_some ?_ _⟩
      rw [Chronicle.Sized, sized.boardSize_hearAll]
      exact sized

end Observed

end Colony

import Colony.Proofs.World.Notes

/-!
# Live operations write their notes

The outcome of an operation gathers as notes what its live form writes.  From
every state and beside any chronicle both come to the same answer, state and
chronicle, also where a note cannot be written.  Only a standing needs a size
that can be read; the standings of a survey are written while its state is
still as it was, and no other operation ranks anybody before it has moved.
-/

namespace Colony

variable {σ τ α β γ ω : Type}

namespace Observed

variable [Scalar α]

/-- What has nothing but unranked notes to write can write them all. -/
theorem run_of_unranked {operation : σ → Outcome σ α β} {o : Observed σ α}
    (unranked : (operation o.subject).Unranked) :
    o.run operation = ((operation o.subject).answer, ⟨(operation o.subject).state,
      o.chronicle.map fun c => (c.hearAll (operation o.subject).notes).2⟩) := by
  obtain ⟨s, chronicle⟩ := o
  cases chronicle with
  | none => rfl
  | some c =>
      have heard : c.hearAll (operation s).notes = (.ok (), (c.hearAll (operation s).notes).2) :=
        Prod.ext (Chronicle.answer_hearAll_of_unranked unranked c) rfl
      simp only [run]
      rw [heard]
      rfl

end Observed

/-! ## Typed notes are written as they are -/

namespace Chronicle

variable [Scalar α]

theorem severity_ofValue_level (s : Severity) :
    Severity.ofValue (.int s.level : Value α) = .ok s := by
  cases s <;> rfl

theorem countBy_one (name : String) (c : Chronicle α) :
    c.countBy name 1 = (.ok (c.count name 1).1, (c.count name 1).2) := by
  have one : Scalar.checked (Scalar.rounded (1 : α)) = .ok 1 :=
    Scalar.checked_eq_ok_iff.mpr
      ⟨by rw [Scalar.rounded_one, Scalar.overflown_one], Scalar.rounded_one⟩
  rw [countBy, one]

theorem recordReport_report (draft : Draft α) (c : Chronicle α) :
    c.recordReport draft.report = .ok (c.record draft) := by
  unfold recordReport
  cases enabled : c.enabled with
  | true =>
      simp only [Draft.report, Option.getD_some, severity_ofValue_level]
      rfl
  | false =>
      rw [record, enabled]
      rfl

theorem rankBid_eq_rank {score : α} (fraction : Scalar.Fraction score) (board key : String)
    (payload : List (Value α × Value α)) (c : Chronicle α) :
    c.rankBid board ⟨key, score, .dict payload⟩ = c.rank board ⟨key, score, payload⟩ := by
  have read : Scalar.checked (Scalar.rounded score) = .ok score :=
    Scalar.checked_eq_ok_iff.mpr ⟨fraction.overflown_rounded, fraction.rounded⟩
  have listed : (Value.dict payload).toEntries = .ok payload := by
    cases payload <;> rfl
  have standing : Bid.standing ⟨key, score, .dict payload⟩ = .ok ⟨key, score, payload⟩ := by
    simp only [Bid.standing, read, listed]
    rfl
  have same : Leaderboard.addBid c.boardSize ⟨key, score, .dict payload⟩ =
      Leaderboard.addSized c.boardSize ⟨key, score, payload⟩ := by
    funext board
    rw [Leaderboard.addBid, standing]
  rw [rankBid, rank, same]

end Chronicle

namespace Live

variable [Scalar α]

/-- The live operation does what the outcomes say, and writes their notes. -/
def Writes (op : Live σ α β) (operation : σ → Outcome σ α β) : Prop := ∀ o, op o = o.run operation

/-- The notes can be written beside any chronicle. -/
structure WritesFreely (op : Live σ α β) (operation : σ → Outcome σ α β) : Prop where
  writes : op.Writes operation
  unranked : ∀ s, (operation s).Unranked

/-! ## One part after the other -/

section Rules

variable {first : Live σ α β} {next : β → Live σ α γ}
variable {before : σ → Outcome σ α β} {rest : β → σ → Outcome σ α γ}

/-- Where a first part cannot write its notes, the state is as it was before it. -/
theorem Writes.bind (h : first.Writes before) (h' : ∀ b, (next b).WritesFreely (rest b)) :
    (first >>= next).Writes fun s => (before s).andThen rest := by
  intro o
  change andThen first next o = _
  obtain ⟨s, chronicle⟩ := o
  rw [andThen, h]
  cases chronicle with
  | none =>
      simp only [Observed.run, Outcome.andThen]
      cases (before s).answer with
      | error failure => rfl
      | ok b => exact (h' b).writes _
  | some c =>
      rcases heard : c.hearAll (before s).notes with ⟨written, d⟩
      have first : (c.hearAll (before s).notes).1 = written := by rw [heard]
      simp only [Observed.run, heard, Outcome.andThen]
      cases written with
      | error failure =>
          have same (more : List (Note α)) :
              c.hearAll ((before s).notes ++ more) = (.error failure, d) := by
            rw [Chronicle.hearAll_append_of_error first, heard]
          cases (before s).answer with
          | error failure => simp only [heard]
          | ok b => simp only [same]
      | ok _ =>
          cases (before s).answer with
          | error failure => simp only [heard]
          | ok b =>
              have unranked := (h' b).unranked (before s).state
              have later := Observed.run_of_unranked (o := ⟨(before s).state, some d⟩) unranked
              have all : c.hearAll ((before s).notes ++ (rest b (before s).state).notes) =
                  (.ok (), (d.hearAll (rest b (before s).state).notes).2) := by
                rw [Chronicle.hearAll_append first, heard]
                exact Prod.ext (Chronicle.answer_hearAll_of_unranked unranked d) rfl
              simp only [all]
              rw [(h' b).writes, later]
              rfl

theorem WritesFreely.bind (h : first.WritesFreely before)
    (h' : ∀ b, (next b).WritesFreely (rest b)) :
    (first >>= next).WritesFreely fun s => (before s).andThen rest :=
  ⟨h.writes.bind h', fun s => (h.unranked s).andThen fun b t => (h' b).unranked t⟩

theorem Writes.congr {op : Live σ α β} {operation other : σ → Outcome σ α β}
    (h : op.Writes operation) (same : ∀ s, operation s = other s) : op.Writes other := by
  intro o
  rw [h, funext same]

theorem WritesFreely.congr {op : Live σ α β} {operation other : σ → Outcome σ α β}
    (h : op.WritesFreely operation) (same : ∀ s, operation s = other s) :
    op.WritesFreely other :=
  ⟨h.writes.congr same, fun s => same s ▸ h.unranked s⟩

theorem WritesFreely.pure (b : β) : (Pure.pure b : Live σ α β).WritesFreely (.done b) := by
  refine ⟨fun o => ?_, fun s => .of_notes_nil rfl⟩
  rw [Observed.run_silent rfl]
  rfl

/-- The state that is read is the one that the rest works on. -/
theorem Writes.subject {next : σ → Live σ α γ} {rest : σ → σ → Outcome σ α γ}
    (h : ∀ s, (next s).Writes (rest s)) :
    ((Live.subject : Live σ α σ) >>= next).Writes fun s => rest s s :=
  fun o => h o.subject o

theorem WritesFreely.subject {next : σ → Live σ α γ} {rest : σ → σ → Outcome σ α γ}
    (h : ∀ s, (next s).WritesFreely (rest s)) :
    ((Live.subject : Live σ α σ) >>= next).WritesFreely fun s => rest s s :=
  ⟨.subject fun s => (h s).writes, fun s => (h s).unranked s⟩

theorem Writes.answer {a : Answer α β} (h : ∀ b, a = .ok b → (next b).Writes (rest b)) :
    ((Live.answer a : Live σ α β) >>= next).Writes fun s => (Outcome.of a s).andThen rest := by
  intro o
  cases a with
  | error failure => exact (Observed.run_of_fail rfl).symm
  | ok b => exact h b rfl o

theorem WritesFreely.answer (a : Answer α β) :
    (Live.answer a : Live σ α β).WritesFreely (.of a) := by
  refine ⟨fun o => ?_, fun s => .of a s⟩
  rw [Observed.run_silent rfl]
  rfl

theorem WritesFreely.act {operation : σ → Outcome σ α β} (silent : ∀ s, (operation s).notes = []) :
    (Live.act operation).WritesFreely operation := by
  refine ⟨fun o => ?_, fun s => .of_notes_nil (silent s)⟩
  rw [Observed.run_silent (silent o.subject)]
  rfl

theorem WritesFreely.ite {p : Prop} [Decidable p] {op other : Live σ α β}
    {operation instead : σ → Outcome σ α β} (h : op.WritesFreely operation)
    (h' : other.WritesFreely instead) :
    (if p then op else other).WritesFreely fun s => if p then operation s else instead s := by
  split
  · exact h
  · exact h'

theorem WritesFreely.onlyIf {p : Prop} [Decidable p] {op : Live σ α Unit}
    {operation : σ → Outcome σ α Unit} (h : op.WritesFreely operation) :
    (op.onlyIf p).WritesFreely fun s => if p then operation s else .done () s :=
  h.ite (.pure ())

theorem WritesFreely.modify (f : σ → σ) :
    (Live.modify f : Live σ α Unit).WritesFreely fun s => .done () (f s) := by
  refine ⟨fun o => ?_, fun s => .of_notes_nil rfl⟩
  rw [Observed.run_silent rfl]
  rfl

theorem Writes.map {op : Live σ α β} {operation : σ → Outcome σ α β} (h : op.Writes operation)
    (f : β → γ) : (op >>= fun b => Pure.pure (f b)).Writes fun s => (operation s).map f := by
  refine (h.bind fun b => WritesFreely.pure (f b)).congr fun s => ?_
  unfold Outcome.andThen Outcome.map Outcome.done
  cases (operation s).answer with
  | error failure => rfl
  | ok b => simp [Except.map]

end Rules

/-! ## Notes -/

/-- Writes nothing but the notes. -/
def Tells (op : Live σ α Unit) (notes : List (Note α)) : Prop :=
  op.Writes fun s => ⟨.ok (), notes, s⟩

namespace Tells

theorem nil : (Pure.pure () : Live σ α Unit).Tells [] := (WritesFreely.pure ()).writes

/-- Up to the first note that cannot be written, the state is as it was. -/
theorem append {op op' : Live σ α Unit} {notes more : List (Note α)} (h : op.Tells notes)
    (h' : op'.Tells more) : (op >>= fun _ => op').Tells (notes ++ more) := by
  intro o
  change andThen op (fun _ => op') o = _
  obtain ⟨s, chronicle⟩ := o
  rw [andThen, h]
  cases chronicle with
  | none => exact h' _
  | some c =>
      rcases heard : c.hearAll notes with ⟨written, d⟩
      have first : (c.hearAll notes).1 = written := by rw [heard]
      cases written with
      | error failure =>
          simp only [Observed.run, Chronicle.hearAll_append_of_error first, heard]
      | ok _ =>
          simp only [Observed.run, Chronicle.hearAll_append first, heard]
          exact h' _

theorem each {op : β → Live σ α Unit} {note : β → Note α} {bs : List β}
    (h : ∀ b ∈ bs, (op b).Tells [note b]) : (Live.each op bs).Tells (bs.map note) := by
  induction bs with
  | nil => exact nil
  | cons b bs ih =>
      obtain ⟨first, later⟩ := List.forall_mem_cons.mp h
      exact first.append (ih later)

theorem onlyIf {op : Live σ α Unit} {notes : List (Note α)} {p : Prop} [Decidable p]
    (h : op.Tells notes) : (op.onlyIf p).Tells (if p then notes else []) := by
  unfold Live.onlyIf
  split
  · exact h
  · exact nil

theorem freely {op : Live σ α Unit} {notes : List (Note α)} (h : op.Tells notes)
    (unranked : ∀ note ∈ notes, ¬ note.Ranks) :
    op.WritesFreely fun s => ⟨.ok (), notes, s⟩ :=
  ⟨h, fun _ => unranked⟩

theorem count (name : String) : (Live.count name : Live σ α Unit).Tells [.count name] := by
  intro o
  obtain ⟨s, chronicle⟩ := o
  cases chronicle with
  | none => rfl
  | some c =>
      simp only [Live.count, Live.tell, Chronicle.countBy_one]
      rfl

theorem gauge (name : String) (value : Value α) :
    (Live.gauge name value : Live σ α Unit).Tells [.gauge name value] := by
  intro o
  obtain ⟨s, chronicle⟩ := o
  cases chronicle <;> rfl

theorem event (draft : Draft α) : (Live.event draft : Live σ α Unit).Tells [.event draft] := by
  intro o
  obtain ⟨s, chronicle⟩ := o
  cases chronicle with
  | none => rfl
  | some c =>
      simp only [Live.event, Live.tell, Chronicle.recordReport_report]
      rfl

theorem rank {score : α} (fraction : Scalar.Fraction score) (board key : String)
    (payload : List (Value α × Value α)) :
    (Live.rank board ⟨key, score, .dict payload⟩ : Live σ α Unit).Tells
      [.rank board key score payload] := by
  intro o
  obtain ⟨s, chronicle⟩ := o
  cases chronicle with
  | none => rfl
  | some c =>
      simp only [Live.rank, Live.tell, Chronicle.rankBid_eq_rank fraction, Observed.run,
        Chronicle.hearAll, Chronicle.hear]
      rcases c.rank board ⟨key, score, payload⟩ with ⟨_ | _, d⟩ <;> rfl

end Tells

/-! ## Parts of a state -/

theorem Writes.within {part : τ → σ} {place : σ → τ → τ} {heard : τ → Bool} {op : Live σ α β}
    {operation : σ → Outcome σ α β} (h : op.Writes operation)
    (same : ∀ t, place (part t) t = t) :
    (op.within part place heard).Writes fun t =>
      { answer := (operation (part t)).answer
        notes := if heard t then (operation (part t)).notes else []
        state := place (operation (part t)).state t } := by
  intro o
  obtain ⟨t, chronicle⟩ := o
  have inner := h ⟨part t, if heard t then chronicle else none⟩
  simp only [Live.within, inner]
  cases listens : heard t with
  | false =>
      simp only [Observed.run, listens, Bool.false_eq_true, if_false]
      cases chronicle <;> rfl
  | true =>
      simp only [Observed.run, listens, if_true]
      cases chronicle with
      | none => rfl
      | some c =>
          rcases heardAll : c.hearAll (operation (part t)).notes with ⟨_ | _, d⟩
          · simp only [same, heardAll]
          · simp only [heardAll]

/-! ## Runs -/

/-- What each operation of a run answered, and the subject it left. -/
def transcript (live : ω → Live σ α β) : List ω → Observed σ α → List (Answer α β × σ)
  | [], _ => []
  | op :: ops, o => ((live op o).1, (live op o).2.subject) :: transcript live ops (live op o).2

theorem transcript_of_writes {live : ω → Live σ α β} {perform : ω → σ → Outcome σ α β}
    (writes : ∀ op, (live op).Writes (perform op)) (ops : List ω) (o : Observed σ α) :
    transcript live ops o = o.transcript perform ops := by
  induction ops generalizing o with
  | nil => rfl
  | cons op ops ih => rw [transcript, Observed.transcript, writes, ih]

end Live

end Colony

import Colony.Proofs.Chronicle.Hearing
import Colony.Proofs.Plague.Band
import Colony.Proofs.World.Start
import Colony.Scalar.Amount
import Colony.Scalar.Rational

/-!
# Arguments that cannot be converted

Some operations convert an argument on their way: the number of a tick, the
size of the population, how often to tick, the severity and the tick of a
report.  Where that fails, what the operation did before stays.  So nothing
changes if the argument is converted first, as the economy does before it
ticks and the chronicle before it records; but a tick of the plague has moved
the counter already, the economy has taken over the probability of rebellion,
and the world has been refreshed.
-/

namespace Colony

variable {σ α β γ : Type} [Scalar α]

/-- The operation fails in this way once a first part of it has taken place, and leaves what that
part leaves. -/
def FailsAfter (f : Failure α) (first : σ → Outcome σ α γ) (operation : σ → Outcome σ α β)
    (o : Observed σ α) : Prop :=
  o.run operation = ((o.run first).1 >>= fun _ => .error f, (o.run first).2)

theorem failsAfter_of_eq {f : Failure α} {first : σ → Outcome σ α γ}
    {operation : σ → Outcome σ α β} {o : Observed σ α}
    (same : operation o.subject = (first o.subject).andThen fun _ next => .fail f next) :
    FailsAfter f first operation o := by
  obtain ⟨s, chronicle⟩ := o
  have parts : operation s = ⟨(first s).answer >>= fun _ => .error f, (first s).notes,
      (first s).state⟩ := by
    rw [same, Outcome.andThen]
    cases (first s).answer <;> simp [Outcome.fail, bind, Except.bind]
  cases chronicle with
  | none => simp only [FailsAfter, Observed.run, parts]
  | some c =>
      simp only [FailsAfter, Observed.run, parts]
      cases c.hearAll (first s).notes with
      | mk written heard => cases written <;> rfl

namespace Plague

variable {c : Config α} {s : State α}

/-- A tick would leave the clamped counter where it is, and the heart with it. -/
structure Still (c : Config α) (rebellion trauma : α) (s : State α) : Prop where
  counter : nextCounter c (grows c rebellion trauma) s.counter = s.counter
  heart : nextHeart c s.heart s.counter = s.heart

theorem advance_eq_self_iff (follows : s.throttle = throttleFor c s.heart) (rebellion trauma : α) :
    advance c rebellion trauma s = s ↔ Still c rebellion trauma s := by
  constructor
  · intro same
    have counter : nextCounter c (grows c rebellion trauma) s.counter = s.counter :=
      congrArg State.counter same
    have heart : nextHeart c s.heart (nextCounter c (grows c rebellion trauma) s.counter) =
        s.heart := congrArg State.heart same
    rw [counter] at heart
    exact ⟨counter, heart⟩
  · rintro ⟨counter, heart⟩
    simp only [advance, counter, heart, ← follows]

/-- Whatever the thresholds, the throttle follows the heart. -/
theorem throttle_after (c : Config α) (ops : List (Operation α)) :
    let s := after (Operation.perform c) ops .fresh
    s.throttle = throttleFor c s.heart := by
  refine after_induction (P := fun s : State α => s.throttle = throttleFor c s.heart)
    (fun op s follows => ?_) ops rfl
  cases op with
  | tick rebellion trauma number =>
      rcases state_tickAs c rebellion trauma number s with same | ⟨last, moved⟩
      · simpa only [Operation.perform, Outcome.map, same] using follows
      · simp only [Operation.perform, Outcome.map, moved]
        rfl
  | cleanse =>
      rcases state_cleanse s with same | ⟨-, clean⟩
      · simpa only [Operation.perform, Outcome.map, same] using follows
      · simp only [Operation.perform, Outcome.map, clean]
        rfl

/-- Within the band the heart has no cause to turn unless the counter moves. -/
theorem Band.still_iff (h : Band c s) (rebellion trauma : α) :
    Still c rebellion trauma s ↔
      nextCounter c (grows c rebellion trauma) s.counter = s.counter := by
  refine ⟨Still.counter, fun counter => ⟨counter, ?_⟩⟩
  cases awake : s.heart with
  | true =>
      have notBelow : ¬ s.counter < c.clearThreshold := fun below =>
        Scalar.lt_irrefl _ (Scalar.lt_of_lt_of_le below (h.awake awake).1)
      simp [nextHeart, notBelow]
  | false =>
      have notReached : ¬ c.heartThreshold ≤ s.counter := fun reached =>
        Scalar.lt_irrefl _ (Scalar.lt_of_le_of_lt reached (h.asleep awake).1)
      simp [nextHeart, notReached]

end Plague

/-! ## What a refresh leaves -/

theorem Chronicle.hear_of_ranks {note : Note α} (ranks : note.Ranks) (c : Chronicle α) :
    ∃ boards, (c.hear note).2 = { c with boards := boards } := by
  cases note with
  | rank board key score payload => exact ⟨_, rfl⟩
  | count name => cases ranks
  | gauge name value => cases ranks
  | event draft => cases ranks

theorem Chronicle.hearAll_of_ranks {notes : List (Note α)} (ranks : ∀ note ∈ notes, note.Ranks)
    (c : Chronicle α) : ∃ boards, (c.hearAll notes).2 = { c with boards := boards } := by
  induction notes generalizing c with
  | nil => exact ⟨c.boards, rfl⟩
  | cons note notes ih =>
      obtain ⟨boards, heard⟩ := c.hear_of_ranks (ranks note (by simp))
      rw [hearAll]
      split
      · rename_i next written
        have now : next = { c with boards := boards } := by rw [← heard, written]
        obtain ⟨rest, later⟩ := ih (fun other member => ranks other (by simp [member])) next
        exact ⟨rest, by rw [later, now]⟩
      · rename_i failure next unwritten
        exact ⟨boards, by rw [← heard, unwritten]⟩

namespace World

theorem ranks_of_mem_refresh (w : World α) : ∀ note ∈ w.refresh.notes, note.Ranks := by
  rcases w.refresh_cases with ⟨failure, -, failed⟩ | ⟨all, -, told⟩
  · rw [failed]
    exact List.forall_mem_nil _
  · rw [told]
    intro note member
    obtain ⟨assessment, -, rfl⟩ := List.mem_map.mp member
    trivial

theorem state_refresh (w : World α) :
    w.refresh.state = w ∨ ∃ rebellion, w.refresh.state = w.told rebellion := by
  rcases w.refresh_cases with ⟨failure, -, failed⟩ | ⟨all, -, told⟩
  · exact .inl (by rw [failed]; rfl)
  · exact .inr ⟨_, by rw [told]⟩

/-- Nothing has changed but the population's figures in the economy and the leaderboards. -/
structure KeepsAside (o next : Observed (World α) α) : Prop where
  subject : next.subject = o.subject ∨ ∃ rebellion, next.subject = o.subject.told rebellion
  chronicle : ∃ boards, next.chronicle = o.chronicle.map fun c => { c with boards := boards }

theorem keepsAside_refresh (o : Observed (World α) α) : KeepsAside o (o.run refresh).2 := by
  obtain ⟨w, chronicle⟩ := o
  cases chronicle with
  | none => exact ⟨w.state_refresh, [], rfl⟩
  | some c =>
      obtain ⟨boards, heard⟩ := c.hearAll_of_ranks w.ranks_of_mem_refresh
      simp only [Observed.run]
      split
      · rename_i next written
        have now : next = { c with boards := boards } := by rw [← heard, written]
        exact ⟨w.state_refresh, boards, congrArg some now⟩
      · rename_i failure next unwritten
        have now : next = { c with boards := boards } := by rw [← heard, unwritten]
        exact ⟨.inl rfl, boards, congrArg some now⟩

end World

/-! ## Whole numbers -/

/-- What is left where a value that ought to be a whole number cannot be converted. -/
structure LeftUnread (v : Value α) (f : Failure α) : Prop where
  tick : ∀ (c : Plague.Config α) (rebellion trauma : α) (o : Observed (Plague.State α) α),
    FailsAfter f (Plague.move c rebellion trauma) (Plague.tickAs c rebellion trauma v) o
  tickUnfelt : ∀ (c : Plague.Config α) (ops : List (Plague.Operation α)) (rebellion trauma : α),
    let s := after (Plague.Operation.perform c) ops .fresh
    let grew := Plague.grows c rebellion trauma
    ((Plague.tickAs c rebellion trauma v s).state = s ↔
      Scalar.overflown (Plague.movedCounter c grew s.counter) = true ∨
        Plague.Still c rebellion trauma s) ∧
    (0 < c.heartThreshold → c.clearThreshold ≤ c.heartThreshold →
      (Plague.Still c rebellion trauma s ↔ Plague.nextCounter c grew s.counter = s.counter))
  population : ∀ (rebellion : α) (o : Observed (Economy α) α),
    (Scalar.overflown (Scalar.rounded rebellion) = true ∧
        o.run (·.setPopulation rebellion v) = (.error .overflow, o)) ∨
      (Scalar.overflown (Scalar.rounded rebellion) = false ∧
        o.run (·.setPopulation rebellion v) =
          (.error f, { o with subject := o.subject.withRebellion (Scalar.unit rebellion) }))
  ticks : ∀ (trauma : Option α) (o : Observed (Economy α) α),
    o.run (·.advance v trauma) = (.error f, o)
  world : ∀ o : Observed (World α) α, FailsAfter f World.refresh (·.advance v) o ∧
    World.KeepsAside o (o.run (·.advance v)).2

theorem leftUnread {v : Value α} {f : Failure α} (unread : v.toInt = .error f) :
    LeftUnread v f where
  tick c rebellion trauma o := failsAfter_of_eq (by simp [Plague.tickAs, unread])
  tickUnfelt c ops rebellion trauma := by
    intro s grew
    refine ⟨?_, fun positive ordered => ?_⟩
    · rw [← Plague.advance_eq_self_iff (Plague.throttle_after c ops), Plague.tickAs, Plague.move]
      split
      · rename_i overflown
        simp [grew, overflown]
      · rename_i fits
        simp [grew, fits, unread, s]
    · have band : Plague.Band c s :=
        after_induction (fun op _ => Plague.Band.perform positive ordered op) ops
          (.of_empty positive rfl rfl rfl)
      exact band.still_iff rebellion trauma
  population rebellion o := by
    obtain ⟨large, same⟩ | ⟨fits, ⟨failure, failed, same⟩ | ⟨n, read, -⟩⟩ :=
      Economy.setPopulation_cases rebellion v o.subject
    · exact .inl ⟨large, Observed.run_of_fail same⟩
    · rw [unread] at failed
      cases failed
      refine .inr ⟨fits, ?_⟩
      have silent : (o.subject.setPopulation rebellion v).notes = [] := by rw [same]; rfl
      rw [Observed.run_silent silent, same]
      rfl
    · rw [unread] at read
      cases read
  ticks trauma o := Observed.run_of_fail (by simp [Economy.advance, unread])
  world o := by
    have fails : FailsAfter f World.refresh (·.advance v) o := failsAfter_of_eq (by
      simp [World.advance, World.onEconomy, Economy.advance, unread, Outcome.within, Outcome.fail])
    have left : (o.run (·.advance v)).2 = (o.run World.refresh).2 := congrArg Prod.snd fails
    exact ⟨fails, left ▸ World.keepsAside_refresh o⟩

/-! ## Reports -/

/-- The severity of the report cannot be read, or it can but the tick cannot. -/
def Report.Unread (r : Report α) (f : Failure α) : Prop :=
  let severity : Answer α Severity := Severity.ofValue (r.severity.getD (.int 1))
  severity = .error f ∨
    ∃ read, severity = .ok read ∧ (r.tick.getD (.int 0)).toInt = .error f

theorem Chronicle.recordReport_eq_error_iff {r : Report α} {c : Chronicle α} {f : Failure α} :
    c.recordReport r = .error f ↔ c.enabled = true ∧ r.Unread f := by
  unfold recordReport Report.Unread
  cases c.enabled with
  | false => simp
  | true =>
      cases severity : (Severity.ofValue (r.severity.getD (.int 1)) : Answer α Severity) with
      | error g => simp [bind, Except.bind]
      | ok read =>
          cases (r.tick.getD (.int 0)).toInt <;> simp [bind, Except.bind, pure, Except.pure]

/-! ## What is left -/

/-- An operation whose argument cannot be converted leaves what it did before, which is nothing in
the economy that is to tick, and nothing in the chronicle. -/
theorem unread_leaves :
    (∀ (v : Value α) (f : Failure α), v.toInt = .error f → LeftUnread v f) ∧
    ∀ (r : Report α) (c : Chronicle α) (f : Failure α),
      Outcome.ofAnswer c (c.recordReport r) = .fail f c ↔ c.enabled = true ∧ r.Unread f := by
  refine ⟨fun v f => leftUnread, fun r c f => ?_⟩
  rw [← Chronicle.recordReport_eq_error_iff]
  cases c.recordReport r with
  | error g => simp [Outcome.ofAnswer, Outcome.fail]
  | ok recorded => simp [Outcome.ofAnswer, Outcome.fail, Outcome.done]

/-- A calm tick of an empty counter has nothing to undo. -/
theorem unread_leaves_calm :
    let c : Plague.Config Rat :=
      { growth := 2
        decay := 1
        heartThreshold := 100
        clearThreshold := 60
        throttle := 0.5
        rebellionTrigger := 0.35
        traumaTrigger := 0.4
        warningLevel := 50 }
    (.null : Value Rat).toInt = .error .wrongKind ∧
      (Plague.tickAs c 0.1 0.1 .null .fresh).state = .fresh := by
  intro c
  have unread : (.null : Value Rat).toInt = .error .wrongKind := rfl
  have left := unread_leaves.1 .null .wrongKind unread
  have still : Plague.nextCounter c (Plague.grows c 0.1 0.1) 0 = 0 := by decide +kernel
  have sleeps : Plague.nextHeart c false 0 = false := by decide +kernel
  exact ⟨unread, (left.tickUnfelt c [] 0.1 0.1).1.mpr (.inr ⟨still, sleeps⟩)⟩

/-- On the standard settings a tick without a number fills the counter, a missing count leaves the
new probability of rebellion, and advancing a missing number of times refreshes a world in which
somebody has been registered. -/
theorem unread_felt :
    (.null : Value Amount).toInt = .error .wrongKind ∧
    ∃ start, World.start (.standard : Settings Amount) = .ok start ∧
      let tick := Plague.tickAs start.subject.economy.plagueConfig 0.9 0.9 .null .fresh
      let setPopulation : World.Operation Amount := .economy (.setPopulation 0.9 .null)
      let registered := (start.run (World.Operation.perform (.register "a"))).2
      tick.state ≠ .fresh ∧
      (start.run setPopulation.perform).2 ≠ start ∧
      (registered.run (World.Operation.perform (.advance .null))).2 ≠ registered := by
  refine ⟨rfl, ?_⟩
  let rebellion (o : Observed (World Amount) Amount) : Bool :=
    decide (0 < o.subject.economy.status.rebellion)
  have felt : ((World.start (.standard : Settings Amount)).toOption.map fun start =>
      let tick := Plague.tickAs start.subject.economy.plagueConfig 0.9 0.9 .null .fresh
      let setPopulation : World.Operation Amount := .economy (.setPopulation 0.9 .null)
      let registered := (start.run (World.Operation.perform (.register "a"))).2
      (decide (0 < tick.state.counter), rebellion start,
        rebellion (start.run setPopulation.perform).2, rebellion registered,
        rebellion (registered.run (World.Operation.perform (.advance .null))).2)) =
      some (true, false, true, false, true) := by
    decide +kernel
  cases started : World.start (.standard : Settings Amount) with
  | error failure => simp [started, Except.toOption] at felt
  | ok start =>
      simp only [started, Except.toOption, Option.map_some, Option.some.injEq,
        Prod.mk.injEq] at felt
      obtain ⟨filled, calm, told, quiet, refreshed⟩ := felt
      refine ⟨start, rfl, fun same => ?_, fun same => ?_, fun same => ?_⟩
      · rw [same] at filled
        have filled : (0 : Amount) < 0 := of_decide_eq_true filled
        exact Scalar.lt_irrefl 0 filled
      · rw [same, calm] at told
        cases told
      · rw [same, quiet] at refreshed
        cases refreshed

end Colony

import Colony.Proofs.Operation
import Colony.Proofs.Order
import Colony.Scalar.Amount

/-!
# The band of the plague

Between two thresholds the Plague Heart may be awake or asleep; outside that
band the counter alone decides.  The counter never leaves the range from zero
to the ceiling, an awake heart is never below the clear threshold, a sleeping
one never at the ceiling, and the throttle follows the heart.  That holds after
every run of ticks and cleansings, those that fail included.
-/

namespace Colony.Plague

variable {α : Type} [Scalar α]

/-- What a tick of a number still to be read can come to: it overflows before anything moves, or
everything but the number of the last tick moves, or the whole tick takes place. -/
theorem tickAs_cases (c : Config α) (rebellion trauma : α) (number : Value α) (s : State α) :
    tickAs c rebellion trauma number s = .fail .overflow s ∨
      (∃ failure, number.toInt = .error failure ∧
        tickAs c rebellion trauma number s = .fail failure (advance c rebellion trauma s)) ∨
      ∃ n, number.toInt = .ok n ∧
        tickAs c rebellion trauma number s =
          conclude c (report c rebellion trauma s) n (advance c rebellion trauma s) := by
  unfold tickAs move
  split
  · exact .inl rfl
  · rw [Outcome.done_andThen]
    cases number.toInt with
    | error failure => exact .inr (.inl ⟨failure, rfl, rfl⟩)
    | ok n => exact .inr (.inr ⟨n, rfl, rfl⟩)

theorem state_tickAs (c : Config α) (rebellion trauma : α) (number : Value α) (s : State α) :
    (tickAs c rebellion trauma number s).state = s ∨
      ∃ last, (tickAs c rebellion trauma number s).state =
        { advance c rebellion trauma s with lastTick := last } := by
  rcases tickAs_cases c rebellion trauma number s with
    overflow | ⟨failure, -, unread⟩ | ⟨n, -, done⟩
  · exact .inl (by rw [overflow]; rfl)
  · exact .inr ⟨s.lastTick, by rw [unread]; rfl⟩
  · exact .inr ⟨n, by rw [done]; rfl⟩

theorem state_cleanse (s : State α) :
    (cleanse s).state = s ∨ (s.heart = true ∧ (cleanse s).state = cleansed s) := by
  unfold cleanse
  split
  · rename_i awake
    exact .inr ⟨awake, rfl⟩
  · exact .inl rfl

/-! ## The band -/

structure Band (c : Config α) (s : State α) : Prop where
  nonneg : 0 ≤ s.counter
  le_ceiling : s.counter ≤ c.heartThreshold
  awake : s.heart = true → c.clearThreshold ≤ s.counter ∧ s.throttle = c.throttle
  asleep : s.heart = false → s.counter < c.heartThreshold ∧ s.throttle = 1

namespace Band

variable {c : Config α} {s : State α}

/-- An empty counter and a sleeping heart, which is how the plague starts and is left by a
cleansing. -/
theorem of_empty (positive : 0 < c.heartThreshold) (empty : s.counter = 0)
    (sleeps : s.heart = false) (free : s.throttle = 1) : Band c s where
  nonneg := by rw [empty]; exact Scalar.le_refl Scalar.defined_zero
  le_ceiling := by rw [empty]; exact Scalar.le_of_lt positive
  awake awake := by simp [sleeps] at awake
  asleep _ := ⟨by rw [empty]; exact positive, free⟩

theorem withLastTick (h : Band c s) (last : Int) : Band c { s with lastTick := last } :=
  ⟨h.nonneg, h.le_ceiling, h.awake, h.asleep⟩

/-- An awake heart that stays awake has not been found below the clear threshold, and one that
awakens has been found at the ceiling, which is no lower. -/
theorem clear_le_of_nextHeart {heart : Bool} {counter : α}
    (ordered : c.clearThreshold ≤ c.heartThreshold) (defined : Scalar.Defined counter)
    (awake : nextHeart c heart counter = true) : c.clearThreshold ≤ counter := by
  cases heart with
  | true =>
      have notBelow : ¬ counter < c.clearThreshold := by simpa [nextHeart] using awake
      exact Scalar.le_of_not_lt defined (.of_le_left ordered) notBelow
  | false =>
      have reached : c.heartThreshold ≤ counter := by simpa [nextHeart] using awake
      exact Scalar.le_trans ordered reached

/-- A heart that falls asleep has been found below the clear threshold, and one that stays asleep
has not been found at the ceiling. -/
theorem lt_ceiling_of_nextHeart {heart : Bool} {counter : α}
    (ordered : c.clearThreshold ≤ c.heartThreshold) (defined : Scalar.Defined counter)
    (sleeps : nextHeart c heart counter = false) : counter < c.heartThreshold := by
  cases heart with
  | true =>
      have below : counter < c.clearThreshold := by simpa [nextHeart] using sleeps
      exact Scalar.lt_of_lt_of_le below ordered
  | false =>
      have notReached : ¬ c.heartThreshold ≤ counter := by simpa [nextHeart] using sleeps
      by_contra notBelow
      exact notReached (Scalar.le_of_not_lt defined (.of_le_right ordered) notBelow)

/-- Wherever the counter was, its next value is confined, and the heart and the throttle are set
from that value. -/
theorem advance (positive : 0 < c.heartThreshold)
    (ordered : c.clearThreshold ≤ c.heartThreshold) (rebellion trauma : α) (s : State α) :
    Band c (Plague.advance c rebellion trauma s) := by
  have nonneg := Scalar.le_clamp positive
    (movedCounter c (grows c rebellion trauma) s.counter)
  have defined := Scalar.Defined.of_le_right nonneg
  refine ⟨nonneg, Scalar.clamp_le positive _, fun awake => ?_, fun sleeps => ?_⟩
  · have throttle : (Plague.advance c rebellion trauma s).throttle = throttleFor c true :=
      congrArg (throttleFor c) awake
    exact ⟨clear_le_of_nextHeart ordered defined awake, throttle⟩
  · have throttle : (Plague.advance c rebellion trauma s).throttle = throttleFor c false :=
      congrArg (throttleFor c) sleeps
    exact ⟨lt_ceiling_of_nextHeart ordered defined sleeps, throttle⟩

theorem perform (positive : 0 < c.heartThreshold)
    (ordered : c.clearThreshold ≤ c.heartThreshold) (op : Operation α) (h : Band c s) :
    Band c (op.perform c s).state := by
  cases op with
  | tick rebellion trauma number =>
      rcases state_tickAs c rebellion trauma number s with kept | ⟨last, moved⟩
      · exact kept.symm ▸ h
      · exact moved.symm ▸ (advance positive ordered rebellion trauma s).withLastTick last
  | cleanse =>
      rcases state_cleanse s with kept | ⟨-, emptied⟩
      · exact kept.symm ▸ h
      · exact emptied.symm ▸ of_empty positive rfl rfl rfl

end Band

theorem band_after (c : Config α) (positive : 0 < c.heartThreshold)
    (ordered : c.clearThreshold ≤ c.heartThreshold) (ops : List (Operation α)) :
    Band c (after (Operation.perform c) ops .fresh) :=
  after_induction (fun op _ => Band.perform positive ordered op) ops
    (Band.of_empty positive rfl rfl rfl)

/-- A run over a cleansing that fails, a tick whose number cannot be read and one that awakens the
heart. -/
theorem band_after_awakening :
    let c : Config Amount :=
      { growth := 2.5
        decay := 0.5
        heartThreshold := 3.0
        clearThreshold := 1.5
        throttle := 0.3
        rebellionTrigger := 0.35
        traumaTrigger := 0.5
        warningLevel := 2.0 }
    let ops : List (Operation Amount) :=
      [.cleanse, .tick 0.9 0.9 .null, .tick 0.1 0.1 (.int 2), .tick 0.9 0.9 (.int 3)]
    0 < c.heartThreshold ∧ c.clearThreshold ≤ c.heartThreshold ∧
      (after (Operation.perform c) ops .fresh).heart = true ∧
      Band c (after (Operation.perform c) ops .fresh) := by
  intro c ops
  have positive : 0 < c.heartThreshold := by decide +kernel
  have ordered : c.clearThreshold ≤ c.heartThreshold := by decide +kernel
  refine ⟨positive, ordered, ?_, band_after c positive ordered ops⟩
  decide +kernel

end Colony.Plague

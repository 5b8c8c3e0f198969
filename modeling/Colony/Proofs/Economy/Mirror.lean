import Colony.Proofs.Operation

/-!
# The mirror of the plague

The status of the economy shows the level of the plague, its heart and its
throttle as they were after the last tick that moved the plague.  A tick first
moves it and then the stocks; if it fails before that, nothing is shown anew,
and if it fails in the stocks, the plague has moved and is shown, but the tick
is not counted.  A cleansing changes the plague alone.
-/

namespace Colony.Economy

variable {α : Type} [Scalar α] {e next : Economy α} {trauma : Option α}

structure Mirrors (s : Status α) (p : Plague.State α) : Prop where
  infestation : s.infestation = p.counter
  heart : s.heart = p.heart
  throttle : s.throttle = p.throttle

/-- What is shown of the plague, and the count of ticks. -/
def shownOf (s : Status α) : α × Bool × α × Nat :=
  (s.infestation, s.heart, s.throttle, s.tickCount)

omit [Scalar α] in
theorem Mirrors.of_shownOf {s t : Status α} {p : Plague.State α} (h : Mirrors s p)
    (same : shownOf t = shownOf s) : Mirrors t p := by
  simp only [shownOf, Prod.mk.injEq] at same
  exact ⟨same.1.trans h.infestation, same.2.1.trans h.heart, same.2.2.1.trans h.throttle⟩

omit [Scalar α] in
theorem tickCount_of_shownOf {s t : Status α} (same : shownOf t = shownOf s) :
    t.tickCount = s.tickCount := by
  simp only [shownOf, Prod.mk.injEq] at same
  exact same.2.2.2

/-! ## One tick -/

/-- A tick up to the stocks: the rates are written and the plague moves. -/
def moving (trauma : Option α) (e : Economy α) : Outcome (Economy α) α (Plague.TickReport α) :=
  (e.onStocks (Stocks.rate e.config e.mines e.refineries)).andThen fun _ rated =>
    (Outcome.of (rated.traumaFor trauma) rated).andThen fun trauma rated =>
      rated.onPlague (Plague.tick rated.plagueConfig rated.status.rebellion trauma
        (rated.status.tickCount + 1))

theorem tick_eq (trauma : Option α) (e : Economy α) :
    e.tick trauma = (e.moving trauma).andThen fun _ moved => moved.settle := by
  simp only [moving, Outcome.andThen_assoc]
  rfl

theorem tick_plague_cases (c : Plague.Config α) (rebellion trauma : α) (number : Int)
    (p : Plague.State α) :
    Plague.tick c rebellion trauma number p = .fail .overflow p ∨
      ((∃ report, (Plague.tick c rebellion trauma number p).answer = .ok report) ∧
        (Plague.tick c rebellion trauma number p).state.lastTick = number) := by
  unfold Plague.tick Plague.move
  split
  · exact .inl rfl
  · exact .inr ⟨⟨_, rfl⟩, rfl⟩

theorem moving_cases (trauma : Option α) (e : Economy α) :
    ((∃ failure, (e.moving trauma).answer = .error failure) ∧
        (e.moving trauma).state.plague = e.plague ∧
        shownOf (e.moving trauma).state.status = shownOf e.status) ∨
      ((∃ report, (e.moving trauma).answer = .ok report) ∧
        (e.moving trauma).state.plague.lastTick = e.status.tickCount + 1 ∧
        shownOf (e.moving trauma).state.status = shownOf e.status) := by
  simp only [moving, onStocks, Outcome.within, Outcome.andThen]
  cases (Stocks.rate e.config e.mines e.refineries e.status.stocks).answer with
  | error failure => exact .inl ⟨⟨failure, rfl⟩, rfl, rfl⟩
  | ok rated =>
      simp only [Outcome.of]
      split
      · exact .inl ⟨⟨_, rfl⟩, rfl, rfl⟩
      · rename_i felt _
        rcases tick_plague_cases e.plagueConfig e.status.rebellion felt
          (e.status.tickCount + 1) e.plague with overflow | ⟨⟨report, moved⟩, number⟩
        · simp only [onPlague, overflow]
          exact .inl ⟨⟨.overflow, rfl⟩, rfl, rfl⟩
        · simp only [onPlague]
          exact .inr ⟨⟨report, moved⟩, number, rfl⟩

theorem settle_spec (e : Economy α) :
    e.settle.state.plague = e.plague ∧ Mirrors e.settle.state.status e.plague ∧
      ((∃ status, e.settle.answer = .ok status) ∧
          e.settle.state.status.tickCount = e.status.tickCount + 1 ∨
        (∃ failure, e.settle.answer = .error failure) ∧
          e.settle.state.status.tickCount = e.status.tickCount) := by
  simp only [settle, onStocks, Outcome.within, Outcome.andThen, withPlague]
  cases (Stocks.tick (effectiveThrottle e.plague.throttle) e.status.stocks).answer with
  | error failure => exact ⟨rfl, ⟨rfl, rfl, rfl⟩, .inr ⟨⟨failure, rfl⟩, rfl⟩⟩
  | ok done => exact ⟨rfl, ⟨rfl, rfl, rfl⟩, .inl ⟨⟨_, rfl⟩, rfl⟩⟩

/-! ## Steps -/

/-- A single step of the economy; advancing is put together from ticks. -/
def Operation.isStep : Operation α → Bool
  | .advance _ _ => false
  | .tick _ => true
  | .addMine _ => true
  | .addRefinery _ => true
  | .setPopulation _ _ => true
  | .cleanse => true

/-- A tick that moves the plague, whatever becomes of the stocks. -/
def Operation.Moves (op : Operation α) (e : Economy α) : Prop :=
  ∃ trauma report, op = .tick trauma ∧ (e.moving trauma).answer = .ok report

def Operation.Cleanses (op : Operation α) (e : Economy α) : Prop :=
  op = .cleanse ∧ e.cleanse.answer = .ok ()

/-- Neither the plague nor what is shown of it has changed, nor the count of ticks. -/
structure Still (e next : Economy α) : Prop where
  plague : next.plague = e.plague
  shown : shownOf next.status = shownOf e.status

omit [Scalar α] in
theorem Still.refl (e : Economy α) : Still e e := ⟨rfl, rfl⟩

omit [Scalar α] in
theorem Still.trans {last : Economy α} (h : Still e next) (h' : Still next last) : Still e last :=
  ⟨h'.plague.trans h.plague, h'.shown.trans h.shown⟩

theorem cleanse_of_asleep (asleep : e.plague.heart = false) :
    e.cleanse = .fail .heartInactive e := by
  simp only [cleanse, onPlague, Plague.cleanse, asleep]
  simp [Outcome.fail]

theorem cleanse_of_awake (awake : e.plague.heart = true) :
    e.cleanse.answer = .ok () ∧
      e.cleanse.state = { e with plague := Plague.cleansed e.plague } := by
  have done : Plague.cleanse e.plague =
      ⟨.ok (), Plague.cleanseNotes e.plague, Plague.cleansed e.plague⟩ := by
    rw [Plague.cleanse, if_pos awake]
  simp only [cleanse, onPlague, done, and_self]

theorem Operation.Cleanses.awake {op : Operation α} (h : op.Cleanses e) :
    e.plague.heart = true ∧
      (op.perform e).state = { e with plague := Plague.cleansed e.plague } := by
  obtain ⟨rfl, done⟩ := h
  cases awake : e.plague.heart with
  | false =>
      rw [cleanse_of_asleep awake] at done
      cases done
  | true => exact ⟨rfl, (cleanse_of_awake awake).2⟩

theorem Operation.Moves.shows {op : Operation α} (h : op.Moves e) :
    let next := (op.perform e).state
    Mirrors next.status next.plague ∧ next.plague.lastTick = e.status.tickCount + 1 ∧
      ((∃ reply, (op.perform e).answer = .ok reply) ∧
          next.status.tickCount = e.status.tickCount + 1 ∨
        (∃ failure, (op.perform e).answer = .error failure) ∧
          next.status.tickCount = e.status.tickCount) := by
  obtain ⟨trauma, report, rfl, moved⟩ := h
  rcases moving_cases trauma e with ⟨⟨failure, stuck⟩, -⟩ | ⟨-, number, shown⟩
  · rw [stuck] at moved
    cases moved
  · have count := tickCount_of_shownOf shown
    have answer : (e.tick trauma).answer = (e.moving trauma).state.settle.answer := by
      rw [tick_eq, Outcome.answer_andThen_of_ok moved]
    have state : ((Operation.tick trauma).perform e).state =
        (e.moving trauma).state.settle.state := by
      rw [← Outcome.state_andThen_of_ok moved fun _ moved => moved.settle, ← tick_eq]
      rfl
    obtain ⟨same, mirrors, ending⟩ := (e.moving trauma).state.settle_spec
    simp only [state, same, count] at mirrors ending ⊢
    refine ⟨mirrors, number, ?_⟩
    simp only [perform, Outcome.map, answer]
    rcases ending with ⟨⟨status, done⟩, counted⟩ | ⟨⟨failure, failed⟩, uncounted⟩
    · rw [done]
      exact .inl ⟨⟨_, rfl⟩, counted⟩
    · rw [failed]
      exact .inr ⟨⟨_, rfl⟩, uncounted⟩

theorem shows_or_fails (trauma : Option α) (e : Economy α) :
    let ticked := (Operation.tick trauma).perform e
    Mirrors ticked.state.status ticked.state.plague ∨
      (∃ failure, ticked.answer = .error failure) ∧ Still e ticked.state := by
  rcases moving_cases trauma e with ⟨⟨failure, stuck⟩, same, shown⟩ | ⟨⟨report, moved⟩, -⟩
  · simp only [Operation.perform, Outcome.map, tick_eq, Outcome.andThen, stuck]
    exact .inr ⟨⟨failure, rfl⟩, same, shown⟩
  · have moves : (Operation.tick trauma).Moves e := ⟨trauma, report, rfl, moved⟩
    exact .inl moves.shows.1

theorem still_perform {op : Operation α} (step : op.isStep = true) (rests : ¬ op.Moves e)
    (keeps : ¬ op.Cleanses e) : Still e (op.perform e).state := by
  cases op with
  | addMine yieldRate =>
      rcases addMine_cases yieldRate e with ⟨-, same⟩ | ⟨-, same⟩
      all_goals
        rw [Operation.perform, same]
        exact ⟨rfl, rfl⟩
  | addRefinery efficiency =>
      rcases addRefinery_cases efficiency e with ⟨-, same⟩ | ⟨-, same⟩
      all_goals
        rw [Operation.perform, same]
        exact ⟨rfl, rfl⟩
  | setPopulation rebellion npcs =>
      rcases setPopulation_cases rebellion npcs e with
        ⟨-, same⟩ | ⟨-, ⟨failure, -, same⟩ | ⟨n, -, same⟩⟩
      all_goals
        rw [Operation.perform, same]
        exact ⟨rfl, rfl⟩
  | tick trauma =>
      rcases moving_cases trauma e with ⟨⟨failure, stuck⟩, same, shown⟩ | ⟨⟨report, moved⟩, -⟩
      · have state : ((Operation.tick trauma).perform e).state = (e.moving trauma).state := by
          simp only [Operation.perform, Outcome.map, tick_eq, Outcome.andThen, stuck]
        rw [state]
        exact ⟨same, shown⟩
      · exact absurd ⟨trauma, report, rfl, moved⟩ rests
  | advance times trauma => cases step
  | cleanse =>
      cases awake : e.plague.heart with
      | false =>
          simp only [Operation.perform, cleanse_of_asleep awake]
          exact .refl e
      | true => exact absurd ⟨rfl, (cleanse_of_awake awake).1⟩ keeps

/-! ## Runs without a tick -/

/-- No step of a run that goes on from here does this. -/
def Never (does : Operation α → Economy α → Prop) (ops : List (Operation α)) (e : Economy α) :
    Prop :=
  ∀ before op rest, ops = before ++ op :: rest → ¬ does op (after Operation.perform before e)

theorem never_cons {does : Operation α → Economy α → Prop} {op : Operation α}
    {ops : List (Operation α)} (h : Never does (op :: ops) e) :
    ¬ does op e ∧ Never does ops (op.perform e).state :=
  ⟨h [] op ops rfl, fun before last rest split => h (op :: before) last rest (by rw [split]; rfl)⟩

theorem Never.append_left {does : Operation α → Economy α → Prop} {xs ys : List (Operation α)}
    (h : Never does (xs ++ ys) e) : Never does xs e :=
  fun before op rest split => h before op (rest ++ ys) (by rw [split]; simp)

theorem Never.append_right {does : Operation α → Economy α → Prop} {xs ys : List (Operation α)}
    (h : Never does (xs ++ ys) e) : Never does ys (after Operation.perform xs e) := by
  intro before op rest split
  rw [← after_append]
  exact h (xs ++ before) op rest (by rw [split, List.append_assoc])

section Quiet

variable {ops : List (Operation α)} (steps : ∀ op ∈ ops, op.isStep = true)
include steps

theorem still_after (rests : Never Operation.Moves ops e) (keeps : Never Operation.Cleanses ops e) :
    Still e (after Operation.perform ops e) := by
  induction ops generalizing e with
  | nil => exact .refl e
  | cons op ops ih =>
      obtain ⟨rest, laterRests⟩ := never_cons rests
      obtain ⟨keep, laterKeeps⟩ := never_cons keeps
      have first := still_perform (steps op List.mem_cons_self) rest keep
      exact first.trans
        (ih (fun op member => steps op (List.mem_cons_of_mem _ member)) laterRests laterKeeps)

theorem still_after_of_asleep (asleep : e.plague.heart = false)
    (rests : Never Operation.Moves ops e) : Still e (after Operation.perform ops e) := by
  -- Only a tick awakens a heart, so there is nothing to cleanse all along.
  induction ops generalizing e with
  | nil => exact .refl e
  | cons op ops ih =>
      obtain ⟨rest, laterRests⟩ := never_cons rests
      have keep : ¬ op.Cleanses e := fun cleanses => by
        have awake := cleanses.awake.1
        rw [asleep] at awake
        cases awake
      have first := still_perform (steps op List.mem_cons_self) rest keep
      have asleep' : (op.perform e).state.plague.heart = false := by rw [first.plague, asleep]
      exact first.trans
        (ih (fun op member => steps op (List.mem_cons_of_mem _ member)) asleep' laterRests)

theorem still_before_cleansing {op : Operation α} (rests : Never Operation.Moves ops e)
    (cleanses : op.Cleanses (after Operation.perform ops e)) :
    Still e (after Operation.perform ops e) := by
  -- An earlier cleansing would have left the heart asleep, and so would all after it.
  refine still_after steps rests fun before other rest split earlier => ?_
  rw [split] at rests cleanses
  have left : after Operation.perform (before ++ other :: rest) e =
      after Operation.perform rest (other.perform (after Operation.perform before e)).state := by
    rw [after_append, after_cons]
  have asleep : (other.perform (after Operation.perform before e)).state.plague.heart = false := by
    rw [earlier.awake.2]
    rfl
  have quiet := (never_cons rests.append_right).2
  have still := still_after_of_asleep
    (fun op member => steps op (by rw [split]; simp [member])) asleep quiet
  have awake := cleanses.awake.1
  rw [left, still.plague, asleep] at awake
  cases awake

theorem still_around_cleansing {before rest : List (Operation α)} {cleansing : Operation α}
    (split : ops = before ++ cleansing :: rest) (rests : Never Operation.Moves ops e)
    (cleanses : cleansing.Cleanses (after Operation.perform before e)) :
    let held := after Operation.perform before e
    Still e held ∧
      Still { held with plague := Plague.cleansed held.plague }
        (after Operation.perform ops e) := by
  subst split
  intro held
  have left : after Operation.perform (before ++ cleansing :: rest) e =
      after Operation.perform rest { held with plague := Plague.cleansed held.plague } := by
    rw [after_append, after_cons, cleanses.awake.2]
  have quiet := (never_cons rests.append_right).2
  rw [cleanses.awake.2] at quiet
  rw [left]
  refine ⟨still_before_cleansing (fun op member => steps op (by simp [member]))
    rests.append_left cleanses, ?_⟩
  exact still_after_of_asleep (fun op member => steps op (by simp [member])) rfl quiet

end Quiet

/-! ## What is shown in the end -/

/-- What a run without a tick leaves of the plague and its mirror, if that was right before. -/
structure Follows (e : Economy α) (ops : List (Operation α)) : Prop where
  lastTick : (after Operation.perform ops e).plague.lastTick = e.plague.lastTick
  tickCount : (after Operation.perform ops e).status.tickCount = e.status.tickCount
  same : Never Operation.Cleanses ops e →
    Mirrors (after Operation.perform ops e).status (after Operation.perform ops e).plague
  /-- After a cleansing, what is shown is what the plague was like just before it. -/
  behind : ∀ before cleansing rest, ops = before ++ cleansing :: rest →
    let held := after Operation.perform before e
    cleansing.Cleanses held →
      held.plague.heart = true ∧ Mirrors held.status held.plague ∧
        Mirrors (after Operation.perform ops e).status held.plague ∧
        (after Operation.perform ops e).plague = Plague.cleansed held.plague

theorem follows_of_mirrors {ops : List (Operation α)} (steps : ∀ op ∈ ops, op.isStep = true)
    (mirrors : Mirrors e.status e.plague) (rests : Never Operation.Moves ops e) :
    Follows e ops := by
  have around {before rest : List (Operation α)} {cleansing : Operation α}
      (split : ops = before ++ cleansing :: rest)
      (cleanses : cleansing.Cleanses (after Operation.perform before e)) :=
    still_around_cleansing steps split rests cleanses
  have behind : ∀ before cleansing rest, ops = before ++ cleansing :: rest →
      let held := after Operation.perform before e
      cleansing.Cleanses held →
        held.plague.heart = true ∧ Mirrors held.status held.plague ∧
          Mirrors (after Operation.perform ops e).status held.plague ∧
          (after Operation.perform ops e).plague = Plague.cleansed held.plague := by
    intro before cleansing rest split held cleanses
    obtain ⟨first, last⟩ := around split cleanses
    have right : Mirrors held.status held.plague := by
      rw [first.plague]
      exact mirrors.of_shownOf first.shown
    exact ⟨cleanses.awake.1, right, right.of_shownOf last.shown, last.plague⟩
  by_cases keeps : Never Operation.Cleanses ops e
  · have still := still_after steps rests keeps
    refine ⟨by rw [still.plague], tickCount_of_shownOf still.shown, fun _ => ?_, behind⟩
    rw [still.plague]
    exact mirrors.of_shownOf still.shown
  · obtain ⟨before, cleansing, rest, split, cleanses⟩ :
        ∃ before op rest, ops = before ++ op :: rest ∧
          op.Cleanses (after Operation.perform before e) := by
      simpa [Never] using keeps
    obtain ⟨first, last⟩ := around split cleanses
    refine ⟨?_, ?_, fun never => absurd never keeps, behind⟩
    · rw [last.plague, ← first.plague]
      rfl
    · rw [tickCount_of_shownOf last.shown, ← tickCount_of_shownOf first.shown]

/-- A tick that moves the plague, and a run without any after it.  If the tick fails in the stocks,
it is not counted, but its number is noted. -/
structure FollowsTick (tick : Operation α) (e : Economy α) (ops : List (Operation α)) : Prop where
  mirrors : Mirrors (tick.perform e).state.status (tick.perform e).state.plague
  follows : Follows (tick.perform e).state ops
  number : let last := after Operation.perform ops (tick.perform e).state
    (∃ reply, (tick.perform e).answer = .ok reply) ∧
        last.plague.lastTick = last.status.tickCount ∨
      (∃ failure, (tick.perform e).answer = .error failure) ∧
        last.plague.lastTick = last.status.tickCount + 1

theorem Operation.Moves.followsTick {tick : Operation α} (h : tick.Moves e)
    {ops : List (Operation α)} (steps : ∀ op ∈ ops, op.isStep = true)
    (rests : Never Operation.Moves ops (tick.perform e).state) : FollowsTick tick e ops := by
  obtain ⟨mirrors, number, ending⟩ := h.shows
  have follows := follows_of_mirrors steps mirrors rests
  refine ⟨mirrors, follows, ?_⟩
  simp only [follows.lastTick, follows.tickCount, number]
  rcases ending with ⟨done, counted⟩ | ⟨failed, uncounted⟩
  · exact .inl ⟨done, by rw [counted]; rfl⟩
  · exact .inr ⟨failed, by rw [uncounted]⟩

theorem exists_last_move {ops : List (Operation α)} (moves : ¬ Never Operation.Moves ops e) :
    ∃ before tick since, ops = before ++ tick :: since ∧
      tick.Moves (after Operation.perform before e) ∧
      Never Operation.Moves since (tick.perform (after Operation.perform before e)).state := by
  induction ops generalizing e with
  | nil => exact absurd (fun before op rest split => by simp at split) moves
  | cons op ops ih =>
      by_cases later : Never Operation.Moves ops (op.perform e).state
      · refine ⟨[], op, ops, rfl, Classical.byContradiction fun rests => moves ?_, later⟩
        intro before tick rest split
        cases before with
        | nil =>
            cases split
            exact rests
        | cons first before =>
            cases split
            exact later before tick rest rfl
      · obtain ⟨before, tick, since, split, move, quiet⟩ := ih later
        exact ⟨op :: before, tick, since, by rw [split, List.cons_append], move, quiet⟩

/-- What is shown at the end of a run of steps, told from the last tick that has moved the plague,
and what the next one makes of it. -/
structure Shows (e : Economy α) (ops : List (Operation α)) : Prop where
  unmoved : Never Operation.Moves ops e → Follows e ops ∧
    (after Operation.perform ops e).plague.lastTick =
      (after Operation.perform ops e).status.tickCount
  moved : ∀ before tick since, ops = before ++ tick :: since →
    tick.Moves (after Operation.perform before e) →
      Never Operation.Moves since (tick.perform (after Operation.perform before e)).state →
        FollowsTick tick (after Operation.perform before e) since
  next : ∀ trauma,
    let last := after Operation.perform ops e
    let ticked := (Operation.tick trauma).perform last
    Mirrors ticked.state.status ticked.state.plague ∨
      (∃ failure, ticked.answer = .error failure) ∧ Still last ticked.state
  whole : (∀ before tick rest, ops = before ++ tick :: rest →
      tick.Moves (after Operation.perform before e) →
        ∃ reply, (tick.perform (after Operation.perform before e)).answer = .ok reply) →
    (after Operation.perform ops e).plague.lastTick =
      (after Operation.perform ops e).status.tickCount

theorem shows_of_new (config : Config α) (plague : Plague.Config α) (heard : Bool)
    {ops : List (Operation α)} (steps : ∀ op ∈ ops, op.isStep = true) :
    Shows (Economy.new config plague heard) ops := by
  generalize made : Economy.new config plague heard = e
  have unmoved (rests : Never Operation.Moves ops e) : Follows e ops ∧
      (after Operation.perform ops e).plague.lastTick =
        (after Operation.perform ops e).status.tickCount := by
    have mirrors : Mirrors e.status e.plague := by
      rw [← made]
      exact ⟨rfl, rfl, rfl⟩
    have follows := follows_of_mirrors steps mirrors rests
    refine ⟨follows, ?_⟩
    rw [follows.lastTick, follows.tickCount, ← made]
    rfl
  have moved : ∀ before tick since, ops = before ++ tick :: since →
      tick.Moves (after Operation.perform before e) →
        Never Operation.Moves since (tick.perform (after Operation.perform before e)).state →
          FollowsTick tick (after Operation.perform before e) since :=
    fun before tick since split moves rests =>
      moves.followsTick (fun op member => steps op (by rw [split]; simp [member])) rests
  refine ⟨unmoved, moved, fun trauma => shows_or_fails trauma _, fun succeed => ?_⟩
  by_cases rests : Never Operation.Moves ops e
  · exact (unmoved rests).2
  · obtain ⟨before, tick, since, split, moves, quiet⟩ := exists_last_move rests
    obtain ⟨-, -, ⟨-, same⟩ | ⟨⟨failure, failed⟩, -⟩⟩ := moved before tick since split moves quiet
    · rw [split, after_append, after_cons]
      exact same
    · obtain ⟨reply, done⟩ := succeed before tick since split moves
      rw [done] at failed
      cases failed

end Colony.Economy

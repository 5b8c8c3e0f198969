import Colony.Proofs.Answer
import Colony.Proofs.Chronicle.Telling
import Colony.Proofs.Plague.Flicker
import Colony.Proofs.Scalar.Counting
import Colony.Proofs.World.Notes

/-!
# The log of the plague

The events of a plague tell its history.  Each tick and each cleansing tells
of the heart exactly if it changes it, so that in any run the events that the
heart has awakened alternate with those that it is no longer awake, and the
last of them is right about it.  A warning is told by a tick that takes the
counter from a level it may have to one above, at most once by each.
-/

namespace Colony.Plague

variable {α : Type} [Scalar α] {c : Config α} {s : State α} {op : Operation α}

def awakened : String := "PLAGUE_HEART_ACTIVATED"

def cleared : String := "PLAGUE_HEART_CLEARED"

def emptied : String := "INFESTATION_CLEANSED"

def warning : String := "INFESTATION_WARNING"

/-- What an event of some kind says of the heart, if anything. -/
def heartAt? (kind : String) : Option Bool :=
  if kind = awakened then some true
  else if kind = cleared ∨ kind = emptied then some false
  else none

/-- A cleansing, or a tick whose number can be read. -/
def Operation.Numbered : Operation α → Prop
  | .tick _ _ number => ∃ n, number.toInt = .ok n
  | .cleanse => True

/-! ## The notes of a tick -/

def heartsOf (ds : List (Draft α)) : List Bool := ds.filterMap fun d => heartAt? d.kind

omit [Scalar α] in
theorem heartsOf_append (first last : List (Draft α)) :
    heartsOf (first ++ last) = heartsOf first ++ heartsOf last := List.filterMap_append

section Notes

variable (c : Config α) (r : TickReport α) (n : Int)

theorem drafts_tickNotes :
    drafts (tickNotes c r n) = drafts (warningNotes c r n) ++ drafts (heartNotes c r n) := by
  rw [tickNotes, drafts_append, drafts_append]
  rfl

theorem heartsOf_tickNotes :
    heartsOf (drafts (tickNotes c r n)) = if r.heartChanged then [r.heart] else [] := by
  have warnings : heartsOf (drafts (warningNotes c r n)) = [] := by
    unfold warningNotes
    split <;> rfl
  have hearts : heartsOf (drafts (heartNotes c r n)) =
      if r.heartChanged then [r.heart] else [] := by
    unfold heartNotes
    cases r.heartChanged <;> cases r.heart <;> rfl
  rw [drafts_tickNotes, heartsOf_append, warnings, hearts, List.nil_append]

theorem countP_tickNotes :
    (tickNotes c r n).countP (·.counts activations) =
      (heartsOf (drafts (tickNotes c r n))).count true := by
  have warnings : (warningNotes c r n).countP (·.counts activations) = 0 := by
    unfold warningNotes
    split <;> rfl
  have hearts : (heartNotes c r n).countP (·.counts activations) =
      (if r.heartChanged then [r.heart] else []).count true := by
    unfold heartNotes
    cases r.heartChanged <;> cases r.heart <;> rfl
  have gauges (x y : Value α) : [Note.gauge counterGauge x, .gauge throttleGauge y].countP
      (·.counts activations) = 0 := rfl
  rw [heartsOf_tickNotes, ← hearts, tickNotes, List.countP_append, List.countP_append, warnings,
    gauges, Nat.zero_add]

theorem shown_tickNotes :
    shown counterGauge (tickNotes c r n) = some (.num r.after) ∧
      shown throttleGauge (tickNotes c r n) = some (.num (throttleFor c r.heart)) := by
  have silent (name : String) : shown name (warningNotes c r n ++ heartNotes c r n) = none := by
    unfold warningNotes heartNotes
    split <;> cases r.heartChanged <;> cases r.heart <;> rfl
  rw [tickNotes, List.append_assoc, shown_append _ _ (_ ++ _), shown_append _ _ (_ ++ _), silent,
    silent]
  exact ⟨rfl, rfl⟩

theorem countP_warning_tickNotes :
    (drafts (tickNotes c r n)).countP (·.kind = warning) =
      if r.before ≤ c.warningLevel ∧ c.warningLevel < r.after then 1 else 0 := by
  have warnings : (drafts (warningNotes c r n)).countP (·.kind = warning) =
      if r.before ≤ c.warningLevel ∧ c.warningLevel < r.after then 1 else 0 := by
    unfold warningNotes
    split <;> rfl
  have hearts : (drafts (heartNotes c r n)).countP (·.kind = warning) = 0 := by
    unfold heartNotes
    cases r.heartChanged <;> cases r.heart <;> rfl
  rw [drafts_tickNotes, List.countP_append, warnings, hearts, Nat.add_zero]

end Notes

/-! ## One operation -/

theorem Operation.unranked (c : Config α) (op : Operation α) (s : State α) :
    (op.perform c s).Unranked := by
  cases op with
  | tick rebellion trauma number =>
      have silent := notes_move c rebellion trauma s
      refine (Outcome.Unranked.andThen (.of_notes_nil silent) fun r moved => ?_).map _
      refine Outcome.Unranked.andThen (.of_notes_nil rfl) fun n moved => ?_
      exact unranked_tickNotes c r n
  | cleanse => exact (unranked_cleanse s).map _

theorem Operation.perform_cases (numbered : op.Numbered) (c : Config α) (s : State α) :
    (∃ failure, op.perform c s = .fail failure s ∧ (op.isTick = true → failure = .overflow)) ∨
    (∃ rebellion trauma n,
      (op.perform c s).notes = tickNotes c (report c rebellion trauma s) n ∧
      (op.perform c s).state = { advance c rebellion trauma s with lastTick := n }) ∨
    (s.heart = true ∧
      (op.perform c s).notes = cleanseNotes s ∧ (op.perform c s).state = cleansed s) := by
  cases op with
  | tick rebellion trauma number =>
      obtain ⟨n, read⟩ := numbered
      rcases tickAs_cases c rebellion trauma number s with
        overflow | ⟨failure, unread, -⟩ | ⟨m, -, done⟩
      · refine .inl ⟨.overflow, ?_, fun _ => rfl⟩
        rw [perform, overflow]
        rfl
      · rw [read] at unread
        cases unread
      · refine .inr (.inl ⟨rebellion, trauma, m, ?_, ?_⟩) <;> rw [perform, done] <;> rfl
  | cleanse =>
      cases awake : s.heart with
      | false =>
          have inactive : Operation.cleanse.perform c s = .fail .heartInactive s := by
            simp [perform, Plague.cleanse, awake, Outcome.map, Outcome.fail, Except.map]
          exact .inl ⟨.heartInactive, inactive, fun tick => by cases tick⟩
      | true =>
          refine .inr (.inr ⟨rfl, ?_, ?_⟩) <;>
            simp [perform, Plague.cleanse, awake, Outcome.map]

section Step

variable (numbered : op.Numbered)
include numbered

theorem heartsOf_perform :
    heartsOf (drafts (op.perform c s).notes) =
      if s.heart = (op.perform c s).state.heart then [] else [(op.perform c s).state.heart] := by
  rcases op.perform_cases numbered c s with
    ⟨failure, failed, -⟩ | ⟨rebellion, trauma, n, told, moved⟩ | ⟨awake, told, moved⟩
  · rw [failed]
    exact (if_pos rfl).symm
  · rw [told, moved, heartsOf_tickNotes]
    simp only [report, bne_iff_ne, ne_eq, ite_not]
  · rw [told, moved, awake]
    rfl

theorem countP_perform :
    (op.perform c s).notes.countP (·.counts activations) =
      (heartsOf (drafts (op.perform c s).notes)).count true := by
  rcases op.perform_cases numbered c s with
    ⟨failure, failed, -⟩ | ⟨rebellion, trauma, n, told, -⟩ | ⟨-, told, -⟩
  · rw [failed]
    rfl
  · rw [told, countP_tickNotes]
  · rw [told]
    rfl

theorem shown_perform :
    ((op.perform c s).notes = [] ∧ (op.perform c s).state = s) ∨
      (shown counterGauge (op.perform c s).notes = some (.num (op.perform c s).state.counter) ∧
        shown throttleGauge (op.perform c s).notes =
          some (.num (op.perform c s).state.throttle)) := by
  rcases op.perform_cases numbered c s with
    ⟨failure, failed, -⟩ | ⟨rebellion, trauma, n, told, moved⟩ | ⟨-, told, moved⟩
  · rw [failed]
    exact .inl ⟨rfl, rfl⟩
  · rw [told, moved]
    exact .inr (shown_tickNotes c _ n)
  · rw [told, moved]
    exact .inr ⟨rfl, rfl⟩

theorem warning_perform :
    (drafts (op.perform c s).notes).countP (·.kind = warning) = 0 ∨
      ((drafts (op.perform c s).notes).countP (·.kind = warning) = 1 ∧
        s.counter ≤ c.warningLevel ∧ c.warningLevel < (op.perform c s).state.counter) := by
  rcases op.perform_cases numbered c s with
    ⟨failure, failed, -⟩ | ⟨rebellion, trauma, n, told, moved⟩ | ⟨-, told, -⟩
  · rw [failed]
    exact .inl rfl
  · rw [told, moved, countP_warning_tickNotes]
    split
    · rename_i crossed
      exact .inr ⟨rfl, crossed⟩
    · exact .inl rfl
  · rw [told]
    exact .inl rfl

theorem low_of_warning {total : Nat} {e : Event α}
    (told : e ∈ eventsAfter total (drafts (op.perform c s).notes)) (warns : e.kind = warning) :
    (drafts (op.perform c s).notes).countP (·.kind = warning) = 1 ∧
      s.counter ≤ c.warningLevel := by
  have some : 0 < (eventsAfter total (drafts (op.perform c s).notes)).countP (·.kind = warning) :=
    List.countP_pos_iff.mpr ⟨e, told, decide_eq_true warns⟩
  rw [countP_kind_eventsAfter] at some
  rcases warning_perform (c := c) (s := s) numbered with none | ⟨once, low, -⟩
  · omega
  · exact ⟨once, low⟩

end Step

/-! ## Runs -/

/-- All events of a run, those included that the log no longer keeps. -/
def eventsOf (c : Config α) (ops : List (Operation α)) : List (Event α) :=
  eventsAfter 0 (drafts (told (Operation.perform c) ops .fresh))

section Runs

variable {ops : List (Operation α)} (numbered : ∀ op ∈ ops, op.Numbered)
include numbered

theorem isChain_heartsOf_told (s : State α) :
    let hearts := heartsOf (drafts (told (Operation.perform c) ops s))
    (s.heart :: hearts).IsChain (· ≠ ·) ∧
      (s.heart :: hearts).getLast? = some (after (Operation.perform c) ops s).heart := by
  -- The heart before stands in front: what is told first differs from it.
  induction ops generalizing s with
  | nil => exact ⟨.singleton _, rfl⟩
  | cons op ops ih =>
      obtain ⟨chain, last⟩ := ih (fun op member => numbered op (List.mem_cons_of_mem _ member))
        (op.perform c s).state
      simp only [told_cons, drafts_append, heartsOf_append, after_cons,
        heartsOf_perform (numbered op List.mem_cons_self)]
      split
      · rename_i same
        rw [List.nil_append, same]
        exact ⟨chain, last⟩
      · rename_i changed
        refine ⟨List.isChain_cons_cons.mpr ⟨changed, chain⟩, ?_⟩
        rw [List.singleton_append, List.getLast?_cons_cons]
        exact last

theorem countP_told (s : State α) :
    (told (Operation.perform c) ops s).countP (·.counts activations) =
      (heartsOf (drafts (told (Operation.perform c) ops s))).count true := by
  induction ops generalizing s with
  | nil => rfl
  | cons op ops ih =>
      rw [told_cons, drafts_append, heartsOf_append, List.countP_append, List.count_append,
        countP_perform (numbered op List.mem_cons_self),
        ih fun op member => numbered op (List.mem_cons_of_mem _ member)]

theorem shown_told (s : State α) :
    let s' := after (Operation.perform c) ops s
    (told (Operation.perform c) ops s = [] ∧ s' = s) ∨
      (shown counterGauge (told (Operation.perform c) ops s) = some (.num s'.counter) ∧
        shown throttleGauge (told (Operation.perform c) ops s) = some (.num s'.throttle)) := by
  induction ops generalizing s with
  | nil => exact .inl ⟨rfl, rfl⟩
  | cons op ops ih =>
      have rest := ih (fun op member => numbered op (List.mem_cons_of_mem _ member))
        (op.perform c s).state
      have first := shown_perform (c := c) (s := s) (numbered op List.mem_cons_self)
      simp only [told_cons, after_cons, shown_append]
      rcases rest with ⟨silent, same⟩ | ⟨counter, throttle⟩
      · rw [silent, same, List.append_nil]
        exact first
      · rw [counter, throttle]
        exact .inr ⟨rfl, rfl⟩

/-- Only a run of operations that fail shows nothing, and a tick fails by overflow. -/
theorem fails_or_shown {before rest : List (Operation α)} {op : Operation α}
    (split : ops = before ++ op :: rest) (tick : op.isTick = true) :
    let s := after (Operation.perform c) before .fresh
    let s' := after (Operation.perform c) ops .fresh
    op.perform c s = .fail .overflow s ∨
      (shown counterGauge (told (Operation.perform c) ops .fresh) = some (.num s'.counter) ∧
        shown throttleGauge (told (Operation.perform c) ops .fresh) =
          some (.num s'.throttle)) := by
  intro s s'
  refine (shown_told (c := c) numbered .fresh).imp_left fun still => ?_
  have unsaid : (op.perform c s).notes = [] := by
    have silent := still.1
    rw [split, told_append, told_cons] at silent
    exact (List.append_eq_nil_iff.mp (List.append_eq_nil_iff.mp silent).2).1
  rcases op.perform_cases (numbered op (by simp [split])) c s with
    ⟨failure, failed, overflow⟩ | ⟨rebellion, trauma, n, told, -⟩ | ⟨-, told, -⟩
  · rw [failed, overflow tick]
  · rw [unsaid] at told
    cases told
  · rw [unsaid] at told
    cases told

end Runs

omit [Scalar α] in
theorem hearts_eventsAfter (total : Nat) (ds : List (Draft α)) :
    (eventsAfter total ds).filterMap (fun e => heartAt? e.kind) = heartsOf ds := by
  have kinds := congrArg (List.filterMap heartAt?) (map_kind_eventsAfter total ds)
  rwa [List.filterMap_map, List.filterMap_map] at kinds

omit [Scalar α] in
theorem count_true_heartsOf (total : Nat) (ds : List (Draft α)) :
    (heartsOf ds).count true = (eventsAfter total ds).countP (·.kind = awakened) := by
  rw [← hearts_eventsAfter total, List.count, List.countP_filterMap]
  refine List.countP_congr fun e _ => ?_
  unfold heartAt?
  split
  · simp [*]
  · split <;> simp [*]

theorem eventsOf_concat (c : Config α) (ops : List (Operation α)) (op : Operation α) :
    eventsOf c (ops ++ [op]) = eventsOf c ops ++ eventsAfter (eventsOf c ops).length
      (drafts (op.perform c (after (Operation.perform c) ops .fresh)).notes) := by
  simp only [eventsOf, told_append, drafts_append, eventsAfter_append, length_eventsAfter,
    told_cons,
    told_nil, List.append_nil, Nat.zero_add]

theorem low_between_warnings {ops : List (Operation α)} (numbered : ∀ op ∈ ops, op.Numbered)
    {e e' : Event α} (first : e ∈ eventsOf c ops) (last : e' ∈ eventsOf c ops)
    (warns : e.kind = warning) (again : e'.kind = warning) (earlier : e.seq < e'.seq) :
    ∃ before rest, ops = before ++ rest ∧ e ∈ eventsOf c before ∧ e' ∉ eventsOf c before ∧
      (after (Operation.perform c) before .fresh).counter ≤ c.warningLevel := by
  -- From the end: the last operation gives one warning at most, so the other is an earlier one.
  induction ops using List.reverseRecOn with
  | nil => cases first
  | append_singleton ops op ih =>
      have bound {d : Event α} (member : d ∈ eventsOf c ops) : d.seq ≤ (eventsOf c ops).length := by
        have bounds := seq_of_mem_eventsAfter member
        rw [← length_eventsAfter 0] at bounds
        exact Nat.zero_add (eventsOf c ops).length ▸ bounds.2
      rw [eventsOf_concat, List.mem_append] at first last
      cases last with
      | inl before =>
        have early : e ∈ eventsOf c ops := by
          refine first.resolve_right fun late => ?_
          have later := (seq_of_mem_eventsAfter late).1
          have sooner := bound before
          omega
        obtain ⟨xs, rest, split, told, untold, low⟩ :=
          ih (fun op member => numbered op (List.mem_append_left _ member)) early before
        exact ⟨xs, rest ++ [op], by rw [split, List.append_assoc], told, untold, low⟩
      | inr new =>
        obtain ⟨once, low⟩ := low_of_warning (numbered op (by simp)) new again
        have early : e ∈ eventsOf c ops := by
          refine first.resolve_right fun late => ?_
          rw [eq_of_countP_kind_eq_one once late new warns again] at earlier
          exact Nat.lt_irrefl _ earlier
        refine ⟨ops, [op], rfl, early, fun sooner => ?_, low⟩
        have later := (seq_of_mem_eventsAfter new).1
        have sooner := bound sooner
        omega

/-! ## The log and the state -/

/-- What a chronicle has heard of a run fits the state that the run has left. -/
structure LogMatches (c : Config α) (ops : List (Operation α)) (heard : Chronicle α) : Prop where
  total : heard.log.total = (eventsOf c ops).length
  kept : heard.log.kept = (eventsOf c ops).drop ((eventsOf c ops).length - heard.capacity.toNat)
  alternating : ((eventsOf c ops).filterMap fun e => heartAt? e.kind).IsChain (· ≠ ·)
  first : ((eventsOf c ops).filterMap fun e => heartAt? e.kind).head? ≠ some false
  awake_iff : (after (Operation.perform c) ops .fresh).heart = true ↔
    ((eventsOf c ops).filterMap fun e => heartAt? e.kind).getLast? = some true
  counted : heard.tally activations =
    Scalar.counted ((eventsOf c ops).countP (·.kind = awakened))
  warnings : ∀ e ∈ eventsOf c ops, ∀ e' ∈ eventsOf c ops,
    e.kind = warning → e'.kind = warning → e.seq < e'.seq →
      ∃ before rest, ops = before ++ rest ∧ e ∈ eventsOf c before ∧ e' ∉ eventsOf c before ∧
        (after (Operation.perform c) before .fresh).counter ≤ c.warningLevel
  gauged : ∀ before op rest, ops = before ++ op :: rest → op.isTick = true →
    let s := after (Operation.perform c) before .fresh
    let s' := after (Operation.perform c) ops .fresh
    op.perform c s = .fail .overflow s ∨
      (heard.gauges.get? counterGauge = some (.num s'.counter) ∧
        heard.gauges.get? throttleGauge = some (.num s'.throttle))

/-- The heart sleeps at first, so it is awake only if the last that was told of it says so. -/
theorem eq_true_iff_getLast? {heart : Bool} {marks : List Bool}
    (last : (false :: marks).getLast? = some heart) :
    heart = true ↔ marks.getLast? = some true := by
  cases marks with
  | nil =>
      rw [List.getLast?_singleton, Option.some.injEq] at last
      simp [← last]
  | cons mark marks =>
      rw [List.getLast?_cons_cons] at last
      rw [last, Option.some.injEq]

theorem logMatches_hearAll {ops : List (Operation α)} (numbered : ∀ op ∈ ops, op.Numbered)
    {opened : Chronicle α} (enabled : opened.enabled = true) (positive : 0 < opened.capacity)
    (empty : opened.log = {}) (uncounted : opened.counters = []) :
    LogMatches c ops (opened.hearAll (told (Operation.perform c) ops .fresh)).2 := by
  have unranked := unranked_told (Operation.unranked c) ops .fresh
  have heard := Chronicle.heard_hearAll unranked opened
  obtain ⟨total, kept⟩ := heard.ring enabled positive empty
  obtain ⟨chain, last⟩ := isChain_heartsOf_told (c := c) numbered .fresh
  have hearts := hearts_eventsAfter 0 (drafts (told (Operation.perform c) ops .fresh))
  have asleep : (State.fresh : State α).heart = false := rfl
  rw [asleep] at chain last
  refine {
    total := total
    kept := kept
    alternating := ?_
    first := ?_
    awake_iff := ?_
    counted := ?_
    warnings := fun e first e' last => low_between_warnings numbered first last
    gauged := ?_ }
  · rw [eventsOf, hearts]
    exact chain.tail
  · rw [eventsOf, hearts]
    intro head
    obtain ⟨rest, told⟩ := List.head?_eq_some_iff.mp head
    rw [told] at chain
    exact (List.isChain_cons_cons.mp chain).1 rfl
  · rw [eventsOf, hearts]
    exact eq_true_iff_getLast? last
  · rw [heard.tally, countP_told numbered, count_true_heartsOf 0,
      Chronicle.tally, uncounted]
    rfl
  · intro before op rest split tick
    rcases fails_or_shown (c := c) numbered split tick with failed | ⟨counter, throttle⟩
    · exact .inl failed
    · right
      rw [heard.gauge, heard.gauge, counter, throttle]
      exact ⟨rfl, rfl⟩

theorem log_matches (c : Config α) {config : Chronicle.Config α} {opened : Chronicle α}
    (opens : Chronicle.new config = .ok opened) (enabled : config.enabled.holds = true)
    (ops : List (Operation α)) (numbered : ∀ op ∈ ops, op.Numbered) :
    (∃ heard, (⟨.fresh, some opened⟩ : Observed (State α) α).after (Operation.perform c) ops =
        ⟨after (Operation.perform c) ops .fresh, some heard⟩ ∧
        heard.capacity = opened.capacity ∧ LogMatches c ops heard) ∧
      (∀ n : Nat, (Scalar.counted n : Rat) = n) ∧
      ∀ n : Nat, n ≤ 2 ^ 53 → Scalar.exact (Scalar.counted n : Amount) = .finite n := by
  have unranked := Operation.unranked c
  refine ⟨⟨_, Observed.after_of_unranked unranked ops .fresh opened, ?_, ?_⟩,
    Scalar.counted_rat, fun n small => Amount.exact_counted small⟩
  · exact Chronicle.capacity_hearAll (unranked_told unranked ops .fresh) opened
  · obtain ⟨capacity, -, made⟩ := Answer.bind_eq_ok.mp opens
    cases made
    exact logMatches_hearAll numbered enabled (by simp) rfl rfl

/-- The heart awakens twice, is cleared once and cleansed once; the log has room for the last two
of the six events. -/
theorem log_matches_twice :
    let c : Config Rat :=
      { growth := 2
        decay := 1
        heartThreshold := 3
        clearThreshold := 2
        throttle := 0.5
        rebellionTrigger := 0.35
        traumaTrigger := 0.4
        warningLevel := 2 }
    let config : Chronicle.Config Rat :=
      { enabled := .bool true, capacity := .int 2, recentLimit := .int 1, boardSize := .int 1 }
    let opened : Chronicle Rat :=
      { enabled := true, capacity := 2, recentLimit := .int 1, boardSize := .int 1 }
    let grow (n : Int) : Operation Rat := .tick 0.9 0.9 (.int n)
    let calm (n : Int) : Operation Rat := .tick 0.1 0.9 (.int n)
    let ops := [.cleanse, grow 1, grow 2, calm 3, calm 4, grow 5, .cleanse]
    Chronicle.new config = .ok opened ∧ config.enabled.holds = true ∧
      (∀ op ∈ ops, op.Numbered) ∧
      ∃ heard, LogMatches c ops heard ∧ heard.log.total = 6 ∧ heard.tally activations = 2 ∧
        heard.log.kept.map (·.kind) = [awakened, emptied] := by
  intro c config opened grow calm ops
  have opens : Chronicle.new config = .ok opened := rfl
  have enabled : config.enabled.holds = true := rfl
  have numbered : ∀ op ∈ ops, op.Numbered := by
    simp only [ops, List.forall_mem_cons, List.not_mem_nil, false_imp_iff, implies_true, and_true]
    exact ⟨trivial, ⟨1, rfl⟩, ⟨2, rfl⟩, ⟨3, rfl⟩, ⟨4, rfl⟩, ⟨5, rfl⟩, trivial⟩
  obtain ⟨⟨heard, -, capacity, matched⟩, whole, -⟩ := log_matches c opens enabled ops numbered
  have room : heard.capacity = 2 := capacity
  have six : (eventsOf c ops).length = 6 := by decide +kernel
  have two : (eventsOf c ops).countP (·.kind = awakened) = 2 := by decide +kernel
  refine ⟨opens, enabled, numbered, heard, matched, matched.total.trans six, ?_, ?_⟩
  · rw [matched.counted, two, whole]
    rfl
  · rw [matched.kept, six, room]
    decide +kernel

end Colony.Plague

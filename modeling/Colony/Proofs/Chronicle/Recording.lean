import Colony.Proofs.Answer
import Colony.Proofs.Chronicle.Telling
import Colony.Scalar.Amount

/-!
# What the log keeps

Events are numbered as they are recorded, and clearing the log does not start
the numbers again.  So the log always ends with the event that was recorded
last, unless it was cleared since, and what it holds follows without a gap.
-/

namespace Colony.Chronicle

variable {α : Type}

/-! ## What a log holds -/

/-- What a chronicle has recorded, and how many of these events since its log was cleared. -/
structure Retains (size : Int) (events : List (Event α)) (since : Nat) (c : Chronicle α) :
    Prop where
  enabled : c.enabled = true
  capacity : c.capacity = size
  numbered : events.map (·.seq) = List.range' 1 events.length
  since_le : since ≤ events.length
  total : c.log.total = events.length
  kept : c.log.kept = events.drop (events.length - min size.toNat since)

namespace Retains

variable {size : Int} {events : List (Event α)} {since : Nat} {c : Chronicle α}

theorem push (positive : 0 < size) (h : Retains size events since c) {event : Event α}
    (next : event.seq = c.log.total + 1) :
    Retains size (events ++ [event]) (since + 1)
      { c with log := c.log.push c.capacity event } where
  enabled := h.enabled
  capacity := h.capacity
  numbered := by
    have seq : event.seq = 1 + events.length := by rw [next, h.total, Nat.add_comm]
    rw [List.map_append, h.numbered, List.length_append, List.map_singleton, seq,
      List.length_singleton, List.range'_1_concat]
  since_le := by
    rw [List.length_append]
    exact Nat.succ_le_succ h.since_le
  total := by rw [Ring.total_push, h.total, List.length_append, List.length_singleton]
  kept := by
    have since_le := h.since_le
    have within : events.length - min size.toNat since ≤ events.length := Nat.sub_le _ _
    have pushed : (c.log.push c.capacity event).kept =
        (c.log.kept ++ [event]).drop ((c.log.kept ++ [event]).length - size.toNat) := by
      rw [h.capacity]
      exact Ring.kept_cut positive _
    rw [pushed, h.kept, ← List.drop_append_of_le_length within, List.drop_drop]
    congr 1
    simp only [List.length_drop, List.length_append, List.length_singleton]
    omega

theorem clear (h : Retains size events since c) : Retains size events 0 c.clear where
  enabled := h.enabled
  capacity := h.capacity
  numbered := h.numbered
  since_le := Nat.zero_le _
  total := h.total
  kept := by simp [Chronicle.clear]

theorem of_log (h : Retains size events since c) {next : Chronicle α}
    (enabled : next.enabled = c.enabled) (capacity : next.capacity = c.capacity)
    (log : next.log = c.log) : Retains size events since next where
  enabled := enabled.trans h.enabled
  capacity := capacity.trans h.capacity
  numbered := h.numbered
  since_le := h.since_le
  total := by rw [log, h.total]
  kept := by rw [log, h.kept]

end Retains

/-! ## Operations from outside -/

/-- What may be asked of a chronicle; queries are left out, which only read it. -/
inductive Operation (α : Type) where
  | record (report : Report α)
  | clear
  | count (name : String) (n : α)
  | gauge (name : String) (value : Value α)
  | rank (board : String) (bid : Bid α)

inductive Reply (α : Type) where
  | recorded (event : Option (Event α))
  | cleared
  | counted (value : α)
  | done

def recordedBy : Answer α (Reply α) → Option (Option (Event α))
  | .ok (.recorded event) => some event
  | _ => none

/-- What the calls to record gave back, those that failed left out. -/
def returned (answers : List (Answer α (Reply α))) : List (Option (Event α)) :=
  answers.filterMap recordedBy

/-- How many events have been recorded since the log was cleared, after one more answer. -/
def sinceAfter (since : Nat) : Answer α (Reply α) → Nat
  | .ok (.recorded (some _)) => since + 1
  | .ok .cleared => 0
  | _ => since

def sinceClear (answers : List (Answer α (Reply α))) : Nat := answers.foldl sinceAfter 0

variable [Scalar α]

def Operation.perform : Operation α → Chronicle α → Outcome (Chronicle α) α (Reply α)
  | .record report, c => (Outcome.ofAnswer c (c.recordReport report)).map .recorded
  | .clear, c => .done .cleared c.clear
  | .count name n, c =>
      { answer := (c.countBy name n).1.map .counted
        state := (c.countBy name n).2 }
  | .gauge name value, c => .done .done (c.gauge name value)
  | .rank board bid, c =>
      { answer := (c.rankBid board bid).1.map fun _ => .done
        state := (c.rankBid board bid).2 }

/-- What each operation of a run answered. -/
def replies (ops : List (Operation α)) (c : Chronicle α) : List (Answer α (Reply α)) :=
  (transcript Operation.perform ops c).map (·.1)

theorem replies_cons (op : Operation α) (ops : List (Operation α)) (c : Chronicle α) :
    replies (op :: ops) c = (op.perform c).answer :: replies ops (op.perform c).state := rfl

/-! ## One operation -/

/-- Where no events are kept, a report is answered with nothing; else it fails, or the next event
goes into the log. -/
theorem recordReport_cases (report : Report α) (c : Chronicle α) :
    (c.enabled = false ∧ c.recordReport report = .ok (none, c)) ∨
    (c.enabled = true ∧ ∃ failure, c.recordReport report = .error failure) ∨
    (c.enabled = true ∧ ∃ event : Event α, event.seq = c.log.total + 1 ∧
      c.recordReport report = .ok (some event, { c with log := c.log.push c.capacity event })) := by
  by_cases on : c.enabled = true
  · refine .inr ?_
    cases answer : c.recordReport report with
    | error failure => exact .inl ⟨on, failure, rfl⟩
    | ok pair =>
        rw [recordReport, if_pos on] at answer
        obtain ⟨severity, -, answer⟩ := Answer.bind_eq_ok.mp answer
        obtain ⟨tick, -, answer⟩ := Answer.bind_eq_ok.mp answer
        simp only [record, if_pos on] at answer
        cases answer
        exact .inr ⟨on, _, rfl, rfl⟩
  · refine .inl ⟨by simpa using on, ?_⟩
    rw [recordReport, if_neg on]

/-- A count fails and changes nothing, or counts. -/
theorem countBy_cases (name : String) (n : α) (c : Chronicle α) :
    (∃ failure, c.countBy name n = (.error failure, c)) ∨
      ∃ x, c.countBy name n = (.ok (c.count name x).1, (c.count name x).2) := by
  unfold countBy
  split
  · exact .inr ⟨_, rfl⟩
  · exact .inl ⟨_, rfl⟩

theorem unchanged_of_error {report : Report α} {c : Chronicle α} {failure : Failure α}
    (failed : ((Operation.record report).perform c).answer = .error failure) :
    ((Operation.record report).perform c).state = c := by
  cases answer : c.recordReport report with
  | error f =>
      rw [Operation.perform, answer]
      rfl
  | ok pair =>
      rw [Operation.perform, answer] at failed
      cases failed

/-- An operation that fails leaves the log as it was. -/
theorem log_of_error {op : Operation α} {c : Chronicle α} {failure : Failure α}
    (failed : (op.perform c).answer = .error failure) : (op.perform c).state.log = c.log := by
  cases op with
  | record report => rw [unchanged_of_error failed]
  | clear => cases failed
  | count name n =>
      rcases countBy_cases name n c with ⟨failure, kept⟩ | ⟨x, counted⟩
      · rw [Operation.perform, kept]
      · rw [Operation.perform, counted]
        rfl
  | gauge name value => cases failed
  | rank board bid => rfl

theorem Retains.perform {size : Int} {events : List (Event α)} {since : Nat} {c : Chronicle α}
    (positive : 0 < size) (h : Retains size events since c) (op : Operation α) :
    ∃ more : List (Event α), returned [(op.perform c).answer] = more.map some ∧
      Retains size (events ++ more) (sinceAfter since (op.perform c).answer)
        (op.perform c).state := by
  cases op with
  | record report =>
      rcases recordReport_cases report c with ⟨off, -⟩ | ⟨-, failure, kept⟩ | ⟨-, event, next, kept⟩
      · rw [h.enabled] at off
        cases off
      · refine ⟨[], ?_, ?_⟩
        · rw [Operation.perform, kept]
          rfl
        · rw [Operation.perform, kept, List.append_nil]
          exact h
      · refine ⟨[event], ?_, ?_⟩
        · rw [Operation.perform, kept]
          rfl
        · rw [Operation.perform, kept]
          exact h.push positive next
  | clear =>
      refine ⟨[], rfl, ?_⟩
      rw [List.append_nil]
      exact h.clear
  | count name n =>
      refine ⟨[], ?_⟩
      rcases countBy_cases name n c with ⟨failure, kept⟩ | ⟨x, counted⟩
      · rw [Operation.perform, kept, List.append_nil]
        exact ⟨rfl, h⟩
      · rw [Operation.perform, counted, List.append_nil]
        exact ⟨rfl, h.of_log rfl rfl rfl⟩
  | gauge name value =>
      refine ⟨[], rfl, ?_⟩
      rw [List.append_nil]
      exact h.of_log rfl rfl rfl
  | rank board bid =>
      -- It may fail where the size of the boards cannot be read, and records nothing either way.
      refine ⟨[], ?_, ?_⟩
      · simp only [Operation.perform]
        cases (c.rankBid board bid).1 <;> rfl
      · have untouched :
            sinceAfter since ((Operation.rank board bid).perform c).answer = since := by
          simp only [Operation.perform]
          cases (c.rankBid board bid).1 <;> rfl
        rw [untouched, List.append_nil]
        exact h.of_log rfl rfl rfl

theorem silent_perform {c : Chronicle α} (off : c.enabled = false) (empty : c.log = {})
    (op : Operation α) :
    (op.perform c).state.enabled = false ∧ (op.perform c).state.log = {} := by
  cases op with
  | record report =>
      rcases recordReport_cases report c with ⟨-, kept⟩ | ⟨on, -⟩ | ⟨on, -⟩
      · rw [Operation.perform, kept]
        exact ⟨off, empty⟩
      · rw [off] at on
        cases on
      · rw [off] at on
        cases on
  | clear =>
      refine ⟨off, ?_⟩
      simp [Operation.perform, Chronicle.clear, empty]
  | count name n =>
      rcases countBy_cases name n c with ⟨failure, kept⟩ | ⟨x, counted⟩
      · rw [Operation.perform, kept]
        exact ⟨off, empty⟩
      · rw [Operation.perform, counted]
        exact ⟨off, empty⟩
  | gauge name value => exact ⟨off, empty⟩
  | rank board bid => exact ⟨off, empty⟩

/-! ## Runs -/

theorem Retains.after {size : Int} {events : List (Event α)} {since : Nat} {c : Chronicle α}
    (positive : 0 < size) (h : Retains size events since c) (ops : List (Operation α)) :
    ∃ more : List (Event α), returned (replies ops c) = more.map some ∧
      Retains size (events ++ more) ((replies ops c).foldl sinceAfter since)
        (Colony.after Operation.perform ops c) := by
  induction ops generalizing events since c with
  | nil =>
      refine ⟨[], rfl, ?_⟩
      rw [List.append_nil]
      exact h
  | cons op ops ih =>
      obtain ⟨first, given, held⟩ := h.perform positive op
      obtain ⟨rest, given', held'⟩ := ih held
      refine ⟨first ++ rest, ?_, ?_⟩
      · rw [replies_cons, ← List.singleton_append, returned, List.filterMap_append,
          List.map_append]
        exact congrArg₂ (· ++ ·) given given'
      · rw [List.append_assoc] at held'
        exact held'

/-- What has become of the log of a chronicle that gave these answers, and these events. -/
structure LogKept (capacity : Int) (answers : List (Answer α (Reply α)))
    (events : List (Event α)) (log : Ring (Event α)) : Prop where
  /-- Every call to record that did not fail gave back an event. -/
  returned : returned answers = events.map some
  numbered : events.map (·.seq) = List.range' 1 events.length
  total : log.total = events.length
  newest : log.kept =
    events.drop (events.length - min (max 1 capacity).toNat (sinceClear answers))
  /-- The numbers in the log follow one another, up to the last that was given. -/
  consecutive : log.kept.map (·.seq) =
    List.range' (log.total + 1 - log.kept.length) log.kept.length

omit [Scalar α] in
theorem Retains.logKept {capacity : Int} {answers : List (Answer α (Reply α))}
    {events : List (Event α)} {c : Chronicle α}
    (h : Retains (max 1 capacity) events (sinceClear answers) c)
    (given : Chronicle.returned answers = events.map some) :
    LogKept capacity answers events c.log where
  returned := given
  numbered := h.numbered
  total := h.total
  newest := h.kept
  consecutive := by
    have since_le := h.since_le
    rw [h.kept, List.map_drop, h.numbered, List.drop_range', h.total, List.length_drop]
    congr 1
    omega

theorem exists_new {config : Config α} {capacity : Int}
    (read : config.capacity.toInt = .ok capacity) :
    ∃ c, Chronicle.new config = .ok c ∧ c.enabled = config.enabled.holds ∧
      c.capacity = max 1 capacity ∧ c.log = {} := by
  rw [Chronicle.new, read]
  exact ⟨_, rfl, rfl, rfl, rfl⟩

/-- A log loses, doubles and reorders nothing that it should keep, whatever its capacity; where
events are not kept, none is numbered; and who fails to record changes nothing. -/
theorem log_after_run {config : Config α} {capacity : Int}
    (read : config.capacity.toInt = .ok capacity) :
    ∃ start, Chronicle.new config = .ok start ∧ ∀ ops : List (Operation α),
      let c := after Operation.perform ops start
      (config.enabled.holds = true →
        ∃ events, LogKept capacity (replies ops start) events c.log) ∧
      (config.enabled.holds = false → c.log = {} ∧
        ∀ report, (Operation.record report).perform c = .done (.recorded none) c) ∧
      ∀ op : Operation α, ∀ failure, (op.perform c).answer = .error failure →
        (op.perform c).state.log = c.log ∧
          ∀ report, op = .record report → (op.perform c).state = c := by
  obtain ⟨start, opened, enabled, capacity', empty⟩ := exists_new read
  refine ⟨start, opened, fun ops => ⟨fun on => ?_, fun off => ?_, ?_⟩⟩
  · have positive : 0 < max 1 capacity := by omega
    have none : Retains (max 1 capacity) [] 0 start :=
      ⟨enabled.trans on, capacity', rfl, Nat.le_refl 0, by rw [empty]; rfl, by simp [empty]⟩
    obtain ⟨events, given, held⟩ := none.after positive ops
    exact ⟨events, held.logKept given⟩
  · have silent := after_induction (P := fun c : Chronicle α => c.enabled = false ∧ c.log = {})
      (fun op c h => silent_perform h.1 h.2 op) ops ⟨enabled.trans off, empty⟩
    refine ⟨silent.2, fun report => ?_⟩
    rcases recordReport_cases report (after Operation.perform ops start) with
      ⟨-, kept⟩ | ⟨on, -⟩ | ⟨on, -⟩
    · rw [Operation.perform, kept]
      rfl
    · rw [silent.1] at on
      cases on
    · rw [silent.1] at on
      cases on
  · intro op failure failed
    refine ⟨log_of_error failed, ?_⟩
    rintro report rfl
    exact unchanged_of_error failed

/-- Room for two: the first of four events is dropped, the next two are cleared away; a report of a
severity that does not exist takes no number. -/
theorem log_after_run_cleared :
    let config : Config Amount := ⟨.bool true, .int 2, .int 50, .int 10⟩
    let ops : List (Operation Amount) :=
      [.record ⟨"A", none, none, none, []⟩, .record ⟨"B", none, none, none, []⟩,
       .record ⟨"X", some (.int 9), none, none, []⟩, .record ⟨"C", none, none, none, []⟩,
       .clear, .record ⟨"D", none, none, none, []⟩]
    config.capacity.toInt = .ok 2 ∧ config.enabled.holds = true ∧
    ∃ start, Chronicle.new config = .ok start ∧
      (∃ events, LogKept 2 (replies ops start) events (after Operation.perform ops start).log) ∧
      (after Operation.perform (ops.take 4) start).log.kept.map (·.kind) = ["B", "C"] ∧
      (after Operation.perform ops start).log.kept.map (fun e => (e.seq, e.kind)) = [(4, "D")] := by
  intro config ops
  have read : config.capacity.toInt = .ok 2 := rfl
  have on : config.enabled.holds = true := rfl
  obtain ⟨start, opened, after⟩ := log_after_run read
  refine ⟨read, on, start, opened, (after ops).1 on, ?_⟩
  cases opened
  decide +kernel

end Colony.Chronicle

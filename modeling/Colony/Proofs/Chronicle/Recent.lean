import Mathlib.Algebra.Order.Ring.Int
import Mathlib.Algebra.Order.Ring.Unbundled.Rat
import Mathlib.Data.List.Infix
import Colony.Proofs.Chronicle.Recording

/-!
# Recent events

A query goes through the log from its end, leaves out what its filters reject
and stops when it has found enough.  The log never holds more events than its
capacity, so the cut of a limit to the capacity takes nothing away: the answer
is the beginning of all that passes, newest first, as long as was asked for.
-/

namespace Colony

variable {α : Type}

/-! ## Whole numbers as limits -/

/-- The whole number that a value is; a truth value is 1 or 0. -/
def Value.whole? : Value α → Option Int
  | .int n => some n
  | .bool b => some (if b then 1 else 0)
  | _ => none

namespace Value

variable [Scalar α] {v : Value α} {n : Int}

theorem toInt_of_whole (whole : v.whole? = some n) : v.toInt = .ok n := by
  cases v with
  | int m =>
      cases whole
      rfl
  | bool b =>
      cases whole
      rfl
  | _ => cases whole

theorem number?_of_whole (whole : v.whole? = some n) : v.number? = some (.finite n) := by
  cases v with
  | int m =>
      cases whole
      rfl
  | bool b =>
      cases whole
      cases b <;> rfl
  | _ => cases whole

theorem isAtMost_of_whole (whole : v.whole? = some n) (m : Int) :
    v.isAtMost m = .ok (decide (n ≤ m)) := by
  simp only [isAtMost, order, number?_of_whole whole, Exact.order, Rat.intCast_lt_intCast,
    Except.map]
  rcases lt_trichotomy n m with less | rfl | greater
  · simp [less, less.le]
  · simp
  · simp [greater, greater.not_gt, greater.not_ge]

end Value

/-! ## Queries -/

namespace Query

/-- How many events are asked for, at least one where the fallback is. -/
def wanted (fallback : Int) (q : Query α) : Int :=
  match q.limit.bind Value.whole? with
  | some n => if 1 ≤ n then n else fallback
  | none => fallback

theorem wanted_pos {fallback : Int} (positive : 1 ≤ fallback) (q : Query α) :
    1 ≤ q.wanted fallback := by
  unfold wanted
  split
  · split <;> assumption
  · exact positive

variable [Scalar α]

/-- A query with a whole limit, or with none, and with filters that can be compared with. -/
structure Proper (q : Query α) : Prop where
  limit : ∀ v, q.limit = some v → ∃ n, v.whole? = some n
  severity : ∀ least, q.minSeverity = some least → ∃ x, least.number? = some x
  kinds : ∀ kinds, q.kinds = some kinds → ∀ kind ∈ kinds, kind.canBeKey = true

/-- An event is of the subject, of no less than the severity and of one of the kinds, as far as
these are given. -/
structure Passes (q : Query α) (e : Event α) : Prop where
  subject : ∀ id, q.npcId = some id → id ≠ "" → e.npcId = .text id
  severity : ∀ least x, q.minSeverity = some least → least.number? = some x →
    (Exact.finite e.severity.level).before x = false
  kind : ∀ kinds, q.kinds = some kinds → .text e.kind ∈ kinds

theorem beq_text_iff {v : Value α} {s : String} : (v == .text s) = true ↔ v = .text s := by
  cases v <;> simp [BEq.beq, Value.sameKey, Value.sameNumber, Value.number?]

theorem text_beq_iff {v : Value α} {s : String} : (.text s == v) = true ↔ v = .text s := by
  cases v <;> simp [BEq.beq, Value.sameKey, Value.sameNumber, Value.number?, eq_comm]

theorem contains_text_iff {kinds : List (Value α)} {s : String} :
    kinds.contains (.text s) = true ↔ .text s ∈ kinds := by
  rw [List.contains_iff_exists_mem_beq]
  constructor
  · rintro ⟨kind, member, same⟩
    exact text_beq_iff.mp same ▸ member
  · exact fun member => ⟨_, member, text_beq_iff.mpr rfl⟩

theorem order_eq_gt (level : Nat) (x : Exact) :
    (Exact.order level x == some .gt) = (Exact.finite level).before x := by
  cases x with
  | finite q =>
      simp only [Exact.order, Exact.before, Rat.intCast_natCast]
      rcases lt_trichotomy q (level : Rat) with less | rfl | more
      · simp [less, less.le]
      · simp
      · simp [more, more.not_gt]
  | infinite negative => cases negative <;> rfl
  | undefined => rfl

theorem not_exceeds_iff {least : Value α} {level : Nat} :
    (!(least.exceeds level matches .ok true)) = true ↔
      ∀ x, least.number? = some x → (Exact.finite level).before x = false := by
  cases number : least.number? with
  | none => simp [Value.exceeds, Value.order, number, Except.map]
  | some x =>
      rw [Value.exceeds, Value.order, number, Except.map, order_eq_gt]
      cases before : (Exact.finite level).before x <;> simp [before]

theorem selects_iff {q : Query α} {e : Event α} : q.selects e = true ↔ q.Passes e := by
  simp only [selects, Bool.and_eq_true, Option.all_eq_true, Bool.or_eq_true, beq_iff_eq,
    beq_text_iff, contains_text_iff]
  constructor
  · rintro ⟨⟨subject, severity⟩, kind⟩
    exact ⟨fun id given named => (subject id given).resolve_left named,
      fun least x given => not_exceeds_iff.mp (severity least given) x, kind⟩
  · rintro ⟨subject, severity, kind⟩
    exact ⟨⟨fun id given => or_iff_not_imp_left.mpr (subject id given),
      fun least given => not_exceeds_iff.mpr fun x => severity least x given⟩, kind⟩

instance (q : Query α) : DecidablePred q.Passes := fun _ => decidable_of_iff _ selects_iff

/-- All that passes, newest first. -/
def matching (q : Query α) (c : Chronicle α) : List (Event α) :=
  c.log.kept.reverse.filter fun e => q.Passes e

/-- The limit has no part in what passes. -/
theorem matching_of_limit (q : Query α) (limit : Option (Value α)) (c : Chronicle α) :
    { q with limit := limit }.matching c = q.matching c := by
  refine List.filter_congr fun e _ => decide_eq_decide.mpr ?_
  exact ⟨fun h => ⟨h.subject, h.severity, h.kind⟩, fun h => ⟨h.subject, h.severity, h.kind⟩⟩

theorem pick_eq (q : Query α) (limit : Int) (events : List (Event α)) :
    q.pick limit events = (events.filter fun e => q.Passes e).take (max 1 limit).toNat := by
  induction events generalizing limit with
  | nil => simp [pick]
  | cons e rest ih =>
      by_cases passes : q.Passes e
      · rw [pick, if_pos (selects_iff.mpr passes), List.filter_cons_of_pos (by simpa using passes)]
        split
        · rename_i last
          have one : (max 1 limit).toNat = 1 := by omega
          rw [one, List.take_succ_cons, List.take_zero]
        · rename_i more
          have next : (max 1 limit).toNat = (max 1 (limit - 1)).toNat + 1 := by omega
          rw [next, List.take_succ_cons, ih]
      · rw [pick, if_neg (mt selects_iff.mp passes),
          List.filter_cons_of_neg (by simpa using passes), ih]

theorem checkKinds_of_proper {q : Query α} (proper : q.Proper) : q.checkKinds = .ok () := by
  have keys : q.kinds.all (·.all (·.canBeKey)) = true := by
    rw [Option.all_eq_true]
    exact fun kinds given => List.all_eq_true.mpr (proper.kinds kinds given)
  rw [checkKinds, if_pos keys]

/-- Every filter of the wider query stands in the narrower one too, which may have more. -/
structure Narrows (narrow wide : Query α) : Prop where
  subject : wide.npcId = none ∨ wide.npcId = some "" ∨ narrow.npcId = wide.npcId
  severity : wide.minSeverity = none ∨ narrow.minSeverity = wide.minSeverity
  kinds : wide.kinds = none ∨ narrow.kinds = wide.kinds

theorem Narrows.passes {narrow wide : Query α} (h : narrow.Narrows wide) {e : Event α}
    (passes : narrow.Passes e) : wide.Passes e where
  subject id given named := by
    rcases h.subject with none | empty | same
    · cases none.symm.trans given
    · exact absurd (Option.some.inj (given.symm.trans empty)) named
    · exact passes.subject id (same.trans given) named
  severity least x given := by
    rcases h.severity with none | same
    · cases none.symm.trans given
    · exact passes.severity least x (same.trans given)
  kind kinds given := by
    rcases h.kinds with none | same
    · cases none.symm.trans given
    · exact passes.kind kinds (same.trans given)

theorem Narrows.matching_sublist {narrow wide : Query α} (h : narrow.Narrows wide)
    (c : Chronicle α) : (narrow.matching c).Sublist (wide.matching c) :=
  List.monotone_filter_right _ fun _ passes => by simpa using h.passes (by simpa using passes)

end Query

/-! ## What comes to a chronicle -/

namespace Chronicle

/-- What is asked of a chronicle from outside, and what an engine notes in it. -/
inductive Arrival (α : Type) where
  | asked (op : Operation α)
  | noted (note : Note α)

/-- A log in the order of its numbers, within its capacity, under a limit for queries without. -/
structure Ordered (fallback : Value α) (c : Chronicle α) : Prop where
  positive : 1 ≤ c.capacity
  limit : c.recentLimit = fallback
  fits : c.log.kept.length ≤ c.capacity.toNat
  ascending : c.log.kept.Pairwise fun e f => e.seq < f.seq
  counted : ∀ e ∈ c.log.kept, e.seq ≤ c.log.total

namespace Ordered

variable {fallback : Value α} {c : Chronicle α}

theorem of_log (h : Ordered fallback c) {next : Chronicle α} (capacity : next.capacity = c.capacity)
    (limit : next.recentLimit = c.recentLimit) (log : next.log = c.log) :
    Ordered fallback next where
  positive := capacity ▸ h.positive
  limit := limit.trans h.limit
  fits := by
    rw [capacity, log]
    exact h.fits
  ascending := log ▸ h.ascending
  counted := log ▸ h.counted

theorem push (h : Ordered fallback c) {event : Event α} (next : event.seq = c.log.total + 1) :
    Ordered fallback { c with log := c.log.push c.capacity event } := by
  have kept : (c.log.push c.capacity event).kept =
      (c.log.kept ++ [event]).drop ((c.log.kept ++ [event]).length - c.capacity.toNat) :=
    Ring.kept_cut h.positive _
  have total := Ring.total_push c.capacity event c.log
  have ascending : (c.log.kept ++ [event]).Pairwise fun e f => e.seq < f.seq := by
    refine List.pairwise_append.mpr ⟨h.ascending, List.pairwise_singleton _ _, ?_⟩
    intro e member f last
    rw [List.mem_singleton.mp last, next]
    exact Nat.lt_succ_of_le (h.counted e member)
  refine ⟨h.positive, h.limit, ?_, ?_, ?_⟩
  · simp only [kept, List.length_drop]
    omega
  · rw [kept]
    exact ascending.sublist (List.drop_sublist _ _)
  · intro e member
    rw [kept] at member
    rw [total]
    rcases List.mem_append.mp (List.mem_of_mem_drop member) with earlier | last
    · exact Nat.le_succ_of_le (h.counted e earlier)
    · rw [List.mem_singleton.mp last, next]

theorem clear (h : Ordered fallback c) : Ordered fallback c.clear where
  positive := h.positive
  limit := h.limit
  fits := Nat.zero_le _
  ascending := .nil
  counted := nofun

theorem record (h : Ordered fallback c) (draft : Draft α) :
    Ordered fallback (c.record draft).2 := by
  unfold Chronicle.record
  split
  · exact h.push rfl
  · exact h

end Ordered

variable [Scalar α]

def Arrival.perform : Arrival α → Chronicle α → Outcome (Chronicle α) α Unit
  | .asked op, c => (op.perform c).map fun _ => ()
  | .noted note, c => { answer := (c.hear note).1, state := (c.hear note).2 }

namespace Ordered

variable {fallback : Value α} {c : Chronicle α}

theorem operation (h : Ordered fallback c) (op : Operation α) :
    Ordered fallback (op.perform c).state := by
  cases op with
  | record report =>
      rcases recordReport_cases report c with ⟨-, kept⟩ | ⟨-, _, kept⟩ | ⟨-, event, next, kept⟩
      · rw [Operation.perform, kept]
        exact h
      · rw [Operation.perform, kept]
        exact h
      · rw [Operation.perform, kept]
        exact h.push next
  | clear => exact h.clear
  | count name n =>
      rcases countBy_cases name n c with ⟨failure, kept⟩ | ⟨x, counted⟩
      · rw [Operation.perform, kept]
        exact h
      · rw [Operation.perform, counted]
        exact h.of_log rfl rfl rfl
  | gauge name value => exact h.of_log rfl rfl rfl
  | rank board bid => exact h.of_log rfl rfl rfl

theorem hear (h : Ordered fallback c) (note : Note α) : Ordered fallback (c.hear note).2 := by
  cases note with
  | count name => exact h.of_log rfl rfl rfl
  | gauge name value => exact h.of_log rfl rfl rfl
  | event draft => exact h.record draft
  | rank board key score payload => exact h.of_log rfl rfl rfl

theorem perform (h : Ordered fallback c) (arrival : Arrival α) :
    Ordered fallback (arrival.perform c).state := by
  cases arrival with
  | asked op => exact h.operation op
  | noted note => exact h.hear note

theorem new {config : Config α} {start : Chronicle α} (opened : Chronicle.new config = .ok start) :
    Ordered config.recentLimit start := by
  rw [Chronicle.new] at opened
  obtain ⟨capacity, -, made⟩ := Answer.bind_eq_ok.mp opened
  cases made
  exact ⟨Int.le_max_left 1 capacity, rfl, Nat.zero_le _, .nil, List.forall_mem_nil _⟩

theorem descending (h : Ordered fallback c) (q : Query α) :
    (q.matching c).Pairwise fun e f => f.seq < e.seq :=
  (List.pairwise_reverse.mpr h.ascending).sublist List.filter_sublist

theorem length_matching_le (h : Ordered fallback c) (q : Query α) :
    (q.matching c).length ≤ c.capacity.toNat := by
  have all := List.length_filter_le (fun e => decide (q.Passes e)) c.log.kept.reverse
  rw [List.length_reverse] at all
  exact all.trans h.fits

end Ordered

/-! ## Answers -/

theorem limitFor_eq {q : Query α} (proper : q.Proper) {c : Chronicle α} {fallback : Int}
    (whole : c.recentLimit.whole? = some fallback) :
    c.limitFor q.limit = .ok (min (q.wanted fallback) c.capacity) := by
  have last := Value.toInt_of_whole whole
  cases given : q.limit with
  | none =>
      rw [limitFor, Query.wanted, given]
      simp [bind, Except.bind, pure, Except.pure, last]
  | some v =>
      obtain ⟨n, limit⟩ := proper.limit v given
      have read := Value.toInt_of_whole limit
      have least := Value.isAtMost_of_whole limit 0
      rw [limitFor, Query.wanted, given]
      by_cases some : 1 ≤ n
      · have above : ¬ n ≤ 0 := by omega
        simp [bind, Except.bind, pure, Except.pure, least, limit, above, some, read]
      · have below : n ≤ 0 := by omega
        simp [bind, Except.bind, pure, Except.pure, least, limit, below, some, last]

/-- A query is answered with as many events as it asks for, the newest of those that pass. -/
theorem Ordered.recent_eq {limit : Value α} {c : Chronicle α} (h : Ordered limit c) {fallback : Int}
    (whole : limit.whole? = some fallback) (positive : 1 ≤ fallback) {q : Query α}
    (proper : q.Proper) :
    c.recent q = .ok ((q.matching c).take (q.wanted fallback).toNat) := by
  have wanted := q.wanted_pos positive
  have room := h.positive
  have few := h.length_matching_le q
  have cut : (q.matching c).take (max 1 (min (q.wanted fallback) c.capacity)).toNat =
      (q.matching c).take (q.wanted fallback).toNat := by
    rw [List.take_eq_take_iff]
    omega
  have limited := limitFor_eq proper (h.limit ▸ whole)
  rw [recent, limited, Query.checkKinds_of_proper proper, ← cut]
  exact congrArg Except.ok (q.pick_eq _ _)

/-- What a chronicle answers to queries, however they are put. -/
structure Recalls (fallback : Int) (c : Chronicle α) : Prop where
  newest : ∀ q : Query α, q.Proper → ∃ es, c.recent q = .ok es ∧
    es = (q.matching c).take (q.wanted fallback).toNat ∧ es.Pairwise fun e f => f.seq < e.seq
  /-- Who asks for more gets the same events first. -/
  longer : ∀ (q : Query α) (limit limit' : Option (Value α)),
    { q with limit := limit }.Proper → { q with limit := limit' }.Proper →
    { q with limit := limit }.wanted fallback ≤ { q with limit := limit' }.wanted fallback →
    ∃ es es', c.recent { q with limit := limit } = .ok es ∧
      c.recent { q with limit := limit' } = .ok es' ∧ es <+: es'
  /-- A further filter only leaves events out, if the limit had left out none. -/
  narrower : ∀ narrow wide : Query α, narrow.Proper → wide.Proper → narrow.Narrows wide →
    (wide.matching c).length ≤ wide.wanted fallback →
    ∃ es es', c.recent narrow = .ok es ∧ c.recent wide = .ok es' ∧ es.Sublist es'

theorem Ordered.recalls {limit : Value α} {c : Chronicle α} (h : Ordered limit c) {fallback : Int}
    (whole : limit.whole? = some fallback) (positive : 1 ≤ fallback) : Recalls fallback c where
  newest q proper :=
    ⟨_, h.recent_eq whole positive proper, rfl, (h.descending q).sublist (List.take_sublist _ _)⟩
  longer q limit limit' proper proper' more := by
    refine ⟨_, _, h.recent_eq whole positive proper, h.recent_eq whole positive proper', ?_⟩
    rw [q.matching_of_limit limit, q.matching_of_limit limit']
    exact List.take_prefix_take_left (Int.toNat_le_toNat more)
  narrower narrow wide proper proper' narrows all := by
    refine ⟨_, _, h.recent_eq whole positive proper, h.recent_eq whole positive proper', ?_⟩
    have fits : (wide.matching c).length ≤ (wide.wanted fallback).toNat := by omega
    rw [List.take_of_length_le fits]
    exact (List.take_sublist _ _).trans (narrows.matching_sublist c)

/-- Whatever was recorded, noted and cleared away, queries are answered from the end of the log. -/
theorem recent_after_run {config : Config α} {capacity fallback : Int}
    (read : config.capacity.toInt = .ok capacity)
    (whole : config.recentLimit.whole? = some fallback) (positive : 1 ≤ fallback) :
    ∃ start, Chronicle.new config = .ok start ∧
      ∀ arrivals : List (Arrival α), Recalls fallback (after Arrival.perform arrivals start) := by
  obtain ⟨start, opened, -⟩ := exists_new read
  refine ⟨start, opened, fun arrivals => ?_⟩
  have ordered := after_induction (P := Ordered config.recentLimit)
    (fun arrival _ h => h.perform arrival) arrivals (.new opened)
  exact ordered.recalls whole positive

/-- Room for three of five events, the first of them cleared away and the second pushed out. -/
theorem recent_after_run_trimmed :
    let config : Config Amount := ⟨.bool true, .int 3, .int 2, .int 10⟩
    let arrivals : List (Arrival Amount) :=
      [.asked (.record ⟨"A", none, some (.text "n"), none, []⟩), .asked .clear,
       .noted (.event ⟨"B", .critical, .text "n", 1, []⟩),
       .asked (.record ⟨"A", some (.int 2), some (.text "n"), none, []⟩),
       .noted (.event ⟨"A", .info, .text "m", 2, []⟩), .noted (.count "simulation.ticks"),
       .noted (.event ⟨"B", .catastrophic, .text "n", 3, []⟩)]
    config.capacity.toInt = .ok 3 ∧ config.recentLimit.whole? = some 2 ∧ (1 : Int) ≤ 2 ∧
    ∃ start, Chronicle.new config = .ok start ∧
      let c := after Arrival.perform arrivals start
      let found := fun q : Query Amount => (c.recent q).toOption.map (List.map (·.seq))
      Recalls 2 c ∧ found {} = some [5, 4] ∧ found { limit := some (.int (-1)) } = some [5, 4] ∧
        found { limit := some (.int 9) } = some [5, 4, 3] ∧
        found { limit := some (.bool true), npcId := some "n" } = some [5] ∧
        found { npcId := some "n", minSeverity := some (.int 2) } = some [5, 3] ∧
        found { npcId := some "", kinds := some [.text "A"] } = some [4, 3] := by
  intro config arrivals
  have read : config.capacity.toInt = .ok 3 := rfl
  have whole : config.recentLimit.whole? = some 2 := rfl
  obtain ⟨start, opened, recalls⟩ := recent_after_run read whole (by decide)
  refine ⟨read, whole, by decide, start, opened, recalls arrivals, ?_⟩
  cases opened
  decide +kernel

end Chronicle

end Colony

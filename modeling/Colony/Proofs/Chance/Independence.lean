import Colony.Proofs.Chance.Draw
import Colony.Proofs.Run
import Colony.Scalar.Rational

/-!
# Streams do not feel each other

Values are drawn directly, or through sources that were bound to a stream and
a scope before.  Whatever else is drawn in between, and whichever calls fail, a
key gives the values that it gives when it alone is drawn, and its counter
counts the calls upon it.  These are the calls that return, unless salt, seed
or stream keep their texts from being digested: then they count and fail.
-/

namespace Colony.Chance

structure Request (α : Type) where
  stream : Points
  scope : Scope α := []

/-- Streams together with the sources bound to them, in the order in which those were made. -/
structure Service (α : Type) where
  streams : Streams
  sources : List (Request α) := []

inductive Call (α : Type) where
  | draw (request : Request α)
  | bind (request : Request α)
  | ask (source : Nat)

variable {α : Type}

def Service.fresh (salt : Option Points) (seed : Seed) : Service α := ⟨⟨salt, seed, []⟩, []⟩

def Call.binds : Call α → Bool
  | .bind _ => true
  | .draw _ => false
  | .ask _ => false

/-- What a call asks the streams for. -/
def Call.request? : Call α → Service α → Option (Request α)
  | .draw r, _ => some r
  | .bind _, _ => none
  | .ask source, s => s.sources[source]?

variable [Scalar α]

def Request.key? (r : Request α) : Option Points := (counterKey r.stream r.scope).toOption

def Call.key? (call : Call α) (s : Service α) : Option Points := (call.request? s).bind (·.key?)

namespace Service

def draw (r : Request α) (s : Service α) : Outcome (Service α) α α :=
  (s.streams.draw r.stream r.scope).within fun streams => { s with streams := streams }

omit [Scalar α] in
def bind (r : Request α) (s : Service α) : Service α := { s with sources := s.sources ++ [r] }

omit [Scalar α] in
def counted (key : Points) (s : Service α) : Service α :=
  { s with streams := s.streams.counted key }

/-- The next value of a key, if its text can be digested. -/
def value (key : Points) (s : Service α) : Answer α α :=
  s.streams.value key (s.streams.count key)

end Service

/-- Only a source that was made can be asked. -/
def Call.perform : Call α → Service α → Outcome (Service α) α (Option α)
  | .draw r, s => (s.draw r).map some
  | .bind r, s => .done none (s.bind r)
  | .ask source, s =>
      match s.sources[source]? with
      | some r => (s.draw r).map some
      | none => .fail .badValue s

theorem Service.draw_of_key {r : Request α} {key : Points} (known : r.key? = some key)
    (s : Service α) : s.draw r = .of (s.value key) (s.counted key) := by
  have named : counterKey r.stream r.scope = .ok key := by
    unfold Request.key? at known
    cases named : counterKey r.stream r.scope with
    | ok key' =>
        rw [named] at known
        rw [Option.some_inj.mp known]
    | error failure =>
        rw [named] at known
        cases known
  rw [Service.draw, Streams.draw_of_key named]
  rfl

theorem Service.draw_of_no_key {r : Request α} (unknown : r.key? = none) (s : Service α) :
    ∃ failure, s.draw r = .fail failure s := by
  unfold Request.key? at unknown
  cases named : counterKey r.stream r.scope with
  | ok key =>
      rw [named] at unknown
      cases unknown
  | error failure =>
      refine ⟨failure, ?_⟩
      rw [Service.draw, Streams.draw_of_no_key named]
      rfl

theorem Call.perform_of_request {call : Call α} {s : Service α} {r : Request α}
    (asked : call.request? s = some r) :
    call.binds = false ∧ call.key? s = r.key? ∧ call.perform s = (s.draw r).map some := by
  refine ⟨?_, by rw [Call.key?, asked, Option.bind_some], ?_⟩
  · cases call with
    | draw r => rfl
    | bind r => cases asked
    | ask source => rfl
  · cases call with
    | draw r =>
        cases asked
        rfl
    | bind r => cases asked
    | ask source =>
        have bound : s.sources[source]? = some r := asked
        simp only [Call.perform, bound]

theorem Call.perform_of_key {call : Call α} {s : Service α} {key : Points}
    (known : call.key? s = some key) :
    call.binds = false ∧ call.perform s = .of ((s.value key).map some) (s.counted key) := by
  obtain ⟨r, asked, named⟩ := Option.bind_eq_some_iff.mp known
  obtain ⟨draws, -, same⟩ := perform_of_request asked
  refine ⟨draws, ?_⟩
  rw [same, Service.draw_of_key named]
  rfl

/-- A call makes a source, or counts on its key, or fails without a trace. -/
theorem Call.perform_cases (call : Call α) (s : Service α) :
    (∃ r, call = .bind r) ∨ (∃ key, call.key? s = some key) ∨
      (call.binds = false ∧ call.key? s = none ∧
        ∃ failure, call.perform s = .fail failure s) := by
  cases asked : call.request? s with
  | some r =>
      obtain ⟨draws, same, drawn⟩ := perform_of_request asked
      refine .inr ?_
      cases named : r.key? with
      | some key => exact .inl ⟨key, same.trans named⟩
      | none =>
          obtain ⟨failure, failed⟩ := Service.draw_of_no_key named s
          refine .inr ⟨draws, same.trans named, failure, ?_⟩
          rw [drawn, failed]
          rfl
  | none =>
      cases call with
      | draw r => cases asked
      | bind r => exact .inl ⟨r, rfl⟩
      | ask source =>
          have bound : s.sources[source]? = none := asked
          refine .inr (.inr ⟨rfl, ?_, .badValue, by simp only [Call.perform, bound]⟩)
          rw [Call.key?, asked, Option.bind_none]

theorem Call.answer_of_key {call : Call α} {s : Service α} {key : Points}
    (known : call.key? s = some key) : (call.perform s).answer = (s.value key).map some := by
  rw [(perform_of_key known).2]
  rfl

theorem Call.state_of_key {call : Call α} {s : Service α} {key : Points}
    (known : call.key? s = some key) : (call.perform s).state = s.counted key := by
  rw [(perform_of_key known).2]
  rfl

/-! ## Runs -/

def returned (calls : List (Call α)) (s : Service α) : List α :=
  (transcript Call.perform calls s).filterMap fun step => step.1.toOption.join

theorem returned_cons (call : Call α) (calls : List (Call α)) (s : Service α) :
    returned (call :: calls) s =
      (call.perform s).answer.toOption.join.toList ++ returned calls (call.perform s).state := by
  simp only [returned, transcript, List.filterMap_cons]
  cases (call.perform s).answer.toOption.join <;> rfl

/-- What the calls upon one key answer in a run. -/
def answersOn (key : Points) : List (Call α) → Service α → List (Answer α (Option α))
  | [], _ => []
  | call :: calls, s =>
      let later := answersOn key calls (call.perform s).state
      if call.key? s = some key then (call.perform s).answer :: later else later

def returnedOn (key : Points) (calls : List (Call α)) (s : Service α) : List α :=
  (answersOn key calls s).filterMap fun answer => answer.toOption.join

/-- The calls of a run that make a source or draw on one key. -/
def callsOn (key : Points) : List (Call α) → Service α → List (Call α)
  | [], _ => []
  | call :: calls, s =>
      let later := callsOn key calls (call.perform s).state
      if call.binds ∨ call.key? s = some key then call :: later else later

theorem answersOn_cons_of_key {key : Points} {call : Call α} {s : Service α}
    (known : call.key? s = some key) (calls : List (Call α)) :
    answersOn key (call :: calls) s =
      (s.value key).map some :: answersOn key calls (s.counted key) := by
  simp only [answersOn, known, if_true, Call.answer_of_key known, Call.state_of_key known]

theorem answersOn_cons_of_ne {key : Points} {call : Call α} {s : Service α}
    (ne : call.key? s ≠ some key) (calls : List (Call α)) :
    answersOn key (call :: calls) s = answersOn key calls (call.perform s).state := by
  simp only [answersOn, ne, if_false]

namespace Service

/-- Two services that make no difference to who draws on one key. -/
structure AgreesOn (key : Points) (s t : Service α) : Prop where
  salt : s.streams.salt = t.streams.salt
  seed : s.streams.seed = t.streams.seed
  count : s.streams.count key = t.streams.count key
  sources : s.sources = t.sources

namespace AgreesOn

variable {key : Points} {s t : Service α}

omit [Scalar α] in
theorem refl (key : Points) (s : Service α) : s.AgreesOn key s := ⟨rfl, rfl, rfl, rfl⟩

theorem key? (h : s.AgreesOn key t) (call : Call α) : call.key? s = call.key? t := by
  cases call with
  | draw r => rfl
  | bind r => rfl
  | ask source => simp only [Call.key?, Call.request?, h.sources]

omit [Scalar α] in
theorem bind (h : s.AgreesOn key t) (r : Request α) : (s.bind r).AgreesOn key (t.bind r) :=
  ⟨h.salt, h.seed, h.count, congrArg (· ++ [r]) h.sources⟩

theorem value (h : s.AgreesOn key t) : s.value key = t.value key := by
  simp only [Service.value, Streams.value, Streams.drawText?, h.salt, h.seed, h.count]

omit [Scalar α] in
theorem counted (h : s.AgreesOn key t) : (s.counted key).AgreesOn key (t.counted key) where
  salt := h.salt
  seed := h.seed
  count := by
    rw [Service.counted, Service.counted, Streams.count_counted_self,
      Streams.count_counted_self, h.count]
  sources := h.sources

omit [Scalar α] in
theorem counted_left {other : Points} (h : s.AgreesOn key t) (ne : other ≠ key) :
    (s.counted other).AgreesOn key t where
  salt := h.salt
  seed := h.seed
  count := by rw [Service.counted, Streams.count_counted_of_ne ne, h.count]
  sources := h.sources

/-- A run and the part of it that concerns a key give that key the same values, from services that
agree on it. -/
theorem returned_callsOn (h : s.AgreesOn key t) (calls : List (Call α)) :
    returned (callsOn key calls s) t = returnedOn key calls s := by
  induction calls generalizing s t with
  | nil => rfl
  | cons call calls ih =>
      rcases call.perform_cases s with ⟨r, rfl⟩ | ⟨drawn, known⟩ | ⟨draws, none, _, failed⟩
      · exact ih (h.bind r)
      · obtain ⟨draws, done⟩ := Call.perform_of_key known
        by_cases same : drawn = key
        · subst same
          have known' : call.key? t = some drawn := (h.key? call).symm.trans known
          have rest := ih h.counted
          rw [returnedOn, answersOn_cons_of_key known, callsOn, Call.state_of_key known,
            if_pos (.inr known), returned_cons, Call.answer_of_key known',
            Call.state_of_key known', rest, h.value, List.filterMap_cons]
          cases t.value drawn <;> rfl
        · have unfelt := ih (h.counted_left same)
          have apart : call.key? s ≠ some key := fun given =>
            same (Option.some_inj.mp (known.symm.trans given))
          rw [returnedOn, answersOn_cons_of_ne apart, callsOn, Call.state_of_key known,
            if_neg (by simp [draws, apart])]
          exact unfelt
      · have apart : call.key? s ≠ some key := by simp [none]
        rw [returnedOn, answersOn_cons_of_ne apart, callsOn, failed,
          if_neg (by simp [draws, apart])]
        exact ih h

end AgreesOn

end Service

/-! ## Counters -/

theorem Call.counter_perform (key : Points) (call : Call α) (s : Service α) :
    (call.perform s).state.streams.counters.get? key =
      if call.key? s = some key then some (s.streams.count key + 1)
      else s.streams.counters.get? key := by
  rcases call.perform_cases s with ⟨r, rfl⟩ | ⟨drawn, known⟩ | ⟨-, none, _, failed⟩
  · rfl
  · rw [Call.state_of_key known, known]
    by_cases same : drawn = key
    · subst same
      rw [if_pos rfl]
      exact Table.get?_put_self drawn (s.streams.count drawn + 1) s.streams.counters
    · rw [if_neg (fun given => same (Option.some.inj given))]
      exact Table.get?_put_of_ne same _ s.streams.counters
  · rw [failed, none]
    rfl

theorem Call.count_perform (key : Points) (call : Call α) (s : Service α) :
    (call.perform s).state.streams.count key =
      s.streams.count key + if call.key? s = some key then 1 else 0 := by
  rw [Streams.count, call.counter_perform key s]
  split <;> rfl

theorem count_after (key : Points) (calls : List (Call α)) (s : Service α) :
    (after Call.perform calls s).streams.count key =
      s.streams.count key + (answersOn key calls s).length := by
  induction calls generalizing s with
  | nil => rfl
  | cons call calls ih =>
      have counted := call.count_perform key s
      rw [after_cons, ih, counted]
      by_cases known : call.key? s = some key
      · rw [if_pos known, answersOn_cons_of_key known, Call.state_of_key known, List.length_cons,
          Nat.add_assoc, Nat.add_comm 1]
      · rw [if_neg known, answersOn_cons_of_ne known, Nat.add_zero]

theorem counter_after_of_undrawn {key : Points} {calls : List (Call α)} {s : Service α}
    (undrawn : answersOn key calls s = []) :
    (after Call.perform calls s).streams.counters.get? key = s.streams.counters.get? key := by
  induction calls generalizing s with
  | nil => rfl
  | cons call calls ih =>
      by_cases known : call.key? s = some key
      · rw [answersOn_cons_of_key known] at undrawn
        cases undrawn
      · rw [answersOn_cons_of_ne known] at undrawn
        have step := call.counter_perform key s
        rw [if_neg known] at step
        exact (ih undrawn).trans step

/-! ## Calls that return -/

theorem Call.legible_perform (call : Call α) (s : Service α) :
    (call.perform s).state.streams.Legible ↔ s.streams.Legible := by
  rcases call.perform_cases s with ⟨r, rfl⟩ | ⟨drawn, known⟩ | ⟨-, -, _, failed⟩
  · rfl
  · rw [Call.state_of_key known]
    rfl
  · rw [failed]
    rfl

theorem legible_after (calls : List (Call α)) (s : Service α) :
    (after Call.perform calls s).streams.Legible ↔ s.streams.Legible := by
  induction calls generalizing s with
  | nil => rfl
  | cons call calls ih => rw [after_cons, ih, call.legible_perform]

theorem Service.value_returns_iff {s : Service α} {key : Points} :
    (∃ x, s.value key = .ok x) ↔ s.streams.Legible ∧ ∃ name, key = Points.ofString name := by
  constructor
  · rintro ⟨x, returned⟩
    obtain ⟨text, digested, -⟩ := Streams.value_eq_ok_iff.mp returned
    exact digested.legible
  · rintro ⟨legible, name, rfl⟩
    exact legible.value name _

/-- Where the texts can be digested, every call upon a key returns. -/
theorem length_returnedOn {s : Service α} (legible : s.streams.Legible) (name : String)
    (calls : List (Call α)) :
    (returnedOn name calls s).length = (answersOn name calls s).length := by
  induction calls generalizing s with
  | nil => rfl
  | cons call calls ih =>
      have rest := ih ((call.legible_perform s).mpr legible)
      by_cases known : call.key? s = some (Points.ofString name)
      · obtain ⟨x, given⟩ := Service.value_returns_iff.mpr ⟨legible, name, rfl⟩
        rw [Call.state_of_key known] at rest
        rw [returnedOn, answersOn_cons_of_key known, given, List.length_cons, ← rest]
        rfl
      · rw [returnedOn, answersOn_cons_of_ne known]
        exact rest

/-! ## Independence -/

/-- What the draws on one key come to in a run, beside those on all others. -/
structure Independent (key : Points) (calls : List (Call α)) (s : Service α) : Prop where
  values : returned (callsOn key calls s) s = returnedOn key calls s
  count : (after Call.perform calls s).streams.count key = (answersOn key calls s).length
  returns : s.streams.Legible → ∀ name, key = Points.ofString name →
    (returnedOn key calls s).length = (answersOn key calls s).length
  undrawn : answersOn key calls s = [] →
    (after Call.perform calls s).streams.counters.get? key = none
  answered : ∀ (call : Call α) (drawn : Points),
    call.key? (after Call.perform calls s) = some drawn →
      ((∃ value, (call.perform (after Call.perform calls s)).answer = .ok (some value)) ↔
        s.streams.Legible ∧ ∃ name, drawn = Points.ofString name)
  failed : ∀ (call : Call α) (failure : Failure α),
    (call.perform (after Call.perform calls s)).answer = .error failure →
      call.key? (after Call.perform calls s) = none ∧
          (call.perform (after Call.perform calls s)).state = after Call.perform calls s ∨
        ∃ drawn, call.key? (after Call.perform calls s) = some drawn ∧
          (call.perform (after Call.perform calls s)).state =
            (after Call.perform calls s).counted drawn

theorem Call.state_of_error {call : Call α} {s : Service α} {failure : Failure α}
    (failed : (call.perform s).answer = .error failure) :
    call.key? s = none ∧ (call.perform s).state = s ∨
      ∃ drawn, call.key? s = some drawn ∧ (call.perform s).state = s.counted drawn := by
  rcases call.perform_cases s with ⟨r, rfl⟩ | ⟨drawn, known⟩ | ⟨-, none, other, refused⟩
  · cases failed
  · exact .inr ⟨drawn, known, Call.state_of_key known⟩
  · rw [refused]
    exact .inl ⟨none, rfl⟩

theorem Call.answers_iff {call : Call α} {s : Service α} {drawn : Points}
    (known : call.key? s = some drawn) :
    (∃ value, (call.perform s).answer = .ok (some value)) ↔
      s.streams.Legible ∧ ∃ name, drawn = Points.ofString name := by
  rw [Call.answer_of_key known, ← Service.value_returns_iff]
  cases s.value drawn <;> simp [Except.map]

theorem streams_independent (salt : Option Points) (seed : Seed) (calls : List (Call α))
    (key : Points) : Independent key calls (Service.fresh salt seed) where
  values := (Service.AgreesOn.refl key _).returned_callsOn calls
  count := (count_after key calls _).trans (Nat.zero_add _)
  returns := by
    rintro legible name rfl
    exact length_returnedOn legible name calls
  undrawn := counter_after_of_undrawn
  answered call drawn known := by rw [Call.answers_iff known, legible_after]
  failed _ _ := Call.state_of_error

/-- Draws on two keys, one through a source, beside a scope that has no text and a source that was
never made. -/
example :
    let bound : Request Rat := ⟨"loot", [(.text "b", .int 1), (.text "a", .null)]⟩
    let moved : Request Rat := ⟨"loot", [(.text "a", .null), (.text "b", .int 1)]⟩
    let unnamed : Request Rat := ⟨"loot", [(.text "a", .bytes [])]⟩
    let s := after Call.perform [.bind bound, .draw ⟨"k", []⟩, .ask 0, .draw unnamed, .draw moved,
      .ask 1] (Service.fresh (some "salt") (.number 7))
    s.streams.counters =
      [(Points.ofString "k|\x7b\x7d", 1),
        (Points.ofString "loot|\x7b\"a\":null,\"b\":1\x7d", 2)] := by
  decide +kernel

/-- A seed that is too long to be written fails the draw after it has counted. -/
theorem counted_without_value :
    let s : Service Rat :=
      Service.fresh (some "salt") (.number (Nat.pow 10 Decimal.digitLimit : Nat))
    let call : Call Rat := .draw ⟨"k", []⟩
    (call.perform s).answer = .error .badValue ∧
      (after Call.perform [call] s).streams.count "k|\x7b\x7d" = 1 ∧
      returnedOn "k|\x7b\x7d" [call] s = [] := by
  intro s call
  have unwritten : s.streams.seed.text? = none := Decimal.writeInteger?_of_le (Nat.le_refl _)
  have known : call.key? s = some "k|\x7b\x7d" := rfl
  have undrawn : ∀ n, s.streams.drawText? "k|\x7b\x7d" n = none := fun n => by
    simp [Streams.drawText?, unwritten]
  have valueless : s.value "k|\x7b\x7d" = .error .badValue := by
    rw [Service.value, Streams.value, undrawn]
  refine ⟨?_, ?_, ?_⟩
  · rw [Call.answer_of_key known, valueless]
    rfl
  · rw [after_cons, after_nil, Call.state_of_key known]
    exact Streams.count_counted_self _ s.streams
  · rw [returnedOn, answersOn_cons_of_key known, valueless]
    rfl

end Colony.Chance

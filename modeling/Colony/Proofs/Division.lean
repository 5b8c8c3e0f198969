import Colony.Proofs.Cleansing.Rate
import Colony.Proofs.Economy.Solvent

/-!
# No division by zero

A strict quotient is refused where its divisor is zero.  The operations that
divide are written here once more with strict quotients: a tick, which divides
where mineral runs short, and the means of a population and of a party.  They
are never refused, and so are what the operations themselves are.
-/

namespace Colony

variable {σ α β γ : Type}

/-! ## Strict quotients -/

/-- What comes next may be refused. -/
def Outcome.andThen? (o : Outcome σ α β) (next : β → σ → Option (Outcome σ α γ)) :
    Option (Outcome σ α γ) :=
  match o.answer with
  | .error failure => some ⟨.error failure, o.notes, o.state⟩
  | .ok b => (next b o.state).map fun rest => ⟨rest.answer, o.notes ++ rest.notes, rest.state⟩

theorem Outcome.andThen?_eq_some {o : Outcome σ α β} {next? : β → σ → Option (Outcome σ α γ)}
    {next : β → σ → Outcome σ α γ}
    (allowed : ∀ b, o.answer = .ok b → next? b o.state = some (next b o.state)) :
    o.andThen? next? = some (o.andThen next) := by
  unfold andThen? andThen
  cases answer : o.answer with
  | error failure => rfl
  | ok b => simp only [allowed b answer, Option.map_some]

/-- An answer that may be refused. -/
abbrev Strict (α : Type) := ExceptT (Failure α) Option

namespace Strict

def of (answer : Answer α β) : Strict α β := ExceptT.mk (some answer)

def allowed (value : Option β) : Strict α β := ExceptT.mk (value.map .ok)

theorem bind_eq_of {x : Strict α β} {answer : Answer α β} {next? : β → Strict α γ}
    {next : β → Answer α γ} (first : x = of answer)
    (rest : ∀ b, answer = .ok b → next? b = of (next b)) :
    (x >>= next?) = of (answer >>= next) := by
  subst first
  cases answer with
  | error failure => rfl
  | ok b => exact rest b rfl

end Strict

namespace Scalar

variable [Scalar α]

def quotient? (x y : α) : Option α := if exact y = .finite 0 then none else some (x / y)

theorem quotient?_eq_some {y : α} (above : 0 < y) (x : α) : quotient? x y = some (x / y) := by
  refine if_neg fun zero => ?_
  rw [lt_iff_exact, exact_zero, zero, Exact.before_irrefl] at above
  cases above

def mean? (values : List α) : Option α := quotient? (total values) (values.length : α)

end Scalar

theorem Amount.mean?_eq_some {values : List Amount} (some : values ≠ []) :
    Scalar.mean? values = .some (Scalar.mean values) :=
  Scalar.quotient?_eq_some (Amount.natCast_pos (List.length_pos_iff.mpr some)) _

/-! ## Ticks -/

namespace Economy

section Strict

variable [Scalar α]

def Stocks.refine? (throttle : α) (s : Stocks α) : Option (Stocks α) :=
  if s.mineral.quantity < s.mineral.consumption then do
    let share ← Scalar.quotient? s.mineral.quantity s.mineral.consumption
    let made := s.rapidlum.production * throttle
    some { s with
      rapidlum := { s.rapidlum with quantity := s.rapidlum.quantity - made + made * share }
      mineral := { s.mineral with quantity := s.mineral.quantity - s.mineral.quantity } }
  else
    some { s with
      mineral := { s.mineral with quantity := s.mineral.quantity - s.mineral.consumption } }

def Stocks.tick? (throttle : α) (s : Stocks α) : Option (Outcome (Stocks α) α Unit) :=
  (s.produce throttle).andThen? fun _ s => (s.refine? throttle).map fun s => .done () s.floor

def onStocks? (operation : Stocks α → Option (Outcome (Stocks α) α β)) (e : Economy α) :
    Option (Outcome (Economy α) α β) :=
  (operation e.status.stocks).map fun outcome =>
    outcome.within fun stocks => { e with status := { e.status with stocks := stocks } }

def settle? (e : Economy α) : Option (Outcome (Economy α) α (Status α)) :=
  (e.withPlague.onStocks? (Stocks.tick? (effectiveThrottle e.plague.throttle))).map fun outcome =>
    outcome.andThen fun _ settled => settled.conclude

def tick? (trauma : Option α) (e : Economy α) : Option (Outcome (Economy α) α (Status α)) :=
  (e.moving trauma).andThen? fun _ moved => moved.settle?

def ticks? (trauma : Option α) : Nat → Economy α → Option (Outcome (Economy α) α (Status α))
  | 0, e => e.tick? trauma
  | more + 1, e =>
      (e.tick? trauma).bind fun outcome =>
        outcome.andThen? fun _ next => next.ticks? trauma more

def advance? (times : Value α) (trauma : Option α) (e : Economy α) :
    Option (Outcome (Economy α) α (Status α)) :=
  match times.toInt with
  | .ok n => e.ticks? trauma (n - 1).toNat
  | .error failure => some (.fail failure e)

def Operation.perform? : Operation α → Economy α → Option (Outcome (Economy α) α (Reply α))
  | .tick trauma, e => (e.tick? trauma).map (·.map .status)
  | .advance times trauma, e => (e.advance? times trauma).map (·.map .status)
  | .addMine yieldRate, e => some ((Operation.addMine yieldRate).perform e)
  | .addRefinery efficiency, e => some ((Operation.addRefinery efficiency).perform e)
  | .setPopulation rebellion npcs, e => some ((Operation.setPopulation rebellion npcs).perform e)
  | .cleanse, e => some (Operation.cleanse.perform e)

theorem Stocks.refine?_eq_some {s : Stocks α}
    (asked : s.mineral.quantity < s.mineral.consumption → 0 < s.mineral.consumption)
    (throttle : α) : s.refine? throttle = some (s.refine throttle) := by
  unfold refine? refine
  split
  · rename_i short
    rw [Scalar.quotient?_eq_some (asked short)]
    rfl
  · rfl

end Strict

variable {e : Economy Amount}

theorem Solvent.tick?_eq_some (h : e.Solvent) (trauma : Option Amount) :
    e.tick? trauma = some (e.tick trauma) := by
  rw [tick_eq]
  refine Outcome.andThen?_eq_some fun report moved => ?_
  have stocks : Stocks.tick? (effectiveThrottle (e.moving trauma).state.plague.throttle)
      (e.moving trauma).state.status.stocks =
        some (Stocks.tick (effectiveThrottle (e.moving trauma).state.plague.throttle)
          (e.moving trauma).state.status.stocks) := by
    refine Outcome.andThen?_eq_some fun _ made => ?_
    have examined : e.Examines trauma (e.producing trauma).state := ⟨⟨report, moved⟩, made, rfl⟩
    have tested := h.tested examined
    exact congrArg (Option.map _)
      (Stocks.refine?_eq_some (fun short => (tested.share short).1) _)
  have placed : (e.moving trauma).state.withPlague.onStocks?
      (Stocks.tick? (effectiveThrottle (e.moving trauma).state.plague.throttle)) =
        some ((e.moving trauma).state.withPlague.onStocks
          (Stocks.tick (effectiveThrottle (e.moving trauma).state.plague.throttle))) :=
    congrArg (Option.map _) stocks
  rw [settle?, placed]
  rfl

theorem Solvent.ticks?_eq_some (h : e.Solvent) (trauma : Option Amount) (more : Nat) :
    e.ticks? trauma more = some (e.ticks trauma more) := by
  induction more generalizing e with
  | zero => exact h.tick?_eq_some trauma
  | succ more ih =>
      rw [ticks?, h.tick?_eq_some, Option.bind_some]
      exact Outcome.andThen?_eq_some fun _ _ => ih (h.tick trauma)

/-- No operation of the economy divides by zero. -/
theorem Solvent.perform?_eq_some (h : e.Solvent) (op : Operation Amount) :
    op.perform? e = some (op.perform e) := by
  cases op with
  | addMine yieldRate => rfl
  | addRefinery efficiency => rfl
  | setPopulation rebellion npcs => rfl
  | tick trauma => rw [Operation.perform?, h.tick?_eq_some]; rfl
  | advance times trauma =>
      have advanced : e.advance? times trauma = some (e.advance times trauma) := by
        simp only [advance?, advance]
        cases times.toInt with
        | ok n => exact h.ticks?_eq_some trauma _
        | error failure => rfl
      rw [Operation.perform?, advanced]
      rfl
  | cleanse => rfl

end Economy

/-! ## Parties -/

namespace Cleansing

section Strict

variable [Scalar α]

def mean? (figure : Participant α → α) (party : List (Participant α)) : Strict α α := do
  let figures ← Strict.of (party.mapM fun p => Scalar.confined (figure p))
  Strict.allowed (Scalar.mean? figures)

def factors? (c : Config α) (party : List (Participant α)) : Strict α (Factors α) :=
  if party.isEmpty then .of (.ok ⟨c.base, 0, 0, 0, 0, 0, 0⟩)
  else do
    let morale ← mean? (·.morale) party
    let trauma ← mean? (·.trauma) party
    let confidence ← mean? (·.confidence) party
    .of (.ok (weighed c morale trauma confidence))

def weigh? (c : Config α) (party : List (Participant α)) : Strict α (α × Factors α) := do
  let parts ← factors? c party
  let rate ← Strict.of (rateFrom c party parts)
  .of (.ok (rate, parts))

end Strict

theorem mean?_eq_of (figure : Participant Amount → Amount) {party : List (Participant Amount)}
    (manned : party.isEmpty = false) : mean? figure party = .of (mean figure party) := by
  rw [mean, Answer.map_eq_bind]
  refine Strict.bind_eq_of rfl fun figures confined => ?_
  have some : figures ≠ [] := by
    rintro rfl
    have each := (Answer.mapM_eq_ok.mp confined).length_eq
    rw [List.isEmpty_eq_false_iff, List.ne_nil_iff_length_pos, each] at manned
    exact Nat.lt_irrefl 0 manned
  rw [Amount.mean?_eq_some some]
  rfl

theorem factors?_eq_of (c : Config Amount) (party : List (Participant Amount)) :
    factors? c party = .of (factors c party) := by
  cases manned : party.isEmpty with
  | true => simp only [factors?, factors, manned, if_true]
  | false =>
      simp only [factors?, factors, manned, Bool.false_eq_true, if_false]
      refine Strict.bind_eq_of (mean?_eq_of _ manned) fun morale _ => ?_
      refine Strict.bind_eq_of (mean?_eq_of _ manned) fun trauma _ => ?_
      exact Strict.bind_eq_of (mean?_eq_of _ manned) fun confidence _ => rfl

theorem weigh?_eq_of (c : Config Amount) (party : List (Participant Amount)) :
    weigh? c party = .of (weigh c party) :=
  Strict.bind_eq_of (factors?_eq_of c party) fun _ _ => Strict.bind_eq_of rfl fun _ _ => rfl

end Cleansing

/-! ## Populations -/

namespace World

section Strict

variable [Scalar α]

def figures? (assessments : List (Rebellion.Assessment α)) (w : World α) : Option (α × α) :=
  if w.roster.npcs.isEmpty then some (0, 0)
  else do
    let rebellion ← Scalar.mean? (assessments.map (·.probability))
    let trauma ← Scalar.mean? (w.roster.npcs.map fun npc => w.traumaOf npc.id)
    some (rebellion, trauma)

def refresh? (w : World α) : Option (Outcome (World α) α (α × α)) :=
  w.survey.andThen? fun assessments next =>
    (next.figures? assessments).map fun figures =>
      (next.onEconomy (·.setPopulation figures.1 (.int next.roster.npcs.length))).andThen
        fun _ told => .done figures told

end Strict

variable {w : World Amount}

theorem figures?_eq_some {assessments : List (Rebellion.Assessment Amount)}
    (each : assessments.length = w.roster.npcs.length) :
    w.figures? assessments = some (w.figures assessments) := by
  unfold figures? figures
  split
  · rfl
  · rename_i peopled
    have peopled : w.roster.npcs ≠ [] := by simpa using peopled
    have assessed : assessments ≠ [] := by
      rw [← List.length_pos_iff, each, List.length_pos_iff]
      exact peopled
    rw [Amount.mean?_eq_some (by simpa using assessed),
      Amount.mean?_eq_some (by simpa using peopled)]
    rfl

theorem length_of_survey {assessments : List (Rebellion.Assessment Amount)}
    (surveyed : w.survey.answer = .ok assessments) :
    assessments.length = w.survey.state.roster.npcs.length := by
  unfold survey Rebellion.survey at *
  split at surveyed
  · rename_i all assessed
    obtain rfl : all = assessments := Except.ok.inj surveyed
    have each := (Answer.mapM_eq_ok.mp assessed).length_eq
    rw [List.length_map] at each
    exact each.symm
  · cases surveyed

theorem refresh?_eq_some (w : World Amount) : w.refresh? = some w.refresh :=
  Outcome.andThen?_eq_some fun _ surveyed =>
    congrArg (Option.map _) (figures?_eq_some (length_of_survey surveyed))

end World

/-! ## All divisions -/

/-- No stock is below zero after a run.  Wherever a tick of the run looks whether mineral runs short
the mineral is not below zero, so that a shortage is divided by more than zero and comes to a part
of one.  No operation on the economy, no population and no party divides by zero. -/
theorem no_division_by_zero (config : Economy.Config Amount) (plagueConfig : Plague.Config Amount)
    (heard : Bool) (ops : List (Economy.Operation Amount)) :
    let start := Economy.new config plagueConfig heard
    let reached := after Economy.Operation.perform ops start
    (∀ r, ¬ (reached.status.stocks.get r).quantity < 0) ∧
      (∀ t ∈ Economy.history ops start, ∀ trauma s, t.before.Examines trauma s →
        (t.before.tick trauma).state.status.stocks = (s.refine (Economy.effectiveThrottle
          (t.before.moving trauma).state.plague.throttle)).floor ∧
        ¬ s.mineral.quantity < 0 ∧
          (s.mineral.quantity < s.mineral.consumption →
            0 < s.mineral.consumption ∧ 0 ≤ s.mineral.quantity / s.mineral.consumption ∧
              s.mineral.quantity / s.mineral.consumption < 1)) ∧
      (∀ op : Economy.Operation Amount, op.perform? reached = some (op.perform reached)) ∧
      (∀ w : World Amount, w.refresh? = some w.refresh) ∧
      ∀ (c : Cleansing.Config Amount) (party : List (Cleansing.Participant Amount)),
        Cleansing.weigh? c party = some (Cleansing.weigh c party) := by
  intro start reached
  have begun : start.Solvent := .new config plagueConfig heard
  have solvent : reached.Solvent := begun.after ops
  refine ⟨fun r => (solvent.stocks r).nonneg, fun t member trauma s examined => ?_,
    solvent.perform?_eq_some, World.refresh?_eq_some, Cleansing.weigh?_eq_of⟩
  have tested : s.Tested := (begun.history ops t member).tested examined
  exact ⟨examined.stocks_tick, tested.mineral.nonneg, tested.share⟩

namespace Economy

def scarceConfig : Config Amount := ⟨.whole 1, .whole 5, .whole 2⟩

def calmConfig : Plague.Config Amount :=
  { growth := .whole 1
    decay := .whole 1
    heartThreshold := .whole 10
    clearThreshold := .whole 5
    throttle := .whole 0
    rebellionTrigger := .whole 1
    traumaTrigger := .whole 1
    warningLevel := .whole 7 }

/-- A refinery that asks for five, beside a mine that yields two. -/
def scarceSites : List (Operation Amount) := [.addMine (.whole 2), .addRefinery (.whole 1)]

def scarce : Economy Amount :=
  Colony.after Operation.perform scarceSites (Economy.new scarceConfig calmConfig)

theorem short_scarce : (scarce.producing none).state.mineral.quantity <
    (scarce.producing none).state.mineral.consumption := by decide +kernel

theorem answer_tick_scarce : ∃ status, (scarce.tick none).answer = .ok status := by
  have ticked : (scarce.tick none).answer.toOption.isSome = true := by decide +kernel
  cases answer : (scarce.tick none).answer with
  | error failure =>
      rw [answer] at ticked
      cases ticked
  | ok status => exact ⟨status, rfl⟩

end Economy

/-- There are runs in which mineral does run short. -/
theorem no_division_by_zero_scarce :
    ∃ t ∈ Economy.history (Economy.scarceSites ++ [.tick none])
        (Economy.new Economy.scarceConfig Economy.calmConfig),
      ∃ s, t.before.Examines none s ∧ s.mineral.quantity < s.mineral.consumption ∧
        0 < s.mineral.consumption ∧ s.mineral.quantity / s.mineral.consumption < 1 := by
  have all := (no_division_by_zero Economy.scarceConfig Economy.calmConfig true
    (Economy.scarceSites ++ [.tick none])).2.1
  have ticked : ⟨Economy.scarce, (Economy.scarce.tick none).state⟩ ∈
      Economy.history (Economy.scarceSites ++ [.tick none])
        (Economy.new Economy.scarceConfig Economy.calmConfig) := .head _
  have examined : Economy.scarce.Examines none (Economy.scarce.producing none).state :=
    Economy.answer_tick_iff.mp Economy.answer_tick_scarce
  obtain ⟨-, -, share⟩ := all _ ticked none _ examined
  obtain ⟨asked, -, part⟩ := share Economy.short_scarce
  exact ⟨_, ticked, _, examined, Economy.short_scarce, asked, part⟩

end Colony

import Colony.Proofs.Economy.Solvent
import Colony.Proofs.Plague.Log

/-!
# The account of the economy

Whatever the economy does, its notes account for it: the ticks counted, the
mines and refineries told of, and the stocks as the gauges show them.  A tick
may fail after the plague has moved, or even within the stocks.  Its stocks are
then at the levels of the last tick that did not fail, and so at those shown.
-/

namespace Colony

variable {α β γ : Type}

/-! ## Counts and kinds -/

def countsOf (name : String) (notes : List (Note α)) : Nat := notes.countP (·.counts name)

def kindsOf (kind : String) (notes : List (Note α)) : Nat :=
  (drafts notes).countP (·.kind = kind)

theorem countsOf_append (name : String) (first last : List (Note α)) :
    countsOf name (first ++ last) = countsOf name first + countsOf name last :=
  List.countP_append

theorem kindsOf_append (kind : String) (first last : List (Note α)) :
    kindsOf kind (first ++ last) = kindsOf kind first + kindsOf kind last := by
  rw [kindsOf, drafts_append, List.countP_append]
  rfl

/-- Whether a note counts or tells nothing but these. -/
def Note.within (counters kinds : List String) : Note α → Bool
  | .count name => counters.contains name
  | .event draft => kinds.contains draft.kind
  | .gauge _ _ => true
  | .rank .. => true

def Tells (counters kinds : List String) (notes : List (Note α)) : Prop :=
  notes.all (·.within counters kinds) = true

namespace Tells

variable {counters kinds : List String} {notes more : List (Note α)}

theorem append (h : Tells counters kinds notes) (h' : Tells counters kinds more) :
    Tells counters kinds (notes ++ more) := by
  rw [Tells, List.all_append, Bool.and_eq_true]
  exact ⟨h, h'⟩

theorem mono (h : Tells counters kinds notes) {counters' kinds' : List String}
    (moreCounters : counters ⊆ counters') (moreKinds : kinds ⊆ kinds') :
    Tells counters' kinds' notes := by
  refine List.all_eq_true.mpr fun note member => ?_
  have within := List.all_eq_true.mp h note member
  cases note with
  | count name => exact List.contains_iff_mem.mpr (moreCounters (List.contains_iff_mem.mp within))
  | gauge name value => rfl
  | event draft => exact List.contains_iff_mem.mpr (moreKinds (List.contains_iff_mem.mp within))
  | rank board key score payload => rfl

theorem countsOf_eq_zero (h : Tells counters kinds notes) {name : String}
    (other : counters.contains name = false) : countsOf name notes = 0 := by
  refine List.countP_eq_zero.mpr fun note member counts => ?_
  have within := List.all_eq_true.mp h note member
  cases note with
  | count known =>
      have same : known = name := beq_iff_eq.mp counts
      rw [Note.within, same, other] at within
      cases within
  | gauge name value => cases counts
  | event draft => cases counts
  | rank board key score payload => cases counts

theorem kind_mem (h : Tells counters kinds notes) :
    ∀ draft ∈ drafts notes, draft.kind ∈ kinds := by
  intro draft member
  obtain ⟨note, told, drafted⟩ := List.mem_filterMap.mp member
  have within := List.all_eq_true.mp h note told
  cases note with
  | event other =>
      cases drafted
      exact List.contains_iff_mem.mp within
  | count name => cases drafted
  | gauge name value => cases drafted
  | rank board key score payload => cases drafted

theorem kindsOf_eq_zero (h : Tells counters kinds notes) {kind : String}
    (other : kinds.contains kind = false) : kindsOf kind notes = 0 := by
  refine List.countP_eq_zero.mpr fun draft member same => ?_
  have known := List.contains_iff_mem.mpr (h.kind_mem draft member)
  rw [of_decide_eq_true same, other] at known
  cases known

end Tells

namespace Economy

/-! ## Steady stocks -/

/-- Stocks that nothing is made of stay at nothing under a throttle that is too large to round, so
that such a throttle adds no more than a zero to nothing before a tick fails. -/
structure Steady (c : Config Amount) (limit : Amount) (refineries : List (Refinery Amount))
    (levels : Resource → Amount) : Prop where
  sim : c.simProduction.whole? = some 0 → ¬ limit.Fits → levels .sim = 0
  rapidlum : refineries = [] → ¬ limit.Fits → levels .rapidlum = 0

/-- An idle production leaves nothing at nothing, without a throttle or under one too large. -/
theorem Stock.gained_of_idle {s : Stock Amount} {throttle : Amount} (nothing : s.quantity = 0)
    (idle : s.production.whole? = some 0) (gains : s.Gains throttle)
    (unthrottled : throttle = 1 ∨ ¬ throttle.Fits) : (s.gained throttle).quantity = 0 := by
  rcases unthrottled with rfl | unfit
  · rw [gained, nothing]
    generalize s.production = production at idle
    cases production with
    | whole n =>
        cases idle
        rfl
    | flag b =>
        cases b with
        | false => rfl
        | true => cases idle
    | binary x => cases idle
    | overflow => cases idle
  · have binary : s.quantity.IsBinary := nothing ▸ .zero
    rw [(gained_of_not_fits binary gains unfit).2, nothing]
    rfl

theorem Stock.floor_of_zero {s : Stock Amount} (nothing : s.quantity = 0) :
    s.floor.quantity = 0 := by
  rw [floor, if_neg (by rw [nothing]; exact Scalar.lt_irrefl 0), nothing]

section Tick

variable {c : Config Amount} {refineries : List (Refinery Amount)} {s : Stocks Amount}
variable {limit throttle : Amount}

theorem Steady.tick (h : Steady c limit refineries s.levels) (solvent : s.Solvent)
    (taken : s.Taken c refineries) (above : ¬ throttle < 0)
    (bounded : throttle = 1 ∨ throttle = limit) :
    (s.tick throttle).notes = [] ∧
      ((∃ failure, (s.tick throttle).answer = .error failure) ∧
          (s.tick throttle).state.levels = s.levels ∨
        (s.tick throttle).answer = .ok () ∧
          Steady c limit refineries (s.tick throttle).state.levels) := by
  have unbounded (unfit : ¬ throttle.Fits) : ¬ limit.Fits := by
    rcases bounded with rfl | rfl
    · exact absurd Amount.IsBinary.one.fits unfit
    · exact unfit
  have unthrottled (unfit : ¬ limit.Fits) : throttle = 1 ∨ ¬ throttle.Fits :=
    bounded.imp_right fun same => by
      rw [same]
      exact unfit
  have simIdle (gains : s.sim.Gains throttle) (unfit : ¬ limit.Fits)
      (idle : c.simProduction.whole? = some 0) : (s.sim.gained throttle).quantity = 0 :=
    Stock.gained_of_idle (h.sim idle unfit) (taken.sim ▸ idle) gains (unthrottled unfit)
  have rapidlumIdle (gains : s.rapidlum.Gains throttle) (unfit : ¬ limit.Fits)
      (none : refineries = []) : (s.rapidlum.gained throttle).quantity = 0 :=
    Stock.gained_of_idle (h.rapidlum none unfit) (by rw [(taken.unrefined none).1]; rfl) gains
      (unthrottled unfit)
  have simKept (gains : s.sim.Gains throttle) (unfit : ¬ throttle.Fits) :
      (s.sim.gained throttle).quantity = s.levels .sim := by
    have idle : s.sim.production.whole? = some 0 :=
      (Stock.gained_of_not_fits (solvent .sim).binary gains unfit).1
    rw [taken.sim] at idle
    rw [simIdle gains (unbounded unfit) idle, h.sim idle (unbounded unfit)]
  have rapidlumKept (gains : s.rapidlum.Gains throttle) (unfit : ¬ throttle.Fits) :
      (s.rapidlum.gained throttle).quantity = s.levels .rapidlum := by
    have idle : s.rapidlum.production.whole? = some 0 :=
      (Stock.gained_of_not_fits (solvent .rapidlum).binary gains unfit).1
    have none := taken.eq_nil idle
    rw [rapidlumIdle gains (unbounded unfit) none, h.rapidlum none (unbounded unfit)]
  rcases s.produce_cases throttle with
    stopped | ⟨sim, ⟨none, stopped⟩ | ⟨rapidlum, ⟨none, stopped⟩ | ⟨mineral, complete⟩⟩⟩
  · rw [Stocks.tick, stopped]
    exact ⟨rfl, .inl ⟨⟨_, rfl⟩, rfl⟩⟩
  · have unfit := solvent.not_fits taken (.inl none)
    rw [Stocks.tick, stopped]
    refine ⟨rfl, .inl ⟨⟨_, rfl⟩, funext fun r => ?_⟩⟩
    cases r with
    | sim => exact simKept sim unfit
    | rapidlum => rfl
    | mineral => rfl
  · have unfit := solvent.not_fits taken (.inr none)
    rw [Stocks.tick, stopped]
    refine ⟨rfl, .inl ⟨⟨_, rfl⟩, funext fun r => ?_⟩⟩
    cases r with
    | sim => exact simKept sim unfit
    | rapidlum => exact rapidlumKept rapidlum unfit
    | mineral => rfl
  · have made : (s.produce throttle).answer = .ok () := by rw [complete]; rfl
    have tested := solvent.tested taken above made
    rw [complete] at tested
    rw [Stocks.tick, complete]
    refine ⟨rfl, .inr ⟨rfl, fun idle unfit => ?_, fun none unfit => ?_⟩⟩
    · refine (congrArg Stock.quantity (Stocks.sim_refine throttle _)).trans ?_
      exact Stock.floor_of_zero (simIdle sim unfit idle)
    · -- Where there are no refineries nothing is asked for, so that mineral does not run short.
      have enough : ¬ (s.mineral.gained throttle).quantity < s.mineral.consumption := by
        rw [(taken.unrefined none).2]
        exact Amount.not_lt_whole_zero tested.mineral.nonneg
      refine (congrArg Stock.quantity (Stocks.rapidlum_refine enough)).trans ?_
      exact Stock.floor_of_zero (rapidlumIdle rapidlum unfit none)

end Tick

/-! ## What an operation accounts for -/

def mineAdded : String := "MINE_ADDED"

def refineryAdded : String := "REFINERY_ADDED"

def counters : List String := [tickCounter, Plague.activations]

def eventKinds : List String :=
  [mineAdded, refineryAdded, Plague.warning, Plague.awakened, Plague.cleared]

/-- What every run keeps of the economy. -/
structure Kept (e : Economy Amount) : Prop where
  heard : e.plagueHeard = true
  mines : e.status.mines = e.mines.length
  refineries : e.status.refineries = e.refineries.length
  throttle : e.plague.throttle = 1 ∨ e.plague.throttle = e.plagueConfig.throttle
  solvent : e.Solvent
  steady : Steady e.config e.plagueConfig.throttle e.refineries e.status.stocks.levels

/-- The stocks are at the levels that are shown, or nothing is shown of them and they, like the
count of ticks, have not changed. -/
def Gauged (e : Economy Amount) (notes : List (Note Amount)) (next : Economy Amount) : Prop :=
  (∀ r, shown (stockGauge r) notes = some (.num (next.status.stocks.levels r))) ∨
    next.status.tickCount = e.status.tickCount ∧
      next.status.stocks.levels = e.status.stocks.levels ∧
      ∀ r, shown (stockGauge r) notes = none

theorem Gauged.trans {e next last : Economy Amount} {notes more : List (Note Amount)}
    (h : Gauged e notes next) (h' : Gauged next more last) : Gauged e (notes ++ more) last := by
  rcases h' with now | ⟨counted, levels, silent⟩
  · exact .inl fun r => by rw [shown_append, now r, Option.some_or]
  · rcases h with before | ⟨earlier, stood, quiet⟩
    · exact .inl fun r => by rw [shown_append, silent r, Option.none_or, before r, levels]
    · exact .inr ⟨counted.trans earlier, levels.trans stood, fun r => by
        rw [shown_append, silent r, Option.none_or, quiet r]⟩

/-- The notes of an operation account for what it has done, whether it answers or fails. -/
structure Accounted (e : Economy Amount) (o : Outcome (Economy Amount) Amount β) : Prop where
  ticks : o.state.status.tickCount = e.status.tickCount + countsOf tickCounter o.notes
  mines : o.state.mines.length = e.mines.length + kindsOf mineAdded o.notes
  refineries : o.state.refineries.length = e.refineries.length + kindsOf refineryAdded o.notes
  stocks : Gauged e o.notes o.state
  tells : Tells counters eventKinds o.notes
  kept : o.state.Kept

namespace Accounted

variable {e : Economy Amount}

theorem andThen {o : Outcome (Economy Amount) Amount β}
    {next : β → Economy Amount → Outcome (Economy Amount) Amount γ} (first : Accounted e o)
    (rest : ∀ b, o.answer = .ok b → Accounted o.state (next b o.state)) :
    Accounted e (o.andThen next) := by
  obtain ⟨answer, notes, state⟩ := o
  cases answer with
  | error failure =>
      exact ⟨first.ticks, first.mines, first.refineries, first.stocks, first.tells, first.kept⟩
  | ok b =>
      have later := rest b rfl
      refine ⟨?_, ?_, ?_, first.stocks.trans later.stocks, first.tells.append later.tells,
        later.kept⟩
      · simp only [Outcome.andThen, countsOf_append]
        rw [later.ticks, first.ticks, Nat.add_assoc]
      · simp only [Outcome.andThen, kindsOf_append]
        rw [later.mines, first.mines, Nat.add_assoc]
      · simp only [Outcome.andThen, kindsOf_append]
        rw [later.refineries, first.refineries, Nat.add_assoc]

theorem map {o : Outcome (Economy Amount) Amount β} (h : Accounted e o) (f : β → γ) :
    Accounted e (o.map f) :=
  ⟨h.ticks, h.mines, h.refineries, h.stocks, h.tells, h.kept⟩

/-- Nothing is told where nothing that is accounted for has changed. -/
theorem of_silent {o : Outcome (Economy Amount) Amount β} (silent : o.notes = [])
    (ticks : o.state.status.tickCount = e.status.tickCount) (mines : o.state.mines = e.mines)
    (refineries : o.state.refineries = e.refineries)
    (levels : o.state.status.stocks.levels = e.status.stocks.levels) (kept : o.state.Kept) :
    Accounted e o := by
  refine ⟨?_, ?_, ?_, .inr ⟨ticks, levels, fun r => ?_⟩, ?_, kept⟩ <;> rw [silent]
  · exact ticks
  · rw [mines]
    rfl
  · rw [refineries]
    rfl
  · rfl
  · rfl

theorem of_read (kept : e.Kept) (read : Answer Amount β) : Accounted e (Outcome.of read e) :=
  .of_silent rfl rfl rfl rfl rfl kept

end Accounted

end Economy

namespace Plague

/-! ## Ticks of the plague -/

variable [Scalar α]

theorem tells_tickNotes (c : Config α) (r : TickReport α) (n : Int) :
    Tells [activations] [warning, awakened, cleared] (tickNotes c r n) := by
  refine .append (.append rfl ?_) ?_
  · unfold warningNotes
    split <;> rfl
  · unfold heartNotes
    cases r.heartChanged <;> cases r.heart <;> rfl

theorem silent_tickNotes (c : Config α) (r : TickReport α) (n : Int)
    (stock : Economy.Resource) : shown (Economy.stockGauge stock) (tickNotes c r n) = none := by
  have gauges (x y : Value α) : shown (Economy.stockGauge stock)
      [.gauge counterGauge x, .gauge throttleGauge y] = none := by
    cases stock <;> rfl
  have events : shown (Economy.stockGauge stock)
      (warningNotes c r n ++ heartNotes c r n) = none := by
    unfold warningNotes heartNotes
    split <;> cases r.heartChanged <;> cases r.heart <;> rfl
  rw [tickNotes, List.append_assoc, shown_append _ _ (_ ++ _), events, gauges]
  rfl

theorem tick_cases (c : Config α) (rebellion trauma : α) (number : Int) (p : State α) :
    tick c rebellion trauma number p = .fail .overflow p ∨
      ∃ report moved, tick c rebellion trauma number p =
          ⟨.ok report, tickNotes c report number, moved⟩ ∧
        (moved.throttle = 1 ∨ moved.throttle = c.throttle) := by
  unfold tick move
  split
  · exact .inl rfl
  · refine .inr ⟨_, _, rfl, ?_⟩
    simp only [advance, throttleFor]
    split
    · exact .inr rfl
    · exact .inl rfl

end Plague

namespace Economy

/-! ## Ticks -/

section Ticks

variable {e : Economy Amount}

theorem accounted_rate (kept : e.Kept) :
    Accounted e (e.onStocks (Stocks.rate e.config e.mines e.refineries)) := by
  obtain ⟨silent, levels, -⟩ := Stocks.rate_cases e.config e.mines e.refineries e.status.stocks
  refine .of_silent silent rfl rfl rfl levels ?_
  exact { kept with
    solvent := kept.solvent.of_same rfl rfl levels, steady := levels ▸ kept.steady }

theorem accounted_tickPlague (kept : e.Kept) (rebellion trauma : Amount) (number : Int) :
    Accounted e (e.onPlague (Plague.tick e.plagueConfig rebellion trauma number)) := by
  rcases Plague.tick_cases e.plagueConfig rebellion trauma number e.plague with
    failed | ⟨report, moved, ticked, throttle⟩
  · rw [onPlague, failed]
    exact .of_silent (ite_self _) rfl rfl rfl rfl
      { kept with solvent := kept.solvent.of_same rfl rfl rfl }
  · have tells := Plague.tells_tickNotes e.plagueConfig report number
    rw [onPlague, ticked, kept.heard]
    refine ⟨?_, ?_, ?_, .inr ⟨rfl, rfl, Plague.silent_tickNotes _ _ _⟩,
      tells.mono (by decide) (by decide), { kept with
        heard := rfl, throttle := throttle, solvent := kept.solvent.of_same rfl rfl rfl }⟩
    · exact (congrArg (e.status.tickCount + ·) (tells.countsOf_eq_zero rfl)).symm
    · exact (congrArg (e.mines.length + ·) (tells.kindsOf_eq_zero rfl)).symm
    · exact (congrArg (e.refineries.length + ·) (tells.kindsOf_eq_zero rfl)).symm

theorem shown_tickNotes (s : Status α) (r : Resource) :
    shown (stockGauge r) (tickNotes s) = some (.num (s.stocks.levels r)) := by
  cases r <;> rfl

theorem accounted_settle (kept : e.Kept) (taken : e.status.stocks.Taken e.config e.refineries) :
    Accounted e e.settle := by
  have bounded : effectiveThrottle e.plague.throttle = 1 ∨
      effectiveThrottle e.plague.throttle = e.plagueConfig.throttle := by
    rcases effectiveThrottle_cases e.plague.throttle with one | same
    · exact .inl one
    · rw [same]
      exact kept.throttle
  have parts : e.settle = (e.withPlague.onStocks
      (Stocks.tick (effectiveThrottle e.plague.throttle))).andThen fun _ settled =>
        settled.conclude := rfl
  obtain ⟨silent, ⟨⟨failure, failed⟩, levels⟩ | ⟨done, steady⟩⟩ :=
    kept.steady.tick kept.solvent.stocks taken (effectiveThrottle_not_neg _) bounded
  · have answer : (e.withPlague.onStocks
        (Stocks.tick (effectiveThrottle e.plague.throttle))).answer = .error failure := failed
    rw [parts, Outcome.andThen, answer]
    refine .of_silent silent rfl rfl rfl levels ?_
    exact { kept with
      solvent := kept.solvent.of_same rfl rfl levels, steady := levels ▸ kept.steady }
  · have answer : (e.withPlague.onStocks
        (Stocks.tick (effectiveThrottle e.plague.throttle))).answer = .ok () := done
    have notes : e.settle.notes = tickNotes e.settle.state.status := by
      have told : (e.withPlague.onStocks
          (Stocks.tick (effectiveThrottle e.plague.throttle))).notes = [] := silent
      rw [parts, Outcome.andThen, answer, told]
      rfl
    have counted : e.settle.state.status.tickCount = e.status.tickCount + 1 := by
      rw [parts, Outcome.state_andThen_of_ok answer]
      rfl
    refine ⟨?_, ?_, ?_, .inl fun r => ?_, ?_, ?_⟩
    · rw [notes, counted]
      rfl
    · rw [notes, parts, Outcome.state_andThen_of_ok answer]
      rfl
    · rw [notes, parts, Outcome.state_andThen_of_ok answer]
      rfl
    · rw [notes]
      exact shown_tickNotes _ r
    · rw [notes]
      rfl
    · rw [parts, Outcome.state_andThen_of_ok answer]
      exact { kept with
        solvent := ⟨kept.solvent.yields, kept.solvent.works, kept.solvent.stocks.tick taken _⟩
        steady := steady }

theorem accounted_tick (kept : e.Kept) (trauma : Option Amount) :
    Accounted e (e.tick trauma) := by
  simp only [tick]
  refine (accounted_rate kept).andThen fun b done => ?_
  have taken := Stocks.taken_rate kept.solvent.yields kept.solvent.works done
  have rated := (accounted_rate kept).kept
  refine (Accounted.of_read rated _).andThen fun felt read => ?_
  refine (accounted_tickPlague rated _ _ _).andThen fun report moved => ?_
  exact accounted_settle (accounted_tickPlague rated _ _ _).kept taken

theorem accounted_ticks (kept : e.Kept) (trauma : Option Amount) (more : Nat) :
    Accounted e (e.ticks trauma more) := by
  induction more generalizing e with
  | zero => exact accounted_tick kept trauma
  | succ more ih =>
      exact (accounted_tick kept trauma).andThen fun _ _ => ih (accounted_tick kept trauma).kept

theorem accounted_advance (kept : e.Kept) (times : Value Amount) (trauma : Option Amount) :
    Accounted e (e.advance times trauma) := by
  unfold advance
  split
  · exact accounted_ticks kept trauma _
  · exact .of_silent rfl rfl rfl rfl rfl kept

end Ticks

/-! ## All operations -/

def Operation.isCleansing : Operation α → Bool
  | .cleanse => true
  | .addMine _ => false
  | .addRefinery _ => false
  | .setPopulation _ _ => false
  | .tick _ => false
  | .advance _ _ => false

theorem Operation.accounted {op : Operation Amount} (other : op.isCleansing = false)
    {e : Economy Amount} (kept : e.Kept) : Accounted e (op.perform e) := by
  cases op with
  | addMine yieldRate =>
      have solvent := kept.solvent.perform (.addMine yieldRate)
      rcases addMine_cases yieldRate e with ⟨-, same⟩ | ⟨-, same⟩
      · rw [perform, same] at solvent ⊢
        refine ⟨rfl, List.length_append, rfl, .inr ⟨rfl, rfl, fun r => rfl⟩, rfl, ?_⟩
        refine { kept with mines := ?_, solvent := solvent }
        simp [Outcome.map, openMine, withMine]
      · rw [perform, same]
        exact .of_silent rfl rfl rfl rfl rfl kept
  | addRefinery efficiency =>
      have solvent := kept.solvent.perform (.addRefinery efficiency)
      rcases addRefinery_cases efficiency e with ⟨-, same⟩ | ⟨-, same⟩
      · rw [perform, same] at solvent ⊢
        refine ⟨rfl, rfl, List.length_append, .inr ⟨rfl, rfl, fun r => rfl⟩, rfl, ?_⟩
        refine { kept with refineries := ?_, solvent := solvent, steady := ?_ }
        · simp [Outcome.map, openRefinery, withRefinery]
        · exact ⟨kept.steady.sim, fun none => absurd none (List.append_ne_nil_of_right_ne_nil _
            (List.cons_ne_nil _ _))⟩
      · rw [perform, same]
        exact .of_silent rfl rfl rfl rfl rfl kept
  | setPopulation rebellion npcs =>
      rcases setPopulation_cases rebellion npcs e with
        ⟨-, same⟩ | ⟨-, ⟨failure, -, same⟩ | ⟨n, -, same⟩⟩
      all_goals
        rw [perform, same]
        exact .of_silent rfl rfl rfl rfl rfl
          { kept with solvent := kept.solvent.of_same rfl rfl rfl }
  | tick trauma => exact (accounted_tick kept trauma).map _
  | advance times trauma => exact (accounted_advance kept times trauma).map _
  | cleanse => cases other

end Economy

end Colony

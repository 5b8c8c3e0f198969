import Colony.Economy
import Colony.Proofs.Scalar.Quotient

/-!
# The levels of the stocks

What a tick does to the stocks in amounts.  Rates are binary numbers, or whole
zeros where there are no sites; levels are binary and not below zero.  A stock
gains under any throttle that can be rounded; under another one it cannot gain,
or it gains a whole zero.  A tick floors every stock in the end, and one that
fails has added nothing but zeros.
-/

namespace Colony

namespace Amount

/-- What a level is: a binary number that is not below zero. -/
structure Held (x : Amount) : Prop where
  binary : x.IsBinary
  nonneg : ¬ x < 0

theorem held_zero : (0 : Amount).Held := ⟨.zero, Scalar.lt_irrefl 0⟩

theorem whole_zero_mul_fits {y : Amount} (fits : y.Fits) : (.whole 0 * y : Amount).Fits := by
  cases whole : y.whole? with
  | some n =>
      have product : (.whole 0 * y : Amount) = .whole (0 * n) := by
        change calculate (· * ·) (· * ·) (.whole 0) y = _
        simp only [calculate, whole]
        rfl
      rw [product, Int.zero_mul]
      exact fits_whole_zero
  | none =>
      have product : (.whole 0 * y : Amount) = inBinary (· * ·) (.whole 0) y :=
        calculate_eq_inBinary (.inr whole) _ _
      rw [product]
      exact (fits_whole_zero.inBinary fits _).fits

theorem Summed.mul_fits {x y : Amount} (h : x.Summed) (fits : y.Fits) : (x * y).Fits := by
  rcases h with rfl | binary
  · exact whole_zero_mul_fits fits
  · exact (binary.mul fits).fits

theorem not_lt_whole_zero {x : Amount} (nonneg : ¬ x < 0) : ¬ x < .whole 0 := by
  have same : Scalar.exact (Amount.whole 0) = Scalar.exact (0 : Amount) := by
    rw [Scalar.exact_zero]
    rfl
  rwa [Scalar.lt_iff_exact, same, ← Scalar.lt_iff_exact]

end Amount

namespace Economy

/-! ## Levels and gains -/

section Gains

variable {α : Type}

def Stocks.levels (s : Stocks α) (r : Resource) : α := (s.get r).quantity

variable [Scalar α] {throttle : α} {s : Stocks α}

def Stock.gained (throttle : α) (s : Stock α) : Stock α :=
  { s with quantity := s.quantity + s.production * throttle }

/-- Whether a stock can gain what it produces. -/
def Stock.Gains (throttle : α) (s : Stock α) : Prop :=
  Scalar.overflown (s.gained throttle).quantity = false

theorem Stocks.gain_of_gains {r : Resource} (gains : (s.get r).Gains throttle) :
    s.gain throttle r = .done () (s.set r ((s.get r).gained throttle)) :=
  if_neg fun overflown => Bool.false_ne_true (gains.symm.trans overflown)

theorem Stocks.gain_of_not_gains {r : Resource} (overflows : ¬ (s.get r).Gains throttle) :
    s.gain throttle r = .fail .overflow s :=
  if_pos (Bool.eq_true_of_not_eq_false overflows)

/-- Sim is made first, then rapidlum, then mineral, up to the first that cannot gain. -/
theorem Stocks.produce_cases (throttle : α) (s : Stocks α) :
    s.produce throttle = .fail .overflow s ∨
      s.sim.Gains throttle ∧
        (¬ s.rapidlum.Gains throttle ∧
            s.produce throttle = .fail .overflow { s with sim := s.sim.gained throttle } ∨
          s.rapidlum.Gains throttle ∧
            (¬ s.mineral.Gains throttle ∧ s.produce throttle = .fail .overflow { s with
                sim := s.sim.gained throttle, rapidlum := s.rapidlum.gained throttle } ∨
              s.mineral.Gains throttle ∧ s.produce throttle = .done ()
                ⟨s.sim.gained throttle, s.rapidlum.gained throttle,
                  s.mineral.gained throttle⟩)) := by
  by_cases first : s.sim.Gains throttle
  · have sim : s.gain throttle .sim = .done () { s with sim := s.sim.gained throttle } :=
      gain_of_gains first
    refine .inr ⟨first, ?_⟩
    rw [produce, sim, Outcome.done_andThen]
    by_cases second : s.rapidlum.Gains throttle
    · have rapidlum : ({ s with sim := s.sim.gained throttle } : Stocks α).gain throttle .rapidlum =
          .done () { s with
            sim := s.sim.gained throttle, rapidlum := s.rapidlum.gained throttle } :=
        gain_of_gains second
      refine .inr ⟨second, ?_⟩
      rw [rapidlum, Outcome.done_andThen]
      by_cases third : s.mineral.Gains throttle
      · exact .inr ⟨third, gain_of_gains third⟩
      · exact .inl ⟨third, gain_of_not_gains third⟩
    · have stopped : ({ s with sim := s.sim.gained throttle } : Stocks α).gain throttle .rapidlum =
          .fail .overflow { s with sim := s.sim.gained throttle } := gain_of_not_gains second
      rw [stopped]
      exact .inl ⟨second, rfl⟩
  · have stopped : s.gain throttle .sim = .fail .overflow s := gain_of_not_gains first
    rw [produce, stopped]
    exact .inl rfl

theorem Stocks.sim_refine (throttle : α) (s : Stocks α) :
    (s.refine throttle).floor.sim = s.sim.floor := by
  unfold refine
  split <;> rfl

theorem Stocks.rapidlum_refine (enough : ¬ s.mineral.quantity < s.mineral.consumption) :
    (s.refine throttle).floor.rapidlum = s.rapidlum.floor := by
  rw [refine, if_neg enough]
  rfl

theorem effectiveThrottle_cases (throttle : α) :
    effectiveThrottle throttle = 1 ∨ effectiveThrottle throttle = throttle := by
  unfold effectiveThrottle
  split
  · exact .inl rfl
  · exact .inr rfl

/-! ### What does not go below zero -/

theorem atLeast_not_neg (value : α) : ¬ Scalar.atLeast 0 value < 0 := by
  unfold Scalar.atLeast
  split
  · rename_i above
    exact fun below => Scalar.lt_irrefl _ (Scalar.lt_trans above below)
  · exact Scalar.lt_irrefl 0

theorem effectiveThrottle_not_neg (throttle : α) : ¬ effectiveThrottle throttle < 0 := by
  unfold effectiveThrottle
  split
  · exact fun below => Scalar.lt_irrefl _ (Scalar.lt_trans Scalar.zero_lt_one below)
  · rename_i above
    exact fun below => above (Scalar.le_of_lt below)

theorem Stock.floor_not_neg (s : Stock α) : ¬ s.floor.quantity < 0 := by
  unfold Stock.floor
  split
  · exact Scalar.lt_irrefl 0
  · assumption

end Gains

/-! ## One stock -/

namespace Stock

variable {s : Stock Amount} {throttle : Amount} (level : s.quantity.IsBinary)
include level

theorem gains_of_fits (rate : s.production.Summed) (fits : throttle.Fits) : s.Gains throttle :=
  (level.add (rate.mul_fits fits)).overflown

theorem floor_isBinary : s.floor.quantity.IsBinary := by
  unfold floor
  split
  · exact .zero
  · exact level

variable (gains : s.Gains throttle)
include gains

theorem gained_isBinary : (s.gained throttle).quantity.IsBinary :=
  .of_whole? (Amount.whole?_add level.whole? _) gains

theorem product_fits : (s.production * throttle).Fits := level.fits_of_add gains

theorem gained_of_not_fits (unfit : ¬ throttle.Fits) :
    s.production.whole? = some 0 ∧ (s.gained throttle).quantity = s.quantity + .whole 0 := by
  obtain ⟨idle, zero⟩ := Amount.mul_eq_zero_of_not_fits unfit (product_fits level gains)
  exact ⟨idle, by rw [gained, zero]⟩

end Stock

theorem Stock.held_gained {s : Stock Amount} {throttle : Amount} (held : s.quantity.Held)
    (gains : s.Gains throttle) (unfit : ¬ throttle.Fits) : (s.gained throttle).quantity.Held := by
  refine ⟨gained_isBinary held.binary gains, ?_⟩
  rw [(gained_of_not_fits held.binary gains unfit).2]
  exact Amount.add_not_neg held.nonneg (Amount.whole_not_neg le_rfl)

/-! ## The stocks of one tick -/

/-- Stocks with rates that a tick has just written.  A whole zero stands where there are no
sites. -/
structure Stocks.Taken (c : Config Amount) (refineries : List (Refinery Amount))
    (s : Stocks Amount) : Prop where
  sim : s.sim.production = c.simProduction
  mined : s.mineral.production.Summed
  yield : ¬ s.mineral.production < 0
  refined : refineries ≠ [] → s.rapidlum.production.IsBinary ∧ s.mineral.consumption.IsBinary
  unrefined : refineries = [] →
    s.rapidlum.production = .whole 0 ∧ s.mineral.consumption = .whole 0

def Stocks.Solvent (s : Stocks Amount) : Prop := ∀ r, (s.levels r).Held

/-- Stocks that come to the question whether mineral runs short. -/
structure Stocks.Tested (s : Stocks Amount) : Prop where
  mineral : s.mineral.quantity.Held
  demand : s.mineral.consumption.Summed

namespace Stocks

variable {c : Config Amount} {refineries : List (Refinery Amount)} {s : Stocks Amount}
variable {throttle : Amount}

theorem Taken.rapidlum (taken : s.Taken c refineries) : s.rapidlum.production.Summed := by
  by_cases none : refineries = []
  · exact .inl (taken.unrefined none).1
  · exact .inr (taken.refined none).1

theorem Taken.demand (taken : s.Taken c refineries) : s.mineral.consumption.Summed := by
  by_cases none : refineries = []
  · exact .inl (taken.unrefined none).2
  · exact .inr (taken.refined none).2

theorem Taken.eq_nil (taken : s.Taken c refineries)
    (idle : s.rapidlum.production.whole? = some 0) : refineries = [] := by
  by_contra some
  rw [(taken.refined some).1.whole?] at idle
  cases idle

theorem Tested.share (h : s.Tested) (short : s.mineral.quantity < s.mineral.consumption) :
    0 < s.mineral.consumption ∧ 0 ≤ s.mineral.quantity / s.mineral.consumption ∧
      s.mineral.quantity / s.mineral.consumption < 1 := by
  have demand : s.mineral.consumption.IsBinary := by
    refine h.demand.resolve_left fun none => ?_
    rw [none] at short
    exact Amount.not_lt_whole_zero h.mineral.nonneg short
  exact ⟨Amount.divisor_pos h.mineral.nonneg short,
    Amount.quotient_in_range h.mineral.binary demand h.mineral.nonneg short⟩

theorem Solvent.of_levels {t : Stocks Amount} (h : s.Solvent) (levels : t.levels = s.levels) :
    t.Solvent :=
  fun r => levels ▸ h r

/-- Production stops only under a throttle that cannot be rounded. -/
theorem Solvent.not_fits (h : s.Solvent) (taken : s.Taken c refineries)
    (stopped : ¬ s.rapidlum.Gains throttle ∨ ¬ s.mineral.Gains throttle) : ¬ throttle.Fits := by
  intro fits
  rcases stopped with rapidlum | mineral
  · exact rapidlum (Stock.gains_of_fits (h .rapidlum).binary taken.rapidlum fits)
  · exact mineral (Stock.gains_of_fits (h .mineral).binary taken.mined fits)

theorem Solvent.tested (h : s.Solvent) (taken : s.Taken c refineries) (above : ¬ throttle < 0)
    (made : (s.produce throttle).answer = .ok ()) : (s.produce throttle).state.Tested := by
  rcases s.produce_cases throttle with
    stopped | ⟨-, ⟨-, stopped⟩ | ⟨-, ⟨-, stopped⟩ | ⟨gains, complete⟩⟩⟩
  · rw [stopped] at made
    cases made
  · rw [stopped] at made
    cases made
  · rw [stopped] at made
    cases made
  · rw [complete]
    exact ⟨⟨Stock.gained_isBinary (h .mineral).binary gains,
      Amount.add_not_neg (h .mineral).nonneg (Amount.mul_not_neg taken.yield above)⟩, taken.demand⟩

theorem refine_isBinary (binary : ∀ r, (s.levels r).IsBinary)
    (made : (s.rapidlum.production * throttle).Fits) (demand : s.mineral.consumption.Summed)
    (r : Resource) : ((s.refine throttle).floor.levels r).IsBinary := by
  have share : (s.mineral.quantity / s.mineral.consumption).IsBinary :=
    (binary .mineral).fits.inBinary demand.fits _
  unfold refine
  split
  · cases r with
    | sim => exact Stock.floor_isBinary (binary .sim)
    | rapidlum =>
        exact Stock.floor_isBinary (((binary .rapidlum).sub made).add
          (made.calculate share.fits (.inr share) _ _).fits)
    | mineral => exact Stock.floor_isBinary ((binary .mineral).sub (binary .mineral).fits)
  · cases r with
    | sim => exact Stock.floor_isBinary (binary .sim)
    | rapidlum => exact Stock.floor_isBinary (binary .rapidlum)
    | mineral => exact Stock.floor_isBinary ((binary .mineral).sub demand.fits)

theorem floor_not_neg (s : Stocks Amount) (r : Resource) : ¬ s.floor.levels r < 0 := by
  cases r <;> exact Stock.floor_not_neg _

theorem Solvent.tick (h : s.Solvent) (taken : s.Taken c refineries) (throttle : Amount) :
    (s.tick throttle).state.Solvent := by
  rcases s.produce_cases throttle with
    stopped | ⟨sim, ⟨none, stopped⟩ | ⟨rapidlum, ⟨none, stopped⟩ | ⟨mineral, complete⟩⟩⟩
  · rw [Stocks.tick, stopped]
    exact h
  · have unfit := h.not_fits taken (.inl none)
    rw [Stocks.tick, stopped]
    intro r
    cases r with
    | sim => exact Stock.held_gained (h .sim) sim unfit
    | rapidlum => exact h .rapidlum
    | mineral => exact h .mineral
  · have unfit := h.not_fits taken (.inr none)
    rw [Stocks.tick, stopped]
    intro r
    cases r with
    | sim => exact Stock.held_gained (h .sim) sim unfit
    | rapidlum => exact Stock.held_gained (h .rapidlum) rapidlum unfit
    | mineral => exact h .mineral
  · have binary (r : Resource) : (Stocks.levels
        ⟨s.sim.gained throttle, s.rapidlum.gained throttle, s.mineral.gained throttle⟩
          r).IsBinary := by
      cases r with
      | sim => exact Stock.gained_isBinary (h .sim).binary sim
      | rapidlum => exact Stock.gained_isBinary (h .rapidlum).binary rapidlum
      | mineral => exact Stock.gained_isBinary (h .mineral).binary mineral
    have made := Stock.product_fits (h .rapidlum).binary rapidlum
    rw [Stocks.tick, complete]
    exact fun r => ⟨refine_isBinary binary made taken.demand r, floor_not_neg _ r⟩

end Stocks

/-! ## Rates -/

theorem Stocks.rate_cases {α : Type} [Scalar α] (c : Config α) (mines : List (Mine α))
    (refineries : List (Refinery α)) (s : Stocks α) :
    (s.rate c mines refineries).notes = [] ∧
      (s.rate c mines refineries).state.levels = s.levels ∧
      ((∃ failure, (s.rate c mines refineries).answer = .error failure) ∨
        Scalar.overflown (mineralDemand c refineries) = false ∧
          Scalar.overflown (rapidlumProduction c refineries) = false ∧
          s.rate c mines refineries = .done () (s.withRates c mines refineries)) := by
  have written (next : Stocks α) (sim : next.sim.quantity = s.sim.quantity)
      (rapidlum : next.rapidlum.quantity = s.rapidlum.quantity)
      (mineral : next.mineral.quantity = s.mineral.quantity) : next.levels = s.levels := by
    funext r
    cases r with
    | sim => exact sim
    | rapidlum => exact rapidlum
    | mineral => exact mineral
  simp only [Stocks.rate]
  cases demand : Scalar.overflown (mineralDemand c refineries) with
  | true => exact ⟨rfl, written _ rfl rfl rfl, .inl ⟨_, rfl⟩⟩
  | false =>
      cases made : Scalar.overflown (rapidlumProduction c refineries) with
      | true => exact ⟨rfl, written _ rfl rfl rfl, .inl ⟨_, rfl⟩⟩
      | false => exact ⟨rfl, written _ rfl rfl rfl, .inr ⟨rfl, rfl, rfl⟩⟩

/-- The sites' figures are confined, so that what a tick writes is as it should be. -/
theorem Stocks.taken_rate {c : Config Amount} {mines : List (Mine Amount)}
    {refineries : List (Refinery Amount)} {s : Stocks Amount}
    (yields : ∀ m ∈ mines, m.yieldRate.Held) (works : ∀ r ∈ refineries, r.efficiency.IsBinary)
    (rated : (s.rate c mines refineries).answer = .ok ()) :
    (s.rate c mines refineries).state.Taken c refineries := by
  have yielded : ∀ x ∈ mines.map (·.yieldRate), x.Held := by
    intro x member
    obtain ⟨mine, known, rfl⟩ := List.mem_map.mp member
    exact yields mine known
  have refined (figure : Amount) (some : refineries ≠ [])
      (kept : Scalar.overflown (Scalar.total (refineries.map (·.efficiency * figure))) = false) :
      (Scalar.total (refineries.map (·.efficiency * figure))).IsBinary := by
    obtain ⟨first, others, rfl⟩ := List.exists_cons_of_ne_nil some
    have fraction := Amount.whole?_mul (works first List.mem_cons_self).whole? figure
    exact .of_whole? (Amount.whole?_total fraction _) kept
  obtain ⟨-, -, ⟨failure, failed⟩ | ⟨demand, made, written⟩⟩ := rate_cases c mines refineries s
  · rw [failed] at rated
    cases rated
  · rw [written]
    refine ⟨rfl, .total fun x member => (yielded x member).binary,
      Amount.total_not_neg fun x member => (yielded x member).nonneg,
      fun some => ⟨refined _ some made, refined _ some demand⟩, ?_⟩
    rintro rfl
    exact ⟨rfl, rfl⟩

end Economy

end Colony

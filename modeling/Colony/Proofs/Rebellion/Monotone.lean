import Mathlib.Tactic.Linarith
import Colony.Proofs.Rational
import Colony.Rebellion

/-!
# Who is worse off is no less ready to rebel

In exact numbers and under weights that are not negative, the readiness to
rebel never falls when trauma rises or when efficiency or morale fall, and no
threshold that was exceeded is then met again.  Of each figure of a profile
only what is left of it between 0 and 1 counts.
-/

namespace Colony

/-- The one is at least as well off as the other. -/
structure Profile.NoWorse (p q : Profile Rat) : Prop where
  trauma : p.trauma ≤ q.trauma
  efficiency : q.efficiency ≤ p.efficiency
  morale : q.morale ≤ p.morale

/-- The profile with every figure confined to the range from 0 to 1. -/
def Profile.confined {α : Type} [Scalar α] (p : Profile α) : Profile α :=
  { p with
    trauma := Scalar.unit p.trauma
    efficiency := Scalar.unit p.efficiency
    morale := Scalar.unit p.morale }

/-- The same figures are left of both between 0 and 1. -/
structure Profile.Resembles (p q : Profile Rat) : Prop where
  trauma : Scalar.unit p.trauma = Scalar.unit q.trauma
  efficiency : Scalar.unit p.efficiency = Scalar.unit q.efficiency
  morale : Scalar.unit p.morale = Scalar.unit q.morale

namespace Profile

variable {p q r : Profile Rat}

theorem NoWorse.refl (p : Profile Rat) : p.NoWorse p := ⟨le_rfl, le_rfl, le_rfl⟩

theorem NoWorse.trans (h : p.NoWorse q) (h' : q.NoWorse r) : p.NoWorse r :=
  ⟨h.trauma.trans h'.trauma, h'.efficiency.trans h.efficiency, h'.morale.trans h.morale⟩

theorem NoWorse.confined (h : p.NoWorse q) : p.confined.NoWorse q.confined :=
  ⟨unit_mono_rat h.trauma, unit_mono_rat h.efficiency, unit_mono_rat h.morale⟩

theorem NoWorse.resembles (h : p.confined.NoWorse q.confined)
    (h' : q.confined.NoWorse p.confined) : p.Resembles q :=
  ⟨h.trauma.antisymm h'.trauma, h'.efficiency.antisymm h.efficiency, h'.morale.antisymm h.morale⟩

end Profile

namespace Rebellion

structure Config.NonNegative (c : Config Rat) : Prop where
  trauma : 0 ≤ c.traumaWeight
  efficiency : 0 ≤ c.efficiencyWeight
  morale : 0 ≤ c.moraleWeight

/-- The one rebellion is no more probable than the other, and passes no threshold that the other
does not pass. -/
structure Assessment.Milder (a b : Assessment Rat) : Prop where
  probability : a.probability ≤ b.probability
  considered : a.considered = true → b.considered = true
  halts : a.halts = true → b.halts = true
  vetoes : a.vetoes = true → b.vetoes = true

variable {c : Config Rat} {p q : Profile Rat}

/-- The parts of a probability in exact numbers. -/
def partsOf (c : Config Rat) (p : Profile Rat) : Factors Rat where
  base := c.base
  trauma := Scalar.unit p.trauma * c.traumaWeight
  efficiency := (1 - Scalar.unit p.efficiency) * c.efficiencyWeight
  morale := (1 - Scalar.unit p.morale) * c.moraleWeight

/-- What an assessment in exact numbers comes to. -/
def assessed (c : Config Rat) (p : Profile Rat) : Assessment Rat :=
  let probability := Scalar.unit (partsOf c p).total
  { npcId := p.npcId
    probability := probability
    considered := c.considerationThreshold < probability
    halts := c.haltThreshold < probability
    vetoes := c.vetoThreshold < probability
    factors := partsOf c p }

theorem assess_rat (c : Config Rat) (p : Profile Rat) : assess c p = .ok (assessed c p) := rfl

/-! ## Confined figures -/

/-- An assessment sees no more of a profile than its confined figures. -/
theorem assessed_of_confined (same : q.Resembles p) :
    assessed c q = { assessed c p with npcId := q.npcId } := by
  have parts : partsOf c q = partsOf c p := by
    rw [partsOf, partsOf, same.trauma, same.efficiency, same.morale]
  simp only [assessed, parts]

/-- The assessment is that of the profile: a weighed probability, which sees confined figures alone,
and a flag for each threshold below it. -/
structure Assessment.Describes (c : Config Rat) (p : Profile Rat) (a : Assessment Rat) : Prop where
  answer : assess c p = .ok a
  weighed : a.probability = max 0 (min 1 (c.base + Scalar.unit p.trauma * c.traumaWeight +
    (1 - Scalar.unit p.efficiency) * c.efficiencyWeight +
    (1 - Scalar.unit p.morale) * c.moraleWeight))
  confined : ∀ r : Profile Rat, r.Resembles p → assess c r = .ok { a with npcId := r.npcId }
  nonneg : 0 ≤ a.probability
  le_one : a.probability ≤ 1
  considered : a.considered = true ↔ c.considerationThreshold < a.probability
  halts : a.halts = true ↔ c.haltThreshold < a.probability
  vetoes : a.vetoes = true ↔ c.vetoThreshold < a.probability

theorem describes_assessed (c : Config Rat) (p : Profile Rat) :
    (assessed c p).Describes c p where
  answer := rfl
  weighed := unit_rat _
  confined r same := by rw [assess_rat, assessed_of_confined same]
  nonneg := unit_nonneg_rat _
  le_one := unit_le_one_rat _
  considered := decide_eq_true_iff
  halts := decide_eq_true_iff
  vetoes := decide_eq_true_iff

/-- A rebellion that is vetoed halts, and one that halts is considered. -/
def Assessment.Escalates (a : Assessment Rat) : Prop :=
  (a.vetoes = true → a.halts = true) ∧ (a.halts = true → a.considered = true)

theorem Assessment.Describes.escalates {a : Assessment Rat} (describes : a.Describes c p)
    (first : c.considerationThreshold ≤ c.haltThreshold)
    (second : c.haltThreshold ≤ c.vetoThreshold) : a.Escalates := by
  rw [Escalates, describes.vetoes, describes.halts, describes.considered]
  exact ⟨second.trans_lt, first.trans_lt⟩

/-! ## The order of assessments -/

theorem total_mono (weights : c.NonNegative) (h : p.confined.NoWorse q.confined) :
    (partsOf c p).total ≤ (partsOf c q).total := by
  have trauma := mul_le_mul_of_nonneg_right h.trauma weights.trauma
  have efficiency :=
    mul_le_mul_of_nonneg_right (sub_le_sub_left h.efficiency 1) weights.efficiency
  have morale := mul_le_mul_of_nonneg_right (sub_le_sub_left h.morale 1) weights.morale
  exact add_le_add (add_le_add (add_le_add le_rfl trauma) efficiency) morale

theorem assessed_mono (weights : c.NonNegative) (h : p.confined.NoWorse q.confined) :
    (assessed c p).Milder (assessed c q) := by
  have probability : (assessed c p).probability ≤ (assessed c q).probability :=
    unit_mono_rat (total_mono weights h)
  have exceeds : ∀ threshold : Rat, decide (threshold < (assessed c p).probability) = true →
      decide (threshold < (assessed c q).probability) = true := by
    intro threshold exceeded
    rw [decide_eq_true_iff] at exceeded ⊢
    exact exceeded.trans_le probability
  exact ⟨probability, exceeds _, exceeds _, exceeds _⟩

/-- Weights have to be other than negative; the base and the thresholds are free. -/
theorem readiness_monotone (c : Config Rat) (weights : c.NonNegative) {p q : Profile Rat}
    (worse : p.NoWorse q) :
    ∃ a b : Assessment Rat, a.Describes c p ∧ b.Describes c q ∧ a.Milder b ∧
      (c.considerationThreshold ≤ c.haltThreshold → c.haltThreshold ≤ c.vetoThreshold →
        a.Escalates ∧ b.Escalates) := by
  have ofFirst := describes_assessed c p
  have ofSecond := describes_assessed c q
  refine ⟨_, _, ofFirst, ofSecond, assessed_mono weights worse.confined, fun first second => ?_⟩
  exact ⟨ofFirst.escalates first second, ofSecond.escalates first second⟩

/-- Someone who cannot be better off and someone who cannot be worse off, both beyond the range. -/
theorem readiness_monotone_extremes :
    let c : Config Rat :=
      { base := 0.05
        traumaWeight := 0.30
        efficiencyWeight := 0.30
        moraleWeight := 0.20
        considerationThreshold := 0.20
        haltThreshold := 0.35
        vetoThreshold := 0.80 }
    let p : Profile Rat := { npcId := "calm", trauma := -1, efficiency := 2, morale := 7 }
    let q : Profile Rat := { npcId := "crushed", trauma := 3, efficiency := -0.5, morale := 0 }
    c.NonNegative ∧ p.NoWorse q ∧
      ∃ a b : Assessment Rat, a.Describes c p ∧ b.Describes c q ∧ a.Milder b ∧
        a.considered = false ∧ b.vetoes = true ∧ a.Escalates ∧ b.Escalates := by
  intro c p q
  have weights : c.NonNegative := ⟨by decide +kernel, by decide +kernel, by decide +kernel⟩
  have worse : p.NoWorse q := ⟨by decide +kernel, by decide +kernel, by decide +kernel⟩
  obtain ⟨a, b, ofCalm, ofCrushed, milder, escalate⟩ := readiness_monotone c weights worse
  have inOrder := escalate (by decide +kernel) (by decide +kernel)
  have calm : a.considered = false := by
    obtain rfl : assessed c p = a := Except.ok.inj ofCalm.answer
    decide +kernel
  have crushed : b.vetoes = true := by
    obtain rfl : assessed c q = b := Except.ok.inj ofCrushed.answer
    decide +kernel
  exact ⟨weights, worse, a, b, ofCalm, ofCrushed, milder, calm, crushed, inOrder⟩

end Rebellion

end Colony

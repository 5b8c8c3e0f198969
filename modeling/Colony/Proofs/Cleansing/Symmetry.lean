import Mathlib.Tactic.Linarith
import Colony.Proofs.Cleansing.Rate
import Colony.Proofs.Mean
import Colony.Proofs.Operation

/-!
# The rate is a figure of the party as a whole

In exact numbers and under weights that are not negative, the success rate of a
party stays within its range, never falls when a member gets fitter, and does
not depend on the order of the members or on how often all of them are listed.
Of each figure of a member only what is left of it between 0 and 1 counts.
-/

namespace Colony.Cleansing

structure Config.Proper (c : Config Rat) : Prop where
  rates : c.leastRate ≤ c.greatestRate
  morale : 0 ≤ c.moraleWeight
  trauma : 0 ≤ c.traumaWeight
  confidence : 0 ≤ c.confidenceWeight

/-- The one is at most as fit for a cleansing as the other. -/
structure Participant.NoFitter (p q : Participant Rat) : Prop where
  morale : p.morale ≤ q.morale
  trauma : q.trauma ≤ p.trauma
  confidence : p.confidence ≤ q.confidence

/-- The same figures are left of both between 0 and 1. -/
structure Participant.Resembles (p q : Participant Rat) : Prop where
  morale : Scalar.unit p.morale = Scalar.unit q.morale
  trauma : Scalar.unit p.trauma = Scalar.unit q.trauma
  confidence : Scalar.unit p.confidence = Scalar.unit q.confidence

/-- What is left of a figure of each member between 0 and 1, averaged. -/
def average (figure : Participant Rat → Rat) (party : List (Participant Rat)) : Rat :=
  (party.map fun p => max 0 (min 1 (figure p))).sum / party.length

variable {c : Config Rat} {party other : List (Participant Rat)} {figure : Participant Rat → Rat}

/-! ## Means of a figure -/

theorem average_eq_mean (figure : Participant Rat → Rat) (party : List (Participant Rat)) :
    average figure party = Scalar.mean (party.map fun p => Scalar.unit (figure p)) := by
  have confined : (party.map fun p => Scalar.unit (figure p)) =
      party.map fun p => max 0 (min 1 (figure p)) :=
    List.map_congr_left fun p _ => unit_rat (figure p)
  rw [mean_rat, confined, List.length_map, average]

theorem mapM_confined (figure : Participant Rat → Rat) (party : List (Participant Rat)) :
    (party.mapM fun p => Scalar.confined (figure p)) =
      .ok (party.map fun p => Scalar.unit (figure p)) := by
  induction party with
  | nil => rfl
  | cons p party ih =>
      rw [List.mapM_cons, ih]
      rfl

theorem mean_eq_average (figure : Participant Rat → Rat) (party : List (Participant Rat)) :
    mean figure party = .ok (average figure party) := by
  rw [mean, mapM_confined, average_eq_mean]
  rfl

theorem average_of_perm (perm : other.Perm party) :
    average figure other = average figure party := by
  rw [average_eq_mean, average_eq_mean]
  exact mean_perm (perm.map _)

theorem average_of_repeated {m : Nat} (some : 1 ≤ m) :
    average figure (List.replicate m party).flatten = average figure party := by
  rw [average_eq_mean, List.map_flatten, List.map_replicate, mean_repeated some, average_eq_mean]

theorem average_of_same {same : Participant Rat → Participant Rat → Prop}
    (figures : ∀ p q, same p q → Scalar.unit (figure p) = Scalar.unit (figure q))
    (pairs : List.Forall₂ same other party) : average figure other = average figure party := by
  have confined : (other.map fun p => Scalar.unit (figure p)) =
      party.map fun p => Scalar.unit (figure p) := by
    induction pairs with
    | nil => rfl
    | cons first _ ih => rw [List.map_cons, List.map_cons, figures _ _ first, ih]
  rw [average_eq_mean, confined, average_eq_mean]

theorem average_of_le {le : Participant Rat → Participant Rat → Prop}
    (figures : ∀ p q, le p q → figure p ≤ figure q) (pairs : List.Forall₂ le party other) :
    average figure party ≤ average figure other := by
  rw [average_eq_mean, average_eq_mean]
  refine mean_mono ?_
  rw [List.forall₂_map_left_iff, List.forall₂_map_right_iff]
  exact pairs.imp fun p q first => unit_mono_rat (figures p q first)

/-! ## Factors -/

/-- The factors of a party in exact numbers. -/
def factorsOf (c : Config Rat) (party : List (Participant Rat)) : Factors Rat :=
  if party = [] then ⟨c.base, 0, 0, 0, 0, 0, 0⟩
  else
    weighed c (average (·.morale) party) (average (·.trauma) party) (average (·.confidence) party)

theorem factors_rat (c : Config Rat) (party : List (Participant Rat)) :
    factors c party = .ok (factorsOf c party) := by
  by_cases none : party = []
  · subst none
    rfl
  · rw [factorsOf, if_neg none, factors_eq_ok_iff (List.isEmpty_eq_false_iff.mpr none)]
    exact ⟨_, _, _, ⟨mean_eq_average _ party, mean_eq_average _ party, mean_eq_average _ party⟩,
      rfl⟩

/-- A party is known by whether anybody is in it and by the means of three figures. -/
structure SameMeans (other party : List (Participant Rat)) : Prop where
  manned : other = [] ↔ party = []
  morale : average (·.morale) other = average (·.morale) party
  trauma : average (·.trauma) other = average (·.trauma) party
  confidence : average (·.confidence) other = average (·.confidence) party

theorem SameMeans.of_perm (perm : other.Perm party) : SameMeans other party where
  manned := ⟨fun none => (none ▸ perm).symm.eq_nil, fun none => (none ▸ perm).eq_nil⟩
  morale := average_of_perm perm
  trauma := average_of_perm perm
  confidence := average_of_perm perm

theorem SameMeans.of_repeated {m : Nat} (some : 1 ≤ m) (party : List (Participant Rat)) :
    SameMeans (List.replicate m party).flatten party where
  manned := by
    rw [List.flatten_eq_nil_iff, List.forall_mem_replicate]
    exact ⟨fun none => none.resolve_left (Nat.one_le_iff_ne_zero.mp some), .inr⟩
  morale := average_of_repeated some
  trauma := average_of_repeated some
  confidence := average_of_repeated some

theorem SameMeans.of_resembling (pairs : List.Forall₂ Participant.Resembles other party) :
    SameMeans other party where
  manned := by
    rw [← List.length_eq_zero_iff, ← List.length_eq_zero_iff, pairs.length_eq]
  morale := average_of_same (fun _ _ same => same.morale) pairs
  trauma := average_of_same (fun _ _ same => same.trauma) pairs
  confidence := average_of_same (fun _ _ same => same.confidence) pairs

theorem SameMeans.factors_eq (h : SameMeans other party) (c : Config Rat) :
    factorsOf c other = factorsOf c party := by
  simp only [factorsOf, h.manned, h.morale, h.trauma, h.confidence]

theorem raw_mono (proper : c.Proper) (some : party ≠ [])
    (pairs : List.Forall₂ Participant.NoFitter party other) :
    (factorsOf c party).raw ≤ (factorsOf c other).raw := by
  have some' : other ≠ [] := by
    rintro rfl
    exact some (List.forall₂_nil_right_iff.mp pairs)
  have morale : average (·.morale) party ≤ average (·.morale) other :=
    average_of_le (fun _ _ fitter => fitter.morale) pairs
  have trauma : average (·.trauma) other ≤ average (·.trauma) party :=
    average_of_le (fun _ _ fitter => fitter.trauma) pairs.flip
  have confidence : average (·.confidence) party ≤ average (·.confidence) other :=
    average_of_le (fun _ _ fitter => fitter.confidence) pairs
  have moraleShare := mul_le_mul_of_nonneg_right morale proper.morale
  have traumaShare := mul_le_mul_of_nonneg_right trauma proper.trauma
  have confidenceShare := mul_le_mul_of_nonneg_right confidence proper.confidence
  rw [factorsOf, factorsOf, if_neg some, if_neg some']
  simp only [weighed, Factors.raw]
  linarith

/-! ## Rates -/

/-- The success rate in exact numbers. -/
def rateOf (c : Config Rat) (party : List (Participant Rat)) : Rat :=
  if party = [] then c.leastRate else max c.leastRate (min c.greatestRate (factorsOf c party).raw)

theorem weigh_rat (c : Config Rat) (party : List (Participant Rat)) :
    weigh c party = .ok (rateOf c party, factorsOf c party) := by
  have rated : rateFrom c party (factorsOf c party) = .ok (rateOf c party) := by
    simp only [rateFrom, rateOf, List.isEmpty_iff, ← clamp_rat, checked_rat]
    split <;> rfl
  exact Answer.bind_eq_ok.mpr ⟨_, factors_rat c party, Answer.bind_eq_ok.mpr ⟨_, rated, rfl⟩⟩

theorem SameMeans.rateOf_eq (h : SameMeans other party) (c : Config Rat) :
    rateOf c other = rateOf c party := by
  simp only [rateOf, h.manned, h.factors_eq]

theorem rateOf_mono (proper : c.Proper) (pairs : List.Forall₂ Participant.NoFitter party other) :
    rateOf c party ≤ rateOf c other := by
  by_cases none : party = []
  · subst none
    rw [List.forall₂_nil_left_iff.mp pairs]
  · have some : other ≠ [] := by
      rintro rfl
      exact none (List.forall₂_nil_right_iff.mp pairs)
    rw [rateOf, rateOf, if_neg none, if_neg some]
    exact max_le_max le_rfl (min_le_min le_rfl (raw_mono proper none pairs))

/-- The rate of a party and the factors it is weighed from, as they are answered. -/
structure Rated (c : Config Rat) (party : List (Participant Rat)) (rate : Rat)
    (f : Factors Rat) : Prop where
  answer : ∀ source : Chance.Source Rat,
    (Operation.rate party).perform c source = .done (.rated rate f) source
  least : c.leastRate ≤ rate
  greatest : rate ≤ c.greatestRate
  unmanned : party = [] → rate = c.leastRate
  weighed : party ≠ [] → rate = max c.leastRate (min c.greatestRate
    (f.base + f.moraleShare - f.traumaPenalty + f.confidenceShare))
  base : f.base = c.base
  shares : party ≠ [] → f.moraleShare = average (·.morale) party * c.moraleWeight ∧
    f.traumaPenalty = average (·.trauma) party * c.traumaWeight ∧
    f.confidenceShare = average (·.confidence) party * c.confidenceWeight

theorem rated (proper : c.Proper) (party : List (Participant Rat)) :
    Rated c party (rateOf c party) (factorsOf c party) where
  answer source := by
    rw [Operation.perform, weigh_rat]
    rfl
  least := by
    unfold rateOf
    split
    · exact le_rfl
    · exact le_max_left _ _
  greatest := by
    unfold rateOf
    split
    · exact proper.rates
    · exact max_le proper.rates (min_le_left _ _)
  unmanned none := if_pos none
  weighed some := if_neg some
  base := by
    unfold factorsOf
    split <;> rfl
  shares some := by
    rw [factorsOf, if_neg some]
    exact ⟨rfl, rfl, rfl⟩

theorem SameMeans.rated (h : SameMeans other party) (proper : c.Proper) :
    Rated c other (rateOf c party) (factorsOf c party) := by
  rw [← h.rateOf_eq, ← h.factors_eq]
  exact Cleansing.rated proper other

/-- The base may be any number, and the figures of the members may lie out of range. -/
theorem rate_symmetric_monotone (c : Config Rat) (proper : c.Proper)
    (party : List (Participant Rat)) :
    ∃ rate f, Rated c party rate f ∧
      (∀ other, other.Perm party → Rated c other rate f) ∧
      (∀ m, 1 ≤ m → Rated c (List.replicate m party).flatten rate f) ∧
      (∀ other, List.Forall₂ Participant.Resembles other party → Rated c other rate f) ∧
      ∀ other, List.Forall₂ Participant.NoFitter party other →
        ∃ rate' f', Rated c other rate' f' ∧ rate ≤ rate' := by
  refine ⟨_, _, rated proper party, fun other perm => ?_, fun m some => ?_, fun other pairs => ?_,
    fun other pairs => ?_⟩
  · exact (SameMeans.of_perm perm).rated proper
  · exact (SameMeans.of_repeated some party).rated proper
  · exact (SameMeans.of_resembling pairs).rated proper
  · exact ⟨_, _, rated proper other, rateOf_mono proper pairs⟩

/-- Two members whose figures lie out of range; one of them gets fitter. -/
theorem rate_symmetric_monotone_out_of_range :
    let c : Config Rat :=
      { base := 0.5
        moraleWeight := 0.25
        traumaWeight := 0.3
        confidenceWeight := 0.15
        leastRate := 0.2
        greatestRate := 0.85
        minParticipants := .int 2 }
    let first : Participant Rat := ⟨"a", "warrior", 0.1, 0.9, 0.8⟩
    let second : Participant Rat := ⟨"b", "guard", 3, -1, 0.5⟩
    let fitter : Participant Rat := ⟨"b", "guard", 0.5, -1, 2⟩
    c.Proper ∧ List.Forall₂ Participant.NoFitter [first, second] [first, fitter] ∧
      ∃ rate f, Rated c [first, second] rate f ∧ rate = 0.545 ∧ Rated c [second, first] rate f ∧
        Rated c [first, second, first, second] rate f ∧
        ∃ rate' f', Rated c [first, fitter] rate' f' ∧ rate ≤ rate' := by
  intro c first second fitter
  have proper : c.Proper :=
    ⟨by decide +kernel, by decide +kernel, by decide +kernel, by decide +kernel⟩
  have same : first.NoFitter first := ⟨le_rfl, le_rfl, le_rfl⟩
  have better : second.NoFitter fitter := ⟨by decide +kernel, by decide +kernel, by decide +kernel⟩
  have pairs : List.Forall₂ Participant.NoFitter [first, second] [first, fitter] :=
    .cons same (.cons better .nil)
  obtain ⟨rate, f, given, swapped, repeated, -, fitterGiven⟩ :=
    rate_symmetric_monotone c proper [first, second]
  have known : rate = 0.545 := by
    obtain ⟨moraleShare, traumaPenalty, confidenceShare⟩ := given.shares (by simp)
    rw [given.weighed (by simp), given.base, moraleShare, traumaPenalty, confidenceShare]
    decide +kernel
  exact ⟨proper, pairs, rate, f, given, known, swapped _ (.swap first second []),
    repeated 2 (by decide), fitterGiven _ pairs⟩

end Colony.Cleansing

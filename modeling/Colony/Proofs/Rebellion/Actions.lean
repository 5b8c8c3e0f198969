import Colony.Proofs.Rebellion.Monotone

/-!
# Actions push the readiness to rebel one way

A reward or a dialogue soothes, a punishment or the environment provokes, and
what only changes resources or is of no known kind does neither.  In exact
numbers that holds of any number of such actions one after the other, however
intense they are, and from any profile: each step is confined, which keeps its
direction.  The same actions keep two profiles in their order.
-/

namespace Colony

/-! ## Kinds by their names -/

/-- The value is a text that names the kind, in letters of any case and between blanks. -/
def Value.Spells {α : Type} (kind : ActionKind) : Value α → Prop
  | .text s => Text.lower (Text.trim s) = kind.name
  | _ => False

instance {α : Type} (kind : ActionKind) : (tag : Value α) → Decidable (tag.Spells kind)
  | .text s => inferInstanceAs (Decidable (Text.lower (Text.trim s) = kind.name))
  | .null | .bool _ | .int _ | .num _ | .torn _ | .bytes _ | .list _ | .tuple _ | .dict _ =>
      isFalse id

namespace ActionKind

variable {α : Type} {tag : Value α} {kind : ActionKind}

theorem mem_all (kind : ActionKind) : kind ∈ all := by
  cases kind <;> decide

theorem find?_name (kind : ActionKind) :
    all.find? (fun other => other.name == kind.name) = some kind := by
  cases kind <;> rfl

theorem ofValue_of_spells (spelled : tag.Spells kind) : ofValue tag = kind := by
  cases tag with
  | text s =>
      have word : Text.lower (Text.trim s) = kind.name := spelled
      rw [ofValue, ofText, word, find?_name, Option.getD_some]
  | _ => exact spelled.elim

theorem ofValue_of_not_spells (unread : ∀ kind, ¬ tag.Spells kind) : ofValue tag = unknown := by
  cases tag with
  | text s =>
      have unfound : all.find? (fun kind => kind.name == Text.lower (Text.trim s)) = none := by
        refine List.find?_eq_none.mpr fun kind _ same => unread kind ?_
        exact (eq_of_beq same).symm
      rw [ofValue, ofText, unfound, Option.getD_none]
  | _ => rfl

end ActionKind

/-- An action asked for by a tag for its kind. -/
structure Request where
  tag : Value Rat
  intensity : Rat

namespace Request

def action (r : Request) : Action Rat := ⟨.ofValue r.tag, r.intensity⟩

def Soothes (r : Request) : Prop := r.tag.Spells .reward ∨ r.tag.Spells .dialogue

def Provokes (r : Request) : Prop := r.tag.Spells .punishment ∨ r.tag.Spells .environment

/-- A tag that spells no kind counts as one of unknown kind. -/
def Idles (r : Request) : Prop :=
  r.tag.Spells .resourceChange ∨ r.tag.Spells .unknown ∨ ∀ kind, ¬ r.tag.Spells kind

instance (r : Request) : Decidable r.Soothes := inferInstanceAs (Decidable (_ ∨ _))

instance (r : Request) : Decidable r.Provokes := inferInstanceAs (Decidable (_ ∨ _))

instance (r : Request) : Decidable (∀ kind, ¬ r.tag.Spells kind) :=
  decidable_of_iff (∀ kind ∈ ActionKind.all, ¬ r.tag.Spells kind)
    ⟨fun unread kind => unread kind kind.mem_all, fun unread kind _ => unread kind⟩

instance (r : Request) : Decidable r.Idles := inferInstanceAs (Decidable (_ ∨ _ ∨ _))

end Request

/-! ## Directions -/

structure Effect.Soothing (e : Effect Rat) : Prop where
  trauma : e.trauma ≤ 0
  efficiency : 0 ≤ e.efficiency
  morale : 0 ≤ e.morale

structure Effect.Provoking (e : Effect Rat) : Prop where
  trauma : 0 ≤ e.trauma
  efficiency : e.efficiency ≤ 0
  morale : e.morale ≤ 0

theorem Request.Soothes.effect {r : Request} (h : r.Soothes) : r.action.kind.effect.Soothing := by
  rcases h with reward | dialogue
  · have kind : r.action.kind = .reward := ActionKind.ofValue_of_spells reward
    rw [kind]
    exact ⟨by decide +kernel, by decide +kernel, by decide +kernel⟩
  · have kind : r.action.kind = .dialogue := ActionKind.ofValue_of_spells dialogue
    rw [kind]
    exact ⟨by decide +kernel, by decide +kernel, by decide +kernel⟩

theorem Request.Provokes.effect {r : Request} (h : r.Provokes) :
    r.action.kind.effect.Provoking := by
  rcases h with punishment | environment
  · have kind : r.action.kind = .punishment := ActionKind.ofValue_of_spells punishment
    rw [kind]
    exact ⟨by decide +kernel, by decide +kernel, by decide +kernel⟩
  · have kind : r.action.kind = .environment := ActionKind.ofValue_of_spells environment
    rw [kind]
    exact ⟨by decide +kernel, by decide +kernel, by decide +kernel⟩

/-- What has no effect is at once soothing and provoking. -/
theorem Request.Idles.effect {r : Request} (h : r.Idles) :
    r.action.kind.effect.Soothing ∧ r.action.kind.effect.Provoking := by
  have kind : r.action.kind = .resourceChange ∨ r.action.kind = .unknown := by
    rcases h with resources | unknown | unread
    · exact .inl (ActionKind.ofValue_of_spells resources)
    · exact .inr (ActionKind.ofValue_of_spells unknown)
    · exact .inr (ActionKind.ofValue_of_not_spells unread)
  have still : r.action.kind.effect = (⟨0, 0, 0⟩ : Effect Rat) := by
    rcases kind with kind | kind
    · rw [kind, ActionKind.effect]
    · rw [kind, ActionKind.effect]
  rw [still]
  exact ⟨⟨le_rfl, le_rfl, le_rfl⟩, ⟨le_rfl, le_rfl, le_rfl⟩⟩

/-! ## One action -/

def Profile.figures (p : Profile Rat) : List Rat := [p.trauma, p.efficiency, p.morale]

/-- What an action makes of a profile in exact numbers. -/
def Profile.shifted (action : Action Rat) (p : Profile Rat) : Profile Rat :=
  let effect : Effect Rat := action.kind.effect
  let intensity := Scalar.unit action.intensity
  { p with
    trauma := Scalar.unit (p.trauma + effect.trauma * intensity)
    efficiency := Scalar.unit (p.efficiency + effect.efficiency * intensity)
    morale := Scalar.unit (p.morale + effect.morale * intensity) }

theorem Profile.after_rat (action : Action Rat) (p : Profile Rat) :
    p.after action = .ok (p.shifted action) := rfl

section Step

variable {p q : Profile Rat} {action : Action Rat}

theorem unit_shift_le {shift : Rat} (down : shift ≤ 0) (x intensity : Rat) :
    Scalar.unit (Scalar.unit (x + shift * Scalar.unit intensity)) ≤ Scalar.unit x := by
  rw [unit_unit_rat]
  refine unit_mono_rat (add_le_of_nonpos_right ?_)
  exact mul_nonpos_of_nonpos_of_nonneg down (unit_nonneg_rat intensity)

theorem le_unit_shift {shift : Rat} (up : 0 ≤ shift) (x intensity : Rat) :
    Scalar.unit x ≤ Scalar.unit (Scalar.unit (x + shift * Scalar.unit intensity)) := by
  rw [unit_unit_rat]
  refine unit_mono_rat (le_add_of_nonneg_right ?_)
  exact mul_nonneg up (unit_nonneg_rat intensity)

theorem Effect.Soothing.shifted (soothing : action.kind.effect.Soothing) (p : Profile Rat) :
    (p.shifted action).confined.NoWorse p.confined :=
  ⟨unit_shift_le soothing.trauma _ _, le_unit_shift soothing.efficiency _ _,
    le_unit_shift soothing.morale _ _⟩

theorem Effect.Provoking.shifted (provoking : action.kind.effect.Provoking) (p : Profile Rat) :
    p.confined.NoWorse (p.shifted action).confined :=
  ⟨le_unit_shift provoking.trauma _ _, unit_shift_le provoking.efficiency _ _,
    unit_shift_le provoking.morale _ _⟩

theorem Profile.NoWorse.shifted (h : p.NoWorse q) (action : Action Rat) :
    (p.shifted action).NoWorse (q.shifted action) :=
  ⟨unit_mono_rat (add_le_add_left h.trauma _), unit_mono_rat (add_le_add_left h.efficiency _),
    unit_mono_rat (add_le_add_left h.morale _)⟩

theorem Profile.shifted_within (action : Action Rat) (p : Profile Rat) :
    ∀ x ∈ (p.shifted action).figures, 0 ≤ x ∧ x ≤ 1 := by
  intro x member
  simp only [figures, shifted, List.mem_cons, List.not_mem_nil, or_false] at member
  rcases member with rfl | rfl | rfl
  · exact ⟨unit_nonneg_rat _, unit_le_one_rat _⟩
  · exact ⟨unit_nonneg_rat _, unit_le_one_rat _⟩
  · exact ⟨unit_nonneg_rat _, unit_le_one_rat _⟩

end Step

/-! ## Any number of actions -/

namespace Profile

variable {actions : List (Action Rat)} {p q : Profile Rat}

def afterAll {α : Type} [Scalar α] (actions : List (Action α)) (p : Profile α) :
    Answer α (Profile α) :=
  actions.foldlM (fun reached action => reached.after action) p

/-- What actions make of a profile in exact numbers. -/
def shiftedAll (actions : List (Action Rat)) (p : Profile Rat) : Profile Rat :=
  actions.foldl (fun reached action => reached.shifted action) p

theorem afterAll_rat (actions : List (Action Rat)) (p : Profile Rat) :
    p.afterAll actions = .ok (p.shiftedAll actions) := by
  induction actions generalizing p with
  | nil => rfl
  | cons first rest ih =>
      rw [afterAll, List.foldlM_cons, after_rat]
      exact ih (p.shifted first)

/-- What relates the ends of each action and can be chained relates the ends of a run. -/
theorem shiftedAll_rel {R : Profile Rat → Profile Rat → Prop} (refl : ∀ p, R p p)
    (trans : ∀ {p q r}, R p q → R q r → R p r)
    (step : ∀ action ∈ actions, ∀ p : Profile Rat, R p (p.shifted action)) (p : Profile Rat) :
    R p (p.shiftedAll actions) := by
  induction actions generalizing p with
  | nil => exact refl p
  | cons first rest ih =>
      obtain ⟨here, later⟩ := List.forall_mem_cons.mp step
      exact trans (here p) (ih later (p.shifted first))

theorem shiftedAll_npcId (actions : List (Action Rat)) (p : Profile Rat) :
    (p.shiftedAll actions).npcId = p.npcId :=
  shiftedAll_rel (R := fun p q => q.npcId = p.npcId) (fun _ => rfl) (fun h h' => h'.trans h)
    (fun _ _ _ => rfl) p

/-- Confined figures are compared, since an action confines them even if it has no effect. -/
theorem shiftedAll_soothing (soothing : ∀ action ∈ actions, action.kind.effect.Soothing)
    (p : Profile Rat) : (p.shiftedAll actions).confined.NoWorse p.confined :=
  shiftedAll_rel (R := fun p q => q.confined.NoWorse p.confined) (fun p => .refl p.confined)
    (fun h h' => h'.trans h) (fun action member => (soothing action member).shifted) p

theorem shiftedAll_provoking (provoking : ∀ action ∈ actions, action.kind.effect.Provoking)
    (p : Profile Rat) : p.confined.NoWorse (p.shiftedAll actions).confined :=
  shiftedAll_rel (R := fun p q => p.confined.NoWorse q.confined) (fun p => .refl p.confined)
    (fun h h' => h.trans h') (fun action member => (provoking action member).shifted) p

theorem NoWorse.shiftedAll (h : p.NoWorse q) (actions : List (Action Rat)) :
    (p.shiftedAll actions).NoWorse (q.shiftedAll actions) := by
  induction actions generalizing p q with
  | nil => exact h
  | cons first rest ih => exact ih (h.shifted first)

/-- The last action confines the figures, whatever the profile was before it. -/
theorem shiftedAll_within (acted : actions ≠ []) (p : Profile Rat) :
    ∀ x ∈ (p.shiftedAll actions).figures, 0 ≤ x ∧ x ≤ 1 := by
  obtain ⟨earlier, last, rfl⟩ := (List.eq_nil_or_concat actions).resolve_left acted
  rw [shiftedAll, List.concat_eq_append, List.foldl_append]
  exact shifted_within last _

end Profile

namespace Rebellion

/-- The intensities may lie anywhere, and so may the figures of a profile on which none has been
done yet. -/
theorem actions_push (c : Config Rat) (weights : c.NonNegative) (requests : List Request)
    (p : Profile Rat) :
    ∃ reached : Profile Rat, p.afterAll (requests.map (·.action)) = .ok reached ∧
      ∃ before after : Assessment Rat, assess c p = .ok before ∧ assess c reached = .ok after ∧
        ((∀ r ∈ requests, r.Soothes) → after.Milder before) ∧
        ((∀ r ∈ requests, r.Provokes) → before.Milder after) ∧
        ((∀ r ∈ requests, r.Idles) → after = before) ∧
        (requests ≠ [] → ∀ x ∈ reached.figures, 0 ≤ x ∧ x ≤ 1) ∧
        ∀ q : Profile Rat, p.NoWorse q →
          ∃ other : Profile Rat, q.afterAll (requests.map (·.action)) = .ok other ∧
            reached.NoWorse other ∧
            ∃ worse : Assessment Rat, assess c other = .ok worse ∧ after.Milder worse := by
  have effects {P : Effect Rat → Prop} (each : ∀ r ∈ requests, P r.action.kind.effect) :
      ∀ action ∈ requests.map (·.action), P action.kind.effect :=
    List.forall_mem_map.mpr each
  refine ⟨p.shiftedAll (requests.map (·.action)), p.afterAll_rat _, assessed c p, assessed c _,
    rfl, rfl, ?_, ?_, ?_, ?_, ?_⟩
  · intro soothe
    have soothing := p.shiftedAll_soothing (effects fun r member => (soothe r member).effect)
    exact assessed_mono weights soothing
  · intro provoke
    have provoking := p.shiftedAll_provoking (effects fun r member => (provoke r member).effect)
    exact assessed_mono weights provoking
  · intro idle
    have soothing := p.shiftedAll_soothing (effects fun r member => (idle r member).effect.1)
    have provoking := p.shiftedAll_provoking (effects fun r member => (idle r member).effect.2)
    rw [assessed_of_confined (soothing.resembles provoking), Profile.shiftedAll_npcId]
    rfl
  · intro acted
    exact Profile.shiftedAll_within (mt List.map_eq_nil_iff.mp acted) p
  · intro q worse
    have stillWorse := worse.shiftedAll (requests.map (·.action))
    exact ⟨_, q.afterAll_rat _, stillWorse, assessed c _, rfl,
      assessed_mono weights stillWorse.confined⟩

/-- Someone beyond the range is rewarded, punished and bribed, too much or too little. -/
theorem actions_push_insolent :
    let c : Config Rat :=
      { base := 0.05
        traumaWeight := 0.30
        efficiencyWeight := 0.30
        moraleWeight := 0.20
        considerationThreshold := 0.20
        haltThreshold := 0.35
        vetoThreshold := 0.80 }
    let p : Profile Rat := { npcId := "insolent", trauma := 3, efficiency := -1, morale := 0.5 }
    let kind : List Request := [⟨.text " Reward ", 7⟩, ⟨.text "DIALOGUE", -2⟩]
    let harsh : List Request := [⟨.text "punishment", 7⟩, ⟨.text "environment", 0.5⟩]
    let idle : List Request := [⟨.text "resource_change", 1⟩, ⟨.text "bribe", 1⟩, ⟨.null, 1⟩]
    c.NonNegative ∧ (∀ r ∈ kind, r.Soothes) ∧ (∀ r ∈ harsh, r.Provokes) ∧ (∀ r ∈ idle, r.Idles) ∧
      ∃ before : Assessment Rat, assess c p = .ok before ∧
        (∃ soothed, p.afterAll (kind.map (·.action)) = .ok soothed ∧
          ∃ after : Assessment Rat, assess c soothed = .ok after ∧
            after.Milder before ∧ after.probability < before.probability) ∧
        (∃ provoked, p.afterAll (harsh.map (·.action)) = .ok provoked ∧
          ∃ after : Assessment Rat, assess c provoked = .ok after ∧
            before.Milder after ∧ before.probability < after.probability) ∧
        ∃ idled, p.afterAll (idle.map (·.action)) = .ok idled ∧ assess c idled = .ok before := by
  intro c p kind harsh idle
  have weights : c.NonNegative := ⟨by decide +kernel, by decide +kernel, by decide +kernel⟩
  have soothe : ∀ r ∈ kind, r.Soothes := by decide +kernel
  have provoke : ∀ r ∈ harsh, r.Provokes := by decide +kernel
  have idles : ∀ r ∈ idle, r.Idles := by decide +kernel
  obtain ⟨soothed, rewarded, before, calm, start, answer, milder, -⟩ :=
    actions_push c weights kind p
  obtain ⟨provoked, punished, before', angry, start', answer', -, wilder, -⟩ :=
    actions_push c weights harsh p
  obtain ⟨idled, bribed, before'', still, start'', answer'', -, -, same, -⟩ :=
    actions_push c weights idle p
  obtain rfl : before' = before := Except.ok.inj (start'.symm.trans start)
  obtain rfl : before'' = before' := Except.ok.inj (start''.symm.trans start)
  have calmer : calm.probability < before''.probability := by
    obtain rfl : assessed c p = before'' := Except.ok.inj start
    obtain rfl : p.shiftedAll (kind.map (·.action)) = soothed :=
      Except.ok.inj ((p.afterAll_rat _).symm.trans rewarded)
    obtain rfl : assessed c (p.shiftedAll (kind.map (·.action))) = calm := Except.ok.inj answer
    decide +kernel
  have angrier : before''.probability < angry.probability := by
    obtain rfl : assessed c p = before'' := Except.ok.inj start
    obtain rfl : p.shiftedAll (harsh.map (·.action)) = provoked :=
      Except.ok.inj ((p.afterAll_rat _).symm.trans punished)
    obtain rfl : assessed c (p.shiftedAll (harsh.map (·.action))) = angry := Except.ok.inj answer'
    decide +kernel
  refine ⟨weights, soothe, provoke, idles, before'', start, ?_, ?_, ?_⟩
  · exact ⟨soothed, rewarded, calm, answer, milder soothe, calmer⟩
  · exact ⟨provoked, punished, angry, answer', wilder provoke, angrier⟩
  · exact ⟨idled, bribed, by rw [answer'', same idles]⟩

end Rebellion

end Colony

import Colony.Proofs.Live.Unfelt
import Colony.Scalar.Amount

/-!
# Nothing depends on the chronicle

Two worlds whose settings differ in those of the chronicle alone answer every
operation of a run alike, failures included, and are alike after each of them,
although all their engines write to the chronicle as they go.  The engines by
themselves do not feel either whether there is a chronicle.
-/

namespace Colony

variable {α : Type} [Scalar α]

namespace Settings

structure AgreesBesides (group : Group) (s t : Settings α) : Prop where
  seed : s.seed = t.seed
  value : ∀ knob, knob ∉ Knob.inGroup group → s.value knob = t.value knob

omit [Scalar α] in
theorem AgreesBesides.refl (group : Group) (s : Settings α) : s.AgreesBesides group s :=
  ⟨rfl, fun _ _ => rfl⟩

omit [Scalar α] in
theorem AgreesBesides.set {group : Group} {s t : Settings α} (same : s.AgreesBesides group t)
    {knob : Knob} (inside : knob ∈ Knob.inGroup group) (v : Value α) :
    s.AgreesBesides group (t.set knob v) := by
  refine ⟨same.seed, fun other outside => ?_⟩
  have ne : other ≠ knob := by
    rintro rfl
    exact outside inside
  rw [value_set_of_ne ne]
  exact same.value other outside

end Settings

namespace World

theorem new_congr {s t : Settings α} (same : s.AgreesBesides .telemetry t) : new s = new t := by
  have scalar : ∀ knob, knob ∉ Settings.Knob.inGroup .telemetry → s.scalar knob = t.scalar knob :=
    fun knob outside => by rw [Settings.scalar, Settings.scalar, same.value knob outside]
  simp (disch := decide) only [new, Settings.rebellion, Settings.cleansing, Settings.roster,
    Settings.economy, Settings.plague, scalar, same.value, same.seed]

/-- A world comes to its start with its chronicle, or fails for a reason of its own. -/
theorem start_eq {s : Settings α} (sized : s.chronicle.Sized) :
    ∃ c : Chronicle α, c.Sized ∧ start s = (new s).map fun world => ⟨world, some c⟩ := by
  obtain ⟨c, made, size⟩ := sized.new
  refine ⟨c, size, ?_⟩
  rw [start, made]
  cases new s <;> rfl

/-- What the operations of a run answer and leave, from the start on. -/
def transcript (ops : List (Operation α)) (s : Settings α) :
    Answer α (List (Answer α (Reply α) × World α)) :=
  (start s).map (Live.transcript Operation.live ops)

end World

/-- From no state does a run show whether its operations write to a chronicle. -/
def Chronicle.Unfelt {σ β ω : Type} (c : Chronicle α) (live : ω → Live σ α β) : Prop :=
  ∀ s ops, Live.transcript live ops (⟨s, some c⟩ : Observed σ α) =
    Live.transcript live ops (⟨s, none⟩ : Observed σ α)

theorem Chronicle.Sized.unfelt {σ β ω : Type} {c : Chronicle α} (h : c.Sized)
    {live : ω → Live σ α β} (unfelt : ∀ op, (live op).Unfelt) : c.Unfelt live :=
  fun s => Live.transcript_eq_of_unfelt unfelt ⟨rfl, .of_some h s, .of_none s⟩

/-- Neither a world nor an engine by itself shows anything of a chronicle that can rank. -/
theorem chronicle_unfelt :
    (∀ s t : Settings α, s.AgreesBesides .telemetry t → s.chronicle.Sized → t.chronicle.Sized →
      ∀ ops, World.transcript ops s = World.transcript ops t) ∧
    ∀ config : Chronicle.Config α, config.Sized → ∃ c, Chronicle.new config = .ok c ∧
      (∀ rebellion, c.Unfelt (Rebellion.Operation.live rebellion)) ∧
      (∀ plague, c.Unfelt (Plague.Operation.live plague)) ∧
      (∀ cleansing, c.Unfelt (Cleansing.Operation.live cleansing)) ∧
      c.Unfelt Economy.Operation.live := by
  constructor
  · intro s t same sized sized' ops
    obtain ⟨c, able, started⟩ := World.start_eq sized
    obtain ⟨d, able', started'⟩ := World.start_eq sized'
    rw [World.transcript, World.transcript, started, started', ← World.new_congr same]
    cases World.new s with
    | error failure => rfl
    | ok w =>
        have twins : (⟨w, some c⟩ : Observed (World α) α).Twins ⟨w, some d⟩ :=
          ⟨rfl, .of_some able w, .of_some able' w⟩
        exact congrArg Except.ok
          (Live.transcript_eq_of_unfelt World.Operation.live_unfelt twins ops)
  · intro config sized
    obtain ⟨c, made, able⟩ := sized.new
    exact ⟨c, made, fun rebellion => able.unfelt (Rebellion.Operation.live_unfelt rebellion),
      fun plague => able.unfelt (Plague.Operation.live_unfelt plague),
      fun cleansing => able.unfelt (Cleansing.Operation.live_unfelt cleansing),
      able.unfelt Economy.Operation.live_unfelt⟩

/-- A world that keeps events beside one that keeps none, has no room for any and trims its boards
to nothing. -/
theorem chronicle_unfelt_without_events :
    let s : Settings Amount := .standard
    let t := ((s.set .eventsEnabled (.bool false)).set .eventCapacity (.int (-3))).set .boardSize
      (.int 0)
    let ops : List (World.Operation Amount) :=
      [.register "worker", .enlist "guard" (.text "Guard"), .setTrauma "worker" 1,
       .act { npcId := "worker", actionId := "beaten", action := ⟨.punishment, 1⟩ },
       .refresh, .economy (.addMine 4.0), .advance (.int 3), .deploy none]
    s.AgreesBesides .telemetry t ∧ s.chronicle.Sized ∧ t.chronicle.Sized ∧
      World.transcript ops s = World.transcript ops t := by
  intro s t ops
  have same : s.AgreesBesides .telemetry t :=
    (((Settings.AgreesBesides.refl _ s).set (by decide) _).set (by decide) _).set (by decide) _
  have sized : s.chronicle.Sized := ⟨⟨_, rfl⟩, ⟨_, rfl⟩⟩
  have sized' : t.chronicle.Sized := ⟨⟨_, rfl⟩, ⟨_, rfl⟩⟩
  exact ⟨same, sized, sized', chronicle_unfelt.1 s t same sized sized' ops⟩

end Colony

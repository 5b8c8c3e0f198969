import Colony.Proofs.Live.Notes
import Colony.Proofs.Operation

/-!
# Operations do not feel the chronicle

Two runs of a live operation from one state, beside chronicles that may differ
in everything but are able to rank, give the same answer and leave one state.
The relation holds of each part that reads, changes or writes, and of parts one
after the other; each engine and the world are made of such parts, on all of
their branches.
-/

namespace Colony

variable {σ τ α β γ ω : Type} [Scalar α]

/-- One state beside two chronicles, or beside one or none. -/
structure Observed.Twins (o o' : Observed σ α) : Prop where
  subject : o.subject = o'.subject
  sized : o.Sized
  sized' : o'.Sized

namespace Live

def Unfelt (op : Live σ α β) : Prop :=
  ∀ o o' : Observed σ α, o.Twins o' → (op o).1 = (op o').1 ∧ (op o).2.Twins (op o').2

/-! ## Parts -/

namespace Unfelt

theorem pure (b : β) : (Pure.pure b : Live σ α β).Unfelt := fun _ _ twins => ⟨rfl, twins⟩

theorem subject : (Live.subject : Live σ α σ).Unfelt :=
  fun _ _ twins => ⟨congrArg Except.ok twins.subject, twins⟩

theorem answer (a : Answer α β) : (Live.answer a : Live σ α β).Unfelt :=
  fun _ _ twins => ⟨rfl, twins⟩

theorem act (operation : σ → Outcome σ α β) : (Live.act operation).Unfelt := by
  intro o o' twins
  have same : operation o.subject = operation o'.subject := congrArg operation twins.subject
  exact ⟨congrArg Outcome.answer same, ⟨congrArg Outcome.state same, twins.sized, twins.sized'⟩⟩

theorem modify (f : σ → σ) : (Live.modify f : Live σ α Unit).Unfelt :=
  fun _ _ twins => ⟨rfl, ⟨congrArg f twins.subject, twins.sized, twins.sized'⟩⟩

/-- A part that fails fails in both runs, and ends both. -/
theorem bind {first : Live σ α β} {next : β → Live σ α γ} (h : first.Unfelt)
    (h' : ∀ b, (next b).Unfelt) : (first >>= next).Unfelt := by
  intro o o' twins
  change (andThen first next o).1 = (andThen first next o').1 ∧
    (andThen first next o).2.Twins (andThen first next o').2
  obtain ⟨same, left⟩ := h o o' twins
  rcases run : first o with ⟨answer, reached⟩
  rcases run' : first o' with ⟨answer', reached'⟩
  rw [run, run'] at same left
  cases same
  simp only [andThen, run, run']
  cases answer with
  | error failure => exact ⟨rfl, left⟩
  | ok b => exact h' b reached reached' left

/-- What follows an answer may rely on it. -/
theorem answer_bind {a : Answer α β} {next : β → Live σ α γ}
    (h : ∀ b, a = .ok b → (next b).Unfelt) : ((Live.answer a : Live σ α β) >>= next).Unfelt := by
  cases a with
  | error failure => exact fun _ _ twins => ⟨rfl, twins⟩
  | ok b => exact h b rfl

theorem ite {p : Prop} [Decidable p] {op other : Live σ α β} (h : op.Unfelt) (h' : other.Unfelt) :
    (if p then op else other).Unfelt := by
  split
  · exact h
  · exact h'

theorem onlyIf {op : Live σ α Unit} (h : op.Unfelt) (p : Prop) [Decidable p] :
    (op.onlyIf p).Unfelt :=
  h.ite (pure ())

theorem each {op : β → Live σ α Unit} {bs : List β} (h : ∀ b ∈ bs, (op b).Unfelt) :
    (Live.each op bs).Unfelt := by
  induction bs with
  | nil => exact pure ()
  | cons b bs ih =>
      obtain ⟨first, later⟩ := List.forall_mem_cons.mp h
      exact first.bind fun _ => ih later

/-- Only one of the runs may write at all. -/
theorem tell {write : Chronicle α → Answer α Unit × Chronicle α}
    (h : ∀ c : Chronicle α, c.Sized → (write c).1 = .ok () ∧ (write c).2.Sized) :
    (Live.tell write : Live σ α Unit).Unfelt := by
  have written (o : Observed σ α) (sized : o.Sized) : (Live.tell write o).1 = .ok () ∧
      (Live.tell write o).2.subject = o.subject ∧ (Live.tell write o).2.Sized := by
    obtain ⟨s, chronicle⟩ := o
    cases chronicle with
    | none => exact ⟨rfl, rfl, .of_none s⟩
    | some c =>
        obtain ⟨answered, stays⟩ := h c (sized c rfl)
        exact ⟨answered, rfl, .of_some stays s⟩
  intro o o' twins
  obtain ⟨answer, subject, sized⟩ := written o twins.sized
  obtain ⟨answer', subject', sized'⟩ := written o' twins.sized'
  exact ⟨answer.trans answer'.symm, ⟨by rw [subject, subject', twins.subject], sized, sized'⟩⟩

/-- A part of the state may be beside no chronicle in either run. -/
theorem within {part : τ → σ} {place : σ → τ → τ} {heard : τ → Bool} {op : Live σ α β}
    (h : op.Unfelt) : (op.within part place heard).Unfelt := by
  rintro ⟨t, chronicle⟩ ⟨t', chronicle'⟩ twins
  obtain rfl : t = t' := twins.subject
  have beside (d : Option (Chronicle α)) (sized : (⟨t, d⟩ : Observed τ α).Sized) :
      (⟨part t, if heard t then d else none⟩ : Observed σ α).Sized := by
    split
    · exact sized
    · exact .of_none _
  obtain ⟨same, left⟩ := h ⟨part t, if heard t then chronicle else none⟩
    ⟨part t, if heard t then chronicle' else none⟩
    ⟨rfl, beside chronicle twins.sized, beside chronicle' twins.sized'⟩
  refine ⟨same, ⟨congrArg (place · t) left.subject, ?_, ?_⟩⟩
  · simp only [Live.within]
    cases listens : heard t with
    | false => exact twins.sized
    | true =>
        have kept := left.sized
        rw [listens] at kept
        exact kept
  · simp only [Live.within]
    cases listens : heard t with
    | false => exact twins.sized'
    | true =>
        have kept := left.sized'
        rw [listens] at kept
        exact kept

/-! ### Writing -/

theorem count (name : String) : (Live.count name : Live σ α Unit).Unfelt := by
  refine tell fun c sized => ?_
  rw [Chronicle.countBy_one]
  exact ⟨rfl, sized⟩

theorem gauge (name : String) (value : Value α) : (Live.gauge name value : Live σ α Unit).Unfelt :=
  tell fun _ sized => ⟨rfl, sized⟩

theorem event (draft : Draft α) : (Live.event draft : Live σ α Unit).Unfelt := by
  refine tell fun c sized => ?_
  simp only [Chronicle.recordReport_report]
  exact ⟨trivial, sized.hear (.event draft)⟩

theorem rank {score : α} (fraction : Scalar.Fraction score) (board key : String)
    (payload : List (Value α × Value α)) :
    (Live.rank board ⟨key, score, .dict payload⟩ : Live σ α Unit).Unfelt := by
  refine tell fun c sized => ?_
  rw [Chronicle.rankBid_eq_rank fraction]
  exact ⟨sized.answer_hear (.rank board key score payload),
    sized.hear (.rank board key score payload)⟩

end Unfelt

/-! ## Runs -/

theorem transcript_eq_of_unfelt {live : ω → Live σ α β} (unfelt : ∀ op, (live op).Unfelt)
    {o o' : Observed σ α} (twins : o.Twins o') (ops : List ω) :
    transcript live ops o = transcript live ops o' := by
  induction ops generalizing o o' with
  | nil => rfl
  | cons op ops ih =>
      obtain ⟨same, left⟩ := unfelt op o o' twins
      rw [transcript, transcript, same, left.subject, ih left]

end Live

open Live (Unfelt)

/-! ## The plague -/

namespace Plague

theorem tellTick_unfelt (c : Config α) (r : TickReport α) (tick : Int) :
    (tellTick c r tick : Live σ α Unit).Unfelt := by
  have turned : (tellHeart c r tick : Live σ α Unit).Unfelt :=
    .ite ((Unfelt.count activations).bind fun _ => .event _) (.event _)
  exact (Unfelt.gauge _ _).bind fun _ => (Unfelt.gauge _ _).bind fun _ =>
    ((Unfelt.event _).onlyIf _).bind fun _ => turned.onlyIf _

/-- Also where the number cannot be read, with the counter moved already. -/
theorem tickLive_unfelt (c : Config α) (rebellion trauma : α) (number : Value α) :
    (tickLive c rebellion trauma number).Unfelt :=
  (Unfelt.act _).bind fun r => (Unfelt.answer _).bind fun n => (Unfelt.modify _).bind fun _ =>
    (tellTick_unfelt c r n).bind fun _ => .pure r

theorem cleanseLive_unfelt : (cleanseLive : Live (State α) α Unit).Unfelt :=
  Unfelt.subject.bind fun _ => .ite ((Unfelt.modify _).bind fun _ =>
    (Unfelt.gauge _ _).bind fun _ =>
    (Unfelt.gauge _ _).bind fun _ => .event _) (.answer _)

theorem Operation.live_unfelt (c : Config α) (op : Operation α) : (op.live c).Unfelt := by
  cases op with
  | tick rebellion trauma number =>
      exact (tickLive_unfelt c rebellion trauma number).bind fun _ => .pure _
  | cleanse => exact cleanseLive_unfelt.bind fun _ => .pure _

end Plague

/-! ## Readiness to rebel -/

namespace Rebellion

theorem surveyLive_unfelt (c : Config α) (profiles : List (Profile α)) :
    (surveyLive c profiles : Live σ α (List (Assessment α))).Unfelt := by
  refine .answer_bind fun all assessed => ?_
  have ranked : (Live.each (fun a => Live.rank boardName ⟨a.npcId, a.probability,
      .dict (payload a)⟩) all : Live σ α Unit).Unfelt := by
    refine .each fun a member => ?_
    obtain ⟨profile, -, found⟩ := Answer.exists_of_mem_mapM assessed member
    exact .rank (.of_confined (of_assess found).2.1) _ _ _
  exact ranked.bind fun _ => .pure all

theorem Operation.live_unfelt (c : Config α) (op : Operation α) : (op.live c).Unfelt := by
  cases op with
  | assess profile => exact (Unfelt.answer _).bind fun _ => .pure _
  | act action profile => exact (Unfelt.answer _).bind fun _ => .pure _
  | survey profiles => exact (surveyLive_unfelt c profiles).bind fun _ => .pure _

end Rebellion

/-! ## Cleansing -/

namespace Cleansing

theorem executeLive_unfelt (c : Config α) (party : List (Participant α)) (heart : Bool)
    {roll : Live σ α α} (h : roll.Unfelt) : (executeLive c party heart roll).Unfelt := by
  have told (v : Verdict α) : (tellVerdict v : Live σ α Unit).Unfelt :=
    (Unfelt.count attempts).bind fun _ => ((Unfelt.count successes).onlyIf _).bind fun _ => .event _
  exact (Unfelt.answer _).bind fun _ => h.bind fun _ => (told _).bind fun _ => .pure _

theorem Operation.live_unfelt (c : Config α) (op : Operation α) : (op.live c).Unfelt := by
  cases op with
  | rate party => exact (Unfelt.answer _).bind fun _ => .pure _
  | execute party heart => exact (executeLive_unfelt c party heart (.act _)).bind fun _ => .pure _
  | follow source => exact (Unfelt.modify _).bind fun _ => .pure _

end Cleansing

/-! ## The economy -/

namespace Economy

theorem settleLive_unfelt : (settleLive : Live (Economy α) α (Status α)).Unfelt := by
  have told (s : Status α) : (tellStatus s : Live (Economy α) α Unit).Unfelt :=
    (Unfelt.count tickCounter).bind fun _ => .each fun _ _ => .gauge _ _
  have concluded : (concludeLive : Live (Economy α) α (Status α)).Unfelt :=
    (Unfelt.modify _).bind fun _ => Unfelt.subject.bind fun done => (told done.status).bind
      fun _ => .pure _
  exact (Unfelt.modify _).bind fun _ => (Unfelt.act _).bind fun _ => concluded

/-- The plague may tell its part of a tick that then fails at the stocks. -/
theorem tickLive_unfelt (trauma : Option α) : (tickLive trauma).Unfelt :=
  (Unfelt.act _).bind fun _ => Unfelt.subject.bind fun _ => (Unfelt.answer _).bind fun _ =>
    (Unfelt.subject.bind fun e : Economy α =>
      (Plague.tickLive_unfelt e.plagueConfig _ _ _).within).bind fun _ => settleLive_unfelt

theorem ticksLive_unfelt (trauma : Option α) (more : Nat) : (ticksLive trauma more).Unfelt := by
  induction more with
  | zero => exact tickLive_unfelt trauma
  | succ more ih => exact (tickLive_unfelt trauma).bind fun _ => ih

theorem advanceLive_unfelt (times : Value α) (trauma : Option α) :
    (advanceLive times trauma).Unfelt :=
  (Unfelt.answer _).bind fun _ => ticksLive_unfelt trauma _

theorem cleanseLive_unfelt : (cleanseLive : Live (Economy α) α Unit).Unfelt :=
  Plague.cleanseLive_unfelt.within

theorem Operation.live_unfelt (op : Operation α) : (op.live).Unfelt := by
  cases op with
  | addMine yieldRate =>
      have opened (yieldRate : α) : (openMineLive yieldRate).Unfelt :=
        Unfelt.subject.bind fun _ => (Unfelt.modify _).bind fun _ => (Unfelt.event _).bind
          fun _ => .pure _
      exact ((Unfelt.answer _).bind fun _ => opened _).bind fun _ => .pure _
  | addRefinery efficiency =>
      have opened (efficiency : α) : (openRefineryLive efficiency).Unfelt :=
        Unfelt.subject.bind fun _ => (Unfelt.modify _).bind fun _ => (Unfelt.event _).bind
          fun _ => .pure _
      exact ((Unfelt.answer _).bind opened).bind fun _ => .pure _
  | setPopulation rebellion npcs => exact (Unfelt.act _).bind fun _ => .pure _
  | tick trauma => exact (tickLive_unfelt trauma).bind fun _ => .pure _
  | advance times trauma => exact (advanceLive_unfelt times trauma).bind fun _ => .pure _
  | cleanse => exact cleanseLive_unfelt.bind fun _ => .pure _

end Economy

/-! ## The world -/

namespace World

theorem performLive_unfelt (deed : Deed α) : (performLive deed).Unfelt := by
  have applied (npc : Npc α) (effect : Deed.Effect α) : (applyLive npc deed effect).Unfelt :=
    (Unfelt.act _).bind fun _ => Unfelt.subject.bind fun _ => ((Unfelt.event _).onlyIf _).bind
      fun _ => .pure _
  exact (Unfelt.act _).bind fun npc => Unfelt.subject.bind fun _ => (Unfelt.answer _).bind
    fun effect => .ite (.pure _) (applied npc effect)

theorem refreshLive_unfelt : (refreshLive : Live (World α) α (α × α)).Unfelt :=
  Unfelt.subject.bind fun w => (Rebellion.surveyLive_unfelt w.rebellion _).bind fun _ =>
    (Unfelt.act _).bind fun _ => .pure _

theorem advanceLive_unfelt (times : Value α) : (advanceLive times).Unfelt :=
  refreshLive_unfelt.bind fun _ => (Economy.advanceLive_unfelt times _).within

theorem rollLive_unfelt : (rollLive : Live (World α) α α).Unfelt := by
  have read (script : Script α) : (readLive script).Unfelt :=
    (Economy.cleanseLive_unfelt.within.onlyIf _).bind fun _ => .act _
  refine Unfelt.subject.bind fun w => ?_
  cases w.script with
  | none => exact .act drawRoll
  | some script => exact read script

theorem deployLive_unfelt (given : Option (List (Cleansing.Participant α))) :
    (deployLive given).Unfelt :=
  Unfelt.subject.bind fun w => .ite
    ((Cleansing.executeLive_unfelt w.cleansing _ true rollLive_unfelt).bind fun _ =>
      Unfelt.subject.bind fun _ => (Economy.cleanseLive_unfelt.within.onlyIf _).bind
        fun _ => .pure _)
    (.answer _)

theorem Operation.live_unfelt (op : Operation α) : (op.live).Unfelt := by
  cases op with
  | register id => exact (Unfelt.act _).bind fun _ => .pure _
  | enlist id role => exact (Unfelt.act _).bind fun _ => .pure _
  | addEfficiency id delta => exact (Unfelt.act _).bind fun _ => .pure _
  | addMorale id delta => exact (Unfelt.act _).bind fun _ => .pure _
  | assign id task => exact (Unfelt.act _).bind fun _ => .pure _
  | setTrauma id trauma => exact (Unfelt.act _).bind fun _ => .pure _
  | assess id => exact (Unfelt.act _).bind fun _ => .pure _
  | act deed => exact (performLive_unfelt deed).bind fun _ => .pure _
  | refresh => exact refreshLive_unfelt.bind fun _ => .pure _
  | advance times => exact (advanceLive_unfelt times).bind fun _ => .pure _
  | economy op => exact op.live_unfelt.within.bind fun _ => .pure _
  | deploy given => exact (deployLive_unfelt given).bind fun _ => .pure _
  | follow rolls cleanseFirst => exact (Unfelt.modify _).bind fun _ => .pure _

end World

end Colony

import Colony.Proofs.Live.Notes
import Colony.Proofs.Operation

/-!
# Operations do as they do live

Each operation of each engine, and of the world, comes live to what its outcome
says once its notes are written.  So whatever is known of outcomes and their
notes is known of operations that write to a chronicle in their midst.
-/

namespace Colony

open Live (Writes WritesFreely Tells)

variable {σ α β γ : Type} [Scalar α]

/-! ## The plague -/

namespace Plague

theorem tells_tellHeart (c : Config α) (r : TickReport α) (tick : Int) :
    (tellHeart c r tick : Live σ α Unit).Tells (if r.heart then
      [.count activations, .event (awakeningEvent c r tick)]
    else [.event (clearingEvent c r tick)]) := by
  unfold tellHeart
  split
  · exact (Tells.count activations).append (.event _)
  · exact .event _

theorem tells_tellTick (c : Config α) (r : TickReport α) (tick : Int) :
    (tellTick c r tick : Live σ α Unit).Tells (tickNotes c r tick) :=
  (Tells.gauge _ _).append ((Tells.gauge _ _).append
    (((Tells.event _).onlyIf).append ((tells_tellHeart c r tick).onlyIf)))

theorem tickLive_writes (c : Config α) (rebellion trauma : α) (number : Value α) :
    (tickLive c rebellion trauma number).WritesFreely (tickAs c rebellion trauma number) := by
  have told (r : TickReport α) (n : Int) :=
    (tells_tellTick (σ := State α) c r n).freely (unranked_tickNotes c r n)
  refine ((WritesFreely.act (notes_move c rebellion trauma)).bind fun r =>
    (WritesFreely.answer number.toInt).bind fun n => (WritesFreely.modify (·.numbered n)).bind
      fun _ => (told r n).bind fun _ => .pure r).congr fun s => ?_
  rw [tickAs]
  congr
  funext r moved
  cases number.toInt with
  | error failure => rfl
  | ok n => simp [Outcome.andThen, Outcome.of, Outcome.done, conclude]

theorem cleanseLive_writes : (cleanseLive : Live (State α) α Unit).WritesFreely cleanse := by
  have told (before : State α) := ((Tells.gauge (σ := State α) counterGauge (.num 0)).append
    ((Tells.gauge throttleGauge (.num 1)).append (.event (cleansingEvent before)))).freely
      (unranked_cleanseNotes before)
  refine (WritesFreely.subject fun before => .ite ((WritesFreely.modify cleansed).bind
    fun _ => told before) (.answer (.error .heartInactive))).congr fun s => ?_
  rw [cleanse]
  split <;> rfl

theorem Operation.live_writes (c : Config α) (op : Operation α) :
    (op.live c).Writes (op.perform c) := by
  cases op with
  | tick rebellion trauma number =>
      exact (tickLive_writes c rebellion trauma number).writes.map some
  | cleanse => exact cleanseLive_writes.writes.map fun _ => none

end Plague

/-! ## Readiness to rebel -/

namespace Rebellion

/-- A standing needs its score among fractions, as every assessed probability is. -/
theorem surveyLive_writes (c : Config α) (profiles : List (Profile α)) :
    (surveyLive c profiles : Live σ α (List (Assessment α))).Writes (survey c profiles) := by
  have ranked (all : List (Assessment α)) (assessed : profiles.mapM (assess c) = .ok all) :
      (Live.each (fun a => Live.rank boardName ⟨a.npcId, a.probability, .dict (payload a)⟩)
        all : Live σ α Unit).Tells (all.map rankNote) := by
    refine .each fun a member => ?_
    obtain ⟨profile, -, found⟩ := Answer.exists_of_mem_mapM assessed member
    exact .rank (.of_confined (of_assess found).2.1) _ _ _
  refine (Writes.answer fun all assessed => (ranked all assessed).bind fun _ =>
    .pure all).congr fun s => ?_
  rw [survey]
  cases profiles.mapM (assess c) with
  | error failure => rfl
  | ok all => simp [Outcome.andThen, Outcome.of, Outcome.done]

theorem Operation.live_writes (c : Config α) (op : Operation α) :
    (op.live c).Writes (op.perform c) := by
  cases op with
  | assess profile => exact (WritesFreely.answer _).writes.map fun a => Reply.assessed [a]
  | act action profile => exact (WritesFreely.answer _).writes.map Reply.changed
  | survey profiles => exact (surveyLive_writes c profiles).map Reply.assessed

end Rebellion

/-! ## Cleansing -/

namespace Cleansing

theorem tells_tellVerdict (v : Verdict α) :
    (tellVerdict v : Live σ α Unit).Tells (verdictNotes v) := by
  have told := (Tells.count (σ := σ) attempts).append
    ((Tells.onlyIf (p := v.success = true) (.count successes)).append (.event (resolution v)))
  rwa [← List.append_assoc] at told

theorem executeLive_writes (c : Config α) (party : List (Participant α)) (heart : Bool)
    {rollLive : Live σ α α} {roll : σ → Outcome σ α α} (h : rollLive.WritesFreely roll) :
    (executeLive c party heart rollLive).WritesFreely (execute c party heart roll) := by
  have told (v : Verdict α) := (tells_tellVerdict (σ := σ) v).freely (unranked_verdictNotes v)
  refine ((WritesFreely.answer (chance c party heart)).bind fun chance => h.bind fun rolled =>
    (told (resolve party chance.1 chance.2 rolled)).bind fun _ => .pure _).congr fun s => ?_
  rw [execute]
  congr
  funext chance s
  congr
  funext rolled next
  simp [Outcome.andThen, Outcome.done]

theorem Operation.live_writes (c : Config α) (op : Operation α) :
    (op.live c).Writes (op.perform c) := by
  cases op with
  | rate party =>
      exact (WritesFreely.answer (weigh c party)).writes.map fun rated =>
        Reply.rated rated.1 rated.2
  | execute party heart =>
      have roll : (Live.act (Chance.Source.roll (α := α))).WritesFreely Chance.Source.roll :=
        .act fun s => s.notes_roll
      exact (executeLive_writes c party heart roll).writes.map Reply.resolved
  | follow source => exact ((WritesFreely.modify _).bind fun _ => .pure _).writes

end Cleansing

/-! ## The economy -/

namespace Economy

theorem onPlagueLive_writes {op : Live (Plague.State α) α β}
    {operation : Plague.State α → Outcome (Plague.State α) α β} (h : op.WritesFreely operation) :
    (onPlagueLive op).WritesFreely (onPlague operation) :=
  ⟨h.writes.within fun _ => rfl, unranked_onPlague h.unranked⟩

theorem tells_tellStatus (s : Status α) : (tellStatus s : Live σ α Unit).Tells (tickNotes s) :=
  (Tells.count tickCounter).append (.each fun _ _ => .gauge _ _)

theorem concludeLive_writes :
    (concludeLive : Live (Economy α) α (Status α)).WritesFreely conclude := by
  have told (s : Status α) := (tells_tellStatus (σ := Economy α) s).freely (unranked_tickNotes s)
  refine ((WritesFreely.modify counted).bind fun _ => .subject fun done =>
    (told done.status).bind fun _ => .pure done.status).congr fun e => ?_
  simp [conclude, Outcome.andThen, Outcome.done]

theorem settleLive_writes :
    (settleLive : Live (Economy α) α (Status α)).WritesFreely settle := by
  have produced : (Live.act fun e : Economy α =>
      e.onStocks (Stocks.tick (effectiveThrottle e.plague.throttle))).WritesFreely _ :=
    .act fun e => Stocks.notes_tick _ _
  exact ((WritesFreely.modify withPlague).bind fun _ => produced.bind fun _ =>
    concludeLive_writes).congr fun _ => rfl

theorem tickPlagueLive_writes (rebellion trauma : α) (number : Value α) :
    (tickPlagueLive rebellion trauma number).WritesFreely (tickPlague rebellion trauma number) :=
  (WritesFreely.subject fun e =>
    onPlagueLive_writes (Plague.tickLive_writes e.plagueConfig rebellion trauma number)).congr
    fun _ => rfl

/-- The plague reads the number of the tick once more, which cannot fail. -/
theorem tickLive_writes (trauma : Option α) : (tickLive trauma).WritesFreely (tick trauma) := by
  have rated : (Live.act fun e : Economy α =>
      e.onStocks (Stocks.rate e.config e.mines e.refineries)).WritesFreely _ :=
    .act fun e => Stocks.notes_rate _ _ _ _
  have felt (rated : Economy α) := (WritesFreely.answer (σ := Economy α)
    (rated.traumaFor trauma)).bind fun trauma =>
      (tickPlagueLive_writes rated.status.rebellion trauma
        (.int (rated.status.tickCount + 1))).bind fun _ => settleLive_writes
  exact (rated.bind fun _ => .subject felt).congr fun _ => rfl

theorem ticksLive_writes (trauma : Option α) (more : Nat) :
    (ticksLive trauma more).WritesFreely (ticks trauma more) := by
  induction more with
  | zero => exact tickLive_writes trauma
  | succ more ih => exact (tickLive_writes trauma).bind fun _ => ih

theorem advanceLive_writes (times : Value α) (trauma : Option α) :
    (advanceLive times trauma).WritesFreely (advance times trauma) := by
  refine ((WritesFreely.answer times.toInt).bind fun n =>
    ticksLive_writes trauma (n - 1).toNat).congr fun e => ?_
  rw [advance]
  cases times.toInt <;> rfl

theorem cleanseLive_writes : (cleanseLive : Live (Economy α) α Unit).WritesFreely cleanse :=
  onPlagueLive_writes Plague.cleanseLive_writes

theorem event_freely (draft : Draft α) :
    (Live.event draft : Live σ α Unit).WritesFreely fun s => ⟨.ok (), [.event draft], s⟩ :=
  (Tells.event draft).freely (List.forall_mem_singleton.mpr id)

theorem openMineLive_writes (yieldRate : α) :
    (openMineLive yieldRate).WritesFreely (openMine yieldRate) :=
  (WritesFreely.subject fun _ => (WritesFreely.modify _).bind fun _ =>
    (event_freely _).bind fun _ => .pure _).congr fun _ => rfl

theorem openRefineryLive_writes (efficiency : α) :
    (openRefineryLive efficiency).WritesFreely (openRefinery efficiency) :=
  (WritesFreely.subject fun _ => (WritesFreely.modify _).bind fun _ =>
    (event_freely _).bind fun _ => .pure _).congr fun _ => rfl

theorem Operation.live_writes (op : Operation α) : op.live.Writes op.perform := by
  cases op with
  | addMine yieldRate =>
      exact ((WritesFreely.answer _).bind fun yieldRate =>
        openMineLive_writes (Scalar.atLeast 0 yieldRate)).writes.map Reply.site
  | addRefinery efficiency =>
      exact ((WritesFreely.answer _).bind openRefineryLive_writes).writes.map Reply.site
  | setPopulation rebellion npcs =>
      exact (WritesFreely.act (notes_setPopulation rebellion npcs)).writes.map fun _ => Reply.done
  | tick trauma => exact (tickLive_writes trauma).writes.map Reply.status
  | advance times trauma => exact (advanceLive_writes times trauma).writes.map Reply.status
  | cleanse => exact cleanseLive_writes.writes.map fun _ => Reply.done

end Economy

/-! ## The world -/

namespace World

theorem onEconomyLive_writes {op : Live (Economy α) α β}
    {operation : Economy α → Outcome (Economy α) α β} (h : op.Writes operation) :
    (onEconomyLive op).Writes (onEconomy operation) :=
  h.within fun _ => rfl

theorem onEconomyLive_freely {op : Live (Economy α) α β}
    {operation : Economy α → Outcome (Economy α) α β} (h : op.WritesFreely operation) :
    (onEconomyLive op).WritesFreely (onEconomy operation) :=
  ⟨onEconomyLive_writes h.writes, fun w => h.unranked w.economy⟩

theorem onRoster_freely (operation : Roster α → Answer α (β × Roster α)) :
    (Live.act (onRoster operation)).WritesFreely (onRoster operation) :=
  .act (notes_onRoster operation)

theorem applyLive_writes (npc : Npc α) (deed : Deed α) (effect : Deed.Effect α) :
    (applyLive npc deed effect).WritesFreely (apply npc deed effect) := by
  have told (stored : World α) :=
    (Tells.onlyIf (σ := World α) (p := effect.after.halts = true) (.event
      (rebellionTriggered deed stored.economy.status.tickCount effect.after))).freely
      (unranked_rebellionNotes deed stored.economy.status.tickCount effect.after)
  refine ((WritesFreely.act (notes_store npc effect.profile)).bind fun _ =>
    .subject fun stored => (told stored).bind fun _ => .pure effect).congr fun w => ?_
  rw [apply]
  congr
  funext _ stored
  simp [Outcome.andThen, Outcome.done, rebellionNotes]

theorem performLive_writes (deed : Deed α) :
    (performLive deed).WritesFreely (World.perform deed) := by
  have changed (npc : Npc α) := WritesFreely.subject fun w : World α =>
    (WritesFreely.answer (σ := World α) (w.effectOn npc deed)).bind fun effect =>
      .ite (p := deed.dryRun = true) (.pure effect) (applyLive_writes npc deed effect)
  exact ((onRoster_freely _).bind changed).congr fun _ => rfl

theorem refreshLive_writes : (refreshLive : Live (World α) α (α × α)).Writes World.refresh := by
  have told (figures : α × α) (npcs : Value α) :
      (Live.act (onEconomy (·.setPopulation figures.1 npcs))).WritesFreely
        (onEconomy (α := α) (·.setPopulation figures.1 npcs)) :=
    .act fun w => Economy.notes_setPopulation figures.1 npcs w.economy
  have surveyed (w : World α) :=
    (Rebellion.surveyLive_writes (σ := World α) w.rebellion (w.roster.npcs.map w.profileOf)).bind
      fun assessments => (told (w.figures assessments) (.int w.roster.npcs.length)).bind fun _ =>
        .pure (w.figures assessments)
  refine (Writes.subject surveyed).congr fun w => ?_
  rw [refresh, survey, Rebellion.survey]
  cases (w.roster.npcs.map w.profileOf).mapM (Rebellion.assess w.rebellion) <;> rfl

theorem advanceLive_writes (times : Value α) :
    (advanceLive times).Writes (World.advance times) :=
  refreshLive_writes.bind fun figures =>
    onEconomyLive_freely (Economy.advanceLive_writes times (some figures.2))

theorem rollLive_writes : (rollLive : Live (World α) α α).WritesFreely roll := by
  have drawn : (Live.act drawRoll : Live (World α) α α).WritesFreely drawRoll :=
    .act fun w => w.streams.notes_draw rollStream []
  have read (script : Script α) := ((onEconomyLive_freely Economy.cleanseLive_writes).onlyIf
    (p := script.cleanseFirst = true)).bind fun _ => WritesFreely.act fun w : World α =>
      show (w.readRoll script).notes = [] from rfl
  have rolled (w : World α) : (w.script.elim (Live.act drawRoll) readLive).WritesFreely
      (w.script.elim drawRoll fun script v => (if script.cleanseFirst then v.onEconomy (·.cleanse)
        else .done () v).andThen fun _ => readRoll script) := by
    cases w.script with
    | none => exact drawn
    | some script => exact read script
  refine (WritesFreely.subject rolled).congr fun w => ?_
  rw [roll]
  cases w.script with
  | none => rfl
  | some script => cases first : script.cleanseFirst <;> simp [first]

theorem deployLive_writes (given : Option (List (Cleansing.Participant α))) :
    (deployLive given).WritesFreely (deploy given) := by
  have cleansed (verdict : Cleansing.Verdict α) := WritesFreely.subject fun rolled : World α =>
    ((onEconomyLive_freely Economy.cleanseLive_writes).onlyIf
      (p := (verdict.success && rolled.economy.plague.heart) = true)).bind fun _ => .pure verdict
  have executed (w : World α) := (Cleansing.executeLive_writes w.cleansing (given.getD w.party) true
    rollLive_writes).bind cleansed
  refine (WritesFreely.subject fun w : World α => .ite (p := w.economy.plague.heart = true)
    (executed w) (.answer (.error .heartInactive))).congr fun w => ?_
  rw [deploy]
  split
  · congr
    funext verdict next
    cases won : verdict.success with
    | false => simp
    | true => simp [cleanseIfAwake]
  · rfl

theorem Operation.live_writes (op : Operation α) : op.live.Writes op.perform := by
  cases op with
  | register id => exact (onRoster_freely _).writes.map Reply.npc
  | enlist id role => exact (onRoster_freely _).writes.map Reply.npc
  | addEfficiency id delta => exact (onRoster_freely _).writes.map Reply.npc
  | addMorale id delta => exact (onRoster_freely _).writes.map Reply.npc
  | assign id task => exact (onRoster_freely _).writes.map Reply.npc
  | setTrauma id trauma =>
      exact (WritesFreely.act (notes_setTrauma id trauma)).writes.map fun _ => Reply.done
  | assess id => exact (WritesFreely.act (notes_assess id)).writes.map Reply.assessment
  | act deed => exact (performLive_writes deed).writes.map Reply.effect
  | refresh => exact refreshLive_writes.map fun figures => Reply.figures figures.1 figures.2
  | advance times =>
      exact (advanceLive_writes times).map fun status => Reply.economy (.status status)
  | economy op => exact (onEconomyLive_writes op.live_writes).map Reply.economy
  | deploy given => exact (deployLive_writes given).writes.map Reply.verdict
  | follow rolls cleanseFirst => exact ((WritesFreely.modify _).bind fun _ => .pure _).writes

/-- Operation after operation, live, the world and its chronicle come to what notes make of them. -/
theorem transcript_live (ops : List (Operation α)) (o : Observed (World α) α) :
    Live.transcript Operation.live ops o = o.transcript Operation.perform ops :=
  Live.transcript_of_writes Operation.live_writes ops o

end World

end Colony

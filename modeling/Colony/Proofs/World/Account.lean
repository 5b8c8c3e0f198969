import Mathlib.Algebra.BigOperators.Group.List.Basic
import Colony.Proofs.Economy.Account
import Colony.Proofs.World.Conversion
import Colony.Proofs.World.Deed
import Colony.Proofs.World.Deployment
import Colony.Proofs.World.Highest
import Colony.Proofs.World.Mirror

/-!
# The account of the world

While rolls come from the world's own stream and nobody but a deployment
cleanses the plague, the chronicle accounts for all that the world has done.
Its counters agree with the count of ticks and with the draws, its gauges with
the stocks, and its events with the sites, the deployments and the deeds that
set off a rebellion.  Operations that fail on the way are no exception, nor are
those whose notes cannot be written: these put people on a board at most.
-/

namespace Colony

variable {σ α β γ ω : Type}

/-! ## Notes that are written -/

/-- All who are ranked are ranked first. -/
def Outcome.RanksFirst (o : Outcome σ α β) : Prop :=
  ∃ ranks rest, o.notes = ranks ++ rest ∧ (∀ note ∈ ranks, note.Ranks) ∧
    ∀ note ∈ rest, ¬ note.Ranks

section Told

variable [Scalar α]

theorem Observed.takesPlace_cases (operation : σ → Outcome σ α β) (o : Observed σ α) :
    o.takesPlace operation = true ∧ (o.run operation).1 = (operation o.subject).answer ∧
        (o.run operation).2.subject = (operation o.subject).state ∨
      o.takesPlace operation = false ∧ (∃ failure, (o.run operation).1 = .error failure) ∧
        (o.run operation).2.subject = o.subject := by
  obtain ⟨s, chronicle⟩ := o
  cases chronicle with
  | none => exact .inl ⟨rfl, rfl, rfl⟩
  | some c =>
      rcases heard : c.hearAll (operation s).notes with ⟨written, next⟩
      simp only [Observed.run, Observed.takesPlace, heard]
      cases written with
      | ok _ => exact .inl ⟨rfl, rfl, rfl⟩
      | error failure => exact .inr ⟨rfl, ⟨failure, rfl⟩, rfl⟩

/-- The notes of all operations of a run that take place. -/
def Observed.told (perform : ω → σ → Outcome σ α β) : List ω → Observed σ α → List (Note α)
  | [], _ => []
  | op :: ops, o =>
      (if o.takesPlace (perform op) then (perform op o.subject).notes else []) ++
        told perform ops (o.run (perform op)).2

/-- Notes that rank people first and cannot all be written fail at one of these. -/
theorem Chronicle.hearAll_of_unwritten {ranks rest : List (Note α)}
    (ranked : ∀ note ∈ ranks, note.Ranks) (unranked : ∀ note ∈ rest, ¬ note.Ranks)
    {c : Chronicle α} {failure : Failure α}
    (unwritten : (c.hearAll (ranks ++ rest)).1 = .error failure) :
    ∃ boards, (c.hearAll (ranks ++ rest)).2 = { c with boards := boards } := by
  cases first : (c.hearAll ranks).1 with
  | error early =>
      rw [hearAll_append_of_error first]
      exact c.hearAll_of_ranks ranked
  | ok _ =>
      rw [hearAll_append first, answer_hearAll_of_unranked unranked] at unwritten
      cases unwritten

theorem Chronicle.Heard.run {opened c : Chronicle α} {notes : List (Note α)}
    (h : Heard opened notes c) {operation : σ → Outcome σ α β} {s : σ}
    (ranksFirst : (operation s).RanksFirst) :
    let o : Observed σ α := ⟨s, some c⟩
    ∃ next, (o.run operation).2.chronicle = some next ∧
      Heard opened (notes ++ if o.takesPlace operation then (operation s).notes else []) next := by
  obtain ⟨ranks, rest, split, ranked, unranked⟩ := ranksFirst
  rcases heard : c.hearAll (operation s).notes with ⟨written, next⟩
  simp only [Observed.run, Observed.takesPlace, heard]
  cases written with
  | ok _ =>
      have all := h.hearAll (congrArg Prod.fst heard)
      rw [heard] at all
      exact ⟨next, rfl, all⟩
  | error failure =>
      rw [split] at heard
      obtain ⟨boards, left⟩ :=
        hearAll_of_unwritten ranked unranked (congrArg Prod.fst heard)
      have same : next = { c with boards := boards } := by
        rw [← left, heard]
      refine ⟨next, rfl, ?_⟩
      rw [if_neg Bool.false_ne_true, List.append_nil, same]
      exact h.onBoards boards

theorem Observed.heard_after {perform : ω → σ → Outcome σ α β}
    (ranksFirst : ∀ op s, (perform op s).RanksFirst) {opened c : Chronicle α}
    {notes : List (Note α)} (h : Chronicle.Heard opened notes c) (ops : List ω) (s : σ) :
    let o : Observed σ α := ⟨s, some c⟩
    ∃ heard, (o.after perform ops).chronicle = some heard ∧
      Chronicle.Heard opened (notes ++ o.told perform ops) heard := by
  induction ops generalizing c notes s with
  | nil =>
      refine ⟨c, rfl, ?_⟩
      rw [Observed.told, List.append_nil]
      exact h
  | cons op ops ih =>
      obtain ⟨next, written, now⟩ := h.run (ranksFirst op s)
      obtain ⟨heard, last, all⟩ := ih now ((⟨s, some c⟩ : Observed σ α).run (perform op)).2.subject
      have state : ((⟨s, some c⟩ : Observed σ α).run (perform op)).2 =
          ⟨((⟨s, some c⟩ : Observed σ α).run (perform op)).2.subject, some next⟩ := by
        rw [← written]
      rw [← state, List.append_assoc] at all
      rw [← state] at last
      exact ⟨heard, last, all⟩

end Told

/-! ## Counters and kinds -/

/-- What a counter shows that has counted so often: nothing at all if it never has. -/
def tallied [Scalar α] (n : Nat) : Option α := if n = 0 then none else some (Scalar.counted n)

theorem Chronicle.counterAfter_none [Scalar α] (n : Nat) :
    counterAfter n (none : Option α) = tallied n := by
  cases n with
  | zero => rfl
  | succ n =>
      rw [counterAfter_add, tallied, if_neg (Nat.succ_ne_zero n), Scalar.counted_succ,
        Scalar.counted]
      exact congrArg (fun x => some (x + 1)) (getD_counterAfter n none)

/-- What a new chronicle starts with. -/
theorem Chronicle.empty_of_new [Scalar α] {config : Config α} {c : Chronicle α}
    (opened : Chronicle.new config = .ok c) :
    c.enabled = config.enabled.holds ∧ 0 < c.capacity ∧ c.log = {} ∧ c.counters = [] := by
  obtain ⟨capacity, -, made⟩ := Answer.bind_eq_ok.mp opened
  cases made
  exact ⟨rfl, by simp, rfl, rfl⟩

theorem sum_ite_eq_count (name : String) (names : List String) :
    (names.map fun other => if name = other then 1 else 0).sum = names.count name := by
  induction names with
  | nil => rfl
  | cons other names ih =>
      rw [List.map_cons, List.sum_cons, ih, List.count_cons, Nat.add_comm]
      by_cases same : name = other
      · simp [same]
      · simp [same, Ne.symm same]

/-- Where each draft is of one of some kinds, they are as many as those of each kind together. -/
theorem sum_kindsOf {kinds : List String} (distinct : kinds.Nodup) {notes : List (Note α)}
    (known : ∀ draft ∈ drafts notes, draft.kind ∈ kinds) :
    (kinds.map fun kind => kindsOf kind notes).sum = (drafts notes).length := by
  simp only [kindsOf]
  generalize drafts notes = ds at known
  induction ds with
  | nil => simp
  | cons d ds ih =>
      have once : (kinds.map fun kind => if d.kind = kind then 1 else 0).sum = 1 := by
        rw [sum_ite_eq_count]
        exact List.count_eq_one_of_mem distinct (known d List.mem_cons_self)
      have rest := ih fun draft member => known draft (List.mem_cons_of_mem d member)
      simp only [List.countP_cons, decide_eq_true_eq, List.sum_map_add, rest, once,
        List.length_cons]

namespace World

def cleansingResolved : String := "CLEANSING_RESOLVED"

def triggered : String := "REBELLION_TRIGGERED"

def eventKinds : List String :=
  Economy.eventKinds ++ [cleansingResolved, Plague.emptied, triggered]

/-! ## What an operation accounts for -/

/-- What every run keeps of the world. -/
structure Kept (halt : Amount) (w : World Amount) : Prop where
  builtIn : w.script = none
  halt : w.rebellion.haltThreshold = halt
  economy : w.economy.Kept

/-- Some notes account for what lies between two worlds, and tell of so many rebellions. -/
structure Accounts (w : World Amount) (notes : List (Note Amount)) (next : World Amount)
    (rebellions : Nat) : Prop where
  ticks : next.economy.status.tickCount =
    w.economy.status.tickCount + countsOf Economy.tickCounter notes
  mines : next.economy.mines.length = w.economy.mines.length + kindsOf Economy.mineAdded notes
  refineries : next.economy.refineries.length =
    w.economy.refineries.length + kindsOf Economy.refineryAdded notes
  stocks : Economy.Gauged w.economy notes next.economy
  legible : next.streams.Legible ↔ w.streams.Legible
  rolls : w.streams.Legible → next.streams.count rollKey =
    w.streams.count rollKey + countsOf Cleansing.attempts notes
  unrolled : ¬ w.streams.Legible → countsOf Cleansing.attempts notes = 0
  resolved : kindsOf cleansingResolved notes = countsOf Cleansing.attempts notes
  cleansed : kindsOf Plague.emptied notes = countsOf Cleansing.successes notes
  rebellions : kindsOf triggered notes = rebellions
  kinds : ∀ draft ∈ drafts notes, draft.kind ∈ eventKinds

namespace Accounts

variable {w next last : World Amount} {notes more : List (Note Amount)} {m n : Nat}

theorem trans (h : Accounts w notes next m) (h' : Accounts next more last n) :
    Accounts w (notes ++ more) last (m + n) where
  ticks := by rw [countsOf_append, h'.ticks, h.ticks, Nat.add_assoc]
  mines := by rw [kindsOf_append, h'.mines, h.mines, Nat.add_assoc]
  refineries := by rw [kindsOf_append, h'.refineries, h.refineries, Nat.add_assoc]
  stocks := h.stocks.trans h'.stocks
  legible := h'.legible.trans h.legible
  rolls legible := by
    rw [countsOf_append, h'.rolls (h.legible.mpr legible), h.rolls legible, Nat.add_assoc]
  unrolled illegible := by
    rw [countsOf_append, h.unrolled illegible, h'.unrolled (mt h.legible.mp illegible)]
  resolved := by rw [kindsOf_append, countsOf_append, h.resolved, h'.resolved]
  cleansed := by rw [kindsOf_append, countsOf_append, h.cleansed, h'.cleansed]
  rebellions := by rw [kindsOf_append, h.rebellions, h'.rebellions]
  kinds draft member := by
    rw [drafts_append, List.mem_append] at member
    exact member.elim (h.kinds draft) (h'.kinds draft)

/-- Notes of the economy alone tell of no draw, no cleansing and no rebellion. -/
theorem of_economy {o : Outcome (Economy Amount) Amount β} (h : Economy.Accounted w.economy o)
    (economy : next.economy = o.state) (streams : next.streams = w.streams) :
    Accounts w o.notes next 0 := by
  have others {kind : String} (other : Economy.eventKinds.contains kind = false) :
      kindsOf kind o.notes = 0 := h.tells.kindsOf_eq_zero other
  have uncounted {name : String} (other : Economy.counters.contains name = false) :
      countsOf name o.notes = 0 := h.tells.countsOf_eq_zero other
  refine ⟨?_, ?_, ?_, ?_, by rw [streams], fun _ => ?_, fun _ => uncounted rfl, ?_, ?_, others rfl,
    ?_⟩
  · rw [economy, h.ticks]
  · rw [economy, h.mines]
  · rw [economy, h.refineries]
  · rw [economy]
    exact h.stocks
  · rw [streams, uncounted rfl, Nat.add_zero]
  · rw [others rfl, uncounted rfl]
  · rw [others rfl, uncounted rfl]
  · exact fun draft member => List.mem_append_left _ (h.tells.kind_mem draft member)

/-- Where the economy and the draws stand still, there is nothing to tell but rebellions. -/
theorem of_still (tells : Tells [] [triggered] notes)
    (silent : ∀ r, shown (Economy.stockGauge r) notes = none)
    (ticks : next.economy.status.tickCount = w.economy.status.tickCount)
    (mines : next.economy.mines = w.economy.mines)
    (refineries : next.economy.refineries = w.economy.refineries)
    (stocks : next.economy.status.stocks = w.economy.status.stocks)
    (streams : next.streams = w.streams) :
    Accounts w notes next (kindsOf triggered notes) := by
  have uncounted (name : String) : countsOf name notes = 0 := tells.countsOf_eq_zero rfl
  have untold {kind : String} (other : [triggered].contains kind = false) :
      kindsOf kind notes = 0 := tells.kindsOf_eq_zero other
  refine ⟨?_, ?_, ?_, .inr ⟨ticks, by rw [stocks], silent⟩, by rw [streams], fun _ => ?_,
    fun _ => uncounted _, ?_, ?_, rfl, ?_⟩
  · rw [ticks, uncounted, Nat.add_zero]
  · rw [mines, untold rfl, Nat.add_zero]
  · rw [refineries, untold rfl, Nat.add_zero]
  · rw [streams, uncounted, Nat.add_zero]
  · rw [untold rfl, uncounted]
  · rw [untold rfl, uncounted]
  · have known : Tells [] eventKinds notes := tells.mono (List.nil_subset _) (by decide)
    exact known.kind_mem

/-- Ranking people changes nothing that is accounted for. -/
theorem of_ranks (ranks : ∀ note ∈ notes, note.Ranks)
    (ticks : next.economy.status.tickCount = w.economy.status.tickCount)
    (mines : next.economy.mines = w.economy.mines)
    (refineries : next.economy.refineries = w.economy.refineries)
    (stocks : next.economy.status.stocks = w.economy.status.stocks)
    (streams : next.streams = w.streams) : Accounts w notes next 0 := by
  have tells : Tells [] [] notes := by
    refine List.all_eq_true.mpr fun note member => ?_
    cases note with
    | rank board key score payload => rfl
    | count name => cases ranks _ member
    | gauge name value => cases ranks _ member
    | event draft => cases ranks _ member
  have silent (name : String) : shown name notes = none := by
    have none : notes.filterMap (·.gauge? name) = [] := by
      refine List.filterMap_eq_nil_iff.mpr fun note member => ?_
      cases note with
      | rank board key score payload => rfl
      | count name => cases ranks _ member
      | gauge name value => cases ranks _ member
      | event draft => cases ranks _ member
    rw [shown, none]
    rfl
  have still := of_still (tells.mono (List.nil_subset _) (List.nil_subset _))
    (fun r => silent (Economy.stockGauge r)) ticks mines refineries stocks streams
  rwa [tells.kindsOf_eq_zero rfl] at still

theorem refl (w : World Amount) : Accounts w [] w 0 :=
  of_ranks (List.forall_mem_nil _) rfl rfl rfl rfl rfl

/-- People can change without a note. -/
theorem of_people (people : OnlyPeople w next) (silent : notes = []) : Accounts w notes next 0 := by
  obtain ⟨roster, trauma, rfl⟩ := people
  rw [silent]
  exact of_ranks (List.forall_mem_nil _) rfl rfl rfl rfl rfl

theorem andThen {o : Outcome (World Amount) Amount β}
    {f : β → World Amount → Outcome (World Amount) Amount γ} (first : Accounts w o.notes o.state m)
    (rest : ∀ b, Accounts o.state (f b o.state).notes (f b o.state).state 0) :
    Accounts w (o.andThen f).notes (o.andThen f).state m := by
  obtain ⟨answer, notes, state⟩ := o
  cases answer with
  | error failure => exact first
  | ok b => exact first.trans (rest b)

end Accounts

theorem Kept.people {halt : Amount} {w next : World Amount} (kept : w.Kept halt)
    (people : OnlyPeople w next) : next.Kept halt := by
  obtain ⟨roster, trauma, rfl⟩ := people
  exact { kept with }

/-! ## Operations that are no deeds -/

/-- A deployment that rolls tells its verdict, and of the cleansing if it succeeds. -/
theorem notes_deploy [Scalar α] {w : World α} {given : Option (List (Cleansing.Participant α))}
    (builtIn : w.script = none) (heard : w.economy.plagueHeard = true)
    (awake : w.economy.plague.heart = true) {rated : α × Cleansing.Factors α}
    (chance : Cleansing.chance w.cleansing (given.getD w.party) true = .ok rated) {roll : α}
    (next : w.nextRoll = .ok roll) :
    (w.deploy given).notes = Cleansing.verdictNotes (w.verdictOn given rated roll) ++
      if (w.verdictOn given rated roll).success then Plague.cleanseNotes w.economy.plague
      else [] := by
  have told : w.rolled.cleanseIfAwake.notes = Plague.cleanseNotes w.economy.plague := by
    have awake' : w.rolled.economy.plague.heart = true := awake
    have emptied : Plague.cleanse w.rolled.economy.plague =
        ⟨.ok (), Plague.cleanseNotes w.economy.plague,
          Plague.cleansed w.rolled.economy.plague⟩ := if_pos awake'
    rw [cleanseIfAwake, if_pos awake', onEconomy, Economy.cleanse, Economy.onPlague, emptied]
    exact if_pos heard
  obtain ⟨-, answered, -⟩ := cleanse_of_awake (w := w.rolled) awake
  rw [deploy, if_pos awake, execute_of_roll builtIn chance next, verdictOn]
  generalize Cleansing.resolve (given.getD w.party) rated.1 rated.2 roll = verdict
  simp only [Outcome.andThen]
  cases verdict.success with
  | true => simp only [if_true, answered, told, Outcome.done, List.append_nil]
  | false => rfl

section Idle

variable {halt : Amount} {w : World Amount}

theorem accounts_people (kept : w.Kept halt) {o : Outcome (World Amount) Amount β}
    (people : OnlyPeople w o.state) (silent : o.notes = []) :
    Accounts w o.notes o.state 0 ∧ o.state.Kept halt :=
  ⟨.of_people people silent, kept.people people⟩

theorem accounts_refresh (kept : w.Kept halt) :
    Accounts w w.refresh.notes w.refresh.state 0 ∧ w.refresh.state.Kept halt := by
  rcases w.state_refresh with same | ⟨rebellion, set⟩
  · rw [same]
    exact ⟨.of_ranks w.ranks_of_mem_refresh rfl rfl rfl rfl rfl, kept⟩
  · rw [set]
    exact ⟨.of_ranks w.ranks_of_mem_refresh rfl rfl rfl rfl rfl,
      { kept with economy := { kept.economy with
          solvent := kept.economy.solvent.of_same rfl rfl rfl } }⟩

theorem accounts_onEconomy (kept : w.Kept halt)
    {operation : Economy Amount → Outcome (Economy Amount) Amount β}
    (h : Economy.Accounted w.economy (operation w.economy)) :
    Accounts w (w.onEconomy operation).notes (w.onEconomy operation).state 0 ∧
      (w.onEconomy operation).state.Kept halt :=
  ⟨.of_economy h rfl rfl, { kept with economy := h.kept }⟩

theorem accounts_advance (kept : w.Kept halt) (times : Value Amount) :
    Accounts w (w.advance times).notes (w.advance times).state 0 ∧
      (w.advance times).state.Kept halt := by
  obtain ⟨refreshed, stays⟩ := accounts_refresh kept
  have advanced (figures : Amount × Amount) (v : World Amount) (kept : v.Kept halt) :=
    accounts_onEconomy kept
      (Economy.accounted_advance kept.economy times (some figures.2))
  exact ⟨refreshed.andThen fun figures => (advanced figures _ stays).1,
    Outcome.state_andThen stays fun figures v kept => (advanced figures v kept).2⟩

/-! ### Deployments -/

theorem accounts_verdict {roll : Amount} (next : w.nextRoll = .ok roll)
    (v : Cleansing.Verdict Amount) (p : Plague.State Amount) :
    Accounts w (Cleansing.verdictNotes v ++ if v.success then Plague.cleanseNotes p else [])
      (if v.success then w.rolled.cleansed else w.rolled) 0 := by
  have legible := legible_of_nextRoll next
  have drawn : w.rolled.streams.count rollKey = w.streams.count rollKey + 1 :=
    Chance.Streams.count_counted_self rollKey w.streams
  have tells : Tells [Cleansing.attempts, Cleansing.successes] eventKinds
      (Cleansing.verdictNotes v ++ if v.success then Plague.cleanseNotes p else []) := by
    unfold Cleansing.verdictNotes
    cases v.success <;> rfl
  have silent (r : Economy.Resource) : shown (Economy.stockGauge r)
      (Cleansing.verdictNotes v ++ if v.success then Plague.cleanseNotes p else []) = none := by
    unfold Cleansing.verdictNotes
    cases v.success <;> cases r <;> rfl
  unfold Cleansing.verdictNotes at tells silent ⊢
  cases success : v.success with
  | true =>
      rw [success] at tells silent
      exact ⟨rfl, rfl, rfl, .inr ⟨rfl, rfl, silent⟩, Iff.rfl, fun _ => drawn, absurd legible, rfl,
        rfl, rfl, tells.kind_mem⟩
  | false =>
      rw [success] at tells silent
      exact ⟨rfl, rfl, rfl, .inr ⟨rfl, rfl, silent⟩, Iff.rfl, fun _ => drawn, absurd legible, rfl,
        rfl, rfl, tells.kind_mem⟩

/-- A roll that fails has counted, but is no attempt. -/
theorem accounts_rolled {failure : Failure Amount} (none : w.nextRoll = .error failure) :
    Accounts w [] w.rolled 0 := by
  have illegible := not_legible_of_nextRoll none
  have still := Accounts.refl w
  exact { still with
    legible := Iff.rfl
    rolls := fun legible => absurd legible illegible }

theorem accounts_deploy (kept : w.Kept halt)
    (given : Option (List (Cleansing.Participant Amount))) :
    Accounts w (w.deploy given).notes (w.deploy given).state 0 ∧
      (w.deploy given).state.Kept halt := by
  cases awake : w.economy.plague.heart with
  | false =>
      rw [deploy_of_asleep awake]
      exact ⟨.refl w, kept⟩
  | true =>
      cases chance : Cleansing.chance w.cleansing (given.getD w.party) true with
      | error failure =>
          rw [deploy_of_no_chance awake chance]
          exact ⟨.refl w, kept⟩
      | ok rated =>
          cases next : w.nextRoll with
          | error failure =>
              rw [deploy_of_no_roll kept.builtIn awake chance next]
              exact ⟨accounts_rolled next, { kept with }⟩
          | ok roll =>
              rw [notes_deploy kept.builtIn kept.economy.heard awake chance next,
                (deploy_of_roll kept.builtIn awake chance next).2]
              refine ⟨accounts_verdict next _ _, ?_⟩
              split
              · exact { kept with economy := { kept.economy with
                  throttle := .inl rfl, solvent := kept.economy.solvent.of_same rfl rfl rfl } }
              · exact { kept with }

end Idle

/-! ## Deeds -/

section Deeds

variable [Scalar α]

def Reply.effect? : Reply α → Option (Deed.Effect α)
  | .effect e => some e
  | .npc _ => none
  | .assessment _ => none
  | .figures _ _ => none
  | .economy _ => none
  | .verdict _ => none
  | .done => none

def effectIn (answer : Answer α (Reply α)) : Option (Deed.Effect α) :=
  answer.toOption.bind Reply.effect?

/-- Whether an operation is a deed that was carried out, and left an NPC more likely to rebel than
work can bear. -/
def rebels (halt : α) (op : Operation α) (answer : Answer α (Reply α)) : Bool :=
  match op with
  | .act deed => !deed.dryRun && (effectIn answer).any fun e => decide (halt < e.after.probability)
  | _ => false

theorem rebels_error (halt : α) (op : Operation α) (failure : Failure α) :
    rebels halt op (.error failure) = false := by
  cases op with
  | act deed => exact Bool.and_false _
  | _ => rfl

theorem halts_of_effectOn {w : World α} {npc : Npc α} {deed : Deed α} {effect : Deed.Effect α}
    (found : w.effectOn npc deed = .ok effect) :
    effect.after.halts = decide (w.rebellion.haltThreshold < effect.after.probability) := by
  obtain ⟨before, -, found⟩ := Answer.bind_eq_ok.mp found
  obtain ⟨changed, -, found⟩ := Answer.bind_eq_ok.mp found
  obtain ⟨after, assessed, made⟩ := Answer.bind_eq_ok.mp found
  cases made
  exact (Rebellion.of_assess assessed).2.2.2

theorem apply_cases (npc : Npc α) (deed : Deed α) (effect : Deed.Effect α) (w : World α) :
    (∃ failure, (w.apply npc deed effect).answer = .error failure) ∧
        (w.apply npc deed effect).notes = [] ∨
      (w.apply npc deed effect).answer = .ok effect ∧
        (w.apply npc deed effect).notes =
          rebellionNotes deed w.economy.status.tickCount effect.after := by
  have silent := notes_store npc effect.profile w
  have economy := (OnlyPeople.store npc effect.profile w).economy
  unfold apply Outcome.andThen
  cases (w.store npc effect.profile).answer with
  | error failure => exact .inl ⟨⟨failure, rfl⟩, silent⟩
  | ok _ =>
      refine .inr ⟨rfl, ?_⟩
      simp only [silent, ← economy, List.nil_append]

/-- A deed that fails tells nothing; one that is carried out tells of a rebellion if it comes to
one. -/
theorem notes_perform (deed : Deed α) (w : World α) :
    (∃ failure, (w.perform deed).answer = .error failure) ∧ (w.perform deed).notes = [] ∨
      ∃ effect, (w.perform deed).answer = .ok effect ∧
        effect.after.halts = decide (w.rebellion.haltThreshold < effect.after.probability) ∧
        (w.perform deed).notes =
          if deed.dryRun then []
          else rebellionNotes deed w.economy.status.tickCount effect.after := by
  rw [perform]
  cases registered : w.roster.register deed.npcId with
  | error failure =>
      rw [onRoster_of_error registered]
      exact .inl ⟨⟨failure, rfl⟩, rfl⟩
  | ok pair =>
      rw [onRoster_of_ok registered, Outcome.done_andThen]
      cases found : effectOn pair.1 deed { w with roster := pair.2 } with
      | error failure => exact .inl ⟨⟨failure, rfl⟩, rfl⟩
      | ok effect =>
          rw [Outcome.of_ok_andThen]
          have halts := halts_of_effectOn found
          cases deed.dryRun with
          | true => exact .inr ⟨effect, rfl, halts, rfl⟩
          | false =>
              rcases apply_cases pair.1 deed effect { w with roster := pair.2 } with
                ⟨failed, silent⟩ | ⟨answer, notes⟩
              · exact .inl ⟨failed, silent⟩
              · exact .inr ⟨effect, answer, halts, notes⟩

theorem tells_rebellion (deed : Deed α) (tick : Nat) (after : Rebellion.Assessment α) :
    let notes := if deed.dryRun then [] else rebellionNotes deed tick after
    Tells [] [triggered] notes ∧ (∀ name, shown name notes = none) ∧
      kindsOf triggered notes = (!deed.dryRun && after.halts).toNat := by
  unfold rebellionNotes
  cases deed.dryRun <;> cases after.halts <;> exact ⟨rfl, fun _ => rfl, rfl⟩

end Deeds

section Operations

variable {halt : Amount} {w : World Amount}

theorem accounts_perform (kept : w.Kept halt) (deed : Deed Amount) :
    Accounts w (w.perform deed).notes (w.perform deed).state
        (rebels halt (.act deed) ((Operation.act deed).perform w).answer).toNat ∧
      (w.perform deed).state.Kept halt := by
  have people := OnlyPeople.perform deed w
  have still {n : Nat} (tells : Tells [] [triggered] (w.perform deed).notes)
      (silent : ∀ r, shown (Economy.stockGauge r) (w.perform deed).notes = none)
      (told : kindsOf triggered (w.perform deed).notes = n) :
      Accounts w (w.perform deed).notes (w.perform deed).state n := by
    obtain ⟨roster, trauma, same⟩ := people
    rw [same, ← told]
    exact .of_still tells silent rfl rfl rfl rfl rfl
  refine ⟨?_, kept.people people⟩
  have answer : ((Operation.act deed).perform w).answer = (w.perform deed).answer.map .effect := rfl
  rcases notes_perform deed w with ⟨⟨failure, failed⟩, nothing⟩ | ⟨effect, done, halts, notes⟩
  · have calm : rebels halt (.act deed) ((Operation.act deed).perform w).answer = false := by
      rw [answer, failed]
      exact rebels_error halt (.act deed) failure
    rw [calm]
    exact still (nothing ▸ rfl) (fun r => nothing ▸ rfl) (nothing ▸ rfl)
  · have rebelled : rebels halt (.act deed) ((Operation.act deed).perform w).answer =
        (!deed.dryRun && effect.after.halts) := by
      rw [answer, done, halts, kept.halt]
      rfl
    obtain ⟨tells, silent, told⟩ := tells_rebellion deed w.economy.status.tickCount effect.after
    rw [← notes] at tells silent told
    rw [rebelled]
    exact still tells (fun r => silent _) told

/-! ## All operations -/

/-- Any operation but to roll from a list, or to cleanse the plague without a deployment. -/
def Operation.ordinary : Operation α → Bool
  | .follow _ _ => false
  | .economy op => !op.isCleansing
  | _ => true

theorem Operation.accounts {op : Operation Amount} (ordinary : op.ordinary = true)
    (kept : w.Kept halt) :
    Accounts w (op.perform w).notes (op.perform w).state
        (rebels halt op (op.perform w).answer).toNat ∧
      (op.perform w).state.Kept halt := by
  cases op with
  | register id => exact accounts_people kept (.onRoster _ w) (notes_onRoster _ w)
  | enlist id role => exact accounts_people kept (.onRoster _ w) (notes_onRoster _ w)
  | addEfficiency id delta => exact accounts_people kept (.onRoster _ w) (notes_onRoster _ w)
  | addMorale id delta => exact accounts_people kept (.onRoster _ w) (notes_onRoster _ w)
  | assign id task => exact accounts_people kept (.onRoster _ w) (notes_onRoster _ w)
  | setTrauma id trauma =>
      exact accounts_people kept (.setTrauma id trauma w) (notes_setTrauma id trauma w)
  | assess id => exact accounts_people kept (.assess id w) (notes_assess id w)
  | act deed => exact accounts_perform kept deed
  | refresh => exact accounts_refresh kept
  | advance times => exact accounts_advance kept times
  | economy op =>
      have other : op.isCleansing = false := by simpa [Operation.ordinary] using ordinary
      exact accounts_onEconomy kept (op.accounted other kept.economy)
  | deploy party => exact accounts_deploy kept party
  | follow rolls cleanseFirst => cases ordinary

end Operations

/-! ## Runs -/

/-- How many deeds of a run were carried out and left an NPC that likely to rebel. -/
def rebellionsOf [Scalar α] (halt : α) (ops : List (Operation α)) (o : Observed (World α) α) :
    Nat :=
  (ops.zip (o.transcript Operation.perform ops)).countP fun step => rebels halt step.1 step.2.1

theorem rebellionsOf_cons [Scalar α] (halt : α) (op : Operation α) (ops : List (Operation α))
    (o : Observed (World α) α) :
    rebellionsOf halt (op :: ops) o =
      (rebels halt op (o.run op.perform).1).toNat + rebellionsOf halt ops (o.run op.perform).2 := by
  rw [rebellionsOf, Observed.transcript, List.zip_cons_cons, List.countP_cons, Nat.add_comm]
  cases rebels halt op (o.run op.perform).1 <;> rfl

theorem accounts_after {halt : Amount} {ops : List (Operation Amount)}
    (ordinary : ∀ op ∈ ops, op.ordinary = true) {o : Observed (World Amount) Amount}
    (kept : o.subject.Kept halt) :
    Accounts o.subject (o.told Operation.perform ops)
        (o.after Operation.perform ops).subject (rebellionsOf halt ops o) ∧
      (o.after Operation.perform ops).subject.Kept halt := by
  induction ops generalizing o with
  | nil => exact ⟨.refl _, kept⟩
  | cons op ops ih =>
      have later := fun op member => ordinary op (List.mem_cons_of_mem _ member)
      rw [Observed.told, rebellionsOf_cons]
      rcases Observed.takesPlace_cases op.perform o with
        ⟨takes, answer, state⟩ | ⟨fails, ⟨failure, answer⟩, state⟩
      · obtain ⟨first, stays⟩ := Operation.accounts (ordinary op List.mem_cons_self) kept
        rw [← answer, ← state] at first
        rw [← state] at stays
        obtain ⟨rest, last⟩ := ih later stays
        rw [if_pos takes]
        exact ⟨first.trans rest, last⟩
      · obtain ⟨rest, last⟩ := ih (o := (o.run op.perform).2) later (state ▸ kept)
        rw [state] at rest
        rw [fails, if_neg Bool.false_ne_true, List.nil_append, answer]
        refine ⟨?_, last⟩
        rw [rebels_error, Bool.toNat_false, Nat.zero_add]
        exact rest

/-! ### Draws -/

/-- The step draws from the stream of rolls: its count moves, and there is a value. -/
def draws [Scalar α] (w next : World α) : Bool :=
  next.streams.count rollKey != w.streams.count rollKey && w.nextRoll.toOption.isSome

/-- The draws that a run has made from the stream of rolls. -/
def drawsOf [Scalar α] : List (Operation α) → Observed (World α) α → Nat
  | [], _ => 0
  | op :: ops, o =>
      let next := (o.run op.perform).2
      (draws o.subject next.subject).toNat + drawsOf ops next

/-- A legible source shows its draws by its count, another makes none. -/
theorem StepsInTurn.draws [Scalar α] {op : Operation α} {o : Observed (World α) α}
    (h : StepsInTurn op o) :
    (o.subject.streams.Legible → (o.run op.perform).2.subject.streams.count rollKey =
        o.subject.streams.count rollKey +
          (World.draws o.subject (o.run op.perform).2.subject).toNat) ∧
      (¬ o.subject.streams.Legible →
        World.draws o.subject (o.run op.perform).2.subject = false) := by
  cases h with
  | idle silent alike =>
      have still : World.draws o.subject (o.run op.perform).2.subject = false := by
        rw [World.draws, alike.streams, bne_self_eq_false, Bool.false_and]
      rw [still, alike.streams]
      exact ⟨fun _ => rfl, fun _ => rfl⟩
  | illegible silent failed alike =>
      refine ⟨fun legible => absurd legible (not_legible_of_nextRoll failed), fun _ => ?_⟩
      rw [World.draws, failed, Bool.and_eq_false_iff]
      exact .inr rfl
  | resolved given next alike =>
      have counted : (o.run op.perform).2.subject.streams.count rollKey =
          o.subject.streams.count rollKey + 1 := by
        rw [alike.streams]
        exact Chance.Streams.count_counted_self rollKey o.subject.streams
      have drawn : World.draws o.subject (o.run op.perform).2.subject = true := by
        rw [World.draws, counted, next, Bool.and_eq_true_iff, bne_iff_ne]
        exact ⟨Nat.succ_ne_self _, rfl⟩
      rw [drawn, counted]
      exact ⟨fun _ => rfl, absurd (legible_of_nextRoll next)⟩

theorem Operation.follows_of_ordinary {op : Operation α} (ordinary : op.ordinary = true) :
    op.follows = false := by
  cases op with
  | follow rolls cleanseFirst => cases ordinary
  | _ => rfl

theorem draws_after [Scalar α] {ops : List (Operation α)}
    (ordinary : ∀ op ∈ ops, op.ordinary = true) {o : Observed (World α) α}
    (builtIn : o.subject.script = none) :
    (o.subject.streams.Legible →
        (o.after Operation.perform ops).subject.streams.count rollKey =
          o.subject.streams.count rollKey + drawsOf ops o) ∧
      (¬ o.subject.streams.Legible → drawsOf ops o = 0) := by
  induction ops generalizing o with
  | nil => exact ⟨fun _ => rfl, fun _ => rfl⟩
  | cons op ops ih =>
      obtain ⟨first, later⟩ := List.forall_mem_cons.mp ordinary
      have step := stepsInTurn builtIn (Operation.follows_of_ordinary first)
      have stays := step.staysBuiltIn builtIn
      obtain ⟨counted, none⟩ := step.draws
      obtain ⟨rest, never⟩ := ih later stays.script
      constructor
      · intro legible
        have reached := rest (stays.legible.mpr legible)
        rw [counted legible, Nat.add_assoc] at reached
        exact reached
      · intro illegible
        rw [drawsOf, none illegible, never (mt stays.legible.mp illegible), Bool.toNat_false]

/-! ## The chronicle of a run -/

/-- All events of a run, those included that the log no longer keeps. -/
def eventsOf [Scalar α] (ops : List (Operation α)) (o : Observed (World α) α) : List (Event α) :=
  eventsAfter 0 (drafts (o.told Operation.perform ops))

theorem Operation.ranksFirst [Scalar α] (op : Operation α) (w : World α) :
    (op.perform w).RanksFirst := by
  rcases op.notes_cases w with unranked | ⟨standings, rest, -, notes, unranked⟩
  · exact ⟨[], _, rfl, fun _ none => absurd none List.not_mem_nil, unranked⟩
  · refine ⟨standings.map Standing.note, rest, notes, fun note member => ?_, unranked⟩
    obtain ⟨standing, -, rfl⟩ := List.mem_map.mp member
    trivial

/-- The events of a run agree with the world that it has left, and with the counters. -/
structure EventsReconciled (events : List (Event Amount)) (rebellions : Nat) (w : World Amount)
    (heard : Chronicle Amount) : Prop where
  total : heard.log.total = events.length
  kept : heard.log.kept = events.drop (events.length - heard.capacity.toNat)
  kinds : (eventKinds.map fun kind => events.countP (·.kind = kind)).sum = heard.log.total
  mines : events.countP (·.kind = Economy.mineAdded) = w.economy.status.mines
  refineries : events.countP (·.kind = Economy.refineryAdded) = w.economy.status.refineries
  resolved : heard.counters.get? Cleansing.attempts =
    tallied (events.countP (·.kind = cleansingResolved))
  cleansed : heard.counters.get? Cleansing.successes =
    tallied (events.countP (·.kind = Plague.emptied))
  rebellions : events.countP (·.kind = triggered) = rebellions

/-- The chronicle of a run agrees with the world that it has left. -/
structure Reconciled (settings : Settings Amount) (ops : List (Operation Amount))
    (start : Observed (World Amount) Amount) (w : World Amount) (heard : Chronicle Amount) :
    Prop where
  ticks : heard.counters.get? Economy.tickCounter = tallied w.economy.status.tickCount
  stocks : 0 < w.economy.status.tickCount → ∀ r, heard.gauges.get? (Economy.stockGauge r) =
    some (.num (w.economy.status.stocks.get r).quantity)
  attempts : heard.counters.get? Cleansing.attempts = tallied (drawsOf ops start)
  /-- Where salt and seed have a text that can be digested, the stream counts its draws; elsewhere
  its count moves without any. -/
  draws : (start.subject.streams.Legible → w.streams.count rollKey = drawsOf ops start) ∧
    (¬ start.subject.streams.Legible → drawsOf ops start = 0)
  events : settings.chronicle.enabled.holds = true → EventsReconciled (eventsOf ops start)
    (rebellionsOf start.subject.rebellion.haltThreshold ops start) w heard

section Reconcile

variable {settings : Settings Amount} {ops : List (Operation Amount)}
variable {start : Observed (World Amount) Amount} {c heard : Chronicle Amount}
variable {w : World Amount} {rebellions : Nat}
variable (opened : Chronicle.new settings.chronicle = .ok c)
variable (told : Chronicle.Heard c (start.told Operation.perform ops) heard)
variable (accounts : Accounts start.subject (start.told Operation.perform ops) w rebellions)
include opened told

theorem counter_reconciled (name : String) :
    heard.counters.get? name = tallied (countsOf name (start.told Operation.perform ops)) := by
  obtain ⟨-, -, -, uncounted⟩ := Chronicle.empty_of_new opened
  rw [told.counter, uncounted]
  exact Chronicle.counterAfter_none _

include accounts

theorem eventsReconciled (enabled : settings.chronicle.enabled.holds = true)
    (kept : w.economy.Kept) (mines : start.subject.economy.mines = [])
    (refineries : start.subject.economy.refineries = []) :
    EventsReconciled (eventsOf ops start) rebellions w heard := by
  obtain ⟨same, positive, empty, -⟩ := Chronicle.empty_of_new opened
  obtain ⟨total, newest⟩ := told.ring (same.trans enabled) positive empty
  have kinds (kind : String) : (eventsOf ops start).countP (·.kind = kind) =
      kindsOf kind (start.told Operation.perform ops) := countP_kind_eventsAfter kind 0 _
  refine ⟨total, newest, ?_, ?_, ?_, ?_, ?_, ?_⟩
  · rw [total, length_eventsAfter, ← sum_kindsOf (by decide) accounts.kinds]
    exact congrArg List.sum (List.map_congr_left fun kind _ => kinds kind)
  · rw [kinds, kept.mines, accounts.mines, mines, List.length_nil, Nat.zero_add]
  · rw [kinds, kept.refineries, accounts.refineries, refineries, List.length_nil, Nat.zero_add]
  · rw [kinds, accounts.resolved]
    exact counter_reconciled opened told _
  · rw [kinds, accounts.cleansed]
    exact counter_reconciled opened told _
  · rw [kinds, accounts.rebellions]

theorem attempts_reconciled (fresh : Fresh settings start.subject)
    (drawn : (start.subject.streams.Legible → w.streams.count rollKey =
        start.subject.streams.count rollKey + drawsOf ops start) ∧
      (¬ start.subject.streams.Legible → drawsOf ops start = 0)) :
    heard.counters.get? Cleansing.attempts = tallied (drawsOf ops start) ∧
      (start.subject.streams.Legible → w.streams.count rollKey = drawsOf ops start) := by
  have undrawn : start.subject.streams.count rollKey = 0 := by
    rw [fresh.streams]
    rfl
  obtain ⟨counted, none⟩ := drawn
  rw [undrawn, Nat.zero_add] at counted
  refine ⟨?_, counted⟩
  rw [counter_reconciled opened told]
  by_cases legible : start.subject.streams.Legible
  · have rolls := accounts.rolls legible
    rw [undrawn, Nat.zero_add] at rolls
    rw [← rolls, counted legible]
  · rw [accounts.unrolled legible, none legible]

theorem reconciled (fresh : Fresh settings start.subject) (kept : w.economy.Kept)
    (drawn : (start.subject.streams.Legible → w.streams.count rollKey =
        start.subject.streams.count rollKey + drawsOf ops start) ∧
      (¬ start.subject.streams.Legible → drawsOf ops start = 0))
    (same : rebellions = rebellionsOf start.subject.rebellion.haltThreshold ops start) :
    Reconciled settings ops start w heard := by
  obtain ⟨config, plague, -, -, economy⟩ := fresh.economy
  have uncounted : start.subject.economy.status.tickCount = 0 := by
    rw [economy]
    rfl
  obtain ⟨attempts, counted⟩ := attempts_reconciled opened told accounts fresh drawn
  refine ⟨?_, fun ticked r => ?_, attempts, ⟨counted, drawn.2⟩, fun enabled => ?_⟩
  · rw [accounts.ticks, uncounted, Nat.zero_add]
    exact counter_reconciled opened told _
  · rcases accounts.stocks with now | ⟨still, -⟩
    · rw [told.gauge, now r]
      rfl
    · rw [still, uncounted] at ticked
      exact absurd ticked (Nat.lt_irrefl 0)
  · rw [← same]
    exact eventsReconciled opened told accounts enabled kept (by rw [economy]; rfl)
      (by rw [economy]; rfl)

end Reconcile

theorem Fresh.kept {settings : Settings Amount} {w : World Amount} (fresh : Fresh settings w) :
    w.Kept w.rebellion.haltThreshold := by
  obtain ⟨config, plague, -, -, economy⟩ := fresh.economy
  refine ⟨fresh.unscripted, rfl, ?_⟩
  rw [economy]
  exact ⟨rfl, rfl, rfl, .inl rfl, .new config plague true, fun _ _ => rfl, fun _ _ => rfl⟩

/-- Whatever is done with a new world, its chronicle accounts for it.  Counters show how often they
have counted, as numbers that are exact up to `2 ^ 53`. -/
theorem chronicle_reconciled {settings : Settings Amount} {start : Observed (World Amount) Amount}
    (started : World.start settings = .ok start) (ops : List (Operation Amount))
    (ordinary : ∀ op ∈ ops, op.ordinary = true) :
    (∃ w heard, start.after Operation.perform ops = ⟨w, some heard⟩ ∧
      Reconciled settings ops start w heard) ∧
      ∀ n : Nat, n ≤ 2 ^ 53 → Scalar.exact (Scalar.counted n : Amount) = .finite n := by
  refine ⟨?_, fun n small => Amount.exact_counted small⟩
  obtain ⟨w, c, opened, made, rfl⟩ := start_eq_ok.mp started
  have fresh := fresh_of_new made
  obtain ⟨accounts, kept⟩ := accounts_after ordinary (o := ⟨w, some c⟩) fresh.kept
  obtain ⟨heard, written, told⟩ :=
    Observed.heard_after Operation.ranksFirst (Chronicle.Heard.refl c) ops w
  rw [List.nil_append] at told
  have drawn := draws_after ordinary (o := ⟨w, some c⟩) fresh.unscripted
  refine ⟨_, heard, ?_, reconciled opened told accounts fresh kept.economy drawn rfl⟩
  rw [← written]

/-- A mine, a deployment that is refused, a tick that awakens the heart, a deed that is tried and
then carried out, and a deployment that rolls. -/
theorem chronicle_reconciled_awake :
    let settings : Settings Amount := Settings.standard.set .growthRate (.int 100)
    let deed : Deed Amount := ⟨"a", "blow", ⟨.punishment, 1⟩, false⟩
    let before : List (Operation Amount) :=
      [.economy (.addMine 5), .enlist "a" (.text "warrior"), .enlist "b" (.text "guard"),
       .setTrauma "a" 1, .setTrauma "b" 1, .deploy none, .advance (.int 1), .act deed.tried,
       .act deed]
    let ops := before ++ [.deploy none]
    ∃ start, World.start settings = .ok start ∧ (∀ op ∈ ops, op.ordinary = true) ∧
      (∃ w heard, start.after Operation.perform ops = ⟨w, some heard⟩ ∧
        Reconciled settings ops start w heard) ∧
      let o := start.after Operation.perform before
      (o.subject.economy.plague.heart = true ∧ o.subject.economy.status.tickCount = 1 ∧
        o.subject.party.length = 2) ∧
      (eventsOf before start).map (·.kind) =
        [Economy.mineAdded, Plague.warning, Plague.awakened, triggered] ∧
      rebellionsOf start.subject.rebellion.haltThreshold before start = 1 := by
  intro settings deed before ops
  have ordinary : ∀ op ∈ ops, op.ordinary = true := by decide
  have facts : ((World.start settings).toOption.map fun start =>
      let o := start.after Operation.perform before
      (o.subject.economy.plague.heart, o.subject.economy.status.tickCount,
        o.subject.party.length, (eventsOf before start).map (·.kind),
        rebellionsOf start.subject.rebellion.haltThreshold before start)) =
      some (true, 1, 2,
        [Economy.mineAdded, Plague.warning, Plague.awakened, triggered], 1) := by
    decide +kernel
  obtain ⟨start, started, facts⟩ := Answer.toOption_map_eq_some.mp facts
  simp only [Prod.mk.injEq] at facts
  obtain ⟨awake, ticked, two, kinds, once⟩ := facts
  exact ⟨start, started, ordinary, (chronicle_reconciled started ops ordinary).1,
    ⟨awake, ticked, two⟩, kinds, once⟩

end World

end Colony

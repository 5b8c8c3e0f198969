import Colony.Proofs.Chronicle.Hearing
import Colony.Proofs.Operation

/-!
# What the world tells

Counts, gauges and events are told by every part of the world; only a survey of
the whole population puts anybody on a board.
-/

namespace Colony

variable {σ τ α β γ : Type}

theorem Outcome.notes_andThen {o : Outcome σ α β} {next : β → σ → Outcome σ α γ}
    (first : o.notes = []) (rest : ∀ b s, (next b s).notes = []) : (o.andThen next).notes = [] := by
  obtain ⟨answer, notes, state⟩ := o
  cases answer with
  | error failure => exact first
  | ok b =>
      simp only [andThen, rest, List.append_nil]
      exact first

def Outcome.Unranked (o : Outcome σ α β) : Prop := ∀ note ∈ o.notes, ¬ note.Ranks

namespace Outcome.Unranked

theorem of_notes_nil {o : Outcome σ α β} (none : o.notes = []) : o.Unranked := by
  intro note member
  rw [none] at member
  cases member

theorem ofAnswer (s : σ) (a : Answer α (β × σ)) : (Outcome.ofAnswer s a).Unranked := by
  cases a <;> exact of_notes_nil rfl

theorem of (a : Answer α β) (s : σ) : (Outcome.of a s).Unranked := of_notes_nil rfl

theorem andThen {o : Outcome σ α β} {next : β → σ → Outcome σ α γ} (first : o.Unranked)
    (rest : ∀ b s, (next b s).Unranked) : (o.andThen next).Unranked := by
  obtain ⟨answer, notes, state⟩ := o
  cases answer with
  | error failure => exact first
  | ok b =>
      intro note member
      rcases List.mem_append.mp member with earlier | later
      · exact first note earlier
      · exact rest b state note later

theorem within {o : Outcome σ α β} (h : o.Unranked) (place : σ → τ) : (o.within place).Unranked :=
  h

theorem map {o : Outcome σ α β} (h : o.Unranked) (f : β → γ) : (o.map f).Unranked := h

end Outcome.Unranked

theorem Economy.unranked_onPlague {operation : Plague.State α → Outcome (Plague.State α) α β}
    (h : ∀ s, (operation s).Unranked) (e : Economy α) : (e.onPlague operation).Unranked := by
  unfold Outcome.Unranked onPlague
  split
  · exact h e.plague
  · exact fun note none => absurd none List.not_mem_nil

theorem Economy.unranked_tickNotes (s : Status α) : ∀ note ∈ tickNotes s, ¬ note.Ranks := by
  intro note member
  rcases List.mem_cons.mp member with rfl | gauged
  · exact id
  · obtain ⟨resource, -, rfl⟩ := List.mem_map.mp gauged
    exact id

variable [Scalar α]

/-! ## The economy -/

theorem Plague.notes_move (c : Config α) (rebellion trauma : α) (s : State α) :
    (move c rebellion trauma s).notes = [] := by
  unfold move
  split <;> rfl

theorem Plague.unranked_tickNotes (c : Config α) (r : TickReport α) (number : Int) :
    ∀ note ∈ tickNotes c r number, ¬ note.Ranks := by
  intro note member
  simp only [tickNotes, List.mem_append, List.mem_cons, List.not_mem_nil,
    or_false] at member
  rcases member with ((rfl | rfl) | warning) | heart
  · exact id
  · exact id
  · unfold warningNotes at warning
    split at warning
    · rw [List.mem_singleton.mp warning]
      exact id
    · cases warning
  · simp only [heartNotes] at heart
    split at heart
    · split at heart
      · simp only [List.mem_cons, List.not_mem_nil, or_false] at heart
        rcases heart with rfl | rfl <;> exact id
      · rw [List.mem_singleton.mp heart]
        exact id
    · cases heart

theorem Plague.unranked_tick (c : Config α) (rebellion trauma : α) (number : Int) (s : State α) :
    (tick c rebellion trauma number s).Unranked :=
  (Outcome.Unranked.of_notes_nil (notes_move c rebellion trauma s)).andThen fun r _ =>
    unranked_tickNotes c r number

theorem Plague.unranked_cleanseNotes (s : State α) : ∀ note ∈ cleanseNotes s, ¬ note.Ranks := by
  intro note member
  simp only [cleanseNotes, List.mem_cons, List.not_mem_nil, or_false] at member
  rcases member with rfl | rfl | rfl <;> exact id

theorem Plague.unranked_cleanse (s : State α) : (cleanse s).Unranked := by
  unfold cleanse
  split
  · exact unranked_cleanseNotes s
  · exact .of_notes_nil rfl

namespace Economy

theorem Stocks.notes_rate (c : Config α) (mines : List (Mine α))
    (refineries : List (Refinery α)) (s : Stocks α) : (s.rate c mines refineries).notes = [] := by
  simp only [Stocks.rate]
  split
  · rfl
  · split <;> rfl

theorem Stocks.notes_gain (throttle : α) (resource : Resource) (s : Stocks α) :
    (s.gain throttle resource).notes = [] := by
  simp only [Stocks.gain]
  split <;> rfl

theorem Stocks.notes_tick (throttle : α) (s : Stocks α) : (s.tick throttle).notes = [] := by
  have produced : (s.produce throttle).notes = [] :=
    Outcome.notes_andThen (notes_gain throttle .sim s) fun _ s =>
      Outcome.notes_andThen (notes_gain throttle .rapidlum s) fun _ s =>
        notes_gain throttle .mineral s
  exact Outcome.notes_andThen produced fun _ _ => rfl

theorem unranked_tick (trauma : Option α) (e : Economy α) : (e.tick trauma).Unranked := by
  have silent := Stocks.notes_rate e.config e.mines e.refineries e.status.stocks
  refine Outcome.Unranked.andThen (.of_notes_nil silent) fun _ rated => ?_
  refine (Outcome.Unranked.of _ _).andThen fun felt rated => ?_
  refine (unranked_onPlague (Plague.unranked_tick _ _ _ _) rated).andThen fun _ moved => ?_
  exact Outcome.Unranked.andThen (.of_notes_nil (Stocks.notes_tick _ _)) fun _ settled =>
    unranked_tickNotes settled.counted.status

theorem unranked_ticks (trauma : Option α) (more : Nat) (e : Economy α) :
    (e.ticks trauma more).Unranked := by
  induction more generalizing e with
  | zero => exact unranked_tick trauma e
  | succ more ih => exact (unranked_tick trauma e).andThen fun _ next => ih next

theorem unranked_advance (times : Value α) (trauma : Option α) (e : Economy α) :
    (e.advance times trauma).Unranked := by
  unfold advance
  split
  · exact unranked_ticks trauma _ e
  · exact .of_notes_nil rfl

theorem unranked_cleanse (e : Economy α) : e.cleanse.Unranked :=
  unranked_onPlague Plague.unranked_cleanse e

theorem notes_setPopulation (rebellion : α) (npcs : Value α) (e : Economy α) :
    (e.setPopulation rebellion npcs).notes = [] :=
  Outcome.notes_andThen rfl fun _ _ => Outcome.notes_andThen rfl fun _ _ => rfl

theorem Operation.unranked (op : Operation α) (e : Economy α) : (op.perform e).Unranked := by
  cases op with
  | addMine yieldRate =>
      refine ((Outcome.Unranked.of _ _).andThen fun yieldRate e => ?_).map _
      intro note member
      rw [List.mem_singleton.mp member]
      exact id
  | addRefinery efficiency =>
      refine ((Outcome.Unranked.of _ _).andThen fun efficiency e => ?_).map _
      intro note member
      rw [List.mem_singleton.mp member]
      exact id
  | setPopulation rebellion npcs =>
      exact (Outcome.Unranked.of_notes_nil (notes_setPopulation rebellion npcs e)).map _
  | tick trauma => exact (unranked_tick trauma e).map _
  | advance times trauma => exact (unranked_advance times trauma e).map _
  | cleanse => exact (unranked_cleanse e).map _

end Economy

/-! ## Cleansings and deeds -/

theorem Chance.Streams.notes_draw (stream : Points) (scope : Chance.Scope α)
    (s : Chance.Streams) : (s.draw stream scope).notes = [] :=
  Outcome.notes_andThen rfl fun _ _ => rfl

theorem Chance.Source.notes_roll (s : Chance.Source α) : s.roll.notes = [] := by
  obtain ⟨origin, asked⟩ := s
  cases origin with
  | stream streams name scope => exact streams.notes_draw name scope
  | listed values => rfl

omit [Scalar α] in
theorem Cleansing.unranked_verdictNotes (v : Verdict α) :
    ∀ note ∈ verdictNotes v, ¬ note.Ranks := by
  intro note member
  simp only [verdictNotes, List.mem_append, List.mem_singleton] at member
  rcases member with (rfl | success) | rfl
  · exact id
  · split at success
    · rw [List.mem_singleton.mp success]
      exact id
    · cases success
  · exact id

theorem Cleansing.unranked_execute (c : Config α) (party : List (Participant α)) (heart : Bool)
    {roll : σ → Outcome σ α α} (h : ∀ s, (roll s).Unranked) (s : σ) :
    (execute c party heart roll s).Unranked := by
  exact (Outcome.Unranked.of _ s).andThen fun rate s => (h s).andThen fun rolled next =>
    unranked_verdictNotes _

namespace World

theorem unranked_roll (w : World α) : w.roll.Unranked := by
  unfold roll
  split
  · exact .of_notes_nil (w.streams.notes_draw rollStream [])
  · split
    · exact ((Economy.unranked_cleanse w.economy).within _).andThen fun _ _ => .of_notes_nil rfl
    · exact .of_notes_nil rfl

theorem unranked_deploy (party : Option (List (Cleansing.Participant α))) (w : World α) :
    (w.deploy party).Unranked := by
  unfold deploy
  split
  · refine (Cleansing.unranked_execute _ _ _ unranked_roll w).andThen fun verdict next => ?_
    split
    · refine Outcome.Unranked.andThen ?_ fun _ _ => .of_notes_nil rfl
      unfold cleanseIfAwake
      split
      · exact (Economy.unranked_cleanse next.economy).within _
      · exact .of_notes_nil rfl
    · exact .of_notes_nil rfl
  · exact .of_notes_nil rfl

omit [Scalar α] in
theorem notes_onRoster (operation : Roster α → Answer α (β × Roster α)) (w : World α) :
    (w.onRoster operation).notes = [] := by
  unfold onRoster
  cases operation w.roster <;> rfl

theorem notes_setTrauma (id : String) (trauma : α) (w : World α) :
    (w.setTrauma id trauma).notes = [] :=
  Outcome.notes_andThen rfl fun _ _ => rfl

theorem notes_assess (id : String) (w : World α) : (w.assess id).notes = [] :=
  Outcome.notes_andThen (notes_onRoster _ w) fun _ _ => rfl

theorem notes_store (npc : Npc α) (profile : Profile α) (w : World α) :
    (w.store npc profile).notes = [] := by
  refine Outcome.notes_andThen (notes_onRoster _ w) fun _ v => ?_
  exact Outcome.notes_andThen (notes_onRoster _ v) fun _ v => notes_setTrauma _ _ v

theorem unranked_assess (id : String) (w : World α) : (w.assess id).Unranked :=
  .of_notes_nil (notes_assess id w)

theorem unranked_setTrauma (id : String) (trauma : α) (w : World α) :
    (w.setTrauma id trauma).Unranked :=
  .of_notes_nil (notes_setTrauma id trauma w)

theorem unranked_rebellionNotes (deed : Deed α) (tick : Nat) (after : Rebellion.Assessment α) :
    ∀ note ∈ rebellionNotes deed tick after, ¬ note.Ranks := by
  intro note member
  simp only [rebellionNotes] at member
  split at member
  · rw [List.mem_singleton.mp member]
    exact id
  · cases member

theorem unranked_apply (npc : Npc α) (deed : Deed α) (effect : Deed.Effect α) (w : World α) :
    (w.apply npc deed effect).Unranked := by
  exact (Outcome.Unranked.of_notes_nil (notes_store npc effect.profile w)).andThen fun _ _ =>
    unranked_rebellionNotes deed _ effect.after

theorem unranked_perform (deed : Deed α) (w : World α) : (w.perform deed).Unranked := by
  refine ((Outcome.Unranked.ofAnswer _ _).within _).andThen fun npc next => ?_
  refine (Outcome.Unranked.of _ next).andThen fun effect next => ?_
  split
  · exact .of_notes_nil rfl
  · exact unranked_apply npc deed effect next

end World

end Colony

import Colony.Proofs.Plague.Band
import Colony.Proofs.Refusal
import Colony.Proofs.Value.Compact

/-!
# What the engines refuse

What each operation of an engine asks for.  Arithmetic that overflows, values
that cannot be converted and scopes that have no text are failures too, but
no refusals.
-/

namespace Colony

variable {σ α β : Type} [Scalar α]

/-! ## The roster -/

theorem Scalar.not_refused_checked (x : α) : ¬ Refused (Scalar.checked x) := by
  unfold Scalar.checked
  split
  · exact not_refused_error Failure.not_refuses_overflow
  · exact not_refused_ok x

theorem Scalar.not_refused_confined (x : α) : ¬ Refused (Scalar.confined x) :=
  not_refused_map _ (not_refused_checked _)

namespace Roster

def needFor (id : String) (r : Roster α) : Need α :=
  match r.find? id with
  | some _ => .nothing
  | none => .role r.defaults.role

theorem not_refused_enter (id : String) (role : Role) (r : Roster α) :
    ¬ Refused (r.enter id role) := by
  refine not_refused_map _ (not_refused_bind (Scalar.not_refused_confined _) fun efficiency _ => ?_)
  exact not_refused_bind (Scalar.not_refused_confined _) fun morale _ => not_refused_ok _

theorem answers_register (id : String) (r : Roster α) :
    Answers (r.needFor id).refusal? (r.register id) := by
  unfold needFor register
  cases r.find? id with
  | some npc => exact not_refused_ok (npc, r)
  | none => exact (answers_role r.defaults.role).bind fun role => not_refused_enter id role r

theorem answers_enlistAs (id : String) (role : Value α) (r : Roster α) :
    Answers (Need.role role).refusal? (r.enlistAs id role) := by
  refine (answers_role role).bind fun role => ?_
  unfold enlist
  split
  · exact not_refused_ok _
  · exact not_refused_enter id role r

theorem not_refused_shiftEfficiency (delta : α) (npc : Npc α) :
    ¬ Refused (npc.shiftEfficiency delta) :=
  not_refused_map _ (Scalar.not_refused_confined _)

theorem not_refused_shiftMorale (delta : α) (npc : Npc α) : ¬ Refused (npc.shiftMorale delta) :=
  not_refused_map _ (Scalar.not_refused_confined _)

theorem not_refused_withTask (task : Value α) (npc : Npc α) : ¬ Refused (npc.withTask task) := by
  unfold Npc.withTask
  split
  · cases task.shown? with
    | none => exact not_refused_error Failure.not_refuses_badValue
    | some text => exact not_refused_ok _
  · exact not_refused_ok _

theorem answers_update (id : String) {f : Npc α → Answer α (Npc α)}
    (changes : ∀ npc, ¬ Refused (f npc)) (r : Roster α) :
    Answers (Need.npc id (r.find? id).isSome).refusal? (r.update id f) := by
  refine Answers.bind ?_ fun npc =>
    not_refused_bind (changes npc) fun changed _ => not_refused_ok _
  unfold require
  cases r.find? id with
  | some npc => exact not_refused_ok npc
  | none => rfl

def Operation.need : Operation α → Roster α → Need α
  | .register id, r => r.needFor id
  | .enlist _ role, _ => .role role
  | .addEfficiency id _, r => .npc id (r.find? id).isSome
  | .addMorale id _, r => .npc id (r.find? id).isSome
  | .assign id _, r => .npc id (r.find? id).isSome
  | .inRole role, _ => .role role

theorem Operation.heeds (op : Operation α) (r : Roster α) :
    (op.perform r).Heeds (op.need r).refusal? r := by
  cases op with
  | register id => exact (Outcome.heeds_ofAnswer (answers_register id r)).map _
  | enlist id role => exact (Outcome.heeds_ofAnswer (answers_enlistAs id role r)).map _
  | addEfficiency id delta =>
      exact (Outcome.heeds_ofAnswer (answers_update id (not_refused_shiftEfficiency delta) r)).map _
  | addMorale id delta =>
      exact (Outcome.heeds_ofAnswer (answers_update id (not_refused_shiftMorale delta) r)).map _
  | assign id task =>
      exact (Outcome.heeds_ofAnswer (answers_update id (not_refused_withTask task) r)).map _
  | inRole role => exact (Outcome.heeds_of ((answers_role role).map _) r).map _

end Roster

/-! ## The plague -/

namespace Plague

theorem not_refused_tickAs (c : Config α) (rebellion trauma : α) (number : Value α)
    (s : State α) : ¬ Refused (tickAs c rebellion trauma number s).answer := by
  rcases tickAs_cases c rebellion trauma number s with
    overflown | ⟨failure, unread, failed⟩ | ⟨n, -, done⟩
  · rw [overflown]
    exact not_refused_error Failure.not_refuses_overflow
  · rw [failed]
    exact not_refused_error fun refuses => number.not_refused_toInt ⟨failure, refuses, unread⟩
  · rw [done]
    exact not_refused_ok _

theorem not_refused_tick (c : Config α) (rebellion trauma : α) (number : Int) (s : State α) :
    ¬ Refused (tick c rebellion trauma number s).answer := by
  refine Outcome.not_refused_andThen ?_ fun r moved => not_refused_ok r
  unfold move
  split
  · exact not_refused_error Failure.not_refuses_overflow
  · exact not_refused_ok _

theorem heeds_cleanse (s : State α) : (cleanse s).Heeds (Need.heart s.heart).refusal? s := by
  unfold cleanse
  cases s.heart with
  | true => exact not_refused_ok ()
  | false => rfl

def Operation.need : Operation α → State α → Need α
  | .tick _ _ _, _ => .nothing
  | .cleanse, s => .heart s.heart

theorem Operation.heeds (c : Config α) (op : Operation α) (s : State α) :
    (op.perform c s).Heeds (op.need s).refusal? s := by
  cases op with
  | tick rebellion trauma number =>
      exact not_refused_map _ (not_refused_tickAs c rebellion trauma number s)
  | cleanse => exact (heeds_cleanse s).map _

end Plague

/-! ## The economy -/

namespace Economy

omit [Scalar α] in
theorem heeds_onPlague {refusal : Option (Failure α)} {e : Economy α}
    {operation : Plague.State α → Outcome (Plague.State α) α β}
    (h : (operation e.plague).Heeds refusal e.plague) : (e.onPlague operation).Heeds refusal e := by
  cases refusal with
  | none => exact h
  | some f =>
      have same : operation e.plague = .fail f e.plague := h
      simp [Outcome.Heeds, onPlague, same, Outcome.fail]

theorem Stocks.not_refused_rate (c : Config α) (mines : List (Mine α))
    (refineries : List (Refinery α)) (s : Stocks α) :
    ¬ Refused (s.rate c mines refineries).answer := by
  simp only [Stocks.rate]
  split
  · exact not_refused_error Failure.not_refuses_overflow
  · split
    · exact not_refused_error Failure.not_refuses_overflow
    · exact not_refused_ok ()

theorem Stocks.not_refused_gain (throttle : α) (resource : Resource) (s : Stocks α) :
    ¬ Refused (s.gain throttle resource).answer := by
  simp only [Stocks.gain]
  split
  · exact not_refused_error Failure.not_refuses_overflow
  · exact not_refused_ok ()

theorem Stocks.not_refused_tick (throttle : α) (s : Stocks α) :
    ¬ Refused (s.tick throttle).answer := by
  refine Outcome.not_refused_andThen ?_ fun _ _ => not_refused_ok ()
  refine Outcome.not_refused_andThen (not_refused_gain throttle .sim s) fun _ _ => ?_
  exact Outcome.not_refused_andThen (not_refused_gain throttle .rapidlum _) fun _ _ =>
    not_refused_gain throttle .mineral _

omit [Scalar α] in
theorem not_refused_onStocks {operation : Stocks α → Outcome (Stocks α) α β} {e : Economy α}
    (h : ¬ Refused (operation e.status.stocks).answer) : ¬ Refused (e.onStocks operation).answer :=
  h

omit [Scalar α] in
theorem not_refused_onPlague {e : Economy α}
    {operation : Plague.State α → Outcome (Plague.State α) α β}
    (h : ¬ Refused (operation e.plague).answer) : ¬ Refused (e.onPlague operation).answer := h

theorem not_refused_traumaFor (trauma : Option α) (e : Economy α) :
    ¬ Refused (e.traumaFor trauma) := by
  cases trauma with
  | some given => exact Scalar.not_refused_confined given
  | none => exact not_refused_ok _

theorem not_refused_tick (trauma : Option α) (e : Economy α) :
    ¬ Refused (e.tick trauma).answer := by
  apply Outcome.not_refused_andThen
  · exact not_refused_onStocks (Stocks.not_refused_rate e.config e.mines e.refineries _)
  · intro _ _
    refine Outcome.not_refused_andThen (not_refused_traumaFor trauma _) fun felt _ => ?_
    apply Outcome.not_refused_andThen
    · exact not_refused_onPlague (Plague.not_refused_tick _ _ _ _ _)
    · intro _ _
      apply Outcome.not_refused_andThen
      · exact not_refused_onStocks (Stocks.not_refused_tick _ _)
      · exact fun _ _ => not_refused_ok _

theorem not_refused_ticks (trauma : Option α) (more : Nat) (e : Economy α) :
    ¬ Refused (e.ticks trauma more).answer := by
  induction more generalizing e with
  | zero => exact not_refused_tick trauma e
  | succ more ih =>
      exact Outcome.not_refused_andThen (not_refused_tick trauma e) fun _ _ => ih _

theorem not_refused_advance (times : Value α) (trauma : Option α) (e : Economy α) :
    ¬ Refused (e.advance times trauma).answer := by
  have readable := times.not_refused_toInt
  unfold advance
  cases read : times.toInt with
  | ok n => exact not_refused_ticks trauma _ e
  | error f => exact not_refused_error fun refuses => readable ⟨f, refuses, read⟩

theorem not_refused_setPopulation (rebellion : α) (npcs : Value α) (e : Economy α) :
    ¬ Refused (e.setPopulation rebellion npcs).answer := by
  refine Outcome.not_refused_andThen (Scalar.not_refused_confined rebellion) fun rebellion e => ?_
  exact Outcome.not_refused_andThen npcs.not_refused_toInt fun n set => not_refused_ok ()

def Operation.need : Operation α → Economy α → Need α
  | .addMine _, _ => .nothing
  | .addRefinery _, _ => .nothing
  | .setPopulation _ _, _ => .nothing
  | .tick _, _ => .nothing
  | .advance _ _, _ => .nothing
  | .cleanse, e => .heart e.plague.heart

theorem Operation.heeds (op : Operation α) (e : Economy α) :
    (op.perform e).Heeds (op.need e).refusal? e := by
  cases op with
  | addMine yieldRate =>
      exact not_refused_map _ (Outcome.not_refused_andThen (Scalar.not_refused_checked _)
        fun yieldRate e => not_refused_ok _)
  | addRefinery efficiency =>
      exact not_refused_map _ (Outcome.not_refused_andThen (Scalar.not_refused_confined _)
        fun efficiency e => not_refused_ok _)
  | setPopulation rebellion npcs =>
      exact not_refused_map _ (not_refused_setPopulation rebellion npcs e)
  | tick trauma => exact not_refused_map _ (not_refused_tick trauma e)
  | advance times trauma => exact not_refused_map _ (not_refused_advance times trauma e)
  | cleanse => exact (heeds_onPlague (Plague.heeds_cleanse e.plague)).map _

end Economy

/-! ## Cleansing -/

namespace Value

theorem not_refused_compactAtom (v : Value α) : ¬ Refused v.compactAtom := by
  cases v with
  | null => exact not_refused_ok _
  | bool b => exact not_refused_ok _
  | int n =>
      rw [compactAtom]
      exact not_refused_elim _ Failure.not_refuses_badValue
  | num x => exact not_refused_ok _
  | _ => exact not_refused_error Failure.not_refuses_wrongKind

theorem not_refused_keyText (key : Value α) : ¬ Refused key.keyText := by
  unfold keyText
  split
  · exact not_refused_ok _
  · exact not_refused_map _ key.not_refused_compactAtom

theorem not_refused_compactEntries {entries : List (Value α × Answer α String)}
    (values : ∀ entry ∈ entries, ¬ Refused entry.2) : ¬ Refused (compactEntries entries) := by
  unfold compactEntries
  split
  · refine not_refused_map _ (not_refused_mapM fun entry listed => ?_)
    refine not_refused_bind entry.1.not_refused_keyText fun key _ => ?_
    exact not_refused_bind (values entry (mem_sort.mp listed)) fun value _ => not_refused_ok _
  · exact not_refused_error Failure.not_refuses_wrongKind

theorem not_refused_compact (v : Value α) : ¬ Refused v.compact := by
  induction v using deepInduction with
  | list items ih =>
      rw [compact, compactItems_eq_mapM]
      exact not_refused_map _ (not_refused_mapM ih)
  | tuple items ih =>
      rw [compact, compactItems_eq_mapM]
      exact not_refused_map _ (not_refused_mapM ih)
  | dict entries ih =>
      rw [compact, compactValues_eq_map]
      refine not_refused_compactEntries fun entry listed => ?_
      obtain ⟨other, member, rfl⟩ := List.mem_map.mp listed
      exact (ih other member).2
  | bytes bs => exact not_refused_error Failure.not_refuses_wrongKind
  | text s => exact not_refused_ok _
  | torn t => exact not_refused_ok _
  | _ =>
      rw [compact]
      exact not_refused_compactAtom _

end Value

namespace Chance

theorem not_refused_counterKey (stream : Points) (scope : Scope α) :
    ¬ Refused (counterKey stream scope) := by
  refine not_refused_map _ ?_
  unfold scopeText
  split
  · exact not_refused_ok _
  · refine not_refused_bind (not_refused_mapM fun entry _ => ?_) fun entries _ =>
      Value.not_refused_compact _
    unfold underText
    cases entry.1.shown? with
    | none => exact not_refused_error Failure.not_refuses_badValue
    | some key => exact not_refused_ok _

theorem Streams.not_refused_value (s : Streams) (key : Points) (n : Nat) :
    ¬ Refused (s.value key n : Answer α α) := by
  unfold value
  split
  · exact not_refused_error Failure.not_refuses_badValue
  · rename_i text _
    cases text.string? with
    | none => exact not_refused_error Failure.not_refuses_unencodable
    | some text => exact not_refused_ok _

theorem Streams.not_refused_draw (stream : Points) (scope : Scope α) (s : Streams) :
    ¬ Refused (s.draw stream scope).answer :=
  Outcome.not_refused_andThen (not_refused_counterKey stream scope) fun key _ =>
    s.not_refused_value key (s.count key)

theorem Source.not_refused_roll (s : Source α) : ¬ Refused s.roll.answer := by
  obtain ⟨origin, asked⟩ := s
  cases origin with
  | stream streams name scope => exact streams.not_refused_draw name scope
  | listed values => exact not_refused_ok values.head

end Chance

namespace Cleansing

theorem not_refused_exceeds (v : Value α) (n : Int) : ¬ Refused (v.exceeds n) := by
  refine not_refused_map _ ?_
  unfold Value.order
  cases v.number? with
  | some x => exact not_refused_ok _
  | none => exact not_refused_error Failure.not_refuses_wrongKind

theorem answers_allow (c : Config α) (party : List (Participant α)) (heart : Bool) :
    Answers (Need.party heart c.minParticipants party.length).refusal? (allow c party heart) := by
  unfold allow
  cases heart with
  | false => rfl
  | true =>
      have comparable := not_refused_exceeds c.minParticipants party.length
      simp only [Need.refusal?, if_true]
      cases compared : c.minParticipants.exceeds party.length with
      | error f => exact not_refused_error fun refuses => comparable ⟨f, refuses, compared⟩
      | ok few =>
          cases few with
          | true => rfl
          | false => exact not_refused_ok ()

theorem not_refused_mean (figure : Participant α → α) (party : List (Participant α)) :
    ¬ Refused (mean figure party) :=
  not_refused_map _ (not_refused_mapM fun _ _ => Scalar.not_refused_confined _)

theorem not_refused_factors (c : Config α) (party : List (Participant α)) :
    ¬ Refused (factors c party) := by
  unfold factors
  split
  · exact not_refused_ok _
  · refine not_refused_bind (not_refused_mean _ party) fun morale _ => ?_
    refine not_refused_bind (not_refused_mean _ party) fun trauma _ => ?_
    exact not_refused_bind (not_refused_mean _ party) fun confidence _ => not_refused_ok _

theorem not_refused_rateFrom (c : Config α) (party : List (Participant α)) (f : Factors α) :
    ¬ Refused (rateFrom c party f) := by
  unfold rateFrom
  split
  · exact not_refused_ok _
  · exact not_refused_map _ (Scalar.not_refused_checked _)

theorem not_refused_weigh (c : Config α) (party : List (Participant α)) :
    ¬ Refused (weigh c party) := by
  refine not_refused_bind (not_refused_factors c party) fun parts _ => ?_
  exact not_refused_bind (not_refused_rateFrom c party parts) fun rate _ => not_refused_ok _

theorem heeds_execute (c : Config α) (party : List (Participant α)) (heart : Bool)
    {roll : σ → Outcome σ α α} {s : σ} (rolls : heart = true → ¬ Refused (roll s).answer) :
    (execute c party heart roll s).Heeds
      (Need.party heart c.minParticipants party.length).refusal? s := by
  have chosen : Answers (Need.party heart c.minParticipants party.length).refusal?
      (chance c party heart) :=
    (answers_allow c party heart).bind fun _ => not_refused_weigh c party
  refine (Outcome.heeds_of chosen s).andThen fun rate answered => ?_
  have awake : heart = true := by
    cases heart with
    | true => rfl
    | false => cases answered
  exact Outcome.not_refused_andThen (rolls awake) fun _ _ => not_refused_ok _

def Operation.need (c : Config α) : Operation α → Need α
  | .rate _ => .nothing
  | .execute party heart => .party heart c.minParticipants party.length
  | .follow _ => .nothing

theorem Operation.heeds (c : Config α) (op : Operation α) (s : Chance.Source α) :
    (op.perform c s).Heeds (op.need c).refusal? s := by
  cases op with
  | rate party => exact not_refused_map _ (not_refused_weigh c party)
  | execute party heart =>
      exact (heeds_execute c party heart fun _ => s.not_refused_roll).map _
  | follow source => exact not_refused_ok _

end Cleansing

end Colony

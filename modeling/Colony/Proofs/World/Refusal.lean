import Colony.Proofs.Refusal.Engines
import Colony.Proofs.World.Deed

/-!
# What the world refuses

An operation of the world may reach several engines one after the other, but
it is refused before any of them has changed: registering comes first and is
refused without a newcomer, whoever was registered can be written back to, and
a deployment is refused before its roll.
-/

namespace Colony

variable {α β γ : Type}

variable [Scalar α]

theorem Rebellion.not_refused_assess (c : Config α) (p : Profile α) : ¬ Refused (assess c p) := by
  have weighed : ¬ Refused (factors c p) :=
    not_refused_bind (Scalar.not_refused_confined _) fun _ _ =>
      not_refused_bind (Scalar.not_refused_confined _) fun _ _ =>
        not_refused_bind (Scalar.not_refused_confined _) fun _ _ => not_refused_ok _
  exact not_refused_bind weighed fun _ _ =>
    not_refused_bind (Scalar.not_refused_confined _) fun _ _ => not_refused_ok _

theorem Profile.not_refused_after (action : Action α) (p : Profile α) :
    ¬ Refused (p.after action) :=
  not_refused_bind (Scalar.not_refused_confined _) fun _ _ =>
    not_refused_bind (Scalar.not_refused_confined _) fun _ _ =>
      not_refused_bind (Scalar.not_refused_confined _) fun _ _ =>
        not_refused_bind (Scalar.not_refused_confined _) fun _ _ => not_refused_ok _

namespace World

omit [Scalar α] in
theorem heeds_onRoster {refusal : Option (Failure α)} {w : World α}
    {operation : Roster α → Answer α (β × Roster α)} (h : Answers refusal (operation w.roster)) :
    (w.onRoster operation).Heeds refusal w :=
  (Outcome.heeds_ofAnswer h).within fun roster => { w with roster := roster }

theorem not_refused_effectOn (npc : Npc α) (deed : Deed α) (w : World α) :
    ¬ Refused (w.effectOn npc deed) := by
  refine not_refused_bind (Rebellion.not_refused_assess _ _) fun _ _ => ?_
  refine not_refused_bind (Profile.not_refused_after _ _) fun _ _ => ?_
  exact not_refused_bind (Rebellion.not_refused_assess _ _) fun _ _ => not_refused_ok _

theorem not_refused_setTrauma (id : String) (trauma : α) (w : World α) :
    ¬ Refused (w.setTrauma id trauma).answer :=
  Outcome.not_refused_andThen (Scalar.not_refused_confined trauma) fun _ _ => not_refused_ok ()

section Store

variable {w : World α} {npc : Npc α} (listed : npc.id ∈ w.roster.ids)
include listed

omit [Scalar α] in
theorem not_refused_update {f : Npc α → Answer α (Npc α)} (changes : ∀ npc, ¬ Refused (f npc)) :
    ¬ Refused (w.onRoster (·.update npc.id f)).answer := by
  cases known : w.roster.find? npc.id with
  | none => exact absurd listed (Roster.not_mem_ids_of_find? known)
  | some found =>
      refine Outcome.not_refused_ofAnswer (s := w.roster) ?_
      have updated := not_refused_map (fun changed =>
        (changed, w.roster.change npc.id fun _ => changed)) (changes found)
      rwa [← Roster.update_of_some known] at updated

theorem not_refused_store (profile : Profile α) : ¬ Refused (w.store npc profile).answer := by
  have shifted : npc.id ∈ (w.onRoster
      (·.addEfficiency npc.id (profile.efficiency - npc.efficiency))).state.roster.ids := by
    refine (extends_onRoster (.refl w.roster) fun _ _ => ?_).subset listed
    exact Roster.extends_update fun _ _ => Npc.id_shiftEfficiency
  refine Outcome.not_refused_andThen
    (not_refused_update listed (Roster.not_refused_shiftEfficiency _)) fun _ _ => ?_
  refine Outcome.not_refused_andThen
    (not_refused_update shifted (Roster.not_refused_shiftMorale _)) fun _ _ => ?_
  exact not_refused_setTrauma npc.id profile.trauma _

end Store

/-- Whoever has been registered is on the roster. -/
theorem listed_of_registered {id : String} {w : World α} {npc : Npc α}
    (registered : (w.onRoster (·.register id)).answer = .ok npc) :
    npc.id ∈ (w.onRoster (·.register id)).state.roster.ids := by
  cases answer : w.roster.register id with
  | error failure =>
      rw [onRoster_of_error answer] at registered
      cases registered
  | ok pair =>
      rw [onRoster_of_ok answer] at registered ⊢
      cases registered
      obtain ⟨named, found, -⟩ := Roster.find?_register answer
      exact List.mem_map_of_mem (f := (·.id)) (List.mem_of_find?_eq_some found)

theorem heeds_assess (id : String) (w : World α) :
    (w.assess id).Heeds (w.roster.needFor id).refusal? w :=
  (heeds_onRoster (w.roster.answers_register id)).andThen fun _ _ =>
    Rebellion.not_refused_assess _ _

theorem heeds_perform (deed : Deed α) (w : World α) :
    (w.perform deed).Heeds (w.roster.needFor deed.npcId).refusal? w := by
  refine (heeds_onRoster (w.roster.answers_register deed.npcId)).andThen fun npc registered => ?_
  have listed := listed_of_registered registered
  refine Outcome.not_refused_andThen (not_refused_effectOn npc deed _) fun effect _ => ?_
  split
  · exact not_refused_ok effect
  · exact Outcome.not_refused_andThen (not_refused_store listed effect.profile) fun _ _ =>
      not_refused_ok effect

theorem not_refused_refresh (w : World α) : ¬ Refused w.refresh.answer := by
  rcases w.refresh_cases with ⟨failure, assessed, failed⟩ | ⟨all, -, told⟩
  · rw [failed]
    have judged : ¬ Refused w.assessments :=
      not_refused_mapM fun p _ => Rebellion.not_refused_assess w.rebellion p
    exact not_refused_error fun refuses => judged ⟨failure, refuses, assessed⟩
  · rw [told]
    exact not_refused_ok _

theorem not_refused_advance (times : Value α) (w : World α) : ¬ Refused (w.advance times).answer :=
  Outcome.not_refused_andThen (not_refused_refresh w) fun figures _ =>
    Economy.not_refused_advance times (some figures.2) _

/-! ## Deployments -/

theorem answer_cleanse_of_awake {w : World α} (awake : w.economy.plague.heart = true) :
    (w.onEconomy (·.cleanse)).answer = .ok () := by
  simp [onEconomy, Outcome.within, Economy.cleanse, Economy.onPlague, Plague.cleanse, awake]

/-- A roll before which the plague is cleansed would be refused while the heart sleeps. -/
theorem not_refused_roll {w : World α} (awake : w.economy.plague.heart = true) :
    ¬ Refused w.roll.answer := by
  unfold roll
  split
  · exact w.streams.not_refused_draw rollStream []
  · split
    · refine Outcome.not_refused_andThen ?_ fun _ _ => not_refused_ok _
      rw [answer_cleanse_of_awake awake]
      exact not_refused_ok ()
    · exact not_refused_ok _

theorem not_refused_cleanseIfAwake (w : World α) : ¬ Refused w.cleanseIfAwake.answer := by
  unfold cleanseIfAwake
  split
  · rename_i awake
    rw [answer_cleanse_of_awake awake]
    exact not_refused_ok ()
  · exact not_refused_ok ()

theorem heeds_deploy (given : Option (List (Cleansing.Participant α))) (w : World α) :
    (w.deploy given).Heeds
      (Need.party w.economy.plague.heart w.cleansing.minParticipants
        (given.getD w.party).length).refusal? w := by
  unfold deploy
  cases awake : w.economy.plague.heart with
  | false => rfl
  | true =>
      rw [if_pos rfl]
      refine (Cleansing.heeds_execute w.cleansing (given.getD w.party) true fun _ =>
        not_refused_roll awake).andThen fun verdict _ => ?_
      split
      · exact Outcome.not_refused_andThen (not_refused_cleanseIfAwake _) fun _ _ =>
          not_refused_ok verdict
      · exact not_refused_ok verdict

/-! ## All operations -/

def Operation.need : Operation α → World α → Need α
  | .register id, w => w.roster.needFor id
  | .enlist _ role, _ => .role role
  | .addEfficiency id _, w => .npc id (w.roster.find? id).isSome
  | .addMorale id _, w => .npc id (w.roster.find? id).isSome
  | .assign id _, w => .npc id (w.roster.find? id).isSome
  | .setTrauma _ _, _ => .nothing
  | .assess id, w => w.roster.needFor id
  | .act deed, w => w.roster.needFor deed.npcId
  | .refresh, _ => .nothing
  | .advance _, _ => .nothing
  | .economy op, w => op.need w.economy
  | .deploy given, w =>
      .party w.economy.plague.heart w.cleansing.minParticipants (given.getD w.party).length
  | .follow _ _, _ => .nothing

theorem Operation.heeds (op : Operation α) (w : World α) :
    (op.perform w).Heeds (op.need w).refusal? w := by
  cases op with
  | register id => exact (heeds_onRoster (w.roster.answers_register id)).map _
  | enlist id role => exact (heeds_onRoster (w.roster.answers_enlistAs id role)).map _
  | addEfficiency id delta =>
      exact (heeds_onRoster
        (Roster.answers_update id (Roster.not_refused_shiftEfficiency delta) w.roster)).map _
  | addMorale id delta =>
      exact (heeds_onRoster
        (Roster.answers_update id (Roster.not_refused_shiftMorale delta) w.roster)).map _
  | assign id task =>
      exact (heeds_onRoster
        (Roster.answers_update id (Roster.not_refused_withTask task) w.roster)).map _
  | setTrauma id trauma => exact not_refused_map _ (not_refused_setTrauma id trauma w)
  | assess id => exact (heeds_assess id w).map _
  | act deed => exact (heeds_perform deed w).map _
  | refresh => exact not_refused_map _ (not_refused_refresh w)
  | advance times => exact not_refused_map _ (not_refused_advance times w)
  | economy op =>
      exact ((op.heeds w.economy).within fun economy => { w with economy := economy }).map _
  | deploy given => exact (heeds_deploy given w).map _
  | follow rolls cleanseFirst => exact not_refused_ok _

end World

end Colony

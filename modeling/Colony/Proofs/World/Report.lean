import Colony.Proofs.Rebellion.Actions
import Colony.Proofs.World.Deed

/-!
# Deeds are stored as reported

In exact numbers a deed fails only if its NPC cannot be registered.  Otherwise
its report is what becomes true: the roster and the traumas hold the profile
it reports, although they are written by shifts that are confined once more,
and whoever asks for the readiness to rebel just before and just after is told
what it reports.  Trying the deed reports the same, and nobody else is touched.
-/

namespace Colony

def Deed.carriedOut {α : Type} (deed : Deed α) : Deed α := { deed with dryRun := false }

/-! ## Exact numbers -/

namespace Roster

theorem register_rat (id : String) (r : Roster Rat) :
    (∃ npc next, r.register id = .ok (npc, next)) ∨
      ∃ failure, r.find? id = none ∧ Role.ofValue r.defaults.role = .error failure ∧
        r.register id = .error failure := by
  cases known : r.find? id with
  | some npc => exact .inl ⟨npc, r, register_of_known known⟩
  | none =>
      have unread : r.register id =
          (Role.ofValue r.defaults.role >>= fun role => r.enter id role) := by
        simp only [register, known]
      rw [unread]
      cases (Role.ofValue r.defaults.role : Answer Rat Role) with
      | ok role => exact .inl ⟨_, _, rfl⟩
      | error failure => exact .inr ⟨failure, rfl, rfl, rfl⟩

variable {id : String} {r : Roster Rat} {npc : Npc Rat}

theorem addEfficiency_rat (known : r.find? id = some npc) (delta : Rat) :
    let shifted := { npc with efficiency := Scalar.unit (npc.efficiency + delta) }
    r.addEfficiency id delta = .ok (shifted, r.change id fun _ => shifted) := by
  rw [addEfficiency, update_of_some known]
  rfl

theorem addMorale_rat (known : r.find? id = some npc) (delta : Rat) :
    let shifted := { npc with morale := Scalar.unit (npc.morale + delta) }
    r.addMorale id delta = .ok (shifted, r.change id fun _ => shifted) := by
  rw [addMorale, update_of_some known]
  rfl

theorem find?_change_const (changed : Npc Rat) (known : r.find? id = some npc)
    (named : changed.id = id) (other : String) :
    (r.change id fun _ => changed).find? other =
      if other = id then some changed else r.find? other := by
  rw [find?_change fun _ _ => named]
  by_cases here : other = id
  · subst here
    rw [if_pos rfl, if_pos rfl, known, Option.map_some]
  · rw [if_neg here, if_neg here]

end Roster

theorem Profile.unit_shifted (action : Action Rat) (p : Profile Rat) :
    Scalar.unit (p.shifted action).trauma = (p.shifted action).trauma ∧
      Scalar.unit (p.shifted action).efficiency = (p.shifted action).efficiency ∧
      Scalar.unit (p.shifted action).morale = (p.shifted action).morale :=
  ⟨unit_unit_rat _, unit_unit_rat _, unit_unit_rat _⟩

namespace World

/-! ## Storing -/

/-- A profile that is written back is what is left of it between 0 and 1, and one NPC has it. -/
theorem store_rat {npc : Npc Rat} {w : World Rat} (known : w.roster.find? npc.id = some npc)
    (profile : Profile Rat) :
    ∃ roster, w.store npc profile = .done () { w with
        roster := roster
        trauma := w.trauma.put npc.id (Scalar.unit profile.trauma) } ∧
      ∀ other, roster.find? other =
        if other = npc.id then
          some { npc with
            efficiency := Scalar.unit profile.efficiency
            morale := Scalar.unit profile.morale }
        else w.roster.find? other := by
  let first := { npc with efficiency := Scalar.unit profile.efficiency }
  let both := { first with morale := Scalar.unit profile.morale }
  have shifted : w.roster.addEfficiency npc.id (profile.efficiency - npc.efficiency) =
      .ok (first, w.roster.change npc.id fun _ => first) := by
    rw [Roster.addEfficiency_rat known, add_sub_rat]
  have listed := Roster.find?_change_const first known rfl
  have reached : (w.roster.change npc.id fun _ => first).find? npc.id = some first := by
    rw [listed, if_pos rfl]
  have raised : (w.roster.change npc.id fun _ => first).addMorale npc.id
        (profile.morale - npc.morale) =
      .ok (both, (w.roster.change npc.id fun _ => first).change npc.id fun _ => both) := by
    rw [Roster.addMorale_rat reached, add_sub_rat]
  refine ⟨(w.roster.change npc.id fun _ => first).change npc.id fun _ => both, ?_, fun other => ?_⟩
  · rw [store, onRoster_of_ok shifted, Outcome.done_andThen, onRoster_of_ok raised,
      Outcome.done_andThen, setTrauma, confined_rat, Outcome.of_ok_andThen]
  · rw [Roster.find?_change_const both reached rfl, listed]
    by_cases here : other = npc.id
    · rw [if_pos here, if_pos here]
    · rw [if_neg here, if_neg here, if_neg here]

/-! ## The course of a deed -/

/-- What a deed upon an NPC that can be registered finds and does, when it is asked about, tried
and carried out. -/
structure Course (deed : Deed Rat) (w next : World Rat) (npc : Npc Rat)
    (effect : Deed.Effect Rat) : Prop where
  subject : npc.id = deed.npcId
  known : next.roster.find? deed.npcId = some npc
  others : ∀ id, id ≠ deed.npcId → next.roster.find? id = w.roster.find? id
  traumas : next.trauma = w.trauma
  named : effect.npcId = npc.id
  applied : effect.applied = true
  changed : effect.profile = (next.profileOf npc).shifted deed.action
  assessed : Rebellion.assess next.rebellion effect.profile = .ok effect.after
  asked : w.assess deed.npcId = .done effect.before next
  tried : w.perform deed.tried = .done { effect with applied := false } next
  done : w.perform deed.carriedOut = next.apply npc deed.carriedOut effect
  doneThen : next.perform deed.carriedOut = next.apply npc deed.carriedOut effect

theorem exists_course {deed : Deed Rat} {w : World Rat} {npc : Npc Rat} {roster : Roster Rat}
    (registered : w.roster.register deed.npcId = .ok (npc, roster)) :
    ∃ effect, Course deed w { w with roster := roster } npc effect := by
  let next : World Rat := { w with roster := roster }
  obtain ⟨subject, known, others⟩ := Roster.find?_register registered
  let changed := (next.profileOf npc).shifted deed.action
  have assessed := Rebellion.assess_rat w.rebellion (next.profileOf npc)
  have reassessed := Rebellion.assess_rat w.rebellion changed
  have acted := (next.profileOf npc).after_rat deed.action
  let effect : Deed.Effect Rat :=
    ⟨npc.id, changed, Rebellion.assessed w.rebellion (next.profileOf npc),
      Rebellion.assessed w.rebellion changed, true⟩
  have found : next.effectOn npc deed.carriedOut = .ok effect :=
    effectOn_of_assessed deed.carriedOut assessed acted reassessed
  have foundTrying : next.effectOn npc deed.tried = .ok { effect with applied := false } :=
    effectOn_of_assessed deed.tried assessed acted reassessed
  have done : w.perform deed.carriedOut = next.apply npc deed.carriedOut effect :=
    perform_of_registered deed.carriedOut registered found
  have tried : w.perform deed.tried = .done { effect with applied := false } next :=
    perform_of_registered deed.tried registered foundTrying
  have doneThen : next.perform deed.carriedOut = next.apply npc deed.carriedOut effect :=
    perform_of_registered deed.carriedOut (Roster.register_of_known known) found
  have asked : w.assess deed.npcId = .done effect.before next :=
    assess_of_registered registered assessed
  exact ⟨effect, subject, known, others, rfl, rfl, rfl, rfl, reassessed, asked, tried, done,
    doneThen⟩

namespace Course

variable {deed : Deed Rat} {w next : World Rat} {npc : Npc Rat} {effect : Deed.Effect Rat}

/-- What the deed leaves is its profile on the one NPC, as it assesses it, and nothing elsewhere. -/
theorem stored (h : Course deed w next npc effect) :
    ∃ last, next.apply npc deed.carriedOut effect =
        ⟨.ok effect, rebellionNotes deed.carriedOut last.economy.status.tickCount effect.after,
          last⟩ ∧
      (∃ npc, last.roster.find? deed.npcId = some npc ∧
        npc.efficiency = effect.profile.efficiency ∧ npc.morale = effect.profile.morale) ∧
      last.trauma.get? deed.npcId = some effect.profile.trauma ∧
      last.assess deed.npcId = .done effect.after last ∧
      ∀ id, id ≠ deed.npcId → last.roster.find? id = w.roster.find? id ∧
        last.trauma.get? id = w.trauma.get? id := by
  have known : next.roster.find? npc.id = some npc := by
    rw [h.subject]
    exact h.known
  obtain ⟨trauma, efficiency, morale⟩ := (next.profileOf npc).unit_shifted deed.action
  rw [← h.changed] at trauma efficiency morale
  obtain ⟨roster, written, listed⟩ := store_rat known effect.profile
  rw [trauma, h.subject] at written
  rw [efficiency, morale, h.subject] at listed
  let last : World Rat :=
    { next with roster := roster, trauma := next.trauma.put deed.npcId effect.profile.trauma }
  let stored : Npc Rat :=
    { npc with efficiency := effect.profile.efficiency, morale := effect.profile.morale }
  have here : last.roster.find? deed.npcId = some stored := by
    rw [listed, if_pos rfl, ← h.subject]
  have hurt : last.trauma.get? deed.npcId = some effect.profile.trauma := Table.get?_put_self _ _ _
  have traumaOf : last.traumaOf npc.id = effect.profile.trauma := by
    rw [World.traumaOf, h.subject, hurt, Option.getD_some]
  have same : last.profileOf stored = effect.profile := by
    have kept := h.changed
    simp only [profileOf, traumaOf, stored]
    rw [kept]
    rfl
  have judged : Rebellion.assess last.rebellion (last.profileOf stored) = .ok effect.after := by
    rw [same]
    exact h.assessed
  refine ⟨last, ?_, ⟨stored, here, rfl, rfl⟩, hurt,
    assess_of_registered (Roster.register_of_known here) judged, fun id ne => ⟨?_, ?_⟩⟩
  · rw [World.apply, written]
    rfl
  · rw [listed, if_neg ne, h.others id ne]
  · rw [Table.get?_put_of_ne ne.symm, h.traumas]

end Course

/-! ## What is shown -/

def did (deed : Deed Rat) (o : Observed (World Rat) Rat) :
    Answer Rat (Reply Rat) × Observed (World Rat) Rat :=
  o.run (Operation.perform (.act deed))

def asked (id : String) (o : Observed (World Rat) Rat) :
    Answer Rat (Reply Rat) × Observed (World Rat) Rat :=
  o.run (Operation.perform (.assess id))

theorem did_eq (deed : Deed Rat) (o : Observed (World Rat) Rat) :
    (did deed o).1 = (o.subject.perform deed).answer.map .effect ∧
      (did deed o).2.subject = (o.subject.perform deed).state := by
  have quiet : (Operation.perform (.act deed) o.subject).Unranked :=
    (unranked_perform deed o.subject).map Reply.effect
  exact Observed.run_unranked quiet

theorem asked_eq (id : String) (o : Observed (World Rat) Rat) :
    (asked id o).1 = (o.subject.assess id).answer.map .assessment ∧
      (asked id o).2.subject = (o.subject.assess id).state :=
  Observed.run_unranked ((unranked_assess id o.subject).map Reply.assessment)

/-- The report of a deed against what is asked and stored before and after it. -/
structure Reported (deed : Deed Rat) (o : Observed (World Rat) Rat)
    (effect : Deed.Effect Rat) : Prop where
  done : (did deed.carriedOut o).1 = .ok (.effect effect)
  applied : effect.applied = true
  named : effect.npcId = deed.npcId ∧ effect.profile.npcId = deed.npcId
  tried : (did deed.tried o).1 = .ok (.effect { effect with applied := false })
  before : (asked deed.npcId o).1 = .ok (.assessment effect.before)
  /-- To have asked makes no difference. -/
  doneThen : (did deed.carriedOut (asked deed.npcId o).2).1 = .ok (.effect effect)
  after : (asked deed.npcId (did deed.carriedOut o).2).1 = .ok (.assessment effect.after)
  roster : ∃ npc, (did deed.carriedOut o).2.subject.roster.find? deed.npcId = some npc ∧
    npc.efficiency = effect.profile.efficiency ∧ npc.morale = effect.profile.morale
  trauma : (did deed.carriedOut o).2.subject.trauma.get? deed.npcId = some effect.profile.trauma
  others : ∀ id, id ≠ deed.npcId → ∀ next ∈ [(did deed.carriedOut o).2, (did deed.tried o).2],
    next.subject.roster.find? id = o.subject.roster.find? id ∧
      next.subject.trauma.get? id = o.subject.trauma.get? id

/-- A stranger whose role cannot be read is refused, whatever is asked or done, and nothing
changes. -/
structure Refused (deed : Deed Rat) (o : Observed (World Rat) Rat) (failure : Failure Rat) :
    Prop where
  unknown : o.subject.roster.find? deed.npcId = none
  unread : Role.ofValue o.subject.roster.defaults.role = .error failure
  done : did deed.carriedOut o = (.error failure, o)
  tried : did deed.tried o = (.error failure, o)
  asked : asked deed.npcId o = (.error failure, o)

theorem Course.reported {deed : Deed Rat} {o : Observed (World Rat) Rat} {next : World Rat}
    {npc : Npc Rat} {effect : Deed.Effect Rat} (h : Course deed o.subject next npc effect) :
    Reported deed o effect := by
  obtain ⟨last, applied, listed, hurt, askedAfter, elsewhere⟩ := h.stored
  have left : (did deed.carriedOut o).2.subject = last := by
    rw [(did_eq _ o).2, h.done, applied]
  have leftTrying : (did deed.tried o).2.subject = next := by
    rw [(did_eq _ o).2, h.tried]
    rfl
  have named : effect.profile.npcId = npc.id := by
    rw [h.changed]
    rfl
  have both : effect.npcId = deed.npcId ∧ effect.profile.npcId = deed.npcId :=
    ⟨h.named.trans h.subject, named.trans h.subject⟩
  refine ⟨?_, h.applied, both, ?_, ?_, ?_, ?_, ?_, ?_, ?_⟩
  · rw [(did_eq _ o).1, h.done, applied]
    rfl
  · rw [(did_eq _ o).1, h.tried]
    rfl
  · rw [(asked_eq _ o).1, h.asked]
    rfl
  · rw [(did_eq _ _).1, (asked_eq _ o).2, h.asked, Outcome.state_done, h.doneThen, applied]
    rfl
  · rw [(asked_eq _ _).1, left, askedAfter]
    rfl
  · rw [left]
    exact listed
  · rw [left]
    exact hurt
  · intro id ne later member
    simp only [List.mem_cons, List.not_mem_nil, or_false] at member
    rcases member with rfl | rfl
    · rw [left]
      exact elsewhere id ne
    · rw [leftTrying, h.traumas]
      exact ⟨h.others id ne, rfl⟩

theorem refused (deed : Deed Rat) (o : Observed (World Rat) Rat) {failure : Failure Rat}
    (unknown : o.subject.roster.find? deed.npcId = none)
    (unread : Role.ofValue o.subject.roster.defaults.role = .error failure)
    (failed : o.subject.roster.register deed.npcId = .error failure) : Refused deed o failure := by
  have act (d : Deed Rat) (same : d.npcId = deed.npcId) : did d o = (.error failure, o) := by
    have stopped : Operation.perform (.act d) o.subject = .fail failure o.subject := by
      rw [Operation.perform, perform, same, onRoster_of_error failed]
      rfl
    exact Observed.run_of_fail stopped
  have ask : asked deed.npcId o = (.error failure, o) := by
    have stopped : Operation.perform (.assess deed.npcId) o.subject = .fail failure o.subject := by
      rw [Operation.perform, assess, onRoster_of_error failed]
      rfl
    exact Observed.run_of_fail stopped
  exact ⟨unknown, unread, act _ rfl, act _ rfl, ask⟩

theorem stored_as_reported (deed : Deed Rat) (o : Observed (World Rat) Rat) :
    (∃ effect, Reported deed o effect) ∨ ∃ failure, Refused deed o failure := by
  rcases o.subject.roster.register_rat deed.npcId with
    ⟨npc, roster, registered⟩ | ⟨failure, unknown, unread, failed⟩
  · obtain ⟨effect, course⟩ := exists_course registered
    exact .inl ⟨effect, course.reported⟩
  · exact .inr ⟨failure, refused deed o unknown unread failed⟩

end World

end Colony

import Colony.Proofs.World.Conversion
import Colony.Proofs.World.Deed

/-!
# Each to their own

What an operation that names one NPC answers, and what it makes of that NPC,
depends on nothing but the NPC's own record and trauma, the settings apart.
Operations that name somebody else, or nobody, leave that record and trauma
alone, also those that look at the whole population.  So the story of an NPC
is told by the operations that name it.
-/

namespace Colony

variable {α β γ : Type} [Scalar α]

/-! ## Rosters -/

namespace Roster

/-- Two rosters that say the same of one NPC and receive strangers alike. -/
structure Alike (id : String) (r r' : Roster α) : Prop where
  defaults : r.defaults = r'.defaults
  record : r.find? id = r'.find? id

/-- Two answers that are the same and leave rosters alike. -/
inductive AnswersAlike (id : String) :
    Answer α (β × Roster α) → Answer α (β × Roster α) → Prop where
  | failed (failure : Failure α) : AnswersAlike id (.error failure) (.error failure)
  | done (b : β) {r r' : Roster α} (alike : Alike id r r') :
      AnswersAlike id (.ok (b, r)) (.ok (b, r'))

namespace Alike

variable {id : String} {r r' : Roster α}

omit [Scalar α] in
theorem change (h : Alike id r r') {f : Npc α → Npc α}
    (keeps : ∀ npc, npc.id = id → (f npc).id = id) : Alike id (r.change id f) (r'.change id f) where
  defaults := h.defaults
  record := by rw [find?_change keeps, find?_change keeps, h.record]

theorem enter (h : Alike id r r') (role : Role) :
    AnswersAlike id (r.enter id role) (r'.enter id role) := by
  have same : r.newcomer id role = r'.newcomer id role := by
    simp only [newcomer, h.defaults]
  rw [Roster.enter, Roster.enter, same]
  cases r'.newcomer id role with
  | error failure => exact .failed failure
  | ok npc =>
      refine .done npc ⟨h.defaults, ?_⟩
      rw [find?_add, find?_add, h.record]

theorem register (h : Alike id r r') : AnswersAlike id (r.register id) (r'.register id) := by
  unfold Roster.register
  rw [h.record, h.defaults]
  cases r'.find? id with
  | some npc => exact .done npc h
  | none =>
      cases (Role.ofValue r'.defaults.role : Answer α Role) with
      | error failure => exact .failed failure
      | ok role => exact h.enter role

theorem enlistAs (h : Alike id r r') (role : Value α) :
    AnswersAlike id (r.enlistAs id role) (r'.enlistAs id role) := by
  unfold Roster.enlistAs
  cases (Role.ofValue role : Answer α Role) with
  | error failure => exact .failed failure
  | ok read =>
      change AnswersAlike id (r.enlist id read) (r'.enlist id read)
      unfold Roster.enlist
      rw [h.record]
      cases r'.find? id with
      | some npc => exact .done _ (h.change fun _ named => named)
      | none => exact h.enter read

omit [Scalar α] in
theorem update (h : Alike id r r') {f : Npc α → Answer α (Npc α)}
    (keeps : ∀ npc changed, f npc = .ok changed → changed.id = npc.id) :
    AnswersAlike id (r.update id f) (r'.update id f) := by
  cases known : r'.find? id with
  | none =>
      rw [update_of_none known, update_of_none (h.record.trans known)]
      exact .failed (.npcNotFound id)
  | some npc =>
      rw [update_of_some known, update_of_some (h.record.trans known)]
      cases made : f npc with
      | error failure => exact .failed failure
      | ok changed =>
          have named := (keeps npc changed made).trans (id_of_find? known)
          exact .done changed (h.change fun _ _ => named)

end Alike

section Others

variable {id other : String} {r next : Roster α} {npc : Npc α}

theorem alike_register (ne : other ≠ id) (done : r.register id = .ok (npc, next)) :
    Alike other next r := by
  obtain ⟨-, -, others⟩ := find?_register done
  refine ⟨?_, others other ne⟩
  cases known : r.find? id with
  | some npc =>
      rw [register_of_known known] at done
      cases done
      rfl
  | none =>
      obtain ⟨-, rfl⟩ := register_of_unknown known done
      rfl

theorem alike_enlistAs (ne : other ≠ id) {role : Value α}
    (done : r.enlistAs id role = .ok (npc, next)) : Alike other next r := by
  obtain ⟨read, -, done⟩ := Answer.bind_eq_ok.mp done
  unfold enlist at done
  split at done
  · cases done
    refine ⟨rfl, ?_⟩
    rw [find?_change (f := fun npc => { npc with role := read }) (fun _ named => named), if_neg ne]
  · obtain ⟨named, rfl⟩ := add_of_enter done
    refine ⟨rfl, ?_⟩
    rw [find?_add, if_neg (named ▸ ne.symm), Option.or_none]

omit [Scalar α] in
theorem alike_update (ne : other ≠ id) {f : Npc α → Answer α (Npc α)}
    (keeps : ∀ npc changed, f npc = .ok changed → changed.id = npc.id)
    (done : r.update id f = .ok (npc, next)) : Alike other next r := by
  obtain ⟨old, known, made, rfl⟩ := update_eq_ok.mp done
  have named := (keeps old npc made).trans (id_of_find? known)
  refine ⟨rfl, ?_⟩
  rw [find?_change fun _ _ => named, if_neg ne]

end Others

end Roster

/-! ## Worlds -/

namespace World

/-- Two worlds that are one to an NPC. -/
structure Alike (id : String) (w w' : World α) : Prop where
  rebellion : w.rebellion = w'.rebellion
  roster : Roster.Alike id w.roster w'.roster
  trauma : w.trauma.get? id = w'.trauma.get? id

structure OutcomesAlike (id : String) (o o' : Outcome (World α) α β) : Prop where
  answer : o.answer = o'.answer
  state : Alike id o.state o'.state

variable {id : String} {w w' : World α}

omit [Scalar α] in
theorem Alike.refl (id : String) (w : World α) : Alike id w w := ⟨rfl, ⟨rfl, rfl⟩, rfl⟩

omit [Scalar α] in
theorem Alike.symm (h : Alike id w w') : Alike id w' w :=
  ⟨h.rebellion.symm, ⟨h.roster.defaults.symm, h.roster.record.symm⟩, h.trauma.symm⟩

omit [Scalar α] in
theorem Alike.trans {w'' : World α} (h : Alike id w w') (h' : Alike id w' w'') : Alike id w w'' :=
  ⟨h.rebellion.trans h'.rebellion,
    ⟨h.roster.defaults.trans h'.roster.defaults, h.roster.record.trans h'.roster.record⟩,
    h.trauma.trans h'.trauma⟩

namespace OutcomesAlike

omit [Scalar α] in
theorem andThen {o o' : Outcome (World α) α β} {next next' : β → World α → Outcome (World α) α γ}
    (first : OutcomesAlike id o o')
    (rest : ∀ b w w', o.answer = .ok b → Alike id w w' →
      OutcomesAlike id (next b w) (next' b w')) :
    OutcomesAlike id (o.andThen next) (o'.andThen next') := by
  obtain ⟨answer, notes, state⟩ := o
  obtain ⟨answer', notes', state'⟩ := o'
  obtain ⟨same, alike⟩ := first
  cases same
  cases answer with
  | error failure => exact ⟨rfl, alike⟩
  | ok b =>
      have later := rest b state state' rfl alike
      exact ⟨later.answer, later.state⟩

omit [Scalar α] in
theorem map {o o' : Outcome (World α) α β} (h : OutcomesAlike id o o') (f : β → γ) :
    OutcomesAlike id (o.map f) (o'.map f) :=
  ⟨congrArg (Except.map f) h.answer, h.state⟩

omit [Scalar α] in
theorem onRoster {operation operation' : Roster α → Answer α (β × Roster α)} (h : Alike id w w')
    (same : Roster.AnswersAlike id (operation w.roster) (operation' w'.roster)) :
    OutcomesAlike id (w.onRoster operation) (w'.onRoster operation') := by
  unfold World.onRoster
  generalize operation w.roster = answer at same
  generalize operation' w'.roster = answer' at same
  cases same with
  | failed failure => exact ⟨rfl, h⟩
  | done b alike => exact ⟨rfl, h.rebellion, alike, h.trauma⟩

end OutcomesAlike

/-! ## Operations that name an NPC -/

def Operation.named? : Operation α → Option String
  | .register id => some id
  | .enlist id _ => some id
  | .addEfficiency id _ => some id
  | .addMorale id _ => some id
  | .assign id _ => some id
  | .setTrauma id _ => some id
  | .assess id => some id
  | .act deed => some deed.npcId
  | .refresh => none
  | .advance _ => none
  | .economy _ => none
  | .deploy _ => none
  | .follow _ _ => none

namespace Alike

theorem setTrauma (h : Alike id w w') (trauma : α) :
    OutcomesAlike id (w.setTrauma id trauma) (w'.setTrauma id trauma) := by
  refine OutcomesAlike.andThen ⟨rfl, h⟩ fun trauma v v' _ alike => ⟨rfl, ?_⟩
  refine ⟨alike.rebellion, alike.roster, ?_⟩
  simp only [Outcome.state_done, Table.get?_put_self]

theorem profileOf (h : Alike id w w') {npc : Npc α} (named : npc.id = id) :
    w.profileOf npc = w'.profileOf npc := by
  simp only [World.profileOf, traumaOf, named, h.trauma]

theorem effectOn (h : Alike id w w') {npc : Npc α} (named : npc.id = id) (deed : Deed α) :
    w.effectOn npc deed = w'.effectOn npc deed := by
  simp only [World.effectOn, h.profileOf named, h.rebellion]

theorem store (h : Alike id w w') {npc : Npc α} (named : npc.id = id) (profile : Profile α) :
    OutcomesAlike id (w.store npc profile) (w'.store npc profile) := by
  subst named
  refine OutcomesAlike.andThen ?_ fun _ v v' _ alike =>
    OutcomesAlike.andThen ?_ fun _ u u' _ alike => alike.setTrauma profile.trauma
  · exact .onRoster h (h.roster.update fun _ _ => Npc.id_shiftEfficiency)
  · exact .onRoster alike (alike.roster.update fun _ _ => Npc.id_shiftMorale)

theorem registered (h : Alike id w w') :
    OutcomesAlike id (w.onRoster (·.register id)) (w'.onRoster (·.register id)) :=
  .onRoster h h.roster.register

end Alike

theorem id_of_registered {npc : Npc α} (done : (w.onRoster (·.register id)).answer = .ok npc) :
    npc.id = id := by
  cases registered : w.roster.register id with
  | error failure =>
      rw [onRoster_of_error registered] at done
      cases done
  | ok pair =>
      rw [onRoster_of_ok registered] at done
      cases done
      exact (Roster.find?_register registered).1

namespace Alike

theorem assess (h : Alike id w w') : OutcomesAlike id (w.assess id) (w'.assess id) := by
  refine h.registered.andThen fun npc v v' done alike => ⟨?_, alike⟩
  rw [Outcome.of, Outcome.of, alike.profileOf (id_of_registered done), alike.rebellion]

theorem perform {deed : Deed α} (h : Alike deed.npcId w w') :
    OutcomesAlike deed.npcId (w.perform deed) (w'.perform deed) := by
  refine h.registered.andThen fun npc v v' done alike => ?_
  have named := id_of_registered done
  have judged : OutcomesAlike deed.npcId (Outcome.of (v.effectOn npc deed) v)
      (Outcome.of (v'.effectOn npc deed) v') := ⟨alike.effectOn named deed, alike⟩
  refine judged.andThen fun effect u u' _ alike => ?_
  cases deed.dryRun with
  | true => exact ⟨rfl, alike⟩
  | false =>
      refine (alike.store named effect.profile).andThen fun _ v v' _ alike => ⟨rfl, alike⟩

end Alike

theorem Operation.perform_alike {op : Operation α} (named : op.named? = some id)
    (h : Alike id w w') : OutcomesAlike id (op.perform w) (op.perform w') := by
  cases op with
  | register other =>
      cases named
      exact h.registered.map _
  | enlist other role =>
      cases named
      exact (OutcomesAlike.onRoster h (h.roster.enlistAs role)).map _
  | addEfficiency other delta =>
      cases named
      exact (OutcomesAlike.onRoster h
        (h.roster.update fun _ _ => Npc.id_shiftEfficiency)).map _
  | addMorale other delta =>
      cases named
      exact (OutcomesAlike.onRoster h (h.roster.update fun _ _ => Npc.id_shiftMorale)).map _
  | assign other task =>
      cases named
      exact (OutcomesAlike.onRoster h (h.roster.update fun _ _ => Npc.id_withTask)).map _
  | setTrauma other trauma =>
      cases named
      exact (h.setTrauma trauma).map _
  | assess other =>
      cases named
      exact h.assess.map _
  | act deed =>
      cases named
      exact h.perform.map _
  | refresh => cases named
  | advance times => cases named
  | economy op => cases named
  | deploy party => cases named
  | follow rolls cleanseFirst => cases named

/-! ## Operations that do not -/

section Others

omit [Scalar α] in
theorem alike_onRoster {operation : Roster α → Answer α (β × Roster α)}
    (kept : ∀ b next, operation w.roster = .ok (b, next) → Roster.Alike id next w.roster) :
    Alike id (w.onRoster operation).state w := by
  unfold onRoster
  cases answer : operation w.roster with
  | error failure => exact .refl id w
  | ok pair => exact ⟨rfl, kept pair.1 pair.2 answer, rfl⟩

theorem alike_setTrauma {other : String} (ne : id ≠ other) (trauma : α) (w : World α) :
    Alike id (w.setTrauma other trauma).state w := by
  refine Outcome.state_andThen (P := fun v : World α => Alike id v w) (.refl id w)
    fun trauma v kept => Alike.trans ?_ kept
  exact ⟨rfl, ⟨rfl, rfl⟩, Table.get?_put_of_ne ne.symm _ _⟩

theorem alike_assess {other : String} (ne : id ≠ other) : Alike id (w.assess other).state w :=
  Outcome.state_andThen (P := fun v : World α => Alike id v w)
    (alike_onRoster fun _ _ => Roster.alike_register ne) fun _ _ kept => kept

omit [Scalar α] in
theorem alike_update {other : String} (ne : id ≠ other) {f : Npc α → Answer α (Npc α)}
    (keeps : ∀ npc changed, f npc = .ok changed → changed.id = npc.id) (w : World α) :
    Alike id (w.onRoster (·.update other f)).state w :=
  alike_onRoster fun _ _ => Roster.alike_update ne keeps

theorem alike_store {npc : Npc α} (ne : id ≠ npc.id) (profile : Profile α) :
    Alike id (w.store npc profile).state w := by
  refine Outcome.state_andThen (P := fun v : World α => Alike id v w)
    (alike_update ne (fun _ _ => Npc.id_shiftEfficiency) w) fun _ v kept => ?_
  refine Outcome.state_andThen (P := fun v : World α => Alike id v w)
    ((alike_update ne (fun _ _ => Npc.id_shiftMorale) v).trans kept) fun _ u kept => ?_
  exact (alike_setTrauma ne profile.trauma u).trans kept

theorem alike_perform {deed : Deed α} (ne : id ≠ deed.npcId) :
    Alike id (w.perform deed).state w := by
  unfold perform
  cases registered : w.roster.register deed.npcId with
  | error failure =>
      rw [onRoster_of_error registered]
      exact .refl id w
  | ok pair =>
      obtain ⟨npc, roster⟩ := pair
      have named := (Roster.find?_register registered).1
      have joined : Alike id { w with roster := roster } w :=
        ⟨rfl, Roster.alike_register ne registered, rfl⟩
      rw [onRoster_of_ok registered, Outcome.done_andThen]
      refine Outcome.state_andThen (P := fun v : World α => Alike id v w) joined
        fun effect next kept => ?_
      cases deed.dryRun with
      | true => exact kept
      | false =>
          exact Outcome.state_andThen (P := fun v : World α => Alike id v w)
            ((alike_store (named ▸ ne) effect.profile).trans kept) fun _ _ stored => stored

/-- All that operations upon an NPC look at. -/
def people (w : World α) : Rebellion.Config α × Roster α × Table String α :=
  (w.rebellion, w.roster, w.trauma)

omit [Scalar α] in
theorem alike_of_people {v : World α} (same : v.people = w.people) (id : String) :
    Alike id v w := by
  obtain ⟨rebellion, rest⟩ := Prod.mk.inj same
  obtain ⟨roster, trauma⟩ := Prod.mk.inj rest
  exact ⟨rebellion, by rw [roster]; exact ⟨rfl, rfl⟩, by rw [trauma]⟩

section People

variable {v : World α} {p : Rebellion.Config α × Roster α × Table String α}

omit [Scalar α] in
theorem people_andThen {o : Outcome (World α) α β} {next : β → World α → Outcome (World α) α γ}
    (first : o.state.people = p) (rest : ∀ b v, v.people = p → (next b v).state.people = p) :
    (o.andThen next).state.people = p :=
  Outcome.state_andThen (P := fun v : World α => v.people = p) first rest

theorem people_refresh (h : v.people = p) : v.refresh.state.people = p := by
  rcases v.state_refresh with same | ⟨rebellion, same⟩ <;> rw [same] <;> exact h

theorem people_advance (h : v.people = p) (times : Value α) :
    (v.advance times).state.people = p :=
  people_andThen (people_refresh h) fun _ _ kept => kept

theorem people_deploy (h : v.people = p) (party : Option (List (Cleansing.Participant α))) :
    (v.deploy party).state.people = p :=
  deploy_induction (P := fun v => v.people = p) (fun _ _ kept => kept) (fun _ _ kept => kept)
    (fun _ kept => kept) h party

end People

theorem Operation.alike_perform {op : Operation α} (unnamed : op.named? ≠ some id) (w : World α) :
    Alike id (op.perform w).state w := by
  have ne {other : String} (named : op.named? = some other) : id ≠ other := by
    rintro rfl
    exact unnamed named
  cases op with
  | register other => exact alike_onRoster fun _ _ => Roster.alike_register (ne rfl)
  | enlist other role => exact alike_onRoster fun _ _ => Roster.alike_enlistAs (ne rfl)
  | addEfficiency other delta => exact alike_update (ne rfl) (fun _ _ => Npc.id_shiftEfficiency) w
  | addMorale other delta => exact alike_update (ne rfl) (fun _ _ => Npc.id_shiftMorale) w
  | assign other task => exact alike_update (ne rfl) (fun _ _ => Npc.id_withTask) w
  | setTrauma other trauma => exact alike_setTrauma (ne rfl) trauma w
  | assess other => exact alike_assess (ne rfl)
  | act deed => exact World.alike_perform (ne rfl)
  | refresh => exact alike_of_people (people_refresh rfl) id
  | advance times => exact alike_of_people (people_advance rfl times) id
  | economy op => exact ⟨rfl, ⟨rfl, rfl⟩, rfl⟩
  | deploy party => exact alike_of_people (people_deploy rfl party) id
  | follow rolls cleanseFirst => exact ⟨rfl, ⟨rfl, rfl⟩, rfl⟩

end Others

/-! ## Runs -/

theorem Operation.unranked_of_named {op : Operation α} (named : op.named? = some id)
    (w : World α) : (op.perform w).Unranked := by
  have roster (operation : Roster α → Answer α (Npc α × Roster α)) :
      ((w.onRoster operation).map Reply.npc).Unranked :=
    ((Outcome.Unranked.ofAnswer _ _).within _).map _
  cases op with
  | register other => exact roster _
  | enlist other role => exact roster _
  | addEfficiency other delta => exact roster _
  | addMorale other delta => exact roster _
  | assign other task => exact roster _
  | setTrauma other trauma => exact (unranked_setTrauma other trauma w).map _
  | assess other => exact (unranked_assess other w).map _
  | act deed => exact (unranked_perform deed w).map _
  | refresh => cases named
  | advance times => cases named
  | economy op => cases named
  | deploy party => cases named
  | follow rolls cleanseFirst => cases named

section Observed

variable {o o' : Observed (World α) α} {op : Operation α}

theorem alike_run_of_named (named : op.named? = some id) (h : Alike id o.subject o'.subject) :
    (o.run op.perform).1 = (o'.run op.perform).1 ∧
      Alike id (o.run op.perform).2.subject (o'.run op.perform).2.subject := by
  obtain ⟨answer, state⟩ := Observed.run_unranked (op.unranked_of_named named o.subject)
  obtain ⟨answer', state'⟩ := Observed.run_unranked (op.unranked_of_named named o'.subject)
  have alike := op.perform_alike named h
  rw [answer, state, answer', state']
  exact ⟨alike.answer, alike.state⟩

theorem alike_run_of_unnamed (unnamed : op.named? ≠ some id) (o : Observed (World α) α) :
    Alike id (o.run op.perform).2.subject o.subject :=
  Observed.subject_run_induction (P := fun w => Alike id w o.subject) (.refl id o.subject)
    (op.alike_perform unnamed o.subject)

end Observed

/-- The record of an NPC and its trauma, if it has them. -/
def file (id : String) (w : World α) : Option (Npc α) × Option α :=
  (w.roster.find? id, w.trauma.get? id)

omit [Scalar α] in
theorem Alike.file (h : Alike id w w') : w.file id = w'.file id :=
  Prod.ext h.roster.record h.trauma

/-- What the operations that name an NPC answer in a run, and the file that each leaves. -/
def experience (id : String) :
    List (Operation α) → Observed (World α) α →
      List (Answer α (Reply α) × Option (Npc α) × Option α)
  | [], _ => []
  | op :: ops, o =>
      let next := (o.run op.perform).2
      if op.named? = some id then
        ((o.run op.perform).1, next.subject.file id) :: experience id ops next
      else experience id ops next

def ownOf (id : String) (ops : List (Operation α)) : List (Operation α) :=
  ops.filter (·.named? = some id)

theorem alike_after_own {o o' : Observed (World α) α} (h : Alike id o.subject o'.subject)
    (ops : List (Operation α)) :
    Alike id (o.after Operation.perform ops).subject
        (o'.after Operation.perform (ownOf id ops)).subject ∧
      experience id ops o =
        (o'.transcript Operation.perform (ownOf id ops)).map fun e => (e.1, e.2.file id) := by
  induction ops generalizing o o' with
  | nil => exact ⟨h, rfl⟩
  | cons op ops ih =>
      by_cases named : op.named? = some id
      · obtain ⟨answer, alike⟩ := alike_run_of_named named h
        obtain ⟨left, rest⟩ := ih alike
        have own : ownOf id (op :: ops) = op :: ownOf id ops := by simp [ownOf, named]
        rw [own, experience, if_pos named, rest, Observed.transcript, List.map_cons, answer,
          alike.file]
        exact ⟨left, rfl⟩
      · obtain ⟨left, rest⟩ := ih ((alike_run_of_unnamed named o).trans h)
        have own : ownOf id (op :: ops) = ownOf id ops := by simp [ownOf, named]
        rw [own, experience, if_neg named]
        exact ⟨left, rest⟩

/-- Two operations in either order: the same for everybody, and the same answers. -/
structure Commute (p q : Operation α) (o : Observed (World α) α) : Prop where
  files : ∀ id, (o.after Operation.perform [p, q]).subject.file id =
    (o.after Operation.perform [q, p]).subject.file id
  first : (o.run p.perform).1 = ((o.run q.perform).2.run p.perform).1
  second : (o.run q.perform).1 = ((o.run p.perform).2.run q.perform).1

theorem commute_of_named {p q : Operation α} {other : String} (named : p.named? = some id)
    (named' : q.named? = some other) (ne : id ≠ other) (o : Observed (World α) α) :
    Commute p q o := by
  have unnamed : p.named? ≠ some other := by simpa [named] using ne
  have unnamed' : q.named? ≠ some id := by simpa [named'] using ne.symm
  have before := alike_run_of_unnamed unnamed' o
  have before' := alike_run_of_unnamed unnamed o
  refine ⟨fun someone => ?_, (alike_run_of_named named before).1.symm,
    (alike_run_of_named named' before').1.symm⟩
  have pq : (o.after Operation.perform [p, q]) = ((o.run p.perform).2.run q.perform).2 := rfl
  have qp : (o.after Operation.perform [q, p]) = ((o.run q.perform).2.run p.perform).2 := rfl
  rw [pq, qp]
  by_cases isFirst : someone = id
  · subst isFirst
    have last := alike_run_of_unnamed unnamed' (o.run p.perform).2
    exact (last.trans (alike_run_of_named named before).2.symm).file
  · by_cases isSecond : someone = other
    · subst isSecond
      have last := alike_run_of_unnamed unnamed (o.run q.perform).2
      exact ((alike_run_of_named named' before').2.trans last.symm).file
    · have stranger : p.named? ≠ some someone := by simpa [named] using Ne.symm isFirst
      have stranger' : q.named? ≠ some someone := by simpa [named'] using Ne.symm isSecond
      have left := (alike_run_of_unnamed stranger' (o.run p.perform).2).trans
        (alike_run_of_unnamed stranger o)
      have right := (alike_run_of_unnamed stranger (o.run q.perform).2).trans
        (alike_run_of_unnamed stranger' o)
      exact (left.trans right.symm).file

/-- From whatever state, a new world among them: an NPC comes out of a run as it would if only the
operations that name it had been run, which answer the same.  Operations on two NPCs may be
exchanged. -/
theorem isolated (o : Observed (World α) α) (ops : List (Operation α)) (id : String) :
    (o.after Operation.perform ops).subject.file id =
        (o.after Operation.perform (ownOf id ops)).subject.file id ∧
      experience id ops o =
        ((o.transcript Operation.perform (ownOf id ops)).map fun e => (e.1, e.2.file id)) ∧
      ∀ (p q : Operation α) (other : String),
        p.named? = some id → q.named? = some other → id ≠ other →
          Commute p q (o.after Operation.perform ops) := by
  obtain ⟨left, answers⟩ := alike_after_own (.refl id o.subject) ops
  exact ⟨left.file, answers, fun p q other named named' ne => commute_of_named named named' ne _⟩

/-- Others join, are hurt and are counted between two operations on the same NPC. -/
theorem isolated_among_others :
    let beaten (id : String) : Operation Amount :=
      .act { npcId := id, actionId := "beaten", action := ⟨.punishment, 1⟩ }
    let ops := [.register "b", beaten "a", .refresh, .setTrauma "b" 1, .advance (.int 2),
      .assess "a", .addMorale "nobody" 1]
    let p : Operation Amount := .addMorale "a" 0.25
    (p.named? = some "a" ∧ (beaten "b").named? = some "b" ∧ "a" ≠ "b") ∧
    ownOf "a" ops = [beaten "a", .assess "a"] ∧
    ∃ start, World.start (.standard : Settings Amount) = .ok start ∧
      (start.after Operation.perform ops).subject.file "a" =
        (start.after Operation.perform [beaten "a", .assess "a"]).subject.file "a" ∧
      experience "a" ops start =
        ((start.transcript Operation.perform [beaten "a", .assess "a"]).map fun e =>
          (e.1, e.2.file "a")) ∧
      Commute p (beaten "b") (start.after Operation.perform ops) := by
  intro beaten ops p
  have ne : "a" ≠ "b" := by decide
  have own : ownOf "a" ops = [beaten "a", .assess "a"] := rfl
  have starts : ((World.start (.standard : Settings Amount)).toOption.map fun _ => true) =
      some true := by
    decide +kernel
  obtain ⟨start, started, -⟩ := Answer.toOption_map_eq_some.mp starts
  obtain ⟨file, answers, commute⟩ := isolated start ops "a"
  rw [own] at file answers
  exact ⟨⟨rfl, rfl, ne⟩, own, start, started, file, answers,
    commute p (beaten "b") "b" rfl rfl ne⟩

end World

end Colony
